import TikkaRaffle.Instance.Admin
import TikkaRaffle.Instance.Draw
import TikkaRaffle.Instance.Init

/-! The entry points as one machine. A run starts from an accepted `init` and
takes calls in any order, from any callers, at any times; token transfers made
outside the contract are calls of the same machine. -/
namespace TikkaRaffle.Instance

open TikkaRaffle.Lib

inductive Call where
  | depositPrize
  | buyTickets (buyer : Address) (quantity : Nat)
  | buyTicketsFor (buyer recipient : Address) (quantity : Nat)
  | submitCommit (ticketId : Nat) (hash : Digest)
  | finalizeRaffle
  | provideRandomness (randomSeed : Nat) (publicKey : Digest) (proof : Signature)
      (requestId : Nat)
  | provideQuorumRandomness (oracle : Address) (randomSeed requestId : Nat)
  | triggerRandomnessFallback (caller : Address) (doRefund : Bool)
  | claimPrize (winner : Address) (tierIndex : Nat)
  | sweepUnclaimed (startIndex limit : Nat)
  | withdrawFees (recipient : Address) (amount : Int)
  | cancelRaffle (reason : CancelReason)
  | executeAdminCancel
  | refundPrize
  | emergencyWithdraw (caller : Address)
  | refundTicket (caller : Address) (ticketId : Nat)
  | batchRefundTickets (caller : Address) (ticketIds : List Nat)
  | batchRefundTicketsOwned (owner : Address) (ticketIds : List Nat)
  | wipeStorage
  | pause
  | unpause
  | pauseTicketSales (caller : Address)
  | resumeTicketSales (caller : Address)
  | rescueTokens (token recipient : Address) (amount : Int)
  | sweepDust
  | updateOracleAddress (newOracle : Address)
  | setProtocolFeeBp (newFeeBp : Nat)
  | setSwapDeadline (newDeadlineSeconds : Nat)
  | updateMetadataHash (newHash : Digest)
  | extendTtl (startTicketId limit : Nat)
  /-- Not an entry point: the holder moves tokens on the token contract. -/
  | tokenTransfer (token source target : Address) (amount : Int)
deriving DecidableEq

structure Invocation where
  ctx : Ctx
  call : Call
deriving DecidableEq

/-- The entries a refresh touched are returned; nothing is written. -/
def extendTtl (w : World) (startTicketId limit : Nat) : Result (World × Nat) := do
  let _ ← readRaffle w
  return (w, (extendTicketTtls w startTicketId limit).length)

def tokenTransfer (h : Host) (c : Ctx) (w : World) (token source target : Address)
    (amount : Int) : Result World := do
  requireAuth h c source
  transfer w .outside token source target amount

/-- The world a call leaves behind; returned values are dropped. -/
def invoke (h : Host) (i : Invocation) (w : World) : Result World :=
  match i.call with
  | .depositPrize => depositPrize h i.ctx w
  | .buyTickets buyer quantity => Prod.fst <$> buyTickets h i.ctx w buyer quantity
  | .buyTicketsFor buyer recipient quantity =>
      Prod.fst <$> buyTicketsFor h i.ctx w buyer recipient quantity
  | .submitCommit ticketId hash => submitCommit h i.ctx w ticketId hash
  | .finalizeRaffle => finalizeRaffle h i.ctx w
  | .provideRandomness randomSeed publicKey proof requestId =>
      provideRandomness h i.ctx w randomSeed publicKey proof requestId
  | .provideQuorumRandomness oracle randomSeed requestId =>
      provideQuorumRandomness h i.ctx w oracle randomSeed requestId
  | .triggerRandomnessFallback caller doRefund =>
      triggerRandomnessFallback h i.ctx w caller doRefund
  | .claimPrize winner tierIndex => Prod.fst <$> claimPrize h i.ctx w winner tierIndex
  | .sweepUnclaimed startIndex limit => Prod.fst <$> sweepUnclaimed h i.ctx w startIndex limit
  | .withdrawFees recipient amount => withdrawFees h i.ctx w recipient amount
  | .cancelRaffle reason => cancelRaffle h i.ctx w reason
  | .executeAdminCancel => executeAdminCancel i.ctx w
  | .refundPrize => refundPrize h i.ctx w
  | .emergencyWithdraw caller => emergencyWithdraw h i.ctx w caller
  | .refundTicket caller ticketId => Prod.fst <$> refundTicket h i.ctx w caller ticketId
  | .batchRefundTickets caller ticketIds =>
      Prod.fst <$> batchRefundTickets h i.ctx w caller ticketIds
  | .batchRefundTicketsOwned owner ticketIds =>
      Prod.fst <$> batchRefundTicketsOwned h i.ctx w owner ticketIds
  | .wipeStorage => wipeStorage h i.ctx w
  | .pause => pause h i.ctx w
  | .unpause => unpause h i.ctx w
  | .pauseTicketSales caller => pauseTicketSales h i.ctx w caller
  | .resumeTicketSales caller => resumeTicketSales h i.ctx w caller
  | .rescueTokens token recipient amount => rescueTokens h i.ctx w token recipient amount
  | .sweepDust => sweepDust h i.ctx w
  | .updateOracleAddress newOracle => updateOracleAddress h i.ctx w newOracle
  | .setProtocolFeeBp newFeeBp => setProtocolFeeBp h i.ctx w newFeeBp
  | .setSwapDeadline newDeadlineSeconds => setSwapDeadline h i.ctx w newDeadlineSeconds
  | .updateMetadataHash newHash => updateMetadataHash h i.ctx w newHash
  | .extendTtl startTicketId limit => Prod.fst <$> extendTtl w startTicketId limit
  | .tokenTransfer token source target amount =>
      tokenTransfer h i.ctx w token source target amount

def machine (h : Host) : Machine World Invocation Abort := ⟨invoke h⟩

/-- The state an accepted `init` leaves on a fresh contract. -/
def Initialised (h : Host) (w : World) : Prop :=
  ∃ c holdings factory admin creator config,
    init h c (World.deployed holdings) factory admin creator config = .ok w

namespace Sample

def self : Address := ⟨0⟩
def token : Address := ⟨1⟩
def factory : Address := ⟨2⟩
def admin : Address := ⟨3⟩
def creator : Address := ⟨4⟩
def treasury : Address := ⟨5⟩
def buyer : Address := ⟨6⟩

def host (reading : TierReading) : Host where
  self := self
  tierReading := reading
  tokenValid := fun a => a = token
  sha256 := fun _ => Vector.replicate 32 1
  toXdr := fun _ => []
  ed25519Verify := fun _ _ _ => false

def ctx (timestamp sequence : Nat) (auths : List Address) : Ctx where
  timestamp := timestamp
  sequence := sequence
  auths := auths
  factory := ⟨some false, true, true, true⟩

def config : RaffleConfig where
  description := []
  endTime := 1000
  noDeadline := false
  maxTickets := 3
  maxTicketsPerTx := 3
  maxTicketsPerAddress := 0
  minTickets := 1
  allowMultiple := true
  ticketPrice := 10000
  paymentToken := token
  prizeAmount := 20000
  prizes := [10000]
  randomnessSource := .internal
  oracleAddress := none
  protocolFeeBp := 0
  treasuryAddress := some treasury
  swapRouter := none
  tikkaToken := none
  metadataHash := Vector.replicate 32 1
  claimLockupSeconds := none
  claimExpirySeconds := none
  swapDeadlineSeconds := none
  earlyBirdTicketPercentage := 0
  earlyBirdDiscountBp := 0
  category := none
  uniqueWinners := false
  bundles := []
  prizeToken := none
  nftContract := none

def holdings (_token holder : Address) : Nat := if holder = self then 0 else 1000000

def start (reading : TierReading) (config : RaffleConfig) : World :=
  match init (host reading) (ctx 0 0 []) (World.deployed holdings) factory admin creator config with
  | .ok w => w
  | .error _ => World.deployed holdings

def after (reading : TierReading) (config : RaffleConfig) (calls : List Invocation) : World :=
  (machine (host reading)).run (start reading config) calls

def signed (auths : List Address) (timestamp sequence : Nat) (call : Call) : Invocation :=
  ⟨ctx timestamp sequence auths, call⟩

def awaitingRun : List Invocation :=
  [signed [creator] 1 1 .depositPrize,
    signed [buyer] 2 2 (.buyTickets buyer 1),
    signed [creator] 1000 3 .finalizeRaffle]

theorem start_initialised {reading : TierReading} {config : RaffleConfig}
    (hok : (init (host reading) (ctx 0 0 []) (World.deployed holdings) factory admin creator
      config).isOk = true) : Initialised (host reading) (start reading config) := by
  refine ⟨ctx 0 0 [], holdings, factory, admin, creator, config, ?_⟩
  unfold start
  split
  next w hw => exact hw
  next e he =>
    rw [he] at hok
    cases hok

end Sample

end TikkaRaffle.Instance
