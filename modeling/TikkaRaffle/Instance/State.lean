import TikkaRaffle.Lib.Transactional
import TikkaRaffle.Shared.Types
import Mathlib.Algebra.Group.Int.Defs
import Mathlib.Algebra.Group.Nat.Defs
import Mathlib.Tactic.Simps.Basic

/-! The storage of a raffle instance, the ledger around it, and the host
functions its entry points call. An entry point is a function from the world
to a result; writes are threaded explicitly, so a failing call keeps none. -/
namespace TikkaRaffle.Instance

open TikkaRaffle.Lib

inductive Error where
  | raffleInactive | ticketsSoldOut | insufficientFunds | notAuthorized
  | oracleNotSet | randomnessAlreadyRequested | noRandomnessRequest | fallbackTooEarly
  | prizeNotDeposited | prizeAlreadyClaimed | prizeAlreadyDeposited | notWinner | claimTooEarly
  | invalidParameters | invalidQuantity | invalidStatus | contractPaused
  | invalidStateTransition | raffleExpired | multipleTicketsNotAllowed | noTicketsSold
  | ticketNotFound | arithmeticOverflow | alreadyInitialized | notInitialized | reentrancy
  | tokenTransferFailed | noActiveTickets | deadlinePassed | slippageExceeded | invalidIndex
  | morePrizesThanTickets | zeroPrize | invalidTokenAddress | tooManyPrizes | emergencyTooEarly
  | invalidTicketRange | insufficientAccumulatedFees | exceedsMaxTicketsPerTx
  | drawingAlreadyInProgress | drawingAlreadyComplete | invalidEndTime | invalidAdminAddress
  | randomnessTooEarly | cancelTimelockActive | cancelNotScheduled
  | exceedsMaxTicketsPerAddress | oracleNotRegistered | duplicateOracleSubmission
  | commitAlreadySubmitted
  -- returned by the code although the error enumeration does not list them
  | randomnessSourceTooWeakForPrize | drawingNotStarted
deriving DecidableEq, Repr

/-- How a call ends without committing: a returned error, or a host trap
(missing authorisation, failed inner call, checked-arithmetic overflow). -/
inductive Abort where
  | err (e : Error)
  | trap
deriving DecidableEq, Repr

abbrev Result := Except Abort

structure Winner where
  address : Address
  claimed : Bool
deriving DecidableEq, Repr

structure Raffle where
  creator : Address
  description : Bytes
  endTime : Nat
  noDeadline : Bool
  maxTickets : Nat
  maxTicketsPerTx : Nat
  maxTicketsPerAddress : Nat
  minTickets : Nat
  allowMultiple : Bool
  ticketPrice : Int
  paymentToken : Address
  prizeToken : Address
  prizeAmount : Int
  prizes : List Nat
  ticketsSold : Nat
  status : RaffleStatus
  prizeDeposited : Bool
  winners : List Winner
  randomnessSource : RandomnessSource
  oracleAddress : Option Address
  protocolFeeBp : Nat
  treasuryAddress : Option Address
  swapRouter : Option Address
  tikkaToken : Option Address
  finalizedAt : Option Nat
  claimLockupSeconds : Nat
  claimExpirySeconds : Nat
  swapDeadlineSeconds : Nat
  ticketSalesPaused : Bool
  earlyBirdTicketPercentage : Nat
  earlyBirdDiscountBp : Nat
  metadataHash : Digest
  uniqueWinners : Bool
  bundles : List TicketBundle
  nftContract : Option Address

@[simps] def Raffle.setStatus (raffle : Raffle) (status : RaffleStatus) : Raffle :=
  { raffle with status := status }

@[simps] def Raffle.setPrizeDeposited (raffle : Raffle) (deposited : Bool) : Raffle :=
  { raffle with prizeDeposited := deposited }

@[simps] def Raffle.setTicketsSold (raffle : Raffle) (sold : Nat) : Raffle :=
  { raffle with ticketsSold := sold }

structure FairnessMetadata where
  seed : Nat
  randomnessSource : RandomnessSource
  winningTicketIndices : List Nat
  drawTimestamp : Nat
  drawSequence : Nat
  uniqueWinners : Bool
  quorumContributions : Option (List (Address × Nat))
deriving DecidableEq

structure CommitRevealEntry where
  committer : Address
  hash : Digest
deriving DecidableEq

inductive Event where
  | raffleCreated (raffleId creator : Address) (endTime maxTickets : Nat) (ticketPrice : Int)
      (paymentToken : Address) (prizeAmount : Int) (prizes : List Nat) (description : Bytes)
      (randomnessSource : RandomnessSource) (metadataHash : Digest) (uniqueWinners : Bool)
      (claimExpirySeconds : Nat)
  | prizeDeposited (creator : Address) (amount : Int) (token : Address) (timestamp : Nat)
  | prizeRefunded (creator : Address) (amount : Int) (token : Address) (timestamp : Nat)
  | ticketPurchased (buyer : Address) (ticketIds : List Nat) (quantity : Nat)
      (ticketPrice effectiveTicketPrice totalPaid protocolFee : Int) (timestamp : Nat)
  | drawTriggered (caller : Address) (totalTicketsSold timestamp : Nat)
  | randomnessRequested (oracle : Address) (requestId timestamp : Nat)
  | randomnessReceived (oracle : Address) (seed requestId timestamp : Nat)
  | oracleSeedDelivered (oracle : Address) (seed requestId currentCount threshold timestamp : Nat)
  | raffleFinalized (raffleId : Address) (winners : List Address) (winningTicketIds : List Nat)
      (totalTicketsSold : Nat) (randomnessSource : RandomnessSource)
      (randomnessType : RandomnessType) (finalizedAt : Nat) (uniqueWinners : Bool)
  | winnerDrawn (winner : Address) (ticketId tierIndex timestamp : Nat)
  | raffleCancelled (creator : Address) (reason : CancelReason) (ticketsSold : Nat)
      (prizeRefunded : Bool) (timestamp : Nat)
  | cancelScheduled (creator scheduledBy : Address) (ticketsSold cancelAt timestamp : Nat)
  | raffleFailed (creator : Address) (reason : FailureReason) (ticketsSold timestamp : Nat)
  | ticketRefunded (buyer : Address) (ticketNumber : Nat) (amount : Int) (timestamp : Nat)
  -- the fields the first batch refund publishes under the same name
  | ticketRefundedTo (payer owner : Address) (ticketNumber : Nat) (amount : Int)
      (timestamp : Nat)
  | prizeClaimed (winner : Address) (tierIndex : Nat) (paymentToken : Address)
      (grossAmount netAmount platformFee : Int) (claimedAt : Nat)
  | prizeSwept (winner : Address) (tierIndex : Nat) (treasury : Address) (amount : Int)
      (sweptAt : Nat)
  | feesWithdrawn (recipient : Address) (amount : Int) (token : Address) (timestamp : Nat)
  | randomnessFallbackTriggered (triggeredBy : Address)
      (seedUsed requestLedger fallbackLedger timestamp : Nat)
  | raffleStatusChanged (oldStatus newStatus : RaffleStatus) (timestamp : Nat)
  | ticketSalesPaused (pausedBy : Address) (timestamp : Nat)
  | ticketSalesResumed (resumedBy : Address) (timestamp : Nat)
  | tokensRescued (rescuedBy token recipient : Address) (amount : Int) (timestamp : Nat)
  | dustSwept (sweptBy token treasury : Address) (amount : Int) (timestamp : Nat)
  | storageWiped (wipedBy : Address) (timestamp : Nat)
  | oracleAddressUpdated (oldOracle : Option Address) (newOracle updatedBy : Address)
      (timestamp : Nat)
  | protocolFeeUpdated (oldFeeBp newFeeBp : Nat) (updatedBy : Address) (timestamp : Nat)
  | swapDeadlineUpdated (oldDeadlineSeconds newDeadlineSeconds : Nat) (updatedBy : Address)
      (timestamp : Nat)
  | metadataHashUpdated (oldHash newHash : Digest) (updatedBy : Address) (timestamp : Nat)
  | emergencyWithdrawn (withdrawnBy recipient : Address) (amount : Int) (token : Address)
      (timestamp : Nat)
  | contractPaused (pausedBy : Address) (timestamp : Nat)
  | contractUnpaused (unpausedBy : Address) (timestamp : Nat)
deriving DecidableEq

/-- The call site of a token transfer. Labels never influence the code; they
let statements about a run say which transfers they sum. -/
inductive Purpose where
  | prizeDeposit
  | ticketPayment
  | ticketFee
  | prizePayout (tier : Nat)
  | claimFee (tier : Nat)
  | prizeSweep (tier : Nat)
  | prizeRefund
  | ticketRefund (ticketId : Nat)
  | feeWithdrawal
  | rescue
  | dust
  | emergencyWithdrawal
  | outside
deriving DecidableEq, Repr

structure Transfer where
  purpose : Purpose
  token : Address
  source : Address
  target : Address
  amount : Int
deriving DecidableEq, Repr

inductive FactoryCall where
  | recordVolume (asset : Address) (amount : Int)
  | trackParticipant (participant : Address)
  | recordLeaderboardEntry (raffle : Address) (ticketsSold prizeAmount totalVolume : Int)
deriving DecidableEq, Repr

/-- One field per storage key, `none` while the key is absent. The last four
fields are outside the contract: the token ledger and three append-only logs. -/
structure World where
  raffle : Option Raffle
  factory : Option Address
  admin : Option Address
  paused : Option Bool
  reentrancyGuard : Option Bool
  randomnessRequested : Option Bool
  randomnessRequestLedger : Option Nat
  randomnessRequestId : Option Nat
  finishTime : Option Nat
  accumulatedFees : Option Int
  drawingLock : Option Bool
  pendingAdminCancel : Option Nat
  metadataHash : Option Digest
  lastBumpedIndex : Option Nat
  /-- The instance-tier slot of this key. The draw only writes the persistent
  one, `quorumSubmittedOracles`. -/
  instanceQuorumSubmittedOracles : Option (List Address)
  ticketCount : Address → Option Nat
  ticket : Nat → Option Ticket
  ticketRefunded : Nat → Option Bool
  randomnessSeed : Option FairnessMetadata
  commitEntry : Nat → Option CommitRevealEntry
  ticketBuyers : Option (List Address)
  ownerTickets : Address → Option (List Nat)
  quorumSeed : Address → Option Nat
  quorumSubmittedOracles : Option (List Address)
  balance : Address → Address → Int
  events : List Event
  transfers : List Transfer
  factoryCalls : List FactoryCall

/-- A deployed contract that has not been initialised, over any ledger of
token holdings. -/
def World.deployed (holdings : Address → Address → Nat) : World where
  raffle := none
  factory := none
  admin := none
  paused := none
  reentrancyGuard := none
  randomnessRequested := none
  randomnessRequestLedger := none
  randomnessRequestId := none
  finishTime := none
  accumulatedFees := none
  drawingLock := none
  pendingAdminCancel := none
  metadataHash := none
  lastBumpedIndex := none
  instanceQuorumSubmittedOracles := none
  ticketCount := fun _ => none
  ticket := fun _ => none
  ticketRefunded := fun _ => none
  randomnessSeed := none
  commitEntry := fun _ => none
  ticketBuyers := none
  ownerTickets := fun _ => none
  quorumSeed := fun _ => none
  quorumSubmittedOracles := none
  balance := fun token holder => holdings token holder
  events := []
  transfers := []
  factoryCalls := []

/-- The values the code serialises with `to_xdr`. -/
inductive ScVal where
  | u32 (value : Nat)
  | u64 (value : Nat)
  | i128 (value : Int)
  | address (value : Address)
  | bytes (value : Bytes)
  | string (value : Bytes)
  | randomnessSource (value : RandomnessSource)
  | vec (values : List ScVal)
  | tuple (values : List ScVal)

/-- `calculate_tier_prize` ends in an if/else followed by a further
expression; the two readings return the one or the other. -/
inductive TierReading where
  | ifElse
  | fallThrough
deriving DecidableEq, Repr

/-- What does not change between calls: the contract's own address, the
cryptographic host functions, which addresses answer as tokens, and the
reading of `calculate_tier_prize`. -/
structure Host where
  self : Address
  tierReading : TierReading
  tokenValid : Address → Bool
  sha256 : Bytes → Digest
  toXdr : ScVal → Bytes
  ed25519Verify : Digest → Bytes → Signature → Bool

/-- The factory's answers during one call. `none` and `false` stand for an
inner invocation that traps. -/
structure FactoryReplies where
  isGlobalPaused : Option Bool
  recordVolume : Bool
  trackParticipant : Bool
  recordLeaderboardEntry : Bool
deriving DecidableEq, Repr

structure Ctx where
  timestamp : Nat
  sequence : Nat
  auths : List Address
  factory : FactoryReplies
deriving DecidableEq, Repr

def ensure (condition : Prop) [Decidable condition] (e : Error) : Result Unit :=
  if condition then .ok () else .error (.err e)

def okOr {α : Type} (value : Option α) (e : Error) : Result α :=
  match value with
  | some a => .ok a
  | none => .error (.err e)

def orTrap {α : Type} (value : Option α) : Result α :=
  match value with
  | some a => .ok a
  | none => .error .trap

/-- An address authorises a call by signing it or by being its direct invoker.
The raffle itself can do neither: it has no account logic and the host forbids
re-entry. -/
def requireAuth (h : Host) (c : Ctx) (a : Address) : Result Unit :=
  if a ∈ c.auths ∧ a ≠ h.self then .ok () else .error .trap

def invokeFactory (answered : Bool) : Result Unit :=
  if answered then .ok () else .error .trap

def i128Min : Int := -(2 ^ 127)
def i128Max : Int := 2 ^ 127 - 1

def fitsI128 (value : Int) : Prop := i128Min ≤ value ∧ value ≤ i128Max

instance (value : Int) : Decidable (fitsI128 value) :=
  inferInstanceAs (Decidable (_ ∧ _))

/-- A checked operation followed by `ok_or(ArithmeticOverflow)`. -/
def checkedI128 (value : Int) : Result Int :=
  if fitsI128 value then .ok value else .error (.err .arithmeticOverflow)

/-- A plain operation in a build with overflow checks. -/
def trapI128 (value : Int) : Result Int :=
  if fitsI128 value then .ok value else .error .trap

def checkedU32 (value : Nat) : Result Nat :=
  if value < 2 ^ 32 then .ok value else .error (.err .arithmeticOverflow)

def trapU32 (value : Nat) : Result Nat :=
  if value < 2 ^ 32 then .ok value else .error .trap

def trapU64 (value : Nat) : Result Nat :=
  if value < 2 ^ 64 then .ok value else .error .trap

def seedOfDigest (digest : Digest) : Nat :=
  (digest.toList.take 8).foldl (fun acc byte => acc * 256 + byte.toNat) 0

def moveBalance (balance : Address → Address → Int) (token source target : Address)
    (amount : Int) : Address → Address → Int :=
  fun t holder =>
    if t = token then
      balance t holder - (if holder = source then amount else 0) +
        (if holder = target then amount else 0)
    else balance t holder

def applyTransfer (w : World) (purpose : Purpose) (token source target : Address)
    (amount : Int) : World :=
  { w with
    balance := moveBalance w.balance token source target amount
    transfers := w.transfers ++ [⟨purpose, token, source, target, amount⟩] }

/-- A standard fungible ledger refuses negative amounts and overdrafts. -/
def transferAllowed (w : World) (token source : Address) (amount : Int) : Prop :=
  0 ≤ amount ∧ amount ≤ w.balance token source

instance (w : World) (token source : Address) (amount : Int) :
    Decidable (transferAllowed w token source amount) :=
  inferInstanceAs (Decidable (_ ∧ _))

def tryTransfer (w : World) (purpose : Purpose) (token source target : Address)
    (amount : Int) : Result World :=
  if transferAllowed w token source amount then
    .ok (applyTransfer w purpose token source target amount)
  else .error (.err .tokenTransferFailed)

def transfer (w : World) (purpose : Purpose) (token source target : Address)
    (amount : Int) : Result World :=
  if transferAllowed w token source amount then
    .ok (applyTransfer w purpose token source target amount)
  else .error .trap

def emit (w : World) (e : Event) : World := { w with events := w.events ++ [e] }

def readRaffle (w : World) : Result Raffle := okOr w.raffle .notInitialized

def writeRaffle (w : World) (raffle : Raffle) : World := { w with raffle := some raffle }

section Success

variable {w w' : World} {h : Host} {c : Ctx}

@[simp] theorem ensure_ok {condition : Prop} [Decidable condition] {e : Error} {u : Unit} :
    ensure condition e = .ok u ↔ condition := by
  simp [ensure]

@[simp] theorem okOr_ok {α : Type} {value : Option α} {e : Error} {a : α} :
    okOr value e = .ok a ↔ value = some a := by
  cases value <;> simp [okOr]

@[simp] theorem orTrap_ok {α : Type} {value : Option α} {a : α} :
    orTrap value = .ok a ↔ value = some a := by
  cases value <;> simp [orTrap]

@[simp] theorem requireAuth_ok {a : Address} {u : Unit} :
    requireAuth h c a = .ok u ↔ a ∈ c.auths ∧ a ≠ h.self := by
  simp [requireAuth]

@[simp] theorem invokeFactory_ok {answered : Bool} {u : Unit} :
    invokeFactory answered = .ok u ↔ answered = true := by
  simp [invokeFactory]

@[simp] theorem checkedI128_ok {value result : Int} :
    checkedI128 value = .ok result ↔ fitsI128 value ∧ value = result :=
  except_ite_ok

@[simp] theorem trapI128_ok {value result : Int} :
    trapI128 value = .ok result ↔ fitsI128 value ∧ value = result :=
  except_ite_ok

@[simp] theorem checkedU32_ok {value result : Nat} :
    checkedU32 value = .ok result ↔ value < 2 ^ 32 ∧ value = result :=
  except_ite_ok

@[simp] theorem trapU32_ok {value result : Nat} :
    trapU32 value = .ok result ↔ value < 2 ^ 32 ∧ value = result :=
  except_ite_ok

@[simp] theorem trapU64_ok {value result : Nat} :
    trapU64 value = .ok result ↔ value < 2 ^ 64 ∧ value = result :=
  except_ite_ok

@[simp] theorem tryTransfer_ok {purpose : Purpose} {token source target : Address}
    {amount : Int} :
    tryTransfer w purpose token source target amount = .ok w' ↔
      transferAllowed w token source amount ∧
        applyTransfer w purpose token source target amount = w' :=
  except_ite_ok

@[simp] theorem transfer_ok {purpose : Purpose} {token source target : Address}
    {amount : Int} :
    transfer w purpose token source target amount = .ok w' ↔
      transferAllowed w token source amount ∧
        applyTransfer w purpose token source target amount = w' :=
  except_ite_ok

@[simp] theorem readRaffle_ok {raffle : Raffle} :
    readRaffle w = .ok raffle ↔ w.raffle = some raffle := by
  simp [readRaffle]

end Success

end TikkaRaffle.Instance
