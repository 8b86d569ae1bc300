import Mathlib.Data.Nat.Notation

/-! Data types and constants shared by the factory and the raffle instances.
Machine integers are naturals or integers; every place where their width
matters checks it explicitly. -/
namespace TikkaRaffle

structure Address where
  id : Nat
deriving DecidableEq, Repr

abbrev Bytes := List UInt8

abbrev Digest := Vector UInt8 32

abbrev Signature := Vector UInt8 64

inductive RaffleStatus where
  | pendingPrize
  | active
  | drawing
  | finalized
  | cancelled
  | failed
  | claimed
deriving DecidableEq, Repr

namespace RaffleStatus

def isTerminal : RaffleStatus → Bool
  | .cancelled | .failed | .claimed => true
  | _ => false

def allowedTargets : RaffleStatus → List RaffleStatus
  | .pendingPrize => [.active]
  | .active => [.drawing, .failed, .cancelled]
  | .drawing => [.finalized, .cancelled]
  | .finalized => [.claimed]
  | .cancelled | .failed | .claimed => []

def canTransitionTo (self target : RaffleStatus) : Bool :=
  if self = target then false else self.allowedTargets.contains target

section Sources

variable {s : RaffleStatus}

@[simp] theorem canTransitionTo_active : s.canTransitionTo .active = true ↔ s = .pendingPrize := by
  cases s <;> decide

@[simp] theorem canTransitionTo_drawing : s.canTransitionTo .drawing = true ↔ s = .active := by
  cases s <;> decide

@[simp] theorem canTransitionTo_failed : s.canTransitionTo .failed = true ↔ s = .active := by
  cases s <;> decide

@[simp] theorem canTransitionTo_cancelled :
    s.canTransitionTo .cancelled = true ↔ s = .active ∨ s = .drawing := by
  cases s <;> decide

@[simp] theorem canTransitionTo_finalized :
    s.canTransitionTo .finalized = true ↔ s = .drawing := by
  cases s <;> decide

@[simp] theorem canTransitionTo_claimed : s.canTransitionTo .claimed = true ↔ s = .finalized := by
  cases s <;> decide

theorem isTerminal_iff : s.isTerminal = true ↔ s = .cancelled ∨ s = .failed ∨ s = .claimed := by
  cases s <;> decide

theorem isTerminal_stuck {t : RaffleStatus} (hs : s.isTerminal = true) :
    s.canTransitionTo t = false := by
  cases s <;> cases t <;> first | rfl | cases hs

end Sources

/-- Rollbacks of a partly applied draw, outside the canonical graph. -/
def canInternalRevertTo (self target : RaffleStatus) : Bool :=
  self = .drawing && target = .active

end RaffleStatus

inductive CancelReason where
  | creatorCancelled
  | adminCancelled
  | oracleTimeout
  | minTicketsNotMet
deriving DecidableEq, Repr

inductive FailureReason where
  | zeroTicketsSold
  | minTicketsNotMet
deriving DecidableEq, Repr

structure QuorumConfig where
  k : Nat
  oracles : List Address
deriving DecidableEq, Repr

inductive RandomnessSource where
  | internal
  | external
  | commitReveal
  | quorum (config : QuorumConfig)
deriving DecidableEq, Repr

/-- `quorum` is used by the draw although the shared enumeration lists only
the first three labels. -/
inductive RandomnessType where
  | prng
  | vrf
  | fallback
  | quorum
deriving DecidableEq, Repr

structure FairnessData where
  seed : Nat
  randomnessSource : RandomnessSource
  ticketIds : List Nat
  winningTicketIndices : List Nat
  drawTimestamp : Nat
  drawSequence : Nat
  uniqueWinners : Bool
  quorumContributions : Option (List (Address × Nat))
deriving DecidableEq, Repr

structure TicketBundle where
  quantity : Nat
  pricePerTicket : Int
deriving DecidableEq, Repr

structure BuyQuote where
  gross : Int
  discount : Int
  fee : Int
  netToPay : Int
  effectiveTicketPrice : Int
deriving DecidableEq, Repr

structure RaffleStats where
  ticketsSold : Nat
  uniqueBuyers : Nat
  grossRevenue : Int
  feesAccrued : Int
  prizeFunded : Bool
  status : RaffleStatus
  timeRemaining : Nat
deriving DecidableEq, Repr

structure RaffleConfig where
  description : Bytes
  endTime : Nat
  noDeadline : Bool
  maxTickets : Nat
  maxTicketsPerTx : Nat
  maxTicketsPerAddress : Nat
  minTickets : Nat
  allowMultiple : Bool
  ticketPrice : Int
  paymentToken : Address
  prizeAmount : Int
  prizes : List Nat
  randomnessSource : RandomnessSource
  oracleAddress : Option Address
  protocolFeeBp : Nat
  treasuryAddress : Option Address
  swapRouter : Option Address
  tikkaToken : Option Address
  metadataHash : Digest
  claimLockupSeconds : Option Nat
  claimExpirySeconds : Option Nat
  swapDeadlineSeconds : Option Nat
  earlyBirdTicketPercentage : Nat
  earlyBirdDiscountBp : Nat
  category : Option Bytes
  uniqueWinners : Bool
  bundles : List TicketBundle
  prizeToken : Option Address
  nftContract : Option Address

/-- The template of a recurring raffle and its schedule; `maxRounds = 0` means
no limit. -/
structure RecurringRaffleConfig where
  baseConfig : RaffleConfig
  intervalSeconds : Nat
  maxRounds : Nat
  autoFund : Bool

inductive ConfigKey where
  | treasury
  | oracle
  | swapRouter
deriving DecidableEq, Repr

inductive AdminOp where
  | setConfig (key : ConfigKey) (address : Address)
  | setProtocolFeeBp (protocolFeeBp : Nat)
  | updateWasmHash (newHash : Digest)
  | approveOracle (oracle : Address)
  | removeOracle (oracle : Address)
deriving DecidableEq, Repr

structure Ticket where
  id : Nat
  owner : Address
  purchaseTime : Nat
  ticketNumber : Nat
  payer : Address
  pricePaid : Int
deriving DecidableEq, Repr

namespace Constants

def oracleTimeoutLedgers : Nat := 200
def randomnessMinDelayLedgers : Nat := 10
def maxDescriptionLength : Nat := 1000
def maxTicketsLimit : Nat := 100000
def maxPrizes : Nat := 100
def defaultPageLimit : Nat := 100
def maxPageLimit : Nat := 200
def maxCategoryLength : Nat := 32
def minTicketPrice : Int := 10000
def maxPrizeAmount : Int := 1000000000000000000000
def maxInternalRandomnessPrizeAmount : Int := 5000000000
def defaultClaimLockupSeconds : Nat := 3600
def maxClaimLockupSeconds : Nat := 604800
def minClaimExpirySeconds : Nat := 30 * 24 * 3600
def defaultClaimExpirySeconds : Nat := minClaimExpirySeconds
def maxSweepUnclaimedPerCall : Nat := 10
def defaultSwapDeadlineSeconds : Nat := 300
def maxSwapDeadlineSeconds : Nat := 3600
def emergencyWithdrawDelaySeconds : Nat := 90 * 24 * 3600
def timelockDelaySeconds : Nat := 172800
def maxProtocolFeeBp : Nat := 2000
def checkpointInterval : Nat := 1000
def minRecurringIntervalSeconds : Nat := 3600
def maxRecurringIntervalSeconds : Nat := 31536000

end Constants

/-- Defaults are filled in before the bounds on these fields are checked. -/
def RaffleConfig.resolveDefaults (config : RaffleConfig) : RaffleConfig :=
  { config with
    claimLockupSeconds := config.claimLockupSeconds.or (some Constants.defaultClaimLockupSeconds)
    swapDeadlineSeconds := config.swapDeadlineSeconds.or (some Constants.defaultSwapDeadlineSeconds)
    claimExpirySeconds := config.claimExpirySeconds.or (some Constants.defaultClaimExpirySeconds) }

def exceedsInternalRandomnessCap (source : RandomnessSource) (prizeAmount : Int) : Bool :=
  source = .internal && decide (Constants.maxInternalRandomnessPrizeAmount < prizeAmount)

end TikkaRaffle
