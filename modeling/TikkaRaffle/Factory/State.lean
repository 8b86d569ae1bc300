import TikkaRaffle.Instance.Entry
import TikkaRaffle.Shared.ConfigBuilder
import Mathlib.Logic.Function.Basic

/-! The storage of the factory, the raffles it has deployed, and the host
functions its entry points call. -/
namespace TikkaRaffle.Factory

open TikkaRaffle.Lib

inductive ContractError where
  | alreadyInitialized | notAuthorized | contractPaused | invalidParameters | raffleNotFound
  | adminTransferPending | noPendingTransfer | rateLimitExceeded | noPendingOp
  | timelockNotElapsed | invalidRaffleId | raffleNotEligible | arithmeticOverflow
  | treasuryNotSet | recurringNotFound | intervalNotElapsed | maxRoundsReached
  | recurringInactive | creationPaused | callerNotRegisteredRaffle
  | randomnessSourceTooWeakForPrize
deriving DecidableEq, Repr

/-- How a call ends without committing: an error of the factory, an abort of
the raffle that was called directly, or a host trap. A failed inner call traps
its caller. -/
inductive Abort where
  | err (e : ContractError)
  | raffle (abort : Instance.Abort)
  | trap
deriving DecidableEq, Repr

abbrev Result := Except Abort

structure PendingOp where
  op : AdminOp
  effectiveTimestamp : Nat
  proposedBy : Address
deriving DecidableEq, Repr

structure StateCheckpoint where
  index : Nat
  raffleCount : Nat
  ledgerTimestamp : Nat
  aggregateHash : Digest
deriving DecidableEq, Repr

structure RecurringRaffleEntry where
  creator : Address
  config : RecurringRaffleConfig
  nextDue : Nat
  currentRound : Nat
  active : Bool
  lastRaffleAddress : Option Address

structure CreatorProfile where
  name : Bytes
  verified : Bool
  rafflesCreated : Nat
deriving DecidableEq, Repr

inductive Event where
  | factoryInitialized (admin : Address) (protocolFeeBp : Nat) (treasury : Address)
      (timestamp : Nat)
  | adminOpProposed (opId : Nat) (op : AdminOp) (effectiveTimestamp : Nat) (proposedBy : Address)
  | adminOpExecuted (opId : Nat) (op : AdminOp) (executedBy : Address) (executedAt : Nat)
  | adminOpCancelled (opId : Nat) (cancelledBy : Address) (cancelledAt : Nat)
  | oracleApproved (oracle approvedBy : Address) (timestamp : Nat)
  | oracleRemoved (oracle removedBy : Address) (timestamp : Nat)
  | contractPaused (pausedBy : Address) (timestamp : Nat)
  | contractUnpaused (unpausedBy : Address) (timestamp : Nat)
  | creationPaused (pausedBy : Address) (timestamp : Nat)
  | creationUnpaused (unpausedBy : Address) (timestamp : Nat)
  | globalEmergencyPaused (pausedBy : Address) (reason : Bytes) (timestamp : Nat)
  | globalEmergencyUnpaused (unpausedBy : Address) (timestamp : Nat)
  | adminTransferProposed (currentAdmin proposedAdmin : Address) (timestamp : Nat)
  | adminTransferAccepted (oldAdmin newAdmin : Address) (timestamp : Nat)
  | checkpointCreated (index raffleCount ledgerTimestamp : Nat) (aggregateHash : Digest)
  | raffleCleanedUp (raffleAddress cleanedBy : Address) (finishTime cleanedAt : Nat)
  | factoryTokensRescued (rescuedBy token recipient : Address) (amount : Int) (timestamp : Nat)
  | factoryUpgraded (admin : Address) (newWasmHash : Digest) (timestamp : Nat)
  | recurringRaffleCreated (recurringId : Nat) (creator : Address)
      (intervalSeconds maxRounds : Nat) (autoFund : Bool) (nextDue timestamp : Nat)
  | recurringRoundTriggered (recurringId round : Nat) (raffleAddress : Address)
      (nextDue timestamp : Nat)
  | recurringRaffleCancelled (recurringId : Nat) (cancelledBy : Address)
      (roundsCompleted timestamp : Nat)
  | profileNameSet (creator : Address) (name : Bytes) (timestamp : Nat)
  | verifiedStatusSet (creator : Address) (verified : Bool) (setBy : Address) (timestamp : Nat)
deriving DecidableEq

/-- One field per storage key, `none` while the key is absent, and the log of
events. The keys from `isFactoryRaffle` on are used by the code although its
key enumeration does not list them. -/
structure State where
  initialized : Option Bool
  admin : Option Address
  raffleById : Nat → Option Address
  nextRaffleId : Option Nat
  raffleCount : Option Nat
  instanceWasmHash : Option Digest
  protocolFeeBp : Option Nat
  treasury : Option Address
  /-- Instance tier, as is `creationPaused`; every other key is persistent. -/
  paused : Option Bool
  pendingAdmin : Option Address
  pendingOp : Nat → Option PendingOp
  opCounter : Option Nat
  checkpoint : Nat → Option StateCheckpoint
  latestCheckpointIndex : Option Nat
  totalRafflesCreated : Option Nat
  uniqueParticipant : Address → Option Bool
  totalUniqueParticipants : Option Nat
  minCreationDelay : Option Nat
  lastCreationTime : Address → Option Nat
  totalVolumePerAsset : Address → Option Int
  creatorRaffles : Address → Option (List Address)
  categoryRaffles : Bytes → Option (List Address)
  recurringRaffle : Nat → Option RecurringRaffleEntry
  nextRecurringId : Option Nat
  recurringRaffleInstances : Nat → Option (List Address)
  creationPaused : Option Bool
  validRaffle : Address → Option Bool
  isFactoryRaffle : Address → Option Bool
  globalEmergencyPause : Option Bool
  whitelistedPartner : Address → Option Bool
  partnersList : Option (List Address)
  approvedOracle : Address → Option Bool
  topByTickets : Option (List (Address × Int))
  topByPrize : Option (List (Address × Int))
  topByVolume : Option (List (Address × Int))
  raffleCreator : Nat → Option Address
  raffleCategory : Nat → Option Bytes
  creatorProfile : Address → Option CreatorProfile
  events : List Event

/-- A factory that has not been initialised. The two maps that the cleanup
reads and no entry point writes may hold anything. -/
def State.deployed (raffleCreator : Nat → Option Address) (raffleCategory : Nat → Option Bytes) :
    State where
  initialized := none
  admin := none
  raffleById := fun _ => none
  nextRaffleId := none
  raffleCount := none
  instanceWasmHash := none
  protocolFeeBp := none
  treasury := none
  paused := none
  pendingAdmin := none
  pendingOp := fun _ => none
  opCounter := none
  checkpoint := fun _ => none
  latestCheckpointIndex := none
  totalRafflesCreated := none
  uniqueParticipant := fun _ => none
  totalUniqueParticipants := none
  minCreationDelay := none
  lastCreationTime := fun _ => none
  totalVolumePerAsset := fun _ => none
  creatorRaffles := fun _ => none
  categoryRaffles := fun _ => none
  recurringRaffle := fun _ => none
  nextRecurringId := none
  recurringRaffleInstances := fun _ => none
  creationPaused := none
  validRaffle := fun _ => none
  isFactoryRaffle := fun _ => none
  globalEmergencyPause := none
  whitelistedPartner := fun _ => none
  partnersList := none
  approvedOracle := fun _ => none
  topByTickets := none
  topByPrize := none
  topByVolume := none
  raffleCreator := raffleCreator
  raffleCategory := raffleCategory
  creatorProfile := fun _ => none
  events := []

/-- The factory, the raffles at the addresses it has deployed to, and the
token ledger they share. The `balance` field of a stored raffle is replaced by
the shared ledger whenever the raffle runs. -/
structure Net where
  factory : State
  raffle : Address → Option Instance.World
  balance : Address → Address → Int

/-- What does not change between calls. `deployedAddress` derives the address
of a contract from its deployer and a salt. -/
structure Host where
  self : Address
  deployedAddress : Address → Digest → Address
  tierReading : Instance.TierReading
  tokenValid : Address → Bool
  sha256 : Bytes → Digest
  toXdr : Instance.ScVal → Bytes
  ed25519Verify : Digest → Bytes → Signature → Bool

def Host.at (h : Host) (raffle : Address) : Instance.Host where
  self := raffle
  tierReading := h.tierReading
  tokenValid := h.tokenValid
  sha256 := h.sha256
  toXdr := h.toXdr
  ed25519Verify := h.ed25519Verify

/-- The calls the factory makes on another contract. -/
inductive Forwarded where
  | pause
  | unpause
  | wipeStorage
  | setAdmin (admin : Address)
deriving DecidableEq, Repr

/-- The ledger header of one transaction, who signed it, which addresses exist on
the ledger, and which calls of the factory an outside contract there accepts. -/
structure Ctx where
  timestamp : Nat
  sequence : Nat
  auths : List Address
  existing : Address → Bool
  accepts : Address → Forwarded → Bool

def ensure (condition : Prop) [Decidable condition] (e : ContractError) : Result Unit :=
  check condition (.err e)

def okOr {α : Type} (value : Option α) (e : ContractError) : Result α := found value (.err e)

/-- The factory itself can neither sign nor be its own invoker. -/
def requireAuth (h : Host) (c : Ctx) (a : Address) : Result Unit :=
  check (a ∈ c.auths ∧ a ≠ h.self) .trap

/-- A plain `u32` addition in a build with overflow checks. -/
def trapU32 (value : Nat) : Result Nat := do
  check (value < 2 ^ 32) .trap
  return value

def trapU64 (value : Nat) : Result Nat := do
  check (value < 2 ^ 64) .trap
  return value

def saturateU32 (value : Nat) : Nat := min value (2 ^ 32 - 1)

def saturateU64 (value : Nat) : Nat := min value (2 ^ 64 - 1)

def emit (s : State) (e : Event) : State := { s with events := s.events ++ [e] }

section Success

variable {h : Host} {c : Ctx}

@[simp] theorem ensure_ok {condition : Prop} [Decidable condition] {e : ContractError} {u : Unit} :
    ensure condition e = .ok u ↔ condition :=
  check_ok

@[simp] theorem okOr_ok {α : Type} {value : Option α} {e : ContractError} {a : α} :
    okOr value e = .ok a ↔ value = some a :=
  found_ok

@[simp] theorem requireAuth_ok {a : Address} {u : Unit} :
    requireAuth h c a = .ok u ↔ a ∈ c.auths ∧ a ≠ h.self :=
  check_ok

@[simp] theorem trapU32_ok {value result : Nat} :
    trapU32 value = .ok result ↔ value < 2 ^ 32 ∧ value = result := by
  simp [trapU32]

@[simp] theorem trapU64_ok {value result : Nat} :
    trapU64 value = .ok result ↔ value < 2 ^ 64 ∧ value = result := by
  simp [trapU64]

end Success

end TikkaRaffle.Factory
