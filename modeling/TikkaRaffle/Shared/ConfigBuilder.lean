import TikkaRaffle.Lib.Transactional
import TikkaRaffle.Shared.Types
import Mathlib.Algebra.Group.Nat.Defs

/-! The configuration builder the factory validates with. Its rules are written
apart from those of the instance initialiser and in their own order. -/
namespace TikkaRaffle

open TikkaRaffle.Lib Constants

inductive ConfigValidationError where
  | invalidParameters
  | invalidTicketRange
  | invalidEndTime
  | tooManyPrizes
  | invalidTokenAddress
deriving DecidableEq, Repr

def isAsciiAlphanumeric (byte : UInt8) : Bool :=
  (48 ≤ byte && byte ≤ 57) || (65 ≤ byte && byte ≤ 90) || (97 ≤ byte && byte ≤ 122)

def isCategoryByte (byte : UInt8) : Bool := isAsciiAlphanumeric byte || byte = 45

def validateCategory : Option Bytes → Except ConfigValidationError Unit
  | none => .ok ()
  | some category => do
      check (category.length ≠ 0 ∧ category.length ≤ maxCategoryLength) .invalidParameters
      check (category.all isCategoryByte = true) .invalidParameters

def validateBundles : Option TicketBundle → List TicketBundle → Except ConfigValidationError Unit
  | _, [] => .ok ()
  | previous, bundle :: rest => do
      check (bundle.quantity ≠ 0 ∧ minTicketPrice ≤ bundle.pricePerTicket) .invalidParameters
      check (∀ before ∈ previous, before.quantity < bundle.quantity ∧
        bundle.pricePerTicket ≤ before.pricePerTicket) .invalidParameters
      validateBundles (some bundle) rest

def addBasisPoints (total bp : Nat) : Except ConfigValidationError Nat := do
  check (total + bp < 2 ^ 32) .invalidParameters
  return total + bp

def validateOracle (config : RaffleConfig) (instanceAddress : Option Address) :
    Except ConfigValidationError Unit :=
  if config.randomnessSource = .external then
    match config.oracleAddress with
    | none => .error .invalidParameters
    | some address => check (instanceAddress ≠ some address) .invalidParameters
  else check (config.oracleAddress = none) .invalidParameters

/-- A missing cap next to `allow_multiple = false` becomes a cap of one. -/
def RaffleConfig.normalizeCap (config : RaffleConfig) : RaffleConfig :=
  if config.maxTicketsPerAddress = 0 ∧ config.allowMultiple = false then
    { config with maxTicketsPerAddress := 1 }
  else config

def validateLimits (now : Nat) (config : RaffleConfig) :
    Except ConfigValidationError RaffleConfig := do
  check (config.description.length ≤ maxDescriptionLength) .invalidParameters
  check (¬(config.noDeadline = true ∧ config.endTime ≠ 0)) .invalidParameters
  check (¬(config.noDeadline = false ∧ config.endTime ≤ now)) .invalidParameters
  check (¬(config.endTime ≠ 0 ∧ config.endTime ≤ now)) .invalidEndTime
  check (config.maxTickets ≠ 0 ∧ config.maxTickets ≤ maxTicketsLimit) .invalidParameters
  check (config.minTickets ≤ config.maxTickets) .invalidTicketRange
  check (config.maxTicketsPerTx ≠ 0 ∧ config.maxTicketsPerTx ≤ config.maxTickets)
    .invalidParameters
  let config := config.normalizeCap
  check (config.maxTicketsPerAddress ≤ config.maxTickets) .invalidParameters
  return config

def validatePrices (config : RaffleConfig) : Except ConfigValidationError Unit := do
  check (minTicketPrice ≤ config.ticketPrice) .invalidParameters
  check (config.bundles.length ≤ 16) .invalidParameters
  validateBundles none config.bundles
  check (config.ticketPrice ≤ config.prizeAmount ∧ config.prizeAmount ≤ maxPrizeAmount)
    .invalidParameters
  check (config.prizes ≠ []) .invalidParameters
  check (config.prizes.length ≤ maxPrizes) .tooManyPrizes
  let prizeTotal ← config.prizes.foldlM addBasisPoints 0
  check (prizeTotal = 10000) .invalidParameters
  check (config.protocolFeeBp ≤ 10000 ∧
    ¬(0 < config.protocolFeeBp ∧ config.treasuryAddress = none)) .invalidParameters

def validateConfig (now : Nat) (tokenValid : Address → Bool) (config : RaffleConfig)
    (instanceAddress : Option Address) : Except ConfigValidationError RaffleConfig := do
  let config ← validateLimits now config
  validatePrices config
  validateOracle config instanceAddress
  check (config.metadataHash ≠ Vector.replicate 32 0) .invalidParameters
  validateCategory config.category
  check (tokenValid config.paymentToken = true) .invalidTokenAddress
  let config := config.resolveDefaults
  let claimLockup := config.claimLockupSeconds.getD defaultClaimLockupSeconds
  let claimExpiry := config.claimExpirySeconds.getD defaultClaimExpirySeconds
  let swapDeadline := config.swapDeadlineSeconds.getD defaultSwapDeadlineSeconds
  check (claimLockup ≤ maxClaimLockupSeconds ∧ minClaimExpirySeconds ≤ claimExpiry ∧
    claimLockup < claimExpiry ∧ swapDeadline ≤ maxSwapDeadlineSeconds) .invalidParameters
  return config

/-- A configuration under construction. Only the cap per transaction may still
be missing; the other fields are those of the configuration. -/
structure RaffleConfigBuilder where
  config : RaffleConfig
  maxTicketsPerTx : Option Nat

namespace RaffleConfigBuilder

def fromConfig (config : RaffleConfig) : RaffleConfigBuilder :=
  ⟨config, some config.maxTicketsPerTx⟩

def protocolFeeBp (builder : RaffleConfigBuilder) (bp : Nat) : RaffleConfigBuilder :=
  { builder with config := { builder.config with protocolFeeBp := bp } }

def treasuryAddress (builder : RaffleConfigBuilder) (treasury : Option Address) :
    RaffleConfigBuilder :=
  { builder with config := { builder.config with treasuryAddress := treasury } }

/-- The cap per transaction defaults to the supply. -/
def build (now : Nat) (tokenValid : Address → Bool) (builder : RaffleConfigBuilder) :
    Except ConfigValidationError RaffleConfig :=
  validateConfig now tokenValid { builder.config with
    maxTicketsPerTx := builder.maxTicketsPerTx.getD builder.config.maxTickets } none

theorem build_fromConfig (now : Nat) (tokenValid : Address → Bool) (config : RaffleConfig) :
    (fromConfig config).build now tokenValid = validateConfig now tokenValid config none := rfl

end RaffleConfigBuilder

theorem normalizeCap_eq (config : RaffleConfig) :
    ∃ cap, config.normalizeCap = { config with maxTicketsPerAddress := cap } := by
  unfold RaffleConfig.normalizeCap
  split
  · exact ⟨1, rfl⟩
  · exact ⟨config.maxTicketsPerAddress, rfl⟩

structure SameOffer (config built : RaffleConfig) : Prop where
  description : built.description = config.description
  category : built.category = config.category
  protocolFeeBp : built.protocolFeeBp = config.protocolFeeBp
  treasuryAddress : built.treasuryAddress = config.treasuryAddress

theorem SameOffer.normal (config : RaffleConfig) :
    SameOffer config config.normalizeCap.resolveDefaults := by
  obtain ⟨cap, hcap⟩ := normalizeCap_eq config
  rw [hcap]
  exact ⟨rfl, rfl, rfl, rfl⟩

theorem SameOffer.validated {now : Nat} {tokenValid : Address → Bool} {config built : RaffleConfig}
    {instanceAddress : Option Address}
    (hok : validateConfig now tokenValid config instanceAddress = .ok built) :
    SameOffer config built := by
  simp only [validateConfig, validateLimits, except_bind_ok, except_pure_ok] at hok
  obtain ⟨_, ⟨_, -, _, -, _, -, _, -, _, -, _, -, _, -, _, -, rfl⟩, _, -, _, -, _, -, _, -, _, -,
    _, -, rfl⟩ := hok
  exact SameOffer.normal config

end TikkaRaffle
