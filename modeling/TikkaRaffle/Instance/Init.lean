import TikkaRaffle.Instance.Helpers

/-! Initialisation, with every validation rule in the order the entry point
applies it, and the prize deposit that opens ticket sales. -/
namespace TikkaRaffle.Instance

open TikkaRaffle.Lib Constants

def addPrizeBp (total bp : Nat) : Result Nat := do
  ensure (bp ≤ 10000) .invalidParameters
  ensure (total + bp < 2 ^ 32) .invalidParameters
  return total + bp

def totalPrizesBp (prizes : List Nat) : Result Nat := prizes.foldlM addPrizeBp 0

def validateSupply (c : Ctx) (config : RaffleConfig) : Result Unit := do
  ensure (config.description.length ≤ maxDescriptionLength) .invalidParameters
  ensure (¬(config.noDeadline = true ∧ config.endTime ≠ 0)) .invalidParameters
  ensure (¬(config.noDeadline = false ∧ config.endTime ≤ c.timestamp)) .invalidParameters
  ensure (¬(config.endTime ≠ 0 ∧ config.endTime ≤ c.timestamp)) .invalidEndTime
  ensure (config.maxTickets ≠ 0 ∧ config.maxTickets ≤ maxTicketsLimit) .invalidParameters
  ensure (config.minTickets ≤ config.maxTickets) .invalidTicketRange
  ensure (config.maxTicketsPerTx ≠ 0 ∧ config.maxTicketsPerTx ≤ config.maxTickets)
    .invalidParameters
  ensure (¬(0 < config.maxTicketsPerAddress ∧ config.maxTickets < config.maxTicketsPerAddress))
    .invalidParameters

def validatePrize (config : RaffleConfig) : Result Unit := do
  ensure (minTicketPrice ≤ config.ticketPrice) .invalidParameters
  ensure (config.ticketPrice ≤ config.prizeAmount) .invalidParameters
  ensure (config.prizeAmount ≤ maxPrizeAmount) .invalidParameters
  ensure (exceedsInternalRandomnessCap config.randomnessSource config.prizeAmount = false)
    .randomnessSourceTooWeakForPrize
  ensure (config.prizes ≠ []) .invalidParameters
  ensure (config.prizes.length ≤ maxPrizes) .tooManyPrizes
  ensure (config.prizes.length ≤ config.maxTickets) .invalidParameters
  let total ← totalPrizesBp config.prizes
  ensure (total = 10000) .invalidParameters
  ensure (config.protocolFeeBp ≤ 10000) .invalidParameters
  ensure (¬(0 < config.protocolFeeBp ∧ config.treasuryAddress = none)) .invalidParameters

def validateQuorum (h : Host) (config : RaffleConfig) : Result Unit :=
  match config.randomnessSource with
  | .quorum quorum => do
      ensure (quorum.k ≠ 0 ∧ quorum.k ≤ quorum.oracles.length) .invalidParameters
      ensure (quorum.oracles.length ≤ 10) .invalidParameters
      ensure (h.self ∉ quorum.oracles) .invalidParameters
      ensure (config.oracleAddress = none) .invalidParameters
  | _ => .ok ()

def validateRandomness (h : Host) (config : RaffleConfig) : Result Unit := do
  ensure (config.randomnessSource = .external →
    config.oracleAddress ≠ none ∧ config.oracleAddress ≠ some h.self) .invalidParameters
  validateQuorum h config
  ensure (¬(config.randomnessSource ≠ .external ∧
    config.randomnessSource ≠ .quorum ⟨1, []⟩ ∧ config.oracleAddress ≠ none)) .invalidParameters

def validateWindows (config : RaffleConfig) (claimLockup claimExpiry swapDeadline : Nat) :
    Result Unit := do
  ensure (claimLockup ≤ maxClaimLockupSeconds) .invalidParameters
  ensure (minClaimExpirySeconds ≤ claimExpiry) .invalidParameters
  ensure (claimLockup < claimExpiry) .invalidParameters
  ensure (swapDeadline ≤ maxSwapDeadlineSeconds) .invalidParameters
  ensure (config.earlyBirdTicketPercentage ≤ 100) .invalidParameters
  ensure (¬(0 < config.earlyBirdTicketPercentage ∧ 10000 < config.earlyBirdDiscountBp))
    .invalidParameters

/-- `allow_multiple = false` is the older spelling of a one-ticket cap. -/
def resolveTicketCap (config : RaffleConfig) : RaffleConfig :=
  if config.allowMultiple = false ∧ config.maxTicketsPerAddress = 0 then
    { config with maxTicketsPerAddress := 1 }
  else config

/-- The stored raffle of an accepted configuration. The prize-token override
of the configuration is not applied. -/
def initialRaffle (creator : Address) (config : RaffleConfig)
    (claimLockup claimExpiry swapDeadline : Nat) : Raffle where
  creator := creator
  description := config.description
  endTime := config.endTime
  noDeadline := config.noDeadline
  maxTickets := config.maxTickets
  maxTicketsPerTx := config.maxTicketsPerTx
  maxTicketsPerAddress := config.maxTicketsPerAddress
  minTickets := config.minTickets
  allowMultiple := config.allowMultiple
  ticketPrice := config.ticketPrice
  paymentToken := config.paymentToken
  prizeToken := config.paymentToken
  prizeAmount := config.prizeAmount
  prizes := config.prizes
  ticketsSold := 0
  status := .pendingPrize
  prizeDeposited := false
  winners := []
  randomnessSource := config.randomnessSource
  oracleAddress := config.oracleAddress
  protocolFeeBp := config.protocolFeeBp
  treasuryAddress := config.treasuryAddress
  swapRouter := config.swapRouter
  tikkaToken := config.tikkaToken
  finalizedAt := none
  claimLockupSeconds := claimLockup
  claimExpirySeconds := claimExpiry
  swapDeadlineSeconds := swapDeadline
  ticketSalesPaused := false
  earlyBirdTicketPercentage := config.earlyBirdTicketPercentage
  earlyBirdDiscountBp := config.earlyBirdDiscountBp
  metadataHash := config.metadataHash
  uniqueWinners := config.uniqueWinners
  bundles := config.bundles
  nftContract := config.nftContract

def init (h : Host) (c : Ctx) (w : World) (factory admin creator : Address)
    (config : RaffleConfig) : Result World := do
  ensure (w.raffle.isNone) .alreadyInitialized
  validateSupply c config
  validatePrize config
  validateRandomness h config
  ensure (config.metadataHash ≠ Vector.replicate 32 0) .invalidParameters
  ensure (h.tokenValid config.paymentToken = true) .invalidTokenAddress
  let config := resolveTicketCap config.resolveDefaults
  let claimLockup := config.claimLockupSeconds.getD defaultClaimLockupSeconds
  let claimExpiry := config.claimExpirySeconds.getD defaultClaimExpirySeconds
  let swapDeadline := config.swapDeadlineSeconds.getD defaultSwapDeadlineSeconds
  validateWindows config claimLockup claimExpiry swapDeadline
  let w := writeRaffle w (initialRaffle creator config claimLockup claimExpiry swapDeadline)
  return emit { w with factory := some factory, admin := some admin }
    (.raffleCreated h.self creator config.endTime config.maxTickets config.ticketPrice
      config.paymentToken config.prizeAmount config.prizes config.description
      config.randomnessSource config.metadataHash config.uniqueWinners claimExpiry)

def depositPrize (h : Host) (c : Ctx) (w : World) : Result World := do
  requireNotPaused w
  let raffle ← readRaffle w
  requireAuth h c raffle.creator
  ensure (raffle.prizeDeposited = false) .prizeAlreadyDeposited
  let w ← tryTransfer w .prizeDeposit raffle.paymentToken raffle.creator h.self raffle.prizeAmount
  let (w, raffle) ← transitionStatus w (raffle.setPrizeDeposited true) .active c.timestamp
  return emit w (.prizeDeposited raffle.creator raffle.prizeAmount raffle.paymentToken c.timestamp)

end TikkaRaffle.Instance
