import TikkaRaffle.Instance.Randomness

/-! Helpers shared by the entry points: the lifecycle transition, the
reentrancy guard, the randomness request, prices and tier amounts, and the
finalization every draw ends in. -/
namespace TikkaRaffle.Instance

open TikkaRaffle.Lib

def transitionStatus (w : World) (raffle : Raffle) (newStatus : RaffleStatus)
    (timestamp : Nat) : Result (World × Raffle) :=
  if raffle.status.canTransitionTo newStatus then
    let updated := raffle.setStatus newStatus
    .ok (emit (writeRaffle w updated)
      (.raffleStatusChanged raffle.status newStatus timestamp), updated)
  else .error (.err .invalidStateTransition)

def revertStatus (w : World) (raffle : Raffle) (target : RaffleStatus) :
    Result (World × Raffle) :=
  if raffle.status.canInternalRevertTo target then
    let updated := raffle.setStatus target
    .ok (writeRaffle w updated, updated)
  else .error (.err .invalidStateTransition)

def requireAdmin (h : Host) (c : Ctx) (w : World) : Result Address := do
  let admin ← okOr w.admin .notAuthorized
  requireAuth h c admin
  return admin

def getTicketOwner (w : World) (ticketId : Nat) : Option Address :=
  (w.ticket ticketId).map Ticket.owner

def acquireGuard (w : World) : Result World :=
  if w.reentrancyGuard.isSome then .error (.err .reentrancy)
  else .ok { w with reentrancyGuard := some true }

def requireNotPaused (w : World) : Result Unit :=
  ensure (w.paused.getD false = false) .contractPaused

def requireGlobalNotPaused (c : Ctx) (w : World) : Result Unit := do
  let _ ← okOr w.factory .notInitialized
  let paused ← orTrap c.factory.isGlobalPaused
  ensure (paused = false) .contractPaused

def requestRandomness (h : Host) (c : Ctx) (w : World) : Result (World × Nat) := do
  ensure (w.randomnessRequested.getD false = false) .randomnessAlreadyRequested
  let requestId := seedOfDigest (h.sha256 (h.toXdr (.tuple
    [.u64 c.timestamp, .u32 c.sequence, .bytes (h.toXdr (.address h.self))])))
  return ({ w with
    randomnessRequested := some true
    randomnessRequestLedger := some c.sequence
    randomnessRequestId := some requestId }, requestId)

def transitionToDrawing (w : World) (raffle : Raffle) (timestamp : Nat) :
    Result (World × Raffle) := do
  ensure (w.drawingLock.getD false = false) .drawingAlreadyInProgress
  ensure (raffle.status ≠ .drawing) .drawingAlreadyInProgress
  let (w, raffle) ← transitionStatus w raffle .drawing timestamp
  return ({ w with drawingLock := some true }, raffle)

/-- The last bundle whose size the purchase reaches sets the unit price. -/
def bundleUnit (raffle : Raffle) (quantity : Nat) : Int :=
  raffle.bundles.foldl
    (fun unit bundle => if bundle.quantity ≤ quantity then bundle.pricePerTicket else unit)
    raffle.ticketPrice

def earlyBirdQuantity (raffle : Raffle) (quantity : Nat) : Nat :=
  if 0 < raffle.earlyBirdTicketPercentage ∧ 0 < raffle.earlyBirdDiscountBp then
    min (raffle.maxTickets * raffle.earlyBirdTicketPercentage / 100 - raffle.ticketsSold) quantity
  else 0

def earlyBirdDiscount (raffle : Raffle) (unit : Int) (quantity : Nat) : Result Int :=
  if 0 < earlyBirdQuantity raffle quantity then do
    let scaled ← checkedI128 (unit * raffle.earlyBirdDiscountBp)
    checkedI128 (scaled.tdiv 10000 * earlyBirdQuantity raffle quantity)
  else .ok 0

def calculateBuyQuote (raffle : Raffle) (quantity : Nat) : Result BuyQuote := do
  ensure (quantity ≠ 0) .invalidQuantity
  let unit := bundleUnit raffle quantity
  let gross ← checkedI128 (unit * quantity)
  let discount ← earlyBirdDiscount raffle unit quantity
  let afterDiscount ← checkedI128 (gross - discount)
  let scaledFee ← checkedI128 (afterDiscount * raffle.protocolFeeBp)
  return {
    gross := gross
    discount := discount
    fee := scaledFee.tdiv 10000
    netToPay := afterDiscount
    effectiveTicketPrice := afterDiscount.tdiv quantity }

def tierShare (raffle : Raffle) (tierIndex : Nat) : Result Int := do
  let bp : Nat ← okOr raffle.prizes[tierIndex]? .invalidIndex
  let scaled ← checkedI128 (raffle.prizeAmount * bp)
  return scaled.tdiv 10000

/-- The loop over the tiers before the last one, as the source runs it: the
running total is added into each amount and neither is scaled down. -/
def allocatedBefore (raffle : Raffle) (count : Nat) : Result Int :=
  (List.range count).foldlM (fun allocated i => do
    let bp : Nat ← okOr raffle.prizes[i]? .invalidIndex
    let scaled ← checkedI128 (raffle.prizeAmount * bp)
    let amount ← checkedI128 (scaled + allocated)
    checkedI128 (allocated + amount)) 0

def calculateTierPrize (reading : TierReading) (raffle : Raffle) (tierIndex : Nat) :
    Result Int := do
  ensure (raffle.prizes ≠ []) .invalidParameters
  ensure (tierIndex < raffle.prizes.length) .invalidIndex
  if tierIndex = raffle.prizes.length - 1 then
    let allocated ← allocatedBefore raffle (raffle.prizes.length - 1)
    match reading with
    | .ifElse => checkedI128 (raffle.prizeAmount - allocated)
    | .fallThrough => tierShare raffle tierIndex
  else tierShare raffle tierIndex

def ttlBumpWindow : Nat := 100

def extendTicketTtls (w : World) (startTicketId limit : Nat) : List Nat :=
  (((List.range limit).map (startTicketId + ·)).filter (· < 2 ^ 32)).takeWhile
    fun ticketId => (w.ticket ticketId).isSome

/-- Entries do not expire in this model, so a refresh only moves the cursor. -/
def bumpRaffleTtl (w : World) (totalTickets : Nat) : World :=
  if totalTickets = 0 then w
  else
    let start := min (w.lastBumpedIndex.getD 0) totalTickets
    let stop := min (start + ttlBumpWindow) totalTickets
    { w with lastBumpedIndex := some (if totalTickets ≤ stop then 0 else stop) }

/-- Linear probing from the candidate for a ticket of an address that has not
won yet; the candidate itself when there is none. -/
def resolveUniqueWinner (w : World) (totalTickets : Nat) (winners : List Address)
    (candidate : Nat) : Nat :=
  (((List.range totalTickets).map fun offset => (candidate + offset) % totalTickets).find?
    fun index => (getTicketOwner w (index + 1)).any fun owner => !winners.contains owner).getD
      candidate

def drawTiers (c : Ctx) (w : World) (raffle : Raffle) :
    List Nat → Nat → List Address → Result (List Nat × List Address × List Event)
  | [], _, winners => .ok ([], winners, [])
  | candidate :: rest, tier, winners => do
      let index :=
        if raffle.uniqueWinners then resolveUniqueWinner w raffle.ticketsSold winners candidate
        else candidate
      let owner ← okOr (getTicketOwner w (index + 1)) .ticketNotFound
      let (indices, winners, events) ← drawTiers c w raffle rest (tier + 1) (winners ++ [owner])
      return (index :: indices, winners,
        .winnerDrawn owner (index + 1) tier c.timestamp :: events)

def clearQuorumStorage (w : World) : World :=
  match w.quorumSubmittedOracles with
  | some submitted =>
      { w with
        quorumSeed := fun a => if a ∈ submitted then none else w.quorumSeed a
        quorumSubmittedOracles := none }
  | none => w

def saturateU32 (value : Nat) : Nat := min value (2 ^ 32 - 1)

def saturateI128 (value : Int) : Int := max i128Min (min i128Max value)

/-- The volume reported to the leaderboard, recomputed from the list price. -/
def leaderboardVolume (raffle : Raffle) : Int :=
  let ebLimit := saturateU32 (raffle.maxTickets * raffle.earlyBirdTicketPercentage) / 100
  let ebTickets := if raffle.ticketsSold < ebLimit then raffle.ticketsSold else ebLimit
  let normTickets := raffle.ticketsSold - ebTickets
  let discountedPrice :=
    (saturateI128 (raffle.ticketPrice * (10000 - raffle.earlyBirdDiscountBp))).tdiv 10000
  saturateI128 (saturateI128 (ebTickets * discountedPrice) +
    saturateI128 (normTickets * raffle.ticketPrice))

def recordLeaderboard (h : Host) (c : Ctx) (w : World) (raffle : Raffle) : Result World :=
  match w.factory with
  | none => .ok w
  | some _ => do
      invokeFactory c.factory.recordLeaderboardEntry
      return { w with factoryCalls := w.factoryCalls ++ [.recordLeaderboardEntry h.self
        raffle.ticketsSold raffle.prizeAmount (leaderboardVolume raffle)] }

def Raffle.setWinners (raffle : Raffle) (winners : List Address) : Raffle :=
  { raffle with winners := winners.map fun address => ⟨address, false⟩ }

def Raffle.setFinalizedAt (raffle : Raffle) (timestamp : Nat) : Raffle :=
  { raffle with finalizedAt := some timestamp }

def storeFairness (w : World) (metadata : FairnessMetadata) : World :=
  { w with randomnessSeed := some metadata }

def clearRequest (w : World) : World :=
  { w with
    randomnessRequested := none
    randomnessRequestId := none
    randomnessRequestLedger := none }

def clearLock (w : World) : World := { w with drawingLock := some false }

def emitAll (w : World) (events : List Event) : World := { w with events := w.events ++ events }

def doFinalizeWithSeed (h : Host) (c : Ctx) (w : World) (raffle : Raffle) (seed : Nat)
    (randomnessType : RandomnessType) (quorumContributions : Option (List (Address × Nat))) :
    Result World := do
  let totalTickets := raffle.ticketsSold
  ensure (totalTickets ≠ 0) .noTicketsSold
  ensure (raffle.prizes.length ≤ totalTickets) .morePrizesThanTickets
  ensure (raffle.ticketsSold ≠ 0) .noActiveTickets
  let candidates ← orTrap (selectWinnerIndices seed totalTickets raffle.prizes.length)
  let (indices, winners, drawn) ← drawTiers c w raffle candidates 0 []
  let w := storeFairness (emitAll w drawn) {
    seed := seed
    randomnessSource := raffle.randomnessSource
    winningTicketIndices := indices
    drawTimestamp := c.timestamp
    drawSequence := c.sequence
    uniqueWinners := raffle.uniqueWinners
    quorumContributions := quorumContributions }
  let raffle := (raffle.setWinners winners).setFinalizedAt c.timestamp
  let (w, raffle) ← transitionStatus w raffle .finalized c.timestamp
  let raffle := raffle.setFinalizedAt c.timestamp
  let w := clearLock (clearQuorumStorage (clearRequest (writeRaffle w raffle)))
  let w := emit w (.raffleFinalized h.self winners indices raffle.ticketsSold
    raffle.randomnessSource randomnessType c.timestamp raffle.uniqueWinners)
  let w ← recordLeaderboard h c w raffle
  return bumpRaffleTtl w totalTickets

end TikkaRaffle.Instance
