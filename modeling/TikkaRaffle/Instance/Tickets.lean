import TikkaRaffle.Instance.Helpers

/-! Ticket purchases, for oneself and as a gift, and commit submission. Both
purchases share their checks and effects; they differ in the price and in
whose tickets are counted. -/
namespace TikkaRaffle.Instance

open TikkaRaffle.Lib

def validatePurchasePreconditions (c : Ctx) (w : World) (raffle : Raffle) (quantity : Nat) :
    Result Unit := do
  -- the guard lives as long as this check, so only its acquisition matters
  let _ ← acquireGuard w
  ensure (w.drawingLock.getD false = false) .drawingAlreadyInProgress
  ensure (quantity ≠ 0) .invalidQuantity
  ensure (quantity ≤ raffle.maxTicketsPerTx) .exceedsMaxTicketsPerTx
  requireNotPaused w
  requireGlobalNotPaused c w
  ensure (raffle.status = .active) .raffleInactive
  ensure (raffle.ticketSalesPaused = false) .contractPaused
  ensure (raffle.prizeDeposited = true) .invalidStateTransition
  ensure (¬(raffle.noDeadline = false ∧ raffle.endTime ≤ c.timestamp)) .raffleExpired

def checkCaps (w : World) (raffle : Raffle) (holder : Address) (quantity : Nat) :
    Result Unit := do
  let currentCount := (w.ticketCount holder).getD 0
  let sold ← checkedU32 (raffle.ticketsSold + quantity)
  ensure (sold ≤ raffle.maxTickets) .ticketsSoldOut
  ensure (¬(raffle.maxTicketsPerAddress = 0 ∧ raffle.allowMultiple = false ∧
    (0 < currentCount ∨ 1 < quantity))) .multipleTicketsNotAllowed
  if 0 < raffle.maxTicketsPerAddress then
    let count ← checkedU32 (currentCount + quantity)
    ensure (count ≤ raffle.maxTicketsPerAddress) .exceedsMaxTicketsPerAddress
  else .ok ()

/-- The second read before payment. -/
def verifyUnmodified (w : World) (snapshot : Raffle) (holder : Address)
    (currentCount quantity : Nat) : Result Unit := do
  let persisted ← readRaffle w
  ensure (persisted.ticketsSold = snapshot.ticketsSold ∧
    (w.ticketCount holder).getD 0 = currentCount) .invalidStateTransition
  let sold ← checkedU32 (persisted.ticketsSold + quantity)
  ensure (sold ≤ persisted.maxTickets) .ticketsSoldOut

def payTreasury (h : Host) (w : World) (raffle : Raffle) (purpose : Purpose) (token : Address)
    (protocolFee : Int) : Result World :=
  match raffle.treasuryAddress with
  | some treasury => transfer w purpose token h.self treasury protocolFee
  | none => .ok w

/-- The fee goes to the treasury when there is one, and it is added to the
counter either way. -/
def collectFee (h : Host) (w : World) (raffle : Raffle) (purpose : Purpose) (token : Address)
    (protocolFee : Int) : Result World :=
  if 0 < protocolFee then do
    let w ← payTreasury h w raffle purpose token protocolFee
    let total ← trapI128 (w.accumulatedFees.getD 0 + protocolFee)
    return { w with accumulatedFees := some total }
  else .ok w

def issueTickets (c : Ctx) (raffle : Raffle) (owner payer : Address) :
    World → Nat → Nat → Result (World × List Nat)
  | w, _, 0 => .ok (w, [])
  | w, last, count + 1 => do
      let ticketId ← checkedU32 (last + 1)
      let ticket : Ticket := {
        id := ticketId
        owner := owner
        purchaseTime := c.timestamp
        ticketNumber := ticketId
        payer := payer
        pricePaid := raffle.ticketPrice }
      let w := { w with ticket := fun i => if i = ticketId then some ticket else w.ticket i }
      let (w, ids) ← issueTickets c raffle owner payer w ticketId count
      return (w, ticketId :: ids)

/-- The sell-out branch: only `External` raffles get a randomness request. -/
def startSoldOutDraw (h : Host) (c : Ctx) (w : World) (raffle : Raffle) (holder : Address) :
    Result (World × Raffle) :=
  if raffle.maxTickets ≤ raffle.ticketsSold then do
    let (w, raffle) ← transitionToDrawing w raffle c.timestamp
    if raffle.randomnessSource = .external then
      let (w, requestId) ← requestRandomness h c w
      let w := emit w (.drawTriggered holder raffle.ticketsSold c.timestamp)
      return (emit w (.randomnessRequested (raffle.oracleAddress.getD h.self) requestId
        c.timestamp), raffle)
    else .ok (w, raffle)
  else .ok (w, raffle)

def notifyFactory (c : Ctx) (w : World) (raffle : Raffle) (holder : Address)
    (totalPrice : Int) : Result World :=
  match w.factory with
  | none => .ok w
  | some _ => do
      invokeFactory c.factory.recordVolume
      invokeFactory c.factory.trackParticipant
      return { w with factoryCalls := w.factoryCalls ++
        [.recordVolume raffle.paymentToken totalPrice, .trackParticipant holder] }

def recordBuyer (w : World) (holder : Address) (currentCount : Nat) : World :=
  if currentCount = 0 then
    { w with ticketBuyers := some (w.ticketBuyers.getD [] ++ [holder]) }
  else w

/-- Payment, fee, tickets, draw and notifications, in the order of the source. -/
def completePurchase (h : Host) (c : Ctx) (w : World) (raffle : Raffle)
    (buyer holder : Address) (quantity : Nat) (totalPrice protocolFee : Int) :
    Result (World × Nat) := do
  let currentCount := (w.ticketCount holder).getD 0
  verifyUnmodified w raffle holder currentCount quantity
  let w ← tryTransfer w .ticketPayment raffle.paymentToken buyer h.self totalPrice
  let w ← collectFee h w raffle .ticketFee raffle.paymentToken protocolFee
  let w := recordBuyer w holder currentCount
  let (w, ticketIds) ← issueTickets c raffle holder buyer w raffle.ticketsSold quantity
  let count ← checkedU32 (currentCount + quantity)
  let w := { w with ticketCount := fun a => if a = holder then some count else w.ticketCount a }
  let sold ← checkedU32 (raffle.ticketsSold + quantity)
  let raffle := raffle.setTicketsSold sold
  let (w, raffle) ← startSoldOutDraw h c w raffle holder
  let w := writeRaffle w raffle
  let w := emit w (.ticketPurchased holder ticketIds quantity raffle.ticketPrice
    raffle.ticketPrice totalPrice protocolFee c.timestamp)
  let w ← notifyFactory c w raffle holder totalPrice
  return (bumpRaffleTtl w raffle.ticketsSold, raffle.ticketsSold)

def buyTickets (h : Host) (c : Ctx) (w : World) (buyer : Address) (quantity : Nat) :
    Result (World × Nat) := do
  requireAuth h c buyer
  let raffle ← readRaffle w
  validatePurchasePreconditions c w raffle quantity
  checkCaps w raffle buyer quantity
  let quote ← calculateBuyQuote raffle quantity
  completePurchase h c w raffle buyer buyer quantity quote.netToPay quote.fee

/-- A gift is charged at the list price; neither bundles nor the early-bird
window apply. -/
def buyTicketsFor (h : Host) (c : Ctx) (w : World) (buyer recipient : Address)
    (quantity : Nat) : Result (World × Nat) := do
  let _ ← acquireGuard w
  ensure (w.drawingLock.getD false = false) .drawingAlreadyInProgress
  ensure (quantity ≠ 0) .invalidQuantity
  let raffle ← readRaffle w
  ensure (quantity ≤ raffle.maxTicketsPerTx) .exceedsMaxTicketsPerTx
  requireAuth h c buyer
  requireNotPaused w
  requireGlobalNotPaused c w
  ensure (raffle.status = .active) .raffleInactive
  ensure (raffle.ticketSalesPaused = false) .contractPaused
  ensure (raffle.prizeDeposited = true) .invalidStateTransition
  ensure (¬(raffle.noDeadline = false ∧ raffle.endTime ≤ c.timestamp)) .raffleExpired
  checkCaps w raffle recipient quantity
  let totalPrice ← checkedI128 (raffle.ticketPrice * quantity)
  let scaledFee ← checkedI128 (totalPrice * raffle.protocolFeeBp)
  completePurchase h c w raffle buyer recipient quantity totalPrice (scaledFee.tdiv 10000)

def submitCommit (h : Host) (c : Ctx) (w : World) (ticketId : Nat) (hash : Digest) :
    Result World := do
  let raffle ← readRaffle w
  ensure (raffle.randomnessSource = .commitReveal) .invalidParameters
  ensure (raffle.status = .active) .invalidStatus
  requireNotPaused w
  requireGlobalNotPaused c w
  let ticket ← okOr (w.ticket ticketId) .ticketNotFound
  requireAuth h c ticket.owner
  ensure ((w.commitEntry ticketId).isNone) .commitAlreadySubmitted
  return { w with commitEntry := fun i =>
    if i = ticketId then some ⟨ticket.owner, hash⟩ else w.commitEntry i }

end TikkaRaffle.Instance
