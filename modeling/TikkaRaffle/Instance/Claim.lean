import TikkaRaffle.Instance.Tickets

/-! Prize claims and sweeps after a draw, and refunds after a cancelled or
failed raffle. The reentrancy guard of these entry points is released when
they return, so only its acquisition is visible. -/
namespace TikkaRaffle.Instance

open TikkaRaffle.Lib Constants

def markClaimed (winners : List Winner) (tierIndex : Nat) : List Winner :=
  winners.modify tierIndex fun entry => { entry with claimed := true }

@[simps] def Raffle.claimTier (raffle : Raffle) (tierIndex : Nat) : Raffle :=
  { raffle with winners := markClaimed raffle.winners tierIndex }

def settleIfAllClaimed (w : World) (raffle : Raffle) (timestamp : Nat) :
    Result (World × Raffle) :=
  if raffle.winners.all Winner.claimed then transitionStatus w raffle .claimed timestamp
  else .ok (w, raffle)

def claimFee (raffle : Raffle) (amount : Int) : Result Int := do
  let scaled ← checkedI128 (amount * raffle.protocolFeeBp)
  let lifted ← checkedI128 (scaled + 9999)
  return lifted.tdiv 10000

def requireLockupOver (c : Ctx) (raffle : Raffle) : Result Unit :=
  match raffle.finalizedAt with
  | some finalizedAt => do
      let opens ← trapU64 (finalizedAt + raffle.claimLockupSeconds)
      ensure (opens ≤ c.timestamp) .claimTooEarly
  | none => .ok ()

def payWinner (h : Host) (w : World) (raffle : Raffle) (winner : Address) (tierIndex : Nat)
    (netAmount : Int) : Result World :=
  if 0 < netAmount then
    tryTransfer w (.prizePayout tierIndex) raffle.prizeToken h.self winner netAmount
  else .ok w

def claimPrize (h : Host) (c : Ctx) (w : World) (winner : Address) (tierIndex : Nat) :
    Result (World × Int) := do
  requireAuth h c winner
  let _ ← acquireGuard w
  let raffle ← readRaffle w
  ensure (raffle.status = .finalized) .invalidStatus
  requireLockupOver c raffle
  ensure (tierIndex < raffle.winners.length) .invalidParameters
  let entry ← okOr raffle.winners[tierIndex]? .invalidIndex
  ensure (entry.address = winner) .notWinner
  ensure (entry.claimed = false) .prizeAlreadyClaimed
  let amount ← calculateTierPrize h.tierReading raffle tierIndex
  ensure (0 < amount) .zeroPrize
  let protocolFee ← claimFee raffle amount
  let netAmount ← checkedI128 (amount - protocolFee)
  ensure (amount ≤ w.balance raffle.prizeToken h.self) .insufficientFunds
  let raffle := raffle.claimTier tierIndex
  let (w, raffle) ← settleIfAllClaimed w raffle c.timestamp
  let w := writeRaffle w raffle
  let w ← payWinner h w raffle winner tierIndex netAmount
  let w ← collectFee h w raffle (.claimFee tierIndex) raffle.prizeToken protocolFee
  return (emit w (.prizeClaimed winner tierIndex raffle.prizeToken amount netAmount protocolFee
    c.timestamp), amount)

/-- The sweep loop over `count` tiers from `tierIndex`; tiers already claimed
and tiers without a positive amount are passed over. -/
def sweepTiers (h : Host) (c : Ctx) (treasury : Address) :
    World → Raffle → Nat → Nat → Nat → Result (World × Raffle × Nat)
  | w, raffle, _, 0, swept => .ok (w, raffle, swept)
  | w, raffle, tierIndex, count + 1, swept => do
      let entry ← okOr raffle.winners[tierIndex]? .invalidIndex
      if entry.claimed then sweepTiers h c treasury w raffle (tierIndex + 1) count swept
      else
        let amount ← calculateTierPrize h.tierReading raffle tierIndex
        if amount ≤ 0 then sweepTiers h c treasury w raffle (tierIndex + 1) count swept
        else
          let w ← tryTransfer w (.prizeSweep tierIndex) raffle.prizeToken h.self treasury amount
          let w := emit w (.prizeSwept entry.address tierIndex treasury amount c.timestamp)
          sweepTiers h c treasury w (raffle.claimTier tierIndex) (tierIndex + 1) count (swept + 1)

def sweepUnclaimed (h : Host) (c : Ctx) (w : World) (startIndex limit : Nat) :
    Result (World × Nat) := do
  let _ ← acquireGuard w
  let raffle ← readRaffle w
  ensure (raffle.status = .finalized) .invalidStatus
  ensure (raffle.claimExpirySeconds ≠ 0) .invalidStateTransition
  let finalizedAt ← okOr raffle.finalizedAt .invalidStatus
  let expires ← trapU64 (finalizedAt + raffle.claimExpirySeconds)
  ensure (expires ≤ c.timestamp) .claimTooEarly
  let treasury ← okOr raffle.treasuryAddress .notAuthorized
  if raffle.winners.length ≤ startIndex then .ok (w, 0)
  else
    let maxItems :=
      if limit = 0 then maxSweepUnclaimedPerCall else min limit maxSweepUnclaimedPerCall
    let endIndex := min (saturateU32 (startIndex + maxItems)) raffle.winners.length
    let (w, raffle, swept) ←
      sweepTiers h c treasury w raffle startIndex (endIndex - startIndex) 0
    let (w, raffle) ← settleIfAllClaimed w raffle c.timestamp
    return (writeRaffle w raffle, swept)

def refundPrize (h : Host) (c : Ctx) (w : World) : Result World := do
  let _ ← acquireGuard w
  let raffle ← readRaffle w
  requireAuth h c raffle.creator
  ensure (raffle.status = .cancelled ∨ raffle.status = .failed) .invalidStatus
  ensure (raffle.prizeDeposited = true) .prizeNotDeposited
  let w := writeRaffle w (raffle.setPrizeDeposited false)
  let w ← tryTransfer w .prizeRefund raffle.prizeToken h.self raffle.creator raffle.prizeAmount
  return emit w (.prizeRefunded raffle.creator raffle.prizeAmount raffle.prizeToken c.timestamp)

def markRefunded (w : World) (ticketId : Nat) : World :=
  { w with ticketRefunded := fun i => if i = ticketId then some true else w.ticketRefunded i }

def refundTicket (h : Host) (c : Ctx) (w : World) (_caller : Address) (ticketId : Nat) :
    Result (World × Int) := do
  let raffle ← readRaffle w
  ensure (raffle.status = .cancelled ∨ raffle.status = .failed) .invalidStatus
  let _ ← acquireGuard w
  let ticket ← okOr (w.ticket ticketId) .ticketNotFound
  requireAuth h c ticket.payer
  ensure ((w.ticketRefunded ticketId).isNone) .prizeAlreadyClaimed
  let w := markRefunded w ticketId
  let w ← tryTransfer w (.ticketRefund ticketId) raffle.paymentToken h.self ticket.owner
    ticket.pricePaid
  return (emit w (.ticketRefunded ticket.owner ticket.ticketNumber ticket.pricePaid c.timestamp),
    ticket.pricePaid)

/-- The loop both batch refunds run. They differ in whose tickets the caller
may list, in who receives the refund and in the published event. -/
def refundBatch (h : Host) (raffle : Raffle) (mayRefund : Ticket → Bool)
    (recipient : Ticket → Address) (published : Ticket → Event) :
    World → List Nat → Int → Result (World × Int)
  | w, [], total => .ok (w, total)
  | w, ticketId :: rest, total => do
      let ticket ← okOr (w.ticket ticketId) .ticketNotFound
      ensure (mayRefund ticket = true) .notAuthorized
      if (w.ticketRefunded ticketId).isSome then
        refundBatch h raffle mayRefund recipient published w rest total
      else
        let w := markRefunded w ticketId
        let w ← tryTransfer w (.ticketRefund ticketId) raffle.paymentToken h.self
          (recipient ticket) raffle.ticketPrice
        let w := emit w (published ticket)
        let total ← checkedI128 (total + raffle.ticketPrice)
        refundBatch h raffle mayRefund recipient published w rest total

/-- The first definition: payer or owner may ask, the payer is refunded. -/
def batchRefundTickets (h : Host) (c : Ctx) (w : World) (caller : Address)
    (ticketIds : List Nat) : Result (World × Int) := do
  let raffle ← readRaffle w
  ensure (raffle.status = .cancelled ∨ raffle.status = .failed) .invalidStatus
  let _ ← acquireGuard w
  requireAuth h c caller
  refundBatch h raffle (fun ticket => caller = ticket.payer || caller = ticket.owner) Ticket.payer
    (fun ticket => .ticketRefundedTo ticket.payer ticket.owner ticket.ticketNumber
      raffle.ticketPrice c.timestamp) w ticketIds 0

/-- The second definition: only the owner may ask and is refunded. -/
def batchRefundTicketsOwned (h : Host) (c : Ctx) (w : World) (owner : Address)
    (ticketIds : List Nat) : Result (World × Int) := do
  requireAuth h c owner
  let raffle ← readRaffle w
  ensure (raffle.status = .cancelled ∨ raffle.status = .failed) .invalidStatus
  let _ ← acquireGuard w
  refundBatch h raffle (fun ticket => ticket.owner = owner) Ticket.owner
    (fun ticket => .ticketRefunded ticket.owner ticket.ticketNumber raffle.ticketPrice
      c.timestamp) w ticketIds 0

end TikkaRaffle.Instance
