import TikkaRaffle.Instance.Claim

/-! Administrative entry points: cancellation, pauses, parameter changes, the
constrained token exits and the storage wipe. -/
namespace TikkaRaffle.Instance

open TikkaRaffle.Lib Constants

def outstandingTicketRefunds (refunded : Nat → Option Bool) (raffle : Raffle) : Result Int :=
  (List.range' 1 raffle.ticketsSold).foldlM (fun outstanding ticketId =>
    if (refunded ticketId).isSome then .ok outstanding
    else checkedI128 (outstanding + raffle.ticketPrice)) 0

/-- A settled raffle still counts its whole prize here: only `Finalized` looks
at the tiers. -/
def outstandingPrize (reading : TierReading) (raffle : Raffle) : Result Int :=
  if raffle.prizeDeposited = false then .ok 0
  else if raffle.status ≠ .finalized then .ok raffle.prizeAmount
  else
    (List.range raffle.winners.length).foldlM (fun outstanding tierIndex =>
      if (raffle.winners[tierIndex]?.map Winner.claimed).getD false then .ok outstanding
      else do
        let amount ← calculateTierPrize reading raffle tierIndex
        checkedI128 (outstanding + amount)) 0

/-- Refunds and booked fees count before the draw, the prize whenever it is
outstanding. -/
def tokenEntitlement (reading : TierReading) (refunded : Nat → Option Bool) (fees : Int)
    (raffle : Raffle) (token : Address) : Result Int := do
  let payments ←
    (if token = raffle.paymentToken ∧ raffle.status ≠ .finalized ∧ raffle.status ≠ .claimed then do
      let refunds ← outstandingTicketRefunds refunded raffle
      checkedI128 (refunds + fees)
    else .ok 0)
  if token = raffle.prizeToken then do
    let prize ← outstandingPrize reading raffle
    checkedI128 (payments + prize)
  else .ok payments

def updateOracleAddress (h : Host) (c : Ctx) (w : World) (newOracle : Address) :
    Result World := do
  let admin ← requireAdmin h c w
  let raffle ← readRaffle w
  ensure (raffle.randomnessSource = .external) .invalidParameters
  ensure (newOracle ≠ h.self) .invalidParameters
  ensure (¬(raffle.status = .finalized ∨ raffle.status = .claimed ∨ raffle.status = .cancelled))
    .invalidStatus
  let w := writeRaffle w { raffle with oracleAddress := some newOracle }
  return emit w (.oracleAddressUpdated raffle.oracleAddress newOracle admin c.timestamp)

def setProtocolFeeBp (h : Host) (c : Ctx) (w : World) (newFeeBp : Nat) : Result World := do
  let admin ← requireAdmin h c w
  ensure (newFeeBp ≤ maxProtocolFeeBp) .invalidParameters
  let raffle ← readRaffle w
  ensure (raffle.ticketsSold = 0) .invalidStatus
  let w := writeRaffle w { raffle with protocolFeeBp := newFeeBp }
  return emit w (.protocolFeeUpdated raffle.protocolFeeBp newFeeBp admin c.timestamp)

def setSwapDeadline (h : Host) (c : Ctx) (w : World) (newDeadlineSeconds : Nat) :
    Result World := do
  let admin ← requireAdmin h c w
  ensure (newDeadlineSeconds ≤ maxSwapDeadlineSeconds) .invalidParameters
  let raffle ← readRaffle w
  ensure (raffle.ticketsSold = 0) .invalidStatus
  let w := writeRaffle w { raffle with swapDeadlineSeconds := newDeadlineSeconds }
  return emit w (.swapDeadlineUpdated raffle.swapDeadlineSeconds newDeadlineSeconds admin
    c.timestamp)

def updateMetadataHash (h : Host) (c : Ctx) (w : World) (newHash : Digest) : Result World := do
  let admin ← requireAdmin h c w
  let oldHash ← okOr w.metadataHash .notInitialized
  return emit { w with metadataHash := some newHash }
    (.metadataHashUpdated oldHash newHash admin c.timestamp)

def pause (h : Host) (c : Ctx) (w : World) : Result World := do
  let factory ← okOr w.factory .notAuthorized
  requireAuth h c factory
  return emit { w with paused := some true } (.contractPaused factory c.timestamp)

def unpause (h : Host) (c : Ctx) (w : World) : Result World := do
  let factory ← okOr w.factory .notAuthorized
  requireAuth h c factory
  return emit { w with paused := some false } (.contractUnpaused factory c.timestamp)

/-- The body of `pause_ticket_sales` and `resume_ticket_sales`. -/
def setTicketSalesPaused (h : Host) (c : Ctx) (w : World) (caller : Address) (paused : Bool)
    (published : Event) : Result World := do
  requireAuth h c caller
  let raffle ← readRaffle w
  let admin ← okOr w.admin .notAuthorized
  ensure (caller = raffle.creator ∨ caller = admin) .notAuthorized
  ensure (raffle.status = .active) .invalidStatus
  return emit (writeRaffle w { raffle with ticketSalesPaused := paused }) published

def pauseTicketSales (h : Host) (c : Ctx) (w : World) (caller : Address) : Result World :=
  setTicketSalesPaused h c w caller true (.ticketSalesPaused caller c.timestamp)

def resumeTicketSales (h : Host) (c : Ctx) (w : World) (caller : Address) : Result World :=
  setTicketSalesPaused h c w caller false (.ticketSalesResumed caller c.timestamp)

/-- The status change shared by a creator's cancel and an executed admin
cancel. Draw locks and requests are not touched. -/
def cancelNow (c : Ctx) (w : World) (raffle : Raffle) (reason : CancelReason) : Result World := do
  ensure (¬(raffle.status = .finalized ∨ raffle.status = .cancelled ∨ raffle.status = .claimed))
    .invalidStatus
  let (w, raffle) ← transitionStatus w raffle .cancelled c.timestamp
  return emit w (.raffleCancelled raffle.creator reason raffle.ticketsSold raffle.prizeDeposited
    c.timestamp)

/-- An admin cancel is only scheduled here. -/
def scheduleCancel (h : Host) (c : Ctx) (w : World) (raffle : Raffle) : Result World := do
  let admin ← okOr w.admin .notAuthorized
  requireAuth h c admin
  ensure (c.timestamp + timelockDelaySeconds < 2 ^ 64) .arithmeticOverflow
  let cancelAt := c.timestamp + timelockDelaySeconds
  return emit { w with pendingAdminCancel := some cancelAt }
    (.cancelScheduled raffle.creator admin raffle.ticketsSold cancelAt c.timestamp)

def cancelRaffle (h : Host) (c : Ctx) (w : World) (reason : CancelReason) : Result World := do
  let raffle ← readRaffle w
  if reason = .adminCancelled then scheduleCancel h c w raffle
  else do
    requireAuth h c raffle.creator
    cancelNow c w raffle reason

def executeAdminCancel (c : Ctx) (w : World) : Result World := do
  let raffle ← readRaffle w
  let cancelAt ← okOr w.pendingAdminCancel .cancelNotScheduled
  ensure (cancelAt ≤ c.timestamp) .cancelTimelockActive
  cancelNow c { w with pendingAdminCancel := none } raffle .adminCancelled

def withdrawFees (h : Host) (c : Ctx) (w : World) (recipient : Address) (amount : Int) :
    Result World := do
  let _ ← requireAdmin h c w
  let raffle ← readRaffle w
  ensure (raffle.status = .finalized ∨ raffle.status = .claimed) .invalidStatus
  ensure (0 < amount) .invalidParameters
  let accumulated := w.accumulatedFees.getD 0
  ensure (amount ≤ accumulated) .insufficientAccumulatedFees
  let w ← transfer w .feeWithdrawal raffle.paymentToken h.self recipient amount
  let left ← trapI128 (accumulated - amount)
  return emit { w with accumulatedFees := some left }
    (.feesWithdrawn recipient amount raffle.paymentToken c.timestamp)

def requireSurplus (h : Host) (w : World) (raffle : Raffle) (token : Address) (amount : Int) :
    Result Unit := do
  let balance := w.balance token h.self
  let entitlement ← tokenEntitlement h.tierReading w.ticketRefunded (w.accumulatedFees.getD 0)
    raffle token
  ensure (entitlement ≤ balance) .invalidStateTransition
  let surplus ← trapI128 (balance - entitlement)
  ensure (amount ≤ surplus) .invalidStateTransition

/-- Before initialisation nothing is owed and nothing is checked. -/
def requireRescuable (h : Host) (w : World) (token : Address) (amount : Int) : Result Unit :=
  match w.raffle with
  | some raffle => requireSurplus h w raffle token amount
  | none => .ok ()

def rescueTokens (h : Host) (c : Ctx) (w : World) (token recipient : Address) (amount : Int) :
    Result World := do
  let admin ← requireAdmin h c w
  ensure (0 < amount) .invalidParameters
  requireRescuable h w token amount
  let w ← tryTransfer w .rescue token h.self recipient amount
  return emit w (.tokensRescued admin token recipient amount c.timestamp)

def allRefunded (w : World) (raffle : Raffle) : Bool :=
  (List.range' 1 raffle.ticketsSold).all fun ticketId => (w.ticketRefunded ticketId).isSome

def sweepDust (h : Host) (c : Ctx) (w : World) : Result World := do
  let admin ← requireAdmin h c w
  let raffle ← readRaffle w
  ensure (raffle.status = .claimed ∨ raffle.status = .cancelled) .invalidStatus
  ensure (raffle.status = .cancelled →
    raffle.prizeDeposited = false ∧ allRefunded w raffle = true) .invalidStateTransition
  let treasury ← okOr raffle.treasuryAddress .invalidParameters
  let balance := w.balance raffle.paymentToken h.self
  let entitlement ← tokenEntitlement h.tierReading w.ticketRefunded (w.accumulatedFees.getD 0)
    raffle raffle.paymentToken
  ensure (entitlement ≤ balance) .invalidStateTransition
  let dust ← trapI128 (balance - entitlement)
  if 0 < dust then do
    let w ← tryTransfer w .dust raffle.paymentToken h.self treasury dust
    return emit w (.dustSwept admin raffle.paymentToken treasury dust c.timestamp)
  else .ok w

def requireEmergencyDelay (c : Ctx) (w : World) (raffle : Raffle) : Result Unit :=
  if raffle.noDeadline then
    ensure (emergencyWithdrawDelaySeconds ≤
      (c.sequence - w.randomnessRequestLedger.getD 0) * 5) .emergencyTooEarly
  else do
    let opens ← trapU64 (raffle.endTime + emergencyWithdrawDelaySeconds)
    ensure (opens ≤ c.timestamp) .emergencyTooEarly

def emergencyWithdraw (h : Host) (c : Ctx) (w : World) (caller : Address) : Result World := do
  requireAuth h c caller
  let raffle ← readRaffle w
  ensure (raffle.prizeDeposited = true) .prizeNotDeposited
  let admin ← okOr w.admin .notAuthorized
  ensure (caller = raffle.creator ∨ caller = admin) .notAuthorized
  ensure (raffle.status = .drawing) .invalidStatus
  requireEmergencyDelay c w raffle
  let balance := w.balance raffle.prizeToken h.self
  let entitlement ← tokenEntitlement h.tierReading w.ticketRefunded (w.accumulatedFees.getD 0)
    raffle raffle.prizeToken
  ensure (raffle.prizeAmount ≤ balance) .invalidStateTransition
  let leftBalance ← trapI128 (balance - raffle.prizeAmount)
  let leftEntitlement ← trapI128 (entitlement - raffle.prizeAmount)
  ensure (leftEntitlement ≤ leftBalance) .invalidStateTransition
  let (w, raffle) ← transitionStatus w (raffle.setPrizeDeposited false) .cancelled
    c.timestamp
  let w ← transfer w .emergencyWithdrawal raffle.prizeToken h.self raffle.creator
    raffle.prizeAmount
  return emit w (.emergencyWithdrawn caller raffle.creator raffle.prizeAmount raffle.prizeToken
    c.timestamp)

/-- The removals of `wipe_storage`. The oracle list is looked up in the
instance tier, where the draw never stores it. -/
def removeSettlement (w : World) (raffle : Raffle) : World :=
  let sold := fun i => 1 ≤ i ∧ i ≤ raffle.ticketsSold
  let buyers := w.ticketBuyers.getD []
  let oracles := w.instanceQuorumSubmittedOracles.getD []
  { w with
    ticket := fun i => if sold i then none else w.ticket i
    ticketRefunded := fun i => if sold i then none else w.ticketRefunded i
    commitEntry := fun i => if sold i then none else w.commitEntry i
    ticketCount := fun a => if a ∈ buyers then none else w.ticketCount a
    ownerTickets := fun a => if a ∈ buyers then none else w.ownerTickets a
    ticketBuyers := none
    paused := none
    reentrancyGuard := none
    accumulatedFees := none
    randomnessRequested := none
    randomnessRequestLedger := none
    randomnessRequestId := none
    drawingLock := none
    finishTime := none
    pendingAdminCancel := none
    quorumSeed := fun a => if a ∈ oracles then none else w.quorumSeed a
    instanceQuorumSubmittedOracles := none }

def wipeStorage (h : Host) (c : Ctx) (w : World) : Result World := do
  let factory ← okOr w.factory .notAuthorized
  requireAuth h c factory
  let raffle ← readRaffle w
  ensure (raffle.status = .cancelled ∨ raffle.status = .claimed ∨ raffle.status = .failed)
    .invalidStatus
  ensure (raffle.status = .cancelled ∨ raffle.status = .failed →
    raffle.prizeDeposited = false ∧ allRefunded w raffle = true) .invalidStateTransition
  ensure (w.balance raffle.paymentToken h.self = 0 ∧ w.balance raffle.prizeToken h.self = 0)
    .invalidStateTransition
  return emit (removeSettlement w raffle) (.storageWiped factory c.timestamp)

end TikkaRaffle.Instance
