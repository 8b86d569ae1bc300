import TikkaRaffle.Escrow.View

/-! Which moves each call stands for, and the refinement of the calls that
make one simple move or none. -/
namespace TikkaRaffle.Instance

open TikkaRaffle.Lib TikkaRaffle.Escrow

def sweepWindow (startIndex limit tier : Nat) : Prop :=
  startIndex ≤ tier ∧
    tier < startIndex + (if limit = 0 then Constants.maxSweepUnclaimedPerCall
      else min limit Constants.maxSweepUnclaimedPerCall)

/-- A draw that `finalize_raffle` completes in the same call. -/
def RandomnessSource.onChain (source : RandomnessSource) : Prop :=
  source = .internal ∨ source = .commitReveal

def quorumReached (w : World) (r : Raffle) : Prop :=
  ∃ config, r.randomnessSource = .quorum config ∧
    config.k ≤ (w.quorumSubmittedOracles.getD []).length + 1

instance (startIndex limit tier : Nat) : Decidable (sweepWindow startIndex limit tier) :=
  inferInstanceAs (Decidable (_ ∧ _))

instance (source : RandomnessSource) : Decidable (RandomnessSource.onChain source) :=
  inferInstanceAs (Decidable (_ ∨ _))

instance (w : World) (r : Raffle) : Decidable (quorumReached w r) :=
  match hsource : r.randomnessSource with
  | .quorum config =>
    decidable_of_iff (config.k ≤ (w.quorumSubmittedOracles.getD []).length + 1)
      (by simp [quorumReached, hsource])
  | .internal | .external | .commitReveal => isFalse (by simp [quorumReached, hsource])

/-- The moves a committed call makes, in order. -/
def Call.Yields (w : World) (r : Raffle) (acts : List Act) : Call → Prop
  | .depositPrize => acts = [.deposit]
  | .buyTickets buyer quantity => acts = [.buy ⟨buyer, buyer, quantity, true⟩]
  | .buyTicketsFor buyer recipient quantity => acts = [.buy ⟨buyer, recipient, quantity, false⟩]
  | .finalizeRaffle =>
      acts = [.fail] ∨ acts = [.startDraw] ∨
        RandomnessSource.onChain r.randomnessSource ∧ acts = [.startDraw, .finish]
  | .provideRandomness .. => acts = [.finish]
  | .provideQuorumRandomness .. => acts = [] ∨ quorumReached w r ∧ acts = [.finish]
  | .triggerRandomnessFallback .. =>
      w.drawingLock.getD false = false ∧ (acts = [.abandon] ∨ acts = [.finish])
  | .claimPrize _ tier => acts = [.claim tier]
  | .sweepUnclaimed startIndex limit =>
      r.status = .finalized ∧
        ∀ a ∈ acts, ∃ tier, sweepWindow startIndex limit tier ∧ a = .sweep tier
  | .withdrawFees _ amount => acts = [.withdraw amount]
  | .cancelRaffle reason =>
      reason = .adminCancelled ∧ acts = [] ∨ reason ≠ .adminCancelled ∧ acts = [.cancel]
  | .executeAdminCancel => acts = [.cancel]
  | .refundPrize => acts = [.returnPrize]
  | .emergencyWithdraw _ => acts = [.emergency]
  | .refundTicket _ ticketId => acts = [.refund ticketId]
  | .batchRefundTickets _ ticketIds | .batchRefundTicketsOwned _ ticketIds =>
      Refundable r ∧ ∀ a ∈ acts, ∃ ticketId ∈ ticketIds, a = .refund ticketId
  | .wipeStorage => acts = [.wipe]
  | .rescueTokens token _ _ => acts = [.release token]
  | .sweepDust => acts = [] ∨ acts = [.release r.paymentToken]
  | .pauseTicketSales _ | .resumeTicketSales _ | .updateOracleAddress _ | .setSwapDeadline _ =>
      acts = [.retune]
  | .setProtocolFeeBp newFeeBp => acts = [.setFee newFeeBp]
  | .tokenTransfer token source target amount =>
      acts = [.outside ⟨.outside, token, source, target, amount⟩]
  | .submitCommit .. | .pause | .unpause | .updateMetadataHash _ | .extendTtl .. => acts = []

end TikkaRaffle.Instance

namespace TikkaRaffle.Escrow

open TikkaRaffle.Lib TikkaRaffle.Instance

/-- A committed call is a path of its moves on the books. -/
def Refines (h : Host) (call : Call) (w : World) (r : Raffle) (w' : World) : Prop :=
  ∃ r' acts, w'.raffle = some r' ∧ call.Yields w r acts ∧
    Path (Move h) (view h w r) acts (view h w' r')

section

variable {h : Host} {c : Ctx} {w w' : World} {r r' : Raffle}

theorem Refines.quiet {call : Call} (hr : w'.raffle = some r) (hcall : call.Yields w r [])
    (hview : view h w' r = view h w r) : Refines h call w r w' :=
  ⟨r, [], hr, hcall, hview ▸ .nil _⟩

theorem Refines.single {call : Call} {act : Act} {b : Books} (hr : w'.raffle = some r')
    (hcall : call.Yields w r [act]) (hmove : Move h act (view h w r) b)
    (hview : view h w' r' = b) : Refines h call w r w' :=
  ⟨r', [act], hr, hcall, hview ▸ .single hmove⟩

@[simp] theorem transitionStatus_ok {status : RaffleStatus} {time : Nat} :
    transitionStatus w r status time = .ok (w', r') ↔
      r.status.canTransitionTo status = true ∧
        emit (writeRaffle w (r.setStatus status))
          (.raffleStatusChanged r.status status time) = w' ∧
        r.setStatus status = r' := by
  unfold transitionStatus
  exact except_ite_ok.trans (and_congr_right fun _ => Prod.ext_iff)

@[simp] theorem requireAdmin_ok {admin : Address} :
    requireAdmin h c w = .ok admin ↔
      w.admin = some admin ∧ admin ∈ c.auths ∧ admin ≠ h.self := by
  simp [requireAdmin, except_bind_ok, pure, Except.pure, and_assoc]

@[simp] theorem transitionToDrawing_ok {time : Nat} :
    transitionToDrawing w r time = .ok (w', r') ↔
      w.drawingLock.getD false = false ∧ r.status = .active ∧
        { emit (writeRaffle w (r.setStatus .drawing))
          (.raffleStatusChanged r.status .drawing time) with drawingLock := some true } = w' ∧
        r.setStatus .drawing = r' := by
  simp only [transitionToDrawing, except_bind_ok, ensure_ok, exists_const, Prod.exists,
    transitionStatus_ok, RaffleStatus.canTransitionTo_drawing, except_pure_ok, Prod.mk.injEq]
  constructor
  · rintro ⟨hlock, -, _, _, ⟨hactive, rfl, rfl⟩, hw, hr⟩
    exact ⟨hlock, hactive, hw, hr⟩
  · rintro ⟨hlock, hactive, hw, hr⟩
    exact ⟨hlock, by simp [hactive], _, _, ⟨hactive, rfl, rfl⟩, hw, hr⟩

@[simp] theorem failRaffle_ok :
    failRaffle c w r = .ok w' ↔ r.status = .active ∧
      emit (emit (writeRaffle w (r.setStatus .failed))
          (.raffleStatusChanged r.status .failed c.timestamp))
        (.raffleFailed r.creator
          (if r.ticketsSold = 0 then .zeroTicketsSold else .minTicketsNotMet) r.ticketsSold
          c.timestamp) = w' := by
  simp only [failRaffle, except_bind_ok, Prod.exists, transitionStatus_ok,
    RaffleStatus.canTransitionTo_failed, except_pure_ok]
  constructor
  · rintro ⟨_, _, ⟨hactive, rfl, rfl⟩, hw⟩
    exact ⟨hactive, hw⟩
  · rintro ⟨hactive, hw⟩
    exact ⟨_, _, ⟨hactive, rfl, rfl⟩, hw⟩

theorem requestRandomness_writes {requestId : Nat}
    (hok : requestRandomness h c w = .ok (w', requestId)) :
    w.randomnessRequested.getD false = false ∧
      w' = { w with
        randomnessRequested := some true
        randomnessRequestLedger := some c.sequence
        randomnessRequestId := some requestId } := by
  simp only [requestRandomness, except_bind_ok, ensure_ok, exists_const, except_pure_ok,
    Prod.mk.injEq] at hok
  obtain ⟨hfresh, rfl, rfl⟩ := hok
  exact ⟨hfresh, rfl⟩

theorem requestForDraw_writes {status : RaffleStatus} {oracles : List Address}
    (hok : requestForDraw h c w r status oracles = .ok w') :
    ∃ w₁ requestId, requestRandomness h c w = .ok (w₁, requestId) ∧
      w' = announceRequest c w₁ r oracles requestId := by
  unfold requestForDraw at hok
  split at hok
  next w₁ requestId hrequest =>
    cases hok
    exact ⟨w₁, requestId, hrequest, rfl⟩
  next => simp only [except_bind_ok, reduceCtorEq, and_false, exists_false] at hok

theorem startSoldOutDraw_cases {holder : Address}
    (hok : startSoldOutDraw h c w r holder = .ok (w', r')) :
    r.ticketsSold < r.maxTickets ∧ w' = w ∧ r' = r ∨
      r.maxTickets ≤ r.ticketsSold ∧ ∃ w₁, transitionToDrawing w r c.timestamp = .ok (w₁, r') ∧
        (r.randomnessSource ≠ .external ∧ w' = w₁ ∨
          r.randomnessSource = .external ∧ ∃ w₂ requestId triggered requested,
            requestRandomness h c w₁ = .ok (w₂, requestId) ∧ silent triggered = true ∧
              silent requested = true ∧ w' = emit (emit w₂ triggered) requested) := by
  unfold startSoldOutDraw at hok
  split at hok
  next hfull =>
    simp only [except_bind_ok, Prod.exists] at hok
    obtain ⟨w₁, r₁, hdrawing, hok⟩ := hok
    have hsource : r₁.randomnessSource = r.randomnessSource := by
      obtain ⟨-, -, -, rfl⟩ := transitionToDrawing_ok.mp hdrawing
      rfl
    rw [hsource] at hok
    split at hok
    next hexternal =>
      simp only [except_bind_ok, Prod.exists, except_pure_ok, Prod.mk.injEq] at hok
      obtain ⟨w₂, requestId, hrequest, rfl, rfl⟩ := hok
      exact .inr ⟨hfull, w₁, hdrawing, .inr ⟨hexternal, w₂, requestId, _, _, hrequest, rfl, rfl,
        rfl⟩⟩
    next hother =>
      cases hok
      exact .inr ⟨hfull, _, hdrawing, .inl ⟨hother, rfl⟩⟩
  next hopen =>
    cases hok
    exact .inl ⟨not_le.mp hopen, rfl, rfl⟩

theorem notifyFactory_writes {holder : Address} {totalPrice : Int}
    (hok : notifyFactory c w r holder totalPrice = .ok w') :
    ∃ calls, w' = { w with factoryCalls := calls } := by
  unfold notifyFactory at hok
  split at hok
  next =>
    cases hok
    exact ⟨w.factoryCalls, rfl⟩
  next =>
    simp only [except_bind_ok, invokeFactory_ok, exists_const, except_pure_ok] at hok
    obtain ⟨-, -, rfl⟩ := hok
    exact ⟨_, rfl⟩

theorem recordLeaderboard_writes (hok : recordLeaderboard h c w r = .ok w') :
    ∃ calls, w' = { w with factoryCalls := calls } := by
  unfold recordLeaderboard at hok
  split at hok
  next =>
    cases hok
    exact ⟨w.factoryCalls, rfl⟩
  next =>
    simp only [except_bind_ok, invokeFactory_ok, exists_const, except_pure_ok] at hok
    obtain ⟨-, rfl⟩ := hok
    exact ⟨_, rfl⟩

theorem recordBuyer_writes (w : World) (holder : Address) (count : Nat) :
    ∃ buyers, recordBuyer w holder count = { w with ticketBuyers := buyers } := by
  unfold recordBuyer
  split
  next => exact ⟨_, rfl⟩
  next => exact ⟨w.ticketBuyers, rfl⟩

theorem bumpRaffleTtl_writes (w : World) (total : Nat) :
    ∃ index, bumpRaffleTtl w total = { w with lastBumpedIndex := index } := by
  unfold bumpRaffleTtl
  split
  next => exact ⟨w.lastBumpedIndex, rfl⟩
  next => exact ⟨_, rfl⟩

theorem clearQuorumStorage_eq (w : World) : clearQuorumStorage w = { w with
    quorumSeed := fun a =>
      if a ∈ w.quorumSubmittedOracles.getD [] then none else w.quorumSeed a
    quorumSubmittedOracles := none } := by
  unfold clearQuorumStorage
  split
  next submitted hsubmitted => simp [hsubmitted]
  next hnone =>
    cases w
    cases hnone
    simp

theorem depositPrize_refines (hr : w.raffle = some r) (hok : depositPrize h c w = .ok w') :
    Refines h .depositPrize w r w' := by
  simp [depositPrize, requireNotPaused, hr] at hok
  obtain ⟨-, ⟨-, hcreator⟩, hdeposited, hallowed, hstatus, rfl⟩ := hok
  refine .single rfl rfl (.deposit (view h w r) hstatus hdeposited hcreator hallowed.1) ?_
  rw [view_emit_silent (by rfl), ← view_applyTransfer]
  exact view_emit_hop _ _ _

theorem submitCommit_refines {ticketId : Nat} {hash : Digest} (hr : w.raffle = some r)
    (hok : submitCommit h c w ticketId hash = .ok w') :
    Refines h (.submitCommit ticketId hash) w r w' := by
  simp [submitCommit, requireNotPaused, hr] at hok
  obtain ⟨-, -, -, -, ticket, -, -, -, rfl⟩ := hok
  exact .quiet rfl rfl rfl

theorem pause_refines (hr : w.raffle = some r) (hok : pause h c w = .ok w') :
    Refines h .pause w r w' := by
  simp [pause] at hok
  obtain ⟨factory, -, -, rfl⟩ := hok
  exact .quiet hr rfl (view_emit_silent (by rfl))

theorem unpause_refines (hr : w.raffle = some r) (hok : unpause h c w = .ok w') :
    Refines h .unpause w r w' := by
  simp [unpause] at hok
  obtain ⟨factory, -, -, rfl⟩ := hok
  exact .quiet hr rfl (view_emit_silent (by rfl))

theorem updateMetadataHash_refines {newHash : Digest} (hr : w.raffle = some r)
    (hok : updateMetadataHash h c w newHash = .ok w') :
    Refines h (.updateMetadataHash newHash) w r w' := by
  simp [updateMetadataHash] at hok
  obtain ⟨admin, -, oldHash, -, rfl⟩ := hok
  exact .quiet hr rfl (view_emit_silent (by rfl))

theorem extendTtl_refines {startTicketId limit n : Nat} (hr : w.raffle = some r)
    (hok : extendTtl w startTicketId limit = .ok (w', n)) :
    Refines h (.extendTtl startTicketId limit) w r w' := by
  simp [extendTtl, hr] at hok
  obtain ⟨rfl, -⟩ := hok
  exact .quiet hr rfl rfl

theorem setTicketSalesPaused_refines {call : Call} {caller : Address} {paused : Bool}
    {published : Event} (hr : w.raffle = some r) (hcall : call.Yields w r [.retune])
    (hsilent : silent published = true)
    (hok : setTicketSalesPaused h c w caller paused published = .ok w') :
    Refines h call w r w' := by
  simp [setTicketSalesPaused, hr] at hok
  obtain ⟨-, admin, -, -, -, rfl⟩ := hok
  exact .single rfl hcall (.retune (view h w r) r.oracleAddress r.swapDeadlineSeconds paused)
    (view_emit_silent hsilent)

theorem updateOracleAddress_refines {newOracle : Address} (hr : w.raffle = some r)
    (hok : updateOracleAddress h c w newOracle = .ok w') :
    Refines h (.updateOracleAddress newOracle) w r w' := by
  simp [updateOracleAddress, hr] at hok
  obtain ⟨admin, -, -, -, -, rfl⟩ := hok
  exact .single rfl rfl
    (.retune (view h w r) (some newOracle) r.swapDeadlineSeconds r.ticketSalesPaused)
    (view_emit_silent (by rfl))

theorem setSwapDeadline_refines {newDeadline : Nat} (hr : w.raffle = some r)
    (hok : setSwapDeadline h c w newDeadline = .ok w') :
    Refines h (.setSwapDeadline newDeadline) w r w' := by
  simp [setSwapDeadline, hr] at hok
  obtain ⟨admin, -, -, -, rfl⟩ := hok
  exact .single rfl rfl (.retune (view h w r) r.oracleAddress newDeadline r.ticketSalesPaused)
    (view_emit_silent (by rfl))

theorem setProtocolFeeBp_refines {newFeeBp : Nat} (hr : w.raffle = some r)
    (hok : setProtocolFeeBp h c w newFeeBp = .ok w') :
    Refines h (.setProtocolFeeBp newFeeBp) w r w' := by
  simp [setProtocolFeeBp, hr] at hok
  obtain ⟨admin, -, hbp, hsold, rfl⟩ := hok
  exact .single rfl rfl (.setFee (view h w r) newFeeBp hbp hsold) (view_emit_silent (by rfl))

theorem cancelNow_refines {call : Call} {reason : CancelReason} (w₀ : World)
    (hview : view h w₀ r = view h w r) (hcall : call.Yields w r [.cancel])
    (hok : cancelNow c w₀ r reason = .ok w') : Refines h call w r w' := by
  simp [cancelNow] at hok
  obtain ⟨-, hstatus, rfl⟩ := hok
  refine .single rfl hcall (.cancel (view h w r) hstatus) ?_
  rw [view_emit_silent (by rfl), ← hview]
  exact view_emit_hop _ _ _

theorem cancelRaffle_refines {reason : CancelReason} (hr : w.raffle = some r)
    (hok : cancelRaffle h c w reason = .ok w') : Refines h (.cancelRaffle reason) w r w' := by
  simp only [cancelRaffle, except_bind_ok, readRaffle_ok, hr, Option.some.injEq,
    exists_eq_left'] at hok
  split at hok
  next hadmin =>
    simp [scheduleCancel] at hok
    obtain ⟨admin, -, -, -, rfl⟩ := hok
    exact .quiet hr (.inl ⟨hadmin, rfl⟩) (view_emit_silent (by rfl))
  next hcreator =>
    simp only [except_bind_ok, requireAuth_ok, exists_const] at hok
    exact cancelNow_refines w rfl (.inr ⟨hcreator, rfl⟩) hok.2

theorem executeAdminCancel_refines (hr : w.raffle = some r)
    (hok : executeAdminCancel c w = .ok w') : Refines h .executeAdminCancel w r w' := by
  simp only [executeAdminCancel, except_bind_ok, readRaffle_ok, hr, Option.some.injEq,
    exists_eq_left', okOr_ok, ensure_ok, exists_const] at hok
  obtain ⟨cancelAt, -, -, hok⟩ := hok
  exact cancelNow_refines { w with pendingAdminCancel := none } rfl rfl hok

theorem tokenTransfer_refines {token source target : Address} {amount : Int}
    (hr : w.raffle = some r) (hok : tokenTransfer h c w token source target amount = .ok w') :
    Refines h (.tokenTransfer token source target amount) w r w' := by
  simp [tokenTransfer] at hok
  obtain ⟨⟨-, hsource⟩, hallowed, rfl⟩ := hok
  exact .single hr rfl (.outside (view h w r) ⟨.outside, token, source, target, amount⟩ rfl
    hsource hallowed.1) (view_applyTransfer ..)

end
end TikkaRaffle.Escrow
