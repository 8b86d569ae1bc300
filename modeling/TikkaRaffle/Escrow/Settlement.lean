import TikkaRaffle.Escrow.Sale

/-! Prize claims and sweeps, refunds, and the administrative token exits on
the books. Prizes are paid in the payment token: initialisation sets both
fields to the same address and no call changes either. -/
namespace TikkaRaffle.Escrow

open TikkaRaffle.Lib TikkaRaffle.Instance

variable {h : Host} {c : Ctx} {w w' : World} {r r' : Raffle}

theorem settleIfAllClaimed_view {time : Nat}
    (hok : settleIfAllClaimed w r time = .ok (w', r')) :
    view h w' r' = (view h w r).settle := by
  unfold settleIfAllClaimed at hok
  split at hok
  next hall =>
    obtain ⟨-, rfl, rfl⟩ := transitionStatus_ok.mp hok
    rw [Books.settle_closed hall]
    exact view_emit_hop _ _ _
  next hopen =>
    cases hok
    rw [Books.settle_open (by simpa using hopen)]

theorem payWinner_view {winner : Address} {tier : Nat} {net : Int}
    (htoken : r.prizeToken = r.paymentToken)
    (hok : payWinner h w r winner tier net = .ok w') :
    view h w' r = (view h w r).post h.self (payoutTransfers h.self r winner tier net) ∧
      w'.raffle = w.raffle := by
  unfold payWinner at hok
  unfold payoutTransfers
  split at hok
  next hpos =>
    obtain ⟨-, rfl⟩ := tryTransfer_ok.mp hok
    rw [htoken, if_pos hpos]
    exact ⟨view_applyTransfer .., rfl⟩
  next hpos =>
    cases hok
    rw [if_neg hpos, Books.post_nil]
    exact ⟨rfl, rfl⟩

theorem claimPrize_refines {winner : Address} {tier : Nat} {paid : Int}
    (hr : w.raffle = some r) (htoken : r.prizeToken = r.paymentToken)
    (hok : claimPrize h c w winner tier = .ok (w', paid)) :
    Refines h (.claimPrize winner tier) w r w' := by
  simp only [claimPrize, except_bind_ok, requireAuth_ok, readRaffle_ok, hr, Option.some.injEq,
    exists_eq_left', ensure_ok, okOr_ok, checkedI128_ok, Prod.exists, except_pure_ok,
    Prod.mk.injEq, exists_const] at hok
  obtain ⟨⟨-, hself⟩, -, hguard, hfinalized, -, -, -, entry, hentry, hwinner, hunclaimed, amount,
    htier, hpos, fee, hfee, net, ⟨-, rfl⟩, hcovered, w₁, r₁, hsettle, w₂, hpay, w₃, hcollect,
    rfl, rfl⟩ := hok
  have hmarked : view h w₁ r₁ = (view h w r).markTier tier := settleIfAllClaimed_view hsettle
  have hterms := (view h w (r.claimTier tier)).settle_raffle
  rw [← settleIfAllClaimed_view hsettle] at hterms
  obtain ⟨htok : r₁.paymentToken = r.paymentToken, hprize : r₁.prizeToken = r.prizeToken,
    htreasury : r₁.treasuryAddress = r.treasuryAddress⟩ := hterms
  have htoken₁ : r₁.prizeToken = r₁.paymentToken := by rw [hprize, htoken, htok]
  obtain ⟨hpaid, hstored⟩ := payWinner_view htoken₁ hpay
  rw [htoken₁] at hcollect
  rw [htoken] at hcovered
  obtain ⟨hcollected, hkept⟩ := collectFee_view hcollect
  refine .single (hkept.trans hstored) rfl (.claim (view h w r) tier winner amount fee
    ⟨hfinalized, ?_, htier, hpos, hcovered⟩ hself hfee) ?_
  · rw [view_raffle, hentry, ← hwinner, ← hunclaimed]
  · rw [view_emit_receipt rfl rfl, hcollected, hpaid, view_writeRaffle, hmarked,
      Books.post_post, Books.markTier_pay]
    simp only [payoutTransfers, feeTransfers, htok, htreasury, view_raffle]

def settledRaffle (r : Raffle) : Raffle :=
  if r.winners.all Winner.claimed then r.setStatus .claimed else r

theorem settleIfAllClaimed_some (w : World) (hfinalized : r.status = .finalized) (time : Nat) :
    ∃ w₁, settleIfAllClaimed w r time = .ok (w₁, settledRaffle r) ∧
      w₁.reentrancyGuard = w.reentrancyGuard ∧ w₁.balance = w.balance ∧
      w₁.transfers = w.transfers ∧ w₁.accumulatedFees = w.accumulatedFees := by
  unfold settleIfAllClaimed settledRaffle
  by_cases hall : r.winners.all Winner.claimed = true
  · rw [if_pos hall, if_pos hall, transitionStatus, hfinalized]
    exact ⟨_, rfl, rfl, rfl, rfl, rfl⟩
  · rw [if_neg hall, if_neg hall]
    exact ⟨_, rfl, rfl, rfl, rfl, rfl⟩

theorem acquireGuard_some (hfree : w.reentrancyGuard = none) :
    acquireGuard w = .ok { w with reentrancyGuard := some true } := by
  rw [acquireGuard, hfree]
  rfl

theorem sweepTiers_closed {treasury : Address} {tier count swept n : Nat}
    (hall : r.winners.all Winner.claimed = true)
    (hok : sweepTiers h c treasury w r tier count swept = .ok (w', r', n)) :
    w' = w ∧ r' = r := by
  induction count generalizing tier with
  | zero =>
    cases hok
    exact ⟨rfl, rfl⟩
  | succ count ih =>
    simp only [sweepTiers, except_bind_ok, okOr_ok] at hok
    obtain ⟨entry, hentry, hok⟩ := hok
    have hclaimed : entry.claimed = true :=
      List.all_eq_true.mp hall entry (List.mem_of_getElem? hentry)
    rw [if_pos hclaimed] at hok
    exact ih hok

/-- The sweep loop is a path of single sweeps; the last open tier settles the
raffle already inside the loop. -/
theorem sweepTiers_path {treasury : Address} {tier count swept n : Nat}
    (hfinalized : r.status = .finalized) (htoken : r.prizeToken = r.paymentToken)
    (htreasury : r.treasuryAddress = some treasury)
    (hopen : r.winners.all Winner.claimed = false)
    (hok : sweepTiers h c treasury w r tier count swept = .ok (w', r', n)) :
    ∃ acts, (∀ a ∈ acts, ∃ t, tier ≤ t ∧ t < tier + count ∧ a = .sweep t) ∧
      Path (Move h) (view h w r) acts (view h w' r').settle := by
  induction count generalizing w r tier swept with
  | zero =>
    cases hok
    refine ⟨[], by simp, ?_⟩
    rw [Books.settle_open hopen]
    exact .nil _
  | succ count ih =>
    have hskip : sweepTiers h c treasury w r (tier + 1) count swept = .ok (w', r', n) →
        ∃ acts, (∀ a ∈ acts, ∃ t, tier ≤ t ∧ t < tier + (count + 1) ∧ a = .sweep t) ∧
          Path (Move h) (view h w r) acts (view h w' r').settle := by
      intro hrest
      obtain ⟨acts, hacts, hpath⟩ := ih hfinalized htoken htreasury hopen hrest
      refine ⟨acts, fun a ha => ?_, hpath⟩
      obtain ⟨t, hlow, hhigh, rfl⟩ := hacts a ha
      exact ⟨t, by omega, by omega, rfl⟩
    simp only [sweepTiers, except_bind_ok, okOr_ok] at hok
    obtain ⟨⟨winner, claimed⟩, hentry, hok⟩ := hok
    split at hok
    next => exact hskip hok
    next hunclaimed =>
      simp only [except_bind_ok] at hok
      obtain ⟨amount, hamount, hok⟩ := hok
      split at hok
      next => exact hskip hok
      next hpos =>
        simp only [except_bind_ok, tryTransfer_ok, htoken] at hok
        obtain ⟨_, ⟨hallowed, rfl⟩, hrest⟩ := hok
        have hclaimed : claimed = false := Bool.eq_false_iff.mpr hunclaimed
        subst hclaimed
        have hmove := Move.sweep (view h w r) tier winner treasury amount
          ⟨hfinalized, hentry, hamount, not_le.mp hpos, hallowed.2⟩ htreasury
        rw [view_raffle, ← view_applyTransfer, ← view_emit_receipt
          (e := .prizeSwept winner tier treasury amount c.timestamp) rfl rfl] at hmove
        rcases Bool.eq_false_or_eq_true ((r.claimTier tier).winners.all Winner.claimed) with
          hall | hrestOpen
        · obtain ⟨rfl, rfl⟩ := sweepTiers_closed hall hrest
          exact ⟨[.sweep tier], by simp, .single hmove⟩
        · obtain ⟨acts, hacts, hpath⟩ :=
            ih (r := r.claimTier tier) hfinalized htoken htreasury hrestOpen hrest
          refine ⟨.sweep tier :: acts, ?_, .cons hmove ?_⟩
          · intro a ha
            rcases List.mem_cons.mp ha with rfl | ha
            · exact ⟨tier, le_rfl, by omega, rfl⟩
            · obtain ⟨t, hlow, hhigh, rfl⟩ := hacts a ha
              exact ⟨t, by omega, by omega, rfl⟩
          · unfold Books.markTier
            rw [Books.settle_open hrestOpen]
            exact hpath

theorem sweepUnclaimed_refines {startIndex limit n : Nat} (hr : w.raffle = some r)
    (htoken : r.prizeToken = r.paymentToken)
    (hopen : r.status = .finalized → r.winners.all Winner.claimed = false)
    (hok : sweepUnclaimed h c w startIndex limit = .ok (w', n)) :
    Refines h (.sweepUnclaimed startIndex limit) w r w' := by
  simp only [sweepUnclaimed, except_bind_ok, readRaffle_ok, hr, Option.some.injEq,
    exists_eq_left', ensure_ok, okOr_ok, trapU64_ok, exists_const] at hok
  obtain ⟨-, -, hfinalized, -, finalizedAt, -, expires, -, -, treasury, htreasury, hok⟩ := hok
  split at hok
  next =>
    cases hok
    exact .quiet hr ⟨hfinalized, by simp⟩ rfl
  next hstart =>
    simp only [except_bind_ok, Prod.exists, except_pure_ok, Prod.mk.injEq] at hok
    obtain ⟨w₁, r₁, swept, hsweep, w₂, r₂, hsettle, rfl, rfl⟩ := hok
    obtain ⟨acts, hacts, hpath⟩ :=
      sweepTiers_path hfinalized htoken htreasury (hopen hfinalized) hsweep
    rw [← settleIfAllClaimed_view hsettle] at hpath
    refine ⟨r₂, acts, rfl, ⟨hfinalized, fun a ha => ?_⟩, hpath⟩
    obtain ⟨t, hlow, hhigh, rfl⟩ := hacts a ha
    refine ⟨t, ⟨hlow, ?_⟩, rfl⟩
    simp only [saturateU32] at hhigh
    omega

theorem refundPrize_refines (hr : w.raffle = some r) (htoken : r.prizeToken = r.paymentToken)
    (hok : refundPrize h c w = .ok w') : Refines h .refundPrize w r w' := by
  simp only [refundPrize, except_bind_ok, readRaffle_ok, hr, Option.some.injEq, exists_eq_left',
    requireAuth_ok, ensure_ok, tryTransfer_ok, except_pure_ok, exists_const] at hok
  obtain ⟨-, -, ⟨-, hcreator⟩, hstatus, hdeposited, _, ⟨hallowed, rfl⟩, rfl⟩ := hok
  refine .single rfl rfl
    (.returnPrize (view h w r) hstatus hdeposited hcreator hallowed.1) ?_
  rw [view_emit_silent (by rfl), view_applyTransfer, htoken]
  rfl

theorem refundTicket_refines {caller : Address} {ticketId : Nat} {paid : Int}
    (hr : w.raffle = some r) (hok : refundTicket h c w caller ticketId = .ok (w', paid)) :
    Refines h (.refundTicket caller ticketId) w r w' := by
  simp only [refundTicket, except_bind_ok, readRaffle_ok, hr, Option.some.injEq,
    exists_eq_left', ensure_ok, okOr_ok, requireAuth_ok, tryTransfer_ok, except_pure_ok,
    Prod.mk.injEq, exists_const, Option.isNone_iff_eq_none] at hok
  obtain ⟨hstatus, -, -, ticket, hticket, -, hunmarked, _, ⟨hallowed, rfl⟩, rfl, -⟩ := hok
  refine .single hr rfl (.refund (view h w r) ticketId ticket ticket.owner ticket.pricePaid
    hstatus hticket hunmarked (.inl rfl) (.inl rfl) hallowed.1) ?_
  rw [view_emit_silent (by rfl), view_applyTransfer]
  rfl

/-- A batch is a path of single refunds; ids that repeat or carry a mark make
no move. -/
theorem refundBatch_path {mayRefund : Ticket → Bool} {recipient : Ticket → Address}
    {published : Ticket → Event} {ids : List Nat} {total paid : Int}
    (hr : w.raffle = some r) (hstatus : Refundable r)
    (hrecipient : ∀ ticket, recipient ticket = ticket.owner ∨ recipient ticket = ticket.payer)
    (hsilent : ∀ ticket, silent (published ticket) = true)
    (hok : refundBatch h r mayRefund recipient published w ids total = .ok (w', paid)) :
    ∃ acts, w'.raffle = some r ∧ (∀ a ∈ acts, ∃ id ∈ ids, a = .refund id) ∧
      Path (Move h) (view h w r) acts (view h w' r) := by
  induction ids generalizing w total with
  | nil =>
    cases hok
    exact ⟨[], hr, by simp, .nil _⟩
  | cons ticketId rest ih =>
    simp only [refundBatch, except_bind_ok, okOr_ok, ensure_ok, exists_const] at hok
    obtain ⟨ticket, hticket, -, hok⟩ := hok
    split at hok
    next =>
      obtain ⟨acts, hr', hacts, hpath⟩ := ih hr hok
      refine ⟨acts, hr', fun a ha => ?_, hpath⟩
      obtain ⟨id, hid, rfl⟩ := hacts a ha
      exact ⟨id, List.mem_cons_of_mem _ hid, rfl⟩
    next hunmarked =>
      simp only [except_bind_ok, tryTransfer_ok, checkedI128_ok] at hok
      obtain ⟨_, ⟨hallowed, rfl⟩, total', ⟨-, rfl⟩, hok⟩ := hok
      obtain ⟨acts, hr', hacts, hpath⟩ := ih (by exact hr) hok
      rw [view_emit_silent (hsilent ticket), view_applyTransfer] at hpath
      refine ⟨.refund ticketId :: acts, hr', ?_, .cons ?_ hpath⟩
      · intro a ha
        rcases List.mem_cons.mp ha with rfl | ha
        · exact ⟨ticketId, List.mem_cons_self .., rfl⟩
        · obtain ⟨id, hid, rfl⟩ := hacts a ha
          exact ⟨id, List.mem_cons_of_mem _ hid, rfl⟩
      · exact .refund (view h w r) ticketId ticket (recipient ticket) r.ticketPrice hstatus
          hticket (Option.not_isSome_iff_eq_none.mp hunmarked) (hrecipient ticket) (.inr rfl)
          hallowed.1

theorem batchRefundTickets_refines {caller : Address} {ids : List Nat} {paid : Int}
    (hr : w.raffle = some r) (hok : batchRefundTickets h c w caller ids = .ok (w', paid)) :
    Refines h (.batchRefundTickets caller ids) w r w' := by
  simp only [batchRefundTickets, except_bind_ok, readRaffle_ok, hr, Option.some.injEq,
    exists_eq_left', ensure_ok, requireAuth_ok, exists_const] at hok
  obtain ⟨hstatus, -, -, -, hok⟩ := hok
  obtain ⟨acts, hr', hacts, hpath⟩ :=
    refundBatch_path hr hstatus (fun _ => .inr rfl) (fun _ => rfl) hok
  exact ⟨r, acts, hr', ⟨hstatus, hacts⟩, hpath⟩

theorem batchRefundTicketsOwned_refines {owner : Address} {ids : List Nat} {paid : Int}
    (hr : w.raffle = some r) (hok : batchRefundTicketsOwned h c w owner ids = .ok (w', paid)) :
    Refines h (.batchRefundTicketsOwned owner ids) w r w' := by
  simp only [batchRefundTicketsOwned, except_bind_ok, readRaffle_ok, hr, Option.some.injEq,
    exists_eq_left', ensure_ok, requireAuth_ok, exists_const] at hok
  obtain ⟨-, hstatus, -, -, hok⟩ := hok
  obtain ⟨acts, hr', hacts, hpath⟩ :=
    refundBatch_path hr hstatus (fun _ => .inl rfl) (fun _ => rfl) hok
  exact ⟨r, acts, hr', ⟨hstatus, hacts⟩, hpath⟩

end TikkaRaffle.Escrow
