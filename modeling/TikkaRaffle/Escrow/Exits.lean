import TikkaRaffle.Escrow.Sale

/-! Fee withdrawal, rescue, dust sweep, emergency withdrawal and wipe on the
books, with the entitlement each of them is measured against. -/
namespace TikkaRaffle.Escrow

open TikkaRaffle.Lib TikkaRaffle.Instance

variable {h : Host} {c : Ctx} {w w' : World} {r : Raffle}

section Entitlement

variable {reading : TierReading} {refunded : Nat → Option Bool} {fees entitlement : Int}

theorem tokenEntitlement_open (htoken : r.prizeToken = r.paymentToken) (hopen : ¬Settled r)
    (hok : tokenEntitlement reading refunded fees r r.paymentToken = .ok entitlement) :
    ∃ refunds prize, outstandingTicketRefunds refunded r = .ok refunds ∧
      outstandingPrize reading r = .ok prize ∧ entitlement = refunds + fees + prize := by
  have hstatus : r.status ≠ .finalized ∧ r.status ≠ .claimed := not_or.mp hopen
  simp only [tokenEntitlement, htoken, hstatus, ne_eq, not_false_eq_true, and_self, if_true,
    except_bind_ok, checkedI128_ok] at hok
  obtain ⟨_, ⟨refunds, hrefunds, -, rfl⟩, prize, hprize, -, rfl⟩ := hok
  exact ⟨refunds, prize, hrefunds, hprize, rfl⟩

theorem tokenEntitlement_settled (htoken : r.prizeToken = r.paymentToken) (hsettled : Settled r)
    (hok : tokenEntitlement reading refunded fees r r.paymentToken = .ok entitlement) :
    outstandingPrize reading r = .ok entitlement := by
  have hstatus : ¬(r.status ≠ .finalized ∧ r.status ≠ .claimed) := by
    rcases hsettled with hs | hs <;> simp [hs]
  simp only [tokenEntitlement, htoken, true_and, hstatus, if_false, if_true, except_bind_ok,
    checkedI128_ok, Except.ok.injEq, exists_eq_left', zero_add] at hok
  obtain ⟨prize, hprize, -, rfl⟩ := hok
  exact hprize

theorem outstandingPrize_undrawn (hdeposited : r.prizeDeposited = true)
    (hstatus : r.status ≠ .finalized) : outstandingPrize reading r = .ok r.prizeAmount := by
  simp [outstandingPrize, hdeposited, hstatus]

theorem outstandingTicketRefunds_ok {refunds : Int}
    (hok : outstandingTicketRefunds refunded r = .ok refunds) :
    refunds = r.ticketPrice *
      (List.range' 1 r.ticketsSold).countP fun ticketId => (refunded ticketId).isNone := by
  have hsum : refunds = 0 + ((List.range' 1 r.ticketsSold).map fun ticketId =>
      if (refunded ticketId).isNone then r.ticketPrice else 0).sum := by
    refine foldlM_sum (fun acc ticketId acc' _ hround => ?_) hok
    cases hmark : refunded ticketId with
    | none =>
      simp only [hmark, Option.isSome_none, Bool.false_eq_true, if_false, checkedI128_ok] at hround
      exact hround.2.symm
    | some mark =>
      simp only [hmark, Option.isSome_some, if_true, Except.ok.injEq] at hround
      simp [hround]
  rw [hsum, zero_add, ← tally_eq_sum]
  exact tally_const fun _ _ _ => rfl

end Entitlement

theorem withdrawFees_refines {recipient : Address} {amount : Int} (hr : w.raffle = some r)
    (hok : withdrawFees h c w recipient amount = .ok w') :
    Refines h (.withdrawFees recipient amount) w r w' := by
  simp only [withdrawFees, except_bind_ok, readRaffle_ok, hr, Option.some.injEq,
    exists_eq_left', ensure_ok, transfer_ok, trapI128_ok, except_pure_ok, exists_const] at hok
  obtain ⟨admin, -, hstatus, hpos, hbooked, _, ⟨-, rfl⟩, left, ⟨-, rfl⟩, rfl⟩ := hok
  refine .single hr rfl (.withdraw (view h w r) recipient amount hstatus hpos hbooked) ?_
  rw [view_emit_silent (by rfl), ← view_applyTransfer]
  rfl

theorem requireSurplus_ok {token : Address} {amount : Int} {u : Unit}
    (hok : requireSurplus h w r token amount = .ok u) :
    ∃ entitlement, tokenEntitlement h.tierReading w.ticketRefunded (w.accumulatedFees.getD 0) r
      token = .ok entitlement ∧ entitlement + amount ≤ w.balance token h.self := by
  simp only [requireSurplus, except_bind_ok, ensure_ok, trapI128_ok, exists_const] at hok
  obtain ⟨entitlement, hentitlement, -, surplus, ⟨-, rfl⟩, hsurplus⟩ := hok
  exact ⟨entitlement, hentitlement, by omega⟩

theorem rescueTokens_releases {token recipient : Address} {amount : Int} (hr : w.raffle = some r)
    (hok : rescueTokens h c w token recipient amount = .ok w') :
    w'.raffle = some r ∧ 0 < amount ∧
      view h w' r = (view h w r).post h.self [⟨.rescue, token, h.self, recipient, amount⟩] ∧
      ∃ entitlement, tokenEntitlement h.tierReading w.ticketRefunded
        (w.accumulatedFees.getD 0) r token = .ok entitlement ∧
          entitlement + amount ≤ w.balance token h.self := by
  simp only [rescueTokens, requireRescuable, hr, except_bind_ok, ensure_ok, tryTransfer_ok,
    except_pure_ok, exists_const] at hok
  obtain ⟨admin, -, hpos, u, hsurplus, _, ⟨-, rfl⟩, rfl⟩ := hok
  refine ⟨hr, hpos, ?_, requireSurplus_ok hsurplus⟩
  rw [view_emit_silent (by rfl), view_applyTransfer]

theorem rescueTokens_refines {token recipient : Address} {amount : Int} (hr : w.raffle = some r)
    (hok : rescueTokens h c w token recipient amount = .ok w') :
    Refines h (.rescueTokens token recipient amount) w r w' := by
  obtain ⟨hr', hpos, hview, entitlement, hentitlement, hleft⟩ := rescueTokens_releases hr hok
  refine .single hr' rfl (.release (view h w r) .rescue token recipient amount entitlement
    (.inl rfl) hpos hentitlement fun htoken => ?_) hview
  rw [htoken] at hleft
  exact hleft

theorem sweepDust_releases (hr : w.raffle = some r) (hok : sweepDust h c w = .ok w') :
    w'.raffle = some r ∧ (r.status = .claimed ∨ r.status = .cancelled) ∧
      ∃ treasury entitlement, r.treasuryAddress = some treasury ∧
        tokenEntitlement h.tierReading w.ticketRefunded (w.accumulatedFees.getD 0) r
          r.paymentToken = .ok entitlement ∧
        (w.balance r.paymentToken h.self = entitlement ∧ view h w' r = view h w r ∨
          entitlement < w.balance r.paymentToken h.self ∧
            view h w' r = (view h w r).post h.self [⟨.dust, r.paymentToken, h.self, treasury,
              w.balance r.paymentToken h.self - entitlement⟩]) := by
  simp only [sweepDust, except_bind_ok, readRaffle_ok, hr, Option.some.injEq, exists_eq_left',
    ensure_ok, okOr_ok, trapI128_ok, exists_const] at hok
  obtain ⟨admin, -, hstatus, -, treasury, htreasury, entitlement, hentitlement, hcover, dust,
    ⟨-, rfl⟩, hok⟩ := hok
  split at hok
  next hpos =>
    simp only [except_bind_ok, tryTransfer_ok, except_pure_ok] at hok
    obtain ⟨_, ⟨-, rfl⟩, rfl⟩ := hok
    refine ⟨hr, hstatus, treasury, entitlement, htreasury, hentitlement, .inr ⟨by omega, ?_⟩⟩
    rw [view_emit_silent (by rfl), view_applyTransfer]
  next hnone =>
    cases hok
    exact ⟨hr, hstatus, treasury, entitlement, htreasury, hentitlement, .inl ⟨by omega, rfl⟩⟩

theorem sweepDust_refines (hr : w.raffle = some r) (hok : sweepDust h c w = .ok w') :
    Refines h .sweepDust w r w' := by
  obtain ⟨hr', -, treasury, entitlement, -, hentitlement, ⟨-, hview⟩ | ⟨hdust, hview⟩⟩ :=
    sweepDust_releases hr hok
  · exact .quiet hr' (.inl rfl) hview
  · refine .single hr' (.inr rfl) (.release (view h w r) .dust r.paymentToken treasury _
      entitlement (.inr rfl) (by omega) hentitlement fun _ => ?_) hview
    simp only [view]
    omega

theorem emergencyWithdraw_refines {caller : Address} (hr : w.raffle = some r)
    (htoken : r.prizeToken = r.paymentToken) (hok : emergencyWithdraw h c w caller = .ok w') :
    Refines h (.emergencyWithdraw caller) w r w' := by
  simp only [emergencyWithdraw, except_bind_ok, requireAuth_ok, readRaffle_ok, hr,
    Option.some.injEq, exists_eq_left', ensure_ok, okOr_ok, trapI128_ok, Prod.exists,
    transitionStatus_ok, transfer_ok, except_pure_ok, exists_const] at hok
  obtain ⟨-, hdeposited, admin, -, -, hdrawing, -, -, entitlement, hentitlement, -, _,
    ⟨-, rfl⟩, _, ⟨-, rfl⟩, hcover, _, _, ⟨-, rfl, rfl⟩, _, ⟨hallowed, rfl⟩, rfl⟩ := hok
  rw [htoken] at hentitlement hcover
  obtain ⟨refunds, prize, hrefunds, hprize, rfl⟩ :=
    tokenEntitlement_open htoken (by simp [Settled, hdrawing]) hentitlement
  rw [outstandingPrize_undrawn hdeposited (by simp [hdrawing])] at hprize
  cases hprize
  refine .single rfl rfl (.emergency (view h w r) refunds hdrawing hdeposited hrefunds ?_
    hallowed.1) ?_
  · simp only [view]
    omega
  · rw [view_emit_silent (by rfl), view_applyTransfer, view_emit_hop]
    simp only [Raffle.setStatus_prizeToken, Raffle.setPrizeDeposited_prizeToken, htoken]
    rfl

theorem allRefunded_iff :
    allRefunded w r = true ↔ ∀ i, 1 ≤ i → i ≤ r.ticketsSold → (w.ticketRefunded i).isSome := by
  simp only [allRefunded, List.all_eq_true, List.mem_range'_1]
  exact ⟨fun hall i hlow hhigh => hall i ⟨hlow, by omega⟩, fun hall i hi => hall i hi.1 (by omega)⟩

theorem wipeStorage_refines (hr : w.raffle = some r) (hok : wipeStorage h c w = .ok w') :
    Refines h .wipeStorage w r w' := by
  simp only [wipeStorage, except_bind_ok, okOr_ok, requireAuth_ok, readRaffle_ok, hr,
    Option.some.injEq, exists_eq_left', ensure_ok, allRefunded_iff, except_pure_ok,
    exists_const] at hok
  obtain ⟨factory, -, -, hstatus, hrefunded, ⟨hempty, -⟩, rfl⟩ := hok
  refine .single hr rfl (.wipe (view h w r) ?_ hrefunded hempty) ?_
  · rcases hstatus with hs | hs | hs
    · exact .inl (.inl hs)
    · exact .inr hs
    · exact .inl (.inr hs)
  · rw [view_emit_silent (by rfl)]
    rfl

end TikkaRaffle.Escrow
