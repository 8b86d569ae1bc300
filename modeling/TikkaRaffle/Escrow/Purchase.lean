import TikkaRaffle.Escrow.Sale

/-! Where a purchase stops. Once its checks have passed only the payment, the
fee and the factory can still refuse it. -/
namespace TikkaRaffle.Escrow

open TikkaRaffle.Lib TikkaRaffle.Instance

variable {h : Host} {c : Ctx} {w w' : World} {r r' : Raffle} {buyer holder : Address}
  {quantity : Nat} {total fee : Int}

/-- What a purchase relies on apart from its price. -/
structure OnSale (w : World) (r : Raffle) (holder : Address) (quantity : Nat) : Prop where
  stored : w.raffle = some r
  factory : w.factory.isSome = true
  active : r.status = .active
  unlocked : w.drawingLock.getD false = false
  unasked : w.randomnessRequested.getD false = false
  supply : r.ticketsSold + quantity ≤ r.maxTickets
  limit : r.maxTickets < 2 ^ 32
  count : (w.ticketCount holder).getD 0 + quantity < 2 ^ 32

/-- The treasury cannot be paid out of `held`, or the fee counter overflows. -/
def FeeRefused (r : Raffle) (fees held fee : Int) : Prop :=
  0 < fee ∧ (r.treasuryAddress.isSome = true ∧ held < fee ∨ ¬fitsI128 (fees + fee))

instance (r : Raffle) (fees held fee : Int) : Decidable (FeeRefused r fees held fee) :=
  inferInstanceAs (Decidable (_ ∧ _))

/-- How a purchase at this price fails, if it does. -/
def stopsAt (h : Host) (c : Ctx) (w : World) (r : Raffle) (buyer : Address) (total fee : Int) :
    Option Abort :=
  if ¬transferAllowed w r.paymentToken buyer total then some (.err .tokenTransferFailed)
  else if FeeRefused r (w.accumulatedFees.getD 0) (w.balance r.paymentToken h.self + total) fee then
    some .trap
  else if c.factory.recordVolume = true ∧ c.factory.trackParticipant = true then none
  else some .trap

def treasuryPaid (h : Host) (w : World) (r : Raffle) (fee : Int) : World :=
  r.treasuryAddress.elim w fun treasury =>
    applyTransfer w .ticketFee r.paymentToken h.self treasury fee

def feeCollected (h : Host) (w : World) (r : Raffle) (fee : Int) : World :=
  if 0 < fee then
    { treasuryPaid h w r fee with accumulatedFees := some (w.accumulatedFees.getD 0 + fee) }
  else w

theorem treasuryPaid_accumulatedFees :
    (treasuryPaid h w r fee).accumulatedFees = w.accumulatedFees := by
  unfold treasuryPaid
  cases r.treasuryAddress <;> rfl

theorem payTreasury_outcome (hfee : 0 < fee) :
    payTreasury h w r .ticketFee r.paymentToken fee =
      if r.treasuryAddress.isSome = true ∧ w.balance r.paymentToken h.self < fee then .error .trap
      else .ok (treasuryPaid h w r fee) := by
  unfold payTreasury treasuryPaid
  cases r.treasuryAddress with
  | none => simp
  | some treasury =>
    have hallowed : transferAllowed w r.paymentToken h.self fee ↔
        ¬w.balance r.paymentToken h.self < fee := by
      unfold transferAllowed
      omega
    by_cases hshort : w.balance r.paymentToken h.self < fee
    · simp [transfer, hallowed, hshort]
    · simp [transfer, hallowed, hshort]

theorem collectFee_outcome :
    collectFee h w r .ticketFee r.paymentToken fee =
      if FeeRefused r (w.accumulatedFees.getD 0) (w.balance r.paymentToken h.self) fee then
        .error .trap
      else .ok (feeCollected h w r fee) := by
  by_cases hfee : 0 < fee
  · rw [collectFee, if_pos hfee, payTreasury_outcome hfee, feeCollected, if_pos hfee]
    by_cases hshort : r.treasuryAddress.isSome = true ∧ w.balance r.paymentToken h.self < fee
    · rw [if_pos hshort]
      exact (if_pos ⟨hfee, .inl hshort⟩).symm
    · rw [if_neg hshort]
      simp only [bind, Except.bind, treasuryPaid_accumulatedFees, trapI128]
      by_cases hfits : fitsI128 (w.accumulatedFees.getD 0 + fee)
      · rw [if_pos hfits]
        exact (if_neg fun hrefused => hrefused.2.elim hshort (absurd hfits)).symm
      · rw [if_neg hfits]
        exact (if_pos ⟨hfee, .inr hfits⟩).symm
  · rw [collectFee, if_neg hfee, feeCollected, if_neg hfee]
    exact (if_neg fun hrefused => hfee hrefused.1).symm

def saleKeys (w : World) : Option Address × Option Bool × Option Bool :=
  (w.factory, w.drawingLock, w.randomnessRequested)

theorem feeCollected_saleKeys : saleKeys (feeCollected h w r fee) = saleKeys w := by
  unfold feeCollected treasuryPaid
  split
  · cases r.treasuryAddress <;> rfl
  · rfl

theorem recordBuyer_saleKeys (count : Nat) :
    saleKeys (recordBuyer w holder count) = saleKeys w := by
  obtain ⟨buyers, hbuyers⟩ := recordBuyer_writes w holder count
  rw [hbuyers]
  rfl

theorem issueTickets_some (owner payer : Address) {last count : Nat}
    (hroom : last + count < 2 ^ 32) : ∃ ids, issueTickets c r owner payer w last count =
      .ok (issue w r owner payer c.timestamp last count, ids) := by
  have hissued : ∃ w' ids, issueTickets c r owner payer w last count = .ok (w', ids) := by
    induction count generalizing w last with
    | zero => exact ⟨w, [], rfl⟩
    | succ count ih =>
      have hnext : last + 1 + count < 2 ^ 32 := by omega
      let ticket : Ticket := ⟨last + 1, owner, c.timestamp, last + 1, payer, r.ticketPrice⟩
      obtain ⟨w', ids, hrest⟩ := ih (w := { w with
        ticket := fun i => if i = last + 1 then some ticket else w.ticket i }) hnext
      refine ⟨w', (last + 1) :: ids, ?_⟩
      simp only [issueTickets, except_bind_ok, checkedU32_ok, Prod.exists, except_pure_ok,
        Prod.mk.injEq]
      exact ⟨last + 1, ⟨by omega, rfl⟩, w', ids, hrest, rfl, rfl⟩
  obtain ⟨w', ids, hok⟩ := hissued
  rw [(issueTickets_ok hok).1] at hok
  exact ⟨ids, hok⟩

theorem requestRandomness_some (hasked : w.randomnessRequested.getD false = false) :
    ∃ w' requestId, requestRandomness h c w = .ok (w', requestId) ∧ w'.factory = w.factory := by
  unfold requestRandomness
  rw [ensure, if_pos hasked]
  exact ⟨_, _, rfl, rfl⟩

theorem startSoldOutDraw_some (holder : Address) (hactive : r.status = .active)
    (hlock : w.drawingLock.getD false = false)
    (hasked : w.randomnessRequested.getD false = false) :
    ∃ w' r', startSoldOutDraw h c w r holder = .ok (w', r') ∧ w'.factory = w.factory := by
  have hdrawing : transitionToDrawing w r c.timestamp = .ok
      ({ emit (writeRaffle w (r.setStatus .drawing)) (.raffleStatusChanged r.status .drawing
        c.timestamp) with drawingLock := some true }, r.setStatus .drawing) :=
    transitionToDrawing_ok.mpr ⟨hlock, hactive, rfl, rfl⟩
  unfold startSoldOutDraw
  split
  next =>
    rw [hdrawing]
    simp only [bind, Except.bind]
    split
    next =>
      obtain ⟨w', requestId, hrequest, hfactory⟩ := requestRandomness_some (h := h) (c := c)
        (w := { emit (writeRaffle w (r.setStatus .drawing)) (.raffleStatusChanged r.status .drawing
          c.timestamp) with drawingLock := some true }) hasked
      rw [hrequest]
      exact ⟨_, _, rfl, hfactory⟩
    next => exact ⟨_, _, rfl, rfl⟩
  next => exact ⟨w, r, rfl, rfl⟩

theorem notifyFactory_outcome (holder : Address) (total : Int)
    (hfactory : w.factory.isSome = true) :
    (∃ w', notifyFactory c w r holder total = .ok w') ∧
        c.factory.recordVolume = true ∧ c.factory.trackParticipant = true ∨
      notifyFactory c w r holder total = .error .trap ∧
        ¬(c.factory.recordVolume = true ∧ c.factory.trackParticipant = true) := by
  obtain ⟨factory, hsome⟩ := Option.isSome_iff_exists.mp hfactory
  unfold notifyFactory
  rw [hsome]
  cases hvolume : c.factory.recordVolume <;> cases htrack : c.factory.trackParticipant <;>
    simp [invokeFactory, bind, Except.bind, pure, Except.pure]

theorem verifyUnmodified_some (hs : OnSale w r holder quantity) :
    verifyUnmodified w r holder ((w.ticketCount holder).getD 0) quantity = .ok () := by
  have hroom : r.ticketsSold + quantity < 2 ^ 32 := lt_of_le_of_lt hs.supply hs.limit
  simp only [verifyUnmodified, except_bind_ok, readRaffle_ok, hs.stored, Option.some.injEq,
    exists_eq_left', ensure_ok, and_self, checkedU32_ok, exists_const]
  exact ⟨trivial, _, ⟨hroom, rfl⟩, hs.supply⟩

theorem payment_held (hbuyer : buyer ≠ h.self) :
    (applyTransfer w .ticketPayment r.paymentToken buyer h.self total).balance r.paymentToken
      h.self = w.balance r.paymentToken h.self + total := by
  simp [applyTransfer, moveBalance, Ne.symm hbuyer]

theorem completePurchase_paid (hs : OnSale w r holder quantity) (hbuyer : buyer ≠ h.self)
    (hallowed : transferAllowed w r.paymentToken buyer total)
    (hfee : ¬FeeRefused r (w.accumulatedFees.getD 0) (w.balance r.paymentToken h.self + total)
      fee) :
    ∃ w₁ r₁, w₁.factory = w.factory ∧
      completePurchase h c w r buyer holder quantity total fee =
        (notifyFactory c w₁ r₁ holder total >>= fun w' =>
          .ok (bumpRaffleTtl w' r₁.ticketsSold, r₁.ticketsSold)) := by
  have hroom : r.ticketsSold + quantity < 2 ^ 32 := lt_of_le_of_lt hs.supply hs.limit
  have hcollected : collectFee h (applyTransfer w .ticketPayment r.paymentToken buyer h.self total)
      r .ticketFee r.paymentToken fee = .ok (feeCollected h
        (applyTransfer w .ticketPayment r.paymentToken buyer h.self total) r fee) := by
    rw [collectFee_outcome, payment_held hbuyer]
    exact if_neg hfee
  generalize hpaid : feeCollected h
    (applyTransfer w .ticketPayment r.paymentToken buyer h.self total) r fee = paid at hcollected
  obtain ⟨ids, hissued⟩ := issueTickets_some (c := c) (r := r) holder buyer
    (w := recordBuyer paid holder ((w.ticketCount holder).getD 0)) hroom
  have hkeys : saleKeys (recordBuyer paid holder ((w.ticketCount holder).getD 0)) = saleKeys w := by
    rw [recordBuyer_saleKeys, ← hpaid, feeCollected_saleKeys]
    rfl
  have hcount : checkedU32 ((w.ticketCount holder).getD 0 + quantity) =
      .ok ((w.ticketCount holder).getD 0 + quantity) := if_pos hs.count
  have hsold : checkedU32 (r.ticketsSold + quantity) = .ok (r.ticketsSold + quantity) :=
    if_pos hroom
  rw [completePurchase, verifyUnmodified_some hs, tryTransfer, if_pos hallowed]
  simp only [bind, Except.bind, hcollected, hissued, hcount, hsold]
  generalize hcounted : ({ issue (recordBuyer paid holder ((w.ticketCount holder).getD 0)) r holder
    buyer c.timestamp r.ticketsSold quantity with ticketCount := _ } : World) = counted
  have hsame : saleKeys counted = saleKeys w := by
    rw [← hkeys, ← hcounted]
    rfl
  have hfactory : counted.factory = w.factory := congrArg Prod.fst hsame
  have hlock : counted.drawingLock = w.drawingLock := congrArg (fun keys => keys.2.1) hsame
  have hasked : counted.randomnessRequested = w.randomnessRequested :=
    congrArg (fun keys => keys.2.2) hsame
  obtain ⟨w₁, r₁, hdraw, hkept⟩ := startSoldOutDraw_some (h := h) (c := c) (w := counted)
    (r := r.setTicketsSold (r.ticketsSold + quantity)) holder hs.active
    (by rw [hlock]; exact hs.unlocked) (by rw [hasked]; exact hs.unasked)
  rw [hdraw]
  exact ⟨emit (writeRaffle w₁ r₁) (.ticketPurchased holder ids quantity r₁.ticketPrice
    r₁.ticketPrice total fee c.timestamp), r₁, hkept.trans hfactory, rfl⟩

theorem completePurchase_outcome (hs : OnSale w r holder quantity) (hbuyer : buyer ≠ h.self)
    (total fee : Int) :
    (∃ abort, stopsAt h c w r buyer total fee = some abort ∧
        completePurchase h c w r buyer holder quantity total fee = .error abort) ∨
      stopsAt h c w r buyer total fee = none ∧
        ∃ result, completePurchase h c w r buyer holder quantity total fee = .ok result := by
  unfold stopsAt
  by_cases hallowed : transferAllowed w r.paymentToken buyer total
  · rw [if_neg (not_not.mpr hallowed)]
    by_cases hfee : FeeRefused r (w.accumulatedFees.getD 0)
        (w.balance r.paymentToken h.self + total) fee
    · rw [if_pos hfee]
      have hrefused : collectFee h (applyTransfer w .ticketPayment r.paymentToken buyer h.self
          total) r .ticketFee r.paymentToken fee = .error .trap := by
        rw [collectFee_outcome, payment_held hbuyer]
        exact if_pos hfee
      refine .inl ⟨.trap, rfl, ?_⟩
      rw [completePurchase, verifyUnmodified_some hs, tryTransfer, if_pos hallowed]
      simp only [bind, Except.bind, hrefused]
    · rw [if_neg hfee]
      obtain ⟨w₁, r₁, hfactory, hpaid⟩ := completePurchase_paid (c := c) hs hbuyer hallowed hfee
      rw [hpaid]
      have hasked : w₁.factory.isSome = true := by
        rw [hfactory]
        exact hs.factory
      rcases notifyFactory_outcome (c := c) (r := r₁) holder total hasked with
        ⟨⟨w', hnotified⟩, hanswers⟩ | ⟨hrefused, hanswers⟩
      · rw [if_pos hanswers, hnotified]
        exact .inr ⟨rfl, _, rfl⟩
      · rw [if_neg hanswers, hrefused]
        exact .inl ⟨.trap, rfl, rfl⟩
  · rw [if_pos hallowed]
    refine .inl ⟨_, rfl, ?_⟩
    rw [completePurchase, verifyUnmodified_some hs, tryTransfer, if_neg hallowed]
    rfl

def tender (w : World) : (Address → Address → Int) × Option Bool × Option Address :=
  (w.balance, w.paused, w.factory)

theorem startSoldOutDraw_tender (hok : startSoldOutDraw h c w r holder = .ok (w', r')) :
    tender w' = tender w := by
  rcases startSoldOutDraw_cases hok with ⟨-, rfl, -⟩ | ⟨-, w₁, hdrawing, hdrawn⟩
  · rfl
  obtain ⟨-, -, rfl, -⟩ := transitionToDrawing_ok.mp hdrawing
  rcases hdrawn with ⟨-, rfl⟩ | ⟨-, w₂, requestId, triggered, requested, hrequest, -, -, rfl⟩
  · rfl
  · obtain ⟨-, rfl⟩ := requestRandomness_writes hrequest
    rfl

theorem completePurchase_tender {n : Nat}
    (hok : completePurchase h c w r buyer holder quantity total fee = .ok (w', n)) :
    tender w' = tender (feeCollected h
      (applyTransfer w .ticketPayment r.paymentToken buyer h.self total) r fee) := by
  obtain ⟨paid, w₁, r₁, w₂, -, -, hfee, hdraw, hnotify, rfl⟩ := completePurchase_cases hok
  have hcollected : paid = feeCollected h
      (applyTransfer w .ticketPayment r.paymentToken buyer h.self total) r fee := by
    rw [collectFee_outcome] at hfee
    split at hfee
    next => cases hfee
    next =>
      cases hfee
      rfl
  have hmade : tender (madeOut c w paid r buyer holder quantity) = tender paid := by
    obtain ⟨buyers, ticket, count, hwritten⟩ := madeOut_writes (c := c) (r := r) w paid buyer
      holder quantity
    rw [hwritten]
    rfl
  have hbumped : tender (bumpRaffleTtl w₂ r₁.ticketsSold) = tender w₂ := by
    obtain ⟨index, hindex⟩ := bumpRaffleTtl_writes w₂ r₁.ticketsSold
    rw [hindex]
    rfl
  have hnotified : tender w₂ = tender w₁ := by
    obtain ⟨calls, rfl⟩ := notifyFactory_writes hnotify
    rfl
  rw [hbumped, hnotified, startSoldOutDraw_tender hdraw, hmade, hcollected]

end TikkaRaffle.Escrow
