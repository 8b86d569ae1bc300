import TikkaRaffle.Escrow.Calls

/-! A purchase, with the fee it collects and the draw it may start, is one
move on the books. -/
namespace TikkaRaffle.Escrow

open TikkaRaffle.Lib TikkaRaffle.Instance

variable {h : Host} {c : Ctx} {w w' : World} {r r' : Raffle}

theorem collectFee_view {purpose : Purpose} {fee : Int}
    (hok : collectFee h w r purpose r.paymentToken fee = .ok w') :
    view h w' r = ((view h w r).post h.self (feeTransfers h.self r purpose fee)).addFees
      (max fee 0) ∧ w'.raffle = w.raffle := by
  unfold collectFee at hok
  split at hok
  next hpos =>
    simp only [except_bind_ok, trapI128_ok, except_pure_ok] at hok
    obtain ⟨w₁, hpay, total, ⟨-, rfl⟩, rfl⟩ := hok
    have hmax : max fee 0 = fee := max_eq_left (le_of_lt hpos)
    unfold payTreasury at hpay
    split at hpay
    next treasury htreasury =>
      obtain ⟨-, rfl⟩ := transfer_ok.mp hpay
      refine ⟨?_, rfl⟩
      simp only [feeTransfers, hpos, htreasury, if_true, Option.toList_some, List.map_cons,
        List.map_nil, hmax]
      rw [← view_applyTransfer]
      rfl
    next htreasury =>
      cases hpay
      refine ⟨?_, rfl⟩
      simp only [feeTransfers, hpos, htreasury, if_true, Option.toList_none, List.map_nil, hmax,
        Books.post_nil]
      rfl
  next hpos =>
    cases hok
    have hmax : max fee 0 = 0 := max_eq_right (not_lt.mp hpos)
    simp only [feeTransfers, hpos, if_false, hmax, Books.post_nil, Books.addFees_zero, and_self]

@[simp] theorem view_recordBuyer (holder : Address) (count : Nat) :
    view h (recordBuyer w holder count) r = view h w r := by
  obtain ⟨buyers, hbuyers⟩ := recordBuyer_writes w holder count
  rw [hbuyers]
  rfl

def issue (w : World) (r : Raffle) (owner payer : Address) (time last count : Nat) : World :=
  { w with ticket := fun i =>
      if last < i ∧ i ≤ last + count then some ⟨i, owner, time, i, payer, r.ticketPrice⟩
      else w.ticket i }

theorem issueTickets_ok {owner payer : Address} {last count : Nat} {ids : List Nat}
    (hok : issueTickets c r owner payer w last count = .ok (w', ids)) :
    w' = issue w r owner payer c.timestamp last count ∧ ids = List.range' (last + 1) count := by
  induction count generalizing w last ids with
  | zero =>
    cases hok
    have hempty : ∀ i, ¬(last < i ∧ i ≤ last + 0) := fun i => by omega
    exact ⟨by simp only [issue, hempty, if_false], rfl⟩
  | succ count ih =>
    simp only [issueTickets, except_bind_ok, checkedU32_ok, Prod.exists, except_pure_ok,
      Prod.mk.injEq] at hok
    obtain ⟨ticketId, ⟨-, rfl⟩, w₁, rest, hrest, rfl, rfl⟩ := hok
    obtain ⟨rfl, rfl⟩ := ih hrest
    refine ⟨?_, rfl⟩
    simp only [issue, World.mk.injEq, true_and, and_true]
    funext i
    by_cases hi : i = last + 1
    · subst hi
      simp
    · have hiff : last + 1 < i ∧ i ≤ last + 1 + count ↔ last < i ∧ i ≤ last + (count + 1) := by
        omega
      simp only [hiff, hi, if_false]

theorem transitionToDrawing_view {time : Nat}
    (hok : transitionToDrawing w r time = .ok (w', r')) :
    view h w' r' = ((view h w r).enter .drawing).arm none ∧ r' = r.setStatus .drawing ∧
      w'.raffle = some r' ∧ (view h w r).lock = false ∧ r.status = .active := by
  obtain ⟨hlock, hstatus, rfl, rfl⟩ := transitionToDrawing_ok.mp hok
  refine ⟨?_, rfl, rfl, hlock, hstatus⟩
  rw [← view_emit_hop (r.setStatus .drawing) .drawing time]
  simp only [Books.arm, Option.isSome_none, Bool.or_false, Option.none_or]
  rfl

theorem requestRandomness_view {requestId : Nat}
    (hok : requestRandomness h c w = .ok (w', requestId)) :
    view h w' r = { view h w r with requested := true, requestId := some requestId } ∧
      (view h w r).requested = false ∧ w'.raffle = w.raffle := by
  obtain ⟨hfresh, rfl⟩ := requestRandomness_writes hok
  exact ⟨rfl, hfresh, rfl⟩

theorem startSoldOutDraw_view {holder : Address}
    (hok : startSoldOutDraw h c w r holder = .ok (w', r')) :
    r.ticketsSold < r.maxTickets ∧ view h w' r' = view h w r ∨
      r.maxTickets ≤ r.ticketsSold ∧ ∃ request,
        view h w' r' = ((view h w r).enter .drawing).arm request ∧
        (request.isSome = true ↔ r.randomnessSource = .external) ∧
        (request.isSome = true → (view h w r).requested = false) := by
  rcases startSoldOutDraw_cases hok with ⟨hopen, rfl, rfl⟩ | ⟨hfull, w₁, hdrawing, hdrawn⟩
  · exact .inl ⟨hopen, rfl⟩
  obtain ⟨hview, rfl, -, -, -⟩ := transitionToDrawing_view (h := h) hdrawing
  refine .inr ⟨hfull, ?_⟩
  rcases hdrawn with ⟨hother, rfl⟩ |
    ⟨hexternal, w₂, requestId, triggered, requested, hrequest, htriggered, hrequested, rfl⟩
  · exact ⟨none, hview, by simpa using hother, by simp⟩
  · obtain ⟨hasked, hfresh, -⟩ := requestRandomness_view (r := r.setStatus .drawing) hrequest
    rw [hview] at hasked hfresh
    refine ⟨some requestId, ?_, by simpa using hexternal, fun _ => ?_⟩
    · rw [view_emit_silent hrequested, view_emit_silent htriggered, hasked, Books.arm_request]
    · simpa [Books.arm, Books.enter] using hfresh

theorem notifyFactory_view {holder : Address} {totalPrice : Int}
    (hok : notifyFactory c w r holder totalPrice = .ok w') (r₁ : Raffle) :
    view h w' r₁ = view h w r₁ ∧ w'.raffle = w.raffle := by
  obtain ⟨calls, rfl⟩ := notifyFactory_writes hok
  exact ⟨rfl, rfl⟩

@[simp] theorem view_bumpRaffleTtl (total : Nat) :
    view h (bumpRaffleTtl w total) r = view h w r := by
  obtain ⟨index, hindex⟩ := bumpRaffleTtl_writes w total
  rw [hindex]
  rfl

@[simp] theorem bumpRaffleTtl_raffle (total : Nat) :
    (bumpRaffleTtl w total).raffle = w.raffle := by
  obtain ⟨index, hindex⟩ := bumpRaffleTtl_writes w total
  rw [hindex]

theorem sell_view (w₁ : World) {w₂ : World} (order : Order) {total fee : Int} (time : Nat)
    (hfee : view h w₁ r = ((view h w r).post h.self ([⟨.ticketPayment, r.paymentToken,
      order.payer, h.self, total⟩] ++ feeTransfers h.self r .ticketFee fee)).addFees (max fee 0))
    (hissue : ∀ r₁, view h w₂ r₁ =
      view h (issue w₁ r order.holder order.payer time r.ticketsSold order.quantity) r₁) :
    (view h w₂ (r.setTicketsSold (r.ticketsSold + order.quantity))).file
        (.purchase (List.range' (r.ticketsSold + 1) order.quantity) total fee) =
      (view h w r).sell h.self order total fee time := by
  have hbooks : view h w₂ (r.setTicketsSold (r.ticketsSold + order.quantity)) =
      { view h w₁ r with
        raffle := r.setTicketsSold (r.ticketsSold + order.quantity)
        ticket := fun i =>
          if r.ticketsSold < i ∧ i ≤ r.ticketsSold + order.quantity then
            some ⟨i, order.holder, time, i, order.payer, r.ticketPrice⟩
          else (view h w₁ r).ticket i } := hissue _
  rw [hbooks, hfee]
  rfl

/-- The tickets of an order and their count, once payment and fee are in place. -/
def madeOut (c : Ctx) (w paid : World) (r : Raffle) (buyer holder : Address)
    (quantity : Nat) : World :=
  let held := (w.ticketCount holder).getD 0
  let issued :=
    issue (recordBuyer paid holder held) r holder buyer c.timestamp r.ticketsSold quantity
  { issued with
    ticketCount := fun a => if a = holder then some (held + quantity) else issued.ticketCount a }

theorem madeOut_writes (w paid : World) (buyer holder : Address) (quantity : Nat) :
    ∃ buyers ticket count, madeOut c w paid r buyer holder quantity =
      { paid with ticketBuyers := buyers, ticket := ticket, ticketCount := count } := by
  obtain ⟨buyers, hbuyers⟩ := recordBuyer_writes paid holder ((w.ticketCount holder).getD 0)
  simp only [madeOut, issue, hbuyers]
  exact ⟨buyers, _, _, rfl⟩

/-- The steps of a purchase that went through, in the order they were made. -/
theorem completePurchase_cases {buyer holder : Address} {quantity n : Nat} {total fee : Int}
    (hok : completePurchase h c w r buyer holder quantity total fee = .ok (w', n)) :
    ∃ paid w₁ r₁ w₂,
      verifyUnmodified w r holder ((w.ticketCount holder).getD 0) quantity = .ok () ∧
      transferAllowed w r.paymentToken buyer total ∧
      collectFee h (applyTransfer w .ticketPayment r.paymentToken buyer h.self total) r .ticketFee
        r.paymentToken fee = .ok paid ∧
      startSoldOutDraw h c (madeOut c w paid r buyer holder quantity)
        (r.setTicketsSold (r.ticketsSold + quantity)) holder = .ok (w₁, r₁) ∧
      notifyFactory c (emit (writeRaffle w₁ r₁) (.ticketPurchased holder
        (List.range' (r.ticketsSold + 1) quantity) quantity r₁.ticketPrice r₁.ticketPrice total fee
        c.timestamp)) r₁ holder total = .ok w₂ ∧
      w' = bumpRaffleTtl w₂ r₁.ticketsSold := by
  simp only [completePurchase, except_bind_ok, checkedU32_ok, tryTransfer_ok, Prod.exists,
    except_pure_ok, Prod.mk.injEq] at hok
  obtain ⟨⟨⟩, hsame, _, ⟨hallowed, rfl⟩, paid, hfee, w₁, ids, hissue, count, ⟨-, rfl⟩, sold,
    ⟨-, rfl⟩, w₂, r₁, hdraw, w₃, hnotify, rfl, -⟩ := hok
  obtain ⟨rfl, rfl⟩ := issueTickets_ok hissue
  exact ⟨paid, w₂, r₁, w₃, hsame, hallowed, hfee, hdraw, hnotify, rfl⟩

theorem completePurchase_refines {call : Call} {buyer holder : Address} {quantity n : Nat}
    {bundled : Bool} {total fee : Int} (hr : w.raffle = some r)
    (hcall : call.Yields w r [.buy ⟨buyer, holder, quantity, bundled⟩])
    (hsale : 0 ≤ total → Sellable h.self (view h w r) ⟨buyer, holder, quantity, bundled⟩ total fee)
    (hok : completePurchase h c w r buyer holder quantity total fee = .ok (w', n)) :
    Refines h call w r w' := by
  obtain ⟨paid, w₁, r₁, w₂, hsame, hallowed, hfee, hdraw, hnotify, rfl⟩ :=
    completePurchase_cases hok
  simp only [verifyUnmodified, except_bind_ok, readRaffle_ok, hr, Option.some.injEq,
    exists_eq_left', ensure_ok, and_self, checkedU32_ok, exists_const, true_and] at hsame
  obtain ⟨sold, ⟨-, rfl⟩, hsupply⟩ := hsame
  specialize hsale hallowed.1
  obtain ⟨hcollected, -⟩ := collectFee_view hfee
  rw [view_applyTransfer, Books.post_post] at hcollected
  obtain ⟨hnotified, hkept⟩ := notifyFactory_view (h := h) hnotify r₁
  have hstored : (bumpRaffleTtl w₂ r₁.ticketsSold).raffle = some r₁ := by
    rw [bumpRaffleTtl_raffle, hkept]
    rfl
  have hfinal : view h (bumpRaffleTtl w₂ r₁.ticketsSold) r₁ = (view h w₁ r₁).file
      (.purchase (List.range' (r.ticketsSold + 1) quantity) total fee) := by
    rw [view_bumpRaffleTtl, hnotified, view_emit_receipt rfl rfl, view_writeRaffle]
  have hsold := sell_view (recordBuyer paid holder ((w.ticketCount holder).getD 0))
    ⟨buyer, holder, quantity, bundled⟩ c.timestamp ((view_recordBuyer ..).trans hcollected)
    (fun _ => rfl)
  rcases startSoldOutDraw_view hdraw with ⟨hopen, hsame⟩ | ⟨hfull, request, hdrawn, hiff, hfresh⟩
  · refine .single hstored hcall (.buy (view h w r) _ total fee c.timestamp hsale hopen) ?_
    rw [hfinal, hsame, ← hsold]
    rfl
  · refine .single hstored hcall (.sellOut (view h w r) _ total fee c.timestamp request hsale
      (Nat.le_antisymm hsupply hfull) hiff fun hasked => ?_) ?_
    · rw [← hfresh hasked]
      exact (congrArg Books.requested hsold).symm
    · rw [hfinal, hdrawn, ← hsold]
      rfl

theorem buyTickets_refines {buyer : Address} {quantity n : Nat} (hr : w.raffle = some r)
    (hok : buyTickets h c w buyer quantity = .ok (w', n)) :
    Refines h (.buyTickets buyer quantity) w r w' := by
  simp only [buyTickets, validatePurchasePreconditions, except_bind_ok, requireAuth_ok,
    readRaffle_ok, hr, Option.some.injEq, exists_eq_left', ensure_ok, exists_const] at hok
  obtain ⟨⟨-, hbuyer⟩, ⟨-, -, hlock, hquantity, -, -, -, -, -, hactive, -, hdeposited, -⟩, -, -,
    quote, hquote, hok⟩ := hok
  refine completePurchase_refines hr rfl (fun htotal => ?_) hok
  exact ⟨hactive, hlock, hdeposited, Nat.pos_of_ne_zero hquantity, hbuyer,
    ⟨quote, hquote, rfl, rfl⟩, htotal⟩

theorem buyTicketsFor_refines {buyer recipient : Address} {quantity n : Nat}
    (hr : w.raffle = some r)
    (hok : buyTicketsFor h c w buyer recipient quantity = .ok (w', n)) :
    Refines h (.buyTicketsFor buyer recipient quantity) w r w' := by
  simp only [buyTicketsFor, except_bind_ok, requireAuth_ok, readRaffle_ok, hr,
    Option.some.injEq, exists_eq_left', ensure_ok, exists_const, checkedI128_ok] at hok
  obtain ⟨-, -, hlock, hquantity, -, ⟨-, hbuyer⟩, -, -, -, -, hactive, -, hdeposited, -, -, -,
    total, ⟨-, rfl⟩, scaled, ⟨-, rfl⟩, hok⟩ := hok
  refine completePurchase_refines hr rfl (fun htotal => ?_) hok
  exact ⟨hactive, hlock, hdeposited, Nat.pos_of_ne_zero hquantity, hbuyer, ⟨rfl, rfl⟩, htotal⟩

end TikkaRaffle.Escrow
