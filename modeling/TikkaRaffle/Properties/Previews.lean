import TikkaRaffle.Instance.Views
import TikkaRaffle.Properties.Tickets
import TikkaRaffle.Escrow.Postings
import TikkaRaffle.Escrow.Prices

/-! Previews. A quote of `preview_buy` may be old by the time it is used: the purchase
is never cheaper than it said, and as long as nobody buys in between it costs exactly
that. -/
namespace TikkaRaffle.Properties

open TikkaRaffle.Lib TikkaRaffle.Instance TikkaRaffle.Escrow

variable {h : Host} {w w' : World} {r r₁ r₂ : Raffle} {quantity : Nat} {i : Invocation}

theorem earlyBirdQuantity_le (r : Raffle) (quantity : Nat) :
    earlyBirdQuantity r quantity ≤ quantity := by
  unfold earlyBirdQuantity
  split
  · exact min_le_right ..
  · exact Nat.zero_le _

structure Later (r₁ r₂ : Raffle) : Prop where
  unit : bundleUnit r₂ = bundleUnit r₁
  percentage : r₂.earlyBirdTicketPercentage = r₁.earlyBirdTicketPercentage
  discountBp : r₂.earlyBirdDiscountBp = r₁.earlyBirdDiscountBp
  maxTickets : r₂.maxTickets = r₁.maxTickets
  sold : r₁.ticketsSold ≤ r₂.ticketsSold

theorem Later.window (hl : Later r₁ r₂) (quantity : Nat) :
    earlyBirdQuantity r₂ quantity ≤ earlyBirdQuantity r₁ quantity := by
  unfold earlyBirdQuantity
  rw [hl.percentage, hl.discountBp, hl.maxTickets]
  split
  · exact min_le_min_right _ (Nat.sub_le_sub_left hl.sold _)
  · exact le_rfl

theorem le_share_of_neg {amount : Int} {bp : Nat} (hneg : amount < 0) (hbp : bp ≤ 10000) :
    amount ≤ (amount * bp).tdiv 10000 := by
  have hrate : (bp : Int) ≤ 10000 := by exact_mod_cast hbp
  have hpos : 0 ≤ -amount := by omega
  have hscaled := Int.mul_le_mul_of_nonneg_left hrate hpos
  have hnonneg := Int.mul_nonneg hpos (Int.natCast_nonneg bp)
  rw [← neg_neg (amount * bp), ← Int.neg_mul, Int.neg_tdiv, Int.tdiv_eq_ediv_of_nonneg hnonneg]
  omega

/-- A purchase that is charged something gets no more off later. -/
theorem Later.cut_le (hl : Later r₁ r₂)
    (hbp : 0 < r₁.earlyBirdTicketPercentage → r₁.earlyBirdDiscountBp ≤ 10000)
    (hcharged : 0 ≤ bundleUnit r₂ quantity * quantity - earlyBirdCut r₂ quantity) :
    earlyBirdCut r₂ quantity ≤ earlyBirdCut r₁ quantity := by
  have hwindow : (earlyBirdQuantity r₂ quantity : Int) ≤ earlyBirdQuantity r₁ quantity := by
    exact_mod_cast hl.window quantity
  have hquantity : (earlyBirdQuantity r₁ quantity : Int) ≤ quantity := by
    exact_mod_cast earlyBirdQuantity_le r₁ quantity
  unfold earlyBirdCut at hcharged ⊢
  rw [hl.unit, hl.discountBp] at hcharged ⊢
  generalize hunit : bundleUnit r₁ quantity = unit at hcharged ⊢
  rcases le_or_gt 0 unit with hnonneg | hneg
  · have hscaled := Int.mul_nonneg hnonneg (Int.natCast_nonneg r₁.earlyBirdDiscountBp)
    exact Int.mul_le_mul_of_nonneg_left hwindow (Int.tdiv_nonneg hscaled (by decide))
  · -- a negative unit price is charged only where all of it is taken off
    by_cases hpercentage : 0 < r₁.earlyBirdTicketPercentage
    · have hshare := le_share_of_neg hneg (hbp hpercentage)
      generalize (unit * r₁.earlyBirdDiscountBp).tdiv 10000 = share at hcharged hshare ⊢
      rcases hwindow.lt_or_eq with hless | hsame
      · exfalso
        have hopen : 0 < (quantity : Int) - earlyBirdQuantity r₂ quantity := by omega
        have hpart := Int.mul_le_mul_of_nonneg_right hshare
          (Int.natCast_nonneg (earlyBirdQuantity r₂ quantity))
        have hrest := Int.mul_neg_of_neg_of_pos hneg hopen
        rw [Int.mul_sub] at hrest
        omega
      · rw [hsame]
    · have hnone : earlyBirdQuantity r₁ quantity = 0 := if_neg fun hboth => hpercentage hboth.1
      have hnone' : earlyBirdQuantity r₂ quantity = 0 := by omega
      rw [hnone, hnone']

theorem earlyBirdCut_nonneg (hgross : 0 ≤ bundleUnit r quantity * quantity) :
    0 ≤ earlyBirdCut r quantity := by
  rcases Nat.eq_zero_or_pos quantity with rfl | hpos
  · have hnone : earlyBirdQuantity r 0 = 0 := Nat.le_zero.mp (earlyBirdQuantity_le r 0)
    rw [earlyBirdCut, hnone]
    simp
  · have hunit : 0 ≤ bundleUnit r quantity :=
      Int.nonneg_of_mul_nonneg_left hgross (by exact_mod_cast hpos)
    have hscaled := Int.mul_nonneg hunit (Int.natCast_nonneg r.earlyBirdDiscountBp)
    exact Int.mul_nonneg (Int.tdiv_nonneg hscaled (by decide)) (Int.natCast_nonneg _)

theorem calculateBuyQuote_gross {quote : BuyQuote}
    (hok : calculateBuyQuote r quantity = .ok quote) :
    quote.gross = bundleUnit r quantity * quantity := by
  simp only [calculateBuyQuote, except_bind_ok, checkedI128_ok, except_pure_ok] at hok
  obtain ⟨-, -, gross, ⟨-, rfl⟩, _, -, _, -, _, -, rfl⟩ := hok
  rfl

theorem later_of_fixed (hfixed : r₂.fixed = r₁.fixed) (hsold : r₁.ticketsSold ≤ r₂.ticketsSold) :
    Later r₁ r₂ where
  unit := fixed_field bundleUnit (fun _ => rfl) hfixed
  percentage := fixed_field Raffle.earlyBirdTicketPercentage (fun _ => rfl) hfixed
  discountBp := fixed_field Raffle.earlyBirdDiscountBp (fun _ => rfl) hfixed
  maxTickets := fixed_field Raffle.maxTickets (fun _ => rfl) hfixed
  sold := hsold

theorem sold_run (hw : Holds h Lifecycle w) (hr : w.raffle = some r) (calls : List Invocation) :
    ∃ r', ((machine h).run w calls).raffle = some r' ∧ r'.fixed = r.fixed ∧
      r.ticketsSold ≤ r'.ticketsSold ∧
      ((∀ i ∈ (machine h).committed w calls, orderOf i.call = none) →
        r'.ticketsSold = r.ticketsSold) := by
  induction calls generalizing w r with
  | nil => exact ⟨r, hr, rfl, le_rfl, fun _ => rfl⟩
  | cons i rest ih =>
    cases hstep : (machine h).step i w with
    | error e =>
      rw [Machine.run_cons, (machine h).exec_error hstep, Machine.committed_error hstep]
      exact ih hw hr
    | ok t =>
      rw [Machine.run_cons, (machine h).exec_ok hstep, Machine.committed_ok hstep]
      obtain ⟨r₁, acts, hr₁, hyields, hpath⟩ := committed_path_from hw hr hstep
      obtain ⟨r₂, hr₂, hfixed, hadded, hquiet⟩ := ih (lifecycle_step hw hstep) hr₁
      have hfixed₁ : r₁.fixed = r.fixed := fixed_path hpath
      have hadded₁ : r.ticketsSold ≤ r₁.ticketsSold := ticketsSold_le_path hpath
      refine ⟨r₂, hr₂, hfixed.trans hfixed₁, hadded₁.trans hadded, fun hnone => ?_⟩
      have hsame : r₁.ticketsSold = r.ticketsSold :=
        sold_same_path hpath (yields_no_sale hyields (hnone i (List.mem_cons_self ..)))
      exact (hquiet fun d hd => hnone d (List.mem_cons_of_mem _ hd)).trans hsame

def payments (ts : List Transfer) : List Transfer := ts.filter (·.purpose = .ticketPayment)

theorem Move.paid_once {b b' : Books} {order : Order} (hm : Move h (.buy order) b b') :
    payments b'.transfers = payments b.transfers ++
        [⟨.ticketPayment, b.raffle.paymentToken, order.payer, h.self, order.charge b.raffle⟩] ∧
      0 ≤ order.charge b.raffle := by
  have hfees (fee : Int) : payments (feeTransfers h.self b.raffle .ticketFee fee) = [] := by
    refine List.filter_eq_nil_iff.mpr fun t ht => ?_
    simp [feeTransfers_purpose ht]
  cases hm with
  | buy _ _ total fee time hsale | sellOut _ _ total fee time request hsale =>
    rw [← hsale.priced.charge_eq.1]
    refine ⟨?_, hsale.total_nonneg⟩
    have hnone := hfees fee
    simp only [payments] at hnone ⊢
    simp [Books.sell, Books.post, Books.enter, Books.arm, hnone]

/-- However long ago `preview_buy` was asked, the purchase costs no less than it said, and
no more than the gross amount it said; it costs exactly what it said as long as nobody has
bought tickets since. -/
theorem previews_bind (hinit : Initialised h w) (first mid : List Invocation) {quote : BuyQuote}
    (hquote : previewBuy ((machine h).run w first) quantity = .ok quote) {c : Ctx}
    {buyer : Address}
    (hok : invoke h ⟨c, .buyTickets buyer quantity⟩ ((machine h).run w (first ++ mid)) = .ok w') :
    ∃ r paid, ((machine h).run w (first ++ mid)).raffle = some r ∧
      payments w'.transfers = payments ((machine h).run w (first ++ mid)).transfers ++
        [⟨.ticketPayment, r.paymentToken, buyer, h.self, paid⟩] ∧
      quote.netToPay ≤ paid ∧ (0 ≤ quote.gross → paid ≤ quote.gross) ∧
      ((∀ i ∈ (machine h).committed ((machine h).run w first) mid, orderOf i.call = none) →
        paid = quote.netToPay) := by
  have hlife := (lifecycle_always hinit first).last
  have hlife₂ := (lifecycle_always hinit (first ++ mid)).last
  obtain ⟨r₁, hr₁, hl⟩ := id hlife
  obtain ⟨r₂, hr₂, hfixed, hadded, hquiet⟩ := sold_run hlife hr₁ mid
  rw [Machine.run_append] at hok hlife₂ ⊢
  obtain ⟨r', acts, -, hyields, hpath⟩ := committed_path_from hlife₂ hr₂ hok
  have hacts := yields_order hyields rfl
  subst hacts
  obtain ⟨hpaid, hnonneg⟩ := Move.paid_once hpath.of_single
  simp only [previewBuy, except_bind_ok, readRaffle_ok, hr₁, Option.some.injEq,
    exists_eq_left'] at hquote
  have hnet := (calculateBuyQuote_ok hquote).1
  have hgross := calculateBuyQuote_gross hquote
  have hlater := later_of_fixed hfixed hadded
  have hcharge : Order.charge ⟨buyer, buyer, quantity, true⟩ r₂ =
      bundleUnit r₂ quantity * quantity - earlyBirdCut r₂ quantity := if_pos rfl
  have hunit : bundleUnit r₂ quantity = bundleUnit r₁ quantity := congrFun hlater.unit quantity
  have hcut : earlyBirdCut r₂ quantity ≤ earlyBirdCut r₁ quantity :=
    hlater.cut_le hl.terms.earlyBird_le (hcharge ▸ hnonneg)
  refine ⟨r₂, _, hr₂, hpaid, ?_, fun hpositive => ?_, fun hnone => ?_⟩
  · show quote.netToPay ≤ Order.charge ⟨buyer, buyer, quantity, true⟩ r₂
    rw [hcharge, hunit]
    omega
  · show Order.charge ⟨buyer, buyer, quantity, true⟩ r₂ ≤ quote.gross
    rw [hgross] at hpositive
    have hcutNonneg := earlyBirdCut_nonneg (r := r₂) (hunit ▸ hpositive)
    rw [hcharge, hgross, hunit]
    omega
  · show Order.charge ⟨buyer, buyer, quantity, true⟩ r₂ = quote.netToPay
    have hsame : earlyBirdCut r₂ quantity = earlyBirdCut r₁ quantity := by
      unfold earlyBirdCut earlyBirdQuantity
      rw [hlater.unit, hlater.percentage, hlater.discountBp, hlater.maxTickets, hquiet hnone]
    rw [hcharge, hunit, hsame, hnet]

def firstHalfConfig : RaffleConfig :=
  { Sample.config with earlyBirdTicketPercentage := 34, earlyBirdDiscountBp := 5000 }

def firstHalfRun : List Invocation :=
  [Sample.signed [Sample.creator] 1 1 .depositPrize,
    Sample.signed [Sample.treasury] 2 2 (.buyTickets Sample.treasury 1)]

theorem previews_bind_firstHalfRun : ∃ quote w', ∃ r : Raffle, ∃ paid,
    previewBuy (Sample.after .ifElse firstHalfConfig (firstHalfRun.take 1)) 1 = .ok quote ∧
      invoke (Sample.host .ifElse) (Sample.signed [Sample.buyer] 3 3 (.buyTickets Sample.buyer 1))
        (Sample.after .ifElse firstHalfConfig firstHalfRun) = .ok w' ∧
      payments w'.transfers =
        payments (Sample.after .ifElse firstHalfConfig firstHalfRun).transfers ++
          [⟨.ticketPayment, r.paymentToken, Sample.buyer, Sample.self, paid⟩] ∧
      quote.netToPay = 5000 ∧ quote.netToPay ≤ paid := by
  have hinit : Initialised (Sample.host .ifElse) (Sample.start .ifElse firstHalfConfig) :=
    Sample.start_initialised (by decide +kernel)
  have hpreview : (previewBuy (Sample.after .ifElse firstHalfConfig (firstHalfRun.take 1))
      1).isOk = true := by
    decide +kernel
  have hhalf : (previewBuy (Sample.after .ifElse firstHalfConfig (firstHalfRun.take 1))
      1).toOption.map BuyQuote.netToPay = some 5000 := by
    decide +kernel
  have hpurchase : (invoke (Sample.host .ifElse)
      (Sample.signed [Sample.buyer] 3 3 (.buyTickets Sample.buyer 1))
      (Sample.after .ifElse firstHalfConfig firstHalfRun)).isOk = true := by
    decide +kernel
  obtain ⟨w', hok⟩ := except_isOk hpurchase
  obtain ⟨quote, hquote⟩ := except_isOk hpreview
  rw [hquote] at hhalf
  obtain ⟨r, paid, -, hpaid, hless, -⟩ :=
    previews_bind hinit (firstHalfRun.take 1) (firstHalfRun.drop 1) hquote hok
  exact ⟨quote, w', r, paid, hquote, hok, hpaid, Option.some.inj hhalf, hless⟩

end TikkaRaffle.Properties
