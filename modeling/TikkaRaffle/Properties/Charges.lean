import TikkaRaffle.Escrow.Prices
import TikkaRaffle.Properties.Refunds

/-! Refunds against charges. A refund pays the list price, so it stays within
what the buyer paid exactly when no purchase was charged less than that. -/
namespace TikkaRaffle.Properties

open TikkaRaffle.Lib TikkaRaffle.Instance TikkaRaffle.Escrow

variable {h : Host} {w w' : World} {r : Raffle} {b b' : Books} {a : Act}

def chargedToBuyers (ts : List Transfer) : Int :=
  tally (fun t => t.purpose = .ticketPayment) (·.amount) ts

def refundsOf (ids : List Nat) (ts : List Transfer) : Int :=
  tally (fun t => (refundOf t).any (ids.contains ·)) (·.amount) ts

/-- Refunds stay within the charges, in total and purchase by purchase. -/
def RefundsCovered (w : World) : Prop :=
  refundsPaid w.transfers ≤ chargedToBuyers w.transfers ∧
    ∀ ids paid fee, .purchase ids paid fee ∈ receiptsOf w.events → refundsOf ids w.transfers ≤ paid

/-- The purchase is charged at least the list price: what a bundle adds covers
what the early-bird window takes off. -/
def ListPriceCovered (r : Raffle) (quantity : Nat) : Prop :=
  r.ticketPrice * quantity + earlyBirdCut r quantity ≤ bundleUnit r quantity * quantity

def boughtQuantity : Call → Option Nat
  | .buyTickets _ quantity => some quantity
  | _ => none

/-- The condition on a call: a `buy_tickets` call is charged at least the list
price. Gifts are always charged at the list price. -/
def PaysListPrice (w : World) (i : Invocation) : Prop :=
  ∀ quantity ∈ boughtQuantity i.call, ∀ r ∈ w.raffle, ListPriceCovered r quantity

instance (r : Raffle) (quantity : Nat) : Decidable (ListPriceCovered r quantity) :=
  inferInstanceAs (Decidable (_ ≤ _))

instance (w : World) (i : Invocation) : Decidable (PaysListPrice w i) :=
  inferInstanceAs (Decidable (∀ quantity ∈ boughtQuantity i.call, ∀ r ∈ w.raffle, _))

structure Charges (b : Books) : Prop where
  purchase : ∀ ids paid fee, .purchase ids paid fee ∈ b.receipts →
    b.raffle.ticketPrice * ids.length ≤ paid
  total : b.raffle.ticketPrice * b.raffle.ticketsSold ≤ chargedToBuyers b.transfers

namespace Charges

theorem of_fresh (hf : Fresh b) : Charges b where
  purchase := by simp [hf.receipts]
  total := by simp [hf.unsold, hf.transfers, chargedToBuyers]

theorem of_same (hk : Charges b) (hprice : b'.raffle.ticketPrice = b.raffle.ticketPrice)
    (hsold : b'.raffle.ticketsSold = b.raffle.ticketsSold)
    (hcharged : chargedToBuyers b'.transfers = chargedToBuyers b.transfers)
    (hreceipts : ∀ ids paid fee, .purchase ids paid fee ∈ b'.receipts →
      .purchase ids paid fee ∈ b.receipts) : Charges b' := by
  refine ⟨fun ids paid fee hmem => ?_, ?_⟩
  · rw [hprice]
    exact hk.purchase ids paid fee (hreceipts ids paid fee hmem)
  · rw [hprice, hsold, hcharged]
    exact hk.total

theorem feeTransfers_charged (self : Address) (r : Raffle) (fee : Int) :
    chargedToBuyers (feeTransfers self r .ticketFee fee) = 0 := by
  apply tally_eq_zero
  intro t ht
  simp [feeTransfers_purpose ht]

theorem sell (hk : Charges b) {self : Address} {order : Order} {total fee : Int} {time : Nat}
    (hcharge : b.raffle.ticketPrice * order.quantity ≤ total) :
    Charges (b.sell self order total fee time) where
  purchase ids paid fee' hmem := by
    rcases List.mem_append.mp hmem with hold | hnew
    · exact hk.purchase ids paid fee' hold
    · cases List.mem_singleton.mp hnew
      rw [List.length_range']
      exact hcharge
  total := by
    have hlog : chargedToBuyers (b.sell self order total fee time).transfers =
        chargedToBuyers b.transfers + total := by
      have hfee := feeTransfers_charged self b.raffle fee
      simp only [chargedToBuyers] at hfee ⊢
      simp [Books.sell, Books.post, hfee]
    have hbefore := hk.total
    have hsplit : b.raffle.ticketPrice * ((b.raffle.ticketsSold + order.quantity : Nat) : Int) =
        b.raffle.ticketPrice * b.raffle.ticketsSold + b.raffle.ticketPrice * order.quantity := by
      push_cast
      ring
    rw [hlog]
    simp only [Books.sell, Raffle.setTicketsSold_ticketPrice, Raffle.setTicketsSold_ticketsSold,
      hsplit]
    omega

theorem charge_covers {order : Order} {total fee : Int} (hp : order.Priced r total fee)
    (hcovered : order.bundled = true → ListPriceCovered r order.quantity) :
    r.ticketPrice * order.quantity ≤ total := by
  rw [hp.charge_eq.1, Order.charge]
  split
  next hbundled =>
    have hlist := hcovered hbundled
    unfold ListPriceCovered at hlist
    omega
  next => exact le_rfl

theorem move (hk : Charges b) (hm : Move h a b b')
    (hcovered : ∀ order, a = .buy order → order.bundled = true →
      ListPriceCovered b.raffle order.quantity) : Charges b' := by
  have hterms := SameTerms.move hm
  obtain ⟨ts, hposted⟩ := hm.posted
  cases hm with
  | buy _ order total fee time hsale =>
    exact hk.sell (charge_covers hsale.priced (hcovered order rfl))
  | sellOut _ order total fee time request hsale =>
    have hsold : Charges (b.sell h.self order total fee time) :=
      hk.sell (charge_covers hsale.priced (hcovered order rfl))
    exact { hsold with }
  | claim _ tier | sweep _ tier =>
    have hsame := hposted.tally_same (p := fun purpose => purpose = .ticketPayment)
      fun purpose hp => by cases purpose <;> first | rfl | cases hp
    refine hk.of_same hterms.ticketPrice ?_ hsame fun ids paid fee hmem => ?_
    · simp [Books.markTier_raffle, Books.file, Books.addFees, Books.post]
    · simpa [Books.file, Books.addFees, Books.post] using hmem
  | _ =>
    have hsame := hposted.tally_same (p := fun purpose => purpose = .ticketPayment)
      fun purpose hp => by cases purpose <;> first | rfl | cases hp
    exact hk.of_same hterms.ticketPrice rfl hsame fun ids paid fee hmem => hmem

end Charges

theorem refundsOf_le (hk : Registry b) (hprice : 0 ≤ b.raffle.ticketPrice) (ids : List Nat) :
    refundsOf ids b.transfers ≤ b.raffle.ticketPrice * ids.length := by
  have hcount : b.transfers.countP (fun t => (refundOf t).any (ids.contains ·)) =
      ((refundedIds b.transfers).filter (ids.contains ·)).length := by
    rw [refundedIds, ← List.countP_eq_length_filter, List.countP_filterMap]
    apply List.countP_congr
    intro t _
    cases refundOf t <;> simp
  have hsub : ((refundedIds b.transfers).filter (ids.contains ·)).length ≤ ids.length := by
    apply List.Subperm.length_le
    apply (hk.paid_once.filter _).subperm
    intro i hi
    simpa using (List.mem_filter.mp hi).2
  have htotal : refundsOf ids b.transfers = b.raffle.ticketPrice *
      ((refundedIds b.transfers).filter (ids.contains ·)).length := by
    rw [← hcount]
    apply tally_const
    intro t ht hany
    obtain ⟨ticketId, hrefund, -⟩ := (Option.any_eq_true _ _).mp hany
    exact hk.list_price t ht ticketId hrefund
  rw [htotal]
  exact Int.mul_le_mul_of_nonneg_left (by exact_mod_cast hsub) hprice

theorem covered_of_charges (hl : Lifecycle (view h w r)) (hk : Registry (view h w r))
    (hcharges : Charges (view h w r)) : RefundsCovered w := by
  have hprice : 0 ≤ r.ticketPrice := hl.terms.price_pos.le
  constructor
  · have hpaid : refundsPaid w.transfers = r.ticketPrice * (refundedIds w.transfers).length :=
      refundsPaid_eq hk
    have hlength : (refundedIds w.transfers).length ≤ r.ticketsSold := hk.repaid_le
    calc refundsPaid w.transfers = r.ticketPrice * (refundedIds w.transfers).length := hpaid
      _ ≤ r.ticketPrice * r.ticketsSold :=
        Int.mul_le_mul_of_nonneg_left (by exact_mod_cast hlength) hprice
      _ ≤ chargedToBuyers w.transfers := hcharges.total
  · intro ids paid fee hmem
    exact (refundsOf_le hk hprice ids).trans (hcharges.purchase ids paid fee hmem)

theorem yields_bundled {call : Call} {acts : List Act} (hyields : call.Yields w r acts) :
    (∃ buyer quantity, call = .buyTickets buyer quantity ∧
      acts = [.buy ⟨buyer, buyer, quantity, true⟩]) ∨
    ∀ a ∈ acts, ∀ order, a = .buy order → order.bundled = false := by
  cases call <;> grind [Call.Yields]

structure Covered (b : Books) : Prop where
  life : Lifecycle b
  registry : Registry b
  charges : Charges b

theorem Covered.move (hb : Covered b) (hm : Move h a b b')
    (hcovered : ∀ order, a = .buy order → order.bundled = true →
      ListPriceCovered b.raffle order.quantity) : Covered b' :=
  ⟨hb.life.move hm, hb.registry.move hm, hb.charges.move hm hcovered⟩

/-- If every purchase of a run is charged at least the list price, refunds stay
within the charges in every state of it. -/
theorem refunds_covered (hinit : Initialised h w) {calls : List Invocation}
    (heach : (machine h).Each (fun w i _ => PaysListPrice w i) w calls) :
    (machine h).Always RefundsCovered w calls := by
  have hstart : Holds h Covered w :=
    (initialised_fresh hinit).mono fun _ hf => ⟨.of_fresh hf, .of_fresh hf, .of_fresh hf⟩
  have hrun : (machine h).Always (Holds h Covered) w calls := by
    refine always_of_calls (fun _ hb => hb.life.ready) ?_ hstart heach
    intro w i w' r acts b' hpays hr hb hyields hpath
    rcases yields_bundled hyields with ⟨buyer, quantity, hcall, rfl⟩ | hplain
    · apply hb.move hpath.of_single
      rintro order ⟨⟩ -
      exact hpays quantity (by rw [hcall]; rfl) r hr
    · refine hpath.preserves Covered (fun a => ∀ order, a = .buy order → order.bundled = false)
        (fun a b b' ha hb hm => hb.move hm ?_) hplain hb
      intro order hact hbundled
      rw [ha order hact] at hbundled
      cases hbundled
  apply hrun.mono
  rintro w ⟨r, -, hb⟩
  exact covered_of_charges hb.life hb.registry hb.charges

/-- Purchases at the list price, a cancellation and a refund. -/
theorem refunds_covered_refundRun :
    Initialised (Sample.host .ifElse) (Sample.start .ifElse Sample.config) ∧
    (machine (Sample.host .ifElse)).Each (fun w i _ => PaysListPrice w i)
      (Sample.start .ifElse Sample.config) refundRun ∧
    (machine (Sample.host .ifElse)).Always RefundsCovered (Sample.start .ifElse Sample.config)
      refundRun :=
  have hinit := Sample.start_initialised (by decide +kernel)
  have heach : (machine (Sample.host .ifElse)).Each (fun w i _ => PaysListPrice w i)
      (Sample.start .ifElse Sample.config) refundRun := by decide +kernel
  ⟨hinit, heach, refunds_covered hinit heach⟩

def earlyBirdConfig : RaffleConfig :=
  { Sample.config with earlyBirdTicketPercentage := 100, earlyBirdDiscountBp := 5000 }

def discountRun : List Invocation :=
  [Sample.signed [Sample.creator] 1 1 .depositPrize,
    Sample.signed [Sample.buyer] 2 2 (.buyTickets Sample.buyer 1),
    Sample.signed [Sample.creator] 3 3 (.cancelRaffle .creatorCancelled),
    Sample.signed [Sample.buyer] 4 4 (.refundTicket Sample.buyer 1)]

/-- A ticket bought for 5000 is paid back with 10000. -/
theorem discount_refunded_in_full :
    Initialised (Sample.host .ifElse) (Sample.start .ifElse earlyBirdConfig) ∧
    (Sample.after .ifElse earlyBirdConfig discountRun).raffle.map Raffle.status =
      some .cancelled ∧
    chargedToBuyers (Sample.after .ifElse earlyBirdConfig discountRun).transfers = 5000 ∧
    refundsPaid (Sample.after .ifElse earlyBirdConfig discountRun).transfers = 10000 ∧
    ¬RefundsCovered (Sample.after .ifElse earlyBirdConfig discountRun) := by
  have hcharged : chargedToBuyers (Sample.after .ifElse earlyBirdConfig discountRun).transfers =
      5000 := by decide +kernel
  have hrefunded : refundsPaid (Sample.after .ifElse earlyBirdConfig discountRun).transfers =
      10000 := by decide +kernel
  refine ⟨Sample.start_initialised (by decide +kernel), by decide +kernel, hcharged, hrefunded, ?_⟩
  rintro ⟨htotal, -⟩
  omega

end TikkaRaffle.Properties
