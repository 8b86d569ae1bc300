import TikkaRaffle.Escrow.Obligations
import TikkaRaffle.Properties.Tickets

/-! What the purchases of a raffle without bundles add up to. Every quote is the
sum of the payments of its tickets, so the total depends on how many tickets are
sold and not on how they were split into purchases. -/
namespace TikkaRaffle.Properties

open TikkaRaffle.Lib TikkaRaffle.Instance TikkaRaffle.Escrow Finset

def quoteOf (r : Raffle) : Call → List Int
  | .buyTickets _ quantity =>
      match calculateBuyQuote r quantity with
      | .ok quote => [quote.netToPay]
      | .error _ => []
  | _ => []

def quotes (h : Host) (w : World) (calls : List Invocation) : List Int :=
  (machine h).journal (fun w i _ => w.raffle.toList.flatMap fun r => quoteOf r i.call) w calls

def isGift : Call → Bool
  | .buyTicketsFor .. => true
  | _ => false

/-- All tickets of the run are bought by `buy_tickets`. -/
def OnlyBought (h : Host) (w : World) (calls : List Invocation) : Prop :=
  ∀ i ∈ (machine h).committed w calls, isGift i.call = false

variable {h : Host} {w w' : World} {r r₀ : Raffle} {i : Invocation} {log : List Int}

theorem quote_eq_payments (hplain : r.bundles = []) {quantity : Nat} {quote : BuyQuote}
    (hquote : calculateBuyQuote r quantity = .ok quote) :
    quote.netToPay = ∑ j ∈ range quantity, paymentOf r (1 + (r.ticketsSold + j)) := by
  rw [(calculateBuyQuote_ok hquote).1, earlyBirdCut, bundleUnit_plain hplain, sum_next_payments]

theorem quoteOf_bought {buyer : Address} {quantity : Nat} (hplain : r.bundles = [])
    (hr : w.raffle = some r) (hcall : i.call = .buyTickets buyer quantity)
    (hok : invoke h i w = .ok w') :
    quoteOf r i.call = [∑ j ∈ range quantity, paymentOf r (1 + (r.ticketsSold + j))] := by
  simp only [invoke, hcall, buyTickets, except_map_ok, except_bind_ok, readRaffle_ok, hr,
    Option.some.injEq, exists_eq_left'] at hok
  obtain ⟨_, ⟨_, -, _, -, _, -, quote, hquote, -⟩, -⟩ := hok
  rw [hcall, quoteOf, hquote]
  exact congrArg (fun net => [net]) (quote_eq_payments hplain hquote)

structure Summed (h : Host) (r₀ : Raffle) (log : List Int) (w : World) : Prop where
  life : Holds h Lifecycle w
  same : ∃ r, w.raffle = some r ∧ r.fixed = r₀.fixed ∧
    log.sum = ∑ i ∈ range r.ticketsSold, paymentOf r₀ (1 + i)

theorem paymentOf_fixed (hfixed : r.fixed = r₀.fixed) : paymentOf r = paymentOf r₀ :=
  fixed_field paymentOf (fun _ => rfl) hfixed

theorem summed_step (hplain : r₀.bundles = []) (hs : Summed h r₀ log w)
    (hgift : isGift i.call = false) (hok : invoke h i w = .ok w') :
    Summed h r₀ (log ++ w.raffle.toList.flatMap fun r => quoteOf r i.call) w' := by
  obtain ⟨r, hr, hfixed, hsum⟩ := hs.same
  obtain ⟨r', acts, hr', hyields, hpath⟩ := committed_path_from hs.life hr hok
  refine ⟨lifecycle_step hs.life hok, r', hr', (fixed_path hpath).trans hfixed, ?_⟩
  rw [hr, Option.toList_some, List.flatMap_singleton, List.sum_append, hsum]
  cases horder : orderOf i.call with
  | none =>
    have hsold : r'.ticketsSold = r.ticketsSold :=
      sold_same_path hpath (yields_no_sale hyields horder)
    have hnone : quoteOf r i.call = [] := by
      cases hcall : i.call with
      | buyTickets buyer quantity =>
        rw [hcall] at horder
        cases horder
      | _ => rfl
    rw [hnone, hsold, List.sum_nil, add_zero]
  | some order =>
    have hissued := yields_order hyields horder ▸ hpath
    obtain ⟨-, hsold, -⟩ := Move.issued hissued.of_single
    cases hcall : i.call with
    | buyTickets buyer quantity =>
      rw [hcall] at horder
      cases horder
      change r'.ticketsSold = r.ticketsSold + quantity at hsold
      have hunbundled : r.bundles = [] :=
        (fixed_field Raffle.bundles (fun _ => rfl) hfixed).trans hplain
      rw [← hcall, quoteOf_bought hunbundled hr hcall hok, paymentOf_fixed hfixed, hsold,
        sum_range_add, List.sum_singleton]
    | buyTicketsFor buyer recipient quantity =>
      rw [hcall] at hgift
      cases hgift
    | _ =>
      rw [hcall] at horder
      cases horder

theorem summed_run (hinit : Initialised h w) (hr : w.raffle = some r₀)
    (hplain : r₀.bundles = []) {calls : List Invocation} (honly : OnlyBought h w calls) :
    Summed h r₀ (quotes h w calls) ((machine h).run w calls) := by
  have hunsold : r₀.ticketsSold = 0 := ((initialised_fresh hinit).view hr).unsold
  have hstart : Summed h r₀ [] w :=
    ⟨initialised_lifecycle hinit, r₀, hr, rfl, by rw [hunsold]; rfl⟩
  exact Machine.journal_of_each (Summed h r₀)
    (fun _ _ _ _ hs hgift hok => summed_step hplain hs hgift hok) hstart
    (Machine.each_call_iff.mpr honly)

/-- However the tickets are split into purchases, the quotes add up to the
payments of the tickets sold. -/
theorem charge_path_independent (hinit : Initialised h w) (hr : w.raffle = some r₀)
    (hplain : r₀.bundles = []) :
    ∀ calls, OnlyBought h w calls → ∀ r, ((machine h).run w calls).raffle = some r →
      (∃ payment : Nat → Int,
        (∀ ticketId, 1 ≤ ticketId → ticketId ≤ r.ticketsSold →
          ticketPaymentAmount r ticketId = .ok (payment ticketId)) ∧
        (quotes h w calls).sum = ∑ ticketId ∈ Finset.Icc 1 r.ticketsSold, payment ticketId) ∧
      ∀ calls', OnlyBought h w calls' → ∀ r', ((machine h).run w calls').raffle = some r' →
        r'.ticketsSold = r.ticketsSold → (quotes h w calls').sum = (quotes h w calls).sum := by
  have htotal : ∀ calls, OnlyBought h w calls → ∀ r, ((machine h).run w calls).raffle = some r →
      r.fixed = r₀.fixed ∧
        (quotes h w calls).sum = ∑ j ∈ range r.ticketsSold, paymentOf r₀ (1 + j) := by
    intro calls honly r hend
    obtain ⟨r₁, hr₁, hfixed, hsum⟩ := (summed_run hinit hr hplain honly).same
    rw [hend] at hr₁
    cases hr₁
    exact ⟨hfixed, hsum⟩
  intro calls honly r hend
  obtain ⟨hfixed, hsum⟩ := htotal calls honly r hend
  refine ⟨⟨paymentOf r, fun ticketId hlow _ => ?_, ?_⟩, fun calls' honly' r' hend' hsold => ?_⟩
  · exact ticketPaymentAmount_ok ((lifecycle_always hinit calls).last.view hend).terms hlow
  · rw [hsum, paymentOf_fixed hfixed, ← Finset.Ico_succ_right_eq_Icc,
      Finset.sum_Ico_eq_sum_range]
    rfl
  · rw [(htotal calls' honly' r' hend').2, hsum, hsold]

def splitConfig : RaffleConfig :=
  { Sample.config with
    maxTickets := 10
    maxTicketsPerTx := 10
    earlyBirdTicketPercentage := 40
    earlyBirdDiscountBp := 1000 }

def wholeRun : List Invocation :=
  [Sample.signed [Sample.creator] 1 1 .depositPrize,
    Sample.signed [Sample.buyer] 2 2 (.buyTickets Sample.buyer 6)]

def splitRun : List Invocation :=
  [Sample.signed [Sample.creator] 1 1 .depositPrize,
    Sample.signed [Sample.buyer] 2 2 (.buyTickets Sample.buyer 1),
    Sample.signed [Sample.buyer] 3 3 (.buyTickets Sample.buyer 5)]

theorem charge_path_independent_splitRun :
    quotes (Sample.host .ifElse) (Sample.start .ifElse splitConfig) splitRun = [9000, 47000] ∧
    (quotes (Sample.host .ifElse) (Sample.start .ifElse splitConfig) splitRun).sum =
      (quotes (Sample.host .ifElse) (Sample.start .ifElse splitConfig) wholeRun).sum := by
  have hstart : ∃ r, r ∈ (Sample.start .ifElse splitConfig).raffle ∧ r.bundles = [] := by
    decide +kernel
  have hwhole : ∃ r, r ∈ (Sample.after .ifElse splitConfig wholeRun).raffle ∧
      r.ticketsSold = 6 := by
    decide +kernel
  have hsplit : ∃ r, r ∈ (Sample.after .ifElse splitConfig splitRun).raffle ∧
      r.ticketsSold = 6 := by
    decide +kernel
  obtain ⟨r₀, hr₀, hplain⟩ := hstart
  obtain ⟨r, hr, hsold⟩ := hwhole
  obtain ⟨r', hr', hsold'⟩ := hsplit
  have hall := charge_path_independent (Sample.start_initialised (by decide +kernel)) hr₀ hplain
    wholeRun (by unfold OnlyBought; decide +kernel) r hr
  exact ⟨by decide +kernel, hall.2 splitRun (by unfold OnlyBought; decide +kernel) r' hr'
    (hsold'.trans hsold.symm)⟩

end TikkaRaffle.Properties
