import TikkaRaffle.Escrow.Prices
import TikkaRaffle.Escrow.Registry

/-! The exact balance of a plain raffle: without fees, discounts and bundles
the escrow holds the prize and the list price of every open ticket, and the
constrained exits find nothing to take. -/
namespace TikkaRaffle.Properties

open TikkaRaffle.Lib TikkaRaffle.Instance TikkaRaffle.Escrow

variable {h : Host} {w w' : World} {r : Raffle} {b b' : Books} {a : Act}

structure PlainTerms (r : Raffle) : Prop where
  noEarlyBird : r.earlyBirdTicketPercentage = 0 ∨ r.earlyBirdDiscountBp = 0
  noBundles : r.bundles = []

/-- A call that keeps the raffle plain: no fee is set, no ticket is bought for
the contract itself, and nothing is transferred to it from outside. -/
def PlainCall (h : Host) : Call → Prop
  | .setProtocolFeeBp newFeeBp => newFeeBp = 0
  | .buyTicketsFor _ recipient _ => recipient ≠ h.self
  | .tokenTransfer _ _ target _ => target ≠ h.self
  | _ => True

def openTickets (w : World) : Set Nat := {i | w.ticket i ≠ none ∧ w.ticketRefunded i = none}

/-- The balance before a draw has ended, to the unit. -/
def ExactBalance (h : Host) (w : World) : Prop :=
  ∃ r, w.raffle = some r ∧
    (r.status ∈ [.pendingPrize, .active, .drawing, .cancelled, .failed] →
      w.balance r.paymentToken h.self =
        (if r.prizeDeposited then r.prizeAmount else 0) + r.ticketPrice * (openTickets w).ncard)

def plainAct (escrow : Address) : Act → Prop
  | .setFee bp => bp = 0
  | .buy order => order.holder = order.payer ∨ order.holder ≠ escrow
  | .outside t => t.target ≠ escrow
  | _ => True

theorem yields_plain {call : Call} {acts : List Act} (hyields : call.Yields w r acts)
    (hplain : PlainCall h call) : ∀ a ∈ acts, plainAct h.self a := by
  intro a ha
  cases call <;> grind [Call.Yields, PlainCall, plainAct]

theorem earlyBirdCut_plain (hplain : PlainTerms r) (quantity : Nat) :
    earlyBirdCut r quantity = 0 := by
  have hnone : earlyBirdQuantity r quantity = 0 := by
    rw [earlyBirdQuantity]
    apply if_neg
    rcases hplain.noEarlyBird with hzero | hzero <;> simp [hzero]
  rw [earlyBirdCut, hnone]
  simp

theorem priced_plain (hplain : PlainTerms r) (hfee : r.protocolFeeBp = 0) {order : Order}
    {total fee : Int} (hp : order.Priced r total fee) :
    total = r.ticketPrice * order.quantity ∧ fee = 0 := by
  obtain ⟨htotal, hrate⟩ := hp.charge_eq
  rw [hfee] at hrate
  refine ⟨?_, by simpa using hrate⟩
  rw [htotal, Order.charge, bundleUnit_plain hplain.noBundles, earlyBirdCut_plain hplain]
  split <;> simp

def owed (b : Books) : Int :=
  (if b.raffle.prizeDeposited then b.raffle.prizeAmount else 0) +
    b.raffle.ticketPrice * (b.raffle.ticketsSold - (refundedIds b.transfers).length)

structure PlainBooks (escrow : Address) (b : Books) : Prop where
  life : Lifecycle b
  registry : Registry b
  terms : PlainTerms b.raffle
  feeless : b.raffle.protocolFeeBp = 0
  noFees : ¬Settled b.raffle → b.fees = 0
  creator_ne : b.raffle.prizeDeposited = true → b.raffle.creator ≠ escrow
  holders : ∀ i ticket, b.ticket i = some ticket → ticket.owner ≠ escrow ∧ ticket.payer ≠ escrow
  exact : ¬Settled b.raffle → b.held = owed b

namespace PlainBooks

theorem of_fresh {escrow : Address} (hf : Fresh b) (hterms : PlainTerms b.raffle)
    (hfee : b.raffle.protocolFeeBp = 0) (hempty : b.held = 0) : PlainBooks escrow b where
  life := .of_fresh hf
  registry := .of_fresh hf
  terms := hterms
  feeless := hfee
  noFees _ := hf.fees
  creator_ne hdeposited := by simp [hf.undeposited] at hdeposited
  holders i ticket hticket := by simp [hf.ticket] at hticket
  exact _ := by simp [hempty, owed, hf.undeposited, hf.unsold, hf.transfers, refundedIds]

/-- The exits may only take what is above the refunds and the prize. -/
theorem entitlement_ge {escrow : Address} (hb : PlainBooks escrow b) {reading : TierReading}
    (hopen : ¬Settled b.raffle) {entitlement : Int}
    (hok : tokenEntitlement reading b.refunded b.fees b.raffle b.raffle.paymentToken =
      .ok entitlement) : owed b ≤ entitlement := by
  obtain ⟨refunds, prize, hrefunds, hprize, rfl⟩ :=
    tokenEntitlement_open hb.life.terms.token hopen hok
  have hcount := hb.registry.unmarked_ge
  have hmore : b.raffle.ticketPrice * (b.raffle.ticketsSold - (refundedIds b.transfers).length) ≤
      refunds := by
    rw [outstandingTicketRefunds_ok hrefunds]
    exact Int.mul_le_mul_of_nonneg_left (by omega) hb.life.terms.price_pos.le
  have hsame : prize = if b.raffle.prizeDeposited then b.raffle.prizeAmount else 0 := by
    unfold outstandingPrize at hprize
    have hstatus : b.raffle.status ≠ .finalized := fun hs => hopen (.inl hs)
    cases hdeposited : b.raffle.prizeDeposited <;> simp_all
  have hfees := hb.noFees hopen
  rw [owed, ← hsame]
  omega

theorem settled_stays (hm : Move h a b b') (hsettled : Settled b.raffle) : Settled b'.raffle :=
  (Hops.move hm).stays paying paying_closed hsettled

theorem move_feeless (hb : PlainBooks h.self b) (hact : plainAct h.self a) (hm : Move h a b b') :
    b'.raffle.protocolFeeBp = 0 := by
  cases hm with
  | setFee _ bp => exact hact
  | claim _ tier | sweep _ tier => simpa [Books.markTier_raffle] using hb.feeless
  | _ => exact hb.feeless

theorem move_noFees (hb : PlainBooks h.self b) (hm : Move h a b b') (hopen : ¬Settled b'.raffle) :
    b'.fees = 0 := by
  have hbefore := hb.noFees fun hs => hopen (settled_stays hm hs)
  have hmove := hm
  cases hm with
  | buy _ order total fee time hsale | sellOut _ order total fee time request hsale =>
    obtain ⟨-, rfl⟩ := priced_plain hb.terms hb.feeless hsale.priced
    simpa [Books.sell, Books.enter, Books.arm] using hbefore
  | claim _ tier winner amount fee hpay | sweep _ tier winner treasury amount hpay =>
    exact absurd (settled_stays hmove (.inl hpay.finalized)) hopen
  | withdraw _ recipient amount hstatus => exact absurd hstatus hopen
  | wipe => rfl
  | _ => exact hbefore

theorem move_creator (hb : PlainBooks h.self b) (hm : Move h a b b')
    (hdeposited : b'.raffle.prizeDeposited = true) : b'.raffle.creator ≠ h.self := by
  rw [(SameTerms.move hm).creator]
  cases hm with
  | deposit _ hstatus hundeposited hcreator => exact hcreator
  | emergency | returnPrize => cases hdeposited
  | claim _ tier | sweep _ tier =>
    exact hb.creator_ne (by simpa [Books.markTier_raffle] using hdeposited)
  | _ => exact hb.creator_ne hdeposited

theorem sell_holders (hb : PlainBooks h.self b) {order : Order} {total fee : Int} {time : Nat}
    (hsale : Sellable h.self b order total fee) (hact : plainAct h.self (.buy order)) (i : Nat)
    (ticket : Ticket) (hticket : (b.sell h.self order total fee time).ticket i = some ticket) :
    ticket.owner ≠ h.self ∧ ticket.payer ≠ h.self := by
  simp only [Books.sell] at hticket
  split at hticket
  next =>
    cases hticket
    refine ⟨?_, hsale.payer_ne⟩
    rcases hact with hsame | hother
    · rw [hsame]
      exact hsale.payer_ne
    · exact hother
  next => exact hb.holders i ticket hticket

theorem move_holders (hb : PlainBooks h.self b) (hact : plainAct h.self a) (hm : Move h a b b')
    (i : Nat) (ticket : Ticket) (hticket : b'.ticket i = some ticket) :
    ticket.owner ≠ h.self ∧ ticket.payer ≠ h.self := by
  cases hm with
  | buy _ order total fee time hsale => exact hb.sell_holders hsale hact i ticket hticket
  | sellOut _ order total fee time request hsale =>
    exact hb.sell_holders hsale hact i ticket hticket
  | claim | sweep =>
    exact hb.holders i ticket (by simpa [Books.file, Books.addFees, Books.post] using hticket)
  | wipe =>
    simp only [Books.wiped] at hticket
    split at hticket
    next => cases hticket
    next => exact hb.holders i ticket hticket
  | _ => exact hb.holders i ticket hticket

theorem sell_exact (hb : PlainBooks h.self b) {order : Order} {total fee : Int}
    (hsale : Sellable h.self b order total fee) (time : Nat) :
    (b.sell h.self order total fee time).held = owed (b.sell h.self order total fee time) := by
  have hbefore := hb.exact (by simp [Settled, hsale.active])
  obtain ⟨htotal, rfl⟩ := priced_plain hb.terms hb.feeless hsale.priced
  have hposts : feeTransfers h.self b.raffle .ticketFee 0 = [] := rfl
  have hids : refundedIds (b.sell h.self order total 0 time).transfers =
      refundedIds b.transfers := by
    simp [Books.sell, Books.post, hposts, refundedIds, refundOf]
  have hheld : (b.sell h.self order total 0 time).held = b.held + total := by
    simp only [Books.sell, Books.post, hposts, netInflow_in hsale.payer_ne]
  have howed : owed (b.sell h.self order total 0 time) =
      owed b + b.raffle.ticketPrice * order.quantity := by
    rw [owed, owed, hids]
    simp only [Books.sell, Raffle.setTicketsSold_ticketsSold, Raffle.setTicketsSold_ticketPrice,
      Raffle.setTicketsSold_prizeAmount, Raffle.setTicketsSold_prizeDeposited]
    push_cast
    ring
  rw [hheld, howed, hbefore, htotal]

theorem giveBack_exact {escrow : Address} (hbefore : b.held = owed b)
    (hdeposited : b.raffle.prizeDeposited = true) (hcreator : b.raffle.creator ≠ escrow)
    {purpose : Purpose} (hids : refundedIds b'.transfers = refundedIds b.transfers)
    (hheld : b'.held = b.held + netInflow escrow b.raffle.paymentToken
      [⟨purpose, b.raffle.paymentToken, escrow, b.raffle.creator, b.raffle.prizeAmount⟩])
    (hgone : b'.raffle.prizeDeposited = false)
    (hsold : b'.raffle.ticketsSold = b.raffle.ticketsSold)
    (hprice : b'.raffle.ticketPrice = b.raffle.ticketPrice) : b'.held = owed b' := by
  rw [owed, hdeposited, if_pos rfl] at hbefore
  rw [owed, hids, hgone, hsold, hprice, hheld, netInflow_out hcreator, if_neg (by decide)]
  omega

theorem refund_exact (hb : PlainBooks h.self b) (hbefore : b.held = owed b) {ticketId : Nat}
    {ticket : Ticket} {recipient : Address} {amount : Int}
    (hticket : b.ticket ticketId = some ticket)
    (hrecipient : recipient = ticket.owner ∨ recipient = ticket.payer)
    (hamount : amount = ticket.pricePaid ∨ amount = b.raffle.ticketPrice) :
    ((b.markRefund ticketId).post h.self [⟨.ticketRefund ticketId, b.raffle.paymentToken, h.self,
      recipient, amount⟩]).held =
      owed ((b.markRefund ticketId).post h.self [⟨.ticketRefund ticketId, b.raffle.paymentToken,
        h.self, recipient, amount⟩]) := by
  obtain ⟨howner, hpayer⟩ := hb.holders ticketId ticket hticket
  have htarget : recipient ≠ h.self := by
    rcases hrecipient with rfl | rfl
    · exact howner
    · exact hpayer
  have hprice : amount = b.raffle.ticketPrice := by
    rcases hamount with rfl | rfl
    · exact (hb.registry.sold ticketId ticket hticket).2
    · rfl
  rw [owed] at hbefore ⊢
  simp only [Books.post, Books.markRefund, netInflow_out htarget, refundedIds_append,
    List.length_append, hbefore, hprice]
  simp only [refundedIds, List.filterMap_cons, refundOf, List.filterMap_nil,
    List.length_singleton]
  push_cast
  ring

theorem move_exact (hb : PlainBooks h.self b) (hact : plainAct h.self a) (hm : Move h a b b')
    (hopen : ¬Settled b'.raffle) : b'.held = owed b' := by
  have hunsettled : ¬Settled b.raffle := fun hs => hopen (settled_stays hm hs)
  have hbefore := hb.exact hunsettled
  have hmove := hm
  obtain ⟨ts, hp⟩ := hm.posted
  cases hm with
  | deposit _ hstatus hdeposited hcreator =>
    have hids := hp.refundedIds_same fun _ => rfl
    rw [owed, hdeposited] at hbefore
    rw [owed, hids]
    simp only [Books.enter, Books.setDeposited, Books.post, netInflow_in hcreator,
      Raffle.setStatus_prizeDeposited, Raffle.setPrizeDeposited_prizeDeposited, if_true,
      Raffle.setStatus_prizeAmount, Raffle.setPrizeDeposited_prizeAmount,
      Raffle.setStatus_ticketPrice, Raffle.setPrizeDeposited_ticketPrice,
      Raffle.setStatus_ticketsSold, Raffle.setPrizeDeposited_ticketsSold]
    simp only [Bool.false_eq_true, if_false] at hbefore
    omega
  | buy _ order total fee time hsale => exact hb.sell_exact hsale time
  | sellOut _ order total fee time request hsale => exact hb.sell_exact hsale time
  | finish => exact absurd (.inl rfl) hopen
  | emergency _ refunds hstatus hdeposited =>
    have hids := hp.refundedIds_same fun _ => rfl
    exact giveBack_exact hbefore hdeposited (hb.creator_ne hdeposited) hids rfl rfl rfl rfl
  | claim _ tier winner amount fee hpay | sweep _ tier winner treasury amount hpay =>
    exact absurd (settled_stays hmove (.inl hpay.finalized)) hopen
  | returnPrize _ hstatus hdeposited hcreator =>
    have hids := hp.refundedIds_same fun _ => rfl
    exact giveBack_exact hbefore hdeposited hcreator hids rfl rfl rfl rfl
  | refund _ ticketId ticket recipient amount hstatus hticket hunmarked hrecipient hamount =>
    exact hb.refund_exact hbefore hticket hrecipient hamount
  | withdraw _ recipient amount hstatus => exact absurd hstatus hopen
  | release _ purpose token recipient amount entitlement hpurpose hpositive hentitlement hsurplus =>
    have hids := hp.refundedIds_same fun _ => rfl
    by_cases htoken : token = b.raffle.paymentToken
    · subst htoken
      have hcover := hsurplus rfl
      have hentitled := hb.entitlement_ge hunsettled hentitlement
      omega
    · rw [owed, hids]
      simp only [Books.post, netInflow_foreign htoken, add_zero]
      exact hbefore
  | outside _ t hpurpose hsource =>
    have hids := hp.refundedIds_same fun _ => rfl
    have hnone : netInflow h.self b.raffle.paymentToken [t] = 0 :=
      netInflow_elsewhere hsource hact _
    rw [owed, hids]
    simp only [Books.post, hnone, add_zero]
    exact hbefore
  | _ => exact hbefore

theorem move (hb : PlainBooks h.self b) (hact : plainAct h.self a) (hm : Move h a b b') :
    PlainBooks h.self b' := by
  have hterms := SameTerms.move hm
  refine ⟨hb.life.move hm, hb.registry.move hm, ⟨?_, ?_⟩, hb.move_feeless hact hm,
    hb.move_noFees hm, hb.move_creator hm, hb.move_holders hact hm, hb.move_exact hact hm⟩
  · rw [hterms.earlyBirdTicketPercentage, hterms.earlyBirdDiscountBp]
    exact hb.terms.noEarlyBird
  · rw [hterms.bundles]
    exact hb.terms.noBundles

end PlainBooks

theorem exactBalance_of_books (hr : w.raffle = some r) (hb : PlainBooks h.self (view h w r)) :
    ExactBalance h w := by
  refine ⟨r, hr, fun hstatus => ?_⟩
  have hopen : ¬Settled r := by
    rintro (hs | hs) <;> rw [hs] at hstatus <;> simp at hstatus
  have hheld : w.balance r.paymentToken h.self = owed (view h w r) := hb.exact hopen
  have hcount : (openTickets w).ncard + (refundedIds w.transfers).length = r.ticketsSold :=
    hb.registry.open_tickets hopen
  have hleft : (r.ticketsSold : Int) - (refundedIds w.transfers).length =
      (openTickets w).ncard := by
    omega
  rw [hheld, ← hleft]
  rfl

/-- In a plain raffle the balance is exact in every state of every run. -/
theorem plain_balance (hinit : Initialised h w) (hr : w.raffle = some r) (hterms : PlainTerms r)
    (hfee : r.protocolFeeBp = 0) (hempty : w.balance r.paymentToken h.self = 0)
    {calls : List Invocation}
    (hplain : (machine h).Each (fun _ i _ => PlainCall h i.call) w calls) :
    (machine h).Always (ExactBalance h) w calls := by
  have hfresh : Fresh (view h w r) := (initialised_fresh hinit).view hr
  have hstart : Holds h (PlainBooks h.self) w := ⟨r, hr, .of_fresh hfresh hterms hfee hempty⟩
  have hrun : (machine h).Always (Holds h (PlainBooks h.self)) w calls := by
    refine always_of_calls (fun _ hb => hb.life.ready) ?_ hstart hplain
    intro w i w' r acts b' hcall _ hb hyields hpath
    exact hpath.preserves (PlainBooks h.self) (plainAct h.self)
      (fun a b b' hact hb hm => hb.move hact hm) (yields_plain hyields hcall) hb
  apply hrun.mono
  rintro w ⟨r, hr, hb⟩
  exact exactBalance_of_books hr hb

/-- A gift, a cancellation, a refund, an attempt to rescue the rest and the
return of the prize. -/
def plainRun : List Invocation :=
  [Sample.signed [Sample.creator] 1 1 .depositPrize,
    Sample.signed [Sample.buyer] 2 2 (.buyTicketsFor Sample.buyer Sample.treasury 2),
    Sample.signed [Sample.creator] 3 3 (.cancelRaffle .creatorCancelled),
    Sample.signed [Sample.buyer] 4 4 (.refundTicket Sample.buyer 1),
    Sample.signed [Sample.admin] 5 5 (.rescueTokens Sample.token Sample.treasury 1),
    Sample.signed [Sample.creator] 6 6 .refundPrize]

theorem plain_balance_plainRun :
    Initialised (Sample.host .ifElse) (Sample.start .ifElse Sample.config) ∧
    (machine (Sample.host .ifElse)).Each (fun _ i _ => PlainCall (Sample.host .ifElse) i.call)
      (Sample.start .ifElse Sample.config) plainRun ∧
    (machine (Sample.host .ifElse)).Always (ExactBalance (Sample.host .ifElse))
      (Sample.start .ifElse Sample.config) plainRun ∧
    (Sample.after .ifElse Sample.config plainRun).balance Sample.token Sample.self = 10000 := by
  have hinit : Initialised (Sample.host .ifElse) (Sample.start .ifElse Sample.config) :=
    Sample.start_initialised (by decide +kernel)
  have hplain : (machine (Sample.host .ifElse)).Each
      (fun _ i _ => PlainCall (Sample.host .ifElse) i.call) (Sample.start .ifElse Sample.config)
        plainRun := by
    simp [plainRun, Machine.Each, PlainCall, Sample.signed, Sample.host, Sample.treasury,
      Sample.self]
  obtain ⟨r, hr⟩ : ∃ r, (Sample.start .ifElse Sample.config).raffle = some r :=
    Option.isSome_iff_exists.mp (by decide +kernel)
  have hterms : (Sample.start .ifElse Sample.config).raffle.map (fun r =>
      (r.earlyBirdDiscountBp, r.bundles, r.protocolFeeBp, r.paymentToken)) =
        some (0, [], 0, Sample.token) := by
    decide +kernel
  simp only [hr, Option.map_some, Option.some.injEq, Prod.mk.injEq] at hterms
  obtain ⟨hbird, hbundles, hfee, htoken⟩ := hterms
  refine ⟨hinit, hplain, plain_balance hinit hr ⟨.inr hbird, hbundles⟩ hfee ?_ hplain,
    by decide +kernel⟩
  rw [htoken]
  decide +kernel

end TikkaRaffle.Properties
