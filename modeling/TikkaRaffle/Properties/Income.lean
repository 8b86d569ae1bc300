import TikkaRaffle.Escrow.Logs
import TikkaRaffle.Properties.Counters
import TikkaRaffle.Properties.Volume

/-! What a raffle takes in and what it tells the factory about it: every payment
for tickets is recorded with its amount, and every owner of a ticket is named. -/
namespace TikkaRaffle.Properties

open TikkaRaffle.Lib TikkaRaffle.Instance TikkaRaffle.Escrow

variable {h : Instance.Host} {w w' : World} {r r' : Raffle} {b b' : Books} {a : Act}

def ticketIncome (asset : Address) (ts : List Transfer) : Int :=
  tally (fun t => t.purpose = .ticketPayment ∧ t.token = asset) (·.amount) ts

def toldIncome (asset : Address) (notices : List FactoryCall) : Int :=
  recordedFor asset (notices.filterMap volumeRecordOf)

theorem toldIncome_append (asset : Address) (first last : List FactoryCall) :
    toldIncome asset (first ++ last) = toldIncome asset first + toldIncome asset last := by
  simp [toldIncome, recordedFor]

theorem ticketIncome_append_other {asset : Address} {first last : List Transfer}
    (hother : ∀ t ∈ last, t.purpose ≠ .ticketPayment) :
    ticketIncome asset (first ++ last) = ticketIncome asset first := by
  have hnone : ticketIncome asset last = 0 :=
    tally_eq_zero fun t ht => decide_eq_false fun hboth => hother t ht hboth.1
  rw [ticketIncome] at hnone ⊢
  rw [tally_append, hnone, add_zero, ticketIncome]

theorem Move.income_same (hm : Move h a b b') (ha : ∀ order, a ≠ .buy order) (asset : Address) :
    ticketIncome asset b'.transfers = ticketIncome asset b.transfers := by
  obtain ⟨ts, hposted⟩ := hm.posted
  rw [hposted.logged]
  refine ticketIncome_append_other fun t ht hpayment => ?_
  have hposts := hposted.purposes t ht
  rw [hpayment] at hposts
  cases a with
  | buy order => exact ha order rfl
  | _ => cases hposts

theorem Move.income_sale {order : Order} (hm : Move h (.buy order) b b') (asset : Address) :
    ticketIncome asset b'.transfers = ticketIncome asset b.transfers +
      if b.raffle.paymentToken = asset then order.charge b.raffle else 0 := by
  have hsold {total fee : Int} (hlog : b'.transfers = b.transfers ++
        (⟨.ticketPayment, b.raffle.paymentToken, order.payer, h.self, total⟩ ::
          feeTransfers h.self b.raffle .ticketFee fee))
      (hcharge : total = order.charge b.raffle) :
      ticketIncome asset b'.transfers = ticketIncome asset b.transfers +
        if b.raffle.paymentToken = asset then order.charge b.raffle else 0 := by
    rw [hlog, ← List.singleton_append, ← List.append_assoc, ticketIncome_append_other, ticketIncome,
      tally_append, tally_singleton, hcharge, ticketIncome]
    · simp
    · intro t ht
      rw [feeTransfers_purpose ht]
      exact Purpose.noConfusion
  cases hm with
  | buy _ _ total fee time hsale => exact hsold rfl hsale.priced.charge_eq.1
  | sellOut _ _ total fee time request hsale => exact hsold rfl hsale.priced.charge_eq.1

theorem Move.owners_same (hm : Move h a b b') (ha : ∀ order, a ≠ .buy order) {id : Nat}
    {ticket : Ticket} (hticket : b'.ticket id = some ticket) : b.ticket id = some ticket := by
  by_cases hwipe : a = .wipe
  · subst hwipe
    cases hm
    simp only [Books.wiped] at hticket
    split at hticket
    next => cases hticket
    next => exact hticket
  · rwa [← (Move.tickets_same hm ha hwipe).1]

structure Turnover (w : World) : Prop where
  income : ∀ asset, toldIncome asset w.factoryCalls = ticketIncome asset w.transfers
  owners : ∀ id, ∀ ticket ∈ w.ticket id, .trackParticipant ticket.owner ∈ w.factoryCalls

theorem Turnover.sale {order : Order} (hw : Turnover w) (hsaid : SaleNotifies w r w' order)
    (hm : Move h (.buy order) (view h w r) (view h w' r')) : Turnover w' := by
  have hcalls : w'.factoryCalls =
      w.factoryCalls ++ saleNotice r order.holder (order.charge r) := congrArg Prod.snd hsaid
  obtain ⟨⟨issued, hissue, hissued⟩, -, -⟩ := Move.issued hm
  refine ⟨fun asset => ?_, fun id ticket hticket => ?_⟩
  · have hpaid := Move.income_sale hm asset
    have htold : toldIncome asset (saleNotice r order.holder (order.charge r)) =
        if r.paymentToken = asset then order.charge r else 0 := by
      simp [toldIncome, saleNotice, List.filterMap_cons, volumeRecordOf, recordedFor]
    rw [hcalls, toldIncome_append, hw.income asset, htold]
    exact hpaid.symm
  · rw [hcalls]
    have hnow : (view h w' r').ticket id = some ticket := hticket
    rw [hissue] at hnow
    simp only at hnow
    split at hnow
    next =>
      cases hnow
      rw [(hissued id).2.2]
      exact List.mem_append_right _ (by simp [saleNotice])
    next => exact List.mem_append_left _ (hw.owners id ticket hnow)

theorem Turnover.other {acts : List Act} {notices : List FactoryCall} (hw : Turnover w)
    (hcalls : w'.factoryCalls = w.factoryCalls ++ notices)
    (hnotices : ∀ asset, toldIncome asset notices = 0)
    (hpath : Path (Move h) (view h w r) acts (view h w' r'))
    (hacts : ∀ a ∈ acts, ∀ order, a ≠ .buy order) : Turnover w' := by
  refine ⟨fun asset => ?_, fun id ticket hticket => ?_⟩
  · have hpaid := hpath.preserves
      (fun b => ticketIncome asset b.transfers = ticketIncome asset w.transfers)
      (fun a => ∀ order, a ≠ .buy order)
      (fun _ _ _ ha hsame hm => (Move.income_same hm ha asset).trans hsame) hacts rfl
    rw [hcalls, toldIncome_append, hnotices, add_zero, hw.income]
    exact hpaid.symm
  · have hback := hpath.preserves
      (fun b => ∀ ticket, b.ticket id = some ticket → w.ticket id = some ticket)
      (fun a => ∀ order, a ≠ .buy order)
      (fun _ _ _ ha hsame hm ticket ht => hsame ticket (Move.owners_same hm ha ht)) hacts
      (fun _ ht => ht)
    rw [hcalls]
    exact List.mem_append_left _ (hw.owners id ticket (hback ticket hticket))

/-- Only purchases are worth anything to the statistics. -/
theorem drawNotice_income (asset : Address) : toldIncome asset (drawNotice h r) = 0 := rfl

theorem turnover_step {factory : Address} {i : Instance.Invocation} (hlife : Holds h Lifecycle w)
    (hf : w.factory = some factory) (hw : Turnover w) (hok : Instance.invoke h i w = .ok w') :
    Turnover w' := by
  obtain ⟨r, r', acts, hr, -, -, hyields, hpath⟩ := committed_path hlife hok
  have hnotifies := invoke_notifies hr hf hok
  cases horder : orderOf i.call with
  | some order =>
    have hacts := yields_order hyields horder
    subst hacts
    exact hw.sale (notifies_order hnotifies horder) hpath.of_single
  | none =>
    have hacts := yields_no_sale hyields horder
    have hquiet (hsaid : channel w' = channel w) : Turnover w' := by
      have hcalls : w'.factoryCalls = w.factoryCalls ++ [] :=
        (congrArg Prod.snd hsaid).trans (List.append_nil _).symm
      exact hw.other hcalls (fun _ => rfl) hpath hacts
    cases hdraw : isDraw i.call with
    | false => exact hquiet (notifies_quiet hnotifies horder hdraw)
    | true =>
      rcases notifies_draw hnotifies hdraw with ⟨hsaid, -⟩ | ⟨hsaid, -⟩
      · exact hquiet hsaid
      · have hcalls : w'.factoryCalls = w.factoryCalls ++ drawNotice h r :=
          congrArg Prod.snd hsaid
        exact hw.other hcalls drawNotice_income hpath hacts

theorem turnover_initialised (hinit : Instance.Initialised h w) : Turnover w := by
  obtain ⟨r, hr, hfresh⟩ := initialised_fresh hinit
  obtain ⟨factory, hsaid⟩ := initialised_channel hinit
  have hcalls : w.factoryCalls = [] := congrArg Prod.snd hsaid
  have htransfers : w.transfers = [] := hfresh.transfers
  have hticket (id : Nat) : w.ticket id = none := hfresh.ticket id
  refine ⟨fun asset => ?_, fun id ticket hstored => ?_⟩
  · rw [hcalls, htransfers]
    rfl
  · rw [hticket] at hstored
    cases hstored

/-- Transfers made outside are no income. -/
theorem ticketIncome_alike {v : World} (halike : Alike w v) (asset : Address) :
    ticketIncome asset w.transfers = ticketIncome asset v.transfers := by
  have hdrop (ts : List Transfer) :
      ticketIncome asset (ts.filter (·.purpose ≠ .outside)) = ticketIncome asset ts := by
    rw [ticketIncome, tally, List.filter_filter, ticketIncome, tally]
    congr 2
    apply List.filter_congr
    intro t _
    by_cases hpayment : t.purpose = .ticketPayment <;> simp [hpayment]
  rw [← hdrop w.transfers, halike.log, hdrop]

theorem Turnover.alike {v : World} (hw : Turnover w) (halike : Alike w v) : Turnover v := by
  have hcalls : w.factoryCalls = v.factoryCalls := by rw [halike.fields]
  have htickets : w.ticket = v.ticket := by rw [halike.fields]
  refine ⟨fun asset => ?_, fun id ticket hticket => ?_⟩
  · rw [← hcalls, hw.income, ticketIncome_alike halike]
  · rw [← hcalls]
    exact hw.owners id ticket (by rw [htickets]; exact hticket)

end TikkaRaffle.Properties
