import TikkaRaffle.Escrow.Postings
import Mathlib.Data.Set.Card
import Mathlib.Order.Interval.Finset.Nat

/-! The tickets of a raffle and their refunds. A ticket is paid back at most
once, at the list price, and its mark stays until the storage is wiped; the
wipe takes the tickets with the marks, so nothing can be refunded after it. -/
namespace TikkaRaffle.Escrow

open TikkaRaffle.Lib TikkaRaffle.Instance

def refundOf (t : Transfer) : Option Nat :=
  match t.purpose with
  | .ticketRefund ticketId => some ticketId
  | _ => none

def refundedIds (ts : List Transfer) : List Nat := ts.filterMap refundOf

@[simp] theorem refundedIds_append (first last : List Transfer) :
    refundedIds (first ++ last) = refundedIds first ++ refundedIds last := by
  simp [refundedIds]

theorem refundOf_eq_some {t : Transfer} {ticketId : Nat} :
    refundOf t = some ticketId ↔ t.purpose = .ticketRefund ticketId := by
  unfold refundOf
  split
  next id hpurpose => simp [hpurpose]
  next hother =>
    simp only [reduceCtorEq, false_iff]
    exact hother ticketId

variable {h : Host} {a : Act} {b b' : Books} {self : Address} {ts : List Transfer}

theorem Posted.no_refund (hp : Posted self a b b' ts)
    (hother : ∀ ticketId, a.posts (.ticketRefund ticketId) = false) :
    ∀ t ∈ ts, refundOf t = none := by
  intro t ht
  apply Option.eq_none_iff_forall_ne_some.mpr
  intro ticketId hsome
  have hposts := hp.purposes t ht
  rw [refundOf_eq_some.mp hsome, hother ticketId] at hposts
  cases hposts

theorem Posted.refundedIds_same (hp : Posted self a b b' ts)
    (hother : ∀ ticketId, a.posts (.ticketRefund ticketId) = false) :
    refundedIds b'.transfers = refundedIds b.transfers := by
  have hnone : refundedIds ts = [] := List.filterMap_eq_nil_iff.mpr (hp.no_refund hother)
  rw [hp.logged, refundedIds_append, hnone, List.append_nil]

theorem Move.tickets_same (hm : Move h a b b') (hbuy : ∀ order, a ≠ .buy order)
    (hwipe : a ≠ .wipe) :
    b'.ticket = b.ticket ∧ b'.raffle.ticketsSold = b.raffle.ticketsSold := by
  cases hm with
  | buy _ order => exact absurd rfl (hbuy order)
  | sellOut _ order => exact absurd rfl (hbuy order)
  | wipe => exact absurd rfl hwipe
  | claim | sweep =>
    rw [Books.markTier_ticket, Books.markTier_raffle]
    exact ⟨rfl, rfl⟩
  | _ => exact ⟨rfl, rfl⟩

theorem tickets_same_path {acts : List Act} (hpath : Path (Move h) b acts b')
    (hacts : ∀ a ∈ acts, (∀ order, a ≠ .buy order) ∧ a ≠ .wipe) :
    b'.ticket = b.ticket ∧ b'.raffle.ticketsSold = b.raffle.ticketsSold :=
  hpath.preserves
    (fun b₁ => b₁.ticket = b.ticket ∧ b₁.raffle.ticketsSold = b.raffle.ticketsSold) _
    (fun a b₁ b₂ ha hsame hm => by
      obtain ⟨hticket, hsold⟩ := Move.tickets_same hm ha.1 ha.2
      exact ⟨hticket.trans hsame.1, hsold.trans hsame.2⟩)
    hacts ⟨rfl, rfl⟩

theorem Move.sold_same (hm : Move h a b b') (hbuy : ∀ order, a ≠ .buy order) :
    b'.raffle.ticketsSold = b.raffle.ticketsSold := by
  by_cases hwipe : a = .wipe
  · subst hwipe
    cases hm
    rfl
  · exact (Move.tickets_same hm hbuy hwipe).2

theorem sold_same_path {acts : List Act} (hpath : Path (Move h) b acts b')
    (hacts : ∀ a ∈ acts, ∀ order, a ≠ .buy order) :
    b'.raffle.ticketsSold = b.raffle.ticketsSold :=
  hpath.preserves (fun b₁ : Books => b₁.raffle.ticketsSold = b.raffle.ticketsSold)
    (fun a => ∀ order, a ≠ .buy order)
    (fun _ _ _ ha hsame hm => (Move.sold_same hm ha).trans hsame) hacts rfl

theorem Move.issued {order : Order} (hm : Move h (.buy order) b b') :
    (∃ issued : Nat → Ticket, b'.ticket = (fun i =>
        if b.raffle.ticketsSold < i ∧ i ≤ b.raffle.ticketsSold + order.quantity then
          some (issued i)
        else b.ticket i) ∧
      ∀ i, (issued i).id = i ∧ (issued i).ticketNumber = i ∧ (issued i).owner = order.holder) ∧
    b'.raffle.ticketsSold = b.raffle.ticketsSold + order.quantity ∧ 0 < order.quantity := by
  cases hm with
  | buy _ _ total fee time hsale =>
    exact ⟨⟨fun i => ⟨i, order.holder, time, i, order.payer, b.raffle.ticketPrice⟩, rfl,
      fun _ => ⟨rfl, rfl, rfl⟩⟩, rfl, hsale.quantity_pos⟩
  | sellOut _ _ total fee time request hsale =>
    exact ⟨⟨fun i => ⟨i, order.holder, time, i, order.payer, b.raffle.ticketPrice⟩, rfl,
      fun _ => ⟨rfl, rfl, rfl⟩⟩, rfl, hsale.quantity_pos⟩

/-- Until the storage is wiped the tickets are numbered from one without gaps. -/
structure Numbered (b : Books) : Prop where
  present : ∀ i, b.ticket i ≠ none ↔ 1 ≤ i ∧ i ≤ b.raffle.ticketsSold
  ids : ∀ i ticket, b.ticket i = some ticket → ticket.id = i ∧ ticket.ticketNumber = i

namespace Numbered

theorem of_fresh (hf : Fresh b) : Numbered b where
  present i := by
    rw [hf.ticket, hf.unsold]
    simp only [ne_eq, not_true_eq_false, false_iff]
    omega
  ids i ticket hticket := by
    rw [hf.ticket] at hticket
    cases hticket

theorem sell (hn : Numbered b) {order : Order} (hm : Move h (.buy order) b b') : Numbered b' := by
  obtain ⟨⟨issued, hticket, hissued⟩, hsold, -⟩ := Move.issued hm
  refine ⟨fun i => ?_, fun i ticket hi => ?_⟩
  · have hpresent := hn.present i
    rw [hticket, hsold]
    simp only
    split
    next hnew =>
      simp only [ne_eq, reduceCtorEq, not_false_eq_true, true_iff]
      omega
    next hold =>
      rw [hpresent]
      omega
  · rw [hticket] at hi
    simp only at hi
    split at hi
    next =>
      cases hi
      exact ⟨(hissued i).1, (hissued i).2.1⟩
    next => exact hn.ids i ticket hi

theorem move (hn : Numbered b) (hm : Move h a b b') (hwipe : a ≠ .wipe) : Numbered b' := by
  by_cases hbuy : ∃ order, a = .buy order
  · obtain ⟨order, rfl⟩ := hbuy
    exact hn.sell hm
  · obtain ⟨hticket, hsold⟩ := Move.tickets_same hm (not_exists.mp hbuy) hwipe
    exact ⟨by rw [hticket, hsold]; exact hn.present, by rw [hticket]; exact hn.ids⟩

end Numbered

/-- Every sold ticket is on record and every paid one is marked. -/
structure Complete (b : Books) : Prop where
  recorded : ∀ i, 1 ≤ i → i ≤ b.raffle.ticketsSold → b.ticket i ≠ none
  marked : ∀ i ∈ refundedIds b.transfers, b.refunded i ≠ none

/-- The storage has been wiped: no ticket is left and, unless the raffle was
claimed, every sold one had been paid back. -/
structure Erased (b : Books) : Prop where
  terminal : b.raffle.status.isTerminal = true
  gone : ∀ i, b.ticket i = none
  unmarked : ∀ i, b.refunded i = none
  repaid : Refundable b.raffle →
    ∀ i, 1 ≤ i → i ≤ b.raffle.ticketsSold → i ∈ refundedIds b.transfers

structure Registry (b : Books) : Prop where
  paid_once : (refundedIds b.transfers).Nodup
  paid_sold : ∀ i ∈ refundedIds b.transfers, 1 ≤ i ∧ i ≤ b.raffle.ticketsSold
  list_price : ∀ t ∈ b.transfers, ∀ ticketId, refundOf t = some ticketId →
    t.amount = b.raffle.ticketPrice
  sold : ∀ i ticket, b.ticket i = some ticket →
    (1 ≤ i ∧ i ≤ b.raffle.ticketsSold) ∧ ticket.pricePaid = b.raffle.ticketPrice
  mark_paid : ∀ i, b.refunded i ≠ none → i ∈ refundedIds b.transfers
  kept : Complete b ∨ Erased b

namespace Registry

theorem of_fresh (hf : Fresh b) : Registry b where
  paid_once := by simp [hf.transfers, refundedIds]
  paid_sold := by simp [hf.transfers, refundedIds]
  list_price := by simp [hf.transfers]
  sold i ticket hticket := by simp [hf.ticket] at hticket
  mark_paid i hmark := absurd (hf.refunded i) hmark
  kept := .inl ⟨fun i hlow hhigh => by simp [hf.unsold] at hhigh; omega,
    by simp [hf.transfers, refundedIds]⟩

/-- A ticket on record can only have been paid if it is marked. -/
theorem unpaid (hk : Registry b) {i : Nat} (hticket : b.ticket i ≠ none)
    (hunmarked : b.refunded i = none) : i ∉ refundedIds b.transfers := by
  intro hpaid
  rcases hk.kept with hcomplete | herased
  · exact hcomplete.marked i hpaid hunmarked
  · exact hticket (herased.gone i)

theorem complete (hk : Registry b) (hopen : b.raffle.status.isTerminal = false) : Complete b := by
  rcases hk.kept with hcomplete | herased
  · exact hcomplete
  · rw [herased.terminal] at hopen
    cases hopen

theorem of_same (hk : Registry b) (hm : Move h a b b') (hp : Posted self a b b' ts)
    (hother : ∀ ticketId, a.posts (.ticketRefund ticketId) = false)
    (hticket : b'.ticket = b.ticket) (hrefunded : b'.refunded = b.refunded)
    (hsold : b'.raffle.ticketsSold = b.raffle.ticketsSold) : Registry b' := by
  have hids := hp.refundedIds_same hother
  have hprice := (SameTerms.move hm).ticketPrice
  have hstatus := (Hops.move hm).terminal
  refine ⟨by rw [hids]; exact hk.paid_once, by rw [hids, hsold]; exact hk.paid_sold, ?_,
    by rw [hticket, hsold, hprice]; exact hk.sold, by rw [hids, hrefunded]; exact hk.mark_paid, ?_⟩
  · intro t ht ticketId hrefund
    rw [hp.logged] at ht
    rw [hprice]
    rcases List.mem_append.mp ht with hold | hnew
    · exact hk.list_price t hold ticketId hrefund
    · rw [hp.no_refund hother t hnew] at hrefund
      cases hrefund
  · rcases hk.kept with ⟨hrecorded, hmarked⟩ | ⟨hterminal, hgone, hunmarked, hrepaid⟩
    · exact .inl ⟨by rw [hticket, hsold]; exact hrecorded, by rw [hids, hrefunded]; exact hmarked⟩
    · refine .inr ⟨by rw [hstatus hterminal]; exact hterminal, by rw [hticket]; exact hgone,
        by rw [hrefunded]; exact hunmarked, ?_⟩
      rw [hids, hsold]
      intro hrefundable
      rw [Refundable, hstatus hterminal] at hrefundable
      exact hrepaid hrefundable

theorem sell (hk : Registry b) (hopen : b.raffle.status.isTerminal = false)
    (hp : Posted self a b b' ts)
    (hother : ∀ ticketId, a.posts (.ticketRefund ticketId) = false) {quantity : Nat}
    {issued : Nat → Ticket} (hissued : ∀ i, (issued i).pricePaid = b.raffle.ticketPrice)
    (hticket : b'.ticket = fun i =>
      if b.raffle.ticketsSold < i ∧ i ≤ b.raffle.ticketsSold + quantity then some (issued i)
      else b.ticket i)
    (hrefunded : b'.refunded = b.refunded)
    (hsold : b'.raffle.ticketsSold = b.raffle.ticketsSold + quantity)
    (hprice : b'.raffle.ticketPrice = b.raffle.ticketPrice) : Registry b' := by
  have hids := hp.refundedIds_same hother
  obtain ⟨hrecorded, hmarked⟩ := hk.complete hopen
  refine ⟨by rw [hids]; exact hk.paid_once, ?_, ?_, ?_, by rw [hids, hrefunded]; exact hk.mark_paid,
    .inl ⟨?_, by rw [hids, hrefunded]; exact hmarked⟩⟩
  · intro i hi
    rw [hids] at hi
    have hbounds := hk.paid_sold i hi
    omega
  · intro t ht ticketId hrefund
    rw [hp.logged] at ht
    rw [hprice]
    rcases List.mem_append.mp ht with hold | hnew
    · exact hk.list_price t hold ticketId hrefund
    · rw [hp.no_refund hother t hnew] at hrefund
      cases hrefund
  · intro i ticket hi
    simp only [hticket] at hi
    split at hi
    next hnew =>
      cases hi
      exact ⟨by omega, (hissued i).trans hprice.symm⟩
    next =>
      obtain ⟨hbounds, hpaid⟩ := hk.sold i ticket hi
      exact ⟨by omega, hpaid.trans hprice.symm⟩
  · intro i hlow hhigh
    simp only [hticket]
    split
    next => simp
    next hnot => exact hrecorded i hlow (by omega)

theorem refund (hk : Registry b) {ticketId : Nat} {ticket : Ticket} {recipient : Address}
    {amount : Int} (hticket : b.ticket ticketId = some ticket)
    (hunmarked : b.refunded ticketId = none)
    (hamount : amount = ticket.pricePaid ∨ amount = b.raffle.ticketPrice) :
    Registry ((b.markRefund ticketId).post self
      [⟨.ticketRefund ticketId, b.raffle.paymentToken, self, recipient, amount⟩]) := by
  have hrecord : b.ticket ticketId ≠ none := by simp [hticket]
  obtain ⟨hbounds, hpaid⟩ := hk.sold ticketId ticket hticket
  have hnew := hk.unpaid hrecord hunmarked
  have hids : refundedIds ((b.markRefund ticketId).post self [⟨.ticketRefund ticketId,
      b.raffle.paymentToken, self, recipient, amount⟩]).transfers =
        refundedIds b.transfers ++ [ticketId] := refundedIds_append ..
  refine ⟨?_, ?_, ?_, hk.sold, ?_, ?_⟩
  · rw [hids]
    exact hk.paid_once.append (List.nodup_singleton _) (by simpa using hnew)
  · intro i hi
    rw [hids] at hi
    rcases List.mem_append.mp hi with hold | hlast
    · exact hk.paid_sold i hold
    · rw [List.mem_singleton.mp hlast]
      exact hbounds
  · intro t ht i hrefund
    rcases List.mem_append.mp ht with hold | hlast
    · exact hk.list_price t hold i hrefund
    · rw [List.mem_singleton.mp hlast]
      rcases hamount with rfl | rfl
      · exact hpaid
      · rfl
  · intro i hmark
    rw [hids]
    by_cases hi : i = ticketId
    · simp [hi]
    · refine List.mem_append_left _ (hk.mark_paid i ?_)
      simpa [Books.markRefund, Books.post, hi] using hmark
  · rcases hk.kept with ⟨hrecorded, hmarked⟩ | herased
    · refine .inl ⟨hrecorded, fun i hi => ?_⟩
      rw [hids] at hi
      by_cases hsame : i = ticketId
      · simp [Books.markRefund, Books.post, hsame]
      · have hold : i ∈ refundedIds b.transfers := by simpa [hsame] using hi
        simpa [Books.markRefund, Books.post, hsame] using hmarked i hold
    · exact absurd (herased.gone ticketId) hrecord

/-- The wipe removes the marks together with the tickets they guard. -/
theorem wipe (hk : Registry b) (hstatus : Refundable b.raffle ∨ b.raffle.status = .claimed)
    (hrefunded : Refundable b.raffle →
      ∀ i, 1 ≤ i → i ≤ b.raffle.ticketsSold → (b.refunded i).isSome = true) :
    Registry b.wiped := by
  have hgone : ∀ i, b.wiped.ticket i = none := by
    intro i
    simp only [Books.wiped]
    split
    next => rfl
    next hnot =>
      rcases hticket : b.ticket i with _ | ticket
      · rfl
      · exact absurd (hk.sold i ticket hticket).1 hnot
  have hunmarked : ∀ i, b.wiped.refunded i = none := by
    intro i
    simp only [Books.wiped]
    split
    next => rfl
    next hnot =>
      rcases hmark : b.refunded i with _ | mark
      · rfl
      · exact absurd (hk.paid_sold i (hk.mark_paid i (by simp [hmark]))) hnot
  refine ⟨hk.paid_once, hk.paid_sold, hk.list_price, ?_, ?_, .inr ⟨?_, hgone, hunmarked, ?_⟩⟩
  · intro i ticket hticket
    rw [hgone i] at hticket
    cases hticket
  · intro i hmark
    exact absurd (hunmarked i) hmark
  · rcases hstatus with (hs | hs) | hs <;>
      simp [Books.wiped, Books.disarm, hs, RaffleStatus.isTerminal]
  · intro hrefundable i hlow hhigh
    exact hk.mark_paid i (Option.isSome_iff_ne_none.mp (hrefunded hrefundable i hlow hhigh))

theorem repaid_le (hk : Registry b) :
    (refundedIds b.transfers).length ≤ b.raffle.ticketsSold := by
  have hsub : refundedIds b.transfers ⊆ List.range' 1 b.raffle.ticketsSold := by
    intro i hi
    have hbounds := hk.paid_sold i hi
    rw [List.mem_range'_1]
    omega
  have hlength := (hk.paid_once.subperm hsub).length_le
  rwa [List.length_range'] at hlength

theorem unmarked_ge (hk : Registry b) : b.raffle.ticketsSold ≤
    (refundedIds b.transfers).length +
      (List.range' 1 b.raffle.ticketsSold).countP fun i => (b.refunded i).isNone := by
  have hmarked : (List.range' 1 b.raffle.ticketsSold).countP
      (fun i => decide ¬(b.refunded i).isNone = true) ≤ (refundedIds b.transfers).length := by
    rw [List.countP_eq_length_filter]
    apply List.Subperm.length_le
    apply List.Nodup.subperm (List.Nodup.filter _ List.nodup_range')
    intro i hi
    apply hk.mark_paid i
    simpa [Option.isNone_iff_eq_none] using (List.mem_filter.mp hi).2
  have hsplit := List.length_eq_countP_add_countP (l := List.range' 1 b.raffle.ticketsSold)
    fun i => (b.refunded i).isNone
  rw [List.length_range'] at hsplit
  omega

theorem open_tickets (hk : Registry b) (hopen : ¬Settled b.raffle) :
    {i | b.ticket i ≠ none ∧ b.refunded i = none}.ncard + (refundedIds b.transfers).length =
      b.raffle.ticketsSold := by
  rcases hk.kept with hcomplete | herased
  · have hset : {i | b.ticket i ≠ none ∧ b.refunded i = none} =
        ((Finset.Icc 1 b.raffle.ticketsSold \ (refundedIds b.transfers).toFinset : Finset Nat) :
          Set Nat) := by
      ext i
      simp only [Set.mem_ofPred_eq, Finset.mem_coe, Finset.mem_sdiff, Finset.mem_Icc,
        List.mem_toFinset]
      constructor
      · rintro ⟨hticket, hunmarked⟩
        obtain ⟨ticket, hsome⟩ := Option.ne_none_iff_exists'.mp hticket
        exact ⟨(hk.sold i ticket hsome).1, hk.unpaid hticket hunmarked⟩
      · rintro ⟨⟨hlow, hhigh⟩, hunpaid⟩
        exact ⟨hcomplete.recorded i hlow hhigh,
          by_contra fun hmark => hunpaid (hk.mark_paid i hmark)⟩
    have hsub : (refundedIds b.transfers).toFinset ⊆ Finset.Icc 1 b.raffle.ticketsSold := by
      intro i hi
      rw [Finset.mem_Icc]
      exact hk.paid_sold i (List.mem_toFinset.mp hi)
    have hle := hk.repaid_le
    rw [hset, Set.ncard_coe_finset, Finset.card_sdiff_of_subset hsub,
      List.toFinset_card_of_nodup hk.paid_once, Nat.card_Icc]
    omega
  · have hempty : {i | b.ticket i ≠ none ∧ b.refunded i = none} = (∅ : Set Nat) := by
      ext i
      simp [herased.gone i]
    have hrefundable : Refundable b.raffle := by
      rcases RaffleStatus.isTerminal_iff.mp herased.terminal with hs | hs | hs
      · exact .inl hs
      · exact .inr hs
      · exact absurd (.inr hs) hopen
    have hsub : List.range' 1 b.raffle.ticketsSold ⊆ refundedIds b.transfers := by
      intro i hi
      rw [List.mem_range'_1] at hi
      exact herased.repaid hrefundable i hi.1 (by omega)
    have hall := (List.Nodup.subperm List.nodup_range' hsub).length_le
    have hle := hk.repaid_le
    rw [List.length_range'] at hall
    rw [hempty, Set.ncard_empty]
    omega

theorem move (hk : Registry b) (hm : Move h a b b') : Registry b' := by
  obtain ⟨ts, hp⟩ := hm.posted
  have hmove := hm
  cases hm with
  | buy _ order total fee time hsale =>
    exact hk.sell (by simp [hsale.active, RaffleStatus.isTerminal]) hp (fun _ => rfl)
      (fun _ => rfl) rfl rfl rfl rfl
  | sellOut _ order total fee time request hsale =>
    exact hk.sell (by simp [hsale.active, RaffleStatus.isTerminal]) hp (fun _ => rfl)
      (fun _ => rfl) rfl rfl rfl rfl
  | refund _ ticketId ticket recipient amount hstatus hticket hunmarked hrecipient hamount =>
    exact hk.refund hticket hunmarked hamount
  | wipe _ hstatus hrefunded => exact hk.wipe hstatus fun hr => (hrefunded hr).2
  | claim _ tier | sweep _ tier =>
    refine hk.of_same hmove hp (fun _ => rfl) ?_ ?_ ?_
    · simp [Books.file, Books.addFees, Books.post]
    · simp [Books.file, Books.addFees, Books.post]
    · simp [Books.file, Books.addFees, Books.post, Books.markTier_raffle]
  | _ => exact hk.of_same hmove hp (fun _ => rfl) rfl rfl rfl

end Registry
end TikkaRaffle.Escrow
