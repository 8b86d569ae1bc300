import TikkaRaffle.Escrow.Records
import TikkaRaffle.Escrow.Registry
import TikkaRaffle.Escrow.Terms
import TikkaRaffle.Lib.Roster

/-! The tickets on record and the indexes kept beside them: the counter of each
holder, the list of holders and the caps agree with the tickets themselves
however purchases and gifts are interleaved. -/
namespace TikkaRaffle.Properties

open TikkaRaffle.Lib TikkaRaffle.Instance TikkaRaffle.Escrow

variable {h : Host} {w w' : World} {r r' : Raffle} {b b' : Books} {a : Act} {i : Invocation}

structure TicketIndex (w : World) (r : Raffle) : Prop where
  supply : r.ticketsSold ≤ r.maxTickets
  present : ∀ i, (∃ ticket, w.ticket i = some ticket) ↔ 1 ≤ i ∧ i ≤ r.ticketsSold
  ids : ∀ i ticket, w.ticket i = some ticket → ticket.id = i ∧ ticket.ticketNumber = i
  counted : ∀ a, (w.ticketCount a).getD 0 = {i | getTicketOwner w i = some a}.ncard
  buyers_nodup : (w.ticketBuyers.getD []).Nodup
  buyers_own : ∀ a, a ∈ w.ticketBuyers.getD [] ↔ ∃ i, getTicketOwner w i = some a
  total : ((w.ticketBuyers.getD []).map fun a => (w.ticketCount a).getD 0).sum = r.ticketsSold
  capped : 0 < r.maxTicketsPerAddress →
    ∀ a, (w.ticketCount a).getD 0 ≤ r.maxTicketsPerAddress

def orderOf : Call → Option Order
  | .buyTickets buyer quantity => some ⟨buyer, buyer, quantity, true⟩
  | .buyTicketsFor buyer recipient quantity => some ⟨buyer, recipient, quantity, false⟩
  | _ => none

theorem yields_order {call : Call} {acts : List Act} {order : Order}
    (hyields : call.Yields w r acts) (horder : orderOf call = some order) :
    acts = [.buy order] := by
  cases call with
  | buyTickets | buyTicketsFor =>
    cases horder
    exact hyields
  | _ => cases horder

theorem stores_order {c : Ctx} {call : Call} {order : Order} (hs : call.Stores h c w r w')
    (horder : orderOf call = some order) : Counts c w r w' order.holder order.quantity := by
  cases call with
  | buyTickets | buyTicketsFor =>
    cases horder
    exact hs
  | _ => cases horder

theorem yields_no_order {call : Call} {acts : List Act} (hyields : call.Yields w r acts)
    (horder : orderOf call = none) (hwipe : call ≠ .wipeStorage) :
    ∀ a ∈ acts, (∀ order, a ≠ .buy order) ∧ a ≠ .wipe := by
  intro a ha
  cases call <;> grind [Call.Yields, orderOf]

theorem yields_no_sale {call : Call} {acts : List Act} (hyields : call.Yields w r acts)
    (horder : orderOf call = none) : ∀ a ∈ acts, ∀ order, a ≠ .buy order := by
  intro a ha
  cases call <;> grind [Call.Yields, orderOf]

theorem yields_no_wipe {call : Call} {acts : List Act} (hyields : call.Yields w r acts)
    (hwipe : call ≠ .wipeStorage) : ∀ a ∈ acts, a ≠ .wipe := by
  intro a ha
  cases call <;> grind [Call.Yields]

theorem stores_counts {c : Ctx} {call : Call} (hs : call.Stores h c w r w')
    (horder : orderOf call = none) (hwipe : call ≠ .wipeStorage) :
    w'.ticketCount = w.ticketCount ∧ w'.ticketBuyers = w.ticketBuyers := by
  have hsame : records w' = records w →
      w'.ticketCount = w.ticketCount ∧ w'.ticketBuyers = w.ticketBuyers := fun hkeys =>
    ⟨congrArg Records.counts hkeys, congrArg Records.buyers hkeys⟩
  cases call with
  | buyTickets | buyTicketsFor => cases horder
  | wipeStorage => exact absurd rfl hwipe
  | finalizeRaffle => exact ⟨(finalizeRaffle_kept hs).2.1, (finalizeRaffle_kept hs).2.2.1⟩
  | provideRandomness => exact ⟨(concludes_kept hs).2.1, (concludes_kept hs).2.2.1⟩
  | provideQuorumRandomness => exact ⟨(submits_kept hs).2.1, (submits_kept hs).2.2.1⟩
  | triggerRandomnessFallback =>
    exact ⟨(triggerRandomnessFallback_kept hs).2.1, (triggerRandomnessFallback_kept hs).2.2.1⟩
  | cancelRaffle reason =>
    obtain ⟨cancelAt, hkeys⟩ := cancelling_kept hs
    exact ⟨congrArg Records.counts hkeys, congrArg Records.buyers hkeys⟩
  | executeAdminCancel =>
    exact ⟨congrArg Records.counts hs.2, congrArg Records.buyers hs.2⟩
  | _ => exact hsame hs

def ownersOf (w : World) (sold : Nat) : List Address :=
  (List.range' 1 sold).filterMap (getTicketOwner w)

theorem ownersOf_congr (hticket : w'.ticket = w.ticket) (sold : Nat) :
    ownersOf w' sold = ownersOf w sold := by
  unfold ownersOf
  rw [getTicketOwner_congr hticket]

theorem ownersOf_issued {sold quantity : Nat} {holder : Address} {issued : Nat → Ticket}
    (hticket : w'.ticket = fun i =>
      if sold < i ∧ i ≤ sold + quantity then some (issued i) else w.ticket i)
    (howner : ∀ i, (issued i).owner = holder) :
    ownersOf w' (sold + quantity) = ownersOf w sold ++ List.replicate quantity holder := by
  have hsplit : List.range' 1 (sold + quantity) =
      List.range' 1 sold ++ List.range' (sold + 1) quantity := by
    rw [← List.range'_append, Nat.one_mul, Nat.add_comm 1 sold]
  unfold ownersOf
  rw [hsplit, List.filterMap_append]
  congr 1
  · apply List.filterMap_congr
    intro i hi
    rw [List.mem_range'_1] at hi
    have hold : w'.ticket i = w.ticket i := by
      rw [hticket]
      exact if_neg (by omega)
    unfold getTicketOwner
    rw [hold]
  · have hnew : ∀ i ∈ List.range' (sold + 1) quantity, getTicketOwner w' i = some holder := by
      intro i hi
      rw [List.mem_range'_1] at hi
      have hissued : w'.ticket i = some (issued i) := by
        rw [hticket]
        exact if_pos (by omega)
      unfold getTicketOwner
      rw [hissued]
      exact congrArg some (howner i)
    rw [List.filterMap_congr hnew]
    apply List.eq_replicate_iff.mpr
    constructor
    · rw [List.filterMap_length_eq_length.mpr fun _ _ => rfl, List.length_range']
    · intro a ha
      obtain ⟨i, -, hholder⟩ := List.mem_filterMap.mp ha
      exact (Option.some.inj hholder).symm

theorem mem_ownersOf {sold : Nat} (hpresent : ∀ i, w.ticket i ≠ none ↔ 1 ≤ i ∧ i ≤ sold)
    (a : Address) : a ∈ ownersOf w sold ↔ ∃ i, getTicketOwner w i = some a := by
  unfold ownersOf
  rw [List.mem_filterMap]
  constructor
  · rintro ⟨i, -, howner⟩
    exact ⟨i, howner⟩
  · rintro ⟨i, howner⟩
    refine ⟨i, ?_, howner⟩
    obtain ⟨ticket, hticket, -⟩ := Option.map_eq_some_iff.mp howner
    have hbounds := (hpresent i).mp (by rw [hticket]; exact nofun)
    rw [List.mem_range'_1]
    omega

theorem length_ownersOf {sold : Nat} (hpresent : ∀ i, w.ticket i ≠ none ↔ 1 ≤ i ∧ i ≤ sold) :
    (ownersOf w sold).length = sold := by
  have hall : (ownersOf w sold).length = (List.range' 1 sold).length := by
    apply List.filterMap_length_eq_length.mpr
    intro i hi
    rw [List.mem_range'_1] at hi
    have hsome := (hpresent i).mpr (by omega)
    unfold getTicketOwner
    rw [Option.isSome_map, Option.isSome_iff_ne_none]
    exact hsome
  rw [hall, List.length_range']

theorem count_ownersOf {sold : Nat} (hpresent : ∀ i, w.ticket i ≠ none ↔ 1 ≤ i ∧ i ≤ sold)
    (a : Address) : (ownersOf w sold).count a = {i | getTicketOwner w i = some a}.ncard := by
  have hset : {i | getTicketOwner w i = some a} =
      (((List.range' 1 sold).filter fun i => getTicketOwner w i = some a).toFinset : Set Nat) := by
    ext i
    simp only [Set.mem_ofPred_eq, List.coe_toFinset, List.mem_filter, List.mem_range'_1,
      decide_eq_true_eq]
    constructor
    · intro howner
      obtain ⟨ticket, hticket, -⟩ := Option.map_eq_some_iff.mp howner
      have hbounds := (hpresent i).mp (by rw [hticket]; exact nofun)
      exact ⟨by omega, howner⟩
    · exact And.right
  rw [hset, Set.ncard_coe_finset,
    List.toFinset_card_of_nodup (List.Nodup.filter _ List.nodup_range'),
    ← List.countP_eq_length_filter]
  unfold ownersOf List.count
  rw [List.countP_filterMap]
  apply List.countP_congr
  intro i hi
  cases getTicketOwner w i <;> simp

/-- The indexes agree with the tickets, and no holder is over the cap. -/
structure Indexed (h : Host) (cap : Nat) (w : World) : Prop where
  books : Holds h (fun b => Lifecycle b ∧ Numbered b) w
  roster : ∀ r, w.raffle = some r →
    Roster (ownersOf w r.ticketsSold) (records w).held (w.ticketBuyers.getD [])
  limit : ∀ r, w.raffle = some r → r.maxTicketsPerAddress = cap
  capped : 0 < cap → ∀ a, (records w).held a ≤ cap

theorem counts_indexes {c : Ctx} {holder : Address} {quantity : Nat}
    (hs : Counts c w r w' holder quantity) :
    (records w').held = (fun a =>
        if a = holder then (records w).held holder + quantity else (records w).held a) ∧
      w'.ticketBuyers.getD [] =
        if (records w).held holder = 0 then w.ticketBuyers.getD [] ++ [holder]
        else w.ticketBuyers.getD [] := by
  have hcounts : (records w').counts = ((records w).count holder quantity).counts := by
    rw [hs.2]
    split <;> rfl
  have hbuyers : (records w').buyers = ((records w).count holder quantity).buyers := by
    rw [hs.2]
    split <;> rfl
  constructor
  · funext a
    unfold Records.held
    rw [hcounts]
    simp only [Records.count]
    split <;> rfl
  · rw [show w'.ticketBuyers = (records w').buyers from rfl, hbuyers]
    simp only [Records.count]
    split <;> rfl

theorem indexed_order {cap : Nat} {order : Order} (hw : Indexed h cap w)
    (horder : orderOf i.call = some order) (hok : invoke h i w = .ok w')
    (hbooks : Holds h (fun b => Lifecycle b ∧ Numbered b) w') : Indexed h cap w' := by
  obtain ⟨r, r', acts, hr, hr', -, hyields, hpath⟩ :=
    committed_path hw.books.left hok
  have hacts := yields_order hyields horder
  subst hacts
  obtain ⟨⟨issued, hticket, hissued⟩, hsold, hpos⟩ := Move.issued hpath.of_single
  have hstores := stores_order (invoke_stores hr hok) horder
  obtain ⟨hheld, hbuyers⟩ := counts_indexes hstores
  have hlimit := hw.limit r hr
  have hcap := fixed_field Raffle.maxTicketsPerAddress (fun _ => rfl) (fixed_path hpath)
  refine ⟨hbooks, forall_stored hr' ?_, forall_stored hr' (hcap.trans hlimit), ?_⟩
  · have hsold' : r'.ticketsSold = r.ticketsSold + order.quantity := hsold
    have howners : ownersOf w' (r.ticketsSold + order.quantity) =
        ownersOf w r.ticketsSold ++ List.replicate order.quantity order.holder :=
      ownersOf_issued hticket fun i => (hissued i).2.2
    rw [hsold', howners, hheld, hbuyers]
    exact (hw.roster r hr).add order.holder hpos
  · intro hcap a
    rw [hheld]
    simp only
    split
    next =>
      rw [← hlimit]
      exact hstores.1 (by omega)
    next => exact hw.capped hcap a

theorem indexed_step {cap : Nat} (hw : Indexed h cap w) (hwipe : i.call ≠ .wipeStorage)
    (hok : invoke h i w = .ok w') : Indexed h cap w' := by
  have hbooks : Holds h (fun b => Lifecycle b ∧ Numbered b) w' := by
    refine hw.books.call (fun _ hb => hb.1.ready) (fun r acts b' _ hb hyields hpath => ?_) hok
    exact hpath.preserves (fun b => Lifecycle b ∧ Numbered b) (· ≠ .wipe)
      (fun a b b' ha hb hm => ⟨hb.1.move hm, hb.2.move hm ha⟩) (yields_no_wipe hyields hwipe) hb
  cases horder : orderOf i.call with
  | some order => exact indexed_order hw horder hok hbooks
  | none =>
    obtain ⟨r, r', acts, hr, hr', -, hyields, hpath⟩ :=
      committed_path hw.books.left hok
    obtain ⟨hcounts, hbuyers⟩ := stores_counts (invoke_stores hr hok) horder hwipe
    obtain ⟨hticket, hsold⟩ := tickets_same_path hpath (yields_no_order hyields horder hwipe)
    have hcap := fixed_field Raffle.maxTicketsPerAddress (fun _ => rfl) (fixed_path hpath)
    have hheld : (records w').held = (records w).held := by
      funext a
      exact congrArg (fun count => (count a).getD 0) hcounts
    refine ⟨hbooks, forall_stored hr' ?_, forall_stored hr' (hcap.trans (hw.limit r hr)), ?_⟩
    · have hsold' : r'.ticketsSold = r.ticketsSold := hsold
      rw [hsold', ownersOf_congr hticket, hheld, hbuyers]
      exact hw.roster r hr
    · rw [hheld]
      exact hw.capped

theorem Indexed.index {cap : Nat} (hw : Indexed h cap w) (hr : w.raffle = some r) :
    TicketIndex w r := by
  obtain ⟨hlife, hnumbered⟩ := hw.books.view hr
  have hpresent : ∀ i, w.ticket i ≠ none ↔ 1 ≤ i ∧ i ≤ r.ticketsSold := hnumbered.present
  have hroster := hw.roster r hr
  exact {
    supply := hlife.supply
    present := fun i => Option.ne_none_iff_exists'.symm.trans (hpresent i)
    ids := hnumbered.ids
    counted := fun a => (hroster.counted a).trans (count_ownersOf hpresent a)
    buyers_nodup := hroster.nodup
    buyers_own := fun a => (hroster.complete a).trans (mem_ownersOf hpresent a)
    total := hroster.total.trans (length_ownersOf hpresent)
    capped := by
      rw [hw.limit r hr]
      exact hw.capped }

/-- The cap a configuration asks for; without multiple tickets it is one. -/
def addressCap (config : RaffleConfig) : Nat :=
  if config.allowMultiple = false ∧ config.maxTicketsPerAddress = 0 then 1
  else config.maxTicketsPerAddress

theorem resolveTicketCap_cap (config : RaffleConfig) :
    (resolveTicketCap config.resolveDefaults).maxTicketsPerAddress = addressCap config := by
  unfold resolveTicketCap addressCap RaffleConfig.resolveDefaults
  simp only
  split <;> rfl

theorem init_indexed {c : Ctx} {holdings : Address → Address → Nat}
    {factory admin creator : Address} {config : RaffleConfig}
    (hok : init h c (World.deployed holdings) factory admin creator config = .ok w) :
    Indexed h (addressCap config) w := by
  have hinit : Initialised h w := ⟨c, holdings, factory, admin, creator, config, hok⟩
  have hfresh := initialised_fresh hinit
  obtain ⟨_, hkeys⟩ := initialised_records hinit
  have hheld : (records w).held = fun _ => 0 := by
    rw [hkeys]
    rfl
  have hbuyers : w.ticketBuyers = none := congrArg Records.buyers hkeys
  refine ⟨hfresh.mono fun _ hf => ⟨.of_fresh hf, .of_fresh hf⟩, ?_, ?_, ?_⟩
  · intro r hr
    have hunsold : r.ticketsSold = 0 := (hfresh.view hr).unsold
    rw [hunsold, hheld, hbuyers]
    exact Roster.empty
  · intro r hr
    simp only [init, except_bind_ok, ensure_ok, except_pure_ok, exists_const] at hok
    obtain ⟨-, _, -, _, -, _, -, -, -, _, -, rfl⟩ := hok
    cases hr
    exact resolveTicketCap_cap config
  · intro _ a
    rw [hheld]
    exact Nat.zero_le _

theorem indexed_until_ended (hinit : Initialised h w) (calls : List Invocation) :
    (machine h).Always (fun w => Holds h Lifecycle w ∧
      (StatusIn ended w ∨ ∃ cap, Indexed h cap w)) w calls := by
  have hlife := (lifecycle_always hinit calls).head
  obtain ⟨c, holdings, factory, admin, creator, config, hok⟩ := hinit
  refine Machine.always_of_step _ ?_ ⟨hlife, .inr ⟨_, init_indexed hok⟩⟩ calls
  rintro w i w' ⟨hw, hindex⟩ hstep
  refine ⟨lifecycle_step hw hstep, ?_⟩
  rcases hindex with hended | ⟨cap, hindex⟩
  · exact .inl (hended.step ended_closed hw hstep)
  · by_cases hwipe : i.call = .wipeStorage
    · obtain ⟨r, hr, -⟩ := hw
      have hstores := invoke_stores hr hstep
      rw [hwipe] at hstores
      have hended : StatusIn ended w := ⟨r, hr, ended_of_terminal hstores.1⟩
      exact .inl (hended.step ended_closed hindex.books.left hstep)
    · exact .inr ⟨cap, indexed_step hindex hwipe hstep⟩

theorem Indexed.held_le {cap : Nat} (hw : Indexed h cap w) (hr : w.raffle = some r) (a : Address) :
    (w.ticketCount a).getD 0 ≤ r.ticketsSold := by
  have hpresent : ∀ i, w.ticket i ≠ none ↔ 1 ≤ i ∧ i ≤ r.ticketsSold :=
    (hw.books.view hr).2.present
  calc (w.ticketCount a).getD 0
      = (ownersOf w r.ticketsSold).count a := (hw.roster r hr).counted a
    _ ≤ (ownersOf w r.ticketsSold).length := List.count_le_length
    _ = r.ticketsSold := length_ownersOf hpresent

/-- Until the storage is wiped every index agrees with the tickets on record
and no holder exceeds the cap its configuration asked for. -/
theorem ticketIndex_always {c : Ctx} {holdings : Address → Address → Nat}
    {factory admin creator : Address} {config : RaffleConfig}
    (hok : init h c (World.deployed holdings) factory admin creator config = .ok w)
    {calls : List Invocation}
    (heach : (machine h).Each (fun _ i _ => i.call ≠ .wipeStorage) w calls) :
    (machine h).Always (fun w => ∃ r, w.raffle = some r ∧ TicketIndex w r ∧
      r.maxTicketsPerAddress = addressCap config) w calls := by
  have hall := Machine.always_of_each (Indexed h (addressCap config))
    (fun w i w' hw hwipe hok => indexed_step hw hwipe hok) (init_indexed hok) heach
  refine hall.mono fun w' hw' => ?_
  obtain ⟨r, hr, -⟩ := hw'.books
  exact ⟨r, hr, hw'.index hr, hw'.limit r hr⟩

def giftedRun : List Invocation :=
  [Sample.signed [Sample.creator] 1 1 .depositPrize,
    Sample.signed [Sample.buyer] 2 2 (.buyTickets Sample.buyer 1),
    Sample.signed [Sample.treasury] 3 3 (.buyTicketsFor Sample.treasury Sample.buyer 1),
    Sample.signed [Sample.buyer] 4 4 (.buyTicketsFor Sample.buyer Sample.creator 1)]

theorem ticketIndex_always_giftedRun : ∃ r,
    (Sample.after .ifElse Sample.config giftedRun).raffle = some r ∧ r.ticketsSold = 3 ∧
      TicketIndex (Sample.after .ifElse Sample.config giftedRun) r := by
  have hinit : (init (Sample.host .ifElse) (Sample.ctx 0 0 []) (World.deployed Sample.holdings)
      Sample.factory Sample.admin Sample.creator Sample.config).isOk = true := by
    decide +kernel
  obtain ⟨w, hok⟩ := except_isOk hinit
  have hstart : Sample.start .ifElse Sample.config = w := by
    unfold Sample.start
    rw [hok]
  have heach : (machine (Sample.host .ifElse)).Each (fun _ i _ => i.call ≠ .wipeStorage)
      (Sample.start .ifElse Sample.config) giftedRun := by
    decide +kernel
  have hsold : ∃ r, r ∈ (Sample.after .ifElse Sample.config giftedRun).raffle ∧
      r.ticketsSold = 3 := by
    decide +kernel
  rw [hstart] at heach
  obtain ⟨r, hr, hindex, -⟩ := (ticketIndex_always hok heach).last
  obtain ⟨r₁, hr₁, hsold⟩ := hsold
  rw [← hstart] at hr hindex
  have hsame : r₁ = r := Option.some.inj (hr₁.symm.trans hr)
  exact ⟨r, hr, hsame ▸ hsold, hindex⟩

end TikkaRaffle.Properties
