import Mathlib.Data.Finset.Card
import Mathlib.Data.Finset.Image
import Mathlib.Data.List.Nodup

/-! Draws that look for somebody new. Items are dealt one by one; an item whose
owner has been served already gives way to one of an owner who has not, as long
as there is such an owner. -/
namespace TikkaRaffle.Lib

variable {ι α : Type}

/-- The items taken, each replaced according to the owners served before it. -/
def takes (owner : ι → α) (seek : List α → ι → ι) : List α → List ι → List ι
  | _, [] => []
  | served, item :: rest =>
      seek served item :: takes owner seek (served ++ [owner (seek served item)]) rest

/-- What a replacement rule promises on a set of items. -/
structure SeeksNew [DecidableEq α] (items : Finset ι) (owner : ι → α) (seek : List α → ι → ι) :
    Prop where
  mem : ∀ served, ∀ item ∈ items, seek served item ∈ items
  new : ∀ served, ∀ item ∈ items, ¬items.image owner ⊆ served.toFinset →
    owner (seek served item) ∉ served
  kept : ∀ served, ∀ item ∈ items, items.image owner ⊆ served.toFinset → seek served item = item

section Takes

variable {items : Finset ι} {owner : ι → α} {seek : List α → ι → ι} {served : List α}
  {dealt : List ι}

theorem takes_length : (takes owner seek served dealt).length = dealt.length := by
  induction dealt generalizing served with
  | nil => rfl
  | cons item rest ih => rw [takes, List.length_cons, ih, List.length_cons]

theorem takes_append (first last : List ι) : takes owner seek served (first ++ last) =
    takes owner seek served first ++
      takes owner seek (served ++ (takes owner seek served first).map owner) last := by
  induction first generalizing served with
  | nil => simp [takes]
  | cons item rest ih =>
    rw [List.cons_append, takes, ih, takes, List.map_cons, List.cons_append, List.append_assoc,
      List.singleton_append]

variable [DecidableEq α]

theorem takes_mem (hs : SeeksNew items owner seek) (hdealt : ∀ item ∈ dealt, item ∈ items) :
    ∀ item ∈ takes owner seek served dealt, item ∈ items := by
  induction dealt generalizing served with
  | nil => simp [takes]
  | cons item rest ih =>
    intro taken htaken
    rcases List.mem_cons.mp htaken with rfl | htaken
    · exact hs.mem served item (hdealt item (List.mem_cons_self ..))
    · exact ih (fun i hi => hdealt i (List.mem_cons_of_mem _ hi)) taken htaken

theorem card_served (hs : SeeksNew items owner seek) (hdealt : ∀ item ∈ dealt, item ∈ items)
    (hserved : served.toFinset ⊆ items.image owner) :
    (served ++ (takes owner seek served dealt).map owner).toFinset.card =
      min (served.toFinset.card + dealt.length) (items.image owner).card := by
  induction dealt generalizing served with
  | nil => simpa [takes] using Finset.card_le_card hserved
  | cons item rest ih =>
    have hitem := hdealt item (List.mem_cons_self ..)
    have hrest : ∀ i ∈ rest, i ∈ items := fun i hi => hdealt i (List.mem_cons_of_mem _ hi)
    have howner : owner (seek served item) ∈ items.image owner :=
      Finset.mem_image_of_mem owner (hs.mem served item hitem)
    have hnext : (served ++ [owner (seek served item)]).toFinset ⊆ items.image owner := by
      rw [List.toFinset_append]
      exact Finset.union_subset hserved (by simpa using howner)
    have hrun := ih hrest hnext
    rw [takes, List.map_cons, ← List.singleton_append, ← List.append_assoc, hrun, List.length_cons]
    by_cases hfull : items.image owner ⊆ served.toFinset
    · -- everybody is served: the two sets are equal and stay so
      have hequal : served.toFinset = items.image owner := hserved.antisymm hfull
      have hsame : (served ++ [owner (seek served item)]).toFinset = items.image owner := by
        refine hnext.antisymm ?_
        rw [List.toFinset_append, ← hequal]
        exact Finset.subset_union_left
      rw [hsame, hequal]
      omega
    · have hnew := hs.new served item hitem hfull
      have hcard : (served ++ [owner (seek served item)]).toFinset.card =
          served.toFinset.card + 1 := by
        rw [List.toFinset_append, List.toFinset_cons, List.toFinset_nil, insert_empty_eq,
          Finset.union_comm, ← Finset.insert_eq, Finset.card_insert_of_notMem]
        simpa using hnew
      rw [hcard]
      omega

theorem card_takes (hs : SeeksNew items owner seek) (hdealt : ∀ item ∈ dealt, item ∈ items) :
    ((takes owner seek [] dealt).map owner).toFinset.card =
      min dealt.length (items.image owner).card := by
  have hcard : ([] ++ (takes owner seek [] dealt).map owner).toFinset.card =
      min (([] : List α).toFinset.card + dealt.length) (items.image owner).card :=
    card_served hs hdealt (Finset.empty_subset _)
  rwa [List.nil_append, List.toFinset_nil, Finset.card_empty, Nat.zero_add] at hcard

theorem nodup_owners (hs : SeeksNew items owner seek) (hdealt : ∀ item ∈ dealt, item ∈ items)
    (hfew : dealt.length ≤ (items.image owner).card) :
    ((takes owner seek [] dealt).map owner).Nodup := by
  have hcard := card_takes hs hdealt
  rw [min_eq_left hfew] at hcard
  refine Multiset.toFinset_card_eq_card_iff_nodup.mp (hcard.trans ?_)
  rw [Multiset.coe_card, List.length_map, takes_length]

theorem takes_full (hs : SeeksNew items owner seek) (hdealt : ∀ item ∈ dealt, item ∈ items)
    (hfull : items.image owner ⊆ served.toFinset) : takes owner seek served dealt = dealt := by
  induction dealt generalizing served with
  | nil => rfl
  | cons item rest ih =>
    rw [takes, hs.kept served item (hdealt item (List.mem_cons_self ..)) hfull,
      ih fun i hi => hdealt i (List.mem_cons_of_mem _ hi)]
    rw [List.toFinset_append]
    exact hfull.trans Finset.subset_union_left

/-- The draw in two parts: the search for new owners, then the items as dealt. -/
theorem takes_split (hs : SeeksNew items owner seek) (hdealt : ∀ item ∈ dealt, item ∈ items) :
    takes owner seek [] dealt =
      takes owner seek [] (dealt.take (items.image owner).card) ++
        dealt.drop (items.image owner).card := by
  set count := (items.image owner).card with hcount
  have hearly : ∀ item ∈ dealt.take count, item ∈ items :=
    fun item hitem => hdealt item (List.mem_of_mem_take hitem)
  have hlate : ∀ item ∈ dealt.drop count, item ∈ items :=
    fun item hitem => hdealt item (List.mem_of_mem_drop hitem)
  conv_lhs => rw [← List.take_append_drop count dealt, takes_append, List.nil_append]
  congr 1
  rcases Nat.lt_or_ge dealt.length count with hshort | hlong
  · rw [List.drop_eq_nil_of_le hshort.le]
    rfl
  · refine takes_full hs hlate ?_
    -- as many owners have been served as there are
    have hsub : ((takes owner seek [] (dealt.take count)).map owner).toFinset ⊆
        items.image owner := by
      intro a ha
      obtain ⟨item, hitem, rfl⟩ := List.mem_map.mp (List.mem_toFinset.mp ha)
      exact Finset.mem_image_of_mem owner (takes_mem hs hearly item hitem)
    refine (Finset.eq_of_subset_of_card_le hsub ?_).superset
    rw [card_takes hs hearly, List.length_take, min_eq_left hlong, ← hcount, min_self]

theorem nodup_first_owners (hs : SeeksNew items owner seek)
    (hdealt : ∀ item ∈ dealt, item ∈ items) :
    (((takes owner seek [] dealt).map owner).take
      (min dealt.length (items.image owner).card)).Nodup := by
  have hsearch : ((takes owner seek [] (dealt.take (items.image owner).card)).map owner).length =
      min dealt.length (items.image owner).card := by
    rw [List.length_map, takes_length, List.length_take, Nat.min_comm]
  rw [takes_split hs hdealt, List.map_append, ← hsearch, List.take_left]
  exact nodup_owners hs (fun item hitem => hdealt item (List.mem_of_mem_take hitem))
    (List.length_take_le ..)

/-- The items taken differ exactly if the search does not take one that is
dealt after it. -/
theorem nodup_takes_iff (hs : SeeksNew items owner seek) (hdealt : ∀ item ∈ dealt, item ∈ items)
    (hdistinct : dealt.Nodup) :
    (takes owner seek [] dealt).Nodup ↔
      ∀ item ∈ takes owner seek [] (dealt.take (items.image owner).card),
        item ∉ dealt.drop (items.image owner).card := by
  have hearly := nodup_owners hs (fun item hitem => hdealt item (List.mem_of_mem_take hitem))
    (List.length_take_le (items.image owner).card dealt)
  have hlate := hdistinct.sublist (List.drop_sublist (items.image owner).card dealt)
  rw [takes_split hs hdealt, List.nodup_append]
  constructor
  · rintro ⟨-, -, hapart⟩ item hitem hagain
    exact hapart item hitem item hagain rfl
  · intro hapart
    refine ⟨hearly.of_map, hlate, fun item hitem other hother heq => ?_⟩
    exact hapart item hitem (heq ▸ hother)

end Takes

end TikkaRaffle.Lib
