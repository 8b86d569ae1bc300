import Mathlib.Data.List.Nodup
import Mathlib.Data.List.Perm.Basic

/-! The partial Fisher-Yates shuffle over an explicit array. The array keeps its
length, and what is still to be dealt lies below the shrinking end. -/
namespace TikkaRaffle.Lib

variable {α : Type}

/-- Each round reads a position and overwrites it with the value at the current
last position. -/
def deal : List α → Nat → List Nat → Option (List α)
  | _, _, [] => some []
  | deck, remaining, r :: positions => do
      let card ← deck[r]?
      let last ← deck[remaining - 1]?
      let rest ← deal (deck.set r last) (remaining - 1) positions
      return card :: rest

def Dealable : Nat → List Nat → Prop
  | _, [] => True
  | remaining, r :: positions => r < remaining ∧ Dealable (remaining - 1) positions

theorem dealable_iff {remaining : Nat} {positions : List Nat} :
    Dealable remaining positions ↔
      ∀ i, ∀ hi : i < positions.length, positions[i] < remaining - i := by
  induction positions generalizing remaining with
  | nil => simp [Dealable]
  | cons r positions ih =>
    unfold Dealable
    rw [ih]
    constructor
    · rintro ⟨hr, hrest⟩ (- | i) hi
      · exact hr
      · have hlt := hrest i (Nat.lt_of_succ_lt_succ hi)
        rwa [Nat.sub_sub, Nat.add_comm 1] at hlt
    · intro hall
      refine ⟨hall 0 (Nat.succ_pos _), fun i hi => ?_⟩
      have hlt := hall (i + 1) (Nat.succ_lt_succ hi)
      rwa [Nat.sub_sub, Nat.add_comm 1]

theorem take_set_perm {deck : List α} {r m : Nat} (hr : r ≤ m) (hm : m < deck.length) :
    (deck[r] :: (deck.set r deck[m]).take m).Perm (deck.take (m + 1)) := by
  rw [List.take_succ_eq_append_getElem hm, List.take_set]
  rcases Nat.eq_or_lt_of_le hr with rfl | hlt
  · -- the last position itself: nothing below it moves
    rw [List.set_eq_of_length_le (List.length_take_le ..)]
    exact (List.perm_append_singleton _ _).symm
  · have hlive : r < (deck.take m).length := by
      rw [List.length_take]
      omega
    have hsplit := List.set_eq_take_append_cons_drop (l := deck.take m) (i := r) (a := deck[m])
    have hwhole : deck.take m = (deck.take m).take r ++ deck[r] :: (deck.take m).drop (r + 1) := by
      conv_lhs => rw [← List.take_append_drop r (deck.take m), List.drop_eq_getElem_cons hlive]
      rw [List.getElem_take]
    rw [if_pos hlive] at hsplit
    rw [hsplit]
    conv_rhs => rw [hwhole]
    refine (List.perm_middle.cons _).trans ?_
    refine List.Perm.trans ?_ (List.perm_append_singleton _ _).symm
    exact (List.Perm.swap _ _ _).trans (List.perm_middle.symm.cons _)

theorem deal_cons {deck : List α} {r m : Nat} (positions : List Nat) (hr : r ≤ m)
    (hm : m < deck.length) :
    deal deck (m + 1) (r :: positions) =
      (deal (deck.set r deck[m]) m positions).map (deck[r] :: ·) := by
  have hread : deck[r]? = some deck[r] := List.getElem?_eq_getElem (by omega)
  have hlast : deck[m]? = some deck[m] := List.getElem?_eq_getElem hm
  simp only [deal, hread, Nat.add_sub_cancel, hlast, Option.bind_eq_bind, Option.bind_some]
  exact Option.map_eq_bind.symm

theorem deal_perm {deck : List α} {m : Nat} {positions : List Nat}
    (hp : Dealable m positions) (hm : m ≤ deck.length) :
    ∃ cards kept, deal deck m positions = some cards ∧ (cards ++ kept).Perm (deck.take m) := by
  induction positions generalizing deck m with
  | nil => exact ⟨[], deck.take m, rfl, .refl _⟩
  | cons r positions ih =>
    obtain ⟨m, rfl⟩ : ∃ k, m = k + 1 := ⟨m - 1, by have := hp.1; omega⟩
    have hr : r ≤ m := Nat.le_of_lt_succ hp.1
    obtain ⟨cards, kept, hcards, hperm⟩ := ih hp.2
      (show m ≤ (deck.set r deck[m]).length by rw [List.length_set]; omega)
    refine ⟨deck[r] :: cards, kept, ?_, (hperm.cons _).trans (take_set_perm hr hm)⟩
    rw [deal_cons positions hr hm]
    exact congrArg (Option.map (deck[r] :: ·)) hcards

theorem deal_length {deck : List α} {m : Nat} {positions : List Nat} {cards : List α}
    (h : deal deck m positions = some cards) : cards.length = positions.length := by
  induction positions generalizing deck m cards with
  | nil =>
    cases h
    rfl
  | cons r positions ih =>
    simp only [deal, Option.bind_eq_bind, Option.bind_eq_some_iff] at h
    obtain ⟨card, -, last, -, rest, hrest, hcards⟩ := h
    cases hcards
    rw [List.length_cons, List.length_cons, ih hrest]

theorem deal_injective {deck : List α} {m : Nat} {positions positions' : List Nat}
    (hdistinct : (deck.take m).Nodup) (hm : m ≤ deck.length) (hp : Dealable m positions)
    (hp' : Dealable m positions') (h : deal deck m positions = deal deck m positions') :
    positions = positions' := by
  have hlength : positions.length = positions'.length := by
    obtain ⟨cards, -, hcards, -⟩ := deal_perm hp hm
    rw [← deal_length hcards, ← deal_length (h.symm.trans hcards)]
  induction positions generalizing deck m positions' with
  | nil => exact (List.length_eq_zero_iff.mp hlength.symm).symm
  | cons r positions ih =>
    obtain ⟨r', positions', rfl⟩ := List.exists_cons_of_length_eq_add_one hlength.symm
    obtain ⟨m, rfl⟩ : ∃ k, m = k + 1 := ⟨m - 1, by have := hp.1; omega⟩
    have hr : r ≤ m := Nat.le_of_lt_succ hp.1
    have hr' : r' ≤ m := Nat.le_of_lt_succ hp'.1
    obtain ⟨cards, -, hcards, -⟩ :=
      deal_perm hp.2 (show m ≤ (deck.set r deck[m]).length by rw [List.length_set]; omega)
    obtain ⟨cards', -, hcards', -⟩ :=
      deal_perm hp'.2 (show m ≤ (deck.set r' deck[m]).length by rw [List.length_set]; omega)
    rw [deal_cons positions hr hm, deal_cons positions' hr' hm] at h
    have hsame := h
    simp only [Nat.add_sub_cancel] at hcards hcards'
    rw [hcards, hcards', Option.map_some, Option.map_some, Option.some.injEq,
      List.cons.injEq] at hsame
    have hposition : r = r' := by
      have hlt : r < (deck.take (m + 1)).length := by rw [List.length_take]; omega
      have hlt' : r' < (deck.take (m + 1)).length := by rw [List.length_take]; omega
      have hread : (deck.take (m + 1))[r] = (deck.take (m + 1))[r'] := by
        rw [List.getElem_take, List.getElem_take]
        exact hsame.1
      exact (hdistinct.getElem_inj_iff).mp hread
    subst hposition
    have hrest : (deck[r] :: (deck.set r deck[m]).take m).Nodup :=
      (take_set_perm hr hm).nodup_iff.mpr hdistinct
    rw [ih (List.nodup_cons.mp hrest).2 (by rw [List.length_set]; omega) hp.2 hp'.2
      (hcards.trans (hsame.2 ▸ hcards'.symm)) (Nat.succ.inj hlength)]

theorem exists_deal {deck : List α} {m : Nat} {cards : List α} (hdistinct : cards.Nodup)
    (hcards : ∀ card ∈ cards, card ∈ deck.take m) (hm : m ≤ deck.length) :
    ∃ positions, Dealable m positions ∧ deal deck m positions = some cards := by
  induction cards generalizing deck m with
  | nil => exact ⟨[], trivial, rfl⟩
  | cons card cards ih =>
    obtain ⟨r, hr, hread⟩ := List.getElem_of_mem (hcards card (List.mem_cons_self ..))
    rw [List.length_take] at hr
    obtain ⟨m, rfl⟩ : ∃ k, m = k + 1 := ⟨m - 1, by omega⟩
    have hle : r ≤ m := by omega
    rw [List.getElem_take] at hread
    have hperm := take_set_perm hle hm
    obtain ⟨positions, hpositions, hdeal⟩ := ih hdistinct.of_cons
      (fun other hother => by
        have hmem := hperm.mem_iff.mpr (hcards other (List.mem_cons_of_mem _ hother))
        rw [hread] at hmem
        refine (List.mem_cons.mp hmem).resolve_left fun hsame => ?_
        exact (List.nodup_cons.mp hdistinct).1 (hsame ▸ hother))
      (show m ≤ (deck.set r deck[m]).length by rw [List.length_set]; omega)
    refine ⟨r :: positions, ⟨Nat.lt_succ_of_le hle, hpositions⟩, ?_⟩
    rw [deal_cons positions hle hm, hdeal, hread]
    rfl

end TikkaRaffle.Lib
