import TikkaRaffle.Escrow.Selection
import TikkaRaffle.Lib.Shuffle

/-! The selector as a shuffle. Its rounds draw positions without looking at the
swap log, and the log stands for the array that the shuffle would keep. -/
namespace TikkaRaffle.Escrow

open TikkaRaffle.Lib TikkaRaffle.Instance

def drawnPositions : Nat → Nat → Nat → Option (List Nat)
  | 0, _, _ => some []
  | rounds + 1, remaining, seed => do
      let candidate ← rejectionSample (2 ^ 64) (((2 ^ 64 - 1) / remaining) * remaining) seed
      let rest ← drawnPositions rounds (remaining - 1) candidate
      return candidate % remaining :: rest

theorem drawnPositions_cons {rounds remaining seed : Nat} {positions : List Nat}
    (h : drawnPositions (rounds + 1) remaining seed = some positions) :
    ∃ candidate rest,
      rejectionSample (2 ^ 64) ((2 ^ 64 - 1) / remaining * remaining) seed = some candidate ∧
      drawnPositions rounds (remaining - 1) candidate = some rest ∧
      positions = candidate % remaining :: rest := by
  simp only [drawnPositions, Option.bind_eq_bind, Option.bind_eq_some_iff] at h
  obtain ⟨candidate, hcandidate, rest, hrest, hpositions⟩ := h
  cases hpositions
  exact ⟨candidate, rest, hcandidate, hrest, rfl⟩

theorem drawnPositions_dealable {rounds remaining seed : Nat} {positions : List Nat}
    (hrounds : rounds ≤ remaining) (h : drawnPositions rounds remaining seed = some positions) :
    Dealable remaining positions ∧ positions.length = rounds := by
  induction rounds generalizing remaining seed positions with
  | zero =>
    cases h
    exact ⟨trivial, rfl⟩
  | succ rounds ih =>
    obtain ⟨candidate, rest, -, hrest, rfl⟩ := drawnPositions_cons h
    obtain ⟨hdealable, hlength⟩ := ih (Nat.le_sub_of_add_le hrounds) hrest
    exact ⟨⟨Nat.mod_lt _ (by omega), hdealable⟩, by rw [List.length_cons, hlength]⟩

theorem rejectionSample_lt {fuel limit seed candidate : Nat}
    (h : rejectionSample fuel limit seed = some candidate) : candidate < limit := by
  induction fuel generalizing seed with
  | zero => cases h
  | succ fuel ih =>
    unfold rejectionSample at h
    split at h
    next hbelow =>
      cases h
      exact hbelow
    next => exact ih h

theorem rejectionSample_accepts {fuel limit seed : Nat} (hfuel : 0 < fuel) (hseed : seed < limit) :
    rejectionSample fuel limit seed = some seed := by
  obtain ⟨fuel, rfl⟩ : ∃ k, fuel = k + 1 := ⟨fuel - 1, by omega⟩
  exact if_pos hseed

theorem below_largestMultiple {remaining seed : Nat} (hremaining : 0 < remaining)
    (hseed : seed + remaining < 2 ^ 64) : seed < (2 ^ 64 - 1) / remaining * remaining := by
  have hsplit := Nat.div_add_mod' (2 ^ 64 - 1) remaining
  have hshort := Nat.mod_lt (2 ^ 64 - 1) hremaining
  omega

/-- Nothing moves the generator but a rejection: away from the tail every round
reduces the same number. -/
theorem drawnPositions_clean {rounds remaining seed : Nat} (hrounds : rounds ≤ remaining)
    (hseed : seed + remaining < 2 ^ 64) :
    drawnPositions rounds remaining seed =
      some ((List.range rounds).map fun i => seed % (remaining - i)) := by
  induction rounds generalizing remaining with
  | zero => rfl
  | succ rounds ih =>
    have haccepted := rejectionSample_accepts (Nat.two_pow_pos 64)
      (below_largestMultiple (by omega : 0 < remaining) hseed)
    have hshift : (fun i => seed % (remaining - 1 - i)) =
        (fun i => seed % (remaining - i)) ∘ Nat.succ := by
      funext i
      rw [Function.comp_apply, Nat.sub_sub, Nat.add_comm 1]
    simp only [drawnPositions, haccepted, Option.bind_eq_bind, Option.bind_some,
      ih (by omega : rounds ≤ remaining - 1) (by omega), hshift, Option.pure_def]
    rw [List.range_succ_eq_map, List.map_cons, List.map_map, Nat.sub_zero]

theorem resolveSwap_recordSwap (position value query : Nat) (swaps : List (Nat × Nat)) :
    resolveSwap (recordSwap position value swaps) query =
      if query = position then value else resolveSwap swaps query := by
  induction swaps with
  | nil =>
    unfold resolveSwap recordSwap
    by_cases hquery : query = position
    · subst hquery
      simp
    · simp [hquery, Ne.symm hquery]
  | cons entry rest ih =>
    unfold recordSwap
    split
    next hentry =>
      subst hentry
      unfold resolveSwap
      by_cases hquery : query = entry.1
      · subst hquery
        simp
      · simp [hquery, Ne.symm hquery]
    next hentry =>
      by_cases hfirst : entry.1 = query
      · subst hfirst
        unfold resolveSwap
        simp [hentry]
      · unfold resolveSwap at ih ⊢
        rw [List.find?_cons_of_neg (by simpa using hfirst), ih,
          List.find?_cons_of_neg (by simpa using hfirst)]

/-- The log holds the array: entries beyond the end are as stale there as here. -/
def Stands (deck : List Nat) (swaps : List (Nat × Nat)) : Prop :=
  ∀ p, p < deck.length → deck[p]? = some (resolveSwap swaps p)

theorem stands_range (total : Nat) : Stands (List.range total) [] := by
  intro p hp
  rw [List.length_range] at hp
  exact List.getElem?_range hp

theorem Stands.record {deck : List Nat} {swaps : List (Nat × Nat)} (hs : Stands deck swaps)
    (position value : Nat) :
    Stands (deck.set position value) (recordSwap position value swaps) := by
  intro p hp
  rw [List.length_set] at hp
  rw [resolveSwap_recordSwap, List.getElem?_set]
  by_cases hsame : position = p
  · subst hsame
    rw [if_pos rfl, if_pos hp, if_pos rfl]
  · rw [if_neg hsame, if_neg (Ne.symm hsame)]
    exact hs p hp

theorem selectRounds_eq_deal {rounds remaining seed : Nat} {swaps : List (Nat × Nat)}
    {deck : List Nat} (hs : Stands deck swaps) (hrounds : rounds ≤ remaining)
    (hremaining : remaining ≤ deck.length) :
    selectRounds rounds remaining seed swaps =
      (drawnPositions rounds remaining seed).bind (deal deck remaining) := by
  induction rounds generalizing remaining seed swaps deck with
  | zero => rfl
  | succ rounds ih =>
    obtain ⟨m, rfl⟩ : ∃ k, remaining = k + 1 := ⟨remaining - 1, by omega⟩
    simp only [selectRounds, drawnPositions, Option.bind_eq_bind, Nat.add_sub_cancel]
    cases rejectionSample (2 ^ 64) ((2 ^ 64 - 1) / (m + 1) * (m + 1)) seed with
    | none => rfl
    | some candidate =>
      have hr : candidate % (m + 1) ≤ m := Nat.le_of_lt_succ (Nat.mod_lt _ (Nat.succ_pos m))
      have hread : deck[candidate % (m + 1)] = resolveSwap swaps (candidate % (m + 1)) :=
        Option.some.inj ((List.getElem?_eq_getElem (by omega)).symm.trans (hs _ (by omega)))
      have hlast : deck[m] = resolveSwap swaps m :=
        Option.some.inj ((List.getElem?_eq_getElem (by omega)).symm.trans (hs _ (by omega)))
      have hrest := @ih m candidate _ _ (hs.record (candidate % (m + 1)) (resolveSwap swaps m))
        (by omega : rounds ≤ m) (by rw [List.length_set]; omega)
      simp only [Option.bind_some, hrest]
      cases drawnPositions rounds m candidate with
      | none => rfl
      | some positions =>
        simp only [Option.bind_some, Option.pure_def]
        rw [deal_cons positions hr (by omega), hread, hlast]
        exact Option.map_eq_bind.symm

theorem selectWinnerIndices_eq_deal (seed total count : Nat) :
    selectWinnerIndices seed total count =
      (drawnPositions (min count total) total seed).bind (deal (List.range total) total) := by
  unfold selectWinnerIndices
  split
  next hzero =>
    have hnone : min count total = 0 := by omega
    rw [hnone]
    rfl
  next =>
    exact selectRounds_eq_deal (stands_range total) (Nat.min_le_right ..)
      (Nat.le_of_eq List.length_range.symm)

theorem recordSwapAt_eq (position value : Nat) (swaps : List (Nat × Nat)) :
    recordSwapAt position value swaps = recordSwap position value swaps := by
  induction swaps with
  | nil => rfl
  | cons entry rest ih =>
    unfold recordSwapAt at ih ⊢
    unfold recordSwap
    rw [List.findIdx?_cons]
    by_cases hentry : entry.1 = position
    · subst hentry
      simp
    · rw [if_neg (by simpa using hentry), if_neg hentry, ← ih]
      cases rest.findIdx? fun entry => entry.1 = position <;> rfl

/-- The casts to 32 bits lose nothing, and the log is the same log. -/
theorem selectRoundsPure_eq {rounds remaining seed : Nat} {swaps : List (Nat × Nat)}
    (indices : List Nat) (hrounds : rounds ≤ remaining) (hremaining : remaining ≤ 2 ^ 32)
    (hswaps : ∀ entry ∈ swaps, entry.2 < 2 ^ 32) :
    selectRoundsPure rounds remaining seed swaps indices =
      (selectRounds rounds remaining seed swaps).map (indices ++ ·) := by
  induction rounds generalizing remaining seed swaps indices with
  | zero => simp [selectRoundsPure, selectRounds]
  | succ rounds ih =>
    simp only [selectRoundsPure, selectRounds, Option.bind_eq_bind]
    cases rejectionSample (2 ^ 64) ((2 ^ 64 - 1) / remaining * remaining) seed with
    | none => rfl
    | some candidate =>
      have hpick : candidate % remaining < 2 ^ 32 :=
        Nat.lt_of_lt_of_le (Nat.mod_lt _ (by omega)) hremaining
      have hlast : resolveSwap swaps (remaining - 1) < 2 ^ 32 := resolveSwap_lt hswaps (by omega)
      simp only [Option.bind_some, recordSwapAt_eq]
      rw [Nat.mod_eq_of_lt (resolveSwap_lt hswaps hpick), ih _ (by omega) (by omega)
        (recordSwap_lt _ hswaps hlast)]
      cases selectRounds rounds (remaining - 1) candidate
        (recordSwap (candidate % remaining) (resolveSwap swaps (remaining - 1)) swaps) with
      | none => rfl
      | some rest => simp

theorem selectWinnerIndicesPure_eq (seed count : Nat) {total : Nat} (htotal : total < 2 ^ 32) :
    selectWinnerIndicesPure seed total count = selectWinnerIndices seed total count := by
  unfold selectWinnerIndicesPure selectWinnerIndices
  split
  next => rfl
  next =>
    rw [selectRoundsPure_eq [] (Nat.min_le_right ..) htotal.le (by simp)]
    simp

theorem selectWinnerIndices_nodup {seed total count : Nat} {indices : List Nat}
    (hselect : selectWinnerIndices seed total count = some indices) : indices.Nodup := by
  rw [selectWinnerIndices_eq_deal, Option.bind_eq_some_iff] at hselect
  obtain ⟨positions, hpositions, hdeal⟩ := hselect
  obtain ⟨hdealable, -⟩ := drawnPositions_dealable (Nat.min_le_right ..) hpositions
  obtain ⟨cards, kept, hcards, hperm⟩ :=
    deal_perm hdealable (Nat.le_of_eq (List.length_range (n := total)).symm)
  obtain rfl := Option.some.inj (hcards.symm.trans hdeal)
  have hdistinct : (cards ++ kept).Nodup :=
    hperm.nodup_iff.mpr (List.nodup_range.sublist (List.take_sublist ..))
  exact (List.nodup_append.mp hdistinct).1

end TikkaRaffle.Escrow
