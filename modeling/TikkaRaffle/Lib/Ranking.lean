import Mathlib.Data.List.Pairwise
import Mathlib.Data.List.Perm.Basic
import Mathlib.Order.Lattice

/-! An exchange sort in descending order of a key, and a board that keeps the
best of what it has seen. -/
namespace TikkaRaffle.Lib

variable {α β : Type} [LinearOrder β] (key : α → β)

def exchangeAt (xs : List α) (i j : Nat) : List α :=
  match xs[i]?, xs[j]? with
  | some left, some right => if key left < key right then (xs.set i right).set j left else xs
  | _, _ => xs

def exchangePass (xs : List α) (i : Nat) : List α :=
  (List.range' (i + 1) (xs.length - (i + 1))).foldl (fun xs j => exchangeAt key xs i j) xs

def exchangeSort (xs : List α) : List α :=
  (List.range xs.length).foldl (exchangePass key) xs

section Sorting

variable {key} {xs ys : List α} {i j k : Nat}

theorem exchangeAt_perm (xs : List α) (i j : Nat) : (exchangeAt key xs i j).Perm xs := by
  unfold exchangeAt
  split
  next left right hleft hright =>
    obtain ⟨hi, rfl⟩ := List.getElem?_eq_some_iff.mp hleft
    obtain ⟨hj, rfl⟩ := List.getElem?_eq_some_iff.mp hright
    split
    · exact List.set_set_perm hi hj
    · exact .refl _
  next => exact .refl _

variable (key) in
theorem exchangeAt_cases (hi : i < xs.length) (hj : j < xs.length) :
    (key xs[j] ≤ key xs[i] ∧ exchangeAt key xs i j = xs) ∨
      (key xs[i] < key xs[j] ∧ ∀ b, (exchangeAt key xs i j)[b]? =
        if b = j then some xs[i] else if b = i then some xs[j] else xs[b]?) := by
  have hexchange : exchangeAt key xs i j =
      if key xs[i] < key xs[j] then (xs.set i xs[j]).set j xs[i] else xs := by
    simp [exchangeAt, hi, hj]
  by_cases hlt : key xs[i] < key xs[j]
  · refine .inr ⟨hlt, fun b => ?_⟩
    rw [hexchange, if_pos hlt, List.getElem?_set, List.getElem?_set, List.length_set]
    by_cases hbj : b = j
    · subst hbj
      rw [if_pos rfl, if_pos hj, if_pos rfl]
    · by_cases hbi : b = i
      · subst hbi
        rw [if_neg (Ne.symm hbj), if_pos rfl, if_pos hi, if_neg hbj, if_pos rfl]
      · rw [if_neg (Ne.symm hbj), if_neg (Ne.symm hbi), if_neg hbj, if_neg hbi]
  · exact .inl ⟨le_of_not_gt hlt, by rw [hexchange, if_neg hlt]⟩

/-- Each of the first `k` positions holds a maximum of what follows it. -/
def Fronted (key : α → β) (k : Nat) (xs : List α) : Prop :=
  ∀ a b x y, a < k → a < b → xs[a]? = some x → xs[b]? = some y → key y ≤ key x

theorem Fronted.exchangeAt (h : Fronted key i xs) (hij : i < j) (hj : j < xs.length) :
    Fronted key i (exchangeAt key xs i j) := by
  have hi : i < xs.length := by omega
  rcases exchangeAt_cases key hi hj with ⟨-, hsame⟩ | ⟨-, hget⟩
  · rwa [hsame]
  · intro a b x y ha hab hx hy
    rw [hget, if_neg (by omega), if_neg (by omega)] at hx
    rw [hget] at hy
    split at hy
    next => exact h a i x y ha ha hx (by rw [List.getElem?_eq_getElem hi, hy])
    next =>
      split at hy
      next => exact h a j x y ha (by omega) hx (by rw [List.getElem?_eq_getElem hj, hy])
      next => exact h a b x y ha hab hx hy

theorem exchangePass_perm (xs : List α) (i : Nat) : (exchangePass key xs i).Perm xs := by
  unfold exchangePass
  generalize List.range' (i + 1) (xs.length - (i + 1)) = js
  induction js generalizing xs with
  | nil => exact .refl _
  | cons j js ih => exact (ih _).trans (exchangeAt_perm xs i j)

theorem exchangePass_fronted (h : Fronted key i xs) (hi : i < xs.length) :
    Fronted key (i + 1) (exchangePass key xs i) := by
  -- after `m` exchanges position `i` holds a maximum of itself and the next `m`
  have hpass : ∀ m, i + m < xs.length →
      let ys := (List.range' (i + 1) m).foldl (fun xs j => Lib.exchangeAt key xs i j) xs
      ys.length = xs.length ∧ Fronted key i ys ∧
        ∀ b x y, i < b → b < i + 1 + m → ys[i]? = some x → ys[b]? = some y → key y ≤ key x := by
    intro m hm
    induction m with
    | zero => exact ⟨rfl, h, fun b x y hib hbi => by omega⟩
    | succ m ih =>
      obtain ⟨hlen, hsettled, hmax⟩ := ih (by omega)
      rw [List.range'_1_concat, List.foldl_append]
      simp only [List.foldl_cons, List.foldl_nil]
      generalize (List.range' (i + 1) m).foldl (fun xs j => Lib.exchangeAt key xs i j) xs = ys at *
      have hj : i + 1 + m < ys.length := by omega
      refine ⟨((exchangeAt_perm ys i (i + 1 + m)).length_eq).trans hlen,
        hsettled.exchangeAt (by omega) hj, fun b x y hib hb hx hy => ?_⟩
      have hiy : i < ys.length := by omega
      rcases exchangeAt_cases key hiy hj with ⟨hle, hsame⟩ | ⟨hlt, hget⟩
      · rw [hsame] at hx hy
        by_cases hbm : b = i + 1 + m
        · subst hbm
          rw [List.getElem?_eq_getElem hiy] at hx
          rw [List.getElem?_eq_getElem hj] at hy
          cases hx
          cases hy
          exact hle
        · exact hmax b x y hib (by omega) hx hy
      · rw [hget, if_neg (by omega), if_pos rfl] at hx
        rw [hget] at hy
        cases hx
        split at hy
        next =>
          cases hy
          exact le_of_lt hlt
        next hbm =>
          rw [if_neg (by omega)] at hy
          exact (hmax b _ y hib (by omega) (List.getElem?_eq_getElem hiy) hy).trans (le_of_lt hlt)
  obtain ⟨hlen, hsettled, hmax⟩ := hpass (xs.length - (i + 1)) (by omega)
  intro a b x y ha hab hx hy
  by_cases hai : a = i
  · subst hai
    have hb := (List.getElem?_eq_some_iff.mp hy).1
    rw [(exchangePass_perm xs a).length_eq] at hb
    exact hmax b x y hab (by omega) hx hy
  · exact hsettled a b x y (by omega) hab hx hy

variable (key) in
theorem exchangeSort_perm (xs : List α) : (exchangeSort key xs).Perm xs := by
  unfold exchangeSort
  generalize List.range xs.length = is
  induction is generalizing xs with
  | nil => exact .refl _
  | cons i is ih => exact (ih _).trans (exchangePass_perm xs i)

variable (key) in
theorem exchangeSort_pairwise (xs : List α) :
    (exchangeSort key xs).Pairwise fun a b => key b ≤ key a := by
  have hsettled : ∀ k ≤ xs.length,
      ((List.range k).foldl (exchangePass key) xs).length = xs.length ∧
        Fronted key k ((List.range k).foldl (exchangePass key) xs) := by
    intro k hk
    induction k with
    | zero => exact ⟨rfl, fun a b x y ha => absurd ha (Nat.not_lt_zero a)⟩
    | succ k ih =>
      obtain ⟨hlen, hsettled⟩ := ih (by omega)
      rw [List.range_succ, List.foldl_append]
      exact ⟨((exchangePass_perm _ k).length_eq).trans hlen,
        exchangePass_fronted hsettled (by omega)⟩
  obtain ⟨hlen, hall⟩ := hsettled xs.length (Nat.le_refl _)
  rw [List.pairwise_iff_getElem]
  intro a b ha hb hab
  have ha' : a < xs.length := by
    rw [← hlen]
    exact ha
  exact hall a b _ _ ha' hab (List.getElem?_eq_getElem ha) (List.getElem?_eq_getElem hb)

end Sorting

/-- The board holds the best `cap` of what was seen, in order. -/
structure Best (cap : Nat) (seen board : List α) : Prop where
  sorted : board.Pairwise fun a b => key b ≤ key a
  length : board.length = min cap seen.length
  rest : ∃ rest, (board ++ rest).Perm seen ∧ ∀ x ∈ rest, ∀ b ∈ board, key x ≤ key b

namespace Best

variable {key} {cap : Nat} {seen board : List α}

theorem start : Best key cap [] [] := ⟨.nil, by simp, [], .refl _, by simp⟩

/-- A new item is sorted in and the board cut to its size. What is cut off is no
better than what stays, and neither is what was cut off before. -/
theorem insert (h : Best key cap seen board) (new : α) :
    Best key cap (seen ++ [new]) ((exchangeSort key (board ++ [new])).take cap) := by
  obtain ⟨rest, hperm, hrest⟩ := h.rest
  have hsort := exchangeSort_perm key (board ++ [new])
  have hsorted := exchangeSort_pairwise key (board ++ [new])
  generalize exchangeSort key (board ++ [new]) = sorted at hsort hsorted ⊢
  have hlen := h.length
  have hsize := hsort.length_eq
  have hseen := hperm.length_eq
  rw [List.length_append] at hseen
  rw [List.length_append, List.length_singleton] at hsize
  have hsplit : (sorted.take cap ++ sorted.drop cap).Perm (board ++ [new]) := by
    rwa [List.take_append_drop]
  have hcut : ∀ x ∈ sorted.drop cap, ∀ b ∈ sorted.take cap, key x ≤ key b := by
    rw [← List.take_append_drop cap sorted, List.pairwise_append] at hsorted
    exact fun x hx b hb => hsorted.2.2 b hb x hx
  refine ⟨hsorted.sublist (List.take_sublist _ _), ?_, sorted.drop cap ++ rest, ?_, ?_⟩
  · rw [List.length_take, List.length_append, List.length_singleton]
    omega
  · have hswap : ([new] ++ rest).Perm (rest ++ [new]) := List.perm_append_comm
    rw [← List.append_assoc]
    refine (hsplit.append_right rest).trans ?_
    rw [List.append_assoc]
    refine (hswap.append_left board).trans ?_
    rw [← List.append_assoc]
    exact hperm.append_right _
  · intro x hx b hb
    rcases List.mem_append.mp hx with hx | hx
    · exact hcut x hx b hb
    have hsome : 0 < rest.length := List.length_pos_of_mem hx
    -- the board was full, so exactly one item is cut off now
    obtain ⟨d, hd⟩ : ∃ d, sorted.drop cap = [d] :=
      List.length_eq_one_iff.mp (by rw [List.length_drop]; omega)
    have hcut := hcut d (by simp [hd]) b hb
    rw [hd] at hsplit
    have hbmem := hsplit.mem_iff.mp (List.mem_append_left _ hb)
    have hdmem := hsplit.mem_iff.mp (List.mem_append_right _ (List.mem_singleton_self d))
    rcases List.mem_append.mp hbmem with hbold | hbnew
    · exact hrest x hx b hbold
    rcases List.mem_append.mp hdmem with hdold | hdnew
    · exact (hrest x hx d hdold).trans hcut
    · rw [List.mem_singleton] at hdnew
      subst hdnew
      have hsame := (List.perm_append_right_iff [d]).mp hsplit
      exact hrest x hx b (hsame.mem_iff.mp hb)

end Best
end TikkaRaffle.Lib
