import Mathlib.Algebra.BigOperators.Group.List.Basic
import Mathlib.Algebra.Order.BigOperators.Group.List
import Mathlib.Algebra.BigOperators.Intervals
import Mathlib.Algebra.BigOperators.Ring.Finset
import Mathlib.Algebra.Order.BigOperators.Group.Finset
import Mathlib.Tactic.Ring
import TikkaRaffle.Lib.Transactional

/-! Sums over lists: checked accumulation loops, the totals of the entries of an
append-only log that a predicate selects, and shares rounded down. -/
namespace TikkaRaffle.Lib

variable {α : Type}

theorem foldlM_sum {ε β : Type} [AddMonoid β] {round : β → α → Except ε β} {f : α → β}
    {items : List α} {start total : β}
    (hround : ∀ acc a acc', a ∈ items → round acc a = .ok acc' → acc' = acc + f a)
    (hok : items.foldlM round start = .ok total) : total = start + (items.map f).sum := by
  induction items generalizing start with
  | nil =>
    cases hok
    simp
  | cons a rest ih =>
    rw [List.foldlM_cons, except_bind_ok] at hok
    obtain ⟨next, hnext, hrest⟩ := hok
    have htail := ih (fun acc b acc' hb => hround acc b acc' (List.mem_cons_of_mem a hb)) hrest
    rw [htail, hround start a next (List.mem_cons_self ..) hnext, List.map_cons, List.sum_cons,
      add_assoc]

/-- A fallible loop that accepts every round up to the sum computes it. -/
theorem foldlM_sum_of_le {ε : Type} {round : Nat → Nat → Except ε Nat} {items : List Nat}
    {start total : Nat}
    (hround : ∀ acc a, a ∈ items → acc + a ≤ total → round acc a = .ok (acc + a))
    (hsum : start + items.sum = total) : items.foldlM round start = .ok total := by
  induction items generalizing start with
  | nil =>
    subst hsum
    rfl
  | cons a rest ih =>
    rw [List.sum_cons, ← Nat.add_assoc] at hsum
    have hfirst := hround start a (List.mem_cons_self ..) (by omega)
    rw [List.foldlM_cons, hfirst]
    exact ih (fun acc b hb => hround acc b (List.mem_cons_of_mem a hb)) hsum

def tally (p : α → Bool) (value : α → Int) (log : List α) : Int :=
  ((log.filter p).map value).sum

@[simp] theorem tally_nil (p : α → Bool) (value : α → Int) : tally p value [] = 0 := rfl

@[simp] theorem tally_append (p : α → Bool) (value : α → Int) (first last : List α) :
    tally p value (first ++ last) = tally p value first + tally p value last := by
  simp [tally]

@[simp] theorem tally_cons (p : α → Bool) (value : α → Int) (a : α) (log : List α) :
    tally p value (a :: log) = (if p a then value a else 0) + tally p value log := by
  by_cases h : p a <;> simp [tally, h]

@[simp] theorem tally_singleton (p : α → Bool) (value : α → Int) (a : α) :
    tally p value [a] = if p a then value a else 0 := by
  rw [tally_cons, tally_nil, add_zero]

theorem tally_eq_sum (p : α → Bool) (value : α → Int) (log : List α) :
    tally p value log = (log.map fun a => if p a then value a else 0).sum := by
  induction log with
  | nil => rfl
  | cons a rest ih => rw [tally_cons, List.map_cons, List.sum_cons, ih]

theorem tally_eq_zero {p : α → Bool} {value : α → Int} {log : List α}
    (hnone : ∀ a ∈ log, p a = false) : tally p value log = 0 := by
  have hempty : log.filter p = [] := List.filter_eq_nil_iff.mpr fun a ha => by simp [hnone a ha]
  simp [tally, hempty]

theorem tally_const {p : α → Bool} {value : α → Int} {log : List α} {v : Int}
    (hsame : ∀ a ∈ log, p a = true → value a = v) : tally p value log = v * log.countP p := by
  induction log with
  | nil => simp
  | cons a rest ih =>
    have htail := ih fun b hb => hsame b (List.mem_cons_of_mem a hb)
    rw [List.countP_cons, tally_cons, htail]
    by_cases hp : p a = true
    · rw [if_pos hp, if_pos hp, hsame a (List.mem_cons_self ..) hp]
      push_cast
      ring
    · rw [if_neg hp, if_neg hp]
      simp

open Finset

theorem foldlM_range' {ε : Type} {round : Int → Nat → Except ε Int} {f : Nat → Int} {first : Nat}
    {count : Nat} (hround : ∀ m < count, round (∑ i ∈ range m, f (first + i)) (first + m) =
      .ok (∑ i ∈ range (m + 1), f (first + i))) :
    (List.range' first count).foldlM round 0 = .ok (∑ i ∈ range count, f (first + i)) := by
  induction count with
  | zero => rfl
  | succ count ih =>
    have hbefore := ih fun m hm => hround m (by omega)
    rw [List.range'_1_concat, List.foldlM_append, except_bind_ok]
    refine ⟨_, hbefore, ?_⟩
    rw [List.foldlM_cons, except_bind_ok]
    exact ⟨_, hround count (by omega), rfl⟩

theorem sum_range_single {f : Nat → Int} {count point : Nat} (hpoint : point < count) :
    ∑ i ∈ range count, (if i = point then f i else 0) = f point := by
  simp [sum_ite_eq', hpoint]

theorem sum_range_cut {value : Int} {cut count : Nat} (hcut : cut ≤ count) :
    ∑ i ∈ range count, (if i < cut then value else 0) = value * cut := by
  obtain ⟨rest, rfl⟩ := Nat.exists_eq_add_of_le hcut
  have hlow : ∑ i ∈ range cut, (if i < cut then value else 0) = value * cut := by
    rw [sum_congr rfl fun i hi => if_pos (mem_range.mp hi)]
    simp [mul_comm]
  rw [sum_range_add, hlow]
  simp

theorem sum_range_getD (weights : List Nat) :
    ∑ i ∈ range weights.length, weights[i]?.getD 0 = weights.sum := by
  induction weights with
  | nil => rfl
  | cons first rest ih =>
    rw [List.length_cons, sum_range_succ', List.sum_cons]
    simp only [List.getElem?_cons_succ, List.getElem?_cons_zero, Option.getD_some, ih]
    omega

theorem sum_shares_le {whole unit : Int} {weights : List Nat} (hunit : 0 < unit)
    (hweights : (weights.sum : Int) = unit) :
    ∑ i ∈ range weights.length, whole * (weights[i]?.getD 0 : Nat) / unit ≤ whole := by
  have hscaled : unit * ∑ i ∈ range weights.length, whole * (weights[i]?.getD 0 : Nat) / unit ≤
      unit * whole := by
    calc unit * ∑ i ∈ range weights.length, whole * (weights[i]?.getD 0 : Nat) / unit
        = ∑ i ∈ range weights.length, unit * (whole * (weights[i]?.getD 0 : Nat) / unit) :=
          mul_sum ..
      _ ≤ ∑ i ∈ range weights.length, whole * (weights[i]?.getD 0 : Nat) :=
          sum_le_sum fun i _ => Int.mul_ediv_self_le hunit.ne'
      _ = whole * (∑ i ∈ range weights.length, weights[i]?.getD 0 : Nat) := by
          rw [← mul_sum]
          push_cast
          rfl
      _ = unit * whole := by rw [sum_range_getD, hweights, mul_comm]
  exact Int.le_of_mul_le_mul_left hscaled hunit

end TikkaRaffle.Lib
