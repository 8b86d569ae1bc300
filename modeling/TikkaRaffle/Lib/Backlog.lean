import Mathlib.Data.List.Basic
import Mathlib.Data.List.Perm.Basic
import Mathlib.Data.List.TakeWhile

/-! A queue of work with a place for what was given up and a place for what was
handed out. Every move takes items from one place to another. -/
namespace TikkaRaffle.Lib

structure Custody (α : Type) where
  waiting : List α := []
  buried : List α := []
  handed : List α := []
  deriving DecidableEq, Repr

namespace Custody

variable {α : Type}

def held (c : Custody α) : List α := c.waiting ++ c.buried ++ c.handed

def receive (a : α) (c : Custody α) : Custody α :=
  { c with waiting := c.waiting ++ [a] }

def requeue (p : α → Bool) (c : Custody α) : Custody α :=
  { c with waiting := c.waiting.eraseP p ++ (c.waiting.find? p).toList }

def bury (p : α → Bool) (c : Custody α) : Custody α :=
  { c with waiting := c.waiting.eraseP p, buried := c.buried ++ (c.waiting.find? p).toList }

def shed (n : Nat) (c : Custody α) : Custody α :=
  { c with waiting := c.waiting.drop n, buried := c.buried ++ c.waiting.take n }

def handOut (c : Custody α) : Custody α :=
  { c with waiting := [], handed := c.handed ++ c.waiting }

theorem eraseP_append_find? (p : α → Bool) (xs : List α) :
    (xs.eraseP p ++ (xs.find? p).toList).Perm xs := by
  induction xs with
  | nil => exact .refl _
  | cons x xs ih =>
    by_cases hx : p x = true
    · simp [hx, List.perm_append_singleton]
    · simp [hx, ih]

theorem held_receive (a : α) (c : Custody α) : (c.receive a).held.Perm (c.held ++ [a]) := by
  have hswap : ([a] ++ (c.buried ++ c.handed)).Perm (c.buried ++ c.handed ++ [a]) :=
    List.perm_append_comm
  simpa only [held, receive, List.append_assoc] using hswap.append_left c.waiting

theorem held_requeue (p : α → Bool) (c : Custody α) : (c.requeue p).held.Perm c.held :=
  ((eraseP_append_find? p c.waiting).append_right _).append_right _

theorem held_bury (p : α → Bool) (c : Custody α) : (c.bury p).held.Perm c.held := by
  refine List.Perm.append_right _ ?_
  have hswap : (c.buried ++ (c.waiting.find? p).toList).Perm
      ((c.waiting.find? p).toList ++ c.buried) := List.perm_append_comm
  refine (hswap.append_left _).trans ?_
  rw [← List.append_assoc]
  exact (eraseP_append_find? p c.waiting).append_right _

theorem held_shed (n : Nat) (c : Custody α) : (c.shed n).held.Perm c.held := by
  refine List.Perm.append_right _ ?_
  have hswap : (c.waiting.drop n ++ (c.buried ++ c.waiting.take n)).Perm
      (c.buried ++ c.waiting.take n ++ c.waiting.drop n) := List.perm_append_comm
  refine hswap.trans ?_
  rw [List.append_assoc, List.take_append_drop]
  exact List.perm_append_comm

theorem held_handOut (c : Custody α) : c.handOut.held.Perm c.held := by
  have hswap : (c.buried ++ c.handed ++ c.waiting).Perm (c.waiting ++ (c.buried ++ c.handed)) :=
    List.perm_append_comm
  simp only [held, handOut, List.nil_append]
  rw [← List.append_assoc]
  refine hswap.trans ?_
  rw [← List.append_assoc]

end Custody

section Ageing

variable {α : Type} {r : α → α → Prop} {p : α → Bool} {xs : List α}

/-- In an ordered queue nothing behind the first item that may stay has to go. -/
theorem not_of_mem_dropWhile (hsorted : xs.Pairwise r)
    (hmono : ∀ a b, r a b → p b = true → p a = true) {x : α} (hx : x ∈ xs.dropWhile p) :
    p x = false := by
  induction xs with
  | nil => cases hx
  | cons a rest ih =>
    obtain ⟨hfirst, hrest⟩ := List.pairwise_cons.mp hsorted
    by_cases ha : p a = true
    · rw [List.dropWhile_cons_of_pos ha] at hx
      exact ih hrest hx
    · rw [List.dropWhile_cons_of_neg ha] at hx
      rcases List.mem_cons.mp hx with rfl | hx
      · simpa using ha
      · exact Bool.eq_false_iff.mpr fun hp => ha (hmono a x (hfirst x hx) hp)

theorem max?_map_of_pairwise {β : Type} [LE β] [Max β] [Std.IsLinearOrder β]
    [Std.LawfulOrderMax β] (f : α → β)
    (hsorted : xs.Pairwise fun a b => f b ≤ f a) :
    (xs.map f).max? = (xs.head?).map f := by
  cases xs with
  | nil => rfl
  | cons a rest =>
    obtain ⟨hfirst, -⟩ := List.pairwise_cons.mp hsorted
    rw [List.head?_cons, Option.map_some, List.max?_eq_some_iff]
    refine ⟨by simp, fun b hb => ?_⟩
    obtain ⟨x, hx, rfl⟩ := List.mem_map.mp hb
    rcases List.mem_cons.mp hx with rfl | hx
    · exact Std.le_refl _
    · exact hfirst x hx

end Ageing
end TikkaRaffle.Lib
