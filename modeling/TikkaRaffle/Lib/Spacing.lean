import Mathlib.Data.List.Basic

/-! Admissions under a cooldown. Each admission comes no sooner after any earlier
one than the delay in force says, so a window of time has room for few. -/
namespace TikkaRaffle.Lib

structure Admission where
  time : Nat
  delay : Nat
deriving DecidableEq, Repr

/-- Every admission waited for its delay since each earlier one. -/
def Spaced (log : List Admission) : Prop :=
  log.Pairwise fun earlier later => earlier.time + later.delay ≤ later.time

instance (log : List Admission) : Decidable (Spaced log) :=
  inferInstanceAs (Decidable (log.Pairwise _))

namespace Spaced

variable {log : List Admission}

/-- Waiting since the latest admission is waiting since all of them. -/
theorem grant {last : Nat} {entry : Admission} (hs : Spaced log)
    (hlast : ∀ e ∈ log, e.time ≤ last) (hwait : last + entry.delay ≤ entry.time) :
    Spaced (log ++ [entry]) := by
  refine List.pairwise_append.mpr ⟨hs, List.pairwise_singleton .., fun e he d hd => ?_⟩
  have hbefore := hlast e he
  rw [List.mem_singleton.mp hd]
  omega

theorem sublist {part : List Admission} (hs : Spaced log) (hpart : part.Sublist log) :
    Spaced part :=
  List.Pairwise.sublist hpart hs

theorem span {entry : Admission} {rest : List Admission} {delay last : Nat}
    (hs : Spaced (entry :: rest)) (hdelay : ∀ e ∈ rest, delay ≤ e.delay)
    (hend : ∀ e ∈ entry :: rest, e.time ≤ last) : entry.time + delay * rest.length ≤ last := by
  induction rest generalizing entry with
  | nil => simpa using hend entry (List.mem_singleton_self _)
  | cons next rest ih =>
    obtain ⟨hfirst, hrest⟩ := List.pairwise_cons.mp hs
    have hgap := hfirst next (List.mem_cons_self ..)
    have hleast := hdelay next (List.mem_cons_self ..)
    have hlater := ih hrest (fun e he => hdelay e (List.mem_cons_of_mem _ he))
      fun e he => hend e (List.mem_cons_of_mem _ he)
    rw [List.length_cons, Nat.mul_succ]
    omega

/-- So many delays, less one, fit into any window of time. -/
theorem window {delay first last : Nat} (hs : Spaced log) (hdelay : ∀ e ∈ log, delay ≤ e.delay) :
    delay * ((log.filter fun e => first ≤ e.time ∧ e.time ≤ last).length - 1) ≤ last - first := by
  have hpart := hs.sublist (List.filter_sublist (p := fun e => first ≤ e.time ∧ e.time ≤ last))
  have hwithin : ∀ e ∈ log.filter fun e => first ≤ e.time ∧ e.time ≤ last,
      delay ≤ e.delay ∧ first ≤ e.time ∧ e.time ≤ last := by
    intro e he
    obtain ⟨hmem, hboth⟩ := List.mem_filter.mp he
    exact ⟨hdelay e hmem, of_decide_eq_true hboth⟩
  generalize log.filter (fun e => first ≤ e.time ∧ e.time ≤ last) = part at hpart hwithin
  cases part with
  | nil => simp
  | cons entry rest =>
    have hspan := hpart.span (fun e he => (hwithin e (List.mem_cons_of_mem _ he)).1)
      fun e he => (hwithin e he).2.2
    have hfirst := (hwithin entry (List.mem_cons_self ..)).2.1
    rw [List.length_cons, Nat.add_sub_cancel]
    omega

end Spaced

end TikkaRaffle.Lib
