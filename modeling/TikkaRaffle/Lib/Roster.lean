import Mathlib.Algebra.BigOperators.Group.List.Lemmas
import Mathlib.Algebra.GroupWithZero.Nat
import Mathlib.Data.List.Dedup
import Mathlib.Data.List.Perm.Basic

/-! Indexes over a growing sequence of owners: a counter for each owner and a
list that names each of them once. -/
namespace TikkaRaffle.Lib

variable {α : Type} [DecidableEq α]

/-- The counters and the member list agree with the sequence. -/
structure Roster (owners : List α) (counts : α → Nat) (members : List α) : Prop where
  counted : ∀ a, counts a = owners.count a
  nodup : members.Nodup
  complete : ∀ a, a ∈ members ↔ a ∈ owners

namespace Roster

variable {owners members : List α} {counts : α → Nat}

theorem empty : Roster [] (fun _ : α => 0) [] := ⟨fun _ => rfl, .nil, fun _ => .rfl⟩

theorem member_iff_pos (hr : Roster owners counts members) (a : α) :
    a ∈ members ↔ 0 < counts a := by
  rw [hr.complete, hr.counted, List.count_pos_iff]

theorem add (hr : Roster owners counts members) (a : α) {quantity : Nat} (hpos : 0 < quantity) :
    Roster (owners ++ List.replicate quantity a)
      (fun b => if b = a then counts a + quantity else counts b)
      (if counts a = 0 then members ++ [a] else members) := by
  have hnew : counts a = 0 ↔ a ∉ members := by
    rw [hr.member_iff_pos]
    omega
  refine ⟨fun b => ?_, ?_, fun b => ?_⟩
  · rw [List.count_append, List.count_replicate]
    by_cases hb : b = a
    · subst hb
      simp [hr.counted]
    · simp [hb, Ne.symm hb, hr.counted]
  · split
    next hzero => exact hr.nodup.append (List.nodup_singleton a) (by simpa using hnew.mp hzero)
    next => exact hr.nodup
  · have hmember : b ∈ (if counts a = 0 then members ++ [a] else members) ↔
        b ∈ members ∨ b = a := by
      split
      next => simp
      next hold =>
        have ha : a ∈ members := not_not.mp fun hnot => hold (hnew.mpr hnot)
        constructor
        · exact .inl
        · rintro (hb | rfl)
          · exact hb
          · exact ha
    rw [hmember, List.mem_append, hr.complete, List.mem_replicate]
    exact or_congr_right ⟨fun hb => ⟨Nat.ne_of_gt hpos, hb⟩, And.right⟩

theorem total (hr : Roster owners counts members) :
    (members.map counts).sum = owners.length := by
  have hperm : members.Perm owners.dedup := by
    apply (List.perm_ext_iff_of_nodup hr.nodup (List.nodup_dedup owners)).mpr
    intro a
    rw [hr.complete, List.mem_dedup]
  have hcounts : counts = fun a => owners.count a := funext hr.counted
  rw [hcounts, (hperm.map _).sum_eq]
  exact List.sum_map_count_dedup_eq_length owners

end Roster
end TikkaRaffle.Lib
