import Mathlib.Data.List.Nodup
import Mathlib.Data.Set.Card
import Mathlib.Logic.Function.Basic

/-! A numbered catalogue. Entries are added at the end and keep their number;
a retired entry leaves every index but its number is not given out again. -/
namespace TikkaRaffle.Lib

variable {κ α : Type}

theorem map_modify_flag (f : κ → α) (entries : List (κ × Bool)) (i : Nat) :
    (entries.modify i fun e => (e.1, false)).map (fun e => f e.1) =
      entries.map fun e => f e.1 := by
  apply List.ext_getElem?
  intro j
  simp only [List.getElem?_map, List.getElem?_modify]
  split
  next => simp [Function.comp_def]
  next => simp

/-- Entries with distinct names, each with a flag while it is in force. -/
structure Catalogue (name : κ → α) where
  entries : List (κ × Bool)
  distinct : (entries.map fun e => name e.1).Nodup

namespace Catalogue

variable {name : κ → α}

def empty : Catalogue name := ⟨[], .nil⟩

def names (c : Catalogue name) : List α := c.entries.map fun e => name e.1

def next (c : Catalogue name) : Nat := c.entries.length

def add (c : Catalogue name) (k : κ) (hnew : name k ∉ c.names) : Catalogue name where
  entries := c.entries ++ [(k, true)]
  distinct := by
    rw [List.map_append]
    exact c.distinct.append (List.nodup_singleton _) (by simpa [names] using hnew)

def enter [DecidableEq α] (c : Catalogue name) (k : κ) : Catalogue name :=
  if hnew : name k ∉ c.names then c.add k hnew else c

def retire (c : Catalogue name) (i : Nat) : Catalogue name where
  entries := c.entries.modify i fun e => (e.1, false)
  distinct := by
    rw [map_modify_flag]
    exact c.distinct

def find (c : Catalogue name) (i : Nat) : Option κ :=
  match c.entries[i]? with
  | some (k, true) => some k
  | _ => none

/-- The names in force among the entries in `p`, in the order of entry. -/
def listing (c : Catalogue name) (p : κ → Bool) : List α :=
  (c.entries.filter fun e => e.2 && p e.1).map fun e => name e.1

def inForce (c : Catalogue name) : Nat := c.entries.countP (·.2)

variable {c : Catalogue name} {k : κ} {i : Nat} {p : κ → Bool}

theorem find_eq_some : c.find i = some k ↔ c.entries[i]? = some (k, true) := by
  unfold find
  split
  next k' hentry => simp [hentry]
  next hother =>
    simp only [reduceCtorEq, false_iff]
    exact hother k

theorem find_lt (h : c.find i = some k) : i < c.next := by
  obtain ⟨hlt, -⟩ := List.getElem?_eq_some_iff.mp (find_eq_some.mp h)
  exact hlt

theorem name_mem (h : c.find i = some k) : name k ∈ c.names :=
  List.mem_map_of_mem (List.mem_of_getElem? (find_eq_some.mp h))

theorem enter_new [DecidableEq α] (hnew : name k ∉ c.names) : c.enter k = c.add k hnew :=
  dif_pos hnew

section Adding

variable {hnew : name k ∉ c.names}

@[simp] theorem names_add : (c.add k hnew).names = c.names ++ [name k] := by
  simp [names, add]

theorem mem_enter [DecidableEq α] {a : α} (ha : a ∈ c.names) : a ∈ (c.enter k).names := by
  unfold enter
  split
  next hnew =>
    rw [names_add]
    exact List.mem_append_left _ ha
  next => exact ha

@[simp] theorem next_add : (c.add k hnew).next = c.next + 1 := by simp [next, add]

theorem find_add : (c.add k hnew).find = Function.update c.find c.next (some k) := by
  funext j
  rcases Nat.lt_trichotomy j c.next with hlt | rfl | hgt
  · have hold : (c.entries ++ [(k, true)])[j]? = c.entries[j]? := List.getElem?_append_left hlt
    rw [Function.update_of_ne (Nat.ne_of_lt hlt)]
    simp only [find, add, hold]
  · rw [Function.update_self, find_eq_some]
    simp [add, next]
  · have hfree : c.entries.length < j := hgt
    rw [Function.update_of_ne (Nat.ne_of_gt hgt)]
    have hold : c.entries[j]? = none := List.getElem?_eq_none (by omega)
    have hnone : (c.entries ++ [(k, true)])[j]? = none :=
      List.getElem?_eq_none (by rw [List.length_append, List.length_singleton]; omega)
    simp only [find, add, hold, hnone]

theorem listing_add :
    (c.add k hnew).listing p = if p k then c.listing p ++ [name k] else c.listing p := by
  by_cases hp : p k = true <;> simp [listing, add, List.filter_append, hp]

@[simp] theorem inForce_add : (c.add k hnew).inForce = c.inForce + 1 := by simp [inForce, add]

end Adding

@[simp] theorem next_retire : (c.retire i).next = c.next := by simp [next, retire]

@[simp] theorem names_retire : (c.retire i).names = c.names := map_modify_flag name c.entries i

theorem find_retire : (c.retire i).find = Function.update c.find i none := by
  funext j
  by_cases hj : j = i
  · subst hj
    rw [Function.update_self]
    cases hentry : c.entries[j]? <;> simp [find, retire, hentry]
  · rw [Function.update_of_ne hj]
    simp [find, retire, Ne.symm hj]

theorem listing_modify [DecidableEq α] {entries : List (κ × Bool)} {b : Bool}
    (hdistinct : (entries.map fun e => name e.1).Nodup) (hentry : entries[i]? = some (k, b)) :
    (((entries.modify i fun e => (e.1, false)).filter fun e => e.2 && p e.1).map
      fun e => name e.1) =
      ((entries.filter fun e => e.2 && p e.1).map fun e => name e.1).filter (· ≠ name k) := by
  induction entries generalizing i with
  | nil => cases hentry
  | cons e rest ih =>
    obtain ⟨hhead, hrest⟩ := List.nodup_cons.mp hdistinct
    cases i with
    | zero =>
      cases hentry
      have hothers : ∀ a ∈ (rest.filter fun e => e.2 && p e.1).map (fun e => name e.1),
          a ≠ name k := by
        intro a ha heq
        obtain ⟨e, he, rfl⟩ := List.mem_map.mp ha
        exact hhead (List.mem_map.mpr ⟨e, List.mem_of_mem_filter he, heq⟩)
      have hkept : ((rest.filter fun e => e.2 && p e.1).map fun e => name e.1).filter
          (fun a => !decide (a = name k)) =
            (rest.filter fun e => e.2 && p e.1).map fun e => name e.1 :=
        List.filter_eq_self.mpr fun a ha => by simpa using hothers a ha
      by_cases hlisted : (b && p k) = true <;> simp [hlisted, hkept]
    | succ i =>
      have hmem : (k, b) ∈ rest := List.mem_of_getElem? hentry
      have hne : name e.1 ≠ name k := fun heq => hhead (List.mem_map.mpr ⟨(k, b), hmem, heq.symm⟩)
      have htail := ih hrest hentry
      by_cases hlisted : (e.2 && p e.1) = true <;> simp [hlisted, hne, htail]

theorem listing_retire [DecidableEq α] (h : c.find i = some k) :
    (c.retire i).listing p = (c.listing p).filter (· ≠ name k) :=
  listing_modify c.distinct (find_eq_some.mp h)

theorem filter_modify {entries : List (κ × Bool)} {b : Bool} (hp : p k = false)
    (hentry : entries[i]? = some (k, b)) :
    (entries.modify i fun e => (e.1, false)).filter (fun e => e.2 && p e.1) =
      entries.filter fun e => e.2 && p e.1 := by
  induction entries generalizing i with
  | nil => cases hentry
  | cons e rest ih =>
    cases i with
    | zero =>
      cases hentry
      simp [hp]
    | succ i =>
      have htail := ih hentry
      by_cases hlisted : (e.2 && p e.1) = true <;> simp [hlisted, htail]

theorem listing_retire_other (h : c.find i = some k) (hp : p k = false) :
    (c.retire i).listing p = c.listing p := by
  unfold listing retire
  rw [filter_modify hp (find_eq_some.mp h)]

theorem countP_modify {entries : List (κ × Bool)} (hentry : entries[i]? = some (k, true)) :
    (entries.modify i fun e => (e.1, false)).countP (·.2) + 1 = entries.countP (·.2) := by
  induction entries generalizing i with
  | nil => cases hentry
  | cons e rest ih =>
    cases i with
    | zero =>
      cases hentry
      simp
    | succ i =>
      have htail := ih hentry
      simp only [List.modify_succ_cons, List.countP_cons]
      omega

theorem inForce_retire (h : c.find i = some k) : (c.retire i).inForce + 1 = c.inForce :=
  countP_modify (find_eq_some.mp h)

theorem listing_nodup : (c.listing p).Nodup :=
  c.distinct.sublist (List.filter_sublist.map _)

theorem mem_listing {a : α} :
    a ∈ c.listing p ↔ ∃ i k, c.find i = some k ∧ p k = true ∧ name k = a := by
  simp only [listing, List.mem_map, List.mem_filter, Bool.and_eq_true, find_eq_some]
  constructor
  · rintro ⟨⟨k, live⟩, ⟨hmem, hlive, hp⟩, hname⟩
    obtain ⟨i, hentry⟩ := List.mem_iff_getElem?.mp hmem
    simp only at hlive
    subst hlive
    exact ⟨i, k, hentry, hp, hname⟩
  · rintro ⟨i, k, hentry, hp, hname⟩
    exact ⟨(k, true), ⟨List.mem_of_getElem? hentry, rfl, hp⟩, hname⟩

theorem inForce_le : c.inForce ≤ c.next := List.countP_le_length

theorem flagged_append {entries : List (κ × Bool)} {e : κ × Bool} :
    (∃ k : κ, (entries ++ [e])[i]? = some (k, true)) ↔
      (∃ k : κ, entries[i]? = some (k, true)) ∨ (i = entries.length ∧ e.2 = true) := by
  rcases Nat.lt_trichotomy i entries.length with hlt | rfl | hgt
  · rw [List.getElem?_append_left hlt]
    simp [Nat.ne_of_lt hlt]
  · simp [Prod.ext_iff]
  · have hold : entries[i]? = none := List.getElem?_eq_none (by omega)
    have hnone : (entries ++ [e])[i]? = none :=
      List.getElem?_eq_none (by rw [List.length_append, List.length_singleton]; omega)
    simp [hold, hnone, Nat.ne_of_gt hgt]

theorem countP_flag (entries : List (κ × Bool)) :
    entries.countP (·.2) = Set.ncard {i : Nat | ∃ k : κ, entries[i]? = some (k, true)} := by
  induction entries using List.reverseRecOn with
  | nil => simp
  | append_singleton entries e ih =>
    have hbound : {i : Nat | ∃ k : κ, entries[i]? = some (k, true)} ⊆ Set.Iio entries.length := by
      rintro i ⟨k, hentry⟩
      exact (List.getElem?_eq_some_iff.mp hentry).1
    rw [List.countP_append, ih, List.countP_singleton]
    cases hflag : e.2 with
    | true =>
      have hset : {i : Nat | ∃ k : κ, (entries ++ [e])[i]? = some (k, true)} =
          insert entries.length {i : Nat | ∃ k : κ, entries[i]? = some (k, true)} := by
        ext i
        rw [Set.mem_insert_iff, Set.mem_ofPred_eq, Set.mem_ofPred_eq, flagged_append]
        tauto
      have hfresh : entries.length ∉ {i : Nat | ∃ k : κ, entries[i]? = some (k, true)} :=
        fun hmem => Nat.lt_irrefl _ (hbound hmem)
      rw [hset, Set.ncard_insert_of_notMem hfresh ((Set.finite_lt_nat _).subset hbound)]
      rfl
    | false =>
      have hset : {i : Nat | ∃ k : κ, (entries ++ [e])[i]? = some (k, true)} =
          {i : Nat | ∃ k : κ, entries[i]? = some (k, true)} := by
        ext i
        rw [Set.mem_ofPred_eq, Set.mem_ofPred_eq, flagged_append]
        simp [hflag]
      rw [hset]
      rfl

theorem inForce_eq_ncard : c.inForce = Set.ncard {i | (c.find i).isSome = true} := by
  simp only [inForce, countP_flag, Option.isSome_iff_exists, find_eq_some]

end Catalogue
end TikkaRaffle.Lib
