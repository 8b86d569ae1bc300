import Mathlib.Data.List.Basic

/-! A reader that follows an append-only log. It reads at most `limit` of the
entries it has not passed and then passes them all, so what is beyond the limit
is never read. -/
namespace TikkaRaffle.Lib

/-- The log in batches, how many of them have been passed, and what was taken. -/
structure Follower (α β : Type) where
  log : List (List α)
  position : Nat
  taken : List β

namespace Follower

variable {α β : Type} {f : α → Option β} {limit origin : Nat} {t : Follower α β}

def pending (t : Follower α β) : List α := (t.log.drop t.position).flatten

def grow (batch : List α) (t : Follower α β) : Follower α β := { t with log := t.log ++ [batch] }

def read (f : α → Option β) (limit : Nat) (t : Follower α β) : Follower α β :=
  { t with
    position := t.log.length
    taken := t.taken ++ (t.pending.take limit).filterMap f }

def passed (f : α → Option β) (origin : Nat) (t : Follower α β) : List β :=
  ((t.log.take t.position).drop origin).flatten.filterMap f

/-- A reader between the origin and the end of the log that has taken too much of
nothing. -/
structure Sound (f : α → Option β) (origin : Nat) (t : Follower α β) : Prop where
  origin_le : origin ≤ t.position
  position_le : t.position ≤ t.log.length
  taken_le : t.taken.length ≤ (t.passed f origin).length

def Exact (f : α → Option β) (origin : Nat) (t : Follower α β) : Prop :=
  t.taken = t.passed f origin

def Uncut (f : α → Option β) (limit : Nat) (t : Follower α β) : Prop :=
  ∀ entry ∈ t.pending.drop limit, f entry = none

theorem passed_grow (hs : Sound f origin t) (batch : List α) :
    (t.grow batch).passed f origin = t.passed f origin := by
  unfold passed grow
  simp only
  rw [List.take_append_of_le_length hs.position_le]

theorem passed_read (hs : Sound f origin t) :
    (t.read f limit).passed f origin = t.passed f origin ++ t.pending.filterMap f := by
  have hlength : (t.log.take t.position).length = t.position :=
    List.length_take_of_le hs.position_le
  have hsplit : t.log.drop origin =
      (t.log.take t.position).drop origin ++ t.log.drop t.position := by
    conv_lhs => rw [← List.take_append_drop t.position t.log]
    rw [List.drop_append_of_le_length (by rw [hlength]; exact hs.origin_le)]
  unfold passed read pending
  simp only
  rw [List.take_length, hsplit, List.flatten_append, List.filterMap_append]

theorem Sound.grow (hs : Sound f origin t) (batch : List α) : Sound f origin (t.grow batch) where
  origin_le := hs.origin_le
  position_le := by
    have hle := hs.position_le
    simp only [Follower.grow, List.length_append, List.length_singleton]
    omega
  taken_le := by
    rw [passed_grow hs]
    exact hs.taken_le

theorem Sound.read (hs : Sound f origin t) : Sound f origin (t.read f limit) where
  origin_le := Nat.le_trans hs.origin_le hs.position_le
  position_le := Nat.le_refl _
  taken_le := by
    have htaken := hs.taken_le
    have hsub := ((List.take_sublist limit t.pending).filterMap f).length_le
    rw [passed_read hs, List.length_append]
    simp only [Follower.read, List.length_append]
    omega

theorem exact_grow_iff (hs : Sound f origin t) (batch : List α) :
    Exact f origin (t.grow batch) ↔ Exact f origin t := by
  unfold Exact
  rw [passed_grow hs]
  rfl

/-- A read keeps the reader exact if and only if it cuts nothing off; a reader that
has missed an entry never catches up. -/
theorem exact_read_iff (hs : Sound f origin t) :
    Exact f origin (t.read f limit) ↔ Exact f origin t ∧ Uncut f limit t := by
  have hpending : t.pending.filterMap f =
      (t.pending.take limit).filterMap f ++ (t.pending.drop limit).filterMap f := by
    rw [← List.filterMap_append, List.take_append_drop]
  have huncut : Uncut f limit t ↔ (t.pending.drop limit).filterMap f = [] :=
    List.filterMap_eq_nil_iff.symm
  unfold Exact
  rw [passed_read hs, hpending, huncut]
  change t.taken ++ (t.pending.take limit).filterMap f = _ ↔ _
  constructor
  · intro heq
    have hlength := congrArg List.length heq
    have htaken := hs.taken_le
    simp only [List.length_append] at hlength
    have hnil : (t.pending.drop limit).filterMap f = [] :=
      List.eq_nil_of_length_eq_zero (by omega)
    rw [hnil, List.append_nil] at heq
    exact ⟨List.append_cancel_right heq, hnil⟩
  · rintro ⟨heq, hnil⟩
    rw [heq, hnil, List.append_nil]

end Follower
end TikkaRaffle.Lib
