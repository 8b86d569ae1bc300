import Mathlib.Data.List.Basic
import Mathlib.Data.List.Nodup

/-! A list of members kept by changes of status: a member joins at the back and
leaves from where it stands. -/
namespace TikkaRaffle.Lib

variable {α : Type} [DecidableEq α]

def lastStatus (history : List (α × Bool)) (a : α) : Option Bool :=
  ((history.filter (·.1 = a)).getLast?).map (·.2)

def Listed (history : List (α × Bool)) (a : α) : Prop :=
  lastStatus history a = some true

/-- The change at which the member went from not listed to listed, and since which
it has stayed. -/
def Joined (history : List (α × Bool)) (a : α) (n : Nat) : Prop :=
  history[n]? = some (a, true) ∧ ¬Listed (history.take n) a ∧
    ∀ m, n < m → m ≤ history.length → Listed (history.take m) a

def toggle (members : List α) (change : α × Bool) : List α :=
  if change.2 then if change.1 ∈ members then members else members ++ [change.1]
  else if change.1 ∈ members then members.erase change.1 else members

instance (history : List (α × Bool)) (a : α) : Decidable (Listed history a) :=
  inferInstanceAs (Decidable (_ = _))

section Changes

variable {history : List (α × Bool)} {change : α × Bool} {a : α} {n : Nat}

theorem lastStatus_append (history : List (α × Bool)) (change : α × Bool) (a : α) :
    lastStatus (history ++ [change]) a =
      if change.1 = a then some change.2 else lastStatus history a := by
  unfold lastStatus
  by_cases h : change.1 = a <;> simp [List.filter_append, h]

theorem listed_append_of_ne (h : change.1 ≠ a) :
    Listed (history ++ [change]) a ↔ Listed history a := by
  rw [Listed, lastStatus_append, if_neg h, Listed]

theorem listed_append_self {status : Bool} :
    Listed (history ++ [(a, status)]) a ↔ status = true := by
  rw [Listed, lastStatus_append, if_pos rfl, Option.some_inj]

theorem joined_append_iff :
    Joined (history ++ [change]) a n ↔
      (n = history.length ∧ change = (a, true) ∧ ¬Listed history a) ∨
        (Joined history a n ∧ Listed (history ++ [change]) a) := by
  have hall : (history ++ [change]).take (history.length + 1) = history ++ [change] :=
    List.take_of_length_le (by simp)
  have hold {m : Nat} (hm : m ≤ history.length) :
      (history ++ [change]).take m = history.take m :=
    List.take_append_of_le_length hm
  constructor
  · rintro ⟨hget, hnot, hsince⟩
    have hn := (List.getElem?_eq_some_iff.mp hget).1
    rw [List.length_append, List.length_singleton] at hn hsince
    rw [hold (by omega)] at hnot
    by_cases hlast : n = history.length
    · subst hlast
      rw [List.take_length] at hnot
      simp only [List.getElem?_concat_length, Option.some.injEq] at hget
      exact .inl ⟨rfl, hget, hnot⟩
    · rw [List.getElem?_append_left (by omega)] at hget
      refine .inr ⟨⟨hget, hnot, fun m hnm hm => ?_⟩, ?_⟩
      · rw [← hold hm]
        exact hsince m hnm (by omega)
      · rw [← hall]
        exact hsince (history.length + 1) (by omega) (Nat.le_refl _)
  · rintro (⟨rfl, rfl, hnot⟩ | ⟨⟨hget, hnot, hsince⟩, hlisted⟩)
    · refine ⟨by simp, by simpa using hnot, fun m hnm hm => ?_⟩
      rw [List.length_append, List.length_singleton] at hm
      rw [show m = history.length + 1 by omega, hall]
      exact listed_append_self.mpr rfl
    · have hn := (List.getElem?_eq_some_iff.mp hget).1
      refine ⟨by rw [List.getElem?_append_left hn]; exact hget, by rwa [hold (by omega)],
        fun m hnm hm => ?_⟩
      rw [List.length_append, List.length_singleton] at hm
      by_cases hlast : m = history.length + 1
      · rwa [hlast, hall]
      · rw [hold (by omega)]
        exact hsince m hnm (by omega)

end Changes

/-- The members are those that are listed, each once, in the order of joining. -/
structure Mirrors (history : List (α × Bool)) (members : List α) : Prop where
  mem_iff : ∀ a, a ∈ members ↔ Listed history a
  nodup : members.Nodup
  joined : ∀ a ∈ members, ∃ n, Joined history a n
  ordered : members.Pairwise fun a b => ∀ n m, Joined history a n → Joined history b m → n < m

namespace Mirrors

variable {history : List (α × Bool)} {members : List α}

theorem start : Mirrors ([] : List (α × Bool)) [] where
  mem_iff a := by simp [Listed, lastStatus]
  nodup := .nil
  joined a ha := absurd ha List.not_mem_nil
  ordered := .nil

theorem kept (h : Mirrors history members) {change : α × Bool}
    (hkept : ∀ a, a ∈ members ↔ Listed (history ++ [change]) a) :
    Mirrors (history ++ [change]) members := by
  have hjoined {a : α} (ha : a ∈ members) {n : Nat} :
      Joined (history ++ [change]) a n ↔ Joined history a n := by
    have hlisted := (h.mem_iff a).mp ha
    rw [joined_append_iff]
    constructor
    · rintro (⟨-, -, hnot⟩ | ⟨hold, -⟩)
      · exact absurd hlisted hnot
      · exact hold
    · exact fun hold => .inr ⟨hold, (hkept a).mp ha⟩
  refine ⟨hkept, h.nodup, fun a ha => ?_, ?_⟩
  · obtain ⟨n, hn⟩ := h.joined a ha
    exact ⟨n, (hjoined ha).mpr hn⟩
  · refine h.ordered.imp_of_mem fun ha hb hab n m hn hm => ?_
    exact hab n m ((hjoined ha).mp hn) ((hjoined hb).mp hm)

theorem join (h : Mirrors history members) {a : α} (hnew : a ∉ members) :
    Mirrors (history ++ [(a, true)]) (members ++ [a]) := by
  have hnot : ¬Listed history a := mt (h.mem_iff a).mpr hnew
  have hne {b : α} (hb : b ∈ members) : a ≠ b := fun heq => hnew (heq ▸ hb)
  have hself {n : Nat} : Joined (history ++ [(a, true)]) a n ↔ n = history.length := by
    rw [joined_append_iff]
    constructor
    · rintro (⟨hn, -⟩ | ⟨⟨hget, -, hsince⟩, -⟩)
      · exact hn
      · have hlt := (List.getElem?_eq_some_iff.mp hget).1
        have hlisted := hsince history.length hlt (Nat.le_refl _)
        rw [List.take_length] at hlisted
        exact absurd hlisted hnot
    · exact fun hn => .inl ⟨hn, rfl, hnot⟩
  have hother {b : α} (hb : b ∈ members) {n : Nat} :
      Joined (history ++ [(a, true)]) b n ↔ Joined history b n := by
    have hlisted : Listed (history ++ [(a, true)]) b :=
      (listed_append_of_ne (hne hb)).mpr ((h.mem_iff b).mp hb)
    rw [joined_append_iff]
    constructor
    · rintro (⟨-, heq, -⟩ | ⟨hold, -⟩)
      · exact absurd (congrArg Prod.fst heq) (hne hb)
      · exact hold
    · exact fun hold => .inr ⟨hold, hlisted⟩
  refine ⟨fun b => ?_, ?_, fun b hb => ?_, ?_⟩
  · by_cases hb : a = b
    · subst hb
      simp [listed_append_self]
    · rw [listed_append_of_ne hb, ← h.mem_iff, List.mem_append, List.mem_singleton,
        or_iff_left (Ne.symm hb)]
  · exact h.nodup.append (List.nodup_singleton a) (by simpa using hnew)
  · rcases List.mem_append.mp hb with hb | hb
    · obtain ⟨n, hn⟩ := h.joined b hb
      exact ⟨n, (hother hb).mpr hn⟩
    · rw [List.mem_singleton.mp hb]
      exact ⟨history.length, hself.mpr rfl⟩
  · rw [List.pairwise_append]
    refine ⟨h.ordered.imp_of_mem fun hb hc hbc n m hn hm =>
      hbc n m ((hother hb).mp hn) ((hother hc).mp hm), List.pairwise_singleton _ _, ?_⟩
    intro b hb c hc n m hn hm
    rw [List.mem_singleton.mp hc, hself] at hm
    have hlt := (List.getElem?_eq_some_iff.mp ((hother hb).mp hn).1).1
    omega

theorem leave (h : Mirrors history members) (a : α) :
    Mirrors (history ++ [(a, false)]) (members.erase a) := by
  have hmem {b : α} : b ∈ members.erase a ↔ b ≠ a ∧ b ∈ members := h.nodup.mem_erase_iff
  have hother {b : α} (hb : b ≠ a) {n : Nat} (hlisted : Listed history b) :
      Joined (history ++ [(a, false)]) b n ↔ Joined history b n := by
    rw [joined_append_iff]
    constructor
    · rintro (⟨-, heq, -⟩ | ⟨hold, -⟩)
      · exact absurd (congrArg Prod.snd heq) Bool.false_ne_true
      · exact hold
    · exact fun hold => .inr ⟨hold, (listed_append_of_ne (Ne.symm hb)).mpr hlisted⟩
  refine ⟨fun b => ?_, h.nodup.erase a, fun b hb => ?_, ?_⟩
  · rw [hmem]
    by_cases hb : b = a
    · subst hb
      simp [listed_append_self]
    · rw [listed_append_of_ne (Ne.symm hb), ← h.mem_iff, and_iff_right hb]
  · obtain ⟨hne, hold⟩ := hmem.mp hb
    obtain ⟨n, hn⟩ := h.joined b hold
    exact ⟨n, (hother hne ((h.mem_iff b).mp hold)).mpr hn⟩
  · refine (h.ordered.sublist List.erase_sublist).imp_of_mem fun hb hc hbc n m hn hm => ?_
    obtain ⟨hbne, hbold⟩ := hmem.mp hb
    obtain ⟨hcne, hcold⟩ := hmem.mp hc
    exact hbc n m ((hother hbne ((h.mem_iff _).mp hbold)).mp hn)
      ((hother hcne ((h.mem_iff _).mp hcold)).mp hm)

theorem toggle (h : Mirrors history members) (change : α × Bool) :
    Mirrors (history ++ [change]) (Lib.toggle members change) := by
  obtain ⟨a, status⟩ := change
  unfold Lib.toggle
  have hkept (hsame : status = true ↔ a ∈ members) :
      ∀ b, b ∈ members ↔ Listed (history ++ [(a, status)]) b := by
    intro b
    by_cases hb : a = b
    · subst hb
      rw [listed_append_self, hsame]
    · rw [listed_append_of_ne hb, h.mem_iff]
  cases status with
  | true =>
    by_cases ha : a ∈ members
    · simpa [ha] using h.kept (hkept (by simp [ha]))
    · simpa [ha] using h.join ha
  | false =>
    by_cases ha : a ∈ members
    · simpa [ha] using h.leave a
    · simpa [ha] using h.kept (hkept (by simp [ha]))

end Mirrors
end TikkaRaffle.Lib
