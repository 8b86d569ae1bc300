import Mathlib.Data.List.Induction
import TikkaRaffle.Lib.Transactional

/-! Labelled transition systems: sequences of moves, what they preserve, and
the trail of a state machine whose hops are recorded as they are made. -/
namespace TikkaRaffle.Lib

variable {σ α : Type}

/-- The moves `acts` lead from one state to another. -/
inductive Path (move : α → σ → σ → Prop) : σ → List α → σ → Prop where
  | nil (s : σ) : Path move s [] s
  | cons {a : α} {acts : List α} {s t u : σ} :
      move a s t → Path move t acts u → Path move s (a :: acts) u

namespace Path

variable {move : α → σ → σ → Prop}

theorem single {a : α} {s t : σ} (h : move a s t) : Path move s [a] t :=
  .cons h (.nil t)

theorem of_single {a : α} {s t : σ} (h : Path move s [a] t) : move a s t := by
  cases h with
  | cons hmove htail =>
    cases htail
    exact hmove

theorem append {first last : List α} {s t u : σ} (h : Path move s first t)
    (h' : Path move t last u) : Path move s (first ++ last) u := by
  induction h with
  | nil => exact h'
  | cons hmove _ ih => exact .cons hmove (ih h')

/-- The invariant rule for paths whose labels all satisfy `p`. -/
theorem preserves (Inv : σ → Prop) (p : α → Prop) {acts : List α} {s t : σ}
    (hmove : ∀ a s t, p a → Inv s → move a s t → Inv t) (h : Path move s acts t)
    (hacts : ∀ a ∈ acts, p a) (hs : Inv s) : Inv t := by
  induction h with
  | nil => exact hs
  | cons hm _ ih =>
    have hhead := hacts _ (List.mem_cons_self ..)
    exact ih (fun a ha => hacts a (List.mem_cons_of_mem _ ha)) (hmove _ _ _ hhead hs hm)

theorem preserves_all (Inv : σ → Prop) {acts : List α} {s t : σ}
    (hmove : ∀ a s t, Inv s → move a s t → Inv t) (h : Path move s acts t) (hs : Inv s) :
    Inv t :=
  h.preserves Inv (fun _ => True) (fun a s t _ => hmove a s t) (fun _ _ => trivial) hs

end Path

namespace Machine

variable {State Call Failure : Type} {m : Machine State Call Failure}

theorem run_of_path {calls : List Call} {s t : State}
    (h : Path (fun c s t => m.step c s = .ok t) s calls t) :
    m.run s calls = t ∧ m.committed s calls = calls := by
  induction h with
  | nil => exact ⟨rfl, rfl⟩
  | cons hstep _ ih =>
    rw [run_cons, m.exec_ok hstep, committed_ok hstep, ih.2]
    exact ⟨ih.1, rfl⟩

theorem always_concat {P : State → Prop} {s : State} {calls : List Call} {c : Call} :
    m.Always P s (calls ++ [c]) ↔ m.Always P s calls ∧ P (m.run s (calls ++ [c])) := by
  induction calls generalizing s with
  | nil => exact Iff.rfl
  | cons d rest ih => simp only [List.cons_append, Always, run_cons, ih, and_assoc]

/-- What does not hold at first and holds at the end has a last beginning. -/
theorem last_begun {P : State → Prop} {s : State} {calls : List Call} (hnot : ¬P s)
    (hend : P (m.run s calls)) :
    ∃ first c rest t, calls = first ++ c :: rest ∧ m.step c (m.run s first) = .ok t ∧
      ¬P (m.run s first) ∧ m.Always P t rest := by
  induction calls using List.reverseRecOn with
  | nil => exact absurd hend hnot
  | append_singleton calls c ih =>
    by_cases hbefore : P (m.run s calls)
    · obtain ⟨first, d, rest, t, rfl, hok, hbegun, hsince⟩ := ih hbefore
      refine ⟨first, d, rest ++ [c], t, by simp, hok, hbegun, always_concat.mpr ⟨hsince, ?_⟩⟩
      rwa [List.append_assoc, List.cons_append, run_append, run_cons, m.exec_ok hok] at hend
    · rw [run_append, run_cons, run_nil] at hend
      rcases m.exec_cases (m.run s calls) c with hok | ⟨-, hsame⟩
      · exact ⟨calls, c, [], _, rfl, hok, hbefore, hend⟩
      · exact absurd (hsame ▸ hend) hbefore

/-- Along a run that stays in `P`, steps within `P` suffice for an invariant. -/
theorem Always.within {P Q : State → Prop} {R : State → Call → State → Prop} {s : State}
    {calls : List Call}
    (hstep : ∀ s c s', P s → P s' → R s c s' → Q s → m.step c s = .ok s' → Q s')
    (hP : m.Always P s calls) (hR : m.Each R s calls) (hQ : Q s) : Q (m.run s calls) := by
  induction calls generalizing s with
  | nil => exact hQ
  | cons c rest ih =>
    refine ih hP.2 hR.2 ?_
    rcases m.exec_cases s c with hok | ⟨-, hsame⟩
    · exact hstep s c _ hP.1 hP.2.head (hR.1 _ hok) hQ hok
    · rwa [hsame]

end Machine

def hop (allowed : σ → σ → Prop) (label : σ × σ) (s t : σ) : Prop :=
  label = (s, t) ∧ allowed s t

/-- A recorded history of allowed changes between two states. -/
abbrev Trail (allowed : σ → σ → Prop) : σ → List (σ × σ) → σ → Prop :=
  Path (hop allowed)

end TikkaRaffle.Lib
