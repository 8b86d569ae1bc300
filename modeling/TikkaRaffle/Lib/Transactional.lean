import Mathlib.Data.List.Basic
import Mathlib.Tactic.Tauto

/-! Runs of a transactional machine. A call either commits a new state or
fails, and a failing call rolls every write back. Nothing here depends on what
the machine stores, so the rules apply to any call-at-a-time program. -/
namespace TikkaRaffle.Lib

@[simp] theorem except_bind_ok {ε α β : Type} (value : Except ε α) (next : α → Except ε β)
    (result : β) :
    (value >>= next) = .ok result ↔ ∃ input, value = .ok input ∧ next input = .ok result := by
  cases value <;> simp [bind, Except.bind]

theorem except_bind_error {ε α β : Type} {value : Except ε α} {next : α → Except ε β} {e : ε} :
    (value >>= next) = .error e ↔
      value = .error e ∨ ∃ input, value = .ok input ∧ next input = .error e := by
  cases value <;> simp [bind, Except.bind]

@[simp] theorem except_pure_ok {ε α : Type} {a b : α} :
    (pure a : Except ε α) = .ok b ↔ a = b := by
  simp [pure, Except.pure]

@[simp] theorem except_map_ok {ε α β : Type} {value : Except ε α} {f : α → β} {result : β} :
    (f <$> value) = .ok result ↔ ∃ input, value = .ok input ∧ f input = result := by
  cases value <;> simp [Functor.map, Except.map]

theorem except_ite_ok {ε α : Type} {condition : Prop} [Decidable condition] {a b : α} {e : ε} :
    (if condition then Except.ok a else Except.error e) = .ok b ↔ condition ∧ a = b := by
  by_cases h : condition <;> simp [h]

theorem except_isOk {ε α : Type} {value : Except ε α} (h : value.isOk = true) :
    ∃ a, value = .ok a := by
  cases value with
  | ok a => exact ⟨a, rfl⟩
  | error e => cases h

def check {ε : Type} (condition : Prop) [Decidable condition] (e : ε) : Except ε Unit :=
  if condition then .ok () else .error e

@[simp] theorem check_ok {ε : Type} {condition : Prop} [Decidable condition] {e : ε} {u : Unit} :
    check condition e = .ok u ↔ condition := by
  simp [check]

def found {ε α : Type} (value : Option α) (e : ε) : Except ε α :=
  match value with
  | some a => .ok a
  | none => .error e

@[simp] theorem found_ok {ε α : Type} {value : Option α} {e : ε} {a : α} :
    found value e = .ok a ↔ value = some a := by
  cases value <;> simp [found]

@[simp] theorem except_mapError_ok {ε ε' α : Type} {f : ε → ε'} {value : Except ε α} {a : α} :
    value.mapError f = .ok a ↔ value = .ok a := by
  cases value <;> simp [Except.mapError]

theorem except_mapM_ok {ε α β : Type} {f : α → Except ε β} {g : α → β} {xs : List α}
    (h : ∀ x ∈ xs, f x = .ok (g x)) : xs.mapM f = .ok (xs.map g) := by
  induction xs with
  | nil => rfl
  | cons x rest ih =>
    rw [List.mapM_cons, h x (List.mem_cons_self ..), ih fun y hy => h y (List.mem_cons_of_mem _ hy)]
    rfl

theorem except_isOk_iff {ε α : Type} {value : Except ε α} :
    value.isOk = true ↔ ∃ a, value = .ok a := by
  cases value <;> simp [Except.isOk, Except.toBool]

/-- A step relation given by a partial function of the call and the state. -/
structure Machine (State Call Failure : Type) where
  step : Call → State → Except Failure State

namespace Machine

variable {State Call Failure : Type} (m : Machine State Call Failure)

def exec (s : State) (c : Call) : State :=
  match m.step c s with
  | .ok s' => s'
  | .error _ => s

def run (s : State) (calls : List Call) : State :=
  calls.foldl m.exec s

/-- `P` relates the states around every committed call of the run. -/
def Each (P : State → Call → State → Prop) : State → List Call → Prop
  | _, [] => True
  | s, c :: rest => (∀ s', m.step c s = .ok s' → P s c s') ∧ Each P (m.exec s c) rest

/-- `Q` holds of every state the run passes through, both ends included. -/
def Always (Q : State → Prop) : State → List Call → Prop
  | s, [] => Q s
  | s, c :: rest => Q s ∧ Always Q (m.exec s c) rest

/-- `Q` holds of some state the run passes through. -/
def Ever (Q : State → Prop) : State → List Call → Prop
  | s, [] => Q s
  | s, c :: rest => Q s ∨ Ever Q (m.exec s c) rest

/-- The calls of the run that committed, in order. -/
def committed : State → List Call → List Call
  | _, [] => []
  | s, c :: rest =>
      match m.step c s with
      | .ok s' => c :: committed s' rest
      | .error _ => committed s rest

instance decidableEach {P : State → Call → State → Prop} [∀ s c s', Decidable (P s c s')] :
    ∀ s calls, Decidable (m.Each P s calls)
  | _, [] => isTrue trivial
  | s, c :: rest =>
    have : Decidable (m.Each P (m.exec s c) rest) := decidableEach (m.exec s c) rest
    match h : m.step c s with
    | .ok s' => decidable_of_iff (P s c s' ∧ m.Each P (m.exec s c) rest) (by simp [Each, h])
    | .error _ => decidable_of_iff (m.Each P (m.exec s c) rest) (by simp [Each, h])

@[simp] theorem run_nil (s : State) : m.run s [] = s := rfl

@[simp] theorem run_cons (s : State) (c : Call) (rest : List Call) :
    m.run s (c :: rest) = m.run (m.exec s c) rest := rfl

theorem run_append (s : State) (first last : List Call) :
    m.run s (first ++ last) = m.run (m.run s first) last :=
  List.foldl_append

theorem exec_ok {s s' : State} {c : Call} (h : m.step c s = .ok s') : m.exec s c = s' := by
  simp [exec, h]

theorem exec_error {s : State} {c : Call} {e : Failure} (h : m.step c s = .error e) :
    m.exec s c = s := by
  simp [exec, h]

theorem exec_cases (s : State) (c : Call) :
    m.step c s = .ok (m.exec s c) ∨ (∃ e, m.step c s = .error e) ∧ m.exec s c = s := by
  cases h : m.step c s with
  | ok s' => exact .inl (by rw [m.exec_ok h])
  | error e => exact .inr ⟨⟨e, rfl⟩, m.exec_error h⟩

theorem step_exec {s : State} {c : Call} (h : (m.step c s).isOk = true) :
    m.step c s = .ok (m.exec s c) := by
  obtain ⟨s', hs'⟩ := except_isOk h
  rw [hs', m.exec_ok hs']

variable {m}

theorem Always.head {Q : State → Prop} {s : State} {calls : List Call}
    (h : m.Always Q s calls) : Q s := by
  cases calls with
  | nil => exact h
  | cons c rest => exact h.1

theorem Always.last {Q : State → Prop} {s : State} {calls : List Call}
    (h : m.Always Q s calls) : Q (m.run s calls) := by
  induction calls generalizing s with
  | nil => exact h
  | cons c rest ih => exact ih h.2

theorem Always.mono {Q R : State → Prop} (hQR : ∀ s, Q s → R s) {s : State}
    {calls : List Call} (h : m.Always Q s calls) : m.Always R s calls := by
  induction calls generalizing s with
  | nil => exact hQR _ h
  | cons c rest ih => exact ⟨hQR _ h.1, ih h.2⟩

theorem Each.at {P : State → Call → State → Prop} {s t : State} {first rest : List Call} {c : Call}
    (h : m.Each P s (first ++ c :: rest)) (hok : m.step c (m.run s first) = .ok t) :
    P (m.run s first) c t := by
  induction first generalizing s with
  | nil => exact h.1 t hok
  | cons d first ih => exact ih h.2 hok

theorem each_append {P : State → Call → State → Prop} {s : State} {first last : List Call} :
    m.Each P s (first ++ last) ↔ m.Each P s first ∧ m.Each P (m.run s first) last := by
  induction first generalizing s with
  | nil => exact ⟨fun h => ⟨trivial, h⟩, And.right⟩
  | cons c first ih => simp only [List.cons_append, Each, run_cons, ih, and_assoc]

theorem each_of_split {P : State → Call → State → Prop} {s : State} {calls : List Call}
    (h : ∀ first c rest t, calls = first ++ c :: rest → m.step c (m.run s first) = .ok t →
      P (m.run s first) c t) : m.Each P s calls := by
  induction calls generalizing s with
  | nil => trivial
  | cons c rest ih =>
    refine ⟨fun t hok => h [] c rest t rfl hok, ih fun first d last t hcalls hok => ?_⟩
    exact h (c :: first) d last t (by rw [hcalls, List.cons_append]) hok

theorem each_of_forall {P : State → Call → State → Prop} {s : State} {calls : List Call}
    (h : ∀ c ∈ calls, ∀ s s', P s c s') : m.Each P s calls :=
  each_of_split fun _ c _ _ hcalls _ => h c (by simp [hcalls]) _ _

/-- The invariant rule for runs whose committed steps all satisfy `P`. -/
theorem always_of_each (Inv : State → Prop) {P : State → Call → State → Prop}
    (hstep : ∀ s c s', Inv s → P s c s' → m.step c s = .ok s' → Inv s')
    {s : State} (hs : Inv s) {calls : List Call} (h : m.Each P s calls) :
    m.Always Inv s calls := by
  induction calls generalizing s with
  | nil => exact hs
  | cons c rest ih =>
    refine ⟨hs, ih ?_ h.2⟩
    rcases m.exec_cases s c with hok | ⟨-, hsame⟩
    · exact hstep s c _ hs (h.1 _ hok) hok
    · rw [hsame]; exact hs

theorem each_trivial {s : State} {calls : List Call} : m.Each (fun _ _ _ => True) s calls := by
  induction calls generalizing s with
  | nil => trivial
  | cons c rest ih => exact ⟨fun _ _ => trivial, ih⟩

theorem always_of_step (Inv : State → Prop)
    (hstep : ∀ s c s', Inv s → m.step c s = .ok s' → Inv s')
    {s : State} (hs : Inv s) (calls : List Call) : m.Always Inv s calls :=
  always_of_each Inv (fun s c s' hi _ h => hstep s c s' hi h) hs each_trivial

theorem Ever.now {Q : State → Prop} {s : State} {calls : List Call} (h : Q s) :
    m.Ever Q s calls := by
  cases calls with
  | nil => exact h
  | cons c rest => exact .inl h

/-- What holds at the end and not at the start was brought about by a committed
step, and whatever that step leaves behind held at some time. -/
theorem ever_of_gained {P Q : State → Prop} (Inv : State → Prop)
    (hkeep : ∀ s c s', Inv s → m.step c s = .ok s' → Inv s')
    (hgain : ∀ s c s', Inv s → ¬P s → P s' → m.step c s = .ok s' → Q s')
    {s : State} (hs : Inv s) (hnot : ¬P s) {calls : List Call} (hend : P (m.run s calls)) :
    m.Ever Q s calls := by
  induction calls generalizing s with
  | nil => exact absurd hend hnot
  | cons c rest ih =>
    rcases m.exec_cases s c with hok | ⟨-, hsame⟩
    · by_cases hnext : P (m.exec s c)
      · exact .inr (Ever.now (hgain s c _ hs hnot hnext hok))
      · exact .inr (ih (hkeep s c _ hs hok) hnext hend)
    · refine .inr (ih ?_ ?_ hend)
      · rwa [hsame]
      · rwa [hsame]

theorem Ever.persists {P Q : State → Prop} (Inv : State → Prop)
    (hkeep : ∀ s c s', Inv s → m.step c s = .ok s' → Inv s')
    (hstable : ∀ s c s', Inv s → P s → m.step c s = .ok s' → P s')
    (himp : ∀ s, Inv s → Q s → P s) {s : State} (hs : Inv s) {calls : List Call}
    (h : m.Ever Q s calls) : P (m.run s calls) := by
  induction calls generalizing s with
  | nil => exact himp s hs h
  | cons c rest ih =>
    rcases h with hnow | hlater
    · have hall := always_of_step (fun s => Inv s ∧ P s)
        (fun s c s' hi hok => ⟨hkeep s c s' hi.1 hok, hstable s c s' hi.1 hi.2 hok⟩)
        ⟨hs, himp s hs hnow⟩ (c :: rest)
      exact hall.last.2
    · refine ih ?_ hlater
      rcases m.exec_cases s c with hok | ⟨-, hsame⟩
      · exact hkeep s c _ hs hok
      · rwa [hsame]

/-- A relation along a run may keep an invariant, and from both another relation
follows. -/
theorem Each.imp_along (Inv : State → Prop) {P R : State → Call → State → Prop}
    (hstep : ∀ s c s', Inv s → P s c s' → m.step c s = .ok s' → Inv s' ∧ R s c s')
    {s : State} (hs : Inv s) {calls : List Call} (h : m.Each P s calls) : m.Each R s calls := by
  induction calls generalizing s with
  | nil => trivial
  | cons c rest ih =>
    refine ⟨fun s' hok => (hstep s c s' hs (h.1 s' hok) hok).2, ih ?_ h.2⟩
    rcases m.exec_cases s c with hok | ⟨-, hsame⟩
    · exact (hstep s c _ hs (h.1 _ hok) hok).1
    · rw [hsame]; exact hs

theorem Each.imp (Inv : State → Prop) {P R : State → Call → State → Prop}
    (hkeep : ∀ s c s', Inv s → m.step c s = .ok s' → Inv s')
    (hstep : ∀ s c s', Inv s → m.step c s = .ok s' → P s c s' → R s c s')
    {s : State} (hs : Inv s) {calls : List Call} (h : m.Each P s calls) : m.Each R s calls :=
  h.imp_along Inv (fun s c s' hi hp hok => ⟨hkeep s c s' hi hok, hstep s c s' hi hok hp⟩) hs

/-- A relation that every committed step of an invariant-keeping machine
satisfies is satisfied along the whole run. -/
theorem each_of_step (Inv : State → Prop) {P : State → Call → State → Prop}
    (hkeep : ∀ s c s', Inv s → m.step c s = .ok s' → Inv s')
    (hstep : ∀ s c s', Inv s → m.step c s = .ok s' → P s c s')
    {s : State} (hs : Inv s) (calls : List Call) : m.Each P s calls :=
  each_trivial.imp Inv hkeep (fun s c s' hi hok _ => hstep s c s' hi hok) hs

theorem each_congr (Inv : State → Prop) {P R : State → Call → State → Prop}
    (hkeep : ∀ s c s', Inv s → m.step c s = .ok s' → Inv s')
    (hstep : ∀ s c s', Inv s → m.step c s = .ok s' → (P s c s' ↔ R s c s'))
    {s : State} (hs : Inv s) (calls : List Call) : m.Each P s calls ↔ m.Each R s calls := by
  constructor
  · exact Each.imp Inv hkeep (fun s c s' hi hok => (hstep s c s' hi hok).mp) hs
  · exact Each.imp Inv hkeep (fun s c s' hi hok => (hstep s c s' hi hok).mpr) hs

/-- When a committed step keeps `Q` exactly if it satisfies `P`, a run keeps `Q`
exactly if all its committed steps satisfy `P`. -/
theorem always_iff_each (Inv : State → Prop) {Q : State → Prop} {P : State → Call → State → Prop}
    (hkeep : ∀ s c s', Inv s → m.step c s = .ok s' → Inv s')
    (hstep : ∀ s c s', Inv s → Q s → m.step c s = .ok s' → (Q s' ↔ P s c s'))
    {s : State} (hs : Inv s) (hQ : Q s) (calls : List Call) :
    m.Always Q s calls ↔ m.Each P s calls := by
  induction calls generalizing s with
  | nil => exact ⟨fun _ => trivial, fun _ => hQ⟩
  | cons c rest ih =>
    cases hc : m.step c s with
    | error e =>
      simp only [Always, Each, hc, m.exec_error hc, reduceCtorEq, false_implies, implies_true,
        true_and, hQ, ih hs hQ]
    | ok t =>
      simp only [Always, Each, hc, m.exec_ok hc, Except.ok.injEq, forall_eq', hQ, true_and]
      have hiff := hstep s c t hs hQ hc
      constructor
      · intro hrest
        exact ⟨hiff.mp hrest.head, (ih (hkeep s c t hs hc) hrest.head).mp hrest⟩
      · intro heach
        exact (ih (hkeep s c t hs hc) (hiff.mpr heach.1)).mpr heach.2

/-- When a committed step ends in `Q` exactly if it starts in `Q` and satisfies
`P`, so does a run: what is lost is not recovered. -/
theorem run_iff_each (Inv : State → Prop) {Q : State → Prop} {P : State → Call → State → Prop}
    (hkeep : ∀ s c s', Inv s → m.step c s = .ok s' → Inv s')
    (hstep : ∀ s c s', Inv s → m.step c s = .ok s' → (Q s' ↔ Q s ∧ P s c s'))
    {s : State} (hs : Inv s) (calls : List Call) :
    Q (m.run s calls) ↔ Q s ∧ m.Each P s calls := by
  induction calls generalizing s with
  | nil => exact (and_iff_left trivial).symm
  | cons c rest ih =>
    cases hc : m.step c s with
    | error e =>
      simp only [run_cons, Each, hc, m.exec_error hc, reduceCtorEq, false_implies, implies_true,
        true_and, ih hs]
    | ok t =>
      simp only [run_cons, Each, hc, m.exec_ok hc, Except.ok.injEq, forall_eq',
        ih (hkeep s c t hs hc), hstep s c t hs hc, and_assoc]

section Commitments

variable {s s' : State} {calls : List Call}

theorem committed_error {c : Call} {rest : List Call} {e : Failure} (h : m.step c s = .error e) :
    m.committed s (c :: rest) = m.committed s rest := by
  simp [committed, h]

theorem committed_ok {c : Call} {rest : List Call} (h : m.step c s = .ok s') :
    m.committed s (c :: rest) = c :: m.committed s' rest := by
  simp [committed, h]

theorem committed_append (s : State) (first last : List Call) :
    m.committed s (first ++ last) = m.committed s first ++ m.committed (m.run s first) last := by
  induction first generalizing s with
  | nil => rfl
  | cons c rest ih =>
    cases hc : m.step c s with
    | error e => rw [List.cons_append, committed_error hc, committed_error hc, run_cons,
        m.exec_error hc, ih]
    | ok t => rw [List.cons_append, committed_ok hc, committed_ok hc, run_cons, m.exec_ok hc, ih,
        List.cons_append]

theorem committed_sublist (s : State) (calls : List Call) :
    (m.committed s calls).Sublist calls := by
  induction calls generalizing s with
  | nil => exact .slnil
  | cons c rest ih =>
    cases hc : m.step c s with
    | error e =>
      rw [committed_error hc]
      exact (ih s).cons c
    | ok t =>
      rw [committed_ok hc]
      exact (ih t).cons_cons c

/-- A condition on the calls alone holds along a run if it holds of the
committed ones. -/
theorem each_call_iff {p : Call → Prop} :
    m.Each (fun _ c _ => p c) s calls ↔ ∀ c ∈ m.committed s calls, p c := by
  induction calls generalizing s with
  | nil => simp [Each, committed]
  | cons c rest ih =>
    cases hc : m.step c s with
    | error e => simp [Each, hc, m.exec_error hc, committed_error hc, ih]
    | ok t => simp [Each, hc, m.exec_ok hc, committed_ok hc, ih]

/-- A measure that the committed calls in `p` raise by one counts them. -/
theorem run_count (Inv : State → Prop) {p : Call → Bool} (μ : State → Nat)
    (hkeep : ∀ s c s', Inv s → m.step c s = .ok s' → Inv s')
    (hraise : ∀ s c s', Inv s → m.step c s = .ok s' → μ s' = μ s + if p c then 1 else 0)
    (hs : Inv s) (calls : List Call) :
    μ (m.run s calls) = μ s + (m.committed s calls).countP p := by
  induction calls generalizing s with
  | nil => rfl
  | cons c rest ih =>
    cases hc : m.step c s with
    | error e => rw [run_cons, m.exec_error hc, committed_error hc, ih hs]
    | ok t =>
      rw [run_cons, m.exec_ok hc, committed_ok hc, ih (hkeep s c t hs hc), hraise s c t hs hc,
        List.countP_cons]
      omega

/-- What holds at the end either held at the start and no call in `p` committed,
or it holds since the last committed call in `p`. -/
theorem held_since (Inv Q : State → Prop) {p : State → Call → Prop}
    (hkeep : ∀ s c s', Inv s → m.step c s = .ok s' → Inv s')
    (hback : ∀ s c s', Inv s → ¬p s c → m.step c s = .ok s' → Q s' → Q s)
    (hs : Inv s) (hend : Q (m.run s calls)) :
    (Q s ∧ m.Each (fun s c _ => ¬p s c) s calls) ∨
      ∃ first c rest t, calls = first ++ c :: rest ∧ p (m.run s first) c ∧
        m.step c (m.run s first) = .ok t ∧ Inv (m.run s first) ∧ Q t ∧
        m.Each (fun s c _ => ¬p s c) t rest := by
  induction calls generalizing s with
  | nil => exact .inl ⟨hend, trivial⟩
  | cons c rest ih =>
    cases hc : m.step c s with
    | error e =>
      have hsame := m.exec_error hc
      rw [run_cons, hsame] at hend
      rcases ih hs hend with ⟨hQ, hnone⟩ | ⟨first, d, last, t, rfl, hp, hok, hinv, hQ, hnone⟩
      · exact .inl ⟨hQ, by simp [Each, hc, hsame, hnone]⟩
      · refine .inr ⟨c :: first, d, last, t, rfl, ?_⟩
        rw [run_cons, hsame]
        exact ⟨hp, hok, hinv, hQ, hnone⟩
    | ok u =>
      have hnext := m.exec_ok hc
      rw [run_cons, hnext] at hend
      rcases ih (hkeep s c u hs hc) hend with
        ⟨hQ, hnone⟩ | ⟨first, d, last, t, rfl, hp, hok, hinv, hQ, hnone⟩
      · by_cases hp : p s c
        · exact .inr ⟨[], c, rest, u, rfl, hp, hc, hs, hQ, hnone⟩
        · exact .inl ⟨hback s c u hs hp hc hQ, by simp [Each, hc, hnext, hp, hnone]⟩
      · refine .inr ⟨c :: first, d, last, t, rfl, ?_⟩
        rw [run_cons, hnext]
        exact ⟨hp, hok, hinv, hQ, hnone⟩

theorem holds_since (Inv Q : State → Prop) {p : Call → Prop}
    (hkeep : ∀ s c s', Inv s → m.step c s = .ok s' → Inv s')
    (hback : ∀ s c s', Inv s → ¬p c → m.step c s = .ok s' → Q s' → Q s)
    (hs : Inv s) (hend : Q (m.run s calls)) :
    (Q s ∧ ∀ d ∈ m.committed s calls, ¬p d) ∨
      ∃ first c rest t, calls = first ++ c :: rest ∧ p c ∧ m.step c (m.run s first) = .ok t ∧
        Inv (m.run s first) ∧ Q t ∧ ∀ d ∈ m.committed t rest, ¬p d := by
  rcases held_since (p := fun _ => p) Inv Q hkeep hback hs hend with
    ⟨hQ, hnone⟩ | ⟨first, c, rest, t, hcalls, hp, hok, hinv, hQ, hnone⟩
  · exact .inl ⟨hQ, each_call_iff.mp hnone⟩
  · exact .inr ⟨first, c, rest, t, hcalls, hp, hok, hinv, hQ, each_call_iff.mp hnone⟩

/-- No call in `p` commits once a stable property that excludes `p` holds. -/
theorem none_committed (Inv φ : State → Prop) {p : Call → Prop}
    (hkeep : ∀ s c s', Inv s → m.step c s = .ok s' → Inv s')
    (hstable : ∀ s c s', Inv s → φ s → m.step c s = .ok s' → φ s')
    (hexclude : ∀ s c s', Inv s → φ s → p c → m.step c s = .ok s' → False)
    (hs : Inv s) (hφ : φ s) : ∀ c ∈ m.committed s calls, ¬p c := by
  induction calls generalizing s with
  | nil => simp [committed]
  | cons d rest ih =>
    cases hd : m.step d s with
    | error e =>
      rw [committed_error hd]
      exact ih hs hφ
    | ok t =>
      rw [committed_ok hd]
      intro c hc hp
      rcases List.mem_cons.mp hc with rfl | hc
      · exact hexclude s c t hs hφ hp hd
      · exact ih (hkeep s d t hs hd) (hstable s d t hs hφ hd) c hc hp

/-- Two kinds of calls that leave incompatible stable properties behind never
both commit in one run. -/
theorem not_both_committed (Inv φ ψ : State → Prop) {p q : Call → Prop}
    (hkeep : ∀ s c s', Inv s → m.step c s = .ok s' → Inv s')
    (hφ : ∀ s c s', Inv s → φ s → m.step c s = .ok s' → φ s')
    (hψ : ∀ s c s', Inv s → ψ s → m.step c s = .ok s' → ψ s')
    (hp : ∀ s c s', Inv s → p c → m.step c s = .ok s' → φ s')
    (hq : ∀ s c s', Inv s → q c → m.step c s = .ok s' → ψ s')
    (hne : ∀ s, φ s → ψ s → False) (hs : Inv s) :
    ¬((∃ c ∈ m.committed s calls, p c) ∧ ∃ c ∈ m.committed s calls, q c) := by
  have noQ : ∀ {t rest}, Inv t → φ t → ∀ c ∈ m.committed t rest, ¬q c := fun ht hφt =>
    none_committed Inv φ hkeep hφ
      (fun s c s' hi hφs hqc hok => hne s' (hφ s c s' hi hφs hok) (hq s c s' hi hqc hok)) ht hφt
  have noP : ∀ {t rest}, Inv t → ψ t → ∀ c ∈ m.committed t rest, ¬p c := fun ht hψt =>
    none_committed Inv ψ hkeep hψ
      (fun s c s' hi hψs hpc hok => hne s' (hp s c s' hi hpc hok) (hψ s c s' hi hψs hok)) ht hψt
  induction calls generalizing s with
  | nil => simp [committed]
  | cons d rest ih =>
    cases hd : m.step d s with
    | error e =>
      rw [committed_error hd]
      exact ih hs
    | ok t =>
      rw [committed_ok hd]
      have ht := hkeep s d t hs hd
      rintro ⟨⟨c, hc, hpc⟩, c', hc', hqc⟩
      rcases List.mem_cons.mp hc with rfl | hlater <;>
        rcases List.mem_cons.mp hc' with rfl | hlater'
      · exact hne t (hp s _ t hs hpc hd) (hq s _ t hs hqc hd)
      · exact noQ ht (hp s _ t hs hpc hd) c' hlater' hqc
      · exact noP ht (hq s _ t hs hqc hd) c hlater hpc
      · exact ih ht ⟨⟨c, hlater, hpc⟩, c', hlater', hqc⟩

/-- A call that leaves a stable property behind which excludes it commits at
most once. -/
theorem committed_at_most_once (Inv φ : State → Prop) {p : Call → Bool}
    (hkeep : ∀ s c s', Inv s → m.step c s = .ok s' → Inv s')
    (hstable : ∀ s c s', Inv s → φ s → m.step c s = .ok s' → φ s')
    (hestablish : ∀ s c s', Inv s → p c → m.step c s = .ok s' → φ s')
    (hexclude : ∀ s c s', Inv s → φ s → p c → m.step c s = .ok s' → False) (hs : Inv s) :
    (m.committed s calls).countP p ≤ 1 := by
  induction calls generalizing s with
  | nil => simp [committed]
  | cons d rest ih =>
    cases hd : m.step d s with
    | error e =>
      rw [committed_error hd]
      exact ih hs
    | ok t =>
      rw [committed_ok hd, List.countP_cons]
      have ht := hkeep s d t hs hd
      by_cases hp : p d = true
      · have hnone : ∀ c ∈ m.committed t rest, ¬p c = true :=
          none_committed Inv φ hkeep hstable hexclude ht (hestablish s d t hs hp hd)
        simp [List.countP_eq_zero.mpr hnone, hp]
      · simpa [hp] using ih ht

end Commitments

section History

variable {Log : Type} {note : State → Call → State → Log → Log}

/-- The machine with a record of its committed calls beside the state. -/
def noting (m : Machine State Call Failure) (note : State → Call → State → Log → Log) :
    Machine (State × Log) Call Failure where
  step c s := (fun s' => (s', note s.1 c s' s.2)) <$> m.step c s.1

theorem noting_ok {c : Call} {s s' : State × Log} :
    (m.noting note).step c s = .ok s' ↔ m.step c s.1 = .ok s'.1 ∧ s'.2 = note s.1 c s'.1 s.2 := by
  simp only [noting, except_map_ok]
  constructor
  · rintro ⟨t, hok, rfl⟩
    exact ⟨hok, rfl⟩
  · rintro ⟨hok, hnote⟩
    exact ⟨s'.1, hok, Prod.ext rfl hnote.symm⟩

theorem noting_exec (s : State × Log) (c : Call) :
    ((m.noting note).exec s c).1 = m.exec s.1 c := by
  rcases m.exec_cases s.1 c with hok | ⟨⟨e, herror⟩, hsame⟩
  · have hnoted : (m.noting note).step c s =
        .ok (m.exec s.1 c, note s.1 c (m.exec s.1 c) s.2) := noting_ok.mpr ⟨hok, rfl⟩
    rw [(m.noting note).exec_ok hnoted]
  · have hnoted : (m.noting note).step c s = .error e := by simp [noting, herror, Functor.map,
      Except.map]
    rw [(m.noting note).exec_error hnoted, hsame]

/-- The record does not influence the run. -/
theorem noting_run (s : State × Log) (calls : List Call) :
    ((m.noting note).run s calls).1 = m.run s.1 calls := by
  induction calls generalizing s with
  | nil => rfl
  | cons c rest ih => rw [run_cons, run_cons, ih, noting_exec]

theorem noting_committed (s : State × Log) (calls : List Call) :
    (m.noting note).committed s calls = m.committed s.1 calls := by
  induction calls generalizing s with
  | nil => rfl
  | cons c rest ih =>
    cases hc : m.step c s.1 with
    | error e =>
      have hnoted : (m.noting note).step c s = .error e := by
        simp [noting, hc, Functor.map, Except.map]
      rw [committed_error hc, committed_error hnoted, ih]
    | ok t =>
      have hnoted : (m.noting note).step c s = .ok (t, note s.1 c t s.2) :=
        noting_ok.mpr ⟨hc, rfl⟩
      rw [committed_ok hc, committed_ok hnoted, ih]

theorem noting_each {P : State → Call → State → Prop} {s : State × Log} {calls : List Call} :
    (m.noting note).Each (fun s c s' => P s.1 c s'.1) s calls ↔ m.Each P s.1 calls := by
  induction calls generalizing s with
  | nil => exact .rfl
  | cons c rest ih =>
    simp only [Each, ih, noting_exec]
    refine and_congr_left fun _ => ⟨fun h s' hok => ?_, fun h s' hok => ?_⟩
    · exact h (s', note s.1 c s' s.2) (noting_ok.mpr ⟨hok, rfl⟩)
    · exact h s'.1 (noting_ok.mp hok).1

end History

section Journal

variable (m) {Entry : Type} (note : State → Call → State → List Entry)

/-- The entries of the committed calls of a run, in order. -/
def journal : State → List Call → List Entry
  | _, [] => []
  | s, c :: rest =>
      match m.step c s with
      | .ok s' => note s c s' ++ journal s' rest
      | .error _ => journal s rest

variable {m note} {s s' : State} {c : Call} {rest : List Call}

theorem journal_ok (h : m.step c s = .ok s') :
    m.journal note s (c :: rest) = note s c s' ++ m.journal note s' rest := by
  simp [journal, h]

theorem journal_error {e : Failure} (h : m.step c s = .error e) :
    m.journal note s (c :: rest) = m.journal note s rest := by
  simp [journal, h]

/-- The invariant rule for a state beside the entries written so far, over runs
whose committed steps all satisfy `P`. -/
theorem journal_of_each (Inv : List Entry → State → Prop) {P : State → Call → State → Prop}
    (hstep : ∀ log s c s', Inv log s → P s c s' → m.step c s = .ok s' →
      Inv (log ++ note s c s') s')
    {log : List Entry} (hs : Inv log s) {calls : List Call} (h : m.Each P s calls) :
    Inv (log ++ m.journal note s calls) (m.run s calls) := by
  induction calls generalizing s log with
  | nil =>
    rw [journal, List.append_nil]
    exact hs
  | cons c rest ih =>
    cases hc : m.step c s with
    | error e =>
      have hrest := h.2
      rw [m.exec_error hc] at hrest
      rw [journal_error hc, run_cons, m.exec_error hc]
      exact ih hs hrest
    | ok t =>
      have hrest := h.2
      rw [m.exec_ok hc] at hrest
      rw [journal_ok hc, run_cons, m.exec_ok hc, ← List.append_assoc]
      exact ih (hstep _ _ _ _ hs (h.1 t hc) hc) hrest

theorem journal_of_step (Inv : List Entry → State → Prop)
    (hstep : ∀ log s c s', Inv log s → m.step c s = .ok s' → Inv (log ++ note s c s') s')
    {log : List Entry} (hs : Inv log s) (calls : List Call) :
    Inv (log ++ m.journal note s calls) (m.run s calls) :=
  journal_of_each Inv (fun log s c s' hi _ hok => hstep log s c s' hi hok) hs each_trivial

end Journal

end Machine
end TikkaRaffle.Lib
