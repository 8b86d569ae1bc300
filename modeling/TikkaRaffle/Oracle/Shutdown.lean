import TikkaRaffle.Lib.Transactional

/-! `GracefulShutdown` as a machine of its own: its steps are the stretches of code
between two awaits and the callback of the timer. The queue is what a call of
`shutdown` finds in it, and `processJob` may settle in any way or never. -/
namespace TikkaRaffle.Oracle

open TikkaRaffle.Lib

/-- How a call of `processJob` ends: `true`, `false` or an exception. -/
inductive Outcome where
  | processed | skipped | failed
  deriving DecidableEq, Repr

inductive Timer where
  | unset | armed | fired | cleared
  deriving DecidableEq, Repr

/-- Where `shutdown` stands: at the `await` of a job, after the drain, at the two
operations on the checkpoint, or at its end. -/
inductive Phase (Job : Type) where
  | idle
  | draining (job : Job) (rest : List Job)
  | drained
  | loading
  | saving (ledger : Nat)
  | finished
  deriving DecidableEq, Repr

def Phase.rest {Job : Type} : Phase Job → List Job
  | .draining _ rest => rest
  | _ => []

@[simp] theorem Phase.rest_draining {Job : Type} (job : Job) (rest : List Job) :
    (Phase.draining job rest).rest = rest := rfl

/-- The state of a `GracefulShutdown`, with a record of the drain and of the calls
of `exitFn`. -/
structure GracefulShutdown (Job : Type) where
  shutdownInitiated : Bool := false
  timedOut : Bool := false
  forceExitTimer : Timer := .unset
  phase : Phase Job := .idle
  /-- The queue when the drain began. -/
  began : List Job := []
  /-- The calls of `processJob`. -/
  calls : List Job := []
  settled : List (Job × Outcome) := []
  exits : List Nat := []
  deriving DecidableEq, Repr

namespace GracefulShutdown

variable {Job : Type}

/-- The head of the drain loop. -/
def next (jobs : List Job) (g : GracefulShutdown Job) : GracefulShutdown Job :=
  match jobs with
  | [] => { g with phase := .drained }
  | job :: rest => { g with phase := .draining job rest, calls := g.calls ++ [job] }

@[simp] theorem next_nil_phase (g : GracefulShutdown Job) : (next [] g).phase = .drained := rfl

@[simp] theorem next_cons_phase (job : Job) (rest : List Job) (g : GracefulShutdown Job) :
    (next (job :: rest) g).phase = .draining job rest := rfl

/-- `shutdown` as far as its first `await`. -/
def shutdown (queue : List Job) (g : GracefulShutdown Job) : GracefulShutdown Job :=
  if g.shutdownInitiated then g
  else next queue
    { g with shutdownInitiated := true, forceExitTimer := .armed, began := queue }

def finish (g : GracefulShutdown Job) : GracefulShutdown Job :=
  { g with phase := .finished, exits := if g.timedOut then g.exits else g.exits ++ [0] }

inductive Event (Job : Type) where
  | shutdown (queue : List Job)
  | settle (outcome : Outcome)
  | leaveDrain
  /-- `checkpointStore.load` throws, or returns a ledger or nothing. -/
  | loaded (reply : Except Unit (Option Nat))
  | saved (success : Bool)
  | timeout

def step (event : Event Job) (g : GracefulShutdown Job) : Except Unit (GracefulShutdown Job) :=
  match event, g.phase with
  | .shutdown queue, _ => .ok (g.shutdown queue)
  | .settle outcome, .draining job rest =>
      .ok (next rest { g with settled := g.settled ++ [(job, outcome)] })
  | .leaveDrain, .drained =>
      .ok { g with
        phase := .loading
        forceExitTimer := if g.timedOut then g.forceExitTimer else .cleared }
  | .loaded (.ok (some ledger)), .loading => .ok { g with phase := .saving ledger }
  | .loaded _, .loading => .ok g.finish
  -- a failure of `save` is caught
  | .saved _, .saving _ => .ok g.finish
  | .timeout, _ =>
      if g.forceExitTimer = .armed then
        .ok { g with timedOut := true, forceExitTimer := .fired, exits := g.exits ++ [1] }
      else .error ()
  | _, _ => .error ()

theorem step_drain {event : Event Job} {g g' : GracefulShutdown Job} (hok : step event g = .ok g')
    (hcall : ∀ queue, event ≠ .shutdown queue) (hsettle : ∀ outcome, event ≠ .settle outcome) :
    g'.phase.rest = g.phase.rest ∧
      ∀ job rest, g.phase = .draining job rest → g'.phase = .draining job rest := by
  unfold step at hok
  split at hok
  case h_1 queue => exact absurd rfl (hcall queue)
  case h_2 outcome _ _ _ => exact absurd rfl (hsettle outcome)
  case h_7 =>
    split at hok
    · cases hok
      exact ⟨rfl, fun _ _ h => h⟩
    · cases hok
  case h_8 => cases hok
  all_goals
    -- after the drain
    cases hok
    simp_all [finish, Phase.rest]

theorem step_settle {outcome : Outcome} {g g' : GracefulShutdown Job}
    (hok : step (.settle outcome) g = .ok g') :
    ∃ job rest, g.phase = .draining job rest ∧
      g' = next rest { g with settled := g.settled ++ [(job, outcome)] } := by
  cases hphase : g.phase with
  | draining job rest =>
    simp only [step, hphase, Except.ok.injEq] at hok
    exact ⟨job, rest, rfl, hok.symm⟩
  | _ => simp [step, hphase] at hok

theorem not_step_init {event : Event Job} {g' : GracefulShutdown Job}
    (hcall : ∀ queue, event ≠ .shutdown queue) : step event {} ≠ .ok g' := by
  cases event with
  | shutdown queue => exact absurd rfl (hcall queue)
  | loaded reply => rcases reply with _ | _ | _ <;> simp [step]
  | _ => simp [step]

def machine (Job : Type) : Machine (GracefulShutdown Job) (Event Job) Unit := ⟨step⟩

def Drain (g : GracefulShutdown Job) : Prop :=
  match g.phase with
  | .idle => g.began = [] ∧ g.calls = [] ∧ g.settled = []
  | .draining job rest =>
      g.calls ++ rest = g.began ∧ g.settled.map Prod.fst ++ [job] = g.calls
  | _ => g.calls = g.began ∧ g.settled.map Prod.fst = g.calls

/-- Either the timer has not fired, and it and the exits are as stated, or it has. -/
def Raced (g : GracefulShutdown Job) (timer : Timer) (exits : List Nat) : Prop :=
  g.timedOut = false ∧ g.forceExitTimer = timer ∧ g.exits = exits ∨
    g.timedOut = true ∧ g.forceExitTimer = .fired ∧ g.exits = [1]

def Clock (g : GracefulShutdown Job) : Prop :=
  match g.phase with
  | .idle => g.timedOut = false ∧ g.forceExitTimer = .unset ∧ g.exits = []
  | .draining .. | .drained => g.Raced .armed []
  | .loading | .saving _ => g.Raced .cleared []
  | .finished => g.Raced .cleared [0]

structure Sound (g : GracefulShutdown Job) : Prop where
  initiated : g.shutdownInitiated = false ↔ g.phase = .idle
  drain : g.Drain
  clock : g.Clock

theorem Sound.started {g : GracefulShutdown Job} (hg : g.Sound) (hphase : g.phase ≠ .idle) :
    g.shutdownInitiated = true := by
  simpa using mt hg.initiated.mp hphase

theorem sound_init : Sound ({} : GracefulShutdown Job) :=
  ⟨by simp, ⟨rfl, rfl, rfl⟩, rfl, rfl, rfl⟩

theorem sound_next {g : GracefulShutdown Job} {jobs : List Job}
    (hinitiated : g.shutdownInitiated = true) (hcalls : g.calls ++ jobs = g.began)
    (hsettled : g.settled.map Prod.fst = g.calls) (hclock : g.Raced .armed []) :
    Sound (next jobs g) := by
  cases jobs with
  | nil =>
    rw [List.append_nil] at hcalls
    exact ⟨by simp [next, hinitiated], ⟨hcalls, hsettled⟩, hclock⟩
  | cons job rest =>
    refine ⟨by simp [next, hinitiated], ⟨?_, ?_⟩, hclock⟩
    · simpa [next] using hcalls
    · exact congrArg (· ++ [job]) hsettled

theorem sound_shutdown {g : GracefulShutdown Job} (hg : g.Sound) (queue : List Job) :
    (g.shutdown queue).Sound := by
  unfold shutdown
  split
  · exact hg
  · next hnot =>
    have hidle : g.phase = .idle := hg.initiated.mp (by simpa using hnot)
    have hdrain := hg.drain
    have hclock := hg.clock
    simp only [Drain, Clock, hidle] at hdrain hclock
    obtain ⟨-, hcalls, hsettled⟩ := hdrain
    refine sound_next rfl ?_ ?_ (.inl ⟨hclock.1, rfl, hclock.2.2⟩)
    · simp [hcalls]
    · simp [hcalls, hsettled]

theorem sound_finish {g : GracefulShutdown Job} (hinitiated : g.shutdownInitiated = true)
    (hdrain : g.calls = g.began ∧ g.settled.map Prod.fst = g.calls)
    (hclock : g.Raced .cleared []) : g.finish.Sound := by
  refine ⟨by simp [finish, hinitiated], hdrain, ?_⟩
  rcases hclock with ⟨hrunning, htimer, hexits⟩ | ⟨hfired, htimer, hexits⟩
  · exact .inl ⟨hrunning, htimer, by simp [finish, hrunning, hexits]⟩
  · exact .inr ⟨hfired, htimer, by simp [finish, hfired, hexits]⟩

/-- Only a timer that is armed fires, and it is armed only during the drain. -/
theorem sound_timeout {g : GracefulShutdown Job} (hg : g.Sound)
    (harmed : g.forceExitTimer = .armed) :
    Sound { g with timedOut := true, forceExitTimer := .fired, exits := g.exits ++ [1] } := by
  have hclock := hg.clock
  refine ⟨hg.initiated, hg.drain, ?_⟩
  cases hphase : g.phase <;> simp_all [Clock, Raced]

theorem sound_step {event : Event Job} {g g' : GracefulShutdown Job} (hg : g.Sound)
    (hok : step event g = .ok g') : g'.Sound := by
  have hdrain := hg.drain
  have hclock := hg.clock
  unfold step at hok
  split at hok
  case h_1 queue =>
    cases hok
    exact sound_shutdown hg queue
  case h_2 outcome job rest hphase =>
    cases hok
    have hinitiated := hg.started (by simp [hphase])
    simp only [hphase, Drain, Clock] at hdrain hclock
    exact sound_next hinitiated hdrain.1 (by simpa using hdrain.2) hclock
  case h_3 hphase =>
    cases hok
    have hinitiated := hg.started (by simp [hphase])
    simp only [hphase, Drain, Clock] at hdrain hclock
    refine ⟨by simp [hinitiated], hdrain, ?_⟩
    rcases hclock with ⟨hrunning, -, hexits⟩ | ⟨hfired, htimer, hexits⟩
    · exact .inl ⟨hrunning, by simp [hrunning], hexits⟩
    · exact .inr ⟨hfired, by simp [hfired, htimer], hexits⟩
  case h_4 ledger hphase =>
    cases hok
    have hinitiated := hg.started (by simp [hphase])
    simp only [hphase, Drain, Clock] at hdrain hclock
    exact ⟨by simp [hinitiated], hdrain, hclock⟩
  case h_5 hphase =>
    -- the read failed, or there is nothing to write back
    cases hok
    have hinitiated := hg.started (by simp [hphase])
    simp only [hphase, Drain, Clock] at hdrain hclock
    exact sound_finish hinitiated hdrain hclock
  case h_6 hphase =>
    cases hok
    have hinitiated := hg.started (by simp [hphase])
    simp only [hphase, Drain, Clock] at hdrain hclock
    exact sound_finish hinitiated hdrain hclock
  case h_7 =>
    split at hok
    · next harmed =>
      cases hok
      exact sound_timeout hg harmed
    · cases hok
  case h_8 => cases hok

theorem Raced.exits {g : GracefulShutdown Job} {timer : Timer} {exits : List Nat}
    (h : g.Raced timer exits) (htimer : timer ≠ .fired) :
    g.forceExitTimer ≠ .fired ∧ g.exits = exits ∨ g.exits = [1] := by
  rcases h with ⟨-, rfl, hexits⟩ | ⟨-, -, hexits⟩
  · exact .inl ⟨htimer, hexits⟩
  · exact .inr hexits

/-- No exit yet, the exit of the timer, or the exit at the end of `shutdown`. -/
theorem Sound.exits {g : GracefulShutdown Job} (hg : g.Sound) :
    g.forceExitTimer ≠ .fired ∧ g.exits = [] ∨ g.exits = [1] ∨
      g.phase = .finished ∧ g.forceExitTimer ≠ .fired ∧ g.exits = [0] := by
  have hclock := hg.clock
  cases hphase : g.phase with
  | idle =>
    simp only [hphase, Clock] at hclock
    exact .inl ⟨by simp [hclock.2.1], hclock.2.2⟩
  | finished =>
    simp only [hphase, Clock] at hclock
    rcases hclock.exits (by decide) with hexit | hforced
    · exact .inr (.inr ⟨rfl, hexit⟩)
    · exact .inr (.inl hforced)
  | _ =>
    simp only [hphase, Clock] at hclock
    rcases hclock.exits (by decide) with hexit | hforced
    · exact .inl hexit
    · exact .inr (.inl hforced)

end GracefulShutdown
end TikkaRaffle.Oracle
