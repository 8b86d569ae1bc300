import Mathlib.Data.List.Perm.Basic
import TikkaRaffle.Oracle.Pipeline

/-! What a step of the pipeline does to the jobs: where they wait, which are being
processed, and what has been claimed and submitted. -/
namespace TikkaRaffle.Oracle

open TikkaRaffle.Lib Function

theorem perm_first_last {α : Type} (xs ys zs : List α) :
    (xs ++ (ys ++ zs)).Perm (ys ++ (zs ++ xs)) := by
  rw [← List.append_assoc ys]
  exact List.perm_append_comm

def Worker.rest : Worker → List RandomnessJob
  | .busy rest => rest
  | _ => []

@[simp] theorem Worker.rest_busy (rest : List RandomnessJob) : (Worker.busy rest).rest = rest := rfl

@[simp] theorem Worker.rest_unstarted : Worker.unstarted.rest = [] := rfl

@[simp] theorem Worker.rest_waiting : Worker.waiting.rest = [] := rfl

@[simp] theorem Worker.rest_ended : Worker.ended.rest = [] := rfl

/-- The parts of the state that `processJob` reads and writes. -/
structure Claims where
  up : Bool
  store : DeduplicationStore
  run : Loop → Option Run
  called : List RandomnessJob
  invoked : List (Submission × RandomnessJob)
  submitted : List RandomnessJob

namespace System

def claims (s : System) : Claims :=
  ⟨s.memory.up, s.store, s.memory.run, s.called, s.invoked, s.submitted⟩

def waiting (s : System) : List RandomnessJob :=
  s.memory.queue.pending ++ s.memory.worker.rest ++ s.memory.shutdown.phase.rest

def Idle (s : System) (loop : Loop) : Prop :=
  ∀ r, s.memory.run loop = some r → r.active = false

def gaveUp (s : System) : Event → Option RandomnessJob
  | .checked _ (.ok _) true => none
  | .checked loop _ _ | .returned loop false => (s.memory.run loop).map (·.job)
  | _ => none

theorem processJob_cases (loop : Loop) (job : RandomnessJob) (s : System) :
    job.key ∈ s.store.seen ∧ (s.processJob loop job).claims = { s.claims with
        called := s.called ++ [job]
        run := update s.memory.run loop (some ⟨job, .settled .skipped⟩) } ∨
      job.key ∉ s.store.seen ∧ (s.processJob loop job).claims = { s.claims with
        called := s.called ++ [job]
        store := s.store.add job.key
        run := update s.memory.run loop (some ⟨job, .checking⟩) } := by
  by_cases hseen : job.key ∈ s.store.seen
  · have h := DeduplicationStore.isDuplicate_of_mem hseen
    exact .inl ⟨hseen, by simp [claims, processJob, setRun, h]⟩
  · have h := DeduplicationStore.isDuplicate_of_notMem hseen
    exact .inr ⟨hseen, by simp [claims, processJob, setRun, h, RandomnessJob.key]⟩

/-- A call of `processJob` is where its loop awaits it, and a process that is down has
no memory. -/
structure Placed (m : Memory) : Prop where
  down : m.up = false → m = {}
  fresh : m.listener = .initializing → m.worker = .unstarted
  worker : m.run .processQueue = none ∨ ∃ rest, m.worker = .busy rest
  drain : m.run .drainQueue = none ∨ ∃ job rest, m.shutdown.phase = .draining job rest
  sound : m.shutdown.Sound

theorem placed_init : Placed {} :=
  ⟨fun _ => rfl, fun _ => rfl, .inl rfl, .inl rfl, GracefulShutdown.sound_init⟩

/-- Where the jobs are depends on the loops and the shutdown alone. -/
theorem Placed.frame {m m' : Memory} (hm : Placed m) (hup : m'.up = true)
    (hlistener : m'.listener = .initializing → m'.worker = .unstarted)
    (hrun : m'.run = m.run) (hworker : m'.worker = m.worker)
    (hphase : ∀ job rest, m.shutdown.phase = .draining job rest →
      m'.shutdown.phase = .draining job rest)
    (hsound : m'.shutdown.Sound) : Placed m' := by
  refine ⟨by simp [hup], hlistener, ?_, ?_, hsound⟩
  · rw [hrun, hworker]
    exact hm.worker
  · rw [hrun]
    rcases hm.drain with hnone | ⟨job, rest, hdraining⟩
    · exact .inl hnone
    · exact .inr ⟨job, rest, hphase job rest hdraining⟩

theorem Placed.up_of_listener {m : Memory} (hm : Placed m) (h : m.listener ≠ .initializing) :
    m.up = true := by
  by_contra hdown
  rw [hm.down (by simpa using hdown)] at h
  exact h rfl

theorem Placed.up_of_run {m : Memory} (hm : Placed m) {loop : Loop} {r : Run}
    (h : m.run loop = some r) : m.up = true := by
  by_contra hdown
  rw [hm.down (by simpa using hdown)] at h
  cases h

/-- `processQueue` has jobs only once the listener is initialized. -/
theorem Placed.listener_of_run {m : Memory} (hm : Placed m) {r : Run}
    (h : m.run .processQueue = some r) : m.listener ≠ .initializing := by
  intro hlistener
  simpa [h, hm.fresh hlistener] using hm.worker

theorem Placed.rerun {m : Memory} (hm : Placed m) {loop : Loop} {r : Run}
    (hrun : m.run loop = some r) (next : Option Run) :
    Placed { m with run := update m.run loop next } := by
  have hup := hm.up_of_run hrun
  refine ⟨by simp [hup], hm.fresh, ?_, ?_, hm.sound⟩
  · cases loop with
    | processQueue =>
      have hworker := hm.worker
      simp only [hrun, reduceCtorEq, false_or] at hworker
      exact .inr hworker
    | drainQueue => simpa using hm.worker
  · cases loop with
    | processQueue => simpa using hm.drain
    | drainQueue =>
      have hdrain := hm.drain
      simp only [hrun, reduceCtorEq, false_or] at hdrain
      exact .inr hdrain

theorem placed_booted : Placed { up := true } :=
  ⟨by simp, fun _ => rfl, .inl rfl, .inl rfl, GracefulShutdown.sound_init⟩

/-- The event neither ends a call in an exception nor stops the process. -/
def Quiet (s : System) (event : Event) : Prop :=
  s.gaveUp event = none ∧ event ≠ .stopped

inductive JobStep (s : System) (event : Event) (s' : System) : Prop
  /-- A loop that awaits nothing calls `processJob`. -/
  | begun (loop : Loop) (job : RandomnessJob) (hidle : s.Idle loop) (hquiet : s.Quiet event)
      (hclaims : s'.claims = (s.processJob loop job).claims)
      (hwaiting : s.waiting.Perm (job :: s'.waiting))
  /-- A submission is sent. -/
  | sent (loop : Loop) (job : RandomnessJob) (method : Submission) (hquiet : s.Quiet event)
      (hrun : s.memory.run loop = some ⟨job, .checking⟩)
      (hclaims : s'.claims = { s.claims with
        run := update s.memory.run loop (some ⟨job, .submitting method⟩)
        invoked := s.invoked ++ [(method, job)] })
      (hwaiting : s'.waiting = s.waiting)
  | failed (loop : Loop) (r : Run) (hrun : s.memory.run loop = some r) (hactive : r.active = true)
      (hevent : s.gaveUp event = some r.job) (hgoes : event ≠ .stopped)
      (hclaims : s'.claims = { s.claims with
        run := update s.memory.run loop (some ⟨r.job, .settled .failed⟩) })
      (hwaiting : s'.waiting = s.waiting)
  | submitted (loop : Loop) (job : RandomnessJob) (method : Submission) (hquiet : s.Quiet event)
      (hrun : s.memory.run loop = some ⟨job, .submitting method⟩)
      (hclaims : s'.claims = { s.claims with
        run := update s.memory.run loop (some ⟨job, .settled .processed⟩)
        submitted := s.submitted ++ [job]
        store := (s.store.isDuplicate job.requestId job.raffleContract).2 })
      (hwaiting : s'.waiting = s.waiting)
  /-- A loop goes on without a job. -/
  | cleared (loop : Loop) (hidle : s.Idle loop) (hquiet : s.Quiet event)
      (hclaims : s'.claims = { s.claims with run := update s.memory.run loop none })
      (hwaiting : s'.waiting.Perm s.waiting)
  | received (jobs : List RandomnessJob) (hquiet : s.Quiet event)
      (hclaims : s'.claims = s.claims) (hwaiting : s'.waiting.Perm (s.waiting ++ jobs))
  | booted (readable : Bool) (hevent : event = .boot readable) (hdown : s.memory = {})
      (hclaims : s'.claims = { s.claims with
        up := true, store := s.store.loadFromDisk readable })
      (hwaiting : s'.waiting = [])
  | stopped (hevent : event = .stopped)
      (hclaims : s'.claims = { s.claims with
        up := false, store := { s.store with seen := [] }, run := fun _ => none })
      (hwaiting : s'.waiting = [])
  | diskChanged (writable : Bool) (hevent : event = .diskChanged writable)
      (hclaims : s'.claims = { s.claims with store := { s.store with writable := writable } })
      (hwaiting : s'.waiting = s.waiting)

theorem JobStep.same {s s' : System} {event : Event} (hquiet : s.Quiet event)
    (hclaims : s'.claims = s.claims) (hwaiting : s'.waiting = s.waiting) : JobStep s event s' :=
  .received [] hquiet hclaims (by rw [hwaiting, List.append_nil])

theorem Placed.up_of_waiting {s : System} (hs : Placed s.memory) {job : RandomnessJob}
    (h : job ∈ s.waiting) : s.memory.up = true := by
  by_contra hdown
  rw [waiting, hs.down (by simpa using hdown)] at h
  simp [Phase.rest] at h

variable {s : System} {event : Event}

theorem processQueue_cases (s : System) :
    (s.processQueue = { s with memory.worker := .ended }) ∨
      (s.memory.queue.pending = [] ∧ s.processQueue = { s with
        memory.queue := s.memory.queue.drain.2, memory.worker := .waiting }) ∨
      ∃ job rest, s.memory.queue.pending = job :: rest ∧
        s.processQueue = processJob .processQueue job { s with
          memory.queue := s.memory.queue.drain.2, memory.worker := .busy rest } := by
  unfold processQueue
  split
  · cases hpending : s.memory.queue.pending with
    | nil => exact .inr (.inl ⟨rfl, by simp [RequestQueue.drain, hpending]⟩)
    | cons job rest =>
      exact .inr (.inr ⟨job, rest, rfl, by simp [RequestQueue.drain, hpending]⟩)
  · exact .inl rfl

theorem setRun_none {loop : Loop} (h : s.memory.run loop = none) : s.setRun loop none = s := by
  rw [setRun, ← h, update_eq_self]

theorem processJob_claims {t : System} (h : t.claims = s.claims) (loop : Loop)
    (job : RandomnessJob) : (t.processJob loop job).claims = (s.processJob loop job).claims := by
  simp only [claims, Claims.mk.injEq] at h
  simp [claims, processJob, setRun, h]

theorem processJob_setRun (loop : Loop) (r : Option Run) (job : RandomnessJob) (s : System) :
    (s.setRun loop r).processJob loop job = s.processJob loop job := by
  simp only [processJob, setRun, update_idem]
  rfl

theorem idle_of_settled {loop : Loop} {job : RandomnessJob} {outcome : Outcome}
    (h : s.memory.run loop = some ⟨job, .settled outcome⟩) : s.Idle loop := by
  intro r hr
  rw [h] at hr
  cases hr
  rfl

theorem processQueue_step {t t' : System} (hidle : s.Idle .processQueue) (hquiet : s.Quiet event)
    (hclaims : t.claims = (s.setRun .processQueue none).claims) (hwaiting : t.waiting = s.waiting)
    (hrest : t.memory.worker.rest = []) (hclaims' : t'.claims = t.processQueue.claims)
    (hwaiting' : t'.waiting = t.processQueue.waiting) : JobStep s event t' := by
  rcases processQueue_cases t with h | ⟨hpending, h⟩ | ⟨job, rest, hpending, h⟩
  · rw [h] at hclaims' hwaiting'
    refine .cleared .processQueue hidle hquiet (hclaims'.trans hclaims) ?_
    rw [hwaiting', ← hwaiting]
    simp [waiting, hrest]
  · rw [h] at hclaims' hwaiting'
    refine .cleared .processQueue hidle hquiet (hclaims'.trans hclaims) ?_
    rw [hwaiting', ← hwaiting]
    simp [waiting, hrest, hpending]
  · rw [h] at hclaims' hwaiting'
    refine .begun .processQueue job hidle hquiet ?_ ?_
    · rw [hclaims', ← processJob_setRun .processQueue none job s]
      exact processJob_claims hclaims ..
    · rw [hwaiting', ← hwaiting]
      simp [waiting, hrest, hpending, processJob, setRun]

theorem processQueue_listener (s : System) :
    { s.processQueue.memory with
      listening := s.memory.listening, listener := s.memory.listener } =
        s.processQueue.memory := by
  rcases processQueue_cases s with h | ⟨-, h⟩ | ⟨_, _, -, h⟩
  · rw [h]
  · rw [h]
  · rw [h]
    rfl

theorem placed_processQueue (hs : Placed s.memory) (hup : s.memory.up = true)
    (hidle : s.memory.run .processQueue = none) {listener : Listener}
    (hlistener : listener ≠ .initializing) (listening : Bool) :
    Placed { s.processQueue.memory with listening := listening, listener := listener } := by
  rcases processQueue_cases s with h | ⟨-, h⟩ | ⟨job, rest, -, h⟩
  · rw [h]
    exact ⟨by simp [hup], fun hl => absurd hl hlistener, .inl hidle, hs.drain, hs.sound⟩
  · rw [h]
    exact ⟨by simp [hup], fun hl => absurd hl hlistener, .inl hidle, hs.drain, hs.sound⟩
  · rw [h]
    refine ⟨by simp [processJob, setRun, hup], fun hl => absurd hl hlistener, .inr ⟨rest, rfl⟩, ?_,
      hs.sound⟩
    simpa [processJob, setRun] using hs.drain

theorem drainQueue_cases (s : System) :
    (∃ job rest, s.memory.shutdown.phase = .draining job rest ∧
      s.drainQueue = s.processJob .drainQueue job) ∨
      s.memory.shutdown.phase.rest = [] ∧ s.drainQueue = s.setRun .drainQueue none := by
  unfold drainQueue
  split
  · next job rest hphase => exact .inl ⟨job, rest, hphase, rfl⟩
  · next hphase =>
    refine .inr ⟨?_, rfl⟩
    cases h : s.memory.shutdown.phase with
    | draining job rest => exact absurd h (hphase job rest)
    | _ => rfl

theorem drainQueue_step {t : System} {jobs : List RandomnessJob}
    {g : GracefulShutdown RandomnessJob} (hidle : s.Idle .drainQueue) (hquiet : s.Quiet event)
    (hclaims : t.claims = s.claims) (hg : t.memory.shutdown = g.next jobs)
    (hwaiting : s.waiting.Perm (jobs ++ (t.memory.queue.pending ++ t.memory.worker.rest))) :
    JobStep s event t.drainQueue := by
  cases jobs with
  | nil =>
    have hphase : t.memory.shutdown.phase = .drained := by rw [hg, GracefulShutdown.next_nil_phase]
    have hdrain : t.drainQueue = t.setRun .drainQueue none := by simp [drainQueue, hphase]
    rw [hdrain]
    refine .cleared .drainQueue hidle hquiet ?_ ?_
    · simp only [claims, Claims.mk.injEq] at hclaims
      simp [claims, setRun, hclaims]
    · simpa [waiting, setRun, hphase, Phase.rest] using hwaiting.symm
  | cons job rest =>
    have hphase : t.memory.shutdown.phase = .draining job rest := by
      rw [hg, GracefulShutdown.next_cons_phase]
    have hdrain : t.drainQueue = t.processJob .drainQueue job := by simp [drainQueue, hphase]
    rw [hdrain]
    refine .begun .drainQueue job hidle hquiet (processJob_claims hclaims ..) ?_
    refine hwaiting.trans (.cons job ?_)
    simpa [waiting, processJob, setRun, hphase] using perm_first_last rest _ _

theorem placed_drainQueue {t : System} {g : GracefulShutdown RandomnessJob}
    {jobs : List RandomnessJob} (hup : t.memory.up = true)
    (hfresh : t.memory.listener = .initializing → t.memory.worker = .unstarted)
    (hworker : t.memory.run .processQueue = none ∨ ∃ rest, t.memory.worker = .busy rest)
    (hg : t.memory.shutdown = g.next jobs) (hsound : (g.next jobs).Sound) :
    Placed t.drainQueue.memory := by
  cases jobs with
  | nil =>
    have hphase : t.memory.shutdown.phase = .drained := by rw [hg, GracefulShutdown.next_nil_phase]
    have hdrain : t.drainQueue = t.setRun .drainQueue none := by simp [drainQueue, hphase]
    rw [hdrain]
    refine ⟨by simp [setRun, hup], hfresh, ?_, .inl (by simp [setRun]), ?_⟩
    · simpa [setRun] using hworker
    · rw [← hg] at hsound
      exact hsound
  | cons job rest =>
    have hphase : t.memory.shutdown.phase = .draining job rest := by
      rw [hg, GracefulShutdown.next_cons_phase]
    have hdrain : t.drainQueue = t.processJob .drainQueue job := by simp [drainQueue, hphase]
    rw [hdrain]
    refine ⟨by simp [processJob, setRun, hup], hfresh, ?_, .inr ⟨job, rest, hphase⟩, ?_⟩
    · simpa [processJob, setRun] using hworker
    · rw [← hg] at hsound
      exact hsound

theorem saveCheckpoint_eq (success : Bool) (ledger : Nat) (s : System) :
    s.saveCheckpoint success ledger =
      { s with checkpoint := if success then some ledger else s.checkpoint } := by
  cases success <;> rfl

theorem listener_step {m : Memory} {checkpoint : Option Nat} (hs : Placed s.memory)
    (hquiet : s.Quiet event) (hlistener : s.memory.listener ≠ .initializing)
    (hm : ∃ listener, m = { s.memory with listener := listener } ∧ listener ≠ .initializing) :
    JobStep s event { s with checkpoint := checkpoint, memory := m } ∧ Placed m := by
  obtain ⟨listener, rfl, hnext⟩ := hm
  refine ⟨.same hquiet rfl rfl, ?_⟩
  exact hs.frame (hs.up_of_listener hlistener) (fun h => absurd h hnext) rfl rfl
    (fun _ _ h => h) hs.sound

theorem shutdown_step {own : GracefulShutdown.Event RandomnessJob} {checkpoint : Option Nat}
    {s' : System} (hs : Placed s.memory) (hquiet : s.Quiet event)
    (hcall : ∀ queue, own ≠ .shutdown queue) (hsettle : ∀ outcome, own ≠ .settle outcome)
    (hok : stepShutdown own { s with checkpoint := checkpoint } = .ok s') :
    JobStep s event s' ∧ Placed s'.memory := by
  simp only [stepShutdown, except_bind_ok, except_pure_ok] at hok
  obtain ⟨g, hg, rfl⟩ := hok
  obtain ⟨hrest, hphase⟩ := GracefulShutdown.step_drain hg hcall hsettle
  refine ⟨.same hquiet rfl ?_, hs.frame ?_ hs.fresh rfl rfl hphase ?_⟩
  · simp [waiting, hrest]
  · show s.memory.up = true
    by_contra hdown
    rw [show s.memory.shutdown = {} by rw [hs.down (by simpa using hdown)]] at hg
    exact GracefulShutdown.not_step_init hcall hg
  · exact GracefulShutdown.sound_step hs.sound hg

theorem initialized_step {latest : Nat} (hs : Placed s.memory) (hup : s.memory.up = true)
    (hlistener : s.memory.listener = .initializing) :
    JobStep s (.initialized latest) (s.initialized latest) ∧
      Placed (s.initialized latest).memory := by
  have hworker := hs.fresh hlistener
  have hidle : s.memory.run .processQueue = none := by simpa [hworker] using hs.worker
  constructor
  · refine processQueue_step (by simp [Idle, hidle]) ⟨rfl, by simp⟩ ?_ ?_ ?_ rfl rfl
    · rw [setRun_none hidle]
      rfl
    · rfl
    · simp [started, hworker]
  · refine placed_processQueue (s := s.started latest) ?_ hup hidle (by simp) true
    exact hs.frame hup hs.fresh rfl rfl (fun _ _ h => h) hs.sound

theorem woken_step (hs : Placed s.memory) (hworker : s.memory.worker = .waiting) :
    JobStep s .woken s.processQueue ∧ Placed s.processQueue.memory := by
  have hidle : s.memory.run .processQueue = none := by simpa [hworker] using hs.worker
  have hlistener : s.memory.listener ≠ .initializing := fun h => by
    simpa [hworker] using hs.fresh h
  constructor
  · refine processQueue_step (by simp [Idle, hidle]) ⟨rfl, by simp⟩ ?_ rfl ?_ rfl rfl
    · rw [setRun_none hidle]
    · simp [hworker]
  · rw [← processQueue_listener]
    exact placed_processQueue hs (hs.up_of_listener hlistener) hidle hlistener _

theorem checked_step {loop : Loop} {reply : Except Unit Bool} {prepared : Bool} {s' : System}
    (hs : Placed s.memory) (hok : s.checked loop reply prepared = .ok s') :
    JobStep s (.checked loop reply prepared) s' ∧ Placed s'.memory := by
  unfold checked at hok
  split at hok
  · next job hrun =>
    split at hok
    · next isParticipant =>
      cases hok
      exact ⟨.sent loop job _ ⟨rfl, by simp⟩ hrun rfl rfl, hs.rerun hrun _⟩
    · next hfail =>
      cases hok
      refine ⟨.failed loop _ hrun rfl ?_ (by simp) rfl rfl, hs.rerun hrun _⟩
      rcases reply with _ | isParticipant
      · cases prepared <;> simp [gaveUp, hrun]
      · cases prepared with
        | false => simp [gaveUp, hrun]
        | true => exact absurd rfl (hfail isParticipant rfl)
  · cases hok

theorem returned_step {loop : Loop} {success : Bool} {s' : System} (hs : Placed s.memory)
    (hok : s.returned loop success = .ok s') :
    JobStep s (.returned loop success) s' ∧ Placed s'.memory := by
  unfold returned at hok
  split at hok
  · next job method hrun =>
    split at hok
    · next hsuccess =>
      cases hok
      subst hsuccess
      exact ⟨.submitted loop job method ⟨rfl, by simp⟩ hrun rfl rfl, hs.rerun hrun _⟩
    · next hfail =>
      cases hok
      refine ⟨.failed loop _ hrun rfl ?_ (by simp) rfl rfl, hs.rerun hrun _⟩
      simp [gaveUp, hfail, hrun]
  · cases hok

theorem worker_step {job : RandomnessJob} {outcome : Outcome} {s' : System}
    (hs : Placed s.memory) (hrun : s.memory.run .processQueue = some ⟨job, .settled outcome⟩)
    (hok : s.resumed .processQueue = .ok s') :
    JobStep s (.resumed .processQueue) s' ∧ Placed s'.memory := by
  have hup := hs.up_of_run hrun
  have hlistener := hs.listener_of_run hrun
  simp only [resumed, hrun] at hok
  split at hok
  · next job' rest hworker =>
    cases hok
    refine ⟨.begun .processQueue job' (idle_of_settled hrun) ⟨rfl, by simp⟩ ?_ ?_, ?_⟩
    · exact processJob_claims rfl ..
    · simp [waiting, hworker, processJob, setRun]
    · refine ⟨by simp [processJob, setRun, hup], fun h => absurd h hlistener,
        .inr ⟨rest, rfl⟩, ?_, hs.sound⟩
      simpa [processJob, setRun] using hs.drain
  · next hworker =>
    cases hok
    constructor
    · exact processQueue_step (idle_of_settled hrun) ⟨rfl, by simp⟩ rfl rfl
        (by simp [setRun, hworker]) rfl rfl
    · rw [← processQueue_listener]
      exact placed_processQueue (s := s.setRun .processQueue none) (hs.rerun hrun none) hup
        (by simp [setRun]) hlistener _
  · cases hok

theorem drain_step {job : RandomnessJob} {outcome : Outcome} {s' : System}
    (hs : Placed s.memory) (hrun : s.memory.run .drainQueue = some ⟨job, .settled outcome⟩)
    (hok : s.resumed .drainQueue = .ok s') :
    JobStep s (.resumed .drainQueue) s' ∧ Placed s'.memory := by
  simp only [resumed, hrun, except_map_ok, stepShutdown, except_bind_ok, except_pure_ok] at hok
  obtain ⟨t, ⟨g, hg, rfl⟩, rfl⟩ := hok
  have hsound := GracefulShutdown.sound_step hs.sound hg
  obtain ⟨job', rest, hphase, rfl⟩ := GracefulShutdown.step_settle hg
  refine ⟨drainQueue_step (idle_of_settled hrun) ⟨rfl, by simp⟩ rfl rfl ?_,
    placed_drainQueue (hs.up_of_run hrun) hs.fresh hs.worker rfl hsound⟩
  simpa [waiting, hphase] using (perm_first_last rest _ _).symm

theorem resumed_step {loop : Loop} {s' : System} (hs : Placed s.memory)
    (hok : s.resumed loop = .ok s') : JobStep s (.resumed loop) s' ∧ Placed s'.memory := by
  cases hrun : s.memory.run loop with
  | none => cases loop <;> simp [resumed, hrun] at hok
  | some r =>
    obtain ⟨job, stage⟩ := r
    cases stage with
    | settled outcome =>
      cases loop with
      | processQueue => exact worker_step hs hrun hok
      | drainQueue => exact drain_step hs hrun hok
    | _ => cases loop <;> simp [resumed, hrun] at hok

/-- Only the first call of `shutdown` takes the queue. -/
theorem beginShutdown_step {running : Bool} (hs : Placed s.memory) (hup : s.memory.up = true)
    (hquiet : s.Quiet event) :
    JobStep s event (beginShutdown { s with memory.running := running }) ∧
      Placed (beginShutdown { s with memory.running := running }).memory := by
  unfold beginShutdown
  split
  · next hinitiated =>
    exact ⟨.same hquiet rfl rfl, hs.frame hup hs.fresh rfl rfl (fun _ _ h => h) hs.sound⟩
  · next hnot =>
    have hidle : s.memory.shutdown.phase = .idle :=
      hs.sound.initiated.mp (by simpa using hnot)
    have hrun : s.memory.run .drainQueue = none := by simpa [hidle] using hs.drain
    have hfirst : s.memory.shutdown.shutdown s.memory.queue.pending = GracefulShutdown.next _ _ :=
      if_neg hnot
    have hsound := GracefulShutdown.sound_shutdown hs.sound s.memory.queue.pending
    rw [hfirst] at hsound
    refine ⟨drainQueue_step (by simp [Idle, hrun]) hquiet rfl hfirst ?_,
      placed_drainQueue hup hs.fresh hs.worker hfirst hsound⟩
    simp [waiting, hidle, Phase.rest]

theorem step_jobs {oracle : String} {s' : System} (hs : Placed s.memory)
    (hok : s.step oracle event = .ok s') : JobStep s event s' ∧ Placed s'.memory := by
  cases event with
  | boot readable =>
    simp only [step, except_bind_ok, check_ok, except_pure_ok] at hok
    obtain ⟨-, hdown, rfl⟩ := hok
    refine ⟨.booted readable rfl (hs.down hdown) ?_ rfl, placed_booted⟩
    simp [claims, hs.down hdown]
  | initialized latest =>
    simp only [step, except_bind_ok, check_ok, except_pure_ok] at hok
    obtain ⟨-, ⟨hup, hlistener⟩, rfl⟩ := hok
    exact initialized_step hs hup hlistener
  | polled now events latestLedger =>
    simp only [step, except_bind_ok, check_ok, except_pure_ok] at hok
    obtain ⟨-, hlistener, rfl⟩ := hok
    have hne : s.memory.listener ≠ .initializing := by simp [hlistener]
    refine ⟨.received ((events.filter (·.oracle = oracle)).map (·.job)) ⟨rfl, by simp⟩ rfl ?_, ?_⟩
    · simp only [waiting, polled, RequestQueue.pending_enqueueAll, List.append_assoc]
      exact (perm_first_last ..).append_left _
    · exact hs.frame (hs.up_of_listener hne) (by simp [polled]) rfl rfl (fun _ _ h => h) hs.sound
  | pollFailed =>
    simp only [step, except_bind_ok, check_ok, except_pure_ok] at hok
    obtain ⟨-, hlistener, rfl⟩ := hok
    exact listener_step hs ⟨rfl, by simp⟩ (by simp [hlistener]) ⟨.sleeping, rfl, by simp⟩
  | checkpointSaved success =>
    simp only [step] at hok
    split at hok
    · next ledger hlistener =>
      rw [except_pure_ok] at hok
      subst hok
      rw [saveCheckpoint_eq]
      refine listener_step hs ⟨rfl, by simp⟩ (by simp [hlistener]) ⟨_, rfl, ?_⟩
      split <;> simp
    · cases hok
  | slept =>
    simp only [step, except_bind_ok, check_ok, except_pure_ok] at hok
    obtain ⟨-, hlistener, rfl⟩ := hok
    refine listener_step hs ⟨rfl, by simp⟩ (by simp [hlistener]) ⟨_, rfl, ?_⟩
    split <;> simp
  | woken =>
    simp only [step, except_bind_ok, check_ok, except_pure_ok] at hok
    obtain ⟨-, hworker, rfl⟩ := hok
    exact woken_step hs hworker
  | checked loop reply prepared => exact checked_step hs hok
  | returned loop success => exact returned_step hs hok
  | resumed loop => exact resumed_step hs hok
  | shutdown viaPipeline =>
    simp only [step, except_bind_ok, check_ok, except_pure_ok] at hok
    obtain ⟨-, ⟨hup, -⟩, rfl⟩ := hok
    exact beginShutdown_step hs hup ⟨rfl, by simp⟩
  | leaveDrain => exact shutdown_step hs ⟨rfl, by simp⟩ (by simp) (by simp) hok
  | checkpointLoaded success => exact shutdown_step hs ⟨rfl, by simp⟩ (by simp) (by simp) hok
  | checkpointRestored success =>
    simp only [step] at hok
    split at hok
    · next ledger hphase =>
      rw [saveCheckpoint_eq] at hok
      exact shutdown_step hs ⟨rfl, by simp⟩ (by simp) (by simp) hok
    · cases hok
  | forceExit => exact shutdown_step hs ⟨rfl, by simp⟩ (by simp) (by simp) hok
  | stopped =>
    simp only [step, except_bind_ok, check_ok, except_pure_ok] at hok
    obtain ⟨-, -, rfl⟩ := hok
    exact ⟨.stopped rfl rfl rfl, placed_init⟩
  | diskChanged writable =>
    simp only [step, except_pure_ok] at hok
    subst hok
    exact ⟨.diskChanged writable rfl rfl rfl, hs⟩

end System
end TikkaRaffle.Oracle
