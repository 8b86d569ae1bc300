import Mathlib.Logic.Function.Basic
import TikkaRaffle.Oracle.Deduplication
import TikkaRaffle.Oracle.Shutdown

/-! The oracle process, from one start to the next. A step is a stretch of code
between two awaits, of the listener, of `processQueue`, of a call of `processJob` or
of the shutdown; the process may stop before any of them, and only files survive. -/
namespace TikkaRaffle.Oracle

open TikkaRaffle.Lib Function

structure ParsedRandomnessRequest where
  oracle : String
  requestId : Nat
  timestamp : Nat
  raffleContract : String
  deriving DecidableEq, Repr

def ParsedRandomnessRequest.job (request : ParsedRandomnessRequest) : RandomnessJob :=
  ⟨request.requestId, request.raffleContract, request.timestamp⟩

inductive Loop where
  | processQueue | drainQueue
  deriving DecidableEq, Repr

inductive Submission where
  | provideRandomness | provideQuorumRandomness
  deriving DecidableEq, Repr

/-- The `await` at which a call of `processJob` stands, or how it ended. -/
inductive Stage where
  | checking
  | submitting (method : Submission)
  | settled (outcome : Outcome)
  deriving DecidableEq, Repr

structure Run where
  job : RandomnessJob
  stage : Stage
  deriving DecidableEq, Repr

def Run.active (r : Run) : Bool :=
  match r.stage with
  | .settled _ => false
  | _ => true

/-- Where `processQueue` stands: at the timer, or at a job with the rest of its
batch in a local variable. -/
inductive Worker where
  | unstarted
  | waiting
  | busy (rest : List RandomnessJob)
  | ended
  deriving DecidableEq, Repr

inductive Listener where
  | initializing
  | polling
  | saving (ledger : Nat)
  | sleeping
  | stopped
  deriving DecidableEq, Repr

structure Memory where
  up : Bool := false
  /-- Whether the listener is known to the shutdown. -/
  registered : Bool := false
  running : Bool := false
  queue : RequestQueue := {}
  worker : Worker := .unstarted
  run : Loop → Option Run := fun _ => none
  shutdown : GracefulShutdown RandomnessJob := {}
  listener : Listener := .initializing
  listening : Bool := false
  startLedger : Nat := 1

/-- Files and memory, with a record of the jobs that were called and submitted. -/
structure System where
  store : DeduplicationStore := {}
  /-- The file of the ledger checkpoint. -/
  checkpoint : Option Nat := none
  /-- A file of dead letters. The queue of the pipeline keeps its own in memory, and
  no step writes here. -/
  deadLetters : List RandomnessJob := []
  memory : Memory := {}
  /-- The calls of `processJob`. -/
  called : List RandomnessJob := []
  /-- The calls of the two submission methods. -/
  invoked : List (Submission × RandomnessJob) := []
  /-- The submissions that have returned. -/
  submitted : List RandomnessJob := []

namespace System

def setRun (loop : Loop) (r : Option Run) (s : System) : System :=
  { s with memory.run := update s.memory.run loop r }

/-- `processJob` as far as its first `await`. -/
def processJob (loop : Loop) (job : RandomnessJob) (s : System) : System :=
  let (duplicate, store) := s.store.isDuplicate job.requestId job.raffleContract
  setRun loop (some ⟨job, if duplicate then .settled .skipped else .checking⟩)
    { s with store := store, called := s.called ++ [job] }

/-- The reply to `checkQuorumParticipation`; `prepared` says whether the seed could be
drawn or the proof signed. -/
def checked (loop : Loop) (reply : Except Unit Bool) (prepared : Bool) (s : System) :
    Except Unit System :=
  match s.memory.run loop with
  | some ⟨job, .checking⟩ =>
      match reply, prepared with
      | .ok isParticipant, true =>
          let method :=
            if isParticipant then .provideQuorumRandomness else .provideRandomness
          .ok (setRun loop (some ⟨job, .submitting method⟩)
            { s with invoked := s.invoked ++ [(method, job)] })
      | _, _ => .ok (s.setRun loop (some ⟨job, .settled .failed⟩))
  | _ => .error ()

def returned (loop : Loop) (success : Bool) (s : System) : Except Unit System :=
  match s.memory.run loop with
  | some ⟨job, .submitting _⟩ =>
      if success then
        .ok (setRun loop (some ⟨job, .settled .processed⟩)
          { s with
            submitted := s.submitted ++ [job]
            store := (s.store.isDuplicate job.requestId job.raffleContract).2 })
      else .ok (s.setRun loop (some ⟨job, .settled .failed⟩))
  | _ => .error ()

/-- The head of the loop of `processQueue`. -/
def processQueue (s : System) : System :=
  if s.memory.running then
    let (jobs, queue) := s.memory.queue.drain
    match jobs with
    | [] => { s with memory.queue := queue, memory.worker := .waiting }
    | job :: rest =>
        processJob .processQueue job
          { s with memory.queue := queue, memory.worker := .busy rest }
  else { s with memory.worker := .ended }

/-- The shutdown takes a step; at the head of its drain loop it calls `processJob`. -/
def stepShutdown (event : GracefulShutdown.Event RandomnessJob) (s : System) :
    Except Unit System := do
  let g ← GracefulShutdown.step event s.memory.shutdown
  return { s with memory.shutdown := g }

def drainQueue (s : System) : System :=
  match s.memory.shutdown.phase with
  | .draining job _ => s.processJob .drainQueue job
  | _ => s.setRun .drainQueue none

def resumed (loop : Loop) (s : System) : Except Unit System :=
  match loop, s.memory.run loop with
  | .processQueue, some ⟨_, .settled _⟩ =>
      match s.memory.worker with
      | .busy (job :: rest) =>
          .ok (processJob .processQueue job { s with memory.worker := .busy rest })
      | .busy [] => .ok (s.setRun .processQueue none).processQueue
      | _ => .error ()
  | .drainQueue, some ⟨_, .settled outcome⟩ => drainQueue <$> s.stepShutdown (.settle outcome)
  | _, _ => .error ()

/-- `GracefulShutdown.shutdown`, called by the pipeline or by a signal handler. -/
def beginShutdown (s : System) : System :=
  if s.memory.shutdown.shutdownInitiated then s
  else
    let (jobs, queue) := s.memory.queue.drain
    drainQueue { s with
      memory.listening := if s.memory.registered then false else s.memory.listening
      memory.queue := queue
      memory.shutdown := s.memory.shutdown.shutdown jobs }

/-- `start` up to the call of `processQueue`: the listener is initialized from the
checkpoint, or from the latest ledger, and registered. -/
def started (latest : Nat) (s : System) : System :=
  { s with
    memory.startLedger :=
      match s.checkpoint with
      | some saved => saved + 1
      | none => latest
    memory.registered := true
    memory.running := true }

/-- The end of `start`: `processQueue` runs to its first `await`, and the first poll
is sent. -/
def initialized (latest : Nat) (s : System) : System :=
  let s := (s.started latest).processQueue
  { s with memory.listening := true, memory.listener := .polling }

def polled (oracleAddress : String) (now : Nat) (events : List ParsedRandomnessRequest)
    (latestLedger : Nat) (s : System) : System :=
  let jobs := (events.filter (·.oracle = oracleAddress)).map (·.job)
  { s with
    memory.queue := jobs.foldl (fun q job => q.enqueue job now) s.memory.queue
    memory.startLedger := latestLedger + 1
    memory.listener := .saving latestLedger }

def saveCheckpoint (success : Bool) (ledger : Nat) (s : System) : System :=
  if success then { s with checkpoint := some ledger } else s

end System

inductive Event where
  /-- A process is started; its constructor reads the file of the seen keys. -/
  | boot (readable : Bool)
  | initialized (latest : Nat)
  | polled (now : Nat) (events : List ParsedRandomnessRequest) (latestLedger : Nat)
  | pollFailed
  | checkpointSaved (success : Bool)
  | slept
  /-- The timer of `processQueue` on an empty queue. -/
  | woken
  | checked (loop : Loop) (reply : Except Unit Bool) (prepared : Bool)
  | returned (loop : Loop) (success : Bool)
  | resumed (loop : Loop)
  /-- `pipeline.shutdown`, or the handler that `register` has installed. -/
  | shutdown (viaPipeline : Bool)
  | leaveDrain
  | checkpointLoaded (success : Bool)
  | checkpointRestored (success : Bool)
  | forceExit
  /-- The process ends, by an exit or by a crash. -/
  | stopped
  | diskChanged (writable : Bool)

namespace System

/-- A step that its state does not allow fails. -/
def step (oracleAddress : String) (event : Event) (s : System) : Except Unit System := do
  match event with
  | .boot readable =>
      check (s.memory.up = false) ()
      return { s with store := s.store.loadFromDisk readable, memory := { up := true } }
  | .initialized latest =>
      check (s.memory.up = true ∧ s.memory.listener = .initializing) ()
      return s.initialized latest
  | .polled now events latestLedger =>
      check (s.memory.listener = .polling) ()
      return s.polled oracleAddress now events latestLedger
  | .pollFailed =>
      check (s.memory.listener = .polling) ()
      return { s with memory.listener := .sleeping }
  | .checkpointSaved success =>
      match s.memory.listener with
      | .saving ledger =>
          return { s.saveCheckpoint success ledger with
            memory.listener := if success then .sleeping else .stopped }
      | _ => .error ()
  | .slept =>
      check (s.memory.listener = .sleeping) ()
      return { s with memory.listener := if s.memory.listening then .polling else .stopped }
  | .woken =>
      check (s.memory.worker = .waiting) ()
      return s.processQueue
  | .checked loop reply prepared => s.checked loop reply prepared
  | .returned loop success => s.returned loop success
  | .resumed loop => s.resumed loop
  | .shutdown viaPipeline =>
      check (s.memory.up = true ∧ (viaPipeline = true ∨ s.memory.registered = true)) ()
      return beginShutdown
        { s with memory.running := s.memory.running && !viaPipeline }
  | .leaveDrain => s.stepShutdown .leaveDrain
  | .checkpointLoaded success =>
      s.stepShutdown (.loaded (if success then .ok s.checkpoint else .error ()))
  | .checkpointRestored success =>
      match s.memory.shutdown.phase with
      | .saving ledger => (s.saveCheckpoint success ledger).stepShutdown (.saved success)
      | _ => .error ()
  | .forceExit => s.stepShutdown .timeout
  | .stopped =>
      check (s.memory.up = true) ()
      return { s with store.seen := [], memory := {} }
  | .diskChanged writable => return { s with store.writable := writable }

end System

def pipeline (oracleAddress : String) : Machine System Event Unit := ⟨System.step oracleAddress⟩

end TikkaRaffle.Oracle
