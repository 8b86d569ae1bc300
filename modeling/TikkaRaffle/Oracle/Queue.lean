import Mathlib.Data.Nat.Notation

/-! The queue between the event listener and the loops that process its jobs. -/
namespace TikkaRaffle.Oracle

structure RandomnessJob where
  requestId : Nat
  raffleContract : String
  timestamp : Nat
  deriving DecidableEq, Repr

structure TrackedJob where
  job : RandomnessJob
  attemptCount : Nat
  firstEnqueuedAtMs : Nat
  deriving DecidableEq, Repr

structure RequestQueue where
  jobs : List TrackedJob := []
  deriving DecidableEq, Repr

namespace RequestQueue

def enqueue (job : RandomnessJob) (now : Nat) (q : RequestQueue) : RequestQueue :=
  { q with jobs := q.jobs ++ [⟨job, 0, now⟩] }

def pending (q : RequestQueue) : List RandomnessJob :=
  q.jobs.map (·.job)

def drain (q : RequestQueue) : List RandomnessJob × RequestQueue :=
  (q.pending, { q with jobs := [] })

@[simp] theorem pending_enqueue (job : RandomnessJob) (now : Nat) (q : RequestQueue) :
    (q.enqueue job now).pending = q.pending ++ [job] := by
  simp [enqueue, pending]

@[simp] theorem drain_fst (q : RequestQueue) : q.drain.1 = q.pending := rfl

@[simp] theorem drain_pending (q : RequestQueue) : q.drain.2.pending = [] := rfl

@[simp] theorem pending_empty : ({} : RequestQueue).pending = [] := rfl

theorem pending_enqueueAll (jobs : List RandomnessJob) (now : Nat) (q : RequestQueue) :
    (jobs.foldl (fun q job => q.enqueue job now) q).pending = q.pending ++ jobs := by
  induction jobs generalizing q with
  | nil => simp
  | cons job rest ih => rw [List.foldl_cons, ih, pending_enqueue, List.append_assoc,
      List.singleton_append]

end RequestQueue
end TikkaRaffle.Oracle
