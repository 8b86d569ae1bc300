import TikkaRaffle.Lib.Transactional
import TikkaRaffle.Oracle.FatalErrors
import TikkaRaffle.Oracle.Queue

/-! Failures of queued jobs: retries, dead letters and the health limits. -/
namespace TikkaRaffle.Oracle

open TikkaRaffle.Lib

inductive DeadLetterReason where
  | fatal | retryExhausted | queueAge | queueDepth
  deriving DecidableEq, Repr

structure DeadLetterEntry where
  job : RandomnessJob
  error : String
  attemptCount : Nat
  firstEnqueuedAtMs : Nat
  deadLetteredAtMs : Int
  reason : DeadLetterReason
  deriving DecidableEq, Repr

def DeadLetterEntry.tracked (entry : DeadLetterEntry) : TrackedJob :=
  ⟨entry.job, entry.attemptCount, entry.firstEnqueuedAtMs⟩

inductive AlertDetails where
  | queueDepth (depth : Nat) (limit : Int)
  | queueAge (ageMs limit : Int)
  | deadLetter (entry : DeadLetterEntry)
  deriving DecidableEq, Repr

inductive AlertSeverity where
  | warning | critical
  deriving DecidableEq, Repr

structure Alert where
  severity : AlertSeverity
  bypassRateLimit : Bool := false
  message : String
  details : AlertDetails
  deriving DecidableEq, Repr

structure RequestQueueOptions where
  /-- Whether an alerter is configured. -/
  alerter : Bool := false
  depthLimit : Int := 10
  ageLimitMs : Int := 300000
  maxAttempts : Int := 5
  deriving DecidableEq, Repr

structure MonitoredQueue where
  queue : RequestQueue := {}
  deadLetterStore : List DeadLetterEntry := []
  alerts : List Alert := []
  deriving DecidableEq, Repr

inductive FailureOutcome where
  | retry | deadLettered
  deriving DecidableEq, Repr

def TrackedJob.hasKey (raffleContract : String) (requestId : Nat) (tracked : TrackedJob) : Bool :=
  tracked.job.raffleContract = raffleContract && tracked.job.requestId = requestId

def TrackedJob.ageMs (now : Int) (tracked : TrackedJob) : Int :=
  now - tracked.firstEnqueuedAtMs

def DeadLetterReason.text : DeadLetterReason → String
  | .fatal => "fatal"
  | .retryExhausted => "retry_exhausted"
  | .queueAge => "queue_age"
  | .queueDepth => "queue_depth"

def depthAlert (depth : Nat) (limit : Int) : Alert where
  severity := .warning
  message := "Request queue depth (" ++ toString depth ++ ") exceeds limit (" ++ toString limit ++
    ")"
  details := .queueDepth depth limit

def ageAlert (ageMs limit : Int) : Alert where
  severity := .warning
  message := "Oldest queued request is " ++ toString ageMs ++ "ms old (limit " ++ toString limit ++
    "ms)"
  details := .queueAge ageMs limit

def deadLetterAlert (entry : DeadLetterEntry) : Alert where
  severity := .critical
  bypassRateLimit := true
  message := "Randomness request dead-lettered (" ++ entry.reason.text ++ "): raffle=" ++
    entry.job.raffleContract ++ " requestId=" ++ toString entry.job.requestId
  details := .deadLetter entry

namespace MonitoredQueue

variable (o : RequestQueueOptions)

def depthError (depth : Nat) : String :=
  "Queue depth (" ++ toString depth ++ ") exceeded limit (" ++ toString o.depthLimit ++ ")"

def ageError (ageMs : Int) : String :=
  "Request age (" ++ toString ageMs ++ "ms) exceeded limit (" ++ toString o.ageLimitMs ++ "ms)"

def enqueue (job : RandomnessJob) (now : Nat) (s : MonitoredQueue) : MonitoredQueue :=
  { s with queue := s.queue.enqueue job now }

def drain (s : MonitoredQueue) : List RandomnessJob × MonitoredQueue :=
  (s.queue.drain.1, { s with queue := s.queue.drain.2 })

def size (s : MonitoredQueue) : Nat := s.queue.jobs.length

def oldestAgeMs (now : Int) (s : MonitoredQueue) : Option Int :=
  s.queue.jobs.head?.map (TrackedJob.ageMs now)

def deadLetter (tracked : TrackedJob) (error : String) (reason : DeadLetterReason) (now : Int)
    (s : MonitoredQueue) : MonitoredQueue :=
  let entry : DeadLetterEntry :=
    ⟨tracked.job, error, tracked.attemptCount, tracked.firstEnqueuedAtMs, now, reason⟩
  { s with
    deadLetterStore := s.deadLetterStore ++ [entry]
    alerts := if o.alerter then s.alerts ++ [deadLetterAlert entry] else s.alerts }

def recordFailure (raffleContract : String) (requestId : Nat) (error : String) (now : Int)
    (s : MonitoredQueue) : FailureOutcome × MonitoredQueue :=
  match s.queue.jobs.find? (TrackedJob.hasKey raffleContract requestId) with
  | none => (.deadLettered, s)
  | some found =>
      let s := { s with
        queue.jobs := s.queue.jobs.eraseP (TrackedJob.hasKey raffleContract requestId) }
      let tracked := { found with attemptCount := found.attemptCount + 1 }
      let fatal := isFatalRandomnessError error
      let exhausted := decide (o.maxAttempts ≤ tracked.attemptCount)
      if fatal || exhausted then
        let reason := if fatal then .fatal else .retryExhausted
        (.deadLettered, s.deadLetter o tracked error reason now)
      else (.retry, { s with queue.jobs := s.queue.jobs ++ [tracked] })

def evacuateExcess (now : Int) : List TrackedJob → MonitoredQueue → MonitoredQueue × Nat
  | tracked :: rest, s =>
      if o.depthLimit < (rest.length + 1 : Nat) then
        let (s, evacuated) := evacuateExcess now rest
          (deadLetter o tracked (depthError o (rest.length + 1)) .queueDepth now
            { s with queue.jobs := rest })
        (s, evacuated + 1)
      else (s, 0)
  | [], s => (s, 0)

def evacuateStale (now : Int) : List TrackedJob → MonitoredQueue → MonitoredQueue × Nat
  | oldest :: rest, s =>
      if oldest.ageMs now ≤ o.ageLimitMs then (s, 0)
      else
        let (s, evacuated) := evacuateStale now rest
          (deadLetter o oldest (ageError o (oldest.ageMs now)) .queueAge now
            { s with queue.jobs := rest })
        (s, evacuated + 1)
  | [], s => (s, 0)

def evacuateUnhealthy (now : Int) (s : MonitoredQueue) : Nat × MonitoredQueue :=
  let (s, excess) := evacuateExcess o now s.queue.jobs s
  let (s, stale) := evacuateStale o now s.queue.jobs s
  (excess + stale, s)

def healthAlerts (now : Int) (s : MonitoredQueue) : List Alert :=
  let depth := if o.depthLimit < s.size then [depthAlert s.size o.depthLimit] else []
  let age := match s.oldestAgeMs now with
    | some ageMs => if o.ageLimitMs < ageMs then [ageAlert ageMs o.ageLimitMs] else []
    | none => []
  if o.alerter then depth ++ age else []

def checkHealth (now : Int) (s : MonitoredQueue) : MonitoredQueue :=
  (evacuateUnhealthy o now { s with alerts := s.alerts ++ s.healthAlerts o now }).2

structure Moved (s t : MonitoredQueue) (moved : Nat) : Prop where
  le : moved ≤ s.size
  jobs : t.queue.jobs = s.queue.jobs.drop moved
  letters : ∃ letters, t.deadLetterStore = s.deadLetterStore ++ letters ∧
    letters.map (·.tracked) = s.queue.jobs.take moved

namespace Moved

variable {s t u : MonitoredQueue} {first last : Nat}

theorem refl (s : MonitoredQueue) : Moved s s 0 := ⟨Nat.zero_le _, rfl, [], by simp, rfl⟩

theorem size_add (h : Moved s t first) : t.size + first = s.size := by
  have := h.le
  simp only [size, h.jobs, List.length_drop] at *
  omega

theorem letters_length (h : Moved s t first) :
    t.deadLetterStore.length = s.deadLetterStore.length + first := by
  obtain ⟨letters, heq, hmap⟩ := h.letters
  have hlen := congrArg List.length hmap
  rw [List.length_map, List.length_take, Nat.min_eq_left (by exact h.le)] at hlen
  rw [heq, List.length_append, hlen]

theorem trans (h : Moved s t first) (h' : Moved t u last) : Moved s u (first + last) := by
  have hsize := h.size_add
  obtain ⟨before, hbefore, hfirst⟩ := h.letters
  obtain ⟨after, hafter, hlast⟩ := h'.letters
  refine ⟨by have := h'.le; omega, by rw [h'.jobs, h.jobs, List.drop_drop], before ++ after, ?_, ?_⟩
  · rw [hafter, hbefore, List.append_assoc]
  · rw [List.map_append, hfirst, hlast, h.jobs, List.take_add]

theorem deadLetter (o : RequestQueueOptions) {tracked : TrackedJob} {rest : List TrackedJob}
    (h : s.queue.jobs = tracked :: rest) (error : String) (reason : DeadLetterReason) (now : Int) :
    Moved s (MonitoredQueue.deadLetter o tracked error reason now { s with queue.jobs := rest })
      1 := by
  refine ⟨by simp [size, h], by simp [MonitoredQueue.deadLetter, h], _, rfl, ?_⟩
  simp [h, DeadLetterEntry.tracked]

end Moved

theorem evacuateExcess_moved (now : Int) (jobs : List TrackedJob) (s : MonitoredQueue)
    (h : s.queue.jobs = jobs) :
    Moved s (evacuateExcess o now jobs s).1 (evacuateExcess o now jobs s).2 := by
  induction jobs generalizing s with
  | nil => exact .refl s
  | cons tracked rest ih =>
    rw [evacuateExcess]
    split
    next =>
      have hhead := Moved.deadLetter o h (depthError o (rest.length + 1)) .queueDepth now
      simpa only [Nat.add_comm] using hhead.trans (ih _ rfl)
    next => exact .refl s

theorem evacuateStale_moved (now : Int) (jobs : List TrackedJob) (s : MonitoredQueue)
    (h : s.queue.jobs = jobs) :
    Moved s (evacuateStale o now jobs s).1 (evacuateStale o now jobs s).2 := by
  induction jobs generalizing s with
  | nil => exact .refl s
  | cons tracked rest ih =>
    rw [evacuateStale]
    split
    next => exact .refl s
    next =>
      have hhead := Moved.deadLetter o h (ageError o (tracked.ageMs now)) .queueAge now
      simpa only [Nat.add_comm] using hhead.trans (ih _ rfl)

theorem evacuateUnhealthy_moved (now : Int) (s : MonitoredQueue) :
    Moved s (s.evacuateUnhealthy o now).2 (s.evacuateUnhealthy o now).1 :=
  (evacuateExcess_moved o now _ s rfl).trans (evacuateStale_moved o now _ _ rfl)

theorem evacuateExcess_size (now : Int) (hlimit : 0 ≤ o.depthLimit) (jobs : List TrackedJob)
    (s : MonitoredQueue) (h : s.queue.jobs = jobs) :
    ((evacuateExcess o now jobs s).1.size : Int) ≤ o.depthLimit := by
  induction jobs generalizing s with
  | nil => simpa [evacuateExcess, size, h] using hlimit
  | cons tracked rest ih =>
    rw [evacuateExcess]
    split
    next => exact ih _ (by rfl)
    next hfit => simpa [size, h] using hfit

theorem evacuateStale_jobs (now : Int) (jobs : List TrackedJob) (s : MonitoredQueue)
    (h : s.queue.jobs = jobs) :
    (evacuateStale o now jobs s).1.queue.jobs =
      jobs.dropWhile fun tracked => o.ageLimitMs < tracked.ageMs now := by
  induction jobs generalizing s with
  | nil => simp [evacuateStale, h]
  | cons tracked rest ih =>
    rw [evacuateStale]
    split
    next hfresh => simp [h, Int.not_lt.mpr hfresh]
    next hstale =>
      rw [List.dropWhile_cons_of_pos (by simpa using hstale)]
      exact ih _ (by rfl)

theorem evacuateUnhealthy_size (now : Int) (hlimit : 0 ≤ o.depthLimit) (s : MonitoredQueue) :
    ((s.evacuateUnhealthy o now).2.size : Int) ≤ o.depthLimit := by
  have hexcess := evacuateExcess_size o now hlimit _ s rfl
  have hstale := (evacuateStale_moved o now _ (evacuateExcess o now s.queue.jobs s).1 rfl).size_add
  simp only [evacuateUnhealthy]
  omega

theorem recordFailure_cases (raffleContract : String) (requestId : Nat) (error : String) (now : Int)
    (s : MonitoredQueue) {outcome : FailureOutcome} {t : MonitoredQueue}
    (h : s.recordFailure o raffleContract requestId error now = (outcome, t)) :
    (s.queue.jobs.find? (TrackedJob.hasKey raffleContract requestId) = none ∧
      outcome = .deadLettered ∧ t = s) ∨
    ∃ found, s.queue.jobs.find? (TrackedJob.hasKey raffleContract requestId) = some found ∧
      ((outcome = .retry ∧ isFatalRandomnessError error = false ∧
          (found.attemptCount + 1 : Nat) < o.maxAttempts ∧
          t.queue.jobs = s.queue.jobs.eraseP (TrackedJob.hasKey raffleContract requestId) ++
            [{ found with attemptCount := found.attemptCount + 1 }] ∧
          t.deadLetterStore = s.deadLetterStore) ∨
        (outcome = .deadLettered ∧
          ¬(isFatalRandomnessError error = false ∧
            (found.attemptCount + 1 : Nat) < o.maxAttempts) ∧
          t.queue.jobs = s.queue.jobs.eraseP (TrackedJob.hasKey raffleContract requestId) ∧
          ∃ entry, t.deadLetterStore = s.deadLetterStore ++ [entry] ∧
            entry.tracked = { found with attemptCount := found.attemptCount + 1 })) := by
  rw [recordFailure] at h
  split at h
  next hnone =>
    cases h
    exact .inl ⟨hnone, rfl, rfl⟩
  next found hfound =>
    refine .inr ⟨found, hfound, ?_⟩
    by_cases hgone : (isFatalRandomnessError error ||
        decide (o.maxAttempts ≤ (found.attemptCount + 1 : Nat))) = true
    · rw [if_pos hgone] at h
      cases h
      refine .inr ⟨rfl, fun hlives => ?_, rfl, _, rfl, rfl⟩
      rw [Bool.or_eq_true, decide_eq_true_eq, hlives.1] at hgone
      exact Int.not_le.mpr hlives.2 (hgone.resolve_left Bool.false_ne_true)
    · rw [if_neg hgone] at h
      cases h
      simp only [Bool.or_eq_true, decide_eq_true_eq, not_or, Bool.not_eq_true, Int.not_le] at hgone
      exact .inl ⟨rfl, hgone.1, hgone.2, rfl, rfl⟩

inductive Call where
  | enqueue (job : RandomnessJob) (now : Nat)
  | drain
  | recordFailure (raffleContract : String) (requestId : Nat) (error : String) (now : Int)
  | evacuateUnhealthy (now : Int)
  | checkHealth (now : Int)
  deriving DecidableEq, Repr

def apply : Call → MonitoredQueue → MonitoredQueue
  | .enqueue job now, s => s.enqueue job now
  | .drain, s => s.drain.2
  | .recordFailure raffleContract requestId error now, s =>
      (s.recordFailure o raffleContract requestId error now).2
  | .evacuateUnhealthy now, s => (s.evacuateUnhealthy o now).2
  | .checkHealth now, s => s.checkHealth o now

/-- None of the calls throws. -/
def machine : Machine MonitoredQueue Call Empty where
  step c s := .ok (apply o c s)

theorem checkHealth_moved (now : Int) (s : MonitoredQueue) :
    ∃ moved, Moved s (s.checkHealth o now) moved := by
  have hmoved := evacuateUnhealthy_moved o now
    { s with alerts := s.alerts ++ s.healthAlerts o now }
  exact ⟨_, hmoved.le, hmoved.jobs, hmoved.letters⟩

theorem mem_apply {c : Call} {s : MonitoredQueue} {t : TrackedJob}
    (h : t ∈ (apply o c s).queue.jobs) :
    t ∈ s.queue.jobs ∨ (∃ job now, c = .enqueue job now ∧ t = ⟨job, 0, now⟩) ∨
      ∃ found ∈ s.queue.jobs, t = { found with attemptCount := found.attemptCount + 1 } ∧
        (t.attemptCount : Int) < o.maxAttempts := by
  cases c with
  | enqueue job now =>
    rcases List.mem_append.mp h with h | h
    · exact .inl h
    · exact .inr (.inl ⟨job, now, rfl, List.mem_singleton.mp h⟩)
  | drain => exact absurd h List.not_mem_nil
  | recordFailure raffleContract requestId error now =>
    change t ∈ (s.recordFailure o raffleContract requestId error now).2.queue.jobs at h
    cases hresult : s.recordFailure o raffleContract requestId error now with
    | mk outcome u =>
    rw [hresult] at h
    rcases recordFailure_cases o raffleContract requestId error now s hresult with
      ⟨-, -, hsame⟩ | ⟨found, hfound, ⟨-, -, hlow, hjobs, -⟩ | ⟨-, -, hjobs, -⟩⟩
    · exact .inl (hsame ▸ h)
    · rw [hjobs] at h
      rcases List.mem_append.mp h with h | h
      · exact .inl (List.mem_of_mem_eraseP h)
      · have ht := List.mem_singleton.mp h
        exact .inr (.inr ⟨found, List.mem_of_find?_eq_some hfound, ht, ht ▸ hlow⟩)
    · rw [hjobs] at h
      exact .inl (List.mem_of_mem_eraseP h)
  | evacuateUnhealthy now =>
    exact .inl (List.mem_of_mem_drop ((evacuateUnhealthy_moved o now s).jobs ▸ h))
  | checkHealth now =>
    obtain ⟨moved, hmoved⟩ := checkHealth_moved o now s
    exact .inl (List.mem_of_mem_drop (hmoved.jobs ▸ h))

end MonitoredQueue
end TikkaRaffle.Oracle
