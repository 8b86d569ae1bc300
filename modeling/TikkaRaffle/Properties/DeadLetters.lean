import TikkaRaffle.Oracle.Custody

/-! No job of the request queue is lost or doubled, and when the reports of
`recordFailure` are true. -/
namespace TikkaRaffle.Oracle

open TikkaRaffle.Lib

namespace MonitoredQueue

def Call.arrival : Call → Option (RandomnessJob × Nat)
  | .enqueue job now => some (job, now)
  | _ => none

section Runs

variable {o : RequestQueueOptions} {calls : List Call}

theorem traced_arrivals (s : MonitoredQueue × JobTrace) :
    ((tracedMachine o).run s calls).2.arrivals = s.2.arrivals ++ calls.filterMap Call.arrival := by
  induction calls generalizing s with
  | nil => simp
  | cons c rest ih =>
    have hstep : ((tracedMachine o).exec s c).2.arrivals = s.2.arrivals ++ c.arrival.toList := by
      cases c with
      | enqueue job now => rfl
      | _ => exact (List.append_nil _).symm
    rw [Machine.run_cons, ih, hstep, List.append_assoc]
    cases harrival : c.arrival <;> simp [harrival]

theorem traced_handed (s : MonitoredQueue × JobTrace) (hdrain : Call.drain ∉ calls) :
    ((tracedMachine o).run s calls).2.places.handed = s.2.places.handed := by
  induction calls generalizing s with
  | nil => rfl
  | cons c rest ih =>
    obtain ⟨hne, hrest⟩ := not_or.mp (mt List.mem_cons.mpr hdrain)
    have hstep : ((tracedMachine o).exec s c).2.places.handed = s.2.places.handed := by
      cases c with
      | drain => exact absurd rfl hne
      | recordFailure raffleContract requestId error now =>
        change (JobTrace.select _ _ _ _).places.handed = _
        cases (s.1.recordFailure o raffleContract requestId error now).1 <;> rfl
      | _ => rfl
    rw [Machine.run_cons, ih _ hrest, hstep]

theorem attempts_lt (hmax : 1 ≤ o.maxAttempts) (calls : List Call) :
    ∀ t ∈ ((machine o).run {} calls).queue.jobs, (t.attemptCount : Int) < o.maxAttempts := by
  refine (Machine.always_of_step (m := machine o)
    (fun s => ∀ t ∈ s.queue.jobs, (t.attemptCount : Int) < o.maxAttempts) ?_ (by simp) calls).last
  intro s c s' hs hok t ht
  cases hok
  rcases mem_apply o ht with hold | ⟨job, now, -, rfl⟩ | ⟨-, -, -, hlow⟩
  · exact hs t hold
  · exact hmax
  · exact hlow

end Runs

theorem Accounted.jobs_perm {s : MonitoredQueue} {log : JobTrace} (h : Accounted (s, log))
    (hhanded : log.places.handed = []) :
    (s.queue.pending ++ s.deadLetterStore.map (·.job)).Perm (log.arrivals.map (·.1)) := by
  have hjob : (fun i => (log.tracked i).map (·.job)) = fun i => log.arrivals[i]?.map (·.1) := by
    funext i
    simp [JobTrace.tracked, Function.comp_def]
  have hwaiting := congrArg (List.map (Option.map (·.job))) h.jobs
  have hburied := congrArg (List.map (Option.map (·.job))) h.letters
  have hheld := h.held.map fun i => log.arrivals[i]?.map (·.1)
  simp only [List.map_map, Function.comp_def, Option.map_some, hjob] at hwaiting hburied
  rw [Custody.held, hhanded, List.append_nil, List.map_append, ← hwaiting, ← hburied] at hheld
  have hrange : (List.range log.arrivals.length).map (fun i => log.arrivals[i]?.map (·.1)) =
      (log.arrivals.map (·.1)).map some := by
    apply List.ext_getElem
    · simp
    · intro i hi _
      simp only [List.length_map, List.length_range] at hi
      simp [hi]
  rw [hrange] at hheld
  refine (List.map_perm_map_iff (fun _ _ => Option.some.inj)).mp ?_
  simpa [RequestQueue.pending, DeadLetterEntry.tracked, Function.comp_def] using hheld

structure Conserves (o : RequestQueueOptions) (calls : List Call) (s : MonitoredQueue)
    (log : JobTrace) : Prop where
  /-- The trace is one of the queue itself. -/
  run : s = (machine o).run {} calls
  arrivals : log.arrivals = calls.filterMap Call.arrival
  jobs : (s.queue.pending ++ s.deadLetterStore.map (·.job)).Perm (log.arrivals.map (·.1))
  once : (log.places.waiting ++ log.places.buried).Perm (List.range log.arrivals.length)
  queued : s.queue.jobs.map some = log.places.waiting.map log.tracked
  attempts : ∀ t ∈ s.queue.jobs, (t.attemptCount : Int) < o.maxAttempts
  letters : s.deadLetterStore.map (fun entry => some entry.tracked) =
    log.places.buried.map log.tracked
  evacuated : ∀ now, ((s.evacuateUnhealthy o now).2.size : Int) ≤ o.depthLimit ∧
    (s.evacuateUnhealthy o now).2.size + (s.evacuateUnhealthy o now).1 = s.size ∧
    (s.evacuateUnhealthy o now).2.deadLetterStore.length =
      s.deadLetterStore.length + (s.evacuateUnhealthy o now).1

/-- The queue conserves its jobs, one by one and as values. -/
theorem queue_conserves (o : RequestQueueOptions) (hdepth : 0 ≤ o.depthLimit)
    (hmax : 1 ≤ o.maxAttempts) (calls : List Call) (hdrain : Call.drain ∉ calls) :
    Conserves o calls ((tracedMachine o).run ({}, {}) calls).1
      ((tracedMachine o).run ({}, {}) calls).2 := by
  have haccounted := Accounted.run o calls
  have hhanded := traced_handed (o := o) ({}, {}) hdrain
  have hrun : ((tracedMachine o).run ({}, {}) calls).1 = (machine o).run {} calls :=
    Machine.noting_run _ calls
  refine ⟨hrun, traced_arrivals _, haccounted.jobs_perm hhanded, ?_, haccounted.jobs,
    hrun ▸ attempts_lt hmax calls, haccounted.letters, fun now => ?_⟩
  · have hheld := haccounted.held
    rwa [Custody.held, hhanded, List.append_nil] at hheld
  · have hmoved := evacuateUnhealthy_moved o now ((tracedMachine o).run ({}, {}) calls).1
    exact ⟨evacuateUnhealthy_size o now hdepth _, hmoved.size_add, hmoved.letters_length⟩

/-- Equal jobs side by side: one is retried, and one is given up for the depth. -/
theorem queue_conserves_equal_jobs :
    let calls : List Call := [.enqueue ⟨1, "raffle", 0⟩ 0, .enqueue ⟨1, "raffle", 0⟩ 5,
      .recordFailure "raffle" 1 "ECONNRESET" 6, .evacuateUnhealthy 7]
    Conserves { depthLimit := 1 } calls
      ((tracedMachine { depthLimit := 1 }).run ({}, {}) calls).1
      ((tracedMachine { depthLimit := 1 }).run ({}, {}) calls).2 :=
  queue_conserves { depthLimit := 1 } (by decide) (by decide) _ (by decide)

/-- What the answer of `recordFailure` says about a key holds afterwards. -/
def Truthful (raffleContract : String) (requestId : Nat) (outcome : FailureOutcome)
    (t : MonitoredQueue) : Prop :=
  match outcome with
  | .retry => ∃ tracked ∈ t.queue.jobs, tracked.hasKey raffleContract requestId = true
  | .deadLettered =>
      ∃ entry ∈ t.deadLetterStore, entry.tracked.hasKey raffleContract requestId = true

section Reports

variable {s : MonitoredQueue} {log : JobTrace} {raffleContract : String} {requestId : Nat}

theorem Accounted.not_handed (h : Accounted (s, log)) {i : Nat}
    (hi : i ∈ log.places.waiting ∨ i ∈ log.places.buried) : i ∉ log.places.handed := by
  have hnodup := h.nodup
  rw [Custody.held, List.nodup_append] at hnodup
  exact fun hhanded => hnodup.2.2 i (List.mem_append.mpr hi) i hhanded rfl

/-- A job with the key is in the queue or in the store exactly if one that was
enqueued has not been handed out. -/
theorem Accounted.present_iff (h : Accounted (s, log)) :
    (∃ i, log.hasKey raffleContract requestId i = true ∧ i ∉ log.places.handed) ↔
      (∃ tracked ∈ s.queue.jobs, tracked.hasKey raffleContract requestId = true) ∨
        ∃ entry ∈ s.deadLetterStore, entry.tracked.hasKey raffleContract requestId = true := by
  have key {i : Nat} {t : TrackedJob} (ht : log.tracked i = some t) :
      log.hasKey raffleContract requestId i = t.hasKey raffleContract requestId := by
    simp [JobTrace.hasKey, ht]
  have queued {i : Nat} {t : TrackedJob} (ht : log.tracked i = some t) :
      i ∈ log.places.waiting → t ∈ s.queue.jobs := fun hi => by
    have hmem : some t ∈ s.queue.jobs.map some := by
      rw [h.jobs, ← ht]
      exact List.mem_map_of_mem hi
    simpa using hmem
  have buried {i : Nat} {t : TrackedJob} (ht : log.tracked i = some t)
      (hi : i ∈ log.places.buried) : ∃ entry ∈ s.deadLetterStore, entry.tracked = t := by
    have hmem : some t ∈ s.deadLetterStore.map (fun entry => some entry.tracked) := by
      rw [h.letters, ← ht]
      exact List.mem_map_of_mem hi
    simpa using hmem
  constructor
  · rintro ⟨i, hkey, hfree⟩
    obtain ⟨t, ht, htkey⟩ := (Option.any_eq_true _ _).mp hkey
    have hlt : i < log.arrivals.length := by
      by_contra hge
      simp [JobTrace.tracked, List.getElem?_eq_none (Nat.le_of_not_lt hge)] at ht
    have hheld := h.held.mem_iff.mpr (List.mem_range.mpr hlt)
    rw [Custody.held, List.mem_append, List.mem_append] at hheld
    rcases hheld.resolve_right hfree with hi | hi
    · exact .inl ⟨t, queued ht hi, htkey⟩
    · obtain ⟨entry, hentry, heq⟩ := buried ht hi
      exact .inr ⟨entry, hentry, heq ▸ htkey⟩
  · rintro (⟨t, hmem, htkey⟩ | ⟨entry, hmem, htkey⟩)
    · have hmap : some t ∈ log.places.waiting.map log.tracked := by
        rw [← h.jobs]
        exact List.mem_map_of_mem hmem
      obtain ⟨i, hi, ht⟩ := List.mem_map.mp hmap
      exact ⟨i, (key ht).trans htkey, h.not_handed (.inl hi)⟩
    · have hmap : some entry.tracked ∈ log.places.buried.map log.tracked := by
        rw [← h.letters]
        exact List.mem_map_of_mem hmem
      obtain ⟨i, hi, ht⟩ := List.mem_map.mp hmap
      exact ⟨i, (key ht).trans htkey, h.not_handed (.inr hi)⟩

theorem recordFailure_truthful_iff_present (o : RequestQueueOptions) (error : String) (now : Int) :
    Truthful raffleContract requestId (s.recordFailure o raffleContract requestId error now).1
        (s.recordFailure o raffleContract requestId error now).2 ↔
      (∃ tracked ∈ s.queue.jobs, tracked.hasKey raffleContract requestId = true) ∨
        ∃ entry ∈ s.deadLetterStore, entry.tracked.hasKey raffleContract requestId = true := by
  cases hresult : s.recordFailure o raffleContract requestId error now with
  | mk outcome t =>
  rcases recordFailure_cases o raffleContract requestId error now s hresult with
    ⟨hnone, rfl, rfl⟩ | ⟨found, hfound, hmoves⟩
  · have hempty : ¬∃ tracked ∈ t.queue.jobs, tracked.hasKey raffleContract requestId = true := by
      rintro ⟨tracked, hmem, hkey⟩
      exact List.find?_eq_none.mp hnone tracked hmem hkey
    exact (or_iff_right hempty).symm
  · have hkey : found.hasKey raffleContract requestId = true := List.find?_some hfound
    have hpresent : ∃ tracked ∈ s.queue.jobs, tracked.hasKey raffleContract requestId = true :=
      ⟨found, List.mem_of_find?_eq_some hfound, hkey⟩
    refine iff_of_true ?_ (.inl hpresent)
    rcases hmoves with ⟨rfl, -, -, hjobs, -⟩ | ⟨rfl, -, -, entry, hletters, hentry⟩
    · refine ⟨{ found with attemptCount := found.attemptCount + 1 }, ?_, hkey⟩
      rw [hjobs]
      exact List.mem_append_right _ (List.mem_singleton.mpr rfl)
    · exact ⟨entry, hletters ▸ List.mem_append_right _ (List.mem_singleton_self _),
        hentry ▸ hkey⟩

end Reports

/-- The report on a key is true exactly if some job enqueued under the key has not
been handed out by `drain`. -/
theorem recordFailure_truthful_iff (o : RequestQueueOptions) (calls : List Call)
    (raffleContract : String) (requestId : Nat) (error : String) (now : Int) :
    let s := ((tracedMachine o).run ({}, {}) calls).1
    let log := ((tracedMachine o).run ({}, {}) calls).2
    Truthful raffleContract requestId (s.recordFailure o raffleContract requestId error now).1
        (s.recordFailure o raffleContract requestId error now).2 ↔
      ∃ i, log.hasKey raffleContract requestId i = true ∧ i ∉ log.places.handed :=
  (recordFailure_truthful_iff_present o error now).trans (Accounted.run o calls).present_iff.symm

/-- A job that the worker drained is reported as dead-lettered, and no entry has it. -/
theorem recordFailure_drained_untruthful :
    let s := (machine {}).run {} [.enqueue ⟨1, "raffle", 0⟩ 0, .drain]
    let result := s.recordFailure {} "raffle" 1 "ECONNRESET" 0
    result.1 = .deadLettered ∧ result.2.deadLetterStore = [] := by
  decide

end MonitoredQueue
end TikkaRaffle.Oracle
