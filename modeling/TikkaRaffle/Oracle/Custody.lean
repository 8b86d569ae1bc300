import TikkaRaffle.Lib.Backlog
import TikkaRaffle.Oracle.DeadLetters

/-! Where every enqueued job is. Jobs are told apart by their place in the order of
arrival, since equal jobs may wait side by side. -/
namespace TikkaRaffle.Oracle

open TikkaRaffle.Lib

structure JobTrace where
  /-- The enqueued jobs, with the clock at the time. -/
  arrivals : List (RandomnessJob × Nat) := []
  /-- The jobs that calls of `recordFailure` have selected. -/
  selections : List Nat := []
  places : Custody Nat := {}
  deriving DecidableEq, Repr

namespace JobTrace

def tracked (log : JobTrace) (i : Nat) : Option TrackedJob :=
  log.arrivals[i]?.map fun arrival => ⟨arrival.1, log.selections.count i, arrival.2⟩

def hasKey (raffleContract : String) (requestId : Nat) (log : JobTrace) (i : Nat) : Bool :=
  (log.tracked i).any (TrackedJob.hasKey raffleContract requestId)

def arrive (job : RandomnessJob) (now : Nat) (log : JobTrace) : JobTrace :=
  { log with
    arrivals := log.arrivals ++ [(job, now)]
    places := log.places.receive log.arrivals.length }

def select (raffleContract : String) (requestId : Nat) (outcome : FailureOutcome)
    (log : JobTrace) : JobTrace :=
  let key := log.hasKey raffleContract requestId
  { log with
    selections := log.selections ++ (log.places.waiting.find? key).toList
    places := match outcome with
      | .retry => log.places.requeue key
      | .deadLettered => log.places.bury key }

def note (o : RequestQueueOptions) (s : MonitoredQueue) (c : MonitoredQueue.Call)
    (t : MonitoredQueue) (log : JobTrace) : JobTrace :=
  match c with
  | .enqueue job now => log.arrive job now
  | .drain => { log with places := log.places.handOut }
  | .recordFailure raffleContract requestId error now =>
      log.select raffleContract requestId (s.recordFailure o raffleContract requestId error now).1
  | .evacuateUnhealthy _ | .checkHealth _ =>
      { log with places := log.places.shed (s.size - t.size) }

theorem tracked_arrive {log : JobTrace} {job : RandomnessJob} {now i : Nat}
    (hi : i < log.arrivals.length) : (log.arrive job now).tracked i = log.tracked i := by
  simp [tracked, arrive, List.getElem?_append_left hi]

theorem tracked_select {raffleContract : String} {requestId : Nat} {outcome : FailureOutcome}
    {log : JobTrace} {i j : Nat}
    (hfound : log.places.waiting.find? (log.hasKey raffleContract requestId) = some i) :
    (log.select raffleContract requestId outcome).tracked j =
      if j = i then (log.tracked i).map fun t => { t with attemptCount := t.attemptCount + 1 }
      else log.tracked j := by
  by_cases h : j = i
  · subst h
    simp [tracked, select, hfound, Function.comp_def]
  · simp [tracked, select, hfound, h, Ne.symm h]

end JobTrace

namespace MonitoredQueue

abbrev tracedMachine (o : RequestQueueOptions) :=
  (machine o).noting (JobTrace.note o)

structure Accounted (s : MonitoredQueue × JobTrace) : Prop where
  jobs : s.1.queue.jobs.map some = s.2.places.waiting.map s.2.tracked
  letters : s.1.deadLetterStore.map (fun entry => some entry.tracked) =
    s.2.places.buried.map s.2.tracked
  held : s.2.places.held.Perm (List.range s.2.arrivals.length)
  selected : ∀ i ∈ s.2.selections, i < s.2.arrivals.length

namespace Accounted

variable {o : RequestQueueOptions} {s t : MonitoredQueue} {log : JobTrace}

theorem start : Accounted ({}, {}) :=
  ⟨rfl, rfl, .refl _, by simp⟩

theorem lt_of_held (h : Accounted (s, log)) {i : Nat} (hi : i ∈ log.places.held) :
    i < log.arrivals.length :=
  List.mem_range.mp (h.held.mem_iff.mp hi)

theorem nodup (h : Accounted (s, log)) : log.places.held.Nodup :=
  h.held.nodup_iff.mpr List.nodup_range

theorem enqueue (h : Accounted (s, log)) (job : RandomnessJob) (now : Nat) :
    Accounted (s.enqueue job now, log.arrive job now) := by
  have hfresh : log.selections.count log.arrivals.length = 0 :=
    List.count_eq_zero.mpr fun hmem => Nat.lt_irrefl _ (h.selected _ hmem)
  have hnew : (log.arrive job now).tracked log.arrivals.length = some ⟨job, 0, now⟩ := by
    simp [JobTrace.tracked, JobTrace.arrive, hfresh]
  have hold {places : List Nat} (hsub : places ⊆ log.places.held) :
      places.map (log.arrive job now).tracked = places.map log.tracked :=
    List.map_congr_left fun i hi => JobTrace.tracked_arrive (h.lt_of_held (hsub hi))
  refine ⟨?_, ?_, ?_, fun i hi => ?_⟩
  · have hwaiting : log.places.waiting ⊆ log.places.held := fun i hi => by
      simp [Custody.held, hi]
    change (s.queue.jobs ++ [_]).map some =
      (log.places.waiting ++ [_]).map (log.arrive job now).tracked
    rw [List.map_append, List.map_append, hold hwaiting, h.jobs, List.map_singleton,
      List.map_singleton, hnew]
  · have hburied : log.places.buried ⊆ log.places.held := fun i hi => by
      simp [Custody.held, hi]
    exact h.letters.trans (hold hburied).symm
  · have hheld := (log.places.held_receive log.arrivals.length).trans (h.held.append_right _)
    simpa only [JobTrace.arrive, List.length_append, List.length_singleton, List.range_succ]
      using hheld
  · have hlt : i < log.arrivals.length := h.selected i hi
    simp only [JobTrace.arrive, List.length_append, List.length_singleton]
    omega

theorem drain (h : Accounted (s, log)) :
    Accounted (s.drain.2, { log with places := log.places.handOut }) :=
  ⟨rfl, h.letters, log.places.held_handOut.trans h.held, h.selected⟩

theorem shed (h : Accounted (s, log)) {moved : Nat} (hmoved : Moved s t moved) :
    Accounted (t, { log with places := log.places.shed (s.size - t.size) }) := by
  have hsize := hmoved.size_add
  have hcount : s.size - t.size = moved := by omega
  obtain ⟨letters, heq, hmap⟩ := hmoved.letters
  rw [hcount]
  refine ⟨?_, ?_, (log.places.held_shed moved).trans h.held, h.selected⟩
  · change t.queue.jobs.map some = (log.places.waiting.drop moved).map log.tracked
    rw [hmoved.jobs, List.map_drop, h.jobs, ← List.map_drop]
  · change t.deadLetterStore.map _ =
      (log.places.buried ++ log.places.waiting.take moved).map log.tracked
    have hletters : letters.map (fun entry => some entry.tracked) =
        (log.places.waiting.take moved).map log.tracked := by
      rw [List.map_take, ← h.jobs, ← List.map_take, ← hmap, List.map_map]
      rfl
    rw [heq, List.map_append, List.map_append, hletters, h.letters]

section Selection

variable {raffleContract : String} {requestId : Nat}

variable (raffleContract requestId) in
theorem find?_eq (h : Accounted (s, log)) :
    (s.queue.jobs.find? (TrackedJob.hasKey raffleContract requestId)).map some =
      (log.places.waiting.find? (log.hasKey raffleContract requestId)).map log.tracked := by
  have hjobs := congrArg (List.find? (Option.any (TrackedJob.hasKey raffleContract requestId)))
    h.jobs
  rw [List.find?_map, List.find?_map] at hjobs
  exact hjobs

theorem eraseP_eq (h : Accounted (s, log)) :
    (s.queue.jobs.eraseP (TrackedJob.hasKey raffleContract requestId)).map some =
      (log.places.waiting.eraseP (log.hasKey raffleContract requestId)).map log.tracked := by
  have hjobs := congrArg (List.eraseP (Option.any (TrackedJob.hasKey raffleContract requestId)))
    h.jobs
  rw [List.eraseP_map, List.eraseP_map] at hjobs
  exact hjobs

theorem selection (h : Accounted (s, log)) {found : TrackedJob}
    (hfound : s.queue.jobs.find? (TrackedJob.hasKey raffleContract requestId) = some found) :
    ∃ i, log.places.waiting.find? (log.hasKey raffleContract requestId) = some i ∧
      log.tracked i = some found ∧ i < log.arrivals.length ∧ i ∉ log.places.buried ∧
      i ∉ log.places.waiting.eraseP (log.hasKey raffleContract requestId) := by
  have hfind := h.find?_eq raffleContract requestId
  rw [hfound, Option.map_some] at hfind
  obtain ⟨i, hi, htracked⟩ := Option.map_eq_some_iff.mp hfind.symm
  have hwaiting : i ∈ log.places.waiting := List.mem_of_find?_eq_some hi
  have hnodup := h.nodup
  rw [Custody.held, List.nodup_append, List.nodup_append] at hnodup
  have hperm := Custody.eraseP_append_find? (log.hasKey raffleContract requestId) log.places.waiting
  have hsplit := hperm.nodup_iff.mpr hnodup.1.1
  rw [hi, List.nodup_append] at hsplit
  refine ⟨i, hi, htracked, h.lt_of_held ?_, fun hb => ?_, fun herase => ?_⟩
  · simp [Custody.held, hwaiting]
  · exact hnodup.1.2.2 i hwaiting i hb rfl
  · exact hsplit.2.2 i herase i (by simp) rfl

theorem map_select {places : List Nat} {i : Nat} (outcome : FailureOutcome)
    (hi : log.places.waiting.find? (log.hasKey raffleContract requestId) = some i)
    (hnot : i ∉ places) :
    places.map (log.select raffleContract requestId outcome).tracked =
      places.map log.tracked := by
  refine List.map_congr_left fun j hj => ?_
  rw [JobTrace.tracked_select hi, if_neg]
  rintro rfl
  exact hnot hj

theorem recordFailure (h : Accounted (s, log)) (error : String) (now : Int) :
    Accounted ((s.recordFailure o raffleContract requestId error now).2,
      log.select raffleContract requestId
        (s.recordFailure o raffleContract requestId error now).1) := by
  cases hresult : s.recordFailure o raffleContract requestId error now with
  | mk outcome t =>
  rcases recordFailure_cases o raffleContract requestId error now s hresult with
    ⟨hnone, rfl, rfl⟩ | ⟨found, hfound, hmoves⟩
  · have hwaiting := h.find?_eq raffleContract requestId
    rw [hnone, Option.map_none, eq_comm, Option.map_eq_none_iff] at hwaiting
    have hsame : log.select raffleContract requestId .deadLettered = log := by
      have herase := List.eraseP_of_forall_not fun i hi =>
        List.find?_eq_none.mp hwaiting i hi
      simp [JobTrace.select, Custody.bury, hwaiting, herase]
    rw [hsame]
    exact h
  obtain ⟨i, hi, htracked, hlt, hburied, herased⟩ := h.selection hfound
  have hcounted : (log.select raffleContract requestId outcome).tracked i =
      some { found with attemptCount := found.attemptCount + 1 } := by
    rw [JobTrace.tracked_select hi, if_pos rfl, htracked, Option.map_some]
  have hselected : ∀ j ∈ log.selections ++ [i], j < log.arrivals.length := by
    intro j hj
    rcases List.mem_append.mp hj with hj | hj
    · exact h.selected j hj
    · rw [List.mem_singleton.mp hj]
      exact hlt
  rcases hmoves with ⟨rfl, -, -, hjobs, hletters⟩ | ⟨rfl, -, hjobs, entry, hletters, hentry⟩
  · refine ⟨?_, ?_, (log.places.held_requeue _).trans h.held, ?_⟩
    · change t.queue.jobs.map some = (_ ++ (_ : Option Nat).toList).map _
      rw [hjobs, hi, List.map_append, List.map_append, h.eraseP_eq, map_select .retry hi herased,
        Option.toList_some, List.map_singleton, List.map_singleton, hcounted]
    · change t.deadLetterStore.map _ = log.places.buried.map _
      rw [hletters, map_select .retry hi hburied, h.letters]
    · simpa [JobTrace.select, hi] using hselected
  · refine ⟨?_, ?_, (log.places.held_bury _).trans h.held, ?_⟩
    · change t.queue.jobs.map some = (log.places.waiting.eraseP _).map _
      rw [hjobs, h.eraseP_eq, map_select .deadLettered hi herased]
    · change t.deadLetterStore.map _ = (log.places.buried ++ (_ : Option Nat).toList).map _
      rw [hletters, hi, List.map_append, List.map_append, h.letters,
        map_select .deadLettered hi hburied, Option.toList_some, List.map_singleton,
        List.map_singleton, hcounted, hentry]
    · simpa [JobTrace.select, hi] using hselected

end Selection

theorem step {s t : MonitoredQueue × JobTrace} {c : Call}
    (h : Accounted s) (hstep : (tracedMachine o).step c s = .ok t) : Accounted t := by
  obtain ⟨s, log⟩ := s
  obtain ⟨t, log'⟩ := t
  obtain ⟨hok, hlog⟩ := Machine.noting_ok.mp hstep
  change log' = JobTrace.note o s c t log at hlog
  subst hlog
  cases hok
  cases c with
  | enqueue job now => exact h.enqueue job now
  | drain => exact h.drain
  | recordFailure raffleContract requestId error now => exact h.recordFailure error now
  | evacuateUnhealthy now => exact h.shed (evacuateUnhealthy_moved o now s)
  | checkHealth now =>
    obtain ⟨moved, hmoved⟩ := checkHealth_moved o now s
    exact h.shed hmoved

theorem run (o : RequestQueueOptions) (calls : List Call) :
    Accounted ((tracedMachine o).run ({}, {}) calls) :=
  (Machine.always_of_step Accounted (fun _ _ _ h hstep => h.step hstep) start calls).last

end Accounted
end MonitoredQueue
end TikkaRaffle.Oracle
