import TikkaRaffle.Lib.Backlog
import TikkaRaffle.Oracle.DeadLetters

/-! Both the age limit and the age view look at the head of the queue only. They are
right while the queue stays in the order of first arrival, which a retry can break. -/
namespace TikkaRaffle.Oracle

open TikkaRaffle.Lib

namespace MonitoredQueue

def Call.clock : Call → Option Int
  | .enqueue _ now => some now
  | .drain => none
  | .recordFailure _ _ _ now | .evacuateUnhealthy now | .checkHealth now => some now

/-- A failure that is retried concerns a job that no other waiting job came after. -/
def InTurn (o : RequestQueueOptions) (s : MonitoredQueue) : Call → Prop
  | .recordFailure raffleContract requestId error _ =>
      ∀ found, s.queue.jobs.find? (TrackedJob.hasKey raffleContract requestId) = some found →
        isFatalRandomnessError error = false → (found.attemptCount + 1 : Nat) < o.maxAttempts →
        ∀ t ∈ s.queue.jobs, t.firstEnqueuedAtMs ≤ found.firstEnqueuedAtMs
  | _ => True

def Ordered (s : MonitoredQueue) : Prop :=
  s.queue.jobs.Pairwise fun a b => a.firstEnqueuedAtMs ≤ b.firstEnqueuedAtMs

/-- The head of the queue stands for all of it. -/
structure AgeBounded (o : RequestQueueOptions) (s : MonitoredQueue) : Prop where
  oldest : ∀ now, s.oldestAgeMs now = (s.queue.jobs.map (TrackedJob.ageMs now)).max?
  evacuated : ∀ now, ∀ t ∈ (s.evacuateUnhealthy o now).2.queue.jobs, t.ageMs now ≤ o.ageLimitMs

variable {o : RequestQueueOptions} {s : MonitoredQueue}

theorem Ordered.ageBounded (h : s.Ordered) : AgeBounded o s := by
  refine ⟨fun now => ?_, fun now t ht => ?_⟩
  · refine (max?_map_of_pairwise (TrackedJob.ageMs now) (h.imp fun hab => ?_)).symm
    exact Int.sub_le_sub_left (Int.ofNat_le.mpr hab) now
  · have hexcess := evacuateExcess_moved o now _ s rfl
    have hordered : (evacuateExcess o now s.queue.jobs s).1.queue.jobs.Pairwise
        fun a b => a.firstEnqueuedAtMs ≤ b.firstEnqueuedAtMs := by
      rw [hexcess.jobs]
      exact h.sublist (List.drop_sublist _ _)
    simp only [evacuateUnhealthy] at ht
    rw [evacuateStale_jobs o now _ _ rfl] at ht
    have hfresh := not_of_mem_dropWhile hordered (fun a b hab hb => ?_) ht
    · simpa using hfresh
    · have hle := Int.sub_le_sub_left (Int.ofNat_le.mpr hab) now
      exact decide_eq_true (Int.lt_of_lt_of_le (of_decide_eq_true hb) hle)

def Past (now : Int) (s : MonitoredQueue) : Prop :=
  ∀ t ∈ s.queue.jobs, (t.firstEnqueuedAtMs : Int) ≤ now

theorem Past.mono {now later : Int} (h : s.Past now) (hle : now ≤ later) : s.Past later :=
  fun t ht => Int.le_trans (h t ht) hle

theorem Past.apply {now : Int} (h : s.Past now) (c : Call) (hc : ∀ t ∈ c.clock, now ≤ t) :
    (MonitoredQueue.apply o c s).Past (c.clock.getD now) := by
  have hlater : s.Past (c.clock.getD now) := by
    cases hclock : c.clock with
    | none => exact h
    | some t => exact h.mono (hc t hclock)
  intro t ht
  rcases mem_apply o ht with hold | ⟨job, at_, rfl, rfl⟩ | ⟨found, hfound, rfl, -⟩
  · exact hlater t hold
  · exact Int.le_refl _
  · exact hlater found hfound

/-- A call keeps the order exactly if what it puts back is in turn. -/
theorem ordered_apply_iff {now : Int} (h : s.Ordered) (hpast : s.Past now) (c : Call)
    (hc : ∀ t ∈ c.clock, now ≤ t) : (MonitoredQueue.apply o c s).Ordered ↔ InTurn o s c := by
  cases c with
  | enqueue job at_ =>
    refine iff_of_true (List.pairwise_append.mpr ⟨h, List.pairwise_singleton _ _, ?_⟩) trivial
    intro a ha b hb
    rw [List.mem_singleton.mp hb]
    have hle := Int.le_trans (hpast a ha) (hc at_ rfl)
    exact Int.ofNat_le.mp hle
  | drain => exact iff_of_true List.Pairwise.nil trivial
  | recordFailure raffleContract requestId error at_ =>
    cases hresult : s.recordFailure o raffleContract requestId error at_ with
    | mk outcome u =>
    have happly : MonitoredQueue.apply o (.recordFailure raffleContract requestId error at_) s =
        u := congrArg Prod.snd hresult
    have hrest := h.sublist
      (List.eraseP_sublist (p := TrackedJob.hasKey raffleContract requestId))
    rw [happly]
    rcases recordFailure_cases o raffleContract requestId error at_ s hresult with
      ⟨hnone, -, rfl⟩ | ⟨found, hfound, ⟨-, hlive, hlow, hjobs, -⟩ | ⟨-, hdead, hjobs, -⟩⟩
    · exact iff_of_true h fun found hfound => by simp [hnone] at hfound
    · have hperm := Custody.eraseP_append_find?
        (TrackedJob.hasKey raffleContract requestId) s.queue.jobs
      rw [hfound, Option.toList_some] at hperm
      rw [Ordered, hjobs, List.pairwise_append]
      constructor
      · rintro ⟨-, -, hlast⟩ found' hfound' - - t ht
        cases hfound.symm.trans hfound'
        rcases List.mem_append.mp (hperm.mem_iff.mpr ht) with hold | hself
        · exact hlast t hold { found with attemptCount := found.attemptCount + 1 }
            (List.mem_singleton.mpr rfl)
        · rw [List.mem_singleton.mp hself]
      · intro hturn
        refine ⟨hrest, List.pairwise_singleton _ _, fun a ha b hb => ?_⟩
        rw [List.mem_singleton.mp hb]
        exact hturn found hfound hlive hlow a (List.mem_of_mem_eraseP ha)
    · refine iff_of_true (by rw [Ordered, hjobs]; exact hrest) fun found' hfound' hlive hlow => ?_
      cases hfound.symm.trans hfound'
      exact absurd ⟨hlive, hlow⟩ hdead
  | evacuateUnhealthy at_ =>
    refine iff_of_true ?_ trivial
    have hmoved := evacuateUnhealthy_moved o at_ s
    rw [MonitoredQueue.apply, Ordered, hmoved.jobs]
    exact h.sublist (List.drop_sublist _ _)
  | checkHealth at_ =>
    refine iff_of_true ?_ trivial
    obtain ⟨moved, hmoved⟩ := checkHealth_moved o at_ s
    rw [MonitoredQueue.apply, Ordered, hmoved.jobs]
    exact h.sublist (List.drop_sublist _ _)

/-- The calls of a run come at non-decreasing clock values, the first not before `now`. -/
def Clocked (now : Int) (calls : List Call) : Prop :=
  (now :: calls.filterMap Call.clock).Pairwise (· ≤ ·)

theorem Clocked.cons {now : Int} {c : Call} {rest : List Call} (h : Clocked now (c :: rest)) :
    (∀ t ∈ c.clock, now ≤ t) ∧ Clocked (c.clock.getD now) rest := by
  unfold Clocked at h ⊢
  cases hclock : c.clock with
  | none => simpa [List.filterMap_cons, hclock] using h
  | some t =>
    rw [List.filterMap_cons, hclock] at h
    obtain ⟨hfirst, hrest⟩ := List.pairwise_cons.mp h
    exact ⟨fun t' ht => by simp_all, hrest⟩

theorem ordered_iff_inTurn {now : Int} (h : s.Ordered) (hpast : s.Past now) {calls : List Call}
    (hclock : Clocked now calls) :
    (machine o).Always Ordered s calls ↔ (machine o).Each (fun s c _ => InTurn o s c) s calls := by
  induction calls generalizing s now with
  | nil => exact iff_of_true h trivial
  | cons c rest ih =>
    obtain ⟨hc, hrest⟩ := hclock.cons
    have hiff := ordered_apply_iff (o := o) h hpast c hc
    have hnext := hpast.apply (o := o) c hc
    change Ordered s ∧ (machine o).Always Ordered (apply o c s) rest ↔
      (∀ t, (machine o).step c s = .ok t → InTurn o s c) ∧
        (machine o).Each (fun s c _ => InTurn o s c) (apply o c s) rest
    constructor
    · rintro ⟨-, hall⟩
      exact ⟨fun _ _ => hiff.mp hall.head, (ih hall.head hnext hrest).mp hall⟩
    · rintro ⟨hturn, heach⟩
      have hordered := hiff.mpr (hturn _ rfl)
      exact ⟨h, (ih hordered hnext hrest).mpr heach⟩

/-- While every retry is in turn, the head stands for the queue in every state of a run. -/
theorem age_bounded_of_inTurn (o : RequestQueueOptions) (calls : List Call)
    (hclock : (calls.filterMap Call.clock).Pairwise (· ≤ ·))
    (hturn : (machine o).Each (fun s c _ => InTurn o s c) {} calls) :
    (machine o).Always (AgeBounded o) {} calls := by
  obtain ⟨now, hnow⟩ : ∃ now, Clocked now calls := by
    unfold Clocked
    cases hclocks : calls.filterMap Call.clock with
    | nil => exact ⟨0, List.pairwise_singleton _ _⟩
    | cons first rest =>
      rw [hclocks] at hclock
      refine ⟨first, List.pairwise_cons.mpr ⟨fun t ht => ?_, hclock⟩⟩
      rcases List.mem_cons.mp ht with rfl | ht
      · exact Int.le_refl _
      · exact (List.pairwise_cons.mp hclock).1 t ht
  have hordered : ({} : MonitoredQueue).Ordered := List.Pairwise.nil
  have hpast : ({} : MonitoredQueue).Past now := fun _ ht => absurd ht List.not_mem_nil
  exact ((ordered_iff_inTurn hordered hpast hnow).mpr hturn).mono fun _ => Ordered.ageBounded

/-- The job that is retried is the youngest. -/
theorem age_bounded_youngest_retried :
    (machine {}).Always (AgeBounded {}) {}
      [.enqueue ⟨1, "raffle", 0⟩ 0, .enqueue ⟨2, "raffle", 0⟩ 5,
        .recordFailure "raffle" 2 "ECONNRESET" 6, .evacuateUnhealthy 7] := by
  refine age_bounded_of_inTurn {} _ (by decide) ⟨fun _ _ => trivial, fun _ _ => trivial,
    fun _ _ found hfound _ _ => ?_, fun _ _ => trivial, trivial⟩
  cases hfound
  decide

/-- An old job is retried and goes behind a younger one: the age view reports 4 while
7 ms are past, and an evacuation leaves it behind. -/
theorem age_unbounded_old_retried :
    let o : RequestQueueOptions := { ageLimitMs := 5 }
    let s := (machine o).run {} [.enqueue ⟨1, "raffle", 0⟩ 0, .enqueue ⟨2, "raffle", 0⟩ 3,
      .recordFailure "raffle" 1 "ECONNRESET" 4]
    s.oldestAgeMs 7 = some 4 ∧ (s.queue.jobs.map (TrackedJob.ageMs 7)).max? = some 7 ∧
      (s.evacuateUnhealthy o 7).1 = 0 ∧
      ∃ t ∈ (s.evacuateUnhealthy o 7).2.queue.jobs, o.ageLimitMs < t.ageMs 7 := by
  decide

end MonitoredQueue
end TikkaRaffle.Oracle
