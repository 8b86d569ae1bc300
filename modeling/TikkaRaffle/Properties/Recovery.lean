import TikkaRaffle.Oracle.Ledgers
import TikkaRaffle.Properties.Submissions

/-! Which requests a restart of the oracle can lose. The checkpoint moves when requests
enter a queue in memory, so what it covers is safe only as long as the process goes on. -/
namespace TikkaRaffle.Properties

open TikkaRaffle.Lib TikkaRaffle.Oracle

abbrev Chain := Nat → List ParsedRandomnessRequest

variable {oracle : String} {chain : Chain} {s s' : System} {event : Event} {ledger : Nat}
  {request : ParsedRandomnessRequest}

def Addressed (oracle : String) (chain : Chain) (ledger : Nat)
    (request : ParsedRandomnessRequest) : Prop :=
  request ∈ chain ledger ∧ request.oracle = oracle

/-- The request waits in memory or is being processed. -/
def Held (s : System) (request : ParsedRandomnessRequest) : Prop :=
  Processing s request.requestId request.raffleContract ∨
    ∃ job ∈ s.waiting, job.requestId = request.requestId ∧
      job.raffleContract = request.raffleContract

/-- When the process is down, every request for the oracle up to the checkpoint is
submitted or stored, or its ledger is one from which the listener will start. -/
def NoneLost (oracle : String) (chain : Chain) (s : System) : Prop :=
  s.memory.up = false → ∀ checkpoint, s.checkpoint = some checkpoint →
    ∀ ledger ≤ checkpoint, ∀ request, Addressed oracle chain ledger request →
      Submitted s request.requestId request.raffleContract ∨ request.job ∈ s.deadLetters ∨
        checkpoint + 1 ≤ ledger

/-- The responses tell all that is on the chain, and nothing is asked of the oracle
before its first start. -/
structure Observes (oracle : String) (chain : Chain) (s : System) (event : Event) : Prop where
  complete : ∀ now events latest, event = .polled now events latest →
    ∀ ledger ≤ latest, s.memory.startLedger ≤ ledger →
      ∀ request, Addressed oracle chain ledger request → request ∈ events
  first : ∀ latest, event = .initialized latest → s.checkpoint = none →
    ∀ ledger < latest, ∀ request, ¬Addressed oracle chain ledger request

/-- Besides, processing does not fail, and the process holds nothing at its end that the
checkpoint covers, unless it was submitted before. -/
structure Delivers (oracle : String) (chain : Chain) (s : System) (event : Event) : Prop
    extends Observes oracle chain s event, Settles s event where
  finished : event = .stopped → ∀ checkpoint, s.checkpoint = some checkpoint →
    ∀ ledger ≤ checkpoint, ∀ request, Addressed oracle chain ledger request → Held s request →
      Submitted s request.requestId request.raffleContract

/-- Ledgers that are not read again hold only requests that are reached. -/
structure Recoverable (oracle : String) (chain : Chain) (s : System) : Prop where
  consistent : s.Consistent
  known : ∀ requestId raffle, s.Known (dedupKey requestId raffle)
  reached : ∀ n, s.Promised n → ∀ ledger < n, ∀ request, Addressed oracle chain ledger request →
    s.Reached request.job.key

theorem held_iff : Held s request ↔
    s.Active request.job.key ∨ ∃ job ∈ s.waiting, job.key = request.job.key := by
  simp only [Held, processing_iff, RandomnessJob.key, dedupKey_inj, ParsedRandomnessRequest.job]

theorem recoverable_init : Recoverable oracle chain {} := by
  refine ⟨System.consistent_init, fun requestId raffle h => by simp at h, fun n h => ?_⟩
  obtain ⟨ledger, hsaved, -⟩ := h.of_down rfl
  cases hsaved

/-- A response comes to a listener that has asked, and what it brings waits in the
queue. -/
theorem polled_ok {now latest : Nat} {events : List ParsedRandomnessRequest}
    (hok : s.step oracle (.polled now events latest) = .ok s') :
    s.memory.listener = .polling ∧
      ∀ request ∈ events, request.oracle = oracle → request.job ∈ s'.waiting := by
  simp only [System.step, except_bind_ok, check_ok, except_pure_ok] at hok
  obtain ⟨-, hlistener, rfl⟩ := hok
  refine ⟨hlistener, fun request hrequest horacle => ?_⟩
  simp only [System.waiting, System.polled, RequestQueue.pending_enqueueAll, List.mem_append,
    List.mem_map, List.mem_filter, decide_eq_true_eq]
  exact .inl (.inl (.inr ⟨request, ⟨hrequest, horacle⟩, rfl⟩))

theorem reached_stopped (hs : Recoverable oracle chain s) (hd : Delivers oracle chain s .stopped)
    (hok : s.step oracle .stopped = .ok s') {n : Nat} (hn : s'.Promised n) (hledger : ledger < n)
    (hrequest : Addressed oracle chain ledger request) : s'.Reached request.job.key := by
  simp only [System.step, except_bind_ok, check_ok, except_pure_ok] at hok
  obtain ⟨-, -, rfl⟩ := hok
  obtain ⟨checkpoint, hsaved, rfl⟩ := hn.of_down rfl
  have hkeys : request.job.key ∈ s.submittedKeys := by
    rcases hs.reached _ (.checkpoint checkpoint hsaved) ledger hledger request hrequest with
      hkeys | hheld
    · exact hkeys
    · exact submitted_iff.mp (hd.finished rfl checkpoint hsaved ledger (Nat.le_of_lt_succ hledger)
        request hrequest (held_iff.mpr hheld))
  exact .inl hkeys

theorem recoverable_step (hs : Recoverable oracle chain s) (hd : Delivers oracle chain s event)
    (hok : s.step oracle event = .ok s') : Recoverable oracle chain s' := by
  have hkeys := hs.consistent.keyStep hok
  have hspares := settles_iff.mp hd.toSettles
  refine ⟨hs.consistent.step hok, fun requestId raffle => ?_, ?_⟩
  · exact (System.known_step hs.consistent.claimed hkeys (hs.known requestId raffle)).mpr
      (hspares requestId raffle)
  · intro n hn ledger hledger request hrequest
    by_cases hgoes : event = .stopped
    · subst hgoes
      exact reached_stopped hs hd hok hn hledger hrequest
    · have hstill : s.Reached request.job.key → s'.Reached request.job.key :=
        System.reached_step hkeys (hs.known _ _) (hspares _ _) hgoes
      rcases System.promised_step hs.consistent.placed hok hn with
        hold | ⟨now, events, latest, rfl, rfl⟩ | ⟨latest, rfl, hnone, rfl⟩
      · exact hstill (hs.reached n hold ledger hledger request hrequest)
      · obtain ⟨hlistener, hwaits⟩ := polled_ok hok
        by_cases hread : ledger < s.memory.startLedger
        · have hstart := System.Promised.start (s := s) (by simp [hlistener])
          exact hstill (hs.reached _ hstart ledger hread request hrequest)
        · have hevent := hd.complete now events latest rfl ledger (Nat.le_of_lt_succ hledger)
            (Nat.le_of_not_lt hread) request hrequest
          exact .inr (.inr ⟨request.job, hwaits request hevent hrequest.2, rfl⟩)
      · exact absurd hrequest (hd.first _ rfl hnone ledger hledger request)

theorem noneLost_of_recoverable (hs : Recoverable oracle chain s) : NoneLost oracle chain s := by
  intro hdown checkpoint hcheckpoint ledger hledger request hrequest
  have hreached := hs.reached _ (.checkpoint checkpoint hcheckpoint) ledger
    (Nat.lt_succ_of_le hledger) request hrequest
  have hmemory := hs.consistent.placed.down hdown
  rcases hreached with hkeys | ⟨loop, hloop⟩ | ⟨job, hjob, -⟩
  · exact .inl (submitted_iff.mpr hkeys)
  · simp [System.key, hmemory] at hloop
  · exact absurd (hs.consistent.placed.up_of_waiting hjob) (by simp [hdown])

theorem none_lost (oracle : String) (chain : Chain) (events : List Event)
    (h : (pipeline oracle).Each (fun s event _ => Delivers oracle chain s event) {} events) :
    (pipeline oracle).Always (NoneLost oracle chain) {} events :=
  (Machine.always_of_each (Recoverable oracle chain)
    (fun _ _ _ hs hd hok => recoverable_step hs hd hok) recoverable_init h).mono
    fun _ => noneLost_of_recoverable

def oneRequest : Chain := fun ledger => if ledger = 5 then [aRequest] else []

theorem addressed_oneRequest (h : Addressed "oracle" oneRequest ledger request) :
    ledger = 5 ∧ request = aRequest := by
  have hmem := h.1
  unfold oneRequest at hmem
  split at hmem
  · next hledger => exact ⟨hledger, List.mem_singleton.mp hmem⟩
  · simp at hmem

def firstPoll : List Event :=
  [.boot true, .initialized 3, .polled 0 [aRequest] 5, .checkpointSaved true]

theorem observes_firstPoll (hmem : event ∈ firstPoll) (s : System) :
    Observes "oracle" oneRequest s event := by
  simp only [firstPoll, List.mem_cons, List.not_mem_nil, or_false] at hmem
  constructor
  · rintro now events latest rfl ledger - - request hrequest
    obtain ⟨-, rfl⟩ := addressed_oneRequest hrequest
    simp_all
  · rintro latest rfl - ledger hledger request hrequest
    obtain ⟨rfl, -⟩ := addressed_oneRequest hrequest
    simp_all

/-- The process stops before the queue is looked at. -/
theorem queued_request_is_lost :
    ¬∀ (oracle : String) (chain : Chain) (events : List Event),
      (pipeline oracle).Each (fun s event _ => Observes oracle chain s event) {} events →
        (pipeline oracle).Always (NoneLost oracle chain) {} events := by
  intro h
  have hobserves : (pipeline "oracle").Each
      (fun s event _ => Observes "oracle" oneRequest s event) {} (firstPoll ++ [.stopped]) := by
    refine Machine.each_of_forall fun event hmem s _ => ?_
    rcases List.mem_append.mp hmem with hfirst | hlast
    · exact observes_firstPoll hfirst s
    · rw [List.mem_singleton.mp hlast]
      exact ⟨by simp, by simp⟩
  have hlost := (h "oracle" oneRequest _ hobserves).last (by decide) 5 (by decide) 5 (Nat.le_refl 5)
    aRequest ⟨by decide, rfl⟩
  rw [submitted_iff] at hlost
  exact absurd hlost (by decide)

def delivered : List Event :=
  firstPoll ++ [.woken, .checked .processQueue (.ok true) true, .returned .processQueue true,
    .resumed .processQueue, .shutdown true, .leaveDrain, .checkpointLoaded true,
    .checkpointRestored true]

theorem delivers_before_stop (hmem : event ∈ delivered) (s : System) :
    Delivers "oracle" oneRequest s event := by
  have hgoes : event ≠ .stopped := by
    rintro rfl
    simp [delivered, firstPoll] at hmem
  have hgave : s.gaveUp event = none := by
    simp only [delivered, firstPoll, List.mem_append, List.mem_cons, List.not_mem_nil,
      or_false] at hmem
    rcases hmem with (rfl | rfl | rfl | rfl) | rfl | rfl | rfl | rfl | rfl | rfl | rfl | rfl <;> rfl
  have hobserves : Observes "oracle" oneRequest s event := by
    rcases List.mem_append.mp hmem with hfirst | hlast
    · exact observes_firstPoll hfirst s
    · constructor
      · rintro now events latest rfl
        simp at hlast
      · rintro latest rfl
        simp at hlast
  exact ⟨hobserves, ⟨fun job h => by simp [hgave] at h, fun h => absurd h hgoes⟩,
    fun h => absurd h hgoes⟩

theorem delivers_at_stop :
    Delivers "oracle" oneRequest ((pipeline "oracle").run {} delivered) .stopped := by
  have hsubmitted : Submitted ((pipeline "oracle").run {} delivered) 7 "raffle" := by
    rw [submitted_iff]
    decide
  refine ⟨⟨by simp, by simp⟩, ⟨fun job h => (by cases h), ?_⟩, ?_⟩
  · rintro - requestId raffle hrun -
    rw [processing_iff] at hrun
    obtain ⟨loop, hloop⟩ := hrun
    have hnone : ((pipeline "oracle").run {} delivered).key loop = none := by
      cases loop
      · decide
      · decide
    rw [hnone] at hloop
    cases hloop
  · rintro - checkpoint - ledger - request hrequest -
    obtain ⟨-, rfl⟩ := addressed_oneRequest hrequest
    exact hsubmitted

theorem none_lost_delivered :
    (pipeline "oracle").Each (fun s event _ => Delivers "oracle" oneRequest s event) {}
        (delivered ++ [.stopped]) ∧
      (pipeline "oracle").Always (NoneLost "oracle" oneRequest) {} (delivered ++ [.stopped]) := by
  have heach : (pipeline "oracle").Each (fun s event _ => Delivers "oracle" oneRequest s event) {}
      (delivered ++ [.stopped]) := by
    refine Machine.each_append.mpr ⟨?_, ⟨fun _ _ => delivers_at_stop, trivial⟩⟩
    exact Machine.each_of_forall fun event hmem s _ => delivers_before_stop hmem s
  exact ⟨heach, none_lost "oracle" oneRequest _ heach⟩

end TikkaRaffle.Properties
