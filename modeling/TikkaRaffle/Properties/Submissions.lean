import Mathlib.Data.List.Nodup
import TikkaRaffle.Oracle.Keys

/-! What the store of seen requests says about submissions, over any number of restarts.
A request is marked before it is submitted: this rules out a second submission, and it
loses the requests that fail or are cut off in between. -/
namespace TikkaRaffle.Properties

open TikkaRaffle.Lib TikkaRaffle.Oracle Function

variable {s s' : System} {event : Event} {requestId : Nat} {raffle : String}

/-- A submission for the request has returned. -/
def Submitted (s : System) (requestId : Nat) (raffle : String) : Prop :=
  ∃ job ∈ s.submitted, job.requestId = requestId ∧ job.raffleContract = raffle

/-- A call of `processJob` for the request has not ended. -/
def Processing (s : System) (requestId : Nat) (raffle : String) : Prop :=
  ∃ loop r, s.memory.run loop = some r ∧ r.active = true ∧
    r.job.requestId = requestId ∧ r.job.raffleContract = raffle

/-- The store holds the key, in memory or in the file. -/
def Seen (s : System) (requestId : Nat) (raffle : String) : Prop :=
  dedupKey requestId raffle ∈ s.store.seen ∨ dedupKey requestId raffle ∈ s.store.saved

theorem submitted_iff :
    Submitted s requestId raffle ↔ dedupKey requestId raffle ∈ s.submittedKeys := by
  simp [Submitted, System.submittedKeys, RandomnessJob.key, dedupKey_inj]

theorem processing_iff :
    Processing s requestId raffle ↔ s.Active (dedupKey requestId raffle) := by
  simp [Processing, System.Active, System.key, activeKey_eq_some, RandomnessJob.key, dedupKey_inj]

/-- A request in the store that is not being processed is submitted, and one that is
neither is processed when it comes again. -/
structure SeenSubmitted (s : System) : Prop where
  seen : ∀ requestId raffle, ¬Processing s requestId raffle → Seen s requestId raffle →
    Submitted s requestId raffle
  again : ∀ loop job, ¬Processing s job.requestId job.raffleContract →
    ¬Submitted s job.requestId job.raffleContract →
      (s.processJob loop job).memory.run loop = some ⟨job, .checking⟩

/-- Processing does not fail, and the process does not stop with a marked request under
way, unless the request was submitted before. -/
structure Settles (s : System) (event : Event) : Prop where
  failure : ∀ job, s.gaveUp event = some job → Submitted s job.requestId job.raffleContract
  stop : event = .stopped → ∀ requestId raffle, Processing s requestId raffle →
    dedupKey requestId raffle ∈ s.store.saved → Submitted s requestId raffle

theorem seenSubmitted_iff :
    SeenSubmitted s ↔ ∀ requestId raffle, s.Known (dedupKey requestId raffle) := by
  constructor
  · intro h requestId raffle hseen
    rw [← submitted_iff, ← processing_iff]
    by_cases hrun : Processing s requestId raffle
    · exact .inr hrun
    · exact .inl (h.seen requestId raffle hrun hseen)
  · intro h
    have hseen : ∀ requestId raffle, ¬Processing s requestId raffle → Seen s requestId raffle →
        Submitted s requestId raffle := by
      intro requestId raffle hrun hseen
      rw [submitted_iff]
      exact (h requestId raffle hseen).resolve_right (processing_iff.not.mp hrun)
    refine ⟨hseen, fun loop job hrun hnot => ?_⟩
    have hnew : job.key ∉ s.store.seen := fun hmem => hnot (hseen _ _ hrun (.inl hmem))
    have hstore := DeduplicationStore.isDuplicate_of_notMem hnew
    simp [System.processJob, System.setRun, hstore]

theorem settles_iff :
    Settles s event ↔ ∀ requestId raffle, s.Spares event (dedupKey requestId raffle) := by
  constructor
  · refine fun h requestId raffle => ⟨?_, ?_⟩
    · intro job hgave hkey
      rw [← hkey]
      exact submitted_iff.mp (h.failure job hgave)
    · intro hstopped hactive hfile
      exact submitted_iff.mp (h.stop hstopped _ _ (processing_iff.mpr hactive) hfile)
  · refine fun h => ⟨?_, ?_⟩
    · exact fun job hgave => submitted_iff.mpr ((h _ _).1 job hgave rfl)
    · intro hstopped requestId raffle hrun hfile
      exact submitted_iff.mpr ((h _ _).2 hstopped (processing_iff.mp hrun) hfile)

theorem seen_implies_submitted_iff (oracle : String) (events : List Event) :
    (pipeline oracle).Always SeenSubmitted {} events ↔
      (pipeline oracle).Each (fun s event _ => Settles s event) {} events := by
  refine Machine.always_iff_each System.Consistent (fun s event s' hs hok => hs.step hok) ?_
    System.consistent_init ?_ events
  · intro s event s' hs hknown hok
    rw [seenSubmitted_iff] at hknown ⊢
    rw [settles_iff]
    exact forall₂_congr fun requestId raffle =>
      System.known_step hs.claimed (hs.keyStep hok) (hknown requestId raffle)
  · rw [seenSubmitted_iff]
    intro requestId raffle hseen
    simp at hseen

def aRequest : ParsedRandomnessRequest := ⟨"oracle", 7, 0, "raffle"⟩

def failedCheck : List Event :=
  [.boot true, .initialized 3, .polled 0 [aRequest] 5, .checkpointSaved true, .woken,
    .checked .processQueue (.error ()) true, .resumed .processQueue]

theorem failed_request_is_seen :
    ¬∀ (oracle : String) (events : List Event),
      (pipeline oracle).Always SeenSubmitted {} events := by
  intro h
  have hsubmitted : Submitted ((pipeline "oracle").run {} failedCheck) 7 "raffle" := by
    refine (h "oracle" failedCheck).last.seen 7 "raffle" ?_ (.inl (by decide))
    rw [processing_iff]
    rintro ⟨loop, hloop⟩
    cases loop
    · exact absurd hloop (by decide)
    · exact absurd hloop (by decide)
  rw [submitted_iff] at hsubmitted
  exact absurd hsubmitted (by decide)

def reliable : Event → Bool
  | .boot readable => readable
  | .diskChanged writable => writable
  | _ => true

/-- No request is submitted twice, and a job is skipped for its own request only. -/
structure SubmitsOnce (s : System) : Prop where
  once : ∀ requestId raffle, s.invoked.countP (fun sent =>
    sent.2.requestId = requestId ∧ sent.2.raffleContract = raffle) ≤ 1
  apart : ∀ loop job, (s.processJob loop job).memory.run loop = some ⟨job, .settled .skipped⟩ →
    ∃ earlier ∈ s.called, earlier.requestId = job.requestId ∧
      earlier.raffleContract = job.raffleContract

structure OnFile (c : Claims) : Prop where
  writable : c.store.writable = true
  synced : c.store.seen = if c.up then c.store.saved else []
  sent : ∀ entry ∈ c.invoked, entry.2.key ∈ c.store.saved
  pending : ∀ loop job, c.run loop = some ⟨job, .checking⟩ → ∀ entry ∈ c.invoked,
    entry.2.key ≠ job.key
  once : (c.invoked.map (·.2.key)).Nodup
  called : ∀ key ∈ c.store.saved, ∃ job ∈ c.called, job.key = key

theorem onFile_init : OnFile (System.claims {}) := by
  constructor <;> simp [System.claims]

theorem OnFile.frame {c c' : Claims} (hm : OnFile c) (hup : c'.up = c.up)
    (hstore : c'.store = c.store) (hinvoked : c'.invoked = c.invoked)
    (hcalled : ∀ job ∈ c.called, job ∈ c'.called)
    (hrun : ∀ loop job, c'.run loop = some ⟨job, .checking⟩ →
      c.run loop = some ⟨job, .checking⟩) : OnFile c' := by
  refine ⟨by rw [hstore, hm.writable], by rw [hstore, hup, hm.synced], ?_, ?_, ?_, ?_⟩
  · rw [hstore, hinvoked]
    exact hm.sent
  · rw [hinvoked]
    exact fun loop job h => hm.pending loop job (hrun loop job h)
  · rw [hinvoked]
    exact hm.once
  · rw [hstore]
    intro key hkey
    obtain ⟨job, hjob, hsame⟩ := hm.called key hkey
    exact ⟨job, hcalled job hjob, hsame⟩

theorem checking_of_update {run : Loop → Option Run} {loop : Loop} {next : Option Run}
    (hnext : ∀ job, next ≠ some ⟨job, .checking⟩) (loop' : Loop) (job : RandomnessJob)
    (h : update run loop next loop' = some ⟨job, .checking⟩) :
    run loop' = some ⟨job, .checking⟩ := by
  rw [update_apply] at h
  split at h
  · exact absurd h (hnext job)
  · exact h

theorem OnFile.synced_up (hm : OnFile s.claims) (hup : s.memory.up = true) :
    s.store.seen = s.store.saved := by
  simpa [System.claims, hup] using hm.synced

theorem OnFile.mark (hm : OnFile s.claims) (hup : s.memory.up = true) {loop : Loop}
    {job : RandomnessJob} (hnew : job.key ∉ s.store.seen) :
    OnFile { s.claims with
      called := s.called ++ [job]
      store := s.store.add job.key
      run := update s.memory.run loop (some ⟨job, .checking⟩) } := by
  have hsynced := hm.synced_up hup
  have hfile : (s.store.add job.key).saved = s.store.saved ++ [job.key] := by
    rw [DeduplicationStore.add_saved (d := s.store) hm.writable, hsynced]
  rw [hsynced] at hnew
  refine ⟨DeduplicationStore.add_writable.trans hm.writable, ?_, ?_, ?_, hm.once, ?_⟩
  · simp [System.claims, hup, hfile, hsynced]
  · simp only [hfile]
    exact fun entry hentry => List.mem_append_left _ (hm.sent entry hentry)
  · intro loop' job' hrun entry hentry
    simp only [update_apply] at hrun
    split at hrun
    · cases hrun
      exact fun hsame => hnew (hsame ▸ hm.sent entry hentry)
    · exact hm.pending loop' job' hrun entry hentry
  · simp only [hfile, List.mem_append, List.mem_singleton]
    rintro key (hold | rfl)
    · obtain ⟨earlier, hearlier, hsame⟩ := hm.called key hold
      exact ⟨earlier, .inl hearlier, hsame⟩
    · exact ⟨job, .inr rfl, rfl⟩

/-- A marked job is sent: it was not sent before, and no other loop has it. -/
theorem OnFile.send (hm : OnFile s.claims) (hs : s.Consistent) {loop : Loop}
    {job : RandomnessJob} (hrun : s.memory.run loop = some ⟨job, .checking⟩)
    (method : Submission) :
    OnFile { s.claims with
      run := update s.memory.run loop (some ⟨job, .submitting method⟩)
      invoked := s.invoked ++ [(method, job)] } := by
  have hkey : s.key loop = some job.key := by simp [System.key, hrun]
  have hfile : job.key ∈ s.store.saved := by
    rw [← hm.synced_up (hs.placed.up_of_run hrun)]
    exact hs.claimed.seen loop job.key hkey
  refine ⟨hm.writable, hm.synced, ?_, ?_, ?_, hm.called⟩
  · intro entry hentry
    rcases List.mem_append.mp hentry with hold | hnew
    · exact hm.sent entry hold
    · rw [List.mem_singleton.mp hnew]
      exact hfile
  · intro loop' job' hrun' entry hentry
    simp only [update_apply] at hrun'
    split at hrun'
    · cases hrun'
    · next hne =>
      rcases List.mem_append.mp hentry with hold | hnew
      · exact hm.pending loop' job' hrun' entry hold
      · rw [List.mem_singleton.mp hnew]
        intro hsame
        have hkey' : s.key loop' = some job.key := by
          simp [System.key, show s.memory.run loop' = _ from hrun', hsame]
        exact hne (hs.claimed.distinct loop' loop job.key hkey' hkey)
  · rw [List.map_append, List.nodup_append]
    refine ⟨hm.once, by simp, ?_⟩
    intro key hold key' hnew
    obtain ⟨entry, hentry, rfl⟩ := List.mem_map.mp hold
    obtain rfl : key' = job.key := by simpa using hnew
    exact hm.pending loop job hrun entry hentry

theorem onFile_step (hs : s.Consistent) (hm : OnFile s.claims) (hevent : reliable event = true)
    (h : System.JobStep s event s') : OnFile s'.claims := by
  cases h with
  | begun loop job hidle hquiet hclaims hwaiting =>
    have hup := hs.placed.up_of_waiting (hwaiting.mem_iff.mpr (List.mem_cons_self ..))
    rcases System.processJob_cases loop job s with ⟨hseen, hjob⟩ | ⟨hnew, hjob⟩
    · rw [hclaims, hjob]
      exact hm.frame rfl rfl rfl (fun _ => List.mem_append_left _)
        (checking_of_update (by simp))
    · rw [hclaims, hjob]
      exact hm.mark hup hnew
  | sent loop job method hquiet hrun hclaims hwaiting =>
    rw [hclaims]
    exact hm.send hs hrun method
  | failed loop r hrun hactive hgave hgoes hclaims hwaiting =>
    rw [hclaims]
    exact hm.frame rfl rfl rfl (fun _ => id) (checking_of_update (by simp))
  | submitted loop job method hquiet hrun hclaims hwaiting =>
    have hkey : s.key loop = some job.key := by simp [System.key, hrun]
    rw [hclaims, DeduplicationStore.isDuplicate_of_mem (hs.claimed.seen loop job.key hkey)]
    exact hm.frame rfl rfl rfl (fun _ => id) (checking_of_update (by simp))
  | cleared loop hidle hquiet hclaims hwaiting =>
    rw [hclaims]
    exact hm.frame rfl rfl rfl (fun _ => id) (checking_of_update (by simp))
  | received jobs hquiet hclaims hwaiting =>
    rw [hclaims]
    exact hm
  | booted readable hboot hdown hclaims hwaiting =>
    subst hboot
    have hreadable : readable = true := hevent
    rw [hclaims, hreadable]
    exact ⟨hm.writable, rfl, hm.sent, hm.pending, hm.once, hm.called⟩
  | stopped hstopped hclaims hwaiting =>
    rw [hclaims]
    exact ⟨hm.writable, rfl, hm.sent, by simp, hm.once, hm.called⟩
  | diskChanged writable hdisk hclaims hwaiting =>
    subst hdisk
    rw [hclaims]
    exact ⟨hevent, hm.synced, hm.sent, hm.pending, hm.once, hm.called⟩

theorem submitsOnce_of_onFile (hm : OnFile s.claims) : SubmitsOnce s := by
  constructor
  · intro requestId raffle
    have hcount := List.nodup_iff_count_le_one.mp hm.once (dedupKey requestId raffle)
    rw [List.count, List.countP_map] at hcount
    refine le_of_eq_of_le (List.countP_congr fun entry _ => ?_) hcount
    simp [RandomnessJob.key, dedupKey_inj]
  · intro loop job hskipped
    have hseen : job.key ∈ s.store.seen := by
      by_contra hnew
      have hstore := DeduplicationStore.isDuplicate_of_notMem hnew
      simp [System.processJob, System.setRun, hstore] at hskipped
    have hfile : job.key ∈ s.store.saved := by
      rw [show s.store.seen = _ from hm.synced] at hseen
      split at hseen
      · exact hseen
      · simp at hseen
    obtain ⟨earlier, hearlier, hsame⟩ := hm.called job.key hfile
    exact ⟨earlier, hearlier, dedupKey_inj.mp hsame⟩

theorem at_most_one_submission (oracle : String) (events : List Event)
    (h : ∀ event ∈ events, reliable event = true) :
    (pipeline oracle).Always SubmitsOnce {} events := by
  have hreliable : (pipeline oracle).Each (fun _ event _ => reliable event = true) {} events :=
    Machine.each_of_forall fun event hmem _ _ => h event hmem
  have hall := Machine.always_of_each (fun s => s.Consistent ∧ OnFile s.claims)
    (fun s event s' hi hp hok =>
      ⟨hi.1.step hok, onFile_step hi.1 hi.2 hp (System.step_jobs hi.1.placed hok).1⟩)
    ⟨System.consistent_init, onFile_init⟩ hreliable
  exact hall.mono fun s hi => submitsOnce_of_onFile hi.2

def redelivered : List Event :=
  [.boot true, .initialized 3, .polled 0 [aRequest] 5, .checkpointSaved true, .woken, .slept,
    .polled 0 [aRequest] 6, .shutdown true, .checked .processQueue (.ok false) true,
    .returned .processQueue true, .stopped, .boot true, .initialized 9, .polled 0 [aRequest] 9,
    .woken]

theorem at_most_one_submission_redelivered :
    (∀ event ∈ redelivered, reliable event = true) ∧
      (pipeline "oracle").Always SubmitsOnce {} redelivered ∧
        ((pipeline "oracle").run {} redelivered).invoked.length = 1 :=
  ⟨by decide, at_most_one_submission "oracle" redelivered (by decide), by decide⟩

end TikkaRaffle.Properties
