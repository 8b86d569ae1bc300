import TikkaRaffle.Oracle.Jobs

/-! The keys of requests along a run of the pipeline: which are being processed, which
the store has seen, and which are submitted. -/
namespace TikkaRaffle.Oracle

open TikkaRaffle.Lib Function

def activeKey (r : Option Run) : Option String :=
  r.bind fun r => if r.active then some r.job.key else none

@[simp] theorem activeKey_none : activeKey none = none := rfl

@[simp] theorem activeKey_settled (job : RandomnessJob) (outcome : Outcome) :
    activeKey (some ⟨job, .settled outcome⟩) = none := rfl

@[simp] theorem activeKey_checking (job : RandomnessJob) :
    activeKey (some ⟨job, .checking⟩) = some job.key := rfl

@[simp] theorem activeKey_submitting (job : RandomnessJob) (method : Submission) :
    activeKey (some ⟨job, .submitting method⟩) = some job.key := rfl

theorem activeKey_eq_some {r : Option Run} {key : String} :
    activeKey r = some key ↔ ∃ run, r = some run ∧ run.active = true ∧ run.job.key = key := by
  cases r with
  | none => simp
  | some run => by_cases h : run.active = true <;> simp [activeKey, h]

namespace System

def key (s : System) : Loop → Option String :=
  activeKey ∘ s.memory.run

theorem key_update {s s' : System} {loop : Loop} {next : Option Run}
    (h : s'.memory.run = update s.memory.run loop next) :
    s'.key = update s.key loop (activeKey next) := by
  unfold key
  rw [h, comp_update]

theorem Idle.key {s : System} {loop : Loop} (h : s.Idle loop) : s.key loop = none := by
  cases hrun : s.memory.run loop with
  | none => simp [System.key, hrun]
  | some r => simp [System.key, hrun, activeKey, h r hrun]

structure Claimed (s : System) : Prop where
  seen : ∀ loop key, s.key loop = some key → key ∈ s.store.seen
  distinct : ∀ loop loop' key, s.key loop = some key → s.key loop' = some key → loop = loop'

inductive KeyStep (s : System) (event : Event) (s' : System) : Prop
  | same (hquiet : s.Quiet event) (hkey : s'.key = s.key) (hsubmitted : s'.submitted = s.submitted)
      (hseen : s'.store.seen = s.store.seen) (hsaved : s'.store.saved = s.store.saved)
      (hwaiting : ∀ job ∈ s.waiting, job ∈ s'.waiting ∨ job.key ∈ s.store.seen)
  | claimed (loop : Loop) (job : RandomnessJob) (hquiet : s.Quiet event)
      (hfree : s.key loop = none) (hnew : job.key ∉ s.store.seen)
      (hkey : s'.key = update s.key loop (some job.key)) (hsubmitted : s'.submitted = s.submitted)
      (hseen : s'.store.seen = s.store.seen ++ [job.key])
      (hsaved : ∀ key ∈ s'.store.saved, key ∈ s'.store.seen ∨ key ∈ s.store.saved)
      (hwaiting : ∀ job' ∈ s.waiting, job' ∈ s'.waiting ∨ job' = job)
  | failed (loop : Loop) (job : RandomnessJob) (hgave : s.gaveUp event = some job)
      (hgoes : event ≠ .stopped) (hold : s.key loop = some job.key)
      (hkey : s'.key = update s.key loop none) (hsubmitted : s'.submitted = s.submitted)
      (hstore : s'.store = s.store) (hwaiting : s'.waiting = s.waiting)
  | submitted (loop : Loop) (job : RandomnessJob) (hquiet : s.Quiet event)
      (hold : s.key loop = some job.key) (hkey : s'.key = update s.key loop none)
      (hsubmitted : s'.submitted = s.submitted ++ [job])
      (hstore : s'.store = s.store) (hwaiting : s'.waiting = s.waiting)
  | booted (hquiet : s.Quiet event) (hdown : s.key = fun _ => none) (hwaiting : s.waiting = [])
      (hkey : s'.key = s.key) (hsubmitted : s'.submitted = s.submitted)
      (hseen : ∀ key ∈ s'.store.seen, key ∈ s.store.saved)
      (hsaved : s'.store.saved = s.store.saved)
  | stopped (hevent : event = .stopped) (hkey : s'.key = fun _ => none)
      (hsubmitted : s'.submitted = s.submitted) (hseen : s'.store.seen = [])
      (hsaved : s'.store.saved = s.store.saved)

theorem keyStep {s s' : System} {event : Event} (hc : s.Claimed)
    (h : JobStep s event s') : KeyStep s event s' := by
  cases h with
  | begun loop job hidle hquiet hclaims hwaiting =>
    rcases processJob_cases loop job s with ⟨hseen, hjob⟩ | ⟨hnew, hjob⟩
    · rw [hjob] at hclaims
      simp only [claims, Claims.mk.injEq] at hclaims
      obtain ⟨-, hstore, hrun, -, -, hsubmitted⟩ := hclaims
      have hkey := key_update hrun
      rw [activeKey_settled, ← hidle.key, update_eq_self] at hkey
      refine .same hquiet hkey hsubmitted (by rw [hstore]) (by rw [hstore]) ?_
      intro job' hjob'
      rcases List.mem_cons.mp (hwaiting.mem_iff.mp hjob') with rfl | hrest
      · exact .inr hseen
      · exact .inl hrest
    · rw [hjob] at hclaims
      simp only [claims, Claims.mk.injEq] at hclaims
      obtain ⟨-, hstore, hrun, -, -, hsubmitted⟩ := hclaims
      refine .claimed loop job hquiet hidle.key hnew (key_update hrun) hsubmitted ?_ ?_ ?_
      · rw [hstore, DeduplicationStore.add_seen]
      · intro key hkey
        rw [hstore] at hkey ⊢
        exact DeduplicationStore.mem_add_saved hkey
      · intro job' hjob'
        exact (List.mem_cons.mp (hwaiting.mem_iff.mp hjob')).symm
  | sent loop job method hquiet hrun hclaims hwaiting =>
    simp only [claims, Claims.mk.injEq] at hclaims
    obtain ⟨-, hstore, hnext, -, -, hsubmitted⟩ := hclaims
    have hkey := key_update hnext
    have hold : s.key loop = some job.key := by simp [key, hrun]
    rw [activeKey_submitting, ← hold, update_eq_self] at hkey
    refine .same hquiet hkey hsubmitted (by rw [hstore]) (by rw [hstore]) ?_
    rw [hwaiting]
    exact fun _ => .inl
  | failed loop r hrun hactive hevent hgoes hclaims hwaiting =>
    simp only [claims, Claims.mk.injEq] at hclaims
    obtain ⟨-, hstore, hnext, -, -, hsubmitted⟩ := hclaims
    refine .failed loop r.job hevent hgoes ?_ (key_update hnext) hsubmitted hstore hwaiting
    simp [key, hrun, activeKey, hactive]
  | submitted loop job method hquiet hrun hclaims hwaiting =>
    simp only [claims, Claims.mk.injEq] at hclaims
    obtain ⟨-, hstore, hnext, -, -, hsubmitted⟩ := hclaims
    have hold : s.key loop = some job.key := by simp [key, hrun]
    -- the key was marked when the job was begun, so the second call marks nothing
    rw [DeduplicationStore.isDuplicate_of_mem (hc.seen loop job.key hold)] at hstore
    exact .submitted loop job hquiet hold (key_update hnext) hsubmitted hstore hwaiting
  | cleared loop hidle hquiet hclaims hwaiting =>
    simp only [claims, Claims.mk.injEq] at hclaims
    obtain ⟨-, hstore, hnext, -, -, hsubmitted⟩ := hclaims
    have hkey := key_update hnext
    rw [activeKey_none, ← hidle.key, update_eq_self] at hkey
    refine .same hquiet hkey hsubmitted (by rw [hstore]) (by rw [hstore]) ?_
    exact fun job hjob => .inl (hwaiting.mem_iff.mpr hjob)
  | received jobs hquiet hclaims hwaiting =>
    simp only [claims, Claims.mk.injEq] at hclaims
    obtain ⟨-, hstore, hrun, -, -, hsubmitted⟩ := hclaims
    refine .same hquiet (congrArg (activeKey ∘ ·) hrun) hsubmitted (by rw [hstore])
      (by rw [hstore]) ?_
    exact fun job hjob => .inl (hwaiting.mem_iff.mpr (List.mem_append_left _ hjob))
  | booted readable hevent hdown hclaims hwaiting =>
    simp only [claims, Claims.mk.injEq] at hclaims
    obtain ⟨-, hstore, hrun, -, -, hsubmitted⟩ := hclaims
    subst hevent
    have hnone : s.key = fun _ => none := by
      rw [key, hdown]
      rfl
    refine .booted ⟨rfl, by simp⟩ hnone (by rw [waiting, hdown]; rfl)
      (congrArg (activeKey ∘ ·) hrun) hsubmitted ?_ ?_
    · rw [hstore]
      cases readable <;> simp [DeduplicationStore.loadFromDisk]
    · rw [hstore]
      rfl
  | stopped hevent hclaims hwaiting =>
    simp only [claims, Claims.mk.injEq] at hclaims
    obtain ⟨-, hstore, hrun, -, -, hsubmitted⟩ := hclaims
    exact .stopped hevent (congrArg (activeKey ∘ ·) hrun) hsubmitted (by rw [hstore])
      (by rw [hstore])
  | diskChanged writable hevent hclaims hwaiting =>
    simp only [claims, Claims.mk.injEq] at hclaims
    obtain ⟨-, hstore, hrun, -, -, hsubmitted⟩ := hclaims
    subst hevent
    refine .same ⟨rfl, by simp⟩ (congrArg (activeKey ∘ ·) hrun) hsubmitted (by rw [hstore])
      (by rw [hstore]) ?_
    rw [hwaiting]
    exact fun _ => .inl

variable {s s' : System} {event : Event}

theorem claimed_init : Claimed {} := by
  constructor <;> simp [key]

theorem Claimed.release (hc : s.Claimed) {loop : Loop} (hkey : s'.key = update s.key loop none)
    (hstore : s'.store = s.store) : s'.Claimed := by
  have hsame : ∀ {loop' key}, s'.key loop' = some key → s.key loop' = some key := by
    intro loop' key h
    rw [hkey, update_apply] at h
    split at h
    · cases h
    · exact h
  constructor
  · intro loop' key h
    rw [hstore]
    exact hc.seen loop' key (hsame h)
  · exact fun loop₁ loop₂ key h₁ h₂ => hc.distinct loop₁ loop₂ key (hsame h₁) (hsame h₂)

theorem Claimed.step (hc : s.Claimed) (h : KeyStep s event s') : s'.Claimed := by
  cases h with
  | same hquiet hkey hsubmitted hseen hsaved hwaiting =>
    constructor
    · rw [hkey, hseen]
      exact hc.seen
    · rw [hkey]
      exact hc.distinct
  | claimed loop job hquiet hfree hnew hkey hsubmitted hseen hsaved hwaiting =>
    have hother : ∀ loop', s.key loop' ≠ some job.key :=
      fun loop' hloop' => hnew (hc.seen loop' _ hloop')
    constructor
    · intro loop' key hloop'
      rw [hkey, update_apply] at hloop'
      rw [hseen, List.mem_append]
      split at hloop'
      · exact .inr (by simp_all)
      · exact .inl (hc.seen loop' key hloop')
    · intro loop₁ loop₂ key h₁ h₂
      rw [hkey, update_apply] at h₁ h₂
      split at h₁ <;> split at h₂
      · simp_all
      · cases h₁
        exact absurd h₂ (hother loop₂)
      · cases h₂
        exact absurd h₁ (hother loop₁)
      · exact hc.distinct loop₁ loop₂ key h₁ h₂
  | failed loop job hgave hgoes hold hkey hsubmitted hstore hwaiting =>
    exact hc.release hkey hstore
  | submitted loop job hquiet hold hkey hsubmitted hstore hwaiting =>
    exact hc.release hkey hstore
  | booted hquiet hdown hwaiting hkey hsubmitted hseen hsaved =>
    constructor <;> simp [hkey, hdown]
  | stopped hevent hkey hsubmitted hseen hsaved =>
    constructor <;> simp [hkey]

structure Consistent (s : System) : Prop where
  placed : Placed s.memory
  claimed : s.Claimed

theorem consistent_init : Consistent {} :=
  ⟨placed_init, claimed_init⟩

theorem Consistent.keyStep {oracle : String} (hs : s.Consistent)
    (hok : s.step oracle event = .ok s') : KeyStep s event s' :=
  System.keyStep hs.claimed (step_jobs hs.placed hok).1

theorem Consistent.step {oracle : String} (hs : s.Consistent) (hok : s.step oracle event = .ok s') :
    s'.Consistent :=
  ⟨(step_jobs hs.placed hok).2, hs.claimed.step (hs.keyStep hok)⟩

def submittedKeys (s : System) : List String :=
  s.submitted.map (·.key)

def Active (s : System) (key : String) : Prop :=
  ∃ loop, s.key loop = some key

/-- A key in the store, in memory or in the file, is submitted or being processed. -/
def Known (s : System) (key : String) : Prop :=
  key ∈ s.store.seen ∨ key ∈ s.store.saved → key ∈ s.submittedKeys ∨ s.Active key

/-- No failure for the key, and no end of the process that leaves it in the file, before
it is submitted. -/
def Spares (s : System) (event : Event) (key : String) : Prop :=
  (∀ job, s.gaveUp event = some job → job.key = key → key ∈ s.submittedKeys) ∧
    (event = .stopped → s.Active key → key ∈ s.store.saved → key ∈ s.submittedKeys)

theorem Quiet.spares (h : s.Quiet event) (key : String) : s.Spares event key :=
  ⟨fun job hgave => by simp [h.1] at hgave, fun hstopped => absurd hstopped h.2⟩

theorem submittedKeys_of (h : s'.submitted = s.submitted) : s'.submittedKeys = s.submittedKeys :=
  congrArg (List.map _) h

theorem Active.of_key {key : String} (h : s'.key = s.key) : s'.Active key ↔ s.Active key := by
  rw [Active, h, Active]

theorem active_update {loop : Loop} {next : Option String} {key : String}
    (h : s'.key = update s.key loop next) (hactive : s.Active key) :
    s.key loop = some key ∨ s'.Active key := by
  obtain ⟨loop', hloop'⟩ := hactive
  by_cases hsame : loop' = loop
  · exact .inl (hsame ▸ hloop')
  · exact .inr ⟨loop', by rw [h, update_of_ne hsame, hloop']⟩

theorem Claimed.not_active (hc : s.Claimed) {loop : Loop} {key : String}
    (hold : s.key loop = some key) (h : s'.key = update s.key loop none) : ¬s'.Active key := by
  rintro ⟨loop', hloop'⟩
  rw [h, update_apply] at hloop'
  split at hloop'
  · cases hloop'
  · next hne => exact hne (hc.distinct loop' loop key hloop' hold)

theorem known_failed (hc : s.Claimed) {key : String} (hk : s.Known key) {loop : Loop}
    {job : RandomnessJob} (hgave : s.gaveUp event = some job) (hgoes : event ≠ .stopped)
    (hold : s.key loop = some job.key) (hkey : s'.key = update s.key loop none)
    (hsubmitted : s'.submitted = s.submitted) (hstore : s'.store = s.store) :
    s'.Known key ↔ s.Spares event key := by
  constructor
  · intro hknown
    refine ⟨fun job' hgave' hsame => ?_, fun hstopped => absurd hstopped hgoes⟩
    obtain rfl : job = job' := Option.some.inj (hgave.symm.trans hgave')
    subst hsame
    have hseen : job.key ∈ s'.store.seen := by
      rw [hstore]
      exact hc.seen loop _ hold
    have hkeys := (hknown (.inl hseen)).resolve_right (hc.not_active hold hkey)
    rwa [submittedKeys_of hsubmitted] at hkeys
  · rintro ⟨hspared, -⟩ hin
    rw [hstore] at hin
    rw [submittedKeys_of hsubmitted]
    rcases hk hin with hkeys | hactive
    · exact .inl hkeys
    · rcases active_update hkey hactive with hloop | hactive'
      · exact .inl (hspared job hgave (Option.some.inj (hold.symm.trans hloop)))
      · exact .inr hactive'

/-- A step keeps what the store knows of a key exactly if it spares the key. -/
theorem known_step (hc : s.Claimed) (h : KeyStep s event s') {key : String} (hk : s.Known key) :
    s'.Known key ↔ s.Spares event key := by
  cases h with
  | same hquiet hkey hsubmitted hseen hsaved hwaiting =>
    refine iff_of_true ?_ (hquiet.spares key)
    rw [Known, hseen, hsaved, submittedKeys_of hsubmitted, Active.of_key hkey]
    exact hk
  | claimed loop job hquiet hfree hnew hkey hsubmitted hseen hsaved hwaiting =>
    refine iff_of_true ?_ (hquiet.spares key)
    have hold : key ∈ s.submittedKeys ∨ s.Active key → key ∈ s'.submittedKeys ∨ s'.Active key := by
      rintro (hkeys | hactive)
      · exact .inl (by rwa [submittedKeys_of hsubmitted])
      · exact .inr ((active_update hkey hactive).resolve_left (by simp [hfree]))
    have hmem : key ∈ s'.store.seen → key ∈ s'.submittedKeys ∨ s'.Active key := by
      rw [hseen, List.mem_append, List.mem_singleton]
      rintro (hkey' | rfl)
      · exact hold (hk (.inl hkey'))
      · exact .inr ⟨loop, by rw [hkey, update_self]⟩
    rintro (hkey' | hkey')
    · exact hmem hkey'
    · exact (hsaved key hkey').elim hmem fun hkey' => hold (hk (.inr hkey'))
  | failed loop job hgave hgoes hold hkey hsubmitted hstore hwaiting =>
    exact known_failed hc hk hgave hgoes hold hkey hsubmitted hstore
  | submitted loop job hquiet hold hkey hsubmitted hstore hwaiting =>
    refine iff_of_true (fun hin => ?_) (hquiet.spares key)
    rw [hstore] at hin
    have hkeys : s'.submittedKeys = s.submittedKeys ++ [job.key] := by
      simp [submittedKeys, hsubmitted]
    rw [hkeys, List.mem_append, List.mem_singleton]
    rcases hk hin with hold' | hactive
    · exact .inl (.inl hold')
    · rcases active_update hkey hactive with hloop | hactive'
      · exact .inl (.inr (Option.some.inj (hloop.symm.trans hold)))
      · exact .inr hactive'
  | booted hquiet hdown hwaiting hkey hsubmitted hseen hsaved =>
    refine iff_of_true (fun hin => ?_) (hquiet.spares key)
    have hfile : key ∈ s.store.saved := by
      rw [hsaved] at hin
      exact hin.elim (hseen key) id
    rw [submittedKeys_of hsubmitted, Active.of_key hkey]
    exact hk (.inr hfile)
  | stopped hevent hkey hsubmitted hseen hsaved =>
    have hgone : ¬s'.Active key := by simp [Active, hkey]
    constructor
    · intro hknown
      subst hevent
      refine ⟨fun job hgave => (by cases hgave), fun _ _ hfile => ?_⟩
      have hkeys := (hknown (.inr (by rwa [hsaved]))).resolve_right hgone
      rwa [submittedKeys_of hsubmitted] at hkeys
    · rintro ⟨-, hstop⟩ hin
      rw [hseen, hsaved] at hin
      have hfile := hin.resolve_left (by simp)
      rw [submittedKeys_of hsubmitted]
      rcases hk (.inr hfile) with hkeys | hactive
      · exact .inl hkeys
      · exact .inl (hstop hevent hactive hfile)

def Reached (s : System) (key : String) : Prop :=
  key ∈ s.submittedKeys ∨ s.Active key ∨ ∃ job ∈ s.waiting, job.key = key

theorem reached_step (h : KeyStep s event s') {key : String} (hk : s.Known key)
    (hspares : s.Spares event key) (hgoes : event ≠ .stopped) (hreached : s.Reached key) :
    s'.Reached key := by
  cases h with
  | same hquiet hkey hsubmitted hseen hsaved hwaiting =>
    rw [Reached, submittedKeys_of hsubmitted, Active.of_key hkey]
    rcases hreached with hkeys | hactive | ⟨job, hjob, rfl⟩
    · exact .inl hkeys
    · exact .inr (.inl hactive)
    · rcases hwaiting job hjob with hstill | hmarked
      · exact .inr (.inr ⟨job, hstill, rfl⟩)
      · exact (hk (.inl hmarked)).imp_right .inl
  | claimed loop job hquiet hfree hnew hkey hsubmitted hseen hsaved hwaiting =>
    rw [Reached, submittedKeys_of hsubmitted]
    rcases hreached with hkeys | hactive | ⟨job', hjob', rfl⟩
    · exact .inl hkeys
    · exact .inr (.inl ((active_update hkey hactive).resolve_left (by simp [hfree])))
    · rcases hwaiting job' hjob' with hstill | rfl
      · exact .inr (.inr ⟨job', hstill, rfl⟩)
      · exact .inr (.inl ⟨loop, by rw [hkey, Function.update_self]⟩)
  | failed loop job hgave hgoes hold hkey hsubmitted hstore hwaiting =>
    rw [Reached, submittedKeys_of hsubmitted, hwaiting]
    rcases hreached with hkeys | hactive | hwaits
    · exact .inl hkeys
    · rcases active_update hkey hactive with hloop | hstill
      · exact .inl (hspares.1 job hgave (Option.some.inj (hold.symm.trans hloop)))
      · exact .inr (.inl hstill)
    · exact .inr (.inr hwaits)
  | submitted loop job hquiet hold hkey hsubmitted hstore hwaiting =>
    have hkeys : s'.submittedKeys = s.submittedKeys ++ [job.key] := by
      simp [submittedKeys, hsubmitted]
    rw [Reached, hkeys, hwaiting, List.mem_append, List.mem_singleton]
    rcases hreached with hkeys | hactive | hwaits
    · exact .inl (.inl hkeys)
    · rcases active_update hkey hactive with hloop | hstill
      · exact .inl (.inr (Option.some.inj (hloop.symm.trans hold)))
      · exact .inr (.inl hstill)
    · exact .inr (.inr hwaits)
  | booted hquiet hdown hwaiting hkey hsubmitted hseen hsaved =>
    rw [Reached, submittedKeys_of hsubmitted]
    rcases hreached with hkeys | ⟨loop, hloop⟩ | ⟨job, hjob, -⟩
    · exact .inl hkeys
    · simp [hdown] at hloop
    · simp [hwaiting] at hjob
  | stopped hevent => exact absurd hevent hgoes

end System
end TikkaRaffle.Oracle
