import TikkaRaffle.Oracle.KeyService

/-! One process, one key: whatever calls of `initialize`, continuations and
shutdowns follow one another, the service signs with the secret it was given,
and a loaded key does not survive a shutdown. -/
namespace TikkaRaffle.Properties

open TikkaRaffle.Lib TikkaRaffle.Oracle KeyService

variable {reading : KeypairReading} {production : Bool} {env : Option (List Char)}

def serviceAfter (reading : KeypairReading) (production : Bool) (env : Option (List Char))
    (calls : List Call) : KeyService :=
  (keyService reading).run { production, env } calls

/-- The life of a key over the run. -/
structure OneKey (reading : KeypairReading) (production : Bool) (env : Option (List Char))
    (calls : List Call) : Prop where
  /-- Whoever signs has the key of the given secret. -/
  given : ∀ keypair, (serviceAfter reading production env calls).ensureInitialized = .ok keypair →
    ∃ secret, givenSecret production env = some secret ∧
      decodeSecretKey reading secret = some keypair.seed
  /-- A shutdown of a loaded key is final, whatever is called afterwards. -/
  final : ∀ before after, calls = before ++ .shutdown :: after →
    (serviceAfter reading production env before).keypair ≠ none →
    (serviceAfter reading production env calls).initialized = false
  /-- A shutdown before that leaves no trace: a call under way still loads its key. -/
  early : ∀ before after, calls = before ++ .shutdown :: after →
    (serviceAfter reading production env before).keypair = none →
    serviceAfter reading production env calls =
      serviceAfter reading production env (before ++ after)
  /-- Secret bytes are left in the buffers of a working service, of a call that has not
  gone on, and of a secret that does not decode. -/
  wiped : ∀ buffer ∈ (serviceAfter reading production env calls).buffers, buffer ≠ .zeroed →
    (serviceAfter reading production env calls).initialized = true ∨
      some 0 ∈ (serviceAfter reading production env calls).awaiting ∨
      ∃ secret, givenSecret production env = some secret ∧ decodeSecretKey reading secret = none
  /-- Before the first read, a call of `initialize` loads the key of a good secret. -/
  starts : ∀ secret seed, givenSecret production env = some secret →
    decodeSecretKey reading secret = some seed →
    (serviceAfter reading production env calls).buffers = [] →
    (serviceAfter reading production env (calls ++ [.initializeKey,
      .resumed (serviceAfter reading production env calls).awaiting.length])).initialized = true

theorem closed_stays {s : KeyService} (hs : Stands reading production env .closed s)
    (calls : List Call) : ((keyService reading).run s calls).initialized = false := by
  have hclosed := (Machine.always_of_step (m := keyService reading)
    (Stands reading production env .closed)
    (fun s call s' hs hok => by
      obtain ⟨phase', hs', hfollows, -⟩ := stands_step hs hok
      cases hfollows
      exact hs') hs calls).last
  generalize (keyService reading).run s calls = s' at hclosed ⊢
  cases hclosed
  rfl

theorem closed_shutdown {phase : KeyPhase} {s : KeyService}
    (hs : Stands reading production env phase s) (hloaded : s.keypair ≠ none) :
    Stands reading production env .closed s.shutdown := by
  cases hs with
  | fresh | reading | failed => exact absurd rfl hloaded
  | loaded secret keypair awaiting hgiven hdecode hnone =>
    exact .closed secret keypair awaiting hgiven hdecode hnone
  | closed secret keypair awaiting hgiven hdecode hnone =>
    exact .closed secret keypair awaiting hgiven hdecode hnone

theorem shutdown_of_unloaded {phase : KeyPhase} {s : KeyService}
    (hs : Stands reading production env phase s) (hnone : s.keypair = none) : s.shutdown = s := by
  cases hs with
  | fresh | reading | failed => rfl
  | loaded | closed => cases hnone

theorem given_of_stands {phase : KeyPhase} {s : KeyService} {keypair : Keypair}
    (hs : Stands reading production env phase s) (hok : s.ensureInitialized = .ok keypair) :
    ∃ secret, givenSecret production env = some secret ∧
      decodeSecretKey reading secret = some keypair.seed := by
  cases hs with
  | fresh | reading | failed | closed => cases hok
  | loaded secret stored awaiting hgiven hdecode hnone =>
    cases hok
    exact ⟨secret, hgiven, hdecode⟩

theorem key_of_initialized {calls : List Call}
    (hready : (serviceAfter reading production env calls).initialized = true) :
    ∃ secret keypair, givenSecret production env = some secret ∧
      decodeSecretKey reading secret = some keypair.seed ∧
      (serviceAfter reading production env calls).ensureInitialized = .ok keypair := by
  obtain ⟨phase, hs⟩ : ∃ phase, Stands reading production env phase
      (serviceAfter reading production env calls) := (stands_always calls).last
  generalize serviceAfter reading production env calls = s at hs hready ⊢
  cases hs with
  | fresh | reading | failed | closed => cases hready
  | loaded secret keypair awaiting hgiven hdecode hnone =>
    exact ⟨secret, keypair, hgiven, hdecode, rfl⟩

theorem wiped_of_stands {phase : KeyPhase} {s : KeyService} {buffer : SecretBuffer}
    (hs : Stands reading production env phase s) (hbuffer : buffer ∈ s.buffers)
    (hleft : buffer ≠ .zeroed) :
    s.initialized = true ∨ some 0 ∈ s.awaiting ∨
      ∃ secret, givenSecret production env = some secret ∧
        decodeSecretKey reading secret = none := by
  cases hs with
  | fresh => cases hbuffer
  | reading secret before after hgiven hnone => exact .inr (.inl (by simp))
  | failed secret awaiting hgiven hdecode hnone => exact .inr (.inr ⟨secret, hgiven, hdecode⟩)
  | loaded => exact .inl rfl
  | closed => simp_all

theorem starts_of_stands {phase : KeyPhase} {s : KeyService} {secret : List Char}
    {seed : List UInt8} (hs : Stands reading production env phase s)
    (hgiven : givenSecret production env = some secret)
    (hdecode : decodeSecretKey reading secret = some seed) (hunread : s.buffers = []) :
    ((keyService reading).run s [.initializeKey, .resumed s.awaiting.length]).initialized =
      true := by
  cases hs with
  | reading | failed | loaded | closed => cases hunread
  | fresh awaiting hnone =>
    simp only [givenSecret, Option.ite_none_left_eq_some, Option.filter_eq_some_iff,
      Bool.not_eq_true, decide_eq_true_eq] at hgiven
    obtain ⟨rfl, rfl, hsecret⟩ := hgiven
    obtain ⟨c, rest, rfl⟩ := List.exists_cons_of_ne_nil hsecret
    have hlength := decodeSecretKey_length hdecode
    simp [keyService, Machine.run, Machine.exec, step, initializeKey, getSecret, load, hdecode,
      Keypair.fromRawEd25519Seed, hlength]

/-- In every run, whatever the order of its steps. -/
theorem one_key (reading : KeypairReading) (production : Bool) (env : Option (List Char))
    (calls : List Call) : OneKey reading production env calls := by
  have hstands : ∀ calls, ∃ phase, Stands reading production env phase
      (serviceAfter reading production env calls) :=
    fun calls => (stands_always calls).last
  obtain ⟨phase, hs⟩ := hstands calls
  have hshut : ∀ before after, serviceAfter reading production env (before ++ .shutdown :: after) =
      (keyService reading).run (serviceAfter reading production env before).shutdown after :=
    fun before after => Machine.run_append ..
  refine ⟨fun _ hok => given_of_stands hs hok, ?_, ?_, fun _ => wiped_of_stands hs, ?_⟩
  · rintro before after rfl hloaded
    obtain ⟨phase', hs'⟩ := hstands before
    rw [hshut]
    exact closed_stays (closed_shutdown hs' hloaded) after
  · rintro before after rfl hnone
    obtain ⟨phase', hs'⟩ := hstands before
    rw [hshut, shutdown_of_unloaded hs' hnone]
    exact (Machine.run_append ..).symm
  · intro secret seed hgiven hdecode hunread
    rw [serviceAfter, Machine.run_append]
    exact starts_of_stands hs hgiven hdecode hunread

end TikkaRaffle.Properties
