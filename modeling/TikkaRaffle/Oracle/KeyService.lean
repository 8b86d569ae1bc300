import TikkaRaffle.Lib.Transactional
import TikkaRaffle.Oracle.SecretKey

/-! `KeyService` over the adapter for environment variables. A step is a call, or
the continuation of a call of `initialize` after its `await`. -/
namespace TikkaRaffle.Oracle

open TikkaRaffle.Lib

/-- `Keypair.fromRawEd25519Seed` takes 32 bytes only. -/
@[ext]
structure Keypair where
  seed : List UInt8
  length_seed : seed.length = 32
  deriving DecidableEq

def Keypair.fromRawEd25519Seed (bytes : List UInt8) : Option Keypair :=
  if h : bytes.length = 32 then some ⟨bytes, h⟩ else none

/-- A buffer of the service: the text of a secret, its bytes, or zeros. The seed that the
SDK's `Keypair` keeps for itself is not one of them. -/
inductive SecretBuffer where
  | text (secret : List Char)
  | bytes (secret : List UInt8)
  | zeroed
  deriving DecidableEq, Repr

structure KeyService where
  /-- `process.env['NODE_ENV'] === 'production'` -/
  production : Bool
  /-- The variable of the secret, once it is set to anything. -/
  env : Option (List Char)
  buffers : List SecretBuffer := []
  keypair : Option Keypair := none
  /-- The buffer `secretBytes` refers to. -/
  secretBytes : Option Nat := none
  initialized : Bool := false
  /-- The calls of `initialize` at their `await`, each with the buffer it has read;
  `none` is a rejected promise. -/
  awaiting : List (Option Nat) := []
  deriving DecidableEq

namespace KeyService

def zeroizeBuffer (buffer : Nat) (s : KeyService) : KeyService :=
  { s with buffers := s.buffers.set buffer .zeroed }

/-- The variable is read once: it is deleted with the first read. -/
def getSecret (s : KeyService) : Option Nat × KeyService :=
  if s.production then (none, s)
  else
    match s.env with
    | none | some [] => (none, s)
    | some secret =>
        (some s.buffers.length, { s with buffers := s.buffers ++ [.text secret], env := none })

/-- `initialize` as far as its `await`. -/
def initializeKey (s : KeyService) : KeyService :=
  if s.initialized then s
  else
    let (rawSecret, s) := s.getSecret
    { s with awaiting := s.awaiting ++ [rawSecret] }

/-- The rest of `initialize`. A failure is caught, and leaves what it has read. -/
def load (reading : KeypairReading) (rawSecret : Nat) (s : KeyService) : KeyService :=
  match s.buffers[rawSecret]? with
  | some (.text secret) =>
      match decodeSecretKey reading secret with
      | some bytes =>
          let s := { s with
            secretBytes := some s.buffers.length, buffers := s.buffers ++ [.bytes bytes] }
          match Keypair.fromRawEd25519Seed bytes with
          | some keypair =>
              { s.zeroizeBuffer rawSecret with keypair := some keypair, initialized := true }
          | none => s
      | none => s
  | _ => s

def shutdown (s : KeyService) : KeyService :=
  match s.secretBytes with
  | some buffer => { s.zeroizeBuffer buffer with secretBytes := none, initialized := false }
  | none => { s with initialized := false }

inductive Call where
  | initializeKey
  /-- The call of `initialize` at this place goes on. -/
  | resumed (call : Nat)
  | shutdown
  deriving DecidableEq, Repr

def step (reading : KeypairReading) (call : Call) (s : KeyService) : Except Unit KeyService :=
  match call with
  | .initializeKey => .ok s.initializeKey
  | .resumed call =>
      match s.awaiting[call]? with
      | some rawSecret =>
          let s := { s with awaiting := s.awaiting.eraseIdx call }
          .ok (rawSecret.elim s fun buffer => s.load reading buffer)
      | none => .error ()
  | .shutdown => .ok s.shutdown

def ensureInitialized (s : KeyService) : Except Unit Keypair :=
  if s.initialized then found s.keypair () else .error ()

end KeyService

def keyService (reading : KeypairReading) : Machine KeyService KeyService.Call Unit :=
  ⟨KeyService.step reading⟩

theorem decodeSecretKey_length {reading : KeypairReading} {text : List Char} {bytes : List UInt8}
    (hdecode : decodeSecretKey reading text = some bytes) : bytes.length = 32 := by
  unfold decodeSecretKey at hdecode
  dsimp only at hdecode
  split at hdecode
  next hstrKey =>
    by_cases hknown : ∃ seed, seed.length = 32 ∧ trim text = strKey seed
    · obtain ⟨seed, hseed, htext⟩ := hknown
      rw [htext, reading.fromSecret_strKey seed hseed] at hdecode
      cases hdecode
      exact hseed
    · rw [reading.fromSecret_other _ fun seed hseed htext => hknown ⟨seed, hseed, htext⟩]
        at hdecode
      cases hdecode
  split at hdecode
  · simp only [ite_not, Option.ite_none_right_eq_some, Option.some.injEq] at hdecode
    exact hdecode.2 ▸ hdecode.1
  split at hdecode
  · simp only [Option.ite_none_right_eq_some, Option.some.injEq] at hdecode
    exact hdecode.2 ▸ hdecode.1
  · cases hdecode

/-- The secret a process is given: outside production, the variable if it has a value. -/
def givenSecret (production : Bool) (env : Option (List Char)) : Option (List Char) :=
  if production then none else env.filter (· ≠ [])

inductive KeyPhase where
  | fresh | reading | failed | loaded | closed
  deriving DecidableEq, Repr

namespace KeyService

variable {reading : KeypairReading} {production : Bool} {env : Option (List Char)}

/-- The state of a service whose process was given `env`, phase by phase. -/
inductive Stands (reading : KeypairReading) (production : Bool) (env : Option (List Char)) :
    KeyPhase → KeyService → Prop
  | fresh (awaiting : List (Option Nat)) (hnone : ∀ call ∈ awaiting, call = none) :
      Stands reading production env .fresh { production, env, awaiting }
  | reading (secret : List Char) (before after : List (Option Nat))
      (hgiven : givenSecret production env = some secret)
      (hnone : ∀ call ∈ before ++ after, call = none) :
      Stands reading production env .reading
        { production, env := none, buffers := [.text secret],
          awaiting := before ++ some 0 :: after }
  | failed (secret : List Char) (awaiting : List (Option Nat))
      (hgiven : givenSecret production env = some secret)
      (hdecode : decodeSecretKey reading secret = none)
      (hnone : ∀ call ∈ awaiting, call = none) :
      Stands reading production env .failed
        { production, env := none, buffers := [.text secret], awaiting }
  | loaded (secret : List Char) (keypair : Keypair) (awaiting : List (Option Nat))
      (hgiven : givenSecret production env = some secret)
      (hdecode : decodeSecretKey reading secret = some keypair.seed)
      (hnone : ∀ call ∈ awaiting, call = none) :
      Stands reading production env .loaded
        { production, env := none, buffers := [.zeroed, .bytes keypair.seed],
          keypair := some keypair, secretBytes := some 1, initialized := true, awaiting }
  | closed (secret : List Char) (keypair : Keypair) (awaiting : List (Option Nat))
      (hgiven : givenSecret production env = some secret)
      (hdecode : decodeSecretKey reading secret = some keypair.seed)
      (hnone : ∀ call ∈ awaiting, call = none) :
      Stands reading production env .closed
        { production, env := none, buffers := [.zeroed, .zeroed], keypair := some keypair,
          awaiting }

inductive Follows : KeyPhase → KeyPhase → Prop
  | same (phase : KeyPhase) : Follows phase phase
  | read : Follows .fresh .reading
  | refused : Follows .reading .failed
  | accepted : Follows .reading .loaded
  | ended : Follows .loaded .closed

variable {s s' : KeyService} {phase : KeyPhase} {call : Call}

theorem stands_start : Stands reading production env .fresh { production, env } :=
  .fresh [] (by simp)

theorem none_concat {awaiting : List (Option Nat)} (hnone : ∀ call ∈ awaiting, call = none) :
    ∀ call ∈ awaiting ++ [none], call = none := by
  simp only [List.mem_append, List.mem_singleton]
  rintro call (hcall | hcall)
  · exact hnone call hcall
  · exact hcall

theorem none_eraseIdx {awaiting : List (Option Nat)} (hnone : ∀ call ∈ awaiting, call = none)
    (i : Nat) : ∀ call ∈ awaiting.eraseIdx i, call = none :=
  fun call hcall => hnone call (List.mem_of_mem_eraseIdx hcall)

theorem none_at {awaiting : List (Option Nat)} (hnone : ∀ call ∈ awaiting, call = none)
    {i : Nat} {rawSecret : Option Nat} (hi : awaiting[i]? = some rawSecret) : rawSecret = none :=
  hnone rawSecret (List.mem_of_getElem? hi)

/-- A call of `initialize` in every phase: only the first read finds a secret. -/
theorem stands_initializeKey (hs : Stands reading production env phase s) :
    ∃ phase', Stands reading production env phase' s.initializeKey ∧ Follows phase phase' := by
  cases hs with
  | fresh awaiting hnone =>
    cases hproduction : production with
    | true => exact ⟨.fresh, .fresh _ (none_concat hnone), .same _⟩
    | false =>
      rcases env with - | - | ⟨c, rest⟩
      · exact ⟨.fresh, .fresh _ (none_concat hnone), .same _⟩
      · exact ⟨.fresh, .fresh _ (none_concat hnone), .same _⟩
      · refine ⟨.reading, .reading (c :: rest) awaiting [] ?_ (by simpa using hnone), .read⟩
        simp [givenSecret]
  | reading secret before after hgiven hnone =>
    refine ⟨.reading, ?_, .same _⟩
    have hlater : ∀ call ∈ before ++ (after ++ [none]), call = none := by
      rw [← List.append_assoc]
      exact none_concat hnone
    have hafter : Stands reading production env .reading _ := .reading secret before _ hgiven hlater
    cases hproduction : production <;>
      simpa [initializeKey, getSecret, hproduction] using hproduction ▸ hafter
  | failed secret awaiting hgiven hdecode hnone =>
    refine ⟨.failed, ?_, .same _⟩
    have hafter := Stands.failed secret _ hgiven hdecode (none_concat hnone)
    cases hproduction : production <;>
      simpa [initializeKey, getSecret, hproduction] using hproduction ▸ hafter
  | loaded secret keypair awaiting hgiven hdecode hnone =>
    exact ⟨.loaded, .loaded secret keypair awaiting hgiven hdecode hnone, .same _⟩
  | closed secret keypair awaiting hgiven hdecode hnone =>
    refine ⟨.closed, ?_, .same _⟩
    have hafter := Stands.closed secret keypair _ hgiven hdecode (none_concat hnone)
    cases hproduction : production <;>
      simpa [initializeKey, getSecret, hproduction] using hproduction ▸ hafter

theorem stands_load {secret : List Char} {awaiting : List (Option Nat)}
    (hgiven : givenSecret production env = some secret)
    (hnone : ∀ call ∈ awaiting, call = none) :
    ∃ phase', Stands reading production env phase'
        (load reading 0 { production, env := none, buffers := [.text secret], awaiting }) ∧
      Follows .reading phase' := by
  cases hdecode : decodeSecretKey reading secret with
  | none =>
    refine ⟨.failed, ?_, .refused⟩
    simpa [load, hdecode] using Stands.failed secret awaiting hgiven hdecode hnone
  | some bytes =>
    have hlength := decodeSecretKey_length hdecode
    refine ⟨.loaded, ?_, .accepted⟩
    simpa [load, hdecode, Keypair.fromRawEd25519Seed, hlength, zeroizeBuffer] using
      Stands.loaded secret ⟨bytes, hlength⟩ awaiting hgiven hdecode hnone

theorem stands_resumed {i : Nat} (hs : Stands reading production env phase s)
    (hok : step reading (.resumed i) s = .ok s') :
    ∃ phase', Stands reading production env phase' s' ∧ Follows phase phase' := by
  simp only [step] at hok
  split at hok
  case h_2 => cases hok
  case h_1 rawSecret hi =>
    cases hs with
    | fresh awaiting hnone =>
      obtain rfl := none_at hnone hi
      cases hok
      exact ⟨_, .fresh _ (none_eraseIdx hnone i), .same _⟩
    | failed secret awaiting hgiven hdecode hnone =>
      obtain rfl := none_at hnone hi
      cases hok
      exact ⟨_, .failed secret _ hgiven hdecode (none_eraseIdx hnone i), .same _⟩
    | loaded secret keypair awaiting hgiven hdecode hnone =>
      obtain rfl := none_at hnone hi
      cases hok
      exact ⟨_, .loaded secret keypair _ hgiven hdecode (none_eraseIdx hnone i), .same _⟩
    | closed secret keypair awaiting hgiven hdecode hnone =>
      obtain rfl := none_at hnone hi
      cases hok
      exact ⟨_, .closed secret keypair _ hgiven hdecode (none_eraseIdx hnone i), .same _⟩
    | reading secret before after hgiven hnone =>
      have hbefore : ∀ call ∈ before, call = none :=
        fun call hcall => hnone call (List.mem_append_left _ hcall)
      have hafter : ∀ call ∈ after, call = none :=
        fun call hcall => hnone call (List.mem_append_right _ hcall)
      rcases lt_trichotomy i before.length with hlt | rfl | hgt
      · -- a rejected call that came before
        rw [List.getElem?_append_left hlt] at hi
        obtain rfl := none_at hbefore hi
        cases hok
        refine ⟨_, ?_, .same _⟩
        dsimp only [Option.elim_none]
        rw [List.eraseIdx_append_of_lt_length hlt]
        refine .reading secret _ after hgiven fun call hcall => ?_
        rcases List.mem_append.mp hcall with hcall | hcall
        · exact none_eraseIdx hbefore i call hcall
        · exact hafter call hcall
      · rw [List.getElem?_append_right le_rfl, Nat.sub_self, List.getElem?_cons_zero] at hi
        cases hi
        cases hok
        dsimp only [Option.elim_some]
        rw [List.eraseIdx_append_of_length_le le_rfl, Nat.sub_self, List.eraseIdx_cons_zero]
        exact stands_load hgiven hnone
      · -- a rejected call that came after
        obtain ⟨d, hd⟩ : ∃ d, i - before.length = d + 1 := ⟨i - before.length - 1, by omega⟩
        rw [List.getElem?_append_right hgt.le, hd, List.getElem?_cons_succ] at hi
        obtain rfl := none_at hafter hi
        cases hok
        refine ⟨_, ?_, .same _⟩
        dsimp only [Option.elim_none]
        rw [List.eraseIdx_append_of_length_le hgt.le, hd, List.eraseIdx_cons_succ]
        refine .reading secret before _ hgiven fun call hcall => ?_
        rcases List.mem_append.mp hcall with hcall | hcall
        · exact hbefore call hcall
        · exact none_eraseIdx hafter d call hcall

/-- A shutdown ends the life of a loaded key, and stops no call that has read one. -/
theorem stands_shutdown (hs : Stands reading production env phase s) :
    ∃ phase', Stands reading production env phase' s.shutdown ∧ Follows phase phase' ∧
      phase' ≠ .loaded := by
  cases hs with
  | fresh awaiting hnone => exact ⟨_, .fresh awaiting hnone, .same _, nofun⟩
  | reading secret before after hgiven hnone =>
    exact ⟨_, .reading secret before after hgiven hnone, .same _, nofun⟩
  | failed secret awaiting hgiven hdecode hnone =>
    exact ⟨_, .failed secret awaiting hgiven hdecode hnone, .same _, nofun⟩
  | loaded secret keypair awaiting hgiven hdecode hnone =>
    exact ⟨_, .closed secret keypair awaiting hgiven hdecode hnone, .ended, nofun⟩
  | closed secret keypair awaiting hgiven hdecode hnone =>
    exact ⟨_, .closed secret keypair awaiting hgiven hdecode hnone, .same _, nofun⟩

theorem stands_step (hs : Stands reading production env phase s)
    (hok : step reading call s = .ok s') :
    ∃ phase', Stands reading production env phase' s' ∧ Follows phase phase' ∧
      (call = .shutdown → phase' ≠ .loaded) := by
  cases call with
  | initializeKey =>
    cases hok
    obtain ⟨phase', hs', hfollows⟩ := stands_initializeKey hs
    exact ⟨phase', hs', hfollows, nofun⟩
  | resumed i =>
    obtain ⟨phase', hs', hfollows⟩ := stands_resumed hs hok
    exact ⟨phase', hs', hfollows, nofun⟩
  | shutdown =>
    cases hok
    obtain ⟨phase', hs', hfollows, hne⟩ := stands_shutdown hs
    exact ⟨phase', hs', hfollows, fun _ => hne⟩

theorem stands_always (calls : List Call) :
    (keyService reading).Always (fun s => ∃ phase, Stands reading production env phase s)
      { production, env } calls :=
  Machine.always_of_step (fun s => ∃ phase, Stands reading production env phase s)
    (fun _ _ _ ⟨_, hs⟩ hok =>
      let ⟨phase', hs', _⟩ := stands_step hs hok
      ⟨phase', hs'⟩)
    ⟨.fresh, stands_start⟩ calls

end KeyService
end TikkaRaffle.Oracle
