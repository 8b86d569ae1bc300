import TikkaRaffle.Oracle.Keys

/-! The ledgers that a run of the pipeline takes for read: the checkpoint, the ledger the
listener polls from, and the checkpoints still to be written. -/
namespace TikkaRaffle.Oracle

open TikkaRaffle.Lib

namespace GracefulShutdown

/-- The checkpoint the shutdown writes is the one it has read. -/
theorem step_saving {Job : Type} {event : Event Job} {g g' : GracefulShutdown Job} {ledger : Nat}
    (hok : step event g = .ok g') (h : g'.phase = .saving ledger) :
    g.phase = .saving ledger ∨ event = .loaded (.ok (some ledger)) := by
  unfold step at hok
  split at hok
  case h_1 queue =>
    cases hok
    unfold shutdown at h
    split at h
    · exact .inl h
    · cases queue <;> cases h
  case h_2 rest _ =>
    cases hok
    cases rest <;> cases h
  case h_4 =>
    cases hok
    cases h
    exact .inr rfl
  case h_7 =>
    split at hok
    · cases hok
      exact .inl h
    · cases hok
  all_goals
    cases hok
    try cases h

end GracefulShutdown

namespace System

variable {s s' : System} {event : Event} {n : Nat}

/-- The ledgers below `n` are not read again. -/
inductive Promised (s : System) : Nat → Prop
  | checkpoint (ledger : Nat) (h : s.checkpoint = some ledger) : Promised s (ledger + 1)
  | start (h : s.memory.listener ≠ .initializing) : Promised s s.memory.startLedger
  | saving (ledger : Nat) (h : s.memory.listener = .saving ledger) : Promised s (ledger + 1)
  | restoring (ledger : Nat) (h : s.memory.shutdown.phase = .saving ledger) :
      Promised s (ledger + 1)

theorem Promised.of_down (h : Promised s n) (hdown : s.memory = {}) :
    ∃ ledger, s.checkpoint = some ledger ∧ n = ledger + 1 := by
  cases h with
  | checkpoint ledger h => exact ⟨ledger, h, rfl⟩
  | start h => exact absurd (by rw [hdown]) h
  | saving ledger h => simp [hdown] at h
  | restoring ledger h => simp [hdown] at h

theorem Promised.frame (h : Promised s' n) (hcheckpoint : s'.checkpoint = s.checkpoint)
    (hlistener : s'.memory.listener = s.memory.listener)
    (hstart : s'.memory.startLedger = s.memory.startLedger)
    (hphase : ∀ ledger, s'.memory.shutdown.phase = .saving ledger →
      s.memory.shutdown.phase = .saving ledger) : Promised s n := by
  cases h with
  | checkpoint ledger h => exact .checkpoint ledger (hcheckpoint ▸ h)
  | start h =>
    rw [hstart]
    exact .start (hlistener ▸ h)
  | saving ledger h => exact .saving ledger (hlistener ▸ h)
  | restoring ledger h => exact .restoring ledger (hphase ledger h)

theorem Promised.of_checkpoint {checkpoint : Option Nat}
    (h : Promised { s with checkpoint := checkpoint } n)
    (hsaved : ∀ ledger, checkpoint = some ledger → Promised s (ledger + 1)) : Promised s n := by
  cases h with
  | checkpoint ledger h => exact hsaved ledger h
  | start h => exact .start h
  | saving ledger h => exact .saving ledger h
  | restoring ledger h => exact .restoring ledger h

theorem Promised.of_listener {listener : Listener}
    (h : Promised { s with memory := { s.memory with listener := listener } } n)
    (hlistener : s.memory.listener ≠ .initializing)
    (hnext : ∀ ledger, listener ≠ .saving ledger) : Promised s n := by
  cases h with
  | checkpoint ledger h => exact .checkpoint ledger h
  | start h => exact .start hlistener
  | saving ledger h => exact absurd h (hnext ledger)
  | restoring ledger h => exact .restoring ledger h

theorem promised_saved {success : Bool} {ledger : Nat} (hledger : Promised s (ledger + 1))
    (ledger' : Nat) (h : (if success then some ledger else s.checkpoint) = some ledger') :
    Promised s (ledger' + 1) := by
  split at h
  · cases h
    exact hledger
  · exact .checkpoint ledger' h

theorem processQueue_frame (s : System) :
    s.processQueue.checkpoint = s.checkpoint ∧
      s.processQueue.memory.startLedger = s.memory.startLedger ∧
        s.processQueue.memory.shutdown = s.memory.shutdown := by
  rcases processQueue_cases s with hcase | ⟨-, hcase⟩ | ⟨job, rest, -, hcase⟩
  · rw [hcase]
    exact ⟨rfl, rfl, rfl⟩
  · rw [hcase]
    exact ⟨rfl, rfl, rfl⟩
  · rw [hcase]
    exact ⟨rfl, rfl, rfl⟩

theorem Promised.of_processQueue (h : Promised s.processQueue n) : Promised s n := by
  rcases processQueue_cases s with hcase | ⟨-, hcase⟩ | ⟨job, rest, -, hcase⟩
  · rw [hcase] at h
    exact h.frame rfl rfl rfl fun _ => id
  · rw [hcase] at h
    exact h.frame rfl rfl rfl fun _ => id
  · rw [hcase] at h
    exact h.frame rfl rfl rfl fun _ => id

theorem Promised.of_drainQueue (h : Promised s.drainQueue n) : Promised s n := by
  rcases drainQueue_cases s with ⟨job, rest, -, hcase⟩ | ⟨-, hcase⟩
  · rw [hcase] at h
    exact h.frame rfl rfl rfl fun _ => id
  · rw [hcase] at h
    exact h.frame rfl rfl rfl fun _ => id

theorem Promised.of_stepShutdown {own : GracefulShutdown.Event RandomnessJob}
    (hok : s.stepShutdown own = .ok s') (h : Promised s' n)
    (hread : ∀ ledger, own = .loaded (.ok (some ledger)) → s.checkpoint = some ledger) :
    Promised s n := by
  simp only [stepShutdown, except_bind_ok, except_pure_ok] at hok
  obtain ⟨g, hg, rfl⟩ := hok
  cases h with
  | checkpoint ledger h => exact .checkpoint ledger h
  | start h => exact .start h
  | saving ledger h => exact .saving ledger h
  | restoring ledger h =>
    rcases GracefulShutdown.step_saving hg h with hold | hloaded
    · exact .restoring ledger hold
    · exact .checkpoint ledger (hread ledger hloaded)

theorem Promised.of_initialized {latest : Nat} (h : Promised (s.initialized latest) n) :
    Promised s n ∨ s.checkpoint = none ∧ n = latest := by
  obtain ⟨hcheckpoint, hstart, hshutdown⟩ := processQueue_frame (s.started latest)
  cases h with
  | checkpoint ledger h => exact .inl (.checkpoint ledger (hcheckpoint.symm.trans h))
  | start h =>
    simp only [initialized, hstart]
    cases hsaved : s.checkpoint with
    | none => exact .inr ⟨rfl, by simp [started, hsaved]⟩
    | some saved =>
      rw [show (s.started latest).memory.startLedger = saved + 1 by simp [started, hsaved]]
      exact .inl (.checkpoint saved hsaved)
  | saving ledger h => cases h
  | restoring ledger h => exact .inl (.restoring ledger (hshutdown ▸ h))

theorem Promised.of_polled {oracle : String} {now latest : Nat}
    {events : List ParsedRandomnessRequest} (h : Promised (s.polled oracle now events latest) n) :
    Promised s n ∨ n = latest + 1 := by
  cases h with
  | checkpoint ledger h => exact .inl (.checkpoint ledger h)
  | start h => exact .inr rfl
  | saving ledger h =>
    cases h
    exact .inr rfl
  | restoring ledger h => exact .inl (.restoring ledger h)

theorem Promised.of_checked {loop : Loop} {reply : Except Unit Bool} {prepared : Bool}
    (hok : s.checked loop reply prepared = .ok s') (h : Promised s' n) : Promised s n := by
  unfold checked at hok
  split at hok
  · split at hok
    · cases hok
      exact h.frame rfl rfl rfl fun _ => id
    · cases hok
      exact h.frame rfl rfl rfl fun _ => id
  · cases hok

theorem Promised.of_returned {loop : Loop} {success : Bool}
    (hok : s.returned loop success = .ok s') (h : Promised s' n) : Promised s n := by
  unfold returned at hok
  split at hok
  · split at hok
    · cases hok
      exact h.frame rfl rfl rfl fun _ => id
    · cases hok
      exact h.frame rfl rfl rfl fun _ => id
  · cases hok

theorem Promised.of_resumed {loop : Loop} (hok : s.resumed loop = .ok s') (h : Promised s' n) :
    Promised s n := by
  unfold resumed at hok
  split at hok
  · split at hok
    · cases hok
      exact h.frame rfl rfl rfl fun _ => id
    · cases hok
      exact h.of_processQueue.frame rfl rfl rfl fun _ => id
    · cases hok
  · simp only [except_map_ok] at hok
    obtain ⟨t, ht, rfl⟩ := hok
    exact .of_stepShutdown ht h.of_drainQueue (by simp)
  · cases hok

theorem Promised.of_beginShutdown (h : Promised s.beginShutdown n) : Promised s n := by
  unfold beginShutdown at h
  split at h
  · exact h
  · refine h.of_drainQueue.frame rfl rfl rfl fun ledger hphase => ?_
    have hcall : GracefulShutdown.step (.shutdown s.memory.queue.pending) s.memory.shutdown =
      .ok (s.memory.shutdown.shutdown s.memory.queue.pending) := rfl
    exact (GracefulShutdown.step_saving hcall hphase).resolve_right (by simp)

/-- A step promises no more than a poll or a first start does. -/
theorem promised_step {oracle : String} (hs : Placed s.memory)
    (hok : s.step oracle event = .ok s') (h : Promised s' n) :
    Promised s n ∨ (∃ now events ledger, event = .polled now events ledger ∧ n = ledger + 1) ∨
      ∃ latest, event = .initialized latest ∧ s.checkpoint = none ∧ n = latest := by
  cases event with
  | boot readable =>
    simp only [step, except_bind_ok, check_ok, except_pure_ok] at hok
    obtain ⟨-, hdown, rfl⟩ := hok
    have hmemory := hs.down hdown
    exact .inl (h.frame rfl (by simp [hmemory]) (by simp [hmemory]) (by simp))
  | initialized latest =>
    simp only [step, except_bind_ok, check_ok, except_pure_ok] at hok
    obtain ⟨-, -, rfl⟩ := hok
    rcases h.of_initialized with hold | hfirst
    · exact .inl hold
    · exact .inr (.inr ⟨latest, rfl, hfirst⟩)
  | polled now events latestLedger =>
    simp only [step, except_bind_ok, check_ok, except_pure_ok] at hok
    obtain ⟨-, -, rfl⟩ := hok
    rcases h.of_polled with hold | hnew
    · exact .inl hold
    · exact .inr (.inl ⟨now, events, latestLedger, rfl, hnew⟩)
  | pollFailed =>
    simp only [step, except_bind_ok, check_ok, except_pure_ok] at hok
    obtain ⟨-, hlistener, rfl⟩ := hok
    exact .inl (h.of_listener (by simp [hlistener]) (by simp))
  | checkpointSaved success =>
    simp only [step] at hok
    split at hok
    · next ledger hlistener =>
      rw [except_pure_ok] at hok
      subst hok
      rw [saveCheckpoint_eq] at h
      refine .inl (Promised.of_checkpoint (.of_listener h ?_ ?_)
        (promised_saved (.saving ledger hlistener)))
      · simp [hlistener]
      · intro ledger'
        split <;> simp
    · cases hok
  | slept =>
    simp only [step, except_bind_ok, check_ok, except_pure_ok] at hok
    obtain ⟨-, hlistener, rfl⟩ := hok
    refine .inl (h.of_listener (by simp [hlistener]) fun ledger => ?_)
    split <;> simp
  | woken =>
    simp only [step, except_bind_ok, check_ok, except_pure_ok] at hok
    obtain ⟨-, -, rfl⟩ := hok
    exact .inl h.of_processQueue
  | checked loop reply prepared => exact .inl (h.of_checked hok)
  | returned loop success => exact .inl (h.of_returned hok)
  | resumed loop => exact .inl (h.of_resumed hok)
  | shutdown viaPipeline =>
    simp only [step, except_bind_ok, check_ok, except_pure_ok] at hok
    obtain ⟨-, -, rfl⟩ := hok
    exact .inl (h.of_beginShutdown.frame rfl rfl rfl fun _ => id)
  | leaveDrain => exact .inl (.of_stepShutdown hok h (by simp))
  | checkpointLoaded success =>
    refine .inl (.of_stepShutdown hok h ?_)
    cases success <;> simp
  | checkpointRestored success =>
    simp only [step] at hok
    split at hok
    · next ledger hphase =>
      rw [saveCheckpoint_eq] at hok
      exact .inl ((Promised.of_stepShutdown hok h (by simp)).of_checkpoint
        (promised_saved (.restoring ledger hphase)))
    · cases hok
  | forceExit => exact .inl (.of_stepShutdown hok h (by simp))
  | stopped =>
    simp only [step, except_bind_ok, check_ok, except_pure_ok] at hok
    obtain ⟨-, -, rfl⟩ := hok
    obtain ⟨ledger, hsaved, rfl⟩ := h.of_down rfl
    exact .inl (.checkpoint ledger hsaved)
  | diskChanged writable =>
    simp only [step, except_pure_ok] at hok
    subst hok
    exact .inl (h.frame rfl rfl rfl fun _ => id)

end System
end TikkaRaffle.Oracle
