import TikkaRaffle.Oracle.Listener

/-! What the listener enqueues. It passes the latest ledger after every poll,
whatever part of the events the page has left out. -/
namespace TikkaRaffle.Oracle

open TikkaRaffle.Lib

namespace Chain

variable {limit saved : Nat} {options : ListenerOptions} {s s' : Chain} {event : ChainEvent}

/-- The listener as a reader of the closed ledgers. -/
def follower (s : Chain) : Follower RaffleEvent RandomnessJob :=
  ⟨s.ledgers, s.reached, s.listener.enqueued⟩

structure Running (oracleAddress : String) (saved : Nat) (s : Chain) : Prop where
  running : s.listener.rejected = false
  sound : s.follower.Sound (RaffleEvent.jobFor oracleAddress) saved

/-- No request to the oracle is beyond the page that the poll returns. -/
def Uncut (limit : Nat) (oracleAddress : String) (s : Chain) : ChainEvent → Prop
  | .polled => ∀ event ∈ (s.ledgers.drop s.reached).flatten.drop limit,
      event.jobFor oracleAddress = none
  | _ => True

instance (limit : Nat) (oracleAddress : String) (s : Chain) (event : ChainEvent) :
    Decidable (Uncut limit oracleAddress s event) :=
  match event with
  | .polled => inferInstanceAs (Decidable (∀ _ ∈ _, _))
  | .closed _ | .pollFailed => isTrue trivial

theorem step_polled (hw : Running options.oracleAddress saved s)
    (hok : step limit options .polled s = .ok s') :
    s'.listener.rejected = false ∧
      s'.follower = s.follower.read (RaffleEvent.jobFor options.oracleAddress) limit := by
  simp only [step, except_bind_ok, check_ok, exists_const, except_pure_ok] at hok
  obtain ⟨-, rfl⟩ := hok
  simp only [EventListenerService.received, getEvents, RaffleEvent.handleEvents_response, if_true]
  exact ⟨hw.running, rfl⟩

theorem step_pollFailed (hok : step limit options .pollFailed s = .ok s') :
    s'.listener.rejected = s.listener.rejected ∧ s'.follower = s.follower := by
  simp only [step, except_bind_ok, check_ok, exists_const, except_pure_ok] at hok
  obtain ⟨-, rfl⟩ := hok
  exact ⟨rfl, rfl⟩

theorem running_step (hw : Running options.oracleAddress saved s)
    (hok : step limit options event s = .ok s') : Running options.oracleAddress saved s' := by
  cases event with
  | closed events =>
    cases hok
    exact ⟨hw.running, hw.sound.grow events⟩
  | polled =>
    obtain ⟨hrunning, hread⟩ := step_polled hw hok
    refine ⟨hrunning, ?_⟩
    rw [hread]
    exact hw.sound.read
  | pollFailed =>
    obtain ⟨hrunning, hsame⟩ := step_pollFailed hok
    refine ⟨hrunning.trans hw.running, ?_⟩
    rw [hsame]
    exact hw.sound

theorem exact_step (hw : Running options.oracleAddress saved s)
    (hok : step limit options event s = .ok s') :
    s'.follower.Exact (RaffleEvent.jobFor options.oracleAddress) saved ↔
      s.follower.Exact (RaffleEvent.jobFor options.oracleAddress) saved ∧
        Uncut limit options.oracleAddress s event := by
  cases event with
  | closed events =>
    cases hok
    exact (Follower.exact_grow_iff hw.sound events).trans (and_iff_left trivial).symm
  | polled =>
    rw [(step_polled hw hok).2]
    exact Follower.exact_read_iff hw.sound
  | pollFailed =>
    rw [(step_pollFailed hok).2]
    exact (and_iff_left trivial).symm

theorem start_running (oracleAddress : String) {ledgers : List (List RaffleEvent)}
    (hsaved : saved ≤ ledgers.length) : Running oracleAddress saved (start saved ledgers) :=
  ⟨rfl, Nat.le_refl _, hsaved, Nat.zero_le _⟩

/-- A listener started at a ledger of the network has enqueued exactly the requests
of the ledgers it has passed, once each and in order, if and only if no successful
poll left one out. -/
theorem enqueued_exact_iff {ledgers : List (List RaffleEvent)} (hsaved : saved ≤ ledgers.length)
    (events : List ChainEvent) :
    ((listen limit options).run (start saved ledgers) events).listener.enqueued =
        requestsIn options.oracleAddress saved
          ((listen limit options).run (start saved ledgers) events).reached
          ((listen limit options).run (start saved ledgers) events).ledgers ↔
      (listen limit options).Each (fun s event _ => Uncut limit options.oracleAddress s event)
        (start saved ledgers) events := by
  have hnothing : (start saved ledgers).follower.Exact
      (RaffleEvent.jobFor options.oracleAddress) saved := by
    have hempty : (ledgers.take saved).drop saved = [] :=
      List.drop_eq_nil_of_le (List.length_take_le ..)
    change ([] : List RandomnessJob) = ((ledgers.take saved).drop saved).flatten.filterMap _
    rw [hempty]
    rfl
  have hiff := Machine.run_iff_each (m := listen limit options)
    (Running options.oracleAddress saved) (fun _ _ _ hw hok => running_step hw hok)
    (fun _ _ _ hw hok => exact_step hw hok) (start_running _ hsaved) events
  exact hiff.trans (and_iff_right hnothing)

/-- A successful poll reaches the network's latest ledger. -/
theorem reached_polled (hw : Running options.oracleAddress saved s)
    (hok : step limit options .polled s = .ok s') : s'.reached = s.ledgers.length :=
  congrArg Follower.position (step_polled hw hok).2

namespace Sample

def contract : ContractId := ⟨"raffle", by decide⟩

def thisOracle : ListenerOptions := ⟨"oracle", 3⟩

def request (requestId : Nat) : RaffleEvent := .randomnessRequested contract "oracle" requestId 0

def twoPages : List ChainEvent :=
  [.closed [request 1, .randomnessRequested contract "other" 2 0], .pollFailed, .polled,
    .closed [.oracleSeedDelivered contract "oracle" 7 1 1 2 0, request 3], .polled]

def crowded : List ChainEvent := [.closed [request 1, request 2, request 3], .polled]

end Sample

theorem enqueued_exact_twoPages :
    ((listen 2 Sample.thisOracle).run (start 1 [[]]) Sample.twoPages).listener.enqueued =
      requestsIn "oracle" 1 3
        ((listen 2 Sample.thisOracle).run (start 1 [[]]) Sample.twoPages).ledgers := by
  have heach : (listen 2 Sample.thisOracle).Each
      (fun s event _ => Uncut 2 Sample.thisOracle.oracleAddress s event)
      (start 1 [[]]) Sample.twoPages := by
    decide +kernel
  exact (enqueued_exact_iff (by decide) Sample.twoPages).mpr heach

/-- The poll returns the first two requests, reaches the ledger of all three, and the
third is never enqueued. -/
theorem enqueued_inexact_crowded :
    ((listen 2 Sample.thisOracle).run (start 1 [[]]) Sample.crowded).reached = 2 ∧
    ((listen 2 Sample.thisOracle).run (start 1 [[]]) Sample.crowded).listener.enqueued =
      [⟨1, "raffle", 0⟩, ⟨2, "raffle", 0⟩] ∧
    requestsIn "oracle" 1 2
        ((listen 2 Sample.thisOracle).run (start 1 [[]]) Sample.crowded).ledgers =
      [⟨1, "raffle", 0⟩, ⟨2, "raffle", 0⟩, ⟨3, "raffle", 0⟩] := by
  decide +kernel

end Chain
end TikkaRaffle.Oracle
