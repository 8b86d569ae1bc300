import TikkaRaffle.Oracle.TxSubmitter

/-! Whether the cached sequence is the account's. The cache is written when an
attempt is told of its success; an inclusion that no attempt is told of, or that is
told of as a failure, leaves it behind. -/
namespace TikkaRaffle.Oracle

open TikkaRaffle.Lib

/-- The cached sequence, the account's, those of the orphans, the one the attempt
builds on, and whether its transaction has been included. -/
@[ext] structure Standing where
  cache : Option Nat
  number : Nat
  orphans : List Nat
  building : Option Nat
  landed : Bool

inductive SequenceAct where
  | pause | build | advance
  | fail (refresh : Bool)
  | confirm | land | orphan

inductive Shift : SequenceAct → Standing → Standing → Prop
  | pause (m : Standing) (hlanded : m.landed = false) : Shift .pause m { m with building := none }
  | build (m : Standing) (hlanded : m.landed = false) :
      Shift .build m { m with building := some (m.cache.getD m.number) }
  | advance (m : Standing) : Shift .advance m m
  | fail (m : Standing) (refresh : Bool) (lost : List Nat)
      (hlost : ∀ k ∈ lost, ∃ n, m.building = some n ∧ k = n + 1) :
      Shift (.fail refresh) m
        { m with
          cache := if refresh then none else m.cache
          orphans := m.orphans ++ lost
          building := none
          landed := false }
  | confirm (m : Standing) (n : Nat) (hbuilding : m.building = some n)
      (hlanded : m.landed = true) :
      Shift .confirm m { m with cache := some (n + 1), building := none, landed := false }
  | land (m : Standing) (hbuilding : m.building = some m.number) (hlanded : m.landed = false) :
      Shift .land m { m with number := m.number + 1, landed := true }
  | orphan (m : Standing) (hmem : m.number + 1 ∈ m.orphans) :
      Shift .orphan m
        { m with number := m.number + 1, orphans := m.orphans.erase (m.number + 1) }

namespace Standing

variable {m m' : Standing} {act : SequenceAct}

/-- No sequence is ahead of the account's, and an orphan at most competes for the
next one. -/
structure Ordered (m : Standing) : Prop where
  cache_le : ∀ n, m.cache = some n → n ≤ m.number
  building_le : ∀ n, m.building = some n → n ≤ m.number
  landed_eq : m.landed = true → ∀ n, m.building = some n → n + 1 = m.number
  orphans_le : ∀ k ∈ m.orphans, k ≤ m.number + 1
  landed_le : m.landed = true → ∀ k ∈ m.orphans, k ≤ m.number

/-- An orphan takes the place of a transaction that is not included. -/
theorem Ordered.not_landed (hm : Ordered m) (hmem : m.number + 1 ∈ m.orphans) :
    m.landed = false := by
  by_contra hlanded
  have hle := hm.landed_le (by simpa using hlanded) _ hmem
  omega

theorem Ordered.shift (hm : Ordered m) (hshift : Shift act m m') : Ordered m' := by
  cases hshift with
  | pause m hlanded =>
    exact ⟨hm.cache_le, fun n hn => (by cases hn), fun htrue n hn => (by cases hn), hm.orphans_le,
      hm.landed_le⟩
  | build m hlanded =>
    refine ⟨hm.cache_le, fun n hn => ?_, fun htrue => (by simp [hlanded] at htrue), hm.orphans_le,
      hm.landed_le⟩
    cases hcache : m.cache with
    | none => simp_all
    | some c =>
      have hle := hm.cache_le c hcache
      simp only [hcache, Option.getD_some, Option.some.injEq] at hn
      rwa [← hn]
  | advance m => exact hm
  | fail m refresh lost hlost =>
    refine ⟨fun n hn => ?_, fun n hn => (by cases hn), fun htrue => (by cases htrue),
      fun k hk => ?_, fun htrue => (by cases htrue)⟩
    · cases refresh with
      | true => cases hn
      | false => exact hm.cache_le n hn
    · rcases List.mem_append.mp hk with hold | hnew
      · exact hm.orphans_le k hold
      · obtain ⟨n, hn, rfl⟩ := hlost k hnew
        exact Nat.succ_le_succ (hm.building_le n hn)
  | confirm m n hbuilding hlanded =>
    refine ⟨fun c hc => ?_, fun n hn => (by cases hn), fun htrue => (by cases htrue), hm.orphans_le,
      fun htrue => (by cases htrue)⟩
    cases hc
    exact (hm.landed_eq hlanded n hbuilding).le
  | land m hbuilding hlanded =>
    refine ⟨fun n hn => (hm.cache_le n hn).trans (Nat.le_succ _),
      fun n hn => (hm.building_le n hn).trans (Nat.le_succ _), fun _ n hn => ?_,
      fun k hk => (hm.orphans_le k hk).trans (Nat.le_succ _), fun _ => hm.orphans_le⟩
    rw [hbuilding, Option.some.injEq] at hn
    rw [← hn]
  | orphan m hmem =>
    have hlanded := hm.not_landed hmem
    refine ⟨fun n hn => (hm.cache_le n hn).trans (Nat.le_succ _),
      fun n hn => (hm.building_le n hn).trans (Nat.le_succ _),
      fun htrue => (by simp [hlanded] at htrue), fun k hk => ?_,
      fun htrue => (by simp [hlanded] at htrue)⟩
    exact (hm.orphans_le k (List.mem_of_mem_erase hk)).trans (Nat.le_succ _)

/-- The cached sequence is the account's, but for the transaction being polled. -/
def Tracks (m : Standing) : Prop :=
  ∀ n, m.cache = some n → n + (if m.landed then 1 else 0) = m.number

/-- What leaves no cached sequence behind: no transaction is included while one is
cached, unless the attempt that sent it is told of its success or refreshes. -/
def Safe (m : Standing) : SequenceAct → Prop
  | .fail refresh => m.landed = true → m.cache = none ∨ refresh = true
  | .orphan => m.cache = none
  | _ => True

theorem tracks_fail (htracks : Tracks m) (refresh : Bool) (orphans : List Nat) :
    Tracks { m with
      cache := if refresh then none else m.cache
      orphans := orphans
      building := none
      landed := false } ↔ Safe m (.fail refresh) := by
  constructor
  · intro htracks' hlanded
    by_contra hnot
    obtain ⟨hcached, hrefresh⟩ := not_or.mp hnot
    obtain ⟨n, hn⟩ := Option.ne_none_iff_exists'.mp hcached
    have hbefore := htracks n hn
    have hafter := htracks' n (by simp [hn, hrefresh])
    rw [if_pos hlanded] at hbefore
    simp only [Bool.false_eq_true, ↓reduceIte] at hafter
    omega
  · intro hsafe n hn
    cases refresh with
    | true => cases hn
    | false =>
      have hbefore := htracks n hn
      cases hlanded : m.landed with
      | false =>
        rw [hlanded] at hbefore
        exact hbefore
      | true =>
        have hnone : m.cache = none := (hsafe hlanded).resolve_right (by decide)
        rw [hnone] at hn
        cases hn

/-- An orphan that is included leaves any cached sequence behind. -/
theorem tracks_orphan (hm : Ordered m) (htracks : Tracks m) (hmem : m.number + 1 ∈ m.orphans) :
    Tracks { m with number := m.number + 1, orphans := m.orphans.erase (m.number + 1) } ↔
      Safe m .orphan := by
  have hlanded := hm.not_landed hmem
  constructor
  · intro htracks'
    rw [Safe, Option.eq_none_iff_forall_ne_some]
    intro n hn
    have hbefore := htracks n hn
    have hafter : n + (if m.landed then 1 else 0) = m.number + 1 := htracks' n hn
    omega
  · intro hnone n hn
    have hcache : m.cache = some n := hn
    rw [show m.cache = none from hnone] at hcache
    cases hcache

theorem tracks_shift (hm : Ordered m) (htracks : Tracks m) (hshift : Shift act m m') :
    Tracks m' ↔ Safe m act := by
  cases hshift with
  | pause m hlanded | build m hlanded | advance m => exact iff_of_true htracks trivial
  | fail m refresh lost hlost => exact tracks_fail htracks refresh _
  | confirm m n hbuilding hlanded =>
    refine iff_of_true (fun c hc => ?_) trivial
    cases hc
    exact hm.landed_eq hlanded n hbuilding
  | land m hbuilding hlanded =>
    refine iff_of_true (fun n hn => ?_) trivial
    have hbefore := htracks n hn
    simp only [hlanded] at hbefore
    exact congrArg (· + 1) hbefore
  | orphan m hmem => exact tracks_orphan hm htracks hmem

end Standing

def AttemptStage.sequence : AttemptStage → Option Nat
  | .simulating sequence | .sending sequence | .polling sequence _ _ _ => some sequence
  | .gettingAccount | .delaying => none

def AttemptStage.landed : AttemptStage → Bool
  | .polling _ _ _ tx => tx.included
  | _ => false

namespace OracleAccount

def standing (s : OracleAccount) : Standing where
  cache := s.service.sequenceCache
  number := s.sequenceNumber
  orphans := s.orphans
  building := s.service.call.bind fun call => call.stage.sequence
  landed := s.service.call.any fun call => call.stage.landed

/-- No transaction is included while a sequence is cached, unless the attempt that
polls it is told of its success or fails with an error that clears the cache. -/
def InclusionSafe (s : OracleAccount) (event : TxEvent) : Prop :=
  match event, s.service.call with
  | .orphanIncluded _, _ => s.service.sequenceCache = none
  | .polled reply, some ⟨_, _, .polling _ hash polls tx⟩ =>
      tx.included = true → ∀ message ∈ reply.error hash polls,
        s.service.sequenceCache = none ∨
          (classify message).action = some .refreshSequence
  | _, _ => True

instance (s : OracleAccount) (event : TxEvent) : Decidable (s.InclusionSafe event) := by
  unfold InclusionSafe
  split <;> infer_instance

/-- Between calls the cached sequence is the account's, unless a transaction that
was sent may still be included. -/
def CacheCurrent (s : OracleAccount) : Prop :=
  s.service.call = none →
    s.service.sequenceCache = none ∨ s.service.sequenceCache = some s.sequenceNumber ∨
      ∃ sequence ∈ s.orphans, s.sequenceNumber < sequence

instance (s : OracleAccount) : Decidable s.CacheCurrent :=
  inferInstanceAs (Decidable (_ → _))

variable {options : TxSubmitterOptions} {s s' : OracleAccount} {call : SubmissionCall}
  {message : String} {sequence : Nat} {event : TxEvent}

theorem standing_goOn (stage : AttemptStage) :
    (s.goOn call stage).standing =
      { s.standing with building := stage.sequence, landed := stage.landed } := rfl

theorem standing_caught :
    (s.caught options call message).standing =
      { s.standing with
        cache := if (classify message).action = some .refreshSequence then none
          else s.service.sequenceCache
        building := none
        landed := false } := by
  unfold caught TxSubmitterService.caught
  by_cases haction : (classify message).action = some .refreshSequence
  · have hretry := retry_of_action haction
    by_cases hlast : call.attempt + 1 < options.maxAttempts
    · simp [hretry, haction, hlast, on, standing, AttemptStage.sequence, AttemptStage.landed,
        TxSubmitterService.recordFailure]
    · simp [hretry, haction, hlast, on, standing, TxSubmitterService.recordFailure,
        TxSubmitterService.exhausted, TxSubmitterService.throwing]
  · by_cases hretry : (classify message).retry = false
    · simp [hretry, haction, on, standing, TxSubmitterService.recordFailure,
        TxSubmitterService.throwing]
    · by_cases hlast : call.attempt + 1 < options.maxAttempts
      · simp [hretry, haction, hlast, on, standing, AttemptStage.sequence, AttemptStage.landed,
          TxSubmitterService.recordFailure]
      · simp [hretry, haction, hlast, on, standing, TxSubmitterService.recordFailure,
          TxSubmitterService.exhausted, TxSubmitterService.throwing]

theorem shift_caught {reached : Bool}
    (hbuilding : reached = true → s.standing.building = some sequence) :
    Shift (.fail (decide ((classify message).action = some .refreshSequence))) s.standing
      ((s.orphan sequence reached).caught options call message).standing := by
  have hshift := Shift.fail s.standing
    (decide ((classify message).action = some .refreshSequence))
    (if reached then [sequence + 1] else []) (fun k hk => ?_)
  · convert hshift using 1
    rw [standing_caught]
    cases reached <;> simp [orphan, standing]
  · cases reached with
    | false => cases hk
    | true => exact ⟨sequence, hbuilding rfl, List.mem_singleton.mp hk⟩

def Shifts (s : OracleAccount) (event : TxEvent) (s' : OracleAccount) : Prop :=
  ∃ act, Shift act s.standing s'.standing ∧ (s.InclusionSafe event ↔ s.standing.Safe act)

theorem standing_building (hcall : s.service.call = some call) :
    s.standing.building = call.stage.sequence := by
  simp [standing, hcall]

theorem standing_landed (hcall : s.service.call = some call) :
    s.standing.landed = call.stage.landed := by
  simp [standing, hcall]

theorem shifts_goOn {next : SubmissionCall} {stage : AttemptStage}
    (hcall : s.service.call = some call) (hsequence : stage.sequence = call.stage.sequence)
    (hlanded : stage.landed = call.stage.landed) (hsafe : s.InclusionSafe event) :
    s.Shifts event (s.goOn next stage) := by
  refine ⟨.advance, ?_, iff_of_true hsafe trivial⟩
  have hstanding : (s.goOn next stage).standing = s.standing := by
    rw [standing_goOn, hsequence, hlanded, ← standing_building hcall, ← standing_landed hcall]
  rw [hstanding]
  exact .advance s.standing

theorem shifts_unsent {reached : Bool} (hstage : s.standing.landed = false)
    (hbuilding : reached = true → s.standing.building = some sequence)
    (hsafe : s.InclusionSafe event) :
    s.Shifts event ((s.orphan sequence reached).caught options call message) :=
  ⟨_, shift_caught hbuilding, iff_of_true hsafe fun hlanded => by simp [hstage] at hlanded⟩

theorem shifts_thrown (hstage : s.standing.landed = false) (hsafe : s.InclusionSafe event) :
    s.Shifts event (s.caught options call message) := by
  have hunreached : false = true → s.standing.building = some 0 := fun hreached => by cases hreached
  exact shifts_unsent hstage hunreached hsafe

theorem shifts_submitted {method : Submission} (hcall : s.service.call = none) :
    s.Shifts (.submitted method) (s.on (s.service.submit options method)) := by
  have hstanding : (s.on (s.service.submit options method)).standing =
      { s.standing with building := none } := by
    unfold TxSubmitterService.submit
    split_ifs <;>
      simp [on, standing, hcall, AttemptStage.sequence, AttemptStage.landed,
        TxSubmitterService.exhausted, TxSubmitterService.throwing]
  refine ⟨.pause, ?_, iff_of_true trivial trivial⟩
  rw [hstanding]
  exact .pause s.standing (by simp [standing, hcall])

theorem shifts_account {error : Option String} (hcall : s.service.call = some call)
    (hstage : call.stage = .gettingAccount) :
    s.Shifts (.account error) (s.account options call error) := by
  have hlanded : s.standing.landed = false := by rw [standing_landed hcall, hstage]; rfl
  cases error with
  | some message => exact shifts_thrown hlanded trivial
  | none =>
    refine ⟨.build, ?_, iff_of_true trivial trivial⟩
    have hstanding : (s.account options call none).standing =
        { s.standing with building := some (s.standing.cache.getD s.standing.number) } :=
      Standing.ext rfl rfl rfl rfl hlanded.symm
    rw [hstanding]
    exact .build s.standing hlanded

theorem shifts_simulated {reply : SimulateReply} (hcall : s.service.call = some call)
    (hstage : call.stage = .simulating sequence) :
    s.Shifts (.simulated reply) (s.simulated options call sequence reply) := by
  have hlanded : s.standing.landed = false := by rw [standing_landed hcall, hstage]; rfl
  cases reply with
  | thrown message | simulationError json => exact shifts_thrown hlanded trivial
  | prepared => exact shifts_goOn hcall (by rw [hstage]; rfl) (by rw [hstage]; rfl) trivial

theorem shifts_sent {reply : SendReply} (hcall : s.service.call = some call)
    (hstage : call.stage = .sending sequence) :
    s.Shifts (.sent reply) (s.sent options call sequence reply) := by
  have hlanded : s.standing.landed = false := by rw [standing_landed hcall, hstage]; rfl
  cases reply with
  | thrown message reached =>
    exact shifts_unsent hlanded (fun _ => by rw [standing_building hcall, hstage]; rfl) trivial
  | error errorResult => exact shifts_thrown hlanded trivial
  | accepted hash reached =>
    refine shifts_goOn hcall (by rw [hstage]; rfl) ?_ trivial
    rw [hstage]
    cases reached <;> rfl

theorem shifts_polled {hash : String} {polls : Nat} {tx : TxStatus} {reply : PollReply}
    (hcall : s.service.call = some call) (hstage : call.stage = .polling sequence hash polls tx)
    (hok : s.polled options call sequence hash polls tx reply = .ok s') :
    s.Shifts (.polled reply) s' := by
  obtain ⟨method, attempt, stage⟩ := call
  obtain rfl : stage = .polling sequence hash polls tx := hstage
  have hlanded : s.standing.landed = tx.included := standing_landed hcall
  have hbuilding : s.standing.building = some sequence := standing_building hcall
  have hiff : s.InclusionSafe (.polled reply) ↔ (tx.included = true →
      ∀ message ∈ reply.error hash polls, s.service.sequenceCache = none ∨
        (classify message).action = some .refreshSequence) := by
    simp only [InclusionSafe, hcall]
  simp only [polled, except_bind_ok, check_ok, except_pure_ok, exists_const] at hok
  obtain ⟨hfits, rfl⟩ := hok
  cases herror : reply.error hash polls with
  | some message =>
    refine ⟨_, shift_caught fun _ => hbuilding, ?_⟩
    have hcache : s.standing.cache = s.service.sequenceCache := rfl
    simp [hiff, herror, Standing.Safe, hlanded, hcache]
  | none =>
    have hsafe : s.InclusionSafe (.polled reply) := hiff.mpr fun _ => by simp [herror]
    cases reply with
    | thrown message => cases herror
    | failed => cases herror
    | notFound => exact shifts_goOn hcall rfl rfl hsafe
    | success =>
      obtain rfl : tx = .succeeded := by simpa [PollReply.fits] using hfits
      exact ⟨.confirm, .confirm s.standing sequence hbuilding hlanded, iff_of_true hsafe trivial⟩

theorem shifts_included {hash : String} {polls : Nat} {success : Bool}
    (hcall : s.service.call = some call)
    (hstage : call.stage = .polling sequence hash polls .pending)
    (hok : s.included call sequence hash polls success = .ok s') :
    s.Shifts (.included success) s' := by
  unfold included at hok
  simp only [except_bind_ok, check_ok, except_pure_ok, exists_const] at hok
  obtain ⟨rfl, rfl⟩ := hok
  have hbuilding : s.standing.building = some s.sequenceNumber := by
    rw [standing_building hcall, hstage]; rfl
  have hlanded : s.standing.landed = false := by rw [standing_landed hcall, hstage]; rfl
  refine ⟨.land, ?_, iff_of_true trivial trivial⟩
  convert Shift.land s.standing hbuilding hlanded using 1
  exact Standing.ext rfl rfl rfl hbuilding.symm (by cases success <;> rfl)

theorem shifts_orphanIncluded (hok : s.orphanIncluded sequence = .ok s') :
    s.Shifts (.orphanIncluded sequence) s' := by
  unfold orphanIncluded at hok
  simp only [except_bind_ok, check_ok, except_pure_ok, exists_const] at hok
  obtain ⟨⟨hmem, rfl⟩, rfl⟩ := hok
  exact ⟨.orphan, .orphan s.standing hmem, by simp [InclusionSafe, Standing.Safe, standing]⟩

theorem step_shifts (hok : s.step options event = .ok s') : s.Shifts event s' := by
  unfold step at hok
  split at hok
  next method hcall =>
    obtain rfl := Except.ok.inj hok
    exact shifts_submitted hcall
  next sequence _ => exact shifts_orphanIncluded hok
  next error call hcall =>
    split at hok
    next hstage =>
      obtain rfl := Except.ok.inj hok
      exact shifts_account hcall hstage
    next => cases hok
  next reply call hcall =>
    split at hok
    next sequence hstage =>
      obtain rfl := Except.ok.inj hok
      exact shifts_simulated hcall hstage
    next => cases hok
  next reply call hcall =>
    split at hok
    next sequence hstage =>
      obtain rfl := Except.ok.inj hok
      exact shifts_sent hcall hstage
    next => cases hok
  next reply call hcall =>
    split at hok
    next sequence hash polls tx hstage => exact shifts_polled hcall hstage hok
    next => cases hok
  next call hcall =>
    split at hok
    next hstage =>
      obtain rfl := Except.ok.inj hok
      exact shifts_goOn hcall (by rw [hstage]; rfl) (by rw [hstage]; rfl) trivial
    next => cases hok
  next success call hcall =>
    split at hok
    next sequence hash polls hstage => exact shifts_included hcall hstage hok
    next => cases hok
  next => cases hok

theorem step_ordered (hs : s.standing.Ordered) (hok : s.step options event = .ok s') :
    s'.standing.Ordered := by
  obtain ⟨act, hshift, -⟩ := step_shifts hok
  exact hs.shift hshift

theorem step_tracks (hs : s.standing.Ordered) (htracks : s.standing.Tracks)
    (hok : s.step options event = .ok s') : s'.standing.Tracks ↔ s.InclusionSafe event := by
  obtain ⟨act, hshift, hiff⟩ := step_shifts hok
  rw [Standing.tracks_shift hs htracks hshift, hiff]

theorem ordered_start (number : Nat) :
    ({ sequenceNumber := number } : OracleAccount).standing.Ordered :=
  ⟨fun n hn => (by cases hn), fun n hn => (by cases hn), fun hlanded => (by cases hlanded),
    fun k hk => (by cases hk), fun hlanded => (by cases hlanded)⟩

theorem tracks_start (number : Nat) :
    ({ sequenceNumber := number } : OracleAccount).standing.Tracks :=
  fun n hn => by cases hn

theorem CacheCurrent.of_tracks (htracks : s.standing.Tracks) : s.CacheCurrent := by
  intro hcall
  cases hcache : s.service.sequenceCache with
  | none => exact .inl rfl
  | some n =>
    have hnumber := htracks n hcache
    have hlanded : s.standing.landed = false := by simp [standing, hcall]
    rw [hlanded] at hnumber
    exact .inr (.inl (congrArg some hnumber))

end OracleAccount

open OracleAccount

variable {options : TxSubmitterOptions}

/-- The cached sequence is the account's but for the transaction being polled, in
every state of a run, exactly if no step of the run leaves it behind. -/
theorem always_tracks_iff (number : Nat) (events : List TxEvent) :
    (submitter options).Always (fun s : OracleAccount => s.standing.Tracks)
        { sequenceNumber := number } events ↔
      (submitter options).Each (fun s event _ => s.InclusionSafe event)
        { sequenceNumber := number } events :=
  Machine.always_iff_each (fun s : OracleAccount => s.standing.Ordered)
    (fun _ _ _ hs hok => step_ordered hs hok)
    (fun _ _ _ hs htracks hok => step_tracks hs htracks hok) (ordered_start number)
    (tracks_start number) events

/-- A run that includes no transaction behind the back of the cache never ends a call
with a stale one. -/
theorem sequenceCache_current (number : Nat) {events : List TxEvent}
    (hsafe : (submitter options).Each (fun s event _ => s.InclusionSafe event)
      { sequenceNumber := number } events) :
    (submitter options).Always CacheCurrent { sequenceNumber := number } events :=
  ((always_tracks_iff number events).mpr hsafe).mono fun _ => CacheCurrent.of_tracks

namespace Sample

def attempting (hash : String) : List TxEvent :=
  [.account none, .simulated .prepared, .sent (.accepted hash true)]

def succeeding : List TxEvent :=
  .submitted .provideRandomness :: attempting "0a1a" ++ [.included true, .polled .success]

def failing : List TxEvent :=
  .submitted .provideQuorumRandomness :: attempting "0a1b" ++ [.included false, .polled .failed]

def refreshing : List TxEvent :=
  [.submitted .provideQuorumRandomness, .account none, .simulated (.simulationError "bad sequence"),
    .slept] ++ attempting "0a1b" ++ [.included false, .polled .failed]

end Sample

theorem sequenceCache_current_refreshing :
    ((submitter {}).run { sequenceNumber := 10 } Sample.succeeding).service.sequenceCache =
      some 11 ∧
    (submitter {}).Always CacheCurrent { sequenceNumber := 10 }
      (Sample.succeeding ++ Sample.refreshing) := by
  have hsafe : (submitter {}).Each (fun s event _ => s.InclusionSafe event)
      { sequenceNumber := 10 } (Sample.succeeding ++ Sample.refreshing) := by
    decide +kernel
  exact ⟨by decide +kernel, sequenceCache_current 10 hsafe⟩

/-- The failed transaction moves the account on, the call throws, and the cache stays. -/
theorem sequenceCache_stale_failing :
    let s := (submitter {}).run { sequenceNumber := 10 } (Sample.succeeding ++ Sample.failing)
    s.service.call = none ∧ s.orphans = [] ∧ s.service.sequenceCache = some 11 ∧
      s.sequenceNumber = 12 ∧ ¬s.CacheCurrent := by
  decide +kernel

end TikkaRaffle.Oracle
