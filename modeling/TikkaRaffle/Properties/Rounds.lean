import TikkaRaffle.Properties.CreationTerms
import TikkaRaffle.Properties.Validation

/-! The rounds of recurring schedules. A raffle is deployed under a salt of its
creator and description, which are the same in every round of a schedule, so a
round that is due can be triggered only while the address is free: no schedule
gets beyond its first. -/
namespace TikkaRaffle.Properties

open TikkaRaffle.Lib TikkaRaffle.Factory

def Deployable (h : Host) (creator : Address) (config : RaffleConfig) : Prop :=
  ∃ c c' holdings admin built w,
    buildConfig h c (RaffleConfigBuilder.fromConfig config) = .ok built ∧
    Instance.init (h.at (raffleAddress h creator built.description)) c'
      (Instance.World.deployed holdings) h.self admin creator built = .ok w

def roundAddress (h : Host) (entry : RecurringRaffleEntry) : Address :=
  raffleAddress h entry.creator entry.config.baseConfig.description

/-- Nothing created so far lives at the address of the schedule's raffles, and
the counter of creations has room. -/
structure RoundPossible {h : Host} (roll : Roll h) (entry : RecurringRaffleEntry) : Prop where
  unused : roundAddress h entry ∉ roll.names
  notFactory : roundAddress h entry ≠ h.self
  countable : roll.next + 1 < 2 ^ 32

section Rounds

variable {h : Host} {c : Ctx} {net net' : Net} {i : Invocation} {roll : Roll h}
  {creator : Address} {config : RaffleConfig} {entry : RecurringRaffleEntry} {recurringId : Nat}

theorem sharedRules_anytime {now now' : Nat} {tokenValid : Address → Bool}
    (hopen : config.noDeadline = true) (hrules : SharedRules now tokenValid config) :
    SharedRules now' tokenValid config := by
  have hdeadline : config.endTime = 0 := by simpa [hopen] using hrules.limits.deadline
  exact { hrules with
    limits := { hrules.limits with deadline := by simpa [hopen] using hdeadline } }

theorem buildConfig_ok {built : RaffleConfig} :
    buildConfig h c (RaffleConfigBuilder.fromConfig config) = .ok built ↔
      (SharedRules c.timestamp h.tokenValid config ∧ BuilderRules config) ∧
        built = config.normalizeCap.resolveDefaults := by
  rw [buildConfig, except_mapError_ok, build_ok]

theorem Deployable.anytime (hd : Deployable h creator config) (hopen : config.noDeadline = true)
    (c : Ctx) : ∃ built, buildConfig h c (RaffleConfigBuilder.fromConfig config) = .ok built ∧
      built.description = config.description ∧ ∀ c' w₀ admin, w₀.raffle = none →
        ∃ w, Instance.init (h.at (raffleAddress h creator config.description)) c' w₀ h.self admin
          creator built = .ok w := by
  obtain ⟨c₀, c₁, holdings, admin₀, built, w, hbuilt, hinit⟩ := hd
  obtain ⟨⟨hrules, hown⟩, hnormal⟩ := buildConfig_ok.mp hbuilt
  have hdescription : built.description = config.description :=
    (buildConfig_offer hbuilt).description
  have hstays : built.noDeadline = true := by
    obtain ⟨cap, hcap⟩ := normalizeCap_eq config
    rw [hnormal, hcap]
    exact hopen
  obtain ⟨hshared, hrest⟩ := (init_ok rfl).mp ⟨w, hinit⟩
  rw [hdescription] at hrest
  refine ⟨built, buildConfig_ok.mpr ⟨⟨sharedRules_anytime hopen hrules, hown⟩, hnormal⟩,
    hdescription, fun c' w₀ admin hnone => (init_ok hnone).mpr ⟨?_, hrest⟩⟩
  exact sharedRules_anytime hstays hshared

theorem addressInUse_iff (hroll : Enrolled net roll) {a : Address} :
    addressInUse h net a ↔ a = h.self ∨ a ∈ roll.names := by
  rw [addressInUse, Option.isSome_iff_ne_none, hroll.deployed]

theorem register_succeeds {s : State} {raffle : Address} {category : Option Bytes}
    (hcount : s.totalRafflesCreated.getD 0 + 1 < 2 ^ 32) :
    ∃ s', register h c s raffle creator category = .ok s' := by
  simp only [register, except_bind_ok, Factory.trapU32_ok, except_pure_ok]
  exact ⟨_, _, ⟨hcount, rfl⟩, rfl⟩

theorem createRaffleInternal_succeeds (hw : Configured net.factory.core.governance)
    (hfree : ¬addressInUse h net (raffleAddress h creator config.description))
    (hcount : net.factory.totalRafflesCreated.getD 0 + 1 < 2 ^ 32)
    (hinit : ∀ c' w₀ admin, w₀.raffle = none →
      ∃ w, Instance.init (h.at (raffleAddress h creator config.description)) c' w₀ h.self admin
        creator config = .ok w) :
    ∃ result, createRaffleInternal h c net creator config = .ok result := by
  obtain ⟨admin, hadmin⟩ := Option.isSome_iff_exists.mp hw.admin
  obtain ⟨wasmHash, hhash⟩ := Option.isSome_iff_exists.mp hw.wasmHash
  obtain ⟨w, hw₁⟩ := hinit (raffleCtx c net.factory (h.self :: c.auths))
    { Instance.World.deployed (fun _ _ => 0) with balance := net.balance } admin rfl
  have hregister : ∃ s, register h c net.factory (raffleAddress h creator config.description)
      creator config.category = .ok s := register_succeeds hcount
  obtain ⟨s, hs⟩ := hregister
  refine ⟨({ net.store (raffleAddress h creator config.description) w with factory := s },
    raffleAddress h creator config.description), ?_⟩
  simp only [createRaffleInternal, except_bind_ok, Factory.okOr_ok, check_ok, trapped,
    except_mapError_ok, except_pure_ok]
  exact ⟨admin, hadmin, wasmHash, hhash, (), hfree, w, hw₁, s, hs, rfl⟩

/-- A round that is due succeeds exactly if it is possible. -/
theorem trigger_iff (hw : Configured net.factory.core.governance) (hroll : Enrolled net roll)
    (hpaused : net.factory.paused.getD false = false)
    (hentry : net.factory.recurringRaffle recurringId = some entry) (hactive : entry.active = true)
    (hopen : entry.config.baseConfig.noDeadline = true)
    (hd : Deployable h entry.creator entry.config.baseConfig)
    (hdue : entry.nextDue ≤ c.timestamp)
    (hleft : entry.config.maxRounds = 0 ∨ entry.currentRound < entry.config.maxRounds) :
    (∃ result, triggerNextRound h c net recurringId = .ok result) ↔ RoundPossible roll entry := by
  have htotal : net.factory.totalRafflesCreated.getD 0 = roll.next := hroll.total
  constructor
  · rintro ⟨result, hok⟩
    obtain ⟨entry', built, raffle, w, -, hentry', hbuilt, hcreates, -⟩ :=
      triggerNextRound_effect hok
    rw [hentry] at hentry'
    cases hentry'
    have hdescription := (buildConfig_offer hbuilt).description
    have hunused := hcreates.unused
    rw [addressInUse_iff hroll, hcreates.address, hdescription, not_or] at hunused
    exact ⟨hunused.2, hunused.1, by rw [← htotal]; exact hcreates.countable⟩
  · intro hpossible
    obtain ⟨built, hbuilt, hdescription, hinit⟩ := hd.anytime hopen c
    have hfree : ¬addressInUse h net (raffleAddress h entry.creator built.description) := by
      rw [addressInUse_iff hroll, hdescription, not_or]
      exact ⟨hpossible.notFactory, hpossible.unused⟩
    rw [← hdescription] at hinit
    obtain ⟨⟨net₁, raffle⟩, hcreate⟩ := createRaffleInternal_succeeds (c := c) hw hfree
      (by rw [htotal]; exact hpossible.countable) hinit
    simp only [triggerNextRound, requireFactoryNotPaused, except_bind_ok, Factory.ensure_ok,
      Factory.okOr_ok, except_pure_ok]
    exact ⟨_, (), hpaused, entry, hentry, (), hactive, (), hdue, (), by omega, built, hbuilt, _,
      hcreate, rfl⟩

/-- The address of a schedule that has had a round is taken. -/
def AddressesTaken (net : Net) (roll : Roll h) : Prop :=
  ∀ id entry, net.factory.core.schedules.recurringRaffle id = some entry →
    entry.currentRound ≠ 0 → roundAddress h entry ∈ roll.names

theorem names_enrol {a : Address} (ha : a ∈ roll.names) : a ∈ (enrol h net i net' roll).names := by
  unfold enrol
  split
  next raffleId _ => rwa [Catalogue.names_retire]
  next => exact Catalogue.mem_enter ha
  next => exact ha

theorem trigger_enters (hw : Enrolled net roll) (hcall : i.call = .triggerNextRound recurringId)
    (hentry : net.factory.recurringRaffle recurringId = some entry)
    (hok : invoke h i net = .ok net') :
    roundAddress h entry ∈ (enrol h net i net' roll).names := by
  have he := invoke_effect hok
  have hcreates : i.call.creates = true := by rw [hcall]; rfl
  obtain ⟨creator, built, raffle, w, hnew, hcreation⟩ := he.creation hcreates
  rw [enrol_create hcreates hcreation, Catalogue.enter_new (hw.unlisted hnew), Catalogue.names_add,
    List.mem_append, List.mem_singleton]
  rw [hcall, creationOf, hentry, Option.map_some, Option.some.injEq] at hcreation
  rw [← hcreation]
  exact .inr rfl

theorem addressesTaken_step (hroll : Enrolled net roll) (hw : AddressesTaken net roll)
    (hok : invoke h i net = .ok net') : AddressesTaken net' (enrol h net i net' roll) := by
  intro id entry hentry hround
  have he := invoke_effect hok
  have hkept (hold : net.factory.core.schedules.recurringRaffle id = some entry) :
      roundAddress h entry ∈ (enrol h net i net' roll).names :=
    names_enrol (hw id entry hold hround)
  obtain ⟨ctx, call⟩ := i
  cases call with
  | createRecurringRaffle creator config =>
    obtain ⟨nextDue, hplans⟩ := he
    rw [hplans.schedules] at hentry
    rcases Schedules.found_cases hentry with ⟨-, rfl⟩ | hold
    · exact absurd rfl hround
    · exact hkept hold
  | cancelRecurringRaffle recurringId caller =>
    obtain ⟨old, hcancelled, hplans⟩ := he
    rw [hplans.schedules] at hentry
    rcases Schedules.found_cases hentry with ⟨-, rfl⟩ | hold
    · exact names_enrol (hw recurringId old hcancelled hround)
    · exact hkept hold
  | triggerNextRound recurringId =>
    obtain ⟨old, _, raffle, _, -, hadvanced, -, -, hschedules⟩ := he
    rw [hschedules] at hentry
    rcases Schedules.found_cases hentry with ⟨-, rfl⟩ | hold
    · -- Advancing a schedule keeps its creator and its template.
      have hentered := trigger_enters hroll rfl hadvanced hok
      exact hentered
    · exact hkept hold
  | _ =>
    rw [he.frame.schedules rfl] at hentry
    exact hkept hentry

theorem addressesTaken_initialised {creatorOf : Nat → Option Address}
    {categoryOf : Nat → Option Bytes} (hinit : Initialised h creatorOf categoryOf net) :
    AddressesTaken net (.empty : Roll h) := by
  obtain ⟨admin, wasmHash, bp, treasury, -, hcore, -⟩ := hinit.core
  intro id entry hentry
  rw [hcore] at hentry
  cases hentry

theorem addressesTaken_run {creatorOf : Nat → Option Address} {categoryOf : Nat → Option Bytes}
    (hinit : Initialised h creatorOf categoryOf net) (calls : List Invocation) :
    AddressesTaken ((machine h).run net calls) (rollOf h net calls) := by
  have hall := Machine.always_of_step (m := enrolling h)
    (fun s => Enrolled s.1 s.2 ∧ AddressesTaken s.1 s.2)
    (fun s i s' hw hok => by
      obtain ⟨hstep, hnote⟩ := enrolling_ok.mp hok
      refine ⟨enrolled_commit hw.1 hok, ?_⟩
      rw [hnote]
      exact addressesTaken_step hw.1 hw.2 hstep)
    (s := (net, .empty)) ⟨Enrolled.of_initialised hinit, addressesTaken_initialised hinit⟩ calls
  exact (enrolling_last hall).2

/-- An active schedule without a deadline, whose template is accepted, has a
round left that is due, and nothing is paused. -/
structure RoundDue (h : Host) (c : Ctx) (net : Net) (recurringId : Nat)
    (entry : RecurringRaffleEntry) : Prop where
  unpaused : net.factory.paused.getD false = false
  creationUnpaused : net.factory.creationPaused.getD false = false
  noEmergency : isGlobalPaused net.factory = false
  stored : net.factory.recurringRaffle recurringId = some entry
  active : entry.active = true
  noDeadline : entry.config.baseConfig.noDeadline = true
  deployable : Deployable h entry.creator entry.config.baseConfig
  due : entry.nextDue ≤ c.timestamp
  left : entry.config.maxRounds = 0 ∨ entry.currentRound < entry.config.maxRounds

/-- In every reachable state a round that is due succeeds exactly if nothing was
ever created at the address of its schedule. That holds of first rounds only. -/
theorem trigger_succeeds_iff {creatorOf : Nat → Option Address} {categoryOf : Nat → Option Bytes}
    (hinit : Initialised h creatorOf categoryOf net) (calls : List Invocation)
    (hdue : RoundDue h c ((machine h).run net calls) recurringId entry) :
    ((invoke h ⟨c, .triggerNextRound recurringId⟩ ((machine h).run net calls)).isOk = true ↔
        RoundPossible (rollOf h net calls) entry) ∧
      (RoundPossible (rollOf h net calls) entry → entry.currentRound = 0) := by
  have hconfigured := (configured_run (h := h) (configured_initialised hinit).1 calls).last
  refine ⟨?_, fun hpossible => ?_⟩
  · rw [← trigger_iff (c := ((machine h).run net calls).signed h c) hconfigured
      (enrolled_run hinit calls) hdue.unpaused hdue.stored hdue.active hdue.noDeadline
      hdue.deployable hdue.due hdue.left]
    simp only [invoke, invokeSigned]
    constructor
    · intro hok
      obtain ⟨net', hnet⟩ := except_isOk hok
      obtain ⟨result, htrigger, -⟩ := except_map_ok.mp hnet
      exact ⟨result, htrigger⟩
    · rintro ⟨result, htrigger⟩
      rw [htrigger]
      rfl
  · by_contra hround
    exact hpossible.unused (addressesTaken_run hinit calls recurringId entry hdue.stored hround)

end Rounds

open Instance.Sample (creator)

theorem template_deployable : Deployable Sample.host creator (templateWith 100).baseConfig := by
  have hbuilds : (buildConfig Sample.host (Sample.ctx 4000 [])
      (RaffleConfigBuilder.fromConfig (templateWith 100).baseConfig)).isOk = true := by
    decide +kernel
  have hinits : (Instance.init (Sample.host.at Sample.secondRaffle)
      (raffleCtx (Sample.ctx 4000 []) Sample.start.factory [])
      (Instance.World.deployed fun _ _ => 0) Sample.host.self Instance.Sample.admin creator
      (templateWith 100).baseConfig.normalizeCap.resolveDefaults).isOk = true := by
    decide +kernel
  obtain ⟨built, hbuilt⟩ := except_isOk hbuilds
  obtain ⟨w, hinit⟩ := except_isOk hinits
  have hnormal := (buildConfig_ok.mp hbuilt).2
  rw [← hnormal] at hinit
  have hdescription := (buildConfig_offer hbuilt).description
  refine ⟨Sample.ctx 4000 [], raffleCtx (Sample.ctx 4000 []) Sample.start.factory [],
    fun _ _ => 0, Instance.Sample.admin, built, w, hbuilt, ?_⟩
  rw [hdescription]
  exact hinit

def scheduling : List Invocation :=
  [Sample.signed [creator] 400 (.createRecurringRaffle creator (templateWith 100))]

theorem first_round_due : RoundDue Sample.host (Sample.ctx 4000 []) (Sample.after scheduling) 0
    ⟨creator, templateWith 100, 4000, 0, true, none⟩ where
  unpaused := by decide +kernel
  creationUnpaused := by decide +kernel
  noEmergency := by decide +kernel
  stored := by rfl
  active := by rfl
  noDeadline := by rfl
  deployable := template_deployable
  due := by decide
  left := by decide

theorem trigger_succeeds_iff_first :
    Fresh Sample.host Sample.start ∧
    (invoke Sample.host ⟨Sample.ctx 4000 [], .triggerNextRound 0⟩ (Sample.after scheduling)).isOk =
      true ∧
    RoundPossible (rollOf Sample.host Sample.start scheduling)
      ⟨creator, templateWith 100, 4000, 0, true, none⟩ := by
  have hsucceeds : (invoke Sample.host ⟨Sample.ctx 4000 [], .triggerNextRound 0⟩
    (Sample.after scheduling)).isOk = true := by decide +kernel
  exact ⟨Sample.start_fresh, hsucceeds,
    (trigger_succeeds_iff Sample.start_fresh scheduling first_round_due).1.mp hsucceeds⟩

def firstRound : List Invocation := scheduling ++ [Sample.signed [] 4000 (.triggerNextRound 0)]

/-- The second of two rounds is due and fails. -/
theorem second_round_fails :
    Fresh Sample.host Sample.start ∧
    RoundDue Sample.host (Sample.ctx 8000 []) (Sample.after firstRound) 0
      ⟨creator, templateWith 100, 7600, 1, true, some Sample.secondRaffle⟩ ∧
    (invoke Sample.host ⟨Sample.ctx 8000 [], .triggerNextRound 0⟩
      (Sample.after firstRound)).isOk = false := by
  refine ⟨Sample.start_fresh, ?_, by decide +kernel⟩
  exact {
    unpaused := by decide +kernel
    creationUnpaused := by decide +kernel
    noEmergency := by decide +kernel
    stored := by rfl
    active := by rfl
    noDeadline := by rfl
    deployable := template_deployable
    due := by decide
    left := by decide }

end TikkaRaffle.Properties
