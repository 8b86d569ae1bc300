import TikkaRaffle.Factory.Enrolment
import TikkaRaffle.Properties.Configuration
import TikkaRaffle.Properties.Validation

/-! The terms new raffles are created with. `create_raffle` replaces the
submitted fee and treasury by the factory's, `trigger_next_round` uses those of
its template; so the registered raffles carry the factory's terms exactly when
the templates do at every round. -/
namespace TikkaRaffle.Properties

open TikkaRaffle.Lib TikkaRaffle.Factory Constants

def BecomesRegistered (net net' : Net) (raffle : Address) : Prop :=
  ∃ id, net'.factory.raffleById id = some raffle ∧ net.factory.raffleById id ≠ some raffle

/-- Whatever becomes registered carries the fee and treasury the factory had at
that time, and a fee within the bound. -/
def CarriesTerms (net : Net) (_ : Invocation) (net' : Net) : Prop :=
  ∀ raffle, BecomesRegistered net net' raffle →
    ∃ w r, net'.raffle raffle = some w ∧ w.raffle = some r ∧
      net.factory.protocolFeeBp = some r.protocolFeeBp ∧
      net.factory.treasury = r.treasuryAddress ∧ r.protocolFeeBp ≤ maxProtocolFeeBp

def templateOf (net : Net) : Call → Option RaffleConfig
  | .triggerNextRound recurringId =>
      (net.factory.recurringRaffle recurringId).map fun entry => entry.config.baseConfig
  | _ => none

/-- The template of a round carries the factory's fee and treasury. -/
def TemplateAgrees (net : Net) (i : Invocation) : Prop :=
  ∀ config ∈ templateOf net i.call, net.factory.protocolFeeBp = some config.protocolFeeBp ∧
    net.factory.treasury = config.treasuryAddress

instance (net : Net) (i : Invocation) : Decidable (TemplateAgrees net i) :=
  inferInstanceAs (Decidable (∀ _ ∈ _, _))

section Steps

variable {h : Host} {c : Ctx} {net net' : Net} {i : Invocation} {creator raffle : Address}
  {config : RaffleConfig} {w : Instance.World}

theorem storedRaffle_offer (creator : Address) (config : RaffleConfig) :
    (storedRaffle creator config).protocolFeeBp = config.protocolFeeBp ∧
      (storedRaffle creator config).treasuryAddress = config.treasuryAddress := by
  obtain ⟨cap, hcap⟩ := Escrow.resolveTicketCap_terms config.resolveDefaults
  unfold storedRaffle
  rw [hcap]
  exact ⟨rfl, rfl⟩

/-- A run-time invariant: what is registered is deployed, and there is a fee. -/
def Accounted (h : Host) (net : Net) : Prop :=
  Configured net.factory.core.governance ∧ ∃ roll : Roll h, Enrolled net roll

theorem accounted_step (hw : Accounted h net) (hok : invoke h i net = .ok net') :
    Accounted h net' := by
  obtain ⟨hconfigured, roll, hroll⟩ := hw
  exact ⟨configured_step hconfigured (invoke_effect hok), _, enrolled_step hroll hok⟩

theorem becomesRegistered_create {roll : Roll h} (hroll : Enrolled net roll)
    (hcreates : Creates h c net net' creator config raffle w) (a : Address) :
    BecomesRegistered net net' a ↔ a = raffle := by
  have hbyId : net'.factory.raffleById = Function.update net.factory.raffleById
      (net.factory.nextRaffleId.getD 0) (some raffle) :=
    congrArg Registry.raffleById hcreates.registry
  unfold BecomesRegistered
  rw [hbyId]
  constructor
  · rintro ⟨id, hnow, hbefore⟩
    by_cases hid : id = net.factory.nextRaffleId.getD 0
    · subst hid
      rw [Function.update_self] at hnow
      cases hnow
      rfl
    · rw [Function.update_of_ne hid] at hnow
      exact absurd hnow hbefore
  · rintro rfl
    refine ⟨net.factory.nextRaffleId.getD 0, Function.update_self .., fun hold => ?_⟩
    exact hroll.registered_deployed hold hcreates.undeployed

theorem becomesRegistered_quiet (he : i.call.Effect h c net net') (hc : i.call.creates = false) :
    ¬BecomesRegistered net net' raffle := by
  rintro ⟨id, hnow, hbefore⟩
  cases hclean : i.call.cleans with
  | false =>
    have hbyId : net'.factory.raffleById = net.factory.raffleById :=
      congrArg Registry.raffleById (he.frame.registry hc hclean)
    rw [hbyId] at hnow
    exact hbefore hnow
  | true =>
    obtain ⟨ctx, call⟩ := i
    cases call with
    | cleanOldRaffle raffleId =>
      obtain ⟨cleaned, creator, -, -, hcore, -⟩ := he
      have hbyId : net'.factory.raffleById = Function.update net.factory.raffleById raffleId none :=
        congrArg (fun k : Core => k.registry.raffleById) hcore
      rw [hbyId] at hnow
      by_cases hid : id = raffleId
      · subst hid
        rw [Function.update_self] at hnow
        cases hnow
      · rw [Function.update_of_ne hid] at hnow
        exact hbefore hnow
    | _ => cases hclean

theorem carriesTerms_create (hw : Accounted h net)
    (hcreates : Creates h c net net' creator config raffle w) :
    CarriesTerms net i net' ↔ net.factory.protocolFeeBp = some config.protocolFeeBp ∧
      net.factory.treasury = config.treasuryAddress := by
  obtain ⟨hconfigured, roll, hroll⟩ := hw
  obtain ⟨admin, -, hinit⟩ := hcreates.initialised
  have hstored := init_stored hinit
  have hdeployed : net'.raffle raffle = some w := by
    rw [hcreates.raffles, Function.update_self]
  obtain ⟨hfee, htreasury⟩ := storedRaffle_offer creator config
  constructor
  · intro hcarries
    obtain ⟨w', r, hw', hr, hfee', htreasury', -⟩ :=
      hcarries raffle ((becomesRegistered_create hroll hcreates raffle).mpr rfl)
    rw [hdeployed] at hw'
    cases hw'
    rw [hstored] at hr
    cases hr
    rw [← hfee, ← htreasury]
    exact ⟨hfee', htreasury'⟩
  · rintro ⟨hfee', htreasury'⟩ a ha
    rw [becomesRegistered_create hroll hcreates a] at ha
    subst ha
    obtain ⟨bp, hbp, hbound⟩ := hconfigured.fee
    have hsame : net.factory.protocolFeeBp = some bp := hbp
    rw [hsame] at hfee'
    cases hfee'
    refine ⟨w, storedRaffle creator config, hdeployed, hstored, ?_, ?_, ?_⟩
    · rw [hfee, hsame]
    · rw [htreasury, htreasury']
    · rw [hfee]
      exact hbound

theorem templateAgrees_of_none (hnone : templateOf net i.call = none) : TemplateAgrees net i := by
  intro config hconfig
  rw [hnone] at hconfig
  cases hconfig

theorem carriesTerms_step (hw : Accounted h net) (hok : invoke h i net = .ok net') :
    CarriesTerms net i net' ↔ TemplateAgrees net i := by
  have he := invoke_effect hok
  obtain ⟨ctx, call⟩ := i
  cases call with
  | createRaffle creator config =>
    obtain ⟨treasury, built, raffle, w, -, -, htreasury, hbuilt, hcreates, -⟩ := he
    have hoffer := buildConfig_offer hbuilt
    obtain ⟨bp, hbp, -⟩ := hw.1.fee
    have hfee : net.factory.protocolFeeBp = some bp := hbp
    rw [hfee] at hoffer
    rw [carriesTerms_create hw hcreates, hoffer.protocolFeeBp, hoffer.treasuryAddress]
    exact ⟨fun _ => templateAgrees_of_none rfl, fun _ => ⟨hfee, htreasury⟩⟩
  | triggerNextRound recurringId =>
    obtain ⟨entry, built, raffle, w, -, hentry, hbuilt, hcreates, -⟩ := he
    have hoffer := buildConfig_offer hbuilt
    rw [carriesTerms_create hw hcreates, hoffer.protocolFeeBp, hoffer.treasuryAddress]
    simp only [TemplateAgrees, templateOf, hentry, Option.map_some, Option.mem_def,
      Option.some.injEq, forall_eq']
    rfl
  | _ => exact ⟨fun _ => templateAgrees_of_none rfl,
      fun _ _ hnew => absurd hnew (becomesRegistered_quiet he rfl)⟩

/-- Every registered raffle carries the terms of the factory exactly in the runs
whose rounds are triggered on agreeing templates. -/
theorem carriesTerms_iff {creatorOf : Nat → Option Address} {categoryOf : Nat → Option Bytes}
    (hinit : Initialised h creatorOf categoryOf net) (calls : List Invocation) :
    (machine h).Each CarriesTerms net calls ↔
      (machine h).Each (fun net i _ => TemplateAgrees net i) net calls :=
  Machine.each_congr (m := machine h) (Accounted h)
    (fun _ _ _ hw hok => accounted_step hw hok) (fun _ _ _ hw hok => carriesTerms_step hw hok)
    ⟨(configured_initialised hinit).1, _, Enrolled.of_initialised hinit⟩ calls

end Steps

def templateWith (protocolFeeBp : Nat) : RecurringRaffleConfig where
  baseConfig := { Instance.Sample.config with
    description := [1]
    noDeadline := true
    endTime := 0
    protocolFeeBp := protocolFeeBp }
  intervalSeconds := 3600
  maxRounds := 2
  autoFund := false

open Instance.Sample (creator)

def agreeingRun : List Invocation :=
  [Sample.signed [creator] 300 (.createRaffle creator Instance.Sample.config),
    Sample.signed [creator] 400 (.createRecurringRaffle creator (templateWith 100)),
    Sample.signed [] 4000 (.triggerNextRound 0)]

theorem carriesTerms_iff_agreeingRun :
    Fresh Sample.host Sample.start ∧ (Sample.after agreeingRun).factory.nextRaffleId = some 2 ∧
    (machine Sample.host).Each CarriesTerms Sample.start agreeingRun :=
  ⟨Sample.start_fresh, by decide +kernel,
    (carriesTerms_iff Sample.start_fresh agreeingRun).mpr (by decide +kernel)⟩

def dearRun : List Invocation :=
  [Sample.signed [creator] 400 (.createRecurringRaffle creator (templateWith 5000)),
    Sample.signed [] 4000 (.triggerNextRound 0)]

/-- The registered raffle has a fee of 5000 basis points, the factory one of 100. -/
theorem dearRun_not_carriesTerms :
    Fresh Sample.host Sample.start ∧
    (Sample.after dearRun).factory.raffleById 0 = some Sample.secondRaffle ∧
    (((Sample.after dearRun).raffle Sample.secondRaffle).bind Instance.World.raffle).map
      Instance.Raffle.protocolFeeBp = some 5000 ∧
    ¬(machine Sample.host).Each CarriesTerms Sample.start dearRun := by
  have hlive : (Sample.after dearRun).factory.raffleById 0 = some Sample.secondRaffle := by
    decide +kernel
  have hfee : (((Sample.after dearRun).raffle Sample.secondRaffle).bind Instance.World.raffle).map
      Instance.Raffle.protocolFeeBp = some 5000 := by decide +kernel
  refine ⟨Sample.start_fresh, hlive, hfee, fun heach => ?_⟩
  have hok := (machine Sample.host).step_exec (s := Sample.after (dearRun.take 1))
    (c := Sample.signed [] 4000 (.triggerNextRound 0)) (by decide +kernel)
  have hsplit : (machine Sample.host).Each CarriesTerms Sample.start
      (dearRun.take 1 ++ [Sample.signed [] 4000 (.triggerNextRound 0)]) := heach
  obtain ⟨w, r, hw, hr, -, -, hbound⟩ := hsplit.at hok Sample.secondRaffle
    ⟨0, hlive, by decide +kernel⟩
  have hstored : (Sample.after dearRun).raffle Sample.secondRaffle = some w := hw
  rw [hstored, Option.bind_some, hr, Option.map_some] at hfee
  rw [Option.some.inj hfee] at hbound
  exact absurd hbound (by decide)

end TikkaRaffle.Properties
