import TikkaRaffle.Factory.Effects
import TikkaRaffle.Lib.Catalogue

/-! The history of creations behind the registry. A roll of all raffles ever
created is kept beside a run; the registry, the deployed contracts and the
counters are what the roll says. -/
namespace TikkaRaffle.Factory

open TikkaRaffle.Lib TikkaRaffle.Instance Function

structure Creation where
  creator : Address
  description : Bytes
  category : Option Bytes
deriving DecidableEq

def Creation.address (h : Host) (k : Creation) : Address := raffleAddress h k.creator k.description

abbrev Roll (h : Host) := Catalogue (Creation.address h)

def creationOf (net : Net) : Call → Option Creation
  | .createRaffle creator config => some ⟨creator, config.description, config.category⟩
  | .triggerNextRound recurringId => (net.factory.recurringRaffle recurringId).map fun entry =>
      ⟨entry.creator, entry.config.baseConfig.description, entry.config.baseConfig.category⟩
  | _ => none

def enrol (h : Host) (net : Net) (i : Invocation) (_ : Net) (roll : Roll h) : Roll h :=
  match i.call, creationOf net i.call with
  | .cleanOldRaffle raffleId, _ => roll.retire raffleId
  | _, some creation => roll.enter creation
  | _, none => roll

variable {h : Host} {c : Ctx} {net net' : Net} {call : Call} {i : Invocation} {roll : Roll h}

theorem Runs.deployed {raffle a : Address} {entry : World → World → Prop}
    (hr : Runs net net' raffle entry) : net'.raffle a = none ↔ net.raffle a = none := by
  obtain ⟨w, w', hw, -, hstored⟩ := hr
  rw [hstored]
  by_cases ha : a = raffle
  · subst ha
    have hsome : net.raffle a ≠ none := by
      intro hnone
      simp [Net.world, hnone] at hw
    simp [hsome]
  · rw [update_of_ne ha]

theorem Reaches.deployed {target a : Address} {order : Forwarded}
    (hr : Reaches h c net net' target order) : net'.raffle a = none ↔ net.raffle a = none := by
  rcases hr with ⟨entry, -, hruns⟩ | ⟨-, hsame⟩
  · exact hruns.deployed
  · rw [hsame]

theorem Call.Effect.deployed (he : call.Effect h c net net') (hc : call.creates = false)
    (a : Address) : net'.raffle a = none ↔ net.raffle a = none := by
  cases call with
  | createRaffle | triggerNextRound => cases hc
  | initFactory => rw [he.2.2.raffle]
  | setConfig | proposeFeeChange | proposeWasmUpgrade =>
    obtain ⟨_, -, hwrites⟩ := he
    rw [hwrites.raffle]
  | executeConfigChange =>
    obtain ⟨_, _, -, -, -, -, hwrites⟩ := he
    rw [hwrites.raffle]
  | transferFactoryAdmin | acceptFactoryAdmin | createRecurringRaffle =>
    obtain ⟨_, hwrites⟩ := he
    rw [hwrites.raffle]
  | cancelRecurringRaffle =>
    obtain ⟨_, -, hwrites⟩ := he
    rw [hwrites.raffle]
  | cleanOldRaffle =>
    obtain ⟨_, _, -, -, -, hreaches⟩ := he
    exact hreaches.deployed
  | pauseInstance | unpauseInstance | raffle => exact he.2.deployed
  | syncAdmin =>
    obtain ⟨_, -, hreaches⟩ := he
    exact hreaches.deployed
  | _ => rw [he.raffle]

theorem Creates.undeployed {creator raffle : Address} {config : RaffleConfig} {w : World}
    (hcreates : Creates h c net net' creator config raffle w) : net.raffle raffle = none := by
  by_contra hne
  exact hcreates.unused (.inr (Option.isSome_iff_ne_none.mpr hne))

structure Enrolled (net : Net) (roll : Roll h) : Prop where
  deployed : ∀ a, net.raffle a ≠ none ↔ a ∈ roll.names
  next : net.factory.core.registry.nextRaffleId.getD 0 = roll.next
  total : net.factory.core.registry.totalRafflesCreated.getD 0 = roll.next
  bounded : roll.next < 2 ^ 32
  byId : ∀ id, net.factory.core.registry.raffleById id = (roll.find id).map (Creation.address h)
  member : ∀ a ∈ roll.names, net.factory.core.registry.isFactoryRaffle a = some true

namespace Enrolled

theorem of_initialised {creatorOf : Nat → Option Address} {categoryOf : Nat → Option Bytes}
    (hinit : Initialised h creatorOf categoryOf net) : Enrolled net (.empty : Roll h) := by
  obtain ⟨admin, wasmHash, bp, treasury, -, hcore, hnone⟩ := hinit.core
  refine ⟨fun a => ?_, ?_, ?_, Nat.two_pow_pos 32, fun id => ?_, fun a ha => by cases ha⟩
  · simp [hnone, Catalogue.names, Catalogue.empty]
  · rw [hcore]
    rfl
  · rw [hcore]
    rfl
  · rw [hcore]
    rfl

theorem same (hw : Enrolled net roll)
    (hregistry : net'.factory.core.registry = net.factory.core.registry)
    (hdeployed : ∀ a, net'.raffle a = none ↔ net.raffle a = none) : Enrolled net' roll := by
  refine ⟨fun a => ?_, ?_, ?_, hw.bounded, ?_, ?_⟩
  · rw [Ne, hdeployed a]
    exact hw.deployed a
  · rw [hregistry]
    exact hw.next
  · rw [hregistry]
    exact hw.total
  · rw [hregistry]
    exact hw.byId
  · rw [hregistry]
    exact hw.member

theorem registered_deployed {id : Nat} {raffle : Address} (hw : Enrolled net roll)
    (hregistered : net.factory.core.registry.raffleById id = some raffle) :
    net.raffle raffle ≠ none := by
  rw [hw.byId] at hregistered
  obtain ⟨creation, hfind, rfl⟩ := Option.map_eq_some_iff.mp hregistered
  exact (hw.deployed _).mpr (Catalogue.name_mem hfind)

theorem unlisted {creator raffle : Address} {config : RaffleConfig} {w : World}
    (hw : Enrolled net roll) (hcreates : Creates h c net net' creator config raffle w) :
    Creation.address h ⟨creator, config.description, config.category⟩ ∉ roll.names := by
  intro hmem
  refine (hw.deployed _).mpr hmem ?_
  have hundeployed := hcreates.undeployed
  rw [hcreates.address] at hundeployed
  exact hundeployed

theorem create {creator raffle : Address} {config : RaffleConfig} {w : World}
    (hw : Enrolled net roll) (hcreates : Creates h c net net' creator config raffle w) :
    Enrolled net' (roll.enter ⟨creator, config.description, config.category⟩) := by
  have hnew := hw.unlisted hcreates
  have haddress : Creation.address h ⟨creator, config.description, config.category⟩ = raffle :=
    hcreates.address.symm
  have hcount : net.factory.core.registry.totalRafflesCreated.getD 0 + 1 < 2 ^ 32 :=
    hcreates.countable
  rw [hw.total] at hcount
  rw [Catalogue.enter_new hnew]
  refine ⟨fun a => ?_, ?_, ?_, ?_, fun id => ?_, fun a ha => ?_⟩
  · rw [hcreates.raffles, Catalogue.names_add, List.mem_append, List.mem_singleton, haddress]
    by_cases ha : a = raffle
    · subst ha
      simp
    · rw [update_of_ne ha, hw.deployed a]
      simp [ha]
  · rw [hcreates.registry, Catalogue.next_add]
    simp only [Registry.index, hw.next, Factory.saturateU32, Option.getD_some]
    omega
  · rw [hcreates.registry, Catalogue.next_add]
    simp only [Registry.index, hw.total, Option.getD_some]
  · rw [Catalogue.next_add]
    exact hcount
  · rw [hcreates.registry, Catalogue.find_add]
    simp only [Registry.index, hw.next]
    by_cases hid : id = roll.next
    · subst hid
      rw [update_self, update_self, Option.map_some, haddress]
    · rw [update_of_ne hid, update_of_ne hid, hw.byId]
  · rw [Catalogue.names_add, List.mem_append, List.mem_singleton, haddress] at ha
    rw [hcreates.registry]
    simp only [Registry.index]
    by_cases hsame : a = raffle
    · rw [hsame, update_self]
    · rw [update_of_ne hsame]
      exact hw.member a (ha.resolve_right hsame)

theorem clean {raffleId : Nat} {raffle creator : Address} {category : Option Bytes}
    (hw : Enrolled net roll)
    (hregistry : net'.factory.core.registry =
      net.factory.core.registry.unindex raffleId raffle creator category)
    (hdeployed : ∀ a, net'.raffle a = none ↔ net.raffle a = none) :
    Enrolled net' (roll.retire raffleId) := by
  refine ⟨fun a => ?_, ?_, ?_, ?_, fun id => ?_, ?_⟩
  · rw [Catalogue.names_retire, Ne, hdeployed a]
    exact hw.deployed a
  · rw [hregistry, Catalogue.next_retire]
    exact hw.next
  · rw [hregistry, Catalogue.next_retire]
    exact hw.total
  · rw [Catalogue.next_retire]
    exact hw.bounded
  · rw [hregistry, Catalogue.find_retire]
    simp only [Registry.unindex]
    by_cases hid : id = raffleId
    · subst hid
      rw [update_self, update_self, Option.map_none]
    · rw [update_of_ne hid, update_of_ne hid, hw.byId]
  · rw [hregistry, Catalogue.names_retire]
    exact hw.member

end Enrolled

theorem creationOf_none (hc : call.creates = false) : creationOf net call = none := by
  cases call with
  | createRaffle | triggerNextRound => cases hc
  | _ => rfl

theorem Call.Effect.creation (he : call.Effect h c net net') (hc : call.creates = true) :
    ∃ creator built raffle w, Creates h c net net' creator built raffle w ∧
      creationOf net call = some ⟨creator, built.description, built.category⟩ := by
  cases call with
  | createRaffle creator config =>
    obtain ⟨treasury, built, raffle, w, -, -, -, hbuilt, hcreates, -⟩ := he
    have hoffer := buildConfig_offer hbuilt
    refine ⟨creator, built, raffle, w, hcreates, ?_⟩
    rw [creationOf, hoffer.description, hoffer.category]
    rfl
  | triggerNextRound recurringId =>
    obtain ⟨entry, built, raffle, w, -, hentry, hbuilt, hcreates, -⟩ := he
    have hoffer := buildConfig_offer hbuilt
    refine ⟨entry.creator, built, raffle, w, hcreates, ?_⟩
    rw [creationOf, hentry, hoffer.description, hoffer.category]
    rfl
  | _ => cases hc

theorem enrol_create {creation : Creation} (hc : i.call.creates = true)
    (hcreation : creationOf net i.call = some creation) :
    enrol h net i net' roll = roll.enter creation := by
  unfold enrol
  rw [hcreation]
  cases hcall : i.call with
  | cleanOldRaffle =>
    rw [hcall] at hc
    cases hc
  | _ => rfl

theorem enrol_quiet (hc : i.call.creates = false) (hclean : i.call.cleans = false) :
    enrol h net i net' roll = roll := by
  unfold enrol
  rw [creationOf_none hc]
  cases hcall : i.call with
  | cleanOldRaffle =>
    rw [hcall] at hclean
    cases hclean
  | _ => rfl

theorem enrolled_step (hw : Enrolled net roll) (hok : invoke h i net = .ok net') :
    Enrolled net' (enrol h net i net' roll) := by
  have he := invoke_effect hok
  cases hc : i.call.creates with
  | true =>
    obtain ⟨creator, built, raffle, w, hcreates, hcreation⟩ := he.creation hc
    rw [enrol_create hc hcreation]
    exact hw.create hcreates
  | false =>
    have hdeployed := he.deployed hc
    cases hclean : i.call.cleans with
    | false =>
      rw [enrol_quiet hc hclean]
      exact hw.same (he.frame.registry hc hclean) hdeployed
    | true =>
      obtain ⟨ctx, call⟩ := i
      cases call with
      | cleanOldRaffle raffleId =>
        obtain ⟨raffle, creator, -, -, hcore, -⟩ := he
        exact hw.clean (congrArg Core.registry hcore) hdeployed
      | _ => cases hclean

/-- A run with the roll of its creations. -/
def enrolling (h : Host) : Machine (Net × Roll h) Invocation Abort := (machine h).noting (enrol h)

def rollOf (h : Host) (net : Net) (calls : List Invocation) : Roll h :=
  ((enrolling h).run (net, .empty) calls).2

theorem enrolling_ok {s s' : Net × Roll h} : (enrolling h).step i s = .ok s' ↔
    invoke h i s.1 = .ok s'.1 ∧ s'.2 = enrol h s.1 i s'.1 s.2 := Machine.noting_ok

theorem enrolled_commit {s s' : Net × Roll h} (hw : Enrolled s.1 s.2)
    (hok : (enrolling h).step i s = .ok s') : Enrolled s'.1 s'.2 := by
  obtain ⟨hstep, hnote⟩ := enrolling_ok.mp hok
  rw [hnote]
  exact enrolled_step hw hstep

theorem enrolling_last {Q : Net × Roll h → Prop} {calls : List Invocation}
    (hall : (enrolling h).Always Q (net, .empty) calls) :
    Q ((machine h).run net calls, rollOf h net calls) := by
  have hlast := hall.last
  have hnet : ((enrolling h).run (net, .empty) calls).1 = (machine h).run net calls :=
    Machine.noting_run _ calls
  rwa [← Prod.mk.eta (p := (enrolling h).run (net, .empty) calls), hnet] at hlast

theorem enrolled_run {creatorOf : Nat → Option Address} {categoryOf : Nat → Option Bytes}
    (hinit : Initialised h creatorOf categoryOf net) (calls : List Invocation) :
    Enrolled ((machine h).run net calls) (rollOf h net calls) :=
  enrolling_last (Q := fun s => Enrolled s.1 s.2) (Machine.always_of_step _
    (fun _ _ _ hw hok => enrolled_commit hw hok) (Enrolled.of_initialised hinit) calls)

/-- No identifier has a stored creator. -/
def Unattributed (net : Net) : Prop := ∀ id, net.factory.core.registry.raffleCreator id = none

theorem unattributed_fresh (hfresh : Fresh h net) : Unattributed net := by
  obtain ⟨admin, wasmHash, bp, treasury, -, hcore, -⟩ := Initialised.core hfresh
  rw [Unattributed, hcore]
  exact fun _ => rfl

/-- Without stored creators no cleanup commits. -/
theorem Unattributed.not_cleans (hw : Unattributed net) (he : call.Effect h c net net') :
    call.cleans = false := by
  cases call with
  | cleanOldRaffle raffleId =>
    obtain ⟨raffle, creator, -, hcreator, -⟩ := he
    have hnone : net.factory.raffleCreator raffleId = none := hw raffleId
    rw [hcreator] at hnone
    cases hnone
  | _ => rfl

/-- No creation stores the creator of the raffle, so none is ever stored. -/
theorem unattributed_step (hw : Unattributed net) (hok : invoke h i net = .ok net') :
    Unattributed net' := by
  have he := invoke_effect hok
  intro id
  cases hc : i.call.creates with
  | true =>
    obtain ⟨creator, built, raffle, w, hcreates, -⟩ := he.creation hc
    rw [hcreates.registry]
    exact hw id
  | false =>
    rw [he.frame.registry hc (hw.not_cleans he)]
    exact hw id

end TikkaRaffle.Factory
