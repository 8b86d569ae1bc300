import TikkaRaffle.Factory.Enrolment

/-! The registry and its indexes over whole runs. Beside a run stands the roll
of everything created in it; the count of live raffles and the lists by creator
and by category are those of the roll, as long as a cleanup finds the creator
and category that the raffle was created with. -/
namespace TikkaRaffle.Properties

open TikkaRaffle.Lib TikkaRaffle.Factory

def cleanedId : Call → Option Nat
  | .cleanOldRaffle raffleId => some raffleId
  | _ => none

/-- What is stored under the identifier of a cleaned raffle is what it was
created with. -/
def CleansMatch {h : Host} (s : Net × Roll h) (i : Invocation) (_ : Net × Roll h) : Prop :=
  ∀ id ∈ cleanedId i.call, ∀ creation ∈ s.2.find id,
    (∀ creator ∈ s.1.factory.raffleCreator id, creator = creation.creator) ∧
      s.1.factory.raffleCategory id = creation.category

instance {h : Host} (s s' : Net × Roll h) (i : Invocation) : Decidable (CleansMatch s i s') :=
  inferInstanceAs (Decidable (∀ _ ∈ _, ∀ _ ∈ _, _ ∧ _))

/-- The registry as the roll has it. The listings of a catalogue have the names
of the entries in force, once each and in the order of creation. -/
structure Consistent {h : Host} (net : Net) (roll : Roll h) : Prop where
  live : ∀ id, net.factory.raffleById id = (roll.find id).map (Creation.address h)
  count : net.factory.raffleCount.getD 0 =
    Set.ncard {id | (net.factory.raffleById id).isSome = true}
  below : ∀ id, (net.factory.raffleById id).isSome = true → id < net.factory.nextRaffleId.getD 0
  byCreator : ∀ creator, (net.factory.creatorRaffles creator).getD [] =
    roll.listing fun creation => creation.creator = creator
  byCategory : ∀ category, (net.factory.categoryRaffles category).getD [] =
    roll.listing fun creation => creation.category = some category

/-- An identifier is assigned when it is the next one, which moves past it. -/
def AssignsNext (net : Net) (_ : Invocation) (net' : Net) : Prop :=
  net.factory.nextRaffleId.getD 0 ≤ net'.factory.nextRaffleId.getD 0 ∧
  ∀ id raffle, net'.factory.raffleById id = some raffle →
    net.factory.raffleById id ≠ some raffle →
    id = net.factory.nextRaffleId.getD 0 ∧ net'.factory.nextRaffleId.getD 0 = id + 1

variable {h : Host} {c : Ctx} {net net' : Net} {i : Invocation} {roll : Roll h}

structure Catalogued (k : Registry) (roll : Roll h) : Prop where
  count : k.raffleCount.getD 0 = roll.inForce
  byCreator : ∀ creator, (k.creatorRaffles creator).getD [] =
    roll.listing fun creation => creation.creator = creator
  byCategory : ∀ category, (k.categoryRaffles category).getD [] =
    roll.listing fun creation => creation.category = some category

theorem prune_getD (index : Option (List Address)) (raffle : Address) :
    (prune index raffle).getD [] = (index.getD []).filter (· ≠ raffle) := by
  cases index with
  | none => rfl
  | some raffles =>
    simp only [prune, Option.getD_some]
    split
    next hempty => exact hempty.symm
    next => rfl

namespace Catalogued

theorem create {creation : Creation} (hi : Catalogued net.factory.core.registry roll)
    (hnew : Creation.address h creation ∉ roll.names) (hbound : roll.next + 1 < 2 ^ 32) :
    Catalogued (net.factory.core.registry.index (Creation.address h creation) creation.creator
      creation.category) (roll.add creation hnew) := by
  refine ⟨?_, fun creator => ?_, fun category => ?_⟩
  · have hle := roll.inForce_le
    simp only [Registry.index, hi.count, Factory.saturateU32, Option.getD_some,
      Catalogue.inForce_add]
    omega
  · rw [Catalogue.listing_add, ← hi.byCreator]
    simp only [Registry.index]
    by_cases hsame : creator = creation.creator
    · subst hsame
      simp
    · simp [Function.update_of_ne hsame, Ne.symm hsame]
  · rw [Catalogue.listing_add, ← hi.byCategory]
    simp only [Registry.index]
    cases hcategory : creation.category with
    | none => simp
    | some own =>
      by_cases hsame : category = own
      · subst hsame
        simp
      · simp [Function.update_of_ne hsame, Ne.symm hsame]

theorem clean {id : Nat} {creation : Creation} (hi : Catalogued net.factory.core.registry roll)
    (hfind : roll.find id = some creation) :
    Catalogued (net.factory.core.registry.unindex id (Creation.address h creation) creation.creator
      creation.category) (roll.retire id) := by
  refine ⟨?_, fun creator => ?_, fun category => ?_⟩
  · have hcount := roll.inForce_retire hfind
    simp only [Registry.unindex, hi.count, Option.getD_some]
    omega
  · simp only [Registry.unindex]
    by_cases hsame : creator = creation.creator
    · subst hsame
      rw [Function.update_self, prune_getD, hi.byCreator, Catalogue.listing_retire hfind]
    · rw [Function.update_of_ne hsame, hi.byCreator]
      exact (Catalogue.listing_retire_other hfind (by simp [Ne.symm hsame])).symm
  · simp only [Registry.unindex]
    cases hcategory : creation.category with
    | none =>
      rw [hi.byCategory]
      exact (Catalogue.listing_retire_other hfind (by simp [hcategory])).symm
    | some own =>
      by_cases hsame : category = own
      · subst hsame
        simp only [Function.update_self, prune_getD, hi.byCategory]
        exact (Catalogue.listing_retire hfind).symm
      · simp only [Function.update_of_ne hsame, hi.byCategory]
        exact (Catalogue.listing_retire_other hfind (by simp [hcategory, Ne.symm hsame])).symm

end Catalogued

theorem catalogued_initialised {creatorOf : Nat → Option Address} {categoryOf : Nat → Option Bytes}
    (hinit : Initialised h creatorOf categoryOf net) :
    Catalogued net.factory.core.registry (.empty : Roll h) := by
  obtain ⟨admin, wasmHash, bp, treasury, -, hcore, -⟩ := hinit.core
  rw [hcore]
  exact ⟨rfl, fun _ => rfl, fun _ => rfl⟩

theorem catalogued_step {s' : Net × Roll h} (hroll : Enrolled net roll)
    (hi : Catalogued net.factory.core.registry roll) (hmatch : CleansMatch (net, roll) i s')
    (hok : invoke h i net = .ok net') :
    Catalogued net'.factory.core.registry (enrol h net i net' roll) := by
  have he := invoke_effect hok
  cases hc : i.call.creates with
  | true =>
    obtain ⟨creator, built, raffle, w, hcreates, hcreation⟩ := he.creation hc
    have hnew := hroll.unlisted hcreates
    have hbound : roll.next + 1 < 2 ^ 32 := by
      rw [← hroll.total]
      exact hcreates.countable
    rw [enrol_create hc hcreation, Catalogue.enter_new hnew, hcreates.registry, hcreates.address]
    exact hi.create hnew hbound
  | false =>
    cases hclean : i.call.cleans with
    | false =>
      rw [enrol_quiet hc hclean, he.frame.registry hc hclean]
      exact hi
    | true =>
      obtain ⟨ctx, call⟩ := i
      cases call with
      | cleanOldRaffle id =>
        obtain ⟨raffle, creator, hraffle, hcreator, hcore, -⟩ := he
        have hregistry := congrArg Core.registry hcore
        have hbyId : (roll.find id).map (Creation.address h) = some raffle :=
          (hroll.byId id).symm.trans hraffle
        obtain ⟨creation, hfind, rfl⟩ := Option.map_eq_some_iff.mp hbyId
        have hcategory : net.factory.raffleCategory id = creation.category :=
          (hmatch id rfl creation hfind).2
        rw [hcategory, (hmatch id rfl creation hfind).1 creator hcreator] at hregistry
        rw [hregistry]
        exact hi.clean hfind
      | _ => cases hclean

theorem consistent_of_catalogued (hroll : Enrolled net roll)
    (hi : Catalogued net.factory.core.registry roll) : Consistent net roll := by
  have hlive : ∀ id, net.factory.raffleById id = (roll.find id).map (Creation.address h) :=
    hroll.byId
  have hsome : ∀ id, (net.factory.raffleById id).isSome = (roll.find id).isSome := by
    intro id
    rw [hlive, Option.isSome_map]
  refine ⟨hlive, ?_, fun id hid => ?_, hi.byCreator, hi.byCategory⟩
  · have hcount : net.factory.raffleCount.getD 0 = roll.inForce := hi.count
    simp only [hcount, hsome, Catalogue.inForce_eq_ncard]
  · have hnext : net.factory.nextRaffleId.getD 0 = roll.next := hroll.next
    rw [hsome] at hid
    obtain ⟨creation, hfind⟩ := Option.isSome_iff_exists.mp hid
    rw [hnext]
    exact Catalogue.find_lt hfind

theorem assignsNext_step (hroll : Enrolled net roll) (hok : invoke h i net = .ok net') :
    AssignsNext net i net' := by
  have he := invoke_effect hok
  have hlater := enrolled_step hroll hok
  have hnext : net.factory.nextRaffleId.getD 0 = roll.next := hroll.next
  have hnext' : net'.factory.nextRaffleId.getD 0 = (enrol h net i net' roll).next := hlater.next
  have hbyId : ∀ id, net.factory.raffleById id = (roll.find id).map (Creation.address h) :=
    hroll.byId
  have hbyId' : ∀ id, net'.factory.raffleById id =
    ((enrol h net i net' roll).find id).map (Creation.address h) := hlater.byId
  unfold AssignsNext
  rw [hnext, hnext']
  simp only [hbyId, hbyId']
  cases hc : i.call.creates with
  | true =>
    obtain ⟨creator, built, raffle, w, hcreates, hcreation⟩ := he.creation hc
    rw [enrol_create hc hcreation, Catalogue.enter_new (hroll.unlisted hcreates),
      Catalogue.next_add, Catalogue.find_add]
    refine ⟨Nat.le_succ _, fun id a hnow hbefore => ?_⟩
    by_cases hid : id = roll.next
    · exact ⟨hid, by rw [hid]⟩
    · rw [Function.update_of_ne hid] at hnow
      exact absurd hnow hbefore
  | false =>
    cases hclean : i.call.cleans with
    | false =>
      rw [enrol_quiet hc hclean]
      exact ⟨Nat.le_refl _, fun id a hnow hbefore => absurd hnow hbefore⟩
    | true =>
      obtain ⟨ctx, call⟩ := i
      cases call with
      | cleanOldRaffle raffleId =>
        change roll.next ≤ (roll.retire raffleId).next ∧ ∀ id a,
          ((roll.retire raffleId).find id).map _ = some a → _ → id = roll.next ∧
            (roll.retire raffleId).next = id + 1
        rw [Catalogue.next_retire, Catalogue.find_retire]
        refine ⟨Nat.le_refl _, fun id a hnow hbefore => ?_⟩
        by_cases hid : id = raffleId
        · rw [hid, Function.update_self] at hnow
          cases hnow
        · rw [Function.update_of_ne hid] at hnow
          exact absurd hnow hbefore
      | _ => cases hclean

/-- The lists have the registered raffles of a creator or a category, once each. -/
theorem Consistent.lists_exactly (hw : Consistent net roll) {raffle : Address}
    {p : Creation → Bool} :
    (roll.listing p).Nodup ∧ (raffle ∈ roll.listing p ↔
      ∃ id creation, net.factory.raffleById id = some raffle ∧ roll.find id = some creation ∧
        p creation = true) := by
  refine ⟨roll.listing_nodup, ?_⟩
  rw [Catalogue.mem_listing]
  constructor
  · rintro ⟨id, creation, hfind, hp, rfl⟩
    exact ⟨id, creation, by rw [hw.live, hfind, Option.map_some], hfind, hp⟩
  · rintro ⟨id, creation, hlive, hfind, hp⟩
    rw [hw.live, hfind, Option.map_some, Option.some.injEq] at hlive
    exact ⟨id, creation, hfind, hp, hlive⟩

/-- From an empty storage the cleanups match: none ever commits. -/
theorem cleansMatch_fresh (hfresh : Fresh h net) (calls : List Invocation) :
    (enrolling h).Each CleansMatch (net, (.empty : Roll h)) calls :=
  Machine.each_of_step (m := enrolling h) (fun s => Unattributed s.1)
    (fun s i s' hw hok => unattributed_step hw (enrolling_ok.mp hok).1)
    (fun s i s' hw hok id hid => by
      have hclean := hw.not_cleans (invoke_effect (enrolling_ok.mp hok).1)
      cases hcall : i.call with
      | cleanOldRaffle raffleId =>
        rw [hcall] at hclean
        cases hclean
      | _ =>
        rw [hcall] at hid
        cases hid)
    (unattributed_fresh hfresh) calls

theorem enrol_next (hroll : Enrolled net roll) (hok : invoke h i net = .ok net') :
    (enrol h net i net' roll).next = roll.next + if i.call.creates then 1 else 0 := by
  have he := invoke_effect hok
  cases hc : i.call.creates with
  | true =>
    obtain ⟨creator, built, raffle, w, hcreates, hcreation⟩ := he.creation hc
    rw [enrol_create hc hcreation, Catalogue.enter_new (hroll.unlisted hcreates),
      Catalogue.next_add]
    rfl
  | false =>
    obtain ⟨ctx, call⟩ := i
    cases call with
    | cleanOldRaffle raffleId => exact roll.next_retire
    | createRaffle | triggerNextRound => cases hc
    | _ => rfl

/-- In every run whose cleanups find what was created, the registry is the one
of the roll at all times, the roll has one entry for each committed creation,
and identifiers are assigned in turn. -/
theorem registry_consistent {creatorOf : Nat → Option Address} {categoryOf : Nat → Option Bytes}
    (hinit : Initialised h creatorOf categoryOf net) {calls : List Invocation}
    (hmatch : (enrolling h).Each CleansMatch (net, .empty) calls) :
    (enrolling h).Always (fun s => Consistent s.1 s.2) (net, .empty) calls ∧
      (rollOf h net calls).next =
        ((machine h).committed net calls).countP (fun i => i.call.creates) ∧
      (machine h).Each AssignsNext net calls := by
  have hstart : Enrolled net (.empty : Roll h) := Enrolled.of_initialised hinit
  have hkeep : ∀ (s : Net × Roll h) i s', Enrolled s.1 s.2 → (enrolling h).step i s = .ok s' →
      Enrolled s'.1 s'.2 := fun _ _ _ hw hok => enrolled_commit hw hok
  refine ⟨?_, ?_, ?_⟩
  · have hall := Machine.always_of_each (m := enrolling h)
      (fun s => Enrolled s.1 s.2 ∧ Catalogued s.1.factory.core.registry s.2)
      (fun s i s' hw hmatch hok => by
        obtain ⟨hstep, hnote⟩ := enrolling_ok.mp hok
        refine ⟨hkeep s i s' hw.1 hok, ?_⟩
        rw [hnote]
        exact catalogued_step hw.1 hw.2 hmatch hstep)
      ⟨hstart, catalogued_initialised hinit⟩ hmatch
    exact hall.mono fun s hw => consistent_of_catalogued hw.1 hw.2
  · have hcount := Machine.run_count (m := enrolling h) (fun s => Enrolled s.1 s.2)
      (p := fun i => i.call.creates) (fun s => s.2.next) hkeep
      (fun s i s' hw hok => by
        obtain ⟨hstep, hnote⟩ := enrolling_ok.mp hok
        rw [hnote]
        exact enrol_next hw hstep)
      (s := (net, .empty)) hstart calls
    rw [enrolling, Machine.noting_committed] at hcount
    exact hcount.trans (Nat.zero_add _)
  · have heach := Machine.each_of_step (m := enrolling h) (fun s => Enrolled s.1 s.2)
      (P := fun s i s' => AssignsNext s.1 i s'.1) hkeep
      (fun s i s' hw hok => assignsNext_step hw (enrolling_ok.mp hok).1)
      (s := (net, .empty)) hstart calls
    exact Machine.noting_each.mp heach

open Instance.Sample (admin creator)
open Sample (firstRaffle secondRaffle)

def attributed : Net := Sample.startWith (fun id => if id = 0 then some creator else none)
  fun _ => none

def cleaningRun : List Invocation :=
  [Sample.signed [creator] 300 (.createRaffle creator Instance.Sample.config),
    Sample.signed [creator] 600 (.createRaffle creator
      { Instance.Sample.config with description := [1], category := some [97] }),
    Sample.signed [creator] 601 (.raffle firstRaffle .depositPrize),
    Sample.signed [creator] 602 (.raffle firstRaffle (.cancelRaffle .creatorCancelled)),
    Sample.signed [creator] 603 (.raffle firstRaffle .refundPrize),
    Sample.signed [admin] 604 (.cleanOldRaffle 0)]

theorem registry_consistent_cleaningRun :
    Initialised Sample.host (fun id => if id = 0 then some creator else none) (fun _ => none)
      attributed ∧
    ((machine Sample.host).run attributed cleaningRun).factory.raffleCount = some 1 ∧
    ((machine Sample.host).run attributed cleaningRun).factory.creatorRaffles creator =
      some [secondRaffle] ∧
    (enrolling Sample.host).Always (fun s => Consistent s.1 s.2) (attributed, .empty)
      cleaningRun := by
  have hinit := Sample.startWith_initialised (fun id => if id = 0 then some creator else none)
    fun _ => none
  exact ⟨hinit, by decide +kernel, by decide +kernel,
    (registry_consistent hinit (by decide +kernel)).1⟩

end TikkaRaffle.Properties
