import TikkaRaffle.Factory.Enrolment
import TikkaRaffle.Factory.Pages

/-! The raffles of a creator and of a category as a client finds them: read page
by page they are all that was created, once each and in order. -/
namespace TikkaRaffle.Properties

open TikkaRaffle.Lib TikkaRaffle.Factory

variable {h : Host} {net net' : Net} {i : Invocation}

def created (h : Host) (p : Creation → Bool) (net : Net) (i : Invocation) (_ : Net) :
    List Address :=
  ((creationOf net i.call).filter p).toList.map (Creation.address h)

/-- The pages at consecutive offsets are the raffles, and the last page, but no
page before it, says that there are no more. -/
def PagesRead (read : PaginationParams → PageResultRaffles) (limit : Nat)
    (raffles : List Address) : Prop :=
  raffles.Nodup ∧ (∀ offset, (read ⟨offset, limit⟩).total = raffles.length) ∧
    ∃ last, (∀ k, (read ⟨k * effectiveLimit limit, limit⟩).hasMore = true ↔ k < last) ∧
      (List.range (last + 1)).flatMap
        (fun k => (read ⟨k * effectiveLimit limit, limit⟩).items) = raffles

theorem paginateRaffles_read {raffles : List Address} (hnodup : raffles.Nodup)
    (hlength : raffles.length < 2 ^ 32) (limit : Nat) :
    PagesRead (paginateRaffles raffles) limit raffles := by
  have hpos := effectiveLimit_pos limit
  refine ⟨hnodup, fun offset => ?_, lastWindow raffles.length (effectiveLimit limit),
    fun k => ?_, ?_⟩
  · rw [paginateRaffles_eq hlength]
  · rw [paginateRaffles_eq hlength, lt_lastWindow_iff hpos]
    exact decide_eq_true_iff
  · simp only [paginateRaffles_eq hlength]
    exact flatMap_window_last raffles hpos

section Index

variable (index : Registry → List Address) (p : Creation → Bool)

/-- The index has what was created of its kind, and nothing has been cleaned. -/
structure Listed (log : List Address) (net : Net) : Prop where
  unattributed : Unattributed net
  listed : index net.factory.core.registry = log
  nodup : log.Nodup
  deployed : ∀ a ∈ log, net.raffle a ≠ none
  counted : log.length ≤ net.factory.core.registry.totalRafflesCreated.getD 0
  bounded : net.factory.core.registry.totalRafflesCreated.getD 0 < 2 ^ 32

variable {index p} {log : List Address}

theorem Listed.quiet (hs : Listed index log net)
    (hregistry : net'.factory.core.registry = net.factory.core.registry)
    (hdeployed : ∀ a, net'.raffle a = none ↔ net.raffle a = none) : Listed index log net' where
  unattributed id := by
    rw [hregistry]
    exact hs.unattributed id
  listed := by
    rw [hregistry]
    exact hs.listed
  nodup := hs.nodup
  deployed a ha := (hdeployed a).not.mpr (hs.deployed a ha)
  counted := by
    rw [hregistry]
    exact hs.counted
  bounded := by
    rw [hregistry]
    exact hs.bounded

def Indexes (index : Registry → List Address) (p : Creation → Bool) : Prop :=
  ∀ (k : Registry) (raffle : Address) (creation : Creation),
    index (k.index raffle creation.creator creation.category) =
      index k ++ if p creation = true then [raffle] else []

theorem Listed.create {c : Ctx} {creator raffle : Address} {config : RaffleConfig}
    {w : Instance.World} (hindex : Indexes index p) (hs : Listed index log net)
    (hcreates : Creates h c net net' creator config raffle w) :
    Listed index (log ++ if p ⟨creator, config.description, config.category⟩ = true then [raffle]
      else []) net' := by
  have hnew : raffle ∉ log := fun hmem => hs.deployed raffle hmem hcreates.undeployed
  have htotal : net'.factory.core.registry.totalRafflesCreated.getD 0 =
      net.factory.core.registry.totalRafflesCreated.getD 0 + 1 := by
    rw [hcreates.registry]
    rfl
  have hcount : net.factory.core.registry.totalRafflesCreated.getD 0 + 1 < 2 ^ 32 :=
    hcreates.countable
  have hcounted := hs.counted
  refine ⟨fun id => ?_, ?_, ?_, fun a ha => ?_, ?_, by rw [htotal]; exact hcount⟩
  · rw [hcreates.registry]
    exact hs.unattributed id
  · rw [hcreates.registry, hindex _ raffle ⟨creator, config.description, config.category⟩,
      hs.listed]
  · split
    · exact hs.nodup.append (List.nodup_singleton raffle) (by simpa using hnew)
    · simpa using hs.nodup
  · rw [hcreates.raffles]
    by_cases hraffle : a = raffle
    · rw [hraffle, Function.update_self]
      exact Option.some_ne_none w
    · rw [Function.update_of_ne hraffle]
      rcases List.mem_append.mp ha with hold | hadded
      · exact hs.deployed a hold
      · split at hadded
        · exact absurd (List.mem_singleton.mp hadded) hraffle
        · cases hadded
  · rw [htotal, List.length_append]
    split <;> simp <;> omega

theorem listed_step (hindex : Indexes index p) (hs : Listed index log net)
    (hok : invoke h i net = .ok net') :
    Listed index (log ++ created h p net i net') net' := by
  have heffect := invoke_effect hok
  cases hc : i.call.creates with
  | true =>
    obtain ⟨creator, built, raffle, w, hcreates, hcreation⟩ := heffect.creation hc
    have hadded : created h p net i net' =
        if p ⟨creator, built.description, built.category⟩ = true then [raffle] else [] := by
      rw [created, hcreation, Option.filter_some, hcreates.address]
      split <;> rfl
    rw [hadded]
    exact hs.create hindex hcreates
  | false =>
    have hregistry := heffect.frame.registry hc (hs.unattributed.not_cleans heffect)
    rw [created, creationOf_none hc, Option.filter_none, Option.toList_none, List.map_nil,
      List.append_nil]
    exact hs.quiet hregistry (heffect.deployed hc)

theorem listed_run (hindex : Indexes index p) (hfresh : Fresh h net)
    (hempty : index net.factory.core.registry = []) (calls : List Invocation) :
    Listed index ((machine h).journal (created h p) net calls) ((machine h).run net calls) := by
  obtain ⟨_, _, _, _, -, hcore, -⟩ := Initialised.core hfresh
  have htotal : net.factory.core.registry.totalRafflesCreated = none := by rw [hcore]; rfl
  have hstart : Listed index [] net := by
    refine ⟨unattributed_fresh hfresh, hempty, .nil, fun _ ha => ?_, ?_, ?_⟩
    · cases ha
    · exact Nat.zero_le _
    · rw [htotal]
      exact Nat.two_pow_pos 32
  exact Machine.journal_of_step (Listed index) (fun _ _ _ _ hs hok => listed_step hindex hs hok)
    hstart calls

theorem Listed.read (hs : Listed index log net) (limit : Nat) :
    PagesRead (paginateRaffles (index net.factory.core.registry)) limit log := by
  rw [hs.listed]
  exact paginateRaffles_read hs.nodup (hs.counted.trans_lt hs.bounded) limit

end Index

theorem indexes_creator (creator : Address) :
    Indexes (fun k => (k.creatorRaffles creator).getD []) (·.creator = creator) := by
  intro k raffle creation
  by_cases hcreator : creation.creator = creator
  · simp [Registry.index, hcreator]
  · simp [Registry.index, hcreator, Function.update_of_ne (Ne.symm hcreator)]

theorem indexes_category (category : Bytes) :
    Indexes (fun k => (k.categoryRaffles category).getD []) (·.category = some category) := by
  rintro k raffle ⟨creator, description, own⟩
  cases own with
  | none => simp [Registry.index]
  | some own =>
    by_cases hsame : own = category
    · simp [Registry.index, hsame]
    · simp [Registry.index, hsame, Function.update_of_ne (Ne.symm hsame)]

/-- In every run from a deployment the pages of a creator and of a category list
exactly the raffles created under them, without gaps or repeats. -/
theorem listings_complete (hfresh : Fresh h net) (calls : List Invocation) (limit : Nat) :
    (∀ creator, PagesRead (getRafflesByCreator ((machine h).run net calls).factory creator) limit
        ((machine h).journal (created h (·.creator = creator)) net calls)) ∧
      ∀ category, PagesRead (getRafflesByCategory ((machine h).run net calls).factory category)
        limit ((machine h).journal (created h (·.category = some category)) net calls) := by
  obtain ⟨_, _, _, _, -, hcore, -⟩ := Initialised.core hfresh
  refine ⟨fun creator => ?_, fun category => ?_⟩
  · exact (listed_run (indexes_creator creator) hfresh (by rw [hcore]; rfl) calls).read limit
  · exact (listed_run (indexes_category category) hfresh (by rw [hcore]; rfl) calls).read limit

open Instance.Sample (creator) in
def listedRun : List Invocation :=
  [Sample.signed [creator] 300 (.createRaffle creator Instance.Sample.config),
    Sample.signed [creator] 600 (.createRaffle creator
      { Instance.Sample.config with description := [1], category := some [97] })]

theorem listings_complete_listedRun :
    (∀ creator, PagesRead (getRafflesByCreator (Sample.after listedRun).factory creator) 1
        ((machine Sample.host).journal (created Sample.host (·.creator = creator)) Sample.start
          listedRun)) ∧
      ∀ category, PagesRead (getRafflesByCategory (Sample.after listedRun).factory category) 1
        ((machine Sample.host).journal (created Sample.host (·.category = some category))
          Sample.start listedRun) :=
  listings_complete Sample.start_fresh listedRun 1

example : getRafflesByCreator (Sample.after listedRun).factory Instance.Sample.creator ⟨1, 1⟩ =
    ⟨[Sample.secondRaffle], 2, false⟩ := by decide +kernel

end TikkaRaffle.Properties
