import Mathlib.Data.Set.Card
import TikkaRaffle.Factory.Tallies
import TikkaRaffle.Lib.Tally

/-! The counters of the factory against what they count: creations, checkpoints,
participants and volumes, in any order of the calls that report them. -/
namespace TikkaRaffle.Properties

open TikkaRaffle.Lib TikkaRaffle.Factory Constants Function

variable {h : Host} {c : Ctx} {net net' : Net} {i : Invocation} {s s' : State}

structure VolumeRecord where
  asset : Address
  amount : Int

def volumeRecordOf : Instance.FactoryCall → Option VolumeRecord
  | .recordVolume asset amount => some ⟨asset, amount⟩
  | _ => none

def recordVolumes (net : Net) (i : Invocation) (net' : Net) (log : List VolumeRecord) :
    List VolumeRecord :=
  log ++ (noticesOf net i.call net').filterMap volumeRecordOf

def recording (h : Host) : Machine (Net × List VolumeRecord) Invocation Abort :=
  (machine h).noting recordVolumes

def recordedFor (asset : Address) (log : List VolumeRecord) : Int :=
  tally (fun entry => entry.asset = asset) (·.amount) log

theorem answeredAll_volume (notices : List Instance.FactoryCall) (k : Tallies) (asset : Address) :
    ((notices.foldl Tallies.answered k).totalVolumePerAsset asset).getD 0 =
      (k.totalVolumePerAsset asset).getD 0 +
        recordedFor asset (notices.filterMap volumeRecordOf) := by
  induction notices generalizing k with
  | nil => simp [recordedFor]
  | cons notice rest ih =>
    rw [List.foldl_cons, ih]
    cases notice with
    | recordVolume recorded amount =>
      simp only [Tallies.answered, List.filterMap_cons, volumeRecordOf, recordedFor, tally_cons]
      by_cases hasset : asset = recorded
      · subst hasset
        rw [update_self, Option.getD_some, if_pos (decide_eq_true rfl), Int.add_assoc]
      · rw [update_of_ne hasset, if_neg (by simpa using Ne.symm hasset), Int.zero_add]
    | trackParticipant participant =>
      simp only [Tallies.answered, List.filterMap_cons, volumeRecordOf]
      split <;> rfl
    | recordLeaderboardEntry => rfl

def flagged (k : Tallies) : Set Address := {a | (k.uniqueParticipant a).isSome}

def ParticipantsCounted (k : Tallies) : Prop :=
  (flagged k).Finite ∧ (flagged k).ncard = k.totalUniqueParticipants.getD 0

theorem ParticipantsCounted.same {k k' : Tallies} (hw : ParticipantsCounted k)
    (hflags : k'.uniqueParticipant = k.uniqueParticipant)
    (htotal : k'.totalUniqueParticipants = k.totalUniqueParticipants) : ParticipantsCounted k' := by
  unfold ParticipantsCounted flagged at hw ⊢
  rw [hflags, htotal]
  exact hw

theorem participantsCounted_answered {k : Tallies} (hw : ParticipantsCounted k)
    (notice : Instance.FactoryCall) : ParticipantsCounted (k.answered notice) := by
  cases notice with
  | trackParticipant participant =>
    simp only [Tallies.answered]
    split
    next hnew =>
      have hfresh : participant ∉ flagged k := by simpa [flagged] using hnew
      have hinsert : flagged { k with
          uniqueParticipant := update k.uniqueParticipant participant (some true)
          totalUniqueParticipants := some (k.totalUniqueParticipants.getD 0 + 1) } =
            insert participant (flagged k) := by
        ext a
        by_cases ha : a = participant
        · subst ha
          simp [flagged]
        · simp [flagged, ha]
      rw [ParticipantsCounted, hinsert, Set.ncard_insert_of_notMem hfresh hw.1, hw.2]
      exact ⟨hw.1.insert participant, rfl⟩
    next => exact hw
  | _ => exact hw

theorem participantsCounted_answeredAll {k : Tallies} (hw : ParticipantsCounted k)
    (notices : List Instance.FactoryCall) :
    ParticipantsCounted (notices.foldl Tallies.answered k) := by
  induction notices generalizing k with
  | nil => exact hw
  | cons notice rest ih => exact ih (participantsCounted_answered hw notice)

/-- The checkpoints of so many creations. -/
structure CheckpointsKept (k : Tallies) (created : Nat) : Prop where
  stored : ∀ index, (k.checkpoint index).isSome ↔
    1 ≤ index ∧ index ≤ created / checkpointInterval
  labelled : ∀ index, ∀ checkpoint ∈ k.checkpoint index,
    checkpoint.index = index ∧ checkpoint.raffleCount = checkpointInterval * index
  latest : k.latestCheckpointIndex.getD 0 = created / checkpointInterval

theorem CheckpointsKept.same {k k' : Tallies} {created : Nat} (hw : CheckpointsKept k created)
    (hcheckpoint : k'.checkpoint = k.checkpoint)
    (hlatest : k'.latestCheckpointIndex = k.latestCheckpointIndex) :
    CheckpointsKept k' created := by
  refine ⟨?_, ?_, ?_⟩
  · rw [hcheckpoint]
    exact hw.stored
  · rw [hcheckpoint]
    exact hw.labelled
  · rw [hlatest]
    exact hw.latest

theorem CheckpointsKept.reach {k : Tallies} {created : Nat} (hw : CheckpointsKept k created) :
    CheckpointsKept (k.reach h c (created + 1)) (created + 1) := by
  unfold Tallies.reach
  split
  next hbetween =>
    have hsame : (created + 1) / checkpointInterval = created / checkpointInterval := by
      unfold checkpointInterval at hbetween ⊢
      omega
    exact ⟨by rw [hsame]; exact hw.stored, hw.labelled, by rw [hsame]; exact hw.latest⟩
  next hcomplete =>
    have hnext : (created + 1) / checkpointInterval = created / checkpointInterval + 1 := by
      unfold checkpointInterval at hcomplete ⊢
      omega
    have hcount : created + 1 = checkpointInterval * ((created + 1) / checkpointInterval) := by
      unfold checkpointInterval at hcomplete ⊢
      omega
    refine ⟨fun index => ?_, fun index checkpoint hstored => ?_, rfl⟩
    · by_cases hindex : index = (created + 1) / checkpointInterval
      · subst hindex
        simp only [update_self, Option.isSome_some, true_iff]
        exact ⟨by rw [hnext]; exact Nat.succ_pos _, le_rfl⟩
      · simp only [update_of_ne hindex]
        rw [hw.stored]
        omega
    · by_cases hindex : index = (created + 1) / checkpointInterval
      · subst hindex
        simp only [update_self, Option.mem_some_iff] at hstored
        subst hstored
        exact ⟨rfl, hcount⟩
      · simp only [update_of_ne hindex] at hstored
        exact hw.labelled index checkpoint hstored

structure CreationsCounted (s : State) : Prop where
  same : s.nextRaffleId = s.totalRafflesCreated
  bounded : s.totalRafflesCreated.getD 0 < 2 ^ 32

/-- Everything a counter says is so. -/
structure CountersAgree (s : State) (log : List VolumeRecord) : Prop where
  creations : CreationsCounted s
  checkpoints : CheckpointsKept s.tallies (s.totalRafflesCreated.getD 0)
  participants : ParticipantsCounted s.tallies
  volumes : ∀ asset, (s.totalVolumePerAsset asset).getD 0 = recordedFor asset log

theorem creationsCounted_index {k : Registry} {raffle creator : Address} {category : Option Bytes}
    (hsame : k.nextRaffleId = k.totalRafflesCreated)
    (hroom : k.totalRafflesCreated.getD 0 + 1 < 2 ^ 32) :
    (k.index raffle creator category).nextRaffleId =
        (k.index raffle creator category).totalRafflesCreated ∧
      (k.index raffle creator category).totalRafflesCreated.getD 0 < 2 ^ 32 := by
  refine ⟨?_, hroom⟩
  change some (Factory.saturateU32 (k.nextRaffleId.getD 0 + 1)) =
    some (k.totalRafflesCreated.getD 0 + 1)
  rw [hsame, Factory.saturateU32, Nat.min_eq_left (by omega)]

theorem countersAgree_create {log : List VolumeRecord} (hw : CountersAgree net.factory log)
    (hc : i.call.creates = true) (hok : invoke h i net = .ok net') :
    CountersAgree net'.factory log := by
  obtain ⟨creator, built, raffle, w, hcreates, -⟩ := (invoke_effect hok).creation hc
  obtain ⟨rounds, htallies⟩ := invokeSigned_creates hc hok
  have hcount : net'.factory.core.registry.nextRaffleId =
      net'.factory.core.registry.totalRafflesCreated ∧
        net'.factory.core.registry.totalRafflesCreated.getD 0 < 2 ^ 32 := by
    rw [hcreates.registry]
    exact creationsCounted_index hw.creations.same hcreates.countable
  have htotal : net'.factory.totalRafflesCreated.getD 0 =
      net.factory.totalRafflesCreated.getD 0 + 1 :=
    congrArg (fun k : Registry => k.totalRafflesCreated.getD 0) hcreates.registry
  have hother := Tallies.reach_other (h := h) (c := net.signed h i.ctx) net.factory.tallies
    (net.factory.totalRafflesCreated.getD 0 + 1)
  refine ⟨⟨hcount.1, hcount.2⟩, ?_, ?_, fun asset => ?_⟩
  · rw [htotal, htallies]
    exact hw.checkpoints.reach.same rfl rfl
  · rw [htallies]
    exact hw.participants.same hother.1 hother.2.1
  · have hvolume := congrArg Tallies.totalVolumePerAsset htallies
    rw [← hw.volumes asset]
    exact congrArg (Option.getD · 0) (congrFun (hvolume.trans hother.2.2) asset)

theorem countersAgree_report {log : List VolumeRecord} (hw : CountersAgree net.factory log)
    (hc : i.call.creates = false) (hok : invoke h i net = .ok net') :
    CountersAgree net'.factory (recordVolumes net i net' log) := by
  obtain ⟨hnext, htotal⟩ := (invoke_effect hok).created_same hc
  obtain ⟨rounds, htallies⟩ := invokeSigned_reports hc hok
  have hkept := answeredAll_kept (noticesOf net i.call net') net.factory.tallies
  have hcreations : CreationsCounted net'.factory :=
    ⟨by rw [hnext, htotal]; exact hw.creations.same, by rw [htotal]; exact hw.creations.bounded⟩
  refine ⟨hcreations, ?_, ?_, fun asset => ?_⟩
  · rw [htotal, htallies]
    exact hw.checkpoints.same hkept.1 hkept.2.1
  · rw [htallies]
    exact (participantsCounted_answeredAll hw.participants _).same rfl rfl
  · have hvolume := congrArg Tallies.totalVolumePerAsset htallies
    rw [recordVolumes, recordedFor, tally_append]
    change (net'.factory.tallies.totalVolumePerAsset asset).getD 0 = _
    rw [hvolume, answeredAll_volume]
    exact congrArg (· + _) (hw.volumes asset)

theorem countersAgree_step {log : List VolumeRecord} (hw : CountersAgree net.factory log)
    (hok : invoke h i net = .ok net') :
    CountersAgree net'.factory (recordVolumes net i net' log) := by
  cases hc : i.call.creates with
  | true =>
    have hlog : recordVolumes net i net' log = log := by
      unfold recordVolumes noticesOf
      cases hcall : i.call with
      | raffle | report =>
        rw [hcall] at hc
        cases hc
      | _ => exact List.append_nil log
    rw [hlog]
    exact countersAgree_create hw hc hok
  | false => exact countersAgree_report hw hc hok

theorem countersAgree_initialised {creatorOf : Nat → Option Address}
    {categoryOf : Nat → Option Bytes} (hinit : Initialised h creatorOf categoryOf net) :
    CountersAgree net.factory [] := by
  have htallies := hinit.tallies
  obtain ⟨admin, wasmHash, bp, treasury, -, hcore, -⟩ := hinit.core
  have hregistry := congrArg Core.registry hcore
  have hnext : net.factory.nextRaffleId = none := congrArg Registry.nextRaffleId hregistry
  have htotal : net.factory.totalRafflesCreated = none :=
    congrArg Registry.totalRafflesCreated hregistry
  have hvolume : net.factory.totalVolumePerAsset = fun _ => none :=
    congrArg Tallies.totalVolumePerAsset htallies
  refine ⟨⟨hnext.trans htotal.symm, by rw [htotal]; exact Nat.two_pow_pos 32⟩, ?_, ?_, ?_⟩
  · rw [htallies, htotal]
    refine ⟨fun index => ?_, ?_, rfl⟩
    · simp only [Option.getD_none, Nat.zero_div, Option.isSome_none, Bool.false_eq_true, false_iff]
      omega
    · rintro _ _ ⟨⟩
  · rw [htallies]
    refine ⟨?_, ?_⟩ <;> simp [flagged]
  · rw [hvolume]
    exact fun _ => rfl

/-- Every counter of the factory agrees with what it counts, whatever the order
of the calls. -/
theorem counters_agree {creatorOf : Nat → Option Address} {categoryOf : Nat → Option Bytes}
    (hinit : Initialised h creatorOf categoryOf net) (calls : List Invocation) :
    (recording h).Always (fun s => CountersAgree s.1.factory s.2) (net, []) calls := by
  refine Machine.always_of_step (m := recording h) (fun s => CountersAgree s.1.factory s.2) ?_
    (countersAgree_initialised hinit) calls
  intro s i s' hw hok
  obtain ⟨hstep, hnote⟩ := Machine.noting_ok.mp hok
  rw [hnote]
  exact countersAgree_step hw hstep

def soldRun : List Invocation :=
  [Sample.signed [Instance.Sample.creator] 300
      (.createRaffle Instance.Sample.creator Instance.Sample.config),
    Sample.signed [Instance.Sample.creator] 310 (.raffle Sample.firstRaffle .depositPrize),
    Sample.signed [Instance.Sample.buyer] 320
      (.raffle Sample.firstRaffle (.buyTickets Instance.Sample.buyer 1))]

theorem counters_agree_soldRun :
    (recording Sample.host).Always (fun s => CountersAgree s.1.factory s.2) (Sample.start, [])
      soldRun :=
  counters_agree Sample.start_fresh soldRun

example : (Sample.after soldRun).factory.totalVolumePerAsset Instance.Sample.token = some 10000 ∧
    (Sample.after soldRun).factory.totalUniqueParticipants = some 1 := by decide +kernel

end TikkaRaffle.Properties
