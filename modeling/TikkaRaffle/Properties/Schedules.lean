import Mathlib.Data.List.Chain
import TikkaRaffle.Factory.Tallies
import TikkaRaffle.Properties.Rounds

/-! The books of recurring schedules. A schedule is stored in two places, its
entry and the list of its raffles, and the invariant keeps them in step with each
other and with the times at which they were written. -/
namespace TikkaRaffle.Properties

open TikkaRaffle.Lib TikkaRaffle.Factory Constants Function

abbrev Chronicle := Nat → List Nat

def chronicle (net : Net) (i : Invocation) (_ : Net) (times : Chronicle) : Chronicle :=
  match i.call with
  | .createRecurringRaffle .. =>
      update times (net.factory.nextRecurringId.getD 0) [i.ctx.timestamp]
  | .triggerNextRound recurringId =>
      update times recurringId (times recurringId ++ [i.ctx.timestamp])
  | _ => times

def chronicling (h : Host) : Machine (Net × Chronicle) Invocation Abort :=
  (machine h).noting chronicle

structure InStep (entry : RecurringRaffleEntry) (instances : List Address) (times : List Nat) :
    Prop where
  counted : entry.currentRound = instances.length
  last : entry.lastRaffleAddress = instances.getLast?
  capped : 0 < entry.config.maxRounds → entry.currentRound ≤ entry.config.maxRounds
  recorded : times.length = instances.length + 1
  spaced : times.IsChain fun t t' => t + entry.config.intervalSeconds ≤ t'

/-- A schedule is stored in both places, or in neither. -/
def ScheduleKept (s : State) (times : Chronicle) (id : Nat) : Prop :=
  match s.recurringRaffle id, s.recurringRaffleInstances id with
  | some entry, some instances => InStep entry instances (times id)
  | none, none => times id = []
  | _, _ => False

def assigned (net : Net) : Call → Option Nat
  | .createRecurringRaffle .. => some (net.factory.nextRecurringId.getD 0)
  | _ => none

def scheduleOf (net : Net) : Call → Option Nat
  | .triggerNextRound recurringId | .cancelRecurringRaffle recurringId _ => some recurringId
  | call => assigned net call

def ScheduleSame (net net' : Net) (id : Nat) : Prop :=
  net'.factory.recurringRaffle id = net.factory.recurringRaffle id ∧
    net'.factory.recurringRaffleInstances id = net.factory.recurringRaffleInstances id

section Steps

variable {h : Host} {net net' : Net} {i : Invocation} {times : Chronicle} {id recurringId : Nat}

/-- What a committed call does to the schedules: it creates one, it adds a round,
it cancels one, or it leaves them all. -/
inductive ScheduleStep (net : Net) (i : Invocation) (net' : Net) : Prop
  | created (creator : Address) (config : RecurringRaffleConfig)
      (hcall : i.call = .createRecurringRaffle creator config)
      (hinterval : config.intervalSeconds ≤ maxRecurringIntervalSeconds)
      (hcore : net'.factory.core.schedules = { net.factory.core.schedules.store
        (net.factory.nextRecurringId.getD 0)
        ⟨creator, config, saturateU64 (i.ctx.timestamp + config.intervalSeconds), 0, true, none⟩
        with nextRecurringId :=
          some (Factory.saturateU32 (net.factory.nextRecurringId.getD 0 + 1)) })
      (hrounds : net'.factory.recurringRaffleInstances =
        update net.factory.recurringRaffleInstances (net.factory.nextRecurringId.getD 0) (some []))
  | triggered (recurringId : Nat) (entry : RecurringRaffleEntry) (raffle : Address)
      (hcall : i.call = .triggerNextRound recurringId)
      (hentry : net.factory.recurringRaffle recurringId = some entry)
      (hactive : entry.active = true) (hdue : entry.nextDue ≤ i.ctx.timestamp)
      (hleft : ¬(0 < entry.config.maxRounds ∧ entry.config.maxRounds ≤ entry.currentRound))
      (hroom : net.factory.totalRafflesCreated.getD 0 + 1 < 2 ^ 32)
      (htotal : net'.factory.totalRafflesCreated.getD 0 =
        net.factory.totalRafflesCreated.getD 0 + 1)
      (hcore : net'.factory.core.schedules =
        net.factory.core.schedules.store recurringId (entry.advance i.ctx.timestamp raffle))
      (hrounds : net'.factory.recurringRaffleInstances =
        update net.factory.recurringRaffleInstances recurringId
          (some ((net.factory.recurringRaffleInstances recurringId).getD [] ++ [raffle])))
  | cancelled (recurringId : Nat) (caller : Address) (entry : RecurringRaffleEntry)
      (hcall : i.call = .cancelRecurringRaffle recurringId caller)
      (hentry : net.factory.recurringRaffle recurringId = some entry)
      (hcore : net'.factory.core.schedules =
        net.factory.core.schedules.store recurringId { entry with active := false })
      (hrounds : net'.factory.recurringRaffleInstances = net.factory.recurringRaffleInstances)
  | same (hcall : i.call.plans = false)
      (hcore : net'.factory.core.schedules = net.factory.core.schedules)
      (hrounds : net'.factory.recurringRaffleInstances = net.factory.recurringRaffleInstances)

theorem scheduleStep (hok : invoke h i net = .ok net') : ScheduleStep net i net' := by
  have he := invoke_effect hok
  obtain ⟨ctx, call⟩ := i
  cases call with
  | createRecurringRaffle creator config =>
    simp only [invoke, invokeSigned, except_map_ok] at hok
    obtain ⟨⟨s', recurringId⟩, hcreate, rfl⟩ := hok
    obtain ⟨rfl, hinterval, -, hcore, htallies⟩ := createRecurringRaffle_schedules hcreate
    exact .created creator config rfl hinterval hcore
      (congrArg Tallies.recurringRaffleInstances htallies)
  | triggerNextRound recurringId =>
    simp only [invoke, invokeSigned, except_map_ok] at hok
    obtain ⟨⟨net₁, raffle⟩, htrigger, rfl⟩ := hok
    obtain ⟨entry, hentry, hactive, hdue, hleft, hroom, htotal, hcore, htallies⟩ :=
      triggerNextRound_schedules htrigger
    refine .triggered recurringId entry raffle rfl hentry hactive hdue hleft hroom htotal hcore ?_
    refine (congrArg Tallies.recurringRaffleInstances htallies).trans ?_
    exact congrArg (fun rounds => update rounds recurringId _) (Tallies.reach_rounds ..)
  | cancelRecurringRaffle recurringId caller =>
    obtain ⟨entry, hentry, hplans⟩ := he
    exact .cancelled recurringId caller entry rfl hentry hplans.schedules
      (invokeSigned_rounds rfl hok)
  | _ => exact .same rfl (he.frame.schedules rfl) (invokeSigned_rounds rfl hok)

/-- The schedule is due one interval after its last entry, and it has had no more
rounds than raffles were ever created. -/
structure Punctual (created : Nat) (entry : RecurringRaffleEntry) (times : List Nat) : Prop where
  bounded : entry.config.intervalSeconds ≤ maxRecurringIntervalSeconds
  due : ∃ t ∈ times.getLast?, entry.nextDue = t + entry.config.intervalSeconds
  counted : entry.currentRound ≤ created

structure SchedulesKept (s : State) (times : Chronicle) : Prop where
  kept : ∀ id, ScheduleKept s times id
  timed : ∀ id entry, s.recurringRaffle id = some entry →
    Punctual (s.totalRafflesCreated.getD 0) entry (times id)

/-- A schedule's number has been assigned. The last number is assigned over and
over once the counter saturates. -/
structure Numbered (s : State) : Prop where
  known : ∀ id entry, s.recurringRaffle id = some entry →
    id < s.nextRecurringId.getD 0 ∨ id = 2 ^ 32 - 1
  bounded : s.nextRecurringId.getD 0 ≤ 2 ^ 32 - 1

theorem ScheduleKept.found {s : State} {entry : RecurringRaffleEntry} (hk : ScheduleKept s times id)
    (hentry : s.recurringRaffle id = some entry) :
    ∃ instances, s.recurringRaffleInstances id = some instances ∧
      InStep entry instances (times id) := by
  unfold ScheduleKept at hk
  rw [hentry] at hk
  cases hrounds : s.recurringRaffleInstances id with
  | none => simp [hrounds] at hk
  | some instances => exact ⟨instances, rfl, by simpa [hrounds] using hk⟩

theorem ScheduleKept.store {s : State} {entry : RecurringRaffleEntry} {instances : List Address}
    (hentry : s.recurringRaffle id = some entry)
    (hrounds : s.recurringRaffleInstances id = some instances)
    (hstep : InStep entry instances (times id)) : ScheduleKept s times id := by
  unfold ScheduleKept
  rw [hentry, hrounds]
  exact hstep

theorem ScheduleKept.same {s s' : State} {times' : Chronicle} (hk : ScheduleKept s times id)
    (hentry : s'.recurringRaffle id = s.recurringRaffle id)
    (hrounds : s'.recurringRaffleInstances id = s.recurringRaffleInstances id)
    (htimes : times' id = times id) : ScheduleKept s' times' id := by
  unfold ScheduleKept
  rw [hentry, hrounds, htimes]
  exact hk

theorem saturateU64_eq {value : Nat} (hvalue : value < 2 ^ 64) : saturateU64 value = value :=
  Nat.min_eq_left (by omega)

theorem InStep.round {entry : RecurringRaffleEntry} {instances : List Address} {record : List Nat}
    {now created : Nat} {raffle : Address} (hs : InStep entry instances record)
    (ht : Punctual created entry record) (hdue : entry.nextDue ≤ now)
    (hleft : ¬(0 < entry.config.maxRounds ∧ entry.config.maxRounds ≤ entry.currentRound))
    (hroom : created + 1 < 2 ^ 32) :
    InStep (entry.advance now raffle) (instances ++ [raffle]) (record ++ [now]) := by
  have hround : Factory.saturateU32 (entry.currentRound + 1) = entry.currentRound + 1 := by
    have hcounted := ht.counted
    exact Nat.min_eq_left (by omega)
  refine ⟨?_, ?_, fun hcap => ?_, ?_, ?_⟩
  · rw [RecurringRaffleEntry.advance, hround, hs.counted, List.length_append]
    rfl
  · rw [List.getLast?_concat]
    rfl
  · rw [RecurringRaffleEntry.advance, hround]
    have hpos : 0 < entry.config.maxRounds := hcap
    change entry.currentRound + 1 ≤ entry.config.maxRounds
    omega
  · rw [List.length_append, List.length_append, hs.recorded]
    rfl
  · obtain ⟨t, hlast, hnext⟩ := ht.due
    refine List.isChain_append.mpr ⟨hs.spaced, List.isChain_singleton _, ?_⟩
    intro t' ht' now' hnow'
    rw [Option.mem_unique ht' hlast]
    simp only [List.head?_cons, Option.mem_some_iff] at hnow'
    subst hnow'
    change t + entry.config.intervalSeconds ≤ now
    omega

theorem Punctual.round {entry : RecurringRaffleEntry} {record : List Nat} {now created : Nat}
    {raffle : Address} (ht : Punctual created entry record)
    (hnow : now < 2 ^ 64 - maxRecurringIntervalSeconds) :
    Punctual (created + 1) (entry.advance now raffle) (record ++ [now]) := by
  have hbounded := ht.bounded
  have hcounted := ht.counted
  refine ⟨hbounded, ⟨now, by rw [List.getLast?_concat]; rfl, ?_⟩, ?_⟩
  · have hdue : (entry.advance now raffle).nextDue =
        saturateU64 (now + entry.config.intervalSeconds) := rfl
    rw [hdue, saturateU64_eq (by omega)]
    rfl
  · change Factory.saturateU32 (entry.currentRound + 1) ≤ created + 1
    have hle := Nat.min_le_left (entry.currentRound + 1) (2 ^ 32 - 1)
    unfold Factory.saturateU32
    omega

theorem Punctual.mono {entry : RecurringRaffleEntry} {record : List Nat} {created created' : Nat}
    (ht : Punctual created entry record) (hle : created ≤ created') :
    Punctual created' entry record :=
  ⟨ht.bounded, ht.due, ht.counted.trans hle⟩

theorem schedulesKept_created {creator : Address} {config : RecurringRaffleConfig}
    (hw : SchedulesKept net.factory times)
    (hnow : i.ctx.timestamp < 2 ^ 64 - maxRecurringIntervalSeconds)
    (hcreated : net.factory.totalRafflesCreated.getD 0 ≤ net'.factory.totalRafflesCreated.getD 0)
    (hinterval : config.intervalSeconds ≤ maxRecurringIntervalSeconds)
    (hentries : net'.factory.recurringRaffle = update net.factory.recurringRaffle
      (net.factory.nextRecurringId.getD 0)
      (some ⟨creator, config, saturateU64 (i.ctx.timestamp + config.intervalSeconds), 0, true,
        none⟩))
    (hrounds : net'.factory.recurringRaffleInstances =
      update net.factory.recurringRaffleInstances (net.factory.nextRecurringId.getD 0) (some [])) :
    SchedulesKept net'.factory
      (update times (net.factory.nextRecurringId.getD 0) [i.ctx.timestamp]) := by
  refine ⟨fun id => ?_, fun id entry hentry => ?_⟩
  · by_cases hid : id = net.factory.nextRecurringId.getD 0
    · subst hid
      refine .store (by rw [hentries, update_self]) (by rw [hrounds, update_self]) ?_
      rw [update_self]
      exact ⟨rfl, rfl, fun _ => Nat.zero_le _, rfl, List.isChain_singleton _⟩
    · exact (hw.kept id).same (by rw [hentries, update_of_ne hid])
        (by rw [hrounds, update_of_ne hid]) (update_of_ne hid ..)
  · by_cases hid : id = net.factory.nextRecurringId.getD 0
    · subst hid
      rw [hentries, update_self, Option.some.injEq] at hentry
      subst hentry
      rw [update_self]
      exact ⟨hinterval, ⟨_, rfl, saturateU64_eq (by omega)⟩, Nat.zero_le _⟩
    · rw [hentries, update_of_ne hid] at hentry
      rw [update_of_ne hid]
      exact (hw.timed id entry hentry).mono hcreated

theorem SchedulesKept.restore {s s' : State} {times' : Chronicle}
    {entry' : RecurringRaffleEntry} {instances : List Address} (hw : SchedulesKept s times)
    (hcreated : s.totalRafflesCreated.getD 0 ≤ s'.totalRafflesCreated.getD 0)
    (hcore : s'.core.schedules = s.core.schedules.store recurringId entry')
    (hrounds : s'.recurringRaffleInstances =
      update s.recurringRaffleInstances recurringId (some instances))
    (htimes : ∀ id, id ≠ recurringId → times' id = times id)
    (hstep : InStep entry' instances (times' recurringId))
    (htimed : Punctual (s'.totalRafflesCreated.getD 0) entry' (times' recurringId)) :
    SchedulesKept s' times' := by
  have hentries : s'.recurringRaffle = update s.recurringRaffle recurringId (some entry') :=
    congrArg Schedules.recurringRaffle hcore
  refine ⟨fun id => ?_, fun id found hfound => ?_⟩
  · by_cases hid : id = recurringId
    · subst hid
      exact .store (by rw [hentries, update_self]) (by rw [hrounds, update_self]) hstep
    · exact (hw.kept id).same (by rw [hentries, update_of_ne hid])
        (by rw [hrounds, update_of_ne hid]) (htimes id hid)
  · by_cases hid : id = recurringId
    · subst hid
      rw [hentries, update_self, Option.some.injEq] at hfound
      subst hfound
      exact htimed
    · rw [hentries, update_of_ne hid] at hfound
      rw [htimes id hid]
      exact (hw.timed id found hfound).mono hcreated

theorem schedulesKept_step (hw : SchedulesKept net.factory times)
    (hnow : i.ctx.timestamp < 2 ^ 64 - maxRecurringIntervalSeconds)
    (hok : invoke h i net = .ok net') :
    SchedulesKept net'.factory (chronicle net i net' times) := by
  have hcreated := (invoke_effect hok).created_mono
  cases scheduleStep hok with
  | created creator config hcall hinterval hcore hrounds =>
    rw [chronicle, hcall]
    exact schedulesKept_created hw hnow hcreated hinterval
      (congrArg Schedules.recurringRaffle hcore) hrounds
  | triggered recurringId entry raffle hcall hentry hactive hdue hleft hroom htotal hcore hrounds =>
    have hnote : chronicle net i net' times =
        update times recurringId (times recurringId ++ [i.ctx.timestamp]) := by
      rw [chronicle, hcall]
    rw [hnote]
    obtain ⟨instances, hinstances, hstep⟩ := (hw.kept recurringId).found hentry
    have htimed := hw.timed recurringId entry hentry
    rw [hinstances] at hrounds
    refine hw.restore hcreated hcore hrounds (fun id hid => update_of_ne hid ..) ?_ ?_
    · rw [update_self]
      exact hstep.round htimed hdue hleft hroom
    · rw [update_self, htotal]
      exact htimed.round hnow
  | cancelled recurringId caller entry hcall hentry hcore hrounds =>
    rw [chronicle, hcall]
    obtain ⟨instances, hinstances, hstep⟩ := (hw.kept recurringId).found hentry
    have htimed := (hw.timed recurringId entry hentry).mono hcreated
    refine hw.restore hcreated hcore ?_ (fun _ _ => rfl) { hstep with } { htimed with }
    rw [hrounds, ← hinstances, update_eq_self]
  | same hcall hcore hrounds =>
    have hentries : net'.factory.recurringRaffle = net.factory.recurringRaffle :=
      congrArg Schedules.recurringRaffle hcore
    have htimes : chronicle net i net' times = times := by
      unfold chronicle
      cases hc : i.call with
      | createRecurringRaffle | triggerNextRound =>
        rw [hc] at hcall
        cases hcall
      | _ => rfl
    rw [htimes]
    refine ⟨fun id => (hw.kept id).same (by rw [hentries]) (by rw [hrounds]) rfl, ?_⟩
    rw [hentries]
    exact fun id entry hentry => (hw.timed id entry hentry).mono hcreated

theorem numbered_step (hw : Numbered net.factory) (hok : invoke h i net = .ok net') :
    Numbered net'.factory := by
  have hbounded := hw.bounded
  cases scheduleStep hok with
  | created creator config hcall hinterval hcore hrounds =>
    have hentries := congrArg Schedules.recurringRaffle hcore
    have hcounter : net'.factory.nextRecurringId.getD 0 =
        min (net.factory.nextRecurringId.getD 0 + 1) (2 ^ 32 - 1) :=
      congrArg (fun k : Schedules => k.nextRecurringId.getD 0) hcore
    refine ⟨fun id entry hentry => ?_, by omega⟩
    change net'.factory.core.schedules.recurringRaffle id = some entry at hentry
    rw [hentries] at hentry
    rcases Schedules.found_cases hentry with ⟨rfl, -⟩ | hold
    · omega
    · rcases hw.known id entry hold with hlt | htop
      · omega
      · exact .inr htop
  | triggered recurringId stored _ _ hstored _ _ _ _ _ hcore
  | cancelled recurringId _ stored _ hstored hcore =>
    have hentries := congrArg Schedules.recurringRaffle hcore
    have hnext : net'.factory.nextRecurringId = net.factory.nextRecurringId :=
      congrArg Schedules.nextRecurringId hcore
    refine ⟨fun id entry hentry => ?_, by rw [hnext]; exact hbounded⟩
    change net'.factory.core.schedules.recurringRaffle id = some entry at hentry
    rw [hentries] at hentry
    rw [hnext]
    rcases Schedules.found_cases hentry with ⟨rfl, -⟩ | hold
    · exact hw.known id stored hstored
    · exact hw.known id entry hold
  | same hcall hcore hrounds =>
    have hentries : net'.factory.recurringRaffle = net.factory.recurringRaffle :=
      congrArg Schedules.recurringRaffle hcore
    have hnext : net'.factory.nextRecurringId = net.factory.nextRecurringId :=
      congrArg Schedules.nextRecurringId hcore
    refine ⟨?_, by rw [hnext]; exact hbounded⟩
    rw [hentries, hnext]
    exact hw.known

theorem scheduleSame_step (hok : invoke h i net = .ok net')
    (hother : scheduleOf net i.call ≠ some id) : ScheduleSame net net' id := by
  cases scheduleStep hok with
  | created creator config hcall hinterval hcore hrounds =>
    rw [hcall] at hother
    have hid : id ≠ net.factory.nextRecurringId.getD 0 := fun hid => hother (congrArg some hid.symm)
    have hentries := congrArg Schedules.recurringRaffle hcore
    exact ⟨(congrFun hentries id).trans (update_of_ne hid ..), by rw [hrounds, update_of_ne hid]⟩
  | triggered recurringId stored raffle hcall _ _ _ _ _ _ hcore hrounds =>
    rw [hcall] at hother
    have hid : id ≠ recurringId := fun hid => hother (congrArg some hid.symm)
    have hentries := congrArg Schedules.recurringRaffle hcore
    exact ⟨(congrFun hentries id).trans (update_of_ne hid ..), by rw [hrounds, update_of_ne hid]⟩
  | cancelled recurringId caller stored hcall _ hcore hrounds =>
    rw [hcall] at hother
    have hid : id ≠ recurringId := fun hid => hother (congrArg some hid.symm)
    have hentries := congrArg Schedules.recurringRaffle hcore
    exact ⟨(congrFun hentries id).trans (update_of_ne hid ..), by rw [hrounds]⟩
  | same hcall hcore hrounds =>
    have hentries := congrArg Schedules.recurringRaffle hcore
    exact ⟨congrFun hentries id, by rw [hrounds]⟩

def Cancelled (net : Net) (id : Nat) : Prop :=
  ∃ entry, net.factory.recurringRaffle id = some entry ∧ entry.active = false

/-- A cancelled schedule has no round, and stays cancelled unless its number is
assigned again. -/
theorem cancelled_stays (hc : Cancelled net id) (hnew : assigned net i.call ≠ some id)
    (hok : invoke h i net = .ok net') : Cancelled net' id ∧ i.call ≠ .triggerNextRound id := by
  obtain ⟨entry, hentry, hinactive⟩ := hc
  have hkept (hother : scheduleOf net i.call ≠ some id) : Cancelled net' id :=
    ⟨entry, (scheduleSame_step hok hother).1.trans hentry, hinactive⟩
  cases scheduleStep hok with
  | created creator config hcall =>
    rw [hcall] at hkept hnew ⊢
    exact ⟨hkept hnew, by simp⟩
  | triggered recurringId stored raffle hcall hstored hactive =>
    have hid : recurringId ≠ id := by
      rintro rfl
      rw [hentry, Option.some.injEq] at hstored
      rw [← hstored, hinactive] at hactive
      cases hactive
    rw [hcall] at hkept ⊢
    exact ⟨hkept fun hsame => hid (Option.some.inj hsame), by simpa using hid⟩
  | cancelled recurringId caller stored hcall hstored hcore =>
    refine ⟨?_, by simp [hcall]⟩
    by_cases hid : recurringId = id
    · subst hid
      have hentries := congrArg Schedules.recurringRaffle hcore
      exact ⟨_, (congrFun hentries recurringId).trans (update_self ..), rfl⟩
    · rw [hcall] at hkept
      exact hkept fun hsame => hid (Option.some.inj hsame)
  | same hcall hcore hrounds =>
    refine ⟨hkept ?_, ?_⟩
    · cases hc : i.call with
      | createRecurringRaffle | triggerNextRound | cancelRecurringRaffle =>
        rw [hc] at hcall
        cases hcall
      | _ => exact fun hsome => by cases hsome
    · intro htrigger
      rw [htrigger] at hcall
      cases hcall

theorem cancel_cancels {caller : Address} (hcall : i.call = .cancelRecurringRaffle id caller)
    (hok : invoke h i net = .ok net') : Cancelled net' id := by
  have he := invoke_effect hok
  rw [hcall] at he
  obtain ⟨entry, hentry, hplans⟩ := he
  have hentries := congrArg Schedules.recurringRaffle hplans.schedules
  exact ⟨_, (congrFun hentries id).trans (update_self ..), rfl⟩

/-- Only the last number is ever assigned a second time. -/
theorem Numbered.not_assigned (hw : Numbered net.factory) (hc : Cancelled net id)
    (hid : id ≠ 2 ^ 32 - 1) : assigned net i.call ≠ some id := by
  obtain ⟨entry, hentry, -⟩ := hc
  have hold := (hw.known id entry hentry).resolve_right hid
  intro hassigned
  cases hcall : i.call with
  | createRecurringRaffle creator config =>
    rw [hcall] at hassigned
    have hsame : net.factory.nextRecurringId.getD 0 = id := Option.some.inj hassigned
    omega
  | _ =>
    rw [hcall] at hassigned
    cases hassigned

theorem chronicling_ok {s s' : Net × Chronicle} : (chronicling h).step i s = .ok s' ↔
    invoke h i s.1 = .ok s'.1 ∧ s'.2 = chronicle s.1 i s'.1 s.2 := Machine.noting_ok

theorem schedules_initialised {creatorOf : Nat → Option Address}
    {categoryOf : Nat → Option Bytes} (hinit : Initialised h creatorOf categoryOf net) :
    SchedulesKept net.factory (fun _ => []) ∧ Numbered net.factory := by
  obtain ⟨admin, wasmHash, bp, treasury, -, hcore, -⟩ := hinit.core
  have hentries : net.factory.recurringRaffle = fun _ => none :=
    congrArg (fun k : Core => k.schedules.recurringRaffle) hcore
  have hnext : net.factory.nextRecurringId = none :=
    congrArg (fun k : Core => k.schedules.nextRecurringId) hcore
  have hrounds : net.factory.recurringRaffleInstances = fun _ => none :=
    congrArg Tallies.recurringRaffleInstances hinit.tallies
  refine ⟨⟨fun id => ?_, ?_⟩, ?_, ?_⟩
  · unfold ScheduleKept
    rw [hentries, hrounds]
  · rw [hentries]
    simp
  · rw [hentries]
    simp
  · rw [hnext]
    exact Nat.zero_le _

theorem numbered_run {creatorOf : Nat → Option Address} {categoryOf : Nat → Option Bytes}
    (hinit : Initialised h creatorOf categoryOf net) (calls : List Invocation) :
    (machine h).Always (fun net => Numbered net.factory) net calls :=
  Machine.always_of_step (m := machine h) (fun net => Numbered net.factory)
    (fun _ _ _ hw hok => numbered_step hw hok) (schedules_initialised hinit).2 calls

/-- After a cancellation there is no round until the number is assigned again,
and no number but the last one ever is. -/
theorem no_round_after_cancel (hw : Numbered net.factory) (hc : Cancelled net id)
    (rest : List Invocation) :
    (id ≠ 2 ^ 32 - 1 → (machine h).Each (fun _ j _ => j.call ≠ .triggerNextRound id) net rest) ∧
      ∀ mid last, rest = mid ++ last →
        (machine h).Each (fun net j _ => assigned net j.call ≠ some id) net mid →
        (machine h).Each (fun _ j _ => j.call ≠ .triggerNextRound id) net mid := by
  constructor
  · intro hid
    refine Machine.each_trivial.imp_along
      (fun net => Numbered net.factory ∧ Cancelled net id) ?_ ⟨hw, hc⟩
    rintro s j s' ⟨hnumbered, hcancelled⟩ - hok
    obtain ⟨hstays, hround⟩ :=
      cancelled_stays hcancelled (hnumbered.not_assigned hcancelled hid) hok
    exact ⟨⟨numbered_step hnumbered hok, hstays⟩, hround⟩
  · intro mid last _ hfresh
    exact hfresh.imp_along (fun net => Cancelled net id)
      (fun s j s' hcancelled hnew hok => cancelled_stays hcancelled hnew hok) hc

/-- The books of all schedules, in every run before the end of the clock. -/
theorem schedules_in_step {creatorOf : Nat → Option Address} {categoryOf : Nat → Option Bytes}
    (hinit : Initialised h creatorOf categoryOf net) (calls : List Invocation)
    (htimes : ∀ i ∈ calls, i.ctx.timestamp < 2 ^ 64 - maxRecurringIntervalSeconds) :
    (chronicling h).Always (fun s => ∀ id, ScheduleKept s.1.factory s.2 id)
        (net, fun _ => []) calls ∧
      (machine h).Each (fun net i net' => ∀ id, scheduleOf net i.call ≠ some id →
        ScheduleSame net net' id) net calls ∧
      ∀ id caller first i rest net', calls = first ++ i :: rest →
        i.call = .cancelRecurringRaffle id caller →
        invoke h i ((machine h).run net first) = .ok net' →
        (id ≠ 2 ^ 32 - 1 →
          (machine h).Each (fun _ j _ => j.call ≠ .triggerNextRound id) net' rest) ∧
        ∀ mid last, rest = mid ++ last →
          (machine h).Each (fun net j _ => assigned net j.call ≠ some id) net' mid →
          (machine h).Each (fun _ j _ => j.call ≠ .triggerNextRound id) net' mid := by
  refine ⟨?_, ?_, ?_⟩
  · have htimed : (chronicling h).Each
        (fun _ i _ => i.ctx.timestamp < 2 ^ 64 - maxRecurringIntervalSeconds)
        (net, fun _ => []) calls :=
      Machine.each_call_iff.mpr fun i hi => htimes i ((Machine.committed_sublist ..).subset hi)
    refine (Machine.always_of_each (fun s => SchedulesKept s.1.factory s.2) ?_
      (schedules_initialised hinit).1 htimed).mono fun s hs => hs.kept
    intro s i s' hw hnow hok
    obtain ⟨hstep, hnote⟩ := chronicling_ok.mp hok
    rw [hnote]
    exact schedulesKept_step hw hnow hstep
  · exact Machine.each_of_step (fun _ => True) (fun _ _ _ _ _ => trivial)
      (fun _ _ _ _ hok _ hother => scheduleSame_step hok hother) trivial calls
  · rintro id caller first i rest net' - hcall hok
    have hnumbered := (numbered_run hinit first).last
    exact no_round_after_cancel (numbered_step hnumbered hok) (cancel_cancels hcall hok) rest

end Steps

open Instance.Sample (creator)

def endedRun : List Invocation :=
  scheduling ++ [⟨Sample.ctx 4000 [], .triggerNextRound 0⟩,
    Sample.signed [creator] 5000 (.cancelRecurringRaffle 0 creator)]

theorem schedules_in_step_endedRun :
    (chronicling Sample.host).Always (fun s => ∀ id, ScheduleKept s.1.factory s.2 id)
        (Sample.start, fun _ => []) endedRun ∧
      (machine Sample.host).Each (fun net i net' => ∀ id, scheduleOf net i.call ≠ some id →
        ScheduleSame net net' id) Sample.start endedRun ∧
      ∀ id caller first i rest net', endedRun = first ++ i :: rest →
        i.call = .cancelRecurringRaffle id caller →
        invoke Sample.host i ((machine Sample.host).run Sample.start first) = .ok net' →
        (id ≠ 2 ^ 32 - 1 →
          (machine Sample.host).Each (fun _ j _ => j.call ≠ .triggerNextRound id) net' rest) ∧
        ∀ mid last, rest = mid ++ last →
          (machine Sample.host).Each (fun net j _ => assigned net j.call ≠ some id) net' mid →
          (machine Sample.host).Each (fun _ j _ => j.call ≠ .triggerNextRound id) net' mid :=
  schedules_in_step Sample.start_fresh endedRun (by
    simp [endedRun, scheduling, Sample.signed, Sample.ctx, maxRecurringIntervalSeconds])

structure Idle (net : Net) : Prop where
  raffle : net.raffle = Sample.start.raffle
  governance : net.factory.core.governance = Sample.start.factory.core.governance
  pauses : net.factory.core.pauses = Sample.start.factory.core.pauses
  registry : net.factory.core.registry = Sample.start.factory.core.registry

theorem Idle.next {net net' : Net} {k : Schedules} (hi : Idle net) (hp : Plans net net' k) :
    Idle net' :=
  ⟨hp.raffle.trans hi.raffle, (congrArg Core.governance hp.core).trans hi.governance,
    (congrArg Core.pauses hp.core).trans hi.pauses,
    (congrArg Core.registry hp.core).trans hi.registry⟩

theorem Idle.unpaused {net : Net} (hi : Idle net) : net.factory.paused.getD false = false :=
  congrArg (fun p : Factory.Pauses => p.paused.getD false) hi.pauses

theorem Idle.signed {net : Net} (hi : Idle net) (timestamp : Nat) :
    creator ∈ (net.signed Sample.host (Sample.ctx timestamp [creator])).auths := by
  simp only [Net.signed, hi.raffle]
  exact List.mem_filter.mpr ⟨List.mem_singleton_self _, by decide⟩

def planCall : Invocation :=
  Sample.signed [creator] 400 (.createRecurringRaffle creator (templateWith 100))

theorem Idle.plan {net : Net} (hi : Idle net) :
    ∃ net', invoke Sample.host planCall net = .ok net' ∧ Idle net' ∧
      net'.factory.nextRecurringId.getD 0 =
        min (net.factory.nextRecurringId.getD 0 + 1) (2 ^ 32 - 1) ∧
      net'.factory.recurringRaffle (net.factory.nextRecurringId.getD 0) =
        some ⟨creator, templateWith 100, 4000, 0, true, none⟩ := by
  have hcommits : ∃ net', invoke Sample.host planCall net = .ok net' := by
    simp only [invoke, planCall, Sample.signed, invokeSigned, createRecurringRaffle, except_map_ok,
      except_bind_ok, requireFactoryNotPaused, Factory.requireAuth_ok, Factory.ensure_ok,
      except_pure_ok]
    exact ⟨_, _, ⟨(), ⟨hi.signed 400, by decide⟩, (), hi.unpaused, (), by decide, (), by decide,
      rfl⟩, rfl⟩
  obtain ⟨net', hok⟩ := hcommits
  obtain ⟨nextDue, hplans⟩ := invoke_effect hok
  cases scheduleStep hok with
  | created creator config hcall hinterval hcore hrounds =>
    cases hcall
    refine ⟨net', hok, hi.next hplans, ?_, ?_⟩
    · exact congrArg (fun k : Schedules => k.nextRecurringId.getD 0) hcore
    · exact (congrFun (congrArg Schedules.recurringRaffle hcore) _).trans (update_self ..)
  | triggered _ _ _ hcall | cancelled _ _ _ hcall | same hcall => cases hcall

theorem after_plan {n : Nat} {net' : Net}
    (hok : invoke Sample.host planCall (Sample.after (List.replicate n planCall)) = .ok net') :
    Sample.after (List.replicate (n + 1) planCall) = net' := by
  rw [List.replicate_succ', Sample.after, Machine.run_append]
  exact (machine Sample.host).exec_ok hok

theorem idle_after_plans (n : Nat) :
    Idle (Sample.after (List.replicate n planCall)) ∧
      (Sample.after (List.replicate n planCall)).factory.nextRecurringId.getD 0 =
        min n (2 ^ 32 - 1) := by
  induction n with
  | zero => exact ⟨⟨rfl, rfl, rfl, rfl⟩, rfl⟩
  | succ n ih =>
    obtain ⟨net', hok, hidle, hnext, -⟩ := ih.1.plan
    rw [after_plan hok]
    exact ⟨hidle, by rw [hnext, ih.2]; omega⟩

def lastNumber : Nat := 2 ^ 32 - 1

def cancelLast : Invocation :=
  Sample.signed [creator] 500 (.cancelRecurringRaffle lastNumber creator)

def triggerLast : Invocation := ⟨Sample.ctx 4000 [], .triggerNextRound lastNumber⟩

theorem Idle.cancel {net : Net} {entry : RecurringRaffleEntry} (hi : Idle net)
    (hentry : net.factory.recurringRaffle lastNumber = some entry)
    (hcreator : entry.creator = creator) :
    ∃ net', invoke Sample.host cancelLast net = .ok net' ∧ Idle net' ∧
      net'.factory.nextRecurringId = net.factory.nextRecurringId := by
  have hcommits : ∃ net', invoke Sample.host cancelLast net = .ok net' := by
    simp only [invoke, cancelLast, Sample.signed, invokeSigned, cancelRecurringRaffle,
      except_map_ok, except_bind_ok, Factory.okOr_ok, Factory.requireAuth_ok, except_pure_ok]
    refine ⟨_, _, ⟨entry, hentry, (), ?_, (), ⟨hi.signed 500, by decide⟩, rfl⟩, rfl⟩
    exact if_pos hcreator.symm
  obtain ⟨net', hok⟩ := hcommits
  obtain ⟨stored, -, hplans⟩ := invoke_effect hok
  exact ⟨net', hok, hi.next hplans, congrArg Schedules.nextRecurringId hplans.schedules⟩

theorem Idle.trigger {net : Net} (hi : Idle net)
    (hentry : net.factory.recurringRaffle lastNumber =
      some ⟨creator, templateWith 100, 4000, 0, true, none⟩) :
    ∃ net', invoke Sample.host triggerLast net = .ok net' := by
  have hconfigured : Configured net.factory.core.governance := by
    rw [hi.governance]
    exact (configured_initialised Sample.start_fresh).1
  have hroll : Enrolled net (.empty : Roll Sample.host) :=
    (Enrolled.of_initialised Sample.start_fresh).same hi.registry fun a => by rw [hi.raffle]
  obtain ⟨result, hok⟩ := (trigger_iff (c := net.signed Sample.host (Sample.ctx 4000 []))
    hconfigured hroll hi.unpaused hentry rfl rfl template_deployable le_rfl (by decide)).mpr
      ⟨by simp [Catalogue.names, Catalogue.empty], by decide +kernel, by decide⟩
  exact ⟨result.1, except_map_ok.mpr ⟨result, hok, rfl⟩⟩

def exhausting : List Invocation := List.replicate (lastNumber + 1) planCall

theorem exhausted : ∃ net, Sample.after exhausting = net ∧ Idle net ∧
    net.factory.nextRecurringId.getD 0 = lastNumber ∧
    net.factory.recurringRaffle lastNumber =
      some ⟨creator, templateWith 100, 4000, 0, true, none⟩ := by
  obtain ⟨hbefore, hcount⟩ := idle_after_plans lastNumber
  have hcounter : (Sample.after (List.replicate lastNumber planCall)).factory.nextRecurringId.getD 0
      = lastNumber := hcount.trans (Nat.min_self _)
  obtain ⟨net, hplan, hidle, hnext, hentry⟩ := hbefore.plan
  rw [hcounter] at hentry hnext
  exact ⟨net, after_plan hplan, hidle, hnext.trans (Nat.min_eq_right (Nat.le_succ _)), hentry⟩

/-- The last number is cancelled, assigned again, and has a round. -/
theorem round_after_cancel :
    Fresh Sample.host Sample.start ∧ ∃ net₁ net₂ net₃,
      invoke Sample.host cancelLast (Sample.after exhausting) = .ok net₁ ∧
      invoke Sample.host planCall net₁ = .ok net₂ ∧
      invoke Sample.host triggerLast net₂ = .ok net₃ ∧
      cancelLast.call = .cancelRecurringRaffle lastNumber creator ∧
      triggerLast.call = .triggerNextRound lastNumber ∧
      ∀ i ∈ exhausting ++ [cancelLast, planCall, triggerLast],
        i.ctx.timestamp < 2 ^ 64 - maxRecurringIntervalSeconds := by
  obtain ⟨net, hafter, hidle, hnext, hentry⟩ := exhausted
  rw [hafter]
  obtain ⟨net₁, hcancel, hidleCancelled, hkept⟩ := hidle.cancel hentry rfl
  obtain ⟨net₂, hagain, hagainIdle, -, hnewEntry⟩ := hidleCancelled.plan
  rw [hkept, hnext] at hnewEntry
  obtain ⟨net₃, htrigger⟩ := hagainIdle.trigger hnewEntry
  refine ⟨Sample.start_fresh, net₁, net₂, net₃, hcancel, hagain, htrigger, rfl, rfl,
    fun i hi => ?_⟩
  rw [exhausting, List.mem_append, List.mem_replicate] at hi
  rcases hi with ⟨-, rfl⟩ | hi
  · decide
  · simp only [List.mem_cons, List.not_mem_nil, or_false] at hi
    rcases hi with rfl | rfl | rfl <;> decide

end TikkaRaffle.Properties
