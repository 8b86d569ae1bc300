import TikkaRaffle.Properties.Appointments
import TikkaRaffle.Properties.Income

/-! The statistics of the factory against the raffles they are about. What it
has recorded for a token is what buyers have paid into raffles in that token,
and whoever owns a ticket has been counted. -/
namespace TikkaRaffle.Properties

open TikkaRaffle.Lib TikkaRaffle.Factory

variable {h : Host} {net net' : Net} {x : Address} {i : Invocation}

theorem Genuine.turnover {log : List Instance.Invocation} {v : Instance.World}
    (hv : Genuine h x log v) : Turnover v := by
  obtain ⟨w₀, calls, w, hinit, hleads, -, halike⟩ := hv
  obtain ⟨factory, hsaid⟩ := Escrow.initialised_channel hinit
  have hall := hleads.preserves_all
    (fun w => Escrow.Holds (h.at x) Escrow.Lifecycle w ∧ w.factory = some factory ∧ Turnover w)
    (fun i w w' hw hok => by
      obtain ⟨r, hr, -⟩ := hw.1
      exact ⟨Escrow.lifecycle_step hw.1 hok, (invoke_masters hr hw.2.1 hok).1.trans hw.2.1,
        turnover_step hw.1 hw.2.1 hw.2.2 hok⟩)
    ⟨Escrow.initialised_lifecycle hinit, congrArg Prod.fst hsaid, turnover_initialised hinit⟩
  exact hall.2.2.alike halike

def noticesAt (net : Net) (x : Address) : List Instance.FactoryCall :=
  ((net.raffle x).map (·.factoryCalls)).getD []

def addressed : Call → Option Address
  | .raffle x _ => some x
  | _ => none

theorem invoke_adds {host : Instance.Host} {w w' : Instance.World} {r : Instance.Raffle}
    {factory : Address} {i : Instance.Invocation} (hr : w.raffle = some r)
    (hf : w.factory = some factory) (hok : Instance.invoke host i w = .ok w') :
    ∃ notices, w'.factoryCalls = w.factoryCalls ++ notices := by
  have hnotifies := Escrow.invoke_notifies hr hf hok
  have hquiet (hsaid : Instance.channel w' = Instance.channel w) :
      ∃ notices, w'.factoryCalls = w.factoryCalls ++ notices :=
    ⟨[], (congrArg Prod.snd hsaid).trans (List.append_nil _).symm⟩
  cases horder : orderOf i.call with
  | some order => exact ⟨_, congrArg Prod.snd (notifies_order hnotifies horder)⟩
  | none =>
    cases hdraw : isDraw i.call with
    | false => exact hquiet (notifies_quiet hnotifies horder hdraw)
    | true =>
      rcases notifies_draw hnotifies hdraw with ⟨hsaid, -⟩ | ⟨hsaid, -⟩
      · exact hquiet hsaid
      · exact ⟨_, congrArg Prod.snd hsaid⟩

theorem init_silent {host : Instance.Host} {c : Instance.Ctx} {w w' : Instance.World}
    {factory admin creator : Address} {config : RaffleConfig}
    (hok : Instance.init host c w factory admin creator config = .ok w') :
    w'.factoryCalls = w.factoryCalls := by
  simp only [Instance.init, except_bind_ok, except_pure_ok] at hok
  obtain ⟨_, -, _, -, _, -, _, -, _, -, _, -, _, -, rfl⟩ := hok
  rfl

theorem noticesAt_some {w : Instance.World} (hw : net.raffle x = some w) :
    noticesAt net x = w.factoryCalls := by
  rw [noticesAt, hw]
  rfl

theorem noticesAt_none (hnone : net.raffle x = none) : noticesAt net x = [] := by
  rw [noticesAt, hnone]
  rfl

theorem noticesAt_congr (hsame : net'.raffle x = net.raffle x) :
    noticesAt net' x = noticesAt net x := by
  rw [noticesAt, noticesAt, hsame]

theorem addressed_deployed (hx : addressed i.call = some x) (hok : invoke h i net = .ok net') :
    net.raffle x ≠ none := by
  have heffect := invoke_effect hok
  cases hcall : i.call with
  | raffle target call =>
    rw [hcall] at hx heffect
    cases hx
    obtain ⟨-, w, w', hw, -, -⟩ := heffect
    intro hnone
    rw [Net.world, hnone] at hw
    cases hw
  | _ =>
    rw [hcall] at hx
    cases hx

theorem addressed_reached (hx : addressed i.call = some x) (hok : invoke h i net = .ok net') :
    ∃ received, reached h net i = some (x, received) := by
  have hdeployed := addressed_deployed hx hok
  obtain ⟨c, call⟩ := i
  cases call with
  | raffle =>
    cases hx
    exact ⟨_, reached_of_asked rfl hdeployed⟩
  | _ => cases hx

theorem ran_notices {c : Ctx} {call : Call} {received : Instance.Invocation}
    {stored w' : Instance.World} (hs : Attached h x net)
    (hreached : reached h net ⟨c, call⟩ = some (x, received)) (hstored : net.raffle x = some stored)
    (hrun : Instance.invoke (h.at x) received { stored with balance := net.balance } = .ok w')
    (hstored' : net'.raffle x = some w') :
    w'.factoryCalls = stored.factoryCalls ++
      if addressed call = some x then noticesOf net call net' else [] := by
  have hworld : net.world x = some { stored with balance := net.balance } :=
    Option.map_eq_some_iff.mpr ⟨stored, hstored, rfl⟩
  obtain ⟨r, hr⟩ := hs.started hworld
  have hf := hs.factory _ hworld
  have hquiet (horder : orderOf received.call = none) (hdraw : isDraw received.call = false) :
      w'.factoryCalls = stored.factoryCalls ++ [] := by
    have hnotifies := Escrow.invoke_notifies hr hf hrun
    exact (congrArg Prod.snd (notifies_quiet hnotifies horder hdraw)).trans
      (List.append_nil _).symm
  have hasked := asked_of_reached hreached
  cases call with
  | raffle target own =>
    cases hasked
    obtain ⟨notices, hadds⟩ := invoke_adds hr hf hrun
    have hdropped : noticesOf net (.raffle x own) net' = notices := by
      simp only [noticesOf, hstored, hstored', hadds, List.drop_left]
    rw [addressed, if_pos rfl, hdropped, hadds]
  | pauseInstance | unpauseInstance =>
    cases hasked
    exact hquiet rfl rfl
  | cleanOldRaffle =>
    obtain ⟨_, -, hpair⟩ := Option.map_eq_some_iff.mp hasked
    cases hpair
    exact hquiet rfl rfl
  | _ => cases hasked

theorem noticesAt_step (hs : Attached h x net) (hok : invoke h i net = .ok net') :
    noticesAt net' x = noticesAt net x ++
      if addressed i.call = some x then noticesOf net i.call net' else [] := by
  have hother (hnot : ∀ received, reached h net i ≠ some (x, received))
      (hsame : noticesAt net' x = noticesAt net x) :
      noticesAt net' x = noticesAt net x ++
        if addressed i.call = some x then noticesOf net i.call net' else [] := by
    have haddressed : addressed i.call ≠ some x := by
      intro hx
      obtain ⟨received, hreached⟩ := addressed_reached hx hok
      exact hnot received hreached
    rw [if_neg haddressed, List.append_nil, hsame]
  cases invoke_touchesAt hok x with
  | spared hspared hsame => exact hother hspared (noticesAt_congr hsame)
  | @ran received w w' hreached hw hrun hraffle _ =>
    obtain ⟨stored, hstored, rfl⟩ := Option.map_eq_some_iff.mp hw
    rw [noticesAt_some hstored, noticesAt_some hraffle]
    exact ran_notices hs hreached hstored hrun hraffle
  | deployed hspared hunused _ hinit hraffle =>
    refine hother hspared ?_
    rw [noticesAt_none (unused_raffle hunused), noticesAt_some hraffle]
    exact init_silent hinit

theorem answeredAll_flags (notices : List Instance.FactoryCall) (k : Tallies) (a : Address) :
    ((notices.foldl Tallies.answered k).uniqueParticipant a).isSome = true ↔
      (k.uniqueParticipant a).isSome = true ∨ .trackParticipant a ∈ notices := by
  induction notices generalizing k with
  | nil => simp
  | cons notice rest ih =>
    rw [List.foldl_cons, ih, List.mem_cons, ← or_assoc]
    refine or_congr_left ?_
    cases notice with
    | trackParticipant participant =>
      simp only [Tallies.answered, Instance.FactoryCall.trackParticipant.injEq]
      by_cases ha : a = participant
      · subst ha
        split
        next => simp
        next hold => simpa [Option.isSome_iff_ne_none] using hold
      · split
        next => simp [ha]
        next => simp [ha]
    | recordVolume | recordLeaderboardEntry => simp [Tallies.answered]

theorem statistics_step (hok : invoke h i net = .ok net') :
    let k := (noticesOf net i.call net').foldl Tallies.answered net.factory.tallies
    net'.factory.totalVolumePerAsset = k.totalVolumePerAsset ∧
      net'.factory.uniqueParticipant = k.uniqueParticipant ∧
      net'.factory.totalUniqueParticipants = k.totalUniqueParticipants := by
  cases hc : i.call.creates with
  | true =>
    obtain ⟨rounds, htallies⟩ := invokeSigned_creates hc hok
    have hother := Tallies.reach_other (h := h) (c := net.signed h i.ctx) net.factory.tallies
      (net.factory.totalRafflesCreated.getD 0 + 1)
    have hsilent : noticesOf net i.call net' = [] := by
      cases hcall : i.call with
      | raffle | report =>
        rw [hcall] at hc
        cases hc
      | _ => rfl
    rw [hsilent]
    exact ⟨(congrArg Tallies.totalVolumePerAsset htallies).trans hother.2.2,
      (congrArg Tallies.uniqueParticipant htallies).trans hother.1,
      (congrArg Tallies.totalUniqueParticipants htallies).trans hother.2.1⟩
  | false =>
    obtain ⟨rounds, htallies⟩ := invokeSigned_reports hc hok
    exact ⟨congrArg Tallies.totalVolumePerAsset htallies,
      congrArg Tallies.uniqueParticipant htallies,
      congrArg Tallies.totalUniqueParticipants htallies⟩

theorem tallies_step (hok : invoke h i net = .ok net') (asset a : Address) :
    (net'.factory.totalVolumePerAsset asset).getD 0 =
        (net.factory.totalVolumePerAsset asset).getD 0 +
          toldIncome asset (noticesOf net i.call net') ∧
      ((net'.factory.uniqueParticipant a).isSome = true ↔
        (net.factory.uniqueParticipant a).isSome = true ∨
          .trackParticipant a ∈ noticesOf net i.call net') := by
  obtain ⟨hvolume, hflags, -⟩ := statistics_step hok
  rw [hvolume, hflags]
  exact ⟨answeredAll_volume .., answeredAll_flags ..⟩

theorem participantsCounted_step (hs : ParticipantsCounted net.factory.tallies)
    (hok : invoke h i net = .ok net') : ParticipantsCounted net'.factory.tallies :=
  have hstep := statistics_step hok
  (participantsCounted_answeredAll hs _).same hstep.2.1 hstep.2.2

theorem answer_registered {c : Ctx} {caller : Address} {s s' : State}
    {notice : Instance.FactoryCall} (hok : answer h c caller s notice = .ok s') :
    (s.isFactoryRaffle caller).isSome = true := by
  have hsome (hflag : (s.isFactoryRaffle caller).getD false = true) :
      (s.isFactoryRaffle caller).isSome = true := by
    cases hstored : s.isFactoryRaffle caller with
    | none =>
      rw [hstored] at hflag
      cases hflag
    | some => rfl
  cases notice with
  | recordVolume =>
    simp only [answer, Factory.recordVolume, requireFactoryRaffle, except_bind_ok,
      Factory.ensure_ok] at hok
    obtain ⟨_, hflag, -⟩ := hok
    exact hsome hflag
  | trackParticipant =>
    simp only [answer, Factory.trackParticipant, requireFactoryRaffle, except_bind_ok,
      Factory.ensure_ok] at hok
    obtain ⟨_, hflag, -⟩ := hok
    exact hsome hflag
  | recordLeaderboardEntry =>
    simp only [answer, Factory.recordLeaderboardEntry, requireFactoryRaffle, except_bind_ok,
      Factory.ensure_ok] at hok
    obtain ⟨_, hflag, -⟩ := hok
    exact hsome hflag

/-- Only a contract of the system is registered, so nobody else is heard. -/
theorem notices_addressed (hregistered : ∀ x, (net.factory.isFactoryRaffle x).isSome = true →
      net.raffle x ≠ none) (hok : invoke h i net = .ok net')
    (hnone : addressed i.call = none) : noticesOf net i.call net' = [] := by
  obtain ⟨c, call⟩ := i
  cases call with
  | raffle => cases hnone
  | report caller notice =>
    simp only [invoke, invokeSigned, report, except_map_ok, except_bind_ok, check_ok] at hok
    obtain ⟨s', ⟨_, hfree, hanswer⟩, -⟩ := hok
    exact absurd hfree (hregistered caller (answer_registered hanswer))
  | _ => rfl

structure Booked (h : Host) (raffles : Finset Address) (net : Net) : Prop where
  attached : ∀ x, Attached h x net
  deployed : ∀ x, x ∈ raffles ↔ net.raffle x ≠ none
  registered : ∀ x, (net.factory.isFactoryRaffle x).isSome = true → net.raffle x ≠ none
  volumes : ∀ asset, (net.factory.totalVolumePerAsset asset).getD 0 =
    ∑ x ∈ raffles, toldIncome asset (noticesAt net x)
  participants : ∀ a, (net.factory.uniqueParticipant a).isSome = true ↔
    ∃ x, .trackParticipant a ∈ noticesAt net x
  counted : ParticipantsCounted net.factory.tallies

theorem raffles_step {raffles : Finset Address}
    (hraffles : ∀ x, x ∈ raffles ↔ net.raffle x ≠ none) (hok : invoke h i net = .ok net') :
    ∃ more, raffles ⊆ more ∧ ∀ x, x ∈ more ↔ net'.raffle x ≠ none := by
  have hadded {target : Address} {w : Instance.World}
      (hstore : net'.raffle = Function.update net.raffle target (some w)) :
      ∃ more, raffles ⊆ more ∧ ∀ x, x ∈ more ↔ net'.raffle x ≠ none := by
    refine ⟨insert target raffles, Finset.subset_insert .., fun x => ?_⟩
    rw [Finset.mem_insert, hraffles, hstore]
    by_cases hx : x = target
    · simp [hx]
    · simp [hx]
  cases invoke_touches hok with
  | aside _ hsame => exact ⟨raffles, subset_rfl, by rw [hsame]; exact hraffles⟩
  | runs _ _ _ hstore => exact hadded hstore
  | deploys _ _ _ _ hstore => exact hadded hstore

theorem registered_step (hregistered : ∀ x, (net.factory.isFactoryRaffle x).isSome = true →
      net.raffle x ≠ none) (hkept : ∀ x, net.raffle x ≠ none → net'.raffle x ≠ none)
    (hok : invoke h i net = .ok net') :
    ∀ x, (net'.factory.isFactoryRaffle x).isSome = true → net'.raffle x ≠ none := by
  have heffect := invoke_effect hok
  intro x hx
  cases hc : i.call.creates with
  | true =>
    obtain ⟨creator, built, raffle, w, hcreates, -⟩ := heffect.creation hc
    have hindex : net'.factory.isFactoryRaffle =
        Function.update net.factory.isFactoryRaffle raffle (some true) :=
      congrArg Registry.isFactoryRaffle hcreates.registry
    rw [hindex] at hx
    by_cases hraffle : x = raffle
    · rw [hcreates.raffles, hraffle, Function.update_self]
      exact Option.some_ne_none _
    · rw [Function.update_of_ne hraffle] at hx
      exact hkept x (hregistered x hx)
  | false =>
    have hsame : net'.factory.isFactoryRaffle = net.factory.isFactoryRaffle := by
      cases hclean : i.call.cleans with
      | false => exact congrArg Registry.isFactoryRaffle (heffect.frame.registry hc hclean)
      | true =>
        cases hcall : i.call with
        | cleanOldRaffle =>
          rw [hcall] at heffect
          obtain ⟨raffle, creator, -, -, hcore, -⟩ := heffect
          exact congrArg (fun k : Core => k.registry.isFactoryRaffle) hcore
        | _ =>
          rw [hcall] at hclean
          cases hclean
    rw [hsame] at hx
    exact hkept x (hregistered x hx)

theorem booked_step {raffles : Finset Address} (hs : Booked h raffles net)
    (hok : invoke h i net = .ok net') : ∃ more, Booked h more net' := by
  obtain ⟨more, hsub, hmore⟩ := raffles_step hs.deployed hok
  have hkept (x : Address) (hx : net.raffle x ≠ none) : net'.raffle x ≠ none :=
    (hmore x).mp (hsub ((hs.deployed x).mpr hx))
  have hnotices (x : Address) := noticesAt_step (hs.attached x) hok
  refine ⟨more, fun x => attached_step (hs.attached x) hok, hmore,
    registered_step hs.registered hkept hok, fun asset => ?_, fun a => ?_,
    participantsCounted_step hs.counted hok⟩
  · have hsame : ∑ x ∈ raffles, toldIncome asset (noticesAt net x) =
        ∑ x ∈ more, toldIncome asset (noticesAt net x) := by
      refine Finset.sum_subset hsub fun x _ hnot => ?_
      rw [noticesAt_none (by_contra fun hx => hnot ((hs.deployed x).mpr hx))]
      rfl
    have hsplit (x : Address) : toldIncome asset (noticesAt net' x) =
        toldIncome asset (noticesAt net x) +
          if addressed i.call = some x then toldIncome asset (noticesOf net i.call net')
          else 0 := by
      rw [hnotices x, toldIncome_append]
      split <;> rfl
    rw [(tallies_step hok asset asset).1, hs.volumes, hsame,
      Finset.sum_congr rfl fun x _ => hsplit x, Finset.sum_add_distrib]
    congr 1
    cases haddressed : addressed i.call with
    | none => simp [notices_addressed hs.registered hok haddressed, toldIncome, recordedFor]
    | some target =>
      have hthere : target ∈ more :=
        hsub ((hs.deployed target).mpr (addressed_deployed haddressed hok))
      simp [hthere]
  · simp only [(tallies_step hok a a).2, hs.participants, hnotices, List.mem_append, exists_or]
    refine or_congr_right ?_
    cases haddressed : addressed i.call with
    | none => simp [notices_addressed hs.registered hok haddressed]
    | some target => simp

theorem booked_start {creators : Nat → Option Address} {categories : Nat → Option Bytes}
    (hinit : Initialised h creators categories net) : Booked h ∅ net := by
  have htallies := hinit.tallies
  obtain ⟨_, _, _, _, -, hcore, hnone⟩ := hinit.core
  have hvolume : net.factory.totalVolumePerAsset = fun _ => none :=
    congrArg Tallies.totalVolumePerAsset htallies
  have hflags : net.factory.uniqueParticipant = fun _ => none :=
    congrArg Tallies.uniqueParticipant htallies
  have hregistered : net.factory.isFactoryRaffle = fun _ => none :=
    congrArg (fun k : Core => k.registry.isFactoryRaffle) hcore
  refine ⟨attached_start hinit, fun x => by simp [hnone x], fun x hx => ?_, fun asset => ?_,
    fun a => ?_, ?_⟩
  · rw [hregistered] at hx
    cases hx
  · rw [hvolume]
    rfl
  · simp [hflags, noticesAt_none (hnone _)]
  · rw [htallies]
    refine ⟨?_, ?_⟩ <;> simp [flagged]

/-- The raffle at the address has reported the participant. -/
def Announced (net : Net) (x a : Address) : Prop :=
  ∃ w, net.raffle x = some w ∧ .trackParticipant a ∈ w.factoryCalls

/-- The total of a token is what buyers have paid in it into the raffles ever
deployed; whoever they have reported is counted, once, and nobody else. Every owner
of a ticket is among them. -/
def StatisticsTrue (net : Net) : Prop :=
  (∃ raffles : Finset Address, (∀ x, x ∈ raffles ↔ net.raffle x ≠ none) ∧
    ∀ asset, (net.factory.totalVolumePerAsset asset).getD 0 =
      ∑ x ∈ raffles, ticketIncome asset ((net.raffle x).elim [] (·.transfers))) ∧
  (∀ a, (net.factory.uniqueParticipant a).isSome = true ↔ ∃ x, Announced net x a) ∧
  {a | ∃ x, Announced net x a}.Finite ∧
  net.factory.totalUniqueParticipants.getD 0 = {a | ∃ x, Announced net x a}.ncard ∧
  ∀ x w id ticket, net.raffle x = some w → w.ticket id = some ticket → Announced net x ticket.owner

def statistics (net : Net) : (Address → Option Int) × (Address → Option Bool) × Option Nat :=
  (net.factory.totalVolumePerAsset, net.factory.uniqueParticipant,
    net.factory.totalUniqueParticipants)

theorem announced_iff {a : Address} :
    Announced net x a ↔ .trackParticipant a ∈ noticesAt net x := by
  constructor
  · rintro ⟨w, hw, htold⟩
    rwa [noticesAt_some hw]
  · intro htold
    cases hw : net.raffle x with
    | none =>
      rw [noticesAt_none hw] at htold
      cases htold
    | some w =>
      rw [noticesAt_some hw] at htold
      exact ⟨w, hw, htold⟩

theorem Booked.true_of {raffles : Finset Address} (hs : Booked h raffles net) :
    StatisticsTrue net := by
  have hturnover {x : Address} {w : Instance.World} (hw : net.raffle x = some w) :
      Turnover { w with balance := net.balance } := by
    obtain ⟨log, hhosted⟩ := (hs.attached x).hosted
    have hworld : net.world x = some { w with balance := net.balance } :=
      Option.map_eq_some_iff.mpr ⟨w, hw, rfl⟩
    exact (hhosted.genuine _ hworld).turnover
  have hparticipants (a : Address) : (net.factory.uniqueParticipant a).isSome = true ↔
      ∃ x, Announced net x a := by simp only [hs.participants, announced_iff]
  have hflagged : flagged net.factory.tallies = {a | ∃ x, Announced net x a} :=
    Set.ext hparticipants
  obtain ⟨hfinite, htotal⟩ := hs.counted
  rw [hflagged] at hfinite htotal
  refine ⟨⟨raffles, hs.deployed, fun asset => ?_⟩, hparticipants, hfinite, htotal.symm,
    fun x w id ticket hw hticket => ⟨w, hw, (hturnover hw).owners id ticket hticket⟩⟩
  rw [hs.volumes]
  refine Finset.sum_congr rfl fun x hx => ?_
  obtain ⟨w, hw⟩ := Option.ne_none_iff_exists'.mp ((hs.deployed x).mp hx)
  rw [noticesAt_some hw, hw]
  exact (hturnover hw).income asset

/-- Only the calls of a deployed raffle add to the statistics. -/
theorem Booked.outside {raffles : Finset Address} (hs : Booked h raffles net)
    (hok : invoke h i net = .ok net') (hother : ∀ x call, net.raffle x ≠ none →
      i.call ≠ .raffle x call) : statistics net' = statistics net := by
  have hnone : addressed i.call = none := by
    cases haddressed : addressed i.call with
    | none => rfl
    | some x =>
      obtain ⟨c, call⟩ := i
      cases call with
      | raffle target call =>
        cases haddressed
        exact absurd rfl (hother x call (addressed_deployed rfl hok))
      | _ => cases haddressed
  obtain ⟨hvolume, hflags, htotal⟩ := statistics_step hok
  rw [notices_addressed hs.registered hok hnone] at hvolume hflags htotal
  exact Prod.ext hvolume (Prod.ext hflags htotal)

/-- The statistics are true in every state of every run of the system, and no call
but one of a deployed raffle changes them. -/
theorem statistics_true {creators : Nat → Option Address} {categories : Nat → Option Bytes}
    (hinit : Initialised h creators categories net) (calls : List Invocation) :
    (machine h).Always StatisticsTrue net calls ∧
      (machine h).Each (fun s i s' => (∀ x call, s.raffle x ≠ none → i.call ≠ .raffle x call) →
        statistics s' = statistics s) net calls := by
  have hall := Machine.always_of_step (m := machine h) (fun net => ∃ raffles, Booked h raffles net)
    (fun _ _ _ ⟨_, hs⟩ hok => booked_step hs hok) ⟨∅, booked_start hinit⟩ calls
  refine ⟨hall.mono fun _ ⟨_, hs⟩ => hs.true_of, ?_⟩
  exact Machine.each_of_step (m := machine h) (fun net => ∃ raffles, Booked h raffles net)
    (fun _ _ _ ⟨_, hs⟩ hok => booked_step hs hok)
    (fun _ _ _ ⟨_, hs⟩ hok hother => hs.outside hok hother) ⟨∅, booked_start hinit⟩ calls

def twoRafflesRun : List Invocation :=
  open Instance.Sample in
  [Sample.signed [creator] 300 (.createRaffle creator Instance.Sample.config),
    Sample.signed [creator] 700
      (.createRaffle creator { Instance.Sample.config with description := [1] }),
    Sample.signed [creator] 710 (.raffle Sample.firstRaffle .depositPrize),
    Sample.signed [creator] 720 (.raffle Sample.secondRaffle .depositPrize),
    Sample.signed [buyer, treasury] 730
      (.raffle Sample.firstRaffle (.buyTicketsFor buyer treasury 2)),
    Sample.signed [buyer] 740 (.raffle Sample.secondRaffle (.buyTickets buyer 1))]

theorem statistics_true_twoRafflesRun :
    (machine Sample.host).Always StatisticsTrue Sample.start twoRafflesRun ∧
      (machine Sample.host).Each (fun s i s' =>
        (∀ x call, s.raffle x ≠ none → i.call ≠ .raffle x call) → statistics s' = statistics s)
        Sample.start twoRafflesRun :=
  statistics_true Sample.start_fresh twoRafflesRun

example : (Sample.after twoRafflesRun).factory.totalVolumePerAsset Instance.Sample.token =
    some 30000 ∧ (Sample.after twoRafflesRun).factory.totalUniqueParticipants = some 2 := by
  decide +kernel

end TikkaRaffle.Properties
