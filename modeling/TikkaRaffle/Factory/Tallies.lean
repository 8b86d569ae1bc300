import TikkaRaffle.Factory.Enrolment

/-! The storage beside the core: checkpoints, participants, volumes and the
rounds of each schedule. Five calls write into it, each with its own lemma
here, and the others leave it as it is. -/
namespace TikkaRaffle.Factory

open TikkaRaffle.Lib TikkaRaffle.Instance Constants Function

structure Tallies where
  checkpoint : Nat → Option StateCheckpoint
  latestCheckpointIndex : Option Nat
  uniqueParticipant : Address → Option Bool
  totalUniqueParticipants : Option Nat
  totalVolumePerAsset : Address → Option Int
  recurringRaffleInstances : Nat → Option (List Address)

def State.tallies (s : State) : Tallies where
  checkpoint := s.checkpoint
  latestCheckpointIndex := s.latestCheckpointIndex
  uniqueParticipant := s.uniqueParticipant
  totalUniqueParticipants := s.totalUniqueParticipants
  totalVolumePerAsset := s.totalVolumePerAsset
  recurringRaffleInstances := s.recurringRaffleInstances

structure Lists where
  whitelistedPartner : Address → Option Bool
  partnersList : Option (List Address)
  topByTickets : Option (List (Address × Int))
  topByPrize : Option (List (Address × Int))
  topByVolume : Option (List (Address × Int))

def State.lists (s : State) : Lists where
  whitelistedPartner := s.whitelistedPartner
  partnersList := s.partnersList
  topByTickets := s.topByTickets
  topByPrize := s.topByPrize
  topByVolume := s.topByVolume

def State.bookkeeping (s : State) : Tallies × Lists := (s.tallies, s.lists)

def State.margin (s : State) : (Tallies × Lists) × (Address → Option Nat) :=
  (s.bookkeeping, s.lastCreationTime)

theorem State.tallies_of_bookkeeping {s s' : State} (h : s'.bookkeeping = s.bookkeeping) :
    s'.tallies = s.tallies :=
  congrArg Prod.fst h

theorem State.lists_of_bookkeeping {s s' : State} (h : s'.bookkeeping = s.bookkeeping) :
    s'.lists = s.lists :=
  congrArg Prod.snd h

theorem Initialised.tallies {h : Host} {net : Net} {raffleCreator : Nat → Option Address}
    {raffleCategory : Nat → Option Bytes}
    (hinit : Initialised h raffleCreator raffleCategory net) :
    net.factory.tallies = ⟨fun _ => none, none, fun _ => none, none, fun _ => none,
      fun _ => none⟩ := by
  obtain ⟨c, holdings, admin, wasmHash, bp, treasury, s, hok, rfl⟩ := hinit
  simp only [initFactory, except_bind_ok, except_pure_ok] at hok
  obtain ⟨_, -, _, -, _, -, _, -, rfl⟩ := hok
  rfl

theorem Initialised.lists {h : Host} {net : Net} {raffleCreator : Nat → Option Address}
    {raffleCategory : Nat → Option Bytes}
    (hinit : Initialised h raffleCreator raffleCategory net) :
    net.factory.lists = ⟨fun _ => none, none, none, none, none⟩ := by
  obtain ⟨c, holdings, admin, wasmHash, bp, treasury, s, hok, rfl⟩ := hinit
  simp only [initFactory, except_bind_ok, except_pure_ok] at hok
  obtain ⟨_, -, _, -, _, -, _, -, rfl⟩ := hok
  rfl

def Tallies.reach (h : Host) (c : Ctx) (k : Tallies) (count : Nat) : Tallies :=
  if count = 0 ∨ count % checkpointInterval ≠ 0 then k
  else
    { k with
      checkpoint := update k.checkpoint (count / checkpointInterval)
        (some ⟨count / checkpointInterval, count, c.timestamp,
          h.sha256 (toBeBytes 4 count ++ toBeBytes 4 c.sequence ++ toBeBytes 8 c.timestamp)⟩)
      latestCheckpointIndex := some (count / checkpointInterval) }

def Tallies.storeRounds (k : Tallies) (recurringId : Nat) (instances : List Address) : Tallies :=
  { k with
    recurringRaffleInstances := update k.recurringRaffleInstances recurringId (some instances) }

theorem Tallies.reach_rounds {h : Host} {c : Ctx} (k : Tallies) (count : Nat) :
    (k.reach h c count).recurringRaffleInstances = k.recurringRaffleInstances := by
  unfold reach
  split <;> rfl

theorem Tallies.reach_other {h : Host} {c : Ctx} (k : Tallies) (count : Nat) :
    (k.reach h c count).uniqueParticipant = k.uniqueParticipant ∧
      (k.reach h c count).totalUniqueParticipants = k.totalUniqueParticipants ∧
      (k.reach h c count).totalVolumePerAsset = k.totalVolumePerAsset := by
  unfold reach
  split <;> exact ⟨rfl, rfl, rfl⟩

def Call.tallies : Call → Bool
  | .createRaffle .. | .createRecurringRaffle .. | .triggerNextRound _ | .raffle ..
  | .report .. => true
  | _ => false

def Call.lists : Call → Bool
  | .setWhitelistStatus .. | .raffle .. | .report .. => true
  | _ => false

section Calls

variable {h : Host} {c : Ctx} {net net' : Net} {s s' : State} {recurringId : Nat}

theorem maybeCreateCheckpoint_bookkeeping {count : Nat} :
    (maybeCreateCheckpoint h c s count).bookkeeping = (s.tallies.reach h c count, s.lists) := by
  unfold maybeCreateCheckpoint Tallies.reach
  split <;> rfl

theorem limitCreation_bookkeeping {creator : Address} (hok : limitCreation c s creator = .ok s') :
    s'.bookkeeping = s.bookkeeping := by
  unfold limitCreation at hok
  split at hok
  next =>
    cases hok
    rfl
  next =>
    simp only [except_bind_ok, except_pure_ok] at hok
    obtain ⟨_, -, _, -, rfl⟩ := hok
    rfl

theorem register_bookkeeping {raffle creator : Address} {category : Option Bytes}
    (hok : register h c s raffle creator category = .ok s') :
    s'.bookkeeping = (s.tallies.reach h c (s.totalRafflesCreated.getD 0 + 1), s.lists) := by
  simp only [register, except_bind_ok, Factory.trapU32_ok, except_pure_ok] at hok
  obtain ⟨count, ⟨-, rfl⟩, rfl⟩ := hok
  exact maybeCreateCheckpoint_bookkeeping

theorem createRaffleInternal_bookkeeping {creator raffle : Address} {config : RaffleConfig}
    (hok : createRaffleInternal h c net creator config = .ok (net', raffle)) :
    net'.factory.bookkeeping =
      (net.factory.tallies.reach h c (net.factory.totalRafflesCreated.getD 0 + 1),
        net.factory.lists) := by
  simp only [createRaffleInternal, except_bind_ok, except_pure_ok, Prod.mk.injEq] at hok
  obtain ⟨_, -, _, -, _, -, w, -, s, hregister, rfl, -⟩ := hok
  exact register_bookkeeping hregister

theorem createRaffle_bookkeeping {creator raffle : Address} {config : RaffleConfig}
    (hok : createRaffle h c net creator config = .ok (net', raffle)) :
    net'.factory.bookkeeping =
      (net.factory.tallies.reach h c (net.factory.totalRafflesCreated.getD 0 + 1),
        net.factory.lists) := by
  simp only [createRaffle, except_bind_ok] at hok
  obtain ⟨_, -, _, -, _, -, s, hlimit, _, -, built, -, _, -, hok⟩ := hok
  have htotal : s.totalRafflesCreated = net.factory.totalRafflesCreated :=
    congrArg (fun k : Core => k.registry.totalRafflesCreated) (limitCreation_core hlimit)
  have hkept := limitCreation_bookkeeping hlimit
  rw [createRaffleInternal_bookkeeping hok, htotal, State.tallies_of_bookkeeping hkept,
    State.lists_of_bookkeeping hkept]

theorem createRecurringRaffle_schedules {creator : Address} {config : RecurringRaffleConfig}
    (hok : createRecurringRaffle h c s creator config = .ok (s', recurringId)) :
    recurringId = s.nextRecurringId.getD 0 ∧
      config.intervalSeconds ≤ maxRecurringIntervalSeconds ∧
      s'.core.registry = s.core.registry ∧
      s'.core.schedules = { s.core.schedules.store recurringId
        ⟨creator, config, saturateU64 (c.timestamp + config.intervalSeconds), 0, true, none⟩ with
        nextRecurringId := some (Factory.saturateU32 (recurringId + 1)) } ∧
      s'.tallies = s.tallies.storeRounds recurringId [] := by
  simp only [createRecurringRaffle, except_bind_ok, Factory.ensure_ok, except_pure_ok,
    Prod.mk.injEq] at hok
  obtain ⟨_, -, _, -, _, ⟨-, hinterval⟩, _, -, rfl, rfl⟩ := hok
  exact ⟨rfl, hinterval, rfl, rfl, rfl⟩

/-- An active schedule that is due and has a round left gets it, with the raffle
entered in both places. -/
theorem triggerNextRound_schedules {raffle : Address}
    (hok : triggerNextRound h c net recurringId = .ok (net', raffle)) :
    ∃ entry, net.factory.recurringRaffle recurringId = some entry ∧ entry.active = true ∧
      entry.nextDue ≤ c.timestamp ∧
      ¬(0 < entry.config.maxRounds ∧ entry.config.maxRounds ≤ entry.currentRound) ∧
      net.factory.totalRafflesCreated.getD 0 + 1 < 2 ^ 32 ∧
      net'.factory.totalRafflesCreated.getD 0 = net.factory.totalRafflesCreated.getD 0 + 1 ∧
      net'.factory.core.schedules =
        net.factory.core.schedules.store recurringId (entry.advance c.timestamp raffle) ∧
      net'.factory.tallies =
        (net.factory.tallies.reach h c (net.factory.totalRafflesCreated.getD 0 + 1)).storeRounds
          recurringId ((net.factory.recurringRaffleInstances recurringId).getD [] ++ [raffle]) := by
  simp only [triggerNextRound, except_bind_ok, Factory.ensure_ok, Factory.okOr_ok,
    except_pure_ok] at hok
  obtain ⟨_, -, entry, hentry, _, hactive, _, hdue, _, hleft, built, -, ⟨net₁, raffle₁⟩, hok,
    heq⟩ := hok
  cases heq
  obtain ⟨w, hcreates, hschedules⟩ := createRaffleInternal_creates rfl hok
  have htallies : net₁.factory.tallies =
      net.factory.tallies.reach h c (net.factory.totalRafflesCreated.getD 0 + 1) :=
    congrArg Prod.fst (createRaffleInternal_bookkeeping hok)
  have hrounds : net₁.factory.recurringRaffleInstances =
      net.factory.recurringRaffleInstances := by
    have hkept := congrArg Tallies.recurringRaffleInstances htallies
    exact hkept.trans (Tallies.reach_rounds ..)
  have htotal : net₁.factory.totalRafflesCreated =
      some (net.factory.totalRafflesCreated.getD 0 + 1) :=
    congrArg Registry.totalRafflesCreated hcreates.registry
  refine ⟨entry, hentry, hactive, hdue, hleft, hcreates.countable, ?_, ?_, ?_⟩
  · exact congrArg (Option.getD · 0) htotal
  · rw [← hschedules]
    rfl
  · rw [← htallies, ← hrounds]
    rfl

/-- A round is a registration for the lists too. -/
theorem triggerNextRound_lists {raffle : Address}
    (hok : triggerNextRound h c net recurringId = .ok (net', raffle)) :
    net'.factory.lists = net.factory.lists := by
  simp only [triggerNextRound, except_bind_ok, except_pure_ok] at hok
  obtain ⟨_, -, entry, -, _, -, _, -, _, -, built, -, ⟨net₁, raffle₁⟩, hok, heq⟩ := hok
  cases heq
  exact congrArg Prod.snd (createRaffleInternal_bookkeeping hok)

theorem proposeOp_margin {admin : Address} {op : AdminOp} {opId : Nat}
    (hok : proposeOp c s admin op = .ok (s', opId)) : s'.margin = s.margin := by
  simp only [proposeOp, except_bind_ok, except_pure_ok, Prod.mk.injEq] at hok
  obtain ⟨_, -, rfl, -⟩ := hok
  rfl

theorem executeConfigChange_margin {opId : Nat}
    (hok : executeConfigChange h c s opId = .ok s') : s'.margin = s.margin := by
  simp only [executeConfigChange, except_bind_ok, except_pure_ok] at hok
  obtain ⟨admin, -, pending, -, _, -, s₁, happly, rfl⟩ := hok
  have hkept : s₁.margin = s.margin := by
    cases hop : pending.op with
    | setConfig key address =>
      rw [hop] at happly
      simp only [applyOp, except_bind_ok, except_pure_ok] at happly
      obtain ⟨_, -, rfl⟩ := happly
      cases key <;> rfl
    | setProtocolFeeBp bp =>
      rw [hop] at happly
      simp only [applyOp, except_bind_ok, except_pure_ok] at happly
      obtain ⟨_, -, rfl⟩ := happly
      rfl
    | updateWasmHash | approveOracle | removeOracle =>
      rw [hop] at happly
      cases happly
      rfl
  exact hkept

theorem setWhitelistStatus_tallies {partner : Address} {status : Bool}
    (hok : setWhitelistStatus h c s partner status = .ok s') : s'.tallies = s.tallies := by
  simp only [setWhitelistStatus, except_bind_ok] at hok
  obtain ⟨_, -, hok⟩ := hok
  split at hok
  next =>
    split at hok <;>
    · cases hok
      rfl
  next =>
    split at hok <;>
    · cases hok
      rfl

theorem transferFactoryAdmin_margin {newAdmin : Address}
    (hok : transferFactoryAdmin h c s newAdmin = .ok s') : s'.margin = s.margin := by
  simp only [transferFactoryAdmin, except_bind_ok] at hok
  obtain ⟨_, -, hok⟩ := hok
  split at hok
  next =>
    cases hok
    rfl
  next =>
    simp only [except_bind_ok, except_pure_ok] at hok
    obtain ⟨_, -, _, -, rfl⟩ := hok
    rfl

theorem invokeSigned_margin {call : Call} (hquiet : call.tallies = false)
    (hlists : call.lists = false) (hok : invokeSigned h c net call = .ok net') :
    net'.factory.margin = net.factory.margin := by
  cases call with
  | createRaffle | createRecurringRaffle | triggerNextRound | raffle | report => cases hquiet
  | setWhitelistStatus => cases hlists
  | initFactory =>
    simp only [invokeSigned, except_map_ok, initFactory, except_bind_ok, except_pure_ok] at hok
    obtain ⟨_, ⟨_, -, _, -, _, -, _, -, rfl⟩, rfl⟩ := hok
    rfl
  | setConfig =>
    simp only [invokeSigned, except_map_ok, setConfig, except_bind_ok] at hok
    obtain ⟨_, ⟨admin, -, _, -, hpropose⟩, rfl⟩ := hok
    exact proposeOp_margin hpropose
  | proposeFeeChange =>
    simp only [invokeSigned, except_map_ok, proposeFeeChange, except_bind_ok] at hok
    obtain ⟨_, ⟨admin, -, _, -, hpropose⟩, rfl⟩ := hok
    exact proposeOp_margin hpropose
  | proposeWasmUpgrade =>
    simp only [invokeSigned, except_map_ok, proposeWasmUpgrade, except_bind_ok] at hok
    obtain ⟨_, ⟨admin, -, hpropose⟩, rfl⟩ := hok
    exact proposeOp_margin hpropose
  | executeConfigChange =>
    simp only [invokeSigned, except_map_ok] at hok
    obtain ⟨s', hexecute, rfl⟩ := hok
    exact executeConfigChange_margin hexecute
  | cancelConfigChange | setProfileName =>
    simp only [invokeSigned, except_map_ok, cancelConfigChange, setProfileName, except_bind_ok,
      except_pure_ok] at hok
    obtain ⟨_, ⟨_, -, _, -, rfl⟩, rfl⟩ := hok
    rfl
  | pauseFactory | unpauseFactory | setCreationPaused | emergencyPauseAll | emergencyUnpauseAll
  | setCreationDelay | upgrade | setVerified =>
    simp only [invokeSigned, except_map_ok, pauseFactory, unpauseFactory, setFactoryPaused,
      setCreationPaused, emergencyPauseAll, emergencyUnpauseAll, setGlobalEmergencyPause,
      setCreationDelay, upgrade, setVerified, except_bind_ok, except_pure_ok] at hok
    obtain ⟨_, ⟨_, -, rfl⟩, rfl⟩ := hok
    rfl
  | transferFactoryAdmin =>
    simp only [invokeSigned, except_map_ok] at hok
    obtain ⟨s', htransfer, rfl⟩ := hok
    exact transferFactoryAdmin_margin htransfer
  | acceptFactoryAdmin =>
    simp only [invokeSigned, except_map_ok, acceptFactoryAdmin, except_bind_ok, except_pure_ok]
      at hok
    obtain ⟨_, ⟨admin, -, _, -, _, -, rfl⟩, rfl⟩ := hok
    rfl
  | cancelRecurringRaffle =>
    simp only [invokeSigned, except_map_ok, cancelRecurringRaffle, except_bind_ok, except_pure_ok]
      at hok
    obtain ⟨_, ⟨entry, -, _, -, _, -, rfl⟩, rfl⟩ := hok
    rfl
  | cleanOldRaffle raffleId =>
    simp only [invokeSigned, cleanOldRaffle, except_bind_ok, except_pure_ok] at hok
    obtain ⟨_, -, raffle, -, creator, -, net₁, hforward, rfl⟩ := hok
    obtain ⟨hsame, -⟩ := forward_reaches hforward
    rw [← hsame]
    rfl
  | pauseInstance | unpauseInstance | syncAdmin =>
    simp only [invokeSigned, pauseInstance, unpauseInstance, syncAdmin, except_bind_ok] at hok
    obtain ⟨_, -, hforward⟩ := hok
    exact congrArg State.margin (forward_reaches hforward).1
  | rescueTokens =>
    simp only [invokeSigned, rescueTokens, except_bind_ok, except_pure_ok] at hok
    obtain ⟨_, -, _, -, _, -, rfl⟩ := hok
    rfl

theorem invokeSigned_bookkeeping {call : Call} (hquiet : call.tallies = false)
    (hlists : call.lists = false) (hok : invokeSigned h c net call = .ok net') :
    net'.factory.bookkeeping = net.factory.bookkeeping :=
  congrArg Prod.fst (invokeSigned_margin hquiet hlists hok)

theorem invokeSigned_tallies {call : Call} (hquiet : call.tallies = false)
    (hok : invokeSigned h c net call = .ok net') : net'.factory.tallies = net.factory.tallies := by
  cases call with
  | setWhitelistStatus =>
    simp only [invokeSigned, except_map_ok] at hok
    obtain ⟨s', hstatus, rfl⟩ := hok
    exact setWhitelistStatus_tallies hstatus
  | createRaffle | createRecurringRaffle | triggerNextRound | raffle | report => cases hquiet
  | _ => exact State.tallies_of_bookkeeping (invokeSigned_bookkeeping rfl rfl hok)

theorem invokeSigned_lists {call : Call} (hquiet : call.lists = false)
    (hok : invokeSigned h c net call = .ok net') : net'.factory.lists = net.factory.lists := by
  cases call with
  | createRaffle creator config =>
    simp only [invokeSigned, except_map_ok] at hok
    obtain ⟨⟨_, raffle⟩, hcreated, rfl⟩ := hok
    exact congrArg Prod.snd (createRaffle_bookkeeping hcreated)
  | triggerNextRound recurringId =>
    simp only [invokeSigned, except_map_ok] at hok
    obtain ⟨⟨_, raffle⟩, htrigger, rfl⟩ := hok
    exact triggerNextRound_lists htrigger
  | createRecurringRaffle =>
    simp only [invokeSigned, except_map_ok, createRecurringRaffle, except_bind_ok, except_pure_ok]
      at hok
    obtain ⟨_, ⟨_, -, _, -, _, -, _, -, rfl⟩, rfl⟩ := hok
    rfl
  | setWhitelistStatus | raffle | report => cases hquiet
  | _ => exact State.lists_of_bookkeeping (invokeSigned_bookkeeping rfl rfl hok)

end Calls

def Tallies.answered (k : Tallies) : FactoryCall → Tallies
  | .recordVolume asset amount =>
      { k with
        totalVolumePerAsset := update k.totalVolumePerAsset asset
          (some ((k.totalVolumePerAsset asset).getD 0 + amount)) }
  | .trackParticipant participant =>
      if (k.uniqueParticipant participant).isNone then
        { k with
          uniqueParticipant := update k.uniqueParticipant participant (some true)
          totalUniqueParticipants := some (k.totalUniqueParticipants.getD 0 + 1) }
      else k
  | .recordLeaderboardEntry .. => k

theorem answer_tallies {h : Host} {c : Ctx} {caller : Address} {s s' : State}
    {notice : FactoryCall} (hok : answer h c caller s notice = .ok s') :
    s'.tallies = s.tallies.answered notice := by
  rw [answer_writes hok]
  cases notice with
  | recordVolume | recordLeaderboardEntry => rfl
  | trackParticipant participant =>
    simp only [State.answered, Tallies.answered]
    exact apply_ite State.tallies ..

/-- A report is neither a registration nor a round. -/
theorem answered_kept (k : Tallies) (notice : FactoryCall) :
    (k.answered notice).checkpoint = k.checkpoint ∧
      (k.answered notice).latestCheckpointIndex = k.latestCheckpointIndex ∧
      (k.answered notice).recurringRaffleInstances = k.recurringRaffleInstances := by
  cases notice with
  | recordVolume | recordLeaderboardEntry => exact ⟨rfl, rfl, rfl⟩
  | trackParticipant participant =>
    simp only [Tallies.answered]
    split <;> exact ⟨rfl, rfl, rfl⟩

theorem answeredAll_kept (notices : List FactoryCall) (k : Tallies) :
    (notices.foldl Tallies.answered k).checkpoint = k.checkpoint ∧
      (notices.foldl Tallies.answered k).latestCheckpointIndex = k.latestCheckpointIndex ∧
      (notices.foldl Tallies.answered k).recurringRaffleInstances =
        k.recurringRaffleInstances := by
  induction notices generalizing k with
  | nil => exact ⟨rfl, rfl, rfl⟩
  | cons notice rest ih =>
    rw [List.foldl_cons, (ih _).1, (ih _).2.1, (ih _).2.2]
    exact answered_kept k notice

/-- The calls of the factory that a committed call contains. -/
def noticesOf (net : Net) (call : Call) (net' : Net) : List FactoryCall :=
  match call with
  | .raffle raffle _ =>
      match net.raffle raffle, net'.raffle raffle with
      | some w, some w' => w'.factoryCalls.drop w.factoryCalls.length
      | _, _ => []
  | .report _ notice => [notice]
  | _ => []

def Call.reports : Call → Bool
  | .raffle .. | .report .. => true
  | _ => false

theorem invokeSigned_reads {β : Type} (part : State → β) (answered : β → FactoryCall → β)
    {h : Host} {c : Ctx} {net net' : Net} {call : Call}
    (hone : ∀ {c : Ctx} {caller : Address} {s s' : State} {notice : FactoryCall},
      answer h c caller s notice = .ok s' → part s' = answered (part s) notice)
    (hreports : call.reports = true) (hok : invokeSigned h c net call = .ok net') :
    part net'.factory = (noticesOf net call net').foldl answered (part net.factory) := by
  cases call with
  | raffle raffle call =>
    simp only [invokeSigned, callRaffle, except_bind_ok, found_ok, except_pure_ok] at hok
    obtain ⟨w, hw, w', -, s, hanswers, rfl⟩ := hok
    obtain ⟨w₀, hw₀, rfl⟩ := Option.map_eq_some_iff.mp hw
    simp only [noticesOf, hw₀, Net.store, update_self]
    exact answerAll_reads part answered hone hanswers
  | report caller notice =>
    simp only [invokeSigned, except_map_ok, report, except_bind_ok] at hok
    obtain ⟨s', ⟨_, -, hanswer⟩, rfl⟩ := hok
    exact hone hanswer
  | _ => cases hreports

/-- The factory has answered what was reported, and nothing else has written. -/
theorem invokeSigned_answers {h : Host} {c : Ctx} {net net' : Net} {call : Call}
    (hcreate : call.creates = false) (hplan : call.plans = false)
    (hok : invokeSigned h c net call = .ok net') :
    net'.factory.tallies =
      (noticesOf net call net').foldl Tallies.answered net.factory.tallies := by
  cases call with
  | raffle | report =>
    exact invokeSigned_reads State.tallies Tallies.answered answer_tallies rfl hok
  | createRaffle | triggerNextRound => cases hcreate
  | createRecurringRaffle => cases hplan
  | _ => exact invokeSigned_tallies rfl hok

theorem invokeSigned_creates {h : Host} {c : Ctx} {net net' : Net} {call : Call}
    (hcreate : call.creates = true) (hok : invokeSigned h c net call = .ok net') :
    ∃ rounds, net'.factory.tallies =
      { net.factory.tallies.reach h c (net.factory.totalRafflesCreated.getD 0 + 1) with
        recurringRaffleInstances := rounds } := by
  cases call with
  | createRaffle creator config =>
    simp only [invokeSigned, except_map_ok] at hok
    obtain ⟨⟨_, raffle⟩, hcreated, rfl⟩ := hok
    exact ⟨_, congrArg Prod.fst (createRaffle_bookkeeping hcreated)⟩
  | triggerNextRound recurringId =>
    simp only [invokeSigned, except_map_ok] at hok
    obtain ⟨⟨_, raffle⟩, htrigger, rfl⟩ := hok
    obtain ⟨_, -, -, -, -, -, -, -, htallies⟩ := triggerNextRound_schedules htrigger
    exact ⟨_, htallies⟩
  | _ => cases hcreate

theorem invokeSigned_reports {h : Host} {c : Ctx} {net net' : Net} {call : Call}
    (hcreate : call.creates = false) (hok : invokeSigned h c net call = .ok net') :
    ∃ rounds, net'.factory.tallies =
      { (noticesOf net call net').foldl Tallies.answered net.factory.tallies with
        recurringRaffleInstances := rounds } := by
  cases call with
  | createRaffle | triggerNextRound => cases hcreate
  | createRecurringRaffle creator config =>
    simp only [invokeSigned, except_map_ok] at hok
    obtain ⟨⟨s', recurringId⟩, hplan, rfl⟩ := hok
    exact ⟨_, (createRecurringRaffle_schedules hplan).2.2.2.2⟩
  | cancelRecurringRaffle => exact ⟨_, invokeSigned_tallies rfl hok⟩
  | _ => exact ⟨_, invokeSigned_answers rfl rfl hok⟩

def Call.rounds : Call → Bool
  | .createRecurringRaffle .. | .triggerNextRound _ => true
  | _ => false

theorem invokeSigned_rounds {h : Host} {c : Ctx} {net net' : Net} {call : Call}
    (hquiet : call.rounds = false) (hok : invokeSigned h c net call = .ok net') :
    net'.factory.recurringRaffleInstances = net.factory.recurringRaffleInstances := by
  cases call with
  | createRaffle creator config =>
    simp only [invokeSigned, except_map_ok] at hok
    obtain ⟨⟨_, raffle⟩, hcreate, rfl⟩ := hok
    have hreach := congrArg (fun k => k.1.recurringRaffleInstances)
      (createRaffle_bookkeeping hcreate)
    exact hreach.trans (Tallies.reach_rounds ..)
  | createRecurringRaffle | triggerNextRound => cases hquiet
  | cancelRecurringRaffle =>
    exact congrArg Tallies.recurringRaffleInstances (invokeSigned_tallies rfl hok)
  | _ =>
    have hanswers := congrArg Tallies.recurringRaffleInstances (invokeSigned_answers rfl rfl hok)
    exact hanswers.trans (answeredAll_kept ..).2.2

theorem Call.Effect.created_same {h : Host} {c : Ctx} {net net' : Net} {call : Call}
    (he : call.Effect h c net net') (hc : call.creates = false) :
    net'.factory.nextRaffleId = net.factory.nextRaffleId ∧
      net'.factory.totalRafflesCreated = net.factory.totalRafflesCreated := by
  cases hclean : call.cleans with
  | false =>
    have hregistry := he.frame.registry hc hclean
    exact ⟨congrArg Registry.nextRaffleId hregistry,
      congrArg Registry.totalRafflesCreated hregistry⟩
  | true =>
    cases call with
    | cleanOldRaffle =>
      obtain ⟨raffle, creator, -, -, hcore, -⟩ := he
      have hregistry := congrArg Core.registry hcore
      exact ⟨congrArg Registry.nextRaffleId hregistry,
        congrArg Registry.totalRafflesCreated hregistry⟩
    | _ => cases hclean

theorem Call.Effect.created_mono {h : Host} {c : Ctx} {net net' : Net} {call : Call}
    (he : call.Effect h c net net') : net.factory.totalRafflesCreated.getD 0 ≤
      net'.factory.totalRafflesCreated.getD 0 := by
  cases hc : call.creates with
  | true =>
    obtain ⟨creator, built, raffle, w, hcreates, -⟩ := he.creation hc
    have htotal : net'.factory.totalRafflesCreated =
        some (net.factory.totalRafflesCreated.getD 0 + 1) :=
      congrArg Registry.totalRafflesCreated hcreates.registry
    rw [htotal]
    exact Nat.le_succ _
  | false => rw [(he.created_same hc).2]

end TikkaRaffle.Factory
