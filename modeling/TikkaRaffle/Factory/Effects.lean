import TikkaRaffle.Factory.Core

/-! One specification for each committed call: its guards, what it writes into
the core of the factory, and which raffle it runs. Every invariant of the
system is proved from these, none from the code of the entry points. -/
namespace TikkaRaffle.Factory

open TikkaRaffle.Lib TikkaRaffle.Instance Constants Function

/-- The core changes as given and no raffle is touched. -/
structure Writes (net net' : Net) (k : Core) : Prop where
  core : net'.factory.core = k
  raffle : net'.raffle = net.raffle

def Governs (net net' : Net) (g : Governance) : Prop :=
  Writes net net' { net.factory.core with governance := g }

def Switches (net net' : Net) (p : Pauses) : Prop :=
  Writes net net' { net.factory.core with pauses := p }

def Plans (net net' : Net) (k : Schedules) : Prop :=
  Writes net net' { net.factory.core with schedules := k }

theorem Governs.governance {net net' : Net} {g : Governance} (hg : Governs net net' g) :
    net'.factory.core.governance = g :=
  congrArg Core.governance hg.core

theorem Switches.pauses {net net' : Net} {p : Pauses} (hs : Switches net net' p) :
    net'.factory.core.pauses = p :=
  congrArg Core.pauses hs.core

theorem Plans.schedules {net net' : Net} {k : Schedules} (hp : Plans net net' k) :
    net'.factory.core.schedules = k :=
  congrArg Core.schedules hp.core

def Proposes (h : Host) (c : Ctx) (net net' : Net) (op : AdminOp) : Prop :=
  ∃ admin, AdminSigned h c net.factory admin ∧
    Governs net net' (net.factory.core.governance.propose op
      (c.timestamp + timelockDelaySeconds) admin)

def Executes (h : Host) (c : Ctx) (net net' : Net) (opId : Nat) : Prop :=
  ∃ admin pending, AdminSigned h c net.factory admin ∧ net.factory.pendingOp opId = some pending ∧
    pending.effectiveTimestamp ≤ c.timestamp ∧
    (∀ bp, pending.op = .setProtocolFeeBp bp → bp ≤ maxProtocolFeeBp) ∧
    Governs net net' ((net.factory.core.governance.apply pending.op).closeOp opId)

structure Creates (h : Host) (c : Ctx) (net net' : Net) (creator : Address) (config : RaffleConfig)
    (raffle : Address) (w : World) : Prop where
  address : raffle = raffleAddress h creator config.description
  unused : ¬addressInUse h net raffle
  initialised : ∃ admin, net.factory.admin = some admin ∧
    init (h.at raffle) (raffleCtx c net.factory (h.self :: c.auths))
      { World.deployed (fun _ _ => 0) with balance := net.balance } h.self admin creator config =
        .ok w
  countable : net.factory.totalRafflesCreated.getD 0 + 1 < 2 ^ 32
  registry : net'.factory.core.registry =
    net.factory.core.registry.index raffle creator config.category
  governance : net'.factory.core.governance = net.factory.core.governance
  pauses : net'.factory.core.pauses = net.factory.core.pauses
  raffles : net'.raffle = update net.raffle raffle (some w)

def Runs (net net' : Net) (raffle : Address) (entry : World → World → Prop) : Prop :=
  ∃ w w', net.world raffle = some w ∧ entry w w' ∧
    net'.raffle = update net.raffle raffle (some w')

/-- The factory has called a raffle, or a contract that is none. -/
def Reaches (h : Host) (c : Ctx) (net net' : Net) (target : Address) (call : Forwarded) : Prop :=
  (∃ entry, call.entry = some entry ∧ Runs net net' target fun w w' =>
    entry (h.at target) (raffleCtx c net.factory (h.self :: c.auths)) w = .ok w') ∨
  net.raffle target = none ∧ net'.raffle = net.raffle

def Forwards (h : Host) (c : Ctx) (net net' : Net) (target : Address) (call : Forwarded) : Prop :=
  net'.factory.core = net.factory.core ∧ Reaches h c net net' target call

/-- What a committed call has checked and written. -/
def Call.Effect (h : Host) (c : Ctx) (net net' : Net) : Call → Prop
  | .initFactory admin wasmHash protocolFeeBp treasury =>
      net.factory.initialized = none ∧ protocolFeeBp ≤ maxProtocolFeeBp ∧
        Governs net net' { net.factory.core.governance with
          admin := some admin
          instanceWasmHash := some wasmHash
          protocolFeeBp := some protocolFeeBp
          treasury := some treasury
          initialized := some true }
  | .setConfig key address => Proposes h c net net' (.setConfig key address)
  | .proposeFeeChange protocolFeeBp => Proposes h c net net' (.setProtocolFeeBp protocolFeeBp)
  | .proposeWasmUpgrade newWasmHash => Proposes h c net net' (.updateWasmHash newWasmHash)
  | .executeConfigChange opId => Executes h c net net' opId
  | .cancelConfigChange opId => Governs net net' (net.factory.core.governance.closeOp opId)
  | .transferFactoryAdmin _ =>
      ∃ pending, Governs net net' { net.factory.core.governance with pendingAdmin := pending }
  | .acceptFactoryAdmin => ∃ admin, Governs net net'
      { net.factory.core.governance with admin := some admin, pendingAdmin := none }
  | .pauseFactory => Switches net net' { net.factory.core.pauses with paused := some true }
  | .unpauseFactory => Switches net net' { net.factory.core.pauses with paused := some false }
  | .setCreationPaused paused =>
      Switches net net' { net.factory.core.pauses with creationPaused := some paused }
  | .emergencyPauseAll _ =>
      Switches net net' { net.factory.core.pauses with globalEmergencyPause := some true }
  | .emergencyUnpauseAll =>
      Switches net net' { net.factory.core.pauses with globalEmergencyPause := some false }
  | .createRaffle creator config =>
      ∃ treasury built raffle w,
        net.factory.paused.getD false = false ∧ net.factory.creationPaused.getD false = false ∧
        net.factory.treasury = some treasury ∧
        buildConfig h c (((RaffleConfigBuilder.fromConfig config).protocolFeeBp
          (net.factory.protocolFeeBp.getD 0)).treasuryAddress (some treasury)) = .ok built ∧
        Creates h c net net' creator built raffle w ∧
        net'.factory.core.schedules = net.factory.core.schedules
  | .triggerNextRound recurringId =>
      ∃ entry built raffle w,
        net.factory.paused.getD false = false ∧
        net.factory.recurringRaffle recurringId = some entry ∧
        buildConfig h c (RaffleConfigBuilder.fromConfig entry.config.baseConfig) = .ok built ∧
        Creates h c net net' entry.creator built raffle w ∧
        net'.factory.core.schedules =
          net.factory.core.schedules.store recurringId (entry.advance c.timestamp raffle)
  | .createRecurringRaffle creator config =>
      ∃ nextDue, Plans net net' { net.factory.core.schedules.store
        (net.factory.nextRecurringId.getD 0) ⟨creator, config, nextDue, 0, true, none⟩ with
        nextRecurringId := some (Factory.saturateU32 (net.factory.nextRecurringId.getD 0 + 1)) }
  | .cancelRecurringRaffle recurringId _ =>
      ∃ entry, net.factory.recurringRaffle recurringId = some entry ∧
        Plans net net' (net.factory.core.schedules.store recurringId { entry with active := false })
  | .cleanOldRaffle raffleId =>
      ∃ raffle creator, net.factory.raffleById raffleId = some raffle ∧
        net.factory.raffleCreator raffleId = some creator ∧
        net'.factory.core = { net.factory.core with
          registry := net.factory.core.registry.unindex raffleId raffle creator
            (net.factory.raffleCategory raffleId) } ∧
        Reaches h c net net' raffle .wipeStorage
  | .pauseInstance target => Forwards h c net net' target .pause
  | .unpauseInstance target => Forwards h c net net' target .unpause
  | .syncAdmin target => ∃ admin, Forwards h c net net' target (.setAdmin admin)
  | .raffle target call =>
      net'.factory.core = net.factory.core ∧ Runs net net' target fun w w' =>
        Instance.invoke (h.at target) ⟨raffleCtx c net.factory c.auths, call⟩ w = .ok w'
  | .setCreationDelay _ | .setWhitelistStatus _ _ | .upgrade _ | .setProfileName _ _
  | .setVerified _ _ | .rescueTokens _ _ _ | .report _ _ => Writes net net' net.factory.core

section Calls

variable {h : Host} {c : Ctx} {net net' : Net}

theorem proposeOp_writes {admin : Address} {op : AdminOp} {s' : State} {opId : Nat}
    (hok : proposeOp c net.factory admin op = .ok (s', opId)) :
    Governs net (net.withFactory s') (net.factory.core.governance.propose op
      (c.timestamp + timelockDelaySeconds) admin) := by
  simp only [proposeOp, except_bind_ok, Factory.trapU64_ok, except_pure_ok, Prod.mk.injEq] at hok
  obtain ⟨_, ⟨-, rfl⟩, rfl, -⟩ := hok
  exact ⟨rfl, rfl⟩

theorem executeConfigChange_executes {opId : Nat} {s' : State}
    (hok : executeConfigChange h c net.factory opId = .ok s') :
    Executes h c net (net.withFactory s') opId := by
  simp only [executeConfigChange, except_bind_ok, requireAdmin_ok, Factory.okOr_ok,
    Factory.ensure_ok, except_pure_ok] at hok
  obtain ⟨admin, hadmin, pending, hpending, _, hdue, s₁, happly, rfl⟩ := hok
  have hcore : s₁.core = { net.factory.core with
      governance := net.factory.core.governance.apply pending.op } ∧
      ∀ bp, pending.op = .setProtocolFeeBp bp → bp ≤ maxProtocolFeeBp := by
    cases hop : pending.op with
    | setConfig key address =>
      rw [hop] at happly
      simp only [applyOp, except_bind_ok, except_pure_ok] at happly
      obtain ⟨_, -, rfl⟩ := happly
      cases key <;> exact ⟨rfl, by simp⟩
    | setProtocolFeeBp bp =>
      rw [hop] at happly
      simp only [applyOp, except_bind_ok, Factory.ensure_ok, except_pure_ok] at happly
      obtain ⟨_, hbound, rfl⟩ := happly
      exact ⟨rfl, by simpa using hbound⟩
    | updateWasmHash | approveOracle | removeOracle =>
      rw [hop] at happly
      cases happly
      exact ⟨rfl, by simp⟩
  refine ⟨admin, pending, hadmin, hpending, hdue, hcore.2, ?_, rfl⟩
  have hclose (k : Core) (hk : s₁.core = k) :
      { s₁.core with governance := s₁.core.governance.closeOp opId } =
        { k with governance := k.governance.closeOp opId } := by rw [hk]
  exact hclose _ hcore.1

/-- A raffle runs its entry point and is stored; nothing else of the system changes. -/
theorem forward_cases {target : Address} {call : Forwarded}
    (hok : forward h c net target call = .ok net') :
    (∃ entry w w', call.entry = some entry ∧ net.world target = some w ∧
      entry (h.at target) (raffleCtx c net.factory (h.self :: c.auths)) w = .ok w' ∧
      net' = net.store target w') ∨
    net.raffle target = none ∧ target ≠ h.self ∧ net' = net := by
  unfold forward at hok
  cases hw : net.world target with
  | some w =>
    simp only [hw, except_bind_ok, found_ok, trapped, except_mapError_ok, except_pure_ok] at hok
    obtain ⟨entry, hentry, w', hrun, rfl⟩ := hok
    exact .inl ⟨entry, w, w', hentry, rfl, hrun, rfl⟩
  | none =>
    simp only [hw, except_bind_ok, check_ok, except_pure_ok] at hok
    obtain ⟨_, ⟨hother, -⟩, rfl⟩ := hok
    exact .inr ⟨Option.map_eq_none_iff.mp hw, hother, rfl⟩

theorem forward_reaches {target : Address} {call : Forwarded}
    (hok : forward h c net target call = .ok net') :
    net'.factory = net.factory ∧ Reaches h c net net' target call := by
  rcases forward_cases hok with ⟨entry, w, w', hentry, hw, hrun, rfl⟩ | ⟨hnone, -, rfl⟩
  · exact ⟨rfl, .inl ⟨entry, hentry, w, w', hw, hrun, rfl⟩⟩
  · exact ⟨rfl, .inr ⟨hnone, rfl⟩⟩

theorem raffleCtx_congr {s s' : State} (hcore : s.core = s'.core) (auths : List Address) :
    raffleCtx c s auths = raffleCtx c s' auths := by
  have hpaused : isGlobalPaused s = isGlobalPaused s' :=
    congrArg (fun k : Core => k.pauses.globalEmergencyPause.getD false) hcore
  rw [raffleCtx, raffleCtx, hpaused]

theorem register_core {s s' : State} {raffle creator : Address} {category : Option Bytes}
    (hok : register h c s raffle creator category = .ok s') :
    s.totalRafflesCreated.getD 0 + 1 < 2 ^ 32 ∧
      s'.core = { s.core with registry := s.core.registry.index raffle creator category } := by
  simp only [register, except_bind_ok, Factory.trapU32_ok, except_pure_ok] at hok
  obtain ⟨count, ⟨hcount, rfl⟩, rfl⟩ := hok
  rw [maybeCreateCheckpoint_core]
  exact ⟨hcount, rfl⟩

/-- The state the creation starts from may differ outside the core. -/
theorem createRaffleInternal_creates {creator raffle : Address} {config : RaffleConfig} {s : State}
    (hcore : s.core = net.factory.core)
    (hok : createRaffleInternal h c { net with factory := s } creator config =
      .ok (net', raffle)) :
    ∃ w, Creates h c net net' creator config raffle w ∧
      net'.factory.core.schedules = net.factory.core.schedules := by
  simp only [createRaffleInternal, except_bind_ok, Factory.okOr_ok, check_ok, trapped,
    except_mapError_ok, except_pure_ok, Prod.mk.injEq] at hok
  obtain ⟨admin, hadmin, _, -, _, hunused, w, hinit, s', hregister, rfl, rfl⟩ := hok
  obtain ⟨hcount, hindex⟩ := register_core hregister
  have htotal : s.totalRafflesCreated = net.factory.totalRafflesCreated :=
    congrArg (fun k : Core => k.registry.totalRafflesCreated) hcore
  have hsame : s.admin = net.factory.admin := congrArg (fun k : Core => k.governance.admin) hcore
  rw [hcore] at hindex
  rw [htotal] at hcount
  rw [raffleCtx_congr hcore] at hinit
  have hregistry := congrArg Core.registry hindex
  have hgovernance := congrArg Core.governance hindex
  have hpauses := congrArg Core.pauses hindex
  have hschedules := congrArg Core.schedules hindex
  exact ⟨w, ⟨rfl, hunused, ⟨admin, hsame.symm.trans hadmin, hinit⟩, hcount, hregistry,
    hgovernance, hpauses, rfl⟩, hschedules⟩

theorem buildConfig_offer {builder : RaffleConfigBuilder} {built : RaffleConfig}
    (hok : buildConfig h c builder = .ok built) : SameOffer builder.config built := by
  have hoffer := SameOffer.validated (except_mapError_ok.mp hok)
  exact ⟨hoffer.description, hoffer.category, hoffer.protocolFeeBp, hoffer.treasuryAddress⟩

theorem createRaffle_creates {creator raffle : Address} {config : RaffleConfig}
    (hok : createRaffle h c net creator config = .ok (net', raffle)) :
    ∃ treasury built w,
      net.factory.paused.getD false = false ∧ net.factory.creationPaused.getD false = false ∧
      net.factory.treasury = some treasury ∧
      buildConfig h c (((RaffleConfigBuilder.fromConfig config).protocolFeeBp
        (net.factory.protocolFeeBp.getD 0)).treasuryAddress (some treasury)) = .ok built ∧
      Creates h c net net' creator built raffle w ∧
      net'.factory.core.schedules = net.factory.core.schedules := by
  simp only [createRaffle, requireFactoryNotPaused, except_bind_ok, Factory.ensure_ok,
    Factory.okOr_ok] at hok
  obtain ⟨_, -, _, hpaused, _, hcreation, s, hlimit, treasury, htreasury, built, hbuilt, _, -,
    hok⟩ := hok
  have hcore := limitCreation_core hlimit
  have hfee : s.protocolFeeBp = net.factory.protocolFeeBp :=
    congrArg (fun k : Core => k.governance.protocolFeeBp) hcore
  have hsame : s.treasury = net.factory.treasury :=
    congrArg (fun k : Core => k.governance.treasury) hcore
  obtain ⟨w, hcreates⟩ := createRaffleInternal_creates hcore hok
  rw [hfee] at hbuilt
  rw [hsame] at htreasury
  exact ⟨treasury, built, w, hpaused, hcreation, htreasury, hbuilt, hcreates⟩

theorem triggerNextRound_effect {recurringId : Nat} {result : Net × Address}
    (hok : triggerNextRound h c net recurringId = .ok result) :
    (Call.triggerNextRound recurringId).Effect h c net result.1 := by
  simp only [triggerNextRound, requireFactoryNotPaused, except_bind_ok, Factory.ensure_ok,
    Factory.okOr_ok, except_pure_ok] at hok
  obtain ⟨_, hpaused, entry, hentry, _, -, _, -, _, -, built, hbuilt, ⟨net₁, raffle⟩, hok,
    rfl⟩ := hok
  obtain ⟨w, hcreates, hschedules⟩ := createRaffleInternal_creates rfl hok
  refine ⟨entry, built, raffle, w, hpaused, hentry, hbuilt, { hcreates with }, ?_⟩
  rw [← hschedules]
  rfl

theorem cleanOldRaffle_effect {raffleId : Nat} (hok : cleanOldRaffle h c net raffleId = .ok net') :
    (Call.cleanOldRaffle raffleId).Effect h c net net' := by
  simp only [cleanOldRaffle, except_bind_ok, Factory.okOr_ok, except_pure_ok] at hok
  obtain ⟨_, -, raffle, hraffle, creator, hcreator, net₁, hforward, rfl⟩ := hok
  obtain ⟨hsame, hreaches⟩ := forward_reaches hforward
  refine ⟨raffle, creator, hraffle, hcreator, ?_, hreaches⟩
  rw [← hsame]
  rfl

theorem callRaffle_effect {raffle : Address} {call : Instance.Call}
    (hok : callRaffle h c net raffle call = .ok net') :
    (Call.raffle raffle call).Effect h c net net' := by
  simp only [callRaffle, except_bind_ok, found_ok, except_mapError_ok, except_pure_ok] at hok
  obtain ⟨w, hw, w', hinvoke, s, hanswers, rfl⟩ := hok
  exact ⟨answerAll_core hanswers, w, w', hw, hinvoke, rfl⟩

theorem setWhitelistStatus_core {s s' : State} {partner : Address} {status : Bool}
    (hok : setWhitelistStatus h c s partner status = .ok s') : s'.core = s.core := by
  simp only [setWhitelistStatus, except_bind_ok] at hok
  obtain ⟨_, -, hok⟩ := hok
  split at hok
  next =>
    split at hok <;>
    · cases hok
      rfl
  next =>
    split at hok <;>
    · cases hok
      rfl

theorem transferFactoryAdmin_core {s s' : State} {newAdmin : Address}
    (hok : transferFactoryAdmin h c s newAdmin = .ok s') :
    ∃ pending, s'.core =
      { s.core with governance := { s.core.governance with pendingAdmin := pending } } := by
  simp only [transferFactoryAdmin, except_bind_ok] at hok
  obtain ⟨_, -, hok⟩ := hok
  split at hok
  next =>
    cases hok
    exact ⟨none, rfl⟩
  next =>
    simp only [except_bind_ok, except_pure_ok] at hok
    obtain ⟨_, -, _, -, rfl⟩ := hok
    exact ⟨some newAdmin, rfl⟩

theorem invokeSigned_effect {call : Call} (hok : invokeSigned h c net call = .ok net') :
    call.Effect h c net net' := by
  cases call with
  | initFactory admin wasmHash protocolFeeBp treasury =>
    simp only [invokeSigned, except_map_ok, initFactory, except_bind_ok, Factory.ensure_ok,
      Option.isNone_iff_eq_none, except_pure_ok] at hok
    obtain ⟨_, ⟨_, hfirst, _, hfee, _, -, _, -, rfl⟩, rfl⟩ := hok
    exact ⟨hfirst, hfee, rfl, rfl⟩
  | setConfig key address =>
    simp only [invokeSigned, except_map_ok, setConfig, except_bind_ok, requireAdmin_ok] at hok
    obtain ⟨_, ⟨admin, hadmin, _, -, hpropose⟩, rfl⟩ := hok
    exact ⟨admin, hadmin, proposeOp_writes hpropose⟩
  | proposeFeeChange protocolFeeBp =>
    simp only [invokeSigned, except_map_ok, proposeFeeChange, except_bind_ok, requireAdmin_ok]
      at hok
    obtain ⟨_, ⟨admin, hadmin, _, -, hpropose⟩, rfl⟩ := hok
    exact ⟨admin, hadmin, proposeOp_writes hpropose⟩
  | proposeWasmUpgrade newWasmHash =>
    simp only [invokeSigned, except_map_ok, proposeWasmUpgrade, except_bind_ok, requireAdmin_ok]
      at hok
    obtain ⟨_, ⟨admin, hadmin, hpropose⟩, rfl⟩ := hok
    exact ⟨admin, hadmin, proposeOp_writes hpropose⟩
  | executeConfigChange opId =>
    simp only [invokeSigned, except_map_ok] at hok
    obtain ⟨s', hexecute, rfl⟩ := hok
    exact executeConfigChange_executes hexecute
  | cancelConfigChange opId =>
    simp only [invokeSigned, except_map_ok, cancelConfigChange, except_bind_ok, except_pure_ok]
      at hok
    obtain ⟨_, ⟨_, -, _, -, rfl⟩, rfl⟩ := hok
    exact ⟨rfl, rfl⟩
  | pauseFactory | unpauseFactory =>
    simp only [invokeSigned, except_map_ok, pauseFactory, unpauseFactory, setFactoryPaused,
      except_bind_ok, except_pure_ok] at hok
    obtain ⟨_, ⟨_, -, rfl⟩, rfl⟩ := hok
    exact ⟨rfl, rfl⟩
  | setCreationPaused paused =>
    simp only [invokeSigned, except_map_ok, setCreationPaused, except_bind_ok, except_pure_ok]
      at hok
    obtain ⟨_, ⟨_, -, rfl⟩, rfl⟩ := hok
    exact ⟨rfl, rfl⟩
  | emergencyPauseAll | emergencyUnpauseAll =>
    simp only [invokeSigned, except_map_ok, emergencyPauseAll, emergencyUnpauseAll,
      setGlobalEmergencyPause, except_bind_ok, except_pure_ok] at hok
    obtain ⟨_, ⟨_, -, rfl⟩, rfl⟩ := hok
    exact ⟨rfl, rfl⟩
  | transferFactoryAdmin newAdmin =>
    simp only [invokeSigned, except_map_ok] at hok
    obtain ⟨s', htransfer, rfl⟩ := hok
    obtain ⟨pending, hcore⟩ := transferFactoryAdmin_core htransfer
    exact ⟨pending, hcore, rfl⟩
  | acceptFactoryAdmin =>
    simp only [invokeSigned, except_map_ok, acceptFactoryAdmin, except_bind_ok, except_pure_ok]
      at hok
    obtain ⟨_, ⟨admin, -, _, -, _, -, rfl⟩, rfl⟩ := hok
    exact ⟨admin, rfl, rfl⟩
  | setWhitelistStatus partner status =>
    simp only [invokeSigned, except_map_ok] at hok
    obtain ⟨s', hstatus, rfl⟩ := hok
    exact ⟨setWhitelistStatus_core hstatus, rfl⟩
  | setCreationDelay | upgrade | setVerified =>
    simp only [invokeSigned, except_map_ok, setCreationDelay, upgrade, setVerified, except_bind_ok,
      except_pure_ok] at hok
    obtain ⟨_, ⟨_, -, rfl⟩, rfl⟩ := hok
    exact ⟨rfl, rfl⟩
  | setProfileName =>
    simp only [invokeSigned, except_map_ok, setProfileName, except_bind_ok, except_pure_ok] at hok
    obtain ⟨_, ⟨_, -, _, -, rfl⟩, rfl⟩ := hok
    exact ⟨rfl, rfl⟩
  | createRaffle creator config =>
    simp only [invokeSigned, except_map_ok] at hok
    obtain ⟨⟨_, raffle⟩, hcreate, rfl⟩ := hok
    obtain ⟨treasury, built, w, hcreates⟩ := createRaffle_creates hcreate
    exact ⟨treasury, built, raffle, w, hcreates⟩
  | createRecurringRaffle creator config =>
    simp only [invokeSigned, except_map_ok, createRecurringRaffle, except_bind_ok, except_pure_ok]
      at hok
    obtain ⟨_, ⟨_, -, _, -, _, -, _, -, rfl⟩, rfl⟩ := hok
    exact ⟨_, rfl, rfl⟩
  | triggerNextRound recurringId =>
    simp only [invokeSigned, except_map_ok] at hok
    obtain ⟨result, htrigger, rfl⟩ := hok
    exact triggerNextRound_effect htrigger
  | cancelRecurringRaffle recurringId caller =>
    simp only [invokeSigned, except_map_ok, cancelRecurringRaffle, except_bind_ok, Factory.okOr_ok,
      except_pure_ok] at hok
    obtain ⟨_, ⟨entry, hentry, _, -, _, -, rfl⟩, rfl⟩ := hok
    exact ⟨entry, hentry, rfl, rfl⟩
  | cleanOldRaffle raffleId => exact cleanOldRaffle_effect hok
  | pauseInstance raffle | unpauseInstance raffle =>
    simp only [invokeSigned, pauseInstance, unpauseInstance, except_bind_ok] at hok
    obtain ⟨_, -, hforward⟩ := hok
    obtain ⟨hsame, hreaches⟩ := forward_reaches hforward
    exact ⟨congrArg State.core hsame, hreaches⟩
  | syncAdmin raffle =>
    simp only [invokeSigned, syncAdmin, except_bind_ok] at hok
    obtain ⟨admin, -, hforward⟩ := hok
    obtain ⟨hsame, hreaches⟩ := forward_reaches hforward
    exact ⟨admin, congrArg State.core hsame, hreaches⟩
  | rescueTokens token recipient amount =>
    simp only [invokeSigned, rescueTokens, except_bind_ok, except_pure_ok] at hok
    obtain ⟨_, -, _, -, _, -, rfl⟩ := hok
    exact ⟨rfl, rfl⟩
  | report caller notice =>
    simp only [invokeSigned, except_map_ok, report, except_bind_ok] at hok
    obtain ⟨s', ⟨_, -, hanswer⟩, rfl⟩ := hok
    exact ⟨answer_core hanswer, rfl⟩
  | raffle raffle call => exact callRaffle_effect hok

theorem invoke_effect {i : Invocation} (hok : invoke h i net = .ok net') :
    i.call.Effect h (net.signed h i.ctx) net net' :=
  invokeSigned_effect hok

end Calls

def Call.governs : Call → Bool
  | .initFactory .. | .setConfig .. | .proposeFeeChange _ | .proposeWasmUpgrade _
  | .executeConfigChange _ | .cancelConfigChange _ | .transferFactoryAdmin _
  | .acceptFactoryAdmin => true
  | _ => false

def Call.switches : Call → Bool
  | .pauseFactory | .unpauseFactory | .setCreationPaused _ | .emergencyPauseAll _
  | .emergencyUnpauseAll => true
  | _ => false

def Call.creates : Call → Bool
  | .createRaffle .. | .triggerNextRound _ => true
  | _ => false

def Call.cleans : Call → Bool
  | .cleanOldRaffle _ => true
  | _ => false

def Call.plans : Call → Bool
  | .createRecurringRaffle .. | .triggerNextRound _ | .cancelRecurringRaffle .. => true
  | _ => false

/-- Each part of the core changes only in the calls that are for it. -/
structure Frame (call : Call) (k k' : Core) : Prop where
  governance : call.governs = false → k'.governance = k.governance
  pauses : call.switches = false → k'.pauses = k.pauses
  registry : call.creates = false → call.cleans = false → k'.registry = k.registry
  schedules : call.plans = false → k'.schedules = k.schedules

namespace Frame

variable {call : Call} {k k' : Core}

theorem same (hk : k' = k) : Frame call k k' := by
  subst hk
  exact ⟨fun _ => rfl, fun _ => rfl, fun _ _ => rfl, fun _ => rfl⟩

theorem governed {g : Governance} (hc : call.governs = true)
    (hk : k' = { k with governance := g }) : Frame call k k' := by
  subst hk
  exact ⟨fun hnot => absurd hc (by simp [hnot]), fun _ => rfl, fun _ _ => rfl, fun _ => rfl⟩

theorem switched {p : Pauses} (hc : call.switches = true) (hk : k' = { k with pauses := p }) :
    Frame call k k' := by
  subst hk
  exact ⟨fun _ => rfl, fun hnot => absurd hc (by simp [hnot]), fun _ _ => rfl, fun _ => rfl⟩

theorem planned {t : Schedules} (hc : call.plans = true) (hk : k' = { k with schedules := t }) :
    Frame call k k' := by
  subst hk
  exact ⟨fun _ => rfl, fun _ => rfl, fun _ _ => rfl, fun hnot => absurd hc (by simp [hnot])⟩

theorem cleaned {r : Registry} (hc : call.cleans = true) (hk : k' = { k with registry := r }) :
    Frame call k k' := by
  subst hk
  exact ⟨fun _ => rfl, fun _ => rfl, fun _ hnot => absurd hc (by simp [hnot]), fun _ => rfl⟩

end Frame

theorem Creates.frame {h : Host} {c : Ctx} {net net' : Net} {creator raffle : Address}
    {config : RaffleConfig} {w : World} {call : Call}
    (hcreates : Creates h c net net' creator config raffle w) (hc : call.creates = true)
    (hplans : call.plans = false → net'.factory.core.schedules = net.factory.core.schedules) :
    Frame call net.factory.core net'.factory.core :=
  ⟨fun _ => hcreates.governance, fun _ => hcreates.pauses,
    fun hnot _ => absurd hc (by simp [hnot]), hplans⟩

theorem Call.Effect.frame {h : Host} {c : Ctx} {net net' : Net} {call : Call}
    (he : call.Effect h c net net') : Frame call net.factory.core net'.factory.core := by
  cases call with
  | initFactory => exact .governed rfl he.2.2.core
  | setConfig | proposeFeeChange | proposeWasmUpgrade =>
    obtain ⟨_, -, hgoverns⟩ := he
    exact .governed rfl hgoverns.core
  | executeConfigChange =>
    obtain ⟨_, _, -, -, -, -, hgoverns⟩ := he
    exact .governed rfl hgoverns.core
  | cancelConfigChange => exact .governed rfl he.core
  | transferFactoryAdmin | acceptFactoryAdmin =>
    obtain ⟨_, hgoverns⟩ := he
    exact .governed rfl hgoverns.core
  | pauseFactory | unpauseFactory | setCreationPaused | emergencyPauseAll | emergencyUnpauseAll =>
    exact .switched rfl he.core
  | createRaffle =>
    obtain ⟨_, _, _, _, -, -, -, -, hcreates, hschedules⟩ := he
    exact hcreates.frame rfl fun _ => hschedules
  | triggerNextRound =>
    obtain ⟨_, _, _, _, -, -, -, hcreates, -⟩ := he
    exact hcreates.frame rfl fun hnot => by cases hnot
  | createRecurringRaffle =>
    obtain ⟨_, hplans⟩ := he
    exact .planned rfl hplans.core
  | cancelRecurringRaffle =>
    obtain ⟨_, -, hplans⟩ := he
    exact .planned rfl hplans.core
  | cleanOldRaffle =>
    obtain ⟨_, _, -, -, hcore, -⟩ := he
    exact .cleaned rfl hcore
  | pauseInstance | unpauseInstance | raffle => exact .same he.1
  | syncAdmin =>
    obtain ⟨_, hcore, -⟩ := he
    exact .same hcore
  | setCreationDelay | setWhitelistStatus | upgrade | setProfileName | setVerified | rescueTokens
  | report => exact .same he.core

end TikkaRaffle.Factory
