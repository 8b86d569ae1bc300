import TikkaRaffle.Factory.Bookkeeping

/-! Raffles as the factory sees them: deployment and registration, recurring
schedules, the cleanup of settled raffles, and the calls it forwards. -/
namespace TikkaRaffle.Factory

open TikkaRaffle.Lib TikkaRaffle.Instance Constants Function

def trapped {α : Type} (value : Instance.Result α) : Result α := value.mapError fun _ => .trap

/-- The context of a raffle called in this transaction. The reports it makes
are taken as answered here and replayed on the factory afterwards. -/
def raffleCtx (c : Ctx) (s : State) (auths : List Address) : Instance.Ctx where
  timestamp := c.timestamp
  sequence := c.sequence
  auths := auths
  factory := ⟨some (isGlobalPaused s), true, true, true⟩

def Net.world (net : Net) (raffle : Address) : Option World :=
  (net.raffle raffle).map fun w => { w with balance := net.balance }

def Net.store (net : Net) (raffle : Address) (w : World) : Net :=
  { net with
    raffle := update net.raffle raffle (some w)
    balance := w.balance }

/-- The entry point of a raffle for such a call. Its `set_admin` is internal to the
crate: the contract does not export it. -/
def Forwarded.entry : Forwarded →
    Option (Instance.Host → Instance.Ctx → World → Instance.Result World)
  | .pause => some Instance.pause
  | .unpause => some Instance.unpause
  | .wipeStorage => some Instance.wipeStorage
  | .setAdmin _ => none

/-- The factory calls a contract as its direct invoker. It cannot be entered again
itself; what an outside contract does when called is a call of its own. -/
def forward (h : Host) (c : Ctx) (net : Net) (target : Address) (call : Forwarded) :
    Result Net :=
  match net.world target with
  | some w => do
      let entry ← found call.entry .trap
      let w ← trapped (entry (h.at target) (raffleCtx c net.factory (h.self :: c.auths)) w)
      return net.store target w
  | none => do
      check (target ≠ h.self ∧ c.accepts target call = true) .trap
      return net

def computeRaffleSalt (h : Host) (creator : Address) (nonce : Nat) : Digest :=
  h.sha256 (h.toXdr (.tuple [.address creator, .u64 nonce]))

def deploymentSalt (h : Host) (creator : Address) (description : Bytes) : Digest :=
  h.sha256 (h.toXdr (.tuple [.address creator, .string description]))

def predictRaffleAddress (h : Host) (creator : Address) (nonce : Nat) : Address :=
  h.deployedAddress h.self (computeRaffleSalt h creator nonce)

def raffleAddress (h : Host) (creator : Address) (description : Bytes) : Address :=
  h.deployedAddress h.self (deploymentSalt h creator description)

def addressInUse (h : Host) (net : Net) (a : Address) : Prop :=
  a = h.self ∨ (net.raffle a).isSome = true

instance (h : Host) (net : Net) (a : Address) : Decidable (addressInUse h net a) :=
  inferInstanceAs (Decidable (_ ∨ _))

def toBeBytes (width value : Nat) : Bytes :=
  (List.range width).reverse.map fun i => UInt8.ofNat (value / 256 ^ i)

def maybeCreateCheckpoint (h : Host) (c : Ctx) (s : State) (raffleCount : Nat) : State :=
  if raffleCount = 0 ∨ raffleCount % checkpointInterval ≠ 0 then s
  else
    let index := raffleCount / checkpointInterval
    let aggregateHash := h.sha256
      (toBeBytes 4 raffleCount ++ toBeBytes 4 c.sequence ++ toBeBytes 8 c.timestamp)
    emit { s with
      checkpoint := update s.checkpoint index
        (some ⟨index, raffleCount, c.timestamp, aggregateHash⟩)
      latestCheckpointIndex := some index }
      (.checkpointCreated index raffleCount c.timestamp aggregateHash)

/-- The indexes a new raffle is entered into. Its creator and category are not
stored under its identifier. -/
def indexRaffle (s : State) (raffle creator : Address) (category : Option Bytes) : State :=
  let stableId := s.nextRaffleId.getD 0
  { s with
    raffleById := update s.raffleById stableId (some raffle)
    isFactoryRaffle := update s.isFactoryRaffle raffle (some true)
    nextRaffleId := some (Factory.saturateU32 (stableId + 1))
    validRaffle := update s.validRaffle raffle (some true)
    creatorRaffles := update s.creatorRaffles creator
      (some ((s.creatorRaffles creator).getD [] ++ [raffle]))
    categoryRaffles := match category with
      | some category => update s.categoryRaffles category
          (some ((s.categoryRaffles category).getD [] ++ [raffle]))
      | none => s.categoryRaffles
    raffleCount := some (Factory.saturateU32 (s.raffleCount.getD 0 + 1)) }

def register (h : Host) (c : Ctx) (s : State) (raffle creator : Address)
    (category : Option Bytes) : Result State := do
  let s := indexRaffle s raffle creator category
  let count ← Factory.trapU32 (s.totalRafflesCreated.getD 0 + 1)
  return maybeCreateCheckpoint h c { s with totalRafflesCreated := some count } count

/-- The stored hash stands for the code of a raffle instance, so its value only
matters in being there: whatever is deployed runs the entry points modelled here. -/
def createRaffleInternal (h : Host) (c : Ctx) (net : Net) (creator : Address)
    (config : RaffleConfig) : Result (Net × Address) := do
  let admin ← okOr net.factory.admin .notAuthorized
  let _ ← okOr net.factory.instanceWasmHash .invalidParameters
  let raffle := raffleAddress h creator config.description
  check (¬addressInUse h net raffle) .trap
  let w ← trapped (init (h.at raffle) (raffleCtx c net.factory (h.self :: c.auths))
    { World.deployed (fun _ _ => 0) with balance := net.balance } h.self admin creator config)
  let s ← register h c net.factory raffle creator config.category
  return ({ net.store raffle w with factory := s }, raffle)

def buildConfig (h : Host) (c : Ctx) (builder : RaffleConfigBuilder) : Result RaffleConfig :=
  (builder.build c.timestamp h.tokenValid).mapError fun _ => .err .invalidParameters

/-- Creators that are not whitelisted wait between two creations. -/
def limitCreation (c : Ctx) (s : State) (creator : Address) : Result State :=
  if (s.whitelistedPartner creator).getD false then .ok s
  else do
    let unlock ← Factory.trapU64
      ((s.lastCreationTime creator).getD 0 + s.minCreationDelay.getD 300)
    ensure (unlock ≤ c.timestamp) .rateLimitExceeded
    return { s with lastCreationTime := update s.lastCreationTime creator (some c.timestamp) }

/-- The submitted fee and treasury are replaced by the factory's. -/
def createRaffle (h : Host) (c : Ctx) (net : Net) (creator : Address) (config : RaffleConfig) :
    Result (Net × Address) := do
  requireAuth h c creator
  requireFactoryNotPaused net.factory
  ensure (net.factory.creationPaused.getD false = false) .creationPaused
  let s ← limitCreation c net.factory creator
  let protocolFeeBp := s.protocolFeeBp.getD 0
  let treasury ← okOr s.treasury .treasuryNotSet
  let config ← buildConfig h c (((RaffleConfigBuilder.fromConfig config).protocolFeeBp
    protocolFeeBp).treasuryAddress (some treasury))
  ensure (exceedsInternalRandomnessCap config.randomnessSource config.prizeAmount = false)
    .randomnessSourceTooWeakForPrize
  createRaffleInternal h c { net with factory := s } creator config

def createRecurringRaffle (h : Host) (c : Ctx) (s : State) (creator : Address)
    (config : RecurringRaffleConfig) : Result (State × Nat) := do
  requireAuth h c creator
  requireFactoryNotPaused s
  ensure (minRecurringIntervalSeconds ≤ config.intervalSeconds ∧
    config.intervalSeconds ≤ maxRecurringIntervalSeconds) .invalidParameters
  ensure (¬(config.maxRounds = 0 ∧ config.autoFund = true)) .invalidParameters
  let recurringId := s.nextRecurringId.getD 0
  let nextDue := saturateU64 (c.timestamp + config.intervalSeconds)
  let s := { s with
    recurringRaffle := update s.recurringRaffle recurringId
      (some ⟨creator, config, nextDue, 0, true, none⟩)
    nextRecurringId := some (Factory.saturateU32 (recurringId + 1))
    recurringRaffleInstances := update s.recurringRaffleInstances recurringId (some []) }
  return (emit s (.recurringRaffleCreated recurringId creator config.intervalSeconds
    config.maxRounds config.autoFund nextDue c.timestamp), recurringId)

def RecurringRaffleEntry.advance (entry : RecurringRaffleEntry) (now : Nat) (raffle : Address) :
    RecurringRaffleEntry :=
  { entry with
    currentRound := Factory.saturateU32 (entry.currentRound + 1)
    nextDue := saturateU64 (now + entry.config.intervalSeconds)
    lastRaffleAddress := some raffle }

def recordRound (c : Ctx) (s : State) (recurringId : Nat) (entry : RecurringRaffleEntry)
    (raffle : Address) : State :=
  let instances := (s.recurringRaffleInstances recurringId).getD []
  emit { s with
    recurringRaffleInstances := update s.recurringRaffleInstances recurringId
      (some (instances ++ [raffle]))
    recurringRaffle := update s.recurringRaffle recurringId (some entry) }
    (.recurringRoundTriggered recurringId entry.currentRound raffle entry.nextDue c.timestamp)

/-- The template is used as it was submitted. -/
def triggerNextRound (h : Host) (c : Ctx) (net : Net) (recurringId : Nat) :
    Result (Net × Address) := do
  requireFactoryNotPaused net.factory
  let entry ← okOr (net.factory.recurringRaffle recurringId) .recurringNotFound
  ensure (entry.active = true) .recurringInactive
  ensure (entry.nextDue ≤ c.timestamp) .intervalNotElapsed
  ensure (¬(0 < entry.config.maxRounds ∧ entry.config.maxRounds ≤ entry.currentRound))
    .maxRoundsReached
  let config ← buildConfig h c (RaffleConfigBuilder.fromConfig entry.config.baseConfig)
  let (net, raffle) ← createRaffleInternal h c net entry.creator config
  return ({ net with
    factory := recordRound c net.factory recurringId (entry.advance c.timestamp raffle) raffle },
    raffle)

/-- Someone other than the creator must be the admin. -/
def requireScheduleOwner (h : Host) (c : Ctx) (s : State) (creator caller : Address) :
    Result Unit :=
  if caller = creator then .ok ()
  else do
    let admin ← requireAdmin h c s
    ensure (caller = admin) .notAuthorized

def cancelRecurringRaffle (h : Host) (c : Ctx) (s : State) (recurringId : Nat)
    (caller : Address) : Result State := do
  let entry ← okOr (s.recurringRaffle recurringId) .recurringNotFound
  requireScheduleOwner h c s entry.creator caller
  requireAuth h c caller
  return emit { s with
    recurringRaffle := update s.recurringRaffle recurringId (some { entry with active := false }) }
    (.recurringRaffleCancelled recurringId caller entry.currentRound c.timestamp)

/-- An index without the raffle; an index left empty is removed. -/
def prune (index : Option (List Address)) (raffle : Address) : Option (List Address) :=
  match index with
  | some raffles =>
      let kept := raffles.filter (· ≠ raffle)
      if kept = [] then none else some kept
  | none => none

def unindexRaffle (s : State) (raffleId : Nat) (raffle creator : Address)
    (category : Option Bytes) : State :=
  { s with
    raffleById := update s.raffleById raffleId none
    raffleCreator := update s.raffleCreator raffleId none
    raffleCategory := if category.isSome then update s.raffleCategory raffleId none
      else s.raffleCategory
    creatorRaffles := update s.creatorRaffles creator (prune (s.creatorRaffles creator) raffle)
    categoryRaffles := match category with
      | some category =>
          update s.categoryRaffles category (prune (s.categoryRaffles category) raffle)
      | none => s.categoryRaffles
    raffleCount := some (s.raffleCount.getD 0 - 1) }

def cleanOldRaffle (h : Host) (c : Ctx) (net : Net) (raffleId : Nat) : Result Net := do
  let admin ← requireAdmin h c net.factory
  let raffle ← okOr (net.factory.raffleById raffleId) .invalidRaffleId
  let creator ← okOr (net.factory.raffleCreator raffleId) .invalidRaffleId
  let category := net.factory.raffleCategory raffleId
  let net ← forward h c net raffle .wipeStorage
  return { net with
    factory := emit (unindexRaffle net.factory raffleId raffle creator category)
      (.raffleCleanedUp raffle admin 0 c.timestamp) }

def pauseInstance (h : Host) (c : Ctx) (net : Net) (raffle : Address) : Result Net := do
  let _ ← requireAdmin h c net.factory
  forward h c net raffle .pause

def unpauseInstance (h : Host) (c : Ctx) (net : Net) (raffle : Address) : Result Net := do
  let _ ← requireAdmin h c net.factory
  forward h c net raffle .unpause

def syncAdmin (h : Host) (c : Ctx) (net : Net) (raffle : Address) : Result Net := do
  let admin ← requireAdmin h c net.factory
  forward h c net raffle (.setAdmin admin)

def rescueTokens (h : Host) (c : Ctx) (net : Net) (token recipient : Address) (amount : Int) :
    Result Net := do
  let admin ← requireAdmin h c net.factory
  ensure (0 < amount) .invalidParameters
  ensure (amount ≤ net.balance token h.self) .invalidParameters
  return { net with
    balance := moveBalance net.balance token h.self recipient amount
    factory := emit net.factory
      (.factoryTokensRescued admin token recipient amount c.timestamp) }

end TikkaRaffle.Factory
