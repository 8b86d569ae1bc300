import TikkaRaffle.Factory.State

/-! Administration of the factory: initialisation, timelocked changes, the
pause flags, the two-step admin transfer, the whitelist, and profiles. None of
these calls a raffle. -/
namespace TikkaRaffle.Factory

open TikkaRaffle.Lib Constants Function

def requireAdmin (h : Host) (c : Ctx) (s : State) : Result Address := do
  let admin ← okOr s.admin .notAuthorized
  requireAuth h c admin
  return admin

def requireFactoryNotPaused (s : State) : Result Unit :=
  ensure (s.paused.getD false = false) .contractPaused

/-- Neither an address unknown to the ledger nor the factory itself. -/
def requireValidRoleAddress (h : Host) (c : Ctx) (address : Address) : Result Unit := do
  ensure (c.existing address = true) .invalidParameters
  ensure (address ≠ h.self) .invalidParameters

def initFactory (h : Host) (c : Ctx) (s : State) (admin : Address) (wasmHash : Digest)
    (protocolFeeBp : Nat) (treasury : Address) : Result State := do
  ensure (s.initialized.isNone) .alreadyInitialized
  ensure (protocolFeeBp ≤ maxProtocolFeeBp) .invalidParameters
  requireValidRoleAddress h c admin
  requireValidRoleAddress h c treasury
  return emit { s with
    admin := some admin
    instanceWasmHash := some wasmHash
    protocolFeeBp := some protocolFeeBp
    treasury := some treasury
    initialized := some true }
    (.factoryInitialized admin protocolFeeBp treasury c.timestamp)

def proposeOp (c : Ctx) (s : State) (admin : Address) (op : AdminOp) : Result (State × Nat) := do
  let opId := saturateU32 (s.opCounter.getD 0 + 1)
  let effectiveTimestamp ← trapU64 (c.timestamp + timelockDelaySeconds)
  let s := { s with
    opCounter := some opId
    pendingOp := update s.pendingOp opId (some ⟨op, effectiveTimestamp, admin⟩) }
  return (emit s (.adminOpProposed opId op effectiveTimestamp admin), opId)

def setConfig (h : Host) (c : Ctx) (s : State) (key : ConfigKey) (address : Address) :
    Result (State × Nat) := do
  let admin ← requireAdmin h c s
  requireValidRoleAddress h c address
  proposeOp c s admin (.setConfig key address)

def proposeFeeChange (h : Host) (c : Ctx) (s : State) (protocolFeeBp : Nat) :
    Result (State × Nat) := do
  let admin ← requireAdmin h c s
  ensure (protocolFeeBp ≤ maxProtocolFeeBp) .invalidParameters
  proposeOp c s admin (.setProtocolFeeBp protocolFeeBp)

def proposeWasmUpgrade (h : Host) (c : Ctx) (s : State) (newWasmHash : Digest) :
    Result (State × Nat) := do
  let admin ← requireAdmin h c s
  proposeOp c s admin (.updateWasmHash newWasmHash)

/-- The oracle and router keys are placeholders. -/
def applyConfig (s : State) (address : Address) : ConfigKey → State
  | .treasury => { s with treasury := some address }
  | .oracle | .swapRouter => s

def applyOp (h : Host) (c : Ctx) (s : State) (admin : Address) : AdminOp → Result State
  | .setConfig key address => do
      requireValidRoleAddress h c address
      return applyConfig s address key
  | .setProtocolFeeBp protocolFeeBp => do
      ensure (protocolFeeBp ≤ maxProtocolFeeBp) .invalidParameters
      return { s with protocolFeeBp := some protocolFeeBp }
  | .updateWasmHash newHash => .ok { s with instanceWasmHash := some newHash }
  | .approveOracle oracle =>
      .ok (emit { s with approvedOracle := update s.approvedOracle oracle (some true) }
        (.oracleApproved oracle admin c.timestamp))
  | .removeOracle oracle =>
      .ok (emit { s with approvedOracle := update s.approvedOracle oracle none }
        (.oracleRemoved oracle admin c.timestamp))

def executeConfigChange (h : Host) (c : Ctx) (s : State) (opId : Nat) : Result State := do
  let admin ← requireAdmin h c s
  let pending ← okOr (s.pendingOp opId) .noPendingOp
  ensure (pending.effectiveTimestamp ≤ c.timestamp) .timelockNotElapsed
  let s ← applyOp h c s admin pending.op
  return emit { s with pendingOp := update s.pendingOp opId none }
    (.adminOpExecuted opId pending.op admin c.timestamp)

def cancelConfigChange (h : Host) (c : Ctx) (s : State) (opId : Nat) : Result State := do
  let admin ← requireAdmin h c s
  ensure ((s.pendingOp opId).isSome) .noPendingOp
  return emit { s with pendingOp := update s.pendingOp opId none }
    (.adminOpCancelled opId admin c.timestamp)

/-- The body of `pause_factory` and `unpause_factory`. -/
def setFactoryPaused (h : Host) (c : Ctx) (s : State) (paused : Bool)
    (published : Address → Event) : Result State := do
  let admin ← requireAdmin h c s
  return emit { s with paused := some paused } (published admin)

def pauseFactory (h : Host) (c : Ctx) (s : State) : Result State :=
  setFactoryPaused h c s true fun admin => .contractPaused admin c.timestamp

def unpauseFactory (h : Host) (c : Ctx) (s : State) : Result State :=
  setFactoryPaused h c s false fun admin => .contractUnpaused admin c.timestamp

def setCreationPaused (h : Host) (c : Ctx) (s : State) (paused : Bool) : Result State := do
  let admin ← requireAdmin h c s
  return emit { s with creationPaused := some paused }
    (if paused then .creationPaused admin c.timestamp else .creationUnpaused admin c.timestamp)

/-- The body of `emergency_pause_all` and `emergency_unpause_all`. -/
def setGlobalEmergencyPause (h : Host) (c : Ctx) (s : State) (paused : Bool)
    (published : Address → Event) : Result State := do
  let admin ← requireAdmin h c s
  return emit { s with globalEmergencyPause := some paused } (published admin)

def emergencyPauseAll (h : Host) (c : Ctx) (s : State) (reason : Bytes) : Result State :=
  setGlobalEmergencyPause h c s true fun admin => .globalEmergencyPaused admin reason c.timestamp

def emergencyUnpauseAll (h : Host) (c : Ctx) (s : State) : Result State :=
  setGlobalEmergencyPause h c s false fun admin => .globalEmergencyUnpaused admin c.timestamp

def isGlobalPaused (s : State) : Bool := s.globalEmergencyPause.getD false

/-- Proposing the current admin withdraws an open proposal. -/
def transferFactoryAdmin (h : Host) (c : Ctx) (s : State) (newAdmin : Address) :
    Result State := do
  let admin ← requireAdmin h c s
  if newAdmin = admin then
    return { s with pendingAdmin := none }
  else
    requireValidRoleAddress h c newAdmin
    ensure (s.pendingAdmin.isNone) .adminTransferPending
    return emit { s with pendingAdmin := some newAdmin }
      (.adminTransferProposed admin newAdmin c.timestamp)

def acceptFactoryAdmin (h : Host) (c : Ctx) (s : State) : Result State := do
  let pending ← okOr s.pendingAdmin .noPendingTransfer
  requireAuth h c pending
  let oldAdmin ← okOr s.admin .notAuthorized
  return emit { s with admin := some pending, pendingAdmin := none }
    (.adminTransferAccepted oldAdmin pending c.timestamp)

def setCreationDelay (h : Host) (c : Ctx) (s : State) (delaySeconds : Nat) : Result State := do
  let _ ← requireAdmin h c s
  return { s with minCreationDelay := some delaySeconds }

def setWhitelistStatus (h : Host) (c : Ctx) (s : State) (partner : Address) (status : Bool) :
    Result State := do
  let _ ← requireAdmin h c s
  let partners := s.partnersList.getD []
  let s := { s with whitelistedPartner := update s.whitelistedPartner partner (some status) }
  if status then
    if partner ∈ partners then return s
    else return { s with partnersList := some (partners ++ [partner]) }
  else if partner ∈ partners then return { s with partnersList := some (partners.erase partner) }
  else return s

/-- The code that runs afterwards is not part of the state: the factory is taken to
keep the code modelled here. -/
def upgrade (h : Host) (c : Ctx) (s : State) (newWasmHash : Digest) : Result State := do
  let admin ← requireAdmin h c s
  return emit s (.factoryUpgraded admin newWasmHash c.timestamp)

def profileOf (s : State) (creator : Address) : CreatorProfile :=
  (s.creatorProfile creator).getD ⟨[], false, 0⟩

def setProfileName (h : Host) (c : Ctx) (s : State) (creator : Address) (name : Bytes) :
    Result State := do
  requireAuth h c creator
  ensure (name.length ≤ maxDescriptionLength) .invalidParameters
  let profile := { profileOf s creator with name := name }
  return emit { s with creatorProfile := update s.creatorProfile creator (some profile) }
    (.profileNameSet creator name c.timestamp)

def setVerified (h : Host) (c : Ctx) (s : State) (creator : Address) (verified : Bool) :
    Result State := do
  let admin ← requireAdmin h c s
  let profile := { profileOf s creator with verified := verified }
  return emit { s with creatorProfile := update s.creatorProfile creator (some profile) }
    (.verifiedStatusSet creator verified admin c.timestamp)

end TikkaRaffle.Factory
