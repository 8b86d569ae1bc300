import TikkaRaffle.Factory.Raffles
import Mathlib.Data.Nat.Digits.Defs

/-! The factory and its raffles as one machine. A run starts from an accepted
`init_factory` and takes calls of the factory and of the deployed raffles in any
order, from any callers, at any times. -/
namespace TikkaRaffle.Factory

open TikkaRaffle.Lib TikkaRaffle.Instance

inductive Call where
  | initFactory (admin : Address) (wasmHash : Digest) (protocolFeeBp : Nat) (treasury : Address)
  | setConfig (key : ConfigKey) (address : Address)
  | proposeFeeChange (protocolFeeBp : Nat)
  | proposeWasmUpgrade (newWasmHash : Digest)
  | executeConfigChange (opId : Nat)
  | cancelConfigChange (opId : Nat)
  | pauseFactory
  | unpauseFactory
  | setCreationPaused (paused : Bool)
  | emergencyPauseAll (reason : Bytes)
  | emergencyUnpauseAll
  | transferFactoryAdmin (newAdmin : Address)
  | acceptFactoryAdmin
  | setCreationDelay (delaySeconds : Nat)
  | setWhitelistStatus (partner : Address) (status : Bool)
  | upgrade (newWasmHash : Digest)
  | setProfileName (creator : Address) (name : Bytes)
  | setVerified (creator : Address) (verified : Bool)
  | createRaffle (creator : Address) (config : RaffleConfig)
  | createRecurringRaffle (creator : Address) (config : RecurringRaffleConfig)
  | triggerNextRound (recurringId : Nat)
  | cancelRecurringRaffle (recurringId : Nat) (caller : Address)
  | cleanOldRaffle (raffleId : Nat)
  | pauseInstance (raffle : Address)
  | unpauseInstance (raffle : Address)
  | syncAdmin (raffle : Address)
  | rescueTokens (token recipient : Address) (amount : Int)
  /-- A report from a contract the factory has not deployed. -/
  | report (caller : Address) (notice : FactoryCall)
  /-- A call of the raffle at an address. -/
  | raffle (raffle : Address) (call : Instance.Call)

structure Invocation where
  ctx : Ctx
  call : Call

/-- A contract of the system signs nothing. -/
def Net.signed (h : Host) (net : Net) (c : Ctx) : Ctx :=
  { c with auths := c.auths.filter fun a => a ≠ h.self ∧ net.raffle a = none }

/-- An outside contract reports on its own behalf. -/
def report (h : Host) (c : Ctx) (net : Net) (caller : Address) (notice : FactoryCall) :
    Result State := do
  check (net.raffle caller = none) .trap
  answer h c caller net.factory notice

/-- The raffle runs first; what it reports is then answered by the factory, and
one refusal undoes the call. -/
def callRaffle (h : Host) (c : Ctx) (net : Net) (raffle : Address) (call : Instance.Call) :
    Result Net := do
  let w ← found (net.world raffle) .trap
  let w' ← (Instance.invoke (h.at raffle) ⟨raffleCtx c net.factory c.auths, call⟩ w).mapError
    .raffle
  let s ← answerAll h c raffle net.factory (w'.factoryCalls.drop w.factoryCalls.length)
  return { net.store raffle w' with factory := s }

def Net.withFactory (net : Net) (s : State) : Net := { net with factory := s }

/-- What a call leaves behind; returned values are dropped. -/
def invokeSigned (h : Host) (c : Ctx) (net : Net) : Call → Result Net
  | .initFactory admin wasmHash protocolFeeBp treasury =>
      net.withFactory <$> initFactory h c net.factory admin wasmHash protocolFeeBp treasury
  | .setConfig key address =>
      (net.withFactory ·.1) <$> setConfig h c net.factory key address
  | .proposeFeeChange protocolFeeBp =>
      (net.withFactory ·.1) <$> proposeFeeChange h c net.factory protocolFeeBp
  | .proposeWasmUpgrade newWasmHash =>
      (net.withFactory ·.1) <$> proposeWasmUpgrade h c net.factory newWasmHash
  | .executeConfigChange opId => net.withFactory <$> executeConfigChange h c net.factory opId
  | .cancelConfigChange opId => net.withFactory <$> cancelConfigChange h c net.factory opId
  | .pauseFactory => net.withFactory <$> pauseFactory h c net.factory
  | .unpauseFactory => net.withFactory <$> unpauseFactory h c net.factory
  | .setCreationPaused paused => net.withFactory <$> setCreationPaused h c net.factory paused
  | .emergencyPauseAll reason => net.withFactory <$> emergencyPauseAll h c net.factory reason
  | .emergencyUnpauseAll => net.withFactory <$> emergencyUnpauseAll h c net.factory
  | .transferFactoryAdmin newAdmin =>
      net.withFactory <$> transferFactoryAdmin h c net.factory newAdmin
  | .acceptFactoryAdmin => net.withFactory <$> acceptFactoryAdmin h c net.factory
  | .setCreationDelay delaySeconds =>
      net.withFactory <$> setCreationDelay h c net.factory delaySeconds
  | .setWhitelistStatus partner status =>
      net.withFactory <$> setWhitelistStatus h c net.factory partner status
  | .upgrade newWasmHash => net.withFactory <$> upgrade h c net.factory newWasmHash
  | .setProfileName creator name => net.withFactory <$> setProfileName h c net.factory creator name
  | .setVerified creator verified =>
      net.withFactory <$> setVerified h c net.factory creator verified
  | .createRaffle creator config => Prod.fst <$> createRaffle h c net creator config
  | .createRecurringRaffle creator config =>
      (net.withFactory ·.1) <$> createRecurringRaffle h c net.factory creator config
  | .triggerNextRound recurringId => Prod.fst <$> triggerNextRound h c net recurringId
  | .cancelRecurringRaffle recurringId caller =>
      net.withFactory <$> cancelRecurringRaffle h c net.factory recurringId caller
  | .cleanOldRaffle raffleId => cleanOldRaffle h c net raffleId
  | .pauseInstance raffle => pauseInstance h c net raffle
  | .unpauseInstance raffle => unpauseInstance h c net raffle
  | .syncAdmin raffle => syncAdmin h c net raffle
  | .rescueTokens token recipient amount => rescueTokens h c net token recipient amount
  | .report caller notice => net.withFactory <$> report h c net caller notice
  | .raffle raffle call => callRaffle h c net raffle call

def invoke (h : Host) (i : Invocation) (net : Net) : Result Net :=
  invokeSigned h (net.signed h i.ctx) net i.call

def machine (h : Host) : Machine Net Invocation Abort := ⟨invoke h⟩

def Net.launched (s : State) (holdings : Address → Address → Nat) : Net where
  factory := s
  raffle := fun _ => none
  balance := fun token holder => holdings token holder

/-- The state an accepted `init_factory` leaves, over any ledger, with given
contents of the two maps that no entry point writes. -/
def Initialised (h : Host) (raffleCreator : Nat → Option Address)
    (raffleCategory : Nat → Option Bytes) (net : Net) : Prop :=
  ∃ c holdings admin wasmHash protocolFeeBp treasury s,
    initFactory h c (State.deployed raffleCreator raffleCategory) admin wasmHash protocolFeeBp
      treasury = .ok s ∧ net = Net.launched s holdings

def Fresh (h : Host) (net : Net) : Prop :=
  Initialised h (fun _ => none) (fun _ => none) net

namespace Sample

open Instance.Sample (token admin treasury)

def self : Address := Instance.Sample.factory

/-- Enough of the encoding to tell the two kinds of salt payload apart. -/
def toXdr : ScVal → Bytes
  | .tuple [.address a, .u64 value] => [0, UInt8.ofNat a.id, 5, UInt8.ofNat value]
  | .tuple [.address a, .string value] => [0, UInt8.ofNat a.id, 14] ++ value
  | _ => []

def host : Host where
  self := self
  deployedAddress := fun _ salt => ⟨100 + Nat.ofDigits 256 (salt.toList.map UInt8.toNat)⟩
  tierReading := .ifElse
  tokenValid := fun a => a = token
  sha256 := fun bytes => Vector.ofFn fun i : Fin 32 => bytes.getD i 0
  toXdr := toXdr
  ed25519Verify := fun _ _ _ => false

def ctx (timestamp : Nat) (auths : List Address) : Ctx where
  timestamp := timestamp
  sequence := timestamp
  auths := auths
  existing := fun _ => true
  accepts := fun _ _ => false

def signed (auths : List Address) (timestamp : Nat) (call : Call) : Invocation :=
  ⟨ctx timestamp auths, call⟩

def holdings (_token holder : Address) : Nat := if holder.id < 100 then 1000000 else 0

def startWith (raffleCreator : Nat → Option Address) (raffleCategory : Nat → Option Bytes) : Net :=
  match initFactory host (ctx 0 []) (State.deployed raffleCreator raffleCategory) admin
    (Vector.replicate 32 7) 100 treasury with
  | .ok s => Net.launched s holdings
  | .error _ => Net.launched (State.deployed raffleCreator raffleCategory) fun _ _ => 0

theorem startWith_initialised (raffleCreator : Nat → Option Address)
    (raffleCategory : Nat → Option Bytes) :
    Initialised host raffleCreator raffleCategory (startWith raffleCreator raffleCategory) :=
  ⟨ctx 0 [], holdings, admin, Vector.replicate 32 7, 100, treasury, _, rfl, rfl⟩

def start : Net := startWith (fun _ => none) fun _ => none

def after (calls : List Invocation) : Net := (machine host).run start calls

theorem start_fresh : Fresh host start := startWith_initialised _ _

def firstRaffle : Address := raffleAddress host Instance.Sample.creator []

def secondRaffle : Address := raffleAddress host Instance.Sample.creator [1]

end Sample

end TikkaRaffle.Factory
