import TikkaRaffle.Lib.Follower
import TikkaRaffle.Oracle.Pipeline

/-! The event listener. It polls an RPC that returns the first events from a
ledger on, enqueues the requests to this oracle, and goes on after the network's
latest ledger. -/
namespace TikkaRaffle.Oracle

open TikkaRaffle.Lib

/-- The values the parsers look at; `map none` is a map value without entries. -/
inductive ScVal where
  | symbol (name : String)
  | address (address : String)
  | u32 (n : Nat)
  | u64 (n : Nat)
  | map (entries : Option (List (ScVal × ScVal)))
  | other

structure EventResponse where
  contractId : Option String
  topic : List ScVal
  value : ScVal

namespace ScVal

/-! The accessors throw on any other arm. -/

def sym : ScVal → Except Unit String
  | symbol name => .ok name
  | _ => .error ()

def addressString : ScVal → Except Unit String
  | address a => .ok a
  | _ => .error ()

def getU32 : ScVal → Except Unit Nat
  | u32 n => .ok n
  | _ => .error ()

def getU64 : ScVal → Except Unit Nat
  | u64 n => .ok n
  | _ => .error ()

end ScVal

namespace EventResponse

def topicName (event : EventResponse) : Except Unit (Option String) :=
  match event.topic with
  | [] => .ok none
  | first :: _ => some <$> first.sym

/-- The contract's address; an empty one counts as missing. -/
def raffleContract (event : EventResponse) : Option String :=
  match event.contractId with
  | some raffleContract => if raffleContract = "" then none else some raffleContract
  | none => none

def mapEntries (event : EventResponse) : Option (List (ScVal × ScVal)) :=
  match event.value with
  | .map entries => entries
  | _ => none

end EventResponse

def readRequestEntry (parsed : ParsedRandomnessRequest) (entry : ScVal × ScVal) :
    Except Unit ParsedRandomnessRequest := do
  let key ← entry.1.sym
  if key = "oracle" then return { parsed with oracle := ← entry.2.addressString }
  else if key = "request_id" then return { parsed with requestId := ← entry.2.getU64 }
  else if key = "timestamp" then return { parsed with timestamp := ← entry.2.getU64 }
  else return parsed

def parseRandomnessRequestedEvent (event : EventResponse) :
    Except Unit (Option ParsedRandomnessRequest) := do
  let topicName ← event.topicName
  if topicName ≠ some "RandomnessRequested" then return none
  match event.raffleContract, event.mapEntries with
  | some raffleContract, some entries =>
      some <$> entries.foldlM readRequestEntry ⟨"", 0, 0, raffleContract⟩
  | _, _ => return none

structure ParsedSeedDelivered where
  oracle : String
  requestId : Nat
  currentCount : Nat
  threshold : Nat
  raffleContract : String
  deriving DecidableEq, Repr

def readDeliveredEntry (parsed : ParsedSeedDelivered) (entry : ScVal × ScVal) :
    Except Unit ParsedSeedDelivered := do
  let key ← entry.1.sym
  if key = "oracle" then return { parsed with oracle := ← entry.2.addressString }
  else if key = "request_id" then return { parsed with requestId := ← entry.2.getU64 }
  else if key = "current_count" then return { parsed with currentCount := ← entry.2.getU32 }
  else if key = "threshold" then return { parsed with threshold := ← entry.2.getU32 }
  else return parsed

/-- A map value without entries counts as an empty map here. -/
def parseOracleSeedDeliveredEvent (event : EventResponse) :
    Except Unit (Option ParsedSeedDelivered) := do
  let topicName ← event.topicName
  if topicName ≠ some "OracleSeedDelivered" then return none
  match event.raffleContract, event.value with
  | some raffleContract, .map entries =>
      some <$> (entries.getD []).foldlM readDeliveredEntry ⟨"", 0, 0, 0, raffleContract⟩
  | _, _ => return none

structure ListenerOptions where
  oracleAddress : String
  rpcUnreachableThreshold : Nat

structure EventListenerService where
  startLedger : Nat := 1
  /-- The ledger in the checkpoint store. -/
  checkpoint : Option Nat := none
  consecutiveRpcFailures : Nat := 0
  /-- The numbers of failures the alerter was told of. -/
  alerts : List Nat := []
  /-- The jobs `enqueue` was called with. -/
  enqueued : List RandomnessJob := []
  /-- Whether `startListening` has thrown. -/
  rejected : Bool := false
  deriving DecidableEq, Repr

namespace EventListenerService

def initialized (latest : Nat) (l : EventListenerService) : EventListenerService :=
  match l.checkpoint with
  | some saved => { l with startLedger := saved + 1 }
  | none => { l with startLedger := latest }

def handleEvent (oracleAddress : String) (event : EventResponse) :
    Except Unit (List RandomnessJob) := do
  let topicName ← event.topicName
  if topicName = some "OracleSeedDelivered" then
    let _ ← parseOracleSeedDeliveredEvent event
    return []
  else
    match ← parseRandomnessRequestedEvent event with
    | some parsed => return if parsed.oracle = oracleAddress then [parsed.job] else []
    | none => return []

/-- The jobs of a page, and whether its end was reached. -/
def handleEvents (oracleAddress : String) : List EventResponse → List RandomnessJob × Bool
  | [] => ([], true)
  | event :: rest =>
      match handleEvent oracleAddress event with
      | .ok jobs =>
          let (later, finished) := handleEvents oracleAddress rest
          (jobs ++ later, finished)
      | .error _ => ([], false)

/-- A response to the poll. Whatever it has returned, the next one starts after the
latest ledger. -/
def received (options : ListenerOptions) (events : List EventResponse) (latestLedger : Nat)
    (l : EventListenerService) : EventListenerService :=
  let (jobs, finished) := handleEvents options.oracleAddress events
  let l := { l with consecutiveRpcFailures := 0, enqueued := l.enqueued ++ jobs }
  if finished then { l with startLedger := latestLedger + 1, checkpoint := some latestLedger }
  else { l with rejected := true }

def failed (options : ListenerOptions) (l : EventListenerService) : EventListenerService :=
  let failures := l.consecutiveRpcFailures + 1
  { l with
    consecutiveRpcFailures := failures
    alerts :=
      if options.rpcUnreachableThreshold ≤ failures then l.alerts ++ [failures] else l.alerts }

end EventListenerService

structure ContractId where
  address : String
  nonempty : address ≠ ""

/-- An event under one of the two topics the service filters by, as its own fixtures write
them; the topics the contracts publish under are spelled otherwise. -/
inductive RaffleEvent where
  | randomnessRequested (contract : ContractId) (oracle : String) (requestId timestamp : Nat)
  | oracleSeedDelivered (contract : ContractId) (oracle : String)
      (seed requestId currentCount threshold timestamp : Nat)

namespace RaffleEvent

def response : RaffleEvent → EventResponse
  | randomnessRequested contract oracle requestId timestamp =>
      ⟨some contract.address, [.symbol "RandomnessRequested"], .map (some
        [(.symbol "oracle", .address oracle), (.symbol "request_id", .u64 requestId),
          (.symbol "timestamp", .u64 timestamp)])⟩
  | oracleSeedDelivered contract oracle seed requestId currentCount threshold timestamp =>
      ⟨some contract.address, [.symbol "OracleSeedDelivered"], .map (some
        [(.symbol "current_count", .u32 currentCount), (.symbol "oracle", .address oracle),
          (.symbol "request_id", .u64 requestId), (.symbol "seed", .u64 seed),
          (.symbol "threshold", .u32 threshold), (.symbol "timestamp", .u64 timestamp)])⟩

def request : RaffleEvent → Option ParsedRandomnessRequest
  | randomnessRequested contract oracle requestId timestamp =>
      some ⟨oracle, requestId, timestamp, contract.address⟩
  | oracleSeedDelivered .. => none

def jobFor (oracleAddress : String) (event : RaffleEvent) : Option RandomnessJob :=
  (event.request.filter (·.oracle = oracleAddress)).map (·.job)

end RaffleEvent

/-- The closed ledgers, from the first one on, and the listener that reads them. -/
structure Chain where
  ledgers : List (List RaffleEvent)
  listener : EventListenerService

inductive ChainEvent where
  | closed (events : List RaffleEvent)
  | polled
  | pollFailed

namespace Chain

/-- The RPC returns the first `limit` events from a ledger on. -/
def getEvents (limit startLedger : Nat) (ledgers : List (List RaffleEvent)) :
    List EventResponse :=
  ((ledgers.drop (startLedger - 1)).flatten.take limit).map RaffleEvent.response

def start (saved : Nat) (ledgers : List (List RaffleEvent)) : Chain :=
  ⟨ledgers, EventListenerService.initialized ledgers.length { checkpoint := some saved }⟩

def step (limit : Nat) (options : ListenerOptions) (event : ChainEvent) (s : Chain) :
    Except Unit Chain :=
  match event with
  | .closed events => .ok { s with ledgers := s.ledgers ++ [events] }
  | .polled => do
      check (s.listener.rejected = false) ()
      return { s with
        listener := s.listener.received options
          (getEvents limit s.listener.startLedger s.ledgers) s.ledgers.length }
  | .pollFailed => do
      check (s.listener.rejected = false) ()
      return { s with listener := s.listener.failed options }

def reached (s : Chain) : Nat := s.listener.startLedger - 1

def requestsIn (oracleAddress : String) (first last : Nat) (ledgers : List (List RaffleEvent)) :
    List RandomnessJob :=
  ((ledgers.take last).drop first).flatten.filterMap (RaffleEvent.jobFor oracleAddress)

end Chain

def listen (limit : Nat) (options : ListenerOptions) : Machine Chain ChainEvent Unit :=
  ⟨Chain.step limit options⟩

namespace RaffleEvent

theorem topicName_response (event : RaffleEvent) : event.response.topicName =
    .ok (some (match event with
      | randomnessRequested .. => "RandomnessRequested"
      | oracleSeedDelivered .. => "OracleSeedDelivered")) := by
  cases event <;> rfl

theorem raffleContract_response (event : RaffleEvent) : event.response.raffleContract =
    some (match event with
      | randomnessRequested contract .. => contract.address
      | oracleSeedDelivered contract .. => contract.address) := by
  cases event with
  | randomnessRequested contract => exact if_neg contract.nonempty
  | oracleSeedDelivered contract => exact if_neg contract.nonempty

theorem parse_response (event : RaffleEvent) :
    parseRandomnessRequestedEvent event.response = .ok event.request := by
  have hcontract := raffleContract_response event
  rw [parseRandomnessRequestedEvent, topicName_response]
  cases event with
  | randomnessRequested contract oracle requestId timestamp =>
    simp only [hcontract]
    rfl
  | oracleSeedDelivered => rfl

theorem parseDelivered_response (event : RaffleEvent) :
    (parseOracleSeedDeliveredEvent event.response).isOk = true := by
  have hcontract := raffleContract_response event
  rw [parseOracleSeedDeliveredEvent, topicName_response]
  cases event with
  | randomnessRequested => rfl
  | oracleSeedDelivered =>
    simp only [hcontract]
    rfl

theorem handleEvent_response (oracleAddress : String) (event : RaffleEvent) :
    EventListenerService.handleEvent oracleAddress event.response =
      .ok (event.jobFor oracleAddress).toList := by
  have hparsed := parse_response event
  obtain ⟨delivered, hdelivered⟩ := except_isOk (parseDelivered_response event)
  cases event with
  | randomnessRequested contract oracle requestId timestamp =>
    simp only [EventListenerService.handleEvent, topicName_response, hparsed, bind, Except.bind,
      request, jobFor, pure, Except.pure, Option.filter_some, decide_eq_true_eq]
    rw [if_neg (by decide)]
    split
    next => rfl
    next => rfl
  | oracleSeedDelivered =>
    simp only [EventListenerService.handleEvent, topicName_response, hdelivered, bind, Except.bind]
    rfl

theorem handleEvents_response (oracleAddress : String) (events : List RaffleEvent) :
    EventListenerService.handleEvents oracleAddress (events.map response) =
      (events.filterMap (jobFor oracleAddress), true) := by
  induction events with
  | nil => rfl
  | cons event rest ih =>
    simp only [List.map_cons, EventListenerService.handleEvents, handleEvent_response, ih,
      List.filterMap_cons]
    cases event.jobFor oracleAddress <;> rfl

end RaffleEvent

/-- A poll of the pipeline enqueues what the listener enqueues for the same page. -/
theorem System.polled_queue (oracleAddress : String) (now latest : Nat) (s : System)
    (page : List RaffleEvent) :
    (s.polled oracleAddress now (page.filterMap RaffleEvent.request) latest).memory.queue =
      (EventListenerService.handleEvents oracleAddress (page.map RaffleEvent.response)).1.foldl
        (fun q job => q.enqueue job now) s.memory.queue := by
  have hjobs : ((page.filterMap RaffleEvent.request).filter (·.oracle = oracleAddress)).map
      (·.job) = page.filterMap (RaffleEvent.jobFor oracleAddress) := by
    rw [List.filter_filterMap, List.map_filterMap]
    rfl
  rw [RaffleEvent.handleEvents_response, System.polled, hjobs]

end TikkaRaffle.Oracle
