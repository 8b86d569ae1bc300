import TikkaRaffle.Lib.Transactional
import TikkaRaffle.Oracle.Pipeline
import TikkaRaffle.Oracle.RetryPolicy

/-! The submitter and the account it sends transactions from. A step is a reply of
the RPC or the inclusion of a transaction; a call retries attempts, and an attempt
sends one transaction. -/
namespace TikkaRaffle.Oracle

open TikkaRaffle.Lib

structure TxSubmitterOptions where
  maxAttempts : Nat := 5
  alerter : Bool := false
  failureThreshold : Nat := 3

inductive TxStatus where
  /-- The network never had it. -/
  | dropped
  | pending
  | succeeded
  | failed
  deriving DecidableEq, Repr

def TxStatus.included : TxStatus → Bool
  | .succeeded | .failed => true
  | .dropped | .pending => false

/-- The `await` at which an attempt stands, with the sequence it builds on. -/
inductive AttemptStage where
  | gettingAccount
  | simulating (sequence : Nat)
  | sending (sequence : Nat)
  | polling (sequence : Nat) (hash : String) (polls : Nat) (tx : TxStatus)
  | delaying
  deriving DecidableEq, Repr

structure SubmissionCall where
  method : Submission
  attempt : Nat
  stage : AttemptStage
  deriving DecidableEq, Repr

structure TxSubmitterService where
  sequenceCache : Option Nat := none
  consecutiveFailures : Nat := 0
  /-- The messages of the alerts. -/
  alerts : List String := []
  call : Option SubmissionCall := none
  /-- What the calls have returned or thrown. -/
  results : List (Except String String) := []

structure OracleAccount where
  service : TxSubmitterService := {}
  sequenceNumber : Nat
  /-- The transactions that the network has and no attempt polls any more. -/
  orphans : List Nat := []

inductive SimulateReply where
  | thrown (message : String)
  | simulationError (json : String)
  | prepared

/-- `sendTransaction`; `reached` says whether the network has the transaction. -/
inductive SendReply where
  | thrown (message : String) (reached : Bool)
  | error (errorResult : Option String)
  | accepted (hash : String) (reached : Bool)

inductive PollReply where
  | thrown (message : String)
  | notFound
  | success
  | failed

inductive TxEvent where
  | submitted (method : Submission)
  | account (error : Option String)
  | simulated (reply : SimulateReply)
  | sent (reply : SendReply)
  | polled (reply : PollReply)
  | slept
  /-- The transaction that is being polled is included. -/
  | included (success : Bool)
  | orphanIncluded (sequence : Nat)

def Submission.text : Submission → String
  | .provideRandomness => "provide_randomness"
  | .provideQuorumRandomness => "provide_quorum_randomness"

def maxPolls : Nat := 30

def PollReply.error (hash : String) (polls : Nat) : PollReply → Option String
  | .thrown message => some message
  | .notFound =>
      if polls + 1 < maxPolls then none
      else some ("TxTooLate: transaction " ++ hash ++ " not confirmed within timeout")
  | .failed => some ("Transaction failed on-chain: " ++ hash)
  | .success => none

/-- A reply tells of an inclusion only after it. -/
def PollReply.fits (tx : TxStatus) : PollReply → Bool
  | .success => tx = .succeeded
  | .failed => tx = .failed
  | .thrown _ | .notFound => true

namespace TxSubmitterService

def recordFailure (options : TxSubmitterOptions) (message : String) (t : TxSubmitterService) :
    TxSubmitterService :=
  let failures := t.consecutiveFailures + 1
  { t with
    consecutiveFailures := failures
    alerts :=
      if options.alerter = false ∨ failures < options.failureThreshold then t.alerts
      else t.alerts ++ ["provide_randomness submission failed (" ++ toString failures ++
        " consecutive): " ++ message] }

def throwing (message : String) (t : TxSubmitterService) : TxSubmitterService :=
  { t with call := none, results := t.results ++ [.error message] }

def exhausted (options : TxSubmitterOptions) (method : Submission) (message : String)
    (t : TxSubmitterService) : TxSubmitterService :=
  t.throwing ("Failed to submit " ++ method.text ++ " after " ++ toString options.maxAttempts ++
    " attempts: " ++ message)

def submit (options : TxSubmitterOptions) (method : Submission) (t : TxSubmitterService) :
    TxSubmitterService :=
  if 0 < options.maxAttempts then { t with call := some ⟨method, 0, .gettingAccount⟩ }
  else t.exhausted options method "undefined"

def caught (options : TxSubmitterOptions) (call : SubmissionCall) (message : String)
    (t : TxSubmitterService) : TxSubmitterService :=
  let decision := classify message
  let t := t.recordFailure options message
  if decision.retry = false then
    t.throwing ("Permanent failure submitting " ++ call.method.text ++ " (" ++
      decision.retryClass.text ++ "): " ++ message)
  else
    let t := if decision.action = some .refreshSequence then { t with sequenceCache := none } else t
    if call.attempt + 1 < options.maxAttempts then
      { t with call := some { call with stage := .delaying } }
    else t.exhausted options call.method message

def confirmed (sequence : Nat) (hash : String) (t : TxSubmitterService) : TxSubmitterService :=
  { t with
    sequenceCache := some (sequence + 1)
    consecutiveFailures := 0
    call := none
    results := t.results ++ [.ok hash] }

def goOn (call : SubmissionCall) (stage : AttemptStage) (t : TxSubmitterService) :
    TxSubmitterService :=
  { t with call := some { call with stage := stage } }

end TxSubmitterService

namespace OracleAccount

def on (s : OracleAccount) (service : TxSubmitterService) : OracleAccount :=
  { s with service := service }

def orphan (sequence : Nat) (reached : Bool) (s : OracleAccount) : OracleAccount :=
  if reached then { s with orphans := s.orphans ++ [sequence + 1] } else s

def caught (options : TxSubmitterOptions) (call : SubmissionCall) (message : String)
    (s : OracleAccount) : OracleAccount :=
  s.on (s.service.caught options call message)

def goOn (call : SubmissionCall) (stage : AttemptStage) (s : OracleAccount) : OracleAccount :=
  s.on (s.service.goOn call stage)

/-- The reply to `getAccount`; a cached sequence takes precedence over the account's. -/
def account (options : TxSubmitterOptions) (call : SubmissionCall) (error : Option String)
    (s : OracleAccount) : OracleAccount :=
  match error with
  | some message => s.caught options call message
  | none => s.goOn call (.simulating (s.service.sequenceCache.getD s.sequenceNumber))

def simulated (options : TxSubmitterOptions) (call : SubmissionCall) (sequence : Nat)
    (reply : SimulateReply) (s : OracleAccount) : OracleAccount :=
  match reply with
  | .thrown message => s.caught options call message
  | .simulationError json => s.caught options call ("Simulation failed: " ++ json)
  | .prepared => s.goOn call (.sending sequence)

def sent (options : TxSubmitterOptions) (call : SubmissionCall) (sequence : Nat)
    (reply : SendReply) (s : OracleAccount) : OracleAccount :=
  match reply with
  | .thrown message reached => (s.orphan sequence reached).caught options call message
  | .error errorResult =>
      s.caught options call ("Send failed: " ++ errorResult.getD "unknown error")
  | .accepted hash reached =>
      s.goOn call (.polling sequence hash 0 (if reached then .pending else .dropped))

def polled (options : TxSubmitterOptions) (call : SubmissionCall) (sequence : Nat)
    (hash : String) (polls : Nat) (tx : TxStatus) (reply : PollReply) (s : OracleAccount) :
    Except Unit OracleAccount := do
  check (reply.fits tx) ()
  return match reply.error hash polls, reply with
    | some message, _ => (s.orphan sequence (tx = .pending)).caught options call message
    | none, .success => s.on (s.service.confirmed sequence hash)
    | none, _ => s.goOn call (.polling sequence hash (polls + 1) tx)

/-- The network only includes the next transaction of the account. -/
def included (call : SubmissionCall) (sequence : Nat) (hash : String) (polls : Nat)
    (success : Bool) (s : OracleAccount) : Except Unit OracleAccount := do
  check (sequence = s.sequenceNumber) ()
  return { s.goOn call (.polling sequence hash polls (if success then .succeeded else .failed)) with
    sequenceNumber := s.sequenceNumber + 1 }

def orphanIncluded (sequence : Nat) (s : OracleAccount) : Except Unit OracleAccount := do
  check (sequence ∈ s.orphans ∧ sequence = s.sequenceNumber + 1) ()
  return { s with sequenceNumber := sequence, orphans := s.orphans.erase sequence }

def step (options : TxSubmitterOptions) (event : TxEvent) (s : OracleAccount) :
    Except Unit OracleAccount :=
  match event, s.service.call with
  | .submitted method, none => .ok (s.on (s.service.submit options method))
  | .orphanIncluded sequence, _ => s.orphanIncluded sequence
  | .account error, some call =>
      match call.stage with
      | .gettingAccount => .ok (s.account options call error)
      | _ => .error ()
  | .simulated reply, some call =>
      match call.stage with
      | .simulating sequence => .ok (s.simulated options call sequence reply)
      | _ => .error ()
  | .sent reply, some call =>
      match call.stage with
      | .sending sequence => .ok (s.sent options call sequence reply)
      | _ => .error ()
  | .polled reply, some call =>
      match call.stage with
      | .polling sequence hash polls tx => s.polled options call sequence hash polls tx reply
      | _ => .error ()
  | .slept, some call =>
      match call.stage with
      | .delaying => .ok (s.goOn { call with attempt := call.attempt + 1 } .gettingAccount)
      | _ => .error ()
  | .included success, some call =>
      match call.stage with
      | .polling sequence hash polls .pending => s.included call sequence hash polls success
      | _ => .error ()
  | _, _ => .error ()

end OracleAccount

/-- The service with one caller, who submits one request after the other. -/
def submitter (options : TxSubmitterOptions) : Machine OracleAccount TxEvent Unit :=
  ⟨OracleAccount.step options⟩

structure Caller where
  call : Option SubmissionCall := none
  results : List (Except String String) := []

/-- The account with callers whose calls overlap: the queue is drained while the loop
that works it is still submitting. -/
structure SharedAccount (ι : Type) where
  callers : ι → Caller := fun _ => {}
  sequenceCache : Option Nat := none
  consecutiveFailures : Nat := 0
  alerts : List String := []
  sequenceNumber : Nat
  orphans : List Nat := []

namespace SharedAccount

variable {ι : Type} [DecidableEq ι]

def view (s : SharedAccount ι) (caller : ι) : OracleAccount where
  service :=
    { sequenceCache := s.sequenceCache
      consecutiveFailures := s.consecutiveFailures
      alerts := s.alerts
      call := (s.callers caller).call
      results := (s.callers caller).results }
  sequenceNumber := s.sequenceNumber
  orphans := s.orphans

def leave (s : SharedAccount ι) (caller : ι) (account : OracleAccount) : SharedAccount ι where
  callers := Function.update s.callers caller ⟨account.service.call, account.service.results⟩
  sequenceCache := account.service.sequenceCache
  consecutiveFailures := account.service.consecutiveFailures
  alerts := account.service.alerts
  sequenceNumber := account.sequenceNumber
  orphans := account.orphans

/-- From one `await` of a call to the next no other call runs. -/
def step (options : TxSubmitterOptions) (event : ι × TxEvent) (s : SharedAccount ι) :
    Except Unit (SharedAccount ι) := do
  let account ← (s.view event.1).step options event.2
  return s.leave event.1 account

@[simp] theorem view_leave (s : SharedAccount ι) (caller : ι) (account : OracleAccount) :
    (s.leave caller account).view caller = account := by
  simp [view, leave]

end SharedAccount

def submitters (ι : Type) [DecidableEq ι] (options : TxSubmitterOptions) :
    Machine (SharedAccount ι) (ι × TxEvent) Unit :=
  ⟨SharedAccount.step options⟩

/-- Alone, a caller has the service to itself. -/
theorem submitters_alone {ι : Type} [DecidableEq ι] {options : TxSubmitterOptions} (caller : ι)
    (s : SharedAccount ι) (events : List TxEvent) :
    ((submitters ι options).run s (events.map (Prod.mk caller))).view caller =
      (submitter options).run (s.view caller) events := by
  induction events generalizing s with
  | nil => rfl
  | cons event rest ih =>
    cases hstep : (s.view caller).step options event with
    | error e =>
      have hshared : (submitters ι options).step (caller, event) s = .error e := by
        simp [submitters, SharedAccount.step, hstep]
      rw [List.map_cons, Machine.run_cons, Machine.run_cons, Machine.exec_error _ hshared,
        Machine.exec_error (submitter options) hstep, ih]
    | ok account =>
      have hshared : (submitters ι options).step (caller, event) s =
          .ok (s.leave caller account) := by
        simp [submitters, SharedAccount.step, hstep]
      rw [List.map_cons, Machine.run_cons, Machine.run_cons, Machine.exec_ok _ hshared,
        Machine.exec_ok (submitter options) hstep, ih, SharedAccount.view_leave]

end TikkaRaffle.Oracle
