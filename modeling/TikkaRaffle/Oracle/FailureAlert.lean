import TikkaRaffle.Oracle.Alerter
import TikkaRaffle.Oracle.TxSubmitter

/-! What an attempt throws, and the alert that `recordFailure` makes of it. -/
namespace TikkaRaffle.Oracle

open TikkaRaffle.Oracle.Alerting

inductive SubmissionError where
  /-- The RPC or the signer threw. -/
  | thrown (message : String)
  | simulation (json : String)
  | send (errorResult : Option String)
  | failedOnChain (hash : String)
  | unconfirmed (hash : String)
  | tooLate (hash : String)

def SubmissionError.message : SubmissionError → String
  | .thrown message => message
  | .simulation json => "Simulation failed: " ++ json
  | .send errorResult => "Send failed: " ++ errorResult.getD "unknown error"
  | .failedOnChain hash => "Transaction failed on-chain: " ++ hash
  | .unconfirmed hash => "Transaction did not confirm: " ++ hash
  | .tooLate hash => "TxTooLate: transaction " ++ hash ++ " not confirmed within timeout"

/-- The hash of the transaction that an error tells of. -/
def SubmissionError.hash : SubmissionError → Option String
  | .failedOnChain hash | .unconfirmed hash | .tooLate hash => some hash
  | .thrown _ | .simulation _ | .send _ => none

def SimulateReply.submissionError : SimulateReply → Option SubmissionError
  | .thrown message => some (.thrown message)
  | .simulationError json => some (.simulation json)
  | .prepared => none

def SendReply.submissionError : SendReply → Option SubmissionError
  | .thrown message _ => some (.thrown message)
  | .error errorResult => some (.send errorResult)
  | .accepted _ _ => none

def PollReply.submissionError (hash : String) (polls : Nat) : PollReply → Option SubmissionError
  | .thrown message => some (.thrown message)
  | .notFound => if polls + 1 < maxPolls then none else some (.tooLate hash)
  | .failed => some (.failedOnChain hash)
  | .success => none

theorem pollReply_error (hash : String) (polls : Nat) (reply : PollReply) :
    reply.error hash polls = (reply.submissionError hash polls).map SubmissionError.message := by
  cases reply with
  | notFound =>
    rw [PollReply.error, PollReply.submissionError]
    split <;> rfl
  | thrown message => rfl
  | success => rfl
  | failed => rfl

namespace OracleAccount

variable {options : TxSubmitterOptions} {call : SubmissionCall} {sequence : Nat}
  {s : OracleAccount} {error : SubmissionError}

theorem simulated_error {reply : SimulateReply} (h : reply.submissionError = some error) :
    s.simulated options call sequence reply = s.caught options call error.message := by
  cases reply <;> cases h <;> rfl

theorem sent_error {reply : SendReply} (h : reply.submissionError = some error) :
    ∃ t : OracleAccount, t.service = s.service ∧
      s.sent options call sequence reply = t.caught options call error.message := by
  cases reply with
  | thrown message reached =>
    cases h
    refine ⟨s.orphan sequence reached, ?_, rfl⟩
    cases reached <;> rfl
  | error errorResult =>
    cases h
    exact ⟨s, rfl, rfl⟩
  | accepted hash reached => cases h

end OracleAccount

namespace TxSubmitterService

variable (options : TxSubmitterOptions) (message : String) (t : TxSubmitterService)

def failureAlert : AlertPayload where
  type := "submission_failure"
  severity := .critical
  message := "provide_randomness submission failed (" ++ toString (t.consecutiveFailures + 1) ++
    " consecutive): " ++ message
  details := some [("consecutiveFailures", .number (t.consecutiveFailures + 1)),
    ("threshold", .number options.failureThreshold), ("message", .text message)]

theorem recordFailure_alerts (halerter : options.alerter = true)
    (hthreshold : options.failureThreshold ≤ t.consecutiveFailures + 1) :
    (t.recordFailure options message).alerts =
      t.alerts ++ [(t.failureAlert options message).message] := by
  have hquiet : ¬ (options.alerter = false ∨
      t.consecutiveFailures + 1 < options.failureThreshold) := by
    rintro (hnone | hbelow)
    · rw [halerter] at hnone
      cases hnone
    · omega
  exact if_neg hquiet

end TxSubmitterService

end TikkaRaffle.Oracle
