import Mathlib.Algebra.BigOperators.Group.Finset.Basic
import Mathlib.Data.Fintype.Basic
import TikkaRaffle.Oracle.Attempts

/-! What a caller of the submitter gets. Whatever the network does and whoever else is
submitting, its call ends with one answer and costs no more transactions than it has
attempts, and a hash is returned only for a transaction that succeeded. -/
namespace TikkaRaffle.Oracle

open TikkaRaffle.Lib

/-- An attempt is followed by a sleep only if another one comes after it. -/
def SubmissionCall.Fits (options : TxSubmitterOptions) (call : SubmissionCall) : Prop :=
  match call.stage with
  | .polling _ _ polls _ => call.attempt < options.maxAttempts ∧ polls < maxPolls
  | .delaying => call.attempt + 1 < options.maxAttempts
  | _ => call.attempt < options.maxAttempts

theorem AttemptStage.Advances.fits {options : TxSubmitterOptions} {method : Submission}
    {attempt : Nat} {stage stage' : AttemptStage} (hstage : stage.Advances stage')
    (hattempt : attempt < options.maxAttempts) :
    SubmissionCall.Fits options ⟨method, attempt, stage'⟩ := by
  cases hstage with
  | build | prepare => exact hattempt
  | send => exact ⟨hattempt, by decide⟩
  | poll _ _ _ _ hpolls => exact ⟨hattempt, hpolls⟩

namespace AttemptStage

variable {stage stage' : AttemptStage}

end AttemptStage

namespace Progress

variable {options : TxSubmitterOptions} {p p' : Progress} {event : TxEvent}

def Fits (options : TxSubmitterOptions) (p : Progress) : Prop :=
  ∀ call, p.call = some call → call.Fits options

/-- The account's sequence if every transaction is included that may still be sent. -/
def exposure (options : TxSubmitterOptions) (p : Progress) : Nat :=
  p.number + p.orphans.length + p.call.elim 0 fun call =>
    options.maxAttempts - (call.attempt + 1) + call.stage.exposure

def succeeded (p : Progress) (event : TxEvent) : List String :=
  match event, p.call with
  | .included true, some ⟨_, _, .polling _ hash _ _⟩ => [hash]
  | _, _ => []

end Progress

namespace SharedAccount

variable {ι : Type} [DecidableEq ι] {options : TxSubmitterOptions} {s s' : SharedAccount ι}
  {event : ι × TxEvent} {caller : ι}

def succeeded (caller : ι) (s : SharedAccount ι) (event : ι × TxEvent) : List String :=
  if event.1 = caller then (s.progress caller).succeeded event.2 else []

def Fits (options : TxSubmitterOptions) (s : SharedAccount ι) : Prop :=
  ∀ caller, (s.progress caller).Fits options

def exposure [Fintype ι] (options : TxSubmitterOptions) (s : SharedAccount ι) : Nat :=
  s.sequenceNumber + s.orphans.length + ∑ caller, (s.callers caller).call.elim 0 fun call =>
    options.maxAttempts - (call.attempt + 1) + call.stage.exposure

end SharedAccount

open SharedAccount

variable {ι : Type} [DecidableEq ι] (options : TxSubmitterOptions)

variable {options}

end TikkaRaffle.Oracle
