import TikkaRaffle.Oracle.TxSubmitter

/-! The calls of the submitter and their attempts. Every step is one of a few moves,
which say what an attempt still has before it and what may still come of it. -/
namespace TikkaRaffle.Oracle

open TikkaRaffle.Lib

def TxEvent.replies : TxEvent → Bool
  | .account _ | .simulated _ | .sent _ | .polled _ | .slept => true
  | .submitted _ | .included _ | .orphanIncluded _ => false

def TxEvent.submitting : TxEvent → Bool
  | .submitted _ => true
  | _ => false

/-- The transactions of an attempt that may still be included. -/
def AttemptStage.exposure : AttemptStage → Nat
  | .gettingAccount | .simulating _ | .sending _ => 1
  | .polling _ _ _ tx => if tx = .pending then 1 else 0
  | .delaying => 0

inductive AttemptStage.Advances : AttemptStage → AttemptStage → Prop
  | build (sequence : Nat) : Advances .gettingAccount (.simulating sequence)
  | prepare (sequence : Nat) : Advances (.simulating sequence) (.sending sequence)
  | send (sequence : Nat) (hash : String) (tx : TxStatus)
      (htx : tx = .pending ∨ tx = .dropped) :
      Advances (.sending sequence) (.polling sequence hash 0 tx)
  | poll (sequence : Nat) (hash : String) (polls : Nat) (tx : TxStatus)
      (hpolls : polls + 1 < maxPolls) :
      Advances (.polling sequence hash polls tx) (.polling sequence hash (polls + 1) tx)

@[ext] structure Progress where
  call : Option SubmissionCall
  results : List (Except String String)
  number : Nat
  orphans : List Nat

inductive Move (options : TxSubmitterOptions) (p : Progress) : TxEvent → Progress → Prop
  | begun (method : Submission) (hcall : p.call = none) (hpositive : 0 < options.maxAttempts) :
      Move options p (.submitted method) { p with call := some ⟨method, 0, .gettingAccount⟩ }
  | refused (method : Submission) (error : String) (hcall : p.call = none) :
      Move options p (.submitted method) { p with results := p.results ++ [.error error] }
  | advanced {event : TxEvent} {call : SubmissionCall} (stage : AttemptStage)
      (hevent : event.replies = true) (hcall : p.call = some call)
      (hstage : call.stage.Advances stage) :
      Move options p event { p with call := some { call with stage := stage } }
  /-- The attempt fails and no other follows. -/
  | abandoned {event : TxEvent} {call : SubmissionCall} (error : String) (lost : List Nat)
      (hevent : event.replies = true) (hcall : p.call = some call)
      (hstage : call.stage ≠ .delaying) (hlost : lost.length ≤ call.stage.exposure) :
      Move options p event
        { p with
          call := none
          results := p.results ++ [.error error]
          orphans := p.orphans ++ lost }
  | postponed {event : TxEvent} {call : SubmissionCall} (lost : List Nat)
      (hevent : event.replies = true) (hcall : p.call = some call)
      (hstage : call.stage ≠ .delaying) (hlost : lost.length ≤ call.stage.exposure)
      (hattempt : call.attempt + 1 < options.maxAttempts) :
      Move options p event
        { p with call := some { call with stage := .delaying }, orphans := p.orphans ++ lost }
  | retried {call : SubmissionCall} (hcall : p.call = some call) (hstage : call.stage = .delaying) :
      Move options p .slept
        { p with call := some ⟨call.method, call.attempt + 1, .gettingAccount⟩ }
  | included {call : SubmissionCall} (hash : String) (polls : Nat) (success : Bool)
      (hcall : p.call = some call)
      (hstage : call.stage = .polling p.number hash polls .pending) :
      Move options p (.included success)
        { p with
          call := some { call with
            stage := .polling p.number hash polls (if success then .succeeded else .failed) }
          number := p.number + 1 }
  | confirmed {event : TxEvent} {call : SubmissionCall} (sequence : Nat) (hash : String)
      (polls : Nat) (hevent : event.replies = true) (hcall : p.call = some call)
      (hstage : call.stage = .polling sequence hash polls .succeeded) :
      Move options p event { p with call := none, results := p.results ++ [.ok hash] }
  | orphanIncluded (hmem : p.number + 1 ∈ p.orphans) :
      Move options p (.orphanIncluded (p.number + 1))
        { p with number := p.number + 1, orphans := p.orphans.erase (p.number + 1) }

namespace OracleAccount

def progress (s : OracleAccount) : Progress where
  call := s.service.call
  results := s.service.results
  number := s.sequenceNumber
  orphans := s.orphans

variable {options : TxSubmitterOptions} {s s' : OracleAccount} {call : SubmissionCall}
  {message : String} {sequence : Nat} {event : TxEvent}

end OracleAccount

namespace SharedAccount

variable {ι : Type} [DecidableEq ι] {options : TxSubmitterOptions} {s s' : SharedAccount ι}
  {event : ι × TxEvent}

def progress (s : SharedAccount ι) (caller : ι) : Progress :=
  (s.view caller).progress

end SharedAccount

end TikkaRaffle.Oracle
