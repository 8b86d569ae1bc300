import Mathlib.Tactic.SplitIfs
import TikkaRaffle.Oracle.FatalErrors

/-! What the submitter does with an error, by what its message mentions. -/
namespace TikkaRaffle.Oracle

inductive RetryClass where
  | transient
  | sequenceCollision
  | insufficientFee
  | txExpired
  | alreadySatisfied
  | invalidState
  | fatal
  deriving DecidableEq, Repr

def RetryClass.text : RetryClass → String
  | .transient => "transient"
  | .sequenceCollision => "sequence-collision"
  | .insufficientFee => "insufficient-fee"
  | .txExpired => "tx-expired"
  | .alreadySatisfied => "already-satisfied"
  | .invalidState => "invalid-state"
  | .fatal => "fatal"

inductive RetryAction where
  | refreshSequence | bumpFee | rebuildBounds
  deriving DecidableEq, Repr

structure RetryDecision where
  retryClass : RetryClass
  retry : Bool
  action : Option RetryAction := none
  deriving DecidableEq, Repr

def isSeparator (c : Char) : Bool :=
  c = ':' || (9 ≤ c.toNat && c.toNat ≤ 13) || (8192 ≤ c.toNat && c.toNat ≤ 8202) ||
    [32, 160, 5760, 8232, 8233, 8239, 8287, 12288, 65279].contains c.toNat

/-- `/status[:\s]+50[0-9]/` at the head of a text. -/
def startsStatus50x (text : List Char) : Bool :=
  let rest := text.drop 6
  let code := rest.dropWhile isSeparator
  "status".toList.isPrefixOf text && decide (code.length < rest.length) &&
    match code with
    | '5' :: '0' :: digit :: _ => digit.isDigit
    | _ => false

def matchesStatus50x (text : List Char) : Bool := text.tails.any startsStatus50x

def mentions (message : String) (tokens : List String) : Bool :=
  tokens.any fun token => includes message.toList token.toList

/-- The first class whose tokens the message mentions. -/
def classify (message : String) : RetryDecision :=
  if mentions message ["TRY_AGAIN_LATER", "ECONNRESET", "ETIMEDOUT", "fetch failed", "network",
      "5xx"] || matchesStatus50x message.toList then
    ⟨.transient, true, none⟩
  else if mentions message ["AccountSequenceMismatch", "sequence"] then
    ⟨.sequenceCollision, true, some .refreshSequence⟩
  else if mentions message ["InsufficientFee"] then
    ⟨.insufficientFee, true, some .bumpFee⟩
  else if mentions message ["TxTooLate", "not confirmed within timeout", "ledger bounds",
      "expired"] then
    ⟨.txExpired, true, some .rebuildBounds⟩
  else if mentions message ["RandomnessAlreadyRequested", "duplicate"] then
    ⟨.alreadySatisfied, false, none⟩
  else if mentions message ["NoRandomnessRequest", "invalid state"] then
    ⟨.invalidState, false, none⟩
  else ⟨.fatal, false, none⟩

/-- Only errors that are retried have an action. -/
theorem retry_of_action {message : String} {action : RetryAction}
    (haction : (classify message).action = some action) : (classify message).retry = true := by
  unfold classify at haction ⊢
  split_ifs at haction ⊢ <;> rfl

example : classify "status: 503" = ⟨.transient, true, none⟩ := by decide +kernel
example : classify "Transaction failed on-chain: 0a1b" = ⟨.fatal, false, none⟩ := by decide +kernel

end TikkaRaffle.Oracle
