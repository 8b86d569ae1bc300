import Mathlib.Data.List.Infix
import Mathlib.Data.Nat.Notation

/-! Which failures of a randomness request can never be retried. -/
namespace TikkaRaffle.Oracle

def includes (message token : List Char) : Bool :=
  decide (token <:+: message)

/-- Lower case of the letters that the tokens below are made of. -/
def toLowerCase (message : List Char) : List Char :=
  message.map Char.toLower

inductive FatalToken where
  | code (n : ℕ)
  | name (text : String)
  deriving DecidableEq, Repr

def fatalContractErrors : List FatalToken :=
  [.code 8, .name "NoRandomnessRequest",
   .code 7, .name "RandomnessAlreadyRequested",
   .code 61, .name "DrawingAlreadyComplete",
   .code 23, .name "InvalidStatus",
   .code 21, .name "InvalidParameters",
   .code 11, .name "PrizeNotDeposited",
   .code 6, .name "OracleNotSet"]

def requestIdMismatchFragments : List String :=
  ["request_id", "request id", "RequestIdMismatch"]

def FatalToken.occurs (message : List Char) : FatalToken → Bool
  | .code n =>
      includes message ("#" ++ toString n).toList ||
        includes message ("Error(" ++ toString n ++ ")").toList ||
        includes message ("error code " ++ toString n).toList
  | .name text =>
      includes message text.toList ||
        includes (toLowerCase message) (toLowerCase text.toList)

def isFatalRandomnessError (text : String) : Bool :=
  let message := text.toList
  let lower := toLowerCase message
  fatalContractErrors.any (FatalToken.occurs message) ||
    (requestIdMismatchFragments.any (fun fragment => includes lower fragment.toList) &&
      (includes lower "mismatch".toList || includes lower "invalid".toList))

example : isFatalRandomnessError "Simulation failed: Error(Contract, #8)" = true := by
  decide +kernel
example : isFatalRandomnessError "Invalid request id for this draw" = true := by decide +kernel
example : isFatalRandomnessError "ECONNRESET" = false := by decide +kernel

end TikkaRaffle.Oracle
