import TikkaRaffle.Lib.Words
import TikkaRaffle.Oracle.RetryPolicy
import TikkaRaffle.Oracle.SecretKey

/-! The redaction of log messages: one substitution for each sensitive field, then
one for encoded text after a marker. -/
namespace TikkaRaffle.Oracle.Logging

open TikkaRaffle.Lib

def redactedFields : List String :=
  ["ORACLE_SECRET_KEY", "secretKey", "secret", "password", "token", "apiKey", "api_key",
    "accessKey", "access_key", "privateKey", "private_key", "passphrase"]

/-- `[^\s"']` -/
def isPlain (c : Char) : Bool := !(isWhitespace c || c = '"' || c = '\'')

/-- `[A-Za-z0-9+/=]` -/
def isEncodedChar (c : Char) : Bool := base64Table.toList.contains c || c = '='

def redactedMark : List Char := "[REDACTED]".toList

/-- `field=` as the flag `i` compares it. -/
def fieldKey (field : String) : List Char := field.toList.map Char.toLower ++ ['=']

/-- `(field=)[^\s"']+` -/
def fieldRule (field : String) : Rule Char := assignment isPlain Char.toLower (fieldKey field)

def markers : List String := ["hex", "base64", "encoded"]

/-- `marker[:\s]+([A-Za-z0-9+/=]{32,})` -/
def markerRule (marker : String) : Rule Char := fun text =>
  let after := text.drop marker.toList.length
  let separators := after.takeWhile isSeparator
  let run := (after.dropWhile isSeparator).takeWhile isEncodedChar
  if (text.take marker.toList.length).map Char.toLower = marker.toList ∧ separators ≠ [] ∧
      32 ≤ run.length then
    some (marker.toList.length + separators.length + run.length, run)
  else none

/-- `hexRegex` -/
def hexRule : Rule Char := fun text => markers.findSome? (markerRule · text)

/-- In both replacements `$1` is the group that stays: the field, or the encoded text. -/
def redactLogMessage (message : List Char) : List Char :=
  let redacted := redactedFields.foldl
    (fun redacted field => substitute (fieldRule field) redactedMark redacted) message
  substitute hexRule redactedMark redacted

end TikkaRaffle.Oracle.Logging
