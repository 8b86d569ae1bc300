import Mathlib.Logic.Function.Basic
import TikkaRaffle.Lib.Occurrence
import TikkaRaffle.Oracle.SecretKey

/-! The alerter: a rate limit for each type of alert, a check that no payload
carries a secret, and the webhook behind both. -/
namespace TikkaRaffle.Oracle.Alerting

open TikkaRaffle.Lib

inductive AlertSeverity where
  | info | warning | critical
  deriving DecidableEq, Repr

def AlertSeverity.text : AlertSeverity → String
  | .info => "info"
  | .warning => "warning"
  | .critical => "critical"

/-- What a payload is made of. An array is an object with its positions as keys. -/
inductive Value where
  | absent
  | bool (value : Bool)
  | number (value : Int)
  | text (value : String)
  | bigint (value : Int)
  /-- A function or a symbol. -/
  | unlisted
  | object (fields : List (String × Value))
  /-- An object with a method `toJSON`; `none` stands for one that throws. -/
  | custom (fields : List (String × Value)) (json : Option Value)
  /-- A reference back to an enclosing object. -/
  | enclosing

structure AlertPayload where
  type : String
  severity : AlertSeverity
  message : String
  details : Option (List (String × Value)) := none
  bypassRateLimit : Option Bool := none

def AlertPayload.bypasses (alert : AlertPayload) : Bool := alert.bypassRateLimit.getD false

/-- `{ ...alert, timestamp: now }` -/
def AlertPayload.payload (alert : AlertPayload) (now : Int) : Value :=
  .object
    ([("type", .text alert.type), ("severity", .text alert.severity.text),
      ("message", .text alert.message)] ++
      (alert.details.map fun details => ("details", .object details)).toList ++
      (alert.bypassRateLimit.map fun bypass => ("bypassRateLimit", .bool bypass)).toList ++
      [("timestamp", .number now)])

def isBase32Char (c : Char) : Bool := ('A' ≤ c && c ≤ 'Z') || ('2' ≤ c && c ≤ '7')

def isBase64Char (c : Char) : Bool := base64Table.toList.contains c

/-- `/S[A-Z2-7]{55}/` -/
def strKeyPattern : List (Char → Bool) := (· == 'S') :: List.replicate 55 isBase32Char

/-- `/[0-9a-fA-F]{64}/` -/
def hexPattern : List (Char → Bool) := List.replicate 64 isHexDigit

/-- `/[A-Za-z0-9+/]{43}=/` -/
def base64Pattern : List (Char → Bool) := List.replicate 43 isBase64Char ++ [(· == '=')]

def checkText (value : String) : Except String Unit :=
  if patternOccurs strKeyPattern value.toList then
    .error "Security assertion failed: Stellar secret key detected in alert payload"
  else if patternOccurs hexPattern value.toList then
    .error "Security assertion failed: Hex secret key detected in alert payload"
  else if patternOccurs base64Pattern value.toList then
    .error "Security assertion failed: Base64 secret key detected in alert payload"
  else .ok ()

theorem checkText_eq_ok_iff {value : String} : checkText value = .ok () ↔
    patternOccurs strKeyPattern value.toList = false ∧
      patternOccurs hexPattern value.toList = false ∧
      patternOccurs base64Pattern value.toList = false := by
  unfold checkText
  cases patternOccurs strKeyPattern value.toList <;>
    cases patternOccurs hexPattern value.toList <;>
      cases patternOccurs base64Pattern value.toList <;> simp

/-- `key.toLowerCase()`, as far as the names below can tell: besides the capital
letters, the Kelvin sign becomes one of theirs. -/
def lowerKey (key : String) : List Char :=
  key.toList.map fun c => if c = '\u212A' then 'k' else c.toLower

def isSecretKeyField (key : String) : Bool :=
  let lower := lowerKey key
  decide ("secretkey".toList <:+: lower) || decide ("privatekey".toList <:+: lower) ||
    lower = "secret".toList || decide ("oracle_secret".toList <:+: lower)

mutual

def assertNoSecrets : Value → Except String Unit
  | .text value => checkText value
  | .object fields | .custom fields _ => assertFields fields
  | .enclosing => .error "Maximum call stack size exceeded"
  | .absent | .bool _ | .number _ | .bigint _ | .unlisted => .ok ()

def assertFields : List (String × Value) → Except String Unit
  | [] => .ok ()
  | (key, value) :: rest => do
      check (isSecretKeyField key = false)
        ("Security assertion failed: Secret key field \"" ++ key ++ "\" detected in alert payload")
      assertNoSecrets value
      assertFields rest

end

theorem assertFields_cons {key : String} {value : Value} {rest : List (String × Value)}
    (hkey : isSecretKeyField key = false) : assertFields ((key, value) :: rest) = .ok () ↔
      assertNoSecrets value = .ok () ∧ assertFields rest = .ok () := by
  rw [assertFields, except_bind_ok]
  simp only [check_ok, hkey, exists_const, true_and, except_bind_ok]
  constructor
  · rintro ⟨u, hvalue, hrest⟩
    exact ⟨hvalue, hrest⟩
  · rintro ⟨hvalue, hrest⟩
    exact ⟨(), hvalue, hrest⟩

mutual

/-- `JSON.stringify` returns instead of throwing. -/
def serialises : Value → Bool
  | .object fields => fieldsSerialise fields
  | .custom _ (some json) => answerSerialises json
  | .custom _ none | .bigint _ | .enclosing => false
  | .absent | .bool _ | .number _ | .text _ | .unlisted => true

/-- What a `toJSON` returns is not asked for its own `toJSON`. -/
def answerSerialises : Value → Bool
  | .object fields | .custom fields _ => fieldsSerialise fields
  | .bigint _ | .enclosing => false
  | .absent | .bool _ | .number _ | .text _ | .unlisted => true

def fieldsSerialise : List (String × Value) → Bool
  | [] => true
  | (_, value) :: rest => serialises value && fieldsSerialise rest

end

structure Alerter where
  webhookUrl : String
  rateLimitMs : Int
  rateLimitMs_nonneg : 0 ≤ rateLimitMs

/-- The constructor; `none` stands for a rate limit that is no finite number. -/
def Alerter.make (webhookUrl envWebhookUrl : Option String) (rawRateLimit : Option Int) : Alerter :=
  if h : 0 ≤ rawRateLimit.getD 60000 then
    ⟨(webhookUrl <|> envWebhookUrl).getD "", rawRateLimit.getD 60000, h⟩
  else ⟨(webhookUrl <|> envWebhookUrl).getD "", 60000, by decide⟩

def Alerter.enabled (alerter : Alerter) : Bool := 0 < (trim alerter.webhookUrl.toList).length

/-- What comes of a request: the webhook answers, or `fetchImpl` rejects, before
or after the request has gone out. -/
inductive FetchReply where
  | response (ok : Bool)
  | rejected (reached : Bool)

def FetchReply.reached : FetchReply → Bool
  | .response _ => true
  | .rejected reached => reached

structure Post where
  alert : AlertPayload
  time : Int
  reply : FetchReply

structure AlerterState where
  lastSentAt : String → Option Int := fun _ => none
  posts : List Post := []

def AlerterState.sentAt (type : String) (now : Int) (s : AlerterState) : AlerterState :=
  { s with lastSentAt := Function.update s.lastSentAt type (some now) }

@[simp] theorem AlerterState.lastSentAt_sentAt (type : String) (now : Int) (s : AlerterState) :
    (s.sentAt type now).lastSentAt type = some now :=
  Function.update_self ..

theorem AlerterState.lastSentAt_sentAt_of_ne {type other : String} (h : other ≠ type) (now : Int)
    (s : AlerterState) : (s.sentAt type now).lastSentAt other = s.lastSentAt other :=
  Function.update_of_ne h ..

theorem AlerterState.sentAt_sentAt (type : String) (now : Int) (s : AlerterState) :
    (s.sentAt type now).sentAt type now = s.sentAt type now := by
  simp only [AlerterState.sentAt, Function.update_idem]

def AlerterState.posted (alert : AlertPayload) (now : Int) (reply : FetchReply)
    (s : AlerterState) : AlerterState :=
  { s with posts := s.posts ++ [⟨alert, now, reply⟩] }

structure NotifyCall where
  alert : AlertPayload
  now : Int
  reply : FetchReply

namespace Alerter

variable (alerter : Alerter) (alert : AlertPayload) (now : Int) (reply : FetchReply)
  (s : AlerterState)

def suppresses : Prop :=
  alert.bypasses = false ∧ now - (s.lastSentAt alert.type).getD 0 < alerter.rateLimitMs

instance : Decidable (alerter.suppresses alert now s) :=
  inferInstanceAs (Decidable (_ ∧ _))

/-- The answer of the webhook is logged and changes nothing. -/
def notify : Except String Bool × AlerterState :=
  if alerter.enabled = false then (.ok false, s)
  else if alerter.suppresses alert now s then (.ok false, s)
  else
    let s := if alert.bypasses then s else s.sentAt alert.type now
    match assertNoSecrets (alert.payload now) with
    | .error e => (.error e, s)
    | .ok () =>
        let s := s.sentAt alert.type now
        -- the payload is serialised inside the `try`, so that a throw is only logged
        if serialises (alert.payload now) then (.ok true, s.posted alert now reply)
        else (.ok true, s)

def run (calls : List NotifyCall) : AlerterState :=
  calls.foldl (fun s call => (alerter.notify call.alert call.now call.reply s).2) s

theorem run_singleton :
    alerter.run s [⟨alert, now, reply⟩] = (alerter.notify alert now reply s).2 := rfl

end Alerter

variable {alerter : Alerter} (alert : AlertPayload) (now : Int) (reply : FetchReply)
  (s : AlerterState)

theorem notify_suppressed (henabled : alerter.enabled = true)
    (h : alerter.suppresses alert now s) : alerter.notify alert now reply s = (.ok false, s) := by
  rw [Alerter.notify, if_neg (by rw [henabled]; decide), if_pos h]

def Clean : Prop := assertNoSecrets (alert.payload now) = .ok ()

inductive Notified (alerter : Alerter) : Except String Bool × AlerterState → Prop where
  | suppressed (hsuppressed : alerter.suppresses alert now s) : Notified alerter (.ok false, s)
  | requested (hpasses : ¬ alerter.suppresses alert now s) (hclean : Clean alert now)
      (hserial : serialises (alert.payload now) = true) :
      Notified alerter (.ok true, (s.sentAt alert.type now).posted alert now reply)
  | unserialised (hpasses : ¬ alerter.suppresses alert now s) (hclean : Clean alert now)
      (hserial : serialises (alert.payload now) = false) :
      Notified alerter (.ok true, s.sentAt alert.type now)
  | refused (hpasses : ¬ alerter.suppresses alert now s) (hrejected : ¬ Clean alert now)
      (hbypass : alert.bypasses = true) (e : String) : Notified alerter (.error e, s)
  | noted (hpasses : ¬ alerter.suppresses alert now s) (hrejected : ¬ Clean alert now)
      (hlimited : alert.bypasses = false) (e : String) :
      Notified alerter (.error e, s.sentAt alert.type now)

theorem notify_cases (henabled : alerter.enabled = true) :
    Notified alert now reply s alerter (alerter.notify alert now reply s) := by
  by_cases hsuppressed : alerter.suppresses alert now s
  · rw [notify_suppressed alert now reply s henabled hsuppressed]
    exact .suppressed hsuppressed
  · have hnoted : (if alert.bypasses then s else s.sentAt alert.type now).sentAt alert.type now =
        s.sentAt alert.type now := by
      split
      · rfl
      · exact AlerterState.sentAt_sentAt alert.type now s
    unfold Alerter.notify
    rw [if_neg (by rw [henabled]; decide), if_neg hsuppressed]
    cases hcheck : assertNoSecrets (alert.payload now) with
    | ok u =>
      dsimp only
      rw [hnoted]
      cases hserial : serialises (alert.payload now) with
      | true => exact .requested hsuppressed hcheck hserial
      | false => exact .unserialised hsuppressed hcheck hserial
    | error e =>
      have hrejected : ¬ Clean alert now := by
        intro hclean
        rw [Clean, hcheck] at hclean
        cases hclean
      cases hbypass : alert.bypasses with
      | true => exact .refused hsuppressed hrejected hbypass e
      | false => exact .noted hsuppressed hrejected hbypass e

theorem notify_rejected (henabled : alerter.enabled = true)
    (hpasses : ¬ alerter.suppresses alert now s) (hrejected : ¬ Clean alert now) :
    (∃ e, (alerter.notify alert now reply s).1 = .error e) ∧
      (alerter.notify alert now reply s).2.posts = s.posts := by
  have hcases := notify_cases alert now reply s henabled
  generalize alerter.notify alert now reply s = result at hcases ⊢
  cases hcases with
  | suppressed hsuppressed => exact (hpasses hsuppressed).elim
  | requested _ hclean => exact (hrejected hclean).elim
  | unserialised _ hclean => exact (hrejected hclean).elim
  | refused _ _ _ e => exact ⟨⟨e, rfl⟩, rfl⟩
  | noted _ _ _ e => exact ⟨⟨e, rfl⟩, rfl⟩

end TikkaRaffle.Oracle.Alerting
