import TikkaRaffle.Oracle.FailureAlert

/-! Which failures of the submitter reach the webhook. The texts of three errors
end in a transaction hash, and the secret check takes every hash for a key. -/
namespace TikkaRaffle.Properties

open TikkaRaffle.Lib TikkaRaffle.Oracle TikkaRaffle.Oracle.Alerting

mutual

def valueTexts : Value → List String
  | .text value => [value]
  | .object fields | .custom fields none => fieldTexts fields
  | .custom fields (some json) => fieldTexts fields ++ valueTexts json
  | .absent | .bool _ | .number _ | .bigint _ | .unlisted | .enclosing => []

def fieldTexts : List (String × Value) → List String
  | [] => []
  | (_, value) :: rest => valueTexts value ++ fieldTexts rest

end

/-- Some field of the payload contains the secret. -/
def Carries (alert : AlertPayload) (now : Int) (secret : String) : Prop :=
  ∃ text ∈ valueTexts (alert.payload now), secret.toList <:+: text.toList

instance (alert : AlertPayload) (now : Int) (secret : String) :
    Decidable (Carries alert now secret) :=
  inferInstanceAs (Decidable (∃ text ∈ _, _))

/-- The alert is posted to the webhook. -/
def Delivered (alerter : Alerter) (alert : AlertPayload) (now : Int) (reply : FetchReply)
    (s : AlerterState) : Prop :=
  alerter.notify alert now reply s = (.ok true, (s.sentAt alert.type now).posted alert now reply)

/-- The text has a part in the shape of a secret key. -/
def KeyShaped (text : List Char) : Prop :=
  ∃ pattern ∈ [strKeyPattern, hexPattern, base64Pattern], patternOccurs pattern text = true

def IsHash (hash : String) : Prop :=
  hash.toList.length = 64 ∧ ∀ c ∈ hash.toList, isHexDigit c = true

instance (hash : String) : Decidable (IsHash hash) := inferInstanceAs (Decidable (_ ∧ _))

variable {alerter : Alerter} {alert : AlertPayload} {now : Int} {reply : FetchReply}
  {s : AlerterState} {options : TxSubmitterOptions} {t : TxSubmitterService} {message : String}

theorem checkText_ok_iff {text : String} : checkText text = .ok () ↔ ¬ KeyShaped text.toList := by
  rw [checkText_eq_ok_iff]
  simp [KeyShaped]

theorem posts_of_requested (h : Delivered alerter alert now reply s) :
    (alerter.notify alert now reply s).2.posts = s.posts ++ [⟨alert, now, reply⟩] := by
  rw [h]
  rfl

theorem not_delivered_of_posts (h : (alerter.notify alert now reply s).2.posts = s.posts) :
    ¬ Delivered alerter alert now reply s := by
  intro hdelivered
  rw [posts_of_requested hdelivered] at h
  exact absurd (congrArg List.length h) (by simp)

theorem delivered_iff (henabled : alerter.enabled = true)
    (hpasses : ¬ alerter.suppresses alert now s) :
    Delivered alerter alert now reply s ↔
      Clean alert now ∧ serialises (alert.payload now) = true := by
  have hcases := notify_cases alert now reply s henabled
  generalize hresult : alerter.notify alert now reply s = result at hcases
  have hsame (hposts : result.2.posts = s.posts) : ¬ Delivered alerter alert now reply s := by
    rw [← hresult] at hposts
    exact not_delivered_of_posts hposts
  cases hcases with
  | suppressed hsuppressed => exact (hpasses hsuppressed).elim
  | requested _ hclean hserial => exact iff_of_true hresult ⟨hclean, hserial⟩
  | unserialised _ _ hserial =>
    exact iff_of_false (hsame rfl) fun h => by simp [hserial] at h
  | refused _ hrejected => exact iff_of_false (hsame rfl) fun h => hrejected h.1
  | noted _ hrejected => exact iff_of_false (hsame rfl) fun h => hrejected h.1

theorem KeyShaped.of_part {part text : List Char} (h : KeyShaped part) (hpart : part <:+: text) :
    KeyShaped text := by
  obtain ⟨pattern, hpattern, hoccurs⟩ := h
  obtain ⟨word, hword, hfits⟩ := patternOccurs_iff.mp hoccurs
  exact ⟨pattern, hpattern, patternOccurs_iff.mpr ⟨word, hword.trans hpart, hfits⟩⟩

theorem border_of_patterns {a : Char} (hbase32 : isBase32Char a = false)
    (hhex : isHexDigit a = false) (hbase64 : isBase64Char a = false) (hmarks : a ≠ 'S' ∧ a ≠ '=') :
    ∀ pattern ∈ [strKeyPattern, hexPattern, base64Pattern], ∀ p ∈ pattern, p a = false := by
  intro pattern hpattern p hp
  simp only [List.mem_cons, List.not_mem_nil, or_false] at hpattern
  rcases hpattern with rfl | rfl | rfl
  · rcases List.mem_cons.mp hp with rfl | hp
    · simp [hmarks]
    · rwa [List.eq_of_mem_replicate hp]
  · rwa [List.eq_of_mem_replicate hp]
  · rcases List.mem_append.mp hp with hp | hp
    · rwa [List.eq_of_mem_replicate hp]
    · rw [List.mem_singleton.mp hp]
      simp [hmarks]

theorem keyShaped_around {before after : List Char} {a : Char} (hbase32 : isBase32Char a = false)
    (hhex : isHexDigit a = false) (hbase64 : isBase64Char a = false) (hmarks : a ≠ 'S' ∧ a ≠ '=') :
    KeyShaped (before ++ a :: after) ↔ KeyShaped before ∨ KeyShaped after := by
  have hborder := border_of_patterns hbase32 hhex hbase64 hmarks
  constructor
  · rintro ⟨pattern, hpattern, hoccurs⟩
    exact ((patternOccurs_around_iff (hborder pattern hpattern)).mp hoccurs).imp
      (fun h => ⟨pattern, hpattern, h⟩) fun h => ⟨pattern, hpattern, h⟩
  · rintro (⟨pattern, hpattern, h⟩ | ⟨pattern, hpattern, h⟩)
    · exact ⟨pattern, hpattern, (patternOccurs_around_iff (hborder pattern hpattern)).mpr (.inl h)⟩
    · exact ⟨pattern, hpattern, (patternOccurs_around_iff (hborder pattern hpattern)).mpr (.inr h)⟩

theorem KeyShaped.length_le {text : List Char} (h : KeyShaped text) : 44 ≤ text.length := by
  obtain ⟨pattern, hpattern, hoccurs⟩ := h
  obtain ⟨word, hword, hfits⟩ := patternOccurs_iff.mp hoccurs
  have hlong : ∀ pattern ∈ [strKeyPattern, hexPattern, base64Pattern], 44 ≤ pattern.length := by
    simp [strKeyPattern, hexPattern, base64Pattern]
  calc 44 ≤ pattern.length := hlong pattern hpattern
    _ = word.length := hfits.length_eq
    _ ≤ text.length := hword.length_le

theorem not_shaped_of_length {text : List Char} (h : text.length < 44) : ¬ KeyShaped text :=
  fun hshaped => absurd hshaped.length_le (Nat.not_le.mpr h)

theorem hex_shaped {text : List Char} (hhex : ∀ c ∈ text, isHexDigit c = true)
    (hlength : 64 ≤ text.length) : KeyShaped text := by
  refine ⟨hexPattern, by simp, patternOccurs_iff.mpr ⟨text.take 64, ?_, ?_⟩⟩
  · exact (List.take_prefix 64 text).isInfix
  · refine fits_replicate_iff.mpr ⟨?_, fun c hc => hhex c (List.mem_of_mem_take hc)⟩
    rw [List.length_take, Nat.min_eq_left hlength]

theorem hash_shaped {error : SubmissionError} {hash : String} (h : hash ∈ error.hash)
    (hhash : IsHash hash) : KeyShaped error.message.toList := by
  refine (hex_shaped hhash.2 hhash.1.ge).of_part ?_
  have hend : ∀ before : String, hash.toList <:+: (before ++ hash).toList := by
    intro before
    rw [String.toList_append]
    exact (List.suffix_append ..).isInfix
  have hmiddle : ∀ before after : String, hash.toList <:+: (before ++ hash ++ after).toList := by
    intro before after
    rw [String.toList_append]
    exact (hend before).trans (List.prefix_append ..).isInfix
  cases error with
  | failedOnChain other =>
    cases h
    exact hend _
  | unconfirmed other =>
    cases h
    exact hend _
  | tooLate other =>
    cases h
    exact hmiddle ..
  | thrown message => cases h
  | simulation json => cases h
  | send errorResult => cases h

theorem isHexDigit_of_isDigit {c : Char} (hc : c.isDigit = true) : isHexDigit c = true := by
  rw [Char.isDigit, Bool.and_eq_true, decide_eq_true_eq, decide_eq_true_eq] at hc
  have hlow : 48 ≤ c.toNat := UInt32.le_iff_toNat_le.mp hc.1
  have hhigh : c.toNat ≤ 57 := UInt32.le_iff_toNat_le.mp hc.2
  have hall : ∀ n < 58, 48 ≤ n → isHexDigit (Char.ofNat n) = true := by decide
  rw [← Char.ofNat_toNat c]
  exact hall c.toNat (by omega) hlow

theorem isDigit_of_mem_toString {n : ℕ} {c : Char} (hc : c ∈ (toString n).toList) :
    c.isDigit = true := by
  rw [show (toString n).toList = Nat.toDigits 10 n from Nat.toList_repr] at hc
  exact Nat.isDigit_of_mem_toDigits (by decide) (by decide) hc

/-- A number only has the shape of a key in hex. -/
theorem digits_shaped_iff (n : ℕ) :
    KeyShaped (toString n).toList ↔ 64 ≤ (toString n).toList.length := by
  refine ⟨?_, hex_shaped fun c hc => isHexDigit_of_isDigit (isDigit_of_mem_toString hc)⟩
  have hmark : ∀ pattern : List (Char → Bool), ∀ mark : Char, mark.isDigit = false →
      (· == mark) ∈ pattern → patternOccurs pattern (toString n).toList = false := by
    intro pattern mark hnot hmem
    refine Bool.eq_false_iff.mpr fun hoccurs => ?_
    obtain ⟨word, hword, hfits⟩ := patternOccurs_iff.mp hoccurs
    obtain ⟨c, hc, heq⟩ := exists_mem_of_class hfits hmem
    have hdigit := isDigit_of_mem_toString (hword.subset hc)
    rw [eq_of_beq heq, hnot] at hdigit
    cases hdigit
  rintro ⟨pattern, hpattern, hoccurs⟩
  simp only [List.mem_cons, List.not_mem_nil, or_false] at hpattern
  rcases hpattern with rfl | rfl | rfl
  · rw [hmark strKeyPattern 'S' (by decide) (List.mem_cons_self ..)] at hoccurs
    cases hoccurs
  · obtain ⟨word, hword, hfits⟩ := patternOccurs_iff.mp hoccurs
    rw [← (fits_replicate_iff.mp hfits).1]
    exact hword.length_le
  · rw [hmark base64Pattern '=' (by decide) (by simp [base64Pattern])] at hoccurs
    cases hoccurs

theorem failureText_toList : (t.failureAlert options message).message.toList =
    "provide_randomness submission failed ".toList ++ '(' ::
      ((toString (t.consecutiveFailures + 1)).toList ++ ' ' ::
        ("consecutive):".toList ++ ' ' :: message.toList)) := by
  simp [TxSubmitterService.failureAlert, String.toList_append]

theorem failureText_shaped_iff :
    KeyShaped (t.failureAlert options message).message.toList ↔
      64 ≤ (toString (t.consecutiveFailures + 1)).length ∨ KeyShaped message.toList := by
  rw [failureText_toList, keyShaped_around (by decide) (by decide) (by decide) (by decide),
    keyShaped_around (by decide) (by decide) (by decide) (by decide),
    keyShaped_around (by decide) (by decide) (by decide) (by decide), digits_shaped_iff,
    String.length_toList]
  have hfirst : ¬ KeyShaped "provide_randomness submission failed ".toList :=
    not_shaped_of_length (by decide)
  have hlast : ¬ KeyShaped "consecutive):".toList := not_shaped_of_length (by decide)
  simp only [hfirst, hlast, false_or]

theorem failureAlert_payload : (t.failureAlert options message).payload now =
    .object [("type", .text "submission_failure"), ("severity", .text "critical"),
      ("message", .text (t.failureAlert options message).message),
      ("details", .object [("consecutiveFailures", .number (t.consecutiveFailures + 1)),
        ("threshold", .number options.failureThreshold), ("message", .text message)]),
      ("timestamp", .number now)] := rfl

theorem failureAlert_clean_iff : Clean (t.failureAlert options message) now ↔
    (toString (t.consecutiveFailures + 1)).length < 64 ∧ ¬ KeyShaped message.toList := by
  have htype : assertNoSecrets (.text "submission_failure") = .ok () :=
    checkText_ok_iff.mpr (not_shaped_of_length (by decide))
  have hseverity : assertNoSecrets (.text "critical") = .ok () :=
    checkText_ok_iff.mpr (not_shaped_of_length (by decide))
  have hmessage : ∀ text, assertNoSecrets (.text text) = .ok () ↔ ¬ KeyShaped text.toList :=
    fun _ => checkText_ok_iff
  have hnumber : ∀ n, assertNoSecrets (.number n) = .ok () := fun _ => by rw [assertNoSecrets]
  have hobject : ∀ fields, assertNoSecrets (.object fields) = assertFields fields :=
    fun _ => by rw [assertNoSecrets]
  have hnone : assertFields [] = .ok () := by rw [assertFields]
  unfold Clean
  rw [failureAlert_payload, hobject, assertFields_cons (by decide), assertFields_cons (by decide),
    assertFields_cons (by decide), assertFields_cons (by decide), assertFields_cons (by decide),
    hobject, assertFields_cons (by decide), assertFields_cons (by decide),
    assertFields_cons (by decide), hmessage message,
    hmessage (t.failureAlert options message).message, failureText_shaped_iff]
  simp only [htype, hseverity, hnumber, hnone, true_and, and_true, not_or, not_le]
  exact ⟨fun h => h.1, fun h => ⟨h, h.2⟩⟩

theorem failureAlert_serialises :
    serialises ((t.failureAlert options message).payload now) = true := by
  rw [failureAlert_payload]
  simp only [serialises, fieldsSerialise, Bool.and_true]

/-- An alert at the threshold reaches the webhook if and only if nothing in the
error has the shape of a key. A transaction hash always has. -/
theorem failing_submitter_alerts_iff (alerter : Alerter) (options : TxSubmitterOptions)
    (t : TxSubmitterService) (s : AlerterState) (now : Int) (reply : FetchReply)
    (error : SubmissionError) (secret : String) (henabled : alerter.enabled = true) (halerter : options.alerter = true)
    (hthreshold : options.failureThreshold ≤ t.consecutiveFailures + 1)
    (hwindow : alerter.rateLimitMs ≤ now - (s.lastSentAt "submission_failure").getD 0) :
    let alert := t.failureAlert options error.message
    (t.recordFailure options error.message).alerts = t.alerts ++ [alert.message] ∧
    ((¬ Carries alert now secret → Delivered alerter alert now reply s) ↔
      Carries alert now secret ∨
        (toString (t.consecutiveFailures + 1)).length < 64 ∧ ¬ KeyShaped error.message.toList) ∧
    ∀ hash ∈ error.hash, IsHash hash → ¬ Delivered alerter alert now reply s := by
  have hpasses : ¬ alerter.suppresses (t.failureAlert options error.message) now s := by
    rintro ⟨-, hnear⟩
    exact absurd hnear (Int.not_lt.mpr hwindow)
  have hdelivered : Delivered alerter (t.failureAlert options error.message) now reply s ↔
      (toString (t.consecutiveFailures + 1)).length < 64 ∧ ¬ KeyShaped error.message.toList := by
    rw [delivered_iff henabled hpasses, and_iff_left failureAlert_serialises,
      failureAlert_clean_iff]
  refine ⟨t.recordFailure_alerts options error.message halerter hthreshold, ?_, ?_⟩
  · rw [← hdelivered]
    exact or_iff_not_imp_left.symm
  · intro hash hhash hhex hpost
    exact (hdelivered.mp hpost).2 (hash_shaped hhash hhex)

def testAlerter : Alerter := .make (some "https://hooks.example.com/alert") none (some 60000)

def failing : TxSubmitterService := { consecutiveFailures := 2 }

def alerting : TxSubmitterOptions := { alerter := true }

def testHash : String := String.ofList (List.replicate 64 'a')

def testSecret : String := String.ofList ('S' :: List.replicate 55 'A')

theorem not_carries {secret : String} (hsecret : 'S' ∈ secret.toList)
    (hmessage : 'S' ∉ message.toList) :
    ¬ Carries (t.failureAlert options message) now secret := by
  have hdigits : 'S' ∉ (toString (t.consecutiveFailures + 1)).toList := fun hmem => by
    cases isDigit_of_mem_toString hmem
  have htype : 'S' ∉ "submission_failure".toList := by decide
  have hseverity : 'S' ∉ "critical".toList := by decide
  have hfirst : 'S' ∉ "provide_randomness submission failed ".toList := by decide
  have hlast : 'S' ∉ "consecutive):".toList := by decide
  have htext : 'S' ∉ (t.failureAlert options message).message.toList := by
    rw [failureText_toList]
    simp only [List.mem_append, List.mem_cons, hfirst, hlast, hdigits, hmessage, or_false,
      false_or]
    decide
  rintro ⟨text, hmem, hinfix⟩
  simp only [failureAlert_payload, valueTexts, fieldTexts, List.append_nil, List.nil_append,
    List.cons_append, List.mem_cons, List.not_mem_nil, or_false] at hmem
  have hin := hinfix.subset hsecret
  rcases hmem with rfl | rfl | rfl | rfl
  · exact htype hin
  · exact hseverity hin
  · exact htext hin
  · exact hmessage hin

theorem testSecret_mem : 'S' ∈ testSecret.toList := by
  have htext : testSecret.toList = 'S' :: List.replicate 55 'A' := String.toList_ofList
  exact htext ▸ List.mem_cons_self ..

theorem failing_submitter_alerts_fetch :
    Delivered testAlerter (failing.failureAlert alerting "fetch failed") 60000 (.response true) {} :=
  (failing_submitter_alerts_iff testAlerter alerting failing {} 60000 (.response true)
    (.thrown "fetch failed") testSecret (by decide) rfl (by decide) (by decide)).2.1.mpr
      (.inr ⟨by decide, not_shaped_of_length (by decide)⟩)
      (not_carries testSecret_mem (by decide))

theorem testHash_isHash : IsHash testHash := by
  have htext : testHash.toList = List.replicate 64 'a' := String.toList_ofList
  unfold IsHash
  rw [htext]
  refine ⟨List.length_replicate, fun c hc => ?_⟩
  rw [List.eq_of_mem_replicate hc]
  decide

def failedOnChain : AlertPayload :=
  failing.failureAlert alerting (SubmissionError.failedOnChain testHash).message

theorem failedOnChain_unclean (now : Int) : ¬ Clean failedOnChain now := fun hclean =>
  (failureAlert_clean_iff.mp hclean).2 (hash_shaped rfl testHash_isHash)

theorem failedOnChain_passes : ¬ testAlerter.suppresses failedOnChain 60000 {} := by
  rintro ⟨-, hnear⟩
  exact absurd hnear (by decide)

/-- The third failure on the chain is not told to anyone. -/
theorem failed_on_chain_rejected :
    let result := testAlerter.notify failedOnChain 60000 (.response true) {}
    alerting.failureThreshold ≤ failing.consecutiveFailures + 1 ∧ IsHash testHash ∧
      ¬ testAlerter.suppresses failedOnChain 60000 {} ∧ ¬ Carries failedOnChain 60000 testSecret ∧
      (∃ e, result.1 = .error e) ∧ result.2.posts = [] := by
  have hplain : 'S' ∉ (SubmissionError.failedOnChain testHash).message.toList := by
    have htext : (SubmissionError.failedOnChain testHash).message.toList =
        "Transaction failed on-chain: ".toList ++ testHash.toList := String.toList_append
    have hprefix : 'S' ∉ "Transaction failed on-chain: ".toList := by decide
    rw [htext, List.mem_append]
    rintro (h | h)
    · exact hprefix h
    · cases testHash_isHash.2 'S' h
  exact ⟨by decide, testHash_isHash, failedOnChain_passes, not_carries testSecret_mem hplain,
    notify_rejected failedOnChain 60000 (.response true) {} (by decide) failedOnChain_passes
      (failedOnChain_unclean 60000)⟩

end TikkaRaffle.Properties
