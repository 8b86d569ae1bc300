import TikkaRaffle.Oracle.Logger

/-! Which secrets a log message loses. The values of sensitive fields go, and of an
encoded text its marker goes and the text stays. -/
namespace TikkaRaffle.Properties

open TikkaRaffle.Lib TikkaRaffle.Oracle TikkaRaffle.Oracle.Logging
open scoped TikkaRaffle.Lib.Members

def endsInField (before : List Char) : Bool :=
  redactedFields.any fun field => endsIn Char.toLower (fieldKey field) before

/-- The message with its sensitive values hidden: a word is cut after the first
sensitive field that is assigned in it. -/
def hideValues (message : List Char) : List Char :=
  mapWords isPlain (cutWord endsInField redactedMark) message

theorem toLower_of_not_upper {c : Char} (h : ¬ (65 ≤ c.toNat ∧ c.toNat ≤ 90)) : c.toLower = c := by
  refine dif_neg fun hupper => h ⟨?_, ?_⟩
  · exact UInt32.le_iff_toNat_le.mp hupper.1
  · exact UInt32.le_iff_toNat_le.mp hupper.2

theorem isPlain_of_upper {c : Char} (hlow : 65 ≤ c.toNat) (hhigh : c.toNat ≤ 90) :
    isPlain c = true := by
  have hall : ∀ n < 91, 65 ≤ n → isPlain (Char.ofNat n) = true := by decide
  rw [← Char.ofNat_toNat c]
  exact hall c.toNat (by omega) hlow

theorem isPlain_of_toLower_mem {field : String} (hfield : field ∈ redactedFields) {c : Char}
    (hc : c.toLower ∈ fieldKey field) : isPlain c = true := by
  by_cases hupper : 65 ≤ c.toNat ∧ c.toNat ≤ 90
  · exact isPlain_of_upper hupper.1 hupper.2
  · have hkeys : ∀ field ∈ redactedFields, ∀ c ∈ fieldKey field, isPlain c = true := by
      decide +kernel
    rw [toLower_of_not_upper hupper] at hc
    exact hkeys field hfield c hc

theorem isWord_mark : IsWord isPlain redactedMark := by decide

/-- The twelve substitutions hide the values. -/
theorem redactFields_eq (message : List Char) :
    redactedFields.foldl
      (fun redacted field => substitute (fieldRule field) redactedMark redacted) message =
      hideValues message := by
  have hends : ∀ field before, ∀ c ∈ redactedMark,
      endsIn Char.toLower (fieldKey field) (before ++ [c]) = false := by
    intro field before c hc
    have hmark : ∀ c ∈ redactedMark, c.toLower ≠ '=' := by decide
    exact endsIn_append_singleton rfl (hmark c hc) before
  have hfold := foldl_mapWords_cutWord hends isWord_mark redactedFields message
  refine Eq.trans (List.foldl_ext _ _ message fun redacted field hfield => ?_) hfold
  exact substitute_assignment (List.concat_ne_nil '=' _) (fun c => isPlain_of_toLower_mem hfield)
    redacted

structure MarkedRun (matched run : List Char) (marker separators : List Char) : Prop where
  matched_eq : matched = marker ++ separators ++ run
  known : marker.map Char.toLower ∈ markers.map String.toList
  separated : separators ≠ [] ∧ ∀ c ∈ separators, isSeparator c = true
  encoded : ∀ c ∈ run, isEncodedChar c = true
  long : 32 ≤ run.length

theorem takeWhile_dropWhile_same {p : Char → Bool} (text : List Char) :
    (text.dropWhile p).takeWhile p = [] := by
  induction text with
  | nil => rfl
  | cons c rest ih =>
    cases hc : p c with
    | true => rwa [List.dropWhile_cons_of_pos hc]
    | false =>
      have hstop : ¬ p c = true := Bool.eq_false_iff.mp hc
      rw [List.dropWhile_cons_of_neg hstop, List.takeWhile_cons_of_neg hstop]

theorem hexRule_some {text run : List Char} {length : ℕ} (h : hexRule text = some (length, run)) :
    ∃ matched rest, text = matched ++ rest ∧ length = matched.length ∧
      rest.takeWhile isEncodedChar = [] ∧
      ∃ marker separators, MarkedRun matched run marker separators := by
  obtain ⟨marker, hmarker, hrule⟩ := List.exists_of_findSome?_eq_some h
  unfold markerRule at hrule
  dsimp only at hrule
  split at hrule
  · rename_i hfound
    obtain ⟨hword, hseparators, hrun⟩ := hfound
    cases hrule
    have hlength := congrArg List.length hword
    rw [List.length_map] at hlength
    generalize hn : marker.toList.length = n at *
    refine ⟨text.take n ++ (text.drop n).takeWhile isSeparator ++
      ((text.drop n).dropWhile isSeparator).takeWhile isEncodedChar,
      ((text.drop n).dropWhile isSeparator).dropWhile isEncodedChar, ?_, ?_,
      takeWhile_dropWhile_same _, text.take n, (text.drop n).takeWhile isSeparator,
      rfl, ?_, ⟨hseparators, fun c hc => List.mem_takeWhile_imp hc⟩,
      fun c hc => List.mem_takeWhile_imp hc, hrun⟩
    · simp only [List.append_assoc, List.takeWhile_append_dropWhile, List.take_append_drop]
    · rw [List.length_append, List.length_append, hlength]
    · rw [hword]
      exact List.mem_map_of_mem hmarker
  · cases hrule

theorem hexRule_sound : hexRule.Sound := by
  intro text length run h
  obtain ⟨matched, rest, rfl, rfl, -, marker, separators, hrun⟩ := hexRule_some h
  have hlong := hrun.long
  rw [hrun.matched_eq]
  simp only [List.length_append]
  omega

theorem hexRule_matched {matched rest run : List Char}
    (h : hexRule (matched ++ rest) = some (matched.length, run)) :
    rest.takeWhile isEncodedChar = [] ∧
      ∃ marker separators, MarkedRun matched run marker separators := by
  obtain ⟨matched', rest', htext, hlength, hrest, hrun⟩ := hexRule_some h
  obtain ⟨rfl, rfl⟩ := List.append_inj htext hlength
  exact ⟨hrest, hrun⟩

theorem hit_markedRun {text : List Char} {hit : Hit Char} (hhit : hit ∈ (division hexRule text).1) :
    ∃ marker separators, MarkedRun hit.matched hit.group marker separators := by
  obtain ⟨rest, hrule⟩ := hit_of_division hexRule_sound text hit hhit
  exact (hexRule_matched hrule).2

def isSecretChar (c : Char) : Bool := isEncodedChar c || c = '_' || c = '-'

/-- A secret that is assigned to a sensitive field. -/
structure AssignedSecret (before secret after : List Char) : Prop where
  assigned : ∃ front tag, before = front ++ tag ∧
    ∃ field ∈ redactedFields, tag.map Char.toLower = fieldKey field
  chars : ∀ c ∈ secret, isSecretChar c = true
  long : 16 ≤ secret.length
  ended : after.takeWhile isPlain = []

/-- An encoded secret that follows a marker. -/
structure MarkedSecret (before secret after : List Char) : Prop where
  marked : ∃ front marker separators, before = front ++ marker ++ separators ∧
    marker.map Char.toLower ∈ markers.map String.toList ∧
      separators ≠ [] ∧ ∀ c ∈ separators, isSeparator c = true
  chars : ∀ c ∈ secret, isEncodedChar c = true
  long : 32 ≤ secret.length
  ended : after.takeWhile isEncodedChar = []

/-- The secret is nowhere else in the message. -/
def Once (before secret after : List Char) : Prop :=
  ∀ other rest, before ++ secret ++ after = other ++ secret ++ rest → other = before

/-- With the sensitive values hidden, the secret is part of a match, or of what is
before, between or after the matches. -/
def Whole (secret message : List Char) : Prop :=
  Lies secret (division hexRule (hideValues message))

/-- With the sensitive values hidden, a marker and its separators stand between
two parts of the secret. -/
def Rejoined (secret message : List Char) : Prop :=
  ∃ hit ∈ (division hexRule (hideValues message)).1, ∃ left right : List Char,
    left ≠ [] ∧ right ≠ [] ∧ secret = left ++ right ∧ left <:+ hit.gap ∧ right <+: hit.group

theorem secretChar_spec {c : Char} (hc : isSecretChar c = true) :
    isPlain c = true ∧ isSeparator c = false ∧ c ≠ '[' ∧ c ≠ ']' := by
  have hall : ∀ c ∈ base64Table.toList ++ ['=', '_', '-'],
      isPlain c = true ∧ isSeparator c = false ∧ c ≠ '[' ∧ c ≠ ']' := by
    decide +kernel
  refine hall c ?_
  simpa [isSecretChar, isEncodedChar, or_assoc] using hc

structure IsSecret (secret : List Char) : Prop where
  chars : ∀ c ∈ secret, isSecretChar c = true
  long : 16 ≤ secret.length

variable {before secret after message : List Char}

theorem AssignedSecret.isSecret (h : AssignedSecret before secret after) : IsSecret secret :=
  ⟨h.chars, h.long⟩

theorem MarkedSecret.isSecret (h : MarkedSecret before secret after) : IsSecret secret := by
  refine ⟨fun c hc => ?_, (by decide : 16 ≤ 32).trans h.long⟩
  rw [isSecretChar, h.chars c hc]
  rfl

namespace IsSecret

variable (h : IsSecret secret)

include h

theorem ne_nil : secret ≠ [] := List.ne_nil_of_length_pos (by have := h.long; omega)

theorem isWord : IsWord isPlain secret := fun c hc => (secretChar_spec (h.chars c hc)).1

theorem separator_notMem {c : Char} (hc : isSeparator c = true) : c ∉ secret := fun hmem => by
  rw [(secretChar_spec (h.chars c hmem)).2.1] at hc
  cases hc

theorem open_notMem : '[' ∉ secret := fun hmem => (secretChar_spec (h.chars _ hmem)).2.2.1 rfl

theorem close_notMem : ']' ∉ secret := fun hmem => (secretChar_spec (h.chars _ hmem)).2.2.2 rfl

theorem not_infix_of_short {part : List Char} (hpart : part.length < 16) : ¬ secret <:+: part :=
  fun hinfix => absurd (h.long.trans hinfix.length_le) (Nat.not_le.mpr hpart)

theorem infix_matched_iff {matched run marker separators : List Char}
    (hrun : MarkedRun matched run marker separators) :
    secret <:+: matched ↔ secret <:+: run := by
  have hmarker : marker.length < 16 := by
    have hall : ∀ word ∈ markers.map String.toList, word.length < 16 := by decide
    have hlength := hall _ hrun.known
    rwa [List.length_map] at hlength
  have hskip : ∀ part : List Char, (∀ c ∈ part, isSeparator c = true) →
      (secret <:+: part ++ run ↔ secret <:+: run) := by
    intro part hpart
    induction part with
    | nil => rfl
    | cons c part ih =>
      obtain ⟨hc, hpart⟩ := List.forall_mem_cons.mp hpart
      have hborder := infix_around_iff (x := []) (y := part ++ run) (h.separator_notMem hc)
      rw [List.nil_append] at hborder
      rw [List.cons_append, hborder, ih hpart]
      exact or_iff_right (h.not_infix_of_short (by decide))
  obtain ⟨c, part, hseparators⟩ := List.exists_cons_of_ne_nil hrun.separated.1
  have hall := hrun.separated.2
  rw [hseparators] at hall
  obtain ⟨hc, hpart⟩ := List.forall_mem_cons.mp hall
  rw [hrun.matched_eq, hseparators, List.append_assoc, List.cons_append,
    infix_around_iff (h.separator_notMem hc), hskip part hpart]
  exact or_iff_right (h.not_infix_of_short hmarker)

/-- Where a secret in the result comes from. -/
theorem kept_iff : secret <:+: redactLogMessage message ↔
    Whole secret message ∨ Rejoined secret message := by
  unfold redactLogMessage Whole Rejoined
  rw [redactFields_eq, show redactedMark = '[' :: ("REDACTED".toList ++ [']']) from by decide,
    infix_substitute_iff hexRule_sound h.open_notMem h.close_notMem
      (h.not_infix_of_short (by decide))]
  have hhit : ∀ hit ∈ (division hexRule (hideValues message)).1,
      (secret <:+: hit.gap ++ hit.group ↔ (secret <:+: hit.gap ∨ secret <:+: hit.matched) ∨
        ∃ left right : List Char, left ≠ [] ∧ right ≠ [] ∧ secret = left ++ right ∧
          left <:+ hit.gap ∧ right <+: hit.group) := by
    intro hit hmem
    obtain ⟨marker, separators, hrun⟩ := hit_markedRun hmem
    rw [h.infix_matched_iff hrun, List.infix_append_iff_ne_nil, or_assoc]
  constructor
  · rintro (⟨hit, hmem, hin⟩ | hlast)
    · rcases (hhit hit hmem).mp hin with hwhole | hjoined
      · exact .inl (.inl ⟨hit, hmem, hwhole⟩)
      · exact .inr ⟨hit, hmem, hjoined⟩
    · exact .inl (.inr hlast)
  · rintro ((⟨hit, hmem, hwhole⟩ | hlast) | ⟨hit, hmem, hjoined⟩)
    · exact .inl ⟨hit, hmem, (hhit hit hmem).mpr (.inl hwhole)⟩
    · exact .inr hlast
    · exact .inl ⟨hit, hmem, (hhit hit hmem).mpr (.inr hjoined)⟩

theorem infix_hideValues (hin : secret <:+: hideValues message) :
    ∃ before after, message = before ++ secret ++ after ∧
      Open isPlain endsInField (before ++ secret) :=
  infix_cut h.isWord h.open_notMem h.close_notMem
    (h.not_infix_of_short (by decide) : ¬ secret <:+: "REDACTED".toList) hin

end IsSecret

theorem AssignedSecret.hidden (h : AssignedSecret before secret after)
    (honce : Once before secret after) :
    ¬ secret <:+: hideValues (before ++ secret ++ after) := by
  intro hin
  obtain ⟨other, rest, heq, hopen⟩ := h.isSecret.infix_hideValues hin
  obtain rfl := honce other rest heq
  obtain ⟨front, tag, rfl, field, hfield, htag⟩ := h.assigned
  have hplain : IsWord isPlain tag := fun c hc =>
    isPlain_of_toLower_mem hfield (htag ▸ List.mem_map_of_mem hc)
  have hends : endsInField ((front ++ tag).rtakeWhile isPlain) = true := by
    refine List.any_eq_true.mpr ⟨field, hfield, decide_eq_true ?_⟩
    rw [rtakeWhile_append_word hplain, List.map_append, htag]
    exact List.suffix_append ..
  rw [Open, rtakeWhile_append_word h.isSecret.isWord] at hopen
  rw [hopen _ (List.prefix_append ..) fun hall =>
    h.isSecret.ne_nil (List.self_eq_append_right.mp hall)] at hends
  cases hends

theorem takeWhile_eq_nil_iff {p : Char → Bool} {text : List Char} :
    text.takeWhile p = [] ↔ ∀ c ∈ text.head?, p c = false := by
  cases text with
  | nil => exact iff_of_true rfl (by simp)
  | cons c rest => cases hc : p c <;> simp [hc]

theorem isEncodedChar_of_marker {marker : List Char}
    (hknown : marker.map Char.toLower ∈ markers.map String.toList) :
    ∀ c ∈ marker, isEncodedChar c = true := by
  intro c hc
  have hupper : ∀ n < 91, 65 ≤ n → isEncodedChar (Char.ofNat n) = true := by decide +kernel
  have hlower : ∀ word ∈ markers.map String.toList, ∀ c ∈ word, isEncodedChar c = true := by
    decide +kernel
  by_cases hcase : 65 ≤ c.toNat ∧ c.toNat ≤ 90
  · rw [← Char.ofNat_toNat c]
    exact hupper c.toNat (by omega) hcase.1
  · have hmem := List.mem_map_of_mem (f := Char.toLower) hc
    rw [toLower_of_not_upper hcase] at hmem
    exact hlower _ hknown c hmem

/-- No match starts in encoded text that neither goes on nor is followed by a separator. -/
theorem hexRule_none {part rest : List Char} (hpart : ∀ c ∈ part, isEncodedChar c = true)
    (hencoded : rest.takeWhile isEncodedChar = []) (hseparator : rest.takeWhile isSeparator = []) :
    hexRule (part ++ rest) = none := by
  cases hrule : hexRule (part ++ rest) with
  | none => rfl
  | some found =>
    obtain ⟨matched, tail, htext, -, -, marker, separators, hrun⟩ := hexRule_some hrule
    obtain ⟨c, others, hseparators⟩ := List.exists_cons_of_ne_nil hrun.separated.1
    have hc : isSeparator c = true := hrun.separated.2 c (hseparators ▸ List.mem_cons_self ..)
    have hstop : ¬ isEncodedChar c = true := fun hin => by
      have hsecret : isSecretChar c = true := by rw [isSecretChar, hin]; rfl
      rw [(secretChar_spec hsecret).2.1] at hc
      cases hc
    rw [hrun.matched_eq, hseparators] at htext
    simp only [List.append_assoc, List.cons_append] at htext
    have hmarker := congrArg (List.takeWhile isEncodedChar) htext
    rw [List.takeWhile_append_of_pos hpart, hencoded, List.append_nil,
      List.takeWhile_append_of_pos (isEncodedChar_of_marker hrun.known),
      List.takeWhile_cons_of_neg hstop, List.append_nil] at hmarker
    rw [hmarker, List.append_cancel_left_eq] at htext
    rw [htext, List.takeWhile_cons_of_pos hc] at hseparator
    cases hseparator

theorem MarkedSecret.whole (h : MarkedSecret before secret after)
    (hopen : Open isPlain endsInField (before ++ secret))
    (hafter : after.takeWhile isSeparator = []) : Whole secret (before ++ secret ++ after) := by
  have hcut : ∃ front rest, hideValues (before ++ secret ++ after) = front ++ secret ++ rest ∧
      (rest.head? = after.head? ∨ rest.head? = redactedMark.head?) :=
    cut_open (by decide) h.isSecret.isWord hopen
  obtain ⟨front, rest, heq, hhead⟩ := hcut
  have hstops : ∀ p : Char → Bool, p '[' = false → after.takeWhile p = [] →
      rest.takeWhile p = [] := by
    intro p hmark hnone
    refine takeWhile_eq_nil_iff.mpr fun c hc => ?_
    rcases hhead with hsame | hsame
    · exact takeWhile_eq_nil_iff.mp hnone c (hsame ▸ hc)
    · rw [hsame] at hc
      cases hc
      exact hmark
  have hencoded := hstops isEncodedChar (by decide) h.ended
  have hseparator := hstops isSeparator (by decide) hafter
  rw [Whole, heq]
  refine lies_of_append hexRule_sound h.isSecret.ne_nil ?_ ?_
  · intro part hpart _
    exact hexRule_none (fun c hc => h.chars c (hpart.subset hc)) hencoded hseparator
  · intro matched group c tail hrule hmem
    have htail := (hexRule_matched hrule).1
    rw [List.takeWhile_cons_of_pos (h.chars c hmem)] at htail
    cases htail

/-- The message loses the secret if and only if this is neither whole nor joined
once the sensitive values are hidden. The value of a sensitive field is never
whole. What follows a marker is, unless it is hidden or before a separator. -/
theorem secret_redacted_iff
    (h : AssignedSecret before secret after ∨ MarkedSecret before secret after)
    (honce : Once before secret after) :
    let message := before ++ secret ++ after
    (¬ secret <:+: redactLogMessage message ↔
      ¬ Whole secret message ∧ ¬ Rejoined secret message) ∧
    (AssignedSecret before secret after → ¬ Whole secret message) ∧
    (MarkedSecret before secret after → Open isPlain endsInField (before ++ secret) →
      after.takeWhile isSeparator = [] → Whole secret message) := by
  have hsecret : IsSecret secret := h.elim AssignedSecret.isSecret MarkedSecret.isSecret
  refine ⟨?_, ?_, MarkedSecret.whole⟩
  · rw [hsecret.kept_iff, not_or]
  · intro hassigned hwhole
    exact hassigned.hidden honce (infix_of_lies hexRule_sound hwhole)

theorem once_of_fresh (hsecret : secret ≠ []) (hfresh : ∀ c ∈ before, c ∉ secret) :
    Once before secret [] := by
  intro other rest heq
  rw [List.append_nil, List.append_assoc] at heq
  rcases List.append_eq_append_iff.mp heq with ⟨more, hother, hsplit⟩ | ⟨more, hbefore, hsplit⟩
  · have hlength := congrArg List.length hsplit
    simp only [List.length_append] at hlength
    have hmore : more = [] := List.eq_nil_of_length_eq_zero (by omega)
    rw [hother, hmore, List.append_nil]
  · cases more with
    | nil => rw [hbefore, List.append_nil]
    | cons c more =>
      obtain ⟨d, secret, rfl⟩ := List.exists_cons_of_ne_nil hsecret
      obtain ⟨rfl, -⟩ := List.cons.inj hsplit
      exact (hfresh d (by rw [hbefore]; simp) (List.mem_cons_self ..)).elim

theorem secret_redacted_token :
    ¬ List.replicate 16 'a' <:+:
      redactLogMessage ("token=".toList ++ List.replicate 16 'a' ++ []) := by
  have hassigned : AssignedSecret "token=".toList (List.replicate 16 'a') [] :=
    ⟨⟨[], "token=".toList, rfl, "token", by decide, by decide⟩, by decide, by decide, rfl⟩
  have hnone : (division hexRule (hideValues
      ("token=".toList ++ List.replicate 16 'a' ++ []))).1 = [] := by decide +kernel
  obtain ⟨hiff, hhidden, -⟩ := secret_redacted_iff (.inl hassigned)
    (once_of_fresh (by decide) (by decide))
  refine hiff.mpr ⟨hhidden hassigned, ?_⟩
  rintro ⟨hit, hmem, -⟩
  rw [hnone] at hmem
  cases hmem

/-- The marker of an encoded secret is removed, and the secret stays. -/
theorem encoded_secret_kept :
    MarkedSecret "hex: ".toList (List.replicate 32 'a') [] ∧
      Once "hex: ".toList (List.replicate 32 'a') [] ∧
      List.replicate 32 'a' <:+:
        redactLogMessage ("hex: ".toList ++ List.replicate 32 'a' ++ []) :=
  ⟨⟨⟨[], "hex".toList, ": ".toList, by decide, by decide, by decide, by decide⟩, by decide,
    by decide, rfl⟩, once_of_fresh (by decide) (by decide), by decide +kernel⟩

end TikkaRaffle.Properties
