import TikkaRaffle.Lib.Occurrence
import TikkaRaffle.Oracle.DeadLetters

/-! Which contract errors the oracle gives up on. A code is recognised by its
decimal text, so it is also recognised in every code that starts with it. -/
namespace TikkaRaffle.Properties

open TikkaRaffle.Lib TikkaRaffle.Oracle
open scoped TikkaRaffle.Lib.Members

def fatalCodes : List ℕ := [6, 7, 8, 11, 21, 23, 61]

def fatalNames : List String :=
  ["NoRandomnessRequest", "RandomnessAlreadyRequested", "DrawingAlreadyComplete", "InvalidStatus",
    "InvalidParameters", "PrizeNotDeposited", "OracleNotSet"]

def contractError (c : ℕ) : String := "Error(Contract, #" ++ toString c ++ ")"

/-- A text that says nothing about contract errors of its own. -/
structure Unmarked (text : String) : Prop where
  names : ∀ name ∈ fatalNames, ¬ name.toList <:+: text.toList
  hash : '#' ∉ text.toList
  call : ¬ "Error(".toList <:+: text.toList
  code : ¬ "error code".toList <:+: text.toList
  fragments : ∀ fragment ∈ requestIdMismatchFragments, ¬ fragment.toList <:+: text.toList

def Mentioned (before after : String) (word : List Char) : Prop :=
  word <:+: toLowerCase before.toList ∨ word <:+: toLowerCase after.toList

/-- The texts around an error read as fatal by themselves: by a listed name in
another letter case, by one that ends in the first letter of the error, or by a
request id that is said to mismatch. -/
def SurroundingsFatal (before after : String) : Prop :=
  (∃ name ∈ fatalNames, Mentioned before after (toLowerCase name.toList)) ∨
    "drawingalreadycomplet".toList <:+ toLowerCase before.toList ∨
    (∃ fragment ∈ requestIdMismatchFragments, Mentioned before after fragment.toList) ∧
      (Mentioned before after "mismatch".toList ∨ Mentioned before after "invalid".toList)

theorem toString_digits (c : ℕ) : (toString c).toList = Nat.toDigits 10 c := Nat.toList_repr

theorem isDigit_of_mem {c : ℕ} {d : Char} (hd : d ∈ (toString c).toList) : d.isDigit = true := by
  rw [toString_digits] at hd
  exact Nat.isDigit_of_mem_toDigits (by decide) (by decide) hd

theorem notMem_digits {c : ℕ} {d : Char} (hd : d.isDigit = false) : d ∉ (toString c).toList := by
  intro hmem
  rw [isDigit_of_mem hmem] at hd
  cases hd

theorem isDigit_le {d : Char} (hd : d.isDigit = true) : d.val.toNat ≤ 57 := by
  rw [Char.isDigit, Bool.and_eq_true, decide_eq_true_eq, decide_eq_true_eq] at hd
  exact UInt32.le_iff_toNat_le.mp hd.2

theorem not_upper_of_le {d : Char} (hd : d.val.toNat ≤ 57) :
    ¬ ('A'.val ≤ d.val ∧ d.val ≤ 'Z'.val) := by
  rintro ⟨hupper, -⟩
  have hletter : 65 ≤ d.val.toNat := UInt32.le_iff_toNat_le.mp hupper
  omega

theorem toLower_of_isDigit {d : Char} (hd : d.isDigit = true) : d.toLower = d :=
  dif_neg (not_upper_of_le (isDigit_le hd))

theorem digits_ne_nil (c : ℕ) : (toString c).toList ≠ [] := by
  rw [toString_digits]
  exact Nat.toDigits_ne_nil

theorem toLowerCase_digits (c : ℕ) : toLowerCase (toString c).toList = (toString c).toList := by
  unfold toLowerCase
  conv_rhs => rw [← List.map_id (toString c).toList]
  exact List.map_congr_left fun d hd => toLower_of_isDigit (isDigit_of_mem hd)

variable {before after : String} {c : ℕ}

theorem framed_append (x e k digits y : List Char) :
    x ++ ((e ++ '(' :: (k ++ ['#'])) ++ digits ++ [')']) ++ y =
      (x ++ e) ++ '(' :: (k ++ '#' :: (digits ++ ')' :: y)) := by
  simp only [List.append_assoc, List.cons_append, List.nil_append]

theorem framed_toList (before digits after : String) :
    (before ++ ("Error(Contract, #" ++ digits ++ ")") ++ after).toList =
      (before.toList ++ "Error".toList) ++ '(' :: ("Contract, ".toList ++
        '#' :: (digits.toList ++ ')' :: after.toList)) := by
  have hopening : "Error(Contract, #".toList =
      "Error".toList ++ '(' :: ("Contract, ".toList ++ ['#']) := by decide +kernel
  have hclosing : ")".toList = [')'] := by decide +kernel
  rw [String.toList_append, String.toList_append, String.toList_append, String.toList_append,
    hopening, hclosing, framed_append]

theorem embedded_toList :
    (before ++ contractError c ++ after).toList =
      (before.toList ++ "Error".toList) ++ '(' :: ("Contract, ".toList ++
        '#' :: ((toString c).toList ++ ')' :: after.toList)) :=
  framed_toList before (toString c) after

theorem embedded_lower :
    toLowerCase (before ++ contractError c ++ after).toList =
      (toLowerCase before.toList ++ "error".toList) ++ '(' :: ("contract, ".toList ++
        '#' :: ((toString c).toList ++ ')' :: toLowerCase after.toList)) := by
  have hdigits := toLowerCase_digits c
  rw [embedded_toList]
  simp only [toLowerCase, List.map_append, List.map_cons] at hdigits ⊢
  rw [hdigits]
  simp

/-- A word without the marks of an error lies outside the marks. -/
theorem infix_framed_iff {word x k y : List Char} (hmarks : '(' ∉ word ∧ '#' ∉ word ∧ ')' ∉ word)
    (hinner : ¬ word <:+: k) (hdigit : ∃ d ∈ word, d.isDigit = false) :
    word <:+: x ++ '(' :: (k ++ '#' :: ((toString c).toList ++ ')' :: y)) ↔
      word <:+: x ∨ word <:+: y := by
  obtain ⟨hopen, hhash, hclose⟩ := hmarks
  obtain ⟨d, hd, hnondigit⟩ := hdigit
  have hcode : ¬ word <:+: (toString c).toList := fun h => notMem_digits hnondigit (h.subset hd)
  rw [infix_around_iff hopen, infix_around_iff hhash, infix_around_iff hclose]
  tauto

/-- No part of the word can be read off the text of an error. -/
structure StaysOutside (word : List Char) : Prop where
  last : ∃ d ∈ word.getLast?, d ∉ "error".toList ∧ d.isDigit = false
  marks : '(' ∉ word ∧ '#' ∉ word ∧ ')' ∉ word
  inner : ¬ word <:+: "contract, ".toList

instance (word : List Char) : Decidable (StaysOutside word) :=
  decidable_of_iff ((∃ d ∈ word.getLast?, d ∉ "error".toList ∧ d.isDigit = false) ∧
      ('(' ∉ word ∧ '#' ∉ word ∧ ')' ∉ word) ∧ ¬ word <:+: "contract, ".toList)
    ⟨fun ⟨h₁, h₂, h₃⟩ => ⟨h₁, h₂, h₃⟩, fun ⟨h₁, h₂, h₃⟩ => ⟨h₁, h₂, h₃⟩⟩

theorem StaysOutside.mentioned_iff {word : List Char} (h : StaysOutside word) :
    word <:+: toLowerCase (before ++ contractError c ++ after).toList ↔
      Mentioned before after word := by
  obtain ⟨d, hlast, herror, hdigit⟩ := h.last
  obtain ⟨rest, rfl⟩ : ∃ rest, word = rest ++ [d] := List.getLast?_eq_some_iff.mp hlast
  rw [embedded_lower, infix_framed_iff h.marks h.inner ⟨d, by simp, hdigit⟩,
    infix_append_iff_of_last herror]
  rfl

/-- The one name that can end in the text of the error. -/
def drawingComplete : List Char := "drawingalreadycomplete".toList

theorem drawingComplete_mentioned_iff :
    drawingComplete <:+: toLowerCase (before ++ contractError c ++ after).toList ↔
      Mentioned before after drawingComplete ∨
        "drawingalreadycomplet".toList <:+ toLowerCase before.toList := by
  unfold drawingComplete
  have hsplit : ∀ l₁ l₂, l₁ ≠ [] → l₂ ≠ [] → "drawingalreadycomplete".toList = l₁ ++ l₂ →
      l₂ <+: "error".toList → l₁ = "drawingalreadycomplet".toList := by
    intro l₁ l₂ _ hl₂ hword herror
    have hends : l₂ ∈ "error".toList.inits := (List.mem_inits _ _).mpr herror
    have hstarts : l₂ ∈ "drawingalreadycomplete".toList.tails :=
      (List.mem_tails _ _).mpr ⟨l₁, hword.symm⟩
    have hlast : ∀ l ∈ "error".toList.inits, l ∈ "drawingalreadycomplete".toList.tails →
        l ≠ [] → l = ['e'] := by
      decide +kernel
    rw [hlast l₂ hends hstarts hl₂] at hword
    exact List.append_cancel_right (hword.symm.trans rfl)
  rw [embedded_lower, infix_framed_iff (by decide) (by decide +kernel) (by decide),
    List.infix_append_iff_ne_nil]
  unfold Mentioned
  constructor
  · rintro ((hbefore | herror | ⟨l₁, l₂, hl₁, hl₂, hword, hend, hstart⟩) | hafter)
    · exact .inl (.inl hbefore)
    · exact absurd herror.length_le (by decide)
    · exact .inr (hsplit l₁ l₂ hl₁ hl₂ hword hstart ▸ hend)
    · exact .inl (.inr hafter)
  · rintro ((hbefore | hafter) | hend)
    · exact .inl (.inl hbefore)
    · exact .inr hafter
    · exact .inl (.inr (.inr ⟨_, ['e'], by decide, by decide, by decide, hend, by decide⟩))

theorem includes_iff {message token : List Char} : includes message token = true ↔
    token <:+: message :=
  decide_eq_true_iff

theorem code_occurs_iff (hbefore : Unmarked before) (hafter : Unmarked after) (n : ℕ) :
    (FatalToken.code n).occurs (before ++ contractError c ++ after).toList = true ↔
      (toString n).toList <+: (toString c).toList := by
  have hsplit : (before ++ contractError c ++ after).toList =
      (before.toList ++ "Error(Contract, ".toList) ++
        '#' :: ((toString c).toList ++ ')' :: after.toList) := by
    have hopening : "Error(Contract, ".toList = "Error".toList ++ '(' :: "Contract, ".toList := by
      decide
    rw [embedded_toList, hopening]
    simp only [List.append_assoc, List.cons_append]
  have hhash : ("#" ++ toString n).toList <:+: (before ++ contractError c ++ after).toList ↔
      (toString n).toList <+: (toString c).toList := by
    have hleft : '#' ∉ before.toList ++ "Error(Contract, ".toList := by
      rw [List.mem_append, not_or]
      exact ⟨hbefore.hash, by decide⟩
    have hright : '#' ∉ (toString c).toList ++ ')' :: after.toList := by
      rw [List.mem_append, List.mem_cons, not_or, not_or]
      exact ⟨notMem_digits rfl, by decide, hafter.hash⟩
    have hclose : ')' ∉ (toString n).toList := notMem_digits rfl
    rw [hsplit, String.toList_append]
    exact (cons_infix_iff_of_mark hleft hright).trans (prefix_append_cons_iff hclose)
  have hcall : ¬ ("Error(" ++ toString n ++ ")").toList <:+:
      (before ++ contractError c ++ after).toList := by
    intro h
    obtain ⟨d, rest, hdigits⟩ := List.exists_cons_of_ne_nil (digits_ne_nil n)
    have hd : d.isDigit = true := isDigit_of_mem (c := n) (by rw [hdigits]; simp)
    have hword : "Error(".toList ++ [d] <:+: (before ++ contractError c ++ after).toList := by
      refine List.IsInfix.trans ⟨[], rest ++ [')'], ?_⟩ h
      rw [String.toList_append, String.toList_append, hdigits]
      simp
    have hmark : ∀ m : Char, m.isDigit = false → m ∉ "Error(".toList →
        m ∉ "Error(".toList ++ [d] := by
      intro m hm hopening
      rw [List.mem_append, not_or]
      exact ⟨hopening, fun hmem => by rw [List.mem_singleton.mp hmem, hd] at hm; cases hm⟩
    have hlast : d ∉ "Error(Contract, ".toList := by
      intro hmem
      have hnone : ∀ m ∈ "Error(Contract, ".toList, m.isDigit = false := by decide
      rw [hnone d hmem] at hd
      cases hd
    rw [hsplit, infix_around_iff (hmark '#' rfl (by decide)),
      infix_around_iff (hmark ')' rfl (by decide)), infix_append_iff_of_last hlast] at hword
    have hopening : "Error(".toList <:+: "Error(".toList ++ [d] := List.infix_append_left
    rcases hword with hword | hword | hword
    · exact hbefore.call (hopening.trans hword)
    · exact notMem_digits (d := 'E') rfl (hword.subset (by simp))
    · exact hafter.call (hopening.trans hword)
  have hcode : ¬ ("error code " ++ toString n).toList <:+:
      (before ++ contractError c ++ after).toList := by
    intro h
    have hword : "error code".toList <:+: (before ++ contractError c ++ after).toList := by
      refine List.IsInfix.trans ⟨[], ' ' :: (toString n).toList, ?_⟩ h
      rw [String.toList_append]
      rfl
    rw [embedded_toList, infix_framed_iff (by decide) (by decide +kernel) (by decide)] at hword
    rcases hword with hword | hword
    · have hlast : "error cod".toList ++ ['e'] <:+: before.toList ++ "Error".toList := hword
      exact hbefore.code ((infix_append_iff_of_last (by decide)).mp hlast)
    · exact hafter.code hword
  simp only [FatalToken.occurs, Bool.or_eq_true, includes_iff, hcall, hcode, or_false, hhash]

theorem name_occurs_iff {message : List Char} {name : String} :
    (FatalToken.name name).occurs message = true ↔
      toLowerCase name.toList <:+: toLowerCase message := by
  simp only [FatalToken.occurs, Bool.or_eq_true, includes_iff]
  constructor
  · rintro (h | h)
    · exact h.map _
    · exact h
  · exact .inr

theorem fatalContractErrors_exists {p : FatalToken → Prop} :
    (∃ token ∈ fatalContractErrors, p token) ↔
      (∃ n ∈ fatalCodes, p (.code n)) ∨ ∃ name ∈ fatalNames, p (.name name) := by
  simp only [fatalContractErrors, fatalCodes, fatalNames, List.mem_cons, List.not_mem_nil,
    or_false, exists_eq_or_imp, exists_eq_left]
  tauto

theorem fatal_name_outside : ∀ word ∈ fatalNames.map (fun name => toLowerCase name.toList),
    word = drawingComplete ∨ StaysOutside word := by
  decide +kernel

theorem drawingComplete_mem :
    drawingComplete ∈ fatalNames.map (fun name => toLowerCase name.toList) := by
  decide +kernel

theorem fatal_name_mentioned_iff :
    (∃ name ∈ fatalNames, toLowerCase name.toList <:+:
        toLowerCase (before ++ contractError c ++ after).toList) ↔
      (∃ name ∈ fatalNames, Mentioned before after (toLowerCase name.toList)) ∨
        "drawingalreadycomplet".toList <:+ toLowerCase before.toList := by
  have hwords : ∀ p : List Char → Prop, (∃ name ∈ fatalNames, p (toLowerCase name.toList)) ↔
      ∃ word ∈ fatalNames.map (fun name => toLowerCase name.toList), p word := by
    intro p
    constructor
    · rintro ⟨name, hmem, hp⟩
      exact ⟨_, List.mem_map_of_mem hmem, hp⟩
    · rintro ⟨word, hmem, hp⟩
      obtain ⟨name, hname, rfl⟩ := List.mem_map.mp hmem
      exact ⟨name, hname, hp⟩
  rw [hwords (· <:+: _), hwords (Mentioned before after)]
  constructor
  · rintro ⟨word, hmem, h⟩
    rcases fatal_name_outside word hmem with rfl | houtside
    · exact (drawingComplete_mentioned_iff.mp h).imp (fun hin => ⟨_, hmem, hin⟩) id
    · exact .inl ⟨word, hmem, houtside.mentioned_iff.mp h⟩
  · rintro (⟨word, hmem, h⟩ | hend)
    · refine ⟨word, hmem, ?_⟩
      rcases fatal_name_outside word hmem with rfl | houtside
      · exact drawingComplete_mentioned_iff.mpr (.inl h)
      · exact houtside.mentioned_iff.mpr h
    · exact ⟨_, drawingComplete_mem, drawingComplete_mentioned_iff.mpr (.inr hend)⟩

theorem isFatalRandomnessError_iff (text : String) :
    isFatalRandomnessError text = true ↔
      ((∃ n ∈ fatalCodes, (FatalToken.code n).occurs text.toList = true) ∨
        ∃ name ∈ fatalNames, toLowerCase name.toList <:+: toLowerCase text.toList) ∨
      (∃ fragment ∈ requestIdMismatchFragments, fragment.toList <:+: toLowerCase text.toList) ∧
        ("mismatch".toList <:+: toLowerCase text.toList ∨
          "invalid".toList <:+: toLowerCase text.toList) := by
  simp only [isFatalRandomnessError, Bool.or_eq_true, Bool.and_eq_true, List.any_eq_true,
    includes_iff, fatalContractErrors_exists, name_occurs_iff]

/-- What the classifier reads in an unmarked text around an error. -/
theorem isFatalRandomnessError_embedded (hbefore : Unmarked before) (hafter : Unmarked after) :
    isFatalRandomnessError (before ++ contractError c ++ after) = true ↔
      (∃ n ∈ fatalCodes, (toString n).toList <+: (toString c).toList) ∨
        SurroundingsFatal before after := by
  have hfragment : ∀ fragment ∈ requestIdMismatchFragments, StaysOutside fragment.toList := by
    decide +kernel
  have hmismatch : StaysOutside "mismatch".toList := by decide +kernel
  have hinvalid : StaysOutside "invalid".toList := by decide +kernel
  have hcodes : (∃ n ∈ fatalCodes, (FatalToken.code n).occurs
      (before ++ contractError c ++ after).toList = true) ↔
        ∃ n ∈ fatalCodes, (toString n).toList <+: (toString c).toList :=
    exists_congr fun n => and_congr_right fun _ => code_occurs_iff hbefore hafter n
  have hrequest : (∃ fragment ∈ requestIdMismatchFragments, fragment.toList <:+:
      toLowerCase (before ++ contractError c ++ after).toList) ↔
        ∃ fragment ∈ requestIdMismatchFragments, Mentioned before after fragment.toList :=
    exists_congr fun fragment => and_congr_right fun hmem => (hfragment fragment hmem).mentioned_iff
  have hkind : ("mismatch".toList <:+: toLowerCase (before ++ contractError c ++ after).toList ∨
      "invalid".toList <:+: toLowerCase (before ++ contractError c ++ after).toList) ↔
        Mentioned before after "mismatch".toList ∨ Mentioned before after "invalid".toList :=
    or_congr hmismatch.mentioned_iff hinvalid.mentioned_iff
  exact (isFatalRandomnessError_iff _).trans ((or_congr (or_congr hcodes fatal_name_mentioned_iff)
    (and_congr hrequest hkind)).trans (by rw [SurroundingsFatal, or_assoc, or_assoc]))

/-- An error in an unmarked text is recognised rightly if its code is listed, or
if no listed code starts its decimal text and the texts around it are quiet. -/
theorem fatal_codes_recognised_iff (c : ℕ) (hbefore : Unmarked before)
    (hafter : Unmarked after) :
    (isFatalRandomnessError (before ++ contractError c ++ after) = true ↔ c ∈ fatalCodes) ↔
      c ∈ fatalCodes ∨
        (∀ n ∈ fatalCodes, ¬ (toString n).toList <+: (toString c).toList) ∧
          ¬ SurroundingsFatal before after := by
  rw [isFatalRandomnessError_embedded hbefore hafter]
  by_cases hlisted : c ∈ fatalCodes
  · exact iff_of_true (iff_of_true (.inl ⟨c, hlisted, List.prefix_rfl⟩) hlisted) (.inl hlisted)
  · simp only [hlisted, iff_false, false_or, not_or, not_exists, not_and]

/-- An insufficient-balance error is rightly retried. -/
theorem fatal_codes_recognised_four :
    (isFatalRandomnessError ("HostError: " ++ contractError 4 ++ ", see log") = true ↔
        4 ∈ fatalCodes) ↔
      4 ∈ fatalCodes ∨
        (∀ n ∈ fatalCodes, ¬ (toString n).toList <+: (toString 4).toList) ∧
          ¬ SurroundingsFatal "HostError: " ", see log" :=
  fatal_codes_recognised_iff 4
    ⟨by decide +kernel, by decide +kernel, by decide +kernel, by decide +kernel, by decide +kernel⟩
    ⟨by decide +kernel, by decide +kernel, by decide +kernel, by decide +kernel, by decide +kernel⟩

/-- `RandomnessTooEarly` is 64: a listed 6 starts it, so a first early callback
is dead-lettered. -/
theorem early_randomness_dead_lettered :
    Unmarked "" ∧ 64 ∉ fatalCodes ∧
      isFatalRandomnessError ("" ++ contractError 64 ++ "") = true ∧
      (MonitoredQueue.recordFailure {} "raffle" 1 (contractError 64) 0
        { queue := { jobs := [⟨⟨1, "raffle", 0⟩, 0, 0⟩] } }).1 = .deadLettered :=
  ⟨⟨by decide +kernel, by decide +kernel, by decide +kernel, by decide +kernel, by decide +kernel⟩,
    by decide, by decide +kernel, by decide +kernel⟩

end TikkaRaffle.Properties
