import Mathlib.Data.List.Infix
import TikkaRaffle.Lib.Occurrence

/-! Global substitution: a text is scanned from its start, and every match of a
rule is replaced by a part of it and a mark. -/
namespace TikkaRaffle.Lib

variable {α : Type}

/-- What a rule finds at the start of a text: the length of the match, and the
part of it that stays. -/
abbrev Rule (α : Type) := List α → Option (Nat × List α)

/-- A match is not empty and lies in the text. -/
def Rule.Sound (rule : Rule α) : Prop :=
  ∀ text length group, rule text = some (length, group) → 0 < length ∧ length ≤ text.length

/-- The scan; the number says how much of the last match is still to be passed. -/
def scan (rule : Rule α) (mark : List α) : Nat → List α → List α
  | _, [] => []
  | skip + 1, _ :: rest => scan rule mark skip rest
  | 0, c :: rest =>
      match rule (c :: rest) with
      | none => c :: scan rule mark 0 rest
      | some (length, group) => group ++ mark ++ scan rule mark (length - 1) rest

/-- `text.replace(rule, '$1' + mark)` -/
def substitute (rule : Rule α) (mark text : List α) : List α := scan rule mark 0 text

structure Hit (α : Type) where
  gap : List α
  matched : List α
  group : List α
  deriving DecidableEq

def Hit.extend (c : α) (hit : Hit α) : Hit α := { hit with gap := c :: hit.gap }

def divide (rule : Rule α) : Nat → List α → List (Hit α) × List α
  | _, [] => ([], [])
  | skip + 1, _ :: rest => divide rule skip rest
  | 0, c :: rest =>
      match rule (c :: rest) with
      | none =>
          match divide rule 0 rest with
          | ([], last) => ([], c :: last)
          | (hit :: hits, last) => (hit.extend c :: hits, last)
      | some (length, group) =>
          let (hits, last) := divide rule (length - 1) rest
          (⟨[], (c :: rest).take length, group⟩ :: hits, last)

def division (rule : Rule α) (text : List α) : List (Hit α) × List α := divide rule 0 text

section Scanning

variable {rule : Rule α} {mark matched group rest : List α} {c : α}

theorem scan_skip (skipped rest : List α) :
    scan rule mark skipped.length (skipped ++ rest) = substitute rule mark rest := by
  induction skipped with
  | nil => rfl
  | cons c skipped ih => exact ih

theorem divide_skip (skipped rest : List α) :
    divide rule skipped.length (skipped ++ rest) = division rule rest := by
  induction skipped with
  | nil => rfl
  | cons c skipped ih => exact ih

@[simp] theorem substitute_nil : substitute rule mark [] = [] := rfl

theorem substitute_keep (h : rule (c :: rest) = none) :
    substitute rule mark (c :: rest) = c :: substitute rule mark rest := by
  rw [substitute, scan, h]
  rfl

theorem substitute_hit (h : rule (matched ++ rest) = some (matched.length, group))
    (hmatched : matched ≠ []) :
    substitute rule mark (matched ++ rest) = group ++ mark ++ substitute rule mark rest := by
  cases matched with
  | nil => exact (hmatched rfl).elim
  | cons c skipped =>
    rw [List.cons_append] at h ⊢
    rw [substitute, scan, h]
    exact congrArg _ (scan_skip skipped rest)

theorem division_keep_last {last : List α} (h : rule (c :: rest) = none)
    (hrest : division rule rest = ([], last)) : division rule (c :: rest) = ([], c :: last) := by
  unfold division at hrest ⊢
  rw [divide, h, hrest]

theorem division_keep {hit : Hit α} {hits : List (Hit α)} {last : List α}
    (h : rule (c :: rest) = none) (hrest : division rule rest = (hit :: hits, last)) :
    division rule (c :: rest) = (hit.extend c :: hits, last) := by
  unfold division at hrest ⊢
  rw [divide, h, hrest]

theorem division_hit (h : rule (matched ++ rest) = some (matched.length, group))
    (hmatched : matched ≠ []) :
    division rule (matched ++ rest) =
      (⟨[], matched, group⟩ :: (division rule rest).1, (division rule rest).2) := by
  cases matched with
  | nil => exact (hmatched rfl).elim
  | cons c skipped =>
    have hskip : divide rule skipped.length (skipped ++ rest) = division rule rest :=
      divide_skip skipped rest
    rw [List.cons_append] at h ⊢
    rw [List.length_cons] at h
    unfold division at hskip ⊢
    rw [divide, h]
    dsimp only
    rw [Nat.add_sub_cancel, hskip, ← List.cons_append, ← List.length_cons, List.take_left]

theorem scan_induction (hsound : rule.Sound) {P : List α → Prop} (nil : P [])
    (keep : ∀ c rest, rule (c :: rest) = none → P rest → P (c :: rest))
    (hit : ∀ matched group rest, rule (matched ++ rest) = some (matched.length, group) →
      matched ≠ [] → P rest → P (matched ++ rest)) (text : List α) : P text := by
  induction hn : text.length using Nat.strong_induction_on generalizing text with
  | _ n ih =>
    cases text with
    | nil => exact nil
    | cons c rest =>
      cases hrule : rule (c :: rest) with
      | none => exact keep c rest hrule (ih rest.length (by simp [← hn]) rest rfl)
      | some found =>
        obtain ⟨length, group⟩ := found
        obtain ⟨hpos, hle⟩ := hsound _ length group hrule
        have hsplit := List.take_append_drop length (c :: rest)
        have htake : ((c :: rest).take length).length = length := by
          rw [List.length_take, Nat.min_eq_left hle]
        have hne : (c :: rest).take length ≠ [] := by
          intro hnil
          rw [hnil, List.length_nil] at htake
          omega
        have hdrop := ih ((c :: rest).drop length).length
          (by rw [List.length_drop, hn] ; omega) ((c :: rest).drop length) rfl
        rw [← hsplit]
        refine hit _ group _ ?_ hne hdrop
        rw [hsplit, htake, hrule]

theorem substitute_eq (hsound : rule.Sound) (text : List α) : substitute rule mark text =
    (division rule text).1.flatMap (fun hit => hit.gap ++ hit.group ++ mark) ++
      (division rule text).2 := by
  induction text using scan_induction hsound with
  | nil => rfl
  | keep c rest hrule ih =>
    rw [substitute_keep hrule, ih]
    cases hdivision : division rule rest with
    | mk hits last =>
      cases hits with
      | nil =>
        rw [division_keep_last hrule hdivision]
        rfl
      | cons hit hits =>
        rw [division_keep hrule hdivision]
        simp [Hit.extend]
  | hit matched group rest hrule hmatched ih =>
    rw [substitute_hit hrule hmatched, division_hit hrule hmatched, ih]
    simp

theorem text_eq (hsound : rule.Sound) (text : List α) : text =
    (division rule text).1.flatMap (fun hit => hit.gap ++ hit.matched) ++
      (division rule text).2 := by
  induction text using scan_induction hsound with
  | nil => rfl
  | keep c rest hrule ih =>
    cases hdivision : division rule rest with
    | mk hits last =>
      rw [hdivision] at ih
      cases hits with
      | nil =>
        rw [division_keep_last hrule hdivision]
        exact congrArg (c :: ·) ih
      | cons hit hits =>
        rw [division_keep hrule hdivision]
        exact congrArg (c :: ·) ih
  | hit matched group rest hrule hmatched ih =>
    rw [division_hit hrule hmatched]
    simpa using ih

theorem hit_infix (hsound : rule.Sound) {text : List α} {hit : Hit α}
    (hhit : hit ∈ (division rule text).1) : hit.gap ++ hit.matched <:+: text := by
  have hall : (division rule text).1.flatMap (fun hit => hit.gap ++ hit.matched) <+: text :=
    ⟨_, (text_eq hsound text).symm⟩
  rw [List.flatMap_def] at hall
  exact (List.infix_of_mem_flatten (List.mem_map_of_mem hhit)).trans hall.isInfix

theorem last_suffix (hsound : rule.Sound) (text : List α) : (division rule text).2 <:+ text :=
  ⟨_, (text_eq hsound text).symm⟩

theorem hit_of_division (hsound : rule.Sound) (text : List α) :
    ∀ hit ∈ (division rule text).1,
      ∃ rest, rule (hit.matched ++ rest) = some (hit.matched.length, hit.group) := by
  induction text using scan_induction hsound with
  | nil => exact fun hit hhit => by cases hhit
  | keep c rest hrule ih =>
    intro hit hhit
    cases hdivision : division rule rest with
    | mk hits last =>
      rw [hdivision] at ih
      cases hits with
      | nil =>
        rw [division_keep_last hrule hdivision] at hhit
        cases hhit
      | cons first hits =>
        rw [division_keep hrule hdivision] at hhit
        rcases List.mem_cons.mp hhit with rfl | hhit
        · exact ih first (List.mem_cons_self ..)
        · exact ih hit (List.mem_cons_of_mem _ hhit)
  | hit matched group rest hrule hmatched ih =>
    intro hit hhit
    rw [division_hit hrule hmatched] at hhit
    rcases List.mem_cons.mp hhit with rfl | hhit
    · exact ⟨rest, hrule⟩
    · exact ih hit hhit

end Scanning

/-- The word is part of a match, or of what is before, between or after the matches. -/
def Lies (word : List α) (parts : List (Hit α) × List α) : Prop :=
  (∃ hit ∈ parts.1, word <:+: hit.gap ∨ word <:+: hit.matched) ∨ word <:+: parts.2

def leading : List (Hit α) × List α → List α
  | ([], last) => last
  | (hit :: _, _) => hit.gap

section Lying

variable {rule : Rule α} {word front rest : List α}

theorem infix_of_lies (hsound : rule.Sound) {text : List α} (h : Lies word (division rule text)) :
    word <:+: text := by
  rcases h with ⟨hit, hmem, hin⟩ | hlast
  · have hpart := hit_infix hsound hmem
    rcases hin with hgap | hmatched
    · exact (List.infix_append_of_infix_left hgap).trans hpart
    · exact (List.infix_append_of_infix_right hmatched).trans hpart
  · exact hlast.trans (last_suffix hsound text).isInfix

theorem lies_of_leading {parts : List (Hit α) × List α} (h : word <:+: leading parts) :
    Lies word parts := by
  obtain ⟨hits, last⟩ := parts
  cases hits with
  | nil => exact .inr h
  | cons hit hits => exact .inl ⟨hit, List.mem_cons_self .., .inl h⟩

theorem leading_keep {c : α} (h : rule (c :: rest) = none) :
    leading (division rule (c :: rest)) = c :: leading (division rule rest) := by
  cases hdivision : division rule rest with
  | mk hits last =>
    cases hits with
    | nil => rw [division_keep_last h hdivision]; rfl
    | cons hit hits => rw [division_keep h hdivision]; rfl

theorem lies_keep {c : α} (h : rule (c :: rest) = none) (hlies : Lies word (division rule rest)) :
    Lies word (division rule (c :: rest)) := by
  cases hdivision : division rule rest with
  | mk hits last =>
    rw [hdivision] at hlies
    cases hits with
    | nil =>
      rw [division_keep_last h hdivision]
      rcases hlies with ⟨hit, hmem, -⟩ | hlast
      · cases hmem
      · exact .inr (List.infix_cons hlast)
    | cons first hits =>
      rw [division_keep h hdivision]
      rcases hlies with ⟨hit, hmem, hin⟩ | hlast
      · rcases List.mem_cons.mp hmem with rfl | hmem
        · exact .inl ⟨hit.extend c, List.mem_cons_self .., hin.imp List.infix_cons id⟩
        · exact .inl ⟨hit, List.mem_cons_of_mem _ hmem, hin⟩
      · exact .inr hlast

theorem prefix_leading (hstart : ∀ part, part <:+ word → part ≠ [] → rule (part ++ rest) = none) :
    word <+: leading (division rule (word ++ rest)) := by
  induction word with
  | nil => exact List.nil_prefix
  | cons c word ih =>
    have hnone := hstart (c :: word) List.suffix_rfl (List.cons_ne_nil c word)
    rw [List.cons_append] at hnone ⊢
    rw [leading_keep hnone]
    refine List.cons_prefix_cons.mpr ⟨rfl, ih fun part hpart => hstart part ?_⟩
    exact hpart.trans (List.suffix_cons c word)

/-- A word in which no match starts, and that does not go on after a match, lies in
one part. -/
theorem lies_of_append (hsound : rule.Sound) (hword : word ≠ [])
    (hstart : ∀ part, part <:+ word → part ≠ [] → rule (part ++ rest) = none)
    (hend : ∀ matched group c tail,
      rule (matched ++ c :: tail) = some (matched.length, group) → c ∉ word) :
    Lies word (division rule (front ++ word ++ rest)) := by
  generalize htext : front ++ word ++ rest = text
  induction text using scan_induction hsound generalizing front with
  | nil =>
    rw [List.append_eq_nil_iff, List.append_eq_nil_iff] at htext
    exact (hword htext.1.2).elim
  | keep c tail hrule ih =>
    cases front with
    | nil =>
      rw [List.nil_append] at htext
      rw [← htext]
      exact lies_of_leading (prefix_leading hstart).isInfix
    | cons d front => exact lies_keep hrule (ih (List.cons.inj htext).2)
  | hit matched group tail hrule hmatched ih =>
    rw [division_hit hrule hmatched]
    have hrest : Lies word (division rule tail) →
        Lies word (⟨[], matched, group⟩ :: (division rule tail).1, (division rule tail).2) := by
      rintro (⟨hit, hmem, hin⟩ | hlast)
      · exact .inl ⟨hit, List.mem_cons_of_mem _ hmem, hin⟩
      · exact .inr hlast
    have hhere : word <:+: matched →
        Lies word (⟨[], matched, group⟩ :: (division rule tail).1, (division rule tail).2) :=
      fun hin => .inl ⟨_, List.mem_cons_self .., .inr hin⟩
    rcases List.append_eq_append_iff.mp htext with ⟨more, hleft, -⟩ | ⟨more, hleft, hright⟩
    · exact hhere ⟨front, more, hleft.symm⟩
    · rcases List.append_eq_append_iff.mp hleft with
        ⟨first, hfront, hsplit⟩ | ⟨between, hbefore, hmore⟩
      · cases more with
        | nil =>
          rw [List.append_nil] at hsplit
          exact hhere ⟨front, [], by rw [hsplit, hfront, List.append_nil]⟩
        | cons c more =>
          rw [hright, List.cons_append] at hrule
          exact (hend matched group c _ hrule (by rw [hsplit]; simp)).elim
      · exact hrest (ih (by rw [hright, hmore]))

end Lying

/-- A word that no mark can be part of is in the result if and only if it was put
together from a gap and what stays of the match, or follows the last match. -/
theorem infix_substitute_iff {rule : Rule α} (hsound : rule.Sound) {word inner text : List α}
    {a b : α} (ha : a ∉ word) (hb : b ∉ word) (hinner : ¬ word <:+: inner) :
    word <:+: substitute rule (a :: (inner ++ [b])) text ↔
      (∃ hit ∈ (division rule text).1, word <:+: hit.gap ++ hit.group) ∨
        word <:+: (division rule text).2 := by
  rw [substitute_eq hsound]
  generalize (division rule text).2 = last
  induction (division rule text).1 with
  | nil => simp
  | cons hit hits ih =>
    rw [List.flatMap_cons, List.append_assoc, List.append_assoc (hit.gap ++ hit.group),
      List.cons_append, infix_around_iff ha, List.append_assoc, List.singleton_append,
      infix_around_iff hb, ih]
    simp only [List.mem_cons, exists_eq_or_imp, hinner, false_or, or_assoc]

end TikkaRaffle.Lib
