import Mathlib.Data.List.Forall2
import Mathlib.Data.List.Infix

/-! Where a word can occur in a text that is put together from parts. A symbol
that the word lacks is a border that no occurrence crosses. -/
namespace TikkaRaffle.Lib

variable {α : Type} {word x y : List α} {a : α}

/-! A quantifier over the members of a list is decided by going through the list,
not through the type. -/
namespace Members

variable {p : α → Prop} [DecidablePred p]

scoped instance (priority := 2000) decidableForall (text : List α) : Decidable (∀ a ∈ text, p a) :=
  List.decidableBAll p text

scoped instance (priority := 2000) decidableExists (text : List α) : Decidable (∃ a ∈ text, p a) :=
  List.decidableBEx p text

scoped instance (priority := 2000) decidableSome (a? : Option α) : Decidable (∃ a ∈ a?, p a) :=
  Option.decidableExistsMem a?

end Members

/-- An occurrence does not contain a symbol that the word lacks. -/
theorem infix_around_iff (ha : a ∉ word) : word <:+: x ++ a :: y ↔ word <:+: x ∨ word <:+: y := by
  constructor
  · intro h
    rcases List.infix_append_iff_ne_nil.mp h with hleft | hright | ⟨l₁, l₂, -, hl₂, rfl, -, hborder⟩
    · exact .inl hleft
    · rcases List.infix_cons_iff.mp hright with hhead | htail
      · cases word with
        | nil => exact .inl (List.nil_infix)
        | cons b rest =>
          obtain ⟨rfl, -⟩ := List.cons_prefix_cons.mp hhead
          exact (ha (List.mem_cons_self ..)).elim
      · exact .inr htail
    · cases l₂ with
      | nil => exact (hl₂ rfl).elim
      | cons b rest =>
        obtain ⟨rfl, -⟩ := List.cons_prefix_cons.mp hborder
        exact (ha (by simp)).elim
  · rintro (h | h)
    · exact List.infix_append_of_infix_left h
    · exact List.infix_append_of_infix_right (List.infix_cons h)

theorem infix_append_iff_of_last (ha : a ∉ y) :
    word ++ [a] <:+: x ++ y ↔ word ++ [a] <:+: x := by
  refine ⟨fun h => ?_, List.infix_append_of_infix_left⟩
  rcases List.infix_append_iff_ne_nil.mp h with hleft | hright | ⟨l₁, l₂, -, hl₂, hword, -, hborder⟩
  · exact hleft
  · exact (ha (hright.subset (by simp))).elim
  · obtain ⟨rest, b, rfl⟩ := (List.eq_nil_or_concat' l₂).resolve_left hl₂
    rw [← List.append_assoc] at hword
    obtain ⟨-, hlast⟩ := List.append_inj' hword rfl
    cases hlast
    exact (ha (hborder.subset (by simp))).elim

/-- A mark that occurs once is the only place where a word can start with it. -/
theorem cons_infix_iff_of_mark (hx : a ∉ x) (hy : a ∉ y) :
    a :: word <:+: x ++ a :: y ↔ word <+: y := by
  constructor
  · rintro ⟨s, t, h⟩
    rw [List.append_assoc, List.cons_append] at h
    obtain ⟨-, -, hrest⟩ := (List.append_cons_inj_of_notMem hx hy).mp h.symm
    exact ⟨t, hrest.symm⟩
  · rintro ⟨t, rfl⟩
    exact ⟨x, t, by simp⟩

theorem prefix_append_cons_iff (ha : a ∉ word) : word <+: x ++ a :: y ↔ word <+: x := by
  refine ⟨fun h => ?_, fun h => h.trans (List.prefix_append ..)⟩
  rcases List.prefix_or_prefix_of_prefix h (List.prefix_append x (a :: y)) with hle | ⟨rest, rfl⟩
  · exact hle
  · cases rest with
    | nil => rw [List.append_nil]
    | cons b rest =>
      obtain ⟨rfl, -⟩ := List.cons_prefix_cons.mp ((List.prefix_append_right_inj x).mp h)
      exact (ha (by simp)).elim

/-- Whether a text starts with symbols of the given classes. -/
def patternStarts : List (α → Bool) → List α → Bool
  | [], _ => true
  | _ :: _, [] => false
  | p :: pattern, c :: text => p c && patternStarts pattern text

def patternOccurs (pattern : List (α → Bool)) (text : List α) : Bool :=
  text.tails.any (patternStarts pattern)

abbrev Fits (pattern : List (α → Bool)) (word : List α) : Prop :=
  List.Forall₂ (fun p c => p c = true) pattern word

variable {pattern : List (α → Bool)} {text : List α}

theorem exists_class_of_mem (h : Fits pattern word) (ha : a ∈ word) :
    ∃ p ∈ pattern, p a = true := by
  induction h with
  | nil => cases ha
  | cons hc _ ih =>
    rcases List.mem_cons.mp ha with rfl | ha
    · exact ⟨_, List.mem_cons_self .., hc⟩
    · obtain ⟨p, hp, hpa⟩ := ih ha
      exact ⟨p, List.mem_cons_of_mem _ hp, hpa⟩

theorem exists_mem_of_class {p : α → Bool} (h : Fits pattern word) (hp : p ∈ pattern) :
    ∃ c ∈ word, p c = true := by
  induction h with
  | nil => cases hp
  | cons hc _ ih =>
    rcases List.mem_cons.mp hp with rfl | hp
    · exact ⟨_, List.mem_cons_self .., hc⟩
    · obtain ⟨c, hmem, hpc⟩ := ih hp
      exact ⟨c, List.mem_cons_of_mem _ hmem, hpc⟩

theorem fits_replicate_iff {p : α → Bool} {n : Nat} :
    Fits (List.replicate n p) word ↔ word.length = n ∧ ∀ c ∈ word, p c = true := by
  induction n generalizing word with
  | zero =>
    refine List.forall₂_nil_left_iff.trans ?_
    constructor
    · rintro rfl
      exact ⟨rfl, by simp⟩
    · rintro ⟨hlength, -⟩
      exact List.eq_nil_of_length_eq_zero hlength
  | succ n ih =>
    rw [List.replicate_succ]
    cases word with
    | nil => exact iff_of_false (by rintro ⟨⟩) (by simp)
    | cons c rest =>
      refine (List.forall₂_cons.trans (and_congr_right fun _ => ih)).trans ?_
      rw [List.length_cons, Nat.add_right_cancel_iff, List.forall_mem_cons]
      tauto

theorem patternStarts_iff :
    patternStarts pattern text = true ↔ ∃ word, word <+: text ∧ Fits pattern word := by
  induction pattern generalizing text with
  | nil => exact iff_of_true (by simp [patternStarts]) ⟨[], List.nil_prefix, .nil⟩
  | cons p pattern ih =>
    cases text with
    | nil =>
      refine iff_of_false (by simp [patternStarts]) ?_
      rintro ⟨word, hword, hfits⟩
      rw [List.prefix_nil.mp hword] at hfits
      cases hfits
    | cons c text =>
      rw [patternStarts, Bool.and_eq_true, ih]
      constructor
      · rintro ⟨hc, word, hword, hfits⟩
        exact ⟨c :: word, List.cons_prefix_cons.mpr ⟨rfl, hword⟩, .cons hc hfits⟩
      · rintro ⟨word, hword, hfits⟩
        cases hfits with
        | cons hc hfits =>
          obtain ⟨rfl, hrest⟩ := List.cons_prefix_cons.mp hword
          exact ⟨hc, _, hrest, hfits⟩

theorem patternOccurs_iff :
    patternOccurs pattern text = true ↔ ∃ word, word <:+: text ∧ Fits pattern word := by
  simp only [patternOccurs, List.any_eq_true, List.mem_tails, patternStarts_iff]
  constructor
  · rintro ⟨tail, htail, word, hword, hfits⟩
    exact ⟨word, hword.isInfix.trans htail.isInfix, hfits⟩
  · rintro ⟨word, hword, hfits⟩
    obtain ⟨tail, hprefix, hsuffix⟩ := List.infix_iff_prefix_suffix.mp hword
    exact ⟨tail, hsuffix, word, hprefix, hfits⟩

/-- A symbol of none of the classes is a border. -/
theorem patternOccurs_around_iff (ha : ∀ p ∈ pattern, p a = false) :
    patternOccurs pattern (x ++ a :: y) = true ↔
      patternOccurs pattern x = true ∨ patternOccurs pattern y = true := by
  have hlacks : ∀ word, Fits pattern word → a ∉ word := by
    intro word hfits hmem
    obtain ⟨p, hp, hpa⟩ := exists_class_of_mem hfits hmem
    rw [ha p hp] at hpa
    cases hpa
  simp only [patternOccurs_iff]
  constructor
  · rintro ⟨word, hword, hfits⟩
    exact ((infix_around_iff (hlacks word hfits)).mp hword).imp (fun h => ⟨word, h, hfits⟩)
      fun h => ⟨word, h, hfits⟩
  · rintro (⟨word, hword, hfits⟩ | ⟨word, hword, hfits⟩)
    · exact ⟨word, (infix_around_iff (hlacks word hfits)).mpr (.inl hword), hfits⟩
    · exact ⟨word, (infix_around_iff (hlacks word hfits)).mpr (.inr hword), hfits⟩

end TikkaRaffle.Lib
