import Mathlib.Data.List.DropRight
import TikkaRaffle.Lib.Substitution

/-! Texts as words between separators, and words that are cut at an assignment. -/
namespace TikkaRaffle.Lib

variable {α : Type}

section Words

variable (plain : α → Bool)

/-- The text with a function applied to its words, which are the stretches of plain
symbols. The first argument is the word so far. -/
def mapWordsFrom (f : List α → List α) : List α → List α → List α
  | word, [] => f word
  | word, c :: rest =>
      if plain c then mapWordsFrom f (word ++ [c]) rest
      else f word ++ c :: mapWordsFrom f [] rest

def mapWords (f : List α → List α) (text : List α) : List α := mapWordsFrom plain f [] text

def IsWord (word : List α) : Prop := ∀ c ∈ word, plain c = true

instance (word : List α) : Decidable (IsWord plain word) :=
  inferInstanceAs (Decidable (∀ c ∈ word, plain c = true))

variable {plain} {f g : List α → List α} {word rest : List α} {c : α}

theorem mapWordsFrom_append (hword : IsWord plain word) (before rest : List α) :
    mapWordsFrom plain f before (word ++ rest) = mapWordsFrom plain f (before ++ word) rest := by
  induction word generalizing before with
  | nil => rw [List.nil_append, List.append_nil]
  | cons c word ih =>
    obtain ⟨hc, hword⟩ := List.forall_mem_cons.mp hword
    rw [List.cons_append, mapWordsFrom, if_pos hc, ih hword, List.append_assoc,
      List.singleton_append]

theorem mapWords_word (hword : IsWord plain word) : mapWords plain f word = f word := by
  have h := mapWordsFrom_append (f := f) hword [] []
  rwa [List.append_nil, List.nil_append] at h

theorem mapWords_append_cons (hword : IsWord plain word) (hc : plain c = false) :
    mapWords plain f (word ++ c :: rest) = f word ++ c :: mapWords plain f rest := by
  have hstop : ¬ plain c = true := Bool.not_eq_true _ ▸ hc
  rw [mapWords, mapWordsFrom_append hword, List.nil_append, mapWordsFrom, if_neg hstop]
  rfl

theorem words_induction (plain : α → Bool) {P : List α → Prop}
    (last : ∀ word, IsWord plain word → P word)
    (cons : ∀ word c rest, IsWord plain word → plain c = false → P rest → P (word ++ c :: rest))
    (text : List α) : P text := by
  suffices h : ∀ word, IsWord plain word → P (word ++ text) from
    h [] (List.forall_mem_nil _)
  induction text with
  | nil =>
    intro word hword
    rw [List.append_nil]
    exact last word hword
  | cons c rest ih =>
    intro word hword
    cases hc : plain c with
    | true =>
      rw [List.append_cons]
      refine ih (word ++ [c]) fun d hd => ?_
      rcases List.mem_append.mp hd with hd | hd
      · exact hword d hd
      · rwa [List.mem_singleton.mp hd]
    | false => exact cons word c rest hword hc (ih [] (List.forall_mem_nil _))

theorem mapWords_mapWords (hg : ∀ word, IsWord plain word → IsWord plain (g word))
    (text : List α) : mapWords plain f (mapWords plain g text) =
      mapWords plain (fun word => f (g word)) text := by
  induction text using words_induction plain with
  | last word hword => rw [mapWords_word hword, mapWords_word hword, mapWords_word (hg word hword)]
  | cons word c rest hword hc ih =>
    rw [mapWords_append_cons hword hc, mapWords_append_cons hword hc,
      mapWords_append_cons (hg word hword) hc, ih]

theorem mapWords_congr (hfg : ∀ word, IsWord plain word → f word = g word) (text : List α) :
    mapWords plain f text = mapWords plain g text := by
  induction text using words_induction plain with
  | last word hword => rw [mapWords_word hword, mapWords_word hword, hfg word hword]
  | cons word c rest hword hc ih =>
    rw [mapWords_append_cons hword hc, mapWords_append_cons hword hc, hfg word hword, ih]

end Words

section Cutting

variable {ends first second : List α → Bool} {mark before tag value : List α}

/-- The rest of a word; from the first place on where the word so far ends as it
should, a mark stands for it. -/
def hideAfter (ends : List α → Bool) (mark : List α) : List α → List α → List α
  | _, [] => []
  | before, c :: rest =>
      if ends before then mark else c :: hideAfter ends mark (before ++ [c]) rest

def cutWord (ends : List α → Bool) (mark word : List α) : List α := hideAfter ends mark [] word

theorem hideAfter_mark (hmark : ∀ before, ∀ c ∈ mark, ends (before ++ [c]) = false) (before) :
    hideAfter ends mark before mark = mark := by
  have hkept : ∀ rest before, ends before = false → (∀ c ∈ rest, c ∈ mark) →
      hideAfter ends mark before rest = rest := by
    intro rest
    induction rest with
    | nil => exact fun _ _ _ => rfl
    | cons c rest ih =>
      intro before hbefore hrest
      obtain ⟨hc, hrest⟩ := List.forall_mem_cons.mp hrest
      rw [hideAfter, if_neg (by rw [hbefore]; decide), ih _ (hmark before c hc) hrest]
  cases hends : ends before with
  | false => exact hkept mark before hends fun _ hc => hc
  | true =>
    cases mark with
    | nil => rfl
    | cons c rest => rw [hideAfter, if_pos hends]

theorem hideAfter_hideAfter (hmark : ∀ before, ∀ c ∈ mark, second (before ++ [c]) = false)
    (before word : List α) :
    hideAfter second mark before (hideAfter first mark before word) =
      hideAfter (fun before => first before || second before) mark before word := by
  induction word generalizing before with
  | nil => rfl
  | cons c rest ih =>
    cases hfirst : first before with
    | true =>
      rw [hideAfter, if_pos hfirst, hideAfter_mark hmark, hideAfter, if_pos (by rw [hfirst]; rfl)]
    | false =>
      rw [hideAfter, if_neg (by rw [hfirst]; decide), hideAfter, ih, hideAfter, hfirst]
      rfl

theorem hideAfter_hit (hbefore : ∀ part, part <+: tag → part ≠ tag → ends (before ++ part) = false)
    (htag : ends (before ++ tag) = true) (hvalue : value ≠ []) :
    hideAfter ends mark before (tag ++ value) = tag ++ mark := by
  induction tag generalizing before with
  | nil =>
    rw [List.append_nil] at htag
    cases value with
    | nil => exact (hvalue rfl).elim
    | cons c rest => rw [List.nil_append, List.nil_append, hideAfter, if_pos htag]
  | cons c tag ih =>
    have hnot := hbefore [] List.nil_prefix (List.cons_ne_nil c tag).symm
    rw [List.append_nil] at hnot
    rw [List.cons_append, hideAfter, if_neg (by rw [hnot]; decide), ih, List.cons_append]
    · intro part hpart hne
      rw [List.append_assoc, List.singleton_append]
      exact hbefore (c :: part) (List.cons_prefix_cons.mpr ⟨rfl, hpart⟩)
        fun heq => hne (List.cons.inj heq).2
    · rwa [List.append_assoc, List.singleton_append]

theorem cutWord_false (word : List α) : cutWord (fun _ => false) mark word = word := by
  have h : ∀ before, hideAfter (fun _ => false) mark before word = word := by
    induction word with
    | nil => exact fun _ => rfl
    | cons c rest ih =>
      intro before
      rw [hideAfter, if_neg (by decide), ih]
  exact h []

theorem isWord_cutWord {plain : α → Bool} {word : List α} (hmark : IsWord plain mark)
    (hword : IsWord plain word) : IsWord plain (cutWord ends mark word) := by
  have h : ∀ before, IsWord plain (hideAfter ends mark before word) := by
    induction word with
    | nil => exact fun _ _ hd => by cases hd
    | cons c rest ih =>
      obtain ⟨hc, hrest⟩ := List.forall_mem_cons.mp hword
      intro before
      rw [hideAfter]
      split
      · exact hmark
      · exact List.forall_mem_cons.mpr ⟨hc, ih hrest _⟩
  exact h []

/-- A word is cut after the first of its parts that ends as it should, if a proper
part does. -/
theorem hideAfter_cases (ends : List α → Bool) (mark before word : List α) :
    (hideAfter ends mark before word = word ∧
      ∀ part, part <+: word → part ≠ word → ends (before ++ part) = false) ∨
    ∃ part rest, word = part ++ rest ∧ rest ≠ [] ∧ ends (before ++ part) = true ∧
      (∀ shorter, shorter <+: part → shorter ≠ part → ends (before ++ shorter) = false) ∧
      hideAfter ends mark before word = part ++ mark := by
  induction word generalizing before with
  | nil => exact .inl ⟨rfl, fun part hpart hne => (hne (List.prefix_nil.mp hpart)).elim⟩
  | cons c word ih =>
    cases hends : ends before with
    | true =>
      refine .inr ⟨[], c :: word, rfl, List.cons_ne_nil c word, by rwa [List.append_nil], ?_, ?_⟩
      · exact fun shorter hshorter hne => (hne (List.prefix_nil.mp hshorter)).elim
      · rw [hideAfter, if_pos hends, List.nil_append]
    | false =>
      have hkept : hideAfter ends mark before (c :: word) =
          c :: hideAfter ends mark (before ++ [c]) word := by
        rw [hideAfter, if_neg (by rw [hends]; decide)]
      have hlonger : ∀ limit : List α, (∀ part, part <+: limit → part ≠ limit →
          ends (before ++ [c] ++ part) = false) → ∀ part, part <+: c :: limit →
            part ≠ c :: limit → ends (before ++ part) = false := by
        intro limit h part hpart hne
        rcases List.prefix_cons_iff.mp hpart with rfl | ⟨rest, rfl, hrest⟩
        · rwa [List.append_nil]
        · have hshort := h rest hrest fun heq => hne (by rw [heq])
          rwa [List.append_assoc, List.singleton_append] at hshort
      rw [hkept]
      rcases ih (before ++ [c]) with ⟨heq, hnone⟩ | ⟨part, rest, rfl, hrest, hpart, hfirst, heq⟩
      · exact .inl ⟨by rw [heq], hlonger word hnone⟩
      · refine .inr ⟨c :: part, rest, rfl, hrest, ?_, hlonger part hfirst, by rw [heq]; rfl⟩
        rwa [List.append_assoc, List.singleton_append] at hpart

theorem foldl_mapWords_cutWord {ι : Type} {plain : α → Bool} {ends : ι → List α → Bool}
    (hmark : ∀ i before, ∀ c ∈ mark, ends i (before ++ [c]) = false) (hplain : IsWord plain mark)
    (kinds : List ι) (text : List α) :
    kinds.foldl (fun text i => mapWords plain (cutWord (ends i) mark) text) text =
      mapWords plain (cutWord (fun before => kinds.any (ends · before)) mark) text := by
  induction kinds generalizing text with
  | nil =>
    induction text using words_induction plain with
    | last word hword => exact ((mapWords_word hword).trans (cutWord_false word)).symm
    | cons word c rest hword hc ih =>
      rw [mapWords_append_cons hword hc, ← ih]
      exact congrArg (· ++ c :: rest) (cutWord_false word).symm
  | cons i kinds ih =>
    rw [List.foldl_cons, ih,
      mapWords_mapWords fun word hword => isWord_cutWord hplain hword]
    refine mapWords_congr (fun word _ => hideAfter_hideAfter ?_ [] word) text
    intro before c hc
    exact List.any_eq_false.mpr fun j _ => Bool.eq_false_iff.mp (hmark j before c hc)

variable {plain : α → Bool} {word inner text : List α} {a b : α}

theorem rtakeWhile_after_stop {c : α} (hc : plain c = false) (before after : List α) :
    (before ++ c :: after).rtakeWhile plain = after.rtakeWhile plain := by
  induction after using List.reverseRecOn with
  | nil => exact List.rtakeWhile_concat_neg plain before c (by rw [hc]; decide)
  | append_singleton after d ih =>
    rw [← List.cons_append, ← List.append_assoc, List.rtakeWhile_concat, List.rtakeWhile_concat, ih]

theorem rtakeWhile_append_word (hword : IsWord plain word) (before : List α) :
    (before ++ word).rtakeWhile plain = before.rtakeWhile plain ++ word := by
  have hreverse : ∀ c ∈ word.reverse, plain c = true :=
    fun c hc => hword c (List.mem_reverse.mp hc)
  rw [List.rtakeWhile, List.rtakeWhile, List.reverse_append,
    List.takeWhile_append_of_pos hreverse, List.reverse_append, List.reverse_reverse]

/-- No proper part of the word at the end of the text ends as it should. -/
def Open (plain : α → Bool) (ends : List α → Bool) (text : List α) : Prop :=
  ∀ part, part <+: text.rtakeWhile plain → part ≠ text.rtakeWhile plain → ends part = false

theorem infix_cutWord (ha : a ∉ word) (hb : b ∉ word) (hinner : ¬ word <:+: inner)
    (h : word <:+: cutWord ends (a :: (inner ++ [b])) text) :
    ∃ before after, text = before ++ word ++ after ∧
      ∀ part, part <+: before ++ word → part ≠ before ++ word → ends part = false := by
  have hnil : ¬ word <:+: [] := fun hempty => hinner (hempty.trans List.nil_infix)
  have hproper : ∀ before rest limit part : List α, limit = before ++ word ++ rest →
      part <+: before ++ word → part ≠ before ++ word → part <+: limit ∧ part ≠ limit := by
    rintro before rest limit part rfl hpart hne
    refine ⟨hpart.trans (List.prefix_append ..), fun heq => hne ?_⟩
    refine hpart.eq_of_length (Nat.le_antisymm hpart.length_le ?_)
    have hlength : (before ++ word ++ rest).length = (before ++ word).length + rest.length :=
      List.length_append
    rw [heq, hlength]
    exact Nat.le_add_right ..
  rcases hideAfter_cases ends (a :: (inner ++ [b])) [] text with
    ⟨heq, hnone⟩ | ⟨part, rest, htext, -, -, hfirst, heq⟩
  · rw [cutWord, heq] at h
    obtain ⟨before, after, htext⟩ := h
    refine ⟨before, after, htext.symm, fun part hpart hne => ?_⟩
    obtain ⟨hinitial, hdiff⟩ := hproper before after text part htext.symm hpart hne
    exact hnone part hinitial hdiff
  · rw [cutWord, heq, infix_around_iff ha, ← List.append_nil (inner ++ [b]), List.append_assoc,
      List.singleton_append, infix_around_iff hb] at h
    have hin : word <:+: part := by
      rcases h with h | h | h
      · exact h
      · exact (hinner h).elim
      · exact (hnil h).elim
    obtain ⟨before, after, hpart⟩ := hin
    refine ⟨before, after ++ rest, ?_, fun shorter hshorter hne => ?_⟩
    · rw [htext, ← hpart, List.append_assoc]
    · obtain ⟨hinitial, hdiff⟩ := hproper before after part shorter hpart.symm hshorter hne
      exact hfirst shorter hinitial hdiff

/-- What is left of a text when its words are cut was there before, in an open place. -/
theorem infix_cut (hword : IsWord plain word) (ha : a ∉ word) (hb : b ∉ word)
    (hinner : ¬ word <:+: inner)
    (h : word <:+: mapWords plain (cutWord ends (a :: (inner ++ [b]))) text) :
    ∃ before after, text = before ++ word ++ after ∧ Open plain ends (before ++ word) := by
  have hstart : ∀ {current}, IsWord plain current →
      word <:+: cutWord ends (a :: (inner ++ [b])) current →
      ∃ before after, current = before ++ word ++ after ∧ Open plain ends (before ++ word) := by
    intro current hcurrent hin
    obtain ⟨before, after, rfl, hopen⟩ := infix_cutWord ha hb hinner hin
    refine ⟨before, after, rfl, ?_⟩
    have hself : (before ++ word).rtakeWhile plain = before ++ word :=
      List.rtakeWhile_eq_self_iff.mpr fun d hd => hcurrent d (List.mem_append_left after hd)
    rwa [Open, hself]
  induction text using words_induction plain with
  | last current hcurrent =>
    rw [mapWords_word hcurrent] at h
    exact hstart hcurrent h
  | cons current c rest hcurrent hc ih =>
    have hstop : c ∉ word := fun hmem => by
      rw [hword c hmem] at hc
      cases hc
    rw [mapWords_append_cons hcurrent hc, infix_around_iff hstop] at h
    rcases h with h | h
    · obtain ⟨before, after, rfl, hopen⟩ := hstart hcurrent h
      exact ⟨before, after ++ c :: rest, by rw [List.append_assoc], hopen⟩
    · obtain ⟨before, after, rfl, hopen⟩ := ih h
      refine ⟨current ++ c :: before, after, by simp, ?_⟩
      rw [List.append_assoc, List.cons_append, Open, rtakeWhile_after_stop hc]
      exact hopen

theorem cutWord_open {before after : List α}
    (hopen : ∀ part, part <+: before ++ word → part ≠ before ++ word → ends part = false) :
    ∃ rest, cutWord ends mark (before ++ word ++ after) = before ++ word ++ rest ∧
      (rest.head? = after.head? ∨ rest.head? = mark.head?) := by
  rcases hideAfter_cases ends mark [] (before ++ word ++ after) with
    ⟨heq, -⟩ | ⟨part, rest, htext, -, hends, -, heq⟩
  · exact ⟨after, heq, .inl rfl⟩
  · have hlong : before ++ word <+: part := by
      have hpart : part <+: before ++ word ++ after := htext ▸ List.prefix_append part rest
      rcases List.prefix_or_prefix_of_prefix hpart (List.prefix_append _ after) with hshort | hlong
      · by_cases hall : part = before ++ word
        · rw [hall]
        · rw [List.nil_append, hopen part hshort hall] at hends
          cases hends
      · exact hlong
    obtain ⟨between, rfl⟩ := hlong
    rw [List.append_assoc (before ++ word), List.append_cancel_left_eq] at htext
    refine ⟨between ++ mark, by rw [cutWord, heq, List.append_assoc], ?_⟩
    cases between with
    | nil => exact .inr rfl
    | cons c between => exact .inl (by rw [htext]; rfl)

theorem word_on_one_side {c : α} {before after current tail : List α} (hc : c ∉ word)
    (h : before ++ word ++ after = current ++ c :: tail) :
    (∃ between, current = before ++ word ++ between ∧ after = between ++ c :: tail) ∨
      ∃ between, before = current ++ c :: between ∧ tail = between ++ word ++ after := by
  rcases List.append_eq_append_iff.mp h with hleft | ⟨part, hpart, htail⟩
  · exact .inl hleft
  · cases part with
    | nil => exact .inl ⟨[], by rw [hpart, List.append_nil, List.append_nil], htail.symm⟩
    | cons d part =>
      obtain ⟨rfl, rfl⟩ := List.cons.inj htail
      rcases List.append_eq_append_iff.mp hpart with ⟨part, -, hword⟩ | ⟨middle, hbefore, hmiddle⟩
      · exact (hc (by rw [hword]; simp)).elim
      · cases middle with
        | nil => exact (hc (by rw [← List.nil_append word, ← hmiddle]; simp)).elim
        | cons d between =>
          obtain ⟨rfl, rfl⟩ := List.cons.inj hmiddle
          exact .inr ⟨between, hbefore, rfl⟩

/-- A word in an open place stays; after it comes what came before, or a mark. -/
theorem cut_open {before after : List α} (hmark : mark ≠ []) (hword : IsWord plain word)
    (hopen : Open plain ends (before ++ word)) :
    ∃ front rest, mapWords plain (cutWord ends mark) (before ++ word ++ after) =
        front ++ word ++ rest ∧
      (rest.head? = after.head? ∨ rest.head? = mark.head?) := by
  generalize htext : before ++ word ++ after = text
  induction text using words_induction plain generalizing before with
  | last current hcurrent =>
    have hself : (before ++ word).rtakeWhile plain = before ++ word :=
      List.rtakeWhile_eq_self_iff.mpr fun d hd =>
        hcurrent d (htext ▸ List.mem_append_left after hd)
    rw [Open, hself] at hopen
    rw [mapWords_word hcurrent, ← htext]
    obtain ⟨rest, heq, hhead⟩ := cutWord_open hopen
    exact ⟨before, rest, heq, hhead⟩
  | cons current c tail hcurrent hc ih =>
    have hstop : c ∉ word := fun hmem => by
      rw [hword c hmem] at hc
      cases hc
    rw [mapWords_append_cons hcurrent hc]
    rcases word_on_one_side hstop htext with ⟨between, hleft, hright⟩ | ⟨between, rfl, hright⟩
    · have hself : (before ++ word).rtakeWhile plain = before ++ word :=
        List.rtakeWhile_eq_self_iff.mpr fun d hd =>
          hcurrent d (hleft ▸ List.mem_append_left between hd)
      rw [Open, hself] at hopen
      obtain ⟨rest, heq, hhead⟩ := cutWord_open hopen
      refine ⟨before, rest ++ c :: mapWords plain (cutWord ends mark) tail, ?_, ?_⟩
      · rw [hleft, heq, List.append_assoc (before ++ word)]
      · rw [hright, List.head?_append, List.head?_append]
        rcases hhead with hhead | hhead
        · exact .inl (by rw [hhead]; rfl)
        · obtain ⟨m, mark, rfl⟩ := List.exists_cons_of_ne_nil hmark
          exact .inr (by rw [hhead]; rfl)
    · rw [List.append_assoc, List.cons_append, Open, rtakeWhile_after_stop hc] at hopen
      obtain ⟨front, rest, heq, hhead⟩ := ih hopen hright.symm
      refine ⟨cutWord ends mark current ++ c :: front, rest, ?_, hhead⟩
      rw [heq]
      simp

end Cutting

section Assignments

variable [DecidableEq α] (plain : α → Bool) (fold : α → α) (key : List α)

/-- A key and then a word, which is the value. Symbols of the key are compared as
the fold leaves them. -/
def assignment : Rule α := fun text =>
  let value := (text.drop key.length).takeWhile plain
  if (text.take key.length).map fold = key ∧ value ≠ [] then
    some (key.length + value.length, text.take key.length)
  else none

def endsIn (before : List α) : Bool := decide (key <:+ before.map fold)

variable {plain fold key} {mark tag value word rest : List α}

theorem assignment_tag (htag : tag.map fold = key) (hvalue : value ≠ [])
    (hword : IsWord plain value) (hrest : rest.takeWhile plain = []) :
    assignment plain fold key (tag ++ value ++ rest) = some ((tag ++ value).length, tag) := by
  have hlength : key.length = tag.length := by rw [← htag, List.length_map]
  have htake : (value ++ rest).takeWhile plain = value := by
    rw [List.takeWhile_append_of_pos hword, hrest, List.append_nil]
  unfold assignment
  rw [hlength, List.append_assoc, List.take_left, List.drop_left, htake, if_pos ⟨htag, hvalue⟩,
    List.length_append]

theorem assignment_none (hkey : ∀ c, fold c ∈ key → plain c = true)
    (hrest : rest.takeWhile plain = [])
    (hword : ∀ tag value, word = tag ++ value → value ≠ [] → tag.map fold ≠ key) :
    assignment plain fold key (word ++ rest) = none := by
  refine if_neg ?_
  rintro ⟨hfold, hvalue⟩
  rcases Nat.lt_or_ge key.length word.length with hlt | hge
  · refine hword (word.take key.length) (word.drop key.length)
      (List.take_append_drop ..).symm ?_ ?_
    · exact List.ne_nil_of_length_pos (by rw [List.length_drop]; omega)
    · rwa [List.take_append_of_le_length hlt.le] at hfold
  · -- The key reaches past the word, so its next symbol would be a plain one.
    rw [List.drop_append, List.drop_of_length_le hge, List.nil_append] at hvalue
    rw [List.take_append, List.take_of_length_le hge, List.map_append] at hfold
    cases rest with
    | nil => exact hvalue (by rw [List.drop_nil]; rfl)
    | cons c rest =>
      have hc : ¬ plain c = true := fun hplain => by
        rw [List.takeWhile_cons_of_pos hplain] at hrest
        cases hrest
      cases hgap : key.length - word.length with
      | zero =>
        rw [hgap, List.drop_zero] at hvalue
        exact hvalue hrest
      | succ n =>
        rw [hgap, List.take_succ_cons, List.map_cons] at hfold
        exact hc (hkey c (hfold ▸ List.mem_append_right _ (List.mem_cons_self ..)))

theorem endsIn_append_singleton {c last : α} {first : List α} (hkey : key = first ++ [last])
    (hc : fold c ≠ last) (before : List α) : endsIn fold key (before ++ [c]) = false := by
  refine decide_eq_false fun hsuffix => ?_
  rw [List.map_append, List.map_singleton, hkey] at hsuffix
  obtain ⟨front, hfront⟩ := hsuffix
  rw [← List.append_assoc] at hfront
  obtain ⟨-, hlast⟩ := List.append_inj' hfront rfl
  exact hc (List.cons.inj hlast).1.symm

theorem substitute_word (hne : key ≠ []) (hkey : ∀ c, fold c ∈ key → plain c = true)
    (hrest : rest.takeWhile plain = []) (hword : IsWord plain word) (before : List α)
    (hbefore : ∀ part, part <+: word → part ≠ word → endsIn fold key (before ++ part) = true →
      endsIn fold key part = true) :
    substitute (assignment plain fold key) mark (word ++ rest) =
      hideAfter (endsIn fold key) mark before word ++
        substitute (assignment plain fold key) mark rest := by
  induction word generalizing before with
  | nil => rfl
  | cons c word ih =>
    by_cases hhit : ∃ tag value, c :: word = tag ++ value ∧ value ≠ [] ∧ tag.map fold = key
    · obtain ⟨tag, value, heq, hvalue, htag⟩ := hhit
      have hlength : key.length = tag.length := by rw [← htag, List.length_map]
      have hplain : IsWord plain value := fun d hd => hword d (heq ▸ List.mem_append_right tag hd)
      have hmatched : tag ++ value ≠ [] := by
        rw [← heq]
        exact List.cons_ne_nil c word
      rw [heq] at hbefore ⊢
      rw [substitute_hit (assignment_tag htag hvalue hplain hrest) hmatched,
        hideAfter_hit _ _ hvalue]
      · intro part hpart hpartial
        refine Bool.eq_false_iff.mpr fun hends => hpartial ?_
        have hlong : part ≠ tag ++ value := fun hwhole => by
          have hle := hpart.length_le
          have hpos := List.length_pos_of_ne_nil hvalue
          rw [hwhole, List.length_append] at hle
          omega
        have hsuffix := of_decide_eq_true
          (hbefore part (hpart.trans (List.prefix_append ..)) hlong hends)
        have hle := hsuffix.length_le
        rw [List.length_map, hlength] at hle
        exact hpart.eq_of_length (Nat.le_antisymm hpart.length_le hle)
      · refine decide_eq_true ?_
        rw [List.map_append, htag]
        exact List.suffix_append ..
    · have hnone : ∀ tag value, c :: word = tag ++ value → value ≠ [] → tag.map fold ≠ key :=
        fun tag value heq hvalue htag => hhit ⟨tag, value, heq, hvalue, htag⟩
      have hrule := assignment_none hkey hrest hnone
      rw [List.cons_append] at hrule ⊢
      have hfirst : ¬ endsIn fold key before = true := fun hends => by
        have hnil := hbefore [] List.nil_prefix (List.cons_ne_nil c word).symm
          (by rwa [List.append_nil])
        exact hne (List.suffix_nil.mp (of_decide_eq_true hnil))
      obtain ⟨-, hplain⟩ := List.forall_mem_cons.mp hword
      rw [substitute_keep hrule, hideAfter, if_neg hfirst, ih hplain (before ++ [c]),
        List.cons_append]
      intro part hpart hpartial hends
      rw [List.append_assoc, List.singleton_append] at hends
      have hlonger := hbefore (c :: part) (List.cons_prefix_cons.mpr ⟨rfl, hpart⟩)
        (fun heq => hpartial (List.cons.inj heq).2) hends
      rcases List.suffix_cons_iff.mp (of_decide_eq_true hlonger) with hall | hsuffix
      · -- The key would start where nothing was found.
        obtain ⟨value, rfl⟩ := hpart
        refine absurd hall.symm (hnone (c :: part) value rfl fun hvalue => hpartial ?_)
        rw [hvalue, List.append_nil]
      · exact decide_eq_true hsuffix

/-- A substitution of values is a cut of the words. -/
theorem substitute_assignment (hne : key ≠ []) (hkey : ∀ c, fold c ∈ key → plain c = true)
    (text : List α) :
    substitute (assignment plain fold key) mark text =
      mapWords plain (cutWord (endsIn fold key) mark) text := by
  have hstart : ∀ {word rest : List α}, IsWord plain word → rest.takeWhile plain = [] →
      substitute (assignment plain fold key) mark (word ++ rest) =
        cutWord (endsIn fold key) mark word ++
          substitute (assignment plain fold key) mark rest := by
    intro word rest hword hrest
    exact substitute_word hne hkey hrest hword [] fun part _ _ h => h
  induction text using words_induction plain with
  | last word hword =>
    have h := hstart hword (List.takeWhile_nil (p := plain))
    rw [substitute_nil, List.append_nil, List.append_nil] at h
    rw [h, mapWords_word hword]
  | cons word c rest hword hc ih =>
    have hstop : ¬ plain c = true := Bool.eq_false_iff.mp hc
    have hrest : (c :: rest).takeWhile plain = [] := List.takeWhile_cons_of_neg hstop
    have hnone : assignment plain fold key ([] ++ c :: rest) = none :=
      assignment_none hkey hrest fun tag value heq hvalue => by
        exact absurd (List.append_eq_nil_iff.mp heq.symm).2 hvalue
    rw [hstart hword hrest, mapWords_append_cons hword hc, substitute_keep hnone, ih]

end Assignments

end TikkaRaffle.Lib
