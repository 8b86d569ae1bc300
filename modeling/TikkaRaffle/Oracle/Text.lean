import Mathlib.Data.List.DropRight

/-! What the oracle's string functions take for white space. -/
namespace TikkaRaffle.Oracle

/-- `\s`, which is also what `trim` removes. -/
def isWhitespace (c : Char) : Bool :=
  (9 ≤ c.toNat && c.toNat ≤ 13) || (8192 ≤ c.toNat && c.toNat ≤ 8202) ||
    [32, 160, 5760, 8232, 8233, 8239, 8287, 12288, 65279].contains c.toNat

def trim (text : List Char) : List Char :=
  (text.dropWhile isWhitespace).rdropWhile isWhitespace

theorem dropWhile_whitespace {text : List Char} (h : ∀ c ∈ text, isWhitespace c = false) :
    text.dropWhile isWhitespace = text := by
  cases text with
  | nil => rfl
  | cons c rest =>
    have hc := h c (List.mem_cons_self ..)
    exact List.dropWhile_cons_of_neg (by rw [hc]; decide)

theorem trim_surrounded {before text after : List Char}
    (hbefore : ∀ c ∈ before, isWhitespace c = true) (hafter : ∀ c ∈ after, isWhitespace c = true)
    (htext : ∀ c ∈ text, isWhitespace c = false) : trim (before ++ text ++ after) = text := by
  have hleft : (before ++ text ++ after).dropWhile isWhitespace =
      (text ++ after).dropWhile isWhitespace := by
    rw [List.append_assoc]
    exact List.dropWhile_append_of_pos hbefore
  have hright : (text ++ after).rdropWhile isWhitespace = text := by
    have hspace : ∀ c ∈ after.reverse, isWhitespace c = true :=
      fun c hc => hafter c (List.mem_reverse.mp hc)
    have hplain : ∀ c ∈ text.reverse, isWhitespace c = false :=
      fun c hc => htext c (List.mem_reverse.mp hc)
    rw [List.rdropWhile, List.reverse_append, List.dropWhile_append_of_pos hspace,
      dropWhile_whitespace hplain, List.reverse_reverse]
  rw [trim, hleft]
  cases text with
  | nil =>
    have hnone := List.dropWhile_eq_nil_iff.mpr hafter
    rw [List.nil_append, hnone]
    rfl
  | cons c rest =>
    have hc := htext c (List.mem_cons_self ..)
    rw [List.cons_append, List.dropWhile_cons_of_neg (by rw [hc]; decide)]
    exact hright

theorem trim_plain {text : List Char} (h : ∀ c ∈ text, isWhitespace c = false) :
    trim text = text := by
  have hnone : ∀ c ∈ ([] : List Char), isWhitespace c = true := List.forall_mem_nil _
  have htrim := trim_surrounded hnone hnone h
  rwa [List.nil_append, List.append_nil] at htrim

theorem trim_trim (text : List Char) : trim (trim text) = trim text := by
  have hhead : (trim text).dropWhile isWhitespace = trim text := by
    cases htrimmed : trim text with
    | nil => rfl
    | cons c rest =>
      have hprefix : c :: rest <+: text.dropWhile isWhitespace := by
        rw [← htrimmed]
        exact List.rdropWhile_prefix isWhitespace _
      obtain ⟨tail, htail⟩ := hprefix
      have hc : isWhitespace c ≠ true := by
        have hfirst := List.head?_dropWhile_not isWhitespace text
        rw [← htail] at hfirst
        simpa using hfirst
      exact List.dropWhile_cons_of_neg hc
  rw [trim, hhead]
  exact List.rdropWhile_idempotent isWhitespace _

end TikkaRaffle.Oracle
