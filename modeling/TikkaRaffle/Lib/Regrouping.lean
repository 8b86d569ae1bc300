import Mathlib.Data.Nat.Bitwise
import TikkaRaffle.Lib.Paging

/-! Bytes written in digits of another width. The bits are regrouped from the
highest on, the last digit is filled up with zeros, and reading drops what does
not make a byte. -/
namespace TikkaRaffle.Lib

def digitBits : Nat → Nat → List Bool
  | 0, _ => []
  | width + 1, n => n.testBit width :: digitBits width n

def bitsValue : List Bool → Nat
  | [] => 0
  | bit :: rest => 2 ^ rest.length * bit.toNat + bitsValue rest

@[simp] theorem digitBits_length (width n : Nat) : (digitBits width n).length = width := by
  induction width with
  | zero => rfl
  | succ width ih => rw [digitBits, List.length_cons, ih]

theorem bitsValue_digitBits (width n : Nat) : bitsValue (digitBits width n) = n % 2 ^ width := by
  induction width with
  | zero => rw [Nat.pow_zero, Nat.mod_one]; rfl
  | succ width ih =>
    rw [digitBits, bitsValue, ih, digitBits_length, Nat.mod_pow_succ, Nat.toNat_testBit,
      Nat.add_comm]

theorem bitsValue_lt (bits : List Bool) : bitsValue bits < 2 ^ bits.length := by
  induction bits with
  | nil => exact Nat.one_pos
  | cons bit rest ih =>
    have hbit : 2 ^ rest.length * bit.toNat ≤ 2 ^ rest.length * 1 :=
      Nat.mul_le_mul_left _ (Bool.toNat_le bit)
    rw [bitsValue, List.length_cons, Nat.pow_succ]
    omega

theorem digitBits_high {width high : Nat} (a : Nat) {n : Nat} (hwidth : width ≤ high)
    (hn : n < 2 ^ high) : digitBits width (2 ^ high * a + n) = digitBits width n := by
  induction width with
  | zero => rfl
  | succ width ih =>
    rw [digitBits, digitBits, ih (by omega), Nat.testBit_two_pow_mul_add a hn, if_pos (by omega)]

theorem digitBits_bitsValue (bits : List Bool) : digitBits bits.length (bitsValue bits) = bits := by
  induction bits with
  | nil => rfl
  | cons bit rest ih =>
    have hlt := bitsValue_lt rest
    rw [List.length_cons, digitBits, bitsValue, digitBits_high _ le_rfl hlt, ih,
      Nat.testBit_two_pow_mul_add _ hlt, if_neg (Nat.lt_irrefl _), Nat.sub_self]
    cases bit <;> rfl

theorem digitBits_add (width low n : Nat) :
    digitBits (width + low) n = digitBits width (n / 2 ^ low) ++ digitBits low n := by
  induction width with
  | zero => rw [Nat.zero_add]; rfl
  | succ width ih =>
    rw [Nat.succ_add, digitBits, digitBits, ih, List.cons_append, Nat.testBit_div_two_pow]

def regroup (width : Nat) (bits : List Bool) : List Nat :=
  (List.range (windowCount bits.length width)).map fun i =>
    bitsValue ((window bits (i * width) width).rightpad width false)

def spread (width : Nat) (digits : List Nat) : List Bool :=
  digits.flatMap (digitBits width)

theorem rightpad_of_length {bits : List Bool} {width : Nat} (h : bits.length = width) :
    bits.rightpad width false = bits := by
  rw [List.rightpad, h, Nat.sub_self]
  exact List.append_nil bits

theorem digitBits_rightpad {bits : List Bool} {width : Nat} (h : bits.length ≤ width) :
    digitBits width (bitsValue (bits.rightpad width false)) = bits.rightpad width false := by
  have hlength : (bits.rightpad width false).length = width := by
    rw [List.length_rightpad, Nat.max_eq_left h]
  conv_lhs => lhs; rw [← hlength]
  exact digitBits_bitsValue _

theorem window_length_le (bits : List Bool) (offset width : Nat) :
    (window bits offset width).length ≤ width := by
  rw [window_length]
  exact Nat.min_le_left ..

theorem spread_regroup {width : Nat} (hwidth : 0 < width) (bits : List Bool) :
    ∃ fill < width, spread width (regroup width bits) = bits ++ List.replicate fill false := by
  have hspread : spread width (regroup width bits) =
      (List.range (windowCount bits.length width)).flatMap fun i =>
        (window bits (i * width) width).rightpad width false := by
    rw [spread, regroup, List.flatMap_map]
    simp only [digitBits_rightpad (window_length_le ..)]
  rw [hspread]
  cases hcount : windowCount bits.length width with
  | zero =>
    have hnil : bits = [] := by
      have hempty := (lt_windowCount_iff hwidth bits.length 0).not.mp (by omega)
      exact List.eq_nil_of_length_eq_zero (by omega)
    exact ⟨0, hwidth, by rw [hnil]; rfl⟩
  | succ last =>
    have hbegun : last * width < bits.length :=
      (lt_windowCount_iff hwidth bits.length last).mp (by omega)
    have hover := (lt_windowCount_iff hwidth bits.length (last + 1)).not.mp (by omega)
    rw [Nat.succ_mul] at hover
    have hfull : ∀ i ∈ List.range last, (window bits (i * width) width).rightpad width false =
        window bits (i * width) width := by
      intro i hi
      have hnext := Nat.mul_le_mul_right width (Nat.succ_le_of_lt (List.mem_range.mp hi))
      rw [Nat.succ_mul] at hnext
      apply rightpad_of_length
      rw [window_length]
      omega
    refine ⟨width - (bits.length - last * width), by omega, ?_⟩
    have hlast : window bits (last * width) width = bits.drop (last * width) :=
      List.take_of_length_le (by rw [List.length_drop]; omega)
    rw [List.range_succ, List.flatMap_append, List.flatMap_congr hfull, flatMap_window,
      List.flatMap_singleton, hlast, List.rightpad, List.length_drop, ← List.append_assoc,
      List.take_append_drop]

def bytesBits (bytes : List UInt8) : List Bool :=
  bytes.flatMap fun byte => digitBits 8 byte.toNat

def wholeBytes (bits : List Bool) : List UInt8 :=
  (List.range (bits.length / 8)).map fun i => UInt8.ofNat (bitsValue (window bits (i * 8) 8))

theorem bytesBits_cons (byte : UInt8) (rest : List UInt8) :
    bytesBits (byte :: rest) = digitBits 8 byte.toNat ++ bytesBits rest :=
  List.flatMap_cons

theorem bytesBits_length (bytes : List UInt8) : (bytesBits bytes).length = 8 * bytes.length := by
  induction bytes with
  | nil => rfl
  | cons byte rest ih =>
    rw [bytesBits_cons, List.length_append, digitBits_length, ih, List.length_cons]
    omega

theorem wholeBytes_cons (byte : UInt8) (bits : List Bool) :
    wholeBytes (digitBits 8 byte.toNat ++ bits) = byte :: wholeBytes bits := by
  have hcount : (digitBits 8 byte.toNat ++ bits).length / 8 = bits.length / 8 + 1 := by
    rw [List.length_append, digitBits_length]
    omega
  have hhead : window (digitBits 8 byte.toNat ++ bits) (0 * 8) 8 = digitBits 8 byte.toNat := by
    rw [Nat.zero_mul, window, List.drop_zero, List.take_left' (digitBits_length ..)]
  have htail : ∀ i, window (digitBits 8 byte.toNat ++ bits) ((i + 1) * 8) 8 =
      window bits (i * 8) 8 := by
    intro i
    have hoffset : (i + 1) * 8 = (digitBits 8 byte.toNat).length + i * 8 := by
      rw [digitBits_length]
      omega
    rw [window, hoffset, ← List.drop_drop, List.drop_left, window]
  have hbyte : UInt8.ofNat (bitsValue (digitBits 8 byte.toNat)) = byte := by
    rw [bitsValue_digitBits, Nat.mod_eq_of_lt byte.toNat_lt, UInt8.ofNat_toNat]
  rw [wholeBytes, hcount, List.range_succ_eq_map, List.map_cons, hhead, hbyte, List.map_map]
  simp only [Function.comp_def, Nat.succ_eq_add_one, htail, wholeBytes]

theorem wholeBytes_bytesBits (bytes : List UInt8) {tail : List Bool} (htail : tail.length < 8) :
    wholeBytes (bytesBits bytes ++ tail) = bytes := by
  induction bytes with
  | nil =>
    rw [wholeBytes, bytesBits, List.flatMap_nil, List.nil_append, Nat.div_eq_of_lt htail]
    rfl
  | cons byte rest ih => rw [bytesBits_cons, List.append_assoc, wholeBytes_cons, ih]

/-- Symbols for the digits of a width, and a reading that finds every symbol's
digit. It may know more symbols than are written. -/
structure Alphabet (width : Nat) where
  write : Nat → Char
  read : Char → Option Nat
  read_write : ∀ digit < 2 ^ width, read (write digit) = some digit

namespace Alphabet

variable {width : Nat} (alphabet : Alphabet width)

def encode (bytes : List UInt8) : List Char :=
  (regroup width (bytesBits bytes)).map alphabet.write

/-- Symbols that are not read are skipped. -/
def decode (text : List Char) : List UInt8 :=
  wholeBytes (spread width (text.filterMap alphabet.read))

theorem regroup_lt {bits : List Bool} {digit : Nat} (h : digit ∈ regroup width bits) :
    digit < 2 ^ width := by
  obtain ⟨i, -, rfl⟩ := List.mem_map.mp h
  have hlt := bitsValue_lt ((window bits (i * width) width).rightpad width false)
  rwa [List.length_rightpad, Nat.max_eq_left (window_length_le ..)] at hlt

theorem filterMap_read_encode (bytes : List UInt8) :
    (alphabet.encode bytes).filterMap alphabet.read = regroup width (bytesBits bytes) := by
  have hread : ∀ digit ∈ regroup width (bytesBits bytes),
      (alphabet.read ∘ alphabet.write) digit = some digit :=
    fun digit hdigit => alphabet.read_write digit (regroup_lt hdigit)
  rw [encode, List.filterMap_map, List.filterMap_congr hread, List.filterMap_some]

theorem decode_encode (hpos : 0 < width) (hbyte : width ≤ 8) (bytes : List UInt8) :
    alphabet.decode (alphabet.encode bytes) = bytes := by
  obtain ⟨fill, hfill, hspread⟩ := spread_regroup hpos (bytesBits bytes)
  rw [decode, filterMap_read_encode, hspread]
  exact wholeBytes_bytesBits bytes (by rw [List.length_replicate]; omega)

theorem encode_length (bytes : List UInt8) :
    (alphabet.encode bytes).length = windowCount (8 * bytes.length) width := by
  rw [encode, List.length_map, regroup, List.length_map, List.length_range, bytesBits_length]

theorem mem_encode {bytes : List UInt8} {c : Char} (h : c ∈ alphabet.encode bytes) :
    ∃ digit < 2 ^ width, c = alphabet.write digit := by
  obtain ⟨digit, hdigit, rfl⟩ := List.mem_map.mp h
  exact ⟨digit, regroup_lt hdigit, rfl⟩

theorem head_encode {low : Nat} (hwidth : width + low = 8) (hpos : 0 < width) (byte : UInt8)
    (rest : List UInt8) :
    (alphabet.encode (byte :: rest)).head? = some (alphabet.write (byte.toNat / 2 ^ low)) := by
  obtain ⟨count, hcount⟩ : ∃ count,
      windowCount (bytesBits (byte :: rest)).length width = count + 1 := by
    have hbegun := (lt_windowCount_iff hpos (bytesBits (byte :: rest)).length 0).mpr
      (by rw [bytesBits_length, List.length_cons]; omega)
    exact ⟨_, (Nat.succ_pred_eq_of_pos hbegun).symm⟩
  have hfirst : window (bytesBits (byte :: rest)) (0 * width) width =
      digitBits width (byte.toNat / 2 ^ low) := by
    rw [bytesBits_cons, ← hwidth, digitBits_add, Nat.zero_mul, window, List.drop_zero,
      List.append_assoc, List.take_left' (digitBits_length ..)]
  have hsmall : byte.toNat / 2 ^ low < 2 ^ width := by
    rw [Nat.div_lt_iff_lt_mul (Nat.two_pow_pos low), ← Nat.pow_add, hwidth]
    exact byte.toNat_lt
  rw [encode, regroup, hcount, List.range_succ_eq_map, List.map_cons, List.map_cons, hfirst,
    rightpad_of_length (digitBits_length ..), bitsValue_digitBits, Nat.mod_eq_of_lt hsmall,
    List.head?_cons]

end Alphabet

end TikkaRaffle.Lib
