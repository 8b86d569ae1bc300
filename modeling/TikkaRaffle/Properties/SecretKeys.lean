import TikkaRaffle.Lib.Occurrence
import TikkaRaffle.Oracle.SecretKey

/-! Which encodings of an oracle secret the decoder reads back. The texts that
start with an `S` are all taken for strkeys, also those in base64. -/
namespace TikkaRaffle.Properties

open TikkaRaffle.Lib TikkaRaffle.Oracle
open scoped TikkaRaffle.Lib.Members

variable {secret raw before after : List Char} {bytes : List UInt8} {keypair : KeypairReading}

structure WritesHex (alphabet : Alphabet 4) : Prop where
  read : alphabet.read = hexRead
  plain : ∀ digit < 2 ^ 4, alphabet.write digit ≠ 'S' ∧ alphabet.write digit ≠ 'x' ∧
    isWhitespace (alphabet.write digit) = false

theorem writesHex_lower : WritesHex hexLower := ⟨rfl, by decide⟩

theorem writesHex_upper : WritesHex hexUpper := ⟨rfl, by decide⟩

namespace WritesHex

variable {alphabet : Alphabet 4} (h : WritesHex alphabet)
include h

theorem plain_of_mem {c : Char} (hc : c ∈ alphabet.encode bytes) :
    c ≠ 'S' ∧ c ≠ 'x' ∧ isWhitespace c = false := by
  obtain ⟨digit, hdigit, rfl⟩ := alphabet.mem_encode hc
  exact h.plain digit hdigit

theorem isHexDigit_of_mem {c : Char} (hc : c ∈ alphabet.encode bytes) : isHexDigit c = true := by
  obtain ⟨digit, hdigit, rfl⟩ := alphabet.mem_encode hc
  rw [isHexDigit, ← h.read, alphabet.read_write digit hdigit]
  rfl

theorem isHex64_encode (hlength : bytes.length = 32) : isHex64 (alphabet.encode bytes) = true := by
  rw [isHex64, alphabet.encode_length, hlength, Bool.and_eq_true, List.all_eq_true]
  exact ⟨by decide, fun c hc => h.isHexDigit_of_mem hc⟩

theorem bufferFromHex_encode : bufferFromHex (alphabet.encode bytes) = bytes := by
  have hall : (alphabet.encode bytes).takeWhile isHexDigit = alphabet.encode bytes :=
    List.takeWhile_eq_self_iff.mpr fun c hc => h.isHexDigit_of_mem hc
  have hdecode : hexLower.decode (alphabet.encode bytes) =
      alphabet.decode (alphabet.encode bytes) := by
    rw [Alphabet.decode, Alphabet.decode, h.read]
    rfl
  rw [bufferFromHex, hall, hdecode, alphabet.decode_encode (by decide) (by decide)]

theorem not_prefixed : "0x".toList.isPrefixOf (alphabet.encode bytes) = false := by
  rw [Bool.eq_false_iff]
  intro hprefix
  have hx : 'x' ∈ alphabet.encode bytes :=
    (List.isPrefixOf_iff_prefix.mp hprefix).subset (by decide)
  exact (h.plain_of_mem hx).2.1 rfl

theorem decodes (hlength : bytes.length = 32) (htrim : trim raw = alphabet.encode bytes) :
    decodeSecretKey keypair raw = some bytes := by
  have hhead : (alphabet.encode bytes).head? ≠ some 'S' :=
    fun hS => (h.plain_of_mem (List.mem_of_head? hS)).1 rfl
  have hsecret : isHexSecret (alphabet.encode bytes) = true := by
    rw [isHexSecret, h.isHex64_encode hlength, Bool.true_or]
  simp only [decodeSecretKey, htrim, if_neg hhead, hsecret, h.not_prefixed, if_true,
    Bool.false_eq_true, if_false, h.bufferFromHex_encode, hlength, ne_eq, not_true_eq_false]

theorem decodes_prefixed (hlength : bytes.length = 32)
    (htrim : trim raw = "0x".toList ++ alphabet.encode bytes) :
    decodeSecretKey keypair raw = some bytes := by
  have hprefix : "0x".toList.isPrefixOf ("0x".toList ++ alphabet.encode bytes) = true :=
    List.isPrefixOf_iff_prefix.mpr (List.prefix_append ..)
  have hrest : ("0x".toList ++ alphabet.encode bytes).drop 2 = alphabet.encode bytes :=
    List.drop_left' (by decide)
  have hhead : ("0x".toList ++ alphabet.encode bytes).head? ≠ some 'S' := by
    have hzero : ("0x".toList ++ alphabet.encode bytes).head? = some '0' := rfl
    rw [hzero]
    decide
  have hsecret : isHexSecret ("0x".toList ++ alphabet.encode bytes) = true := by
    rw [isHexSecret, hprefix, hrest, h.isHex64_encode hlength, Bool.true_and, Bool.or_true]
  simp only [decodeSecretKey, htrim, if_neg hhead, hsecret, hprefix, hrest, if_true,
    h.bufferFromHex_encode, hlength, ne_eq, not_true_eq_false, if_false]

end WritesHex

theorem base64Padded_eq (hlength : bytes.length = 32) :
    base64Padded bytes = base64.encode bytes ++ ['='] := by
  rw [base64Padded, hlength]
  rfl

theorem bufferFromBase64_padded (hlength : bytes.length = 32) :
    bufferFromBase64 (base64Padded bytes) = bytes := by
  have hskip : (base64Padded bytes).filterMap base64.read =
      (base64.encode bytes).filterMap base64.read := by
    rw [base64Padded_eq hlength, List.filterMap_append]
    exact List.append_nil _
  rw [bufferFromBase64, Alphabet.decode, hskip]
  exact base64.decode_encode (by decide) (by decide) bytes

theorem strKey_length (hlength : bytes.length = 32) : (strKey bytes).length = 56 := by
  rw [strKey, base32.encode_length, strKeyBytes]
  simp only [List.length_append, List.length_cons, List.length_nil, hlength]
  rfl

theorem base64Padded_length (hlength : bytes.length = 32) : (base64Padded bytes).length = 44 := by
  rw [base64Padded_eq hlength, List.length_append, base64.encode_length, hlength]
  rfl

/-- The first letter is an `S` for four values of the first byte. -/
theorem base64_head_iff {byte : UInt8} {rest : List UInt8} (hlength : rest.length = 31) :
    (base64Padded (byte :: rest)).head? = some 'S' ↔ 72 ≤ byte.toNat ∧ byte.toNat ≤ 75 := by
  have hhead := base64.head_encode (rfl : 6 + 2 = 8) (by decide) byte rest
  have htable : ∀ digit < 2 ^ 6, base64.write digit = 'S' ↔ digit = 18 := by
    decide +kernel
  have hbyte := byte.toNat_lt
  rw [base64Padded_eq (by rw [List.length_cons, hlength]), List.head?_append, hhead,
    Option.some_or, Option.some.injEq, htable _ (by omega)]
  omega

theorem refuses_base64 (hlength : bytes.length = 32)
    (hhead : (base64Padded bytes).head? = some 'S') (htrim : trim raw = base64Padded bytes) :
    decodeSecretKey keypair raw = none := by
  have htext := base64Padded_length hlength
  have hrefused : keypair.fromSecret (base64Padded bytes) = none := by
    refine keypair.fromSecret_other _ fun seed hseed heq => ?_
    rw [heq, strKey_length hseed] at htext
    omega
  simp only [decodeSecretKey, htrim, hhead, if_true, hrefused]

theorem decodes_base64_iff {byte : UInt8} {rest : List UInt8} (hlength : rest.length = 31)
    (htrim : trim raw = base64Padded (byte :: rest)) :
    decodeSecretKey keypair raw = some (byte :: rest) ↔
      ¬ (72 ≤ byte.toNat ∧ byte.toNat ≤ 75) := by
  have hbytes : (byte :: rest).length = 32 := by rw [List.length_cons, hlength]
  have htext := base64Padded_length hbytes
  rw [← base64_head_iff hlength]
  by_cases hhead : (base64Padded (byte :: rest)).head? = some 'S'
  · simp only [refuses_base64 hbytes hhead htrim, hhead, not_true_eq_false, reduceCtorEq]
  · have hhex : isHexSecret (base64Padded (byte :: rest)) = false := by
      simp [isHexSecret, isHex64, htext]
    have hlong : (isBase64Secret (base64Padded (byte :: rest)) ||
        decide (43 ≤ (base64Padded (byte :: rest)).length)) = true := by
      rw [htext]
      exact Bool.or_true _
    simp only [decodeSecretKey, htrim, hhead, hhex, Bool.false_eq_true, if_false, hlong,
      if_true, bufferFromBase64_padded hbytes, hbytes, not_false_eq_true]

theorem strKey_head (seed : List UInt8) : (strKey seed).head? = some 'S' :=
  base32.head_encode (rfl : 5 + 3 = 8) (by decide) 0x90 _

theorem decodes_strKey (hlength : bytes.length = 32) (htrim : trim raw = strKey bytes) :
    decodeSecretKey keypair raw = some bytes := by
  simp only [decodeSecretKey, htrim, strKey_head, if_true, keypair.fromSecret_strKey bytes hlength]

theorem write_plain (format : SecretFormat) {bytes : List UInt8} :
    ∀ c ∈ format.write bytes, isWhitespace c = false := by
  have hzero : ∀ c ∈ "0x".toList, isWhitespace c = false := by decide
  have hlower : ∀ c ∈ hexLower.encode bytes, isWhitespace c = false :=
    fun c hc => (writesHex_lower.plain_of_mem hc).2.2
  have hupper : ∀ c ∈ hexUpper.encode bytes, isWhitespace c = false :=
    fun c hc => (writesHex_upper.plain_of_mem hc).2.2
  intro c hc
  cases format with
  | hexLower => exact hlower c hc
  | hexUpper => exact hupper c hc
  | prefixedHexLower => exact (List.mem_append.mp hc).elim (hzero c) (hlower c)
  | prefixedHexUpper => exact (List.mem_append.mp hc).elim (hzero c) (hupper c)
  | base64 =>
    have htable : ∀ digit < 2 ^ 6, isWhitespace (base64.write digit) = false := by
      decide +kernel
    rcases List.mem_append.mp hc with hc | hc
    · obtain ⟨digit, hdigit, rfl⟩ := base64.mem_encode hc
      exact htable digit hdigit
    · rw [List.eq_of_mem_replicate hc]
      decide
  | strKey =>
    have htable : ∀ digit < 2 ^ 5, isWhitespace (base32.write digit) = false := by decide
    obtain ⟨digit, hdigit, rfl⟩ := base32.mem_encode hc
    exact htable digit hdigit

/-- A secret in any format, with white space around it, is read back unless it is
in base64 and its first byte makes the text start with an `S`. -/
theorem secret_decodes_iff (keypair : KeypairReading) (secret : Vector UInt8 32)
    (format : SecretFormat) (hbefore : ∀ c ∈ before, isWhitespace c = true)
    (hafter : ∀ c ∈ after, isWhitespace c = true) :
    decodeSecretKey keypair (before ++ format.write secret.toList ++ after) =
        some secret.toList ↔
      ¬ (format = .base64 ∧ 72 ≤ secret[0].toNat ∧ secret[0].toNat ≤ 75) := by
  have htrim : trim (before ++ format.write secret.toList ++ after) =
      format.write secret.toList := trim_surrounded hbefore hafter (write_plain format)
  have hlength : secret.toList.length = 32 := secret.length_toList
  cases format with
  | hexLower => exact iff_of_true (writesHex_lower.decodes hlength htrim) (by simp)
  | hexUpper => exact iff_of_true (writesHex_upper.decodes hlength htrim) (by simp)
  | prefixedHexLower =>
    exact iff_of_true (writesHex_lower.decodes_prefixed hlength htrim) (by simp)
  | prefixedHexUpper =>
    exact iff_of_true (writesHex_upper.decodes_prefixed hlength htrim) (by simp)
  | strKey => exact iff_of_true (decodes_strKey hlength htrim) (by simp)
  | base64 =>
    have hpos : 0 < secret.toList.length := by rw [hlength]; decide
    obtain ⟨byte, rest, hcons⟩ := List.exists_cons_of_length_pos hpos
    have hfirst : secret[0] = byte :=
      (Vector.getElem_toList hpos).symm.trans (by simp only [hcons, List.getElem_cons_zero])
    have hrest : rest.length = 31 := by
      rw [hcons, List.length_cons] at hlength
      omega
    rw [hcons] at htrim
    rw [hcons, hfirst, eq_self_iff_true, true_and]
    exact decodes_base64_iff hrest htrim

/-- A secret of zeros in every format but strkey, and its strkey. -/
theorem secret_decodes_zeros :
    decodeSecretKey .rewriting
        (" ".toList ++ SecretFormat.base64.write (Vector.replicate 32 (0 : UInt8)).toList ++
          "\n".toList) = some (Vector.replicate 32 (0 : UInt8)).toList ↔
      ¬ (SecretFormat.base64 = .base64 ∧ 72 ≤ (Vector.replicate 32 (0 : UInt8))[0].toNat ∧
        (Vector.replicate 32 (0 : UInt8))[0].toNat ≤ 75) :=
  secret_decodes_iff .rewriting (Vector.replicate 32 0) .base64 (by decide) (by decide)

/-- The base64 text of a secret that starts with the byte 72. -/
theorem base64_secret_refused :
    SecretFormat.base64.write (72 :: List.replicate 31 0) =
        "SAAAAAAAAAAAAAAAAAAAAAAAAAAAAAAAAAAAAAAAAAA=".toList ∧
      ∀ keypair : KeypairReading,
        decodeSecretKey keypair (SecretFormat.base64.write (72 :: List.replicate 31 0)) = none := by
  have hlength : (72 :: List.replicate 31 (0 : UInt8)).length = 32 := rfl
  have hhead : (base64Padded (72 :: List.replicate 31 0)).head? = some 'S' := by decide +kernel
  have htrim : trim (base64Padded (72 :: List.replicate 31 0)) =
      base64Padded (72 :: List.replicate 31 0) :=
    trim_plain (write_plain .base64)
  exact ⟨by decide +kernel, fun keypair => refuses_base64 hlength hhead htrim⟩

theorem decodeSecretKey_length (hhead : (trim raw).head? ≠ some 'S')
    (h : decodeSecretKey keypair raw = some bytes) : bytes.length = 32 := by
  simp only [decodeSecretKey, if_neg hhead] at h
  split at h
  next =>
    split_ifs at h with hprefix hlength hlength
    all_goals
      cases h
      exact not_not.mp hlength
  next =>
    split_ifs at h with hbase64 hlength
    cases h
    exact hlength

/-- The configuration check accepts exactly the secrets that the decoder reads. -/
theorem isValidSecretKey_eq (keypair : KeypairReading) (raw : List Char) :
    isValidSecretKey keypair raw = (decodeSecretKey keypair raw).isSome := by
  have hagain : decodeSecretKey keypair (trim raw) = decodeSecretKey keypair raw := by
    simp only [decodeSecretKey, trim_trim]
  simp only [isValidSecretKey, hagain]
  split
  next hhead => simp only [decodeSecretKey, hhead, if_true]
  next hhead =>
    cases hread : decodeSecretKey keypair raw with
    | none => rfl
    | some bytes =>
      rw [Option.map_some, decodeSecretKey_length hhead hread]
      rfl

end TikkaRaffle.Properties
