import TikkaRaffle.Lib.Regrouping
import TikkaRaffle.Oracle.Text

/-! The encodings an oracle secret may come in, and the decoder that tells them
apart. -/
namespace TikkaRaffle.Oracle

open TikkaRaffle.Lib

def position (table : String) (c : Char) : Option Nat := table.toList.idxOf? c

def symbol (table : String) (digit : Nat) : Char := table.toList.getD digit '0'

def hexRead (c : Char) : Option Nat :=
  position "0123456789abcdef" c <|> position "0123456789ABCDEF" c

def hexLower : Alphabet 4 where
  write := symbol "0123456789abcdef"
  read := hexRead
  read_write := by decide

def hexUpper : Alphabet 4 where
  write := symbol "0123456789ABCDEF"
  read := hexRead
  read_write := by decide

def base64Table : String := "ABCDEFGHIJKLMNOPQRSTUVWXYZabcdefghijklmnopqrstuvwxyz0123456789+/"

/-- Both alphabets of the encoding are read. -/
def base64 : Alphabet 6 where
  write := symbol base64Table
  read := fun c => position base64Table c <|> (position "-_" c).map (62 + ·)
  read_write := by decide

def base32 : Alphabet 5 where
  write := symbol "ABCDEFGHIJKLMNOPQRSTUVWXYZ234567"
  read := position "ABCDEFGHIJKLMNOPQRSTUVWXYZ234567"
  read_write := by decide

/-- One byte of CRC-16/XMODEM. -/
def crcByte (crc : Nat) (byte : UInt8) : Nat :=
  (List.range 8).foldl (fun crc _ =>
    if crc.testBit 15 then (crc * 2 % 2 ^ 16) ^^^ 0x1021 else crc * 2) (crc ^^^ (byte.toNat * 256))

def crc16 (bytes : List UInt8) : Nat := bytes.foldl crcByte 0

/-- The version byte of a secret seed, the seed, and the checksum of both, its
low byte first. -/
def strKeyBytes (seed : List UInt8) : List UInt8 :=
  let payload := 0x90 :: seed
  payload ++ [UInt8.ofNat (crc16 payload % 256), UInt8.ofNat (crc16 payload / 256)]

def strKey (seed : List UInt8) : List Char := base32.encode (strKeyBytes seed)

def base64Padded (bytes : List UInt8) : List Char :=
  base64.encode bytes ++ List.replicate ((3 - bytes.length % 3) % 3) '='

inductive SecretFormat where
  | hexLower | hexUpper | prefixedHexLower | prefixedHexUpper | base64 | strKey
  deriving DecidableEq, Repr

def SecretFormat.write (format : SecretFormat) (secret : List UInt8) : List Char :=
  match format with
  | .hexLower => Oracle.hexLower.encode secret
  | .hexUpper => Oracle.hexUpper.encode secret
  | .prefixedHexLower => "0x".toList ++ Oracle.hexLower.encode secret
  | .prefixedHexUpper => "0x".toList ++ Oracle.hexUpper.encode secret
  | .base64 => base64Padded secret
  | .strKey => Oracle.strKey secret

/-- `Keypair.fromSecret(text).rawSecretKey()`: it inverts the encoding of seeds
and throws on every other text. -/
structure KeypairReading where
  fromSecret : List Char → Option (List UInt8)
  fromSecret_strKey : ∀ seed, seed.length = 32 → fromSecret (strKey seed) = some seed
  fromSecret_other : ∀ text, (∀ seed, seed.length = 32 → text ≠ strKey seed) →
    fromSecret text = none

/-- Reading by writing again: what does not come back is refused. -/
def KeypairReading.rewriting : KeypairReading where
  fromSecret text :=
    let seed := ((base32.decode text).drop 1).take 32
    if seed.length = 32 ∧ strKey seed = text then some seed else none
  fromSecret_strKey := by
    intro seed hseed
    have hread : ((base32.decode (strKey seed)).drop 1).take 32 = seed := by
      rw [strKey, base32.decode_encode (by decide) (by decide), strKeyBytes, List.cons_append,
        List.drop_one, List.tail_cons, List.take_left' hseed]
    dsimp only
    rw [hread]
    exact if_pos ⟨hseed, rfl⟩
  fromSecret_other := by
    intro text hother
    exact if_neg fun ⟨hseed, htext⟩ => hother _ hseed htext.symm

def isHexDigit (c : Char) : Bool := (hexRead c).isSome

/-- `/^[0-9a-fA-F]{64}$/` -/
def isHex64 (text : List Char) : Bool := text.length = 64 && text.all isHexDigit

/-- `HEX_SECRET_RE` -/
def isHexSecret (text : List Char) : Bool :=
  isHex64 text || ("0x".toList.isPrefixOf text && isHex64 (text.drop 2))

/-- `BASE64_SECRET_RE` -/
def isBase64Secret (text : List Char) : Bool :=
  text.length = 44 && (text.take 43).all base64Table.toList.contains && text.getLast? = some '='

/-- `Buffer.from(text, 'hex')` ends at the first pair that is not made of digits. -/
def bufferFromHex (text : List Char) : List UInt8 := hexLower.decode (text.takeWhile isHexDigit)

/-- `Buffer.from(text, 'base64')` skips what is not of the alphabets. -/
def bufferFromBase64 (text : List Char) : List UInt8 := base64.decode text

/-- `none` is the error `Invalid secret key format`, or that of the strkey reader. -/
def decodeSecretKey (keypair : KeypairReading) (rawSecret : List Char) : Option (List UInt8) :=
  let trimmed := trim rawSecret
  if trimmed.head? = some 'S' then keypair.fromSecret trimmed
  else if isHexSecret trimmed then
    let hex := if "0x".toList.isPrefixOf trimmed then trimmed.drop 2 else trimmed
    let bytes := bufferFromHex hex
    if bytes.length ≠ 32 then none else some bytes
  else if isBase64Secret trimmed || 43 ≤ trimmed.length then
    let bytes := bufferFromBase64 trimmed
    if bytes.length = 32 then some bytes else none
  else none

def isValidSecretKey (keypair : KeypairReading) (secret : List Char) : Bool :=
  let trimmed := trim secret
  if trimmed.head? = some 'S' then (keypair.fromSecret trimmed).isSome
  else ((decodeSecretKey keypair trimmed).map List.length) = some 32

example : strKey (List.replicate 32 0) =
    "SAAAAAAAAAAAAAAAAAAAAAAAAAAAAAAAAAAAAAAAAAAAAAAAAAAABSU2".toList := by decide +kernel

example : crc16 ("123456789".toList.map fun c => UInt8.ofNat c.toNat) = 0x31C3 := by decide +kernel

end TikkaRaffle.Oracle
