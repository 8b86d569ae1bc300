import TikkaRaffle.Instance.Randomness
import TikkaRaffle.Oracle.KeyService

/-! `VrfService`: the proof an oracle signs for a request, and the seed it gives. -/
namespace TikkaRaffle.Oracle

open TikkaRaffle.Lib TikkaRaffle.Instance

structure Sdk where
  reading : KeypairReading
  rawPublicKey : Keypair → Digest
  sign : Keypair → Bytes → Signature
  /-- `new Address(text)`, which throws on a malformed text. -/
  address : String → Option Address
  toXDR : Instance.ScVal → Bytes
  sha256 : Bytes → Digest

/-- The platforms of the oracle and of the contract implement the same standards. -/
structure Sdk.Agrees (sdk : Sdk) (h : Host) : Prop where
  verifies : ∀ keypair message,
    h.ed25519Verify (sdk.rawPublicKey keypair) message (sdk.sign keypair message) = true
  encodes : ∀ contract requestId, requestId < 2 ^ 64 →
    sdk.toXDR (.vec [.address contract, .u64 requestId]) =
      h.toXdr (.tuple [.address contract, .u64 requestId])
  hashes : sdk.sha256 = h.sha256

structure RandomnessProof where
  randomSeed : Nat
  publicKey : Digest
  proof : Signature
  requestId : Nat
  deriving DecidableEq

namespace KeyService

def sign (sdk : Sdk) (data : Bytes) (s : KeyService) : Except Unit Signature := do
  let keypair ← s.ensureInitialized
  return sdk.sign keypair data

def getPublicKeyBytes (sdk : Sdk) (s : KeyService) : Except Unit Digest := do
  let keypair ← s.ensureInitialized
  return sdk.rawPublicKey keypair

end KeyService

def writeUInt32BE (value : Nat) : Bytes :=
  [value / 2 ^ 24, value / 2 ^ 16, value / 2 ^ 8, value].map UInt8.ofNat

def readUInt32BE (bytes : Bytes) (offset : Nat) : Nat :=
  (bytes.getD offset 0).toNat * 2 ^ 24 + (bytes.getD (offset + 1) 0).toNat * 2 ^ 16 +
    (bytes.getD (offset + 2) 0).toNat * 2 ^ 8 + (bytes.getD (offset + 3) 0).toNat

def readBigUInt64BE (bytes : Bytes) : Nat :=
  readUInt32BE bytes 0 * 2 ^ 32 + readUInt32BE bytes 4

namespace VrfService

/-- A `RangeError` outside of 64 bits. -/
def buildProofMessage (seed : Int) : Except Unit Bytes := do
  check (0 ≤ seed) ()
  check (seed < 2 ^ 64) ()
  let hi := seed.toNat / 2 ^ 32 % 2 ^ 32
  let lo := seed.toNat % 2 ^ 32
  return writeUInt32BE hi ++ writeUInt32BE lo

def buildVrfProofMessage (sdk : Sdk) (raffleContract : String) (requestId : Nat) :
    Except Unit Bytes := do
  let address ← found (sdk.address raffleContract) ()
  check (requestId < 2 ^ 64) ()
  return sdk.toXDR (.vec [.address address, .u64 requestId])

def deriveRandomSeedFromProof (sdk : Sdk) (proof : Signature) : Nat :=
  readBigUInt64BE (sdk.sha256 proof.toList).toList

def signRandomnessProof (sdk : Sdk) (keyService : KeyService) (raffleContract : String)
    (requestId : Nat) : Except Unit RandomnessProof := do
  let message ← buildVrfProofMessage sdk raffleContract requestId
  let proof ← keyService.sign sdk message
  let publicKey ← keyService.getPublicKeyBytes sdk
  return ⟨deriveRandomSeedFromProof sdk proof, publicKey, proof, requestId⟩

end VrfService

theorem digest_bytes (digest : Digest) :
    ∃ b₀ b₁ b₂ b₃ b₄ b₅ b₆ b₇ rest, digest.toList = b₀ :: b₁ :: b₂ :: b₃ :: b₄ :: b₅ :: b₆ :: b₇ ::
      rest := by
  have hlength : digest.toList.length = 32 := digest.length_toList
  match hbytes : digest.toList with
  | b₀ :: b₁ :: b₂ :: b₃ :: b₄ :: b₅ :: b₆ :: b₇ :: rest =>
    exact ⟨b₀, b₁, b₂, b₃, b₄, b₅, b₆, b₇, rest, rfl⟩
  | [] | [_] | [_, _] | [_, _, _] | [_, _, _, _] | [_, _, _, _, _] | [_, _, _, _, _, _]
  | [_, _, _, _, _, _, _] =>
    rw [hbytes] at hlength
    simp at hlength

theorem readBigUInt64BE_digest (digest : Digest) :
    readBigUInt64BE digest.toList = seedOfDigest digest := by
  obtain ⟨b₀, b₁, b₂, b₃, b₄, b₅, b₆, b₇, rest, hbytes⟩ := digest_bytes digest
  simp only [readBigUInt64BE, readUInt32BE, seedOfDigest, hbytes, List.take_succ_cons,
    List.take_zero, List.foldl_cons, List.foldl_nil, List.getD_cons_zero, List.getD_cons_succ]
  omega

theorem buildProofMessage_beBytes {seed : Nat} (hseed : seed < 2 ^ 64) :
    VrfService.buildProofMessage seed = .ok (beBytes seed) := by
  have hdigit : ∀ {a b : Nat}, a % 2 ^ 8 = b % 2 ^ 8 → UInt8.ofNat a = UInt8.ofNat b :=
    fun hab => UInt8.toNat_inj.mp (by rw [UInt8.toNat_ofNat', UInt8.toNat_ofNat', hab])
  have hrange : ((seed : Int) < 2 ^ 64) := by exact_mod_cast hseed
  simp only [VrfService.buildProofMessage, except_bind_ok, check_ok, exists_const, except_pure_ok,
    Int.toNat_natCast]
  refine ⟨Int.natCast_nonneg seed, hrange, ?_⟩
  simp only [writeUInt32BE, beBytes, List.range, List.range.loop, List.map_cons, List.map_nil,
    List.cons_append, List.nil_append, List.cons.injEq, and_true]
  refine ⟨?_, ?_, ?_, ?_, ?_, ?_, ?_, ?_⟩ <;> apply hdigit <;> omega

/-- A seed leads back to the bytes of the hash it was read from. -/
theorem beBytes_seedOfDigest (digest : Digest) :
    beBytes (seedOfDigest digest) = digest.toList.take 8 := by
  have hbyte : ∀ {a : Nat} {b : UInt8}, a % 2 ^ 8 = b.toNat → UInt8.ofNat a = b :=
    fun hab => UInt8.toNat_inj.mp (by rw [UInt8.toNat_ofNat', hab])
  obtain ⟨b₀, b₁, b₂, b₃, b₄, b₅, b₆, b₇, rest, hbytes⟩ := digest_bytes digest
  have hlt : ∀ b : UInt8, b.toNat < 256 := fun b => b.toNat_lt
  have h₁ := hlt b₁
  have h₂ := hlt b₂
  have h₃ := hlt b₃
  have h₄ := hlt b₄
  have h₅ := hlt b₅
  have h₆ := hlt b₆
  have h₇ := hlt b₇
  have h₀ := hlt b₀
  simp only [beBytes, seedOfDigest, hbytes, List.range, List.range.loop, List.map_cons,
    List.map_nil, List.take_succ_cons, List.take_zero, List.foldl_cons, List.foldl_nil,
    List.cons.injEq, and_true]
  refine ⟨?_, ?_, ?_, ?_, ?_, ?_, ?_, ?_⟩ <;> apply hbyte <;> omega

end TikkaRaffle.Oracle
