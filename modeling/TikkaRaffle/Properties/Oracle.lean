import TikkaRaffle.Escrow.Selection
import TikkaRaffle.Properties.Drawing

/-! What binds the seed of an external draw. The proof is checked against the
key the caller supplies, and no stored key is compared with it: two deliveries
agree on the seed exactly when they name the same key. -/
namespace TikkaRaffle.Properties

open TikkaRaffle.Lib TikkaRaffle.Instance TikkaRaffle.Escrow Constants

variable {h : Host} {w : World} {r : Raffle} {requestId : Nat} {publicKey publicKey' : Digest}

/-- For each key and message at most one proof verifies. -/
def UniqueProofs (h : Host) : Prop :=
  ∀ key message proof proof', h.ed25519Verify key message proof = true →
    h.ed25519Verify key message proof' = true → proof = proof'

structure ExternalDraw (h : Host) (w : World) (r : Raffle) (requestId : Nat) : Prop where
  reachable : ∃ start before, Initialised h start ∧ (machine h).run start before = w
  raffle : w.raffle = some r
  drawing : r.status = .drawing
  source : r.randomnessSource = .external
  request : w.randomnessRequestId = some requestId

/-- The delivery commits at some ledger, signed by the configured oracle. -/
def Accepts (h : Host) (w : World) (seed : Nat) (publicKey : Digest) (proof : Signature)
    (requestId : Nat) : Prop :=
  ∃ c w', provideRandomness h c w seed publicKey proof requestId = .ok w'

/-- No host and no reachable draw accepts two seeds under these keys. -/
def SeedBound (publicKey publicKey' : Digest) : Prop :=
  ∀ h w r requestId, UniqueProofs h → ExternalDraw h w r requestId →
    ∀ seed proof seed' proof', Accepts h w seed publicKey proof requestId →
      Accepts h w seed' publicKey' proof' requestId → seed = seed'

theorem accepts_verified {seed : Nat} {proof : Signature} (hd : ExternalDraw h w r requestId)
    (hok : Accepts h w seed publicKey proof requestId) :
    deriveRandomSeedFromProof h proof = seed ∧
      h.ed25519Verify publicKey (buildVrfProofMessage h requestId) proof = true := by
  obtain ⟨c, w', hok⟩ := hok
  simp only [provideRandomness, except_bind_ok, ensure_ok, readRaffle_ok, hd.raffle,
    Option.some.injEq, exists_eq_left', hd.source, okOr_ok, requireAuth_ok, trapU32_ok,
    exists_const] at hok
  obtain ⟨-, oracle, -, -, -, -, _, -, -, stored, -, -, hseed, hok⟩ := hok
  split at hok
  next hverified => exact ⟨hseed, hverified⟩
  next => cases hok

/-- Any key will do: what it verifies is accepted from the oracle in every ledger from ten
after the request on, if the leaderboard answers. -/
theorem provideRandomness_of_verified {c : Ctx} {proof : Signature} {oracle : Address}
    (hd : ExternalDraw h w r requestId) (horacle : r.oracleAddress = some oracle)
    (hself : oracle ≠ h.self) (hsigned : oracle ∈ c.auths)
    (hledger : w.randomnessRequestLedger.getD 0 + randomnessMinDelayLedgers ≤ c.sequence)
    (hsequence : c.sequence < 2 ^ 32) (hanswers : c.factory.recordLeaderboardEntry = true)
    (htiers : r.prizes.length ≤ r.ticketsSold)
    (hverified : h.ed25519Verify publicKey (buildVrfProofMessage h requestId) proof = true) :
    ∃ w', provideRandomness h c w (deriveRandomSeedFromProof h proof) publicKey proof requestId =
      .ok w' := by
  obtain ⟨start, before, hinit, rfl⟩ := hd.reachable
  have hbooks := (drawKeys_always hinit before).last.view hd.raffle
  have hregistry := ((always_of_fresh hinit (fun _ => Registry.of_fresh)
    (fun _ _ _ _ hk hm => hk.move hm) before).last.view hd.raffle).2
  have hlock : ((machine h).run start before).drawingLock.getD false = true :=
    hbooks.2.locked hd.drawing
  have hasked : ((machine h).run start before).randomnessRequested.getD false = true :=
    (hbooks.2.asked hd.drawing).mpr (.inl hd.source)
  have hsupply : r.ticketsSold < 2 ^ 64 := by
    have hle : r.ticketsSold ≤ r.maxTickets := hbooks.1.supply
    have hmax : r.maxTickets ≤ 100000 := hbooks.1.terms.maxTickets_le
    omega
  have hsold : 0 < r.ticketsSold :=
    (List.length_pos_iff.mpr hbooks.1.terms.prizes_ne).trans_le htiers
  have hrecorded := (hregistry.complete
    (show r.status.isTerminal = false by rw [hd.drawing]; rfl)).recorded
  obtain ⟨w', hfinal⟩ := doFinalizeWithSeed_some (h := h) (c := c)
    (w := emit ((machine h).run start before)
      (.randomnessReceived oracle (deriveRandomSeedFromProof h proof) requestId c.timestamp))
    .vrf none hd.drawing hsold htiers hrecorded hsupply (seedOfDigest_lt (h.sha256 proof.toList))
    hanswers
  refine ⟨w', ?_⟩
  simp only [provideRandomness, except_bind_ok, ensure_ok, readRaffle_ok, hd.raffle,
    Option.some.injEq, exists_eq_left', hd.source, okOr_ok, requireAuth_ok, trapU32_ok,
    hlock, hasked, horacle, hd.request, hd.drawing, hverified, if_true, exists_const, true_and]
  exact ⟨⟨hsigned, hself⟩, _, ⟨hledger.trans_lt hsequence, rfl⟩, hledger, hfinal⟩

theorem accepts_of_verified {proof : Signature} {oracle : Address}
    (hd : ExternalDraw h w r requestId) (horacle : r.oracleAddress = some oracle)
    (hself : oracle ≠ h.self)
    (hledger : w.randomnessRequestLedger.getD 0 + randomnessMinDelayLedgers < 2 ^ 32)
    (htiers : r.prizes.length ≤ r.ticketsSold)
    (hverified : h.ed25519Verify publicKey (buildVrfProofMessage h requestId) proof = true) :
    Accepts h w (deriveRandomSeedFromProof h proof) publicKey proof requestId := by
  let c : Ctx := ⟨0, w.randomnessRequestLedger.getD 0 + randomnessMinDelayLedgers, [oracle],
    ⟨some false, true, true, true⟩⟩
  have hdelivered := provideRandomness_of_verified (c := c) hd horacle hself
    (List.mem_singleton_self oracle) le_rfl hledger rfl htiers hverified
  exact ⟨c, hdelivered⟩

/-- SHA-256 of 64 zero bytes and of 64 one bytes. -/
def zeroDigest : Digest :=
  ⟨#[0xf5, 0xa5, 0xfd, 0x42, 0xd1, 0x6a, 0x20, 0x30, 0x27, 0x98, 0xef, 0x6e, 0xd3, 0x09, 0x97, 0x9b,
    0x43, 0x00, 0x3d, 0x23, 0x20, 0xd9, 0xf0, 0xe8, 0xea, 0x98, 0x31, 0xa9, 0x27, 0x59, 0xfb, 0x4b],
    rfl⟩

def oneDigest : Digest :=
  ⟨#[0x7c, 0x89, 0x75, 0xe1, 0xe6, 0x0a, 0x5c, 0x83, 0x37, 0xf2, 0x8e, 0xdf, 0x8c, 0x33, 0xc3, 0xb1,
    0x80, 0x36, 0x0b, 0x72, 0x79, 0x64, 0x4a, 0x9b, 0xc1, 0xaf, 0x3c, 0x51, 0xe6, 0x22, 0x0b, 0xf5],
    rfl⟩

def keyHost (verify : Digest → Bytes → Signature → Bool) : Host :=
  { Sample.host .ifElse with
    sha256 := fun bytes =>
      if bytes = List.replicate 64 0 then zeroDigest
      else if bytes = List.replicate 64 1 then oneDigest
      else Vector.replicate 32 1
    ed25519Verify := verify }

def asked (verify : Digest → Bytes → Signature → Bool) : World :=
  (machine (keyHost verify)).run (Sample.start .ifElse externalConfig) Sample.awaitingRun

/-- Nobody checks a signature before the oracle answers. -/
theorem asked_eq (verify : Digest → Bytes → Signature → Bool) :
    asked verify = asked fun _ _ _ => false := by
  rfl

def twoKeys (publicKey publicKey' : Digest) (key : Digest) (_message : Bytes)
    (proof : Signature) : Bool :=
  key = publicKey ∧ proof = Vector.replicate 64 0 ∨
    key = publicKey' ∧ proof = Vector.replicate 64 1

theorem twoKeys_unique (hne : publicKey ≠ publicKey') :
    UniqueProofs (keyHost (twoKeys publicKey publicKey')) := by
  intro key message proof proof' hverified hverified'
  simp only [keyHost, twoKeys, decide_eq_true_eq] at hverified hverified'
  rcases hverified with ⟨rfl, rfl⟩ | ⟨rfl, rfl⟩
  · rcases hverified' with ⟨-, rfl⟩ | ⟨heq, -⟩
    · rfl
    · exact absurd heq hne
  · rcases hverified' with ⟨heq, -⟩ | ⟨-, rfl⟩
    · exact absurd heq.symm hne
    · rfl

theorem asked_externalDraw (verify : Digest → Bytes → Signature → Bool) :
    ∃ r, ExternalDraw (keyHost verify) (asked verify) r 72340172838076673 ∧
      r.oracleAddress = some ⟨7⟩ ∧ r.prizes.length ≤ r.ticketsSold := by
  have hstate : ∃ r, r ∈ (asked fun _ _ _ => false).raffle ∧ r.status = .drawing ∧
      r.randomnessSource = .external ∧ r.oracleAddress = some ⟨7⟩ ∧
      r.prizes.length ≤ r.ticketsSold := by
    decide +kernel
  have hrequest : (asked fun _ _ _ => false).randomnessRequestId = some 72340172838076673 := by
    decide +kernel
  have hplain : Initialised (Sample.host .ifElse) (Sample.start .ifElse externalConfig) :=
    Sample.start_initialised (by decide +kernel)
  obtain ⟨c, holdings, factory, admin, creator, stored, hinit⟩ := hplain
  have hstart : Initialised (keyHost verify) (Sample.start .ifElse externalConfig) :=
    ⟨c, holdings, factory, admin, creator, stored, hinit⟩
  obtain ⟨r, hr, hdrawing, hsource, horacle, htiers⟩ := hstate
  rw [← asked_eq verify] at hr hrequest
  exact ⟨r, ⟨⟨_, _, hstart, rfl⟩, hr, hdrawing, hsource, hrequest⟩, horacle, htiers⟩

theorem asked_ledger (verify : Digest → Bytes → Signature → Bool) :
    (asked verify).randomnessRequestLedger.getD 0 + randomnessMinDelayLedgers < 2 ^ 32 := by
  rw [asked_eq]
  decide +kernel

theorem twoKeys_accepts (publicKey publicKey' : Digest) :
    Accepts (keyHost (twoKeys publicKey publicKey')) (asked (twoKeys publicKey publicKey'))
      17700832373872664624 publicKey (Vector.replicate 64 0) 72340172838076673 ∧
    Accepts (keyHost (twoKeys publicKey publicKey')) (asked (twoKeys publicKey publicKey'))
      8973833345599954051 publicKey' (Vector.replicate 64 1) 72340172838076673 := by
  obtain ⟨r, hd, horacle, htiers⟩ := asked_externalDraw (twoKeys publicKey publicKey')
  have hself : (⟨7⟩ : Address) ≠ Sample.self := by decide
  have hverified : (keyHost (twoKeys publicKey publicKey')).ed25519Verify publicKey
      (buildVrfProofMessage (keyHost (twoKeys publicKey publicKey')) 72340172838076673)
      (Vector.replicate 64 0) = true := by
    simp [keyHost, twoKeys]
  have hverified' : (keyHost (twoKeys publicKey publicKey')).ed25519Verify publicKey'
      (buildVrfProofMessage (keyHost (twoKeys publicKey publicKey')) 72340172838076673)
      (Vector.replicate 64 1) = true := by
    simp [keyHost, twoKeys]
  have hzero := accepts_of_verified hd horacle hself (asked_ledger _) htiers hverified
  have hone := accepts_of_verified hd horacle hself (asked_ledger _) htiers hverified'
  have hseed : deriveRandomSeedFromProof (keyHost (twoKeys publicKey publicKey'))
      (Vector.replicate 64 0) = 17700832373872664624 := rfl
  have hseed' : deriveRandomSeedFromProof (keyHost (twoKeys publicKey publicKey'))
      (Vector.replicate 64 1) = 8973833345599954051 := rfl
  rw [hseed] at hzero
  rw [hseed'] at hone
  exact ⟨hzero, hone⟩

/-- Two keys leave the oracle no choice exactly when they are one. -/
theorem seedBound_iff (publicKey publicKey' : Digest) :
    SeedBound publicKey publicKey' ↔ publicKey = publicKey' := by
  constructor
  · intro hbound
    by_contra hne
    obtain ⟨r, hd, -⟩ := asked_externalDraw (twoKeys publicKey publicKey')
    obtain ⟨hzero, hone⟩ := twoKeys_accepts publicKey publicKey'
    exact absurd (hbound _ _ r _ (twoKeys_unique hne) hd _ _ _ _ hzero hone) (by decide)
  · rintro rfl h w r requestId hunique hd seed proof seed' proof' hok hok'
    obtain ⟨rfl, hverified⟩ := accepts_verified hd hok
    obtain ⟨rfl, hverified'⟩ := accepts_verified hd hok'
    rw [hunique publicKey _ proof proof' hverified hverified']

/-- An oracle with two keys chooses between two seeds. -/
theorem oracle_chooses :
    UniqueProofs (keyHost (twoKeys (Vector.replicate 32 0) (Vector.replicate 32 1))) ∧
    ∃ r, ExternalDraw (keyHost (twoKeys (Vector.replicate 32 0) (Vector.replicate 32 1)))
        (asked (twoKeys (Vector.replicate 32 0) (Vector.replicate 32 1))) r 72340172838076673 ∧
      Accepts (keyHost (twoKeys (Vector.replicate 32 0) (Vector.replicate 32 1)))
        (asked (twoKeys (Vector.replicate 32 0) (Vector.replicate 32 1)))
        17700832373872664624 (Vector.replicate 32 0) (Vector.replicate 64 0)
        72340172838076673 ∧
      Accepts (keyHost (twoKeys (Vector.replicate 32 0) (Vector.replicate 32 1)))
        (asked (twoKeys (Vector.replicate 32 0) (Vector.replicate 32 1)))
        8973833345599954051 (Vector.replicate 32 1) (Vector.replicate 64 1)
        72340172838076673 := by
  obtain ⟨r, hd, -⟩ :=
    asked_externalDraw (twoKeys (Vector.replicate 32 0) (Vector.replicate 32 1))
  exact ⟨twoKeys_unique (by decide), r, hd, twoKeys_accepts _ _⟩

end TikkaRaffle.Properties
