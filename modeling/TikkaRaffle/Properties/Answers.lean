import TikkaRaffle.Escrow.Requests
import TikkaRaffle.Oracle.Vrf
import TikkaRaffle.Properties.Emergency
import TikkaRaffle.Properties.KeyLifecycle
import TikkaRaffle.Properties.Oracle

/-! An external draw from both sides: the contract publishes the request, and
whatever the oracle service signs for it the contract accepts. -/
namespace TikkaRaffle.Properties

open TikkaRaffle.Lib TikkaRaffle.Instance TikkaRaffle.Escrow TikkaRaffle.Oracle VrfService
open Constants

variable {h : Host} {w w' : World} {r r' : Raffle} {i : Invocation} {requestId : Nat}

def AwaitsOracle (w : World) : Prop :=
  ∃ r, w.raffle = some r ∧ r.status = .drawing ∧ r.randomnessSource = .external

theorem entry_announces (hw : Holds h Lifecycle w) (hr : w.raffle = some r)
    (hr' : w'.raffle = some r') (hbefore : r.status ≠ .drawing) (hafter : r'.status = .drawing)
    (hsource : r.randomnessSource = .external) (hok : invoke h i w = .ok w') :
    ∃ requestId, Announces i.ctx w w' (askedOracle h r) requestId := by
  obtain ⟨r₁, acts, hr₁, hyields, hpath⟩ := committed_path_from hw hr hok
  rw [hr'] at hr₁
  cases hr₁
  obtain ⟨c, call⟩ := i
  cases call with
  | buyTickets buyer quantity =>
    cases hyields
    obtain ⟨⟨_, n⟩, hcall, rfl⟩ := except_map_ok.mp hok
    exact buyTickets_announces hr (sale_enters hpath.of_single hafter) hsource hcall
  | buyTicketsFor buyer recipient quantity =>
    cases hyields
    obtain ⟨⟨_, n⟩, hcall, rfl⟩ := except_map_ok.mp hok
    exact buyTicketsFor_announces hr (sale_enters hpath.of_single hafter) hsource hcall
  | finalizeRaffle =>
    rcases finalizeRaffle_announces hr hsource hok with ⟨r₂, hr₂, hfailed⟩ | hasked
    · rw [hr'] at hr₂
      cases hr₂
      rw [hafter] at hfailed
      cases hfailed
    · exact hasked
  | _ =>
    have hacts := yields_not_starting hyields rfl nofun
    have hstays := hpath.preserves (fun b => b.raffle.status ≠ .drawing)
      (fun a => a ≠ .startDraw ∧ ∀ order, a ≠ .buy order)
      (fun a b b' ha hb hm => Move.not_drawing hm ha hb) hacts hbefore
    exact absurd hafter hstays

theorem initialised_not_awaiting (hinit : Initialised h w) : ¬AwaitsOracle w := by
  rintro ⟨r, hr, hdrawing, -⟩
  have hpending : r.status = .pendingPrize := ((initialised_fresh hinit).view hr).pending
  rw [hdrawing] at hpending
  cases hpending

theorem request_along {t : World} {rest : List Invocation} (hlife : Holds h Lifecycle t)
    (hdraw : (machine h).Always AwaitsOracle t rest) :
    ((machine h).run t rest).randomnessRequestId = t.randomnessRequestId := by
  have hkept : Holds h Lifecycle ((machine h).run t rest) ∧
      ((machine h).run t rest).randomnessRequestId = t.randomnessRequestId :=
    Machine.Always.within (P := AwaitsOracle)
      (Q := fun w => Holds h Lifecycle w ∧ w.randomnessRequestId = t.randomnessRequestId)
      (R := fun _ _ _ => True)
      (fun w i w' hw hw' _ hq hok => by
        obtain ⟨r, hr, hdrawing, -⟩ := hw
        obtain ⟨r', hr', hdrawing', -⟩ := hw'
        exact ⟨lifecycle_step hq.1 hok,
          (request_kept hq.1 hr hr' hdrawing hdrawing' hok).trans hq.2⟩)
      hdraw Machine.each_trivial ⟨hlife, rfl⟩
  exact hkept.2

theorem oracle_along {t : World} {rest : List Invocation} {oracle : Option Address}
    (hlife : Holds h Lifecycle t) (horacle : ∀ r, t.raffle = some r → r.oracleAddress = oracle)
    (hnone : (machine h).Each (fun _ i _ => ∀ oracle, i.call ≠ .updateOracleAddress oracle) t rest)
    (hr : ((machine h).run t rest).raffle = some r) : r.oracleAddress = oracle := by
  have hkept := (Machine.always_of_each (m := machine h)
    (fun w => Holds h Lifecycle w ∧ ∀ r, w.raffle = some r → r.oracleAddress = oracle)
    (fun w i w' hw hcall hok => by
      obtain ⟨r₁, hr₁, -⟩ := id hw.1
      obtain ⟨r₂, hr₂, hsame⟩ := oracle_step hw.1 hr₁ hcall hok
      refine ⟨lifecycle_step hw.1 hok, forall_stored hr₂ ?_⟩
      exact hsame.trans (hw.2 r₁ hr₁))
    ⟨hlife, horacle⟩ hnone).last
  exact hkept.2 r hr

/-- The call begins an external draw: it puts its request on record, where there was
none, and publishes it to an oracle outside the contract. -/
structure BeginsDraw (h : Host) (c : Ctx) (w w' : World) (oracle : Address) (requestId : Nat) :
    Prop where
  idle : ¬AwaitsOracle w
  begun : AwaitsOracle w'
  unasked : w.randomnessRequestId = none
  announces : Announces c w w' oracle requestId
  elsewhere : oracle ≠ h.self

/-- A call that leads into an external draw begins it, and leaves the oracle as it is. -/
theorem beginsDraw_of_entry (hw : OracleElsewhere h w) (hunasked : Holds h Unasked w)
    (hidle : ¬AwaitsOracle w) (hdraw : AwaitsOracle w') (hok : invoke h i w = .ok w') :
    ∃ oracle requestId, BeginsDraw h i.ctx w w' oracle requestId ∧
      ∀ r, w'.raffle = some r → r.oracleAddress = some oracle := by
  obtain ⟨hlife, helsewhere⟩ := hw
  obtain ⟨r₁, hr₁, -⟩ := id hlife
  obtain ⟨r₂, hr₂, hdrawing₂, hsource₂⟩ := id hdraw
  obtain ⟨r₃, hr₃, hfixed⟩ := fixed_step hlife hr₁ hok
  rw [hr₂] at hr₃
  cases hr₃
  have hsource₁ : r₁.randomnessSource = .external :=
    (fixed_field Raffle.randomnessSource (fun _ => rfl) hfixed).symm.trans hsource₂
  have hbefore : r₁.status ≠ .drawing := fun hdrawing₁ => hidle ⟨r₁, hr₁, hdrawing₁, hsource₁⟩
  -- a raffle that is past its draw never draws again
  have hearly : r₁.status = .pendingPrize ∨ r₁.status = .active := by
    by_contra hlate
    have hended : StatusIn ended w := ⟨r₁, hr₁, not_or.mp hlate, hbefore⟩
    exact ((hended.step ended_closed hlife hok).stored hr₂).2 hdrawing₂
  obtain ⟨oracle, horacle, hself⟩ := helsewhere r₁ hr₁ hsource₁
  obtain ⟨requestId, hasked⟩ := entry_announces hlife hr₁ hr₂ hbefore hdrawing₂ hsource₁ hok
  rw [askedOracle, horacle, Option.getD_some] at hasked
  -- an update of the oracle does not begin a draw
  have hcall : ∀ oracle, i.call ≠ .updateOracleAddress oracle := by
    rintro newOracle hcall
    simp only [invoke, hcall] at hok
    obtain ⟨-, r₄, hr₄, hsame, -⟩ := updateOracleAddress_oracle hr₁ hok
    rw [hr₂] at hr₄
    cases hr₄
    exact hbefore (hsame.symm.trans hdrawing₂)
  obtain ⟨r₄, hr₄, hsame⟩ := oracle_step hlife hr₁ hcall hok
  exact ⟨oracle, requestId, ⟨hidle, hdraw, hunasked.view hr₁ hearly, hasked, hself⟩,
    forall_stored hr₄ (hsame.trans horacle)⟩

/-- The call of the run that began the draw under way. -/
theorem draw_begun (hinit : Initialised h w) (calls : List Invocation)
    (hdraw : AwaitsOracle ((machine h).run w calls)) :
    ∃ first i rest t oracle requestId, calls = first ++ i :: rest ∧
      (machine h).step i ((machine h).run w first) = .ok t ∧
      BeginsDraw h i.ctx ((machine h).run w first) t oracle requestId ∧
      (∀ r, t.raffle = some r → r.oracleAddress = some oracle) ∧
      (machine h).Always AwaitsOracle t rest ∧
      ((machine h).run w calls).randomnessRequestId = some requestId := by
  obtain ⟨first, i, rest, t, rfl, hok, hnot, hsince⟩ :=
    Machine.last_begun (P := AwaitsOracle) (initialised_not_awaiting hinit) hdraw
  have helsewhere := (oracleElsewhere_always hinit first).last
  have hunasked := (unasked_always hinit first).last.mono fun _ hb => hb.2
  obtain ⟨oracle, requestId, hbegins, horacle⟩ :=
    beginsDraw_of_entry helsewhere hunasked hnot hsince.head hok
  have hrun : (machine h).run w (first ++ i :: rest) = (machine h).run t rest := by
    rw [Machine.run_append, Machine.run_cons, (machine h).exec_ok hok]
  refine ⟨first, i, rest, t, oracle, requestId, rfl, hok, hbegins, horacle, hsince, ?_⟩
  rw [hrun, request_along (lifecycle_step helsewhere.1 hok) hsince]
  exact hbegins.announces.stored

/-- The draw under way was begun by a call that published its request, and has gone on
since; the oracle asked is the current one if nobody has replaced it. -/
def Published (h : Host) (start : World) (calls : List Invocation) (r : Raffle)
    (requestId : Nat) : Prop :=
  ∃ first i rest t oracle, calls = first ++ i :: rest ∧
    (machine h).step i ((machine h).run start first) = .ok t ∧
    BeginsDraw h i.ctx ((machine h).run start first) t oracle requestId ∧
    (machine h).Always AwaitsOracle t rest ∧
    ((machine h).Each (fun _ i _ => ∀ oracle, i.call ≠ .updateOracleAddress oracle) t rest →
      r.oracleAddress = some oracle)

/-- Every external draw under way has a request that its oracle was asked for. -/
theorem requests_published (hinit : Initialised h w) (calls : List Invocation)
    (hr : ((machine h).run w calls).raffle = some r) (hdrawing : r.status = .drawing)
    (hsource : r.randomnessSource = .external) :
    ∃ requestId, ((machine h).run w calls).randomnessRequestId = some requestId ∧
      requestId < 2 ^ 64 ∧ Published h w calls r requestId := by
  obtain ⟨first, i, rest, t, oracle, requestId, rfl, hok, hbegins, horacle, hsince, hstored⟩ :=
    draw_begun hinit calls ⟨r, hr, hdrawing, hsource⟩
  have hlife : Holds h Lifecycle t := lifecycle_step (lifecycle_always hinit first).last hok
  refine ⟨requestId, hstored, hbegins.announces.small, first, i, rest, t, oracle, rfl, hok, hbegins,
    hsince, fun hnone => oracle_along hlife horacle hnone ?_⟩
  rwa [Machine.run_append, Machine.run_cons, (machine h).exec_ok hok] at hr

theorem requests_published_awaitingRun :
    ∃ r requestId,
      ((machine (Sample.host .ifElse)).run (Sample.start .ifElse externalConfig)
        Sample.awaitingRun).raffle = some r ∧
      Published (Sample.host .ifElse) (Sample.start .ifElse externalConfig) Sample.awaitingRun r
        requestId := by
  have hinit : Initialised (Sample.host .ifElse) (Sample.start .ifElse externalConfig) :=
    Sample.start_initialised (by decide +kernel)
  have hdraw : AwaitsOracle ((machine (Sample.host .ifElse)).run
      (Sample.start .ifElse externalConfig) Sample.awaitingRun) := by
    have hstate : ∃ r, r ∈ ((machine (Sample.host .ifElse)).run
        (Sample.start .ifElse externalConfig) Sample.awaitingRun).raffle ∧ r.status = .drawing ∧
        r.randomnessSource = .external := by decide +kernel
    exact hstate
  obtain ⟨r, hr, hdrawing, hsource⟩ := hdraw
  obtain ⟨requestId, -, -, hpublished⟩ :=
    requests_published hinit Sample.awaitingRun hr hdrawing hsource
  exact ⟨r, requestId, hr, hpublished⟩

/-- The oracle on record can deliver the answer in every ledger from ten after the request
on, if the leaderboard answers: the raffle is finalized, with the winners that the seed of
the answer selects among its tickets. -/
def Finalizes (h : Host) (w : World) (r : Raffle) (answer : RandomnessProof) : Prop :=
  ∃ oracle, r.oracleAddress = some oracle ∧ oracle ≠ h.self ∧ ∀ c, oracle ∈ c.auths →
    w.randomnessRequestLedger.getD 0 + randomnessMinDelayLedgers ≤ c.sequence →
    c.sequence < 2 ^ 32 → c.factory.recordLeaderboardEntry = true →
    ∃ w' r' metadata winners,
      provideRandomness h c w answer.randomSeed answer.publicKey answer.proof answer.requestId =
        .ok w' ∧
      w'.raffle = some r' ∧ r'.status = .finalized ∧ r'.winners.map Winner.address = winners ∧
      w'.randomnessSeed = some metadata ∧ metadata.seed = answer.randomSeed ∧
      DrawResult w r metadata winners

theorem finalized_of_delivered {c : Ctx} {answer : RandomnessProof} (hr : w.raffle = some r)
    (hok : provideRandomness h c w answer.randomSeed answer.publicKey answer.proof
      answer.requestId = .ok w') :
    ∃ r' metadata winners, w'.raffle = some r' ∧ r'.status = .finalized ∧
      r'.winners.map Winner.address = winners ∧ w'.randomnessSeed = some metadata ∧
      metadata.seed = answer.randomSeed ∧ DrawResult w r metadata winners := by
  have hcall : invoke h ⟨c, .provideRandomness answer.randomSeed answer.publicKey answer.proof
      answer.requestId⟩ w = .ok w' := hok
  obtain ⟨metadata, winners, r', hdraw, hseed, -, hkeys, hr', hfinalized, hwinners⟩ :=
    invoke_stores hr hcall
  exact ⟨r', metadata, winners, hr', hfinalized, hwinners, congrArg Records.fairness hkeys, hseed,
    hdraw⟩

variable {sdk : Sdk} {production : Bool} {env : Option (List Char)}
  {keyCalls : List KeyService.Call}
  {contract : String}

def answerWith (sdk : Sdk) (keypair : Keypair) (address : Address) (requestId : Nat) :
    RandomnessProof :=
  let proof := sdk.sign keypair (sdk.toXDR (.vec [.address address, .u64 requestId]))
  ⟨VrfService.deriveRandomSeedFromProof sdk proof, sdk.rawPublicKey keypair, proof, requestId⟩

theorem signRandomnessProof_ready {service : KeyService} {keypair : Keypair} {address : Address}
    (hready : service.ensureInitialized = .ok keypair)
    (hcontract : sdk.address contract = some address) (hsmall : requestId < 2 ^ 64) :
    signRandomnessProof sdk service contract requestId =
      .ok (answerWith sdk keypair address requestId) := by
  simp only [signRandomnessProof, VrfService.buildVrfProofMessage, KeyService.sign,
    KeyService.getPublicKeyBytes, except_bind_ok, found_ok, check_ok, except_pure_ok]
  exact ⟨_, ⟨address, hcontract, (), hsmall, rfl⟩, _, ⟨keypair, hready, rfl⟩, _,
    ⟨keypair, hready, rfl⟩, rfl⟩

/-- The seed of an answer is the one the contract derives from its proof. -/
theorem answerWith_seed (hsdk : sdk.Agrees h) (keypair : Keypair) (address : Address) :
    (answerWith sdk keypair address requestId).randomSeed =
      Instance.deriveRandomSeedFromProof h (answerWith sdk keypair address requestId).proof := by
  change readBigUInt64BE _ = seedOfDigest _
  rw [readBigUInt64BE_digest, hsdk.hashes]
  rfl

/-- The contract finalizes the draw on the signature of a service that agrees with it. -/
theorem answerWith_finalizes {oracle : Address} (keypair : Keypair) (hsdk : sdk.Agrees h)
    (hd : ExternalDraw h w r requestId) (horacle : r.oracleAddress = some oracle)
    (hself : oracle ≠ h.self) (htiers : r.prizes.length ≤ r.ticketsSold)
    (hsmall : requestId < 2 ^ 64) :
    Finalizes h w r (answerWith sdk keypair h.self requestId) := by
  have hverified : h.ed25519Verify (sdk.rawPublicKey keypair)
      (Instance.buildVrfProofMessage h requestId)
      (answerWith sdk keypair h.self requestId).proof = true := by
    rw [answerWith, hsdk.encodes h.self requestId hsmall]
    exact hsdk.verifies keypair _
  refine ⟨oracle, horacle, hself, fun c hsigned hledger hsequence hanswers => ?_⟩
  obtain ⟨w', hok⟩ := provideRandomness_of_verified hd horacle hself hsigned hledger hsequence
    hanswers htiers hverified
  rw [← answerWith_seed hsdk] at hok
  exact ⟨w', (finalized_of_delivered hd.raffle hok).imp fun r' hfinal =>
    hfinal.imp fun metadata hfinal => hfinal.imp fun winners hfinal => ⟨hok, hfinal⟩⟩

/-- Whatever state its key service has reached, an oracle with a key answers the pending
request with one proof, and the contract finalizes the draw on it. -/
theorem requests_answered (hsdk : sdk.Agrees h) (hd : ExternalDraw h w r requestId)
    (htiers : r.prizes.length ≤ r.ticketsSold) (hcontract : sdk.address contract = some h.self)
    (hready : (serviceAfter sdk.reading production env keyCalls).initialized = true) :
    ∃ answer, Finalizes h w r answer ∧
      buildProofMessage answer.randomSeed =
        .ok ((h.sha256 answer.proof.toList).toList.take 8) ∧
      ∀ keyCalls, (serviceAfter sdk.reading production env keyCalls).initialized = true →
        signRandomnessProof sdk (serviceAfter sdk.reading production env keyCalls) contract
          requestId = .ok answer := by
  obtain ⟨start, calls, hinit, rfl⟩ := hd.reachable
  obtain ⟨-, helsewhere⟩ := (oracleElsewhere_always hinit calls).last
  obtain ⟨oracle, horacle, hself⟩ := helsewhere r hd.raffle hd.source
  obtain ⟨first, i, rest, t, asked, requestId', -, -, hbegins, -, -, hstored⟩ :=
    draw_begun hinit calls ⟨r, hd.raffle, hd.drawing, hd.source⟩
  rw [hd.request] at hstored
  cases hstored
  obtain ⟨secret, keypair, hgiven, hdecode, hkeypair⟩ := key_of_initialized hready
  refine ⟨answerWith sdk keypair h.self requestId, ?_, ?_, fun later hlater => ?_⟩
  · exact answerWith_finalizes keypair hsdk hd horacle hself htiers hbegins.announces.small
  · rw [answerWith_seed hsdk, Instance.deriveRandomSeedFromProof,
      buildProofMessage_beBytes (seedOfDigest_lt _), beBytes_seedOfDigest]
  · obtain ⟨secret', keypair', hgiven', hdecode', hkeypair'⟩ := key_of_initialized hlater
    -- the process was given one secret, and it has one key
    obtain rfl : secret = secret' := Option.some.inj (hgiven.symm.trans hgiven')
    obtain rfl : keypair = keypair' :=
      Keypair.ext (Option.some.inj (hdecode.symm.trans hdecode'))
    exact signRandomnessProof_ready hkeypair' hcontract hbegins.announces.small

def bigEndian (width n : Nat) : Bytes :=
  (List.range width).map fun i => UInt8.ofNat (n / 256 ^ (width - 1 - i))

def paddedXdr (bytes : Bytes) : Bytes :=
  bigEndian 4 bytes.length ++ bytes ++ List.replicate ((4 - bytes.length % 4) % 4) 0

def symbolXdr (name : String) : Bytes :=
  bigEndian 4 15 ++ paddedXdr name.toUTF8.toList

def addressXdr (address : Address) : Bytes :=
  bigEndian 4 18 ++ bigEndian 4 1 ++ bigEndian 32 address.id

def vecXdr (items : List Bytes) : Bytes :=
  bigEndian 4 16 ++ bigEndian 4 1 ++ bigEndian 4 items.length ++ items.flatten

def quorumXdr (config : QuorumConfig) : Bytes :=
  bigEndian 4 17 ++ bigEndian 4 1 ++ bigEndian 4 2 ++
    symbolXdr "k" ++ bigEndian 4 3 ++ bigEndian 4 config.k ++
    symbolXdr "oracles" ++ vecXdr (config.oracles.map addressXdr)

mutual

/-- The XDR of a value, every address that of a contract. -/
def valueXdr : Instance.ScVal → Bytes
  | .u32 value => bigEndian 4 3 ++ bigEndian 4 value
  | .u64 value => bigEndian 4 5 ++ bigEndian 8 value
  | .i128 value => bigEndian 4 10 ++ bigEndian 16 (value % 2 ^ 128).toNat
  | .address value => addressXdr value
  | .bytes value => bigEndian 4 13 ++ paddedXdr value
  | .string value => bigEndian 4 14 ++ paddedXdr value
  | .randomnessSource .internal => vecXdr [symbolXdr "Internal"]
  | .randomnessSource .external => vecXdr [symbolXdr "External"]
  | .randomnessSource .commitReveal => vecXdr [symbolXdr "CommitReveal"]
  | .randomnessSource (.quorum config) => vecXdr [symbolXdr "Quorum", quorumXdr config]
  | .vec values => vecXdr (valuesXdr values)
  | .tuple values => vecXdr (valuesXdr values)

def valuesXdr : List Instance.ScVal → List Bytes
  | [] => []
  | value :: values => valueXdr value :: valuesXdr values

end

/-- What the raffle at the contract of 32 zero bytes hashes for its request in ledger 3. -/
def requestPayload : Bytes :=
  valueXdr (.tuple [.u64 1000, .u32 3, .bytes (addressXdr Sample.self)])

def awaitedId : Nat := 10694697558555315484

def requestDigest : Digest :=
  ⟨#[0x94, 0x6b, 0x32, 0xc4, 0x3d, 0xed, 0x4d, 0x1c, 0x95, 0x15, 0xfe, 0x04, 0xf5, 0xa5, 0xa8, 0xa9,
    0x6e, 0xe6, 0x54, 0x89, 0x3a, 0x59, 0xff, 0x59, 0x8c, 0xe6, 0x32, 0xf3, 0x6d, 0xef, 0x99, 0x66],
    rfl⟩

/-- The Ed25519 key of 32 zero bytes, and what it signs for the request. -/
def zeroPublicKey : Digest :=
  ⟨#[0x3b, 0x6a, 0x27, 0xbc, 0xce, 0xb6, 0xa4, 0x2d, 0x62, 0xa3, 0xa8, 0xd0, 0x2a, 0x6f, 0x0d, 0x73,
    0x65, 0x32, 0x15, 0x77, 0x1d, 0xe2, 0x43, 0xa6, 0x3a, 0xc0, 0x48, 0xa1, 0x8b, 0x59, 0xda, 0x29],
    rfl⟩

def awaitedSignature : Signature :=
  ⟨#[0x15, 0x99, 0xa7, 0x4e, 0x63, 0x7d, 0x8c, 0x43, 0x8d, 0xf7, 0x65, 0x66, 0xc6, 0xe5, 0x0d, 0x23,
    0x48, 0x5c, 0x04, 0xdc, 0x90, 0xca, 0xae, 0x4b, 0xe9, 0x81, 0x88, 0x4f, 0xf8, 0x41, 0x48, 0x3a,
    0x1b, 0x9b, 0x1c, 0xd9, 0x9e, 0xb8, 0x28, 0x7a, 0x81, 0xac, 0x4d, 0x7f, 0x4b, 0x1f, 0x9d, 0x43,
    0xa7, 0x4a, 0x93, 0x86, 0x17, 0xb0, 0xbb, 0x7f, 0x94, 0x4a, 0xfd, 0x41, 0x80, 0xd7, 0x3d, 0x0c],
    rfl⟩

def signatureDigest : Digest :=
  ⟨#[0x5f, 0x2d, 0xa1, 0x82, 0xc1, 0xb0, 0x81, 0x18, 0xdf, 0xab, 0x4f, 0x4f, 0x10, 0xa1, 0x32, 0x04,
    0xa9, 0x84, 0xca, 0xf0, 0xfc, 0x65, 0x28, 0xf6, 0x66, 0x00, 0x23, 0x03, 0x34, 0x72, 0x83, 0xb0],
    rfl⟩

def standardSha256 (bytes : Bytes) : Digest :=
  if bytes = requestPayload then requestDigest
  else if bytes = awaitedSignature.toList then signatureDigest
  else Vector.replicate 32 1

/-- Ed25519 at the key of 32 zero bytes and the message of the request. -/
def standardSignature (key : Digest) (message : Bytes) : Signature :=
  if key = zeroPublicKey ∧ message = valueXdr (.tuple [.address Sample.self, .u64 awaitedId]) then
    awaitedSignature
  else (key ++ key).cast rfl

def standardHost : Host :=
  { Sample.host .ifElse with
    sha256 := standardSha256
    toXdr := valueXdr
    ed25519Verify := fun key message proof => proof = standardSignature key message }

def standardPublicKey (keypair : Keypair) : Digest :=
  if keypair.seed = List.replicate 32 0 then zeroPublicKey
  else Vector.ofFn fun i => keypair.seed.getD i 0

def zeroContract : String := "CAAAAAAAAAAAAAAAAAAAAAAAAAAAAAAAAAAAAAAAAAAAAAAAAAAABSC4"

def standardSdk : Sdk where
  reading := .rewriting
  rawPublicKey := standardPublicKey
  sign keypair := standardSignature (standardPublicKey keypair)
  address text := if text = zeroContract then some Sample.self else none
  toXDR := valueXdr
  sha256 := standardSha256

theorem standardSdk_agrees : standardSdk.Agrees standardHost where
  verifies _ _ := decide_eq_true rfl
  encodes _ _ _ := rfl
  hashes := rfl

def standardAsked : World :=
  (machine standardHost).run (Sample.start .ifElse externalConfig) Sample.awaitingRun

theorem standardAsked_externalDraw :
    ∃ r, ExternalDraw standardHost standardAsked r awaitedId ∧
      r.prizes.length ≤ r.ticketsSold := by
  have hstate : ∃ r, r ∈ standardAsked.raffle ∧ r.status = .drawing ∧
      r.randomnessSource = .external ∧ r.prizes.length ≤ r.ticketsSold := by
    decide +kernel
  have hrequest : standardAsked.randomnessRequestId = some awaitedId := by decide +kernel
  have hplain : Initialised (Sample.host .ifElse) (Sample.start .ifElse externalConfig) :=
    Sample.start_initialised (by decide +kernel)
  obtain ⟨c, holdings, factory, admin, creator, stored, hinit⟩ := hplain
  have hstart : Initialised standardHost (Sample.start .ifElse externalConfig) :=
    ⟨c, holdings, factory, admin, creator, stored, hinit⟩
  obtain ⟨r, hr, hdrawing, hsource, htiers⟩ := hstate
  exact ⟨r, ⟨⟨_, _, hstart, rfl⟩, hr, hdrawing, hsource, hrequest⟩, htiers⟩

theorem requests_answered_zeroKey :
    ∃ r, Finalizes standardHost standardAsked r
        ⟨6858315390522523928, zeroPublicKey, awaitedSignature, awaitedId⟩ ∧
      signRandomnessProof standardSdk
        (serviceAfter .rewriting false (some (List.replicate 64 '0')) [.initializeKey, .resumed 0])
        zeroContract awaitedId =
        .ok ⟨6858315390522523928, zeroPublicKey, awaitedSignature, awaitedId⟩ := by
  obtain ⟨r, hd, htiers⟩ := standardAsked_externalDraw
  have hready : (serviceAfter standardSdk.reading false (some (List.replicate 64 '0'))
      [.initializeKey, .resumed 0]).initialized = true := by decide +kernel
  have hcontract : standardSdk.address zeroContract = some Sample.self := rfl
  obtain ⟨answer, hfinal, -, hsigned⟩ :=
    requests_answered standardSdk_agrees hd htiers hcontract hready
  have hanswer : signRandomnessProof standardSdk
      (serviceAfter .rewriting false (some (List.replicate 64 '0')) [.initializeKey, .resumed 0])
      zeroContract awaitedId =
      .ok ⟨6858315390522523928, zeroPublicKey, awaitedSignature, awaitedId⟩ := by
    decide +kernel
  obtain rfl := Except.ok.inj ((hsigned _ hready).symm.trans hanswer)
  exact ⟨r, hfinal, hanswer⟩

end TikkaRaffle.Properties
