import TikkaRaffle.Escrow.Records
import TikkaRaffle.Escrow.Registry
import TikkaRaffle.Escrow.Terms

/-! What a draw attestation is worth: the terms it hashes have not changed since
the first sale, and its winners follow from its own seed and the ticket owners. -/
namespace TikkaRaffle.Properties

open TikkaRaffle.Lib TikkaRaffle.Instance TikkaRaffle.Escrow

variable {h : Host} {w w' : World} {r r' : Raffle} {b b' : Books} {a : Act} {i : Invocation}

/-- The terms in force are those of `r`, and any attestation hashes them. -/
def Frozen (h : Host) (r : Raffle) (w : World) : Prop :=
  ∃ r', w.raffle = some r' ∧ r'.terms = r.terms ∧
    computeConfigHash h r' = computeConfigHash h r ∧
    ∀ attestation, getDrawAttestation h w = .ok attestation →
      attestation.configHash = computeConfigHash h r ∧
        attestation.metadataHash = r.metadataHash

theorem computeConfigHash_terms (r : Raffle) :
    computeConfigHash h r = computeConfigHash h r.terms := rfl

theorem getDrawAttestation_hashes {attestation : DrawAttestation} (hr : w.raffle = some r)
    (hok : getDrawAttestation h w = .ok attestation) :
    attestation.configHash = computeConfigHash h r ∧
      attestation.metadataHash = r.metadataHash := by
  simp only [getDrawAttestation, except_bind_ok, readRaffle_ok, hr, Option.some.injEq,
    exists_eq_left', ensure_ok, except_pure_ok, exists_const] at hok
  obtain ⟨-, _, -, _, -, rfl⟩ := hok
  exact ⟨rfl, rfl⟩

theorem frozen_of_terms (hr : w.raffle = some r') (hterms : r'.terms = r.terms) :
    Frozen h r w := by
  have hhash : computeConfigHash h r' = computeConfigHash h r := by
    rw [computeConfigHash_terms, hterms, ← computeConfigHash_terms]
  have hmetadata : r'.terms.metadataHash = r.terms.metadataHash :=
    congrArg Raffle.metadataHash hterms
  refine ⟨r', hr, hterms, hhash, fun attestation hok => ?_⟩
  obtain ⟨hconfig, hmeta⟩ := getDrawAttestation_hashes hr hok
  exact ⟨hconfig.trans hhash, hmeta.trans hmetadata⟩

/-- From the first ticket on no call by anyone changes the terms. -/
theorem terms_frozen (hinit : Initialised h w) (before later : List Invocation)
    (hr : ((machine h).run w before).raffle = some r) (hsold : 0 < r.ticketsSold) :
    (machine h).Always (Frozen h r) ((machine h).run w before) later := by
  have hall := Machine.always_of_step (m := machine h)
    (fun w => Holds h Lifecycle w ∧ ∃ r', w.raffle = some r' ∧ r'.terms = r.terms ∧
      0 < r'.ticketsSold)
    (fun w i w' hw hok => by
      obtain ⟨r₁, hr₁, hsame, hsold₁⟩ := hw.2
      obtain ⟨r₂, hr₂, hstep, hsold₂⟩ := terms_step hw.1 hr₁ hsold₁ hok
      exact ⟨lifecycle_step hw.1 hok, r₂, hr₂, hstep.trans hsame, hsold₂⟩)
    ⟨(lifecycle_always hinit before).last, r, hr, rfl, hsold⟩ later
  refine hall.mono fun w' hw' => ?_
  obtain ⟨-, r₁, hr₁, hterms, -⟩ := hw'
  exact frozen_of_terms hr₁ hterms

def twoTiers : RaffleConfig := { Sample.config with prizes := [6000, 4000] }

def attestedRun : List Invocation :=
  [Sample.signed [Sample.creator] 1 1 .depositPrize,
    Sample.signed [Sample.buyer] 2 2 (.buyTickets Sample.buyer 2),
    Sample.signed [Sample.creator] 1000 3 .finalizeRaffle,
    Sample.signed [Sample.buyer] 5000 4 (.claimPrize Sample.buyer 0)]

theorem terms_frozen_attestedRun : ∃ r, 0 < r.ticketsSold ∧
    (machine (Sample.host .ifElse)).Always (Frozen (Sample.host .ifElse) r)
      (Sample.after .ifElse twoTiers (attestedRun.take 2)) (attestedRun.drop 2) := by
  have hsome : ∃ r, r ∈ (Sample.after .ifElse twoTiers (attestedRun.take 2)).raffle ∧
      0 < r.ticketsSold := by
    decide +kernel
  obtain ⟨r, hr, hsold⟩ := hsome
  have hinit : Initialised (Sample.host .ifElse) (Sample.start .ifElse twoTiers) :=
    Sample.start_initialised (by decide +kernel)
  exact ⟨r, hsold, terms_frozen hinit (attestedRun.take 2) (attestedRun.drop 2) hr hsold⟩

/-- Run again on the attested seed, the selection gives the attested indices,
and the attested winners own the tickets it picked. -/
structure Reproduces (w : World) (attestation : DrawAttestation) : Prop where
  selection : reproduceIndices w attestation.fairnessData.seed attestation.totalTicketsSold
    attestation.prizeDistributionBp.length attestation.fairnessData.uniqueWinners =
      some attestation.fairnessData.winningTicketIndices
  ids : attestation.winningTicketIds =
    attestation.fairnessData.winningTicketIndices.map (· + 1)
  owners : attestation.winnerAddresses.map some =
    attestation.winningTicketIds.map (getTicketOwner w)
  tiers : attestation.winnerAddresses.length = attestation.prizeDistributionBp.length

structure Drawn (h : Host) (w : World) : Prop where
  books : Holds h (fun b => Lifecycle b ∧ Registry b) w
  draw : ∀ r, w.raffle = some r → Settled r →
    ∃ metadata, w.randomnessSeed = some metadata ∧
      DrawResult w r metadata (r.winners.map Winner.address)

theorem markClaimed_address (winners : List Winner) (tier : Nat) :
    (markClaimed winners tier).map Winner.address = winners.map Winner.address := by
  unfold markClaimed
  apply List.ext_getElem?
  intro n
  rw [List.getElem?_map, List.getElem?_map, List.getElem?_modify]
  cases winners[n]? with
  | none => rfl
  | some entry =>
    by_cases hn : tier = n
    · simp [hn]
    · simp [hn]

theorem Move.settled_same (hm : Move h a b b') (ha : a ≠ .finish)
    (hs : Settled b'.raffle) : Settled b.raffle ∧
      b'.raffle.winners.map Winner.address = b.raffle.winners.map Winner.address := by
  cases hm with
  | finish => exact absurd rfl ha
  | claim _ tier winner amount fee hpay =>
    rw [Books.markTier_raffle]
    exact ⟨.inl hpay.finalized, markClaimed_address _ tier⟩
  | sweep _ tier winner treasury amount hpay =>
    rw [Books.markTier_raffle]
    exact ⟨.inl hpay.finalized, markClaimed_address _ tier⟩
  | deposit | sellOut | startDraw | fail | cancel | abandon | emergency =>
    rcases hs with hs | hs <;> cases hs
  | _ => exact ⟨hs, rfl⟩

def isDraw : Call → Bool
  | .finalizeRaffle | .provideRandomness .. | .provideQuorumRandomness ..
  | .triggerRandomnessFallback .. => true
  | _ => false

theorem yields_draw {call : Call} {acts : List Act} (hyields : call.Yields w r acts)
    (hcall : isDraw call = true) : ∀ a ∈ acts, (∀ order, a ≠ .buy order) ∧ a ≠ .wipe := by
  intro a ha
  cases call <;> grind [Call.Yields, isDraw]

theorem yields_no_draw {call : Call} {acts : List Act} (hyields : call.Yields w r acts)
    (hcall : isDraw call = false) (hwipe : call ≠ .wipeStorage) :
    ∀ a ∈ acts, a ≠ .finish ∧ a ≠ .wipe := by
  intro a ha
  cases call <;> grind [Call.Yields, isDraw]

theorem yields_no_finish {call : Call} {acts : List Act} (hyields : call.Yields w r acts)
    (hdraw : isDraw call = false) : ∀ a ∈ acts, a ≠ .finish := by
  intro a ha
  cases call <;> grind [Call.Yields, isDraw]

theorem stores_fairness {c : Ctx} {call : Call} (hs : call.Stores h c w r w')
    (hcall : isDraw call = false) : w'.randomnessSeed = w.randomnessSeed := by
  cases call with
  | finalizeRaffle | provideRandomness | provideQuorumRandomness | triggerRandomnessFallback =>
    cases hcall
  | buyTickets buyer quantity | buyTicketsFor buyer recipient quantity =>
    have hkeys := congrArg Records.fairness hs.2
    rw [apply_ite Records.fairness] at hkeys
    exact hkeys.trans (ite_self _)
  | cancelRaffle reason =>
    obtain ⟨cancelAt, hkeys⟩ := cancelling_kept hs
    exact congrArg Records.fairness hkeys
  | executeAdminCancel => exact congrArg Records.fairness hs.2
  | wipeStorage => exact hs.2.2.1
  | _ => exact congrArg Records.fairness hs

/-- A draw call after which the raffle is settled has concluded the draw, or
was a submission that changed nothing a draw rests on. -/
theorem stores_draw {c : Ctx} {call : Call} (hs : call.Stores h c w r w')
    (hcall : isDraw call = true) (hr' : w'.raffle = some r') (hsettled : Settled r') :
    (∃ s seed contributions, Concludes s w r w' seed contributions) ∨
      r' = r ∧ w'.ticket = w.ticket ∧ w'.randomnessSeed = w.randomnessSeed := by
  have hopen : ∀ status, status ≠ .finalized → status ≠ .claimed →
      w'.raffle ≠ some (r.setStatus status) := by
    intro status hfinalized hclaimed heq
    rw [hr'] at heq
    cases heq
    exact hsettled.elim hfinalized hclaimed
  cases call with
  | finalizeRaffle =>
    rcases hs with ⟨hfailed, -⟩ | hs
    · exact absurd hfailed (hopen _ nofun nofun)
    · split at hs
      next => exact absurd hs.1 (hopen _ nofun nofun)
      next => exact absurd hs.1 (hopen _ nofun nofun)
      next =>
        obtain ⟨seed, hdraw⟩ := hs
        exact .inl ⟨_, seed, none, hdraw⟩
  | provideRandomness seed publicKey proof requestId => exact .inl ⟨_, seed, none, hs⟩
  | provideQuorumRandomness oracle seed requestId =>
    obtain ⟨config, -, -, -, -, -, ⟨-, hkeys, hsame, hticket, -⟩ | ⟨-, hdraw⟩⟩ := hs
    · rw [hr'] at hsame
      cases hsame
      exact .inr ⟨rfl, hticket, congrArg Records.fairness hkeys⟩
    · exact .inl ⟨_, _, _, hdraw⟩
  | triggerRandomnessFallback caller doRefund =>
    rcases hs with ⟨hcancelled, -⟩ | ⟨seed, hdraw⟩
    · exact absurd hcancelled (hopen _ nofun nofun)
    · exact .inl ⟨_, seed, none, hdraw⟩
  | _ => cases hcall

/-- Every call but the wipe keeps the stored draw and the tickets it rests on. -/
theorem drawn_step (hw : Drawn h w) (hwipe : i.call ≠ .wipeStorage)
    (hok : invoke h i w = .ok w') : Drawn h w' := by
  have hlife : Holds h Lifecycle w := hw.books.left
  refine ⟨hw.books.step (fun _ _ _ _ hk hm => hk.move hm) hok, fun r' hr' hsettled => ?_⟩
  obtain ⟨r, r₁, acts, hr, hr₁, -, hyields, hpath⟩ := committed_path hlife hok
  rw [hr'] at hr₁
  cases hr₁
  have hstores := invoke_stores hr hok
  have hprizes := fixed_field Raffle.prizes (fun _ => rfl) (fixed_path hpath)
  have hsource := fixed_field Raffle.randomnessSource (fun _ => rfl) (fixed_path hpath)
  have hunique := fixed_field Raffle.uniqueWinners (fun _ => rfl) (fixed_path hpath)
  rcases Bool.eq_false_or_eq_true (isDraw i.call) with hdraw | hother
  · obtain ⟨hticket, hsold⟩ := tickets_same_path hpath (yields_draw hyields hdraw)
    rcases stores_draw hstores hdraw hr' hsettled with
      ⟨s, seed, contributions, metadata, winners, r₁, hresult, -, -, hkeys, hr₁, -, hwinners⟩ |
      ⟨rfl, -, hkept⟩
    · rw [hr'] at hr₁
      cases hr₁
      subst hwinners
      exact ⟨metadata, congrArg Records.fairness hkeys,
        hresult.congr hticket.symm hsold.symm hprizes.symm hsource.symm hunique.symm⟩
    · obtain ⟨metadata, hstored, hresult⟩ := hw.draw r' hr hsettled
      exact ⟨metadata, hkept.trans hstored, hresult.congr hticket.symm rfl rfl rfl rfl⟩
  · -- a settled raffle was settled before the call, so nothing was sold in it
    have hframe := hpath.preserves
      (fun b => Settled b.raffle → Settled r ∧ b.ticket = w.ticket ∧
        b.raffle.ticketsSold = r.ticketsSold ∧
        b.raffle.winners.map Winner.address = r.winners.map Winner.address)
      (fun a => a ≠ .finish ∧ a ≠ .wipe)
      (fun a b b' ha hb hm hs => by
        obtain ⟨hbefore, hwinners⟩ := Move.settled_same hm ha.1 hs
        obtain ⟨hstart, hticket, hsold, hall⟩ := hb hbefore
        have hbuy : ∀ order, a ≠ .buy order := by
          rintro order rfl
          have hactive := Move.sale_active hm
          rcases hbefore with hs | hs <;> rw [hactive] at hs <;> cases hs
        obtain ⟨hsame, hcount⟩ := Move.tickets_same hm hbuy ha.2
        exact ⟨hstart, hsame.trans hticket, hcount.trans hsold, hwinners.trans hall⟩)
      (yields_no_draw hyields hother hwipe) (fun hs => ⟨hs, rfl, rfl, rfl⟩)
    obtain ⟨hbefore, hticket, hsold, hwinners⟩ := hframe hsettled
    obtain ⟨metadata, hstored, hresult⟩ := hw.draw r hr hbefore
    rw [← hwinners] at hresult
    exact ⟨metadata, (stores_fairness hstores hother).trans hstored,
      hresult.congr hticket.symm hsold.symm hprizes.symm hsource.symm hunique.symm⟩

theorem mapM_trapU32 {values : List Nat} (hfits : ∀ value ∈ values, value + 1 < 2 ^ 32) :
    (values.mapM fun value => trapU32 (value + 1)) = .ok (values.map (· + 1)) :=
  except_mapM_ok fun value hvalue => if_pos (hfits value hvalue)

/-- The tickets a draw picked are on record, so their numbers are small. -/
theorem drawResult_picked {metadata : FairnessMetadata} {winners : List Address}
    (hd : DrawResult w r metadata winners) (hk : Registry (view h w r)) :
    ∀ index ∈ metadata.winningTicketIndices, index + 1 ≤ r.ticketsSold := by
  intro index hindex
  have hmem : getTicketOwner w (index + 1) ∈ winners.map some := by
    rw [hd.owners]
    exact List.mem_map_of_mem hindex
  obtain ⟨owner, -, howner⟩ := List.mem_map.mp hmem
  obtain ⟨ticket, hticket, -⟩ := Option.map_eq_some_iff.mp howner.symm
  exact (hk.sold (index + 1) ticket hticket).1.2

theorem Drawn.attested (hw : Drawn h w) (hr : w.raffle = some r) (hsettled : Settled r) :
    ∃ attestation, getDrawAttestation h w = .ok attestation ∧ Reproduces w attestation := by
  obtain ⟨metadata, hstored, hresult⟩ := hw.draw r hr hsettled
  obtain ⟨hlife, hk⟩ := hw.books.view hr
  have hfits : ∀ index ∈ metadata.winningTicketIndices, index + 1 < 2 ^ 32 := by
    intro index hindex
    have hpicked := drawResult_picked hresult hk index hindex
    have hsupply : r.ticketsSold ≤ r.maxTickets := hlife.supply
    have hlimit : r.maxTickets ≤ 100000 := hlife.terms.maxTickets_le
    omega
  have htiers : (r.winners.map Winner.address).length = r.prizes.length := by
    rw [List.length_map]
    exact (hlife.settled hsettled).1
  have howners : (r.winners.map Winner.address).map some =
      (metadata.winningTicketIndices.map (· + 1)).map (getTicketOwner w) := by
    rw [hresult.owners, List.map_map]
    rfl
  simp only [getDrawAttestation, except_bind_ok, readRaffle_ok, hr, Option.some.injEq,
    exists_eq_left', ensure_ok, hstored, okOr_ok, mapM_trapU32 hfits, Except.ok.injEq,
    except_pure_ok, exists_const]
  refine ⟨_, ⟨hsettled, rfl⟩, ?_, rfl, howners, htiers⟩
  rw [hresult.unique]
  exact hresult.reproducible

/-- Until the storage is wiped a settled raffle can be attested, and whoever
runs the selection again on the attested seed arrives at the attested winners. -/
theorem attestation_reproducible (hinit : Initialised h w) {calls : List Invocation}
    (heach : (machine h).Each (fun _ i _ => i.call ≠ .wipeStorage) w calls) :
    (machine h).Always (fun w => StatusIn (fun s => s = .finalized ∨ s = .claimed) w →
      ∃ attestation, getDrawAttestation h w = .ok attestation ∧ Reproduces w attestation)
      w calls := by
  have hbooks : Holds h (fun b => Lifecycle b ∧ Registry b) w :=
    (initialised_fresh hinit).mono fun _ hf => ⟨.of_fresh hf, .of_fresh hf⟩
  have hstart : Drawn h w := by
    refine ⟨hbooks, fun r hr hsettled => ?_⟩
    have hpending : r.status = .pendingPrize := ((initialised_fresh hinit).view hr).pending
    rcases hsettled with hs | hs <;> rw [hpending] at hs <;> cases hs
  have hall := Machine.always_of_each (Drawn h)
    (fun w i w' hw hwipe hok => drawn_step hw hwipe hok) hstart heach
  refine hall.mono fun w' hw' hpaying => ?_
  obtain ⟨r, hr, hsettled⟩ := hpaying
  exact hw'.attested hr hsettled

theorem attestation_reproducible_attestedRun :
    StatusIn (fun s => s = .finalized ∨ s = .claimed)
      (Sample.after .ifElse twoTiers attestedRun) ∧
    ∃ attestation, getDrawAttestation (Sample.host .ifElse)
        (Sample.after .ifElse twoTiers attestedRun) = .ok attestation ∧
      Reproduces (Sample.after .ifElse twoTiers attestedRun) attestation := by
  have hinit : Initialised (Sample.host .ifElse) (Sample.start .ifElse twoTiers) :=
    Sample.start_initialised (by decide +kernel)
  have hpaying : StatusIn (fun s => s = .finalized ∨ s = .claimed)
      (Sample.after .ifElse twoTiers attestedRun) := by
    decide +kernel
  have heach : (machine (Sample.host .ifElse)).Each (fun _ i _ => i.call ≠ .wipeStorage)
      (Sample.start .ifElse twoTiers) attestedRun := by
    decide +kernel
  exact ⟨hpaying, (attestation_reproducible hinit heach).last hpaying⟩

end TikkaRaffle.Properties
