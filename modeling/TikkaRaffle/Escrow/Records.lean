import TikkaRaffle.Escrow.Refinement
import TikkaRaffle.Instance.Attestation

/-! The keys the books leave out: ticket counts and buyers, the stored draw,
the quorum's submissions, the request ledger and the scheduled cancel. What
each committed call does to them is said once, in `Call.Stores`. -/
namespace TikkaRaffle.Instance

open TikkaRaffle.Lib

structure Records where
  admin : Option Address
  counts : Address → Option Nat
  buyers : Option (List Address)
  fairness : Option FairnessMetadata
  seeds : Address → Option Nat
  submitted : Option (List Address)
  requestLedger : Option Nat
  cancelAt : Option Nat

def records (w : World) : Records where
  admin := w.admin
  counts := w.ticketCount
  buyers := w.ticketBuyers
  fairness := w.randomnessSeed
  seeds := w.quorumSeed
  submitted := w.quorumSubmittedOracles
  requestLedger := w.randomnessRequestLedger
  cancelAt := w.pendingAdminCancel

def channel (w : World) : Option Address × List FactoryCall := (w.factory, w.factoryCalls)

def keys (w : World) : Records × Option Address × List FactoryCall := (records w, channel w)

def margin (w : World) : (Nat → Option CommitRevealEntry) × Option Bool :=
  (w.commitEntry, w.reentrancyGuard)

def aside (w : World) :
    (Records × Option Address × List FactoryCall) × (Nat → Option CommitRevealEntry) ×
      Option Bool :=
  (keys w, margin w)

/-- Two keys that no call writes and the wipe would remove. -/
def vacant (w : World) : (Address → Option (List Nat)) × Option (List Address) :=
  (w.ownerTickets, w.instanceQuorumSubmittedOracles)

def apart (w : World) :
    ((Records × Option Address × List FactoryCall) × (Nat → Option CommitRevealEntry) ×
      Option Bool) × ((Address → Option (List Nat)) × Option (List Address)) × Option Bool :=
  (aside w, vacant w, w.paused)

def recess (w : World) : ((Nat → Option CommitRevealEntry) × Option Bool) ×
    ((Address → Option (List Nat)) × Option (List Address)) × Option Bool :=
  (margin w, vacant w, w.paused)

namespace Records

def held (s : Records) (holder : Address) : Nat := (s.counts holder).getD 0

def count (s : Records) (holder : Address) (quantity : Nat) : Records :=
  { s with
    counts := fun a => if a = holder then some (s.held holder + quantity) else s.counts a
    buyers := if s.held holder = 0 then some (s.buyers.getD [] ++ [holder]) else s.buyers }

def ask (s : Records) (sequence : Nat) : Records := { s with requestLedger := some sequence }

def submit (s : Records) (oracle : Address) (seed : Nat) : Records :=
  { s with
    seeds := fun a => if a = oracle then some seed else s.seeds a
    submitted := some (s.submitted.getD [] ++ [oracle]) }

def delivered (s : Records) : List (Address × Nat) :=
  (s.submitted.getD []).filterMap fun oracle => (s.seeds oracle).map fun seed => (oracle, seed)

def conclude (s : Records) (metadata : FairnessMetadata) : Records :=
  { s with
    fairness := some metadata
    seeds := fun a => if a ∈ s.submitted.getD [] then none else s.seeds a
    submitted := none
    requestLedger := none }

end Records

/-- The stored draw and its winners follow from the seed and the ticket owners. -/
structure DrawResult (w : World) (r : Raffle) (metadata : FairnessMetadata)
    (winners : List Address) : Prop where
  reproducible : reproduceIndices w metadata.seed r.ticketsSold r.prizes.length r.uniqueWinners =
    some metadata.winningTicketIndices
  owners : winners.map some =
    metadata.winningTicketIndices.map fun index => getTicketOwner w (index + 1)
  source : metadata.randomnessSource = r.randomnessSource
  unique : metadata.uniqueWinners = r.uniqueWinners

theorem DrawResult.congr {w₁ w : World} {r₁ r : Raffle} {metadata : FairnessMetadata}
    {winners : List Address} (hd : DrawResult w₁ r₁ metadata winners)
    (hticket : w₁.ticket = w.ticket) (hsold : r₁.ticketsSold = r.ticketsSold)
    (hprizes : r₁.prizes = r.prizes) (hsource : r₁.randomnessSource = r.randomnessSource)
    (hunique : r₁.uniqueWinners = r.uniqueWinners) : DrawResult w r metadata winners where
  reproducible := by
    rw [← reproduceIndices_congr hticket, ← hsold, ← hprizes, ← hunique]
    exact hd.reproducible
  owners := by
    rw [← getTicketOwner_congr hticket]
    exact hd.owners
  source := hd.source.trans hsource
  unique := hd.unique.trans hunique

def Concludes (s : Records) (w : World) (r : Raffle) (w' : World) (seed : Nat)
    (contributions : Option (List (Address × Nat))) : Prop :=
  ∃ metadata winners r', DrawResult w r metadata winners ∧ metadata.seed = seed ∧
    metadata.quorumContributions = contributions ∧ records w' = s.conclude metadata ∧
    w'.raffle = some r' ∧ r'.status = .finalized ∧ r'.winners.map Winner.address = winners

/-- A purchase counts its tickets to the holder. The ledger of the request is
written when it sells out an `External` raffle. -/
def Counts (c : Ctx) (w : World) (r : Raffle) (w' : World) (holder : Address)
    (quantity : Nat) : Prop :=
  (0 < r.maxTicketsPerAddress →
    (records w).held holder + quantity ≤ r.maxTicketsPerAddress) ∧
  records w' =
    if r.maxTickets ≤ r.ticketsSold + quantity ∧ r.randomnessSource = .external then
      ((records w).count holder quantity).ask c.sequence
    else (records w).count holder quantity

/-- An accepted submission is stored, and the one that reaches the threshold
finalizes the raffle. -/
def Submits (h : Host) (c : Ctx) (w : World) (r : Raffle) (w' : World) (oracle : Address)
    (seed requestId : Nat) : Prop :=
  ∃ config, r.randomnessSource = .quorum config ∧ oracle ∈ config.oracles ∧
    oracle ∈ c.auths ∧ w.randomnessRequestId = some requestId ∧
    (records w).seeds oracle = none ∧
    (((records w).submitted.getD []).length + 1 < config.k ∧
        records w' = (records w).submit oracle seed ∧ w'.raffle = some r ∧
        w'.ticket = w.ticket ∧ w'.drawingLock = w.drawingLock ∧
        w'.randomnessRequestId = w.randomnessRequestId ∨
      config.k ≤ ((records w).submitted.getD []).length + 1 ∧
        Concludes ((records w).submit oracle seed) w r w'
          (aggregateQuorumSeeds h ((records w).submit oracle seed).delivered)
          (some ((records w).submit oracle seed).delivered))

/-- The admin's cancel is only scheduled, any other one needs the creator. -/
def Cancelling (c : Ctx) (w : World) (r : Raffle) (w' : World) (reason : CancelReason) : Prop :=
  if reason = .adminCancelled then
    (∃ admin, w.admin = some admin ∧ admin ∈ c.auths) ∧ w'.raffle = some r ∧
      records w' =
        { records w with cancelAt := some (c.timestamp + Constants.timelockDelaySeconds) }
  else r.creator ∈ c.auths ∧ records w' = records w

/-- What a committed call does to the keys. -/
def Call.Stores (h : Host) (c : Ctx) (w : World) (r : Raffle) (w' : World) : Call → Prop
  | .buyTickets buyer quantity => Counts c w r w' buyer quantity
  | .buyTicketsFor _ recipient quantity => Counts c w r w' recipient quantity
  | .finalizeRaffle =>
      w'.raffle = some (r.setStatus .failed) ∧ records w' = records w ∨
        match r.randomnessSource with
        | .external =>
            w'.raffle = some (r.setStatus .drawing) ∧ records w' = (records w).ask c.sequence
        | .quorum _ =>
            w'.raffle = some (r.setStatus .drawing) ∧
              records w' = { (records w).ask c.sequence with submitted := some [] }
        | _ => ∃ seed, Concludes (records w) w r w' seed none
  | .provideRandomness seed _ _ _ => Concludes (records w) w r w' seed none
  | .provideQuorumRandomness oracle seed requestId => Submits h c w r w' oracle seed requestId
  | .triggerRandomnessFallback _ _ =>
      w'.raffle = some (r.setStatus .cancelled) ∧
          records w' = { records w with requestLedger := none } ∨
        ∃ seed, Concludes (records w) w r w' seed none
  | .cancelRaffle reason => Cancelling c w r w' reason
  | .executeAdminCancel =>
      (∃ cancelAt, w.pendingAdminCancel = some cancelAt ∧ cancelAt ≤ c.timestamp) ∧
        records w' = { records w with cancelAt := none }
  | .wipeStorage =>
      r.status.isTerminal = true ∧ (records w').admin = (records w).admin ∧
        (records w').fairness = (records w).fairness ∧ (records w').cancelAt = none
  | _ => records w' = records w

end TikkaRaffle.Instance

namespace TikkaRaffle.Escrow

open TikkaRaffle.Lib TikkaRaffle.Instance

variable {h : Host} {c : Ctx} {w w' : World} {r r' : Raffle}

theorem records_of_apart (hsame : apart w' = apart w) : records w' = records w :=
  congrArg (fun keys => keys.1.1.1) hsame

theorem channel_of_apart (hsame : apart w' = apart w) : channel w' = channel w :=
  congrArg (fun keys => keys.1.1.2) hsame

theorem recess_of_apart (hsame : apart w' = apart w) : recess w' = recess w :=
  congrArg (fun keys => (keys.1.2, keys.2)) hsame

theorem payTreasury_apart {purpose : Purpose} {token : Address} {fee : Int}
    (hok : payTreasury h w r purpose token fee = .ok w') : apart w' = apart w := by
  unfold payTreasury at hok
  split at hok
  next =>
    obtain ⟨-, rfl⟩ := transfer_ok.mp hok
    rfl
  next =>
    cases hok
    rfl

theorem collectFee_apart {purpose : Purpose} {token : Address} {fee : Int}
    (hok : collectFee h w r purpose token fee = .ok w') : apart w' = apart w := by
  unfold collectFee at hok
  split at hok
  next =>
    simp only [except_bind_ok, trapI128_ok, except_pure_ok] at hok
    obtain ⟨w₁, hpay, total, -, rfl⟩ := hok
    have hpaid := payTreasury_apart hpay
    exact hpaid
  next =>
    cases hok
    rfl

theorem notifyFactory_records {holder : Address} {totalPrice : Int}
    (hok : notifyFactory c w r holder totalPrice = .ok w') : records w' = records w := by
  obtain ⟨calls, rfl⟩ := notifyFactory_writes hok
  rfl

theorem recordLeaderboard_records (hok : recordLeaderboard h c w r = .ok w') :
    records w' = records w := by
  obtain ⟨calls, rfl⟩ := recordLeaderboard_writes hok
  rfl

@[simp] theorem bumpRaffleTtl_apart (total : Nat) :
    apart (bumpRaffleTtl w total) = apart w := by
  obtain ⟨index, hindex⟩ := bumpRaffleTtl_writes w total
  rw [hindex]
  rfl

theorem settleIfAllClaimed_apart {time : Nat}
    (hok : settleIfAllClaimed w r time = .ok (w', r')) : apart w' = apart w := by
  unfold settleIfAllClaimed at hok
  split at hok
  next =>
    obtain ⟨-, rfl, rfl⟩ := transitionStatus_ok.mp hok
    rfl
  next =>
    cases hok
    rfl

theorem payWinner_apart {winner : Address} {tier : Nat} {net : Int}
    (hok : payWinner h w r winner tier net = .ok w') : apart w' = apart w := by
  unfold payWinner at hok
  split at hok
  next =>
    obtain ⟨-, rfl⟩ := tryTransfer_ok.mp hok
    rfl
  next =>
    cases hok
    rfl

theorem sweepTiers_apart {treasury : Address} {tier count swept n : Nat}
    (hok : sweepTiers h c treasury w r tier count swept = .ok (w', r', n)) :
    apart w' = apart w := by
  induction count generalizing w r tier swept with
  | zero =>
    cases hok
    rfl
  | succ count ih =>
    simp only [sweepTiers, except_bind_ok, okOr_ok] at hok
    obtain ⟨entry, -, hok⟩ := hok
    split at hok
    next => exact ih hok
    next =>
      simp only [except_bind_ok] at hok
      obtain ⟨amount, -, hok⟩ := hok
      split at hok
      next => exact ih hok
      next =>
        simp only [except_bind_ok, tryTransfer_ok] at hok
        obtain ⟨_, ⟨-, rfl⟩, hrest⟩ := hok
        have hswept := ih hrest
        exact hswept

theorem refundBatch_apart {mayRefund : Ticket → Bool} {recipient : Ticket → Address}
    {published : Ticket → Event} {ids : List Nat} {total paid : Int}
    (hok : refundBatch h r mayRefund recipient published w ids total = .ok (w', paid)) :
    apart w' = apart w := by
  induction ids generalizing w total with
  | nil =>
    cases hok
    rfl
  | cons ticketId rest ih =>
    simp only [refundBatch, except_bind_ok, okOr_ok, ensure_ok, exists_const] at hok
    obtain ⟨ticket, -, -, hok⟩ := hok
    split at hok
    next => exact ih hok
    next =>
      simp only [except_bind_ok, tryTransfer_ok, checkedI128_ok] at hok
      obtain ⟨_, ⟨-, rfl⟩, total', -, hrest⟩ := hok
      have hrefunded := ih hrest
      exact hrefunded

theorem clearQuorumStorage_records :
    records (clearQuorumStorage w) = { records w with
      seeds := fun a => if a ∈ (records w).submitted.getD [] then none else (records w).seeds a
      submitted := none } := by
  rw [clearQuorumStorage_eq]
  rfl

theorem records_concluded {metadata : FairnessMetadata} {winners : List Address}
    {drawn : List Event} {kind : RandomnessType} :
    records (concluded h c w r metadata winners drawn kind) = (records w).conclude metadata := by
  have hunlocked : ∀ (w₁ : World) (e : Event), records (emit (clearLock w₁) e) = records w₁ :=
    fun _ _ => rfl
  rw [concluded, hunlocked, clearQuorumStorage_records]
  rfl

theorem startSoldOutDraw_records {holder : Address}
    (hok : startSoldOutDraw h c w r holder = .ok (w', r')) :
    records w' = if r.maxTickets ≤ r.ticketsSold ∧ r.randomnessSource = .external then
      (records w).ask c.sequence else records w := by
  rcases startSoldOutDraw_cases hok with ⟨hopen, rfl, -⟩ | ⟨hfull, w₁, hdrawing, hdrawn⟩
  · rw [if_neg fun hboth => Nat.not_le.mpr hopen hboth.1]
  obtain ⟨-, -, rfl, rfl⟩ := transitionToDrawing_ok.mp hdrawing
  rcases hdrawn with ⟨hother, rfl⟩ |
    ⟨hexternal, w₂, requestId, triggered, requested, hrequest, -, -, rfl⟩
  · rw [if_neg fun hboth => hother hboth.2]
    rfl
  · obtain ⟨-, rfl⟩ := requestRandomness_writes hrequest
    rw [if_pos ⟨hfull, hexternal⟩]
    rfl

theorem madeOut_records {paid : World} {buyer holder : Address} {quantity : Nat}
    (hpaid : records paid = records w) :
    records (madeOut c w paid r buyer holder quantity) = (records w).count holder quantity := by
  have hheld : (w.ticketCount holder).getD 0 = (records paid).held holder := by
    rw [hpaid]
    rfl
  rw [madeOut, ← hpaid, hheld]
  unfold recordBuyer Records.count
  split <;> rfl

theorem completePurchase_records {buyer holder : Address} {quantity n : Nat} {total fee : Int}
    (hok : completePurchase h c w r buyer holder quantity total fee = .ok (w', n)) :
    records w' =
      if r.maxTickets ≤ r.ticketsSold + quantity ∧ r.randomnessSource = .external then
        ((records w).count holder quantity).ask c.sequence
      else (records w).count holder quantity := by
  obtain ⟨paid, w₁, r₁, w₂, -, -, hfee, hdraw, hnotify, rfl⟩ := completePurchase_cases hok
  have hpaid := records_of_apart (collectFee_apart hfee)
  change records paid = records w at hpaid
  rw [records_of_apart (bumpRaffleTtl_apart _), notifyFactory_records hnotify]
  have hdrawn := startSoldOutDraw_records hdraw
  rw [madeOut_records hpaid] at hdrawn
  exact hdrawn

theorem checkCaps_ok {holder : Address} {quantity : Nat} {u : Unit}
    (hok : checkCaps w r holder quantity = .ok u) (hcap : 0 < r.maxTicketsPerAddress) :
    (records w).held holder + quantity ≤ r.maxTicketsPerAddress := by
  simp only [checkCaps, except_bind_ok, checkedU32_ok, ensure_ok, hcap, if_true,
    exists_const] at hok
  obtain ⟨_, -, -, -, count, ⟨-, rfl⟩, hcount⟩ := hok
  exact hcount

theorem buyTickets_stores {buyer : Address} {quantity n : Nat} (hr : w.raffle = some r)
    (hok : buyTickets h c w buyer quantity = .ok (w', n)) : Counts c w r w' buyer quantity := by
  simp only [buyTickets, except_bind_ok, readRaffle_ok, hr, Option.some.injEq,
    exists_eq_left'] at hok
  obtain ⟨_, -, _, -, _, hcaps, quote, -, hok⟩ := hok
  exact ⟨checkCaps_ok hcaps, completePurchase_records hok⟩

theorem buyTicketsFor_stores {buyer recipient : Address} {quantity n : Nat}
    (hr : w.raffle = some r) (hok : buyTicketsFor h c w buyer recipient quantity = .ok (w', n)) :
    Counts c w r w' recipient quantity := by
  simp only [buyTicketsFor, except_bind_ok, readRaffle_ok, hr, Option.some.injEq,
    exists_eq_left', ensure_ok, exists_const] at hok
  obtain ⟨_, -, -, -, -, _, -, _, -, _, -, -, -, -, -, _, hcaps, total, -, scaled, -, hok⟩ := hok
  exact ⟨checkCaps_ok hcaps, completePurchase_records hok⟩

theorem doFinalizeWithSeed_concludes {seed : Nat} {kind : RandomnessType}
    {contributions : Option (List (Address × Nat))}
    (hok : doFinalizeWithSeed h c w r seed kind contributions = .ok w') :
    Concludes (records w) w r w' seed contributions := by
  obtain ⟨-, -, candidates, indices, winners, drawn, w₁, hselect, htier, hboard, rfl⟩ :=
    doFinalizeWithSeed_cases hok
  obtain ⟨hindices, drawnWinners, hwinners, howners⟩ := drawTiers_reproducible htier
  rw [List.nil_append] at hwinners
  subst hwinners
  obtain ⟨-, hkept⟩ := recordLeaderboard_view hboard (crowned c r winners)
  refine ⟨⟨seed, r.randomnessSource, indices, c.timestamp, c.sequence, r.uniqueWinners,
    contributions⟩, winners, crowned c r winners, ⟨?_, howners, rfl, rfl⟩, rfl, rfl, ?_, ?_, rfl,
    ?_⟩
  · simp only [reproduceIndices, hselect, Option.map_some, hindices]
  · rw [records_of_apart (bumpRaffleTtl_apart _), recordLeaderboard_records hboard,
      records_concluded]
  · rw [bumpRaffleTtl_raffle, hkept, concluded_raffle]
  · simp [crowned, Raffle.setWinners, Raffle.setFinalizedAt, Function.comp_def]

/-- What ran between the call and its finalization left the tickets alone. -/
theorem concludes_of_later {w₁ : World} {s : Records} {seed : Nat}
    {contributions : Option (List (Address × Nat))} (status : RaffleStatus)
    (hd : Concludes s w₁ (r.setStatus status) w' seed contributions)
    (hticket : w₁.ticket = w.ticket) : Concludes s w r w' seed contributions := by
  obtain ⟨metadata, winners, r', hdraw, hrest⟩ := hd
  exact ⟨metadata, winners, r', hdraw.congr hticket rfl rfl rfl rfl, hrest⟩

theorem announceRequest_apart (r : Raffle) (oracles : List Address) (requestId : Nat) :
    apart (announceRequest c w r oracles requestId) = apart w := by
  unfold announceRequest
  generalize hstart : emit w _ = w₀
  have hbase : apart w₀ = apart w := by rw [← hstart]; rfl
  clear hstart
  induction oracles generalizing w₀ with
  | nil => exact hbase
  | cons oracle rest ih => exact ih _ hbase

theorem requestForDraw_records {status : RaffleStatus} {oracles : List Address}
    (hok : requestForDraw h c w r status oracles = .ok w') :
    w'.raffle = w.raffle ∧ records w' = (records w).ask c.sequence := by
  obtain ⟨w₁, requestId, hrequest, rfl⟩ := requestForDraw_writes hok
  obtain ⟨-, rfl⟩ := requestRandomness_writes hrequest
  obtain ⟨-, hraffle⟩ := announceRequest_view (h := h) (c := c) (r := r) r oracles requestId
  rw [records_of_apart (announceRequest_apart ..), hraffle]
  exact ⟨rfl, rfl⟩

theorem finalizeRaffle_stores (hr : w.raffle = some r) (hok : finalizeRaffle h c w = .ok w') :
    Call.finalizeRaffle.Stores h c w r w' := by
  obtain ⟨-, ⟨-, hfail⟩ | ⟨-, w₁, hdrawing, hproceeds⟩⟩ := finalizeRaffle_cases hr hok
  · obtain ⟨-, rfl⟩ := failRaffle_ok.mp hfail
    exact .inl ⟨rfl, rfl⟩
  obtain ⟨-, -, rfl, -⟩ := transitionToDrawing_ok.mp hdrawing
  refine .inr ?_
  cases hproceeds with
  | request oracles hsource hrequest =>
    rw [Raffle.setStatus_randomnessSource] at hsource
    rw [hsource]
    have hasked := requestForDraw_records hrequest
    exact hasked
  | poll config hsource hrequest =>
    rw [Raffle.setStatus_randomnessSource] at hsource
    rw [hsource]
    obtain ⟨hraffle, hasked⟩ := requestForDraw_records hrequest
    exact ⟨hraffle, congrArg (fun s : Records => { s with submitted := some [] }) hasked⟩
  | draw hsource hdraw =>
    have hconcludes := doFinalizeWithSeed_concludes hdraw
    rcases hsource with hsource | hsource <;>
      rw [Raffle.setStatus_randomnessSource] at hsource <;>
      rw [hsource] <;>
      exact ⟨_, concludes_of_later .drawing hconcludes rfl⟩

theorem provideRandomness_stores {randomSeed requestId : Nat} {publicKey : Digest}
    {proof : Signature} (hr : w.raffle = some r)
    (hok : provideRandomness h c w randomSeed publicKey proof requestId = .ok w') :
    Concludes (records w) w r w' randomSeed none := by
  obtain ⟨-, published, -, hdraw⟩ := provideRandomness_draws hr hok
  have hconcludes := doFinalizeWithSeed_concludes hdraw
  exact concludes_of_later r.status hconcludes rfl

theorem provideQuorumRandomness_stores {oracle : Address} {randomSeed requestId : Nat}
    (hr : w.raffle = some r)
    (hok : provideQuorumRandomness h c w oracle randomSeed requestId = .ok w') :
    Submits h c w r w' oracle randomSeed requestId := by
  obtain ⟨config, published, w₁, hsource, -, rfl, hregistered, hauth, hstored, hfresh,
    ⟨hwaiting, rfl⟩ | ⟨hreached, seeds, rfl, hdraw⟩⟩ := provideQuorumRandomness_cases hr hok
  · exact ⟨config, hsource, hregistered, hauth, hstored, hfresh,
      .inl ⟨hwaiting, rfl, hr, rfl, rfl, rfl⟩⟩
  · have hconcludes := doFinalizeWithSeed_concludes hdraw
    exact ⟨config, hsource, hregistered, hauth, hstored, hfresh,
      .inr ⟨hreached, concludes_of_later r.status hconcludes rfl⟩⟩

theorem triggerRandomnessFallback_stores {caller : Address} {doRefund : Bool}
    (hr : w.raffle = some r)
    (hok : triggerRandomnessFallback h c w caller doRefund = .ok w') :
    (Call.triggerRandomnessFallback caller doRefund).Stores h c w r w' := by
  obtain ⟨-, -, published, -, rfl | ⟨seed, hdraw⟩⟩ := triggerRandomnessFallback_cases hr hok
  · exact .inl ⟨rfl, rfl⟩
  · have hconcludes := doFinalizeWithSeed_concludes hdraw
    exact .inr ⟨seed, concludes_of_later r.status hconcludes rfl⟩

theorem claimPrize_apart {winner : Address} {tier : Nat} {paid : Int}
    (hok : claimPrize h c w winner tier = .ok (w', paid)) : apart w' = apart w := by
  simp only [claimPrize, except_bind_ok, checkedI128_ok, Prod.exists, except_pure_ok,
    Prod.mk.injEq, ensure_ok, exists_const] at hok
  obtain ⟨_, -, _, -, _, -, -, _, -, -, entry, -, -, -, amount, -, -, fee, -, net, -, -, w₁, r₁,
    hsettle, w₂, hpay, w₃, hcollect, rfl, -⟩ := hok
  have hpaid := payWinner_apart hpay
  change apart w₃ = apart w
  rw [collectFee_apart hcollect, hpaid]
  have hsettled := settleIfAllClaimed_apart hsettle
  exact hsettled

theorem sweepUnclaimed_apart {startIndex limit n : Nat}
    (hok : sweepUnclaimed h c w startIndex limit = .ok (w', n)) : apart w' = apart w := by
  simp only [sweepUnclaimed, except_bind_ok, ensure_ok, exists_const] at hok
  obtain ⟨_, -, _, -, -, -, _, -, _, -, -, treasury, -, hok⟩ := hok
  split at hok
  next =>
    cases hok
    rfl
  next =>
    simp only [except_bind_ok, Prod.exists, except_pure_ok, Prod.mk.injEq] at hok
    obtain ⟨w₁, r₁, swept, hsweep, w₂, r₂, hsettle, rfl, -⟩ := hok
    exact (settleIfAllClaimed_apart hsettle).trans (sweepTiers_apart hsweep)

theorem refundPrize_apart (hok : refundPrize h c w = .ok w') : apart w' = apart w := by
  simp only [refundPrize, except_bind_ok, ensure_ok, tryTransfer_ok, except_pure_ok,
    exists_const] at hok
  obtain ⟨_, -, _, -, _, -, -, -, _, ⟨-, rfl⟩, rfl⟩ := hok
  rfl

theorem refundTicket_apart {caller : Address} {ticketId : Nat} {paid : Int}
    (hok : refundTicket h c w caller ticketId = .ok (w', paid)) : apart w' = apart w := by
  simp only [refundTicket, except_bind_ok, ensure_ok, tryTransfer_ok, except_pure_ok,
    Prod.mk.injEq, exists_const] at hok
  obtain ⟨_, -, -, _, -, ticket, -, _, -, -, _, ⟨-, rfl⟩, rfl, -⟩ := hok
  rfl

theorem batchRefundTickets_apart {caller : Address} {ids : List Nat} {paid : Int}
    (hok : batchRefundTickets h c w caller ids = .ok (w', paid)) : apart w' = apart w := by
  simp only [batchRefundTickets, except_bind_ok, ensure_ok, exists_const] at hok
  obtain ⟨_, -, -, _, -, _, -, hok⟩ := hok
  exact refundBatch_apart hok

theorem batchRefundTicketsOwned_apart {owner : Address} {ids : List Nat} {paid : Int}
    (hok : batchRefundTicketsOwned h c w owner ids = .ok (w', paid)) :
    apart w' = apart w := by
  simp only [batchRefundTicketsOwned, except_bind_ok, ensure_ok, exists_const] at hok
  obtain ⟨_, -, _, -, -, _, -, hok⟩ := hok
  exact refundBatch_apart hok

theorem withdrawFees_apart {recipient : Address} {amount : Int}
    (hok : withdrawFees h c w recipient amount = .ok w') : apart w' = apart w := by
  simp only [withdrawFees, except_bind_ok, ensure_ok, transfer_ok, trapI128_ok, except_pure_ok,
    exists_const] at hok
  obtain ⟨_, -, _, -, -, -, -, _, ⟨-, rfl⟩, left, -, rfl⟩ := hok
  rfl

theorem rescueTokens_apart {token recipient : Address} {amount : Int}
    (hok : rescueTokens h c w token recipient amount = .ok w') : apart w' = apart w := by
  simp only [rescueTokens, except_bind_ok, ensure_ok, tryTransfer_ok, except_pure_ok,
    exists_const] at hok
  obtain ⟨_, -, -, _, -, _, ⟨-, rfl⟩, rfl⟩ := hok
  rfl

theorem sweepDust_apart (hok : sweepDust h c w = .ok w') : apart w' = apart w := by
  simp only [sweepDust, except_bind_ok, ensure_ok, exists_const] at hok
  obtain ⟨_, -, _, -, -, -, treasury, -, entitlement, -, -, dust, -, hok⟩ := hok
  split at hok
  next =>
    simp only [except_bind_ok, tryTransfer_ok, except_pure_ok] at hok
    obtain ⟨_, ⟨-, rfl⟩, rfl⟩ := hok
    rfl
  next =>
    cases hok
    rfl

theorem emergencyWithdraw_apart {caller : Address}
    (hok : emergencyWithdraw h c w caller = .ok w') : apart w' = apart w := by
  simp only [emergencyWithdraw, except_bind_ok, ensure_ok, Prod.exists, transitionStatus_ok,
    transfer_ok, except_pure_ok, exists_const] at hok
  obtain ⟨_, -, _, -, -, admin, -, -, -, _, -, entitlement, -, -, _, -, _, -, -, _, _,
    ⟨-, rfl, rfl⟩, _, ⟨-, rfl⟩, rfl⟩ := hok
  rfl

theorem depositPrize_apart (hok : depositPrize h c w = .ok w') : apart w' = apart w := by
  simp only [depositPrize, except_bind_ok, ensure_ok, tryTransfer_ok, Prod.exists,
    transitionStatus_ok, except_pure_ok, exists_const] at hok
  obtain ⟨_, -, _, -, _, -, -, _, ⟨-, rfl⟩, _, _, ⟨-, rfl, rfl⟩, rfl⟩ := hok
  rfl

theorem submitCommit_keys {ticketId : Nat} {hash : Digest}
    (hok : submitCommit h c w ticketId hash = .ok w') : keys w' = keys w := by
  simp only [submitCommit, except_bind_ok, ensure_ok, except_pure_ok, exists_const] at hok
  obtain ⟨_, -, -, -, _, -, _, -, ticket, -, _, -, -, rfl⟩ := hok
  rfl

theorem setTicketSalesPaused_apart {caller : Address} {paused : Bool} {published : Event}
    (hok : setTicketSalesPaused h c w caller paused published = .ok w') :
    apart w' = apart w := by
  simp only [setTicketSalesPaused, except_bind_ok, ensure_ok, except_pure_ok,
    exists_const] at hok
  obtain ⟨_, -, _, -, admin, -, -, -, rfl⟩ := hok
  rfl

theorem cancelNow_apart {reason : CancelReason} (hok : cancelNow c w r reason = .ok w') :
    apart w' = apart w := by
  simp only [cancelNow, except_bind_ok, ensure_ok, Prod.exists, transitionStatus_ok,
    except_pure_ok, exists_const] at hok
  obtain ⟨-, _, _, ⟨-, rfl, rfl⟩, rfl⟩ := hok
  rfl

theorem cancelRaffle_stores {reason : CancelReason} (hr : w.raffle = some r)
    (hok : cancelRaffle h c w reason = .ok w') : Cancelling c w r w' reason := by
  simp only [cancelRaffle, except_bind_ok, readRaffle_ok, hr, Option.some.injEq,
    exists_eq_left'] at hok
  unfold Cancelling
  split at hok
  next hadmin =>
    simp only [scheduleCancel, except_bind_ok, okOr_ok, requireAuth_ok, ensure_ok,
      except_pure_ok, exists_const] at hok
    obtain ⟨admin, hstored, ⟨hauth, -⟩, -, rfl⟩ := hok
    rw [if_pos hadmin]
    exact ⟨⟨admin, hstored, hauth⟩, hr, rfl⟩
  next hcreator =>
    simp only [except_bind_ok, requireAuth_ok, exists_const] at hok
    rw [if_neg hcreator]
    exact ⟨hok.1.1, records_of_apart (cancelNow_apart hok.2)⟩

theorem executeAdminCancel_stores (hr : w.raffle = some r)
    (hok : executeAdminCancel c w = .ok w') :
    Call.executeAdminCancel.Stores h c w r w' := by
  simp only [executeAdminCancel, except_bind_ok, readRaffle_ok, hr, Option.some.injEq,
    exists_eq_left', okOr_ok, ensure_ok, exists_const] at hok
  obtain ⟨cancelAt, hstored, hdue, hok⟩ := hok
  have hkept := records_of_apart (cancelNow_apart hok)
  exact ⟨⟨cancelAt, hstored, hdue⟩, hkept⟩

theorem wipeStorage_stores (hr : w.raffle = some r) (hok : wipeStorage h c w = .ok w') :
    Call.wipeStorage.Stores h c w r w' := by
  simp only [wipeStorage, except_bind_ok, readRaffle_ok, hr, Option.some.injEq, exists_eq_left',
    ensure_ok, except_pure_ok, exists_const] at hok
  obtain ⟨factory, -, _, -, hstatus, -, -, rfl⟩ := hok
  refine ⟨RaffleStatus.isTerminal_iff.mpr ?_, rfl, rfl, rfl⟩
  rcases hstatus with hs | hs | hs
  · exact .inl hs
  · exact .inr (.inr hs)
  · exact .inr (.inl hs)

def Call.pauses (w : World) : Call → Option Bool
  | .pause => some true
  | .unpause => some false
  | _ => w.paused

def Call.spares : Call → Bool
  | .depositPrize | .claimPrize .. | .sweepUnclaimed .. | .withdrawFees .. | .refundPrize
  | .emergencyWithdraw _ | .refundTicket .. | .batchRefundTickets ..
  | .batchRefundTicketsOwned .. | .pause | .unpause | .pauseTicketSales _
  | .resumeTicketSales _ | .rescueTokens .. | .sweepDust | .updateOracleAddress _
  | .setProtocolFeeBp _ | .setSwapDeadline _ | .updateMetadataHash _ | .extendTtl ..
  | .tokenTransfer .. => true
  | _ => false

theorem invoke_apart {i : Invocation} (hspares : Call.spares i.call = true)
    (hok : invoke h i w = .ok w') : apart w' = (aside w, vacant w, Call.pauses w i.call) := by
  obtain ⟨c, call⟩ := i
  cases call with
  | depositPrize => exact depositPrize_apart hok
  | claimPrize winner tierIndex =>
    obtain ⟨⟨_, paid⟩, hcall, rfl⟩ := except_map_ok.mp hok
    exact claimPrize_apart hcall
  | sweepUnclaimed startIndex limit =>
    obtain ⟨⟨_, n⟩, hcall, rfl⟩ := except_map_ok.mp hok
    exact sweepUnclaimed_apart hcall
  | withdrawFees recipient amount => exact withdrawFees_apart hok
  | refundPrize => exact refundPrize_apart hok
  | emergencyWithdraw caller => exact emergencyWithdraw_apart hok
  | refundTicket caller ticketId =>
    obtain ⟨⟨_, paid⟩, hcall, rfl⟩ := except_map_ok.mp hok
    exact refundTicket_apart hcall
  | batchRefundTickets caller ticketIds =>
    obtain ⟨⟨_, paid⟩, hcall, rfl⟩ := except_map_ok.mp hok
    exact batchRefundTickets_apart hcall
  | batchRefundTicketsOwned owner ticketIds =>
    obtain ⟨⟨_, paid⟩, hcall, rfl⟩ := except_map_ok.mp hok
    exact batchRefundTicketsOwned_apart hcall
  | pause =>
    simp only [invoke, pause, except_bind_ok, except_pure_ok] at hok
    obtain ⟨_, -, _, -, rfl⟩ := hok
    rfl
  | unpause =>
    simp only [invoke, unpause, except_bind_ok, except_pure_ok] at hok
    obtain ⟨_, -, _, -, rfl⟩ := hok
    rfl
  | pauseTicketSales caller => exact setTicketSalesPaused_apart hok
  | resumeTicketSales caller => exact setTicketSalesPaused_apart hok
  | rescueTokens token recipient amount => exact rescueTokens_apart hok
  | sweepDust => exact sweepDust_apart hok
  | updateOracleAddress newOracle =>
    simp only [invoke, updateOracleAddress, except_bind_ok, ensure_ok, except_pure_ok,
      exists_const] at hok
    obtain ⟨_, -, _, -, -, -, -, rfl⟩ := hok
    rfl
  | setProtocolFeeBp newFeeBp =>
    simp only [invoke, setProtocolFeeBp, except_bind_ok, ensure_ok, except_pure_ok,
      exists_const] at hok
    obtain ⟨_, -, -, _, -, -, rfl⟩ := hok
    rfl
  | setSwapDeadline newDeadlineSeconds =>
    simp only [invoke, setSwapDeadline, except_bind_ok, ensure_ok, except_pure_ok,
      exists_const] at hok
    obtain ⟨_, -, -, _, -, -, rfl⟩ := hok
    rfl
  | updateMetadataHash newHash =>
    simp only [invoke, updateMetadataHash, except_bind_ok, except_pure_ok] at hok
    obtain ⟨_, -, _, -, rfl⟩ := hok
    rfl
  | extendTtl startTicketId limit =>
    simp only [invoke, extendTtl, except_map_ok, except_bind_ok, except_pure_ok] at hok
    obtain ⟨_, ⟨_, -, rfl⟩, rfl⟩ := hok
    rfl
  | tokenTransfer token source target amount =>
    simp only [invoke, tokenTransfer, except_bind_ok, transfer_ok] at hok
    obtain ⟨_, -, -, rfl⟩ := hok
    rfl
  | _ => cases hspares

theorem invoke_stores {i : Invocation} (hr : w.raffle = some r) (hok : invoke h i w = .ok w') :
    i.call.Stores h i.ctx w r w' := by
  obtain ⟨c, call⟩ := i
  cases call with
  | buyTickets buyer quantity =>
    obtain ⟨⟨_, n⟩, hcall, rfl⟩ := except_map_ok.mp hok
    exact buyTickets_stores hr hcall
  | buyTicketsFor buyer recipient quantity =>
    obtain ⟨⟨_, n⟩, hcall, rfl⟩ := except_map_ok.mp hok
    exact buyTicketsFor_stores hr hcall
  | submitCommit ticketId hash => exact congrArg Prod.fst (submitCommit_keys hok)
  | finalizeRaffle => exact finalizeRaffle_stores hr hok
  | provideRandomness randomSeed publicKey proof requestId =>
    exact provideRandomness_stores hr hok
  | provideQuorumRandomness oracle randomSeed requestId =>
    exact provideQuorumRandomness_stores hr hok
  | triggerRandomnessFallback caller doRefund => exact triggerRandomnessFallback_stores hr hok
  | cancelRaffle reason => exact cancelRaffle_stores hr hok
  | executeAdminCancel => exact executeAdminCancel_stores hr hok
  | wipeStorage => exact wipeStorage_stores hr hok
  | _ => exact congrArg (fun keys => keys.1.1.1) (invoke_apart rfl hok)

section Kept

variable {s : Records} {seed quantity : Nat} {holder : Address}
  {contributions : Option (List (Address × Nat))} {call : Call}

theorem concludes_kept (hd : Concludes s w r w' seed contributions) :
    (records w').admin = s.admin ∧ (records w').counts = s.counts ∧
      (records w').buyers = s.buyers ∧ (records w').cancelAt = s.cancelAt := by
  obtain ⟨metadata, winners, r', -, -, -, hkeys, -⟩ := hd
  rw [hkeys]
  exact ⟨rfl, rfl, rfl, rfl⟩

theorem concludes_finalized {s : Records} {seed : Nat} {r' : Raffle}
    {contributions : Option (List (Address × Nat))} (hr' : w'.raffle = some r')
    (hd : Concludes s w r w' seed contributions) : r'.status = .finalized := by
  obtain ⟨metadata, winners, r₁, -, -, -, -, hr₁, hfinalized, -⟩ := hd
  rw [hr'] at hr₁
  cases hr₁
  exact hfinalized

theorem submits_kept {oracle : Address} {requestId : Nat}
    (hs : Submits h c w r w' oracle seed requestId) :
    (records w').admin = (records w).admin ∧ (records w').counts = (records w).counts ∧
      (records w').buyers = (records w).buyers ∧
      (records w').cancelAt = (records w).cancelAt := by
  obtain ⟨config, -, -, -, -, -, ⟨-, hkeys, -⟩ | ⟨-, hdraw⟩⟩ := hs
  · rw [hkeys]
    exact ⟨rfl, rfl, rfl, rfl⟩
  · have hkept := concludes_kept hdraw
    exact hkept

theorem counts_kept (hs : Counts c w r w' holder quantity) :
    (records w').admin = (records w).admin ∧
      (records w').cancelAt = (records w).cancelAt := by
  rw [hs.2]
  split <;> exact ⟨rfl, rfl⟩

theorem finalizeRaffle_kept (hs : Call.finalizeRaffle.Stores h c w r w') :
    (records w').admin = (records w).admin ∧ (records w').counts = (records w).counts ∧
      (records w').buyers = (records w).buyers ∧
      (records w').cancelAt = (records w).cancelAt := by
  rcases hs with ⟨-, hkeys⟩ | hs
  · rw [hkeys]
    exact ⟨rfl, rfl, rfl, rfl⟩
  · split at hs
    next =>
      rw [hs.2]
      exact ⟨rfl, rfl, rfl, rfl⟩
    next =>
      rw [hs.2]
      exact ⟨rfl, rfl, rfl, rfl⟩
    next =>
      obtain ⟨seed, hdraw⟩ := hs
      exact concludes_kept hdraw

theorem triggerRandomnessFallback_kept {caller : Address} {doRefund : Bool}
    (hs : (Call.triggerRandomnessFallback caller doRefund).Stores h c w r w') :
    (records w').admin = (records w).admin ∧ (records w').counts = (records w).counts ∧
      (records w').buyers = (records w).buyers ∧
      (records w').cancelAt = (records w).cancelAt := by
  rcases hs with ⟨-, hkeys⟩ | ⟨seed, hdraw⟩
  · rw [hkeys]
    exact ⟨rfl, rfl, rfl, rfl⟩
  · exact concludes_kept hdraw

theorem cancelling_kept {reason : CancelReason} (hs : Cancelling c w r w' reason) :
    ∃ cancelAt, records w' = { records w with cancelAt := cancelAt } := by
  unfold Cancelling at hs
  split at hs
  next => exact ⟨_, hs.2.2⟩
  next => exact ⟨(records w).cancelAt, hs.2⟩

theorem stores_admin (hs : call.Stores h c w r w') : (records w').admin = (records w).admin := by
  cases call with
  | buyTickets buyer quantity => exact (counts_kept hs).1
  | buyTicketsFor buyer recipient quantity => exact (counts_kept hs).1
  | finalizeRaffle => exact (finalizeRaffle_kept hs).1
  | provideRandomness seed publicKey proof requestId => exact (concludes_kept hs).1
  | provideQuorumRandomness oracle seed requestId => exact (submits_kept hs).1
  | triggerRandomnessFallback caller doRefund => exact (triggerRandomnessFallback_kept hs).1
  | cancelRaffle reason =>
    obtain ⟨cancelAt, hkeys⟩ := cancelling_kept hs
    rw [hkeys]
  | executeAdminCancel => rw [hs.2]
  | wipeStorage => exact hs.2.1
  | _ => exact congrArg Records.admin hs

/-- The scheduled cancel is written by scheduling one, and only then. -/
theorem stores_cancelAt (hs : call.Stores h c w r w')
    (hother : call ≠ .cancelRaffle .adminCancelled) :
    (records w').cancelAt = none ∨ (records w').cancelAt = (records w).cancelAt := by
  cases call with
  | buyTickets buyer quantity => exact .inr (counts_kept hs).2
  | buyTicketsFor buyer recipient quantity => exact .inr (counts_kept hs).2
  | finalizeRaffle => exact .inr (finalizeRaffle_kept hs).2.2.2
  | provideRandomness seed publicKey proof requestId => exact .inr (concludes_kept hs).2.2.2
  | provideQuorumRandomness oracle seed requestId => exact .inr (submits_kept hs).2.2.2
  | triggerRandomnessFallback caller doRefund =>
    exact .inr (triggerRandomnessFallback_kept hs).2.2.2
  | cancelRaffle reason =>
    have hreason : reason ≠ .adminCancelled := fun heq => hother (heq ▸ rfl)
    have hcancel : Cancelling c w r w' reason := hs
    rw [Cancelling, if_neg hreason] at hcancel
    exact .inr (congrArg Records.cancelAt hcancel.2)
  | executeAdminCancel =>
    rw [hs.2]
    exact .inl rfl
  | wipeStorage => exact .inl hs.2.2.2
  | _ => exact .inr (congrArg Records.cancelAt hs)

end Kept

theorem initialised_records (hinit : Initialised h w) : ∃ admin, records w =
    ⟨some admin, fun _ => none, none, none, fun _ => none, none, none, none⟩ := by
  obtain ⟨c, holdings, factory, admin, creator, config, hok⟩ := hinit
  simp only [init, except_bind_ok, except_pure_ok, ensure_ok, exists_const] at hok
  obtain ⟨-, _, -, _, -, _, -, -, -, _, -, rfl⟩ := hok
  exact ⟨admin, rfl⟩

end TikkaRaffle.Escrow
