import TikkaRaffle.Escrow.Drawing

/-! The log of transfers is written and never read: with other entries in front
of it every entry point does the same and appends the same. -/
namespace TikkaRaffle.Escrow

open TikkaRaffle.Lib TikkaRaffle.Instance

def prepend (earlier : List Transfer) (w : World) : World :=
  { w with transfers := earlier ++ w.transfers }

theorem except_map_ite {ε α β : Type} {condition : Prop} [Decidable condition] (f : α → β)
    (x y : Except ε α) :
    f <$> (if condition then x else y) = if condition then f <$> x else f <$> y :=
  apply_ite (f <$> ·) ..

variable {h : Host} {c : Ctx} {earlier : List Transfer} {w : World} {r : Raffle}

theorem applyTransfer_prepend {purpose : Purpose} {token source target : Address} {amount : Int} :
    applyTransfer (prepend earlier w) purpose token source target amount =
      prepend earlier (applyTransfer w purpose token source target amount) := by
  simp only [applyTransfer, prepend, List.append_assoc]

theorem tryTransfer_prepend {purpose : Purpose} {token source target : Address} {amount : Int} :
    tryTransfer (prepend earlier w) purpose token source target amount =
      prepend earlier <$> tryTransfer w purpose token source target amount := by
  rw [tryTransfer, tryTransfer, applyTransfer_prepend, except_map_ite]
  rfl

theorem transfer_prepend {purpose : Purpose} {token source target : Address} {amount : Int} :
    transfer (prepend earlier w) purpose token source target amount =
      prepend earlier <$> transfer w purpose token source target amount := by
  rw [transfer, transfer, applyTransfer_prepend, except_map_ite]
  rfl

theorem acquireGuard_prepend :
    acquireGuard (prepend earlier w) = prepend earlier <$> acquireGuard w := by
  rw [acquireGuard, acquireGuard, except_map_ite]
  rfl

theorem transitionStatus_prepend {status : RaffleStatus} {time : Nat} :
    transitionStatus (prepend earlier w) r status time =
      Prod.map (prepend earlier) id <$> transitionStatus w r status time := by
  rw [transitionStatus, transitionStatus, except_map_ite]
  rfl

theorem revertStatus_prepend {target : RaffleStatus} :
    revertStatus (prepend earlier w) r target =
      Prod.map (prepend earlier) id <$> revertStatus w r target := by
  rw [revertStatus, revertStatus, except_map_ite]
  rfl

theorem recordBuyer_prepend {holder : Address} {count : Nat} :
    recordBuyer (prepend earlier w) holder count =
      prepend earlier (recordBuyer w holder count) := by
  unfold recordBuyer
  split <;> rfl

theorem bumpRaffleTtl_prepend {total : Nat} :
    bumpRaffleTtl (prepend earlier w) total = prepend earlier (bumpRaffleTtl w total) := by
  unfold bumpRaffleTtl
  split <;> rfl

theorem clearQuorumStorage_prepend :
    clearQuorumStorage (prepend earlier w) = prepend earlier (clearQuorumStorage w) := by
  rw [clearQuorumStorage_eq, clearQuorumStorage_eq]
  rfl

theorem notifyFactory_prepend {holder : Address} {total : Int} :
    notifyFactory c (prepend earlier w) r holder total =
      prepend earlier <$> notifyFactory c w r holder total := by
  have hsame : (prepend earlier w).factory = w.factory := rfl
  rw [notifyFactory, notifyFactory, hsame]
  cases w.factory with
  | none => rfl
  | some =>
    simp only [map_bind, map_pure]
    rfl

theorem recordLeaderboard_prepend :
    recordLeaderboard h c (prepend earlier w) r =
      prepend earlier <$> recordLeaderboard h c w r := by
  have hsame : (prepend earlier w).factory = w.factory := rfl
  rw [recordLeaderboard, recordLeaderboard, hsame]
  cases w.factory with
  | none => rfl
  | some =>
    simp only [map_bind, map_pure]
    rfl

theorem payTreasury_prepend {purpose : Purpose} {token : Address} {fee : Int} :
    payTreasury h (prepend earlier w) r purpose token fee =
      prepend earlier <$> payTreasury h w r purpose token fee := by
  unfold payTreasury
  split
  · exact transfer_prepend
  · rfl

theorem collectFee_prepend {purpose : Purpose} {token : Address} {fee : Int} :
    collectFee h (prepend earlier w) r purpose token fee =
      prepend earlier <$> collectFee h w r purpose token fee := by
  unfold collectFee
  split
  · simp only [payTreasury_prepend, map_bind, bind_map_left, map_pure]
    rfl
  · rfl

theorem issueTickets_prepend {owner payer : Address} {last count : Nat} :
    issueTickets c r owner payer (prepend earlier w) last count =
      Prod.map (prepend earlier) id <$> issueTickets c r owner payer w last count := by
  induction count generalizing w last with
  | zero => rfl
  | succ count ih =>
    have hissue (tickets : Nat → Option Ticket) :
        ({ prepend earlier w with ticket := tickets } : World) =
          prepend earlier { w with ticket := tickets } := rfl
    simp only [issueTickets, hissue, ih, map_bind, bind_map_left, map_pure]
    rfl

theorem requestRandomness_prepend :
    requestRandomness h c (prepend earlier w) =
      Prod.map (prepend earlier) id <$> requestRandomness h c w := by
  simp only [requestRandomness, map_bind, map_pure]
  rfl

theorem transitionToDrawing_prepend {time : Nat} :
    transitionToDrawing (prepend earlier w) r time =
      Prod.map (prepend earlier) id <$> transitionToDrawing w r time := by
  simp only [transitionToDrawing, transitionStatus_prepend, map_bind, bind_map_left, map_pure]
  rfl

theorem startSoldOutDraw_prepend {holder : Address} :
    startSoldOutDraw h c (prepend earlier w) r holder =
      Prod.map (prepend earlier) id <$> startSoldOutDraw h c w r holder := by
  unfold startSoldOutDraw
  split
  · simp only [transitionToDrawing_prepend, map_bind, bind_map_left, Prod.map]
    refine bind_congr fun p => ?_
    simp only [requestRandomness_prepend, except_map_ite, map_bind, bind_map_left, map_pure]
    rfl
  · rfl

theorem completePurchase_prepend {buyer holder : Address} {quantity : Nat} {total fee : Int} :
    completePurchase h c (prepend earlier w) r buyer holder quantity total fee =
      Prod.map (prepend earlier) id <$>
        completePurchase h c w r buyer holder quantity total fee := by
  have hcount (w : World) (counts : Address → Option Nat) :
      ({ prepend earlier w with ticketCount := counts } : World) =
        prepend earlier { w with ticketCount := counts } := rfl
  have hstored (w : World) (r : Raffle) (e : Event) :
      emit (writeRaffle (prepend earlier w) r) e = prepend earlier (emit (writeRaffle w r) e) := rfl
  simp only [completePurchase, tryTransfer_prepend, collectFee_prepend, recordBuyer_prepend,
    issueTickets_prepend, startSoldOutDraw_prepend, notifyFactory_prepend, bumpRaffleTtl_prepend,
    hcount, hstored, map_bind, bind_map_left, map_pure, Prod.map, id]
  rfl

theorem validatePurchasePreconditions_prepend {quantity : Nat} :
    validatePurchasePreconditions c (prepend earlier w) r quantity =
      validatePurchasePreconditions c w r quantity := by
  simp only [validatePurchasePreconditions, acquireGuard_prepend, bind_map_left]
  rfl

theorem buyTickets_prepend {buyer : Address} {quantity : Nat} :
    buyTickets h c (prepend earlier w) buyer quantity =
      Prod.map (prepend earlier) id <$> buyTickets h c w buyer quantity := by
  simp only [buyTickets, validatePurchasePreconditions_prepend, completePurchase_prepend, map_bind]
  rfl

theorem buyTicketsFor_prepend {buyer recipient : Address} {quantity : Nat} :
    buyTicketsFor h c (prepend earlier w) buyer recipient quantity =
      Prod.map (prepend earlier) id <$> buyTicketsFor h c w buyer recipient quantity := by
  simp only [buyTicketsFor, acquireGuard_prepend, completePurchase_prepend, map_bind,
    bind_map_left]
  rfl

theorem submitCommit_prepend {ticketId : Nat} {hash : Digest} :
    submitCommit h c (prepend earlier w) ticketId hash =
      prepend earlier <$> submitCommit h c w ticketId hash := by
  simp only [submitCommit, map_bind, map_pure]
  rfl

theorem drawTiers_prepend {candidates : List Nat} {tier : Nat} {winners : List Address} :
    drawTiers c (prepend earlier w) r candidates tier winners =
      drawTiers c w r candidates tier winners := by
  induction candidates generalizing tier winners with
  | nil => rfl
  | cons candidate rest ih =>
    simp only [drawTiers, ih]
    rfl

theorem doFinalizeWithSeed_prepend {seed : Nat} {kind : RandomnessType}
    {contributions : Option (List (Address × Nat))} :
    doFinalizeWithSeed h c (prepend earlier w) r seed kind contributions =
      prepend earlier <$> doFinalizeWithSeed h c w r seed kind contributions := by
  have hconcluded (w : World) (drawn : List Event) (metadata : FairnessMetadata) :
      storeFairness (emitAll (prepend earlier w) drawn) metadata =
        prepend earlier (storeFairness (emitAll w drawn) metadata) := rfl
  have hcleared (w : World) (r : Raffle) :
      clearRequest (writeRaffle (prepend earlier w) r) =
        prepend earlier (clearRequest (writeRaffle w r)) := rfl
  have hpublished (w : World) (e : Event) :
      emit (clearLock (prepend earlier w)) e = prepend earlier (emit (clearLock w) e) := rfl
  simp only [doFinalizeWithSeed, drawTiers_prepend, hconcluded, transitionStatus_prepend, hcleared,
    clearQuorumStorage_prepend, hpublished, recordLeaderboard_prepend, bumpRaffleTtl_prepend,
    map_bind, bind_map_left, map_pure, Prod.map, id]

/-- The same for a world that is a longer one up to its definition. -/
theorem doFinalizeWithSeed_relogged {w₁ : World} {seed : Nat} {kind : RandomnessType}
    {contributions : Option (List (Address × Nat))} (hw : w₁ = prepend earlier w) :
    doFinalizeWithSeed h c w₁ r seed kind contributions =
      prepend earlier <$> doFinalizeWithSeed h c w r seed kind contributions := by
  rw [hw, doFinalizeWithSeed_prepend]

theorem announceRequest_prepend {oracles : List Address} {requestId : Nat} :
    announceRequest c (prepend earlier w) r oracles requestId =
      prepend earlier (announceRequest c w r oracles requestId) := by
  have hfold (w : World) : oracles.foldl (fun w oracle =>
      emit w (.randomnessRequested oracle requestId c.timestamp)) (prepend earlier w) =
      prepend earlier (oracles.foldl (fun w oracle =>
        emit w (.randomnessRequested oracle requestId c.timestamp)) w) := by
    induction oracles generalizing w with
    | nil => rfl
    | cons oracle rest ih => exact ih (emit w (.randomnessRequested oracle requestId c.timestamp))
  exact hfold (emit w (.drawTriggered r.creator r.ticketsSold c.timestamp))

theorem requestForDraw_prepend {status : RaffleStatus} {oracles : List Address} :
    requestForDraw h c (prepend earlier w) r status oracles =
      prepend earlier <$> requestForDraw h c w r status oracles := by
  rw [requestForDraw, requestForDraw, requestRandomness_prepend]
  cases requestRandomness h c w with
  | ok asked => exact congrArg Except.ok announceRequest_prepend
  | error e =>
    have hundone : (revertStatus (prepend earlier w) r status >>= fun _ => .error e) =
        prepend earlier <$> (revertStatus w r status >>= fun _ => .error e) := by
      rw [revertStatus_prepend]
      cases revertStatus w r status <;> rfl
    exact hundone

theorem failRaffle_prepend :
    failRaffle c (prepend earlier w) r = prepend earlier <$> failRaffle c w r := by
  simp only [failRaffle, transitionStatus_prepend, map_bind, bind_map_left, map_pure]
  rfl

theorem finalizeRaffle_prepend :
    finalizeRaffle h c (prepend earlier w) = prepend earlier <$> finalizeRaffle h c w := by
  simp only [finalizeRaffle, failRaffle_prepend, transitionToDrawing_prepend, except_map_ite,
    map_bind, bind_map_left]
  refine bind_congr fun _ => bind_congr fun r => bind_congr fun _ => bind_congr fun _ =>
    bind_congr fun _ => ?_
  split
  next => rfl
  next =>
    refine bind_congr fun p => ?_
    obtain ⟨w₁, r₁⟩ := p
    simp only [Prod.map, id]
    split
    next =>
      simp only [requestForDraw_prepend, map_bind, bind_map_left, map_pure]
      rfl
    next => exact requestForDraw_prepend
    next => exact doFinalizeWithSeed_relogged rfl

theorem provideRandomness_prepend {randomSeed requestId : Nat} {publicKey : Digest}
    {proof : Signature} :
    provideRandomness h c (prepend earlier w) randomSeed publicKey proof requestId =
      prepend earlier <$> provideRandomness h c w randomSeed publicKey proof requestId := by
  simp only [provideRandomness, map_bind]
  refine bind_congr fun _ => bind_congr fun r => ?_
  split
  next => rfl
  next =>
    simp only [map_bind, except_map_ite]
    refine bind_congr fun oracle => bind_congr fun _ => bind_congr fun _ => bind_congr fun _ =>
      bind_congr fun _ => bind_congr fun _ => bind_congr fun _ => bind_congr fun _ =>
      bind_congr fun _ => ?_
    split
    next => exact doFinalizeWithSeed_relogged rfl
    next => rfl

theorem provideQuorumRandomness_prepend {oracle : Address} {randomSeed requestId : Nat} :
    provideQuorumRandomness h c (prepend earlier w) oracle randomSeed requestId =
      prepend earlier <$> provideQuorumRandomness h c w oracle randomSeed requestId := by
  simp only [provideQuorumRandomness, map_bind]
  refine bind_congr fun _ => bind_congr fun _ => bind_congr fun r => bind_congr fun _ =>
    bind_congr fun _ => ?_
  split
  next =>
    simp only [map_bind, except_map_ite]
    refine bind_congr fun _ => bind_congr fun _ => ite_congr rfl (fun _ => ?_) fun _ => rfl
    exact doFinalizeWithSeed_relogged rfl
  next => rfl

theorem triggerRandomnessFallback_prepend {caller : Address} {doRefund : Bool} :
    triggerRandomnessFallback h c (prepend earlier w) caller doRefund =
      prepend earlier <$> triggerRandomnessFallback h c w caller doRefund := by
  simp only [triggerRandomnessFallback, transitionStatus_prepend, except_map_ite, map_bind,
    bind_map_left, map_pure]
  refine bind_congr fun _ => bind_congr fun _ => bind_congr fun r => bind_congr fun _ =>
    bind_congr fun _ => bind_congr fun _ => bind_congr fun _ => bind_congr fun _ =>
    bind_congr fun _ => ?_
  split
  next => rfl
  next => exact doFinalizeWithSeed_relogged rfl

theorem settleIfAllClaimed_prepend {time : Nat} :
    settleIfAllClaimed (prepend earlier w) r time =
      Prod.map (prepend earlier) id <$> settleIfAllClaimed w r time := by
  rw [settleIfAllClaimed, settleIfAllClaimed, except_map_ite, transitionStatus_prepend]
  rfl

theorem payWinner_prepend {winner : Address} {tier : Nat} {net : Int} :
    payWinner h (prepend earlier w) r winner tier net =
      prepend earlier <$> payWinner h w r winner tier net := by
  rw [payWinner, payWinner, except_map_ite, tryTransfer_prepend]
  rfl

theorem writeRaffle_prepend :
    writeRaffle (prepend earlier w) r = prepend earlier (writeRaffle w r) :=
  rfl

theorem emit_prepend {e : Event} : emit (prepend earlier w) e = prepend earlier (emit w e) := rfl

theorem claimPrize_prepend {winner : Address} {tier : Nat} :
    claimPrize h c (prepend earlier w) winner tier =
      Prod.map (prepend earlier) id <$> claimPrize h c w winner tier := by
  simp only [claimPrize, acquireGuard_prepend, settleIfAllClaimed_prepend, writeRaffle_prepend,
    payWinner_prepend, collectFee_prepend, map_bind, bind_map_left, map_pure, Prod.map, id]
  rfl

theorem sweepTiers_prepend {treasury : Address} {tier count swept : Nat} :
    sweepTiers h c treasury (prepend earlier w) r tier count swept =
      Prod.map (prepend earlier) id <$> sweepTiers h c treasury w r tier count swept := by
  induction count generalizing w r tier swept with
  | zero => rfl
  | succ count ih =>
    simp only [sweepTiers, tryTransfer_prepend, emit_prepend, ih, map_bind, bind_map_left,
      except_map_ite]

theorem sweepUnclaimed_prepend {startIndex limit : Nat} :
    sweepUnclaimed h c (prepend earlier w) startIndex limit =
      Prod.map (prepend earlier) id <$> sweepUnclaimed h c w startIndex limit := by
  simp only [sweepUnclaimed, acquireGuard_prepend, sweepTiers_prepend, settleIfAllClaimed_prepend,
    writeRaffle_prepend, except_map_ite, map_bind, bind_map_left, map_pure, Prod.map, id]
  rfl

theorem refundPrize_prepend :
    refundPrize h c (prepend earlier w) = prepend earlier <$> refundPrize h c w := by
  simp only [refundPrize, acquireGuard_prepend, writeRaffle_prepend, tryTransfer_prepend, map_bind,
    bind_map_left, map_pure]
  rfl

theorem markRefunded_prepend {ticketId : Nat} :
    markRefunded (prepend earlier w) ticketId = prepend earlier (markRefunded w ticketId) := rfl

theorem refundTicket_prepend {caller : Address} {ticketId : Nat} :
    refundTicket h c (prepend earlier w) caller ticketId =
      Prod.map (prepend earlier) id <$> refundTicket h c w caller ticketId := by
  simp only [refundTicket, acquireGuard_prepend, markRefunded_prepend, tryTransfer_prepend,
    map_bind, bind_map_left, map_pure]
  rfl

theorem refundBatch_prepend {mayRefund : Ticket → Bool} {recipient : Ticket → Address}
    {published : Ticket → Event} {ids : List Nat} {total : Int} :
    refundBatch h r mayRefund recipient published (prepend earlier w) ids total =
      Prod.map (prepend earlier) id <$>
        refundBatch h r mayRefund recipient published w ids total := by
  induction ids generalizing w total with
  | nil => rfl
  | cons ticketId rest ih =>
    simp only [refundBatch, markRefunded_prepend, tryTransfer_prepend, emit_prepend, ih, map_bind,
      bind_map_left, except_map_ite]
    rfl

theorem batchRefundTickets_prepend {caller : Address} {ids : List Nat} :
    batchRefundTickets h c (prepend earlier w) caller ids =
      Prod.map (prepend earlier) id <$> batchRefundTickets h c w caller ids := by
  simp only [batchRefundTickets, acquireGuard_prepend, refundBatch_prepend, map_bind,
    bind_map_left]
  rfl

theorem batchRefundTicketsOwned_prepend {owner : Address} {ids : List Nat} :
    batchRefundTicketsOwned h c (prepend earlier w) owner ids =
      Prod.map (prepend earlier) id <$> batchRefundTicketsOwned h c w owner ids := by
  simp only [batchRefundTicketsOwned, acquireGuard_prepend, refundBatch_prepend, map_bind,
    bind_map_left]
  rfl

theorem depositPrize_prepend :
    depositPrize h c (prepend earlier w) = prepend earlier <$> depositPrize h c w := by
  simp only [depositPrize, tryTransfer_prepend, transitionStatus_prepend, map_bind, bind_map_left,
    map_pure]
  rfl

theorem cancelNow_prepend {reason : CancelReason} :
    cancelNow c (prepend earlier w) r reason = prepend earlier <$> cancelNow c w r reason := by
  simp only [cancelNow, transitionStatus_prepend, map_bind, bind_map_left, map_pure]
  rfl

theorem cancelRaffle_prepend {reason : CancelReason} :
    cancelRaffle h c (prepend earlier w) reason =
      prepend earlier <$> cancelRaffle h c w reason := by
  simp only [cancelRaffle, scheduleCancel, cancelNow_prepend, except_map_ite, map_bind, map_pure]
  rfl

theorem executeAdminCancel_prepend :
    executeAdminCancel c (prepend earlier w) = prepend earlier <$> executeAdminCancel c w := by
  have hclosed (cancelAt : Option Nat) :
      ({ prepend earlier w with pendingAdminCancel := cancelAt } : World) =
        prepend earlier { w with pendingAdminCancel := cancelAt } := rfl
  simp only [executeAdminCancel, hclosed, cancelNow_prepend, map_bind]
  rfl

theorem withdrawFees_prepend {recipient : Address} {amount : Int} :
    withdrawFees h c (prepend earlier w) recipient amount =
      prepend earlier <$> withdrawFees h c w recipient amount := by
  simp only [withdrawFees, transfer_prepend, map_bind, bind_map_left, map_pure]
  rfl

theorem rescueTokens_prepend {token recipient : Address} {amount : Int} :
    rescueTokens h c (prepend earlier w) token recipient amount =
      prepend earlier <$> rescueTokens h c w token recipient amount := by
  simp only [rescueTokens, tryTransfer_prepend, map_bind, bind_map_left, map_pure]
  rfl

theorem sweepDust_prepend :
    sweepDust h c (prepend earlier w) = prepend earlier <$> sweepDust h c w := by
  simp only [sweepDust, tryTransfer_prepend, except_map_ite, map_bind, bind_map_left, map_pure]
  rfl

theorem emergencyWithdraw_prepend {caller : Address} :
    emergencyWithdraw h c (prepend earlier w) caller =
      prepend earlier <$> emergencyWithdraw h c w caller := by
  simp only [emergencyWithdraw, transitionStatus_prepend, transfer_prepend, map_bind,
    bind_map_left, map_pure, Prod.map, id]
  rfl

theorem fst_prepend {α : Type} (value : Result (World × α)) :
    Prod.fst <$> Prod.map (prepend earlier) id <$> value =
      prepend earlier <$> Prod.fst <$> value := by
  cases value <;> rfl

theorem invoke_prepend (earlier : List Transfer) (i : Invocation) (w : World) :
    invoke h i (prepend earlier w) = prepend earlier <$> invoke h i w := by
  obtain ⟨c, call⟩ := i
  cases call with
  | depositPrize => exact depositPrize_prepend
  | buyTickets => exact (congrArg _ buyTickets_prepend).trans (fst_prepend _)
  | buyTicketsFor => exact (congrArg _ buyTicketsFor_prepend).trans (fst_prepend _)
  | submitCommit => exact submitCommit_prepend
  | finalizeRaffle => exact finalizeRaffle_prepend
  | provideRandomness => exact provideRandomness_prepend
  | provideQuorumRandomness => exact provideQuorumRandomness_prepend
  | triggerRandomnessFallback => exact triggerRandomnessFallback_prepend
  | claimPrize => exact (congrArg _ claimPrize_prepend).trans (fst_prepend _)
  | sweepUnclaimed => exact (congrArg _ sweepUnclaimed_prepend).trans (fst_prepend _)
  | withdrawFees => exact withdrawFees_prepend
  | cancelRaffle => exact cancelRaffle_prepend
  | executeAdminCancel => exact executeAdminCancel_prepend
  | refundPrize => exact refundPrize_prepend
  | emergencyWithdraw => exact emergencyWithdraw_prepend
  | refundTicket => exact (congrArg _ refundTicket_prepend).trans (fst_prepend _)
  | batchRefundTickets => exact (congrArg _ batchRefundTickets_prepend).trans (fst_prepend _)
  | batchRefundTicketsOwned =>
    exact (congrArg _ batchRefundTicketsOwned_prepend).trans (fst_prepend _)
  | rescueTokens => exact rescueTokens_prepend
  | sweepDust => exact sweepDust_prepend
  | extendTtl =>
    simp only [invoke, extendTtl, map_bind, map_pure]
    rfl
  | tokenTransfer =>
    simp only [invoke, tokenTransfer, transfer_prepend, map_bind]
  | _ =>
    simp only [invoke, wipeStorage, pause, unpause, pauseTicketSales, resumeTicketSales,
      setTicketSalesPaused, updateOracleAddress, setProtocolFeeBp, setSwapDeadline,
      updateMetadataHash, map_bind, map_pure]
    rfl

/-- Two worlds that differ in their logs by transfers made outside at most. -/
structure Alike (w v : World) : Prop where
  fields : w = { v with transfers := w.transfers }
  log : w.transfers.filter (·.purpose ≠ .outside) = v.transfers.filter (·.purpose ≠ .outside)

theorem Alike.refl (w : World) : Alike w w := ⟨rfl, rfl⟩

theorem Alike.raffle {v : World} (halike : Alike w v) : w.raffle = v.raffle := by
  rw [halike.fields]

theorem Alike.symm {v : World} (halike : Alike w v) : Alike v w :=
  ⟨by rw [halike.fields], halike.log.symm⟩

theorem Alike.step {v v' : World} {i : Invocation} (halike : Alike w v)
    (hok : invoke h i v = .ok v') : ∃ w', invoke h i w = .ok w' ∧ Alike w' v' := by
  let bare : World := { v with transfers := [] }
  have hlog (ts : List Transfer) : { v with transfers := ts } = prepend ts bare := by
    simp only [prepend, bare, List.append_nil]
  have hv : v = prepend v.transfers bare := hlog v.transfers
  have hw : w = prepend w.transfers bare := halike.fields.trans (hlog w.transfers)
  rw [hv, invoke_prepend] at hok
  obtain ⟨bare', hbare, rfl⟩ := except_map_ok.mp hok
  refine ⟨prepend w.transfers bare', ?_, rfl, ?_⟩
  · rw [hw, invoke_prepend]
    exact except_map_ok.mpr ⟨bare', hbare, by rw [← hw]⟩
  · simp only [prepend, List.filter_append, halike.log]

end TikkaRaffle.Escrow
