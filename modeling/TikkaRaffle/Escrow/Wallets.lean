import TikkaRaffle.Escrow.Drawing
import TikkaRaffle.Lib.Ledger

/-! Whose balances a call can take from. Every token movement of an entry point
comes out of the raffle itself or out of an account that signed the call. -/
namespace TikkaRaffle.Escrow

open TikkaRaffle.Lib TikkaRaffle.Instance

def mayDebit (h : Host) (c : Ctx) (a : Address) : Prop := a = h.self ∨ a ∈ c.auths

/-- The balances change by covered postings out of these accounts only. -/
def Debits (h : Host) (c : Ctx) (w w' : World) : Prop :=
  Ledger.Postings (mayDebit h c) w.balance w'.balance

variable {h : Host} {c : Ctx} {w w₁ w' : World} {r r' : Raffle}

namespace Debits

theorem same (hbalance : w'.balance = w.balance) : Debits h c w w' := by
  rw [Debits, hbalance]

theorem trans (hfirst : Debits h c w w₁) (hlast : Debits h c w₁ w') : Debits h c w w' :=
  Relation.ReflTransGen.trans hfirst hlast

theorem paid {token source target : Address} {amount : Int} (hsource : mayDebit h c source)
    (hallowed : transferAllowed w₁ token source amount) (hbefore : w₁.balance = w.balance)
    (hafter : w'.balance = moveBalance w₁.balance token source target amount) :
    Debits h c w w' := by
  rw [Debits, hafter, ← hbefore]
  exact .single ⟨token, source, target, amount, hsource, hallowed.1, hallowed.2, rfl⟩

theorem paidOut {token target : Address} {amount : Int}
    (hallowed : transferAllowed w₁ token h.self amount) (hbefore : w₁.balance = w.balance)
    (hafter : w'.balance = moveBalance w₁.balance token h.self target amount) :
    Debits h c w w' :=
  paid (.inl rfl) hallowed hbefore hafter

end Debits

theorem clearQuorumStorage_balance (w : World) : (clearQuorumStorage w).balance = w.balance := by
  rw [clearQuorumStorage_eq]

theorem bumpRaffleTtl_balance (w : World) (total : Nat) :
    (bumpRaffleTtl w total).balance = w.balance := by
  obtain ⟨index, hindex⟩ := bumpRaffleTtl_writes w total
  rw [hindex]

theorem notifyFactory_balance {holder : Address} {total : Int}
    (hok : notifyFactory c w r holder total = .ok w') : w'.balance = w.balance := by
  obtain ⟨calls, rfl⟩ := notifyFactory_writes hok
  rfl

theorem recordLeaderboard_balance (hok : recordLeaderboard h c w r = .ok w') :
    w'.balance = w.balance := by
  obtain ⟨calls, rfl⟩ := recordLeaderboard_writes hok
  rfl

theorem settleIfAllClaimed_balance {time : Nat}
    (hok : settleIfAllClaimed w r time = .ok (w', r')) : w'.balance = w.balance := by
  unfold settleIfAllClaimed at hok
  split at hok
  next =>
    obtain ⟨-, rfl, -⟩ := transitionStatus_ok.mp hok
    rfl
  next =>
    cases hok
    rfl

theorem transitionToDrawing_balance {time : Nat}
    (hok : transitionToDrawing w r time = .ok (w', r')) : w'.balance = w.balance := by
  obtain ⟨-, -, rfl, -⟩ := transitionToDrawing_ok.mp hok
  rfl

theorem startSoldOutDraw_balance {holder : Address}
    (hok : startSoldOutDraw h c w r holder = .ok (w', r')) : w'.balance = w.balance := by
  rcases startSoldOutDraw_cases hok with ⟨-, rfl, -⟩ | ⟨-, w₁, hdrawing, hdrawn⟩
  · rfl
  have hstarted := transitionToDrawing_balance hdrawing
  rcases hdrawn with ⟨-, rfl⟩ | ⟨-, w₂, _, _, _, hrequest, -, -, rfl⟩
  · exact hstarted
  · obtain ⟨-, rfl⟩ := requestRandomness_writes hrequest
    exact hstarted

theorem announceRequest_balance (r : Raffle) (oracles : List Address) (requestId : Nat) :
    (announceRequest c w r oracles requestId).balance = w.balance := by
  have hfold (w : World) : (oracles.foldl (fun w oracle =>
      emit w (.randomnessRequested oracle requestId c.timestamp)) w).balance = w.balance := by
    induction oracles generalizing w with
    | nil => rfl
    | cons oracle rest ih => exact ih _
  exact hfold _

theorem requestForDraw_balance {status : RaffleStatus} {oracles : List Address}
    (hok : requestForDraw h c w r status oracles = .ok w') : w'.balance = w.balance := by
  obtain ⟨w₁, requestId, hrequest, rfl⟩ := requestForDraw_writes hok
  obtain ⟨-, rfl⟩ := requestRandomness_writes hrequest
  exact announceRequest_balance ..

theorem doFinalizeWithSeed_balance {seed : Nat} {kind : RandomnessType}
    {contributions : Option (List (Address × Nat))}
    (hok : doFinalizeWithSeed h c w r seed kind contributions = .ok w') :
    w'.balance = w.balance := by
  obtain ⟨-, -, _, _, _, _, w₁, -, -, hboard, rfl⟩ := doFinalizeWithSeed_cases hok
  rw [bumpRaffleTtl_balance, recordLeaderboard_balance hboard]
  exact clearQuorumStorage_balance _

theorem Debits.drawn {seed : Nat} {kind : RandomnessType}
    {contributions : Option (List (Address × Nat))}
    (hok : doFinalizeWithSeed h c w₁ r seed kind contributions = .ok w')
    (hbefore : w₁.balance = w.balance) : Debits h c w w' :=
  .same ((doFinalizeWithSeed_balance hok).trans hbefore)

theorem cancelNow_balance {reason : CancelReason} (hok : cancelNow c w r reason = .ok w') :
    w'.balance = w.balance := by
  simp [cancelNow] at hok
  obtain ⟨-, -, rfl⟩ := hok
  rfl

theorem payTreasury_debits {purpose : Purpose} {token : Address} {fee : Int}
    (hok : payTreasury h w r purpose token fee = .ok w') : Debits h c w w' := by
  unfold payTreasury at hok
  split at hok
  next treasury =>
    obtain ⟨hallowed, rfl⟩ := transfer_ok.mp hok
    exact .paidOut hallowed rfl rfl
  next =>
    cases hok
    exact .same rfl

theorem collectFee_debits {purpose : Purpose} {token : Address} {fee : Int}
    (hok : collectFee h w r purpose token fee = .ok w') : Debits h c w w' := by
  unfold collectFee at hok
  split at hok
  next =>
    simp only [except_bind_ok, trapI128_ok, except_pure_ok] at hok
    obtain ⟨w₁, hpaid, _, -, rfl⟩ := hok
    exact (payTreasury_debits hpaid).trans (.same rfl)
  next =>
    cases hok
    exact .same rfl

theorem completePurchase_debits {buyer holder : Address} {quantity n : Nat} {total fee : Int}
    (hbuyer : buyer ∈ c.auths)
    (hok : completePurchase h c w r buyer holder quantity total fee = .ok (w', n)) :
    Debits h c w w' := by
  simp only [completePurchase, except_bind_ok, tryTransfer_ok, checkedU32_ok, Prod.exists,
    except_pure_ok, Prod.mk.injEq] at hok
  obtain ⟨_, -, w₁, ⟨hallowed, rfl⟩, w₂, hfee, w₃, ids, hissue, _, -, _, -, w₄, r₄, hdraw, w₅,
    hnotify, rfl, -⟩ := hok
  obtain ⟨rfl, -⟩ := issueTickets_ok hissue
  obtain ⟨buyers, hbuyers⟩ := recordBuyer_writes w₂ holder ((w.ticketCount holder).getD 0)
  have hpaid : Debits h c w w₂ := (Debits.paid (.inr hbuyer) hallowed rfl rfl).trans
    (collectFee_debits hfee)
  refine hpaid.trans (.same ?_)
  rw [bumpRaffleTtl_balance, notifyFactory_balance hnotify]
  have hdrawn := startSoldOutDraw_balance hdraw
  rw [hbuyers] at hdrawn
  exact hdrawn

theorem payWinner_debits {winner : Address} {tier : Nat} {net : Int}
    (hok : payWinner h w r winner tier net = .ok w') : Debits h c w w' := by
  unfold payWinner at hok
  split at hok
  next =>
    obtain ⟨hallowed, rfl⟩ := tryTransfer_ok.mp hok
    exact .paidOut hallowed rfl rfl
  next =>
    cases hok
    exact .same rfl

theorem sweepTiers_debits {treasury : Address} {tier count swept n : Nat}
    (hok : sweepTiers h c treasury w r tier count swept = .ok (w', r', n)) : Debits h c w w' := by
  induction count generalizing w r tier swept with
  | zero =>
    cases hok
    exact .same rfl
  | succ count ih =>
    simp only [sweepTiers, except_bind_ok, okOr_ok] at hok
    obtain ⟨entry, -, hok⟩ := hok
    split at hok
    next => exact ih hok
    next =>
      obtain ⟨amount, -, hok⟩ := (except_bind_ok ..).mp hok
      split at hok
      next => exact ih hok
      next =>
        simp only [except_bind_ok, tryTransfer_ok] at hok
        obtain ⟨w₁, ⟨hallowed, rfl⟩, hrest⟩ := hok
        refine .trans ?_ (ih hrest)
        exact .paidOut hallowed rfl rfl

theorem refundBatch_debits {mayRefund : Ticket → Bool} {recipient : Ticket → Address}
    {published : Ticket → Event} {ids : List Nat} {total paid : Int}
    (hok : refundBatch h r mayRefund recipient published w ids total = .ok (w', paid)) :
    Debits h c w w' := by
  induction ids generalizing w total with
  | nil =>
    cases hok
    exact .same rfl
  | cons ticketId rest ih =>
    simp only [refundBatch, except_bind_ok, okOr_ok, ensure_ok, exists_const] at hok
    obtain ⟨ticket, -, -, hok⟩ := hok
    split at hok
    next => exact ih hok
    next =>
      simp only [except_bind_ok, tryTransfer_ok, checkedI128_ok] at hok
      obtain ⟨w₁, ⟨hallowed, rfl⟩, _, -, hrest⟩ := hok
      refine .trans ?_ (ih hrest)
      exact .paidOut hallowed rfl rfl

theorem depositPrize_debits (hok : depositPrize h c w = .ok w') : Debits h c w w' := by
  simp only [depositPrize, except_bind_ok, ensure_ok, requireAuth_ok, exists_const, tryTransfer_ok,
    Prod.exists, transitionStatus_ok, except_pure_ok] at hok
  obtain ⟨_, -, r, -, ⟨hsigned, -⟩, -, w₁, ⟨hallowed, rfl⟩, _, _, ⟨-, rfl, rfl⟩, rfl⟩ := hok
  exact .paid (.inr hsigned) hallowed rfl rfl

theorem buyTickets_debits {buyer : Address} {quantity n : Nat}
    (hok : buyTickets h c w buyer quantity = .ok (w', n)) : Debits h c w w' := by
  simp only [buyTickets, except_bind_ok, requireAuth_ok] at hok
  obtain ⟨_, ⟨hsigned, -⟩, r, -, _, -, _, -, quote, -, hpurchase⟩ := hok
  exact completePurchase_debits hsigned hpurchase

theorem buyTicketsFor_debits {buyer recipient : Address} {quantity n : Nat}
    (hok : buyTicketsFor h c w buyer recipient quantity = .ok (w', n)) : Debits h c w w' := by
  simp only [buyTicketsFor, except_bind_ok, ensure_ok, requireAuth_ok, exists_const] at hok
  obtain ⟨_, -, -, -, r, -, -, ⟨hsigned, -⟩, _, -, _, -, -, -, -, -, _, -, total, -, fee, -,
    hpurchase⟩ := hok
  exact completePurchase_debits hsigned hpurchase

theorem finalizeRaffle_debits (hok : finalizeRaffle h c w = .ok w') : Debits h c w w' := by
  simp only [finalizeRaffle, except_bind_ok, ensure_ok, requireAuth_ok, exists_const] at hok
  obtain ⟨-, r, -, -, -, -, hok⟩ := hok
  split at hok
  next =>
    obtain ⟨-, rfl⟩ := failRaffle_ok.mp hok
    exact .same rfl
  next =>
    simp only [except_bind_ok, Prod.exists] at hok
    obtain ⟨w₁, r₁, hdrawing, hok⟩ := hok
    have hstarted : Debits h c w w₁ := .same (transitionToDrawing_balance hdrawing)
    split at hok
    next =>
      simp only [except_bind_ok, except_pure_ok] at hok
      obtain ⟨w₂, hrequest, rfl⟩ := hok
      have hasked := requestForDraw_balance hrequest
      exact hstarted.trans (.same hasked)
    next => exact hstarted.trans (.same (requestForDraw_balance hok))
    next => exact hstarted.trans (.drawn hok rfl)

theorem provideRandomness_debits {randomSeed requestId : Nat} {publicKey : Digest}
    {proof : Signature}
    (hok : provideRandomness h c w randomSeed publicKey proof requestId = .ok w') :
    Debits h c w w' := by
  simp only [provideRandomness, except_bind_ok, ensure_ok, exists_const] at hok
  obtain ⟨-, r, -, hok⟩ := hok
  split at hok
  next => cases hok
  next =>
    simp only [except_bind_ok, ensure_ok, requireAuth_ok, exists_const] at hok
    obtain ⟨oracle, -, -, -, -, _, -, -, _, -, -, -, hok⟩ := hok
    split at hok
    next => exact .drawn hok rfl
    next => cases hok

theorem provideQuorumRandomness_debits {oracle : Address} {randomSeed requestId : Nat}
    (hok : provideQuorumRandomness h c w oracle randomSeed requestId = .ok w') :
    Debits h c w w' := by
  simp only [provideQuorumRandomness, except_bind_ok, ensure_ok, requireAuth_ok,
    exists_const] at hok
  obtain ⟨-, -, r, -, _, -, -, hok⟩ := hok
  split at hok
  next =>
    simp only [except_bind_ok, ensure_ok, exists_const] at hok
    obtain ⟨-, -, hok⟩ := hok
    split at hok
    next => exact .drawn hok rfl
    next =>
      cases hok
      exact .same rfl
  next => cases hok

theorem triggerRandomnessFallback_debits {caller : Address} {doRefund : Bool}
    (hok : triggerRandomnessFallback h c w caller doRefund = .ok w') : Debits h c w w' := by
  simp only [triggerRandomnessFallback, except_bind_ok, ensure_ok, requireAuth_ok,
    exists_const] at hok
  obtain ⟨-, -, r, -, admin, -, -, -, -, _, -, -, hok⟩ := hok
  split at hok
  next =>
    simp only [except_bind_ok, Prod.exists, transitionStatus_ok, except_pure_ok] at hok
    obtain ⟨_, _, ⟨-, rfl, rfl⟩, rfl⟩ := hok
    exact .same rfl
  next => exact .drawn hok rfl

theorem claimPrize_debits {winner : Address} {tier : Nat} {paid : Int}
    (hok : claimPrize h c w winner tier = .ok (w', paid)) : Debits h c w w' := by
  simp only [claimPrize, except_bind_ok, ensure_ok, requireAuth_ok, exists_const, Prod.exists,
    except_pure_ok, Prod.mk.injEq] at hok
  obtain ⟨-, _, -, r, -, -, _, -, -, entry, -, -, -, amount, -, -, fee, -, net, -, -, w₁, r₁,
    hsettle, w₂, hpay, w₃, hcollect, rfl, -⟩ := hok
  have hsettled := settleIfAllClaimed_balance hsettle
  have hmarked : Debits h c w (writeRaffle w₁ r₁) := .same hsettled
  have hpaid := hmarked.trans (payWinner_debits hpay)
  have hcollected : Debits h c w w₃ := hpaid.trans (collectFee_debits hcollect)
  exact hcollected.trans (.same rfl)

theorem sweepUnclaimed_debits {startIndex limit n : Nat}
    (hok : sweepUnclaimed h c w startIndex limit = .ok (w', n)) : Debits h c w w' := by
  simp only [sweepUnclaimed, except_bind_ok, ensure_ok, exists_const] at hok
  obtain ⟨_, -, r, -, -, -, _, -, _, -, -, treasury, -, hok⟩ := hok
  split at hok
  next =>
    cases hok
    exact .same rfl
  next =>
    simp only [except_bind_ok, Prod.exists, except_pure_ok, Prod.mk.injEq] at hok
    obtain ⟨w₁, r₁, swept, hsweep, w₂, r₂, hsettle, rfl, -⟩ := hok
    have hsettled := settleIfAllClaimed_balance hsettle
    exact (sweepTiers_debits hsweep).trans (.same hsettled)

theorem refundPrize_debits (hok : refundPrize h c w = .ok w') : Debits h c w w' := by
  simp only [refundPrize, except_bind_ok, ensure_ok, requireAuth_ok, exists_const, tryTransfer_ok,
    except_pure_ok] at hok
  obtain ⟨_, -, r, -, -, -, -, w₁, ⟨hallowed, rfl⟩, rfl⟩ := hok
  exact .paidOut hallowed rfl rfl

theorem refundTicket_debits {caller : Address} {ticketId : Nat} {paid : Int}
    (hok : refundTicket h c w caller ticketId = .ok (w', paid)) : Debits h c w w' := by
  simp only [refundTicket, except_bind_ok, ensure_ok, requireAuth_ok, exists_const, tryTransfer_ok,
    except_pure_ok, Prod.mk.injEq] at hok
  obtain ⟨r, -, -, _, -, ticket, -, -, -, w₁, ⟨hallowed, rfl⟩, rfl, -⟩ := hok
  exact .paidOut hallowed rfl rfl

theorem batchRefundTickets_debits {caller : Address} {ids : List Nat} {paid : Int}
    (hok : batchRefundTickets h c w caller ids = .ok (w', paid)) : Debits h c w w' := by
  simp only [batchRefundTickets, except_bind_ok, ensure_ok, requireAuth_ok, exists_const] at hok
  obtain ⟨r, -, -, _, -, -, hrefund⟩ := hok
  exact refundBatch_debits hrefund

theorem batchRefundTicketsOwned_debits {owner : Address} {ids : List Nat} {paid : Int}
    (hok : batchRefundTicketsOwned h c w owner ids = .ok (w', paid)) : Debits h c w w' := by
  simp only [batchRefundTicketsOwned, except_bind_ok, ensure_ok, requireAuth_ok,
    exists_const] at hok
  obtain ⟨-, r, -, -, _, -, hrefund⟩ := hok
  exact refundBatch_debits hrefund

theorem withdrawFees_debits {recipient : Address} {amount : Int}
    (hok : withdrawFees h c w recipient amount = .ok w') : Debits h c w w' := by
  simp only [withdrawFees, except_bind_ok, ensure_ok, exists_const, transfer_ok,
    except_pure_ok] at hok
  obtain ⟨_, -, r, -, -, -, -, w₁, ⟨hallowed, rfl⟩, _, -, rfl⟩ := hok
  exact .paidOut hallowed rfl rfl

theorem rescueTokens_debits {token recipient : Address} {amount : Int}
    (hok : rescueTokens h c w token recipient amount = .ok w') : Debits h c w w' := by
  simp only [rescueTokens, except_bind_ok, ensure_ok, exists_const, tryTransfer_ok,
    except_pure_ok] at hok
  obtain ⟨_, -, -, _, -, w₁, ⟨hallowed, rfl⟩, rfl⟩ := hok
  exact .paidOut hallowed rfl rfl

theorem sweepDust_debits (hok : sweepDust h c w = .ok w') : Debits h c w w' := by
  simp only [sweepDust, except_bind_ok, ensure_ok, exists_const] at hok
  obtain ⟨_, -, r, -, -, -, treasury, -, _, -, -, dust, -, hok⟩ := hok
  split at hok
  next =>
    simp only [except_bind_ok, tryTransfer_ok, except_pure_ok] at hok
    obtain ⟨w₁, ⟨hallowed, rfl⟩, rfl⟩ := hok
    exact .paidOut hallowed rfl rfl
  next =>
    cases hok
    exact .same rfl

theorem emergencyWithdraw_debits {caller : Address}
    (hok : emergencyWithdraw h c w caller = .ok w') : Debits h c w w' := by
  simp only [emergencyWithdraw, except_bind_ok, ensure_ok, requireAuth_ok, exists_const,
    Prod.exists, transitionStatus_ok, transfer_ok, except_pure_ok] at hok
  obtain ⟨-, r, -, -, admin, -, -, -, _, -, _, -, -, _, -, _, -, -, _, _, ⟨-, rfl, rfl⟩, w₁,
    ⟨hallowed, rfl⟩, rfl⟩ := hok
  exact .paidOut hallowed rfl rfl

theorem cancelRaffle_debits {reason : CancelReason} (hok : cancelRaffle h c w reason = .ok w') :
    Debits h c w w' := by
  simp only [cancelRaffle, except_bind_ok] at hok
  obtain ⟨r, -, hok⟩ := hok
  split at hok
  next =>
    simp [scheduleCancel] at hok
    obtain ⟨admin, -, -, -, rfl⟩ := hok
    exact .same rfl
  next =>
    simp only [except_bind_ok, requireAuth_ok, exists_const] at hok
    exact .same (cancelNow_balance hok.2)

theorem executeAdminCancel_debits (hok : executeAdminCancel c w = .ok w') : Debits h c w w' := by
  simp only [executeAdminCancel, except_bind_ok, ensure_ok, exists_const] at hok
  obtain ⟨r, -, cancelAt, -, -, hok⟩ := hok
  have hkept := cancelNow_balance hok
  exact .same hkept

theorem tokenTransfer_debits {token source target : Address} {amount : Int}
    (hok : tokenTransfer h c w token source target amount = .ok w') : Debits h c w w' := by
  simp only [tokenTransfer, except_bind_ok, requireAuth_ok, exists_const, transfer_ok] at hok
  obtain ⟨⟨hsigned, -⟩, hallowed, rfl⟩ := hok
  exact .paid (.inr hsigned) hallowed rfl rfl

def Call.still : Instance.Call → Bool
  | .submitCommit .. | .pause | .unpause | .pauseTicketSales _ | .resumeTicketSales _
  | .updateOracleAddress _ | .setProtocolFeeBp _ | .setSwapDeadline _ | .updateMetadataHash _
  | .extendTtl .. | .wipeStorage => true
  | _ => false

theorem invoke_still {i : Invocation} (hstill : Call.still i.call = true)
    (hok : invoke h i w = .ok w') : w'.balance = w.balance := by
  obtain ⟨c, call⟩ := i
  cases call with
  | submitCommit =>
    simp only [invoke, submitCommit, except_bind_ok, except_pure_ok] at hok
    obtain ⟨_, -, _, -, _, -, _, -, _, -, _, -, _, -, _, -, rfl⟩ := hok
    rfl
  | pause | unpause =>
    simp only [invoke, pause, unpause, except_bind_ok, except_pure_ok] at hok
    obtain ⟨_, -, _, -, rfl⟩ := hok
    rfl
  | pauseTicketSales | resumeTicketSales =>
    simp only [invoke, pauseTicketSales, resumeTicketSales, setTicketSalesPaused, except_bind_ok,
      except_pure_ok] at hok
    obtain ⟨_, -, _, -, _, -, _, -, _, -, rfl⟩ := hok
    rfl
  | updateOracleAddress =>
    simp only [invoke, updateOracleAddress, except_bind_ok, except_pure_ok] at hok
    obtain ⟨_, -, _, -, _, -, _, -, _, -, rfl⟩ := hok
    rfl
  | setProtocolFeeBp | setSwapDeadline =>
    simp only [invoke, setProtocolFeeBp, setSwapDeadline, except_bind_ok, except_pure_ok] at hok
    obtain ⟨_, -, _, -, _, -, _, -, rfl⟩ := hok
    rfl
  | updateMetadataHash =>
    simp only [invoke, updateMetadataHash, except_bind_ok, except_pure_ok] at hok
    obtain ⟨_, -, _, -, rfl⟩ := hok
    rfl
  | extendTtl =>
    simp only [invoke, extendTtl, except_map_ok, except_bind_ok, except_pure_ok] at hok
    obtain ⟨_, ⟨_, -, rfl⟩, rfl⟩ := hok
    rfl
  | wipeStorage =>
    simp only [invoke, wipeStorage, except_bind_ok, except_pure_ok] at hok
    obtain ⟨_, -, _, -, _, -, _, -, _, -, _, -, rfl⟩ := hok
    rfl
  | _ => cases hstill

/-- Every committed call takes from the raffle and from its signers only. -/
theorem invoke_debits {i : Invocation} (hok : invoke h i w = .ok w') : Debits h i.ctx w w' := by
  by_cases hstill : Call.still i.call = true
  · exact .same (invoke_still hstill hok)
  obtain ⟨c, call⟩ := i
  cases call with
  | depositPrize => exact depositPrize_debits hok
  | buyTickets =>
    obtain ⟨⟨_, _⟩, hcall, rfl⟩ := except_map_ok.mp hok
    exact buyTickets_debits hcall
  | buyTicketsFor =>
    obtain ⟨⟨_, _⟩, hcall, rfl⟩ := except_map_ok.mp hok
    exact buyTicketsFor_debits hcall
  | finalizeRaffle => exact finalizeRaffle_debits hok
  | provideRandomness => exact provideRandomness_debits hok
  | provideQuorumRandomness => exact provideQuorumRandomness_debits hok
  | triggerRandomnessFallback => exact triggerRandomnessFallback_debits hok
  | claimPrize =>
    obtain ⟨⟨_, _⟩, hcall, rfl⟩ := except_map_ok.mp hok
    exact claimPrize_debits hcall
  | sweepUnclaimed =>
    obtain ⟨⟨_, _⟩, hcall, rfl⟩ := except_map_ok.mp hok
    exact sweepUnclaimed_debits hcall
  | withdrawFees => exact withdrawFees_debits hok
  | cancelRaffle => exact cancelRaffle_debits hok
  | executeAdminCancel => exact executeAdminCancel_debits hok
  | refundPrize => exact refundPrize_debits hok
  | emergencyWithdraw => exact emergencyWithdraw_debits hok
  | refundTicket =>
    obtain ⟨⟨_, _⟩, hcall, rfl⟩ := except_map_ok.mp hok
    exact refundTicket_debits hcall
  | batchRefundTickets =>
    obtain ⟨⟨_, _⟩, hcall, rfl⟩ := except_map_ok.mp hok
    exact batchRefundTickets_debits hcall
  | batchRefundTicketsOwned =>
    obtain ⟨⟨_, _⟩, hcall, rfl⟩ := except_map_ok.mp hok
    exact batchRefundTicketsOwned_debits hcall
  | rescueTokens => exact rescueTokens_debits hok
  | sweepDust => exact sweepDust_debits hok
  | tokenTransfer => exact tokenTransfer_debits hok
  | _ => exact absurd rfl hstill

end TikkaRaffle.Escrow
