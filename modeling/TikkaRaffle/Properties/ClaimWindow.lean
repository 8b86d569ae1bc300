import Mathlib.Data.Rat.Floor
import TikkaRaffle.Escrow.Margin
import TikkaRaffle.Escrow.Obligations
import TikkaRaffle.Escrow.Terms
import TikkaRaffle.Properties.Deadline
import TikkaRaffle.Properties.Gifts

/-! The winner's exclusive window. Claims open at the lockup and sweeps at the
expiry, which initialisation keeps apart; in between a recorded winner is paid
the tier less the rounded-up fee, as long as the fee counter has room. -/
namespace TikkaRaffle.Properties

open TikkaRaffle.Lib TikkaRaffle.Instance TikkaRaffle.Escrow

def claimCharge (r : Raffle) (amount : Int) : Int := ⌈(amount * r.protocolFeeBp : ℚ) / 10000⌉

/-- A claim that the recorded winner of an open tier with a positive amount
signs, with the funds at hand. -/
structure Claimable (h : Host) (c : Ctx) (w : World) (r : Raffle) (winner : Address)
    (tier : Nat) (amount : Int) : Prop where
  signed : winner ∈ c.auths ∧ winner ≠ h.self
  recorded : r.winners[tier]? = some ⟨winner, false⟩
  priced : calculateTierPrize h.tierReading r tier = .ok amount
  positive : 0 < amount
  covered : amount ≤ w.balance r.prizeToken h.self

/-- Claims fail before the lockup has passed, sweeps before the expiry; in
between claims are paid, and there is a time in between. -/
structure ClaimWindow (h : Host) (w : World) (r : Raffle) (finalizedAt : Nat) : Prop where
  opens : finalizedAt + r.claimLockupSeconds < finalizedAt + r.claimExpirySeconds
  locked : ∀ c winner tier, c.timestamp < finalizedAt + r.claimLockupSeconds →
    ∃ e, claimPrize h c w winner tier = .error e
  unswept : ∀ c start limit, finalizedAt + r.claimLockupSeconds ≤ c.timestamp →
    c.timestamp < finalizedAt + r.claimExpirySeconds →
      (∃ e, invoke h ⟨c, .sweepUnclaimed start limit⟩ w = .error e) ∧
        (machine h).exec w ⟨c, .sweepUnclaimed start limit⟩ = w
  paid : ∀ c winner tier amount, finalizedAt + r.claimLockupSeconds ≤ c.timestamp →
    c.timestamp < finalizedAt + r.claimExpirySeconds → Claimable h c w r winner tier amount →
      (0 < claimCharge r amount → fitsI128 (w.accumulatedFees.getD 0 + claimCharge r amount)) →
        ∃ w', claimPrize h c w winner tier = .ok (w', amount) ∧
          w'.transfers = w.transfers ++
            payoutTransfers h.self r winner tier (amount - claimCharge r amount) ++
            feeTransfers h.self r (.claimFee tier) (claimCharge r amount)

variable {h : Host} {c : Ctx} {w : World} {r : Raffle}

theorem claimCharge_eq (r : Raffle) (amount : Int) :
    claimCharge r amount = (amount * r.protocolFeeBp + 9999) / 10000 := by
  have hceil := Rat.ceil_intCast_div_natCast (amount * r.protocolFeeBp) 10000
  push_cast at hceil
  rw [claimCharge, hceil]
  omega

theorem claimFee_some (ht : Terms r) {amount : Int} (hpos : 0 < amount)
    (hle : amount ≤ r.prizeAmount) : claimFee r amount = .ok (claimCharge r amount) := by
  have hprize : r.prizeAmount ≤ 1000000000000000000000 := ht.prize_le
  have hscaled := scaled_bounds hpos.le ht.feeBp_le
  simp only [claimFee, except_bind_ok, checkedI128_ok, except_pure_ok]
  refine ⟨_, ⟨fits_of_bounds ?_ ?_, rfl⟩, _, ⟨fits_of_bounds ?_ ?_, rfl⟩, ?_⟩
  · simp only [i128Min]
    omega
  · omega
  · simp only [i128Min]
    omega
  · omega
  · rw [claimCharge_eq, Int.tdiv_eq_ediv_of_nonneg (by omega)]

theorem claimCharge_bounds (ht : Terms r) {amount : Int} (hpos : 0 < amount) :
    0 ≤ claimCharge r amount ∧ claimCharge r amount ≤ amount := by
  have hscaled := scaled_bounds hpos.le ht.feeBp_le
  rw [claimCharge_eq]
  omega

theorem amount_le_prize (ht : Terms r) {tier : Nat} {amount : Int}
    (hpriced : calculateTierPrize h.tierReading r tier = .ok amount) (hpos : 0 < amount) :
    amount ≤ r.prizeAmount := by
  have htier : tier ∈ Finset.range r.prizes.length := by
    simp only [calculateTierPrize, except_bind_ok, ensure_ok, exists_const] at hpriced
    exact Finset.mem_range.mpr hpriced.2.1
  have hwithin : tierAmount h.tierReading r tier ≤
      ∑ i ∈ Finset.range r.prizes.length, tierAmount h.tierReading r i :=
    Finset.single_le_sum (fun i _ => tierAmount_nonneg) htier
  rw [tierAmount_ok hpriced hpos] at hwithin
  exact hwithin.trans (sum_tierAmount_le h.tierReading ht)

theorem requireLockupOver_some {finalizedAt : Nat} (hfinalizedAt : r.finalizedAt = some finalizedAt)
    (htime : finalizedAt + r.claimLockupSeconds ≤ c.timestamp)
    (hfits : finalizedAt + r.claimLockupSeconds < 2 ^ 64) : requireLockupOver c r = .ok () := by
  simp only [requireLockupOver, hfinalizedAt, trapU64, if_pos hfits, ensure, if_pos htime, bind,
    Except.bind]

theorem claimPrize_locked {winner : Address} {tier finalizedAt : Nat} (hr : w.raffle = some r)
    (hfinalizedAt : r.finalizedAt = some finalizedAt)
    (htime : c.timestamp < finalizedAt + r.claimLockupSeconds) :
    ∃ e, claimPrize h c w winner tier = .error e := by
  cases hclaim : claimPrize h c w winner tier with
  | error e => exact ⟨e, rfl⟩
  | ok result =>
    simp only [claimPrize, except_bind_ok, readRaffle_ok, hr, Option.some.injEq, exists_eq_left',
      requireLockupOver, hfinalizedAt, trapU64_ok, ensure_ok, exists_const] at hclaim
    obtain ⟨-, -, -, -, -, ⟨opens, ⟨-, rfl⟩, hopen⟩, -⟩ := hclaim
    omega

theorem sweepUnclaimed_early {start limit finalizedAt : Nat} (hr : w.raffle = some r)
    (hfinalizedAt : r.finalizedAt = some finalizedAt)
    (htime : c.timestamp < finalizedAt + r.claimExpirySeconds) :
    ∃ e, invoke h ⟨c, .sweepUnclaimed start limit⟩ w = .error e := by
  cases hsweep : invoke h ⟨c, .sweepUnclaimed start limit⟩ w with
  | error e => exact ⟨e, rfl⟩
  | ok w' =>
    simp only [invoke, except_map_ok, Prod.exists, sweepUnclaimed, except_bind_ok, readRaffle_ok,
      hr, Option.some.injEq, exists_eq_left', okOr_ok, hfinalizedAt, trapU64_ok, ensure_ok,
      exists_const] at hsweep
    obtain ⟨_, _, ⟨-, -, -, -, expires, ⟨-, rfl⟩, hexpired, -⟩, -⟩ := hsweep
    omega

theorem settledRaffle_kept (r : Raffle) : (settledRaffle r).paymentToken = r.paymentToken ∧
    (settledRaffle r).prizeToken = r.prizeToken ∧
    (settledRaffle r).treasuryAddress = r.treasuryAddress := by
  unfold settledRaffle
  split <;> exact ⟨rfl, rfl, rfl⟩

theorem payWinner_some (winner : Address) (tier : Nat) {net : Int}
    (htoken : r.prizeToken = r.paymentToken) (hcovered : net ≤ w.balance r.prizeToken h.self) :
    ∃ w', payWinner h w r winner tier net = .ok w' ∧
      w'.transfers = w.transfers ++ payoutTransfers h.self r winner tier net ∧
      w'.accumulatedFees = w.accumulatedFees ∧
      (winner ≠ h.self → 0 ≤ net →
        w'.balance r.prizeToken h.self = w.balance r.prizeToken h.self - net) := by
  unfold payWinner payoutTransfers
  by_cases hpos : 0 < net
  · rw [if_pos hpos, if_pos hpos, tryTransfer, if_pos ⟨hpos.le, hcovered⟩, htoken]
    refine ⟨_, rfl, rfl, rfl, fun hne _ => ?_⟩
    change moveBalance w.balance r.paymentToken h.self winner net r.paymentToken h.self = _
    rw [moveBalance_self]
    simp [inflow, hne]
    omega
  · rw [if_neg hpos, if_neg hpos]
    exact ⟨w, rfl, by simp, rfl, fun _ _ => by omega⟩

theorem collectFee_some (purpose : Purpose) {fee : Int} (htoken : r.prizeToken = r.paymentToken)
    (hcovered : fee ≤ w.balance r.prizeToken h.self)
    (hroom : 0 < fee → fitsI128 (w.accumulatedFees.getD 0 + fee)) :
    ∃ w', collectFee h w r purpose r.prizeToken fee = .ok w' ∧
      w'.transfers = w.transfers ++ feeTransfers h.self r purpose fee := by
  unfold collectFee feeTransfers payTreasury
  by_cases hpos : 0 < fee
  · rw [if_pos hpos, if_pos hpos, htoken]
    rw [htoken] at hcovered
    cases r.treasuryAddress with
    | none =>
      simp only [bind, Except.bind, trapI128, if_pos (hroom hpos)]
      exact ⟨_, rfl, by simp⟩
    | some treasury =>
      simp only [transfer, if_pos (show transferAllowed w r.paymentToken h.self fee from
        ⟨hpos.le, hcovered⟩), bind, Except.bind]
      have hroom' : fitsI128 ((applyTransfer w purpose r.paymentToken h.self treasury
          fee).accumulatedFees.getD 0 + fee) := hroom hpos
      rw [trapI128, if_pos hroom']
      exact ⟨_, rfl, rfl⟩
  · rw [if_neg hpos, if_neg hpos]
    exact ⟨w, rfl, by simp⟩

theorem claimPrize_some {winner : Address} {tier finalizedAt : Nat} {amount : Int}
    (hl : Lifecycle (view h w r)) (hfree : w.reentrancyGuard = none) (hr : w.raffle = some r)
    (hfinalized : r.status = .finalized) (hfinalizedAt : r.finalizedAt = some finalizedAt)
    (hfits : finalizedAt + r.claimLockupSeconds < 2 ^ 64)
    (htime : finalizedAt + r.claimLockupSeconds ≤ c.timestamp)
    (hclaimable : Claimable h c w r winner tier amount)
    (hroom : 0 < claimCharge r amount →
      fitsI128 (w.accumulatedFees.getD 0 + claimCharge r amount)) :
    ∃ w', claimPrize h c w winner tier = .ok (w', amount) ∧
      w'.transfers = w.transfers ++
        payoutTransfers h.self r winner tier (amount - claimCharge r amount) ++
        feeTransfers h.self r (.claimFee tier) (claimCharge r amount) := by
  obtain ⟨hsigned, hrecorded, hpriced, hpos, hcovered⟩ := hclaimable
  have ht : Terms r := hl.terms
  obtain ⟨hfee, hwithin⟩ := claimCharge_bounds ht hpos
  obtain ⟨htier, -⟩ := List.getElem?_eq_some_iff.mp hrecorded
  have hlocked : requireLockupOver c r = .ok () :=
    requireLockupOver_some hfinalizedAt htime hfits
  have hcharge := claimFee_some ht hpos (amount_le_prize ht hpriced hpos)
  have hnet : fitsI128 (amount - claimCharge r amount) := by
    have hprize := amount_le_prize ht hpriced hpos
    have hlimit : r.prizeAmount ≤ 1000000000000000000000 := ht.prize_le
    apply fits_of_bounds
    · simp only [i128Min]
      omega
    · omega
  have hmarked : (r.claimTier tier).status = .finalized := hfinalized
  obtain ⟨w₁, hsettle, -, hbalance, htransfers, hfees⟩ :=
    settleIfAllClaimed_some w hmarked c.timestamp
  obtain ⟨hpayment, hprize, htreasury⟩ := settledRaffle_kept (r.claimTier tier)
  generalize settledRaffle (r.claimTier tier) = r₁ at hsettle hpayment hprize htreasury
  have htoken : r₁.prizeToken = r₁.paymentToken := by
    rw [hprize, hpayment]
    exact ht.token
  have hheld :
      (writeRaffle w₁ r₁).balance r₁.prizeToken h.self = w.balance r.prizeToken h.self := by
    rw [hprize]
    exact congrFun (congrFun hbalance _) _
  have hfunds :
      amount - claimCharge r amount ≤ (writeRaffle w₁ r₁).balance r₁.prizeToken h.self := by
    omega
  obtain ⟨w₂, hpay, hpaid, hkept, hleft⟩ := payWinner_some winner tier htoken hfunds
  have hrest : claimCharge r amount ≤ w₂.balance r₁.prizeToken h.self := by
    rw [hleft hsigned.2 (by omega), hheld]
    omega
  have hcounter : 0 < claimCharge r amount →
      fitsI128 (w₂.accumulatedFees.getD 0 + claimCharge r amount) := by
    rw [hkept]
    exact hfees ▸ hroom
  obtain ⟨w₃, hcollect, hcollected⟩ := collectFee_some (.claimFee tier) htoken hrest hcounter
  have hsplit : w₃.transfers = w.transfers ++
      payoutTransfers h.self r winner tier (amount - claimCharge r amount) ++
      feeTransfers h.self r (.claimFee tier) (claimCharge r amount) := by
    rw [hcollected, hpaid, payoutTransfers, payoutTransfers, feeTransfers, feeTransfers, hpayment,
      htreasury]
    exact congrArg (fun log => log ++ _ ++ _) htransfers
  refine ⟨emit w₃ (.prizeClaimed winner tier r₁.prizeToken amount (amount - claimCharge r amount)
    (claimCharge r amount) c.timestamp), ?_, hsplit⟩
  simp only [claimPrize, except_bind_ok, requireAuth_ok, readRaffle_ok, hr, Option.some.injEq,
    exists_eq_left', ensure_ok, okOr_ok, checkedI128_ok, Prod.exists, except_pure_ok,
    Prod.mk.injEq, exists_const]
  exact ⟨hsigned, _, acquireGuard_some hfree, hfinalized, (), hlocked, htier, _, hrecorded, rfl,
    rfl, amount, hpriced, hpos, _, hcharge, _, ⟨hnet, rfl⟩, hcovered, w₁, r₁, hsettle, w₂, hpay, w₃,
    hcollect, rfl, rfl⟩

/-- A claim with a fee needs room in the counter. -/
theorem claimPrize_room {w' : World} {winner : Address} {tier : Nat} {amount paid : Int}
    (ht : Terms r) (hr : w.raffle = some r)
    (hpriced : calculateTierPrize h.tierReading r tier = .ok amount)
    (hok : claimPrize h c w winner tier = .ok (w', paid)) (hfee : 0 < claimCharge r amount) :
    fitsI128 (w.accumulatedFees.getD 0 + claimCharge r amount) := by
  simp only [claimPrize, except_bind_ok, readRaffle_ok, hr, Option.some.injEq, exists_eq_left',
    ensure_ok, hpriced, Except.ok.injEq, Prod.exists, except_pure_ok, Prod.mk.injEq,
    exists_const] at hok
  obtain ⟨_, -, _, -, hfinalized, _, -, -, entry, -, -, -, hpos, fee, hclaimFee, net,
    -, -, w₁, r₁, hsettle, w₂, hpay, w₃, hcollect, -, -⟩ := hok
  rw [claimFee_some ht hpos (amount_le_prize ht hpriced hpos)] at hclaimFee
  cases hclaimFee
  have hmarked : (r.claimTier tier).status = .finalized := hfinalized
  obtain ⟨_, hsettled, -, -, -, hsame⟩ := settleIfAllClaimed_some w hmarked c.timestamp
  rw [hsettled] at hsettle
  cases hsettle
  have hpaid : w₂.accumulatedFees = w.accumulatedFees := by
    unfold payWinner at hpay
    split at hpay
    next =>
      obtain ⟨-, rfl⟩ := tryTransfer_ok.mp hpay
      exact hsame
    next =>
      cases hpay
      exact hsame
  rw [collectFee, if_pos hfee] at hcollect
  simp only [except_bind_ok, trapI128_ok] at hcollect
  obtain ⟨w₄, htreasury, _, ⟨hroom, -⟩, -⟩ := hcollect
  have hkept : w₄.accumulatedFees = w₂.accumulatedFees := by
    unfold payTreasury at htreasury
    split at htreasury
    next =>
      obtain ⟨-, rfl⟩ := transfer_ok.mp htreasury
      rfl
    next =>
      cases htreasury
      rfl
  rwa [hkept, hpaid] at hroom

/-- In every reachable finalized state the window between lockup and expiry is
the winners'. -/
theorem claim_window {w₀ : World} (hinit : Initialised h w₀) (calls : List Invocation)
    (hr : ((machine h).run w₀ calls).raffle = some r) (hfinalized : r.status = .finalized)
    {finalizedAt : Nat} (hfinalizedAt : r.finalizedAt = some finalizedAt)
    (hfits : finalizedAt + r.claimLockupSeconds < 2 ^ 64) :
    ClaimWindow h ((machine h).run w₀ calls) r finalizedAt where
  opens := Nat.add_lt_add_left (bounded_run hinit calls hr).lockup_lt finalizedAt
  locked _ _ _ htime := claimPrize_locked hr hfinalizedAt htime
  unswept _ _ _ _ htime := by
    obtain ⟨e, hearly⟩ := sweepUnclaimed_early hr hfinalizedAt htime
    exact ⟨⟨e, hearly⟩, (machine h).exec_error hearly⟩
  paid _ _ _ _ htime _ hclaimable hroom :=
    claimPrize_some ((lifecycle_always hinit calls).last.view hr) (guard_free hinit calls).last hr
      hfinalized hfinalizedAt hfits htime hclaimable hroom

/-- The fee on the prize, 1002.0501, is rounded up. -/
def oddConfig : RaffleConfig := { Sample.config with prizeAmount := 20001, protocolFeeBp := 501 }

theorem claim_window_awaitingRun :
    ∃ r, r ∈ (Sample.after .ifElse oddConfig Sample.awaitingRun).raffle ∧
      ClaimWindow (Sample.host .ifElse) (Sample.after .ifElse oddConfig Sample.awaitingRun) r
        1000 ∧
      ∃ w', claimPrize (Sample.host .ifElse) (Sample.ctx 5000 4 [Sample.buyer])
          (Sample.after .ifElse oddConfig Sample.awaitingRun) Sample.buyer 0 = .ok (w', 20001) ∧
        w'.transfers = (Sample.after .ifElse oddConfig Sample.awaitingRun).transfers ++
          payoutTransfers Sample.self r Sample.buyer 0 18998 ++
          feeTransfers Sample.self r (.claimFee 0) 1003 := by
  have hsome : ∃ r, r ∈ (Sample.after .ifElse oddConfig Sample.awaitingRun).raffle ∧
      r.status = .finalized ∧ r.finalizedAt = some 1000 ∧ r.claimLockupSeconds = 3600 ∧
      r.claimExpirySeconds = 2592000 ∧ r.protocolFeeBp = 501 ∧
      r.winners[0]? = some ⟨Sample.buyer, false⟩ ∧
      calculateTierPrize .ifElse r 0 = .ok 20001 ∧
      20001 ≤ (Sample.after .ifElse oddConfig Sample.awaitingRun).balance r.prizeToken
        Sample.self ∧
      fitsI128 ((Sample.after .ifElse oddConfig Sample.awaitingRun).accumulatedFees.getD 0 +
        1003) := by
    decide +kernel
  obtain ⟨r, hr, hfinalized, hfinalizedAt, hlockup, hexpiry, hbp, hrecorded, hpriced, hcovered,
    hroom⟩ := hsome
  have hwindow := claim_window (Sample.start_initialised (by decide +kernel)) Sample.awaitingRun hr
    hfinalized hfinalizedAt (by rw [hlockup]; decide)
  have hcharge : claimCharge r 20001 = 1003 := by
    rw [claimCharge_eq, hbp]
    rfl
  obtain ⟨w', hok, hpaid⟩ := hwindow.paid (Sample.ctx 5000 4 [Sample.buyer]) Sample.buyer 0 20001
    (by rw [hlockup]; decide) (by rw [hexpiry]; decide)
    ⟨by decide, hrecorded, hpriced, by decide, hcovered⟩ (fun _ => by rw [hcharge]; exact hroom)
  rw [hcharge] at hpaid
  exact ⟨r, hr, hwindow, w', hok, hpaid⟩

/-- Ten thousand of these just fit into the counter. -/
def ceilingFee : Int := 17014118346046923173168730371588410

def ceilingConfig : RaffleConfig :=
  { Sample.config with
    maxTickets := 20000
    protocolFeeBp := 10000
    treasuryAddress := some Sample.buyer
    bundles := [⟨1, ceilingFee⟩] }

def ceilingHoldings (token holder : Address) : Nat :=
  if holder = Sample.buyer then ceilingFee.toNat else Sample.holdings token holder

def ceilingStart : World :=
  match init (Sample.host .ifElse) (Sample.ctx 0 0 []) (World.deployed ceilingHoldings)
    Sample.factory Sample.admin Sample.creator ceilingConfig with
  | .ok w => w
  | .error _ => World.deployed ceilingHoldings

def ceilingBuy : Invocation := Sample.signed [Sample.buyer] 2 2 (.buyTickets Sample.buyer 1)

def ceilingRun (n : Nat) : List Invocation :=
  Sample.signed [Sample.creator] 1 1 .depositPrize :: List.replicate n ceilingBuy

def ceilingRaffle (n : Nat) : Raffle :=
  { initialRaffle Sample.creator (resolveTicketCap ceilingConfig.resolveDefaults)
      Constants.defaultClaimLockupSeconds Constants.defaultClaimExpirySeconds
      Constants.defaultSwapDeadlineSeconds with
    prizeDeposited := true
    status := .active
    ticketsSold := n }

/-- `n` tickets are sold, the fees kept come to `n` charges and the buyer has
the price of the next one. -/
structure Saturated (n : Nat) (w : World) : Prop where
  stored : w.raffle = some (ceilingRaffle n)
  fees : w.accumulatedFees.getD 0 = n * ceilingFee
  funds : w.balance Sample.token Sample.buyer = ceilingFee
  held : w.balance Sample.token Sample.self = 20000
  owned : ∀ i owner, getTicketOwner w i = some owner → owner = Sample.buyer
  running : w.paused.getD false = false
  factory : w.factory = some Sample.factory

theorem ceilingStart_initialised : Initialised (Sample.host .ifElse) ceilingStart :=
  ⟨Sample.ctx 0 0 [], ceilingHoldings, Sample.factory, Sample.admin, Sample.creator,
    ceilingConfig, rfl⟩

theorem saturated_zero :
    Saturated 0 ((machine (Sample.host .ifElse)).run ceilingStart (ceilingRun 0)) where
  stored := rfl
  fees := by decide +kernel
  funds := by decide +kernel
  held := by decide +kernel
  owned i owner howner := by cases howner
  running := by decide +kernel
  factory := by decide +kernel

section Purchase

variable {n : Nat} {w' : World}

theorem quote_ceiling (n : Nat) : ∃ quote, calculateBuyQuote (ceilingRaffle n) 1 = .ok quote ∧
    quote.netToPay = ceilingFee ∧ quote.fee = ceilingFee := by
  refine ⟨_, rfl, rfl, ?_⟩
  change (ceilingFee * 10000).tdiv 10000 = ceilingFee
  decide

theorem checks_saturated (hn : n < 10000) (hs : Saturated n w)
    (hfree : w.reentrancyGuard = none) (hunlocked : w.drawingLock.getD false = false) :
    saleChecks ceilingBuy.ctx w (ceilingRaffle n) Sample.buyer 1 = .ok () := by
  have hroom : n + 1 < 2 ^ 32 := by omega
  have hsupply : n + 1 ≤ 20000 := by omega
  have hopen : ¬1000 ≤ ceilingBuy.ctx.timestamp := by decide
  simp only [saleChecks, validatePurchasePreconditions, requireNotPaused,
    requireGlobalNotPaused, checkCaps, except_bind_ok, ensure_ok, okOr_ok, checkedU32_ok,
    exists_const, hs.factory, hs.running]
  exact ⟨⟨_, acquireGuard_some hfree, hunlocked, by decide, Nat.le_add_left 1 2, trivial,
    ⟨_, rfl, _, rfl, rfl⟩, rfl, rfl, rfl, fun hpast => hopen hpast.2⟩, _, ⟨hroom, rfl⟩, hsupply,
    fun hcap => Bool.noConfusion hcap.2.1, rfl⟩

theorem stopsAt_saturated (hn : n < 10000) (hs : Saturated n w) :
    stopsAt (Sample.host .ifElse) ceilingBuy.ctx w (ceilingRaffle n) Sample.buyer ceilingFee
      ceilingFee = none := by
  have hpays : transferAllowed w (ceilingRaffle n).paymentToken Sample.buyer ceilingFee :=
    ⟨by decide, hs.funds.ge⟩
  have hroom : ¬FeeRefused (ceilingRaffle n) (w.accumulatedFees.getD 0)
      (w.balance (ceilingRaffle n).paymentToken (Sample.host .ifElse).self + ceilingFee)
        ceilingFee := by
    rintro ⟨-, ⟨-, hshort⟩ | hfull⟩
    · change w.balance Sample.token Sample.self + ceilingFee < ceilingFee at hshort
      rw [hs.held] at hshort
      omega
    · refine hfull ?_
      rw [hs.fees]
      simp only [fitsI128, i128Min, i128Max, ceilingFee]
      omega
  rw [stopsAt, if_neg (not_not.mpr hpays), if_neg hroom]
  rfl

theorem buy_saturated (hn : n < 10000) (hs : Saturated n w)
    (hchecks : saleChecks ceilingBuy.ctx w (ceilingRaffle n) Sample.buyer 1 = .ok ())
    (hsale : OnSale w (ceilingRaffle n) Sample.buyer 1) :
    ∃ w', invoke (Sample.host .ifElse) ceilingBuy w = .ok w' ∧
      tender w' = tender (feeCollected (Sample.host .ifElse) (applyTransfer w .ticketPayment
        Sample.token Sample.buyer Sample.self ceilingFee) (ceilingRaffle n) ceilingFee) := by
  have hbuyer : Sample.buyer ≠ (Sample.host .ifElse).self := by decide
  obtain ⟨quote, hquote, hnet, hfee⟩ := quote_ceiling n
  obtain ⟨abort, habort, -⟩ | ⟨-, ⟨w', sold⟩, hcompleted⟩ := completePurchase_outcome
    (h := Sample.host .ifElse) (c := ceilingBuy.ctx) hsale hbuyer ceilingFee ceilingFee
  · rw [stopsAt_saturated hn hs] at habort
    cases habort
  · refine ⟨w', ?_, completePurchase_tender hcompleted⟩
    change Prod.fst <$> buyTickets (Sample.host .ifElse) ceilingBuy.ctx w Sample.buyer 1 = _
    rw [buyTickets_checked ⟨by decide, hbuyer⟩ hs.stored, hchecks, hquote]
    simp only [bind, Except.bind, hnet, hfee, hcompleted]
    rfl

theorem bought {h : Host} {b b' : Books} {order : Order} (hm : Move h (.buy order) b b')
    (hmore : b.raffle.ticketsSold + order.quantity < b.raffle.maxTickets) :
    ∃ total fee time, order.Priced b.raffle total fee ∧
      b' = b.sell h.self order total fee time := by
  cases hm with
  | buy _ _ total fee time hsale => exact ⟨total, fee, time, hsale.priced, rfl⟩
  | sellOut _ _ _ _ _ _ _ hsupply => omega

theorem balance_recycled (htender : tender w' = tender (feeCollected (Sample.host .ifElse)
    (applyTransfer w .ticketPayment Sample.token Sample.buyer Sample.self ceilingFee)
      (ceilingRaffle n) ceilingFee)) (holder : Address) :
    w'.balance Sample.token holder = w.balance Sample.token holder := by
  have hmoved := congrFun (congrFun (congrArg Prod.fst htender) Sample.token) holder
  rw [feeCollected, if_pos (by decide)] at hmoved
  change w'.balance Sample.token holder = moveBalance (moveBalance w.balance Sample.token
    Sample.buyer Sample.self ceilingFee) Sample.token Sample.self Sample.buyer ceilingFee
      Sample.token holder at hmoved
  rw [hmoved]
  simp only [moveBalance, if_true]
  omega

theorem saturated_next (hn : n < 10000) (hs : Saturated n w)
    (hl : Lifecycle (view (Sample.host .ifElse) w (ceilingRaffle n)))
    (hok : invoke (Sample.host .ifElse) ceilingBuy w = .ok w')
    (htender : tender w' = tender (feeCollected (Sample.host .ifElse)
      (applyTransfer w .ticketPayment Sample.token Sample.buyer Sample.self ceilingFee)
        (ceilingRaffle n) ceilingFee)) : Saturated (n + 1) w' := by
  obtain ⟨r', acts, hr', rfl, hpath⟩ := committed_path_from ⟨_, hs.stored, hl⟩ hs.stored hok
  have hmore : n + 1 < 20000 := by omega
  obtain ⟨total, fee, time, hpriced, hsold⟩ := bought hpath.of_single hmore
  have hfee : fee = ceilingFee := by
    obtain ⟨quote, hquote, -, hfee⟩ := quote_ceiling n
    obtain ⟨quote', hquote', -, rfl⟩ := hpriced
    obtain rfl : quote = quote' := Except.ok.inj (hquote.symm.trans hquote')
    exact hfee
  exact {
    stored := by
      rw [hr']
      exact congrArg (fun b => some b.raffle) hsold
    fees := by
      have hbooked : w'.accumulatedFees.getD 0 = w.accumulatedFees.getD 0 + max fee 0 :=
        congrArg Books.fees hsold
      rw [hbooked, hs.fees, hfee, max_eq_left (by decide)]
      push_cast
      ring
    funds := (balance_recycled htender _).trans hs.funds
    held := (balance_recycled htender _).trans hs.held
    owned := by
      intro i owner howner
      have hticket : w'.ticket i = if n < i ∧ i ≤ n + 1 then
          some ⟨i, Sample.buyer, time, i, Sample.buyer, 10000⟩ else w.ticket i :=
        congrFun (congrArg Books.ticket hsold) i
      rw [getTicketOwner, hticket] at howner
      split at howner
      next =>
        cases howner
        rfl
      next => exact hs.owned i owner howner
    running := by
      have hpaused : w'.paused = w.paused := congrArg (fun keys => keys.2.1) htender
      rw [hpaused]
      exact hs.running
    factory := by
      have hfactory : w'.factory = w.factory := congrArg (fun keys => keys.2.2) htender
      rw [hfactory]
      exact hs.factory }

end Purchase

theorem saturated_run {n : Nat} (hn : n ≤ 10000) :
    Saturated n ((machine (Sample.host .ifElse)).run ceilingStart (ceilingRun n)) := by
  induction n with
  | zero => exact saturated_zero
  | succ n ih =>
    have hs := ih (Nat.le_of_succ_le hn)
    obtain ⟨hl, hk⟩ := (drawKeys_always ceilingStart_initialised (ceilingRun n)).last.view hs.stored
    have hchecks := checks_saturated hn hs (guard_free ceilingStart_initialised (ceilingRun n)).last
      (hk.idle (.inr rfl)).1
    obtain ⟨w', hok, htender⟩ := buy_saturated hn hs hchecks
      (onSale_of_checks ceilingStart_initialised (ceilingRun n) hs.stored hchecks)
    have hexec : (machine (Sample.host .ifElse)).exec
        ((machine (Sample.host .ifElse)).run ceilingStart (ceilingRun n)) ceilingBuy = w' :=
      (machine (Sample.host .ifElse)).exec_ok hok
    rw [ceilingRun, List.replicate_succ', ← List.cons_append, Machine.run_append,
      Machine.run_cons, Machine.run_nil]
    exact hexec ▸ saturated_next hn hs hl hok htender

def ceilingClose : Invocation := Sample.signed [Sample.creator] 1000 3 .finalizeRaffle

def closedRaffle (n : Nat) : Raffle :=
  (((ceilingRaffle n).setWinners [Sample.buyer]).setFinalizedAt 1000).setStatus .finalized

theorem saturated_closed {n : Nat} (hpos : 0 < n) (hn : n ≤ 10000) : ∃ w',
    (machine (Sample.host .ifElse)).run ceilingStart (ceilingRun n ++ [ceilingClose]) = w' ∧
      w'.raffle = some (closedRaffle n) ∧ w'.accumulatedFees.getD 0 = n * ceilingFee ∧
      w'.balance Sample.token Sample.self = 20000 := by
  have hs := saturated_run hn
  obtain ⟨hl, hk, ht⟩ :=
    (saleBooks_always ceilingStart_initialised (ceilingRun n)).last.view hs.stored
  have hcloses : ClosesSale (Sample.host .ifElse) ceilingClose.ctx (ceilingRaffle n) :=
    ⟨rfl, .inl rfl, ⟨rfl, le_rfl⟩, List.mem_singleton_self Sample.creator, nofun⟩
  have henough : ¬Short (ceilingRaffle n) := by
    change ¬(n = 0 ∨ n < 1)
    omega
  have htiers : 1 ≤ n := hpos
  obtain ⟨w', hok, -⟩ := (resolves_of_books hs.stored hl hk ht hcloses).drawn henough htiers rfl
  obtain ⟨w₁, seed, ⟨hticket, hfees, hbalance⟩, -, hdraw⟩ :=
    finalizeRaffle_draws hs.stored (hk.idle (.inr rfl)).1 hcloses henough
  obtain ⟨hpurse, winners, hlength, hwon, hraffle⟩ :=
    doFinalizeWithSeed_leaves (hdraw.symm.trans hok)
  have hwinners : winners = [Sample.buyer] := by
    obtain ⟨owner, rfl⟩ := List.length_eq_one_iff.mp hlength
    obtain ⟨ticketId, howner⟩ := hwon owner (List.mem_singleton_self owner)
    rw [getTicketOwner, hticket] at howner
    rw [hs.owned ticketId owner howner]
  have hexec : (machine (Sample.host .ifElse)).exec
      ((machine (Sample.host .ifElse)).run ceilingStart (ceilingRun n)) ceilingClose = w' :=
    (machine (Sample.host .ifElse)).exec_ok hok
  refine ⟨w', ?_, ?_, ?_, ?_⟩
  · rw [Machine.run_append, Machine.run_cons, Machine.run_nil]
    exact hexec
  · rw [hraffle, hwinners]
    rfl
  · have hkept : w'.accumulatedFees = w₁.accumulatedFees := congrArg Prod.fst hpurse
    rw [hkept, hfees, hs.fees]
  · have hkept : w'.balance = w₁.balance := congrArg Prod.snd hpurse
    rw [hkept, hbalance, hs.held]

/-- The counter is full: the winner's claim traps in the middle of the window. -/
theorem full_counter_blocks_claim :
    Initialised (Sample.host .ifElse) ceilingStart ∧
    ∃ w r, (machine (Sample.host .ifElse)).run ceilingStart
        (ceilingRun 10000 ++ [ceilingClose]) = w ∧ w.raffle = some r ∧ r.status = .finalized ∧
      r.finalizedAt = some 1000 ∧ 1000 + r.claimLockupSeconds ≤ 5000 ∧
      5000 < 1000 + r.claimExpirySeconds ∧
      Claimable (Sample.host .ifElse) (Sample.ctx 5000 4 [Sample.buyer]) w r Sample.buyer 0 20000 ∧
      ∃ e, claimPrize (Sample.host .ifElse) (Sample.ctx 5000 4 [Sample.buyer]) w Sample.buyer 0 =
        .error e := by
  obtain ⟨w, hrun, hr, hfees, hheld⟩ := saturated_closed (n := 10000) (by decide) le_rfl
  have hclaimable : Claimable (Sample.host .ifElse) (Sample.ctx 5000 4 [Sample.buyer]) w
      (closedRaffle 10000) Sample.buyer 0 20000 :=
    ⟨by decide, rfl, rfl, by decide, hheld.ge⟩
  refine ⟨ceilingStart_initialised, w, closedRaffle 10000, hrun, hr, rfl, rfl, by decide, by decide,
    hclaimable, ?_⟩
  cases hclaim : claimPrize (Sample.host .ifElse) (Sample.ctx 5000 4 [Sample.buyer]) w
      Sample.buyer 0 with
  | error e => exact ⟨e, rfl⟩
  | ok result =>
    obtain ⟨w', paid⟩ := result
    have hl := (lifecycle_always ceilingStart_initialised (ceilingRun 10000 ++ [ceilingClose])).last
    rw [hrun] at hl
    have ht : Terms (closedRaffle 10000) := (hl.view hr).terms
    have hcharge : claimCharge (closedRaffle 10000) 20000 = 20000 := by
      rw [claimCharge_eq]
      rfl
    have hpos : 0 < claimCharge (closedRaffle 10000) 20000 := by
      rw [hcharge]
      decide
    have hroom := claimPrize_room ht hr hclaimable.priced hclaim hpos
    rw [hcharge, hfees] at hroom
    exact absurd hroom (by decide)

end TikkaRaffle.Properties
