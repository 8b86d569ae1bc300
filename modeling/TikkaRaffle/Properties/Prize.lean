import TikkaRaffle.Escrow.Postings
import TikkaRaffle.Escrow.Prices

/-! The prize over whole runs: it is deposited once, it goes back to the
creator or to the winners but never to both, and no more of it leaves than
came in. -/
namespace TikkaRaffle.Properties

open TikkaRaffle.Lib TikkaRaffle.Instance TikkaRaffle.Escrow

variable {h : Host} {w w' : World} {r : Raffle} {b b' : Books} {a : Act} {reading : TierReading}

/-- Payments of a tier: to its winner, the fee on it, or the whole of it to the
treasury. -/
def Purpose.isTierPayment : Purpose → Bool
  | .prizePayout _ | .claimFee _ | .prizeSweep _ => true
  | _ => false

def Purpose.isPrizeReturn : Purpose → Bool
  | .prizeRefund | .emergencyWithdrawal => true
  | _ => false

def tierOutflow (ts : List Transfer) : Int :=
  tally (fun t => Purpose.isTierPayment t.purpose) (·.amount) ts

def returnOutflow (ts : List Transfer) : Int :=
  tally (fun t => Purpose.isPrizeReturn t.purpose) (·.amount) ts

def settles (tier : Nat) : Receipt → Bool
  | .purchase .. => false
  | .claim t .. => t = tier
  | .sweep t _ => t = tier

def Purpose.paysTier (tier : Nat) : Purpose → Bool
  | .prizePayout t | .prizeSweep t => t = tier
  | _ => false

def Returned (r : Raffle) : Prop := Refundable r ∧ r.prizeDeposited = false

structure PrizeBooks (reading : TierReading) (b : Books) : Prop where
  tiers : ∀ tier, b.receipts.countP (settles tier) = if claimedAt b.raffle tier then 1 else 0
  payments : ∀ tier, b.transfers.countP (fun t => Purpose.paysTier tier t.purpose) ≤
    b.receipts.countP (settles tier)
  paid : tierOutflow b.transfers ≤ settledAmount reading b.raffle
  kept : ¬Returned b.raffle → returnOutflow b.transfers = 0
  returned : returnOutflow b.transfers ≤ b.raffle.prizeAmount

theorem returned_stays (hm : Move h a b b') (hr : Returned b.raffle) : Returned b'.raffle := by
  refine ⟨(Hops.move hm).stays returning returning_closed hr.1, ?_⟩
  cases hm with
  | deposit _ hstatus => rcases hr.1 with hs | hs <;> rw [hstatus] at hs <;> cases hs
  | claim _ tier | sweep _ tier =>
    simpa [Books.markTier_raffle, Books.file, Books.addFees, Books.post] using hr.2
  | emergency | returnPrize => rfl
  | _ => exact hr.2

namespace PrizeBooks

theorem of_fresh (hf : Fresh b) : PrizeBooks reading b where
  tiers tier := by simp [hf.receipts, claimedAt_nil hf.winners]
  payments tier := by simp [hf.transfers]
  paid := by
    simp only [hf.transfers]
    exact settledAmount_nonneg reading b.raffle
  kept _ := by simp [hf.transfers, returnOutflow]
  returned := by
    simp only [hf.transfers]
    exact hf.terms.prize_pos.le

theorem of_same (hk : PrizeBooks reading b) (hm : Move h a b b') {self : Address}
    {ts : List Transfer} (hp : Posted self a b b' ts)
    (hother : ∀ purpose, a.posts purpose = true →
      Purpose.isTierPayment purpose = false ∧ Purpose.isPrizeReturn purpose = false)
    (hreceipts : ∀ tier, b'.receipts.countP (settles tier) = b.receipts.countP (settles tier))
    (hclaimed : claimedAt b'.raffle = claimedAt b.raffle) : PrizeBooks reading b' := by
  have hterms := SameTerms.move hm
  have htier : tierOutflow b'.transfers = tierOutflow b.transfers :=
    hp.tally_same fun purpose hpost => (hother purpose hpost).1
  have hreturn : returnOutflow b'.transfers = returnOutflow b.transfers :=
    hp.tally_same fun purpose hpost => (hother purpose hpost).2
  have hamount : settledAmount reading b'.raffle = settledAmount reading b.raffle := by
    simp only [settledAmount, hclaimed, hterms.prizes,
      tierAmount_congr hterms.prizes hterms.prizeAmount]
  refine ⟨fun tier => ?_, fun tier => ?_, ?_, fun hnot => ?_, ?_⟩
  · rw [hreceipts, hclaimed]
    exact hk.tiers tier
  · have hcount := hp.countP_same (p := Purpose.paysTier tier) fun purpose hpost => by
      have hnone := (hother purpose hpost).1
      cases purpose <;> first | rfl | cases hnone
    rw [hreceipts, hcount]
    exact hk.payments tier
  · rw [htier, hamount]
    exact hk.paid
  · rw [hreturn]
    exact hk.kept fun hr => hnot (returned_stays hm hr)
  · rw [hreturn, hterms.prizeAmount]
    exact hk.returned

theorem giveBack (hk : PrizeBooks reading b) {t : Transfer}
    (hpurpose : t.purpose = .prizeRefund ∨ t.purpose = .emergencyWithdrawal)
    (hamount : t.amount = b.raffle.prizeAmount) (hkept : ¬Returned b.raffle)
    (hreceipts : b'.receipts = b.receipts) (htransfers : b'.transfers = b.transfers ++ [t])
    (hwinners : b'.raffle.winners = b.raffle.winners) (hterms : SameTerms b.raffle b'.raffle)
    (hreturned : Returned b'.raffle) : PrizeBooks reading b' := by
  have hclaimed : claimedAt b'.raffle = claimedAt b.raffle := by
    funext tier
    rw [claimedAt, claimedAt, hwinners]
  have hreturn : returnOutflow b'.transfers = b.raffle.prizeAmount := by
    have hnone : tally (fun t => Purpose.isPrizeReturn t.purpose) (·.amount) b.transfers = 0 :=
      hk.kept hkept
    rw [returnOutflow, htransfers, tally_append, hnone]
    rcases hpurpose with hp | hp <;> simp [hp, Purpose.isPrizeReturn, hamount]
  refine ⟨fun tier => ?_, fun tier => ?_, ?_, fun hnot => absurd hreturned hnot, ?_⟩
  · rw [hreceipts, hclaimed]
    exact hk.tiers tier
  · rw [hreceipts, htransfers, List.countP_append]
    have hpaid := hk.payments tier
    rcases hpurpose with hp | hp <;> simpa [hp, Purpose.paysTier] using hpaid
  · have hother : Purpose.isTierPayment t.purpose = false := by
      rcases hpurpose with hp | hp <;> rw [hp] <;> rfl
    have hsame : tierOutflow b'.transfers = tierOutflow b.transfers := by
      simp [tierOutflow, htransfers, hother]
    rw [settledAmount_congr hwinners hterms.prizes hterms.prizeAmount, hsame]
    exact hk.paid
  · rw [hreturn, hterms.prizeAmount]

theorem settleTier (hl : Lifecycle b) (hk : PrizeBooks h.tierReading b) {tier : Nat}
    {winner : Address} {amount : Int} (hpay : Payable h b tier winner amount) (receipt : Receipt)
    (ts : List Transfer) (hsettles : ∀ i, settles i receipt = decide (i = tier))
    (hone : ∀ i, ts.countP (fun t => Purpose.paysTier i t.purpose) ≤ if i = tier then 1 else 0)
    (hpaid : tierOutflow ts ≤ amount) (hreturn : returnOutflow ts = 0)
    (hreceipts : b'.receipts = b.receipts ++ [receipt])
    (htransfers : b'.transfers = b.transfers ++ ts)
    (hraffle : b'.raffle = (b.markTier tier).raffle) : PrizeBooks h.tierReading b' := by
  have hunclaimed := hpay.unclaimedAt
  have hclaimed : ∀ i, claimedAt b'.raffle i = if i = tier then true else claimedAt b.raffle i := by
    intro i
    rw [hraffle]
    exact hpay.claimedAt_markTier i
  have hamount : settledAmount h.tierReading b'.raffle =
      settledAmount h.tierReading b.raffle + amount := by
    rw [hraffle]
    exact hpay.settledAmount_markTier hl
  rw [Books.markTier_raffle] at hraffle
  have hcount : ∀ i, b'.receipts.countP (settles i) =
      b.receipts.countP (settles i) + if i = tier then 1 else 0 := by
    intro i
    rw [hreceipts, List.countP_append, List.countP_singleton, hsettles]
    simp
  have hfinalized : b'.raffle.prizeDeposited = b.raffle.prizeDeposited := by rw [hraffle]; rfl
  have hkept : ¬Returned b.raffle := by
    rintro ⟨hs | hs, -⟩ <;> rw [hpay.finalized] at hs <;> cases hs
  have hnone : returnOutflow b'.transfers = 0 := by
    have hbefore := hk.kept hkept
    simp only [returnOutflow] at hbefore hreturn ⊢
    rw [htransfers, tally_append, hbefore, hreturn, add_zero]
  refine ⟨fun i => ?_, fun i => ?_, ?_, fun _ => hnone, ?_⟩
  · rw [hcount, hclaimed, hk.tiers]
    by_cases hi : i = tier
    · simp [hi, hunclaimed]
    · simp [hi]
  · have hbefore := hk.payments i
    have hnew := hone i
    rw [hcount, htransfers, List.countP_append]
    omega
  · have hbefore := hk.paid
    rw [hamount]
    simp only [tierOutflow] at hbefore hpaid ⊢
    rw [htransfers, tally_append]
    omega
  · rw [hnone, hraffle]
    exact hl.terms.prize_pos.le

theorem claim_outflow (ht : Terms r) {self winner : Address} {tier : Nat} {amount fee : Int}
    (hamount : 0 < amount) (hfee : claimFee r amount = .ok fee) :
    tierOutflow (payoutTransfers self r winner tier (amount - fee) ++
      feeTransfers self r (.claimFee tier) fee) ≤ amount := by
  have hbounds := claimFee_bounds ht hamount hfee
  rw [tierOutflow, tally_append, tally_payoutTransfers, tally_feeTransfers]
  simp only [Purpose.isTierPayment, if_true, true_and]
  split <;> omega

theorem claim_payments {self winner : Address} {tier i : Nat} {net fee : Int} :
    (payoutTransfers self r winner tier net ++ feeTransfers self r (.claimFee tier) fee).countP
      (fun t => Purpose.paysTier i t.purpose) ≤ if i = tier then 1 else 0 := by
  have hfee : (feeTransfers self r (.claimFee tier) fee).countP
      (fun t => Purpose.paysTier i t.purpose) = 0 := by
    apply List.countP_eq_zero.mpr
    intro t ht
    simp [feeTransfers_purpose ht, Purpose.paysTier]
  rw [List.countP_append, hfee, Nat.add_zero, payoutTransfers]
  split
  · by_cases hi : i = tier
    · simp [hi, Purpose.paysTier]
    · have hne : ¬tier = i := fun heq => hi heq.symm
      simp [hi, hne, Purpose.paysTier]
  · simp

theorem claim_return {self winner : Address} {tier : Nat} {net fee : Int} :
    returnOutflow (payoutTransfers self r winner tier net ++
      feeTransfers self r (.claimFee tier) fee) = 0 := by
  rw [returnOutflow, tally_append, tally_payoutTransfers, tally_feeTransfers]
  simp [Purpose.isPrizeReturn]

theorem finish (hl : Lifecycle b) (hk : PrizeBooks reading b) {winners : List Address} {time : Nat}
    (hm : Move h .finish b (((b.enter .finalized).crown winners time).disarm))
    (hstatus : b.raffle.status = .drawing) :
    PrizeBooks reading (((b.enter .finalized).crown winners time).disarm) := by
  obtain ⟨ts, hp⟩ := hm.posted
  refine hk.of_same hm hp (fun purpose hpost => ?_) (fun _ => rfl) ?_
  · cases purpose <;> cases hpost
  · funext tier
    rw [claimedAt_nil (hl.selling (.inr hstatus)).2.1]
    cases hwinner : winners[tier]? <;> simp [claimedAt, Books.crown, Books.disarm, hwinner]

theorem move (hl : Lifecycle b) (hk : PrizeBooks h.tierReading b) (hm : Move h a b b') :
    PrizeBooks h.tierReading b' := by
  have hmove := hm
  have hterms := SameTerms.move hm
  obtain ⟨ts, hp⟩ := hm.posted
  cases hm with
  | emergency _ refunds hstatus =>
    refine hk.giveBack (.inr rfl) rfl ?_ rfl rfl rfl hterms ⟨.inl rfl, rfl⟩
    rintro ⟨hs | hs, -⟩ <;> rw [hstatus] at hs <;> cases hs
  | returnPrize _ hstatus hdeposited =>
    refine hk.giveBack (.inl rfl) rfl ?_ rfl rfl rfl hterms ⟨hstatus, rfl⟩
    rintro ⟨-, hnot⟩
    rw [hdeposited] at hnot
    cases hnot
  | claim _ tier winner amount fee hpay hwinner hfee =>
    refine settleTier hl hk hpay (.claim tier amount (amount - fee) fee)
      (payoutTransfers h.self b.raffle winner tier (amount - fee) ++
        feeTransfers h.self b.raffle (.claimFee tier) fee)
      (fun i => by simp [settles, eq_comm]) (fun i => claim_payments)
      (claim_outflow hl.terms hpay.positive hfee) claim_return ?_ ?_ ?_
    · simp [Books.file, Books.addFees, Books.post]
    · simp [Books.file, Books.addFees, Books.post]
    · simp [Books.markTier_raffle, Books.file, Books.addFees, Books.post]
  | sweep _ tier winner treasury amount hpay =>
    refine settleTier hl hk hpay (.sweep tier amount)
      [⟨.prizeSweep tier, b.raffle.paymentToken, h.self, treasury, amount⟩]
      (fun i => by simp [settles, eq_comm]) (fun i => ?_) ?_ ?_ ?_ ?_ ?_
    · simp [Purpose.paysTier, eq_comm]
    · simp [tierOutflow, Purpose.isTierPayment]
    · simp [returnOutflow, Purpose.isPrizeReturn]
    · simp [Books.file, Books.post]
    · simp [Books.file, Books.post]
    · simp [Books.markTier_raffle, Books.file, Books.post]
  | finish _ winners time hstatus => exact hk.finish hl hmove hstatus
  | buy | sellOut =>
    refine hk.of_same hmove hp (fun purpose hpost => ?_) (fun tier => ?_) rfl
    · cases purpose <;> first | exact ⟨rfl, rfl⟩ | cases hpost
    · simp [Books.sell, Books.enter, Books.arm, settles]
  | _ =>
    refine hk.of_same hmove hp (fun purpose hpost => ?_) (fun _ => rfl) rfl
    cases purpose <;> first | exact ⟨rfl, rfl⟩ | cases hpost

/-- Whatever left, to the creator or to the winners, was covered by the prize. -/
theorem outflow_le (hl : Lifecycle b) (hk : PrizeBooks reading b) :
    tierOutflow b.transfers + returnOutflow b.transfers ≤ b.raffle.prizeAmount := by
  by_cases hr : Returned b.raffle
  · have hnone : settledAmount reading b.raffle = 0 := by
      apply Finset.sum_eq_zero
      intro tier _
      rw [claimedAt_nil (hl.returned hr.1)]
      rfl
    have hpaid := hk.paid
    have hreturned := hk.returned
    omega
  · have hpaid := hk.paid
    have hsettled := settledAmount_le reading hl.terms
    have hkept := hk.kept hr
    omega

end PrizeBooks

def isDeposit : Call → Bool
  | .depositPrize => true
  | _ => false

def isPrizeReturn : Call → Bool
  | .refundPrize | .emergencyWithdraw _ => true
  | _ => false

def isPrizePayment : Call → Bool
  | .claimPrize .. | .sweepUnclaimed .. => true
  | _ => false

def opened (s : RaffleStatus) : Prop := s ≠ .pendingPrize

theorem opened_closed (s t : RaffleStatus) (_ : opened s) (hst : allowed s t) : opened t := by
  rintro rfl
  cases s <;> cases hst

theorem deposit_opens {i : Invocation} (hw : Holds h Lifecycle w)
    (hdeposit : isDeposit i.call = true) (hok : invoke h i w = .ok w') :
    ¬StatusIn opened w ∧ StatusIn opened w' := by
  obtain ⟨r, r', acts, hr, hr', -, hyields, hpath⟩ := committed_path hw hok
  cases hcall : i.call <;> rw [hcall] at hdeposit hyields <;> try cases hdeposit
  cases hyields
  have hmove := hpath.of_single
  generalize hafter : view h w' r' = after at hmove
  cases hmove with
  | deposit _ hstatus =>
    constructor
    · intro hopened
      exact hopened.stored hr hstatus
    · have hactive : r'.status = .active := congrArg (fun b => b.raffle.status) hafter
      exact ⟨r', hr', by simp [opened, hactive]⟩

theorem return_returning {i : Invocation} (hw : Holds h Lifecycle w)
    (hreturn : isPrizeReturn i.call = true) (hok : invoke h i w = .ok w') :
    StatusIn returning w' := by
  obtain ⟨r, r', acts, hr, hr', -, hyields, hpath⟩ := committed_path hw hok
  refine ⟨r', hr', ?_⟩
  have hreturned : Returned (view h w' r').raffle := by
    cases hcall : i.call <;> rw [hcall] at hreturn hyields <;> try cases hreturn
    case refundPrize =>
      cases hyields
      have hmove := hpath.of_single
      generalize view h w' r' = after at hmove ⊢
      cases hmove with
      | returnPrize _ hstatus => exact ⟨hstatus, rfl⟩
    case emergencyWithdraw caller =>
      cases hyields
      have hmove := hpath.of_single
      generalize view h w' r' = after at hmove ⊢
      cases hmove with
      | emergency => exact ⟨.inl rfl, rfl⟩
  exact hreturned.1

theorem payment_paying {i : Invocation} (hw : Holds h Lifecycle w)
    (hpay : isPrizePayment i.call = true) (hok : invoke h i w = .ok w') : StatusIn paying w' := by
  refine StatusIn.step paying_closed hw ?_ hok
  obtain ⟨r, r', acts, hr, -, -, hyields, hpath⟩ := committed_path hw hok
  refine ⟨r, hr, .inl ?_⟩
  cases hcall : i.call <;> rw [hcall] at hpay hyields <;> try cases hpay
  case claimPrize winner tier =>
    cases hyields
    exact hpath.of_single.finalized
  case sweepUnclaimed startIndex limit => exact hyields.1

/-- The prize enters once and leaves at most once: one deposit, one payment per
tier, no more paid out than the prize, and never both a return and a payment. -/
theorem prize_leaves_once (hinit : Initialised h w) (calls : List Invocation) :
    ((machine h).committed w calls).countP (fun i => isDeposit i.call) ≤ 1 ∧
    (∀ tier, (receiptsOf ((machine h).run w calls).events).countP (settles tier) ≤ 1 ∧
      ((machine h).run w calls).transfers.countP (fun t => Purpose.paysTier tier t.purpose) ≤ 1) ∧
    (∃ r, ((machine h).run w calls).raffle = some r ∧
      tierOutflow ((machine h).run w calls).transfers +
        returnOutflow ((machine h).run w calls).transfers ≤ r.prizeAmount) ∧
    ¬((∃ i ∈ (machine h).committed w calls, isPrizeReturn i.call = true) ∧
      ∃ i ∈ (machine h).committed w calls, isPrizePayment i.call = true) := by
  have hstart : Holds h Lifecycle w := initialised_lifecycle hinit
  obtain ⟨r, hr, hl, hk⟩ := (always_of_fresh hinit (fun _ => PrizeBooks.of_fresh)
    (fun _ _ _ => PrizeBooks.move) calls).last
  refine ⟨?_, fun tier => ?_, ⟨r, hr, hk.outflow_le hl⟩, ?_⟩
  · exact Machine.committed_at_most_once (Holds h Lifecycle) (StatusIn opened)
      (fun w i w' hw hok => lifecycle_step hw hok)
      (fun w i w' hw hs hok => hs.step opened_closed hw hok)
      (fun w i w' hw hdeposit hok => (deposit_opens hw hdeposit hok).2)
      (fun w i w' hw hs hdeposit hok => (deposit_opens hw hdeposit hok).1 hs) hstart
  · have hsettled : (receiptsOf ((machine h).run w calls).events).countP (settles tier) ≤ 1 := by
      rw [show (receiptsOf ((machine h).run w calls).events).countP (settles tier) = _ from
        hk.tiers tier]
      split <;> decide
    exact ⟨hsettled, (hk.payments tier).trans hsettled⟩
  · exact Machine.not_both_committed (Holds h Lifecycle) (StatusIn returning) (StatusIn paying)
      (fun w i w' hw hok => lifecycle_step hw hok)
      (fun w i w' hw hs hok => hs.step returning_closed hw hok)
      (fun w i w' hw hs hok => hs.step paying_closed hw hok)
      (fun w i w' hw hreturn hok => return_returning hw hreturn hok)
      (fun w i w' hw hpay hok => payment_paying hw hpay hok)
      (fun w => not_returning_paying) hstart

def tierConfig : RaffleConfig := { Sample.config with prizes := [6000, 4000] }

def tierRun : List Invocation :=
  [Sample.signed [Sample.creator] 1 1 .depositPrize,
    Sample.signed [Sample.creator] 2 2 .depositPrize,
    Sample.signed [Sample.buyer] 3 3 (.buyTickets Sample.buyer 2),
    Sample.signed [Sample.creator] 1000 4 .finalizeRaffle,
    Sample.signed [Sample.buyer] 5000 5 (.claimPrize Sample.buyer 0),
    Sample.signed [Sample.buyer] 5001 6 (.claimPrize Sample.buyer 0),
    Sample.signed [Sample.buyer] 5002 7 (.claimPrize Sample.buyer 1),
    Sample.signed [Sample.creator] 5003 8 .refundPrize]

theorem prize_leaves_once_tierRun :
    Initialised (Sample.host .fallThrough) (Sample.start .fallThrough tierConfig) ∧
    tierOutflow (Sample.after .fallThrough tierConfig tierRun).transfers = 20000 ∧
    ∀ tier, (receiptsOf (Sample.after .fallThrough tierConfig tierRun).events).countP
      (settles tier) ≤ 1 := by
  have hinit : Initialised (Sample.host .fallThrough) (Sample.start .fallThrough tierConfig) :=
    Sample.start_initialised (by decide +kernel)
  obtain ⟨-, htiers, -⟩ := prize_leaves_once hinit tierRun
  exact ⟨hinit, by decide +kernel, fun tier => (htiers tier).1⟩

end TikkaRaffle.Properties
