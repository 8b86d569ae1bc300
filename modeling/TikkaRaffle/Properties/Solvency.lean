import TikkaRaffle.Escrow.Obligations

/-! Escrow solvency. The balance covers the open tiers, the payments of the
tickets without a refund and the booked fees in every run whose calls stay
clear of what books an amount twice, pays out more than was counted, or counts
a settled prize again. -/
namespace TikkaRaffle.Properties

open TikkaRaffle.Lib TikkaRaffle.Instance TikkaRaffle.Escrow

variable {h : Host} {w w' : World} {r : Raffle} {b b' : Books} {a : Act} {reading : TierReading}

def Solvent (h : Host) (w : World) : Prop := (assertSolvent h w).isOk = true

instance (h : Host) (w : World) : Decidable (Solvent h w) := inferInstanceAs (Decidable (_ = true))

/-- No bundle below the list price and no fee. -/
def SafeOrder (r : Raffle) (order : Order) : Prop :=
  (order.bundled = true → r.ticketPrice ≤ bundleUnit r order.quantity) ∧
    (order.charge r * r.protocolFeeBp).tdiv 10000 = 0

def FeeStays (r : Raffle) : Prop := r.protocolFeeBp = 0 ∨ r.treasuryAddress = none

/-- The last open tier is only settled while the balance covers the prize once
more: a settled raffle still counts it. -/
def LastTierCovered (reading : TierReading) (r : Raffle) (fees held : Int) (tier : Nat) : Prop :=
  (markClaimed r.winners tier).all Winner.claimed = true →
    r.prizeAmount + tierAmount reading r tier + fees ≤ held

def SweepCovered (reading : TierReading) (r : Raffle) (fees held : Int) (window : Nat → Prop) :
    Prop :=
  (∀ tier < r.winners.length, claimedAt r tier = false →
    window tier ∧ 0 < tierAmount reading r tier) →
      r.prizeAmount + openAmount reading r + fees ≤ held

def SolventCall (h : Host) (w : World) (r : Raffle) : Call → Prop
  | .buyTickets buyer quantity => SafeOrder r ⟨buyer, buyer, quantity, true⟩
  | .buyTicketsFor buyer recipient quantity => SafeOrder r ⟨buyer, recipient, quantity, false⟩
  | .finalizeRaffle =>
      RandomnessSource.onChain r.randomnessSource → 0 < r.ticketsSold →
        r.minTickets ≤ r.ticketsSold → TiersComputable r
  | .provideRandomness .. | .triggerRandomnessFallback .. => TiersComputable r
  | .provideQuorumRandomness .. => quorumReached w r → TiersComputable r
  | .claimPrize _ tier =>
      FeeStays r ∧ LastTierCovered h.tierReading r (w.accumulatedFees.getD 0)
        (w.balance r.paymentToken h.self) tier
  | .sweepUnclaimed startIndex limit =>
      SweepCovered h.tierReading r (w.accumulatedFees.getD 0) (w.balance r.paymentToken h.self)
        (sweepWindow startIndex limit)
  | .refundTicket _ ticketId => FullPrice r ticketId
  | .batchRefundTickets _ ticketIds | .batchRefundTicketsOwned _ ticketIds =>
      ∀ ticketId ∈ ticketIds, FullPrice r ticketId
  | .rescueTokens token _ _ =>
      token = r.paymentToken → Settled r → w.accumulatedFees.getD 0 = 0
  | .sweepDust => Settled r → w.accumulatedFees.getD 0 = 0
  | .wipeStorage => r.ticketsSold = 0
  | _ => True

instance (r : Raffle) (order : Order) : Decidable (SafeOrder r order) :=
  inferInstanceAs (Decidable (_ ∧ _))

instance (r : Raffle) : Decidable (FeeStays r) := inferInstanceAs (Decidable (_ ∨ _))

instance (reading : TierReading) (r : Raffle) (fees held : Int) (tier : Nat) :
    Decidable (LastTierCovered reading r fees held tier) := inferInstanceAs (Decidable (_ → _))

instance (reading : TierReading) (r : Raffle) (fees held : Int) (window : Nat → Prop)
    [DecidablePred window] : Decidable (SweepCovered reading r fees held window) :=
  inferInstanceAs (Decidable ((∀ tier < r.winners.length, _ → _) → _))

instance (h : Host) (w : World) (r : Raffle) (call : Call) :
    Decidable (SolventCall h w r call) := by
  cases call <;> unfold SolventCall <;> infer_instance

def SafeAct (reading : TierReading) (b : Books) : Act → Prop
  | .buy order => SafeOrder b.raffle order
  | .finish => TiersComputable b.raffle
  | .claim tier => FeeStays b.raffle ∧ LastTierCovered reading b.raffle b.fees b.held tier
  | .sweep tier => LastTierCovered reading b.raffle b.fees b.held tier
  | .refund ticketId => FullPrice b.raffle ticketId
  | .release token => token = b.raffle.paymentToken → Settled b.raffle → b.fees = 0
  | .wipe => b.raffle.ticketsSold = 0
  | _ => True

def prizeOwed (reading : TierReading) (r : Raffle) : Int :=
  if r.prizeDeposited = false then 0
  else if r.status ≠ .finalized then r.prizeAmount
  else openAmount reading r

def ticketsOwed (refunded : Nat → Option Bool) (r : Raffle) : Int :=
  if r.status = .finalized ∨ r.status = .claimed then 0 else unrefunded refunded r

def entitlements (reading : TierReading) (b : Books) : Int :=
  prizeOwed reading b.raffle + ticketsOwed b.refunded b.raffle + b.fees

structure SolventBooks (reading : TierReading) (b : Books) : Prop where
  life : Lifecycle b
  registry : Registry b
  fees_nonneg : 0 ≤ b.fees
  fees_le : b.fees ≤ settledAmount reading b.raffle
  computable : Settled b.raffle → TiersComputable b.raffle
  covered : entitlements reading b ≤ b.held

theorem prizeOwed_open (hopen : ¬Settled r) :
    prizeOwed reading r = if r.prizeDeposited = false then 0 else r.prizeAmount := by
  have hstatus : r.status ≠ .finalized := fun hs => hopen (.inl hs)
  simp only [prizeOwed, hstatus, ne_eq, not_false_eq_true, if_true]

theorem ticketsOwed_open {refunded : Nat → Option Bool} (hopen : ¬Settled r) :
    ticketsOwed refunded r = unrefunded refunded r :=
  if_neg hopen

theorem ticketsOwed_settled {refunded : Nat → Option Bool} (hsettled : Settled r) :
    ticketsOwed refunded r = 0 :=
  if_pos hsettled

theorem ticketsOwed_nonneg (refunded : Nat → Option Bool) (ht : Terms r) :
    0 ≤ ticketsOwed refunded r := by
  unfold ticketsOwed
  split
  · exact le_rfl
  · exact unrefunded_nonneg refunded ht

theorem unclaimedPrizeTotal_eq (hb : SolventBooks reading b) :
    unclaimedPrizeTotal reading b.raffle = .ok (prizeOwed reading b.raffle) := by
  by_cases hfinalized : b.raffle.status = .finalized
  · obtain ⟨hwinners, -, -, hdeposited⟩ := hb.life.settled (.inl hfinalized)
    rw [unclaimedPrizeTotal_ok hb.life.terms (hb.computable (.inl hfinalized)) hwinners hdeposited
      hfinalized]
    simp [prizeOwed, hdeposited, hfinalized]
  · unfold unclaimedPrizeTotal prizeOwed
    split <;> rfl

theorem unrefundedTicketTotal_eq (hb : SolventBooks reading b) :
    unrefundedTicketTotal b.refunded b.raffle = .ok (ticketsOwed b.refunded b.raffle) := by
  by_cases hsettled : Settled b.raffle
  · rw [ticketsOwed_settled hsettled]
    exact if_pos hsettled
  · rw [ticketsOwed_open hsettled]
    exact unrefundedTicketTotal_ok hb.life.terms hb.life.supply hsettled

theorem prizeOwed_bounds (hb : SolventBooks reading b) :
    i128Min ≤ prizeOwed reading b.raffle ∧ prizeOwed reading b.raffle ≤ b.raffle.prizeAmount := by
  have hprize := hb.life.terms.prize_pos
  unfold prizeOwed
  split
  next => simp only [i128Min]; omega
  next =>
    split
    next => simp only [i128Min]; omega
    next hdrawn =>
      have hfinalized : b.raffle.status = .finalized := not_not.mp hdrawn
      exact ⟨openAmount_ge hb.life.terms (hb.computable (.inl hfinalized)),
        openAmount_le hb.life.terms⟩

theorem ticketsOwed_le (hb : SolventBooks reading b) :
    ticketsOwed b.refunded b.raffle ≤ 1000000000000000000000 * 100000 := by
  have hprice : b.raffle.ticketPrice ≤ 1000000000000000000000 :=
    hb.life.terms.price_le.trans hb.life.terms.prize_le
  have hsold : b.raffle.ticketsSold ≤ 100000 := hb.life.supply.trans hb.life.terms.maxTickets_le
  unfold ticketsOwed
  split
  next => decide
  next =>
    calc unrefunded b.refunded b.raffle
        ≤ b.raffle.ticketPrice * b.raffle.ticketsSold :=
          (sum_payments_bounds b.refunded hb.life.terms b.raffle.ticketsSold).2
      _ ≤ 1000000000000000000000 * 100000 :=
          Int.mul_le_mul hprice (by omega) (by omega) (by decide)

theorem solvent_of_books (hr : w.raffle = some r)
    (hb : SolventBooks h.tierReading (view h w r)) : Solvent h w := by
  have hprize : unclaimedPrizeTotal h.tierReading r = .ok (prizeOwed h.tierReading r) :=
    unclaimedPrizeTotal_eq hb
  have htickets : unrefundedTicketTotal w.ticketRefunded r =
      .ok (ticketsOwed w.ticketRefunded r) := unrefundedTicketTotal_eq hb
  have hprizeBounds : i128Min ≤ prizeOwed h.tierReading r ∧
      prizeOwed h.tierReading r ≤ r.prizeAmount := prizeOwed_bounds hb
  have hticketsLow : 0 ≤ ticketsOwed w.ticketRefunded r :=
    ticketsOwed_nonneg w.ticketRefunded hb.life.terms
  have hticketsHigh : ticketsOwed w.ticketRefunded r ≤ 1000000000000000000000 * 100000 :=
    ticketsOwed_le hb
  have hfeesLow : 0 ≤ w.accumulatedFees.getD 0 := hb.fees_nonneg
  have hfeesHigh : w.accumulatedFees.getD 0 ≤ r.prizeAmount :=
    hb.fees_le.trans (settledAmount_le h.tierReading hb.life.terms)
  have hcap : r.prizeAmount ≤ 1000000000000000000000 := hb.life.terms.prize_le
  have hcovered : prizeOwed h.tierReading r + ticketsOwed w.ticketRefunded r +
      w.accumulatedFees.getD 0 ≤ w.balance r.paymentToken h.self := hb.covered
  have hpayments : checkedAdd (ticketsOwed w.ticketRefunded r) (w.accumulatedFees.getD 0) =
      .ok (ticketsOwed w.ticketRefunded r + w.accumulatedFees.getD 0) := by
    apply trapI128_ok.mpr
    refine ⟨fits_of_bounds ?_ ?_, rfl⟩
    · simp only [i128Min]
      omega
    · omega
  have hcombined : checkedAdd (ticketsOwed w.ticketRefunded r + w.accumulatedFees.getD 0)
      (prizeOwed h.tierReading r) = .ok (ticketsOwed w.ticketRefunded r +
        w.accumulatedFees.getD 0 + prizeOwed h.tierReading r) := by
    apply trapI128_ok.mpr
    refine ⟨fits_of_bounds ?_ ?_, rfl⟩ <;> omega
  have hread : readRaffle w = .ok r := readRaffle_ok.mpr hr
  have hpass : assertSolvent h w = .ok () := by
    unfold assertSolvent
    rw [hread]
    simp only [expect, bind, Except.bind, hprize, htickets, hpayments, hcombined]
    have htoken : r.paymentToken = r.prizeToken := hb.life.terms.token.symm
    rw [if_pos htoken]
    exact if_pos (by omega)
  rw [Solvent, hpass]
  rfl

namespace SolventBooks

theorem of_fresh (hf : Fresh b) : SolventBooks reading b where
  life := .of_fresh hf
  registry := .of_fresh hf
  fees_nonneg := hf.fees.ge
  fees_le := by
    rw [hf.fees]
    exact settledAmount_nonneg reading b.raffle
  computable hs := by simp [Settled, hf.pending] at hs
  covered := by
    have hopen : ¬Settled b.raffle := by simp [Settled, hf.pending]
    rw [entitlements, prizeOwed_open hopen, ticketsOwed_open hopen, hf.fees]
    simpa [hf.undeposited, unrefunded, hf.unsold] using hf.held_nonneg

theorem covered_open (hb : SolventBooks reading b) (hopen : ¬Settled b.raffle) :
    (if b.raffle.prizeDeposited = false then 0 else b.raffle.prizeAmount) +
      unrefunded b.refunded b.raffle + b.fees ≤ b.held := by
  have hcovered := hb.covered
  rwa [entitlements, prizeOwed_open hopen, ticketsOwed_open hopen] at hcovered

theorem sell_fees {order : Order} {total fee : Int}
    (hsale : Sellable h.self b order total fee) (hsafe : SafeOrder b.raffle order) : fee = 0 := by
  obtain ⟨htotal, hfee⟩ := hsale.priced.charge_eq
  rw [hfee, htotal]
  exact hsafe.2

theorem sell_covered (hb : SolventBooks reading b) {order : Order} {total fee : Int}
    (hsale : Sellable h.self b order total fee) (hsafe : SafeOrder b.raffle order) (time : Nat) :
    (if b.raffle.prizeDeposited = false then 0 else b.raffle.prizeAmount) +
      unrefunded b.refunded (b.sell h.self order total fee time).raffle +
        (b.sell h.self order total fee time).fees ≤
      (b.sell h.self order total fee time).held := by
  have hbefore := hb.covered_open (by simp [Settled, hsale.active])
  obtain ⟨htotal, hfee⟩ := hsale.priced.charge_eq
  have hnofee := sell_fees hsale hsafe
  have hposts : feeTransfers h.self b.raffle .ticketFee 0 = [] := rfl
  have htickets := unrefunded_sell b.refunded hb.life.terms order.quantity
  have hcharge := payments_le_charge hb.life.terms hsafe.1
  subst hnofee
  simp only [Books.sell, Books.post, hposts, netInflow_in hsale.payer_ne, max_self, add_zero]
  omega

theorem giveBack_covered (hb : SolventBooks reading b) (hopen : ¬Settled b.raffle)
    (hdeposited : b.raffle.prizeDeposited = true) {purpose : Purpose} {self : Address} :
    0 + unrefunded b.refunded b.raffle + b.fees ≤ b.held + netInflow self b.raffle.paymentToken
      [⟨purpose, b.raffle.paymentToken, self, b.raffle.creator, b.raffle.prizeAmount⟩] := by
  have hbefore := hb.covered_open hopen
  have hpaid := netInflow_out_ge purpose self b.raffle.paymentToken b.raffle.creator
    hb.life.terms.prize_pos.le
  rw [if_neg (by simp [hdeposited])] at hbefore
  omega

theorem refund_covered (hb : SolventBooks reading b) {ticketId : Nat} {ticket : Ticket}
    {recipient self : Address} {amount : Int} (hopen : ¬Settled b.raffle)
    (hticket : b.ticket ticketId = some ticket) (hunmarked : b.refunded ticketId = none)
    (hamount : amount = ticket.pricePaid ∨ amount = b.raffle.ticketPrice)
    (hfull : FullPrice b.raffle ticketId) :
    (if b.raffle.prizeDeposited = false then 0 else b.raffle.prizeAmount) +
      unrefunded (b.markRefund ticketId).refunded b.raffle + b.fees ≤
        b.held + netInflow self b.raffle.paymentToken
          [⟨.ticketRefund ticketId, b.raffle.paymentToken, self, recipient, amount⟩] := by
  have hbefore := hb.covered_open hopen
  obtain ⟨⟨hlow, hhigh⟩, hpaid⟩ := hb.registry.sold ticketId ticket hticket
  have hprice : amount = b.raffle.ticketPrice := by
    rcases hamount with rfl | rfl
    · exact hpaid
    · rfl
  subst hprice
  have hleft : unrefunded (b.markRefund ticketId).refunded b.raffle =
      unrefunded b.refunded b.raffle - b.raffle.ticketPrice := by
    have hmark := unrefunded_mark hlow hhigh hunmarked
    rwa [paymentOf, if_pos hfull] at hmark
  have hsent := netInflow_out_ge (.ticketRefund ticketId) self b.raffle.paymentToken recipient
    hb.life.terms.price_pos.le
  omega

theorem claim_posts (ht : Terms r) {self winner : Address} {amount fee : Int}
    (hstays : FeeStays r) (tier : Nat) (hamount : 0 < amount) (hwinner : winner ≠ self)
    (hfee : claimFee r amount = .ok fee) :
    netInflow self r.paymentToken (payoutTransfers self r winner tier (amount - fee) ++
      feeTransfers self r (.claimFee tier) fee) = fee - amount := by
  obtain ⟨hlow, hhigh⟩ := claimFee_bounds ht hamount hfee
  have hnone : feeTransfers self r (.claimFee tier) fee = [] := by
    rcases hstays with hzero | htreasury
    · simp only [claimFee, except_bind_ok, checkedI128_ok, except_pure_ok] at hfee
      obtain ⟨_, ⟨-, rfl⟩, _, ⟨-, rfl⟩, rfl⟩ := hfee
      rw [hzero]
      simp [feeTransfers]
    · simp [feeTransfers, htreasury]
  rw [hnone, List.append_nil, payoutTransfers]
  split
  next => rw [netInflow_out hwinner, neg_sub]
  next hzero =>
    simp only [netInflow, List.map_nil, List.sum_nil]
    omega

theorem prizeOwed_markTier (hb : SolventBooks h.tierReading b) {tier : Nat} {winner : Address}
    {amount : Int} (hpay : Payable h b tier winner amount) :
    prizeOwed h.tierReading (b.markTier tier).raffle =
      if (markClaimed b.raffle.winners tier).all Winner.claimed then b.raffle.prizeAmount
      else prizeOwed h.tierReading b.raffle - amount := by
  obtain ⟨-, -, -, hdeposited⟩ := hb.life.settled (.inl hpay.finalized)
  have hamount := hpay.openAmount_markTier hb.life
  rw [Books.markTier_raffle] at hamount ⊢
  split at hamount
  next hall => simp [prizeOwed, hdeposited, hall]
  next hopen => simpa [prizeOwed, hdeposited, hpay.finalized, hopen] using hamount

/-- Settling a tier keeps the books covered if its payment takes no more than
the tier was counted with, and leaves the prize when it was the last one. -/
theorem markTier_covered (hb : SolventBooks h.tierReading b) {tier : Nat} {winner : Address}
    {amount : Int} (hpay : Payable h b tier winner amount) (hraffle : b'.raffle = b.raffle)
    (hpaid : b'.fees - b.fees - amount ≤ b'.held - b.held)
    (hlast : LastTierCovered h.tierReading b.raffle b.fees b.held tier) :
    entitlements h.tierReading (b'.markTier tier) ≤ (b'.markTier tier).held := by
  have hbefore := hb.covered
  have hsettled : Settled (b.markTier tier).raffle := by
    rw [Books.markTier_raffle]
    unfold Settled
    split <;> simp [hpay.finalized]
  rw [entitlements, ticketsOwed_settled (.inl hpay.finalized)] at hbefore
  rw [entitlements, Books.markTier_raffle_congr b tier hraffle, hb.prizeOwed_markTier hpay,
    ticketsOwed_settled hsettled, Books.markTier_fees, Books.markTier_held]
  split
  next hall =>
    have hspare := hlast hall
    rw [tierAmount_ok hpay.priced hpay.positive] at hspare
    omega
  next => omega

/-- The exits leave at least what is owed. -/
theorem entitlements_le (hb : SolventBooks h.tierReading b) {entitlement : Int}
    (hok : tokenEntitlement h.tierReading b.refunded b.fees b.raffle b.raffle.paymentToken =
      .ok entitlement) (hfees : Settled b.raffle → b.fees = 0) :
    entitlements h.tierReading b ≤ entitlement := by
  have hterms := hb.life.terms
  rw [entitlements]
  by_cases hsettled : Settled b.raffle
  · have hprize := tokenEntitlement_settled hterms.token hsettled hok
    obtain ⟨hlength, -, -, hdeposited⟩ := hb.life.settled hsettled
    have hsame : prizeOwed h.tierReading b.raffle = entitlement := by
      by_cases hfinalized : b.raffle.status = .finalized
      · rw [outstandingPrize_finalized hlength hdeposited hfinalized hprize]
        simp [prizeOwed, hdeposited, hfinalized]
      · rw [outstandingPrize_undrawn hdeposited hfinalized] at hprize
        cases hprize
        simp [prizeOwed, hdeposited, hfinalized]
    rw [ticketsOwed_settled hsettled, hfees hsettled]
    omega
  · obtain ⟨refunds, prize, hrefunds, hprize, rfl⟩ :=
      tokenEntitlement_open hterms.token hsettled hok
    have htickets := unrefunded_le_refunds hterms hrefunds
    have hsame : prizeOwed h.tierReading b.raffle = prize := by
      have hstatus : b.raffle.status ≠ .finalized := fun hs => hsettled (.inl hs)
      unfold outstandingPrize at hprize
      unfold prizeOwed
      split at hprize <;> simp_all
    rw [ticketsOwed_open hsettled]
    omega

theorem covered_of_open (hopen : ¬Settled b.raffle)
    (hcovered : (if b.raffle.prizeDeposited = false then 0 else b.raffle.prizeAmount) +
      unrefunded b.refunded b.raffle + b.fees ≤ b.held) : entitlements reading b ≤ b.held := by
  rwa [entitlements, prizeOwed_open hopen, ticketsOwed_open hopen]

theorem finish_covered (hb : SolventBooks reading b) {winners : List Address} {time : Nat}
    (hdrawing : b.raffle.status = .drawing)
    (hwinners : winners.length = b.raffle.prizes.length) :
    entitlements reading (((b.enter .finalized).crown winners time).disarm) ≤ b.held := by
  have hbefore := hb.covered_open (by simp [Settled, hdrawing])
  have hdeposited := (hb.life.selling (.inr hdrawing)).1
  have htickets := unrefunded_nonneg b.refunded hb.life.terms
  have htiers : prizeOwed reading (((b.enter .finalized).crown winners time).disarm).raffle ≤
      b.raffle.prizeAmount := by
    rw [prizeOwed, if_neg, if_neg (by simp [Books.crown, Books.enter, Books.disarm])]
    · exact openAmount_le (hb.life.finish hdrawing hwinners).terms
    · simp [Books.crown, Books.enter, Books.disarm, hdeposited]
  rw [if_neg (by simp [hdeposited])] at hbefore
  rw [entitlements, ticketsOwed_settled (.inl rfl)]
  simp only [Books.disarm, Books.crown, Books.enter] at htiers ⊢
  omega

theorem release_covered (hb : SolventBooks h.tierReading b) {purpose : Purpose}
    {token recipient : Address} {amount entitlement : Int} (hpositive : 0 < amount)
    (hentitlement : tokenEntitlement h.tierReading b.refunded b.fees b.raffle token =
      .ok entitlement)
    (hsurplus : token = b.raffle.paymentToken → entitlement + amount ≤ b.held)
    (hfees : token = b.raffle.paymentToken → Settled b.raffle → b.fees = 0) :
    entitlements h.tierReading b ≤ b.held + netInflow h.self b.raffle.paymentToken
      [⟨purpose, token, h.self, recipient, amount⟩] := by
  by_cases htoken : token = b.raffle.paymentToken
  · subst htoken
    have howed := hb.entitlements_le hentitlement (hfees rfl)
    have hleft := hsurplus rfl
    have hsent := netInflow_out_ge purpose h.self b.raffle.paymentToken recipient hpositive.le
    omega
  · rw [netInflow_foreign htoken, add_zero]
    exact hb.covered

/-- A wipe clears the refund marks, so no ticket may have been sold. -/
theorem wipe_covered (hb : SolventBooks reading b) (hsold : b.raffle.ticketsSold = 0) :
    entitlements reading b.wiped ≤ b.held := by
  have hbefore := hb.covered
  have htickets := ticketsOwed_nonneg b.refunded hb.life.terms
  have hfees := hb.fees_nonneg
  have hnone : ticketsOwed b.wiped.refunded b.raffle ≤ 0 := by
    unfold ticketsOwed unrefunded
    split <;> simp [hsold]
  simp only [entitlements] at hbefore
  change prizeOwed reading b.raffle + ticketsOwed b.wiped.refunded b.raffle + 0 ≤ b.held
  omega

theorem move_covered (hb : SolventBooks h.tierReading b) (hact : SafeAct h.tierReading b a)
    (hm : Move h a b b') : entitlements h.tierReading b' ≤ b'.held := by
  cases hm with
  | retune | setFee => exact hb.covered
  | deposit _ hstatus hdeposited hcreator =>
    have hbefore := hb.covered_open (by simp [Settled, hstatus])
    rw [if_pos hdeposited] at hbefore
    apply covered_of_open (by simp [Settled, Books.enter])
    change b.raffle.prizeAmount + unrefunded b.refunded b.raffle + b.fees ≤ b.held + _
    rw [netInflow_in hcreator]
    omega
  | buy _ order total fee time hsale =>
    exact covered_of_open (by simp [Settled, Books.sell, hsale.active])
      (hb.sell_covered hsale hact time)
  | sellOut _ order total fee time request hsale =>
    exact covered_of_open (by simp [Settled, Books.enter, Books.arm])
      (hb.sell_covered hsale hact time)
  | startDraw _ request hstatus =>
    exact covered_of_open (by simp [Settled, Books.enter, Books.arm])
      (hb.covered_open (by simp [Settled, hstatus]))
  | finish _ winners time hstatus hwinners => exact hb.finish_covered hstatus hwinners
  | fail _ hstatus =>
    exact covered_of_open (by simp [Settled, Books.enter])
      (hb.covered_open (by simp [Settled, hstatus]))
  | cancel _ hstatus =>
    exact covered_of_open (by simp [Settled, Books.enter])
      (hb.covered_open (by rcases hstatus with hs | hs <;> simp [Settled, hs]))
  | abandon _ hstatus =>
    exact covered_of_open (by simp [Settled, Books.enter, Books.disarm])
      (hb.covered_open (by simp [Settled, hstatus]))
  | emergency _ refunds hstatus hdeposited =>
    exact covered_of_open (by simp [Settled, Books.enter])
      (hb.giveBack_covered (by simp [Settled, hstatus]) hdeposited)
  | claim _ tier winner amount fee hpay hwinner hfee =>
    obtain ⟨hstays, hlast⟩ := hact
    have hnonneg := (claimFee_bounds hb.life.terms hpay.positive hfee).1
    have hposts := claim_posts hb.life.terms hstays tier hpay.positive hwinner hfee
    apply hb.markTier_covered hpay (by rfl) _ hlast
    simp only [Books.file, Books.addFees, Books.post, hposts, max_eq_left hnonneg]
    omega
  | sweep _ tier winner treasury amount hpay =>
    have hsent := netInflow_out_ge (.prizeSweep tier) h.self b.raffle.paymentToken treasury
      hpay.positive.le
    apply hb.markTier_covered hpay (by rfl) _ hact
    simp only [Books.file, Books.post]
    omega
  | returnPrize _ hstatus hdeposited =>
    have hopen : ¬Settled b.raffle := by rcases hstatus with hs | hs <;> simp [Settled, hs]
    exact covered_of_open (by exact hopen) (hb.giveBack_covered hopen hdeposited)
  | refund _ ticketId ticket recipient amount hstatus hticket hunmarked hrecipient hamount =>
    have hopen : ¬Settled b.raffle := by rcases hstatus with hs | hs <;> simp [Settled, hs]
    exact covered_of_open (by exact hopen) (hb.refund_covered hopen hticket hunmarked hamount hact)
  | withdraw _ recipient amount hstatus hpositive =>
    have hbefore := hb.covered
    have hsent := netInflow_out_ge .feeWithdrawal h.self b.raffle.paymentToken recipient
      hpositive.le
    simp only [entitlements, Books.addFees, Books.post] at hbefore ⊢
    omega
  | release _ purpose token recipient amount entitlement hpurpose hpositive hentitlement hsurplus =>
    exact hb.release_covered hpositive hentitlement hsurplus hact
  | wipe _ hstatus hrefunded hheld =>
    exact hb.wipe_covered hact
  | outside _ t hpurpose hsource hnonneg =>
    have hbefore := hb.covered
    have hgain := netInflow_nonneg hsource hnonneg b.raffle.paymentToken
    simp only [entitlements, Books.post] at hbefore ⊢
    omega

theorem markTier_fees (hb : SolventBooks h.tierReading b) {tier : Nat} {winner : Address}
    {amount : Int} (hpay : Payable h b tier winner amount) (hraffle : b'.raffle = b.raffle)
    (hfees : 0 ≤ b'.fees ∧ b'.fees ≤ b.fees + amount) :
    0 ≤ (b'.markTier tier).fees ∧
      (b'.markTier tier).fees ≤ settledAmount h.tierReading (b'.markTier tier).raffle := by
  have hbefore := hb.fees_le
  rw [Books.markTier_fees, Books.markTier_raffle_congr b tier hraffle,
    hpay.settledAmount_markTier hb.life]
  omega

theorem move_fees (hb : SolventBooks h.tierReading b) (hact : SafeAct h.tierReading b a)
    (hm : Move h a b b') : 0 ≤ b'.fees ∧ b'.fees ≤ settledAmount h.tierReading b'.raffle := by
  have hlow := hb.fees_nonneg
  have hhigh := hb.fees_le
  cases hm with
  | buy _ order total fee time hsale | sellOut _ order total fee time request hsale =>
    have hfee := sell_fees hsale hact
    subst hfee
    change 0 ≤ b.fees + 0 ∧ b.fees + 0 ≤ settledAmount h.tierReading b.raffle
    omega
  | finish _ winners time hstatus =>
    have hnone : settledAmount h.tierReading b.raffle = 0 := by
      have hclaimed := claimedAt_nil (hb.life.selling (.inr hstatus)).2.1
      simp [settledAmount, hclaimed]
    exact ⟨hlow, (hhigh.trans_eq hnone).trans (settledAmount_nonneg ..)⟩
  | claim _ tier winner amount fee hpay hwinner hfee =>
    have hbounds := claimFee_bounds hb.life.terms hpay.positive hfee
    apply hb.markTier_fees hpay (by rfl)
    change 0 ≤ b.fees + max fee 0 ∧ b.fees + max fee 0 ≤ b.fees + amount
    omega
  | sweep _ tier winner treasury amount hpay =>
    have hpos := hpay.positive
    apply hb.markTier_fees hpay (by rfl)
    change 0 ≤ b.fees ∧ b.fees ≤ b.fees + amount
    omega
  | withdraw _ recipient amount hstatus hpositive hbooked =>
    change 0 ≤ b.fees + -amount ∧ b.fees + -amount ≤ settledAmount h.tierReading b.raffle
    omega
  | wipe =>
    exact ⟨le_rfl, settledAmount_nonneg ..⟩
  | _ => exact ⟨hlow, hhigh⟩

theorem move_computable (hb : SolventBooks h.tierReading b) (hact : SafeAct h.tierReading b a)
    (hm : Move h a b b') (hsettled : Settled b'.raffle) : TiersComputable b'.raffle := by
  have hterms := SameTerms.move hm
  rw [tiersComputable_congr hterms.prizes hterms.prizeAmount]
  cases hm with
  | finish => exact hact
  | claim _ tier winner amount fee hpay | sweep _ tier winner treasury amount hpay =>
    exact hb.computable (.inl hpay.finalized)
  | retune | setFee | buy | returnPrize | refund | withdraw | release | wipe | outside =>
    exact hb.computable hsettled
  | _ => rcases hsettled with hs | hs <;> cases hs

theorem move (hb : SolventBooks h.tierReading b) (hm : Move h a b b')
    (hact : SafeAct h.tierReading b a) : SolventBooks h.tierReading b' where
  life := hb.life.move hm
  registry := hb.registry.move hm
  fees_nonneg := (hb.move_fees hact hm).1
  fees_le := (hb.move_fees hact hm).2
  computable := hb.move_computable hact hm
  covered := hb.move_covered hact hm

theorem drawNow (hb : SolventBooks h.tierReading b)
    (hcomputable : 0 < b.raffle.ticketsSold → b.raffle.minTickets ≤ b.raffle.ticketsSold →
      TiersComputable b.raffle)
    (hpath : Path (Move h) b [.startDraw, .finish] b') : SolventBooks h.tierReading b' := by
  cases hpath with
  | cons hm htail =>
    have hterms := SameTerms.move hm
    have hdrawing := hb.move hm trivial
    apply hdrawing.move htail.of_single
    cases hm with
    | startDraw _ request hstatus hlock hsold hmin =>
      exact (tiersComputable_congr hterms.prizes hterms.prizeAmount).mpr (hcomputable hsold hmin)

theorem refunds (hb : SolventBooks h.tierReading b) {ticketIds : List Nat} {acts : List Act}
    (hfull : ∀ ticketId ∈ ticketIds, FullPrice b.raffle ticketId)
    (hacts : ∀ a ∈ acts, ∃ ticketId ∈ ticketIds, a = .refund ticketId)
    (hpath : Path (Move h) b acts b') : SolventBooks h.tierReading b' := by
  have hend : SolventBooks h.tierReading b' ∧ SameTerms b.raffle b'.raffle := by
    refine hpath.preserves (fun b₁ => SolventBooks h.tierReading b₁ ∧ SameTerms b.raffle b₁.raffle)
      (fun a => ∃ ticketId ∈ ticketIds, a = .refund ticketId) ?_ hacts ⟨hb, .refl _⟩
    rintro _ b₁ b₂ ⟨ticketId, hlisted, rfl⟩ ⟨hb₁, hterms⟩ hm
    have hact : FullPrice b₁.raffle ticketId :=
      (fullPrice_congr hterms).mpr (hfull ticketId hlisted)
    exact ⟨hb₁.move hm hact, hterms.trans (SameTerms.move hm)⟩
  exact hend.1

end SolventBooks

structure Sweeping (reading : TierReading) (window : Nat → Prop) (start b : Books) : Prop where
  books : SolventBooks reading b
  terms : SameTerms start.raffle b.raffle
  fees : b.fees = start.fees
  winners : b.raffle.winners.length = start.raffle.winners.length
  spare : start.held - openAmount reading start.raffle ≤ b.held - openAmount reading b.raffle
  swept : ∀ tier, claimedAt b.raffle tier = true → claimedAt start.raffle tier = true ∨
    window tier ∧ 0 < tierAmount reading start.raffle tier

namespace Sweeping

variable {window : Nat → Prop} {start : Books} {tier : Nat} {winner : Address} {amount : Int}

theorem swept_next (hs : Sweeping h.tierReading window start b)
    (hpay : Payable h b tier winner amount) (hwindow : window tier) (i : Nat)
    (hclaimed : claimedAt (b.markTier tier).raffle i = true) :
    claimedAt start.raffle i = true ∨ window i ∧ 0 < tierAmount h.tierReading start.raffle i := by
  rw [hpay.claimedAt_markTier] at hclaimed
  split at hclaimed
  next hi =>
    subst hi
    have hamount : tierAmount h.tierReading start.raffle i = amount := by
      rw [← tierAmount_congr hs.terms.prizes hs.terms.prizeAmount]
      exact tierAmount_ok hpay.priced hpay.positive
    exact .inr ⟨hwindow, hamount ▸ hpay.positive⟩
  next => exact hs.swept i hclaimed

theorem lastTier (hs : Sweeping h.tierReading window start b)
    (hpay : Payable h b tier winner amount) (hwindow : window tier)
    (hcond : SweepCovered h.tierReading start.raffle start.fees start.held window) :
    LastTierCovered h.tierReading b.raffle b.fees b.held tier := by
  intro hall
  have hclosed : (b.markTier tier).raffle.winners.all Winner.claimed = true := by
    rw [Books.markTier_raffle]
    exact hall
  have hlife := hs.books.life
  have hlength : (b.markTier tier).raffle.winners.length = b.raffle.winners.length := by
    rw [Books.markTier_raffle]
    exact Lifecycle.markClaimed_length b.raffle.winners tier
  have hstart := hcond fun i hi hopen => by
    have hclaimed := claimedAt_of_all hclosed (by rw [hlength, hs.winners]; exact hi)
    rcases hs.swept_next hpay hwindow i hclaimed with hbefore | hnow
    · rw [hopen] at hbefore
      cases hbefore
    · exact hnow
  have hleft : openAmount h.tierReading b.raffle = amount := by
    have hnone : openAmount h.tierReading (b.markTier tier).raffle = 0 := by
      apply openAmount_closed _ hclosed
      rw [hlength, (hlife.settled (.inl hpay.finalized)).1, Books.markTier_raffle]
      rfl
    have hstep := hpay.openAmount_markTier hlife
    omega
  have hspare := hs.spare
  have hfees := hs.fees
  rw [tierAmount_ok hpay.priced hpay.positive, hs.terms.prizeAmount]
  omega

theorem step (hs : Sweeping h.tierReading window start b) (hwindow : window tier)
    (hcond : SweepCovered h.tierReading start.raffle start.fees start.held window)
    (hm : Move h (.sweep tier) b b') : Sweeping h.tierReading window start b' := by
  have hterms := hs.terms.trans (SameTerms.move hm)
  have hmove := hm
  cases hm with
  | sweep _ _ winner treasury amount hpay =>
    have hbooks := hs.books.move hmove (hs.lastTier hpay hwindow hcond)
    have hsent := netInflow_out_ge (.prizeSweep tier) h.self b.raffle.paymentToken treasury
      hpay.positive.le
    have hraffle : (((b.post h.self [⟨.prizeSweep tier, b.raffle.paymentToken, h.self, treasury,
        amount⟩]).file (.sweep tier amount)).markTier tier).raffle = (b.markTier tier).raffle :=
      Books.markTier_raffle_congr b tier rfl
    refine ⟨hbooks, hterms, ?_, ?_, ?_, ?_⟩
    · rw [Books.markTier_fees]
      exact hs.fees
    · rw [hraffle, Books.markTier_raffle]
      exact (Lifecycle.markClaimed_length b.raffle.winners tier).trans hs.winners
    · have hspare := hs.spare
      have hstep := hpay.openAmount_markTier hs.books.life
      rw [hraffle, Books.markTier_held, hstep]
      simp only [Books.file, Books.post]
      omega
    · rw [hraffle]
      exact hs.swept_next hpay hwindow

theorem path {acts : List Act} (hb : SolventBooks h.tierReading b)
    (hcond : SweepCovered h.tierReading b.raffle b.fees b.held window)
    (hacts : ∀ a ∈ acts, ∃ tier, window tier ∧ a = .sweep tier)
    (hpath : Path (Move h) b acts b') : SolventBooks h.tierReading b' := by
  have hstart : Sweeping h.tierReading window b b :=
    ⟨hb, .refl _, rfl, rfl, le_rfl, fun _ hclaimed => .inl hclaimed⟩
  have hend : Sweeping h.tierReading window b b' := by
    refine hpath.preserves (Sweeping h.tierReading window b)
      (fun a => ∃ tier, window tier ∧ a = .sweep tier) ?_ hacts hstart
    rintro _ b₁ b₂ ⟨tier, hwindow, rfl⟩ hs hm
    exact hs.step hwindow hcond hm
  exact hend.books

end Sweeping

theorem SolventBooks.call {call : Call} {acts : List Act}
    (hb : SolventBooks h.tierReading (view h w r)) (hcall : SolventCall h w r call)
    (hyields : call.Yields w r acts) (hpath : Path (Move h) (view h w r) acts b') :
    SolventBooks h.tierReading b' := by
  cases call with
  | depositPrize | withdrawFees | executeAdminCancel | refundPrize | emergencyWithdraw
  | pauseTicketSales | resumeTicketSales | updateOracleAddress | setProtocolFeeBp
  | setSwapDeadline | tokenTransfer =>
    cases hyields
    exact hb.move hpath.of_single trivial
  | buyTickets | buyTicketsFor | provideRandomness | claimPrize | refundTicket | rescueTokens
  | wipeStorage =>
    cases hyields
    exact hb.move hpath.of_single hcall
  | submitCommit | pause | unpause | updateMetadataHash | extendTtl =>
    cases hyields
    cases hpath
    exact hb
  | finalizeRaffle =>
    rcases hyields with rfl | rfl | ⟨hsource, rfl⟩
    · exact hb.move hpath.of_single trivial
    · exact hb.move hpath.of_single trivial
    · exact hb.drawNow (hcall hsource) hpath
  | provideQuorumRandomness =>
    rcases hyields with rfl | ⟨hreached, rfl⟩
    · cases hpath
      exact hb
    · exact hb.move hpath.of_single (hcall hreached)
  | triggerRandomnessFallback =>
    rcases hyields with ⟨-, rfl | rfl⟩
    · exact hb.move hpath.of_single trivial
    · exact hb.move hpath.of_single hcall
  | sweepUnclaimed startIndex limit => exact Sweeping.path hb hcall hyields.2 hpath
  | cancelRaffle reason =>
    rcases hyields with ⟨-, rfl⟩ | ⟨-, rfl⟩
    · cases hpath
      exact hb
    · exact hb.move hpath.of_single trivial
  | batchRefundTickets | batchRefundTicketsOwned => exact hb.refunds hcall hyields.2 hpath
  | sweepDust =>
    rcases hyields with rfl | rfl
    · cases hpath
      exact hb
    · exact hb.move hpath.of_single fun _ => hcall

/-- In every run whose calls all meet their conditions the assertion passes in
every state. -/
theorem solvent_always (hinit : Initialised h w) {calls : List Invocation}
    (heach : (machine h).Each (fun w i _ => ∀ r ∈ w.raffle, SolventCall h w r i.call) w calls) :
    (machine h).Always (Solvent h) w calls := by
  have hstart : Holds h (SolventBooks h.tierReading) w :=
    (initialised_fresh hinit).mono fun _ hf => .of_fresh hf
  have hrun : (machine h).Always (Holds h (SolventBooks h.tierReading)) w calls := by
    refine always_of_calls (fun _ hb => hb.life.ready) ?_ hstart heach
    intro w i w' r acts b' hcalls hr hb hyields hpath
    exact hb.call (hcalls r hr) hyields hpath
  apply hrun.mono
  rintro w ⟨r, hr, hb⟩
  exact solvent_of_books hr hb

/-- A raffle drawn with two of three tickets sold, its only tier claimed, and a
dust sweep that finds nothing above the prize it still counts. -/
def solventRun : List Invocation :=
  [Sample.signed [Sample.creator] 1 1 .depositPrize,
    Sample.signed [Sample.buyer] 2 2 (.buyTickets Sample.buyer 2),
    Sample.signed [Sample.creator] 1000 3 .finalizeRaffle,
    Sample.signed [Sample.buyer] 5000 4 (.claimPrize Sample.buyer 0),
    Sample.signed [Sample.admin] 5001 5 .sweepDust]

theorem solvent_always_solventRun :
    Initialised (Sample.host .ifElse) (Sample.start .ifElse Sample.config) ∧
    (machine (Sample.host .ifElse)).Each
      (fun w i _ => ∀ r ∈ w.raffle, SolventCall (Sample.host .ifElse) w r i.call)
      (Sample.start .ifElse Sample.config) solventRun ∧
    (machine (Sample.host .ifElse)).Always (Solvent (Sample.host .ifElse))
      (Sample.start .ifElse Sample.config) solventRun ∧
    (Sample.after .ifElse Sample.config solventRun).raffle.map Raffle.status = some .claimed := by
  have hinit : Initialised (Sample.host .ifElse) (Sample.start .ifElse Sample.config) :=
    Sample.start_initialised (by decide +kernel)
  have heach : (machine (Sample.host .ifElse)).Each
      (fun w i _ => ∀ r ∈ w.raffle, SolventCall (Sample.host .ifElse) w r i.call)
      (Sample.start .ifElse Sample.config) solventRun := by decide +kernel
  exact ⟨hinit, heach, solvent_always hinit heach, by decide +kernel⟩

def chargedConfig : RaffleConfig := { Sample.config with protocolFeeBp := 500 }

def chargedRun : List Invocation :=
  [Sample.signed [Sample.creator] 1 1 .depositPrize,
    Sample.signed [Sample.buyer] 2 2 (.buyTickets Sample.buyer 1)]

/-- After the first purchase 29500 is held against a prize of 20000, a ticket
of 10000 and a booked fee of 500 that the treasury already has. -/
theorem fee_sent_and_booked :
    Initialised (Sample.host .ifElse) (Sample.start .ifElse chargedConfig) ∧
    (Sample.after .ifElse chargedConfig chargedRun).raffle.map Raffle.ticketsSold = some 1 ∧
    (Sample.after .ifElse chargedConfig chargedRun).balance Sample.token Sample.self = 29500 ∧
    (Sample.after .ifElse chargedConfig chargedRun).accumulatedFees = some 500 ∧
    ¬Solvent (Sample.host .ifElse) (Sample.after .ifElse chargedConfig chargedRun) := by
  refine ⟨Sample.start_initialised (by decide +kernel), ?_, ?_, ?_, ?_⟩ <;> decide +kernel

end TikkaRaffle.Properties
