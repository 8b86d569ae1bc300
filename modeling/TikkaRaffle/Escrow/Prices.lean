import TikkaRaffle.Escrow.Lifecycle

/-! What an order costs in closed form, and what the tiers of a prize add up
to under either reading of their amounts. -/
namespace TikkaRaffle.Escrow

open TikkaRaffle.Lib TikkaRaffle.Instance

variable {r : Raffle} {quantity : Nat}

theorem scaled_bounds {amount : Int} {bp : Nat} (hamount : 0 ≤ amount) (hbp : bp ≤ 10000) :
    0 ≤ amount * bp ∧ amount * bp ≤ amount * 10000 := by
  have hrate : (bp : Int) ≤ 10000 := by exact_mod_cast hbp
  exact ⟨Int.mul_nonneg hamount (Int.natCast_nonneg bp),
    Int.mul_le_mul_of_nonneg_left hrate hamount⟩

theorem claimFee_bounds (ht : Terms r) {amount fee : Int} (hamount : 0 < amount)
    (hfee : claimFee r amount = .ok fee) : 0 ≤ fee ∧ fee ≤ amount := by
  have hscaled := scaled_bounds hamount.le ht.feeBp_le
  simp only [claimFee, except_bind_ok, checkedI128_ok, except_pure_ok] at hfee
  obtain ⟨_, ⟨-, rfl⟩, _, ⟨-, rfl⟩, rfl⟩ := hfee
  rw [Int.tdiv_eq_ediv_of_nonneg (by omega)]
  omega

theorem bundleUnit_plain (hplain : r.bundles = []) (quantity : Nat) :
    bundleUnit r quantity = r.ticketPrice := by
  rw [bundleUnit, hplain, List.foldl_nil]

def earlyBirdCut (r : Raffle) (quantity : Nat) : Int :=
  (bundleUnit r quantity * r.earlyBirdDiscountBp).tdiv 10000 * earlyBirdQuantity r quantity

def Order.charge (order : Order) (r : Raffle) : Int :=
  if order.bundled then
    bundleUnit r order.quantity * order.quantity - earlyBirdCut r order.quantity
  else r.ticketPrice * order.quantity

theorem earlyBirdDiscount_ok {discount : Int}
    (hok : earlyBirdDiscount r (bundleUnit r quantity) quantity = .ok discount) :
    discount = earlyBirdCut r quantity := by
  unfold earlyBirdDiscount at hok
  split at hok
  next =>
    simp only [except_bind_ok, checkedI128_ok] at hok
    obtain ⟨scaled, ⟨-, rfl⟩, -, rfl⟩ := hok
    rfl
  next hnone =>
    have hzero : earlyBirdQuantity r quantity = 0 := by omega
    cases hok
    rw [earlyBirdCut, hzero]
    simp

theorem calculateBuyQuote_ok {quote : BuyQuote} (hok : calculateBuyQuote r quantity = .ok quote) :
    quote.netToPay = bundleUnit r quantity * quantity - earlyBirdCut r quantity ∧
      quote.fee = (quote.netToPay * r.protocolFeeBp).tdiv 10000 := by
  simp only [calculateBuyQuote, except_bind_ok, checkedI128_ok, except_pure_ok] at hok
  obtain ⟨-, -, gross, ⟨-, rfl⟩, discount, hdiscount, net, ⟨-, rfl⟩, scaled, ⟨-, rfl⟩, rfl⟩ := hok
  rw [earlyBirdDiscount_ok hdiscount]
  exact ⟨rfl, rfl⟩

theorem Order.Priced.charge_eq {order : Order} {total fee : Int} (hp : order.Priced r total fee) :
    total = order.charge r ∧ fee = (total * r.protocolFeeBp).tdiv 10000 := by
  unfold Order.Priced at hp
  unfold Order.charge
  split at hp
  next hbundled =>
    obtain ⟨quote, hquote, rfl, rfl⟩ := hp
    rw [if_pos hbundled]
    exact calculateBuyQuote_ok hquote
  next hplain =>
    rw [if_neg hplain]
    exact hp

theorem Order.Priced.fee_nonneg {order : Order} {total fee : Int} (hp : order.Priced r total fee)
    (htotal : 0 ≤ total) : 0 ≤ fee := by
  rw [hp.charge_eq.2]
  exact Int.tdiv_nonneg (Int.mul_nonneg htotal (Int.natCast_nonneg _)) (by decide)

open Finset

variable {reading : TierReading} {tier : Nat} {amount : Int}

def share (r : Raffle) (tier : Nat) : Int := r.prizeAmount * (r.prizes[tier]?.getD 0 : Nat) / 10000

/-- What settling a tier pays: nothing when its amount is not positive or
cannot be computed. -/
def tierAmount (reading : TierReading) (r : Raffle) (tier : Nat) : Int :=
  match calculateTierPrize reading r tier with
  | .ok amount => max amount 0
  | .error _ => 0

theorem tierAmount_nonneg : 0 ≤ tierAmount reading r tier := by
  unfold tierAmount
  split
  · exact le_max_right ..
  · exact le_rfl

theorem tierAmount_ok (hok : calculateTierPrize reading r tier = .ok amount)
    (hpos : 0 < amount) : tierAmount reading r tier = amount := by
  rw [tierAmount, hok]
  exact max_eq_left hpos.le

theorem share_nonneg (hprize : 0 ≤ r.prizeAmount) (tier : Nat) : 0 ≤ share r tier :=
  Int.ediv_nonneg (Int.mul_nonneg hprize (Int.natCast_nonneg _)) (by decide)

theorem tierShare_ok (hprize : 0 ≤ r.prizeAmount) (hok : tierShare r tier = .ok amount) :
    amount = share r tier := by
  simp only [tierShare, except_bind_ok, okOr_ok, checkedI128_ok, except_pure_ok] at hok
  obtain ⟨bp, hbp, scaled, ⟨-, rfl⟩, rfl⟩ := hok
  rw [share, hbp, Option.getD_some,
    Int.tdiv_eq_ediv_of_nonneg (Int.mul_nonneg hprize (Int.natCast_nonneg bp))]

/-- The loop over the earlier tiers scales nothing down. -/
theorem allocatedBefore_unscaled (hprize : 0 ≤ r.prizeAmount) {count : Nat} {allocated : Int}
    (hok : allocatedBefore r count = .ok allocated) :
    0 ≤ allocated ∧
      ∑ i ∈ range count, r.prizeAmount * (r.prizes[i]?.getD 0 : Nat) ≤ allocated := by
  induction count generalizing allocated with
  | zero =>
    cases hok
    simp
  | succ count ih =>
    simp only [allocatedBefore, List.range_succ, List.foldlM_append, List.foldlM_cons,
      List.foldlM_nil, except_bind_ok, okOr_ok, checkedI128_ok, except_pure_ok] at hok
    obtain ⟨before, hbefore, next, ⟨bp, hbp, scaled, ⟨-, rfl⟩, lifted, ⟨-, rfl⟩, -, rfl⟩, rfl⟩ :=
      hok
    obtain ⟨hnonneg, hsum⟩ := ih hbefore
    have hscaled : 0 ≤ r.prizeAmount * (bp : Int) := Int.mul_nonneg hprize (Int.natCast_nonneg bp)
    rw [sum_range_succ, hbp, Option.getD_some]
    omega

theorem share_le_unscaled (hprize : 0 ≤ r.prizeAmount) (tier : Nat) :
    share r tier ≤ r.prizeAmount * (r.prizes[tier]?.getD 0 : Nat) :=
  Int.ediv_le_self _ (Int.mul_nonneg hprize (Int.natCast_nonneg _))

theorem allocatedBefore_ge (hprize : 0 ≤ r.prizeAmount) {count : Nat} {allocated : Int}
    (hok : allocatedBefore r count = .ok allocated) :
    ∑ i ∈ range count, share r i ≤ allocated :=
  (sum_le_sum fun i _ => share_le_unscaled hprize i).trans (allocatedBefore_unscaled hprize hok).2

theorem sum_share_le (ht : Terms r) : ∑ i ∈ range r.prizes.length, share r i ≤ r.prizeAmount :=
  sum_shares_le (by decide) (by exact_mod_cast ht.prizes_sum)

theorem sum_tiers_split (ht : Terms r) (f : Nat → Int) :
    ∑ i ∈ range r.prizes.length, f i =
      ∑ i ∈ range (r.prizes.length - 1), f i + f (r.prizes.length - 1) := by
  have hlength : 1 ≤ r.prizes.length := List.length_pos_of_ne_nil ht.prizes_ne
  conv_lhs => rw [← Nat.sub_add_cancel hlength]
  exact sum_range_succ ..

theorem tierAmount_le_share (ht : Terms r) (hlast : tier ≠ r.prizes.length - 1) :
    tierAmount reading r tier ≤ share r tier := by
  unfold tierAmount
  split
  next amount hok =>
    simp only [calculateTierPrize, except_bind_ok, if_neg hlast] at hok
    obtain ⟨-, -, -, -, hok⟩ := hok
    rw [tierShare_ok ht.prize_pos.le hok]
    exact max_le le_rfl (share_nonneg ht.prize_pos.le tier)
  next => exact share_nonneg ht.prize_pos.le tier

theorem tierAmount_last_le (reading : TierReading) (ht : Terms r) :
    tierAmount reading r (r.prizes.length - 1) ≤
      r.prizeAmount - ∑ i ∈ range (r.prizes.length - 1), share r i := by
  have hsum := sum_share_le ht
  have hsplit := sum_tiers_split ht (share r)
  have hshare := share_nonneg ht.prize_pos.le (r.prizes.length - 1)
  unfold tierAmount
  split
  next amount hok =>
    simp only [calculateTierPrize, except_bind_ok, if_true] at hok
    obtain ⟨-, -, -, -, allocated, hallocated, hok⟩ := hok
    have hbefore := allocatedBefore_ge ht.prize_pos.le hallocated
    cases reading with
    | ifElse =>
      obtain ⟨-, rfl⟩ := checkedI128_ok.mp hok
      omega
    | fallThrough =>
      rw [tierShare_ok ht.prize_pos.le hok]
      omega
  next => omega

theorem sum_tierAmount_le (reading : TierReading) (ht : Terms r) :
    ∑ i ∈ range r.prizes.length, tierAmount reading r i ≤ r.prizeAmount := by
  have hearlier : ∑ i ∈ range (r.prizes.length - 1), tierAmount reading r i ≤
      ∑ i ∈ range (r.prizes.length - 1), share r i := by
    apply sum_le_sum
    intro i hi
    exact tierAmount_le_share ht (mem_range.mp hi).ne
  have hlast := tierAmount_last_le reading ht
  rw [sum_tiers_split ht]
  omega

def claimedAt (r : Raffle) (tier : Nat) : Bool := (r.winners[tier]?.map Winner.claimed).getD false

def settledAmount (reading : TierReading) (r : Raffle) : Int :=
  ∑ i ∈ range r.prizes.length, if claimedAt r i then tierAmount reading r i else 0

theorem claimedAt_nil (hwinners : r.winners = []) (tier : Nat) : claimedAt r tier = false := by
  simp [claimedAt, hwinners]

theorem Payable.unclaimedAt {h : Host} {b : Books} {winner : Address}
    (hpay : Payable h b tier winner amount) : claimedAt b.raffle tier = false := by
  rw [claimedAt, hpay.unclaimed]
  rfl

theorem claimedAt_claimTier {tier : Nat} (hopen : tier < r.winners.length) (i : Nat) :
    claimedAt (r.claimTier tier) i = if i = tier then true else claimedAt r i := by
  unfold claimedAt
  rw [Raffle.claimTier_winners, markClaimed, List.getElem?_modify]
  by_cases hi : i = tier
  · subst hi
    simp [List.getElem?_eq_getElem hopen]
  · have hne : ¬tier = i := fun heq => hi heq.symm
    simp [hi, hne]

theorem tierAmount_congr {r' : Raffle} (hprizes : r'.prizes = r.prizes)
    (hprize : r'.prizeAmount = r.prizeAmount) : tierAmount reading r' = tierAmount reading r := by
  funext tier
  simp only [tierAmount, calculateTierPrize, allocatedBefore, tierShare, hprizes, hprize]

theorem settledAmount_congr {r' : Raffle} (hwinners : r'.winners = r.winners)
    (hprizes : r'.prizes = r.prizes) (hprize : r'.prizeAmount = r.prizeAmount) :
    settledAmount reading r' = settledAmount reading r := by
  have hclaimed : claimedAt r' = claimedAt r := by
    funext i
    rw [claimedAt, claimedAt, hwinners]
  simp only [settledAmount, hclaimed, tierAmount_congr hprizes hprize, hprizes]

theorem settledAmount_nonneg (reading : TierReading) (r : Raffle) :
    0 ≤ settledAmount reading r := by
  apply sum_nonneg
  intro i _
  split
  · exact tierAmount_nonneg
  · exact le_rfl

theorem settledAmount_claimTier {tier : Nat} (hopen : tier < r.winners.length)
    (htier : tier < r.prizes.length) (hunclaimed : claimedAt r tier = false) :
    settledAmount reading (r.claimTier tier) =
      settledAmount reading r + tierAmount reading r tier := by
  have hterm : ∀ i, (if claimedAt (r.claimTier tier) i then
      tierAmount reading (r.claimTier tier) i else 0) =
        (if claimedAt r i then tierAmount reading r i else 0) +
          if i = tier then tierAmount reading r i else 0 := by
    intro i
    have hsame : tierAmount reading (r.claimTier tier) = tierAmount reading r :=
      tierAmount_congr rfl rfl
    rw [claimedAt_claimTier hopen, hsame]
    by_cases hi : i = tier
    · simp [hi, hunclaimed]
    · simp [hi]
  simp only [settledAmount, hterm, sum_add_distrib, sum_ite_eq',
    Raffle.claimTier_prizes, mem_range, htier, if_true]

section MarkTier

variable {h : Host} {b : Books} {winner : Address}

theorem Payable.claimedAt_markTier (hpay : Payable h b tier winner amount) (i : Nat) :
    claimedAt (b.markTier tier).raffle i = if i = tier then true else claimedAt b.raffle i := by
  obtain ⟨hopen, -⟩ := List.getElem?_eq_some_iff.mp hpay.unclaimed
  rw [Books.markTier_raffle]
  exact claimedAt_claimTier hopen i

theorem Payable.settledAmount_markTier (hl : Lifecycle b) (hpay : Payable h b tier winner amount) :
    settledAmount h.tierReading (b.markTier tier).raffle =
      settledAmount h.tierReading b.raffle + amount := by
  obtain ⟨hlength, -, -, -⟩ := hl.settled (.inl hpay.finalized)
  obtain ⟨hopen, -⟩ := List.getElem?_eq_some_iff.mp hpay.unclaimed
  rw [Books.markTier_raffle, ← tierAmount_ok hpay.priced hpay.positive,
    ← settledAmount_claimTier hopen (hlength ▸ hopen) hpay.unclaimedAt]
  exact settledAmount_congr rfl rfl rfl

end MarkTier

theorem settledAmount_le (reading : TierReading) (ht : Terms r) :
    settledAmount reading r ≤ r.prizeAmount := by
  refine le_trans (sum_le_sum fun i _ => ?_) (sum_tierAmount_le reading ht)
  split
  · exact le_rfl
  · exact tierAmount_nonneg

end TikkaRaffle.Escrow
