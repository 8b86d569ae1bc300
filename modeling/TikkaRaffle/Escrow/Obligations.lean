import TikkaRaffle.Escrow.Prices
import TikkaRaffle.Escrow.Registry
import TikkaRaffle.Instance.Solvency

/-! What the solvency assertion counts, as sums over tickets and tiers, and
when its own arithmetic goes through. -/
namespace TikkaRaffle.Escrow

open TikkaRaffle.Lib TikkaRaffle.Instance Finset

variable {r r' : Raffle} {refunded : Nat → Option Bool} {reading : TierReading}

def earlyBirdLimit (r : Raffle) : Nat := r.maxTickets * r.earlyBirdTicketPercentage / 100

def FullPrice (r : Raffle) (ticketId : Nat) : Prop :=
  earlyBirdLimit r < ticketId ∨ r.earlyBirdDiscountBp = 0

instance (r : Raffle) (ticketId : Nat) : Decidable (FullPrice r ticketId) :=
  inferInstanceAs (Decidable (_ ∨ _))

theorem fullPrice_congr (hterms : SameTerms r r') {ticketId : Nat} :
    FullPrice r' ticketId ↔ FullPrice r ticketId := by
  rw [FullPrice, FullPrice, earlyBirdLimit, earlyBirdLimit, hterms.maxTickets,
    hterms.earlyBirdTicketPercentage, hterms.earlyBirdDiscountBp]

def paymentOf (r : Raffle) (ticketId : Nat) : Int :=
  if FullPrice r ticketId then r.ticketPrice
  else r.ticketPrice - (r.ticketPrice * r.earlyBirdDiscountBp).tdiv 10000

def unrefunded (refunded : Nat → Option Bool) (r : Raffle) : Int :=
  ∑ i ∈ range r.ticketsSold, if (refunded (1 + i)).isSome then 0 else paymentOf r (1 + i)

theorem discount_bounds {price : Int} {bp : Nat} (hprice : 0 ≤ price) (hbp : bp ≤ 10000) :
    0 ≤ (price * bp).tdiv 10000 ∧ (price * bp).tdiv 10000 ≤ price := by
  have hscaled := scaled_bounds hprice hbp
  rw [Int.tdiv_eq_ediv_of_nonneg hscaled.1]
  omega

theorem discounted_bp (ht : Terms r) {ticketId : Nat} (hid : 0 < ticketId)
    (hcut : ¬FullPrice r ticketId) : r.earlyBirdDiscountBp ≤ 10000 := by
  obtain ⟨hlimit, -⟩ := not_or.mp hcut
  apply ht.earlyBird_le
  apply Nat.pos_of_ne_zero
  intro hzero
  simp [earlyBirdLimit, hzero] at hlimit
  omega

theorem paymentOf_bounds (ht : Terms r) {ticketId : Nat} (hid : 0 < ticketId) :
    0 ≤ paymentOf r ticketId ∧ paymentOf r ticketId ≤ r.ticketPrice := by
  have hprice := ht.price_pos.le
  unfold paymentOf
  split
  next => exact ⟨hprice, le_rfl⟩
  next hcut =>
    have hbounds := discount_bounds hprice (discounted_bp ht hid hcut)
    omega

theorem earlyBirdLimit_le (ht : Terms r) : earlyBirdLimit r ≤ 100000 := by
  have hscaled : r.maxTickets * r.earlyBirdTicketPercentage ≤ 100000 * 100 :=
    Nat.mul_le_mul ht.maxTickets_le ht.percentage_le
  unfold earlyBirdLimit
  omega

theorem ticketPaymentAmount_ok (ht : Terms r) {ticketId : Nat} (hid : 0 < ticketId) :
    ticketPaymentAmount r ticketId = .ok (paymentOf r ticketId) := by
  have hlimit := earlyBirdLimit_le ht
  have hsmall : r.maxTickets * r.earlyBirdTicketPercentage / 100 % 2 ^ 32 = earlyBirdLimit r :=
    Nat.mod_eq_of_lt (lt_of_le_of_lt hlimit (by decide))
  have hpaid := paymentOf_bounds ht hid
  unfold ticketPaymentAmount
  rw [hsmall]
  change (if FullPrice r ticketId then _ else _) = _
  by_cases hfull : FullPrice r ticketId
  · rw [paymentOf, if_pos hfull, if_pos hfull]
  · have hscaled := scaled_bounds ht.price_pos.le (discounted_bp ht hid hfull)
    rw [paymentOf, if_neg hfull] at hpaid ⊢
    rw [if_neg hfull, except_bind_ok]
    have hprice := ht.price_le.trans ht.prize_le
    simp only [Constants.maxPrizeAmount] at hprice
    refine ⟨_, trapI128_ok.mpr ⟨⟨?_, ?_⟩, rfl⟩, trapI128_ok.mpr ⟨⟨?_, ?_⟩, rfl⟩⟩ <;>
      simp only [i128Min, i128Max] <;> omega

theorem sum_payments_bounds (refunded : Nat → Option Bool) (ht : Terms r) (count : Nat) :
    0 ≤ ∑ i ∈ range count, (if (refunded (1 + i)).isSome then 0 else paymentOf r (1 + i)) ∧
      ∑ i ∈ range count, (if (refunded (1 + i)).isSome then 0 else paymentOf r (1 + i)) ≤
        r.ticketPrice * count := by
  have hprice := ht.price_pos.le
  induction count with
  | zero => simp
  | succ count ih =>
    have hpaid := paymentOf_bounds ht (show 0 < 1 + count by omega)
    rw [sum_range_succ]
    push_cast
    rw [mul_add, mul_one]
    split <;> omega

theorem fits_of_bounds {value : Int} (hlow : i128Min ≤ value)
    (hhigh : value ≤ 1000000000000000000000000000000) : fitsI128 value :=
  ⟨hlow, hhigh.trans (by decide)⟩

theorem unrefundedTicketTotal_ok (ht : Terms r) (hsold : r.ticketsSold ≤ r.maxTickets)
    (hopen : ¬Settled r) : unrefundedTicketTotal refunded r = .ok (unrefunded refunded r) := by
  have hprice : r.ticketPrice ≤ 1000000000000000000000 := ht.price_le.trans ht.prize_le
  have hlimit : r.maxTickets ≤ 100000 := ht.maxTickets_le
  have hcounted : ¬(r.status = .finalized ∨ r.status = .claimed) := hopen
  rw [unrefundedTicketTotal, if_neg hcounted]
  refine foldlM_range' (f := fun ticketId => if (refunded ticketId).isSome then 0
    else paymentOf r ticketId) fun m hm => ?_
  obtain ⟨hlow, hhigh⟩ := sum_payments_bounds refunded ht (m + 1)
  have hcap : r.ticketPrice * ((m + 1 : Nat) : Int) ≤ 1000000000000000000000 * 100000 :=
    Int.mul_le_mul hprice (by omega) (by omega) (by decide)
  rw [sum_range_succ] at hlow hhigh ⊢
  by_cases hmark : (refunded (1 + m)).isSome = true
  · simp [hmark]
  · simp only [hmark, Bool.false_eq_true, if_false] at hlow hhigh ⊢
    rw [except_bind_ok]
    refine ⟨_, ticketPaymentAmount_ok ht (by omega), trapI128_ok.mpr ⟨fits_of_bounds ?_ ?_, rfl⟩⟩
    · simp only [i128Min]
      omega
    · omega

theorem unrefunded_nonneg (refunded : Nat → Option Bool) (ht : Terms r) :
    0 ≤ unrefunded refunded r :=
  (sum_payments_bounds refunded ht r.ticketsSold).1

theorem unrefunded_le_refunds (ht : Terms r) {refunds : Int}
    (hok : outstandingTicketRefunds refunded r = .ok refunds) :
    unrefunded refunded r ≤ refunds := by
  have hcount : ∀ count : Nat,
      ∑ i ∈ range count, (if (refunded (1 + i)).isSome then 0 else paymentOf r (1 + i)) ≤
        r.ticketPrice * (List.range' 1 count).countP fun id => (refunded id).isNone := by
    intro count
    induction count with
    | zero => simp
    | succ count ih =>
      have hpaid := paymentOf_bounds ht (show 0 < 1 + count by omega)
      rw [sum_range_succ, List.range'_1_concat, List.countP_append]
      push_cast
      rw [mul_add]
      cases hmark : refunded (1 + count) with
      | none => simpa [hmark] using add_le_add ih hpaid.2
      | some mark => simpa [hmark] using ih
  rw [outstandingTicketRefunds_ok hok]
  exact hcount r.ticketsSold

theorem unrefunded_mark {ticketId : Nat} (hlow : 1 ≤ ticketId) (hhigh : ticketId ≤ r.ticketsSold)
    (hunmarked : refunded ticketId = none) :
    unrefunded (fun i => if i = ticketId then some true else refunded i) r =
      unrefunded refunded r - paymentOf r ticketId := by
  obtain ⟨index, rfl⟩ := Nat.exists_eq_add_of_le hlow
  have hterm : ∀ i, (if (if 1 + i = 1 + index then some true else refunded (1 + i)).isSome then 0
      else paymentOf r (1 + i)) =
        (if (refunded (1 + i)).isSome then 0 else paymentOf r (1 + i)) -
          if i = index then paymentOf r (1 + i) else 0 := by
    intro i
    by_cases hi : i = index
    · simp [hi, hunmarked]
    · have hne : ¬1 + i = 1 + index := by omega
      simp [hi]
  have hindex : index < r.ticketsSold := by omega
  simp only [unrefunded, hterm, sum_sub_distrib, sum_ite_eq', mem_range, hindex, if_true]

theorem unrefunded_sell (refunded : Nat → Option Bool) (ht : Terms r) (quantity : Nat) :
    unrefunded refunded (r.setTicketsSold (r.ticketsSold + quantity)) ≤
      unrefunded refunded r +
        ∑ j ∈ range quantity, paymentOf r (1 + (r.ticketsSold + j)) := by
  have hnew : ∀ j, (if (refunded (1 + (r.ticketsSold + j))).isSome then 0
      else paymentOf r (1 + (r.ticketsSold + j))) ≤ paymentOf r (1 + (r.ticketsSold + j)) := by
    intro j
    have hpaid := paymentOf_bounds ht (show 0 < 1 + (r.ticketsSold + j) by omega)
    split <;> omega
  have hsplit : unrefunded refunded (r.setTicketsSold (r.ticketsSold + quantity)) =
      unrefunded refunded r + ∑ j ∈ range quantity,
        (if (refunded (1 + (r.ticketsSold + j))).isSome then 0
          else paymentOf r (1 + (r.ticketsSold + j))) := sum_range_add ..
  have hmore := sum_le_sum fun j (_ : j ∈ range quantity) => hnew j
  rw [hsplit]
  omega

def TiersComputable (r : Raffle) : Prop :=
  (allocatedBefore r (r.prizes.length - 1)).isOk = true

instance (r : Raffle) : Decidable (TiersComputable r) := inferInstanceAs (Decidable (_ = true))

/-- The amount of a tier as it is computed; it may be negative. -/
def tierValue (reading : TierReading) (r : Raffle) (tier : Nat) : Int :=
  match calculateTierPrize reading r tier with
  | .ok amount => amount
  | .error _ => 0

def openAmount (reading : TierReading) (r : Raffle) : Int :=
  ∑ i ∈ range r.prizes.length, if claimedAt r i then 0 else tierValue reading r i

theorem tierValue_ok {tier : Nat} {amount : Int}
    (hok : calculateTierPrize reading r tier = .ok amount) : tierValue reading r tier = amount := by
  rw [tierValue, hok]

theorem tierValue_le (tier : Nat) : tierValue reading r tier ≤ tierAmount reading r tier := by
  unfold tierValue tierAmount
  cases calculateTierPrize reading r tier with
  | ok amount => exact le_max_left ..
  | error e => exact le_rfl

/-- Only the last tier can come out negative. -/
theorem tierValue_nonneg (ht : Terms r) {tier : Nat} (hlast : tier ≠ r.prizes.length - 1) :
    0 ≤ tierValue reading r tier := by
  unfold tierValue
  split
  next amount hok =>
    simp only [calculateTierPrize, except_bind_ok, if_neg hlast] at hok
    obtain ⟨-, -, -, -, hok⟩ := hok
    rw [tierShare_ok ht.prize_pos.le hok]
    exact share_nonneg ht.prize_pos.le tier
  next => exact le_rfl

theorem openSum_nonneg (ht : Terms r) {count : Nat} (hcount : count < r.prizes.length) :
    0 ≤ ∑ i ∈ range count, if claimedAt r i then 0 else tierValue reading r i := by
  apply sum_nonneg
  intro i hi
  have hbefore := mem_range.mp hi
  split
  · exact le_rfl
  · exact tierValue_nonneg ht (by omega)

theorem openSum_le (ht : Terms r) {count : Nat} (hcount : count ≤ r.prizes.length) :
    ∑ i ∈ range count, (if claimedAt r i then 0 else tierValue reading r i) ≤ r.prizeAmount := by
  have hterms : ∑ i ∈ range count, (if claimedAt r i then 0 else tierValue reading r i) ≤
      ∑ i ∈ range count, tierAmount reading r i := by
    apply sum_le_sum
    intro i _
    split
    · exact tierAmount_nonneg
    · exact tierValue_le i
  have hmore : ∑ i ∈ range count, tierAmount reading r i ≤
      ∑ i ∈ range r.prizes.length, tierAmount reading r i := by
    apply sum_le_sum_of_subset_of_nonneg (range_mono hcount)
    intro i _ _
    exact tierAmount_nonneg
  exact hterms.trans (hmore.trans (sum_tierAmount_le reading ht))

theorem openAmount_le (ht : Terms r) : openAmount reading r ≤ r.prizeAmount :=
  openSum_le ht le_rfl

theorem openAmount_congr (hwinners : r'.winners = r.winners) (hprizes : r'.prizes = r.prizes)
    (hprize : r'.prizeAmount = r.prizeAmount) : openAmount reading r' = openAmount reading r := by
  have hclaimed : claimedAt r' = claimedAt r := by
    funext i
    rw [claimedAt, claimedAt, hwinners]
  have hvalue : tierValue reading r' = tierValue reading r := by
    funext tier
    simp only [tierValue, calculateTierPrize, allocatedBefore, tierShare, hprizes, hprize]
  simp only [openAmount, hclaimed, hvalue, hprizes]

theorem openAmount_claimTier {tier : Nat} (hopen : tier < r.winners.length)
    (htier : tier < r.prizes.length) (hunclaimed : claimedAt r tier = false) :
    openAmount reading (r.claimTier tier) = openAmount reading r - tierValue reading r tier := by
  have hvalue : tierValue reading (r.claimTier tier) = tierValue reading r := rfl
  have hterm : ∀ i, (if claimedAt (r.claimTier tier) i then 0
      else tierValue reading (r.claimTier tier) i) =
        (if claimedAt r i then 0 else tierValue reading r i) -
          if i = tier then tierValue reading r i else 0 := by
    intro i
    rw [claimedAt_claimTier hopen, hvalue]
    by_cases hi : i = tier
    · simp [hi, hunclaimed]
    · simp [hi]
  simp only [openAmount, hterm, sum_sub_distrib, Raffle.claimTier_prizes, sum_range_single htier]

theorem Payable.openAmount_markTier {h : Host} {b : Books} {tier : Nat} {winner : Address}
    {amount : Int} (hl : Lifecycle b) (hpay : Payable h b tier winner amount) :
    openAmount h.tierReading (b.markTier tier).raffle =
      openAmount h.tierReading b.raffle - amount := by
  obtain ⟨hlength, -, -, -⟩ := hl.settled (.inl hpay.finalized)
  obtain ⟨hopen, -⟩ := List.getElem?_eq_some_iff.mp hpay.unclaimed
  rw [Books.markTier_raffle, ← tierValue_ok hpay.priced,
    ← openAmount_claimTier hopen (hlength ▸ hopen) hpay.unclaimedAt]
  exact openAmount_congr rfl rfl rfl

theorem claimedAt_of_all (hall : r.winners.all Winner.claimed = true) {tier : Nat}
    (htier : tier < r.winners.length) : claimedAt r tier = true := by
  rw [claimedAt, List.getElem?_eq_getElem htier]
  exact List.all_eq_true.mp hall _ (List.getElem_mem htier)

theorem openAmount_closed (hlength : r.winners.length = r.prizes.length)
    (hall : r.winners.all Winner.claimed = true) : openAmount reading r = 0 := by
  apply sum_eq_zero
  intro i hi
  exact if_pos (claimedAt_of_all hall (hlength ▸ mem_range.mp hi))

theorem bp_le (ht : Terms r) {tier bp : Nat} (hbp : r.prizes[tier]? = some bp) : bp ≤ 10000 := by
  rw [← ht.prizes_sum]
  exact List.single_le_sum (by simp) bp (List.mem_of_getElem? hbp)

theorem tierShare_eq (ht : Terms r) {tier : Nat} (htier : tier < r.prizes.length) :
    tierShare r tier = .ok (share r tier) := by
  have hbp := List.getElem?_eq_getElem htier
  have hscaled := scaled_bounds ht.prize_pos.le (bp_le ht hbp)
  have hprize : r.prizeAmount ≤ 1000000000000000000000 := ht.prize_le
  have hfits : fitsI128 (r.prizeAmount * (r.prizes[tier] : Int)) := by
    refine fits_of_bounds ?_ (by omega)
    simp only [i128Min]
    omega
  have hok : tierShare r tier = .ok ((r.prizeAmount * (r.prizes[tier] : Int)).tdiv 10000) := by
    simp only [tierShare, except_bind_ok, okOr_ok, checkedI128_ok, except_pure_ok]
    exact ⟨_, hbp, _, ⟨hfits, rfl⟩, rfl⟩
  rw [hok, ← tierShare_ok ht.prize_pos.le hok]

theorem allocatedBefore_fits {count : Nat} {allocated : Int}
    (hok : allocatedBefore r count = .ok allocated) : allocated ≤ i128Max := by
  cases count with
  | zero =>
    cases hok
    decide
  | succ count =>
    simp only [allocatedBefore, List.range_succ, List.foldlM_append, List.foldlM_cons,
      List.foldlM_nil, except_bind_ok, okOr_ok, checkedI128_ok, except_pure_ok] at hok
    obtain ⟨before, -, next, ⟨bp, -, scaled, -, lifted, -, hfits, rfl⟩, rfl⟩ := hok
    exact hfits.2

theorem allocatedBefore_ok (hc : TiersComputable r) :
    ∃ allocated, allocatedBefore r (r.prizes.length - 1) = .ok allocated := by
  unfold TiersComputable at hc
  cases hloop : allocatedBefore r (r.prizes.length - 1) with
  | ok allocated => exact ⟨allocated, rfl⟩
  | error e =>
    rw [hloop] at hc
    cases hc

theorem earlierTier_ok (reading : TierReading) (ht : Terms r) {tier : Nat}
    (htier : tier < r.prizes.length) (hlast : tier ≠ r.prizes.length - 1) :
    calculateTierPrize reading r tier = .ok (share r tier) := by
  simp only [calculateTierPrize, except_bind_ok, ensure_ok, exists_const, if_neg hlast]
  exact ⟨ht.prizes_ne, htier, tierShare_eq ht htier⟩

/-- The last tier is the remainder or its share, depending on the reading. -/
theorem lastTier_ok (reading : TierReading) (ht : Terms r) (hc : TiersComputable r) :
    ∃ amount, calculateTierPrize reading r (r.prizes.length - 1) = .ok amount ∧
      i128Min ≤ amount := by
  obtain ⟨allocated, hallocated⟩ := allocatedBefore_ok hc
  have hpositive : 0 < r.prizes.length := List.length_pos_of_ne_nil ht.prizes_ne
  have htier : r.prizes.length - 1 < r.prizes.length := by omega
  simp only [calculateTierPrize, except_bind_ok, ensure_ok, exists_const, if_true]
  cases reading with
  | ifElse =>
    have hbound := allocatedBefore_fits hallocated
    have hnonneg := (allocatedBefore_unscaled ht.prize_pos.le hallocated).1
    have hprize := ht.prize_pos
    have hcap : r.prizeAmount ≤ 1000000000000000000000 := ht.prize_le
    have hbelow : i128Min ≤ r.prizeAmount - allocated := by
      simp only [i128Min]
      simp only [i128Max] at hbound
      omega
    exact ⟨r.prizeAmount - allocated, ⟨ht.prizes_ne, htier, allocated, hallocated,
      checkedI128_ok.mpr ⟨fits_of_bounds hbelow (by omega), rfl⟩⟩, hbelow⟩
  | fallThrough =>
    have hnonneg := share_nonneg ht.prize_pos.le (r.prizes.length - 1)
    refine ⟨share r (r.prizes.length - 1),
      ⟨ht.prizes_ne, htier, allocated, hallocated, tierShare_eq ht htier⟩, ?_⟩
    simp only [i128Min]
    omega

theorem calculateTierPrize_ok (reading : TierReading) (ht : Terms r) (hc : TiersComputable r)
    {tier : Nat} (htier : tier < r.prizes.length) :
    calculateTierPrize reading r tier = .ok (tierValue reading r tier) ∧
      i128Min ≤ tierValue reading r tier := by
  by_cases hlast : tier = r.prizes.length - 1
  · subst hlast
    obtain ⟨amount, hok, hlow⟩ := lastTier_ok reading ht hc
    rw [tierValue_ok hok]
    exact ⟨hok, hlow⟩
  · have hok := earlierTier_ok reading ht htier hlast
    have hnonneg := share_nonneg ht.prize_pos.le tier
    rw [tierValue_ok hok]
    refine ⟨hok, ?_⟩
    simp only [i128Min]
    omega

theorem tiersComputable_congr (hprizes : r'.prizes = r.prizes)
    (hprize : r'.prizeAmount = r.prizeAmount) : TiersComputable r' ↔ TiersComputable r := by
  simp only [TiersComputable, allocatedBefore, hprizes, hprize]

theorem unclaimedPrizeTotal_ok (ht : Terms r) (hc : TiersComputable r)
    (hwinners : r.winners.length = r.prizes.length) (hdeposited : r.prizeDeposited = true)
    (hfinalized : r.status = .finalized) :
    unclaimedPrizeTotal reading r = .ok (openAmount reading r) := by
  have hprize : r.prizeAmount ≤ 1000000000000000000000 := ht.prize_le
  rw [unclaimedPrizeTotal, if_neg (by simp [hdeposited]), if_neg (by simp [hfinalized]), hwinners,
    List.range_eq_range']
  refine (foldlM_range' (f := fun i => if claimedAt r i then 0 else tierValue reading r i) ?_).trans
    (by simp only [zero_add, openAmount])
  intro m hm
  simp only [zero_add]
  have hlow : 0 ≤ ∑ i ∈ range m, if claimedAt r i then 0 else tierValue reading r i :=
    openSum_nonneg ht hm
  have hhigh : ∑ i ∈ range (m + 1), (if claimedAt r i then 0 else tierValue reading r i) ≤
      r.prizeAmount := openSum_le ht hm
  obtain ⟨hamount, hfloor⟩ := calculateTierPrize_ok reading ht hc hm
  change (if claimedAt r m then _ else _) = _
  rw [sum_range_succ] at hhigh ⊢
  by_cases hclaimed : claimedAt r m = true
  · simp [hclaimed]
  · rw [if_neg hclaimed] at hhigh ⊢
    rw [if_neg hclaimed, hamount]
    apply trapI128_ok.mpr
    refine ⟨fits_of_bounds ?_ ?_, rfl⟩
    · omega
    · omega

theorem outstandingPrize_finalized {prize : Int} (hwinners : r.winners.length = r.prizes.length)
    (hdeposited : r.prizeDeposited = true) (hfinalized : r.status = .finalized)
    (hok : outstandingPrize reading r = .ok prize) : prize = openAmount reading r := by
  rw [outstandingPrize, if_neg (by simp [hdeposited]), if_neg (by simp [hfinalized]), hwinners]
    at hok
  have hsum : prize = 0 + ((List.range r.prizes.length).map fun i =>
      if claimedAt r i then 0 else tierValue reading r i).sum := by
    apply foldlM_sum _ hok
    intro acc tier acc' _ hround
    change (if claimedAt r tier then _ else _) = _ at hround
    split at hround
    next hclaimed =>
      cases hround
      simp [hclaimed]
    next hopen =>
      simp only [except_bind_ok, checkedI128_ok] at hround
      obtain ⟨amount, hamount, -, rfl⟩ := hround
      rw [if_neg hopen, tierValue_ok hamount]
  rw [hsum, zero_add]
  rfl

/-- A tier may be overdrawn, but the total stays in range. -/
theorem openAmount_ge (ht : Terms r) (hc : TiersComputable r) :
    i128Min ≤ openAmount reading r := by
  have htiers : 0 < r.prizes.length := List.length_pos_of_ne_nil ht.prizes_ne
  have hlast : r.prizes.length - 1 < r.prizes.length := by omega
  have hbefore : 0 ≤ ∑ i ∈ range (r.prizes.length - 1),
      if claimedAt r i then 0 else tierValue reading r i := openSum_nonneg ht hlast
  have hfloor := (calculateTierPrize_ok reading ht hc hlast).2
  rw [openAmount, sum_tiers_split ht]
  split
  · simp only [i128Min]
    omega
  · omega

theorem discount_mono {price unit : Int} {bp : Nat} (hprice : 0 ≤ price) (hunit : price ≤ unit)
    (hbp : bp ≤ 10000) :
    price - (price * bp).tdiv 10000 ≤ unit - (unit * bp).tdiv 10000 := by
  have hlow := scaled_bounds hprice hbp
  have hhigh := scaled_bounds (hprice.trans hunit) hbp
  have hstep := (scaled_bounds (sub_nonneg.mpr hunit) hbp).2
  rw [sub_mul, sub_mul] at hstep
  rw [Int.tdiv_eq_ediv_of_nonneg hlow.1, Int.tdiv_eq_ediv_of_nonneg hhigh.1]
  omega

theorem paymentOf_next {quantity j : Nat} (hj : j < quantity) :
    paymentOf r (1 + (r.ticketsSold + j)) = r.ticketPrice -
      if j < earlyBirdQuantity r quantity then (r.ticketPrice * r.earlyBirdDiscountBp).tdiv 10000
      else 0 := by
  have hwindow : FullPrice r (1 + (r.ticketsSold + j)) ↔ ¬j < earlyBirdQuantity r quantity := by
    unfold FullPrice earlyBirdLimit earlyBirdQuantity
    rcases Nat.eq_zero_or_pos r.earlyBirdTicketPercentage with hnone | hsome
    · simp [hnone]
    · rcases Nat.eq_zero_or_pos r.earlyBirdDiscountBp with hzero | hpos
      · simp [hzero]
      · rw [if_pos ⟨hsome, hpos⟩]
        omega
  unfold paymentOf
  by_cases hcut : j < earlyBirdQuantity r quantity
  · rw [if_neg (by simp [hwindow, hcut]), if_pos hcut]
  · rw [if_pos (hwindow.mpr hcut), if_neg hcut, sub_zero]

theorem earlyBirdQuantity_le (r : Raffle) (quantity : Nat) :
    earlyBirdQuantity r quantity ≤ quantity := by
  unfold earlyBirdQuantity
  split
  · exact min_le_right ..
  · exact Nat.zero_le _

theorem sum_next_payments (r : Raffle) (quantity : Nat) :
    ∑ j ∈ range quantity, paymentOf r (1 + (r.ticketsSold + j)) = r.ticketPrice * quantity -
      (r.ticketPrice * r.earlyBirdDiscountBp).tdiv 10000 * earlyBirdQuantity r quantity := by
  rw [sum_congr rfl fun j hj => paymentOf_next (mem_range.mp hj), sum_sub_distrib,
    sum_range_cut (earlyBirdQuantity_le r quantity)]
  simp [mul_comm]

theorem discounted_total_mono {price unit priceCut unitCut : Int} {cut count : Nat}
    (hcut : cut ≤ count) (hunit : price ≤ unit) (hnet : price - priceCut ≤ unit - unitCut) :
    price * count - priceCut * cut ≤ unit * count - unitCut * cut := by
  obtain ⟨rest, rfl⟩ := Nat.exists_eq_add_of_le hcut
  have hinside := Int.mul_le_mul_of_nonneg_right hnet (Int.natCast_nonneg cut)
  have houtside := Int.mul_le_mul_of_nonneg_right hunit (Int.natCast_nonneg rest)
  push_cast
  rw [sub_mul, sub_mul] at hinside
  rw [mul_add, mul_add]
  omega

/-- A purchase at the list price or above covers the payments it is counted
with. -/
theorem payments_le_charge (ht : Terms r) {order : Order}
    (hunit : order.bundled = true → r.ticketPrice ≤ bundleUnit r order.quantity) :
    ∑ j ∈ range order.quantity, paymentOf r (1 + (r.ticketsSold + j)) ≤ order.charge r := by
  have hprice := ht.price_pos.le
  have hpayments := sum_next_payments r order.quantity
  by_cases hbundled : order.bundled = true
  · rw [Order.charge, if_pos hbundled, hpayments, earlyBirdCut]
    rcases Nat.eq_zero_or_pos (earlyBirdQuantity r order.quantity) with hnone | hsome
    · have hlist := Int.mul_le_mul_of_nonneg_right (hunit hbundled)
        (Int.natCast_nonneg order.quantity)
      rw [hnone]
      omega
    · apply discounted_total_mono (earlyBirdQuantity_le r order.quantity) (hunit hbundled)
      apply discount_mono hprice (hunit hbundled)
      apply ht.earlyBird_le
      by_contra hzero
      simp [earlyBirdQuantity, hzero] at hsome
  · rw [Order.charge, if_neg hbundled]
    calc ∑ j ∈ range order.quantity, paymentOf r (1 + (r.ticketsSold + j))
        ≤ ∑ _j ∈ range order.quantity, r.ticketPrice :=
          sum_le_sum fun j _ => (paymentOf_bounds ht (by omega)).2
      _ = r.ticketPrice * order.quantity := by simp [mul_comm]

end TikkaRaffle.Escrow
