import TikkaRaffle.Escrow.Exits
import TikkaRaffle.Escrow.Obligations

/-! The dust sweep of a claimed raffle. The entitlement it spares is the shared
one, which counts the whole prize outside `Finalized` and the fees only before
the draw. -/
namespace TikkaRaffle.Properties

open TikkaRaffle.Lib TikkaRaffle.Instance TikkaRaffle.Escrow

variable {h : Host} {c : Ctx} {w w' : World} {r : Raffle} {treasury admin : Address}

/-- Everything above the fees is at the treasury and the fees are left. -/
structure DustSettled (h : Host) (w : World) (r : Raffle) (treasury : Address) (w' : World) :
    Prop where
  paid : PaidTo h.self r.paymentToken treasury
    (w.balance r.paymentToken h.self - w.accumulatedFees.getD 0) w w'
  left : w'.balance r.paymentToken h.self = w.accumulatedFees.getD 0

/-- A claimed raffle is taken to owe its prize once more, and nothing else. -/
theorem entitlement_claimed {reading : TierReading} {refunded : Nat → Option Bool} {fees : Int}
    (ht : Terms r) (hdeposited : r.prizeDeposited = true) (hclaimed : r.status = .claimed) :
    tokenEntitlement reading refunded fees r r.paymentToken = .ok r.prizeAmount := by
  have hprize : r.prizeAmount ≤ 1000000000000000000000 := ht.prize_le
  have hpos := ht.prize_pos
  have howed : outstandingPrize reading r = .ok r.prizeAmount :=
    outstandingPrize_undrawn hdeposited (by simp [hclaimed])
  simp only [tokenEntitlement, ht.token, hclaimed, ne_eq, not_true, and_false, if_false, if_true,
    except_bind_ok, howed, Except.ok.injEq, exists_eq_left', zero_add, checkedI128_ok, and_true]
  apply fits_of_bounds
  · simp only [i128Min]
    omega
  · omega

theorem fees_of_dustSettled (ht : Terms r) (hdeposited : r.prizeDeposited = true)
    (hr : w.raffle = some r) (hclaimed : r.status = .claimed)
    (htreasury : r.treasuryAddress = some treasury) (hok : sweepDust h c w = .ok w')
    (hsettled : DustSettled h w r treasury w') :
    w.accumulatedFees.getD 0 = r.prizeAmount ∧
      (treasury = h.self → w.balance r.paymentToken h.self = w.accumulatedFees.getD 0) := by
  obtain ⟨-, -, target, entitlement, htarget, hentitlement, hswept⟩ := sweepDust_releases hr hok
  rw [htreasury, Option.some.injEq] at htarget
  subst htarget
  rw [entitlement_claimed ht hdeposited hclaimed, Except.ok.injEq] at hentitlement
  subst hentitlement
  obtain ⟨hheld, hview⟩ | ⟨hdust, hview⟩ := hswept
  · have hnone : PaidTo h.self r.paymentToken treasury 0 w w' :=
      .nothing (congrArg Books.transfers hview)
    have htotal := hsettled.paid.unique hnone
    exact ⟨by omega, fun _ => by omega⟩
  · have hmoved : PaidTo h.self r.paymentToken treasury
        (w.balance r.paymentToken h.self - r.prizeAmount) w w' :=
      .one (congrArg Books.transfers hview)
    have htotal := hsettled.paid.unique hmoved
    refine ⟨by omega, fun hself => ?_⟩
    have hleft : w'.balance r.paymentToken h.self = _ := congrArg Books.held hview
    rw [hsettled.left, hself] at hleft
    simp [Books.post, netInflow, inflow, view] at hleft
    omega

theorem sweepDust_claimed (ht : Terms r) (hdeposited : r.prizeDeposited = true)
    (hr : w.raffle = some r) (hclaimed : r.status = .claimed)
    (htreasury : r.treasuryAddress = some treasury) (hadmin : requireAdmin h c w = .ok admin)
    {dust : Int} (hdust : w.balance r.paymentToken h.self - r.prizeAmount = dust)
    (hnonneg : 0 ≤ dust) (hbalance : w.balance r.paymentToken h.self ≤ i128Max) :
    sweepDust h c w = .ok (if 0 < dust then
      emit (applyTransfer w .dust r.paymentToken h.self treasury dust)
        (.dustSwept admin r.paymentToken treasury dust c.timestamp) else w) := by
  have hpos := ht.prize_pos
  have hfits : fitsI128 dust := by
    refine ⟨?_, by omega⟩
    simp only [i128Min]
    omega
  have hentitled : tokenEntitlement h.tierReading w.ticketRefunded (w.accumulatedFees.getD 0) r
      r.paymentToken = .ok r.prizeAmount := entitlement_claimed ht hdeposited hclaimed
  simp only [sweepDust, except_bind_ok, hadmin, readRaffle_ok, hr, Option.some.injEq, ensure_ok,
    okOr_ok, htreasury, hentitled, trapI128_ok, exists_const, exists_eq_left', hclaimed, hdust,
    Except.ok.injEq]
  refine ⟨.inl trivial, by simp, by omega, dust, ⟨hfits, rfl⟩, ?_⟩
  split
  next =>
    have hfunds : transferAllowed w r.paymentToken h.self dust := ⟨hnonneg, by omega⟩
    rw [tryTransfer, if_pos hfunds]
    rfl
  next => rfl

/-- With the fees equal to the prize the entitlement is right after all. -/
theorem dustSettled_of_fees (ht : Terms r) (hdeposited : r.prizeDeposited = true)
    (hr : w.raffle = some r) (hclaimed : r.status = .claimed)
    (htreasury : r.treasuryAddress = some treasury) (hadmin : requireAdmin h c w = .ok admin)
    (hcovered : w.accumulatedFees.getD 0 ≤ w.balance r.paymentToken h.self)
    (hbalance : w.balance r.paymentToken h.self ≤ i128Max)
    (hfees : w.accumulatedFees.getD 0 = r.prizeAmount)
    (hself : treasury = h.self → w.balance r.paymentToken h.self = w.accumulatedFees.getD 0) :
    ∃ w', sweepDust h c w = .ok w' ∧ DustSettled h w r treasury w' := by
  have hswept := sweepDust_claimed ht hdeposited hr hclaimed htreasury hadmin rfl (by omega)
    hbalance
  refine ⟨_, hswept, ?_, ?_⟩
  · rw [hfees]
    split
    next => exact .one rfl
    next hnone =>
      have hzero : w.balance r.paymentToken h.self - r.prizeAmount = 0 := by omega
      rw [hzero]
      exact .nothing rfl
  · split
    next hdust =>
      have hne : treasury ≠ h.self := fun heq => by
        have hexact := hself heq
        omega
      change moveBalance w.balance r.paymentToken h.self treasury _ r.paymentToken h.self = _
      rw [moveBalance_self, hfees]
      simp [inflow, hne]
    next => omega

/-- In every reachable claimed raffle the admin's dust sweep sends what exceeds
the fees to the treasury and leaves the fees, if and only if the fees equal the
prize and, should the treasury be the raffle itself, nothing exceeds them. -/
theorem dust_settles_iff {w₀ : World} (hinit : Initialised h w₀) (calls : List Invocation)
    (hr : ((machine h).run w₀ calls).raffle = some r) (hclaimed : r.status = .claimed)
    (htreasury : r.treasuryAddress = some treasury)
    (hadmin : requireAdmin h c ((machine h).run w₀ calls) = .ok admin)
    (hcovered : ((machine h).run w₀ calls).accumulatedFees.getD 0 ≤
      ((machine h).run w₀ calls).balance r.paymentToken h.self)
    (hbalance : ((machine h).run w₀ calls).balance r.paymentToken h.self ≤ i128Max) :
    (∃ w', sweepDust h c ((machine h).run w₀ calls) = .ok w' ∧
      DustSettled h ((machine h).run w₀ calls) r treasury w') ↔
        ((machine h).run w₀ calls).accumulatedFees.getD 0 = r.prizeAmount ∧
          (treasury = h.self → ((machine h).run w₀ calls).balance r.paymentToken h.self =
            ((machine h).run w₀ calls).accumulatedFees.getD 0) := by
  have hl := (lifecycle_always hinit calls).last.view hr
  obtain ⟨-, -, -, hdeposited⟩ := hl.settled (.inr hclaimed)
  constructor
  · rintro ⟨w', hok, hsettled⟩
    exact fees_of_dustSettled hl.terms hdeposited hr hclaimed htreasury hok hsettled
  · rintro ⟨hfees, hself⟩
    exact dustSettled_of_fees hl.terms hdeposited hr hclaimed htreasury hadmin hcovered hbalance
      hfees hself

def halvedConfig : RaffleConfig := { Sample.config with protocolFeeBp := 5000 }

/-- The two purchases and the claim book fees of 20000, the prize; 15000 more
are sent in from outside. -/
def halvedRun : List Invocation :=
  [Sample.signed [Sample.creator] 1 1 .depositPrize,
    Sample.signed [Sample.buyer] 2 2 (.buyTickets Sample.buyer 2),
    Sample.signed [Sample.creator] 1000 3 .finalizeRaffle,
    Sample.signed [Sample.buyer] 5000 4 (.claimPrize Sample.buyer 0),
    Sample.signed [Sample.buyer] 5001 5
      (.tokenTransfer Sample.token Sample.buyer Sample.self 15000)]

def sweepCtx : Ctx := Sample.ctx 6000 6 [Sample.admin]

theorem dust_settles_iff_halvedRun :
    ∃ r, r ∈ (Sample.after .ifElse halvedConfig halvedRun).raffle ∧
      ∃ w', sweepDust (Sample.host .ifElse) sweepCtx
          (Sample.after .ifElse halvedConfig halvedRun) = .ok w' ∧
        DustSettled (Sample.host .ifElse) (Sample.after .ifElse halvedConfig halvedRun) r
          Sample.treasury w' := by
  have hsome : ∃ r, r ∈ (Sample.after .ifElse halvedConfig halvedRun).raffle ∧
      r.status = .claimed ∧ r.treasuryAddress = some Sample.treasury ∧
      requireAdmin (Sample.host .ifElse) sweepCtx (Sample.after .ifElse halvedConfig halvedRun) =
        .ok Sample.admin ∧
      (Sample.after .ifElse halvedConfig halvedRun).accumulatedFees.getD 0 ≤
        (Sample.after .ifElse halvedConfig halvedRun).balance r.paymentToken Sample.self ∧
      (Sample.after .ifElse halvedConfig halvedRun).balance r.paymentToken Sample.self ≤ i128Max ∧
      (Sample.after .ifElse halvedConfig halvedRun).accumulatedFees.getD 0 = r.prizeAmount := by
    decide +kernel
  obtain ⟨r, hr, hclaimed, htreasury, hadmin, hcovered, hbalance, hfees⟩ := hsome
  exact ⟨r, hr, (dust_settles_iff (Sample.start_initialised (by decide +kernel)) halvedRun hr
    hclaimed htreasury hadmin hcovered hbalance).mpr ⟨hfees, nofun⟩⟩

def awardedRun : List Invocation :=
  Sample.awaitingRun ++ [Sample.signed [Sample.buyer] 5000 4 (.claimPrize Sample.buyer 0)]

/-- The sweep counts the paid prize once more and refuses. -/
theorem settled_dust_stays :
    Initialised (Sample.host .ifElse) (Sample.start .ifElse Sample.config) ∧
    ∃ r, r ∈ (Sample.after .ifElse Sample.config awardedRun).raffle ∧
      r.status = .claimed ∧ r.treasuryAddress = some Sample.treasury ∧
      requireAdmin (Sample.host .ifElse) sweepCtx
        (Sample.after .ifElse Sample.config awardedRun) = .ok Sample.admin ∧
      (Sample.after .ifElse Sample.config awardedRun).accumulatedFees.getD 0 = 0 ∧
      (Sample.after .ifElse Sample.config awardedRun).balance r.paymentToken Sample.self = 10000 ∧
      (sweepDust (Sample.host .ifElse) sweepCtx
        (Sample.after .ifElse Sample.config awardedRun)).isOk = false :=
  ⟨Sample.start_initialised (by decide +kernel), by decide +kernel⟩

end TikkaRaffle.Properties
