import TikkaRaffle.Escrow.Margin
import TikkaRaffle.Escrow.Obligations
import TikkaRaffle.Escrow.Terms

/-! Sweeping an expired raffle to its end. The windows pass over tiers without a
positive amount, and such a tier is never marked, so the sweeps settle the
raffle exactly when every open tier has one. -/
namespace TikkaRaffle.Properties

open TikkaRaffle.Lib TikkaRaffle.Instance TikkaRaffle.Escrow Constants

def drain (h : Host) (ctxs : Nat → Ctx) : Nat → Nat → World → Result World
  | _, 0, w => .ok w
  | window, count + 1, w =>
      if StatusIn (· = .claimed) w then .ok w
      else do
        let (w, _) ← sweepUnclaimed h (ctxs window) w (window * maxSweepUnclaimedPerCall) 0
        drain h ctxs (window + 1) count w

/-- Every winner is marked, the raffle is claimed, and `total` has gone to the
treasury. -/
structure Drained (h : Host) (w : World) (r : Raffle) (treasury : Address) (total : Int)
    (w' : World) : Prop where
  settled : ∃ r', w'.raffle = some r' ∧ r'.status = .claimed ∧
    r'.winners.length = r.winners.length ∧ r'.winners.all Winner.claimed = true
  paid : PaidTo h.self r.prizeToken treasury total w w'

def Sweepable (reading : TierReading) (r : Raffle) : Prop :=
  ∀ tier < r.winners.length, claimedAt r tier = false →
    ∃ amount, calculateTierPrize reading r tier = .ok amount ∧ 0 < amount

variable {h : Host} {c : Ctx} {w w' : World} {r r' : Raffle} {treasury : Address}

structure Swept (h : Host) (treasury : Address) (low high : Nat) (w : World) (r : Raffle)
    (w' : World) (r' : Raffle) : Prop where
  same : r' = { r with winners := r'.winners }
  length : r'.winners.length = r.winners.length
  claimed : ∀ tier < r.winners.length,
    claimedAt r' tier = true ↔ claimedAt r tier = true ∨ low ≤ tier ∧ tier < high
  guard : w'.reentrancyGuard = w.reentrancyGuard
  covered : openAmount h.tierReading r' ≤ w'.balance r.prizeToken h.self
  paid : PaidTo h.self r.prizeToken treasury
    (openAmount h.tierReading r - openAmount h.tierReading r') w w'

namespace Swept

theorem refl (low : Nat) (hcovered : openAmount h.tierReading r ≤ w.balance r.prizeToken h.self) :
    Swept h treasury low low w r w r where
  same := rfl
  length := rfl
  claimed tier _ := by
    refine ⟨.inl, fun hor => hor.resolve_right fun hwindow => ?_⟩
    omega
  guard := rfl
  covered := hcovered
  paid := by
    rw [sub_self]
    exact .nothing rfl

theorem trans {low middle high : Nat} {w₁ : World} {r₁ : Raffle} (hlow : low ≤ middle)
    (hhigh : middle ≤ high) (hfirst : Swept h treasury low middle w r w₁ r₁)
    (hlast : Swept h treasury middle high w₁ r₁ w' r') : Swept h treasury low high w r w' r' := by
  have htoken : r₁.prizeToken = r.prizeToken := by rw [hfirst.same]
  have hpaid := hfirst.paid.trans (htoken ▸ hlast.paid)
  rw [sub_add_sub_cancel] at hpaid
  refine ⟨?_, hlast.length.trans hfirst.length, fun tier htier => ?_,
    hlast.guard.trans hfirst.guard, htoken ▸ hlast.covered, hpaid⟩
  · rw [hlast.same, hfirst.same]
  · rw [hlast.claimed tier (hfirst.length ▸ htier), hfirst.claimed tier htier, or_assoc]
    refine or_congr_right ⟨fun hor => ?_, fun hwindow => ?_⟩ <;> omega

theorem sweepable {low high : Nat} (hs : Swept h treasury low high w r w' r')
    (hsweepable : Sweepable h.tierReading r) : Sweepable h.tierReading r' := by
  intro tier htier hopen
  have htier' : tier < r.winners.length := hs.length ▸ htier
  have hbefore : claimedAt r tier = false :=
    Bool.eq_false_iff.mpr fun hclaimed => by
      rw [(hs.claimed tier htier').mpr (.inl hclaimed)] at hopen
      cases hopen
  obtain ⟨amount, hamount, hpos⟩ := hsweepable tier htier' hbefore
  rw [hs.same]
  exact ⟨amount, hamount, hpos⟩

end Swept

theorem tierValue_le_open (hsweepable : Sweepable h.tierReading r)
    (hlength : r.winners.length = r.prizes.length) {tier : Nat} (htier : tier < r.winners.length)
    (hopen : claimedAt r tier = false) :
    tierValue h.tierReading r tier ≤ openAmount h.tierReading r := by
  have hterm : tierValue h.tierReading r tier =
      if claimedAt r tier then 0 else tierValue h.tierReading r tier := by
    rw [hopen]
    rfl
  rw [hterm]
  refine Finset.single_le_sum (f := fun i => if claimedAt r i then 0
    else tierValue h.tierReading r i) (fun i hi => ?_) (Finset.mem_range.mpr (hlength ▸ htier))
  by_cases hclaimed : claimedAt r i = true
  · simp [hclaimed]
  · have hi : i < r.winners.length := hlength ▸ Finset.mem_range.mp hi
    obtain ⟨amount, hamount, hpos⟩ := hsweepable i hi (Bool.eq_false_iff.mpr hclaimed)
    simp only [hclaimed, Bool.false_eq_true, if_false, tierValue_ok hamount]
    exact hpos.le

theorem swept_claimed {tier : Nat} (hclaimed : claimedAt r tier = true)
    (hcovered : openAmount h.tierReading r ≤ w.balance r.prizeToken h.self) :
    Swept h treasury tier (tier + 1) w r w r where
  same := rfl
  length := rfl
  claimed other _ := by
    refine ⟨.inl, fun hor => hor.elim id fun hwindow => ?_⟩
    obtain rfl : other = tier := by omega
    exact hclaimed
  guard := rfl
  covered := hcovered
  paid := by
    rw [sub_self]
    exact .nothing rfl

theorem swept_paid {tier : Nat} {amount : Int} (published : Event) (htier : tier < r.winners.length)
    (hlength : r.winners.length = r.prizes.length) (hopen : claimedAt r tier = false)
    (hamount : calculateTierPrize h.tierReading r tier = .ok amount) (hpos : 0 < amount)
    (hcovered : openAmount h.tierReading r ≤ w.balance r.prizeToken h.self) :
    Swept h treasury tier (tier + 1) w r
      (emit (applyTransfer w (.prizeSweep tier) r.prizeToken h.self treasury amount) published)
      (r.claimTier tier) := by
  have hless : openAmount h.tierReading (r.claimTier tier) =
      openAmount h.tierReading r - amount := by
    rw [openAmount_claimTier htier (hlength ▸ htier) hopen, tierValue_ok hamount]
  refine ⟨rfl, Lifecycle.markClaimed_length _ tier, fun other _ => ?_, rfl, ?_, ?_⟩
  · rw [claimedAt_claimTier htier]
    by_cases hother : other = tier
    · simp [hother]
    · rw [if_neg hother]
      refine ⟨.inl, fun hor => hor.resolve_right fun hwindow => ?_⟩
      omega
  · rw [hless]
    change _ ≤ moveBalance w.balance r.prizeToken h.self treasury amount r.prizeToken h.self
    rw [moveBalance_self]
    simp only [inflow, if_true]
    split <;> omega
  · rw [hless, sub_sub_cancel]
    exact .one rfl

theorem sweepTiers_some {tier count : Nat} (hsweepable : Sweepable h.tierReading r)
    (hlength : r.winners.length = r.prizes.length) (hcount : tier + count ≤ r.winners.length)
    (hcovered : openAmount h.tierReading r ≤ w.balance r.prizeToken h.self) (swept : Nat) :
    ∃ w' r' n, sweepTiers h c treasury w r tier count swept = .ok (w', r', n) ∧
      Swept h treasury tier (tier + count) w r w' r' := by
  induction count generalizing w r tier swept with
  | zero => exact ⟨w, r, swept, rfl, .refl tier hcovered⟩
  | succ count ih =>
    have htier : tier < r.winners.length := by omega
    have hentry := List.getElem?_eq_getElem htier
    have hstep : ∀ {w₁ r₁}, Swept h treasury tier (tier + 1) w r w₁ r₁ → ∀ swept₁,
        ∃ w' r' n, sweepTiers h c treasury w₁ r₁ (tier + 1) count swept₁ = .ok (w', r', n) ∧
          Swept h treasury tier (tier + (count + 1)) w r w' r' := by
      intro w₁ r₁ hs swept₁
      have hprizes : r₁.prizes = r.prizes := by rw [hs.same]
      have htoken : r₁.prizeToken = r.prizeToken := by rw [hs.same]
      have hleft : tier + 1 + count ≤ r₁.winners.length := by
        rw [hs.length]
        omega
      obtain ⟨w', r', n, hrest, hlast⟩ := ih (hs.sweepable hsweepable)
        (by rw [hs.length, hprizes, hlength]) hleft (by rw [htoken]; exact hs.covered) swept₁
      have hend : tier + 1 + count = tier + (count + 1) := by omega
      rw [← hend]
      exact ⟨w', r', n, hrest,
        hs.trans (Nat.le_succ tier) (Nat.le_add_right (tier + 1) count) hlast⟩
    by_cases hclaimed : claimedAt r tier = true
    · have hentry' : (r.winners[tier]).claimed = true := by
        rw [claimedAt, hentry] at hclaimed
        exact hclaimed
      obtain ⟨w', r', n, hrest, hs⟩ := hstep (swept_claimed hclaimed hcovered) swept
      refine ⟨w', r', n, ?_, hs⟩
      simp only [sweepTiers, hentry, okOr, bind, Except.bind, hentry', if_true]
      exact hrest
    · have hopen := Bool.eq_false_iff.mpr hclaimed
      obtain ⟨amount, hamount, hpos⟩ := hsweepable tier htier hopen
      have hentry' : (r.winners[tier]).claimed = false := by
        rw [claimedAt, hentry] at hopen
        exact hopen
      have hfunds : transferAllowed w r.prizeToken h.self amount := by
        have hwithin := tierValue_le_open hsweepable hlength htier hopen
        rw [tierValue_ok hamount] at hwithin
        exact ⟨hpos.le, hwithin.trans hcovered⟩
      obtain ⟨w', r', n, hrest, hs⟩ := hstep (swept_paid
        (.prizeSwept (r.winners[tier]).address tier treasury amount c.timestamp) htier hlength hopen
          hamount hpos hcovered) (swept + 1)
      refine ⟨w', r', n, ?_, hs⟩
      simp only [sweepTiers, hentry, okOr, bind, Except.bind, hentry', hamount,
        if_neg hpos.not_ge, tryTransfer, if_pos hfunds]
      exact hrest

structure Expired (h : Host) (ctxs : Nat → Ctx) (treasury : Address) (w : World) (r : Raffle) :
    Prop where
  free : w.reentrancyGuard = none
  stored : w.raffle = some r
  finalized : r.status = .finalized
  openTier : r.winners.all Winner.claimed = false
  length : r.winners.length = r.prizes.length
  tiers : r.winners.length ≤ maxPrizes
  expiry : r.claimExpirySeconds ≠ 0
  treasury : r.treasuryAddress = some treasury
  time : ∃ finalizedAt, r.finalizedAt = some finalizedAt ∧ ∀ window,
    finalizedAt + r.claimExpirySeconds ≤ (ctxs window).timestamp ∧ (ctxs window).timestamp < 2 ^ 64
  covered : openAmount h.tierReading r ≤ w.balance r.prizeToken h.self

theorem sweepUnclaimed_some {ctxs : Nat → Ctx} {start window : Nat}
    (hexpired : Expired h ctxs treasury w r) (hsweepable : Sweepable h.tierReading r)
    (hstart : start < r.winners.length) :
    ∃ w₁ r₁ w' n, Swept h treasury start (min (start + 10) r.winners.length) w r w₁ r₁ ∧
      sweepUnclaimed h (ctxs window) w start 0 = .ok (w', n) ∧
      w'.raffle = some (settledRaffle r₁) ∧ w'.reentrancyGuard = w₁.reentrancyGuard ∧
      w'.balance = w₁.balance ∧ w'.transfers = w₁.transfers := by
  obtain ⟨finalizedAt, hfinalizedAt, htime⟩ := hexpired.time
  obtain ⟨hopens, hbound⟩ := htime window
  have htiers : r.winners.length ≤ 100 := hexpired.tiers
  have hend : min (saturateU32 (start + maxSweepUnclaimedPerCall)) r.winners.length =
      min (start + 10) r.winners.length := by
    simp only [saturateU32, maxSweepUnclaimedPerCall]
    omega
  have hcount : start + (min (start + 10) r.winners.length - start) =
      min (start + 10) r.winners.length := by omega
  have hwithin : start + (min (start + 10) r.winners.length - start) ≤ r.winners.length := by omega
  obtain ⟨w₁, r₁, n, hsweep, hswept⟩ : ∃ w₁ r₁ n, sweepTiers h (ctxs window) treasury w r start
      (min (start + 10) r.winners.length - start) 0 = .ok (w₁, r₁, n) ∧ Swept h treasury start
        (start + (min (start + 10) r.winners.length - start)) w r w₁ r₁ :=
    sweepTiers_some hsweepable hexpired.length hwithin hexpired.covered 0
  rw [hcount] at hswept
  have hfinalized : r₁.status = .finalized := by rw [hswept.same, ← hexpired.finalized]
  obtain ⟨w₂, hsettle, hguard, hbalance, htransfers, -⟩ :=
    settleIfAllClaimed_some w₁ hfinalized (ctxs window).timestamp
  refine ⟨w₁, r₁, writeRaffle w₂ (settledRaffle r₁), n, hswept, ?_, rfl, hguard, hbalance,
    htransfers⟩
  have hfree := acquireGuard_some hexpired.free
  simp only [sweepUnclaimed, except_bind_ok, readRaffle_ok, hexpired.stored, Option.some.injEq,
    exists_eq_left', ensure_ok, okOr_ok, trapU64_ok, exists_const, hexpired.finalized, hfinalizedAt,
    hexpired.treasury, if_neg (Nat.not_le.mpr hstart), hend, if_true, hsweep]
  exact ⟨_, hfree, trivial, hexpired.expiry, _, ⟨hopens.trans_lt hbound, rfl⟩, hopens, _, rfl, _,
    hsettle, rfl⟩

theorem all_claimed (hall : ∀ tier < r.winners.length, claimedAt r tier = true) :
    r.winners.all Winner.claimed = true := by
  refine List.all_eq_true.mpr fun entry hentry => ?_
  obtain ⟨tier, htier, rfl⟩ := List.getElem_of_mem hentry
  have hclaimed := hall tier htier
  rw [claimedAt, List.getElem?_eq_getElem htier] at hclaimed
  exact hclaimed

theorem drain_claimed {ctxs : Nat → Ctx} (window count : Nat)
    (hclaimed : StatusIn (· = .claimed) w) :
    drain h ctxs window count w = .ok w := by
  cases count with
  | zero => rfl
  | succ count => rw [drain, if_pos hclaimed]

/-- A window that leaves a tier open leaves the gates as they were. -/
theorem Expired.next {ctxs : Nat → Ctx} {low high : Nat} {w₁ w₂ : World} {r₁ : Raffle}
    (hexpired : Expired h ctxs treasury w r) (hswept : Swept h treasury low high w r w₁ r₁)
    (hguard : w₂.reentrancyGuard = w₁.reentrancyGuard) (hstored : w₂.raffle = some r₁)
    (hbalance : w₂.balance = w₁.balance) (hopen : r₁.winners.all Winner.claimed = false) :
    Expired h ctxs treasury w₂ r₁ where
  free := by rw [hguard, hswept.guard, hexpired.free]
  stored := hstored
  finalized := by
    rw [hswept.same]
    exact hexpired.finalized
  openTier := hopen
  length := by
    have hprizes : r₁.prizes = r.prizes := by rw [hswept.same]
    rw [hswept.length, hprizes, hexpired.length]
  tiers := hswept.length ▸ hexpired.tiers
  expiry := by
    rw [hswept.same]
    exact hexpired.expiry
  treasury := by
    rw [hswept.same]
    exact hexpired.treasury
  time := by
    rw [hswept.same]
    exact hexpired.time
  covered := by
    have htoken : r₁.prizeToken = r.prizeToken := by rw [hswept.same]
    rw [hbalance, htoken]
    exact hswept.covered

theorem Expired.more {ctxs : Nat → Ctx} {window : Nat} (hexpired : Expired h ctxs treasury w r)
    (hdone : ∀ tier < r.winners.length, tier < window * 10 → claimedAt r tier = true) :
    window * 10 < r.winners.length := by
  by_contra hpast
  have hall := all_claimed fun tier htier => hdone tier htier (by omega)
  rw [hexpired.openTier] at hall
  cases hall

theorem drain_some {ctxs : Nat → Ctx} {window count : Nat}
    (hexpired : Expired h ctxs treasury w r) (hsweepable : Sweepable h.tierReading r)
    (hdone : ∀ tier < r.winners.length, tier < window * 10 → claimedAt r tier = true)
    (hcount : r.winners.length ≤ (window + count) * 10) :
    ∃ w', drain h ctxs window count w = .ok w' ∧
      Drained h w r treasury (openAmount h.tierReading r) w' := by
  have hmore := hexpired.more hdone
  induction count generalizing w r window with
  | zero => omega
  | succ count ih =>
    have hactive : ¬StatusIn (· = .claimed) w := fun hclaimed => by
      have hstatus := hclaimed.stored hexpired.stored
      rw [hexpired.finalized] at hstatus
      cases hstatus
    obtain ⟨w₁, r₁, w₂, n, hswept, hsweep, hstored, hguard, hbalance, htransfers⟩ :=
      sweepUnclaimed_some hexpired hsweepable hmore
    have hrest : drain h ctxs window (count + 1) w = drain h ctxs (window + 1) count w₂ := by
      rw [drain, if_neg hactive, maxSweepUnclaimedPerCall, hsweep]
      rfl
    rw [hrest]
    have hprizes : r₁.prizes = r.prizes := by rw [hswept.same]
    by_cases hall : r₁.winners.all Winner.claimed = true
    · rw [settledRaffle, if_pos hall] at hstored
      have hclosed : openAmount h.tierReading r₁ = 0 :=
        openAmount_closed (by rw [hswept.length, hprizes, hexpired.length]) hall
      have hpaid := hswept.paid.congr htransfers
      rw [hclosed, sub_zero] at hpaid
      exact ⟨w₂, drain_claimed _ _ ⟨_, hstored, rfl⟩, ⟨_, hstored, rfl, hswept.length, hall⟩, hpaid⟩
    · rw [settledRaffle, if_neg hall] at hstored
      have htoken : r₁.prizeToken = r.prizeToken := by rw [hswept.same]
      have hexpired₁ : Expired h ctxs treasury w₂ r₁ :=
        hexpired.next hswept hguard hstored hbalance (Bool.eq_false_iff.mpr hall)
      have hdone₁ : ∀ tier < r₁.winners.length, tier < (window + 1) * 10 →
          claimedAt r₁ tier = true := by
        intro tier htier hbefore
        rw [hswept.length] at htier
        rw [hswept.claimed tier htier]
        by_cases hearlier : tier < window * 10
        · exact .inl (hdone tier htier hearlier)
        · exact .inr (by omega)
      obtain ⟨w', hdrain, ⟨r', hr', hclaimed, hlength, hall'⟩, hlast⟩ := ih hexpired₁
        (hswept.sweepable hsweepable) hdone₁ (by rw [hswept.length]; omega) (hexpired₁.more hdone₁)
      have hpaid := (hswept.paid.congr htransfers).trans (htoken ▸ hlast)
      rw [sub_add_cancel] at hpaid
      exact ⟨w', hdrain, ⟨r', hr', hclaimed, hlength.trans hswept.length, hall'⟩, hpaid⟩

structure SweptFrom (reading : TierReading) (r r' : Raffle) : Prop where
  prizes : r'.prizes = r.prizes
  amount : r'.prizeAmount = r.prizeAmount
  settled : ∀ tier, claimedAt r' tier = true → claimedAt r tier = true ∨
    ∃ amount, calculateTierPrize reading r tier = .ok amount ∧ 0 < amount

namespace SweptFrom

theorem refl (reading : TierReading) (r : Raffle) : SweptFrom reading r r :=
  ⟨rfl, rfl, fun _ => .inl⟩

theorem sweep {tier : Nat} {b b' : Books} (ha : SweptFrom h.tierReading r b.raffle)
    (hm : Move h (.sweep tier) b b') : SweptFrom h.tierReading r b'.raffle := by
  cases hm with
  | sweep _ _ winner treasury amount hpay =>
    have hpriced : calculateTierPrize h.tierReading b.raffle tier =
        calculateTierPrize h.tierReading r tier := by
      simp only [calculateTierPrize, allocatedBefore, tierShare, ha.prizes, ha.amount]
    have hraffle : (((b.post h.self [⟨.prizeSweep tier, b.raffle.paymentToken, h.self, treasury,
        amount⟩]).file (.sweep tier amount)).markTier tier).raffle = (b.markTier tier).raffle :=
      Books.markTier_raffle_congr b tier rfl
    rw [hraffle]
    refine ⟨?_, ?_, fun other hclaimed => ?_⟩
    · rw [Books.markTier_raffle]
      exact ha.prizes
    · rw [Books.markTier_raffle]
      exact ha.amount
    · rw [hpay.claimedAt_markTier] at hclaimed
      split at hclaimed
      next hother => exact .inr ⟨amount, by rw [hother, ← hpriced, hpay.priced], hpay.positive⟩
      next => exact ha.settled other hclaimed

theorem sweepUnclaimed {start limit n : Nat} (ha : SweptFrom h.tierReading r r')
    (hw : Holds h Lifecycle w) (hr : w.raffle = some r')
    (hok : sweepUnclaimed h c w start limit = .ok (w', n)) :
    Holds h Lifecycle w' ∧ ∃ r₁, w'.raffle = some r₁ ∧ SweptFrom h.tierReading r r₁ := by
  have hcall : invoke h ⟨c, .sweepUnclaimed start limit⟩ w = .ok w' := by
    simp only [invoke, hok]
    rfl
  obtain ⟨r₁, acts, hr₁, hyields, hpath⟩ := committed_path_from hw hr hcall
  refine ⟨lifecycle_step hw hcall, r₁, hr₁, ?_⟩
  refine hpath.preserves (fun b => SweptFrom h.tierReading r b.raffle) (∃ tier, · = .sweep tier)
    (fun a b b' hsweep hb hm => ?_) (fun a hmem => ?_) ha
  · obtain ⟨tier, rfl⟩ := hsweep
    exact hb.sweep hm
  · obtain ⟨tier, -, hsweep⟩ := hyields.2 a hmem
    exact ⟨tier, hsweep⟩

theorem drain {ctxs : Nat → Ctx} {window count : Nat} (ha : SweptFrom h.tierReading r r')
    (hw : Holds h Lifecycle w) (hr : w.raffle = some r')
    (hok : drain h ctxs window count w = .ok w') :
    ∃ r₁, w'.raffle = some r₁ ∧ SweptFrom h.tierReading r r₁ := by
  induction count generalizing w r' window with
  | zero =>
    cases hok
    exact ⟨r', hr, ha⟩
  | succ count ih =>
    unfold Properties.drain at hok
    split at hok
    next =>
      cases hok
      exact ⟨r', hr, ha⟩
    next =>
      simp only [except_bind_ok, Prod.exists] at hok
      obtain ⟨w₁, n, hsweep, hrest⟩ := hok
      obtain ⟨hw₁, r₁, hr₁, ha₁⟩ := ha.sweepUnclaimed hw hr hsweep
      exact ih ha₁ hw₁ hr₁ hrest

end SweptFrom

theorem sweepable_of_drained {ctxs : Nat → Ctx} {window count : Nat} {total : Int}
    (hw : Holds h Lifecycle w) (hr : w.raffle = some r)
    (hdrain : drain h ctxs window count w = .ok w') (hdrained : Drained h w r treasury total w') :
    Sweepable h.tierReading r := by
  intro tier htier hopen
  obtain ⟨r', hr', -, hlength, hall⟩ := hdrained.settled
  obtain ⟨r₁, hr₁, ha⟩ := (SweptFrom.refl h.tierReading r).drain hw hr hdrain
  rw [hr'] at hr₁
  cases hr₁
  refine (ha.settled tier (claimedAt_of_all hall (hlength ▸ htier))).resolve_left fun hclaimed => ?_
  rw [hopen] at hclaimed
  cases hclaimed

/-- Whenever an expired raffle holds its open tiers and has a treasury, sweeps
from every tenth tier on leave every winner claimed and move exactly the open
tiers to the treasury, if and only if every open tier has a positive amount. -/
theorem drains_iff {w₀ : World} (hinit : Initialised h w₀) (calls : List Invocation)
    (hr : ((machine h).run w₀ calls).raffle = some r) (hfinalized : r.status = .finalized)
    {finalizedAt : Nat} (hfinalizedAt : r.finalizedAt = some finalizedAt)
    (htreasury : r.treasuryAddress = some treasury)
    (hcovered : openAmount h.tierReading r ≤
      ((machine h).run w₀ calls).balance r.prizeToken h.self)
    (ctxs : Nat → Ctx)
    (htime : ∀ window, finalizedAt + r.claimExpirySeconds ≤ (ctxs window).timestamp ∧
      (ctxs window).timestamp < 2 ^ 64) :
    (∃ w', drain h ctxs 0 (r.winners.length / 10 + 1) ((machine h).run w₀ calls) = .ok w' ∧
      Drained h ((machine h).run w₀ calls) r treasury (openAmount h.tierReading r) w') ↔
        Sweepable h.tierReading r := by
  have hw := (lifecycle_always hinit calls).last
  have hl := hw.view hr
  constructor
  · rintro ⟨w', hdrain, hdrained⟩
    exact sweepable_of_drained hw hr hdrain hdrained
  · intro hsweepable
    obtain ⟨hlength, -⟩ := hl.settled (.inl hfinalized)
    have hbounded := bounded_run hinit calls hr
    have hexpiry : 2592000 ≤ r.claimExpirySeconds := hbounded.expiry_ge
    exact drain_some ⟨(guard_free hinit calls).last, hr, hfinalized, hl.openTier hfinalized,
      hlength, hlength ▸ hbounded.tiers, by omega, htreasury, ⟨finalizedAt, hfinalizedAt, htime⟩,
      hcovered⟩ hsweepable (fun tier _ hnone => absurd hnone (by omega)) (by omega)

def expiredCtx : Ctx := Sample.ctx 2593000 9 []

theorem drains_iff_awaitingRun :
    ∃ r, r ∈ (Sample.after .ifElse Sample.config Sample.awaitingRun).raffle ∧
      ∃ w', drain (Sample.host .ifElse) (fun _ => expiredCtx) 0 (r.winners.length / 10 + 1)
          (Sample.after .ifElse Sample.config Sample.awaitingRun) = .ok w' ∧
        Drained (Sample.host .ifElse) (Sample.after .ifElse Sample.config Sample.awaitingRun) r
          Sample.treasury (openAmount .ifElse r) w' := by
  have hsome : ∃ r, r ∈ (Sample.after .ifElse Sample.config Sample.awaitingRun).raffle ∧
      r.status = .finalized ∧ r.finalizedAt = some 1000 ∧ r.claimExpirySeconds = 2592000 ∧
      r.treasuryAddress = some Sample.treasury ∧ r.winners.length = 1 ∧
      r.prizeToken = Sample.token ∧ openAmount .ifElse r = 20000 ∧
      tierValue .ifElse r 0 = 20000 ∧ (calculateTierPrize .ifElse r 0).isOk = true ∧
      20000 ≤ (Sample.after .ifElse Sample.config Sample.awaitingRun).balance Sample.token
        Sample.self := by
    decide +kernel
  obtain ⟨r, hr, hfinalized, hfinalizedAt, hexpiry, htreasury, hlength, htoken, hopen, hvalue,
    hpriced, hheld⟩ := hsome
  refine ⟨r, hr, (drains_iff (Sample.start_initialised (by decide +kernel)) Sample.awaitingRun hr
    hfinalized hfinalizedAt htreasury ?_ (fun _ => expiredCtx) (fun _ => ?_)).mpr ?_⟩
  · rw [htoken]
    exact hopen.trans_le hheld
  · rw [hexpiry]
    decide
  · intro tier htier _
    obtain rfl : tier = 0 := by omega
    obtain ⟨amount, hamount⟩ := except_isOk hpriced
    rw [tierValue_ok hamount] at hvalue
    exact ⟨amount, hamount, by omega⟩

def emptyTierConfig : RaffleConfig := { Sample.config with prizes := [0, 10000] }

def emptyTierRun : List Invocation :=
  [Sample.signed [Sample.creator] 1 1 .depositPrize,
    Sample.signed [Sample.buyer] 2 2 (.buyTickets Sample.buyer 2),
    Sample.signed [Sample.creator] 1000 3 .finalizeRaffle]

/-- The sweep passes over the first tier, which therefore stays open. -/
theorem empty_tier_stays_open :
    Initialised (Sample.host .ifElse) (Sample.start .ifElse emptyTierConfig) ∧
    ∃ r, r ∈ (Sample.after .ifElse emptyTierConfig emptyTierRun).raffle ∧
      r.status = .finalized ∧ r.finalizedAt = some 1000 ∧
      1000 + r.claimExpirySeconds ≤ expiredCtx.timestamp ∧
      r.treasuryAddress = some Sample.treasury ∧
      openAmount .ifElse r ≤
        (Sample.after .ifElse emptyTierConfig emptyTierRun).balance r.prizeToken Sample.self ∧
      (drain (Sample.host .ifElse) (fun _ => expiredCtx) 0 (r.winners.length / 10 + 1)
        (Sample.after .ifElse emptyTierConfig emptyTierRun)).isOk = true ∧
      ¬∃ w', drain (Sample.host .ifElse) (fun _ => expiredCtx) 0 (r.winners.length / 10 + 1)
          (Sample.after .ifElse emptyTierConfig emptyTierRun) = .ok w' ∧
        Drained (Sample.host .ifElse) (Sample.after .ifElse emptyTierConfig emptyTierRun) r
          Sample.treasury (openAmount .ifElse r) w' := by
  have hinit : Initialised (Sample.host .ifElse) (Sample.start .ifElse emptyTierConfig) :=
    Sample.start_initialised (by decide +kernel)
  have hsome : ∃ r, r ∈ (Sample.after .ifElse emptyTierConfig emptyTierRun).raffle ∧
      r.status = .finalized ∧ r.finalizedAt = some 1000 ∧
      1000 + r.claimExpirySeconds ≤ expiredCtx.timestamp ∧
      r.treasuryAddress = some Sample.treasury ∧
      openAmount .ifElse r ≤
        (Sample.after .ifElse emptyTierConfig emptyTierRun).balance r.prizeToken Sample.self ∧
      (drain (Sample.host .ifElse) (fun _ => expiredCtx) 0 (r.winners.length / 10 + 1)
        (Sample.after .ifElse emptyTierConfig emptyTierRun)).isOk = true ∧
      0 < r.winners.length ∧ claimedAt r 0 = false ∧ tierValue .ifElse r 0 = 0 := by
    decide +kernel
  obtain ⟨r, hr, hfinalized, hfinalizedAt, hexpired, htreasury, hcovered, hruns, htier, hopen,
    hvalue⟩ := hsome
  refine ⟨hinit, r, hr, hfinalized, hfinalizedAt, hexpired, htreasury, hcovered, hruns, ?_⟩
  rintro ⟨w', hdrain, hdrained⟩
  obtain ⟨amount, hamount, hpos⟩ :=
    sweepable_of_drained (lifecycle_always hinit emptyTierRun).last hr hdrain hdrained 0 htier hopen
  have hzero : amount = 0 := (tierValue_ok hamount).symm.trans hvalue
  omega

end TikkaRaffle.Properties
