import TikkaRaffle.Escrow.Obligations

/-! What the administrative exits leave behind. Before the draw each of them
leaves the refunds, the booked fees and the prize. The entitlement of a settled
raffle has no fees in it, so a rescue or a dust sweep may take them. -/
namespace TikkaRaffle.Properties

open TikkaRaffle.Lib TikkaRaffle.Instance TikkaRaffle.Escrow

variable {h : Host} {w w' : World} {r : Raffle} {b b' : Books} {reading : TierReading}

def refundsOwed (refunded : Nat → Option Bool) (r : Raffle) : Int :=
  r.ticketPrice *
    (List.range' 1 r.ticketsSold).countP fun ticketId => (refunded ticketId).isNone

def tiersOwed (reading : TierReading) (r : Raffle) : Int :=
  if r.status = .claimed then 0
  else if r.status = .finalized then openAmount reading r
  else if r.prizeDeposited then r.prizeAmount
  else 0

def totalOwed (reading : TierReading) (b : Books) : Int :=
  (if Settled b.raffle then 0 else refundsOwed b.refunded b.raffle) + b.fees +
    tiersOwed reading b.raffle

/-- The balance covers what is owed. -/
def CoversOwed (h : Host) (w : World) : Prop :=
  ∀ r, w.raffle = some r → totalOwed h.tierReading (view h w r) ≤ w.balance r.paymentToken h.self

instance (h : Host) (w : World) : Decidable (CoversOwed h w) :=
  inferInstanceAs (Decidable (∀ r ∈ w.raffle, _))

def isExit : Call → Bool
  | .rescueTokens .. | .sweepDust | .withdrawFees .. | .emergencyWithdraw _ => true
  | _ => false

/-- A committed exit from a covered raffle leaves it covered. -/
def KeepsCover (h : Host) (w : World) (i : Invocation) (w' : World) : Prop :=
  isExit i.call = true → CoversOwed h w → CoversOwed h w'

def rescueOf : Call → Option (Address × Address × Int)
  | .rescueTokens token recipient amount => some (token, recipient, amount)
  | _ => none

/-- A rescue from a settled raffle leaves the booked fees beside the open tiers,
or pays the raffle itself. -/
def RescueLeavesFees (h : Host) (w : World) (r : Raffle) (token recipient : Address)
    (amount : Int) : Prop :=
  token = r.paymentToken → Settled r → recipient = h.self ∨
    openAmount h.tierReading r + w.accumulatedFees.getD 0 + amount ≤
      w.balance r.paymentToken h.self

/-- A dust sweep leaves a whole prize, whose tiers are all settled. -/
def SweepLeavesFees (h : Host) (w : World) (r : Raffle) : Prop :=
  r.status = .claimed → r.treasuryAddress = some h.self ∨
    w.accumulatedFees.getD 0 ≤ r.prizeAmount

def LeavesFees (h : Host) (w : World) (r : Raffle) (call : Call) : Prop :=
  (∀ rescue ∈ rescueOf call, RescueLeavesFees h w r rescue.1 rescue.2.1 rescue.2.2) ∧
    (call = .sweepDust → SweepLeavesFees h w r)

instance (h : Host) (w : World) (r : Raffle) (token recipient : Address) (amount : Int) :
    Decidable (RescueLeavesFees h w r token recipient amount) :=
  inferInstanceAs (Decidable (_ → _ → _))

instance (h : Host) (w : World) (r : Raffle) : Decidable (SweepLeavesFees h w r) :=
  inferInstanceAs (Decidable (_ → _))

instance (h : Host) (w : World) (r : Raffle) (call : Call) : Decidable (LeavesFees h w r call) :=
  inferInstanceAs (Decidable (_ ∧ _))

theorem leavesFees_rescue {token recipient : Address} {amount : Int} :
    LeavesFees h w r (.rescueTokens token recipient amount) ↔
      RescueLeavesFees h w r token recipient amount := by
  simp [LeavesFees, rescueOf]

theorem leavesFees_sweep : LeavesFees h w r .sweepDust ↔ SweepLeavesFees h w r := by
  simp [LeavesFees, rescueOf]

theorem leavesFees_other {call : Call} (hrescue : rescueOf call = none)
    (hsweep : call ≠ .sweepDust) : LeavesFees h w r call := by
  simp [LeavesFees, hrescue, hsweep]

instance (h : Host) (w : World) (i : Invocation) (w' : World) :
    Decidable (KeepsCover h w i w') :=
  inferInstanceAs (Decidable (_ → _ → _))

theorem tiersOwed_open (hopen : ¬Settled r) :
    tiersOwed reading r = if r.prizeDeposited then r.prizeAmount else 0 := by
  obtain ⟨hfinalized, hclaimed⟩ := not_or.mp hopen
  rw [tiersOwed, if_neg hclaimed, if_neg hfinalized]

theorem totalOwed_open (hopen : ¬Settled b.raffle) :
    totalOwed reading b = refundsOwed b.refunded b.raffle + b.fees +
      if b.raffle.prizeDeposited then b.raffle.prizeAmount else 0 := by
  rw [totalOwed, if_neg hopen, tiersOwed_open hopen]

theorem totalOwed_settled (hl : Lifecycle b) (hsettled : Settled b.raffle) :
    totalOwed reading b = b.fees + openAmount reading b.raffle := by
  rw [totalOwed, if_pos hsettled, zero_add, tiersOwed]
  rcases hsettled with hfinalized | hclaimed
  · rw [if_neg (by simp [hfinalized]), if_pos hfinalized]
  · have hlength := (hl.settled (.inr hclaimed)).1
    rw [if_pos hclaimed, openAmount_closed hlength (hl.noTier hclaimed)]

theorem entitlement_open (hl : Lifecycle b) (hopen : ¬Settled b.raffle) {entitlement : Int}
    (hok : tokenEntitlement reading b.refunded b.fees b.raffle b.raffle.paymentToken =
      .ok entitlement) : entitlement = totalOwed reading b := by
  obtain ⟨refunds, prize, hrefunds, hprize, rfl⟩ :=
    tokenEntitlement_open hl.terms.token hopen hok
  have hstatus : b.raffle.status ≠ .finalized := fun hs => hopen (.inl hs)
  rw [totalOwed_open hopen, outstandingTicketRefunds_ok hrefunds, refundsOwed]
  congr 1
  cases hdeposited : b.raffle.prizeDeposited with
  | false =>
    simp only [outstandingPrize, hdeposited, if_true, Except.ok.injEq] at hprize
    exact hprize.symm
  | true =>
    rw [outstandingPrize_undrawn hdeposited hstatus] at hprize
    cases hprize
    rfl

/-- A settled raffle counts its tiers while one is open, and its whole prize
again once none is. -/
theorem entitlement_settled (hl : Lifecycle b) (hsettled : Settled b.raffle) {entitlement : Int}
    (hok : tokenEntitlement reading b.refunded b.fees b.raffle b.raffle.paymentToken =
      .ok entitlement) :
    entitlement = if b.raffle.status = .claimed then b.raffle.prizeAmount
      else openAmount reading b.raffle := by
  have hprize := tokenEntitlement_settled hl.terms.token hsettled hok
  obtain ⟨hlength, -, -, hdeposited⟩ := hl.settled hsettled
  rcases hsettled with hfinalized | hclaimed
  · rw [if_neg (by simp [hfinalized])]
    exact outstandingPrize_finalized hlength hdeposited hfinalized hprize
  · rw [outstandingPrize_undrawn hdeposited (by simp [hclaimed])] at hprize
    cases hprize
    exact (if_pos hclaimed).symm

/-- A payment out of the escrow keeps it above `floor` if it leaves that much or
comes back. -/
theorem out_covers_iff {purpose : Purpose} {self token target : Address} {amount floor held : Int}
    (hbefore : floor ≤ held) :
    floor ≤ held + netInflow self token [⟨purpose, token, self, target, amount⟩] ↔
      target = self ∨ floor + amount ≤ held := by
  by_cases htarget : target = self
  · have hback : netInflow self token [⟨purpose, token, self, target, amount⟩] = 0 := by
      simp [netInflow, inflow, htarget]
    rw [hback, add_zero]
    exact ⟨fun _ => .inl htarget, fun _ => hbefore⟩
  · rw [netInflow_out htarget]
    constructor
    · intro hleft
      exact .inr (by omega)
    · rintro (hself | hleft)
      · exact absurd hself htarget
      · omega

theorem rescue_covers_iff (hl : Lifecycle b) {token recipient : Address}
    {amount entitlement : Int} (hcovered : totalOwed h.tierReading b ≤ b.held)
    (hentitlement : tokenEntitlement h.tierReading b.refunded b.fees b.raffle token =
      .ok entitlement)
    (hsurplus : token = b.raffle.paymentToken → entitlement + amount ≤ b.held) :
    totalOwed h.tierReading b ≤ b.held + netInflow h.self b.raffle.paymentToken
        [⟨.rescue, token, h.self, recipient, amount⟩] ↔
      (token = b.raffle.paymentToken → Settled b.raffle → recipient = h.self ∨
        openAmount h.tierReading b.raffle + b.fees + amount ≤ b.held) := by
  by_cases htoken : token = b.raffle.paymentToken
  · subst htoken
    have hleft := hsurplus rfl
    rw [out_covers_iff hcovered]
    by_cases hsettled : Settled b.raffle
    · rw [totalOwed_settled hl hsettled, add_comm b.fees]
      exact ⟨fun hkept _ _ => hkept, fun hcond => hcond rfl hsettled⟩
    · rw [entitlement_open hl hsettled hentitlement] at hleft
      exact ⟨fun _ _ hs => absurd hs hsettled, fun _ => .inr hleft⟩
  · rw [netInflow_foreign htoken, add_zero]
    exact ⟨fun _ hpayment => absurd hpayment htoken, fun _ => hcovered⟩

theorem sweep_covers_iff (hl : Lifecycle b) {treasury : Address} {entitlement : Int}
    (hstatus : b.raffle.status = .claimed ∨ b.raffle.status = .cancelled)
    (hcovered : totalOwed h.tierReading b ≤ b.held)
    (hentitlement : tokenEntitlement h.tierReading b.refunded b.fees b.raffle
      b.raffle.paymentToken = .ok entitlement) :
    totalOwed h.tierReading b ≤ b.held + netInflow h.self b.raffle.paymentToken
        [⟨.dust, b.raffle.paymentToken, h.self, treasury, b.held - entitlement⟩] ↔
      (b.raffle.status = .claimed → treasury = h.self ∨ b.fees ≤ b.raffle.prizeAmount) := by
  rw [out_covers_iff hcovered]
  rcases hstatus with hclaimed | hcancelled
  · have hprize := entitlement_settled hl (.inr hclaimed) hentitlement
    have hnone : openAmount h.tierReading b.raffle = 0 :=
      openAmount_closed (hl.settled (.inr hclaimed)).1 (hl.noTier hclaimed)
    rw [if_pos hclaimed] at hprize
    rw [totalOwed_settled hl (.inr hclaimed), hnone, hprize]
    constructor
    · rintro (hself | hleft) _
      · exact .inl hself
      · exact .inr (by omega)
    · intro hcond
      rcases hcond hclaimed with hself | hfees
      · exact .inl hself
      · exact .inr (by omega)
  · have hopen : ¬Settled b.raffle := by simp [Settled, hcancelled]
    rw [entitlement_open hl hopen hentitlement]
    simp [hcancelled]

theorem withdraw_covers {amount : Int} (hcovered : totalOwed reading b ≤ b.held)
    (hm : Move h (.withdraw amount) b b') : totalOwed reading b' ≤ b'.held := by
  cases hm with
  | withdraw _ recipient _ hstatus hpositive =>
    have hsent := netInflow_out_ge .feeWithdrawal h.self b.raffle.paymentToken recipient
      hpositive.le
    have hstill : Settled ((b.post h.self [⟨.feeWithdrawal, b.raffle.paymentToken, h.self,
        recipient, amount⟩]).addFees (-amount)).raffle := hstatus
    rw [totalOwed, if_pos hstatus] at hcovered
    rw [totalOwed, if_pos hstill]
    simp only [Books.addFees, Books.post]
    omega

theorem emergency_covers (hcovered : totalOwed reading b ≤ b.held) (hm : Move h .emergency b b') :
    totalOwed reading b' ≤ b'.held := by
  cases hm with
  | emergency _ refunds hstatus hdeposited hrefunds hcover hprize =>
    have hsent := netInflow_out_ge .emergencyWithdrawal h.self b.raffle.paymentToken
      b.raffle.creator hprize
    rw [totalOwed_open (by simp [Settled, hstatus]), if_pos hdeposited] at hcovered
    rw [totalOwed_open (by simp [Settled, Books.enter, Books.post])]
    change refundsOwed b.refunded b.raffle + b.fees + 0 ≤ b.held + _
    simp only [Books.enter, Books.setDeposited, Raffle.setStatus_paymentToken,
      Raffle.setPrizeDeposited_paymentToken]
    omega

theorem covered_iff (hr : w.raffle = some r) :
    CoversOwed h w ↔ totalOwed h.tierReading (view h w r) ≤ (view h w r).held := by
  constructor
  · intro hcovered
    exact hcovered r hr
  · intro hbooks
    exact forall_stored hr hbooks

/-- A committed exit keeps the cover exactly if it leaves the fees. -/
theorem exit_covers_iff {i : Invocation} (hl : Lifecycle (view h w r)) (hr : w.raffle = some r)
    (hexit : isExit i.call = true) (hcovered : CoversOwed h w) (hok : invoke h i w = .ok w') :
    CoversOwed h w' ↔ LeavesFees h w r i.call := by
  rw [covered_iff hr] at hcovered
  obtain ⟨c, call⟩ := i
  cases call with
  | rescueTokens token recipient amount =>
    obtain ⟨hr', -, hview, entitlement, hentitlement, hleft⟩ := rescueTokens_releases hr hok
    rw [covered_iff hr', hview, leavesFees_rescue]
    refine rescue_covers_iff hl hcovered hentitlement fun htoken => ?_
    rw [htoken] at hleft
    exact hleft
  | sweepDust =>
    obtain ⟨hr', hstatus, treasury, entitlement, htreasury, hentitlement, hdust⟩ :=
      sweepDust_releases hr hok
    have hleaves : LeavesFees h w r .sweepDust ↔ (r.status = .claimed → treasury = h.self ∨
        w.accumulatedFees.getD 0 ≤ r.prizeAmount) := by
      rw [leavesFees_sweep, SweepLeavesFees, htreasury, Option.some.injEq]
    have hafter : totalOwed h.tierReading (view h w' r) = totalOwed h.tierReading (view h w r) ∧
        (view h w' r).held = (view h w r).held + netInflow h.self r.paymentToken
          [⟨.dust, r.paymentToken, h.self, treasury, (view h w r).held - entitlement⟩] := by
      rcases hdust with ⟨hnone, hview⟩ | ⟨-, hview⟩
      · have hzero : (view h w r).held - entitlement = 0 := sub_eq_zero.mpr hnone
        rw [hview, hzero]
        simp [netInflow, inflow]
      · rw [hview]
        exact ⟨rfl, rfl⟩
    rw [covered_iff hr', hafter.1, hafter.2, hleaves]
    exact sweep_covers_iff hl hstatus hcovered hentitlement
  | withdrawFees recipient amount =>
    obtain ⟨r', acts, hr', hyields, hpath⟩ := withdrawFees_refines hr hok
    cases hyields
    rw [covered_iff hr']
    exact iff_of_true (withdraw_covers hcovered hpath.of_single) (leavesFees_other rfl (by simp))
  | emergencyWithdraw caller =>
    obtain ⟨r', acts, hr', hyields, hpath⟩ := emergencyWithdraw_refines hr hl.terms.token hok
    cases hyields
    rw [covered_iff hr']
    exact iff_of_true (emergency_covers hcovered hpath.of_single) (leavesFees_other rfl (by simp))
  | _ => cases hexit

/-- Along every run the exits keep the cover exactly as far as they leave the
fees. -/
theorem exits_keepCover_iff (hinit : Initialised h w) (calls : List Invocation) :
    (machine h).Each (KeepsCover h) w calls ↔
      (machine h).Each (fun w i _ => isExit i.call = true → CoversOwed h w →
        ∀ r ∈ w.raffle, LeavesFees h w r i.call) w calls := by
  apply Machine.each_congr (Holds h Lifecycle) (fun w i w' hw hok => lifecycle_step hw hok) _
    (lifecycle_always hinit calls).head
  rintro w i w' ⟨r, hr, hl⟩ hok
  constructor
  · intro hkeeps hexit hcovered
    refine forall_stored hr ?_
    exact (exit_covers_iff hl hr hexit hcovered hok).mp (hkeeps hexit hcovered)
  · intro hleaves hexit hcovered
    exact (exit_covers_iff hl hr hexit hcovered hok).mpr (hleaves hexit hcovered r hr)

def taxedConfig : RaffleConfig := { Sample.config with protocolFeeBp := 500 }

/-- One ticket is sold, the raffle is drawn, the admin rescues part of the
balance and then withdraws the booked fee. -/
def rescuedRun (amount : Int) : List Invocation :=
  Sample.awaitingRun ++
    [Sample.signed [Sample.admin] 1001 4 (.rescueTokens Sample.token Sample.admin amount),
      Sample.signed [Sample.admin] 1002 5 (.withdrawFees Sample.admin 500)]

/-- A rescue of 9000 leaves the prize of 20000 and the fee of 500. -/
theorem exits_keepCover_iff_rescuedRun :
    (Sample.after .ifElse taxedConfig (rescuedRun 9000)).accumulatedFees = some 0 ∧
    (Sample.after .ifElse taxedConfig (rescuedRun 9000)).balance Sample.token Sample.self = 20000 ∧
    (machine (Sample.host .ifElse)).Each (KeepsCover (Sample.host .ifElse))
      (Sample.start .ifElse taxedConfig) (rescuedRun 9000) := by
  have hinit : Initialised (Sample.host .ifElse) (Sample.start .ifElse taxedConfig) :=
    Sample.start_initialised (by decide +kernel)
  refine ⟨by decide +kernel, by decide +kernel, ?_⟩
  exact (exits_keepCover_iff hinit (rescuedRun 9000)).mpr (by decide +kernel)

/-- Everything above the prize can be rescued, the booked fee included. -/
theorem rescue_takes_fees :
    Initialised (Sample.host .ifElse) (Sample.start .ifElse taxedConfig) ∧
    CoversOwed (Sample.host .ifElse) (Sample.after .ifElse taxedConfig Sample.awaitingRun) ∧
    (Sample.after .ifElse taxedConfig ((rescuedRun 9500).take 4)).accumulatedFees = some 500 ∧
    (Sample.after .ifElse taxedConfig ((rescuedRun 9500).take 4)).balance
      Sample.token Sample.self = 20000 ∧
    ¬(machine (Sample.host .ifElse)).Each (KeepsCover (Sample.host .ifElse))
      (Sample.start .ifElse taxedConfig) (rescuedRun 9500) := by
  refine ⟨Sample.start_initialised (by decide +kernel), ?_, ?_, ?_, ?_⟩ <;> decide +kernel

end TikkaRaffle.Properties
