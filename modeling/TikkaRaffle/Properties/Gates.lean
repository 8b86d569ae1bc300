import TikkaRaffle.Properties.Attestation
import TikkaRaffle.Properties.Deadline
import TikkaRaffle.Properties.Drawing
import TikkaRaffle.Properties.Emergency

/-! The timing gates. Each adds a duration to a stored time, in a build that
traps on overflow. The lockup and the delays are bounded, but a stored expiry or
end time may be as large as its type. -/
namespace TikkaRaffle.Properties

open TikkaRaffle.Lib TikkaRaffle.Instance TikkaRaffle.Escrow Constants

variable {h : Host} {w w' : World} {r r' : Raffle} {b b' : Books} {a : Act} {i : Invocation}

/-- A call that has passed the checks before its timing gate and aborts in the
gate, because the sum formed there does not fit its type. -/
inductive GateTraps (h : Host) (w : World) (r : Raffle) : Invocation → Prop
  | claim {c : Ctx} {winner : Address} {tierIndex : Nat}
      (hauth : requireAuth h c winner = .ok ()) (hfree : w.reentrancyGuard = none)
      (hfinalized : r.status = .finalized) (htrap : requireLockupOver c r = .error .trap) :
      GateTraps h w r ⟨c, .claimPrize winner tierIndex⟩
  | sweep {c : Ctx} {startIndex limit finalizedAt : Nat}
      (hfree : w.reentrancyGuard = none) (hfinalized : r.status = .finalized)
      (hexpiry : r.claimExpirySeconds ≠ 0) (hfinalizedAt : r.finalizedAt = some finalizedAt)
      (htrap : trapU64 (finalizedAt + r.claimExpirySeconds) = .error .trap) :
      GateTraps h w r ⟨c, .sweepUnclaimed startIndex limit⟩
  | withdraw {c : Ctx} {caller admin : Address}
      (hauth : requireAuth h c caller = .ok ()) (hdeposited : r.prizeDeposited = true)
      (hadmin : w.admin = some admin) (hcaller : caller = r.creator ∨ caller = admin)
      (hdrawing : r.status = .drawing) (htrap : requireEmergencyDelay c w r = .error .trap) :
      GateTraps h w r ⟨c, .emergencyWithdraw caller⟩
  | deliver {c : Ctx} {oracle : Address} {randomSeed requestId : Nat}
      {publicKey : Digest} {proof : Signature} (hlock : w.drawingLock.getD false = true)
      (hsource : ∀ config, r.randomnessSource ≠ .quorum config)
      (horacle : r.oracleAddress = some oracle) (hauth : requireAuth h c oracle = .ok ())
      (hdrawing : r.status = .drawing) (hrequested : w.randomnessRequested.getD false = true)
      (htrap : trapU32 (w.randomnessRequestLedger.getD 0 + randomnessMinDelayLedgers) =
        .error .trap) :
      GateTraps h w r ⟨c, .provideRandomness randomSeed publicKey proof requestId⟩
  | fallback {c : Ctx} {caller admin : Address} {doRefund : Bool}
      (hlock : w.drawingLock.getD false = false) (hauth : requireAuth h c caller = .ok ())
      (hadmin : w.admin = some admin) (hcaller : caller = r.creator ∨ caller = admin)
      (hdrawing : r.status = .drawing) (hrequested : w.randomnessRequested.getD false = true)
      (htrap : trapU32 (w.randomnessRequestLedger.getD 0 + oracleTimeoutLedgers) =
        .error .trap) :
      GateTraps h w r ⟨c, .triggerRandomnessFallback caller doRefund⟩

/-- Such a call is lost: nothing after the gate runs. -/
theorem GateTraps.aborts (hr : w.raffle = some r) (hgate : GateTraps h w r i) :
    invoke h i w = .error .trap := by
  cases hgate with
  | claim hauth hfree hfinalized htrap =>
    simp [invoke, claimPrize, readRaffle, okOr, ensure, acquireGuard_some hfree, bind, Except.bind,
      Functor.map, Except.map, hr, hauth, hfinalized, htrap]
  | sweep hfree hfinalized hexpiry hfinalizedAt htrap =>
    simp [invoke, sweepUnclaimed, readRaffle, okOr, ensure, acquireGuard_some hfree, bind,
      Except.bind, Functor.map, Except.map, hr, hfinalized, hexpiry, hfinalizedAt, htrap]
  | withdraw hauth hdeposited hadmin hcaller hdrawing htrap =>
    simp [invoke, emergencyWithdraw, readRaffle, okOr, ensure, bind, Except.bind, hr, hauth,
      hdeposited, hadmin, hcaller, hdrawing, htrap]
  | deliver hlock hsource horacle hauth hdrawing hrequested htrap =>
    cases hr' : r.randomnessSource with
    | quorum config => exact absurd hr' (hsource config)
    | _ =>
      simp [invoke, provideRandomness, readRaffle, okOr, ensure, bind, Except.bind, hr, hr', hlock,
        horacle, hauth, hdrawing, hrequested, htrap]
  | fallback hlock hauth hadmin hcaller hdrawing hrequested htrap =>
    simp [invoke, triggerRandomnessFallback, readRaffle, okOr, ensure, bind, Except.bind, hr,
      hlock, hauth, hadmin, hcaller, hdrawing, hrequested, htrap]

/-- No call, from whomever and at whatever ledger, is lost in its timing gate. -/
def GatesEvaluate (h : Host) (w : World) : Prop :=
  ∀ r i, w.raffle = some r → ¬GateTraps h w r i

def EntersFinalized (w w' : World) : Prop :=
  StatusIn (· ≠ .finalized) w ∧ StatusIn (· = .finalized) w'

instance (w w' : World) : Decidable (EntersFinalized w w') :=
  inferInstanceAs (Decidable (_ ∧ _))

/-- The ledger times that leave room for the durations the gates add. -/
def LeavesRoom (w : World) (i : Invocation) (w' : World) : Prop :=
  (EntersDrawing w w' → ∀ r ∈ w.raffle,
    (r.noDeadline = false → r.endTime + emergencyWithdrawDelaySeconds < 2 ^ 64) ∧
    (r.randomnessSource = .external →
      i.ctx.sequence + randomnessMinDelayLedgers < 2 ^ 32)) ∧
  (EntersFinalized w w' → ∀ r ∈ w.raffle, i.ctx.timestamp + r.claimExpirySeconds < 2 ^ 64)

instance (w : World) (i : Invocation) (w' : World) : Decidable (LeavesRoom w i w') :=
  inferInstanceAs (Decidable ((_ → ∀ r ∈ w.raffle, _) ∧ (_ → ∀ r ∈ w.raffle, _)))

theorem Move.not_finalized (hm : Move h a b b') (ha : a ≠ .finish)
    (hb : b.raffle.status ≠ .finalized) : b'.raffle.status ≠ .finalized := by
  cases hm with
  | finish => exact absurd rfl ha
  | claim _ tier winner amount fee hpay => exact absurd hpay.finalized hb
  | sweep _ tier winner treasury amount hpay => exact absurd hpay.finalized hb
  | deposit | sellOut | startDraw | fail | cancel | abandon | emergency => exact nofun
  | _ => exact hb

theorem Move.finalizedAt_kept (hm : Move h a b b') (hb : paying b.raffle.status) :
    b'.raffle.finalizedAt = b.raffle.finalizedAt := by
  cases hm with
  | finish _ winners time hdrawing => rcases hb with hs | hs <;> simp [hdrawing] at hs
  | claim | sweep =>
    rw [Books.markTier_raffle]
    rfl
  | _ => rfl

theorem yields_not_finishing {call : Call} {acts : List Act} (hyields : call.Yields w r acts)
    (hcall : isDraw call = false) : ∀ a ∈ acts, a ≠ .finish := by
  intro a ha
  cases call <;> grind [Call.Yields, isDraw]

theorem entry_stamp (hw : Holds h Lifecycle w) (hentry : EntersFinalized w w')
    (hr : w.raffle = some r) (hr' : w'.raffle = some r') (hok : invoke h i w = .ok w') :
    r'.finalizedAt = some i.ctx.timestamp := by
  have hbefore : r.status ≠ .finalized := hentry.1.stored hr
  have hafter : r'.status = .finalized := hentry.2.stored hr'
  have hstamp : ∀ {w₁ r₁ seed kind contributions}, doFinalizeWithSeed h i.ctx w₁ r₁ seed kind
      contributions = .ok w' → r'.finalizedAt = some i.ctx.timestamp := by
    intro w₁ r₁ seed kind contributions hdraw
    obtain ⟨-, winners, -, -, hstored⟩ := doFinalizeWithSeed_leaves hdraw
    rw [hr'] at hstored
    cases hstored
    rfl
  have hother : ∀ status, status ≠ .finalized → w'.raffle ≠ some (r.setStatus status) := by
    intro status hne hstored
    rw [hr'] at hstored
    cases hstored
    exact hne hafter
  cases hcall : i.call with
  | finalizeRaffle =>
    rw [invoke, hcall] at hok
    obtain ⟨-, ⟨-, hfail⟩ | ⟨-, w₁, hdrawing, hproceeds⟩⟩ := finalizeRaffle_cases hr hok
    · obtain ⟨-, rfl⟩ := failRaffle_ok.mp hfail
      exact absurd rfl (hother .failed (by decide))
    · obtain ⟨-, -, hstored, -⟩ := transitionToDrawing_view (h := h) hdrawing
      have hopen := hother .drawing (by decide)
      cases hproceeds with
      | request oracles hsource hrequest =>
        exact absurd ((requestForDraw_records hrequest).1.trans hstored) hopen
      | poll config hsource hrequest =>
        exact absurd ((requestForDraw_records hrequest).1.trans hstored) hopen
      | draw hsource hdraw => exact hstamp hdraw
  | provideRandomness randomSeed publicKey proof requestId =>
    rw [invoke, hcall] at hok
    obtain ⟨-, published, -, hdraw⟩ := provideRandomness_draws hr hok
    exact hstamp hdraw
  | provideQuorumRandomness oracle randomSeed requestId =>
    rw [invoke, hcall] at hok
    obtain ⟨config, published, w₁, -, -, rfl, -, -, -, -, ⟨-, rfl⟩ | ⟨-, seeds, -, hdraw⟩⟩ :=
      provideQuorumRandomness_cases hr hok
    · cases hr.symm.trans hr'
      exact absurd hafter hbefore
    · exact hstamp hdraw
  | triggerRandomnessFallback caller doRefund =>
    rw [invoke, hcall] at hok
    obtain ⟨-, -, published, -, rfl | ⟨seed, hdraw⟩⟩ := triggerRandomnessFallback_cases hr hok
    · exact absurd rfl (hother .cancelled (by decide))
    · exact hstamp hdraw
  | _ =>
    obtain ⟨r₁, acts, hr₁, hyields, hpath⟩ := committed_path_from hw hr hok
    cases hr'.symm.trans hr₁
    have hstays := hpath.preserves (fun b => b.raffle.status ≠ .finalized) (· ≠ .finish)
      (fun _ _ _ ha hb hm => Move.not_finalized hm ha hb)
      (yields_not_finishing hyields (by rw [hcall]; rfl)) hbefore
    exact absurd hafter hstays

structure TimesFit (w : World) : Prop where
  endTime : ∀ r, w.raffle = some r → r.status = .drawing → r.noDeadline = false →
    r.endTime + emergencyWithdrawDelaySeconds < 2 ^ 64
  requested : ∀ r, w.raffle = some r → r.status = .drawing → r.randomnessSource = .external →
    w.randomnessRequestLedger.getD 0 + randomnessMinDelayLedgers < 2 ^ 32
  finalizedAt : ∀ r, w.raffle = some r → r.status = .finalized → ∀ finalizedAt,
    r.finalizedAt = some finalizedAt → finalizedAt + r.claimExpirySeconds < 2 ^ 64

theorem timesFit_step (hw : Holds h Lifecycle w) (hfit : TimesFit w) (hroom : LeavesRoom w i w')
    (hok : invoke h i w = .ok w') : TimesFit w' := by
  have ⟨r, hr, _⟩ := hw
  obtain ⟨r', hr', hfixed⟩ := fixed_step hw hr hok
  have hdeadline := fixed_field Raffle.noDeadline (fun _ => rfl) hfixed
  have hend := fixed_field Raffle.endTime (fun _ => rfl) hfixed
  have hsource := fixed_field Raffle.randomnessSource (fun _ => rfl) hfixed
  have hexpiry := fixed_field Raffle.claimExpirySeconds (fun _ => rfl) hfixed
  have hentered (hbefore : r.status ≠ .drawing) (hafter : r'.status = .drawing) :=
    hroom.1 ⟨⟨r, hr, hbefore⟩, r', hr', hafter⟩ r hr
  constructor
  · intro r₁ hr₁ hdrawing hopen
    cases hr'.symm.trans hr₁
    rw [hend]
    by_cases hbefore : r.status = .drawing
    · exact hfit.endTime r hr hbefore (hdeadline ▸ hopen)
    · exact (hentered hbefore hdrawing).1 (hdeadline ▸ hopen)
  · intro r₁ hr₁ hdrawing hexternal
    cases hr'.symm.trans hr₁
    rw [hsource] at hexternal
    by_cases hbefore : r.status = .drawing
    · rw [draw_keeps_ledger hw ⟨r, hr, hbefore⟩ ⟨r', hr', hdrawing⟩ hok]
      exact hfit.requested r hr hbefore hexternal
    · rw [entry_ledger hw ⟨⟨r, hr, hbefore⟩, r', hr', hdrawing⟩ hr hexternal hok]
      exact (hentered hbefore hdrawing).2 hexternal
  · intro r₁ hr₁ hfinalized finalizedAt hfinalizedAt
    cases hr'.symm.trans hr₁
    rw [hexpiry]
    by_cases hbefore : r.status = .finalized
    · obtain ⟨r₂, acts, hr₂, -, hpath⟩ := committed_path_from hw hr hok
      cases hr'.symm.trans hr₂
      have hkept := hpath.preserves_all
        (fun b => paying b.raffle.status ∧ b.raffle.finalizedAt = r.finalizedAt)
        (fun a b b' hb hm => ⟨(Hops.move hm).stays paying paying_closed hb.1,
          (Move.finalizedAt_kept hm hb.1).trans hb.2⟩) ⟨.inl hbefore, rfl⟩
      exact hfit.finalizedAt r hr hbefore finalizedAt (hkept.2.symm.trans hfinalizedAt)
    · have hentry : EntersFinalized w w' := ⟨⟨r, hr, hbefore⟩, r', hr', hfinalized⟩
      rw [entry_stamp hw hentry hr hr' hok] at hfinalizedAt
      cases hfinalizedAt
      exact hroom.2 hentry r hr

theorem gate_evaluates {sum : Result Nat} {value time : Nat} {e : Error} (hfits : sum = .ok value) :
    (do let opens ← sum; ensure (opens ≤ time) e) ≠ .error .trap := by
  rw [hfits]
  unfold ensure
  by_cases htime : value ≤ time <;> simp [bind, Except.bind, htime]

theorem TimesFit.evaluate (hfit : TimesFit w)
    (hbooks : Holds h (fun b => Lifecycle b ∧ DrawKeys b) w)
    (hbounded : ∀ r, w.raffle = some r → Bounded r) : GatesEvaluate h w := by
  intro r i hr hgate
  cases hgate with
  | claim hauth hfree hfinalized htrap =>
    unfold requireLockupOver at htrap
    split at htrap
    next finalizedAt hfinalizedAt =>
      have hexpiry := hfit.finalizedAt r hr hfinalized finalizedAt hfinalizedAt
      have hlockup := (hbounded r hr).lockup_lt
      exact gate_evaluates (trapU64_ok.mpr ⟨by omega, rfl⟩) htrap
    next => cases htrap
  | sweep hfree hfinalized hexpiry hfinalizedAt htrap =>
    have hfits := hfit.finalizedAt r hr hfinalized _ hfinalizedAt
    rw [trapU64_ok.mpr ⟨hfits, rfl⟩] at htrap
    cases htrap
  | withdraw hauth hdeposited hadmin hcaller hdrawing htrap =>
    unfold requireEmergencyDelay ensure at htrap
    split at htrap
    next =>
      split at htrap
      all_goals cases htrap
    next hopen =>
      have hfits := hfit.endTime r hr hdrawing (by simpa using hopen)
      exact gate_evaluates (trapU64_ok.mpr ⟨hfits, rfl⟩) htrap
  | deliver hlock hsource horacle hauth hdrawing hrequested htrap =>
    obtain ⟨-, hk⟩ := hbooks.view hr
    have hexternal : r.randomnessSource = .external := by
      rcases (hk.asked hdrawing).mp hrequested with hexternal | ⟨config, hquorum, -⟩
      · exact hexternal
      · exact absurd hquorum (hsource config)
    rw [trapU32_ok.mpr ⟨hfit.requested r hr hdrawing hexternal, rfl⟩] at htrap
    cases htrap
  | fallback hlock hauth hadmin hcaller hdrawing hrequested htrap =>
    -- the draw holds the lock, so the fallback is refused before its gate
    have hlocked := (hbooks.view hr).2.locked hdrawing
    exact absurd (hlocked.symm.trans hlock) nofun

/-- In a run whose draws begin and end at times that leave room for the
durations, no call is ever lost in its timing gate. -/
theorem gates_evaluate (hinit : Initialised h w) {calls : List Invocation}
    (heach : (machine h).Each LeavesRoom w calls) :
    (machine h).Always (GatesEvaluate h) w calls := by
  have hfresh := initialised_fresh hinit
  have hstart : TimesFit w := by
    obtain ⟨r, hr, hf⟩ := hfresh
    have hpending : ∀ r₁, w.raffle = some r₁ → r₁.status = .pendingPrize := by
      intro r₁ hr₁
      cases hr.symm.trans hr₁
      exact hf.pending
    exact ⟨fun r₁ hr₁ hs => by simp [hpending r₁ hr₁] at hs,
      fun r₁ hr₁ hs => by simp [hpending r₁ hr₁] at hs,
      fun r₁ hr₁ hs => by simp [hpending r₁ hr₁] at hs⟩
  have hall := Machine.always_of_each (m := machine h)
    (fun w => Holds h (fun b => Lifecycle b ∧ DrawKeys b) w ∧
      (∀ r, w.raffle = some r → Bounded r) ∧ TimesFit w)
    (fun w i w' hw hroom hok => by
      obtain ⟨hbooks, hbounded, hfit⟩ := hw
      have hlife : Holds h Lifecycle w := hbooks.left
      refine ⟨hbooks.step (fun _ _ _ hl hk hm => hk.move hl hm) hok, fun r' hr' => ?_,
        timesFit_step hlife hfit hroom hok⟩
      obtain ⟨r, hr, -⟩ := hlife
      obtain ⟨r₁, hr₁, hfixed⟩ := fixed_step hbooks.left hr hok
      cases hr'.symm.trans hr₁
      exact (hbounded r hr).of_fixed hfixed)
    ⟨(drawKeys_always hinit []).last, fun r hr => initialised_bounded hinit hr, hstart⟩ heach
  exact hall.mono fun w hw => hw.2.2.evaluate hw.1 hw.2.1

theorem gates_evaluate_silentOracleRun :
    StatusIn (· = .drawing) (Sample.after .ifElse externalConfig silentOracleRun) ∧
    (machine (Sample.host .ifElse)).Always (GatesEvaluate (Sample.host .ifElse))
      (Sample.start .ifElse externalConfig) silentOracleRun :=
  ⟨by decide +kernel,
    gates_evaluate (Sample.start_initialised (by decide +kernel)) (by decide +kernel)⟩

def endlessConfig : RaffleConfig :=
  { Sample.config with claimExpirySeconds := some (2 ^ 64 - 1) }

/-- An expiry as large as its type is accepted, and once the raffle is finalized
the sweep aborts for every caller at every ledger. -/
theorem sweep_gate_traps :
    Initialised (Sample.host .ifElse) (Sample.start .ifElse endlessConfig) ∧
    (∀ c startIndex limit, invoke (Sample.host .ifElse) ⟨c, .sweepUnclaimed startIndex limit⟩
      (Sample.after .ifElse endlessConfig Sample.awaitingRun) = .error .trap) ∧
    ¬(machine (Sample.host .ifElse)).Always (GatesEvaluate (Sample.host .ifElse))
      (Sample.start .ifElse endlessConfig) Sample.awaitingRun := by
  have hfree : (Sample.after .ifElse endlessConfig Sample.awaitingRun).reentrancyGuard = none := by
    decide +kernel
  have hsome : ∃ r, r ∈ (Sample.after .ifElse endlessConfig Sample.awaitingRun).raffle ∧
      r.status = .finalized ∧ r.claimExpirySeconds = 2 ^ 64 - 1 ∧
      r.finalizedAt = some 1000 := by decide +kernel
  obtain ⟨r, hr, hfinalized, hexpiry, hfinalizedAt⟩ := hsome
  have htraps (c : Ctx) (startIndex limit : Nat) : GateTraps (Sample.host .ifElse)
      (Sample.after .ifElse endlessConfig Sample.awaitingRun) r
      ⟨c, .sweepUnclaimed startIndex limit⟩ :=
    .sweep hfree hfinalized (by rw [hexpiry]; decide) hfinalizedAt (by rw [hexpiry]; rfl)
  refine ⟨Sample.start_initialised (by decide +kernel), fun c startIndex limit =>
    (htraps c startIndex limit).aborts hr, fun hall => ?_⟩
  exact hall.last r _ hr (htraps (Sample.ctx 5000 4 []) 0 0)

end TikkaRaffle.Properties
