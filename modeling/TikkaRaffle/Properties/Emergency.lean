import TikkaRaffle.Escrow.Records
import TikkaRaffle.Escrow.Terms

/-! The delay before an emergency withdrawal. It is measured from the ledger of
the randomness request. A raffle without a deadline begins its draw by selling
out, and of those only the `External` ones make the request there. -/
namespace TikkaRaffle.Properties

open TikkaRaffle.Lib TikkaRaffle.Instance TikkaRaffle.Escrow Constants

variable {h : Host} {w w' : World} {r : Raffle} {b b' : Books} {a : Act} {i : Invocation}

def EntersDrawing (w w' : World) : Prop :=
  StatusIn (· ≠ .drawing) w ∧ StatusIn (· = .drawing) w'

/-- A draw without a deadline to close it is left to an outside oracle. -/
def DrawsExternally (w : World) : Prop :=
  ∀ r, w.raffle = some r → r.noDeadline = true → r.randomnessSource = .external

instance (w w' : World) : Decidable (EntersDrawing w w') :=
  inferInstanceAs (Decidable (_ ∧ _))

instance (w : World) : Decidable (DrawsExternally w) :=
  inferInstanceAs (Decidable (∀ r ∈ w.raffle, r.noDeadline = true → _))

/-- Every emergency withdrawal of the run from a raffle without a deadline
comes a full delay after the call that began the draw. -/
def WaitsOut (h : Host) (w : World) (calls : List Invocation) : Prop :=
  ∀ before entry between emergency after w₁ w₂ r caller,
    calls = before ++ entry :: (between ++ emergency :: after) →
    (machine h).step entry ((machine h).run w before) = .ok w₁ →
    EntersDrawing ((machine h).run w before) w₁ →
    emergency.call = .emergencyWithdraw caller →
    ((machine h).run w₁ between).raffle = some r → r.noDeadline = true →
    (machine h).step emergency ((machine h).run w₁ between) = .ok w₂ →
    emergencyWithdrawDelaySeconds ≤ (emergency.ctx.sequence - entry.ctx.sequence) * 5

theorem Move.not_drawing (hm : Move h a b b') (ha : a ≠ .startDraw ∧ ∀ order, a ≠ .buy order)
    (hb : b.raffle.status ≠ .drawing) : b'.raffle.status ≠ .drawing := by
  cases hm with
  | buy _ order => exact absurd rfl (ha.2 order)
  | sellOut _ order => exact absurd rfl (ha.2 order)
  | startDraw => exact absurd rfl ha.1
  | deposit | fail | cancel => simp [Books.enter]
  | emergency => simp [Books.enter, Books.post]
  | abandon => simp [Books.enter, Books.disarm]
  | finish => simp [Books.enter, Books.crown, Books.disarm]
  | claim | sweep =>
    rw [Books.markTier_raffle, Raffle.setStatus_status]
    split
    · decide
    · exact hb
  | _ => exact hb

def isPurchase : Call → Bool
  | .buyTickets .. | .buyTicketsFor .. => true
  | _ => false

theorem yields_not_starting {call : Call} {acts : List Act} (hyields : call.Yields w r acts)
    (hbuy : isPurchase call = false) (hcall : call ≠ .finalizeRaffle) :
    ∀ a ∈ acts, a ≠ .startDraw ∧ ∀ order, a ≠ .buy order := by
  intro a ha
  cases call <;> grind [Call.Yields, isPurchase]

/-- A selling-out purchase of an `External` raffle writes the request ledger. -/
theorem counts_ledger {c : Ctx} {holder : Address} {quantity : Nat}
    (hs : Counts c w r w' holder quantity) (hfull : r.maxTickets ≤ r.ticketsSold + quantity)
    (hexternal : r.randomnessSource = .external) :
    w'.randomnessRequestLedger = some c.sequence := by
  have hkeys := hs.2
  rw [if_pos ⟨hfull, hexternal⟩] at hkeys
  exact congrArg Records.requestLedger hkeys

theorem sale_enters {order : Order} (hm : Move h (.buy order) b b')
    (hafter : b'.raffle.status = .drawing) :
    b.raffle.maxTickets ≤ b.raffle.ticketsSold + order.quantity := by
  cases hm with
  | buy _ _ total fee time hsale =>
    have hactive : b.raffle.status = .drawing := hafter
    rw [hsale.active] at hactive
    cases hactive
  | sellOut _ _ total fee time request hsale hsupply => exact hsupply.ge

theorem finalizeRaffle_ledger {c : Ctx} {r' : Raffle} (hr' : w'.raffle = some r')
    (hafter : r'.status = .drawing) (hs : Call.finalizeRaffle.Stores h c w r w') :
    w'.randomnessRequestLedger = some c.sequence := by
  rcases hs with ⟨hfailed, -⟩ | hs
  · rw [hr'] at hfailed
    cases hfailed
    cases hafter
  · split at hs
    next => exact congrArg Records.requestLedger hs.2
    next => exact congrArg Records.requestLedger hs.2
    next =>
      obtain ⟨seed, hdraw⟩ := hs
      have hfinalized := concludes_finalized hr' hdraw
      rw [hafter] at hfinalized
      cases hfinalized

theorem entry_ledger (hw : Holds h Lifecycle w) (hentry : EntersDrawing w w')
    (hr : w.raffle = some r) (hsource : r.randomnessSource = .external)
    (hok : invoke h i w = .ok w') : w'.randomnessRequestLedger = some i.ctx.sequence := by
  obtain ⟨r', acts, hr', hyields, hpath⟩ := committed_path_from hw hr hok
  have hbefore : r.status ≠ .drawing := hentry.1.stored hr
  have hafter : r'.status = .drawing := hentry.2.stored hr'
  have hstores := invoke_stores hr hok
  cases hcall : i.call with
  | buyTickets buyer quantity =>
    rw [hcall] at hstores hyields
    cases hyields
    have hfull := sale_enters hpath.of_single hafter
    exact counts_ledger hstores hfull hsource
  | buyTicketsFor buyer recipient quantity =>
    rw [hcall] at hstores hyields
    cases hyields
    have hfull := sale_enters hpath.of_single hafter
    exact counts_ledger hstores hfull hsource
  | finalizeRaffle =>
    rw [hcall] at hstores
    exact finalizeRaffle_ledger hr' hafter hstores
  | _ =>
    have hacts := yields_not_starting hyields (by rw [hcall]; rfl) (by rw [hcall]; exact nofun)
    have hstays := hpath.preserves (fun b => b.raffle.status ≠ .drawing)
      (fun a => a ≠ .startDraw ∧ ∀ order, a ≠ .buy order)
      (fun a b b' ha hb hm => Move.not_drawing hm ha hb) hacts hbefore
    exact absurd hafter hstays

theorem Move.ends (hm : Move h a b b') (ha : a = .abandon ∨ a = .finish) :
    b'.raffle.status ≠ .drawing := by
  rcases ha with rfl | rfl <;> cases hm
  · simp [Books.enter, Books.disarm]
  · simp [Books.enter, Books.crown, Books.disarm]

theorem draw_keeps_ledger (hw : Holds h Lifecycle w) (hbefore : StatusIn (· = .drawing) w)
    (hafter : StatusIn (· = .drawing) w') (hok : invoke h i w = .ok w') :
    w'.randomnessRequestLedger = w.randomnessRequestLedger := by
  obtain ⟨r, r', acts, hr, hr', -, hyields, hpath⟩ := committed_path hw hok
  have hdrawing : r.status = .drawing := hbefore.stored hr
  have hdrawing' : r'.status = .drawing := hafter.stored hr'
  have hnot : r.status ≠ .active := by simp [hdrawing]
  have hopen : r'.status ≠ .finalized := by simp [hdrawing']
  have hstores := invoke_stores hr hok
  cases hcall : i.call with
  | buyTickets buyer quantity =>
    rw [hcall] at hyields
    cases hyields
    exact absurd (Move.sale_active hpath.of_single) hnot
  | buyTicketsFor buyer recipient quantity =>
    rw [hcall] at hyields
    cases hyields
    exact absurd (Move.sale_active hpath.of_single) hnot
  | finalizeRaffle =>
    rw [hcall] at hyields
    exact absurd (finalizeRaffle_active hyields hpath) hnot
  | provideRandomness seed publicKey proof requestId =>
    rw [hcall] at hstores
    exact absurd (concludes_finalized hr' hstores) hopen
  | provideQuorumRandomness oracle seed requestId =>
    rw [hcall] at hstores
    obtain ⟨config, -, -, -, -, -, ⟨-, hkeys, -⟩ | ⟨-, hdraw⟩⟩ := hstores
    · exact congrArg Records.requestLedger hkeys
    · exact absurd (concludes_finalized hr' hdraw) hopen
  | triggerRandomnessFallback caller doRefund =>
    rw [hcall] at hyields
    have hended : (view h w' r').raffle.status ≠ .drawing := by
      rcases hyields with ⟨-, rfl | rfl⟩
      · exact Move.ends hpath.of_single (.inl rfl)
      · exact Move.ends hpath.of_single (.inr rfl)
    exact absurd hdrawing' hended
  | cancelRaffle reason =>
    rw [hcall] at hstores
    obtain ⟨cancelAt, hkeys⟩ := cancelling_kept hstores
    exact congrArg Records.requestLedger hkeys
  | executeAdminCancel =>
    rw [hcall] at hstores
    exact congrArg Records.requestLedger hstores.2
  | wipeStorage =>
    rw [hcall] at hstores
    have hterminal := hstores.1
    rw [hdrawing] at hterminal
    cases hterminal
  | _ =>
    rw [hcall] at hstores
    exact congrArg Records.requestLedger hstores

/-- A draw under way, or over, whose request was made at ledger `d`. -/
def DrawnSince (h : Host) (d : Nat) (w : World) : Prop :=
  Holds h Lifecycle w ∧ StatusIn begun w ∧
    (StatusIn (· = .drawing) w → w.randomnessRequestLedger = some d)

theorem drawnSince_step {d : Nat} (hw : DrawnSince h d w) (hok : invoke h i w = .ok w') :
    DrawnSince h d w' := by
  obtain ⟨hlife, hbegun, hledger⟩ := hw
  refine ⟨lifecycle_step hlife hok, hbegun.step begun_closed hlife hok, fun hafter => ?_⟩
  have hbefore : StatusIn (· = .drawing) w := by
    obtain ⟨r, hr, hs⟩ := hbegun
    by_contra hnot
    have hended : StatusIn ended w := ⟨r, hr, hs, fun hdrawing => hnot ⟨r, hr, hdrawing⟩⟩
    obtain ⟨r', hr', -, hover⟩ := hended.step ended_closed hlife hok
    exact hover (hafter.stored hr')
  rw [draw_keeps_ledger hlife hbefore hafter hok]
  exact hledger hbefore

theorem emergencyWithdraw_delay {caller : Address} (hcall : i.call = .emergencyWithdraw caller)
    (hr : w.raffle = some r) (hdeadline : r.noDeadline = true) (hok : invoke h i w = .ok w') :
    r.status = .drawing ∧ emergencyWithdrawDelaySeconds ≤
      (i.ctx.sequence - w.randomnessRequestLedger.getD 0) * 5 := by
  simp only [invoke, hcall, emergencyWithdraw, except_bind_ok, readRaffle_ok, hr,
    Option.some.injEq, exists_eq_left', ensure_ok, requireEmergencyDelay, hdeadline, if_true,
    exists_const] at hok
  obtain ⟨_, -, -, admin, -, -, hdrawing, hdelay, -⟩ := hok
  exact ⟨hdrawing, hdelay⟩

/-- In a run whose draws without a deadline are all external, emergency
withdrawals wait out their delay. -/
theorem emergency_waitsOut (hinit : Initialised h w) {calls : List Invocation}
    (heach : (machine h).Each (fun w _ w' => EntersDrawing w w' → DrawsExternally w) w calls) :
    WaitsOut h w calls := by
  intro before entry between emergency after w₁ w₂ r caller hcalls hentry henters hcall hr
    hdeadline hok
  subst hcalls
  have hlife : Holds h Lifecycle ((machine h).run w before) :=
    (lifecycle_always hinit before).last
  have hlife₁ : Holds h Lifecycle w₁ := lifecycle_step hlife hentry
  obtain ⟨r₀, hr₀, -⟩ := henters.1
  obtain ⟨r₁, hr₁, hdrawing₁⟩ := henters.2
  -- the deadline flag of the withdrawal is the one the draw began with
  obtain ⟨r₂, hr₂, hkept⟩ := fixed_run hlife₁ hr₁ between
  rw [hr] at hr₂
  cases hr₂
  obtain ⟨r₃, hr₃, hentered⟩ := fixed_step hlife hr₀ hentry
  rw [hr₁] at hr₃
  cases hr₃
  have hflag := fixed_field Raffle.noDeadline (fun _ => rfl) (hkept.trans hentered)
  have hopenEnded : r₀.noDeadline = true := hflag.symm.trans hdeadline
  have hledger := entry_ledger hlife henters hr₀ (heach.at hentry henters r₀ hr₀ hopenEnded) hentry
  have hstart : DrawnSince h entry.ctx.sequence w₁ :=
    ⟨hlife₁, ⟨r₁, hr₁, by rw [hdrawing₁]; exact ⟨nofun, nofun⟩⟩, fun _ => hledger⟩
  have hsince := (Machine.always_of_step (m := machine h) (DrawnSince h entry.ctx.sequence)
    (fun w i w' hw hok => drawnSince_step hw hok) hstart between).last
  obtain ⟨hdrawing, hdelay⟩ := emergencyWithdraw_delay hcall hr hdeadline hok
  rw [hsince.2.2 ⟨r, hr, hdrawing⟩] at hdelay
  exact hdelay

def openEnded (source : RandomnessSource) (oracle : Option Address) : RaffleConfig :=
  { Sample.config with
    endTime := 0
    noDeadline := true
    randomnessSource := source
    oracleAddress := oracle }

def withdrawnRun (sold withdrawn : Nat) : List Invocation :=
  [Sample.signed [Sample.creator] 1 1 .depositPrize,
    Sample.signed [Sample.buyer] 2 sold (.buyTickets Sample.buyer 3),
    Sample.signed [Sample.creator] 3 withdrawn (.emergencyWithdraw Sample.creator)]

theorem emergency_waitsOut_withdrawnRun :
    StatusIn (· = .cancelled) (Sample.after .ifElse
      (openEnded .external (some Sample.treasury)) (withdrawnRun 100 1555300)) ∧
    WaitsOut (Sample.host .ifElse)
      (Sample.start .ifElse (openEnded .external (some Sample.treasury)))
      (withdrawnRun 100 1555300) := by
  have hinit : Initialised (Sample.host .ifElse)
      (Sample.start .ifElse (openEnded .external (some Sample.treasury))) :=
    Sample.start_initialised (by decide +kernel)
  exact ⟨by decide +kernel, emergency_waitsOut hinit (by decide +kernel)⟩

theorem WaitsOut.at_once {before : List Invocation} (entry emergency : Invocation)
    {caller : Address} (hwaits : WaitsOut h w (before ++ [entry, emergency]))
    (hentry : ((machine h).step entry ((machine h).run w before)).isOk = true)
    (henters : EntersDrawing ((machine h).run w before)
      ((machine h).exec ((machine h).run w before) entry))
    (hcall : emergency.call = .emergencyWithdraw caller)
    (hopen : ∃ r, r ∈ ((machine h).exec ((machine h).run w before) entry).raffle ∧
      r.noDeadline = true)
    (htaken : ((machine h).step emergency
      ((machine h).exec ((machine h).run w before) entry)).isOk = true) :
    emergencyWithdrawDelaySeconds ≤ (emergency.ctx.sequence - entry.ctx.sequence) * 5 := by
  obtain ⟨r, hr, hdeadline⟩ := hopen
  obtain ⟨w₂, hok⟩ := except_isOk htaken
  exact hwaits before entry [] emergency [] _ w₂ r caller rfl (Machine.step_exec _ hentry) henters
    hcall hr hdeadline hok

/-- A sold-out `Internal` raffle makes no request, so its prize can be taken at
the ledger of the last sale. -/
theorem emergency_at_once :
    Initialised (Sample.host .ifElse) (Sample.start .ifElse (openEnded .internal none)) ∧
    ¬WaitsOut (Sample.host .ifElse) (Sample.start .ifElse (openEnded .internal none))
      (withdrawnRun 2000000 2000000) := by
  refine ⟨Sample.start_initialised (by decide +kernel), fun hwaits => ?_⟩
  have hdelay := WaitsOut.at_once
    (Sample.signed [Sample.buyer] 2 2000000 (.buyTickets Sample.buyer 3))
    (Sample.signed [Sample.creator] 3 2000000 (.emergencyWithdraw Sample.creator))
    (show WaitsOut _ _ ([Sample.signed [Sample.creator] 1 1 .depositPrize] ++ _) from hwaits)
    (by decide +kernel) (by decide +kernel) rfl (by decide +kernel) (by decide +kernel)
  exact absurd hdelay (by decide)

end TikkaRaffle.Properties
