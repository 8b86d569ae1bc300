import TikkaRaffle.Escrow.Lifecycle

/-! The draw over whole runs: what the lock and the request keys say about the
status, and whether a drawing raffle can be completed. -/
namespace TikkaRaffle.Properties

open TikkaRaffle.Lib TikkaRaffle.Instance TikkaRaffle.Escrow

variable {h : Host} {w w' : World} {r : Raffle} {b b' : Books} {a : Act}

/-- The draws that wait for an oracle: an external one always, a quorum only
when `finalize_raffle` started it. -/
def Awaited (r : Raffle) : Prop :=
  r.randomnessSource = .external ∨
    ∃ config, r.randomnessSource = .quorum config ∧ r.ticketsSold < r.maxTickets

structure DrawKeys (b : Books) : Prop where
  idle : b.raffle.status = .pendingPrize ∨ b.raffle.status = .active →
    b.lock = false ∧ b.requested = false
  locked : b.raffle.status = .drawing → b.lock = true
  asked : b.raffle.status = .drawing → (b.requested = true ↔ Awaited b.raffle)
  answered : b.raffle.status = .drawing → b.requested = true → b.requestId.isSome = true

namespace DrawKeys

theorem of_fresh (hf : Fresh b) : DrawKeys b where
  idle _ := ⟨hf.lock, hf.requested⟩
  locked hs := by simp [hf.pending] at hs
  asked hs := by simp [hf.pending] at hs
  answered hs := by simp [hf.pending] at hs

theorem of_past (hpast : returning b.raffle.status ∨ paying b.raffle.status) : DrawKeys b := by
  have hne : ∀ s, s = .pendingPrize ∨ s = .active ∨ s = .drawing → b.raffle.status ≠ s := by
    rintro s hs rfl
    rcases hpast with (hp | hp) | (hp | hp) <;> simp [hp] at hs
  exact ⟨fun hs => by rcases hs with hs | hs <;> exact absurd hs (hne _ (by simp)),
    fun hs => absurd hs (hne _ (by simp)), fun hs => absurd hs (hne _ (by simp)),
    fun hs => absurd hs (hne _ (by simp))⟩

theorem of_same (hk : DrawKeys b) (hstatus : b'.raffle.status = b.raffle.status)
    (hawaited : Awaited b'.raffle ↔ Awaited b.raffle) (hlock : b'.lock = b.lock)
    (hrequested : b'.requested = b.requested) (hid : b'.requestId = b.requestId) :
    DrawKeys b' where
  idle hs := by
    rw [hlock, hrequested]
    exact hk.idle (hstatus ▸ hs)
  locked hs := by
    rw [hlock]
    exact hk.locked (hstatus ▸ hs)
  asked hs := by
    rw [hrequested, hawaited]
    exact hk.asked (hstatus ▸ hs)
  answered hs hr := by
    rw [hid]
    exact hk.answered (hstatus ▸ hs) (hrequested ▸ hr)

theorem of_armed {request : Option Nat} (hidle : b.requested = false)
    (hiff : request.isSome = true ↔ Awaited b.raffle) :
    DrawKeys ((b.enter .drawing).arm request) where
  idle hs := by rcases hs with hs | hs <;> simp [Books.arm, Books.enter] at hs
  locked _ := rfl
  asked _ := by
    have hrequested : ((b.enter .drawing).arm request).requested = request.isSome := by
      simp [Books.arm, Books.enter, hidle]
    rw [hrequested]
    exact hiff
  answered _ hr := by
    have hrequested : ((b.enter .drawing).arm request).requested = request.isSome := by
      simp [Books.arm, Books.enter, hidle]
    rw [hrequested] at hr
    simp [Books.arm, hr]

theorem move (hl : Lifecycle b) (hk : DrawKeys b) (hm : Move h a b b') : DrawKeys b' := by
  have hhops := Hops.move hm
  cases hm with
  | deposit _ hstatus => exact ⟨fun _ => hk.idle (.inl hstatus), nofun, nofun, nofun⟩
  | buy _ order total fee time hsale =>
    have hactive : (b.sell h.self order total fee time).raffle.status = .active := hsale.active
    exact ⟨fun _ => hk.idle (.inr hsale.active), by simp [hactive], by simp [hactive],
      by simp [hactive]⟩
  | sellOut _ order total fee time request hsale hsupply hrequest hfresh =>
    refine of_armed (b := b.sell h.self order total fee time) (hk.idle (.inr hsale.active)).2 ?_
    refine hrequest.trans ⟨.inl, ?_⟩
    rintro (hexternal | ⟨config, -, hlt⟩)
    · exact hexternal
    · exact absurd hsupply hlt.ne
  | startDraw _ request hstatus hlock hsold hmin hrequest hfresh =>
    refine of_armed (hk.idle (.inr hstatus)).2 (hrequest.trans (or_congr_right ?_))
    exact exists_congr fun config => (and_iff_left (hl.onSale hstatus)).symm
  | finish => exact of_past (.inr (.inl rfl))
  | claim _ tier winner amount fee hpay =>
    exact of_past (.inr (hhops.stays paying paying_closed (.inl hpay.finalized)))
  | sweep _ tier winner treasury amount hpay =>
    exact of_past (.inr (hhops.stays paying paying_closed (.inl hpay.finalized)))
  | fail => exact of_past (.inl (.inr rfl))
  | cancel | abandon | emergency => exact of_past (.inl (.inl rfl))
  | wipe _ hstatus => exact of_past (hstatus.imp id .inr)
  | _ => exact hk.of_same rfl Iff.rfl rfl rfl rfl

end DrawKeys

theorem drawKeys_always (hinit : Initialised h w) (calls : List Invocation) :
    (machine h).Always (Holds h fun b => Lifecycle b ∧ DrawKeys b) w calls :=
  always_of_fresh hinit (fun _ => DrawKeys.of_fresh) (fun _ _ _ => DrawKeys.move) calls

/-- An oracle has been asked and the code can accept its answer. -/
def RequestPending (w : World) (r : Raffle) : Prop :=
  w.randomnessRequested.getD false = true ∧ w.randomnessRequestId.isSome = true ∧
    (r.randomnessSource = .external ∨ ∃ config, r.randomnessSource = .quorum config)

def CanFinalize (h : Host) (w : World) (r : Raffle) : Prop :=
  ∃ c w' r', r.creator ∈ c.auths ∧ finalizeRaffle h c w = .ok w' ∧ w'.raffle = some r' ∧
    r'.status = .finalized

theorem finalizeRaffle_locked {c : Ctx} (hlock : w.drawingLock.getD false = true) :
    finalizeRaffle h c w = .error (.err .drawingAlreadyInProgress) := by
  simp [finalizeRaffle, ensure, hlock, bind, Except.bind]

theorem not_canFinalize_of_locked (hlock : w.drawingLock.getD false = true) :
    ¬CanFinalize h w r := by
  rintro ⟨c, w', r', -, hok, -⟩
  rw [finalizeRaffle_locked hlock] at hok
  cases hok

/-- A drawing raffle can be completed exactly when its draw waits for an
oracle. The lock that `transition_to_drawing` sets turns `finalize_raffle`
away from every drawing raffle. -/
theorem completable_iff_awaited (hinit : Initialised h w) (calls : List Invocation) :
    (machine h).Always (fun w => ∀ r, w.raffle = some r → r.status = .drawing →
      (RequestPending w r ∨ CanFinalize h w r ↔ Awaited r)) w calls := by
  refine (drawKeys_always hinit calls).mono fun w hw r hr hdrawing => ?_
  obtain ⟨-, hk⟩ := hw.view hr
  have hasked := hk.asked hdrawing
  constructor
  · rintro (⟨hrequested, -, -⟩ | hfinalize)
    · exact hasked.mp hrequested
    · exact absurd hfinalize (not_canFinalize_of_locked (hk.locked hdrawing))
  · intro hawaited
    have hrequested := hasked.mpr hawaited
    refine .inl ⟨hrequested, hk.answered hdrawing hrequested, ?_⟩
    rcases hawaited with hexternal | ⟨config, hquorum, -⟩
    · exact .inl hexternal
    · exact .inr ⟨config, hquorum⟩

def soldOutRun : List Invocation :=
  [Sample.signed [Sample.creator] 1 1 .depositPrize,
    Sample.signed [Sample.buyer] 2 2 (.buyTickets Sample.buyer 3)]

theorem completable_iff_awaited_soldOut :
    Initialised (Sample.host .ifElse) (Sample.start .ifElse Sample.config) ∧
    (machine (Sample.host .ifElse)).Always (fun w => ∀ r, w.raffle = some r →
      r.status = .drawing → (RequestPending w r ∨ CanFinalize (Sample.host .ifElse) w r ↔
        Awaited r)) (Sample.start .ifElse Sample.config) soldOutRun :=
  have hinit := Sample.start_initialised (by decide +kernel)
  ⟨hinit, completable_iff_awaited hinit soldOutRun⟩

/-- With an internal source the sold-out raffle is stuck. -/
theorem soldOut_not_completable :
    Initialised (Sample.host .ifElse) (Sample.start .ifElse Sample.config) ∧
    ∃ r, ((machine (Sample.host .ifElse)).run (Sample.start .ifElse Sample.config)
        soldOutRun).raffle = some r ∧ r.status = .drawing ∧
      ¬(RequestPending ((machine (Sample.host .ifElse)).run (Sample.start .ifElse Sample.config)
          soldOutRun) r ∨
        CanFinalize (Sample.host .ifElse) ((machine (Sample.host .ifElse)).run
          (Sample.start .ifElse Sample.config) soldOutRun) r) := by
  refine ⟨Sample.start_initialised (by decide +kernel), ?_⟩
  have hstatus : ((machine (Sample.host .ifElse)).run (Sample.start .ifElse Sample.config)
      soldOutRun).raffle.map Raffle.status = some .drawing := by decide +kernel
  have hlock : ((machine (Sample.host .ifElse)).run (Sample.start .ifElse Sample.config)
      soldOutRun).drawingLock.getD false = true := by decide +kernel
  have hrequested : ((machine (Sample.host .ifElse)).run (Sample.start .ifElse Sample.config)
      soldOutRun).randomnessRequested.getD false = false := by decide +kernel
  obtain ⟨r, hr, hdrawing⟩ := Option.map_eq_some_iff.mp hstatus
  refine ⟨r, hr, hdrawing, ?_⟩
  rintro (⟨hasked, -, -⟩ | hfinalize)
  · rw [hrequested] at hasked
    cases hasked
  · exact not_canFinalize_of_locked hlock hfinalize

/-- The outcome `trigger_randomness_fallback` promises. -/
def FallbackWorks (h : Host) (c : Ctx) (w : World) (caller : Address) (doRefund : Bool) : Prop :=
  ∃ w' r', triggerRandomnessFallback h c w caller doRefund = .ok w' ∧ w'.raffle = some r' ∧
    if doRefund then
      r'.status = .cancelled ∧ w'.randomnessRequested = none ∧ w'.randomnessRequestId = none ∧
        w'.randomnessRequestLedger = none ∧ w'.drawingLock = some false
    else r'.status = .finalized

structure FallbackDue (h : Host) (c : Ctx) (w : World) (r : Raffle) (caller : Address) : Prop where
  stored : w.raffle = some r
  drawing : r.status = .drawing
  requested : w.randomnessRequested = some true
  timeout : ∀ requestLedger, w.randomnessRequestLedger = some requestLedger →
    requestLedger + Constants.oracleTimeoutLedgers ≤ c.sequence
  tiers : r.prizes.length ≤ r.ticketsSold
  authorised : caller ∈ c.auths ∧ (caller = r.creator ∨ w.admin = some caller)

theorem fallback_locked {c : Ctx} {caller : Address} {doRefund : Bool}
    (hlock : w.drawingLock.getD false = true) :
    triggerRandomnessFallback h c w caller doRefund = .error (.err .drawingAlreadyInProgress) := by
  simp [triggerRandomnessFallback, ensure, hlock, bind, Except.bind]

/-- The fallback fails on every drawing raffle: the lock it requires to be open
is held for the whole draw. -/
theorem fallback_never_works (hinit : Initialised h w) (calls : List Invocation) :
    (machine h).Always (fun w => ∀ r c caller doRefund, FallbackDue h c w r caller →
      ¬FallbackWorks h c w caller doRefund) w calls := by
  refine (drawKeys_always hinit calls).mono fun w hw r c caller doRefund hdue hworks => ?_
  obtain ⟨-, hk⟩ := hw.view hdue.stored
  obtain ⟨w', r', hok, -⟩ := hworks
  rw [fallback_locked (hk.locked hdue.drawing)] at hok
  cases hok

def externalConfig : RaffleConfig :=
  { Sample.config with randomnessSource := .external, oracleAddress := some ⟨7⟩ }

def silentOracleRun : List Invocation :=
  [Sample.signed [Sample.creator] 1 1 .depositPrize,
    Sample.signed [Sample.buyer] 2 2 (.buyTickets Sample.buyer 1),
    Sample.signed [Sample.creator] 1000 3 .finalizeRaffle]

theorem fallback_never_works_silentOracle :
    Initialised (Sample.host .ifElse) (Sample.start .ifElse externalConfig) ∧
    (machine (Sample.host .ifElse)).Always (fun w => ∀ r c caller doRefund,
      FallbackDue (Sample.host .ifElse) c w r caller →
        ¬FallbackWorks (Sample.host .ifElse) c w caller doRefund)
      (Sample.start .ifElse externalConfig) silentOracleRun :=
  have hinit := Sample.start_initialised (by decide +kernel)
  ⟨hinit, fallback_never_works hinit silentOracleRun⟩

/-- At ledger 203 the request of ledger 3 has timed out and both fallbacks are
refused. -/
theorem fallback_refused :
    Initialised (Sample.host .ifElse) (Sample.start .ifElse externalConfig) ∧
    ∃ r, FallbackDue (Sample.host .ifElse) (Sample.ctx 5000 203 [Sample.creator])
        ((machine (Sample.host .ifElse)).run (Sample.start .ifElse externalConfig)
          silentOracleRun) r Sample.creator ∧
      ∀ doRefund, ¬FallbackWorks (Sample.host .ifElse) (Sample.ctx 5000 203 [Sample.creator])
        ((machine (Sample.host .ifElse)).run (Sample.start .ifElse externalConfig)
          silentOracleRun) Sample.creator doRefund := by
  refine ⟨Sample.start_initialised (by decide +kernel), ?_⟩
  have hstate : ((machine (Sample.host .ifElse)).run (Sample.start .ifElse externalConfig)
      silentOracleRun).raffle.map (fun r => (r.status, r.prizes.length, r.ticketsSold, r.creator)) =
        some (.drawing, 1, 1, Sample.creator) := by decide +kernel
  have hrequested : ((machine (Sample.host .ifElse)).run (Sample.start .ifElse externalConfig)
      silentOracleRun).randomnessRequested = some true := by decide +kernel
  have hledger : ((machine (Sample.host .ifElse)).run (Sample.start .ifElse externalConfig)
      silentOracleRun).randomnessRequestLedger = some 3 := by decide +kernel
  have hlock : ((machine (Sample.host .ifElse)).run (Sample.start .ifElse externalConfig)
      silentOracleRun).drawingLock.getD false = true := by decide +kernel
  obtain ⟨r, hr, hfields⟩ := Option.map_eq_some_iff.mp hstate
  simp only [Prod.mk.injEq] at hfields
  obtain ⟨hdrawing, hprizes, hsold, hcreator⟩ := hfields
  refine ⟨r, ⟨hr, hdrawing, hrequested, ?_, by omega, by decide, .inl hcreator.symm⟩, ?_⟩
  · intro requestLedger hstored
    rw [hledger] at hstored
    cases hstored
    decide
  · rintro doRefund ⟨w', r', hok, -⟩
    rw [fallback_locked hlock] at hok
    cases hok

/-- The lock is set exactly while drawing, and requests only exist then. -/
def Mirrored (w : World) : Prop :=
  ∃ r, w.raffle = some r ∧ (w.drawingLock.getD false = true ↔ r.status = .drawing) ∧
    (w.randomnessRequested.getD false = true → r.status = .drawing)

def Mirror (b : Books) : Prop :=
  (b.lock = true ↔ b.raffle.status = .drawing) ∧
    (b.requested = true → b.raffle.status = .drawing)

def isCancellation : Call → Bool
  | .cancelRaffle reason => reason ≠ .adminCancelled
  | .executeAdminCancel | .emergencyWithdraw _ => true
  | _ => false

/-- The call would take a raffle out of its running draw. -/
def CancelsDraw (w : World) (i : Invocation) : Prop :=
  isCancellation i.call = true ∧ ∃ r, w.raffle = some r ∧ r.status = .drawing

namespace Mirror

theorem of_idle (hlock : b.lock = false) (hrequested : b.requested = false)
    (hstatus : b.raffle.status ≠ .drawing) : Mirror b := by
  simp [Mirror, hlock, hrequested, hstatus]

theorem of_same (hk : Mirror b) (hstatus : b'.raffle.status = b.raffle.status)
    (hlock : b'.lock = b.lock) (hrequested : b'.requested = b.requested) : Mirror b' := by
  simpa only [Mirror, hstatus, hlock, hrequested] using hk

theorem of_fresh (hf : Fresh b) : Mirror b :=
  of_idle hf.lock hf.requested (by simp [hf.pending])

theorem idle (hk : Mirror b) (hstatus : b.raffle.status ≠ .drawing) :
    b.lock = false ∧ b.requested = false := by
  simpa [Mirror, hstatus] using hk

theorem settle (hk : Mirror b) (hstatus : b.raffle.status ≠ .drawing) : Mirror b.settle := by
  obtain ⟨hlock, hrequested⟩ := hk.idle hstatus
  unfold Books.settle
  split
  · exact of_idle hlock hrequested (by simp [Books.enter])
  · exact hk

theorem move (hk : Mirror b) (ha : a ≠ .cancel ∧ a ≠ .emergency) (hm : Move h a b b') :
    Mirror b' := by
  cases hm with
  | deposit _ hstatus =>
    obtain ⟨hlock, hrequested⟩ := hk.idle (by simp [hstatus])
    exact of_idle hlock hrequested (by simp [Books.enter])
  | sellOut | startDraw => exact ⟨⟨fun _ => rfl, fun _ => rfl⟩, fun _ => rfl⟩
  | finish => exact of_idle rfl rfl (by simp [Books.enter, Books.crown, Books.disarm])
  | fail _ hstatus =>
    obtain ⟨hlock, hrequested⟩ := hk.idle (by simp [hstatus])
    exact of_idle hlock hrequested (by simp [Books.enter])
  | cancel => exact absurd rfl ha.1
  | abandon => exact of_idle rfl rfl (by simp [Books.enter, Books.disarm])
  | emergency => exact absurd rfl ha.2
  | claim _ tier winner amount fee hpay =>
    have hstatus : b.raffle.status ≠ .drawing := by simp [hpay.finalized]
    exact settle (hk.of_same rfl rfl rfl) hstatus
  | sweep _ tier winner treasury amount hpay =>
    have hstatus : b.raffle.status ≠ .drawing := by simp [hpay.finalized]
    exact settle (hk.of_same rfl rfl rfl) hstatus
  | wipe _ hstatus =>
    refine of_idle rfl rfl ?_
    rcases hstatus with (hs | hs) | hs <;> simp [Books.wiped, Books.disarm, hs]
  | _ => exact hk.of_same rfl rfl rfl

end Mirror

/-- Only cancellations make the two moves that forget the lock. -/
theorem yields_keep_lock {call : Call} {acts : List Act} (hyields : call.Yields w r acts)
    (hcall : isCancellation call = false) : ∀ a ∈ acts, a ≠ .cancel ∧ a ≠ .emergency := by
  intro a ha
  cases call <;> grind [Call.Yields, isCancellation]

theorem yields_cancellation {call : Call} {acts : List Act} (hyields : call.Yields w r acts)
    (hcall : isCancellation call = true) : acts = [.cancel] ∨ acts = [.emergency] := by
  cases call <;> grind [Call.Yields, isCancellation]

/-- A cancellation inside the draw leaves the lock behind. -/
theorem mirror_lost (hk : Mirror b) (hdrawing : b.raffle.status = .drawing)
    (hact : a = .cancel ∨ a = .emergency) (hm : Move h a b b') : ¬Mirror b' := by
  have hlock := hk.1.mpr hdrawing
  rintro ⟨hiff, -⟩
  rcases hact with rfl | rfl <;> cases hm
  · exact nomatch hiff.mp hlock
  · exact nomatch hiff.mp hlock

theorem mirror_kept (hk : Mirror b) (hidle : b.raffle.status ≠ .drawing)
    (hact : a = .cancel ∨ a = .emergency) (hm : Move h a b b') : Mirror b' := by
  obtain ⟨hlock, hrequested⟩ := hk.idle hidle
  rcases hact with rfl | rfl
  · cases hm
    exact .of_idle hlock hrequested (by simp [Books.enter])
  · cases hm with
    | emergency _ refunds hstatus => exact absurd hstatus hidle

theorem mirrored_step {i : Invocation} (hw : Holds h Lifecycle w) (hmirror : Mirrored w)
    (hok : invoke h i w = .ok w') : Mirrored w' ↔ ¬CancelsDraw w i := by
  obtain ⟨r, r', acts, hr, hr', -, hyields, hpath⟩ := committed_path hw hok
  have hk : Mirror (view h w r) := Holds.view (show Holds h Mirror w from hmirror) hr
  have hiff : Mirrored w' ↔ Mirror (view h w' r') :=
    ⟨fun hm : Holds h Mirror w' => hm.view hr', fun hm => ⟨r', hr', hm⟩⟩
  rw [hiff]
  rcases Bool.eq_false_or_eq_true (isCancellation i.call) with hcancel | hother
  · have hsingle : ∃ a, (a = .cancel ∨ a = .emergency) ∧
        Move h a (view h w r) (view h w' r') := by
      rcases yields_cancellation hyields hcancel with rfl | rfl <;>
        exact ⟨_, by simp, hpath.of_single⟩
    obtain ⟨a, hact, hmove⟩ := hsingle
    by_cases hdrawing : r.status = .drawing
    · have hcancels : CancelsDraw w i := ⟨hcancel, r, hr, hdrawing⟩
      simp only [mirror_lost hk hdrawing hact hmove, hcancels, not_true_eq_false]
    · refine iff_of_true (mirror_kept hk hdrawing hact hmove) ?_
      rintro ⟨-, r₀, hr₀, hs⟩
      rw [hr] at hr₀
      cases hr₀
      exact hdrawing hs
  · refine iff_of_true ?_ fun hcancels => by simp [hcancels.1] at hother
    exact hpath.preserves Mirror (fun a => a ≠ .cancel ∧ a ≠ .emergency)
      (fun a b b' ha hb hm => Mirror.move hb ha hm)
      (yields_keep_lock hyields hother) hk

/-- The lock mirrors the status along a run exactly when no committed call of
it cancels a running draw. -/
theorem mirrored_iff_no_cancelled_draw (hinit : Initialised h w) (calls : List Invocation) :
    (machine h).Always Mirrored w calls ↔
      (machine h).Each (fun w i _ => ¬CancelsDraw w i) w calls := by
  have hfresh := initialised_fresh hinit
  have hstart : Mirrored w := by
    obtain ⟨r, hr, hf⟩ := hfresh
    exact ⟨r, hr, Mirror.of_fresh hf⟩
  exact Machine.always_iff_each (Holds h Lifecycle)
    (fun w i w' hw hok => lifecycle_step hw hok)
    (fun w i w' hw hm hok => mirrored_step hw hm hok)
    (hfresh.mono fun _ => Lifecycle.of_fresh) hstart calls

theorem mirrored_iff_soldOut :
    Initialised (Sample.host .ifElse) (Sample.start .ifElse Sample.config) ∧
    ((machine (Sample.host .ifElse)).Always Mirrored (Sample.start .ifElse Sample.config)
        soldOutRun ↔
      (machine (Sample.host .ifElse)).Each (fun w i _ => ¬CancelsDraw w i)
        (Sample.start .ifElse Sample.config) soldOutRun) :=
  have hinit := Sample.start_initialised (by decide +kernel)
  ⟨hinit, mirrored_iff_no_cancelled_draw hinit soldOutRun⟩

/-- The creator cancels the sold-out raffle while it is drawing. -/
theorem cancelled_draw_not_mirrored :
    Initialised (Sample.host .ifElse) (Sample.start .ifElse Sample.config) ∧
    ¬Mirrored ((machine (Sample.host .ifElse)).run (Sample.start .ifElse Sample.config)
      (soldOutRun ++ [Sample.signed [Sample.creator] 3 3 (.cancelRaffle .creatorCancelled)])) := by
  refine ⟨Sample.start_initialised (by decide +kernel), ?_⟩
  rintro ⟨r, hr, hiff, -⟩
  have hstatus : ((machine (Sample.host .ifElse)).run (Sample.start .ifElse Sample.config)
      (soldOutRun ++ [Sample.signed [Sample.creator] 3 3
        (.cancelRaffle .creatorCancelled)])).raffle.map Raffle.status = some .cancelled := by
    decide +kernel
  have hlock : ((machine (Sample.host .ifElse)).run (Sample.start .ifElse Sample.config)
      (soldOutRun ++ [Sample.signed [Sample.creator] 3 3
        (.cancelRaffle .creatorCancelled)])).drawingLock.getD false = true := by
    decide +kernel
  rw [hr, Option.map_some, hiff.mp hlock] at hstatus
  cases hstatus

end TikkaRaffle.Properties
