import TikkaRaffle.Escrow.Lifecycle
import TikkaRaffle.Escrow.Records

/-! Cancellation by the admin over whole runs: it is scheduled first and runs
after a delay, and no other call cancels a raffle behind its creator's back. -/
namespace TikkaRaffle.Properties

open TikkaRaffle.Lib TikkaRaffle.Instance TikkaRaffle.Escrow Constants

variable {h : Host} {w w' : World} {r : Raffle} {b b' : Books} {a : Act}

/-- The last admin cancel scheduled in the run was signed by the admin and lies
a full delay before `time`. -/
def ScheduledBefore (h : Host) (w : World) (calls : List Invocation) (time : Nat) : Prop :=
  ∃ first schedule rest w₁, calls = first ++ schedule :: rest ∧
    schedule.call = .cancelRaffle .adminCancelled ∧
    (machine h).step schedule ((machine h).run w first) = .ok w₁ ∧
    (∃ admin, w.admin = some admin ∧ admin ∈ schedule.ctx.auths) ∧
    schedule.ctx.timestamp + timelockDelaySeconds ≤ time ∧
    ∀ d ∈ (machine h).committed w₁ rest, d.call ≠ .cancelRaffle .adminCancelled

/-- Ledger times do not run backwards. -/
def Timed (calls : List Invocation) : Prop :=
  calls.Pairwise fun i j => i.ctx.timestamp ≤ j.ctx.timestamp

def Cancels (w w' : World) : Prop :=
  StatusIn (· ≠ .cancelled) w ∧ StatusIn (· = .cancelled) w'

/-- The calls that may cancel without the creator. -/
def cancelsAlone : Call → Bool
  | .executeAdminCancel | .emergencyWithdraw _ | .triggerRandomnessFallback _ _ => true
  | _ => false

def Administered (h : Host) (admin : Option Address) (w : World) : Prop :=
  Holds h Lifecycle w ∧ w.admin = admin

theorem administered_step {admin : Option Address} {i : Invocation}
    (hw : Administered h admin w) (hok : invoke h i w = .ok w') : Administered h admin w' := by
  obtain ⟨r, hr, -⟩ := hw.1
  have hadmin : w'.admin = w.admin := stores_admin (invoke_stores hr hok)
  exact ⟨lifecycle_step hw.1 hok, hadmin.trans hw.2⟩

theorem initialised_administered (hinit : Initialised h w) : Administered h w.admin w :=
  ⟨initialised_lifecycle hinit, rfl⟩

theorem scheduledBefore_of_pending (hinit : Initialised h w) {calls : List Invocation}
    {cancelAt time : Nat} (hpending : ((machine h).run w calls).pendingAdminCancel = some cancelAt)
    (hdue : cancelAt ≤ time) : ScheduledBefore h w calls time := by
  have hsince := Machine.holds_since (m := machine h) (p := fun i =>
      i.call = .cancelRaffle .adminCancelled) (Administered h w.admin)
    (fun w => w.pendingAdminCancel = some cancelAt)
    (fun w i w' hw hok => administered_step hw hok)
    (fun w i w' hw hother hok hstored => by
      obtain ⟨r, hr, -⟩ := hw.1
      have hstored' : (records w').cancelAt = some cancelAt := hstored
      rcases stores_cancelAt (invoke_stores hr hok) hother with hnone | hkept
      · rw [hnone] at hstored'
        cases hstored'
      · exact hkept.symm.trans hstored')
    (initialised_administered hinit) hpending
  rcases hsince with ⟨hstart, -⟩ | ⟨first, schedule, rest, w₁, hcalls, hcall, hok, hinv, hstored,
    hlast⟩
  · obtain ⟨admin, hkeys⟩ := initialised_records hinit
    have hnone : (records w).cancelAt = none := by rw [hkeys]
    rw [show w.pendingAdminCancel = (records w).cancelAt from rfl, hnone] at hstart
    cases hstart
  · obtain ⟨r, hr, -⟩ := hinv.1
    have hstores := invoke_stores hr hok
    rw [hcall] at hstores
    obtain ⟨⟨admin, hadmin, hauth⟩, -, hkeys⟩ := hstores
    have hat : (records w₁).cancelAt = some cancelAt := hstored
    rw [hkeys] at hat
    cases hat
    exact ⟨first, schedule, rest, w₁, hcalls, hcall, hok, ⟨admin, hinv.2 ▸ hadmin, hauth⟩, hdue,
      hlast⟩

/-- At non-decreasing ledger times no schedule is later than the last one. -/
theorem ScheduledBefore.all {calls : List Invocation} {time : Nat}
    (hs : ScheduledBefore h w calls time) (htimed : Timed calls) :
    ∀ d ∈ (machine h).committed w calls, d.call = .cancelRaffle .adminCancelled →
      d.ctx.timestamp + timelockDelaySeconds ≤ time := by
  obtain ⟨first, schedule, rest, w₁, rfl, hcall, hok, -, hdue, hlast⟩ := hs
  intro d hd hdcall
  rw [Machine.committed_append, Machine.committed_ok hok] at hd
  rcases List.mem_append.mp hd with hbefore | hafter
  · have hmem := (Machine.committed_sublist w first).subset hbefore
    have hle := (List.pairwise_append.mp htimed).2.2 d hmem schedule (List.mem_cons_self ..)
    omega
  · rcases List.mem_cons.mp hafter with rfl | hlater
    · exact hdue
    · exact absurd hdcall (hlast d hlater)

theorem Move.not_cancelled (hm : Move h a b b')
    (ha : a ≠ .cancel ∧ a ≠ .abandon ∧ a ≠ .emergency)
    (hb : b.raffle.status ≠ .cancelled) : b'.raffle.status ≠ .cancelled := by
  cases hm with
  | deposit | sellOut | startDraw | fail => simp [Books.enter, Books.arm]
  | finish => simp [Books.enter, Books.crown, Books.disarm]
  | cancel => exact absurd rfl ha.1
  | abandon => exact absurd rfl ha.2.1
  | emergency => exact absurd rfl ha.2.2
  | claim | sweep =>
    rw [Books.markTier_raffle, Raffle.setStatus_status]
    split
    · decide
    · exact hb
  | _ => exact hb

theorem Move.cancellable (hm : Move h .cancel b b') :
    b.raffle.status = .active ∨ b.raffle.status = .drawing := by
  cases hm with
  | cancel _ hstatus => exact hstatus

theorem yields_not_cancelling {call : Call} {acts : List Act} (hyields : call.Yields w r acts)
    (halone : cancelsAlone call = false) (hcall : ∀ reason, call ≠ .cancelRaffle reason) :
    ∀ a ∈ acts, a ≠ .cancel ∧ a ≠ .abandon ∧ a ≠ .emergency := by
  intro a ha
  cases call <;> grind [Call.Yields, cancelsAlone]

theorem cancels_authorised {i : Invocation} (hw : Holds h Lifecycle w)
    (hcancels : Cancels w w') (hok : invoke h i w = .ok w') :
    cancelsAlone i.call = true ∨ ∃ r, w.raffle = some r ∧ r.creator ∈ i.ctx.auths := by
  obtain ⟨r, r', acts, hr, hr', -, hyields, hpath⟩ := committed_path hw hok
  have hbefore : r.status ≠ .cancelled := hcancels.1.stored hr
  have hafter : r'.status = .cancelled := hcancels.2.stored hr'
  rcases Bool.eq_false_or_eq_true (cancelsAlone i.call) with halone | hother
  · exact .inl halone
  · by_cases hcall : ∃ reason, i.call = .cancelRaffle reason
    · obtain ⟨reason, hreason⟩ := hcall
      have hstores := invoke_stores hr hok
      rw [hreason] at hstores
      have hcancel : Cancelling i.ctx w r w' reason := hstores
      unfold Cancelling at hcancel
      split at hcancel
      next =>
        obtain ⟨-, hsame, -⟩ := hcancel
        rw [hr'] at hsame
        cases hsame
        exact absurd hafter hbefore
      next => exact .inr ⟨r, hr, hcancel.1⟩
    · have hacts := yields_not_cancelling hyields hother (not_exists.mp hcall)
      have hstays := hpath.preserves (fun b => b.raffle.status ≠ .cancelled)
        (fun a => a ≠ .cancel ∧ a ≠ .abandon ∧ a ≠ .emergency)
        (fun a b b' ha hb hm => Move.not_cancelled hm ha hb) hacts hbefore
      exact absurd hafter hstays

/-- An executed admin cancel follows a schedule of the admin by at least the
delay and ends a sale or a draw. Apart from it, from emergency withdrawals and
from the timeout fallback, a raffle is only cancelled by its creator. -/
theorem adminCancel_timelocked (hinit : Initialised h w) (calls : List Invocation) :
    (∀ i w', i.call = .executeAdminCancel →
      (machine h).step i ((machine h).run w calls) = .ok w' →
      ScheduledBefore h w calls i.ctx.timestamp ∧
      (Timed calls → ∀ d ∈ (machine h).committed w calls,
        d.call = .cancelRaffle .adminCancelled →
        d.ctx.timestamp + timelockDelaySeconds ≤ i.ctx.timestamp) ∧
      StatusIn (fun s => s = .active ∨ s = .drawing) ((machine h).run w calls)) ∧
    (machine h).Each (fun w i w' => Cancels w w' → cancelsAlone i.call = true ∨
      ∃ r, w.raffle = some r ∧ r.creator ∈ i.ctx.auths) w calls := by
  have hstart : Holds h Lifecycle w := initialised_lifecycle hinit
  constructor
  · intro i w' hcall hok
    have hlife : Holds h Lifecycle ((machine h).run w calls) := (lifecycle_always hinit calls).last
    obtain ⟨r, r', acts, hr, hr', -, hyields, hpath⟩ := committed_path hlife hok
    have hstores := invoke_stores hr hok
    rw [hcall] at hstores hyields
    obtain ⟨⟨cancelAt, hpending, hdue⟩, -⟩ := hstores
    have hscheduled := scheduledBefore_of_pending hinit hpending hdue
    refine ⟨hscheduled, hscheduled.all, r, hr, ?_⟩
    cases hyields
    exact Move.cancellable hpath.of_single
  · exact Machine.each_of_step (Holds h Lifecycle) (fun w i w' hw hok => lifecycle_step hw hok)
      (fun w i w' hw hok hcancels => cancels_authorised hw hcancels hok) hstart calls

def scheduledRun : List Invocation :=
  [Sample.signed [Sample.creator] 1 1 .depositPrize,
    Sample.signed [Sample.admin] 10 2 (.cancelRaffle .adminCancelled)]

theorem adminCancel_timelocked_scheduledRun :
    Initialised (Sample.host .ifElse) (Sample.start .ifElse Sample.config) ∧
    ((machine (Sample.host .ifElse)).step (Sample.signed [] 172810 3 .executeAdminCancel)
      (Sample.after .ifElse Sample.config scheduledRun)).isOk = true ∧
    ScheduledBefore (Sample.host .ifElse) (Sample.start .ifElse Sample.config) scheduledRun
      172810 := by
  have hinit : Initialised (Sample.host .ifElse) (Sample.start .ifElse Sample.config) :=
    Sample.start_initialised (by decide +kernel)
  have hexecuted : ((machine (Sample.host .ifElse)).step
      (Sample.signed [] 172810 3 .executeAdminCancel)
      (Sample.after .ifElse Sample.config scheduledRun)).isOk = true := by
    decide +kernel
  obtain ⟨w', hok⟩ := except_isOk hexecuted
  exact ⟨hinit, hexecuted, ((adminCancel_timelocked hinit scheduledRun).1 _ w' rfl hok).1⟩

end TikkaRaffle.Properties
