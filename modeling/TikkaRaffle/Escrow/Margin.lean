import TikkaRaffle.Escrow.Records
import TikkaRaffle.Escrow.Registry

/-! The commit entries and the reentrancy guard. A holder writes an entry for a
ticket while the raffle is active, nothing replaces it, and only the wipe
removes it. No call leaves the guard behind. -/
namespace TikkaRaffle.Escrow

open TikkaRaffle.Lib TikkaRaffle.Instance

variable {h : Host} {c : Ctx} {w w' : World} {r r' : Raffle}

theorem clearQuorumStorage_recess : recess (clearQuorumStorage w) = recess w := by
  rw [clearQuorumStorage_eq]
  rfl

theorem notifyFactory_recess {holder : Address} {totalPrice : Int}
    (hok : notifyFactory c w r holder totalPrice = .ok w') : recess w' = recess w := by
  obtain ⟨calls, rfl⟩ := notifyFactory_writes hok
  rfl

theorem recordLeaderboard_recess (hok : recordLeaderboard h c w r = .ok w') :
    recess w' = recess w := by
  obtain ⟨calls, rfl⟩ := recordLeaderboard_writes hok
  rfl

theorem transitionToDrawing_recess {time : Nat}
    (hok : transitionToDrawing w r time = .ok (w', r')) : recess w' = recess w := by
  obtain ⟨-, -, rfl, -⟩ := transitionToDrawing_ok.mp hok
  rfl

theorem requestRandomness_recess {requestId : Nat}
    (hok : requestRandomness h c w = .ok (w', requestId)) : recess w' = recess w := by
  obtain ⟨-, rfl⟩ := requestRandomness_writes hok
  rfl

theorem startSoldOutDraw_recess {holder : Address}
    (hok : startSoldOutDraw h c w r holder = .ok (w', r')) : recess w' = recess w := by
  rcases startSoldOutDraw_cases hok with ⟨-, rfl, -⟩ | ⟨-, w₁, hdrawing, hdrawn⟩
  · rfl
  rw [← transitionToDrawing_recess hdrawing]
  rcases hdrawn with ⟨-, rfl⟩ | ⟨-, w₂, requestId, triggered, requested, hrequest, -, -, rfl⟩
  · rfl
  · have hasked := requestRandomness_recess hrequest
    exact hasked

theorem completePurchase_recess {buyer holder : Address} {quantity n : Nat} {total fee : Int}
    (hok : completePurchase h c w r buyer holder quantity total fee = .ok (w', n)) :
    recess w' = recess w := by
  obtain ⟨paid, w₁, r₁, w₂, -, -, hfee, hdraw, hnotify, rfl⟩ := completePurchase_cases hok
  have hpaid := recess_of_apart (collectFee_apart hfee)
  have hmade : recess (madeOut c w paid r buyer holder quantity) = recess paid := by
    obtain ⟨buyers, ticket, count, hwritten⟩ := madeOut_writes (c := c) (r := r) w paid buyer
      holder quantity
    rw [hwritten]
    rfl
  rw [recess_of_apart (bumpRaffleTtl_apart _), notifyFactory_recess hnotify]
  have hdrawn := startSoldOutDraw_recess hdraw
  exact hdrawn.trans (hmade.trans hpaid)

theorem doFinalizeWithSeed_recess {seed : Nat} {kind : RandomnessType}
    {contributions : Option (List (Address × Nat))}
    (hok : doFinalizeWithSeed h c w r seed kind contributions = .ok w') :
    recess w' = recess w := by
  obtain ⟨-, -, candidates, indices, winners, drawn, w₁, -, -, hboard, rfl⟩ :=
    doFinalizeWithSeed_cases hok
  rw [recess_of_apart (bumpRaffleTtl_apart _), recordLeaderboard_recess hboard]
  exact clearQuorumStorage_recess

theorem requestForDraw_recess {status : RaffleStatus} {oracles : List Address}
    (hok : requestForDraw h c w r status oracles = .ok w') : recess w' = recess w := by
  obtain ⟨w₁, requestId, hrequest, rfl⟩ := requestForDraw_writes hok
  rw [recess_of_apart (announceRequest_apart ..), requestRandomness_recess hrequest]

theorem finalizeRaffle_recess (hr : w.raffle = some r) (hok : finalizeRaffle h c w = .ok w') :
    recess w' = recess w := by
  obtain ⟨-, ⟨-, hfail⟩ | ⟨-, w₁, hdrawing, hproceeds⟩⟩ := finalizeRaffle_cases hr hok
  · obtain ⟨-, rfl⟩ := failRaffle_ok.mp hfail
    rfl
  rw [← transitionToDrawing_recess hdrawing]
  cases hproceeds with
  | request oracles hsource hrequest => exact requestForDraw_recess hrequest
  | poll config hsource hrequest =>
    have hasked := requestForDraw_recess hrequest
    exact hasked
  | draw hsource hdraw =>
    have hdrawn := doFinalizeWithSeed_recess hdraw
    exact hdrawn

theorem provideRandomness_recess {randomSeed requestId : Nat} {publicKey : Digest}
    {proof : Signature} (hr : w.raffle = some r)
    (hok : provideRandomness h c w randomSeed publicKey proof requestId = .ok w') :
    recess w' = recess w := by
  obtain ⟨-, published, -, hdraw⟩ := provideRandomness_draws hr hok
  have hdrawn := doFinalizeWithSeed_recess hdraw
  exact hdrawn

theorem provideQuorumRandomness_recess {oracle : Address} {randomSeed requestId : Nat}
    (hr : w.raffle = some r)
    (hok : provideQuorumRandomness h c w oracle randomSeed requestId = .ok w') :
    recess w' = recess w := by
  obtain ⟨config, published, w₁, -, -, rfl, -, -, -, -, ⟨-, rfl⟩ | ⟨-, seeds, -, hdraw⟩⟩ :=
    provideQuorumRandomness_cases hr hok
  · rfl
  · have hdrawn := doFinalizeWithSeed_recess hdraw
    exact hdrawn

theorem triggerRandomnessFallback_recess {caller : Address} {doRefund : Bool}
    (hr : w.raffle = some r)
    (hok : triggerRandomnessFallback h c w caller doRefund = .ok w') :
    recess w' = recess w := by
  obtain ⟨-, -, published, -, rfl | ⟨seed, hdraw⟩⟩ := triggerRandomnessFallback_cases hr hok
  · rfl
  · have hdrawn := doFinalizeWithSeed_recess hdraw
    exact hdrawn

theorem cancelRaffle_recess {reason : CancelReason} (hok : cancelRaffle h c w reason = .ok w') :
    recess w' = recess w := by
  simp only [cancelRaffle, except_bind_ok] at hok
  obtain ⟨r, -, hok⟩ := hok
  split at hok
  next =>
    simp only [scheduleCancel, except_bind_ok, ensure_ok, except_pure_ok, exists_const] at hok
    obtain ⟨admin, -, _, -, -, rfl⟩ := hok
    rfl
  next =>
    simp only [except_bind_ok] at hok
    obtain ⟨_, -, hok⟩ := hok
    exact recess_of_apart (cancelNow_apart hok)

theorem executeAdminCancel_recess (hok : executeAdminCancel c w = .ok w') :
    recess w' = recess w := by
  simp only [executeAdminCancel, except_bind_ok, ensure_ok, exists_const] at hok
  obtain ⟨_, -, cancelAt, -, -, hok⟩ := hok
  have hkept := recess_of_apart (cancelNow_apart hok)
  exact hkept

theorem buyTickets_recess {buyer : Address} {quantity n : Nat}
    (hok : buyTickets h c w buyer quantity = .ok (w', n)) : recess w' = recess w := by
  simp only [buyTickets, except_bind_ok] at hok
  obtain ⟨_, -, _, -, _, -, _, -, quote, -, hok⟩ := hok
  exact completePurchase_recess hok

theorem buyTicketsFor_recess {buyer recipient : Address} {quantity n : Nat}
    (hok : buyTicketsFor h c w buyer recipient quantity = .ok (w', n)) :
    recess w' = recess w := by
  simp only [buyTicketsFor, except_bind_ok, ensure_ok, exists_const] at hok
  obtain ⟨_, -, -, -, r, -, -, _, -, _, -, _, -, -, -, -, -, _, -, total, -, _, -, hok⟩ := hok
  exact completePurchase_recess hok

def Call.Commits (w : World) (r : Raffle) (w' : World) : Call → Prop
  | .submitCommit ticketId hash =>
      r.status = .active ∧ w.commitEntry ticketId = none ∧ ∃ ticket,
        w.ticket ticketId = some ticket ∧ w'.commitEntry =
          fun i => if i = ticketId then some ⟨ticket.owner, hash⟩ else w.commitEntry i
  | .wipeStorage =>
      r.status.isTerminal = true ∧ w'.commitEntry =
        fun i => if 1 ≤ i ∧ i ≤ r.ticketsSold then none else w.commitEntry i
  | _ => w'.commitEntry = w.commitEntry

theorem submitCommit_commits {ticketId : Nat} {hash : Digest} (hr : w.raffle = some r)
    (hok : submitCommit h c w ticketId hash = .ok w') :
    Call.Commits w r w' (.submitCommit ticketId hash) := by
  simp only [submitCommit, except_bind_ok, readRaffle_ok, hr, Option.some.injEq, exists_eq_left',
    ensure_ok, okOr_ok, Option.isNone_iff_eq_none, except_pure_ok, exists_const] at hok
  obtain ⟨-, hactive, _, -, _, -, ticket, hticket, _, -, hnone, rfl⟩ := hok
  exact ⟨hactive, hnone, ticket, hticket, rfl⟩

theorem wipeStorage_commits (hr : w.raffle = some r) (hok : wipeStorage h c w = .ok w') :
    Call.Commits w r w' .wipeStorage := by
  have hstores := wipeStorage_stores hr hok
  simp only [wipeStorage, except_bind_ok, readRaffle_ok, hr, Option.some.injEq, exists_eq_left',
    ensure_ok, except_pure_ok, exists_const] at hok
  obtain ⟨factory, -, _, -, -, -, -, rfl⟩ := hok
  exact ⟨hstores.1, rfl⟩

theorem invoke_recess {i : Invocation}
    (hcommit : ∀ ticketId hash, i.call ≠ .submitCommit ticketId hash)
    (hwipe : i.call ≠ .wipeStorage) (hr : w.raffle = some r)
    (hok : invoke h i w = .ok w') : recess w' = (margin w, vacant w, Call.pauses w i.call) := by
  obtain ⟨c, call⟩ := i
  cases call with
  | buyTickets buyer quantity =>
    obtain ⟨⟨_, n⟩, hcall, rfl⟩ := except_map_ok.mp hok
    exact buyTickets_recess hcall
  | buyTicketsFor buyer recipient quantity =>
    obtain ⟨⟨_, n⟩, hcall, rfl⟩ := except_map_ok.mp hok
    exact buyTicketsFor_recess hcall
  | submitCommit ticketId hash => exact absurd rfl (hcommit ticketId hash)
  | finalizeRaffle => exact finalizeRaffle_recess hr hok
  | provideRandomness randomSeed publicKey proof requestId =>
    exact provideRandomness_recess hr hok
  | provideQuorumRandomness oracle randomSeed requestId =>
    exact provideQuorumRandomness_recess hr hok
  | triggerRandomnessFallback caller doRefund => exact triggerRandomnessFallback_recess hr hok
  | cancelRaffle reason => exact cancelRaffle_recess hok
  | executeAdminCancel => exact executeAdminCancel_recess hok
  | wipeStorage => exact absurd rfl hwipe
  | _ => exact congrArg (fun keys => (keys.1.2, keys.2)) (invoke_apart rfl hok)

theorem invoke_commits {i : Invocation} (hr : w.raffle = some r) (hok : invoke h i w = .ok w') :
    Call.Commits w r w' i.call := by
  cases hcall : i.call with
  | submitCommit ticketId hash =>
    simp only [invoke, hcall] at hok
    exact submitCommit_commits hr hok
  | wipeStorage =>
    simp only [invoke, hcall] at hok
    exact wipeStorage_commits hr hok
  | _ =>
    have hsame := invoke_recess (by simp [hcall]) (by simp [hcall]) hr hok
    exact congrArg (fun keys => keys.1.1) hsame

theorem invoke_guard {i : Invocation} (hr : w.raffle = some r) (hfree : w.reentrancyGuard = none)
    (hok : invoke h i w = .ok w') : w'.reentrancyGuard = none := by
  cases hcall : i.call with
  | submitCommit ticketId hash =>
    simp only [invoke, hcall, submitCommit, except_bind_ok, ensure_ok, okOr_ok, except_pure_ok,
      exists_const] at hok
    obtain ⟨_, -, -, -, _, -, _, -, ticket, -, _, -, -, rfl⟩ := hok
    exact hfree
  | wipeStorage =>
    simp only [invoke, hcall, wipeStorage, except_bind_ok, ensure_ok, except_pure_ok,
      exists_const] at hok
    obtain ⟨factory, -, _, -, _, -, -, -, -, rfl⟩ := hok
    rfl
  | _ =>
    have hsame := invoke_recess (by simp [hcall]) (by simp [hcall]) hr hok
    exact (congrArg (fun keys => keys.1.2) hsame).trans hfree

theorem guard_free (hinit : Initialised h w) (calls : List Invocation) :
    (machine h).Always (fun w => w.reentrancyGuard = none) w calls := by
  suffices hnone : w.reentrancyGuard = none by
    have hall := Machine.always_of_step (m := machine h)
      (fun w => Holds h Lifecycle w ∧ w.reentrancyGuard = none)
      (fun w i w' hw hok => by
        obtain ⟨r, hr, -⟩ := hw.1
        exact ⟨lifecycle_step hw.1 hok, invoke_guard hr hw.2 hok⟩)
      ⟨initialised_lifecycle hinit, hnone⟩ calls
    exact hall.mono fun _ hw => hw.2
  obtain ⟨c, holdings, factory, admin, creator, config, hok⟩ := hinit
  simp only [init, except_bind_ok, except_pure_ok, ensure_ok, exists_const] at hok
  obtain ⟨-, _, -, _, -, _, -, -, -, _, -, rfl⟩ := hok
  rfl

/-- No committed call writes the owners' tickets or the instance-tier list of
oracles. -/
theorem invoke_vacant {i : Invocation} (hr : w.raffle = some r)
    (hnone : vacant w = (fun _ => none, none)) (hok : invoke h i w = .ok w') :
    vacant w' = (fun _ => none, none) := by
  cases hcall : i.call with
  | submitCommit ticketId hash =>
    simp only [invoke, hcall, submitCommit, except_bind_ok, ensure_ok, okOr_ok, except_pure_ok,
      exists_const] at hok
    obtain ⟨_, -, -, -, _, -, _, -, ticket, -, _, -, -, rfl⟩ := hok
    exact hnone
  | wipeStorage =>
    simp only [invoke, hcall, wipeStorage, except_bind_ok, ensure_ok, except_pure_ok,
      exists_const] at hok
    obtain ⟨factory, -, _, -, r₁, -, -, -, -, rfl⟩ := hok
    have howner : w.ownerTickets = fun _ => none := congrArg Prod.fst hnone
    simp only [vacant, emit, removeSettlement, howner, ite_self]
  | _ =>
    have hsame := invoke_recess (by simp [hcall]) (by simp [hcall]) hr hok
    exact (congrArg (fun keys => keys.2.1) hsame).trans hnone

theorem vacant_always (hinit : Initialised h w) (calls : List Invocation) :
    (machine h).Always (fun w => vacant w = (fun _ => none, none)) w calls := by
  suffices hnone : vacant w = (fun _ => none, none) by
    have hall := Machine.always_of_step (m := machine h)
      (fun w => Holds h Lifecycle w ∧ vacant w = (fun _ => none, none))
      (fun w i w' hw hok => by
        obtain ⟨r, hr, -⟩ := hw.1
        exact ⟨lifecycle_step hw.1 hok, invoke_vacant hr hw.2 hok⟩)
      ⟨initialised_lifecycle hinit, hnone⟩ calls
    exact hall.mono fun _ hw => hw.2
  obtain ⟨c, holdings, factory, admin, creator, config, hok⟩ := hinit
  simp only [init, except_bind_ok, except_pure_ok, ensure_ok, exists_const] at hok
  obtain ⟨-, _, -, _, -, _, -, -, -, _, -, rfl⟩ := hok
  rfl

theorem initialised_commits (hinit : Initialised h w) : w.commitEntry = fun _ => none := by
  obtain ⟨c, holdings, factory, admin, creator, config, hok⟩ := hinit
  simp only [init, except_bind_ok, except_pure_ok, ensure_ok, exists_const] at hok
  obtain ⟨-, _, -, _, -, _, -, -, -, _, -, rfl⟩ := hok
  rfl

end TikkaRaffle.Escrow
