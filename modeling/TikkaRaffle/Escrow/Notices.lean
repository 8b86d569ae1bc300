import TikkaRaffle.Escrow.Prices
import TikkaRaffle.Escrow.Records

/-! What the factory is told. A purchase reports its charge and its holder, a
finished draw reports the volume of the raffle, and no other call speaks. -/
namespace TikkaRaffle.Instance

open TikkaRaffle.Lib TikkaRaffle.Escrow

def saleNotice (r : Raffle) (holder : Address) (total : Int) : List FactoryCall :=
  [.recordVolume r.paymentToken total, .trackParticipant holder]

def drawNotice (h : Host) (r : Raffle) : List FactoryCall :=
  [.recordLeaderboardEntry h.self r.ticketsSold r.prizeAmount (leaderboardVolume r)]

def told (w : World) (notices : List FactoryCall) : Option Address × List FactoryCall :=
  (w.factory, w.factoryCalls ++ notices)

def SaleNotifies (w : World) (r : Raffle) (w' : World) (order : Order) : Prop :=
  channel w' = told w (saleNotice r order.holder (order.charge r))

def DrawNotifies (h : Host) (w : World) (r : Raffle) (w' : World) : Prop :=
  (channel w' = channel w ∧ ∃ r', w'.raffle = some r' ∧ (Settled r' → r' = r)) ∨
    channel w' = told w (drawNotice h r) ∧ ¬Settled r ∧
      ∃ r', w'.raffle = some r' ∧ Settled r'

def Call.Notifies (h : Host) (w : World) (r : Raffle) (w' : World) : Call → Prop
  | .buyTickets buyer quantity => SaleNotifies w r w' ⟨buyer, buyer, quantity, true⟩
  | .buyTicketsFor buyer recipient quantity =>
      SaleNotifies w r w' ⟨buyer, recipient, quantity, false⟩
  | .finalizeRaffle | .provideRandomness .. | .provideQuorumRandomness ..
  | .triggerRandomnessFallback .. => DrawNotifies h w r w'
  | _ => channel w' = channel w

end TikkaRaffle.Instance

namespace TikkaRaffle.Escrow

open TikkaRaffle.Lib TikkaRaffle.Instance

variable {h : Host} {c : Ctx} {w w' : World} {r r' : Raffle} {factory : Address}

theorem notifyFactory_channel {holder : Address} {total : Int} (hf : w.factory = some factory)
    (hok : notifyFactory c w r holder total = .ok w') :
    channel w' = told w (saleNotice r holder total) := by
  simp only [notifyFactory, hf, except_bind_ok, invokeFactory_ok, exists_const,
    except_pure_ok] at hok
  obtain ⟨-, -, rfl⟩ := hok
  rw [told, hf]
  rfl

theorem madeOut_channel (paid : World) (buyer holder : Address) (quantity : Nat) :
    channel (madeOut c w paid r buyer holder quantity) = channel paid := by
  obtain ⟨buyers, ticket, count, hwritten⟩ := madeOut_writes (c := c) (r := r) w paid buyer holder
    quantity
  rw [hwritten]
  rfl

/-- The draw a sell-out starts is not reported. -/
theorem startSoldOutDraw_channel {holder : Address}
    (hok : startSoldOutDraw h c w r holder = .ok (w', r')) :
    channel w' = channel w ∧ r'.paymentToken = r.paymentToken := by
  rcases startSoldOutDraw_cases hok with ⟨-, rfl, rfl⟩ | ⟨-, w₁, hdrawing, hdrawn⟩
  · exact ⟨rfl, rfl⟩
  obtain ⟨-, -, rfl, rfl⟩ := transitionToDrawing_ok.mp hdrawing
  rcases hdrawn with ⟨-, rfl⟩ | ⟨-, w₂, requestId, triggered, requested, hrequest, -, -, rfl⟩
  · exact ⟨rfl, rfl⟩
  · obtain ⟨-, rfl⟩ := requestRandomness_writes hrequest
    exact ⟨rfl, rfl⟩

theorem completePurchase_channel {buyer holder : Address} {quantity n : Nat} {total fee : Int}
    (hf : w.factory = some factory)
    (hok : completePurchase h c w r buyer holder quantity total fee = .ok (w', n)) :
    channel w' = told w (saleNotice r holder total) := by
  obtain ⟨paid, w₁, r₁, w₂, -, -, hfee, hdraw, hnotify, rfl⟩ := completePurchase_cases hok
  obtain ⟨hdrawn, htoken⟩ := startSoldOutDraw_channel hdraw
  have hpaid := channel_of_apart (collectFee_apart hfee)
  have hmade := madeOut_channel (c := c) (w := w) (r := r) paid buyer holder quantity
  have hsame : channel w₁ = channel w := (hdrawn.trans hmade).trans hpaid
  have hasked : w₁.factory = some factory := (congrArg Prod.fst hsame).trans hf
  have htold := notifyFactory_channel (by exact hasked) hnotify
  rw [channel_of_apart (bumpRaffleTtl_apart _), htold, saleNotice, htoken]
  exact congrArg (fun seen => (seen.1, seen.2 ++ saleNotice r holder total)) hsame

theorem buyTickets_notifies {buyer : Address} {quantity n : Nat} (hr : w.raffle = some r)
    (hf : w.factory = some factory) (hok : buyTickets h c w buyer quantity = .ok (w', n)) :
    SaleNotifies w r w' ⟨buyer, buyer, quantity, true⟩ := by
  simp only [buyTickets, except_bind_ok, readRaffle_ok, hr, Option.some.injEq,
    exists_eq_left'] at hok
  obtain ⟨_, -, _, -, _, -, quote, hquote, hok⟩ := hok
  have hcharge : quote.netToPay = Order.charge ⟨buyer, buyer, quantity, true⟩ r :=
    (calculateBuyQuote_ok hquote).1
  rw [SaleNotifies, ← hcharge]
  exact completePurchase_channel hf hok

theorem buyTicketsFor_notifies {buyer recipient : Address} {quantity n : Nat}
    (hr : w.raffle = some r) (hf : w.factory = some factory)
    (hok : buyTicketsFor h c w buyer recipient quantity = .ok (w', n)) :
    SaleNotifies w r w' ⟨buyer, recipient, quantity, false⟩ := by
  simp only [buyTicketsFor, except_bind_ok, readRaffle_ok, hr, Option.some.injEq,
    exists_eq_left', ensure_ok, exists_const, checkedI128_ok] at hok
  obtain ⟨_, -, -, -, -, _, -, _, -, _, -, -, -, -, -, _, -, total, ⟨-, rfl⟩, scaled, -, hok⟩ := hok
  exact completePurchase_channel hf hok

theorem clearQuorumStorage_channel : channel (clearQuorumStorage w) = channel w := by
  rw [clearQuorumStorage_eq]
  rfl

theorem recordLeaderboard_channel (hf : w.factory = some factory)
    (hok : recordLeaderboard h c w r = .ok w') :
    channel w' = told w (drawNotice h r) := by
  simp only [recordLeaderboard, hf, except_bind_ok, invokeFactory_ok, exists_const,
    except_pure_ok] at hok
  obtain ⟨-, rfl⟩ := hok
  rw [told, hf]
  rfl

theorem channel_concluded {metadata : FairnessMetadata} {winners : List Address}
    {drawn : List Event} {kind : RandomnessType} :
    channel (concluded h c w r metadata winners drawn kind) = channel w := by
  have hunlocked : ∀ (w₁ : World) (e : Event), channel (emit (clearLock w₁) e) = channel w₁ :=
    fun _ _ => rfl
  rw [concluded, hunlocked, clearQuorumStorage_channel]
  rfl

theorem leaderboardVolume_congr (hterms : SameTerms r r') (hsold : r'.ticketsSold = r.ticketsSold) :
    leaderboardVolume r' = leaderboardVolume r := by
  simp only [leaderboardVolume, hsold, hterms.maxTickets, hterms.ticketPrice,
    hterms.earlyBirdTicketPercentage, hterms.earlyBirdDiscountBp]

theorem drawNotice_congr (hterms : SameTerms r r') (hsold : r'.ticketsSold = r.ticketsSold) :
    drawNotice h r' = drawNotice h r := by
  rw [drawNotice, leaderboardVolume_congr hterms hsold, hsold, hterms.prizeAmount, drawNotice]

theorem drawNotice_setStatus (status : RaffleStatus) :
    drawNotice h (r.setStatus status) = drawNotice h r :=
  drawNotice_congr ⟨rfl, rfl, rfl, rfl, rfl, rfl, rfl, rfl, rfl, rfl⟩ rfl

/-- Naming the winners and the time changes nothing the report reads. -/
theorem drawNotice_crowned (winners : List Address) :
    drawNotice h (crowned c r winners) = drawNotice h r :=
  drawNotice_congr ⟨rfl, rfl, rfl, rfl, rfl, rfl, rfl, rfl, rfl, rfl⟩ rfl

theorem doFinalizeWithSeed_channel {seed : Nat} {kind : RandomnessType}
    {contributions : Option (List (Address × Nat))} (hf : w.factory = some factory)
    (hok : doFinalizeWithSeed h c w r seed kind contributions = .ok w') :
    channel w' = told w (drawNotice h r) ∧ r.status = .drawing := by
  obtain ⟨hdrawing, -, candidates, indices, winners, drawn, w₁, -, -, hboard, rfl⟩ :=
    doFinalizeWithSeed_cases hok
  refine ⟨?_, hdrawing⟩
  rw [channel_of_apart (bumpRaffleTtl_apart _)]
  generalize hconcluded : concluded h c w r _ winners drawn kind = released at hboard
  have hsame : channel released = channel w := by
    rw [← hconcluded]
    exact channel_concluded
  have hasked : released.factory = some factory := (congrArg Prod.fst hsame).trans hf
  rw [recordLeaderboard_channel hasked hboard, drawNotice_crowned]
  exact congrArg (fun seen => (seen.1, seen.2 ++ drawNotice h r)) hsame

/-- The draw may have written the world before it ended. -/
theorem finished_notifies {w₁ : World} {r₁ : Raffle} {seed : Nat} {kind : RandomnessType}
    {contributions : Option (List (Address × Nat))} (hf : w.factory = some factory)
    (hopen : ¬Settled r) (hok : doFinalizeWithSeed h c w₁ r₁ seed kind contributions = .ok w')
    (hsame : channel w₁ = channel w) (hnotice : drawNotice h r₁ = drawNotice h r) :
    DrawNotifies h w r w' := by
  have hasked : w₁.factory = some factory := (congrArg Prod.fst hsame).trans hf
  obtain ⟨htold, -⟩ := doFinalizeWithSeed_channel hasked hok
  rw [hnotice] at htold
  obtain ⟨-, -, r', -, -, -, -, hr', hfinalized, -⟩ := doFinalizeWithSeed_concludes hok
  refine .inr ⟨htold.trans ?_, hopen, r', hr', .inl hfinalized⟩
  exact congrArg (fun seen => (seen.1, seen.2 ++ drawNotice h r)) hsame

theorem not_settled_of_open (hopen : r.status = .active ∨ r.status = .drawing) : ¬Settled r := by
  rcases hopen with hs | hs <;> simp [Settled, hs]

theorem requestForDraw_channel {status : RaffleStatus} {oracles : List Address}
    (hok : requestForDraw h c w r status oracles = .ok w') : channel w' = channel w := by
  obtain ⟨w₁, requestId, hrequest, rfl⟩ := requestForDraw_writes hok
  obtain ⟨-, rfl⟩ := requestRandomness_writes hrequest
  rw [channel_of_apart (announceRequest_apart ..)]
  rfl

theorem finalizeRaffle_notifies (hr : w.raffle = some r) (hf : w.factory = some factory)
    (hok : finalizeRaffle h c w = .ok w') : DrawNotifies h w r w' := by
  obtain ⟨hstatus, ⟨-, hfail⟩ | ⟨-, w₁, hdrawing, hproceeds⟩⟩ := finalizeRaffle_cases hr hok
  · obtain ⟨-, rfl⟩ := failRaffle_ok.mp hfail
    exact .inl ⟨rfl, _, rfl, by simp [Settled]⟩
  obtain ⟨-, -, rfl, -⟩ := transitionToDrawing_ok.mp hdrawing
  cases hproceeds with
  | request oracles hsource hrequest =>
    have hkept := (requestForDraw_records hrequest).1
    have hsaid := requestForDraw_channel hrequest
    exact .inl ⟨hsaid, _, hkept, by simp [Settled]⟩
  | poll config hsource hrequest =>
    have hkept := (requestForDraw_records hrequest).1
    have hsaid := requestForDraw_channel hrequest
    exact .inl ⟨hsaid, _, hkept, by simp [Settled]⟩
  | draw hsource hdraw =>
    exact finished_notifies hf (not_settled_of_open hstatus) hdraw rfl (drawNotice_setStatus _)

theorem provideRandomness_notifies {randomSeed requestId : Nat} {publicKey : Digest}
    {proof : Signature} (hr : w.raffle = some r) (hf : w.factory = some factory)
    (hok : provideRandomness h c w randomSeed publicKey proof requestId = .ok w') :
    DrawNotifies h w r w' := by
  obtain ⟨hdrawing, published, -, hdraw⟩ := provideRandomness_draws hr hok
  exact finished_notifies hf (not_settled_of_open (.inr hdrawing)) hdraw rfl rfl

theorem provideQuorumRandomness_notifies {oracle : Address} {randomSeed requestId : Nat}
    (hr : w.raffle = some r) (hf : w.factory = some factory)
    (hok : provideQuorumRandomness h c w oracle randomSeed requestId = .ok w') :
    DrawNotifies h w r w' := by
  obtain ⟨config, published, w₁, -, -, rfl, -, -, -, -, ⟨-, rfl⟩ | ⟨-, seeds, -, hdraw⟩⟩ :=
    provideQuorumRandomness_cases hr hok
  · exact .inl ⟨rfl, r, hr, fun _ => rfl⟩
  · -- only the status change inside the draw checks that the draw is open
    have hdrawing := (doFinalizeWithSeed_channel (by exact hf) hdraw).2
    exact finished_notifies hf (not_settled_of_open (.inr hdrawing)) hdraw rfl rfl

theorem triggerRandomnessFallback_notifies {caller : Address} {doRefund : Bool}
    (hr : w.raffle = some r) (hf : w.factory = some factory)
    (hok : triggerRandomnessFallback h c w caller doRefund = .ok w') : DrawNotifies h w r w' := by
  obtain ⟨-, hdrawing, published, -, rfl | ⟨seed, hdraw⟩⟩ := triggerRandomnessFallback_cases hr hok
  · exact .inl ⟨rfl, _, rfl, by simp [Settled]⟩
  · exact finished_notifies hf (not_settled_of_open (.inr hdrawing)) hdraw rfl rfl

theorem cancelRaffle_channel {reason : CancelReason} (hok : cancelRaffle h c w reason = .ok w') :
    channel w' = channel w := by
  simp only [cancelRaffle, except_bind_ok] at hok
  obtain ⟨_, -, hok⟩ := hok
  split at hok
  next =>
    simp only [scheduleCancel, except_bind_ok, ensure_ok, except_pure_ok, exists_const] at hok
    obtain ⟨admin, -, _, -, -, rfl⟩ := hok
    rfl
  next =>
    simp only [except_bind_ok] at hok
    obtain ⟨_, -, hok⟩ := hok
    exact channel_of_apart (cancelNow_apart hok)

theorem executeAdminCancel_channel (hok : executeAdminCancel c w = .ok w') :
    channel w' = channel w := by
  simp only [executeAdminCancel, except_bind_ok, ensure_ok, exists_const] at hok
  obtain ⟨_, -, cancelAt, -, -, hok⟩ := hok
  have hkept := channel_of_apart (cancelNow_apart hok)
  exact hkept

theorem wipeStorage_channel (hok : wipeStorage h c w = .ok w') : channel w' = channel w := by
  simp only [wipeStorage, except_bind_ok, ensure_ok, except_pure_ok, exists_const] at hok
  obtain ⟨factory, -, _, -, _, -, -, -, -, rfl⟩ := hok
  rfl

theorem invoke_notifies {i : Invocation} (hr : w.raffle = some r) (hf : w.factory = some factory)
    (hok : invoke h i w = .ok w') : i.call.Notifies h w r w' := by
  obtain ⟨c, call⟩ := i
  cases call with
  | buyTickets buyer quantity =>
    obtain ⟨⟨_, n⟩, hcall, rfl⟩ := except_map_ok.mp hok
    exact buyTickets_notifies hr hf hcall
  | buyTicketsFor buyer recipient quantity =>
    obtain ⟨⟨_, n⟩, hcall, rfl⟩ := except_map_ok.mp hok
    exact buyTicketsFor_notifies hr hf hcall
  | submitCommit ticketId hash => exact congrArg Prod.snd (submitCommit_keys hok)
  | finalizeRaffle => exact finalizeRaffle_notifies hr hf hok
  | provideRandomness randomSeed publicKey proof requestId =>
    exact provideRandomness_notifies hr hf hok
  | provideQuorumRandomness oracle randomSeed requestId =>
    exact provideQuorumRandomness_notifies hr hf hok
  | triggerRandomnessFallback caller doRefund =>
    exact triggerRandomnessFallback_notifies hr hf hok
  | cancelRaffle reason => exact cancelRaffle_channel hok
  | executeAdminCancel => exact executeAdminCancel_channel hok
  | wipeStorage => exact wipeStorage_channel hok
  | _ => exact congrArg (fun keys => keys.1.1.2) (invoke_apart rfl hok)

theorem notifies_factory {call : Call} (hn : call.Notifies h w r w') :
    w'.factory = w.factory := by
  have hdraw : DrawNotifies h w r w' → w'.factory = w.factory := by
    rintro (⟨hsame, -⟩ | ⟨htold, -⟩)
    · exact congrArg Prod.fst hsame
    · exact congrArg Prod.fst htold
  cases call with
  | finalizeRaffle | provideRandomness | provideQuorumRandomness | triggerRandomnessFallback =>
    exact hdraw hn
  | _ => exact congrArg Prod.fst hn

theorem initialised_channel (hinit : Initialised h w) :
    ∃ factory, channel w = (some factory, []) := by
  obtain ⟨c, holdings, factory, admin, creator, config, hok⟩ := hinit
  simp only [init, except_bind_ok, except_pure_ok, ensure_ok, exists_const] at hok
  obtain ⟨-, _, -, _, -, _, -, -, -, _, -, rfl⟩ := hok
  exact ⟨factory, rfl⟩

end TikkaRaffle.Escrow
