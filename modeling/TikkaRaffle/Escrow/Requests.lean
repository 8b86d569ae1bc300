import TikkaRaffle.Escrow.Records
import TikkaRaffle.Escrow.Selection
import TikkaRaffle.Escrow.Terms

/-! The request of an external draw: the call that begins the draw publishes it,
and until the draw ends it stays the one request on record. -/
namespace TikkaRaffle.Escrow

open TikkaRaffle.Lib TikkaRaffle.Instance

variable {h : Host} {c : Ctx} {w w' : World} {r r' : Raffle} {requestId : Nat}

structure Announces (c : Ctx) (w w' : World) (oracle : Address) (requestId : Nat) : Prop where
  stored : w'.randomnessRequestId = some requestId
  small : requestId < 2 ^ 64
  published : ∃ news, w'.events = w.events ++ news ∧
    .randomnessRequested oracle requestId c.timestamp ∈ news

def askedOracle (h : Host) (r : Raffle) : Address := r.oracleAddress.getD h.self

theorem requestRandomness_id (hok : requestRandomness h c w = .ok (w', requestId)) :
    w'.randomnessRequestId = some requestId ∧ requestId < 2 ^ 64 ∧ w'.events = w.events := by
  simp only [requestRandomness, except_bind_ok, ensure_ok, exists_const, except_pure_ok,
    Prod.mk.injEq] at hok
  obtain ⟨-, rfl, rfl⟩ := hok
  exact ⟨rfl, seedOfDigest_lt _, rfl⟩

theorem collectFee_events {purpose : Purpose} {token : Address} {fee : Int}
    (hok : collectFee h w r purpose token fee = .ok w') : w'.events = w.events := by
  unfold collectFee at hok
  split at hok
  next =>
    simp only [except_bind_ok, trapI128_ok, except_pure_ok] at hok
    obtain ⟨w₁, hpay, total, -, rfl⟩ := hok
    unfold payTreasury at hpay
    split at hpay
    next =>
      obtain ⟨-, rfl⟩ := transfer_ok.mp hpay
      rfl
    next =>
      cases hpay
      rfl
  next =>
    cases hok
    rfl

theorem Announces.emit {oracle : Address} (ha : Announces c w w' oracle requestId) (e : Event) :
    Announces c w (emit w' e) oracle requestId := by
  obtain ⟨news, hnews, hmem⟩ := ha.published
  refine ⟨ha.stored, ha.small, news ++ [e], ?_, List.mem_append_left _ hmem⟩
  rw [← List.append_assoc, ← hnews]
  rfl

theorem Announces.congr {w₁ w₂ : World} {oracle : Address}
    (ha : Announces c w w' oracle requestId) (hbefore : w.events = w₁.events)
    (hid : w₂.randomnessRequestId = w'.randomnessRequestId) (hevents : w₂.events = w'.events) :
    Announces c w₁ w₂ oracle requestId := by
  obtain ⟨news, hnews, hmem⟩ := ha.published
  exact ⟨hid ▸ ha.stored, ha.small, news, by rw [hevents, hnews, hbefore], hmem⟩

theorem startSoldOutDraw_announces {holder : Address} (hfull : r.maxTickets ≤ r.ticketsSold)
    (hsource : r.randomnessSource = .external)
    (hok : startSoldOutDraw h c w r holder = .ok (w', r')) :
    ∃ requestId, Announces c w w' (askedOracle h r) requestId := by
  simp only [startSoldOutDraw, if_pos hfull, except_bind_ok, Prod.exists,
    transitionToDrawing_ok] at hok
  obtain ⟨w₁, r₁, ⟨-, -, rfl, rfl⟩, hok⟩ := hok
  rw [Raffle.setStatus_randomnessSource, if_pos hsource] at hok
  simp only [except_bind_ok, Prod.exists, except_pure_ok, Prod.mk.injEq] at hok
  obtain ⟨w₂, requestId, hrequest, rfl, rfl⟩ := hok
  obtain ⟨hstored, hsmall, hevents⟩ := requestRandomness_id hrequest
  refine ⟨requestId, hstored, hsmall, [.raffleStatusChanged r.status .drawing c.timestamp,
    .drawTriggered holder (r.setStatus .drawing).ticketsSold c.timestamp,
    .randomnessRequested (askedOracle h r) requestId c.timestamp], ?_, by simp⟩
  simp only [Instance.emit, hevents, List.append_assoc]
  rfl

theorem completePurchase_announces {buyer holder : Address} {quantity n : Nat}
    {total fee : Int} (hfull : r.maxTickets ≤ r.ticketsSold + quantity)
    (hsource : r.randomnessSource = .external)
    (hok : completePurchase h c w r buyer holder quantity total fee = .ok (w', n)) :
    ∃ requestId, Announces c w w' (askedOracle h r) requestId := by
  obtain ⟨paid, w₁, r₁, w₂, -, -, hfee, hdraw, hnotify, rfl⟩ := completePurchase_cases hok
  obtain ⟨requestId, hasked⟩ := startSoldOutDraw_announces
    (r := r.setTicketsSold (r.ticketsSold + quantity)) hfull hsource hdraw
  obtain ⟨buyers, ticket, count, hmade⟩ :=
    madeOut_writes (c := c) (r := r) w paid buyer holder quantity
  obtain ⟨calls, rfl⟩ := notifyFactory_writes hnotify
  obtain ⟨index, hindex⟩ := bumpRaffleTtl_writes _ r₁.ticketsSold
  have hpaid : (madeOut c w paid r buyer holder quantity).events = w.events := by
    have hkept := collectFee_events hfee
    rw [hmade]
    exact hkept
  rw [hindex]
  exact ⟨requestId, (Announces.emit (hasked.congr hpaid rfl rfl) _).congr rfl rfl rfl⟩

theorem buyTickets_announces {buyer : Address} {quantity n : Nat} (hr : w.raffle = some r)
    (hfull : r.maxTickets ≤ r.ticketsSold + quantity) (hsource : r.randomnessSource = .external)
    (hok : buyTickets h c w buyer quantity = .ok (w', n)) :
    ∃ requestId, Announces c w w' (askedOracle h r) requestId := by
  simp only [buyTickets, except_bind_ok, readRaffle_ok, hr, Option.some.injEq,
    exists_eq_left'] at hok
  obtain ⟨_, -, _, -, _, -, quote, -, hok⟩ := hok
  exact completePurchase_announces hfull hsource hok

theorem buyTicketsFor_announces {buyer recipient : Address} {quantity n : Nat}
    (hr : w.raffle = some r) (hfull : r.maxTickets ≤ r.ticketsSold + quantity)
    (hsource : r.randomnessSource = .external)
    (hok : buyTicketsFor h c w buyer recipient quantity = .ok (w', n)) :
    ∃ requestId, Announces c w w' (askedOracle h r) requestId := by
  simp only [buyTicketsFor, except_bind_ok, readRaffle_ok, hr, Option.some.injEq,
    exists_eq_left', ensure_ok, exists_const] at hok
  obtain ⟨_, -, -, -, -, _, -, _, -, _, -, -, -, -, -, _, -, total, -, scaled, -, hok⟩ := hok
  exact completePurchase_announces hfull hsource hok

theorem finalizeRaffle_announces (hr : w.raffle = some r)
    (hsource : r.randomnessSource = .external) (hok : finalizeRaffle h c w = .ok w') :
    (∃ r', w'.raffle = some r' ∧ r'.status = .failed) ∨
      ∃ requestId, Announces c w w' (askedOracle h r) requestId := by
  simp only [finalizeRaffle, except_bind_ok, ensure_ok, readRaffle_ok, hr, Option.some.injEq,
    exists_eq_left', exists_const] at hok
  obtain ⟨-, _, -, -, -, hok⟩ := hok
  split at hok
  next =>
    obtain ⟨-, rfl⟩ := failRaffle_ok.mp hok
    exact .inl ⟨_, rfl, rfl⟩
  next =>
    simp only [except_bind_ok, Prod.exists, transitionToDrawing_ok] at hok
    obtain ⟨w₁, r₁, ⟨-, -, rfl, rfl⟩, hok⟩ := hok
    rw [Raffle.setStatus_randomnessSource] at hok
    simp only [hsource] at hok
    unfold requestForDraw at hok
    split at hok
    next w₂ requestId hrequest =>
      cases hok
      obtain ⟨hstored, hsmall, hevents⟩ := requestRandomness_id hrequest
      refine .inr ⟨requestId, hstored, hsmall, [.raffleStatusChanged r.status .drawing c.timestamp,
        .drawTriggered r.creator r.ticketsSold c.timestamp,
        .randomnessRequested (askedOracle h r) requestId c.timestamp], ?_, by simp⟩
      simp only [announceRequest, List.foldl_cons, List.foldl_nil, Instance.emit, hevents,
        List.append_assoc]
      rfl
    next => simp only [except_bind_ok, reduceCtorEq, and_false, exists_false] at hok

variable {a : Act} {b b' : Books} {i : Invocation}

theorem Move.oracle_kept (hm : Move h a b b') (ha : a ≠ .retune) :
    b'.raffle.oracleAddress = b.raffle.oracleAddress := by
  cases hm with
  | retune => exact absurd rfl ha
  | claim | sweep =>
    rw [Books.markTier_raffle]
    rfl
  | _ => rfl

theorem setTicketSalesPaused_oracle {caller : Address} {paused : Bool} {published : Event}
    (hr : w.raffle = some r) (hok : setTicketSalesPaused h c w caller paused published = .ok w') :
    ∃ r', w'.raffle = some r' ∧ r'.oracleAddress = r.oracleAddress := by
  simp only [setTicketSalesPaused, except_bind_ok, readRaffle_ok, hr, Option.some.injEq,
    exists_eq_left', except_pure_ok] at hok
  obtain ⟨_, -, _, -, _, -, _, -, rfl⟩ := hok
  exact ⟨_, rfl, rfl⟩

theorem updateOracleAddress_oracle {newOracle : Address} (hr : w.raffle = some r)
    (hok : updateOracleAddress h c w newOracle = .ok w') :
    newOracle ≠ h.self ∧ ∃ r', w'.raffle = some r' ∧ r'.status = r.status ∧
      r'.oracleAddress = some newOracle := by
  simp only [updateOracleAddress, except_bind_ok, readRaffle_ok, hr, Option.some.injEq,
    exists_eq_left', ensure_ok, except_pure_ok, exists_const] at hok
  obtain ⟨_, -, -, hne, -, rfl⟩ := hok
  exact ⟨hne, _, rfl, rfl, rfl⟩

/-- Only `update_oracle_address` replaces the oracle. -/
theorem oracle_step (hw : Holds h Lifecycle w) (hr : w.raffle = some r)
    (hcall : ∀ oracle, i.call ≠ .updateOracleAddress oracle) (hok : invoke h i w = .ok w') :
    ∃ r', w'.raffle = some r' ∧ r'.oracleAddress = r.oracleAddress := by
  obtain ⟨c, call⟩ := i
  cases call with
  | pauseTicketSales caller => exact setTicketSalesPaused_oracle hr hok
  | resumeTicketSales caller => exact setTicketSalesPaused_oracle hr hok
  | updateOracleAddress oracle => exact absurd rfl (hcall oracle)
  | setSwapDeadline deadline =>
    simp only [invoke, setSwapDeadline, except_bind_ok, readRaffle_ok, hr, Option.some.injEq,
      exists_eq_left', except_pure_ok] at hok
    obtain ⟨_, -, _, -, _, -, rfl⟩ := hok
    exact ⟨_, rfl, rfl⟩
  | _ =>
    obtain ⟨r', acts, hr', hyields, hpath⟩ := committed_path_from hw hr hok
    refine ⟨r', hr', ?_⟩
    exact hpath.preserves (fun b => b.raffle.oracleAddress = r.oracleAddress) (· ≠ .retune)
      (fun a b b' ha hb hm => (Move.oracle_kept hm ha).trans hb) (yields_no_retune hyields rfl) rfl

def OracleElsewhere (h : Host) (w : World) : Prop :=
  Holds h Lifecycle w ∧ ∀ r, w.raffle = some r → r.randomnessSource = .external →
    ∃ oracle, r.oracleAddress = some oracle ∧ oracle ≠ h.self

theorem initialised_oracleElsewhere (hinit : Initialised h w) : OracleElsewhere h w := by
  refine ⟨initialised_lifecycle hinit, fun r hr hsource => ?_⟩
  obtain ⟨c, holdings, factory, admin, creator, config, hok⟩ := hinit
  obtain ⟨cap, hcap⟩ := resolveTicketCap_terms config.resolveDefaults
  simp only [init, validateRandomness, hcap, except_bind_ok, ensure_ok, except_pure_ok,
    exists_const] at hok
  obtain ⟨-, _, -, _, -, ⟨hexternal, -⟩, -, -, _, -, rfl⟩ := hok
  cases hr
  obtain ⟨hsome, hne⟩ := hexternal hsource
  obtain ⟨oracle, horacle⟩ := Option.ne_none_iff_exists'.mp hsome
  exact ⟨oracle, horacle, fun hself => hne (by rw [horacle, hself])⟩

theorem oracleElsewhere_step (hw : OracleElsewhere h w) (hok : invoke h i w = .ok w') :
    OracleElsewhere h w' := by
  obtain ⟨hlife, helsewhere⟩ := hw
  obtain ⟨r, hr, -⟩ := id hlife
  refine ⟨lifecycle_step hlife hok, fun r' hr' hsource' => ?_⟩
  by_cases hcall : ∃ oracle, i.call = .updateOracleAddress oracle
  · obtain ⟨oracle, hcall⟩ := hcall
    simp only [invoke, hcall] at hok
    obtain ⟨hne, r₁, hr₁, -, horacle⟩ := updateOracleAddress_oracle hr hok
    rw [hr'] at hr₁
    cases hr₁
    exact ⟨oracle, horacle, hne⟩
  · obtain ⟨r₁, hr₁, hfixed⟩ := fixed_step hlife hr hok
    obtain ⟨r₂, hr₂, horacle⟩ := oracle_step hlife hr (not_exists.mp hcall) hok
    rw [hr'] at hr₁ hr₂
    cases hr₁
    cases hr₂
    have hsource := fixed_field Raffle.randomnessSource (fun _ => rfl) hfixed
    rw [horacle]
    exact helsewhere r hr (hsource.symm.trans hsource')

theorem oracleElsewhere_always (hinit : Initialised h w) (calls : List Invocation) :
    (machine h).Always (OracleElsewhere h) w calls :=
  Machine.always_of_step (OracleElsewhere h) (fun _ _ _ hw hok => oracleElsewhere_step hw hok)
    (initialised_oracleElsewhere hinit) calls

def Unasked (b : Books) : Prop :=
  b.raffle.status = .pendingPrize ∨ b.raffle.status = .active → b.requestId = none

theorem Unasked.of_begun (hbegun : begun b.raffle.status) : Unasked b := fun hidle =>
  absurd hidle (not_or.mpr hbegun)

theorem Unasked.move (hu : Unasked b) (hm : Move h a b b') : Unasked b' := by
  have hhops := Hops.move hm
  cases hm with
  | deposit _ hstatus => exact fun _ => hu (.inl hstatus)
  | buy _ order total fee time hsale => exact fun _ => hu (.inr hsale.active)
  | sellOut | startDraw | finish | fail | cancel | abandon | emergency =>
    exact .of_begun ⟨nofun, nofun⟩
  | claim _ tier winner amount fee hpay =>
    exact .of_begun (hhops.stays begun begun_closed (by rw [hpay.finalized]; exact ⟨nofun, nofun⟩))
  | sweep _ tier winner treasury amount hpay =>
    exact .of_begun (hhops.stays begun begun_closed (by rw [hpay.finalized]; exact ⟨nofun, nofun⟩))
  | wipe _ hstatus =>
    refine .of_begun ?_
    rcases hstatus with (hstatus | hstatus) | hstatus <;>
    · change begun b.raffle.status
      rw [hstatus]
      exact ⟨nofun, nofun⟩
  | _ => exact hu

theorem unasked_always (hinit : Initialised h w) (calls : List Invocation) :
    (machine h).Always (Holds h fun b => Lifecycle b ∧ Unasked b) w calls := by
  have hfresh : ∀ b, Fresh b → Unasked b := fun b hb _ => hb.unasked
  exact always_of_fresh hinit hfresh (fun _ _ _ _ hu hm => hu.move hm) calls

theorem Move.request_kept (hm : Move h a b b') (hdrawing : b.raffle.status = .drawing) :
    ended b'.raffle.status ∨ b'.raffle.status = .drawing ∧ b'.requestId = b.requestId := by
  have hhops := Hops.move hm
  cases hm with
  | deposit _ hstatus =>
    rw [hdrawing] at hstatus
    cases hstatus
  | buy _ order total fee time hsale | sellOut _ order total fee time request hsale =>
    have hactive := hsale.active
    rw [hdrawing] at hactive
    cases hactive
  | startDraw _ request hstatus | fail _ hstatus =>
    rw [hdrawing] at hstatus
    cases hstatus
  | finish | cancel | abandon | emergency => exact .inl ⟨⟨nofun, nofun⟩, nofun⟩
  | claim _ tier winner amount fee hpay =>
    have hfinalized := hpay.finalized
    rw [hdrawing] at hfinalized
    cases hfinalized
  | sweep _ tier winner treasury amount hpay =>
    have hfinalized := hpay.finalized
    rw [hdrawing] at hfinalized
    cases hfinalized
  | wipe _ hstatus => simp [Refundable, hdrawing] at hstatus
  | _ => exact .inr ⟨hdrawing, rfl⟩

theorem request_kept (hw : Holds h Lifecycle w) (hr : w.raffle = some r) (hr' : w'.raffle = some r')
    (hdrawing : r.status = .drawing) (hdrawing' : r'.status = .drawing)
    (hok : invoke h i w = .ok w') : w'.randomnessRequestId = w.randomnessRequestId := by
  obtain ⟨r₁, acts, hr₁, -, hpath⟩ := committed_path_from hw hr hok
  rw [hr'] at hr₁
  cases hr₁
  have hkept : ended r'.status ∨ r'.status = .drawing ∧
      w'.randomnessRequestId = w.randomnessRequestId :=
    hpath.preserves_all (fun b => ended b.raffle.status ∨ b.raffle.status = .drawing ∧
        b.requestId = w.randomnessRequestId)
      (fun a b b' hb hm => by
        rcases hb with hended | ⟨hdraw, hid⟩
        · exact .inl ((Hops.move hm).stays ended ended_closed hended)
        · exact (Move.request_kept hm hdraw).imp_right (And.imp_right (·.trans hid)))
      (.inr ⟨hdrawing, rfl⟩)
  exact (hkept.resolve_left fun hended => hended.2 hdrawing').2

end TikkaRaffle.Escrow
