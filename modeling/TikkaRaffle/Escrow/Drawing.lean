import TikkaRaffle.Escrow.Sale

/-! The entry points of the draw on the books: starting it, failing, and the
one way every draw finishes. -/
namespace TikkaRaffle.Escrow

open TikkaRaffle.Lib TikkaRaffle.Instance

variable {h : Host} {c : Ctx} {w w' : World} {r r' : Raffle}

inductive Proceeds (h : Host) (c : Ctx) (w : World) (r : Raffle) (before : RaffleStatus) :
    World → Prop
  | request {w' : World} (oracles : List Address) (hsource : r.randomnessSource = .external)
      (hok : requestForDraw h c w r before oracles = .ok w') : Proceeds h c w r before w'
  | poll {w₁ : World} (config : QuorumConfig) (hsource : r.randomnessSource = .quorum config)
      (hok : requestForDraw h c w r before config.oracles = .ok w₁) :
      Proceeds h c w r before { w₁ with quorumSubmittedOracles := some [] }
  | draw {w' : World} (hsource : RandomnessSource.onChain r.randomnessSource)
      (hok : doFinalizeWithSeed h c
        (emit w (.drawTriggered r.creator r.ticketsSold c.timestamp)) r
        (onChainSeed h c w r) .prng none = .ok w') : Proceeds h c w r before w'

theorem finalizeRaffle_cases (hr : w.raffle = some r) (hok : finalizeRaffle h c w = .ok w') :
    (r.status = .active ∨ r.status = .drawing) ∧
      ((r.ticketsSold = 0 ∨ r.ticketsSold < r.minTickets) ∧ failRaffle c w r = .ok w' ∨
        ¬(r.ticketsSold = 0 ∨ r.ticketsSold < r.minTickets) ∧ ∃ w₁,
          transitionToDrawing w r c.timestamp = .ok (w₁, r.setStatus .drawing) ∧
          Proceeds h c w₁ (r.setStatus .drawing) r.status w') := by
  simp only [finalizeRaffle, except_bind_ok, ensure_ok, readRaffle_ok, hr, Option.some.injEq,
    exists_eq_left', exists_const] at hok
  obtain ⟨-, _, -, hopen, -, hok⟩ := hok
  refine ⟨hopen, ?_⟩
  split at hok
  next hshort => exact .inl ⟨hshort, hok⟩
  next henough =>
    simp only [except_bind_ok, Prod.exists] at hok
    obtain ⟨w₁, r₁, hdrawing, hok⟩ := hok
    obtain ⟨-, rfl, -⟩ := transitionToDrawing_view (h := h) hdrawing
    refine .inr ⟨henough, w₁, hdrawing, ?_⟩
    rw [Raffle.setStatus_randomnessSource] at hok
    cases hsource : r.randomnessSource with
    | internal =>
      simp only [hsource] at hok
      exact .draw (.inl hsource) hok
    | commitReveal =>
      simp only [hsource] at hok
      exact .draw (.inr hsource) hok
    | external =>
      simp only [hsource] at hok
      exact .request _ hsource hok
    | quorum config =>
      simp only [hsource, except_bind_ok, except_pure_ok] at hok
      obtain ⟨w₂, hrequest, rfl⟩ := hok
      exact .poll config hsource hrequest

theorem provideRandomness_draws {randomSeed requestId : Nat} {publicKey : Digest}
    {proof : Signature} (hr : w.raffle = some r)
    (hok : provideRandomness h c w randomSeed publicKey proof requestId = .ok w') :
    r.status = .drawing ∧ ∃ published, silent published = true ∧
      doFinalizeWithSeed h c (emit w published) r randomSeed .vrf none = .ok w' := by
  simp only [provideRandomness, except_bind_ok, ensure_ok, readRaffle_ok, hr, Option.some.injEq,
    exists_eq_left', exists_const] at hok
  obtain ⟨-, hok⟩ := hok
  split at hok
  next => cases hok
  next =>
    simp only [except_bind_ok, okOr_ok, ensure_ok, trapU32_ok, exists_const] at hok
    obtain ⟨oracle, -, _, -, hdrawing, -, _, -, -, stored, -, -, -, hok⟩ := hok
    split at hok
    next => exact ⟨hdrawing, _, rfl, hok⟩
    next => cases hok

def submitSeed (w : World) (oracle : Address) (seed : Nat) : World :=
  { w with
    quorumSeed := fun a => if a = oracle then some seed else w.quorumSeed a
    quorumSubmittedOracles := some (w.quorumSubmittedOracles.getD [] ++ [oracle]) }

theorem provideQuorumRandomness_cases {oracle : Address} {randomSeed requestId : Nat}
    (hr : w.raffle = some r)
    (hok : provideQuorumRandomness h c w oracle randomSeed requestId = .ok w') :
    ∃ config published w₁, r.randomnessSource = .quorum config ∧ silent published = true ∧
      w₁ = emit (submitSeed w oracle randomSeed) published ∧ oracle ∈ config.oracles ∧
      oracle ∈ c.auths ∧ w.randomnessRequestId = some requestId ∧ w.quorumSeed oracle = none ∧
      ((w.quorumSubmittedOracles.getD []).length + 1 < config.k ∧ w' = w₁ ∨
        config.k ≤ (w.quorumSubmittedOracles.getD []).length + 1 ∧ ∃ seeds,
          seeds = storedSeeds w₁ (w.quorumSubmittedOracles.getD [] ++ [oracle]) ∧
          doFinalizeWithSeed h c w₁ r (aggregateQuorumSeeds h seeds) .quorum (some seeds) =
            .ok w') := by
  simp only [provideQuorumRandomness, except_bind_ok, ensure_ok, requireAuth_ok, readRaffle_ok,
    okOr_ok, exists_const] at hok
  obtain ⟨-, ⟨hauth, -⟩, r₁, hr₁, stored, hstored, rfl, hok⟩ := hok
  cases hr.symm.trans hr₁
  split at hok
  next config hsource =>
    simp only [except_bind_ok, ensure_ok, exists_const, Option.isNone_iff_eq_none,
      List.length_append, List.length_singleton] at hok
    obtain ⟨hregistered, hfresh, hok⟩ := hok
    refine ⟨config, .oracleSeedDelivered oracle randomSeed stored
      ((w.quorumSubmittedOracles.getD []).length + 1) config.k c.timestamp, _, hsource, rfl, rfl,
      hregistered, hauth, hstored, hfresh, ?_⟩
    split at hok
    next hreached => exact .inr ⟨hreached, _, rfl, hok⟩
    next hwaiting =>
      cases hok
      exact .inl ⟨not_le.mp hwaiting, rfl⟩
  next => cases hok

theorem triggerRandomnessFallback_cases {caller : Address} {doRefund : Bool}
    (hr : w.raffle = some r)
    (hok : triggerRandomnessFallback h c w caller doRefund = .ok w') :
    w.drawingLock.getD false = false ∧ r.status = .drawing ∧ ∃ published,
      silent published = true ∧
        (w' = emit (clearLock (clearRequest (emit (writeRaffle w (r.setStatus .cancelled))
            (.raffleStatusChanged r.status .cancelled c.timestamp)))) published ∨
          ∃ seed, doFinalizeWithSeed h c (emit w published) r seed .fallback none = .ok w') := by
  simp only [triggerRandomnessFallback, except_bind_ok, ensure_ok, readRaffle_ok, hr,
    Option.some.injEq, exists_eq_left', okOr_ok, trapU32_ok, exists_const] at hok
  obtain ⟨hlock, _, -, admin, -, -, hdrawing, -, _, -, -, hok⟩ := hok
  refine ⟨hlock, hdrawing, ?_⟩
  split at hok
  next =>
    simp only [except_bind_ok, Prod.exists, transitionStatus_ok, except_pure_ok] at hok
    obtain ⟨_, _, ⟨-, rfl, rfl⟩, rfl⟩ := hok
    exact ⟨_, rfl, .inl rfl⟩
  next => exact ⟨_, rfl, .inr ⟨_, hok⟩⟩

theorem drawTiers_ok {candidates indices : List Nat} {tier : Nat} {before winners : List Address}
    {events : List Event}
    (hok : drawTiers c w r candidates tier before = .ok (indices, winners, events)) :
    winners.length = before.length + candidates.length ∧ receiptsOf events = [] ∧
      trailOf events = [] := by
  induction candidates generalizing tier before indices winners events with
  | nil =>
    cases hok
    exact ⟨rfl, rfl, rfl⟩
  | cons candidate rest ih =>
    simp only [drawTiers, except_bind_ok, okOr_ok, Prod.exists, except_pure_ok,
      Prod.mk.injEq] at hok
    obtain ⟨owner, -, indices', winners', events', hrest, -, rfl, rfl⟩ := hok
    obtain ⟨hlength, hreceipts, htrail⟩ := ih hrest
    refine ⟨?_, hreceipts, htrail⟩
    simp only [List.length_append, List.length_cons, List.length_nil] at hlength ⊢
    omega

@[simp] theorem view_clearQuorumStorage : view h (clearQuorumStorage w) r = view h w r := by
  rw [clearQuorumStorage_eq]
  rfl

@[simp] theorem clearQuorumStorage_raffle : (clearQuorumStorage w).raffle = w.raffle := by
  rw [clearQuorumStorage_eq]

theorem recordLeaderboard_view (hok : recordLeaderboard h c w r = .ok w') (r₁ : Raffle) :
    view h w' r₁ = view h w r₁ ∧ w'.raffle = w.raffle := by
  obtain ⟨calls, rfl⟩ := recordLeaderboard_writes hok
  exact ⟨rfl, rfl⟩

theorem view_emitAll {events : List Event} (hreceipts : receiptsOf events = [])
    (htrail : trailOf events = []) : view h (emitAll w events) r = view h w r := by
  simp only [view, emitAll, receiptsOf_append, trailOf_append, hreceipts, htrail,
    List.append_nil]

def crowned (c : Ctx) (r : Raffle) (winners : List Address) : Raffle :=
  ((r.setWinners winners).setFinalizedAt c.timestamp).setStatus .finalized

def concluded (h : Host) (c : Ctx) (w : World) (r : Raffle) (metadata : FairnessMetadata)
    (winners : List Address) (drawn : List Event) (kind : RandomnessType) : World :=
  emit (clearLock (clearQuorumStorage (clearRequest (writeRaffle (emit (writeRaffle
      (storeFairness (emitAll w drawn) metadata) (crowned c r winners))
      (.raffleStatusChanged r.status .finalized c.timestamp)) (crowned c r winners)))))
    (.raffleFinalized h.self winners metadata.winningTicketIndices
      (crowned c r winners).ticketsSold (crowned c r winners).randomnessSource kind c.timestamp
      (crowned c r winners).uniqueWinners)

theorem doFinalizeWithSeed_cases {seed : Nat} {kind : RandomnessType}
    {contributions : Option (List (Address × Nat))}
    (hok : doFinalizeWithSeed h c w r seed kind contributions = .ok w') :
    r.status = .drawing ∧ r.prizes.length ≤ r.ticketsSold ∧
      ∃ candidates indices winners drawn w₁,
        selectWinnerIndices seed r.ticketsSold r.prizes.length = some candidates ∧
        drawTiers c w r candidates 0 [] = .ok (indices, winners, drawn) ∧
        recordLeaderboard h c (concluded h c w r ⟨seed, r.randomnessSource, indices, c.timestamp,
          c.sequence, r.uniqueWinners, contributions⟩ winners drawn kind) (crowned c r winners) =
            .ok w₁ ∧
        w' = bumpRaffleTtl w₁ r.ticketsSold := by
  simp only [doFinalizeWithSeed, except_bind_ok, ensure_ok, orTrap_ok, Prod.exists,
    transitionStatus_ok, RaffleStatus.canTransitionTo_finalized, except_pure_ok,
    exists_const] at hok
  obtain ⟨-, htiers, -, candidates, hselect, indices, winners, drawn, htier, _, _,
    ⟨hstatus, rfl, rfl⟩, w₁, hboard, rfl⟩ := hok
  have hcrowned : (((r.setWinners winners).setFinalizedAt c.timestamp).setStatus
      .finalized).setFinalizedAt c.timestamp = crowned c r winners := rfl
  rw [hcrowned] at hboard
  exact ⟨hstatus, htiers, candidates, indices, winners, drawn, w₁, hselect, htier, hboard, rfl⟩

section Concluded

variable {metadata : FairnessMetadata} {winners : List Address} {drawn : List Event}
  {kind : RandomnessType}

@[simp] theorem concluded_raffle :
    (concluded h c w r metadata winners drawn kind).raffle = some (crowned c r winners) := by
  simp only [concluded, emit, clearLock, clearQuorumStorage_raffle]
  rfl

theorem concluded_view (hreceipts : receiptsOf drawn = []) (htrail : trailOf drawn = []) :
    view h (concluded h c w r metadata winners drawn kind) (crowned c r winners) =
      (((view h w r).enter .finalized).crown winners c.timestamp).disarm := by
  have hreleased : ∀ (w : World) (r : Raffle),
      view h (clearLock (clearQuorumStorage (clearRequest w))) r = (view h w r).disarm := by
    intro w r
    have hlock : view h (clearLock (clearQuorumStorage (clearRequest w))) r =
        { view h (clearQuorumStorage (clearRequest w)) r with lock := false } := rfl
    rw [hlock, view_clearQuorumStorage]
    rfl
  have hentered : view h (emit (writeRaffle (storeFairness (emitAll w drawn) metadata)
      (crowned c r winners)) (.raffleStatusChanged r.status .finalized c.timestamp))
      (crowned c r winners) = (view h (storeFairness (emitAll w drawn) metadata)
        ((r.setWinners winners).setFinalizedAt c.timestamp)).enter .finalized :=
    view_emit_hop ..
  rw [concluded, view_emit_silent (by rfl), hreleased, view_writeRaffle, hentered,
    ← view_emitAll (w := w) (r := r) hreceipts htrail]
  rfl

end Concluded

/-- Every finalization is the move `finish`, whatever the seed. -/
theorem doFinalizeWithSeed_finishes {seed : Nat} {kind : RandomnessType}
    {contributions : Option (List (Address × Nat))}
    (hok : doFinalizeWithSeed h c w r seed kind contributions = .ok w') :
    ∃ r', w'.raffle = some r' ∧ Move h .finish (view h w r) (view h w' r') := by
  obtain ⟨hstatus, htiers, candidates, indices, winners, drawn, w₁, hselect, htier, hboard, rfl⟩ :=
    doFinalizeWithSeed_cases hok
  obtain ⟨hlength, hreceipts, htrail⟩ := drawTiers_ok htier
  have hcount : winners.length = r.prizes.length := by
    rw [hlength, selectWinnerIndices_length hselect, min_eq_left htiers]
    exact Nat.zero_add _
  obtain ⟨hboarded, hkept⟩ := recordLeaderboard_view hboard (crowned c r winners)
  refine ⟨crowned c r winners, ?_, ?_⟩
  · rw [bumpRaffleTtl_raffle, hkept, concluded_raffle]
  · rw [view_bumpRaffleTtl, hboarded, concluded_view hreceipts htrail]
    exact .finish (view h w r) winners c.timestamp hstatus hcount htiers

theorem failRaffle_refines {call : Call} (hcall : call.Yields w r [.fail])
    (hshort : r.ticketsSold = 0 ∨ r.ticketsSold < r.minTickets)
    (hok : failRaffle c w r = .ok w') : Refines h call w r w' := by
  obtain ⟨hstatus, rfl⟩ := failRaffle_ok.mp hok
  refine .single rfl hcall (.fail (view h w r) hstatus hshort) ?_
  rw [view_emit_silent (by rfl)]
  exact view_emit_hop _ _ _

theorem foldl_emit_silent {α : Type} (event : α → Event)
    (hsilent : ∀ a, silent (event a) = true) (items : List α) :
    view h (items.foldl (fun w a => emit w (event a)) w) r = view h w r ∧
      (items.foldl (fun w a => emit w (event a)) w).raffle = w.raffle := by
  induction items generalizing w with
  | nil => exact ⟨rfl, rfl⟩
  | cons a rest ih =>
    obtain ⟨hview, hraffle⟩ := ih (w := emit w (event a))
    exact ⟨hview.trans (view_emit_silent (hsilent a)), hraffle⟩

theorem announceRequest_view (r' : Raffle) (oracles : List Address) (requestId : Nat) :
    view h (announceRequest c w r' oracles requestId) r = view h w r ∧
      (announceRequest c w r' oracles requestId).raffle = w.raffle := by
  obtain ⟨hview, hraffle⟩ := foldl_emit_silent (h := h) (r := r)
    (w := emit w (.drawTriggered r'.creator r'.ticketsSold c.timestamp))
    (fun oracle => .randomnessRequested oracle requestId c.timestamp) (fun _ => rfl) oracles
  exact ⟨hview.trans (view_emit_silent (by rfl)), hraffle⟩

theorem requestForDraw_view {status : RaffleStatus} {oracles : List Address} {b : Books}
    (hview : view h w r = b.arm none)
    (hok : requestForDraw h c w r status oracles = .ok w') :
    ∃ requestId, view h w' r = b.arm (some requestId) ∧ b.requested = false ∧
      w'.raffle = w.raffle := by
  obtain ⟨w₁, requestId, hrequest, rfl⟩ := requestForDraw_writes hok
  obtain ⟨hasked, hfresh, hkept⟩ := requestRandomness_view (r := r) hrequest
  obtain ⟨hannounced, hstored⟩ :=
    announceRequest_view (h := h) (c := c) (w := w₁) (r := r) r oracles requestId
  refine ⟨requestId, ?_, ?_, hstored.trans hkept⟩
  · rw [hannounced, hasked, hview, Books.arm_request]
  · simpa [hview, Books.arm] using hfresh

theorem requested_refines {r₁ : Raffle} {requestId : Nat} (hr : w'.raffle = some r₁)
    (hview : view h w' r₁ = ((view h w r).enter .drawing).arm (some requestId))
    (hfresh : ((view h w r).enter .drawing).requested = false)
    (hactive : r.status = .active) (hlock : (view h w r).lock = false)
    (henough : ¬(r.ticketsSold = 0 ∨ r.ticketsSold < r.minTickets))
    (hsource : r.randomnessSource = .external ∨ ∃ config, r.randomnessSource = .quorum config) :
    Refines h .finalizeRaffle w r w' := by
  refine .single hr (.inr (.inl rfl)) (.startDraw (view h w r) (some requestId) hactive hlock
    ?_ ?_ ?_ fun _ => hfresh) hview
  · exact Nat.pos_of_ne_zero fun hzero => henough (.inl hzero)
  · exact not_lt.mp fun hmin => henough (.inr hmin)
  · simpa using hsource

theorem finished_refines {w₁ : World} {e : Event} {seed : Nat} {kind : RandomnessType}
    (hview : view h w₁ (r.setStatus .drawing) = ((view h w r).enter .drawing).arm none)
    (hactive : r.status = .active) (hlock : (view h w r).lock = false)
    (henough : ¬(r.ticketsSold = 0 ∨ r.ticketsSold < r.minTickets))
    (hsource : RandomnessSource.onChain r.randomnessSource) (hsilent : silent e = true)
    (hok : doFinalizeWithSeed h c (emit w₁ e) (r.setStatus .drawing) seed kind none = .ok w') :
    Refines h .finalizeRaffle w r w' := by
  obtain ⟨r', hr', hfinish⟩ := doFinalizeWithSeed_finishes hok
  rw [view_emit_silent hsilent, hview] at hfinish
  refine ⟨r', [.startDraw, .finish], hr', .inr (.inr ⟨hsource, rfl⟩), .cons ?_ (.single hfinish)⟩
  refine .startDraw (view h w r) none hactive hlock ?_ ?_ ?_ (by simp)
  · exact Nat.pos_of_ne_zero fun hzero => henough (.inl hzero)
  · exact not_lt.mp fun hmin => henough (.inr hmin)
  · rcases hsource with hsource | hsource <;> simp [hsource]

theorem finalizeRaffle_refines (hr : w.raffle = some r)
    (hok : finalizeRaffle h c w = .ok w') : Refines h .finalizeRaffle w r w' := by
  obtain ⟨-, ⟨hshort, hfail⟩ | ⟨henough, w₁, hdrawing, hproceeds⟩⟩ := finalizeRaffle_cases hr hok
  · exact failRaffle_refines (.inl rfl) hshort hfail
  obtain ⟨hview, -, hstored, hlock, hactive⟩ := transitionToDrawing_view (h := h) hdrawing
  cases hproceeds with
  | request oracles hsource hrequest =>
    obtain ⟨requestId, hasked, hfresh, hkept⟩ := requestForDraw_view hview hrequest
    exact requested_refines (hkept.trans hstored) hasked hfresh hactive hlock henough
      (.inl hsource)
  | poll config hsource hrequest =>
    obtain ⟨requestId, hasked, hfresh, hkept⟩ := requestForDraw_view hview hrequest
    exact requested_refines (hkept.trans hstored) hasked hfresh hactive hlock henough
      (.inr ⟨config, hsource⟩)
  | draw hsource hdraw => exact finished_refines hview hactive hlock henough hsource rfl hdraw

theorem provideRandomness_refines {randomSeed requestId : Nat} {publicKey : Digest}
    {proof : Signature} (hr : w.raffle = some r)
    (hok : provideRandomness h c w randomSeed publicKey proof requestId = .ok w') :
    Refines h (.provideRandomness randomSeed publicKey proof requestId) w r w' := by
  obtain ⟨-, published, hsilent, hdraw⟩ := provideRandomness_draws hr hok
  obtain ⟨r', hr', hfinish⟩ := doFinalizeWithSeed_finishes hdraw
  rw [view_emit_silent hsilent] at hfinish
  exact .single hr' rfl hfinish rfl

theorem provideQuorumRandomness_refines {oracle : Address} {randomSeed requestId : Nat}
    (hr : w.raffle = some r)
    (hok : provideQuorumRandomness h c w oracle randomSeed requestId = .ok w') :
    Refines h (.provideQuorumRandomness oracle randomSeed requestId) w r w' := by
  obtain ⟨config, published, w₁, hsource, hsilent, rfl, -, -, -, -,
    ⟨-, rfl⟩ | ⟨hreached, seeds, -, hdraw⟩⟩ := provideQuorumRandomness_cases hr hok
  · exact .quiet hr (.inl rfl) (view_emit_silent hsilent)
  · obtain ⟨r', hr', hfinish⟩ := doFinalizeWithSeed_finishes hdraw
    rw [view_emit_silent hsilent] at hfinish
    exact .single hr' (.inr ⟨⟨config, hsource, hreached⟩, rfl⟩) hfinish rfl

theorem triggerRandomnessFallback_refines {caller : Address} {doRefund : Bool}
    (hr : w.raffle = some r)
    (hok : triggerRandomnessFallback h c w caller doRefund = .ok w') :
    Refines h (.triggerRandomnessFallback caller doRefund) w r w' := by
  obtain ⟨hlock, hstatus, published, hsilent, rfl | ⟨seed, hdraw⟩⟩ :=
    triggerRandomnessFallback_cases hr hok
  · refine .single rfl ⟨hlock, .inl rfl⟩ (.abandon (view h w r) hstatus hlock) ?_
    rw [view_emit_silent hsilent, ← view_emit_hop (r.setStatus .cancelled) .cancelled c.timestamp]
    rfl
  · obtain ⟨r', hr', hfinish⟩ := doFinalizeWithSeed_finishes hdraw
    rw [view_emit_silent hsilent] at hfinish
    exact .single hr' ⟨hlock, .inr rfl⟩ hfinish rfl

end TikkaRaffle.Escrow
