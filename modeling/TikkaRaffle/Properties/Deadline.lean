import TikkaRaffle.Escrow.Records
import TikkaRaffle.Escrow.Selection
import TikkaRaffle.Factory.Bookkeeping
import TikkaRaffle.Properties.Drawing

/-! Closing a sale at its deadline. A raffle that draws on chain fails or is
finalized in the one call, except that a draw with more tiers than sold tickets
is refused and leaves the raffle active. -/
namespace TikkaRaffle.Properties

open TikkaRaffle.Lib TikkaRaffle.Instance TikkaRaffle.Escrow

structure ClosesSale (h : Host) (c : Ctx) (r : Raffle) : Prop where
  active : r.status = .active
  source : RandomnessSource.onChain r.randomnessSource
  expired : r.noDeadline = false ∧ r.endTime ≤ c.timestamp
  signed : r.creator ∈ c.auths ∧ r.creator ≠ h.self

def Short (r : Raffle) : Prop := r.ticketsSold = 0 ∨ r.ticketsSold < r.minTickets

structure Resolves (h : Host) (c : Ctx) (w : World) (r : Raffle) : Prop where
  short : Short r → ∃ w', finalizeRaffle h c w = .ok w' ∧ StatusIn (· = .failed) w'
  drawn : ¬Short r → r.prizes.length ≤ r.ticketsSold →
    c.factory.recordLeaderboardEntry = true →
      ∃ w', finalizeRaffle h c w = .ok w' ∧ StatusIn (· = .finalized) w'
  refused : ¬Short r → r.ticketsSold < r.prizes.length →
    finalizeRaffle h c w = .error (.err .morePrizesThanTickets)

variable {h : Host} {c : Ctx} {w : World} {r : Raffle}

theorem finalizeRaffle_fails (hr : w.raffle = some r) (hlock : w.drawingLock.getD false = false)
    (hc : ClosesSale h c r) (hshort : Short r) :
    finalizeRaffle h c w = failRaffle c w r := by
  obtain ⟨hactive, -, hexpired, hsigned⟩ := hc
  unfold Short at hshort
  simp [finalizeRaffle, ensure, readRaffle, okOr, requireAuth, bind, Except.bind, hr, hlock,
    hactive, hexpired, hsigned, hshort]

theorem failRaffle_some (hactive : r.status = .active) :
    ∃ w', failRaffle c w r = .ok w' ∧ StatusIn (· = .failed) w' := by
  exact ⟨_, failRaffle_ok.mpr ⟨hactive, rfl⟩, r.setStatus .failed, rfl, rfl⟩

theorem onChainSeed_lt (w : World) (r : Raffle) : onChainSeed h c w r < 2 ^ 64 := by
  simp only [onChainSeed]
  split <;> exact seedOfDigest_lt _

theorem transitionToDrawing_some (hlock : w.drawingLock.getD false = false)
    (hactive : r.status = .active) (time : Nat) :
    ∃ w₁, transitionToDrawing w r time = .ok (w₁, r.setStatus .drawing) ∧
      w₁.ticket = w.ticket ∧ w₁.accumulatedFees = w.accumulatedFees ∧
        w₁.balance = w.balance := by
  exact ⟨_, transitionToDrawing_ok.mpr ⟨hlock, hactive, rfl, rfl⟩, rfl, rfl, rfl⟩

/-- With enough tickets the call is the draw, on a seed of 64 bits. -/
theorem finalizeRaffle_draws (hr : w.raffle = some r) (hlock : w.drawingLock.getD false = false)
    (hc : ClosesSale h c r) (henough : ¬Short r) :
    ∃ w₁ seed, (w₁.ticket = w.ticket ∧ w₁.accumulatedFees = w.accumulatedFees ∧
        w₁.balance = w.balance) ∧ seed < 2 ^ 64 ∧
      finalizeRaffle h c w =
        doFinalizeWithSeed h c w₁ (r.setStatus .drawing) seed .prng none := by
  obtain ⟨hactive, hsource, hexpired, hsigned⟩ := hc
  obtain ⟨w₁, hstarted, hkept⟩ := transitionToDrawing_some hlock hactive c.timestamp
  unfold Short at henough
  refine ⟨emit w₁ (.drawTriggered r.creator r.ticketsSold c.timestamp),
    onChainSeed h c w₁ (r.setStatus .drawing), hkept, onChainSeed_lt .., ?_⟩
  rcases hsource with hsource | hsource <;>
    simp [finalizeRaffle, ensure, readRaffle, okOr, requireAuth, bind, Except.bind, hr, hlock,
      hactive, hexpired, hsigned, henough, hstarted, hsource]

def purse (w : World) : Option Int × (Address → Address → Int) := (w.accumulatedFees, w.balance)

theorem recordLeaderboard_purse {w' : World}
    (hok : recordLeaderboard h c w r = .ok w') : purse w' = purse w := by
  obtain ⟨calls, rfl⟩ := recordLeaderboard_writes hok
  rfl

theorem doFinalizeWithSeed_leaves {w' : World} {seed : Nat} {kind : RandomnessType}
    {contributions : Option (List (Address × Nat))}
    (hok : doFinalizeWithSeed h c w r seed kind contributions = .ok w') :
    purse w' = purse w ∧ ∃ winners, winners.length = r.prizes.length ∧
      (∀ owner ∈ winners, ∃ ticketId, getTicketOwner w ticketId = some owner) ∧ w'.raffle =
        some (((r.setWinners winners).setFinalizedAt c.timestamp).setStatus .finalized) := by
  obtain ⟨-, htiers, candidates, indices, winners, drawn, w₂, hselect, htier, hboard, rfl⟩ :=
    doFinalizeWithSeed_cases hok
  obtain ⟨hlength, -, -⟩ := drawTiers_ok htier
  obtain ⟨-, drawnWinners, hdrawn, howners⟩ := drawTiers_reproducible htier
  rw [List.nil_append] at hdrawn
  subst hdrawn
  obtain ⟨-, hkept⟩ := recordLeaderboard_view hboard r
  have hboarded := recordLeaderboard_purse hboard
  have hcleared : ∀ w : World, purse (clearQuorumStorage w) = purse w := by
    intro w
    rw [clearQuorumStorage_eq]
    rfl
  have hbumped : purse (bumpRaffleTtl w₂ r.ticketsSold) = purse w₂ := by
    obtain ⟨index, hindex⟩ := bumpRaffleTtl_writes w₂ r.ticketsSold
    rw [hindex]
    rfl
  refine ⟨?_, winners, ?_, fun owner hwon => ?_, ?_⟩
  · rw [hbumped, hboarded]
    exact hcleared _
  · rw [hlength, selectWinnerIndices_length hselect, min_eq_left htiers]
    exact Nat.zero_add _
  · have hlisted : some owner ∈ winners.map some := List.mem_map_of_mem hwon
    rw [howners] at hlisted
    obtain ⟨index, -, howner⟩ := List.mem_map.mp hlisted
    exact ⟨index + 1, howner⟩
  · rw [bumpRaffleTtl_raffle, hkept, concluded_raffle]
    rfl

/-- Too many tiers are refused before anything is drawn. -/
theorem doFinalizeWithSeed_refused {seed : Nat} {kind : RandomnessType}
    {contributions : Option (List (Address × Nat))} (hsold : r.ticketsSold ≠ 0)
    (htiers : r.ticketsSold < r.prizes.length) :
    doFinalizeWithSeed h c w r seed kind contributions =
      .error (.err .morePrizesThanTickets) := by
  simp [doFinalizeWithSeed, ensure, bind, Except.bind, hsold, if_neg (Nat.not_le.mpr htiers)]

theorem resolves_of_books (hr : w.raffle = some r) (hl : Lifecycle (view h w r))
    (hk : DrawKeys (view h w r)) (ht : Registry (view h w r)) (hc : ClosesSale h c r) :
    Resolves h c w r := by
  have hlock : w.drawingLock.getD false = false := (hk.idle (.inr hc.active)).1
  have hrecorded : ∀ i, 1 ≤ i → i ≤ r.ticketsSold → w.ticket i ≠ none :=
    (ht.complete (by rw [show (view h w r).raffle.status = .active from hc.active]; rfl)).recorded
  have hsupply : r.ticketsSold ≤ r.maxTickets := hl.supply
  have hlimit : r.maxTickets ≤ 100000 := hl.terms.maxTickets_le
  refine ⟨fun hshort => ?_, fun henough htiers hanswers => ?_, fun henough htiers => ?_⟩
  · rw [finalizeRaffle_fails hr hlock hc hshort]
    exact failRaffle_some hc.active
  · obtain ⟨w₁, seed, ⟨hticket, -⟩, hseed, hdraw⟩ := finalizeRaffle_draws hr hlock hc henough
    obtain ⟨w', hok⟩ := doFinalizeWithSeed_some (h := h) (w := w₁) (r := r.setStatus .drawing)
      .prng none rfl (Nat.pos_of_ne_zero fun hzero => henough (.inl hzero)) htiers
      (by rw [hticket]; exact hrecorded) (by simp; omega) hseed hanswers
    obtain ⟨-, -, r', -, -, -, -, hr', hfinalized, -⟩ := doFinalizeWithSeed_concludes hok
    exact ⟨w', hdraw.trans hok, r', hr', hfinalized⟩
  · obtain ⟨w₁, seed, -, -, hdraw⟩ := finalizeRaffle_draws hr hlock hc henough
    rw [hdraw]
    exact doFinalizeWithSeed_refused (fun hzero => henough (.inl hzero)) htiers

theorem saleBooks_always (hinit : Initialised h w) (calls : List Invocation) :
    (machine h).Always (Holds h fun b => Lifecycle b ∧ DrawKeys b ∧ Registry b) w calls :=
  always_of_fresh hinit (fun _ hf => ⟨.of_fresh hf, .of_fresh hf⟩)
    (fun _ _ _ hl hb hm => ⟨hb.1.move hl hm, hb.2.move hm⟩) calls

/-- In every reachable active state the deadline settles what the creator's call
does. -/
theorem deadline_resolves (hinit : Initialised h w) (calls : List Invocation) :
    (machine h).Always (fun w => ∀ c r, w.raffle = some r → ClosesSale h c r →
      Resolves h c w r) w calls := by
  refine (saleBooks_always hinit calls).mono fun w hw c r hr hc => ?_
  obtain ⟨hl, hk, ht⟩ := hw.view hr
  exact resolves_of_books hr hl hk ht hc

def manyTiersConfig : RaffleConfig :=
  { Sample.config with prizes := [4000, 3000, 3000] }

def twoSoldRun : List Invocation :=
  [Sample.signed [Sample.creator] 1 1 .depositPrize,
    Sample.signed [Sample.buyer] 2 2 (.buyTickets Sample.buyer 2)]

theorem deadline_resolves_twoSoldRun :
    (∃ r, r ∈ (Sample.after .ifElse Sample.config twoSoldRun).raffle ∧
      ClosesSale (Sample.host .ifElse) (Sample.ctx 1000 3 [Sample.creator]) r ∧
      ¬Short r ∧ r.prizes.length ≤ r.ticketsSold) ∧
    (machine (Sample.host .ifElse)).Always (fun w => ∀ c r, w.raffle = some r →
      ClosesSale (Sample.host .ifElse) c r → Resolves (Sample.host .ifElse) c w r)
      (Sample.start .ifElse Sample.config) twoSoldRun := by
  refine ⟨?_, deadline_resolves (Sample.start_initialised (by decide +kernel)) twoSoldRun⟩
  have hsome : ∃ r, r ∈ (Sample.after .ifElse Sample.config twoSoldRun).raffle ∧
      (r.status = .active ∧ r.randomnessSource = .internal ∧ r.noDeadline = false ∧
        r.endTime ≤ 1000 ∧ r.creator = Sample.creator) ∧
      r.ticketsSold = 2 ∧ r.minTickets = 1 ∧ r.prizes.length = 1 := by
    decide +kernel
  obtain ⟨r, hr, ⟨hactive, hsource, hdeadline, hexpired, hcreator⟩, hsold, hmin, htiers⟩ := hsome
  refine ⟨r, hr, ⟨hactive, .inl hsource, ⟨hdeadline, hexpired⟩, ?_⟩, ?_, by omega⟩
  · rw [hcreator]
    decide
  · unfold Short
    omega

/-- Two tickets make the minimum and are too few for three tiers; and nobody
finalizes while the factory does not answer. -/
theorem deadline_leaves_active :
    (Initialised (Sample.host .ifElse) (Sample.start .ifElse manyTiersConfig) ∧
      (∃ r, r ∈ (Sample.after .ifElse manyTiersConfig twoSoldRun).raffle ∧
        ClosesSale (Sample.host .ifElse) (Sample.ctx 1000 3 [Sample.creator]) r ∧ ¬Short r) ∧
      finalizeRaffle (Sample.host .ifElse) (Sample.ctx 1000 3 [Sample.creator])
          (Sample.after .ifElse manyTiersConfig twoSoldRun) =
        .error (.err .morePrizesThanTickets) ∧
      StatusIn (· = .active) (Sample.after .ifElse manyTiersConfig
        (twoSoldRun ++ [Sample.signed [Sample.creator] 1000 3 .finalizeRaffle]))) ∧
    Initialised (Sample.host .ifElse) (Sample.start .ifElse Sample.config) ∧
    StatusIn (· = .active) (Sample.after .ifElse Sample.config
      (twoSoldRun ++ [⟨{ Sample.ctx 1000 3 [Sample.creator] with
        factory := ⟨some false, true, true, false⟩ }, .finalizeRaffle⟩])) := by
  refine ⟨⟨Sample.start_initialised (by decide +kernel), ?_⟩,
    Sample.start_initialised (by decide +kernel), by decide +kernel⟩
  have hsome : ∃ r, r ∈ (Sample.after .ifElse manyTiersConfig twoSoldRun).raffle ∧
      (r.status = .active ∧ r.randomnessSource = .internal ∧ r.noDeadline = false ∧
        r.endTime ≤ 1000 ∧ r.creator = Sample.creator) ∧
      r.ticketsSold = 2 ∧ r.minTickets = 1 ∧ r.prizes.length = 3 := by
    decide +kernel
  obtain ⟨r, hr, ⟨hactive, hsource, hdeadline, hexpired, hcreator⟩, hsold, hmin, htiers⟩ := hsome
  have hcloses : ClosesSale (Sample.host .ifElse) (Sample.ctx 1000 3 [Sample.creator]) r := by
    refine ⟨hactive, .inl hsource, ⟨hdeadline, hexpired⟩, ?_⟩
    rw [hcreator]
    decide
  have henough : ¬Short r := by
    unfold Short
    omega
  refine ⟨⟨r, hr, hcloses, henough⟩, ?_, by decide +kernel⟩
  obtain ⟨w₁, seed, -, -, hdraw⟩ := finalizeRaffle_draws hr (by decide +kernel) hcloses henough
  rw [hdraw]
  exact doFinalizeWithSeed_refused (by simp [hsold]) (by simp [hsold, htiers])

end TikkaRaffle.Properties
