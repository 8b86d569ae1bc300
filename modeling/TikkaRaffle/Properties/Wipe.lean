import TikkaRaffle.Escrow.Margin
import TikkaRaffle.Escrow.Quorum
import TikkaRaffle.Escrow.Terms
import TikkaRaffle.Properties.Attestation
import TikkaRaffle.Properties.Quorum

/-! What the storage wipe leaves behind. Every key it looks for is found, except
the oracles' submissions: the wipe reads their index from the instance tier and
the draw keeps it in the persistent one. -/
namespace TikkaRaffle.Properties

open TikkaRaffle.Lib TikkaRaffle.Instance TikkaRaffle.Escrow

variable {h : Host} {c : Ctx} {w w' : World} {r r' : Raffle} {b b' : Books} {a : Act}
  {i : Invocation}

def Counted (s : Records) : Prop := ∀ holder, s.counts holder ≠ none → holder ∈ s.buyers.getD []

theorem Counted.count {s : Records} (hs : Counted s) (holder : Address) (quantity : Nat) :
    Counted (s.count holder quantity) := by
  intro other hsome
  have hold : other ≠ holder → other ∈ s.buyers.getD [] := by
    intro hne
    simp only [Records.count, if_neg hne] at hsome
    exact hs other hsome
  unfold Records.count
  simp only
  split
  next =>
    rw [Option.getD_some, List.mem_append, List.mem_singleton]
    by_cases heq : other = holder
    · exact .inr heq
    · exact .inl (hold heq)
  next hheld =>
    by_cases heq : other = holder
    · subst heq
      refine hs other fun hnone => hheld ?_
      rw [Records.held, hnone]
      rfl
    · exact hold heq

theorem Counted.congr {s t : Records} (hs : Counted s) (hcounts : t.counts = s.counts)
    (hbuyers : t.buyers = s.buyers) : Counted t := by
  unfold Counted
  rw [hcounts, hbuyers]
  exact hs

theorem wipeStorage_ok (hr : w.raffle = some r) (hok : wipeStorage h c w = .ok w') :
    (r.status = .cancelled ∨ r.status = .claimed ∨ r.status = .failed) ∧
      ∃ factory, w' = emit (removeSettlement w r) (.storageWiped factory c.timestamp) := by
  simp only [wipeStorage, except_bind_ok, readRaffle_ok, hr, Option.some.injEq, exists_eq_left',
    ensure_ok, except_pure_ok, exists_const] at hok
  obtain ⟨factory, -, _, -, hstatus, -, -, rfl⟩ := hok
  exact ⟨hstatus, factory, rfl⟩

theorem counted_sale {holder : Address} {quantity : Nat} (hw : Counted (records w))
    (hs : Counts c w r w' holder quantity) : Counted (records w') := by
  have hcounted := hw.count holder quantity
  rw [hs.2]
  split
  next => exact hcounted
  next => exact hcounted

theorem counted_step (hr : w.raffle = some r) (hw : Counted (records w))
    (hok : invoke h i w = .ok w') : Counted (records w') := by
  have hstores := invoke_stores hr hok
  cases hcall : i.call with
  | buyTickets buyer quantity =>
    rw [hcall] at hstores
    exact counted_sale hw hstores
  | buyTicketsFor buyer recipient quantity =>
    rw [hcall] at hstores
    exact counted_sale hw hstores
  | wipeStorage =>
    simp only [invoke, hcall] at hok
    obtain ⟨-, factory, rfl⟩ := wipeStorage_ok hr hok
    intro holder hsome
    simp only [records, emit, removeSettlement] at hsome
    split at hsome
    next => exact absurd rfl hsome
    next hout => exact absurd (hw holder hsome) hout
  | finalizeRaffle =>
    rw [hcall] at hstores
    have hkept := finalizeRaffle_kept hstores
    exact hw.congr hkept.2.1 hkept.2.2.1
  | provideRandomness seed publicKey proof requestId =>
    rw [hcall] at hstores
    have hkept := concludes_kept hstores
    exact hw.congr hkept.2.1 hkept.2.2.1
  | provideQuorumRandomness oracle seed requestId =>
    rw [hcall] at hstores
    have hkept := submits_kept hstores
    exact hw.congr hkept.2.1 hkept.2.2.1
  | triggerRandomnessFallback caller doRefund =>
    rw [hcall] at hstores
    have hkept := triggerRandomnessFallback_kept hstores
    exact hw.congr hkept.2.1 hkept.2.2.1
  | cancelRaffle reason =>
    rw [hcall] at hstores
    obtain ⟨cancelAt, hkeys⟩ := cancelling_kept hstores
    rw [hkeys]
    exact hw
  | executeAdminCancel =>
    rw [hcall] at hstores
    rw [hstores.2]
    exact hw
  | _ =>
    rw [hcall] at hstores
    exact hw.congr (congrArg Records.counts hstores) (congrArg Records.buyers hstores)

def CommitsSold (w : World) (r : Raffle) : Prop :=
  ∀ ticketId, w.commitEntry ticketId ≠ none → 1 ≤ ticketId ∧ ticketId ≤ r.ticketsSold

theorem commitsSold_step (hr : w.raffle = some r) (hk : Registry (view h w r))
    (hw : CommitsSold w r) (hsold : r.ticketsSold ≤ r'.ticketsSold)
    (hok : invoke h i w = .ok w') : CommitsSold w' r' := by
  have hkept : ∀ ticketId, w.commitEntry ticketId ≠ none →
      1 ≤ ticketId ∧ ticketId ≤ r'.ticketsSold := fun ticketId hsome =>
    (hw ticketId hsome).imp_right fun hle => hle.trans hsold
  have hcommits := invoke_commits hr hok
  cases hcall : i.call with
  | submitCommit ticketId hash =>
    rw [hcall] at hcommits
    obtain ⟨-, -, ticket, hticket, hentry⟩ := hcommits
    have hbounds := (hk.sold ticketId ticket hticket).1
    intro other hsome
    rw [hentry] at hsome
    simp only at hsome
    split at hsome
    next heq =>
      rw [heq]
      exact hbounds.imp_right fun hle => hle.trans hsold
    next => exact hkept other hsome
  | wipeStorage =>
    rw [hcall] at hcommits
    intro other hsome
    rw [hcommits.2] at hsome
    simp only at hsome
    split at hsome
    next => exact absurd rfl hsome
    next => exact hkept other hsome
  | _ =>
    rw [hcall] at hcommits
    intro other hsome
    rw [hcommits] at hsome
    exact hkept other hsome

/-- A request is only open during a draw or after a cancellation. -/
def Asked (b : Books) : Prop :=
  b.requestId ≠ none → b.raffle.status = .drawing ∨ b.raffle.status = .cancelled

namespace Asked

theorem of_none (hnone : b.requestId = none) : Asked b := fun hsome => absurd hnone hsome

theorem of_status (hstatus : b.raffle.status = .drawing ∨ b.raffle.status = .cancelled) :
    Asked b := fun _ => hstatus

theorem closed (hk : Asked b) {status : RaffleStatus} (hstatus : b.raffle.status = status)
    (hne : status ≠ .drawing ∧ status ≠ .cancelled) : b.requestId = none := by
  by_contra hsome
  rcases hk hsome with hs | hs
  · exact hne.1 (hstatus.symm.trans hs)
  · exact hne.2 (hstatus.symm.trans hs)

theorem move (hk : Asked b) (hm : Move h a b b') : Asked b' := by
  cases hm with
  | deposit _ hstatus => exact of_none (hk.closed hstatus (by decide))
  | sellOut | startDraw => exact of_status (.inl rfl)
  | fail _ hstatus => exact of_none (hk.closed hstatus (by decide))
  | cancel | abandon | emergency => exact of_status (.inr rfl)
  | finish | wipe => exact of_none rfl
  | claim _ tier winner amount fee hpay | sweep _ tier winner treasury amount hpay =>
    have hnone := hk.closed hpay.finalized (by decide)
    exact of_none (by rw [Books.markTier_requestId]; exact hnone)
  | _ => exact hk

end Asked

theorem Move.stays_open (hm : Move h a b b') (ha : a ≠ .finish)
    (hb : b.raffle.status = .drawing ∨ b.raffle.status = .cancelled) :
    b'.raffle.status = .drawing ∨ b'.raffle.status = .cancelled := by
  cases hm with
  | finish => exact absurd rfl ha
  | deposit _ hstatus | fail _ hstatus =>
    rw [hstatus] at hb
    rcases hb with hs | hs <;> cases hs
  | sellOut | startDraw => exact .inl rfl
  | cancel | abandon | emergency => exact .inr rfl
  | claim _ tier winner amount fee hpay | sweep _ tier winner treasury amount hpay =>
    rw [hpay.finalized] at hb
    rcases hb with hs | hs <;> cases hs
  | _ => exact hb

/-- Only `finalize_raffle` asks a quorum. -/
theorem Move.request_before (hm : Move h a b b') (ha : a ≠ .startDraw)
    (hsource : b.raffle.randomnessSource ≠ .external) (hafter : b'.requestId ≠ none) :
    b.requestId ≠ none := by
  cases hm with
  | startDraw => exact absurd rfl ha
  | sellOut _ order total fee time request hsale hsupply hrequest =>
    have hnone : request = none := by
      rw [← Option.not_isSome_iff_eq_none]
      exact fun hsome => hsource (hrequest.mp hsome)
    subst hnone
    exact hafter
  | finish | abandon | wipe => exact absurd rfl hafter
  | claim | sweep =>
    rw [Books.markTier_requestId] at hafter
    exact hafter
  | _ => exact hafter

theorem invoke_gathers (hr : w.raffle = some r) (hnone : vacant w = (fun _ => none, none))
    (hok : invoke h i w = .ok w') : Gathers w r w' i.call := by
  by_cases hcall : i.call = .wipeStorage
  · simp only [invoke, hcall] at hok
    obtain ⟨-, factory, rfl⟩ := wipeStorage_ok hr hok
    have hindex : w.instanceQuorumSubmittedOracles = none := congrArg Prod.snd hnone
    rw [hcall]
    refine gathers_same rfl ?_ rfl rfl
    simp [records, emit, removeSettlement, hindex]
  · exact stores_gathers (invoke_stores hr hok) hcall

/-- The draw or its cancellation is the only time submissions are on record, and
a quorum that has been asked has a record. -/
structure Polled (h : Host) (w : World) : Prop where
  books : Holds h (fun b => Lifecycle b ∧ Asked b) w
  vacant : vacant w = (fun _ => none, none)
  holding : ∃ pairs, Holding (records w) pairs
  asked : ∀ r config, w.raffle = some r → r.randomnessSource = .quorum config →
    w.randomnessRequestId ≠ none → (records w).submitted ≠ none
  drawn : ∀ r, w.raffle = some r → (records w).submitted ≠ none →
    (r.status = .drawing ∨ r.status = .cancelled) ∧ ∃ config, r.randomnessSource = .quorum config

theorem yields_no_start {call : Call} {acts : List Act} (hyields : call.Yields w r acts)
    (hcall : call ≠ .finalizeRaffle) : ∀ a ∈ acts, a ≠ .startDraw := by
  intro a ha
  cases call <;> grind [Call.Yields]

theorem request_before {acts : List Act} (hyields : i.call.Yields w r acts)
    (hpath : Path (Move h) b acts b') (hcall : i.call ≠ .finalizeRaffle)
    (hsource : b.raffle.randomnessSource ≠ .external) (hafter : b'.requestId ≠ none) :
    b.requestId ≠ none := by
  by_contra hnone
  have hkept : b'.requestId = none ∧ b'.raffle.randomnessSource ≠ .external :=
    hpath.preserves
      (fun b₁ => b₁.requestId = none ∧ b₁.raffle.randomnessSource ≠ .external) _
      (fun a b₁ b₂ ha hb hm => by
        have hsame := fixed_field Raffle.randomnessSource (fun _ => rfl) (fixed_path (.single hm))
        refine ⟨by_contra fun hsome => Move.request_before hm ha hb.2 hsome hb.1, ?_⟩
        rw [hsame]
        exact hb.2)
      (yields_no_start hyields hcall) ⟨hnone, hsource⟩
  exact hafter hkept.1

theorem stays_open_path {acts : List Act} (hyields : i.call.Yields w r acts)
    (hpath : Path (Move h) b acts b') (hcall : isDraw i.call = false)
    (hb : b.raffle.status = .drawing ∨ b.raffle.status = .cancelled) :
    b'.raffle.status = .drawing ∨ b'.raffle.status = .cancelled :=
  hpath.preserves
    (fun b₁ : Books => b₁.raffle.status = .drawing ∨ b₁.raffle.status = .cancelled)
    (fun a => a ≠ .finish)
    (fun _ _ _ ha hb hm => Move.stays_open hm ha hb) (yields_no_finish hyields hcall) hb

theorem Polled.keep {acts : List Act} (hw : Polled h w) (hr : w.raffle = some r)
    (hr' : w'.raffle = some r') (hyields : i.call.Yields w r acts)
    (hpath : Path (Move h) (view h w r) acts (view h w' r')) (hk' : Asked (view h w' r'))
    (hsubmitted : (records w').submitted = (records w).submitted)
    (hdraw : isDraw i.call = true → i.call = .finalizeRaffle ∧
        (w'.raffle = some (r.setStatus .failed) ∨ r.randomnessSource = .external) ∨
      i.call ≠ .finalizeRaffle ∧ w'.raffle = some (r.setStatus .cancelled)) :
    (∀ config, r'.randomnessSource = .quorum config → w'.randomnessRequestId ≠ none →
      (records w').submitted ≠ none) ∧
    ((records w').submitted ≠ none → (r'.status = .drawing ∨ r'.status = .cancelled) ∧
      ∃ config, r'.randomnessSource = .quorum config) := by
  have hsource := fixed_field Raffle.randomnessSource (fun _ => rfl) (fixed_path hpath)
  rw [hsubmitted]
  constructor
  · intro config hconfig hrequest
    have hbefore : r.randomnessSource = .quorum config := hsource.symm.trans hconfig
    refine hw.asked r config hr hbefore ?_
    by_cases hcall : i.call = .finalizeRaffle
    · rcases hdraw (by rw [hcall]; rfl) with ⟨-, hfailed | hexternal⟩ | ⟨hother, -⟩
      · rw [hr'] at hfailed
        cases hfailed
        rcases hk' hrequest with hs | hs <;> cases hs
      · rw [hexternal] at hbefore
        cases hbefore
      · exact absurd hcall hother
    · refine request_before hyields hpath hcall ?_ hrequest
      rw [view_raffle, hbefore]
      simp
  · intro hsome
    obtain ⟨hopen, config, hconfig⟩ := hw.drawn r hr hsome
    refine ⟨?_, config, hsource.trans hconfig⟩
    rcases Bool.eq_false_or_eq_true (isDraw i.call) with hcall | hcall
    · rcases hdraw hcall with ⟨hfinalize, -⟩ | ⟨-, hcancelled⟩
      · rw [hfinalize] at hyields
        have hactive : r.status = .active := finalizeRaffle_active hyields hpath
        rw [hactive] at hopen
        rcases hopen with hs | hs <;> cases hs
      · rw [hr'] at hcancelled
        cases hcancelled
        exact .inr rfl
    · have hstays := stays_open_path hyields hpath hcall hopen
      exact hstays

theorem polled_step (hw : Polled h w) (hok : invoke h i w = .ok w') : Polled h w' := by
  obtain ⟨r, r', acts, hr, hr', hl, hyields, hpath⟩ := committed_path hw.books.left hok
  have hbooks := hw.books.step (fun _ _ _ _ hk hm => Asked.move hk hm) hok
  have hk' : Asked (view h w' r') := (hbooks.view hr').2
  have hvacant := invoke_vacant hr hw.vacant hok
  obtain ⟨pairs, hholding⟩ := hw.holding
  have hgathers := invoke_gathers hr hw.vacant hok
  cases hgathers with
  | keep hseeds hsubmitted hdraw =>
    obtain ⟨hasked, hdrawn⟩ := hw.keep hr hr' hyields hpath hk' hsubmitted hdraw
    refine ⟨hbooks, hvacant, ⟨pairs, hholding.congr hseeds (by rw [hsubmitted])⟩, ?_, ?_⟩
    · intro r₁ config hr₁
      rw [hr'] at hr₁
      cases hr₁
      exact hasked config
    · exact forall_stored hr' hdrawn
  | poll config hcall hsource hdrawing hseeds hsubmitted =>
    rw [hcall] at hyields
    have hactive : r.status = .active := finalizeRaffle_active hyields hpath
    have hnone : (records w).submitted = none := by
      by_contra hsome
      have hopen := (hw.drawn r hr hsome).1
      rw [hactive] at hopen
      rcases hopen with hs | hs <;> cases hs
    have hempty : pairs = [] := by
      have horder := hholding.order
      rw [hnone] at horder
      exact List.map_eq_nil_iff.mp horder.symm
    rw [hempty] at hholding
    rw [hr'] at hdrawing
    cases hdrawing
    refine ⟨hbooks, hvacant, ⟨[], holding_restart hholding hseeds (.inr hsubmitted)⟩, ?_, ?_⟩
    · intro r₁ config' _ _ _
      rw [hsubmitted]
      simp
    · exact forall_stored hr' fun _ => ⟨.inl rfl, config, hsource⟩
  | submit config oracle seed hcall hsource hrequest hnew hsame hkeys =>
    have hopen := hw.drawn r hr (hw.asked r config hr hsource hrequest)
    refine ⟨hbooks, hvacant, ⟨_, hkeys ▸ hholding.submit seed hnew⟩, ?_, ?_⟩
    · intro r₁ config' _ _ _
      rw [hkeys]
      simp [Records.submit]
    · exact forall_stored hsame fun _ => hopen
  | clear r₁ hr₁ hfinalized hseeds hsubmitted =>
    rw [hr'] at hr₁
    cases hr₁
    have hclosed : w'.randomnessRequestId = none := hk'.closed hfinalized (by decide)
    refine ⟨hbooks, hvacant, ⟨[], .nothing (by rw [hsubmitted]; rfl) (hseeds pairs hholding)⟩,
      fun _ _ _ _ hsome => absurd hclosed hsome, fun _ _ hsome => absurd hsubmitted hsome⟩

theorem initialised_request (hinit : Initialised h w) : w.randomnessRequestId = none := by
  obtain ⟨c, holdings, factory, admin, creator, config, hok⟩ := hinit
  simp only [init, except_bind_ok, except_pure_ok, ensure_ok, exists_const] at hok
  obtain ⟨-, _, -, _, -, _, -, -, -, _, -, rfl⟩ := hok
  rfl

theorem polled_initialised (hinit : Initialised h w) : Polled h w := by
  have hrequest := initialised_request hinit
  obtain ⟨r, hr, hl⟩ := initialised_lifecycle hinit
  obtain ⟨admin, hkeys⟩ := initialised_records hinit
  have hsubmitted : (records w).submitted = none := by rw [hkeys]
  exact ⟨⟨r, hr, hl, .of_none hrequest⟩, (vacant_always hinit []).last,
    ⟨[], .nothing (by rw [hsubmitted]; rfl) (by rw [hkeys]; exact fun _ => rfl)⟩,
    fun _ _ _ _ hsome => absurd hrequest hsome, fun _ _ hsome => absurd hsubmitted hsome⟩

theorem polled_run (hinit : Initialised h w) (calls : List Invocation) :
    Polled h ((machine h).run w calls) :=
  (Machine.always_of_step (m := machine h) (Polled h) (fun _ _ _ hw hok => polled_step hw hok)
    (polled_initialised hinit) calls).last

def Underway (w : World) : Prop :=
  ∃ r, w.raffle = some r ∧ begun r.status ∧
    (r.status = .drawing ∨ r.status = .cancelled → (records w).submitted ≠ none)

theorem submitted_gained (hw : Polled h w) (hok : invoke h i w = .ok w')
    (hnone : (records w).submitted = none) (hcall : i.call ≠ .finalizeRaffle) :
    (records w').submitted = none := by
  obtain ⟨r, hr, -⟩ := hw.books
  cases invoke_gathers hr hw.vacant hok with
  | keep hseeds hsubmitted => rw [hsubmitted, hnone]
  | poll config hfinalize => exact absurd hfinalize hcall
  | submit config oracle seed hcall hsource hrequest =>
    exact absurd hnone (hw.asked r config hr hsource hrequest)
  | clear r₁ hr₁ hfinalized hseeds hsubmitted => exact hsubmitted

theorem past_closed (s t : RaffleStatus) :
    ended s ∧ s ≠ .cancelled → allowed s t → ended t ∧ t ≠ .cancelled := by
  unfold ended begun allowed
  cases s <;> cases t <;> decide

theorem underway_step (hw : Polled h w) (hu : Underway w) (hok : invoke h i w = .ok w') :
    Underway w' := by
  obtain ⟨r, hr, hbegun, hkept⟩ := hu
  obtain ⟨r', acts, hr', -, hpath⟩ := committed_path_from hw.books.left hr hok
  have hhops := Hops.path hpath
  refine ⟨r', hr', hhops.stays begun begun_closed hbegun, fun hopen => ?_⟩
  have hbefore : r.status = .drawing ∨ r.status = .cancelled := by
    by_contra hnot
    have hpast : ended r.status ∧ r.status ≠ .cancelled :=
      ⟨⟨hbegun, fun hs => hnot (.inl hs)⟩, fun hs => hnot (.inr hs)⟩
    have hstays := hhops.stays (fun s => ended s ∧ s ≠ .cancelled) past_closed hpast
    exact hopen.elim hstays.1.2 hstays.2
  have hsome := hkept hbefore
  cases invoke_gathers hr hw.vacant hok with
  | keep hseeds hsubmitted => rw [hsubmitted]; exact hsome
  | poll config hcall hsource hdrawing hseeds hsubmitted => rw [hsubmitted]; simp
  | submit config oracle seed hcall hsource hrequest hnew hsame hkeys =>
    rw [hkeys]
    simp [Records.submit]
  | clear r₁ hr₁ hfinalized =>
    rw [hr'] at hr₁
    cases hr₁
    rw [hfinalized] at hopen
    rcases hopen with hs | hs <;> cases hs

theorem finalizeRaffle_underway (hw : Polled h w) (hcall : i.call = .finalizeRaffle)
    (hok : invoke h i w = .ok w') {config : QuorumConfig} (hr' : w'.raffle = some r')
    (hsource : r'.randomnessSource = .quorum config) : Underway w' := by
  obtain ⟨r, r₁, acts, hr, hr₁, -, hyields, hpath⟩ := committed_path hw.books.left hok
  rw [hr'] at hr₁
  cases hr₁
  have hbefore : r.randomnessSource = .quorum config :=
    (fixed_field Raffle.randomnessSource (fun _ => rfl) (fixed_path hpath)).symm.trans hsource
  cases invoke_gathers hr hw.vacant hok with
  | keep hseeds hsubmitted hdraw =>
    rcases hdraw (by rw [hcall]; rfl) with ⟨-, hfailed | hexternal⟩ | ⟨hother, -⟩
    · exact ⟨_, hfailed, by simp [begun], by simp⟩
    · rw [hexternal] at hbefore
      cases hbefore
    · exact absurd hcall hother
  | poll config hfinalize hquorum hdrawing hseeds hsubmitted =>
    exact ⟨_, hdrawing, by simp [begun], fun _ => by rw [hsubmitted]; simp⟩
  | submit config oracle seed hsubmission hquorum hrequest hnew hsame hkeys =>
    rw [hcall] at hyields
    have hactive : r.status = .active := finalizeRaffle_active hyields hpath
    have hopen := (hw.drawn r hr (hw.asked r config hr hquorum hrequest)).1
    rw [hactive] at hopen
    rcases hopen with hs | hs <;> cases hs
  | clear r₁ hr₁ hfinalized => exact ⟨r₁, hr₁, by simp [begun, hfinalized], by simp [hfinalized]⟩

/-- A cancellation ended a quorum raffle that `finalize_raffle` had drawn. -/
def QuorumAbandoned (h : Host) (w : World) (calls : List Invocation) : Prop :=
  (∃ r, ((machine h).run w calls).raffle = some r ∧ r.status = .cancelled ∧
    ∃ config, r.randomnessSource = .quorum config) ∧
  ∃ i ∈ (machine h).committed w calls, i.call = .finalizeRaffle

def Sourced (source : RandomnessSource) (w : World) : Prop :=
  ∃ r, w.raffle = some r ∧ r.randomnessSource = source

theorem sourced_step {source : RandomnessSource} (hw : Holds h Lifecycle w)
    (hs : Sourced source w) (hok : invoke h i w = .ok w') : Sourced source w' := by
  obtain ⟨r, hr, hsource⟩ := hs
  obtain ⟨r', hr', hfixed⟩ := fixed_step hw hr hok
  have hkept := fixed_field Raffle.randomnessSource (fun _ => rfl) hfixed
  exact ⟨r', hr', hkept.trans hsource⟩

theorem sourced_start {source : RandomnessSource} (hinit : Initialised h w)
    (calls : List Invocation) (hr : ((machine h).run w calls).raffle = some r)
    (hsource : r.randomnessSource = source) : Sourced source w := by
  have hlife := initialised_lifecycle hinit
  have ⟨r₀, hr₀, _⟩ := hlife
  obtain ⟨r₁, hr₁, hfixed⟩ := fixed_run hlife hr₀ calls
  rw [hr] at hr₁
  cases hr₁
  have hkept := fixed_field Raffle.randomnessSource (fun _ => rfl) hfixed
  exact ⟨r₀, hr₀, hkept.symm.trans hsource⟩

theorem underway_run (hinit : Initialised h w) (calls : List Invocation)
    (hr : ((machine h).run w calls).raffle = some r) {config : QuorumConfig}
    (hsource : r.randomnessSource = .quorum config)
    (hfinalized : ∃ i ∈ (machine h).committed w calls, i.call = .finalizeRaffle) :
    Underway ((machine h).run w calls) := by
  by_contra hnot
  have hkeep : ∀ w i w', Polled h w ∧ Sourced (.quorum config) w → invoke h i w = .ok w' →
      Polled h w' ∧ Sourced (.quorum config) w' := fun w i w' hw hok =>
    ⟨polled_step hw.1 hok, sourced_step hw.1.books.left hw.2 hok⟩
  rcases Machine.holds_since (m := machine h) (p := fun i => i.call = .finalizeRaffle)
      (fun w => Polled h w ∧ Sourced (.quorum config) w) (fun w => ¬Underway w) hkeep
      (fun w i w' hw _ hok hu' hu => hu' (underway_step hw.1 hu hok))
      ⟨polled_initialised hinit, sourced_start hinit calls hr hsource⟩ hnot with
    ⟨-, hnone⟩ | ⟨first, i, rest, t, -, hcall, hok, hw, hu, -⟩
  · obtain ⟨i, hi, hcall⟩ := hfinalized
    exact hnone i hi hcall
  · obtain ⟨r', hr', hquorum⟩ := (hkeep _ _ _ hw hok).2
    exact hu (finalizeRaffle_underway hw.1 hcall hok hr' hquorum)

/-- The submissions on record before a wipe are those of an abandoned draw. -/
theorem submitted_iff_abandoned (hinit : Initialised h w) (calls : List Invocation)
    (hr : ((machine h).run w calls).raffle = some r) (hended : r.status ≠ .drawing) :
    ((machine h).run w calls).quorumSubmittedOracles ≠ none ↔ QuorumAbandoned h w calls := by
  constructor
  · intro hsome
    obtain ⟨hopen, hquorum⟩ := (polled_run hinit calls).drawn r hr hsome
    refine ⟨⟨r, hr, hopen.resolve_left hended, hquorum⟩, ?_⟩
    by_contra hnone
    have heach : (machine h).Each (fun _ i _ => i.call ≠ .finalizeRaffle) w calls :=
      Machine.each_call_iff.mpr fun i hi hcall => hnone ⟨i, hi, hcall⟩
    obtain ⟨admin, hkeys⟩ := initialised_records hinit
    have hkept := Machine.always_of_each (m := machine h)
      (fun w => Polled h w ∧ (records w).submitted = none)
      (fun w i w' hw hcall hok =>
        ⟨polled_step hw.1 hok, submitted_gained hw.1 hok hw.2 hcall⟩)
      ⟨polled_initialised hinit, by rw [hkeys]⟩ heach
    exact hsome hkept.last.2
  · rintro ⟨⟨r₁, hr₁, hcancelled, config, hsource⟩, hfinalized⟩
    obtain ⟨r₂, hr₂, -, hkept⟩ := underway_run hinit calls hr₁ hsource hfinalized
    rw [hr₁] at hr₂
    cases hr₂
    exact hkept (.inr hcancelled)

/-- No key of the settlement is left, and what the raffle is read by is kept. -/
structure LeavesNothing (w w' : World) : Prop where
  tickets : ∀ ticketId, w'.ticket ticketId = none
  refunds : ∀ ticketId, w'.ticketRefunded ticketId = none
  commits : ∀ ticketId, w'.commitEntry ticketId = none
  counts : ∀ holder, w'.ticketCount holder = none
  owned : ∀ holder, w'.ownerTickets holder = none
  buyers : w'.ticketBuyers = none
  seeds : ∀ oracle, w'.quorumSeed oracle = none
  oracles : w'.quorumSubmittedOracles = none
  instanceOracles : w'.instanceQuorumSubmittedOracles = none
  fees : w'.accumulatedFees = none
  lock : w'.drawingLock = none
  requested : w'.randomnessRequested = none
  requestLedger : w'.randomnessRequestLedger = none
  requestId : w'.randomnessRequestId = none
  kept : w'.raffle = w.raffle ∧ w'.factory = w.factory ∧ w'.admin = w.admin
  fairness : w'.randomnessSeed = w.randomnessSeed ∧ w'.metadataHash = w.metadataHash

/-- What the wipe enumerates its keys from holds of every reached state. -/
structure Enumerated (h : Host) (w : World) : Prop where
  books : Holds h (fun b => Lifecycle b ∧ Registry b) w
  counted : Counted (records w)
  commits : ∀ r, w.raffle = some r → CommitsSold w r

theorem enumerated_step (hw : Enumerated h w) (hok : invoke h i w = .ok w') : Enumerated h w' := by
  obtain ⟨r, r', acts, hr, hr', -, -, hpath⟩ := committed_path hw.books.left hok
  refine ⟨hw.books.step (fun _ _ _ _ hk hm => hk.move hm) hok, counted_step hr hw.counted hok, ?_⟩
  exact forall_stored hr' (commitsSold_step hr (hw.books.view hr).2 (hw.commits r hr)
    (ticketsSold_le_path hpath) hok)

theorem enumerated_run (hinit : Initialised h w) (calls : List Invocation) :
    Enumerated h ((machine h).run w calls) := by
  have hcommits := initialised_commits hinit
  obtain ⟨admin, hkeys⟩ := initialised_records hinit
  have hstart : Enumerated h w := by
    refine ⟨(always_of_fresh hinit (fun _ => Registry.of_fresh)
      (fun _ _ _ _ hk hm => hk.move hm) []).last, ?_, fun r _ ticketId hsome => ?_⟩
    · rw [hkeys]
      exact fun _ hsome => absurd rfl hsome
    · rw [hcommits] at hsome
      exact absurd rfl hsome
  exact (Machine.always_of_step (m := machine h) (Enumerated h)
    (fun _ _ _ hw hok => enumerated_step hw hok) hstart calls).last

theorem removed {α : Type} {found : Prop} [Decidable found] {value : Option α}
    (hfound : value ≠ none → found) : (if found then none else value) = none := by
  by_cases hvalue : value = none
  · rw [hvalue, ite_self]
  · rw [if_pos (hfound hvalue)]

/-- The wipe leaves the oracles' submissions, and nothing else. -/
theorem wiped_iff (hw : Enumerated h w) (hp : Polled h w) (hr : w.raffle = some r)
    {factory : Address}
    (hwiped : w' = emit (removeSettlement w r) (.storageWiped factory c.timestamp)) :
    LeavesNothing w w' ↔ w.quorumSubmittedOracles = none := by
  have hk := (hw.books.view hr).2
  have howned : w.ownerTickets = fun _ => none := congrArg Prod.fst hp.vacant
  have hindex : w.instanceQuorumSubmittedOracles = none := congrArg Prod.snd hp.vacant
  constructor
  · intro hnothing
    have horacles := hnothing.oracles
    rw [hwiped] at horacles
    exact horacles
  · intro hnone
    subst hwiped
    have hseeds : ∀ oracle, w.quorumSeed oracle = none := by
      obtain ⟨pairs, hholding⟩ := hp.holding
      have hempty : pairs = [] := by
        have horder := hholding.order
        rw [show (records w).submitted = none from hnone] at horder
        exact List.map_eq_nil_iff.mp horder.symm
      intro oracle
      rw [Option.eq_none_iff_forall_ne_some]
      intro seed hseed
      have hmem := (hholding.stored oracle seed).mp hseed
      rw [hempty] at hmem
      exact absurd hmem List.not_mem_nil
    exact {
      tickets := fun ticketId => removed fun hsome => by
        obtain ⟨ticket, hticket⟩ := Option.ne_none_iff_exists'.mp hsome
        exact (hk.sold ticketId ticket hticket).1
      refunds := fun ticketId => removed fun hsome =>
        hk.paid_sold ticketId (hk.mark_paid ticketId hsome)
      commits := fun ticketId => removed fun hsome => hw.commits r hr ticketId hsome
      counts := fun holder => removed fun hsome => hw.counted holder hsome
      owned := fun holder => removed fun hsome => absurd (congrFun howned holder) hsome
      buyers := rfl
      seeds := fun oracle => removed fun hsome => absurd (hseeds oracle) hsome
      oracles := hnone
      instanceOracles := rfl
      fees := rfl
      lock := rfl
      requested := rfl
      requestLedger := rfl
      requestId := rfl
      kept := ⟨rfl, rfl, rfl⟩
      fairness := ⟨rfl, rfl⟩ }

/-- From every reached state the wipe leaves nothing exactly if no quorum draw was
abandoned. -/
theorem wipe_leaves_nothing_iff (hinit : Initialised h w) (calls : List Invocation)
    (hok : wipeStorage h c ((machine h).run w calls) = .ok w') :
    LeavesNothing ((machine h).run w calls) w' ↔ ¬QuorumAbandoned h w calls := by
  have hw := enumerated_run hinit calls
  obtain ⟨r, hr, -⟩ := hw.books
  obtain ⟨hstatus, factory, hwiped⟩ := wipeStorage_ok hr hok
  have hended : r.status ≠ .drawing := by
    rcases hstatus with hs | hs | hs <;> simp [hs]
  rw [wiped_iff hw (polled_run hinit calls) hr hwiped,
    ← submitted_iff_abandoned hinit calls hr hended, not_ne_iff]

def undrawnRun : List Invocation :=
  [Sample.signed [Sample.creator] 1 1 .depositPrize,
    Sample.signed [Sample.buyer] 2 2 (.buyTickets Sample.buyer 1),
    Sample.signed [Sample.creator] 3 3 (.cancelRaffle .creatorCancelled),
    Sample.signed [Sample.creator] 4 4 .refundPrize,
    Sample.signed [Sample.buyer] 5 5 (.refundTicket Sample.buyer 1)]

def abandonedRun : List Invocation :=
  Sample.awaitingRun ++
    [Sample.signed [Sample.treasury] 1001 4
        (.provideQuorumRandomness Sample.treasury 7 72340172838076673),
      Sample.signed [Sample.creator] 1002 5 (.cancelRaffle .creatorCancelled),
      Sample.signed [Sample.creator] 1003 6 .refundPrize,
      Sample.signed [Sample.buyer] 1004 7 (.refundTicket Sample.buyer 1)]

def wipeCtx : Ctx := Sample.ctx 2000 8 [Sample.factory]

theorem wipe_leaves_nothing_undrawn : ∃ w',
    wipeStorage quorumHost wipeCtx
        ((machine quorumHost).run (Sample.start .ifElse (quorumConfig twoOfThree)) undrawnRun) =
      .ok w' ∧
    LeavesNothing
      ((machine quorumHost).run (Sample.start .ifElse (quorumConfig twoOfThree)) undrawnRun)
      w' := by
  have hinit := quorumHost_initialised twoOfThree (by decide +kernel)
  have hcommits : (wipeStorage quorumHost wipeCtx ((machine quorumHost).run
      (Sample.start .ifElse (quorumConfig twoOfThree)) undrawnRun)).isOk = true := by
    decide +kernel
  obtain ⟨w', hok⟩ := except_isOk hcommits
  have hnone : ∀ i ∈ (machine quorumHost).committed
      (Sample.start .ifElse (quorumConfig twoOfThree)) undrawnRun, i.call ≠ .finalizeRaffle := by
    intro i hi
    have hmem := ((machine quorumHost).committed_sublist _ _).subset hi
    simp only [undrawnRun, Sample.signed, List.mem_cons, List.not_mem_nil, or_false] at hmem
    rcases hmem with rfl | rfl | rfl | rfl | rfl <;> decide
  have hdrawn : ¬QuorumAbandoned quorumHost (Sample.start .ifElse (quorumConfig twoOfThree))
      undrawnRun := by
    rintro ⟨-, i, hi, hcall⟩
    exact hnone i hi hcall
  exact ⟨w', hok, (wipe_leaves_nothing_iff hinit undrawnRun hok).mpr hdrawn⟩

/-- The wipe succeeds and the submission of the abandoned draw is still there. -/
theorem wipe_leaves_submission :
    Initialised quorumHost (Sample.start .ifElse (quorumConfig twoOfThree)) ∧
    ∃ w',
      wipeStorage quorumHost wipeCtx
          ((machine quorumHost).run (Sample.start .ifElse (quorumConfig twoOfThree))
            abandonedRun) = .ok w' ∧
      w'.quorumSeed Sample.treasury = some 7 ∧
      w'.quorumSubmittedOracles = some [Sample.treasury] ∧
      ¬LeavesNothing ((machine quorumHost).run
        (Sample.start .ifElse (quorumConfig twoOfThree)) abandonedRun) w' := by
  have hinit := quorumHost_initialised twoOfThree (by decide +kernel)
  have hleft : ((wipeStorage quorumHost wipeCtx ((machine quorumHost).run
      (Sample.start .ifElse (quorumConfig twoOfThree)) abandonedRun)).toOption.map fun w' =>
        (w'.quorumSeed Sample.treasury, w'.quorumSubmittedOracles)) =
      some (some 7, some [Sample.treasury]) := by
    decide +kernel
  cases hok : wipeStorage quorumHost wipeCtx ((machine quorumHost).run
      (Sample.start .ifElse (quorumConfig twoOfThree)) abandonedRun) with
  | error e =>
    rw [hok] at hleft
    cases hleft
  | ok w' =>
    rw [hok] at hleft
    simp only [Except.toOption, Option.map_some, Option.some.injEq, Prod.mk.injEq] at hleft
    refine ⟨hinit, w', rfl, hleft.1, hleft.2, fun hnothing => ?_⟩
    have hnone := hnothing.oracles
    rw [hleft.2] at hnone
    cases hnone

end TikkaRaffle.Properties
