import TikkaRaffle.Escrow.Quorum
import TikkaRaffle.Escrow.Selection
import TikkaRaffle.Escrow.Terms
import TikkaRaffle.Properties.Attestation
import TikkaRaffle.Properties.Drawing

/-! The quorum protocol. Whoever calls with whatever seeds, a draw ends at the
threshold with the submissions of that many distinct oracles; whether it can
get there depends on how many distinct oracles the configuration names. -/
namespace TikkaRaffle.Properties

open TikkaRaffle.Lib TikkaRaffle.Instance TikkaRaffle.Escrow

variable {h : Host} {w w' : World} {r r' : Raffle} {i : Invocation} {config : QuorumConfig}
  {requestId : Nat} {pairs : List (Address × Nat)} {calls : List Invocation}

def isSubmission : Call → Bool
  | .provideQuorumRandomness .. => true
  | _ => false

def submissionOf : Call → Option (Address × Nat)
  | .provideQuorumRandomness oracle seed _ => some (oracle, seed)
  | _ => none

def accepted (h : Host) (w : World) (calls : List Invocation) : List (Address × Nat) :=
  ((machine h).committed w calls).filterMap fun i => submissionOf i.call

/-- A call that a registered oracle signed, under the pending request. -/
def Rightful (config : QuorumConfig) (requestId : Nat) (i : Invocation) : Prop :=
  ∃ oracle seed, i.call = .provideQuorumRandomness oracle seed requestId ∧
    oracle ∈ config.oracles ∧ oracle ∈ i.ctx.auths

theorem isSubmission_iff (hcall : isSubmission i.call = true) :
    ∃ oracle seed submittedId, i.call = .provideQuorumRandomness oracle seed submittedId := by
  cases h : i.call with
  | provideQuorumRandomness oracle seed submittedId => exact ⟨oracle, seed, submittedId, rfl⟩
  | _ =>
    rw [h] at hcall
    cases hcall

theorem concluded_run (hw : Concluded h config pairs w)
    (hcalls : ∀ i ∈ calls, isSubmission i.call = true) :
    (machine h).committed w calls = [] ∧ (machine h).run w calls = w := by
  induction calls with
  | nil => exact ⟨rfl, rfl⟩
  | cons i rest ih =>
    obtain ⟨oracle, seed, submittedId, hcall⟩ :=
      isSubmission_iff (hcalls i (List.mem_cons_self ..))
    have htail := ih fun j hj => hcalls j (List.mem_cons_of_mem _ hj)
    cases hstep : (machine h).step i w with
    | ok w' => exact absurd ⟨w', hstep⟩ (hw.closed hcall)
    | error e =>
      rw [Machine.committed_error hstep, Machine.run_cons, (machine h).exec_error hstep]
      exact htail

/-- The state after any run of submissions is known from the accepted ones. -/
theorem collecting_run (hw : Collecting h config requestId pairs w)
    (hcalls : ∀ i ∈ calls, isSubmission i.call = true) :
    (Collecting h config requestId (pairs ++ accepted h w calls) ((machine h).run w calls) ∨
      Concluded h config (pairs ++ accepted h w calls) ((machine h).run w calls)) ∧
    ∀ i ∈ (machine h).committed w calls, Rightful config requestId i := by
  induction calls generalizing w pairs with
  | nil =>
    refine ⟨.inl ?_, by simp [Machine.committed]⟩
    rw [show accepted h w [] = [] from rfl, List.append_nil]
    exact hw
  | cons i rest ih =>
    obtain ⟨oracle, seed, submittedId, hcall⟩ :=
      isSubmission_iff (hcalls i (List.mem_cons_self ..))
    have hrest : ∀ j ∈ rest, isSubmission j.call = true := fun j hj =>
      hcalls j (List.mem_cons_of_mem _ hj)
    cases hstep : (machine h).step i w with
    | error e =>
      unfold accepted
      rw [Machine.committed_error hstep, Machine.run_cons, (machine h).exec_error hstep]
      exact ih hw hrest
    | ok w' =>
      obtain ⟨⟨rfl, horacle, hauth⟩, hnext⟩ := hw.step hcall hstep
      have hhead : Rightful config submittedId i := ⟨oracle, seed, hcall, horacle, hauth⟩
      have haccepted : accepted h w (i :: rest) = (oracle, seed) :: accepted h w' rest := by
        unfold accepted
        rw [Machine.committed_ok hstep, List.filterMap_cons, hcall]
        rfl
      have happend : pairs ++ accepted h w (i :: rest) =
          pairs ++ [(oracle, seed)] ++ accepted h w' rest := by
        rw [haccepted, List.append_assoc]
        rfl
      rw [happend, Machine.committed_ok hstep, Machine.run_cons, (machine h).exec_ok hstep]
      rcases hnext with hcollecting | hconcluded
      · obtain ⟨hstate, hrightful⟩ := ih hcollecting hrest
        refine ⟨hstate, fun j hj => ?_⟩
        rcases List.mem_cons.mp hj with rfl | hj
        · exact hhead
        · exact hrightful j hj
      · obtain ⟨hnone, hsame⟩ := concluded_run hconcluded hrest
        have hempty : accepted h w' rest = [] := by
          unfold accepted
          rw [hnone]
          rfl
        rw [hempty, List.append_nil, hsame, hnone]
        refine ⟨.inr hconcluded, fun j hj => ?_⟩
        rw [List.mem_singleton.mp hj]
        exact hhead

theorem initialised_quorum (hinit : Initialised h w) (hr : w.raffle = some r)
    (hsource : r.randomnessSource = .quorum config) :
    0 < config.k ∧ config.k ≤ config.oracles.length ∧ h.self ∉ config.oracles := by
  obtain ⟨c, holdings, factory, admin, creator, stored, hok⟩ := hinit
  obtain ⟨cap, hcap⟩ := resolveTicketCap_terms stored.resolveDefaults
  simp only [init, validateRandomness, hcap, except_bind_ok, ensure_ok, except_pure_ok,
    exists_const] at hok
  obtain ⟨-, _, -, _, -, ⟨-, _, hquorum, -⟩, -, -, _, -, rfl⟩ := hok
  cases hr
  have hconfig : stored.randomnessSource = .quorum config := hsource
  simp only [validateQuorum, hconfig, except_bind_ok, ensure_ok, exists_const] at hquorum
  obtain ⟨⟨hpos, hle⟩, -, hself, -⟩ := hquorum
  exact ⟨Nat.pos_of_ne_zero hpos, hle, hself⟩

theorem quorum_run (hinit : Initialised h w) (before : List Invocation)
    (hr : ((machine h).run w before).raffle = some r)
    (hsource : r.randomnessSource = .quorum config) :
    0 < config.k ∧ config.k ≤ config.oracles.length ∧ h.self ∉ config.oracles := by
  have hlife : Holds h Lifecycle w := initialised_lifecycle hinit
  have ⟨r₀, hr₀, _⟩ := hlife
  obtain ⟨r₁, hr₁, hfixed⟩ := fixed_run hlife hr₀ before
  rw [hr] at hr₁
  cases hr₁
  have hkept := fixed_field Raffle.randomnessSource (fun _ => rfl) hfixed
  exact initialised_quorum hinit hr₀ (hkept.symm.trans hsource)

theorem collecting_of_reachable (hinit : Initialised h w) (before : List Invocation)
    (hr : ((machine h).run w before).raffle = some r) (hdrawing : r.status = .drawing)
    (hsource : r.randomnessSource = .quorum config)
    (hrequest : ((machine h).run w before).randomnessRequestId = some requestId)
    (hholding : Holding (records ((machine h).run w before)) pairs)
    (hregistered : ∀ pair ∈ pairs, pair.1 ∈ config.oracles) (hshort : pairs.length < config.k) :
    Collecting h config requestId pairs ((machine h).run w before) where
  books := (always_of_fresh hinit (fun _ => Registry.of_fresh)
    (fun _ _ _ _ hk hm => hk.move hm) before).last
  drawing := ⟨r, hr, hdrawing, hsource⟩
  locked := ((drawKeys_always hinit before).last.view hr).2.locked hdrawing
  request := hrequest
  holding := hholding
  registered := hregistered
  short := hshort

/-- What a run of submissions leaves behind. -/
structure QuorumOutcome (h : Host) (config : QuorumConfig) (requestId : Nat) (w : World)
    (calls : List Invocation) : Prop where
  count_le : (accepted h w calls).length ≤ config.k
  rightful : ∀ i ∈ (machine h).committed w calls, Rightful config requestId i
  once : ((accepted h w calls).map Prod.fst).Nodup
  drawing : (accepted h w calls).length < config.k →
    StatusIn (· = .drawing) ((machine h).run w calls)
  finalized : (accepted h w calls).length = config.k →
    StatusIn (· = .finalized) ((machine h).run w calls) ∧
      ∃ metadata, ((machine h).run w calls).randomnessSeed = some metadata ∧
        metadata.seed = aggregateQuorumSeeds h (accepted h w calls) ∧
        metadata.quorumContributions = some (accepted h w calls)
  cleared : StatusIn (· = .finalized) ((machine h).run w calls) →
    (∀ a, ((machine h).run w calls).quorumSeed a = none) ∧
      ((machine h).run w calls).quorumSubmittedOracles = none

theorem quorumOutcome_of_collecting (hw : Collecting h config requestId [] w)
    (hcalls : ∀ i ∈ calls, isSubmission i.call = true) :
    QuorumOutcome h config requestId w calls := by
  obtain ⟨hstate, hrightful⟩ := collecting_run hw hcalls
  rw [List.nil_append] at hstate
  rcases hstate with hcollecting | hconcluded
  · have hshort := hcollecting.short
    obtain ⟨r, hr, hdrawing, -⟩ := hcollecting.drawing
    refine ⟨hshort.le, hrightful, hcollecting.holding.distinct, fun _ => ⟨r, hr, hdrawing⟩,
      fun hfull => absurd hfull hshort.ne, fun hfinalized => ?_⟩
    have hstatus : r.status = .finalized := hfinalized.stored hr
    rw [hdrawing] at hstatus
    cases hstatus
  · have hfull := hconcluded.full
    exact ⟨hfull.le, hrightful, hconcluded.distinct, fun hshort => absurd hfull hshort.ne,
      fun _ => ⟨hconcluded.finalized, hconcluded.drawn⟩,
      fun _ => ⟨hconcluded.noSeed, hconcluded.noOracles⟩⟩

/-- From any quorum draw with a request and no submission yet: every run of
submissions ends as `QuorumOutcome` says, and two runs that accept the same
submissions in different orders draw the same seed. -/
theorem quorum_agreement (hinit : Initialised h w) (before : List Invocation)
    (hxdr : ∀ a b : Address, h.toXdr (.address a) = h.toXdr (.address b) → a = b)
    (hr : ((machine h).run w before).raffle = some r) (hdrawing : r.status = .drawing)
    (hsource : r.randomnessSource = .quorum config)
    (hrequest : ((machine h).run w before).randomnessRequestId = some requestId)
    (hseeds : ∀ a, ((machine h).run w before).quorumSeed a = none)
    (hsubmitted : ((machine h).run w before).quorumSubmittedOracles.getD [] = []) :
    (∀ calls : List Invocation, (∀ i ∈ calls, isSubmission i.call = true) →
      QuorumOutcome h config requestId ((machine h).run w before) calls) ∧
    ∀ calls calls' : List Invocation, (∀ i ∈ calls, isSubmission i.call = true) →
      (∀ i ∈ calls', isSubmission i.call = true) →
      (accepted h ((machine h).run w before) calls).length = config.k →
      (accepted h ((machine h).run w before) calls).Perm
        (accepted h ((machine h).run w before) calls') →
      ∃ metadata metadata',
        ((machine h).run ((machine h).run w before) calls).randomnessSeed = some metadata ∧
        ((machine h).run ((machine h).run w before) calls').randomnessSeed = some metadata' ∧
        metadata.seed = metadata'.seed := by
  have hpos := (quorum_run hinit before hr hsource).1
  have hstart : Collecting h config requestId [] ((machine h).run w before) :=
    collecting_of_reachable hinit before hr hdrawing hsource hrequest
      (.nothing hsubmitted hseeds) (by simp) hpos
  refine ⟨fun calls hcalls => quorumOutcome_of_collecting hstart hcalls, ?_⟩
  intro calls calls' hcalls hcalls' hfull hperm
  have hfirst := quorumOutcome_of_collecting hstart hcalls
  have hlast := quorumOutcome_of_collecting hstart hcalls'
  obtain ⟨-, metadata, hstored, hseed, -⟩ := hfirst.finalized hfull
  obtain ⟨-, metadata', hstored', hseed', -⟩ := hlast.finalized (hperm.length_eq ▸ hfull)
  refine ⟨metadata, metadata', hstored, hstored', ?_⟩
  rw [hseed, hseed']
  exact aggregateQuorumSeeds_perm hxdr hfirst.once hperm

def twoOfThree : QuorumConfig := ⟨2, [Sample.treasury, Sample.admin, Sample.buyer]⟩

def quorumConfig (config : QuorumConfig) : RaffleConfig :=
  { Sample.config with randomnessSource := .quorum config }

def quorumHost : Host :=
  { Sample.host .ifElse with
    toXdr := fun
      | .address a => List.replicate a.id 0
      | _ => [] }

theorem quorumHost_initialised (config : QuorumConfig)
    (hok : (init quorumHost (Sample.ctx 0 0 []) (World.deployed Sample.holdings) Sample.factory
      Sample.admin Sample.creator (quorumConfig config)).isOk = true) :
    Initialised quorumHost (Sample.start .ifElse (quorumConfig config)) := by
  have hstart : Initialised (Sample.host .ifElse) (Sample.start .ifElse (quorumConfig config)) :=
    Sample.start_initialised hok
  obtain ⟨c, holdings, factory, admin, creator, stored, hinit⟩ := hstart
  exact ⟨c, holdings, factory, admin, creator, stored, hinit⟩

def awaiting (config : QuorumConfig) : World :=
  (machine quorumHost).run (Sample.start .ifElse (quorumConfig config)) Sample.awaitingRun

/-- One oracle votes twice, a stranger and a wrong request are turned away. -/
def votes : List Invocation :=
  [Sample.signed [Sample.treasury] 1001 4
      (.provideQuorumRandomness Sample.treasury 7 72340172838076673),
    Sample.signed [Sample.treasury] 1002 5
      (.provideQuorumRandomness Sample.treasury 8 72340172838076673),
    Sample.signed [Sample.creator] 1003 6
      (.provideQuorumRandomness Sample.creator 9 72340172838076673),
    Sample.signed [Sample.buyer] 1004 7 (.provideQuorumRandomness Sample.buyer 10 1),
    Sample.signed [Sample.buyer] 1005 8
      (.provideQuorumRandomness Sample.buyer 11 72340172838076673)]

theorem quorum_agreement_votes :
    accepted quorumHost (awaiting twoOfThree) votes =
      [(Sample.treasury, 7), (Sample.buyer, 11)] ∧
    QuorumOutcome quorumHost twoOfThree 72340172838076673 (awaiting twoOfThree) votes := by
  have hinit := quorumHost_initialised twoOfThree (by decide +kernel)
  have hxdr : ∀ a b : Address,
      quorumHost.toXdr (.address a) = quorumHost.toXdr (.address b) → a = b := by
    intro a b heq
    have hlength := congrArg List.length heq
    simp only [quorumHost, List.length_replicate] at hlength
    cases a
    cases b
    cases hlength
    rfl
  have hstate : ∃ r, r ∈ (awaiting twoOfThree).raffle ∧ r.status = .drawing ∧
      r.randomnessSource = .quorum twoOfThree := by
    decide +kernel
  obtain ⟨r, hr, hdrawing, hsource⟩ := hstate
  refine ⟨by decide +kernel, ?_⟩
  exact (quorum_agreement hinit Sample.awaitingRun hxdr hr hdrawing hsource (by decide +kernel)
    (fun _ => rfl) (by decide +kernel)).1 votes (by decide)

/-- Submissions are only stored while the raffle is drawing, below the
threshold and from registered oracles. -/
structure StoredQuorum (h : Host) (w : World) : Prop where
  books : Holds h (fun b => Lifecycle b ∧ DrawKeys b) w
  threshold : ∀ r config, w.raffle = some r → r.randomnessSource = .quorum config → 0 < config.k
  idle : ∀ r, w.raffle = some r → ¬begun r.status → Holding (records w) []
  drawing : ∀ r, w.raffle = some r → r.status = .drawing → ∃ pairs, Holding (records w) pairs ∧
    ∀ config, r.randomnessSource = .quorum config →
      (∀ pair ∈ pairs, pair.1 ∈ config.oracles) ∧ pairs.length < config.k

theorem provideQuorumRandomness_locked {oracle : Address} {seed submittedId : Nat}
    (hcall : i.call = .provideQuorumRandomness oracle seed submittedId)
    (hok : invoke h i w = .ok w') : w.drawingLock.getD false = true := by
  simp only [invoke, hcall, provideQuorumRandomness, except_bind_ok, ensure_ok,
    exists_const] at hok
  exact hok.1

inductive Gathers (w : World) (r : Raffle) (w' : World) (call : Call) : Prop
  | keep (hseeds : (records w').seeds = (records w).seeds)
      (hsubmitted : (records w').submitted = (records w).submitted)
      (hdraw : isDraw call = true → call = .finalizeRaffle ∧
          (w'.raffle = some (r.setStatus .failed) ∨ r.randomnessSource = .external) ∨
        call ≠ .finalizeRaffle ∧ w'.raffle = some (r.setStatus .cancelled))
  | poll (config : QuorumConfig) (hcall : call = .finalizeRaffle)
      (hsource : r.randomnessSource = .quorum config)
      (hdrawing : w'.raffle = some (r.setStatus .drawing))
      (hseeds : (records w').seeds = (records w).seeds)
      (hsubmitted : (records w').submitted = some [])
  | submit (config : QuorumConfig) (oracle : Address) (seed : Nat)
      (hcall : isSubmission call = true) (hsource : r.randomnessSource = .quorum config)
      (hrequest : w.randomnessRequestId ≠ none) (hnew : (records w).seeds oracle = none)
      (hsame : w'.raffle = some r)
      (hkeys : records w' = (records w).submit oracle seed)
  | clear (r' : Raffle) (hr' : w'.raffle = some r') (hfinalized : r'.status = .finalized)
      (hseeds : ∀ pairs, Holding (records w) pairs → ∀ a, (records w').seeds a = none)
      (hsubmitted : (records w').submitted = none)

theorem gathers_clear {s : Records} {seed : Nat} {contributions : Option (List (Address × Nat))}
    {call : Call} (hs : ∀ pairs, Holding (records w) pairs → ∃ pairs', Holding s pairs')
    (hd : Concludes s w r w' seed contributions) : Gathers w r w' call := by
  obtain ⟨metadata, winners, r', -, -, -, hkeys, hr', hfinalized, -⟩ := hd
  refine .clear r' hr' hfinalized (fun pairs hholding a => ?_) (by rw [hkeys]; rfl)
  obtain ⟨pairs', hholding'⟩ := hs pairs hholding
  rw [hkeys]
  exact hholding'.conclude metadata a

theorem gathers_same {call : Call} {s : Records} (hkeys : records w' = s)
    (hseeds : s.seeds = (records w).seeds) (hsubmitted : s.submitted = (records w).submitted)
    (hcall : isDraw call = false) : Gathers w r w' call :=
  .keep (hkeys ▸ hseeds) (hkeys ▸ hsubmitted) fun hdraw => by rw [hcall] at hdraw; cases hdraw

theorem stores_gathers {c : Ctx} {call : Call} (hs : call.Stores h c w r w')
    (hwipe : call ≠ .wipeStorage) : Gathers w r w' call := by
  cases call with
  | wipeStorage => exact absurd rfl hwipe
  | buyTickets buyer quantity | buyTicketsFor buyer recipient quantity =>
    refine gathers_same hs.2 ?_ ?_ rfl <;> split <;> rfl
  | finalizeRaffle =>
    rcases hs with ⟨hfailed, hkeys⟩ | hs
    · exact .keep (by rw [hkeys]) (by rw [hkeys]) fun _ => .inl ⟨rfl, .inl hfailed⟩
    · split at hs
      next hsource =>
        exact .keep (by rw [hs.2]; rfl) (by rw [hs.2]; rfl) fun _ => .inl ⟨rfl, .inr hsource⟩
      next config hsource =>
        exact .poll config rfl hsource hs.1 (by rw [hs.2]; rfl) (by rw [hs.2])
      next =>
        obtain ⟨seed, hdraw⟩ := hs
        exact gathers_clear (fun pairs hholding => ⟨pairs, hholding⟩) hdraw
  | provideRandomness seed publicKey proof requestId =>
    exact gathers_clear (fun pairs hholding => ⟨pairs, hholding⟩) hs
  | provideQuorumRandomness oracle seed requestId =>
    obtain ⟨config, hsource, -, -, hrequest, hnew, ⟨-, hkeys, hsame, -⟩ | ⟨-, hdraw⟩⟩ := hs
    · exact .submit config oracle seed rfl hsource (by rw [hrequest]; simp) hnew hsame hkeys
    · exact gathers_clear (fun pairs hholding => ⟨_, hholding.submit seed hnew⟩) hdraw
  | triggerRandomnessFallback caller doRefund =>
    rcases hs with ⟨hcancelled, hkeys⟩ | ⟨seed, hdraw⟩
    · exact .keep (by rw [hkeys]) (by rw [hkeys]) fun _ => .inr ⟨by simp, hcancelled⟩
    · exact gathers_clear (fun pairs hholding => ⟨pairs, hholding⟩) hdraw
  | cancelRaffle reason =>
    obtain ⟨cancelAt, hkeys⟩ := cancelling_kept hs
    exact gathers_same hkeys rfl rfl rfl
  | executeAdminCancel => exact gathers_same hs.2 rfl rfl rfl
  | _ => exact gathers_same hs rfl rfl rfl

/-- Until the draw is over only submissions and the start of a draw write the
keys of a quorum. -/
theorem stores_quorum {c : Ctx} {call : Call} (hs : call.Stores h c w r w')
    (hr' : w'.raffle = some r') (hopen : ¬ended r'.status)
    (hcall : isSubmission call = false) (hwipe : call ≠ .wipeStorage) :
    (records w').seeds = (records w).seeds ∧
      ((records w').submitted = (records w).submitted ∨
        call = .finalizeRaffle ∧ (records w').submitted = some []) := by
  cases stores_gathers hs hwipe with
  | keep hseeds hsubmitted => exact ⟨hseeds, .inl hsubmitted⟩
  | poll config hfinalize hsource hdrawing hseeds hsubmitted =>
    exact ⟨hseeds, .inr ⟨hfinalize, hsubmitted⟩⟩
  | submit config oracle seed hsubmission =>
    rw [hcall] at hsubmission
    cases hsubmission
  | clear r₁ hr₁ hfinalized =>
    rw [hr'] at hr₁
    cases hr₁
    exact absurd (by simp [ended, begun, hfinalized]) hopen

theorem submission_begun (hw : Holds h (fun b => Lifecycle b ∧ DrawKeys b) w)
    (hr : w.raffle = some r) (hcall : isSubmission i.call = true)
    (hok : invoke h i w = .ok w') : begun r.status := by
  obtain ⟨oracle, seed, submittedId, hsubmission⟩ := isSubmission_iff hcall
  have hlock : (view h w r).lock = true := provideQuorumRandomness_locked hsubmission hok
  by_contra hnot
  have hidle := ((hw.view hr).2.idle (by unfold begun at hnot; tauto)).1
  rw [hlock] at hidle
  cases hidle

theorem holding_restart {s t : Records} (hs : Holding s []) (hseeds : t.seeds = s.seeds)
    (hsubmitted : t.submitted = s.submitted ∨ t.submitted = some []) : Holding t [] := by
  rcases hsubmitted with hsame | hreset
  · exact hs.congr hseeds (by rw [hsame])
  · exact hs.congr hseeds (by rw [hreset, hs.order]; rfl)

theorem submits_holding {c : Ctx} {oracle : Address} {seed submittedId : Nat}
    {pairs : List (Address × Nat)} (hs : Submits h c w r w' oracle seed submittedId)
    (hr' : w'.raffle = some r') (hdrawing : r'.status = .drawing)
    (hholding : Holding (records w) pairs)
    (hpairs : ∀ config, r.randomnessSource = .quorum config →
      (∀ pair ∈ pairs, pair.1 ∈ config.oracles) ∧ pairs.length < config.k) :
    Holding (records w') (pairs ++ [(oracle, seed)]) ∧
      ∀ config, r.randomnessSource = .quorum config →
        (∀ pair ∈ pairs ++ [(oracle, seed)], pair.1 ∈ config.oracles) ∧
          (pairs ++ [(oracle, seed)]).length < config.k := by
  obtain ⟨config, hconfig, horacle, -, -, hnew, ⟨hshort, hkeys, -⟩ | ⟨-, hdraw⟩⟩ := hs
  · refine ⟨hkeys ▸ hholding.submit seed hnew, fun config' hconfig' => ?_⟩
    rw [hconfig] at hconfig'
    cases hconfig'
    rw [hholding.order, List.length_map] at hshort
    refine ⟨registered_append seed (hpairs config hconfig).1 horacle, ?_⟩
    rw [List.length_append]
    exact hshort
  · rw [concludes_finalized hr' hdraw] at hdrawing
    cases hdrawing

theorem storedQuorum_step (hw : StoredQuorum h w) (hok : invoke h i w = .ok w') :
    StoredQuorum h w' := by
  obtain ⟨r, r', acts, hr, hr', -, hyields, hpath⟩ := committed_path hw.books.left hok
  have hstores := invoke_stores hr hok
  have hhops := Hops.path hpath
  have hsource := fixed_field Raffle.randomnessSource (fun _ => rfl) (fixed_path hpath)
  have hthreshold : ∀ config, r'.randomnessSource = .quorum config → 0 < config.k := by
    intro config hconfig
    exact hw.threshold r config hr (hsource.symm.trans hconfig)
  have hother : ¬ended r'.status → isSubmission i.call = false →
      (records w').seeds = (records w).seeds ∧ ((records w').submitted = (records w).submitted ∨
        i.call = .finalizeRaffle ∧ (records w').submitted = some []) := by
    intro hopen hcall
    refine stores_quorum hstores hr' hopen hcall fun hwipe => ?_
    rw [hwipe] at hstores
    exact hopen (hhops.stays ended ended_closed (ended_of_terminal hstores.1))
  refine ⟨hw.books.step (fun _ _ _ hl hk hm => hk.move hl hm) hok, ?_,
    forall_stored hr' fun hidle => ?_, forall_stored hr' fun hdrawing => ?_⟩
  · intro r₁ config hr₁
    rw [hr'] at hr₁
    cases hr₁
    exact hthreshold config
  · have hbefore : ¬begun r.status := fun hs => hidle (hhops.stays begun begun_closed hs)
    have hcall : isSubmission i.call = false :=
      Bool.eq_false_iff.mpr fun hsubmission =>
        hbefore (submission_begun hw.books hr hsubmission hok)
    obtain ⟨hseeds, hkeys⟩ := hother (fun hs => hidle hs.1) hcall
    exact holding_restart (hw.idle r hr hbefore) hseeds (hkeys.imp_right And.right)
  · have hopen : ¬ended r'.status := fun hs => hs.2 hdrawing
    have hbefore : r.status = .drawing ∨ ¬begun r.status := by
      by_contra hnot
      exact hopen (hhops.stays ended ended_closed (by unfold ended; tauto))
    rcases Bool.eq_false_or_eq_true (isSubmission i.call) with hsubmission | hcall
    · have hbegun := submission_begun hw.books hr hsubmission hok
      obtain ⟨pairs, hholding, hpairs⟩ :=
        hw.drawing r hr (hbefore.resolve_right (not_not.mpr hbegun))
      obtain ⟨oracle, seed, submittedId, hcall⟩ := isSubmission_iff hsubmission
      rw [hcall] at hstores
      obtain ⟨hholding', hpairs'⟩ := submits_holding hstores hr' hdrawing hholding hpairs
      exact ⟨_, hholding', fun config hconfig => hpairs' config (hsource.symm.trans hconfig)⟩
    · obtain ⟨hseeds, hkeys⟩ := hother hopen hcall
      rcases hbefore with hdrawing' | hidle
      · obtain ⟨pairs, hholding, hpairs⟩ := hw.drawing r hr hdrawing'
        rcases hkeys with hsame | ⟨hfinalize, -⟩
        · refine ⟨pairs, hholding.congr hseeds (by rw [hsame]), fun config hconfig => ?_⟩
          exact hpairs config (hsource.symm.trans hconfig)
        · rw [hfinalize] at hyields
          have hactive : r.status = .active := finalizeRaffle_active hyields hpath
          rw [hactive] at hdrawing'
          cases hdrawing'
      · refine ⟨[], holding_restart (hw.idle r hr hidle) hseeds (hkeys.imp_right And.right), ?_⟩
        exact fun config hconfig => ⟨by simp, hthreshold config hconfig⟩

theorem storedQuorum_always (hinit : Initialised h w) (calls : List Invocation) :
    (machine h).Always (StoredQuorum h) w calls := by
  have hfresh := initialised_fresh hinit
  obtain ⟨_, hkeys⟩ := initialised_records hinit
  refine Machine.always_of_step (StoredQuorum h) (fun w i w' hw hok => storedQuorum_step hw hok)
    ⟨hfresh.mono fun _ hf => ⟨.of_fresh hf, .of_fresh hf⟩, ?_, ?_, ?_⟩ calls
  · intro r config hr hsource
    exact (initialised_quorum hinit hr hsource).1
  · intro r hr _
    apply Holding.nothing <;> simp [hkeys]
  · intro r hr hdrawing
    have hpending : r.status = .pendingPrize := (hfresh.view hr).pending
    rw [hpending] at hdrawing
    cases hdrawing

def oracleCtx (oracle : Address) : Ctx := ⟨0, 0, [oracle], ⟨some false, true, true, true⟩⟩

def submission (requestId : Nat) (oracle : Address) : Invocation :=
  ⟨oracleCtx oracle, .provideQuorumRandomness oracle 0 requestId⟩

theorem collecting_accepts (hw : Collecting h config requestId pairs w) {oracle : Address}
    (horacle : oracle ∈ config.oracles) (hself : oracle ≠ h.self)
    (hnew : oracle ∉ pairs.map Prod.fst)
    (htiers : ∀ r, w.raffle = some r → r.prizes.length ≤ r.ticketsSold) :
    ∃ w', invoke h (submission requestId oracle) w = .ok w' := by
  obtain ⟨r, hr, hdrawing, hsource⟩ := hw.drawing
  obtain ⟨hlife, hregistry⟩ := hw.books.view hr
  have hunseen : w.quorumSeed oracle = none := by
    cases hseed : w.quorumSeed oracle with
    | none => rfl
    | some seed =>
      exact absurd (List.mem_map_of_mem ((hw.holding.stored oracle seed).mp hseed)) hnew
  have hsupply : r.ticketsSold < 2 ^ 64 := by
    have hle : r.ticketsSold ≤ r.maxTickets := hlife.supply
    have hmax : r.maxTickets ≤ 100000 := hlife.terms.maxTickets_le
    omega
  have hsold : 0 < r.ticketsSold :=
    (List.length_pos_iff.mpr hlife.terms.prizes_ne).trans_le (htiers r hr)
  have hrecorded := (hregistry.complete
    (show r.status.isTerminal = false by rw [hdrawing]; rfl)).recorded
  simp only [submission, oracleCtx, invoke, provideQuorumRandomness, except_bind_ok, ensure_ok,
    requireAuth_ok, readRaffle_ok, hr, Option.some.injEq, exists_eq_left', okOr_ok, hw.request,
    hw.locked, hsource, horacle, hunseen, hself, List.mem_singleton, Option.isNone_none, ne_eq,
    not_false_eq_true, and_self, true_and, exists_const]
  split
  next =>
    exact doFinalizeWithSeed_some _ _ hdrawing hsold (htiers r hr) hrecorded hsupply
      (aggregateQuorumSeeds_lt _) rfl
  next => exact ⟨_, rfl⟩

theorem exists_unsubmitted (hshort : pairs.length < config.oracles.dedup.length) :
    ∃ oracle ∈ config.oracles, oracle ∉ pairs.map Prod.fst := by
  by_contra hnone
  have hsub : config.oracles.dedup ⊆ pairs.map Prod.fst := by
    intro oracle horacle
    by_contra hnot
    exact hnone ⟨oracle, List.mem_dedup.mp horacle, hnot⟩
  have hle := ((List.nodup_dedup config.oracles).subperm hsub).length_le
  rw [List.length_map] at hle
  omega

/-- Some submissions that registered oracles sign finalize the raffle. -/
def CanReachQuorum (h : Host) (config : QuorumConfig) (w : World) : Prop :=
  ∃ calls : List Invocation,
    (∀ i ∈ calls, ∃ oracle seed requestId,
      i.call = .provideQuorumRandomness oracle seed requestId ∧
        oracle ∈ config.oracles ∧ oracle ∈ i.ctx.auths) ∧
    StatusIn (· = .finalized) ((machine h).run w calls)

theorem tiers_step (hw : Holds h Lifecycle w)
    (htiers : ∀ r, w.raffle = some r → r.prizes.length ≤ r.ticketsSold)
    (hok : invoke h i w = .ok w') :
    ∀ r, w'.raffle = some r → r.prizes.length ≤ r.ticketsSold := by
  obtain ⟨r, r', acts, hr, hr', -, -, hpath⟩ := committed_path hw hok
  refine forall_stored hr' ?_
  have hprizes : r'.prizes = r.prizes :=
    fixed_field Raffle.prizes (fun _ => rfl) (fixed_path hpath)
  have hgrown : r.ticketsSold ≤ r'.ticketsSold := ticketsSold_le_path hpath
  rw [hprizes]
  exact (htiers r hr).trans hgrown

theorem reaches_after {oracle : Address} (horacle : oracle ∈ config.oracles)
    (hok : invoke h (submission requestId oracle) w = .ok w')
    (hreaches : CanReachQuorum h config w') : CanReachQuorum h config w := by
  obtain ⟨calls, hcalls, hfinalized⟩ := hreaches
  refine ⟨submission requestId oracle :: calls, fun i hi => ?_, ?_⟩
  · rcases List.mem_cons.mp hi with rfl | hi
    · exact ⟨oracle, 0, requestId, rfl, horacle, List.mem_singleton_self _⟩
    · exact hcalls i hi
  · have hstep : (machine h).step (submission requestId oracle) w = .ok w' := hok
    rw [Machine.run_cons, (machine h).exec_ok hstep]
    exact hfinalized

theorem collecting_reaches (hself : h.self ∉ config.oracles)
    (hdistinct : config.k ≤ config.oracles.dedup.length) (missing : Nat)
    (hw : Collecting h config requestId pairs w)
    (htiers : ∀ r, w.raffle = some r → r.prizes.length ≤ r.ticketsSold)
    (hmissing : config.k ≤ pairs.length + missing) : CanReachQuorum h config w := by
  induction missing generalizing w pairs with
  | zero => exact absurd hw.short (by omega)
  | succ missing ih =>
    have hshort := hw.short
    obtain ⟨oracle, horacle, hnew⟩ : ∃ oracle ∈ config.oracles, oracle ∉ pairs.map Prod.fst :=
      exists_unsubmitted (by omega)
    obtain ⟨w', hok⟩ :=
      collecting_accepts hw horacle (fun heq => hself (heq ▸ horacle)) hnew htiers
    apply reaches_after horacle hok
    rcases (hw.step rfl hok).2 with hnext | hdone
    · have htiers' := tiers_step hw.books.left htiers hok
      refine ih hnext htiers' ?_
      rw [List.length_append]
      exact hmissing.trans (by simp only [List.length_cons, List.length_nil]; omega)
    · exact ⟨[], by simp, hdone.finalized⟩

theorem Concluded.distinct_le (hw : Concluded h config pairs w) :
    config.k ≤ config.oracles.dedup.length := by
  have hsub : pairs.map Prod.fst ⊆ config.oracles.dedup := by
    intro oracle horacle
    obtain ⟨pair, hpair, rfl⟩ := List.mem_map.mp horacle
    exact List.mem_dedup.mpr (hw.registered pair hpair)
  have hle := (hw.distinct.subperm hsub).length_le
  rw [List.length_map, hw.full] at hle
  exact hle

theorem collecting_reaches_distinct (hw : Collecting h config requestId pairs w)
    (hreaches : CanReachQuorum h config w) : config.k ≤ config.oracles.dedup.length := by
  obtain ⟨calls, hcalls, hfinalized⟩ := hreaches
  have hsubmissions : ∀ i ∈ calls, isSubmission i.call = true := by
    intro i hi
    obtain ⟨oracle, seed, submittedId, hcall, -⟩ := hcalls i hi
    rw [hcall]
    rfl
  rcases (collecting_run hw hsubmissions).1 with hopen | hdone
  · obtain ⟨r₁, hr₁, hdrawing₁, -⟩ := hopen.drawing
    have hfinalized₁ : r₁.status = .finalized := hfinalized.stored hr₁
    rw [hdrawing₁] at hfinalized₁
    cases hfinalized₁
  · exact Concluded.distinct_le hdone

theorem exists_collecting (hinit : Initialised h w) (before : List Invocation)
    (hr : ((machine h).run w before).raffle = some r) (hdrawing : r.status = .drawing)
    (hsource : r.randomnessSource = .quorum config)
    (hpending : RequestPending ((machine h).run w before) r) :
    ∃ requestId pairs, Collecting h config requestId pairs ((machine h).run w before) := by
  obtain ⟨requestId, hrequest⟩ := Option.isSome_iff_exists.mp hpending.2.1
  obtain ⟨pairs, hholding, hpairs⟩ :=
    (storedQuorum_always hinit before).last.drawing r hr hdrawing
  obtain ⟨hregistered, hshort⟩ := hpairs config hsource
  exact ⟨requestId, pairs, collecting_of_reachable hinit before hr hdrawing hsource hrequest
    hholding hregistered hshort⟩

/-- A reachable quorum draw that waits for its oracles can be completed by them
exactly when the configuration names at least `k` distinct ones. -/
theorem canReachQuorum_iff (hinit : Initialised h w) (before : List Invocation)
    (hr : ((machine h).run w before).raffle = some r) (hdrawing : r.status = .drawing)
    (hsource : r.randomnessSource = .quorum config)
    (hpending : RequestPending ((machine h).run w before) r)
    (htiers : r.prizes.length ≤ r.ticketsSold) :
    CanReachQuorum h config ((machine h).run w before) ↔
      config.k ≤ config.oracles.dedup.length := by
  obtain ⟨requestId, pairs, hstart⟩ := exists_collecting hinit before hr hdrawing hsource hpending
  constructor
  · exact collecting_reaches_distinct hstart
  · intro hdistinct
    have hself := (quorum_run hinit before hr hsource).2.2
    exact collecting_reaches hself hdistinct config.k hstart (forall_stored hr htiers) (by omega)

theorem canReachQuorum_twoOfThree : CanReachQuorum quorumHost twoOfThree (awaiting twoOfThree) := by
  have hinit := quorumHost_initialised twoOfThree (by decide +kernel)
  have hstate : ∃ r, r ∈ (awaiting twoOfThree).raffle ∧ r.status = .drawing ∧
      r.randomnessSource = .quorum twoOfThree ∧ r.prizes.length ≤ r.ticketsSold := by
    decide +kernel
  obtain ⟨r, hr, hdrawing, hsource, htiers⟩ := hstate
  have hpending : RequestPending (awaiting twoOfThree) r :=
    ⟨by decide +kernel, by decide +kernel, .inr ⟨twoOfThree, hsource⟩⟩
  exact (canReachQuorum_iff hinit Sample.awaitingRun hr hdrawing hsource hpending htiers).mpr
    (by decide)

def listedTwice : QuorumConfig := ⟨2, [Sample.treasury, Sample.treasury]⟩

/-- The configuration is accepted and the draw begins, but no submissions of
its oracles end it. -/
theorem listedTwice_stuck :
    Initialised quorumHost (Sample.start .ifElse (quorumConfig listedTwice)) ∧
    ∃ r, (awaiting listedTwice).raffle = some r ∧ r.status = .drawing ∧
      r.randomnessSource = .quorum listedTwice ∧ RequestPending (awaiting listedTwice) r ∧
      r.prizes.length ≤ r.ticketsSold ∧
      ¬CanReachQuorum quorumHost listedTwice (awaiting listedTwice) := by
  have hinit := quorumHost_initialised listedTwice (by decide +kernel)
  have hstate : ∃ r, r ∈ (awaiting listedTwice).raffle ∧ r.status = .drawing ∧
      r.randomnessSource = .quorum listedTwice ∧ r.prizes.length ≤ r.ticketsSold := by
    decide +kernel
  obtain ⟨r, hr, hdrawing, hsource, htiers⟩ := hstate
  have hpending : RequestPending (awaiting listedTwice) r :=
    ⟨by decide +kernel, by decide +kernel, .inr ⟨listedTwice, hsource⟩⟩
  obtain ⟨requestId, pairs, hstart⟩ :=
    exists_collecting hinit Sample.awaitingRun hr hdrawing hsource hpending
  refine ⟨hinit, r, hr, hdrawing, hsource, hpending, htiers, fun hreaches => ?_⟩
  exact absurd (collecting_reaches_distinct hstart hreaches) (by decide)

end TikkaRaffle.Properties
