import TikkaRaffle.Escrow.Margin
import TikkaRaffle.Escrow.Terms

/-! The seed of a commit-reveal draw. It is a function of the commits that were
accepted while the raffle was active, whatever the order they came in and
whatever was refused. -/
namespace TikkaRaffle.Properties

open TikkaRaffle.Lib TikkaRaffle.Instance TikkaRaffle.Escrow

def commitOf : Call → List (Nat × Digest)
  | .submitCommit ticketId hash => [(ticketId, hash)]
  | _ => []

def acceptedCommits (h : Host) (w : World) (calls : List Invocation) : List (Nat × Digest) :=
  (machine h).journal (fun _ i _ => commitOf i.call) w calls

/-- The run leads to a `finalize_raffle` that draws a commit-reveal raffle with
`sold` tickets and stores `seed`. -/
def Reveals (h : Host) (start : World) (calls : List Invocation) (sold seed : Nat) : Prop :=
  ∃ c r w', ((machine h).run start calls).raffle = some r ∧
    r.randomnessSource = .commitReveal ∧ r.ticketsSold = sold ∧
    finalizeRaffle h c ((machine h).run start calls) = .ok w' ∧ StatusIn (· = .finalized) w' ∧
    w'.randomnessSeed.map FairnessMetadata.seed = some seed

/-- No commit is accepted and none changes; the wipe may remove it. -/
def CommitsKept (w : World) (i : Invocation) (w' : World) : Prop :=
  (∀ ticketId hash, i.call ≠ .submitCommit ticketId hash) ∧
    ∀ ticketId, w'.commitEntry ticketId = w.commitEntry ticketId ∨
      i.call = .wipeStorage ∧ w'.commitEntry ticketId = none

variable {h : Host} {c : Ctx} {w w' : World} {r : Raffle} {i : Invocation}
  {log : List (Nat × Digest)}

structure Entered (log : List (Nat × Digest)) (w : World) (sold : Nat) : Prop where
  entries : ∀ ticketId hash,
    (w.commitEntry ticketId).map CommitRevealEntry.hash = some hash ↔ (ticketId, hash) ∈ log
  sold : ∀ ticketId, w.commitEntry ticketId ≠ none → 1 ≤ ticketId ∧ ticketId ≤ sold

/-- Until the draw begins the entries are the accepted commits. -/
structure Recorded (h : Host) (log : List (Nat × Digest)) (w : World) : Prop where
  books : Holds h (fun b => Lifecycle b ∧ Registry b) w
  entered : ∀ r, w.raffle = some r → ¬begun r.status → Entered log w r.ticketsSold

theorem Entered.commit {sold ticketId : Nat} {hash : Digest} {owner : Address}
    (he : Entered log w sold) (hnone : w.commitEntry ticketId = none)
    (hsold : 1 ≤ ticketId ∧ ticketId ≤ sold)
    (hentry : w'.commitEntry =
      fun i => if i = ticketId then some ⟨owner, hash⟩ else w.commitEntry i) :
    Entered (log ++ [(ticketId, hash)]) w' sold := by
  refine ⟨fun i other => ?_, fun i hi => ?_⟩
  · have hbefore := he.entries i other
    rw [hentry, List.mem_append, List.mem_singleton, Prod.mk.injEq]
    by_cases hid : i = ticketId
    · subst hid
      rw [hnone] at hbefore
      simp only [Option.map_none, reduceCtorEq, false_iff] at hbefore
      simp [hbefore, eq_comm]
    · simp [hid, hbefore]
  · by_cases hid : i = ticketId
    · rw [hid]
      exact hsold
    · rw [hentry] at hi
      simp only [if_neg hid] at hi
      exact he.sold i hi

theorem Entered.congr {sold sold' : Nat} (he : Entered log w sold)
    (hentry : w'.commitEntry = w.commitEntry) (hle : sold ≤ sold') : Entered log w' sold' where
  entries := by
    rw [hentry]
    exact he.entries
  sold ticketId hsome := by
    rw [hentry] at hsome
    exact (he.sold ticketId hsome).imp_right fun hold => hold.trans hle

theorem recorded_step (hw : Recorded h log w) (hok : invoke h i w = .ok w') :
    Recorded h (log ++ commitOf i.call) w' := by
  obtain ⟨r, r', acts, hr, hr', -, -, hpath⟩ := committed_path hw.books.left hok
  have hgrown : r.ticketsSold ≤ r'.ticketsSold := ticketsSold_le_path hpath
  refine ⟨hw.books.step (fun _ _ _ _ hk hm => hk.move hm) hok, forall_stored hr' fun hidle => ?_⟩
  have hbefore : ¬begun r.status := fun hs => hidle ((Hops.path hpath).stays begun begun_closed hs)
  have hentered := hw.entered r hr hbefore
  have hcommits := invoke_commits hr hok
  cases hcall : i.call with
  | submitCommit ticketId hash =>
    rw [hcall] at hcommits
    obtain ⟨-, hnone, ticket, hticket, hentry⟩ := hcommits
    have hsold := ((hw.books.view hr).2.sold ticketId ticket hticket).1
    exact (hentered.commit hnone hsold hentry).congr rfl hgrown
  | wipeStorage =>
    rw [hcall] at hcommits
    exact absurd (ended_of_terminal hcommits.1).1 hbefore
  | _ =>
    rw [hcall] at hcommits
    change Entered (log ++ []) w' r'.ticketsSold
    rw [List.append_nil]
    exact hentered.congr hcommits hgrown

theorem recorded_run (hinit : Initialised h w) (calls : List Invocation) :
    Recorded h (acceptedCommits h w calls) ((machine h).run w calls) := by
  have hnone := initialised_commits hinit
  have hstart : Recorded h [] w := by
    refine ⟨(always_of_fresh hinit (fun _ => Registry.of_fresh)
      (fun _ _ _ _ hk hm => hk.move hm) []).last, fun r _ _ => ⟨fun i hash => ?_, fun i hi => ?_⟩⟩
    · simp [hnone]
    · rw [hnone] at hi
      exact absurd rfl hi
  exact Machine.journal_of_step (Recorded h) (fun _ _ _ _ hw hok => recorded_step hw hok) hstart
    calls

/-- Entries with the same hashes are combined to the same bytes. -/
theorem combinedCommits_congr {w₁ w₂ : World} {total : Nat}
    (hsame : ∀ ticketId, (w₁.commitEntry ticketId).map CommitRevealEntry.hash =
      (w₂.commitEntry ticketId).map CommitRevealEntry.hash) :
    combinedCommits w₁ total = combinedCommits w₂ total := by
  unfold combinedCommits
  simp only [hsame]

theorem combinedCommits_ne_nil {total ticketId : Nat} {hash : Digest}
    (hentry : (w.commitEntry ticketId).map CommitRevealEntry.hash = some hash)
    (hlow : 1 ≤ ticketId) (hhigh : ticketId ≤ total) : combinedCommits w total ≠ [] := by
  have hmem : hash ∈ combinedCommits w total :=
    List.mem_filterMap.mpr ⟨ticketId, List.mem_range'_1.mpr ⟨hlow, by omega⟩, hentry⟩
  exact List.ne_nil_of_mem hmem

theorem finalizeRaffle_seed (hr : w.raffle = some r) (hsource : r.randomnessSource = .commitReveal)
    (hsome : combinedCommits w r.ticketsSold ≠ []) (hok : finalizeRaffle h c w = .ok w')
    (hfinalized : StatusIn (· = .finalized) w') :
    w'.randomnessSeed.map FairnessMetadata.seed =
      some (seedOfDigest (h.sha256 ((combinedCommits w r.ticketsSold).flatMap Vector.toList))) := by
  obtain ⟨-, ⟨-, hfail⟩ | ⟨-, w₁, hdrawing, hproceeds⟩⟩ := finalizeRaffle_cases hr hok
  · obtain ⟨-, rfl⟩ := failRaffle_ok.mp hfail
    obtain ⟨_, hfailed, hstatus⟩ := hfinalized
    cases hfailed
    cases hstatus
  obtain ⟨-, -, rfl, -⟩ := transitionToDrawing_ok.mp hdrawing
  cases hproceeds with
  | request oracles hother | poll config hother =>
    rw [Raffle.setStatus_randomnessSource, hsource] at hother
    cases hother
  | draw _ hdraw =>
    obtain ⟨metadata, winners, r', -, hseed, -, hstored, -⟩ := doFinalizeWithSeed_concludes hdraw
    have hfairness : w'.randomnessSeed = some metadata := congrArg Records.fairness hstored
    rw [hfairness, Option.map_some, hseed]
    exact congrArg some (if_pos ⟨hsource, hsome⟩)

theorem commits_of_begun (hr : w.raffle = some r) (hbegun : begun r.status)
    (hok : invoke h i w = .ok w') : CommitsKept w i w' := by
  have hcommits := invoke_commits hr hok
  cases hcall : i.call with
  | submitCommit ticketId hash =>
    rw [hcall] at hcommits
    exact absurd hcommits.1 hbegun.2
  | wipeStorage =>
    rw [hcall] at hcommits
    refine ⟨fun _ _ hcommit => (by rw [hcall] at hcommit; cases hcommit), fun ticketId => ?_⟩
    rw [hcommits.2]
    by_cases hsold : 1 ≤ ticketId ∧ ticketId ≤ r.ticketsSold
    · exact .inr ⟨hcall, if_pos hsold⟩
    · exact .inl (if_neg hsold)
  | _ =>
    rw [hcall] at hcommits
    exact ⟨fun _ _ hcommit => (by rw [hcall] at hcommit; cases hcommit),
      fun ticketId => .inl (congrFun hcommits ticketId)⟩

/-- After the draw has begun the commit window is closed. -/
theorem commits_kept (hinit : Initialised h w) (before later : List Invocation)
    (hbegun : StatusIn begun ((machine h).run w before)) :
    (machine h).Each CommitsKept ((machine h).run w before) later := by
  refine Machine.each_of_step (fun w => Holds h Lifecycle w ∧ StatusIn begun w)
    (fun _ _ _ hw hok => ⟨lifecycle_step hw.1 hok, hw.2.step begun_closed hw.1 hok⟩)
    (fun _ _ _ hw hok => ?_) ⟨(lifecycle_always hinit before).last, hbegun⟩ later
  obtain ⟨r, hr, hs⟩ := hw.2
  exact commits_of_begun hr hs hok

theorem reveals_seed (hinit : Initialised h w) {calls : List Invocation} {sold seed : Nat}
    (hreveals : Reveals h w calls sold seed) (hsome : acceptedCommits h w calls ≠ []) :
    Entered (acceptedCommits h w calls) ((machine h).run w calls) sold ∧
      seed = seedOfDigest (h.sha256
        ((combinedCommits ((machine h).run w calls) sold).flatMap Vector.toList)) := by
  obtain ⟨c, r, w', hr, hsource, rfl, hok, hfinalized, hseed⟩ := hreveals
  have hrecorded := recorded_run hinit calls
  obtain ⟨r₁, r', acts, hr₁, -, -, hyields, hpath⟩ :=
    committed_path (i := ⟨c, .finalizeRaffle⟩) hrecorded.books.left hok
  rw [hr] at hr₁
  cases hr₁
  have hactive : r.status = .active := finalizeRaffle_active hyields hpath
  have hentered := hrecorded.entered r hr fun hs => hs.2 hactive
  refine ⟨hentered, ?_⟩
  obtain ⟨⟨ticketId, hash⟩, hmem⟩ := List.exists_mem_of_ne_nil _ hsome
  have hentry := (hentered.entries ticketId hash).mpr hmem
  have hsold := hentered.sold ticketId fun hnone => by rw [hnone] at hentry; cases hentry
  have hstored := finalizeRaffle_seed hr hsource (combinedCommits_ne_nil hentry hsold.1 hsold.2)
    hok hfinalized
  rw [hstored] at hseed
  exact (Option.some.inj hseed).symm

/-- Whatever the order of purchases and commits, and whatever was refused, the
same accepted commits give the same seed; the window closes with the sale. -/
theorem commits_fix_seed {start₁ start₂ : World} (hinit₁ : Initialised h start₁)
    (hinit₂ : Initialised h start₂) :
    (∀ calls₁ calls₂ sold seed₁ seed₂, Reveals h start₁ calls₁ sold seed₁ →
      Reveals h start₂ calls₂ sold seed₂ → acceptedCommits h start₁ calls₁ ≠ [] →
      (∀ commit, commit ∈ acceptedCommits h start₁ calls₁ ↔
        commit ∈ acceptedCommits h start₂ calls₂) → seed₁ = seed₂) ∧
    ∀ before later, StatusIn begun ((machine h).run start₁ before) →
      (machine h).Each CommitsKept ((machine h).run start₁ before) later := by
  refine ⟨fun calls₁ calls₂ sold seed₁ seed₂ hreveals₁ hreveals₂ hsome hsame => ?_,
    fun before later hbegun => commits_kept hinit₁ before later hbegun⟩
  have hsome₂ : acceptedCommits h start₂ calls₂ ≠ [] := by
    obtain ⟨commit, hmem⟩ := List.exists_mem_of_ne_nil _ hsome
    exact List.ne_nil_of_mem ((hsame commit).mp hmem)
  obtain ⟨hentered₁, rfl⟩ := reveals_seed hinit₁ hreveals₁ hsome
  obtain ⟨hentered₂, rfl⟩ := reveals_seed hinit₂ hreveals₂ hsome₂
  rw [combinedCommits_congr fun ticketId => Option.ext fun hash => ?_]
  rw [hentered₁.entries, hentered₂.entries]
  exact hsame (ticketId, hash)

def commitConfig : RaffleConfig :=
  { Sample.config with randomnessSource := .commitReveal, oracleAddress := none }

def commitHash (byte : UInt8) : Digest := Vector.replicate 32 byte

def orderedRun : List Invocation :=
  [Sample.signed [Sample.creator] 1 1 .depositPrize,
    Sample.signed [Sample.buyer] 2 2 (.buyTickets Sample.buyer 2),
    Sample.signed [Sample.buyer] 3 3 (.submitCommit 1 (commitHash 7)),
    Sample.signed [Sample.buyer] 4 4 (.submitCommit 2 (commitHash 8))]

/-- One ticket after the other, the commits the other way round, and between
them one for an unknown ticket and a second one for a ticket. -/
def tangledRun : List Invocation :=
  [Sample.signed [Sample.creator] 1 1 .depositPrize,
    Sample.signed [Sample.buyer] 2 2 (.buyTickets Sample.buyer 1),
    Sample.signed [Sample.buyer] 3 3 (.submitCommit 2 (commitHash 9)),
    Sample.signed [Sample.buyer] 4 4 (.buyTickets Sample.buyer 1),
    Sample.signed [Sample.buyer] 5 5 (.submitCommit 2 (commitHash 8)),
    Sample.signed [Sample.buyer] 6 6 (.submitCommit 2 (commitHash 9)),
    Sample.signed [Sample.buyer] 7 7 (.submitCommit 1 (commitHash 7))]

def revealed (calls : List Invocation) : World :=
  Sample.after .ifElse commitConfig
    (calls ++ [Sample.signed [Sample.creator] 1000 9 .finalizeRaffle])

theorem reveals_of_sample {calls : List Invocation} {seed : Nat}
    (hsold : ∃ r, r ∈ (Sample.after .ifElse commitConfig calls).raffle ∧
      r.randomnessSource = .commitReveal ∧ r.ticketsSold = 2)
    (hok : (finalizeRaffle (Sample.host .ifElse) (Sample.ctx 1000 9 [Sample.creator])
      (Sample.after .ifElse commitConfig calls)).isOk = true)
    (hfinalized : StatusIn (· = .finalized) (revealed calls))
    (hseed : (revealed calls).randomnessSeed.map FairnessMetadata.seed = some seed) :
    Reveals (Sample.host .ifElse) (Sample.start .ifElse commitConfig) calls 2 seed := by
  obtain ⟨r, hr, hsource, hcount⟩ := hsold
  obtain ⟨w', hdrawn⟩ := except_isOk hok
  have hend : revealed calls = w' := by
    unfold revealed Sample.after
    rw [Machine.run_append, Machine.run_cons, Machine.run_nil]
    exact (machine (Sample.host .ifElse)).exec_ok hdrawn
  rw [hend] at hfinalized hseed
  exact ⟨_, r, w', hr, hsource, hcount, hdrawn, hfinalized, hseed⟩

theorem commits_fix_seed_tangledRun : ∃ seed,
    Reveals (Sample.host .ifElse) (Sample.start .ifElse commitConfig) orderedRun 2 seed ∧
    Reveals (Sample.host .ifElse) (Sample.start .ifElse commitConfig) tangledRun 2 seed ∧
    (machine (Sample.host .ifElse)).Each CommitsKept (revealed tangledRun)
      [Sample.signed [Sample.buyer] 1001 10 (.submitCommit 1 (commitHash 9))] := by
  have hinit : Initialised (Sample.host .ifElse) (Sample.start .ifElse commitConfig) :=
    Sample.start_initialised (by decide +kernel)
  have hplain : Reveals (Sample.host .ifElse) (Sample.start .ifElse commitConfig) orderedRun 2
      72340172838076673 :=
    reveals_of_sample (by decide +kernel) (by decide +kernel) (by decide +kernel)
      (by decide +kernel)
  have htangled : Reveals (Sample.host .ifElse) (Sample.start .ifElse commitConfig) tangledRun 2
      72340172838076673 :=
    reveals_of_sample (by decide +kernel) (by decide +kernel) (by decide +kernel)
      (by decide +kernel)
  have hall := commits_fix_seed hinit hinit
  have haccepted : acceptedCommits (Sample.host .ifElse) (Sample.start .ifElse commitConfig)
      orderedRun = [(1, commitHash 7), (2, commitHash 8)] := by decide +kernel
  have hswapped : acceptedCommits (Sample.host .ifElse) (Sample.start .ifElse commitConfig)
      tangledRun = [(2, commitHash 8), (1, commitHash 7)] := by decide +kernel
  have hsame := hall.1 _ _ _ _ _ hplain htangled (by rw [haccepted]; simp) fun commit => by
    rw [haccepted, hswapped]
    simp [or_comm]
  have hfinalized : StatusIn (· = .finalized) (revealed tangledRun) := by decide +kernel
  have hbegun : StatusIn begun (revealed tangledRun) := by
    obtain ⟨r, hr, hs⟩ := hfinalized
    exact ⟨r, hr, by simp [begun, hs]⟩
  exact ⟨_, hplain, hsame ▸ htangled, hall.2 _ _ hbegun⟩

end TikkaRaffle.Properties
