import TikkaRaffle.Escrow.Positions
import TikkaRaffle.Escrow.Records
import TikkaRaffle.Lib.Spread

/-! Several prizes and their winners. The shuffle deals every tier a ticket of
its own; with unique winners a probe then moves a tier from an owner who has won
to one who has not. Prizes spread over as many owners as there are, but a probe
may take a ticket that the shuffle still deals. -/
namespace TikkaRaffle.Properties

open TikkaRaffle.Lib TikkaRaffle.Instance TikkaRaffle.Escrow

/-- The tickets `1..total` are on record, each with its owner. -/
def Assigned (w : World) (total : Nat) (owners : Nat → Address) : Prop :=
  ∀ i, 1 ≤ i → i ≤ total → getTicketOwner w i = some (owners i)

def holders (owners : Nat → Address) (total : Nat) : Finset Address :=
  (Finset.range total).image fun index => owners (index + 1)

/-- A finalization from this seed stores these indices and these winners, and
once the draw is open and the factory answers it commits. -/
structure Draw (w : World) (r : Raffle) (seed : Nat) (indices : List Nat)
    (winners : List Address) : Prop where
  commits : ∀ h c kind contributions, r.status = .drawing → 0 < r.ticketsSold →
    c.factory.recordLeaderboardEntry = true →
      ∃ w', doFinalizeWithSeed h c w r seed kind contributions = .ok w'
  stored : ∀ h c kind contributions w',
    doFinalizeWithSeed h c w r seed kind contributions = .ok w' →
      ∃ metadata r', w'.randomnessSeed = some metadata ∧
        metadata.winningTicketIndices = indices ∧ w'.raffle = some r' ∧
        r'.winners.map Winner.address = winners

/-- No ticket that one of the first draws stops at is dealt to a tier that comes
after every owner has won. -/
def ProbesClear (w : World) (r : Raffle) (seed count : Nat) : Prop :=
  ∀ candidates, selectWinnerIndices seed r.ticketsSold r.prizes.length = some candidates →
    ∀ index ∈ probeTiers w r.ticketsSold (candidates.take count) [],
      index ∉ candidates.drop count

variable {w : World} {r : Raffle} {owners : Nat → Address} {seed total : Nat}

theorem owned (howned : Assigned w total owners) {index : Nat} (hindex : index < total) :
    getTicketOwner w (index + 1) = some (owners (index + 1)) :=
  howned (index + 1) (Nat.succ_pos _) hindex

theorem probe_reaches {candidate index : Nat} (hcandidate : candidate < total)
    (hindex : index < total) :
    index ∈ (List.range total).map fun offset => (candidate + offset) % total := by
  refine List.mem_map.mpr ⟨(index + (total - candidate)) % total,
    List.mem_range.mpr (Nat.mod_lt _ (by omega)), ?_⟩
  rw [Nat.add_mod_mod, show candidate + (index + (total - candidate)) = index + total by omega,
    Nat.add_mod_right, Nat.mod_eq_of_lt hindex]

theorem resolve_own (howned : Assigned w total owners) {winners : List Address}
    {candidate : Nat} (hcandidate : candidate < total) (hnew : owners (candidate + 1) ∉ winners) :
    resolveUniqueWinner w total winners candidate = candidate := by
  obtain ⟨total, rfl⟩ : ∃ n, total = n + 1 := ⟨total - 1, by omega⟩
  unfold resolveUniqueWinner
  have hzero : (candidate + 0) % (total + 1) = candidate := Nat.mod_eq_of_lt hcandidate
  rw [List.range_succ_eq_map, List.map_cons, hzero, List.find?_cons_of_pos, Option.getD_some]
  rw [owned howned hcandidate]
  simpa using hnew

theorem resolve_seeksNew (howned : Assigned w total owners) :
    SeeksNew (Finset.range total) (fun index => owners (index + 1))
      (resolveUniqueWinner w total) where
  mem winners candidate hcandidate :=
    Finset.mem_range.mpr (resolveUniqueWinner_lt (Finset.mem_range.mp hcandidate))
  new winners candidate hcandidate hnew := by
    have hlt := Finset.mem_range.mp hcandidate
    obtain ⟨owner, howner, hfresh⟩ := Finset.not_subset.mp hnew
    obtain ⟨index, hindex, rfl⟩ := Finset.mem_image.mp howner
    have hindex := Finset.mem_range.mp hindex
    unfold resolveUniqueWinner
    cases hfound : ((List.range total).map fun offset => (candidate + offset) % total).find?
        fun index => (getTicketOwner w (index + 1)).any fun owner => !winners.contains owner with
    | none =>
      have hnone := List.find?_eq_none.mp hfound index (probe_reaches hlt hindex)
      rw [owned howned hindex] at hnone
      simp only [Option.any_some, Bool.not_eq_eq_eq_not, Bool.not_true, List.contains_eq_mem,
        decide_eq_false_iff_not, not_not] at hnone
      exact absurd (List.mem_toFinset.mpr hnone) hfresh
    | some taken =>
      obtain ⟨offset, -, htaken⟩ := List.mem_map.mp (List.mem_of_find?_eq_some hfound)
      have hpicked : taken < total := by
        rw [← htaken]
        exact Nat.mod_lt _ (by omega)
      have hwins := List.find?_some hfound
      rw [owned howned hpicked] at hwins
      simpa using hwins
  kept winners candidate _ hfull := by
    unfold resolveUniqueWinner
    rw [List.find?_eq_none.mpr, Option.getD_none]
    intro index hindex
    obtain ⟨offset, hoffset, rfl⟩ := List.mem_map.mp hindex
    have hpicked : (candidate + offset) % total < total :=
      Nat.mod_lt _ (Nat.zero_lt_of_lt (List.mem_range.mp hoffset))
    have hwon := hfull (Finset.mem_image_of_mem _ (Finset.mem_range.mpr hpicked))
    rw [owned howned hpicked]
    simpa using hwon

/-- The verifier's probing is the search of the library. -/
theorem probeTiers_eq (howned : Assigned w total owners) {candidates : List Nat}
    (hcandidates : ∀ index ∈ candidates, index < total) (winners : List Address) :
    probeTiers w total candidates winners =
      takes (fun index => owners (index + 1)) (resolveUniqueWinner w total) winners
        candidates := by
  induction candidates generalizing winners with
  | nil => rfl
  | cons candidate rest ih =>
    have hpicked : resolveUniqueWinner w total winners candidate < total :=
      resolveUniqueWinner_lt (hcandidates candidate (List.mem_cons_self ..))
    rw [probeTiers, takes, owned howned hpicked,
      ih fun index hindex => hcandidates index (List.mem_cons_of_mem _ hindex)]
    rfl

theorem draw_of_deal (howned : Assigned w r.ticketsSold owners)
    (htiers : r.prizes.length ≤ r.ticketsSold) (hsupply : r.ticketsSold < 2 ^ 32)
    (hseed : seed < 2 ^ 64) {candidates indices : List Nat}
    (hselect : selectWinnerIndices seed r.ticketsSold r.prizes.length = some candidates)
    (hindices : indices = if r.uniqueWinners then probeTiers w r.ticketsSold candidates []
      else candidates)
    (hsmall : ∀ index ∈ indices, index < r.ticketsSold) :
    Draw w r seed indices (indices.map fun index => owners (index + 1)) where
  commits h c kind contributions hdrawing hsold hanswers := by
    refine doFinalizeWithSeed_some kind contributions hdrawing hsold htiers (fun i hlow hhigh => ?_)
      (Nat.lt_trans hsupply (by decide)) hseed hanswers
    intro hnone
    have howner := howned i hlow hhigh
    unfold getTicketOwner at howner
    rw [hnone] at howner
    cases howner
  stored h c kind contributions w' hok := by
    obtain ⟨metadata, winners, r', hdraw, rfl, -, hkeys, hr', -, hwinners⟩ :=
      doFinalizeWithSeed_concludes hok
    have hstored : metadata.winningTicketIndices = indices := by
      have hreplay := hdraw.reproducible
      rw [reproduceIndices, hselect, Option.map_some, Option.some.injEq] at hreplay
      rw [← hreplay, hindices]
    refine ⟨metadata, r', congrArg Records.fairness hkeys, hstored, hr', ?_⟩
    have howners := hdraw.owners
    rw [hstored] at howners
    have hall : indices.map (fun index => getTicketOwner w (index + 1)) =
        (indices.map fun index => owners (index + 1)).map some := by
      rw [List.map_map]
      exact List.map_congr_left fun index hindex => owned howned (hsmall index hindex)
    rw [hall] at howners
    rw [hwinners]
    exact List.map_injective_iff.mpr (Option.some_injective _) howners

theorem tickets_dealt (htiers : r.prizes.length ≤ r.ticketsSold)
    (hsupply : r.ticketsSold < 2 ^ 32) (hseed : seed < 2 ^ 64) :
    ∃ candidates, selectWinnerIndices seed r.ticketsSold r.prizes.length = some candidates ∧
      candidates.length = r.prizes.length ∧ candidates.Nodup ∧
      ∀ index ∈ candidates, index < r.ticketsSold := by
  obtain ⟨candidates, hselect, hsmall⟩ := selectWinnerIndices_some r.prizes.length hseed
    (Nat.lt_trans hsupply (by decide))
  refine ⟨candidates, hselect, ?_, selectWinnerIndices_nodup hselect, hsmall⟩
  rw [selectWinnerIndices_length hselect, min_eq_left htiers]

/-- Enough owners for every tier leave nothing to deal after them. -/
theorem probesClear_of_enough (htiers : r.prizes.length ≤ (holders owners r.ticketsSold).card) :
    ProbesClear w r seed (holders owners r.ticketsSold).card := by
  intro candidates hselect index _
  rw [List.drop_eq_nil_of_le]
  · exact List.not_mem_nil
  · rw [selectWinnerIndices_length hselect]
    exact (Nat.min_le_left ..).trans htiers

/-- A single owner wins with the tickets as they are dealt. -/
theorem probesClear_of_single (howned : Assigned w r.ticketsSold owners)
    (hsupply : r.ticketsSold < 2 ^ 32) (hseed : seed < 2 ^ 64)
    (hsingle : (holders owners r.ticketsSold).card = 1) :
    ProbesClear w r seed (holders owners r.ticketsSold).card := by
  intro candidates hselect index hindex
  obtain ⟨dealt, hdealt, hsmall⟩ := selectWinnerIndices_some r.prizes.length hseed
    (Nat.lt_trans hsupply (by decide))
  obtain rfl := Option.some.inj (hdealt.symm.trans hselect)
  have hdistinct := selectWinnerIndices_nodup hselect
  rw [hsingle] at hindex ⊢
  cases dealt with
  | nil => cases hindex
  | cons first rest =>
    have hfirst := hsmall first (List.mem_cons_self ..)
    rw [List.take_succ_cons, List.take_zero, probeTiers, probeTiers,
      resolve_own howned hfirst List.not_mem_nil, List.mem_singleton] at hindex
    subst hindex
    exact (List.nodup_cons.mp hdistinct).1

/-- The stored indices of a draw with as many tickets as tiers are distinct
exactly if unique winners are off or the probes are clear of later tiers. -/
theorem tickets_win_once_iff (howned : Assigned w r.ticketsSold owners)
    (htiers : r.prizes.length ≤ r.ticketsSold) (hsupply : r.ticketsSold < 2 ^ 32)
    (hseed : seed < 2 ^ 64) :
    ∃ indices winners, Draw w r seed indices winners ∧ indices.length = r.prizes.length ∧
      (indices.Nodup ↔ (r.uniqueWinners = true →
        ProbesClear w r seed (holders owners r.ticketsSold).card)) := by
  obtain ⟨candidates, hselect, hlength, hdistinct, hsmall⟩ := tickets_dealt htiers hsupply hseed
  have hs := resolve_seeksNew howned
  have hdealt : ∀ index ∈ candidates, index ∈ Finset.range r.ticketsSold :=
    fun index hindex => Finset.mem_range.mpr (hsmall index hindex)
  by_cases hunique : r.uniqueWinners = true
  · have hprobed := probeTiers_eq howned hsmall []
    have hearly := probeTiers_eq howned (fun index hindex => hsmall index
      (List.mem_of_mem_take (i := (holders owners r.ticketsSold).card) hindex)) []
    refine ⟨_, _, draw_of_deal howned htiers hsupply hseed hselect rfl ?_, ?_, ?_⟩
    · rw [if_pos hunique, hprobed]
      exact fun index hindex => Finset.mem_range.mp (takes_mem hs hdealt index hindex)
    · rw [if_pos hunique, hprobed, takes_length, hlength]
    · rw [if_pos hunique, hprobed, nodup_takes_iff hs hdealt hdistinct]
      unfold ProbesClear
      simp only [hunique, hselect, Option.some.injEq, forall_eq', forall_const, hearly]
      rfl
  · refine ⟨_, _, draw_of_deal howned htiers hsupply hseed hselect rfl ?_, ?_, ?_⟩
    · rw [if_neg hunique]
      exact hsmall
    · rw [if_neg hunique, hlength]
    · rw [if_neg hunique]
      exact iff_of_true hdistinct fun h => absurd h hunique

def sharedConfig : RaffleConfig :=
  { Sample.config with maxTickets := 4, prizes := [4000, 3000, 3000], uniqueWinners := true }

def sharedRun : List Invocation :=
  [Sample.signed [Sample.creator] 1 1 .depositPrize,
    Sample.signed [Sample.buyer] 2 2 (.buyTickets Sample.buyer 1),
    Sample.signed [⟨7⟩] 3 3 (.buyTickets ⟨7⟩ 2)]

def sharedOwners (ticketId : Nat) : Address := if ticketId = 1 then Sample.buyer else ⟨7⟩

theorem assigned_shared :
    Assigned (Sample.after .ifElse sharedConfig sharedRun) 3 sharedOwners := by
  intro i hlow hhigh
  obtain rfl | rfl | rfl : i = 1 ∨ i = 2 ∨ i = 3 := by omega
  all_goals decide +kernel

theorem tickets_win_once_iff_shared :
    ∃ r, r ∈ (Sample.after .ifElse sharedConfig sharedRun).raffle ∧
      ∃ indices winners, Draw (Sample.after .ifElse sharedConfig sharedRun) r 5 indices winners ∧
        indices.length = r.prizes.length ∧
        (indices.Nodup ↔ (r.uniqueWinners = true →
          ProbesClear (Sample.after .ifElse sharedConfig sharedRun) r 5
            (holders sharedOwners r.ticketsSold).card)) := by
  have hsome : ∃ r, r ∈ (Sample.after .ifElse sharedConfig sharedRun).raffle ∧
      r.ticketsSold = 3 ∧ r.prizes.length = 3 := by
    decide +kernel
  obtain ⟨r, hr, hsold, htiers⟩ := hsome
  refine ⟨r, hr, tickets_win_once_iff (hsold ▸ assigned_shared) (by omega) ?_ (by decide)⟩
  rw [hsold]
  decide

/-- The shuffle deals the tickets at 2, 1 and 0. The probe of the second tier
moves on to 0, the only ticket of the other owner, and the third tier keeps it. -/
theorem ticket_wins_twice :
    Initialised (Sample.host .ifElse) (Sample.start .ifElse sharedConfig) ∧
    ∃ r metadata,
      r ∈ (Sample.after .ifElse sharedConfig
        (sharedRun ++ [Sample.signed [Sample.creator] 1000 4 .finalizeRaffle])).raffle ∧
      metadata ∈ (Sample.after .ifElse sharedConfig
        (sharedRun ++ [Sample.signed [Sample.creator] 1000 4 .finalizeRaffle])).randomnessSeed ∧
      r.prizes.length ≤ r.ticketsSold ∧ metadata.winningTicketIndices = [2, 0, 0] ∧
      ¬metadata.winningTicketIndices.Nodup := by
  refine ⟨Sample.start_initialised (by decide +kernel), ?_⟩
  have hraffle : ∃ r, r ∈ (Sample.after .ifElse sharedConfig
      (sharedRun ++ [Sample.signed [Sample.creator] 1000 4 .finalizeRaffle])).raffle ∧
      r.prizes.length ≤ r.ticketsSold := by
    decide +kernel
  have hseed : ∃ metadata, metadata ∈ (Sample.after .ifElse sharedConfig
      (sharedRun ++ [Sample.signed [Sample.creator] 1000 4 .finalizeRaffle])).randomnessSeed ∧
      metadata.winningTicketIndices = [2, 0, 0] := by
    decide +kernel
  obtain ⟨r, hr, htiers⟩ := hraffle
  obtain ⟨metadata, hstored, hindices⟩ := hseed
  refine ⟨r, metadata, hr, hstored, htiers, hindices, ?_⟩
  rw [hindices]
  decide

/-- With unique winners the prizes go to as many owners as there are tiers or
owners, and nobody wins twice before everybody has won. -/
theorem winners_spread (howned : Assigned w r.ticketsSold owners)
    (htiers : r.prizes.length ≤ r.ticketsSold) (hsupply : r.ticketsSold < 2 ^ 32)
    (hseed : seed < 2 ^ 64) (hunique : r.uniqueWinners = true) :
    ∃ indices winners, Draw w r seed indices winners ∧
      winners.toFinset.card = min r.prizes.length (holders owners r.ticketsSold).card ∧
      (winners.take (min r.prizes.length (holders owners r.ticketsSold).card)).Nodup := by
  obtain ⟨candidates, hselect, hlength, -, hsmall⟩ := tickets_dealt htiers hsupply hseed
  have hs := resolve_seeksNew howned
  have hdealt : ∀ index ∈ candidates, index ∈ Finset.range r.ticketsSold :=
    fun index hindex => Finset.mem_range.mpr (hsmall index hindex)
  have hprobed := probeTiers_eq howned hsmall []
  refine ⟨_, _, draw_of_deal howned htiers hsupply hseed hselect rfl ?_, ?_, ?_⟩
  · rw [if_pos hunique, hprobed]
    exact fun index hindex => Finset.mem_range.mp (takes_mem hs hdealt index hindex)
  · rw [if_pos hunique, hprobed, card_takes hs hdealt, hlength]
    rfl
  · rw [if_pos hunique, hprobed, ← hlength]
    exact nodup_first_owners hs hdealt

theorem winners_spread_shared :
    ∃ r, r ∈ (Sample.after .ifElse sharedConfig sharedRun).raffle ∧
      ∃ indices winners, Draw (Sample.after .ifElse sharedConfig sharedRun) r 5 indices winners ∧
        winners.toFinset.card =
          min r.prizes.length (holders sharedOwners r.ticketsSold).card ∧
        (winners.take
          (min r.prizes.length (holders sharedOwners r.ticketsSold).card)).Nodup := by
  have hsome : ∃ r, r ∈ (Sample.after .ifElse sharedConfig sharedRun).raffle ∧
      r.ticketsSold = 3 ∧ r.prizes.length = 3 ∧ r.uniqueWinners = true := by
    decide +kernel
  obtain ⟨r, hr, hsold, htiers, hunique⟩ := hsome
  refine ⟨r, hr, winners_spread (hsold ▸ assigned_shared) (by omega) ?_ (by decide) hunique⟩
  rw [hsold]
  decide

end TikkaRaffle.Properties
