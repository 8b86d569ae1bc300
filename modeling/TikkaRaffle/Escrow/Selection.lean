import TikkaRaffle.Escrow.Registry
import TikkaRaffle.Lib.Congruential

/-! A draw that is asked for ends. The rejection loop of the selector leaves the
generator's full period, the indices it picks are tickets on record, and the
finalization that uses them commits. -/
namespace TikkaRaffle.Escrow

open TikkaRaffle.Lib TikkaRaffle.Instance

theorem lcgAdvance_eq (seed : Nat) :
    lcgAdvance seed = affine 6364136223846793005 1442695040888963407 seed % 2 ^ 64 := rfl

theorem iterate_lcgAdvance {seed : Nat} (hseed : seed < 2 ^ 64) (n : Nat) :
    lcgAdvance^[n] seed =
      (affine 6364136223846793005 1442695040888963407)^[n] seed % 2 ^ 64 := by
  induction n with
  | zero => exact (Nat.mod_eq_of_lt hseed).symm
  | succ n ih =>
    rw [Function.iterate_succ_apply', Function.iterate_succ_apply', ih, lcgAdvance_eq]
    unfold affine
    rw [Nat.add_mod, Nat.mul_mod, Nat.mod_mod, ← Nat.mul_mod, ← Nat.add_mod]

/-- The loop leaves at the first state under the limit, on exactly as many
rounds as it takes to get there. -/
theorem rejectionSample_first {limit n seed : Nat}
    (hrejected : ∀ m < n, ¬ lcgAdvance^[m] seed < limit) (hbelow : lcgAdvance^[n] seed < limit)
    (fuel : Nat) :
    rejectionSample fuel limit seed = if n < fuel then some (lcgAdvance^[n] seed) else none := by
  induction n generalizing fuel seed with
  | zero =>
    cases fuel with
    | zero => rfl
    | succ fuel => exact (if_pos hbelow).trans (if_pos (Nat.succ_pos fuel)).symm
  | succ n ih =>
    cases fuel with
    | zero => rfl
    | succ fuel =>
      have hlater : ∀ m < n, ¬ lcgAdvance^[m] (lcgAdvance seed) < limit := by
        intro m hm
        rw [← Function.iterate_succ_apply]
        exact hrejected (m + 1) (Nat.succ_lt_succ hm)
      have hnow : ¬ seed < limit := hrejected 0 (Nat.succ_pos n)
      rw [Function.iterate_succ_apply] at hbelow ⊢
      rw [rejectionSample, if_neg hnow, ih hlater hbelow fuel]
      simp only [Nat.add_lt_add_iff_right]

/-- The full period brings every state under a positive limit. -/
theorem exists_accepted {limit seed : Nat} (hlimit : 0 < limit) (hseed : seed < 2 ^ 64) :
    ∃ n < 2 ^ 64, (∀ m < n, ¬ lcgAdvance^[m] seed < limit) ∧ lcgAdvance^[n] seed < limit := by
  obtain ⟨n, hn, hzero⟩ := exists_iterate_affine (a := 6364136223846793005)
    (c := 1442695040888963407) (by decide) (by decide) 64 seed (Nat.two_pow_pos 64)
  rw [← iterate_lcgAdvance hseed] at hzero
  have hbelow : lcgAdvance^[n] seed < limit := by
    rw [hzero]
    exact hlimit
  have hreached : ∃ n, lcgAdvance^[n] seed < limit := ⟨n, hbelow⟩
  exact ⟨Nat.find hreached, lt_of_le_of_lt (Nat.find_min' hreached hbelow) hn,
    fun m hm => Nat.find_min hreached hm, Nat.find_spec hreached⟩

theorem largestMultiple_pos {remaining : Nat} (hpos : 0 < remaining)
    (hremaining : remaining < 2 ^ 64) : 0 < (2 ^ 64 - 1) / remaining * remaining :=
  Nat.mul_pos (Nat.div_pos (by omega) hpos) hpos

theorem rejectionSample_some {limit seed : Nat} (hlimit : 0 < limit) (hseed : seed < 2 ^ 64) :
    ∃ candidate, rejectionSample (2 ^ 64) limit seed = some candidate ∧ candidate < limit := by
  obtain ⟨n, hn, hrejected, hbelow⟩ := exists_accepted hlimit hseed
  exact ⟨_, (rejectionSample_first hrejected hbelow _).trans (if_pos hn), hbelow⟩

theorem resolveSwap_lt {swaps : List (Nat × Nat)} {position total : Nat}
    (hswaps : ∀ entry ∈ swaps, entry.2 < total) (hposition : position < total) :
    resolveSwap swaps position < total := by
  unfold resolveSwap
  cases hfound : swaps.find? fun entry => entry.1 = position with
  | none => exact hposition
  | some entry => exact hswaps entry (List.mem_of_find?_eq_some hfound)

theorem recordSwap_lt (position : Nat) {swaps : List (Nat × Nat)} {value total : Nat}
    (hswaps : ∀ entry ∈ swaps, entry.2 < total) (hvalue : value < total) :
    ∀ entry ∈ recordSwap position value swaps, entry.2 < total := by
  induction swaps with
  | nil =>
    intro entry hentry
    rw [recordSwap, List.mem_singleton] at hentry
    rw [hentry]
    exact hvalue
  | cons first rest ih =>
    intro entry hentry
    unfold recordSwap at hentry
    split at hentry
    next =>
      rcases List.mem_cons.mp hentry with rfl | hrest
      · exact hvalue
      · exact hswaps entry (List.mem_cons_of_mem _ hrest)
    next =>
      rcases List.mem_cons.mp hentry with rfl | hrest
      · exact hswaps entry (List.mem_cons_self ..)
      · exact ih (fun e he => hswaps e (List.mem_cons_of_mem _ he)) entry hrest

theorem selectRounds_some {total : Nat} (htotal : total < 2 ^ 64) {rounds remaining seed : Nat}
    {swaps : List (Nat × Nat)} (hrounds : rounds ≤ remaining) (hremaining : remaining ≤ total)
    (hseed : seed < 2 ^ 64) (hswaps : ∀ entry ∈ swaps, entry.2 < total) :
    ∃ indices, selectRounds rounds remaining seed swaps = some indices ∧
      ∀ index ∈ indices, index < total := by
  induction rounds generalizing remaining seed swaps with
  | zero => exact ⟨[], rfl, by simp⟩
  | succ rounds ih =>
    have hmultiple : 0 < (2 ^ 64 - 1) / remaining * remaining :=
      largestMultiple_pos (by omega) (by omega)
    obtain ⟨candidate, hsample, hcandidate⟩ := rejectionSample_some hmultiple hseed
    have hbound : candidate < 2 ^ 64 := by
      have hle := Nat.div_mul_le_self (2 ^ 64 - 1) remaining
      omega
    have hpick : candidate % remaining < total :=
      lt_of_lt_of_le (Nat.mod_lt _ (by omega)) hremaining
    have hlast : resolveSwap swaps (remaining - 1) < total := resolveSwap_lt hswaps (by omega)
    have hfewer : rounds ≤ remaining - 1 := by omega
    obtain ⟨rest, hrest, hsmall⟩ := ih hfewer (by omega) hbound
      (recordSwap_lt (candidate % remaining) hswaps hlast)
    refine ⟨resolveSwap swaps (candidate % remaining) :: rest, ?_, ?_⟩
    · simp only [selectRounds, hsample, Option.bind_eq_bind, Option.bind_some, hrest]
      rfl
    · intro index hindex
      rcases List.mem_cons.mp hindex with rfl | hindex
      · exact resolveSwap_lt hswaps hpick
      · exact hsmall index hindex

theorem selectWinnerIndices_some (count : Nat) {seed total : Nat} (hseed : seed < 2 ^ 64)
    (htotal : total < 2 ^ 64) :
    ∃ indices, selectWinnerIndices seed total count = some indices ∧
      ∀ index ∈ indices, index < total := by
  unfold selectWinnerIndices
  split
  next => exact ⟨[], rfl, by simp⟩
  next => exact selectRounds_some htotal (Nat.min_le_right ..) le_rfl hseed (by simp)

variable {h : Host} {c : Ctx} {w : World} {r : Raffle}

theorem foldl_bytes_lt (bytes : List UInt8) (acc : Nat) :
    bytes.foldl (fun acc byte => acc * 256 + byte.toNat) acc < (acc + 1) * 256 ^ bytes.length := by
  induction bytes generalizing acc with
  | nil => simp
  | cons byte rest ih =>
    have hbyte : byte.toNat < 256 := byte.toNat_lt
    have hnext : acc * 256 + byte.toNat + 1 ≤ (acc + 1) * 256 := by omega
    calc rest.foldl (fun acc byte => acc * 256 + byte.toNat) (acc * 256 + byte.toNat)
        < (acc * 256 + byte.toNat + 1) * 256 ^ rest.length := ih _
      _ ≤ (acc + 1) * 256 * 256 ^ rest.length := Nat.mul_le_mul_right _ hnext
      _ = (acc + 1) * 256 ^ (rest.length + 1) := by rw [Nat.mul_assoc, pow_succ']

theorem seedOfDigest_lt (digest : Digest) : seedOfDigest digest < 2 ^ 64 := by
  have hlength : (digest.toList.take 8).length = 8 := by
    rw [List.length_take, Vector.length_toList]
    rfl
  have hlt := foldl_bytes_lt (digest.toList.take 8) 0
  rw [hlength] at hlt
  exact hlt

theorem aggregateQuorumSeeds_lt (seeds : List (Address × Nat)) :
    aggregateQuorumSeeds h seeds < 2 ^ 64 := by
  unfold aggregateQuorumSeeds
  split
  next => exact Nat.two_pow_pos 64
  next => exact seedOfDigest_lt _

theorem resolveUniqueWinner_lt {total candidate : Nat} {winners : List Address}
    (hcandidate : candidate < total) : resolveUniqueWinner w total winners candidate < total := by
  unfold resolveUniqueWinner
  cases hfound : ((List.range total).map fun offset => (candidate + offset) % total).find?
      fun index => (getTicketOwner w (index + 1)).any fun owner => !winners.contains owner with
  | none => exact hcandidate
  | some index =>
    obtain ⟨offset, -, rfl⟩ := List.mem_map.mp (List.mem_of_find?_eq_some hfound)
    exact Nat.mod_lt _ (by omega)

theorem drawTiers_some (hrecorded : ∀ i, 1 ≤ i → i ≤ r.ticketsSold → w.ticket i ≠ none)
    {candidates : List Nat} (hcandidates : ∀ index ∈ candidates, index < r.ticketsSold)
    (tier : Nat) (winners : List Address) :
    ∃ result, drawTiers c w r candidates tier winners = .ok result := by
  induction candidates generalizing tier winners with
  | nil => exact ⟨_, rfl⟩
  | cons candidate rest ih =>
    have hhead := hcandidates candidate (List.mem_cons_self ..)
    have hindex : (if r.uniqueWinners then resolveUniqueWinner w r.ticketsSold winners candidate
        else candidate) < r.ticketsSold := by
      split
      next => exact resolveUniqueWinner_lt hhead
      next => exact hhead
    obtain ⟨ticket, hticket⟩ := Option.ne_none_iff_exists'.mp
      (hrecorded _ (Nat.succ_pos _) hindex)
    obtain ⟨⟨indices, drawn, events⟩, hrest⟩ :=
      ih (fun index hi => hcandidates index (List.mem_cons_of_mem _ hi)) (tier + 1)
        (winners ++ [ticket.owner])
    have howner : getTicketOwner w ((if r.uniqueWinners then
        resolveUniqueWinner w r.ticketsSold winners candidate else candidate) + 1) =
          some ticket.owner := congrArg (Option.map Ticket.owner) hticket
    simp only [drawTiers, except_bind_ok, okOr_ok, Prod.exists, except_pure_ok]
    exact ⟨_, _, _, ticket.owner, howner, indices, drawn, events, hrest, rfl⟩

theorem recordLeaderboard_some (hanswers : c.factory.recordLeaderboardEntry = true) :
    ∃ w', recordLeaderboard h c w r = .ok w' := by
  unfold recordLeaderboard
  split
  next => exact ⟨_, rfl⟩
  next =>
    simp only [hanswers, invokeFactory, if_true]
    exact ⟨_, rfl⟩

theorem doFinalizeWithSeed_some (kind : RandomnessType)
    (contributions : Option (List (Address × Nat))) {seed : Nat} (hdrawing : r.status = .drawing)
    (hsold : 0 < r.ticketsSold) (htiers : r.prizes.length ≤ r.ticketsSold)
    (hrecorded : ∀ i, 1 ≤ i → i ≤ r.ticketsSold → w.ticket i ≠ none)
    (hsupply : r.ticketsSold < 2 ^ 64) (hseed : seed < 2 ^ 64)
    (hanswers : c.factory.recordLeaderboardEntry = true) :
    ∃ w', doFinalizeWithSeed h c w r seed kind contributions = .ok w' := by
  obtain ⟨candidates, hselect, hsmall⟩ :=
    selectWinnerIndices_some r.prizes.length hseed hsupply
  obtain ⟨⟨indices, winners, drawn⟩, htier⟩ := drawTiers_some (c := c) hrecorded hsmall 0 []
  simp only [doFinalizeWithSeed, except_bind_ok, ensure_ok, exists_const, hselect, orTrap_ok,
    Option.some.injEq, exists_eq_left', htier, Except.ok.injEq, transitionStatus_ok,
    Prod.exists, RaffleStatus.canTransitionTo_finalized, except_pure_ok]
  exact ⟨_, hsold.ne', htiers, hsold.ne', indices, winners, drawn, rfl, _, _,
    ⟨hdrawing, rfl, rfl⟩, _, (recordLeaderboard_some hanswers).choose_spec, rfl⟩

end TikkaRaffle.Escrow
