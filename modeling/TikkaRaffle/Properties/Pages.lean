import TikkaRaffle.Factory.Pages

/-! Reading the live raffles page by page. -/
namespace TikkaRaffle.Factory

open TikkaRaffle.Lib

def liveIds (s : State) : List Nat :=
  (List.range (s.nextRaffleId.getD 0)).filter fun id => (s.raffleById id).isSome

theorem mem_liveIds {s : State} {id : Nat} :
    id ∈ liveIds s ↔ id < s.nextRaffleId.getD 0 ∧ (s.raffleById id).isSome := by
  rw [liveIds, List.mem_filter, List.mem_range]

theorem liveIds_increasing (s : State) : (liveIds s).Pairwise (· < ·) :=
  List.pairwise_lt_range.filter _

theorem liveRaffles_eq (s : State) : (liveRaffles s).map some = (liveIds s).map s.raffleById := by
  unfold liveRaffles liveIds
  induction List.range (s.nextRaffleId.getD 0) with
  | nil => rfl
  | cons id rest ih =>
    cases hid : s.raffleById id with
    | none => simpa [hid] using ih
    | some raffle => simpa [hid] using ih

theorem liveRaffles_length (s : State) : (liveRaffles s).length = (liveIds s).length := by
  simpa using congrArg List.length (liveRaffles_eq s)

theorem liveIds_length_le (s : State) : (liveIds s).length ≤ s.nextRaffleId.getD 0 := by
  exact Nat.le_trans (List.length_filter_le _ _) (Nat.le_of_eq List.length_range)

theorem getRafflesPage_eq {s : State} (hnext : s.nextRaffleId.getD 0 < 2 ^ 32)
    (hcount : s.raffleCount.getD 0 = (liveIds s).length) (offset limit : Nat) :
    getRafflesPage s ⟨offset, limit⟩ =
      .ok ⟨window (liveRaffles s) offset (effectiveLimit limit), (liveIds s).length,
        offset + effectiveLimit limit < (liveIds s).length⟩ := by
  have hlen := liveRaffles_length s
  have hle := liveIds_length_le s
  by_cases hempty : s.raffleCount.getD 0 = 0 ∨ s.raffleCount.getD 0 ≤ offset
  · have hoff : (liveRaffles s).length ≤ offset := by omega
    rw [getRafflesPage, if_pos hempty, (window_eq_nil_iff (effectiveLimit_pos limit)).mpr hoff]
    simp only [hcount, Except.ok.injEq, PageResultRaffles.mk.injEq, true_and]
    exact (decide_eq_false (by omega)).symm
  · have hin : offset ≤ (liveRaffles s).length := by omega
    have htotal : (liveIds s).length < 2 ^ 32 := by omega
    have hstop := page_stop offset (effectiveLimit limit) htotal
    have hmore : (min (offset + effectiveLimit limit) (liveIds s).length < (liveIds s).length) =
        (offset + effectiveLimit limit < (liveIds s).length) := propext (by omega)
    have hwithin : offset + (min (offset + effectiveLimit limit) (liveIds s).length - offset) ≤
        (liveRaffles s).length := by omega
    have hitems := mapM_found_range' (liveRaffles s) Abort.trap hwithin
    rw [← hlen, window_min hin] at hitems
    rw [getRafflesPage, if_neg hempty]
    simp only [hcount, hstop]
    rw [← hlen] at hmore ⊢
    rw [hitems]
    simp only [hmore]
    rfl

/-- The pages at consecutive offsets, as far as there is more. -/
theorem raffle_pages_complete (s : State) (hnext : s.nextRaffleId.getD 0 < 2 ^ 32)
    (hcount : s.raffleCount.getD 0 = (liveIds s).length) (limit : Nat) :
    (∀ offset, (getRafflesPage s ⟨offset, limit⟩).isOk = true) ∧
      ∃ pages : List PageResultRaffles,
        (List.range pages.length).mapM
            (fun k => getRafflesPage s ⟨k * effectiveLimit limit, limit⟩) = .ok pages ∧
          pages.map (·.hasMore) = List.replicate (pages.length - 1) true ++ [false] ∧
          (∀ page ∈ pages.dropLast, page.items.length = effectiveLimit limit) ∧
          (pages.flatMap (·.items)).map some = (liveIds s).map s.raffleById := by
  have hread := fun offset => getRafflesPage_eq hnext hcount offset limit
  have hpos := effectiveLimit_pos limit
  refine ⟨fun offset => by rw [hread]; rfl, ?_⟩
  generalize effectiveLimit limit = L at *
  have hlen := liveRaffles_length s
  have hmore := lt_lastWindow_iff hpos (liveIds s).length
  let page (k : Nat) : PageResultRaffles :=
    ⟨window (liveRaffles s) (k * L) L, (liveIds s).length, k * L + L < (liveIds s).length⟩
  let last := lastWindow (liveIds s).length L
  have hpages : (List.range (last + 1)).map page = (List.range last).map page ++ [page last] := by
    rw [List.range_succ, List.map_append, List.map_singleton]
  have hlength : ((List.range (last + 1)).map page).length = last + 1 := by simp
  refine ⟨(List.range (last + 1)).map page, ?_, ?_, ?_, ?_⟩
  · rw [hlength]
    simp only [hread]
    exact List.mapM_pure (m := Except Abort)
  · have hfull : ((List.range last).map page).map (·.hasMore) = List.replicate last true := by
      rw [List.map_map, List.eq_replicate_iff]
      refine ⟨by simp, fun b hb => ?_⟩
      obtain ⟨k, hk, rfl⟩ := List.mem_map.mp hb
      exact decide_eq_true ((hmore k).mp (List.mem_range.mp hk))
    have hlast : (page last).hasMore = false :=
      decide_eq_false ((hmore last).not.mp (Nat.lt_irrefl last))
    rw [hlength, hpages, List.map_append, hfull, List.map_singleton, hlast, Nat.add_sub_cancel]
  · rw [hpages, List.dropLast_concat]
    intro full hfull
    obtain ⟨k, hk, rfl⟩ := List.mem_map.mp hfull
    have hin := (hmore k).mp (List.mem_range.mp hk)
    change (window (liveRaffles s) (k * L) L).length = L
    rw [window_length]
    omega
  · have hall := flatMap_window_last (liveRaffles s) hpos
    rw [hlen] at hall
    rw [List.flatMap_map, hall, liveRaffles_eq]

/-- Five identifiers, two of them without a raffle, in pages of two. -/
theorem raffle_pages_tombstones :
    let s : State := { State.deployed (fun _ => none) (fun _ => none) with
      nextRaffleId := some 5
      raffleCount := some 3
      raffleById := fun id => if id = 1 ∨ id = 3 then none else some ⟨id⟩ }
    (∀ offset, (getRafflesPage s ⟨offset, 2⟩).isOk = true) ∧
      ∃ pages : List PageResultRaffles,
        (List.range pages.length).mapM
            (fun k => getRafflesPage s ⟨k * effectiveLimit 2, 2⟩) = .ok pages ∧
          pages.map (·.hasMore) = List.replicate (pages.length - 1) true ++ [false] ∧
          (∀ page ∈ pages.dropLast, page.items.length = effectiveLimit 2) ∧
          (pages.flatMap (·.items)).map some = (liveIds s).map s.raffleById :=
  raffle_pages_complete _ (by decide) (by decide) 2

end TikkaRaffle.Factory
