import TikkaRaffle.Factory.Lists
import TikkaRaffle.Lib.Ranking

/-! The leaderboards hold the best ten of what was recorded. -/
namespace TikkaRaffle.Factory

open TikkaRaffle.Lib

theorem exchange_eq (board : List (Address × Int)) (i j : Nat) :
    exchange board i j = exchangeAt Prod.snd board i j := by
  unfold exchange exchangeAt
  cases board[i]? <;> cases board[j]? <;> rfl

theorem sortBoard_eq (board : List (Address × Int)) :
    sortBoard board = exchangeSort Prod.snd board := by
  unfold sortBoard exchangeSort exchangePass
  simp only [exchange_eq]

/-- One board against everything recorded for it. -/
structure TopTen (recorded board : List (Address × Int)) : Prop where
  length : board.length = min leaderboardCap recorded.length
  distinct : (board.map (·.1)).Nodup
  sorted : board.Pairwise fun a b => b.2 ≤ a.2
  genuine : ∀ e ∈ board, e ∈ recorded
  best : ∀ e ∈ recorded, e ∉ board → ∀ b ∈ board, e.2 ≤ b.2

theorem upsertLeaderboard_nodup {board : Option (List (Address × Int))}
    (h : ((board.getD []).map (·.1)).Nodup) (raffle : Address) (metric : Int) :
    (((upsertLeaderboard board raffle metric).getD []).map (·.1)).Nodup := by
  have hsort := exchangeSort_perm Prod.snd
    ((board.getD []).filter (·.1 ≠ raffle) ++ [(raffle, metric)])
  have hnext : (((board.getD []).filter (·.1 ≠ raffle) ++ [(raffle, metric)]).map (·.1)).Nodup := by
    rw [List.map_append, List.map_singleton]
    refine (h.sublist (List.filter_sublist.map _)).append (List.nodup_singleton _) ?_
    simp
  rw [upsertLeaderboard, Option.getD_some, sortBoard_eq]
  exact ((hsort.map _).nodup_iff.mpr hnext).sublist ((List.take_sublist _ _).map _)

theorem foldl_upsert_nodup (recorded : List (Address × Int))
    {board : Option (List (Address × Int))} (h : ((board.getD []).map (·.1)).Nodup) :
    (((recorded.foldl (fun board e => upsertLeaderboard board e.1 e.2) board).getD []).map
      (·.1)).Nodup := by
  induction recorded generalizing board with
  | nil => exact h
  | cons e rest ih => exact ih (upsertLeaderboard_nodup h e.1 e.2)

/-- Recording a raffle for the first time is an insertion. -/
theorem upsertLeaderboard_best {recorded : List (Address × Int)}
    {board : Option (List (Address × Int))}
    (h : Best Prod.snd leaderboardCap recorded (board.getD [])) {raffle : Address}
    (hnew : raffle ∉ recorded.map (·.1)) (metric : Int) :
    Best Prod.snd leaderboardCap (recorded ++ [(raffle, metric)])
      ((upsertLeaderboard board raffle metric).getD []) := by
  obtain ⟨rest, hperm, -⟩ := h.rest
  have hkept : (board.getD []).filter (·.1 ≠ raffle) = board.getD [] := by
    refine List.filter_eq_self.mpr fun e he => decide_eq_true ?_
    rintro rfl
    exact hnew (List.mem_map_of_mem (hperm.mem_iff.mp (List.mem_append_left _ he)))
  rw [upsertLeaderboard, hkept, Option.getD_some, sortBoard_eq]
  exact h.insert (raffle, metric)

theorem foldl_upsert_best {recorded : List (Address × Int)}
    (hdistinct : (recorded.map (·.1)).Nodup) :
    Best Prod.snd leaderboardCap recorded
      ((recorded.foldl (fun board e => upsertLeaderboard board e.1 e.2) none).getD []) := by
  induction recorded using List.reverseRecOn with
  | nil => exact .start
  | append_singleton recorded e ih =>
    rw [List.map_append, List.nodup_append] at hdistinct
    obtain ⟨hold, -, hdisjoint⟩ := hdistinct
    rw [List.foldl_append]
    exact upsertLeaderboard_best (ih hold)
      (fun hmem => hdisjoint e.1 hmem e.1 (by simp) rfl) e.2

theorem topTen_of_best {recorded board : List (Address × Int)}
    (h : Best Prod.snd leaderboardCap recorded board) (hdistinct : (recorded.map (·.1)).Nodup) :
    TopTen recorded board := by
  obtain ⟨rest, hperm, hrest⟩ := h.rest
  refine ⟨h.length, ?_, h.sorted, fun e he => hperm.mem_iff.mp (List.mem_append_left _ he), ?_⟩
  · have hnodup := (hperm.map (·.1)).nodup_iff.mpr hdistinct
    rw [List.map_append, List.nodup_append] at hnodup
    exact hnodup.1
  · intro e he hnot b hb
    have hmem := (List.mem_append.mp (hperm.mem_iff.mpr he)).resolve_left hnot
    exact hrest e hmem b hb

theorem foldl_enter_topTen {k : Lists} (hempty : ∀ metric, k.board metric = none)
    (entries : List ListEntry) (metric : LeaderboardMetric) :
    ((((entries.foldl Lists.enter k).board metric).getD []).map (·.1)).Nodup ∧
      (((entries.filterMap (ListEntry.rank metric)).map (·.1)).Nodup →
        TopTen (entries.filterMap (ListEntry.rank metric))
          (((entries.foldl Lists.enter k).board metric).getD [])) := by
  rw [Lists.foldl_enter_board, hempty]
  refine ⟨foldl_upsert_nodup _ List.nodup_nil, fun hdistinct => ?_⟩
  exact topTen_of_best (foldl_upsert_best hdistinct) hdistinct

/-- Each board lists a raffle at most once, and the best ten when every raffle was
recorded once. -/
theorem leaderboards_top_ten (h : Host) (s : State)
    (hempty : s.topByTickets = none ∧ s.topByPrize = none ∧ s.topByVolume = none)
    (calls : List ListCall) (metric : LeaderboardMetric) :
    let recorded := (((listMachine h).committed s calls).map (·.entry)).filterMap
      (ListEntry.rank metric)
    let board := getLeaderboard ((listMachine h).run s calls) metric
    (board.map (·.1)).Nodup ∧ ((recorded.map (·.1)).Nodup → TopTen recorded board) := by
  have hboards : ∀ metric, s.lists.board metric = none := by
    intro metric
    cases metric
    · exact hempty.1
    · exact hempty.2.1
    · exact hempty.2.2
  intro recorded board
  have hboard : board = ((((((listMachine h).committed s calls).map (·.entry)).foldl
      Lists.enter s.lists).board metric)).getD [] := by
    rw [← lists_of_calls, ← getLeaderboard_eq]
  rw [hboard]
  exact foldl_enter_topTen hboards _ metric

/-- Three raffles report, two of them the same number of tickets. -/
theorem leaderboards_top_ten_ties :
    let s : State := { State.deployed (fun _ => none) (fun _ => none) with
      isFactoryRaffle := fun _ => some true
      validRaffle := fun _ => some true }
    let call (id : Nat) (sold : Int) : ListCall :=
      ⟨Sample.ctx 0 [], ⟨id⟩, .ranked ⟨id⟩ sold 0 (-7)⟩
    let calls := [call 1 5, call 2 9, call 3 5]
    TopTen ((((listMachine Sample.host).committed s calls).map (·.entry)).filterMap
        (ListEntry.rank .ticketsSold))
      (getLeaderboard ((listMachine Sample.host).run s calls) .ticketsSold) :=
  (leaderboards_top_ten Sample.host _ ⟨rfl, rfl, rfl⟩ _ .ticketsSold).2 (by decide)

/-- The same over the calls of a whole system. -/
theorem leaderboards_top_ten_of_run {h : Host} {net : Net} {raffleCreator : Nat → Option Address}
    {raffleCategory : Nat → Option Bytes} (hinit : Initialised h raffleCreator raffleCategory net)
    (calls : List Invocation) (metric : LeaderboardMetric) :
    let recorded := ((machine h).journal listEntries net calls).filterMap (ListEntry.rank metric)
    let board := getLeaderboard ((machine h).run net calls).factory metric
    (board.map (·.1)).Nodup ∧ ((recorded.map (·.1)).Nodup → TopTen recorded board) := by
  intro recorded board
  have hboard : board = ((((machine h).journal listEntries net calls).foldl
      Lists.enter .empty).board metric).getD [] := by
    rw [← lists_of_run hinit, ← getLeaderboard_eq]
  rw [hboard]
  exact foldl_enter_topTen (fun metric => by cases metric <;> rfl) _ metric

end TikkaRaffle.Factory
