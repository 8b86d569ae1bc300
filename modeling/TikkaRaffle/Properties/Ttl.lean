import TikkaRaffle.Instance.Ttl

/-! The rolling window over the ticket entries: where its cursor can stand, and
that one round of calls refreshes every ticket once. -/
namespace TikkaRaffle.Properties

open TikkaRaffle.Lib TikkaRaffle.Instance

variable {w₀ w : World} {total : Nat} {earlier : List Nat}

/-- The cursor of earlier calls is the start of a page, a round of calls from
there refreshes the tickets `1` to `total` once each and at most a hundred at a
time, and the second definition agrees on totals whose last page it can end. -/
theorem rolling_window_covers (hpos : 1 ≤ total) (hu32 : total < 2 ^ 32)
    (hpresent : w.Present total) (hfresh : w₀.lastBumpedIndex = none)
    (hgrows : earlier.Pairwise (· ≤ ·)) (hbound : ∀ t ∈ earlier, t ≤ total)
    (hcursor : w.bumpCursor = (earlier.foldl bumpRaffleTtl w₀).bumpCursor) :
    (w.bumpCursor = 0 ∨ w.bumpCursor % 100 = 0 ∧ w.bumpCursor < earlier.getLastD 0) ∧
    (bumpSweep ((total + 99) / 100) w total).flatten.Perm (List.range' 1 total) ∧
    (∀ page ∈ bumpSweep ((total + 99) / 100) w total, page.length ≤ 100) ∧
    (total ≤ 4294967200 →
      bumpTicketEntriesAmortised w total = .ok (bumpRaffleTtl w total, bumpedTickets w total)) := by
  have hstart : AtPage 0 w₀.bumpCursor := .inl (by rw [World.bumpCursor, hfresh]; rfl)
  have hpage : AtPage (earlier.getLastD 0) w.bumpCursor := by
    rw [hcursor]
    exact hstart.run (List.pairwise_cons.mpr ⟨fun _ _ => Nat.zero_le _, hgrows⟩)
  have hlast : earlier.getLastD 0 ≤ total := by
    rcases List.eq_nil_or_concat earlier with rfl | ⟨first, t, rfl⟩
    · exact Nat.zero_le total
    · rw [List.concat_eq_append, List.getLastD_concat]
      exact hbound t (by simp)
  obtain ⟨j, hj, hjcount⟩ : ∃ j, w.bumpCursor = j * 100 ∧ j * 100 < total := by
    rcases hpage with hzero | ⟨hmultiple, hlt⟩
    · exact ⟨0, by rw [hzero, Nat.zero_mul], by omega⟩
    · exact ⟨w.bumpCursor / 100, by omega, by omega⟩
  have hinside : w.bumpCursor ≤ total := by omega
  refine ⟨hpage, ?_, ?_, ?_⟩
  · have hpages : j < windowCount total 100 := (lt_windowCount_iff (by decide) total j).mpr hjcount
    rw [bumpSweep_eq _ hpos hpresent hu32 hinside, hj, ← List.flatMap_def]
    exact flatMap_rolling_perm List.length_range' (by decide) hpages
  · intro page hpage
    rw [bumpSweep_eq _ hpos hpresent hu32 hinside] at hpage
    obtain ⟨k, -, rfl⟩ := List.mem_map.mp hpage
    rw [window_length]
    exact Nat.min_le_left ..
  · intro hfits
    exact bumpTicketEntriesAmortised_eq hpresent hu32 hinside (by omega)

def fullRaffle : World :=
  { World.deployed (fun _ _ => 0) with
    ticket := fun id => some ⟨id, ⟨1⟩, 0, id, ⟨1⟩, 0⟩ }

theorem fullRaffle_present (total : Nat) : fullRaffle.Present total :=
  fun _ _ _ => rfl

/-- A sale of 250 after calls at 120 and 230 tickets. -/
theorem rolling_window_covers_three_pages :
    ([120, 230].foldl bumpRaffleTtl fullRaffle).bumpCursor = 200 ∧
      (bumpSweep 3 ([120, 230].foldl bumpRaffleTtl fullRaffle) 250).flatten.Perm
        (List.range' 1 250) :=
  ⟨rfl, (rolling_window_covers (by decide : 1 ≤ 250) (by decide : 250 < 2 ^ 32)
    (fun _ _ _ => rfl) (show fullRaffle.lastBumpedIndex = none from rfl)
    (by decide : [120, 230].Pairwise (· ≤ ·)) (by decide : ∀ t ∈ [120, 230], t ≤ 250) rfl).2.1⟩

/-- On the last page of the largest total the first definition refreshes
ninety-five tickets and the second traps. -/
theorem last_page_traps :
    let w := (List.replicate 42949672 4294967295).foldl bumpRaffleTtl fullRaffle
    fullRaffle.lastBumpedIndex = none ∧ w.Present 4294967295 ∧
      bumpedTickets w 4294967295 = List.range' 4294967201 95 ∧
      bumpTicketEntriesAmortised w 4294967295 = .error .trap := by
  intro w
  have hcursor : w.bumpCursor = 4294967200 := by
    have hrun : w.bumpCursor = (nextOffset 4294967295 ttlBumpWindow)^[42949672]
        fullRaffle.bumpCursor :=
      bumpRaffleTtl_replicate 42949672 (by decide) (Nat.zero_le _)
    have hpage : 0 < windowCount 4294967295 ttlBumpWindow := by decide
    have hround := iterate_nextOffset (by decide) hpage 42949672
    rw [Nat.zero_mul] at hround
    exact (hrun.trans hround).trans (by decide)
  have hpresent : w.Present 4294967295 :=
    bumpRaffleTtl_run_present (fullRaffle_present _) _
  refine ⟨rfl, hpresent, ?_, ?_⟩
  · rw [bumpedTickets_eq_window hpresent (by decide) (by rw [hcursor]; decide), hcursor,
      window_range']
    rfl
  · exact bumpTicketEntriesAmortised_traps (by decide) (by rw [hcursor]; decide)

end TikkaRaffle.Properties
