import Mathlib.Data.List.TakeWhile
import TikkaRaffle.Instance.Helpers
import TikkaRaffle.Lib.Paging

/-! Which ticket entries a purchase keeps alive. Two definitions of the rolling
window are in the source; both read the ticket ids page by page and start over
after the last page. -/
namespace TikkaRaffle.Instance

open TikkaRaffle.Lib

variable {w : World} {total : Nat}

/-- The entries `bumpRaffleTtl` refreshes: a 0-based cursor, 1-based ids. -/
def bumpedTickets (w : World) (totalTickets : Nat) : List Nat :=
  if totalTickets = 0 then []
  else
    let start := min (w.lastBumpedIndex.getD 0) totalTickets
    let stop := min (start + ttlBumpWindow) totalTickets
    extendTicketTtls w (start + 1) (stop - start)

def bumpWindowSize : Nat := 100

/-- Extending an entry that is not there traps. -/
def extendTicketTtl (w : World) (ticketId : Nat) : Result Nat :=
  if (w.ticket ticketId).isSome then .ok ticketId else .error .trap

/-- The second definition, with the entries it refreshed. Its sums are checked
and nothing bounds the stored cursor. -/
def bumpTicketEntriesAmortised (w : World) (ticketsSold : Nat) : Result (World × List Nat) :=
  if ticketsSold = 0 then return (w, [])
  else do
    let start := w.lastBumpedIndex.getD 0
    let next ← trapU32 (start + bumpWindowSize)
    let stop := min next ticketsSold
    let refreshed ← (List.range' start (stop - start)).mapM fun ticketId => do
      let id ← trapU32 (ticketId + 1)
      extendTicketTtl w id
    return ({ w with lastBumpedIndex := some (if ticketsSold ≤ stop then 0 else stop) }, refreshed)

def bumpSweep : Nat → World → Nat → List (List Nat)
  | 0, _, _ => []
  | calls + 1, w, totalTickets =>
      bumpedTickets w totalTickets :: bumpSweep calls (bumpRaffleTtl w totalTickets) totalTickets

def World.bumpCursor (w : World) : Nat := w.lastBumpedIndex.getD 0

def World.Present (w : World) (total : Nat) : Prop :=
  ∀ ticketId, 1 ≤ ticketId → ticketId ≤ total → (w.ticket ticketId).isSome = true

theorem bumpRaffleTtl_present {present : Nat} (h : w.Present present) (total : Nat) :
    (bumpRaffleTtl w total).Present present := by
  unfold bumpRaffleTtl
  split
  next => exact h
  next => exact h

theorem bumpRaffleTtl_cursor (hpos : 0 < total) (hcursor : w.bumpCursor ≤ total) :
    (bumpRaffleTtl w total).bumpCursor = nextOffset total ttlBumpWindow w.bumpCursor := by
  unfold World.bumpCursor at hcursor ⊢
  simp only [bumpRaffleTtl, if_neg hpos.ne', Option.getD_some, nextOffset, Nat.min_eq_left hcursor]
  split <;> split <;> omega

theorem nextOffset_le (total size offset : Nat) : nextOffset total size offset ≤ total := by
  unfold nextOffset
  split <;> omega

theorem extendTicketTtls_present {start limit : Nat} (hpresent : w.Present (start + limit))
    (hu32 : start + limit < 2 ^ 32) :
    extendTicketTtls w (start + 1) limit = List.range' (start + 1) limit := by
  have hids : (List.range limit).map (start + 1 + ·) = List.range' (start + 1) limit := by
    rw [List.range'_eq_map_range]
  have hsmall : (List.range' (start + 1) limit).filter (· < 2 ^ 32) =
      List.range' (start + 1) limit := by
    rw [List.filter_eq_self]
    intro id hid
    obtain ⟨hlow, hhigh⟩ := List.mem_range'_1.mp hid
    exact decide_eq_true (by omega)
  rw [extendTicketTtls, hids, hsmall, List.takeWhile_eq_self_iff]
  intro id hid
  obtain ⟨hlow, hhigh⟩ := List.mem_range'_1.mp hid
  exact hpresent id (by omega) (by omega)

theorem bumpedTickets_eq_window (hpresent : w.Present total) (hu32 : total < 2 ^ 32)
    (hcursor : w.bumpCursor ≤ total) :
    bumpedTickets w total = window (List.range' 1 total) w.bumpCursor ttlBumpWindow := by
  rcases Nat.eq_zero_or_pos total with rfl | hpos
  · simp [bumpedTickets, window]
  unfold World.bumpCursor at hcursor ⊢
  simp only [bumpedTickets, if_neg hpos.ne', Nat.min_eq_left hcursor]
  rw [extendTicketTtls_present (fun id hlow hhigh => hpresent id hlow (by omega)) (by omega),
    window_range', Nat.add_comm 1]
  congr 1
  omega

theorem mapM_extendTicketTtl {start count : Nat} (hpresent : w.Present (start + count))
    (hu32 : start + count < 2 ^ 32) :
    (List.range' start count).mapM (fun ticketId => do
      let id ← trapU32 (ticketId + 1)
      extendTicketTtl w id) = .ok ((List.range' start count).map (· + 1)) := by
  apply except_mapM_ok
  intro ticketId hid
  obtain ⟨hlow, hhigh⟩ := List.mem_range'_1.mp hid
  have hnext : trapU32 (ticketId + 1) = .ok (ticketId + 1) := if_pos (by omega)
  rw [hnext]
  exact if_pos (hpresent (ticketId + 1) (by omega) (by omega))

/-- Until its sum leaves 32 bits the second definition does what the first does. -/
theorem bumpTicketEntriesAmortised_eq (hpresent : w.Present total) (htotal : total < 2 ^ 32)
    (hcursor : w.bumpCursor ≤ total) (hsum : w.bumpCursor + 100 < 2 ^ 32) :
    bumpTicketEntriesAmortised w total = .ok (bumpRaffleTtl w total, bumpedTickets w total) := by
  unfold World.bumpCursor at hcursor hsum
  rcases Nat.eq_zero_or_pos total with rfl | hpos
  · rfl
  let start := w.lastBumpedIndex.getD 0
  let stop := min (start + ttlBumpWindow) total
  have hstop : start + (stop - start) ≤ total := by
    change start ≤ total at hcursor
    omega
  have hwindow : w.Present (start + (stop - start)) :=
    fun id hlow hhigh => hpresent id hlow (by omega)
  have hids := mapM_extendTicketTtl hwindow (by omega)
  have hmarked : extendTicketTtls w (start + 1) (stop - start) =
      (List.range' start (stop - start)).map (· + 1) := by
    rw [extendTicketTtls_present hwindow (by omega), List.range'_succ_left]
  have hrun : bumpTicketEntriesAmortised w total =
      .ok ({ w with lastBumpedIndex := some (if total ≤ stop then 0 else stop) },
        (List.range' start (stop - start)).map (· + 1)) := by
    rw [bumpTicketEntriesAmortised, if_neg hpos.ne', except_bind_ok]
    refine ⟨start + bumpWindowSize, if_pos hsum, ?_⟩
    rw [except_bind_ok]
    exact ⟨_, hids, rfl⟩
  rw [hrun, ← hmarked]
  simp only [bumpRaffleTtl, bumpedTickets, if_neg hpos.ne', Nat.min_eq_left hcursor, start, stop]

theorem bumpTicketEntriesAmortised_traps (hpos : 0 < total) (hsum : 2 ^ 32 ≤ w.bumpCursor + 100) :
    bumpTicketEntriesAmortised w total = .error .trap := by
  have htrap : trapU32 (w.lastBumpedIndex.getD 0 + bumpWindowSize) = .error .trap :=
    if_neg (Nat.not_lt.mpr hsum)
  rw [bumpTicketEntriesAmortised, if_neg hpos.ne']
  change trapU32 (w.lastBumpedIndex.getD 0 + bumpWindowSize) >>= _ = _
  rw [htrap]
  rfl

theorem bumpSweep_eq (calls : Nat) (hpos : 0 < total) (hpresent : w.Present total)
    (hu32 : total < 2 ^ 32) (hcursor : w.bumpCursor ≤ total) :
    bumpSweep calls w total = (List.range calls).map fun k =>
      window (List.range' 1 total) ((nextOffset total ttlBumpWindow)^[k] w.bumpCursor)
        ttlBumpWindow := by
  induction calls generalizing w with
  | zero => rfl
  | succ calls ih =>
    have hnext := bumpRaffleTtl_cursor hpos hcursor
    have htail := ih (bumpRaffleTtl_present hpresent total)
      (by rw [hnext]; exact nextOffset_le ..)
    rw [bumpSweep, bumpedTickets_eq_window hpresent hu32 hcursor, htail, hnext,
      List.range_succ_eq_map, List.map_cons, List.map_map]
    rfl

def AtPage (last cursor : Nat) : Prop :=
  cursor = 0 ∨ cursor % 100 = 0 ∧ cursor < last

theorem AtPage.bump {last : Nat} (h : AtPage last w.bumpCursor) (hgrows : last ≤ total) :
    AtPage total (bumpRaffleTtl w total).bumpCursor := by
  rcases Nat.eq_zero_or_pos total with rfl | hpos
  · rcases h with hzero | ⟨-, hlt⟩
    · exact .inl hzero
    · omega
  have hcursor : w.bumpCursor ≤ total := by
    rcases h with hzero | ⟨-, hlt⟩ <;> omega
  rw [bumpRaffleTtl_cursor hpos hcursor]
  unfold nextOffset ttlBumpWindow AtPage
  split
  next => exact .inl rfl
  next hmore =>
    refine .inr ⟨?_, by omega⟩
    rcases h with hzero | ⟨hpage, -⟩ <;> omega

theorem AtPage.run {last : Nat} {totals : List Nat} (h : AtPage last w.bumpCursor)
    (hgrows : (last :: totals).Pairwise (· ≤ ·)) :
    AtPage (totals.getLastD last) (totals.foldl bumpRaffleTtl w).bumpCursor := by
  induction totals generalizing w last with
  | nil => exact h
  | cons total rest ih =>
    obtain ⟨hfirst, hrest⟩ := List.pairwise_cons.mp hgrows
    rw [List.getLastD_cons]
    exact ih (h.bump (hfirst total (List.mem_cons_self ..))) hrest

theorem bumpRaffleTtl_replicate (calls : Nat) (hpos : 0 < total) (hcursor : w.bumpCursor ≤ total) :
    ((List.replicate calls total).foldl bumpRaffleTtl w).bumpCursor =
      (nextOffset total ttlBumpWindow)^[calls] w.bumpCursor := by
  induction calls generalizing w with
  | zero => rfl
  | succ calls ih =>
    have hnext := bumpRaffleTtl_cursor hpos hcursor
    rw [List.replicate_succ, List.foldl_cons, ih (by rw [hnext]; exact nextOffset_le ..), hnext,
      Function.iterate_succ_apply]

theorem bumpRaffleTtl_run_present {present : Nat} (h : w.Present present) (totals : List Nat) :
    (totals.foldl bumpRaffleTtl w).Present present := by
  induction totals generalizing w with
  | nil => exact h
  | cons total rest ih => exact ih (bumpRaffleTtl_present h total)

end TikkaRaffle.Instance
