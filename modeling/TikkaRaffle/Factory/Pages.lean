import TikkaRaffle.Factory.State
import TikkaRaffle.Lib.Paging

/-! The paginated views of the factory. -/
namespace TikkaRaffle.Factory

open TikkaRaffle.Lib Constants

structure PaginationParams where
  offset : Nat
  limit : Nat
deriving DecidableEq, Repr

structure PageResultRaffles where
  items : List Address
  total : Nat
  hasMore : Bool
deriving DecidableEq, Repr

def effectiveLimit (requested : Nat) : Nat :=
  if requested = 0 then defaultPageLimit
  else if maxPageLimit < requested then maxPageLimit
  else requested

def liveRaffles (s : State) : List Address :=
  (List.range (s.nextRaffleId.getD 0)).filterMap s.raffleById

def getRafflesPage (s : State) (params : PaginationParams) : Result PageResultRaffles :=
  let offset := params.offset
  let lim := effectiveLimit params.limit
  let total := s.raffleCount.getD 0
  if total = 0 ∨ total ≤ offset then .ok ⟨[], total, false⟩
  else do
    let live := liveRaffles s
    let stop := min (saturateU32 (offset + lim)) total
    let items ← (List.range' offset (stop - offset)).mapM fun i => found live[i]? .trap
    return ⟨items, total, stop < total⟩

def getAllPartners (s : State) (params : PaginationParams) : List Address :=
  let partners := s.partnersList.getD []
  let total := partners.length
  let lim := effectiveLimit params.limit
  let offset := params.offset
  if total ≤ offset then []
  else
    let stop := min (saturateU32 (offset + lim)) total
    (List.range' offset (stop - offset)).filterMap (partners[·]?)

def paginateRaffles (source : List Address) (params : PaginationParams) : PageResultRaffles :=
  let total := source.length
  let lim := effectiveLimit params.limit
  let offset := params.offset
  if total ≤ offset then ⟨[], total, false⟩
  else
    let stop := min (saturateU32 (offset + lim)) total
    ⟨(List.range' offset (stop - offset)).filterMap (source[·]?), total, stop < total⟩

def getRafflesByCreator (s : State) (creator : Address) (params : PaginationParams) :
    PageResultRaffles :=
  paginateRaffles ((s.creatorRaffles creator).getD []) params

def getRafflesByCategory (s : State) (category : Bytes) (params : PaginationParams) :
    PageResultRaffles :=
  paginateRaffles ((s.categoryRaffles category).getD []) params

theorem effectiveLimit_pos (requested : Nat) : 0 < effectiveLimit requested := by
  unfold effectiveLimit
  split
  · decide
  · split
    · decide
    · omega

/-- The end of a page does not depend on the saturation. -/
theorem page_stop {total : Nat} (offset lim : Nat) (htotal : total < 2 ^ 32) :
    min (saturateU32 (offset + lim)) total = min (offset + lim) total := by
  unfold saturateU32
  omega

theorem window_min {α : Type} {xs : List α} {offset lim : Nat} (h : offset ≤ xs.length) :
    window xs offset (min (offset + lim) xs.length - offset) = window xs offset lim := by
  rw [window, window, List.take_eq_take_iff, List.length_drop]
  omega

theorem paginateRaffles_eq {source : List Address} (hlength : source.length < 2 ^ 32)
    (offset limit : Nat) :
    paginateRaffles source ⟨offset, limit⟩ =
      ⟨window source offset (effectiveLimit limit), source.length,
        offset + effectiveLimit limit < source.length⟩ := by
  have hpos := effectiveLimit_pos limit
  by_cases hend : source.length ≤ offset
  · rw [paginateRaffles, if_pos hend, (window_eq_nil_iff hpos).mpr hend]
    simp only [PageResultRaffles.mk.injEq, true_and]
    exact (decide_eq_false (by omega)).symm
  · rw [paginateRaffles, if_neg hend]
    simp only [page_stop _ _ hlength, filterMap_range'_eq_window,
      window_min (Nat.le_of_not_le hend), PageResultRaffles.mk.injEq, true_and]
    exact decide_eq_decide.mpr (by omega)

end TikkaRaffle.Factory
