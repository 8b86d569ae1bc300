import Mathlib.Data.List.Rotate
import TikkaRaffle.Lib.Transactional

/-! Windows of a list, and the list read window by window. -/
namespace TikkaRaffle.Lib

variable {α ε : Type}

/-- At most `size` items from `offset` on. -/
def window (xs : List α) (offset size : Nat) : List α :=
  (xs.drop offset).take size

theorem window_length (xs : List α) (offset size : Nat) :
    (window xs offset size).length = min size (xs.length - offset) := by
  rw [window, List.length_take, List.length_drop]

theorem window_eq_nil_iff {xs : List α} {offset size : Nat} (hsize : 0 < size) :
    window xs offset size = [] ↔ xs.length ≤ offset := by
  rw [← List.length_eq_zero_iff, window_length]
  omega

theorem window_range' (first count offset size : Nat) :
    window (List.range' first count) offset size =
      List.range' (first + offset) (min size (count - offset)) := by
  apply List.ext_getElem
  · simp only [window_length, List.length_range']
  · intro i hi hi'
    simp only [window, List.getElem_take, List.getElem_drop, List.getElem_range']
    omega

theorem flatMap_window (xs : List α) (size count : Nat) :
    (List.range count).flatMap (fun k => window xs (k * size) size) = xs.take (count * size) := by
  induction count with
  | zero => simp
  | succ count ih =>
    rw [List.range_succ, List.flatMap_append, ih, List.flatMap_singleton, Nat.succ_mul,
      List.take_add, window]

theorem filterMap_range'_eq_window (xs : List α) (offset size : Nat) :
    (List.range' offset size).filterMap (xs[·]?) = window xs offset size := by
  induction size generalizing offset with
  | zero => simp [window]
  | succ size ih =>
    rw [List.range'_succ, window]
    cases hget : xs[offset]? with
    | none =>
      have hend : xs.length ≤ offset := List.getElem?_eq_none_iff.mp hget
      rw [List.filterMap_cons_none hget, ih, window, List.drop_of_length_le hend,
        List.drop_of_length_le (Nat.le_succ_of_le hend)]
      simp
    | some x =>
      obtain ⟨hlt, rfl⟩ := List.getElem?_eq_some_iff.mp hget
      rw [List.filterMap_cons_some hget, ih, window, List.drop_eq_getElem_cons hlt,
        List.take_succ_cons]

theorem mapM_found_range' (xs : List α) {offset size : Nat} (e : ε)
    (h : offset + size ≤ xs.length) :
    (List.range' offset size).mapM (fun i => found xs[i]? e) = .ok (window xs offset size) := by
  induction size generalizing offset with
  | zero => simp [window, pure, Except.pure]
  | succ size ih =>
    have hlt : offset < xs.length := by omega
    rw [List.range'_succ, List.mapM_cons, ih (by omega), List.getElem?_eq_getElem hlt, window,
      window, List.drop_eq_getElem_cons hlt, List.take_succ_cons]
    rfl

def lastWindow (length size : Nat) : Nat := (length - 1) / size

theorem lt_lastWindow_iff {size : Nat} (hsize : 0 < size) (length k : Nat) :
    k < lastWindow length size ↔ k * size + size < length := by
  rw [lastWindow, Nat.lt_iff_add_one_le, Nat.le_div_iff_mul_le hsize, Nat.succ_mul]
  omega

theorem flatMap_window_last (xs : List α) {size : Nat} (hsize : 0 < size) :
    (List.range (lastWindow xs.length size + 1)).flatMap (fun k => window xs (k * size) size) =
      xs := by
  have hend := (lt_lastWindow_iff hsize xs.length (lastWindow xs.length size)).not.mp
    (Nat.lt_irrefl _)
  rw [flatMap_window, List.take_of_length_le (by rw [Nat.succ_mul]; omega)]

def windowCount (length size : Nat) : Nat := (length + size - 1) / size

theorem lt_windowCount_iff {size : Nat} (hsize : 0 < size) (length k : Nat) :
    k < windowCount length size ↔ k * size < length := by
  rw [windowCount, Nat.lt_iff_add_one_le, Nat.le_div_iff_mul_le hsize, Nat.succ_mul]
  omega

theorem flatMap_window_count {xs : List α} {size : Nat} (hsize : 0 < size) :
    (List.range (windowCount xs.length size)).flatMap (fun k => window xs (k * size) size) =
      xs := by
  have hend := (lt_windowCount_iff hsize xs.length (windowCount xs.length size)).not.mp
    (Nat.lt_irrefl _)
  rw [flatMap_window, List.take_of_length_le (Nat.le_of_not_lt hend)]

/-- The offset after a window: the next one, or the first once none is left. -/
def nextOffset (length size offset : Nat) : Nat :=
  if length ≤ offset + size then 0 else offset + size

variable {size length j : Nat}

theorem nextOffset_mul (hsize : 0 < size) (hj : j < windowCount length size) :
    nextOffset length size (j * size) = (j + 1) % windowCount length size * size := by
  have hlast := lt_windowCount_iff hsize length (j + 1)
  rw [Nat.succ_mul] at hlast
  unfold nextOffset
  split
  next hend =>
    have hwrap : j + 1 = windowCount length size := by omega
    rw [hwrap, Nat.mod_self, Nat.zero_mul]
  next hmore => rw [Nat.mod_eq_of_lt (by omega), Nat.succ_mul]

theorem iterate_nextOffset (hsize : 0 < size) (hj : j < windowCount length size) (k : Nat) :
    (nextOffset length size)^[k] (j * size) = (j + k) % windowCount length size * size := by
  induction k with
  | zero => rw [Function.iterate_zero_apply, Nat.add_zero, Nat.mod_eq_of_lt hj]
  | succ k ih =>
    have hpos : 0 < windowCount length size := by omega
    rw [Function.iterate_succ_apply', ih, nextOffset_mul hsize (Nat.mod_lt _ hpos),
      Nat.mod_add_mod, Nat.add_assoc]

theorem map_add_mod_range (count j : Nat) :
    (List.range count).map (fun k => (j + k) % count) = (List.range count).rotate j := by
  apply List.ext_getElem
  · simp
  · intro i hi hi'
    simp [List.getElem_rotate, Nat.add_comm i j]

/-- As many windows as there are, read on from any of them, are the whole list. -/
theorem flatMap_rolling_perm {xs : List α} (hlength : xs.length = length) (hsize : 0 < size)
    (hj : j < windowCount length size) :
    ((List.range (windowCount length size)).flatMap fun k =>
      window xs ((nextOffset length size)^[k] (j * size)) size).Perm xs := by
  subst hlength
  have hturn : (List.range (windowCount xs.length size)).flatMap (fun k =>
      window xs ((nextOffset xs.length size)^[k] (j * size)) size) =
        ((List.range (windowCount xs.length size)).rotate j).flatMap fun k =>
          window xs (k * size) size := by
    simp only [iterate_nextOffset hsize hj]
    rw [← map_add_mod_range, List.flatMap_map]
  have hperm := (List.rotate_perm (List.range (windowCount xs.length size)) j).flatMap_right
    fun k => window xs (k * size) size
  rw [flatMap_window_count hsize] at hperm
  rw [hturn]
  exact hperm

end TikkaRaffle.Lib
