import Mathlib.Data.List.Pairwise
import Mathlib.Order.Lattice

/-! Brackets: a value that applies from a threshold on. A scan keeps the last
bracket it has reached, so with rising thresholds and falling values the scan is
antitone, and it stays below the value it starts from as soon as the first
bracket does. -/
namespace TikkaRaffle.Lib

variable {α τ β : Type} [LinearOrder τ] {threshold : α → τ} {value : α → β}

def bracket (threshold : α → τ) (value : α → β) (start : β) (items : List α) (amount : τ) : β :=
  items.foldl (fun current item => if threshold item ≤ amount then value item else current) start

variable {start : β} {items : List α} {amount amount' : τ}

@[simp] theorem bracket_nil : bracket threshold value start [] amount = start := rfl

theorem bracket_reached {item : α} (hreached : threshold item ≤ amount) :
    bracket threshold value start (item :: items) amount =
      bracket threshold value (value item) items amount := by
  rw [bracket, List.foldl_cons, if_pos hreached, ← bracket]

theorem bracket_ahead {item : α} (hahead : amount < threshold item) :
    bracket threshold value start (item :: items) amount =
      bracket threshold value start items amount := by
  rw [bracket, List.foldl_cons, if_neg hahead.not_ge, ← bracket]

theorem bracket_below (hbelow : ∀ item ∈ items, amount < threshold item) :
    bracket threshold value start items amount = start := by
  induction items with
  | nil => rfl
  | cons item rest ih =>
    rw [bracket_ahead (hbelow item (List.mem_cons_self ..))]
    exact ih fun other hother => hbelow other (List.mem_cons_of_mem _ hother)

/-- Thresholds rise and values do not. -/
def Descending [LE β] (threshold : α → τ) (value : α → β) (items : List α) : Prop :=
  items.Pairwise fun a b => threshold a < threshold b ∧ value b ≤ value a

variable [Preorder β]

theorem bracket_le {bound : β} (hstart : start ≤ bound)
    (hvalues : ∀ item ∈ items, value item ≤ bound) :
    bracket threshold value start items amount ≤ bound := by
  induction items generalizing start with
  | nil => exact hstart
  | cons item rest ih =>
    have hrest : ∀ other ∈ rest, value other ≤ bound := fun other hother =>
      hvalues other (List.mem_cons_of_mem _ hother)
    rcases le_or_gt (threshold item) amount with hreached | hahead
    · rw [bracket_reached hreached]
      exact ih (hvalues item (List.mem_cons_self ..)) hrest
    · rw [bracket_ahead hahead]
      exact ih hstart hrest

theorem bracket_first {first : α} (hitems : Descending threshold value (first :: items)) :
    bracket threshold value start (first :: items) (threshold first) = value first := by
  rw [bracket_reached le_rfl]
  exact bracket_below fun item hitem => ((List.pairwise_cons.mp hitems).1 item hitem).1

theorem bracket_antitone (hitems : Descending threshold value items)
    (hstart : ∀ item ∈ items, value item ≤ start) (hamount : amount ≤ amount') :
    bracket threshold value start items amount' ≤ bracket threshold value start items amount := by
  induction items generalizing start with
  | nil => exact le_rfl
  | cons item rest ih =>
    obtain ⟨hitem, hrest⟩ := List.pairwise_cons.mp hitems
    have hlater : ∀ other ∈ rest, value other ≤ start := fun other hother =>
      hstart other (List.mem_cons_of_mem _ hother)
    rcases le_or_gt (threshold item) amount with hreached | hahead
    · rw [bracket_reached hreached, bracket_reached (hreached.trans hamount)]
      exact ih hrest fun other hother => (hitem other hother).2
    · have hbelow : ∀ other ∈ item :: rest, amount < threshold other :=
        List.forall_mem_cons.mpr ⟨hahead, fun other hother => hahead.trans (hitem other hother).1⟩
      rw [bracket_below hbelow]
      exact bracket_le le_rfl hstart

/-- No bracket exceeds the starting value exactly when the first does not. -/
theorem values_le_start_iff (hitems : Descending threshold value items) :
    (∀ item ∈ items, value item ≤ start) ↔ ∀ first ∈ items.head?, value first ≤ start := by
  cases items with
  | nil => simp
  | cons first rest =>
    simp only [List.head?_cons, Option.mem_def, Option.some.injEq, forall_eq', List.forall_mem_cons]
    refine and_iff_left_of_imp fun hfirst item hitem => ?_
    exact ((List.pairwise_cons.mp hitems).1 item hitem).2.trans hfirst

end TikkaRaffle.Lib
