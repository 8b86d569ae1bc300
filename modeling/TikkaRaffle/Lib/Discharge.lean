import TikkaRaffle.Lib.Transactional

/-! Dues that are settled one by one. Settling one leaves the others as they are, so
any order settles all of them. -/
namespace TikkaRaffle.Lib

namespace Machine

variable {State Call Failure Item Due : Type}

/-- The dues of `State`, the items that can settle them, and the calls that do. -/
structure Agenda (m : Machine State Call Failure) (Item Due : Type) where
  due : Item → Due
  call : Item → Call
  owed : State → Due → Prop
  may : State → Item → Prop

namespace Agenda

variable {m : Machine State Call Failure} (agenda : m.Agenda Item Due)

/-- What settling an item does, `Inv` being kept with the items settled so far. -/
def Settles (Inv : List Item → State → Prop) : Prop :=
  ∀ done s x, Inv done s → agenda.owed s (agenda.due x) → agenda.may s x →
    ∃ s', m.step (agenda.call x) s = .ok s' ∧ Inv (done ++ [x]) s' ∧
      (∀ d, agenda.owed s' d ↔ agenda.owed s d ∧ d ≠ agenda.due x) ∧
      ∀ y, agenda.may s y → agenda.may s' y

variable {agenda}

theorem Settles.run {Inv : List Item → State → Prop} (hsettles : agenda.Settles Inv)
    {done : List Item} {s : State} (hs : Inv done s) {items : List Item}
    (hdistinct : (items.map agenda.due).Nodup)
    (hitems : ∀ x ∈ items, agenda.owed s (agenda.due x) ∧ agenda.may s x) :
    m.committed s (items.map agenda.call) = items.map agenda.call ∧
      Inv (done ++ items) (m.run s (items.map agenda.call)) ∧
      ∀ d, agenda.owed (m.run s (items.map agenda.call)) d ↔
        agenda.owed s d ∧ d ∉ items.map agenda.due := by
  induction items generalizing done s with
  | nil => simpa [committed] using hs
  | cons x rest ih =>
    obtain ⟨hnew, hrest⟩ := List.nodup_cons.mp hdistinct
    obtain ⟨howed, hmay⟩ := hitems x (List.mem_cons_self ..)
    obtain ⟨t, hok, hinv, hleft, hkeep⟩ := hsettles done s x hs howed hmay
    have hlater : ∀ y ∈ rest, agenda.owed t (agenda.due y) ∧ agenda.may t y := by
      intro y hy
      obtain ⟨howed', hmay'⟩ := hitems y (List.mem_cons_of_mem _ hy)
      have hother : agenda.due y ≠ agenda.due x :=
        fun hsame => hnew (hsame ▸ List.mem_map_of_mem hy)
      exact ⟨(hleft _).mpr ⟨howed', hother⟩, hkeep y hmay'⟩
    obtain ⟨hcommitted, hend, hdues⟩ := ih hinv hrest hlater
    rw [List.map_cons, run_cons, m.exec_ok hok, committed_ok hok, hcommitted]
    refine ⟨rfl, by simpa using hend, fun d => ?_⟩
    rw [hdues, hleft, List.map_cons, List.mem_cons, not_or]
    tauto

end Agenda

end Machine
end TikkaRaffle.Lib
