import Mathlib.Algebra.BigOperators.Group.Finset.Piecewise
import Mathlib.Algebra.Order.Group.Defs
import Mathlib.Data.Finset.Lattice.Basic
import Mathlib.Logic.Relation

/-! Ledgers of several currencies. A posting moves an amount that its source
holds. What any number of postings can do is read off without knowing them:
whose balance may have fallen, that nothing is overdrawn, and that nothing is
made or lost. -/
namespace TikkaRaffle.Lib.Ledger

variable {κ α M : Type} [DecidableEq κ] [DecidableEq α] [AddCommGroup M] [LinearOrder M]

def post (balance : κ → α → M) (currency : κ) (source target : α) (amount : M) : κ → α → M :=
  fun k a =>
    if k = currency then
      balance k a - (if a = source then amount else 0) + (if a = target then amount else 0)
    else balance k a

/-- A covered posting out of an account that `may` be debited. -/
def Posting (may : α → Prop) (before after : κ → α → M) : Prop :=
  ∃ currency source target amount, may source ∧ 0 ≤ amount ∧ amount ≤ before currency source ∧
    after = post before currency source target amount

abbrev Postings (may : α → Prop) : (κ → α → M) → (κ → α → M) → Prop :=
  Relation.ReflTransGen (Posting may)

/-- All but finitely many balances are the same and the others have one sum. -/
def Conserved (before after : κ → α → M) : Prop :=
  ∃ accounts : Finset α, ∀ more, accounts ⊆ more → ∀ k,
    ∑ a ∈ more, after k a = ∑ a ∈ more, before k a

section Conservation

variable {before between after : κ → α → M}

omit [DecidableEq κ] [DecidableEq α] [LinearOrder M] in
theorem Conserved.refl (balance : κ → α → M) : Conserved balance balance :=
  ⟨∅, fun _ _ _ => rfl⟩

omit [DecidableEq κ] [LinearOrder M] in
theorem Conserved.trans (h : Conserved before between) (h' : Conserved between after) :
    Conserved before after := by
  obtain ⟨first, hfirst⟩ := h
  obtain ⟨last, hlast⟩ := h'
  refine ⟨first ∪ last, fun more hmore k => ?_⟩
  rw [hlast more (Finset.union_subset_right hmore), hfirst more (Finset.union_subset_left hmore)]

omit [LinearOrder M] in
theorem conserved_post (balance : κ → α → M) (currency : κ) (source target : α) (amount : M) :
    Conserved balance (post balance currency source target amount) := by
  refine ⟨{source, target}, fun more hmore k => ?_⟩
  have hsource : source ∈ more := hmore (Finset.mem_insert_self ..)
  have htarget : target ∈ more := hmore (Finset.mem_insert_of_mem (Finset.mem_singleton_self _))
  by_cases hk : k = currency
  · simp only [post, hk, if_true, Finset.sum_add_distrib, Finset.sum_sub_distrib,
      Finset.sum_ite_eq', hsource, htarget]
    exact sub_add_cancel _ _
  · simp only [post, hk, if_false]

end Conservation

section Postings

variable {may may' : α → Prop} {before after : κ → α → M}

theorem Posting.mono (hmay : ∀ a, may a → may' a) (h : Posting may before after) :
    Posting may' before after := by
  obtain ⟨currency, source, target, amount, hsource, hrest⟩ := h
  exact ⟨currency, source, target, amount, hmay source hsource, hrest⟩

theorem Postings.mono (hmay : ∀ a, may a → may' a) (h : Postings may before after) :
    Postings may' before after :=
  Relation.ReflTransGen.mono (fun _ _ => Posting.mono hmay) _ _ h

theorem Postings.conserved (h : Postings may before after) : Conserved before after := by
  induction h with
  | refl => exact .refl _
  | tail _ hlast ih =>
    obtain ⟨currency, source, target, amount, -, -, -, rfl⟩ := hlast
    exact ih.trans (conserved_post ..)

variable [IsOrderedAddMonoid M]

theorem Posting.kept (h : Posting may before after) {a : α} (ha : ¬may a) (k : κ) :
    before k a ≤ after k a := by
  obtain ⟨currency, source, target, amount, hsource, hpos, -, rfl⟩ := h
  have hne : a ≠ source := fun heq => ha (heq ▸ hsource)
  simp only [post, if_neg hne, sub_zero]
  split
  · split
    · exact le_add_of_nonneg_right hpos
    · exact (add_zero _).ge
  · exact le_rfl

theorem Postings.kept (h : Postings may before after) {a : α} (ha : ¬may a) (k : κ) :
    before k a ≤ after k a := by
  induction h with
  | refl => exact le_rfl
  | tail _ hlast ih => exact ih.trans (hlast.kept ha k)

theorem Posting.nonneg (h : Posting may before after) (hbefore : ∀ k a, 0 ≤ before k a) (k : κ)
    (a : α) : 0 ≤ after k a := by
  obtain ⟨currency, source, target, amount, -, hpos, hcovered, rfl⟩ := h
  have hgain : 0 ≤ if a = target then amount else 0 := by
    split
    · exact hpos
    · exact le_rfl
  simp only [post]
  split
  next hk =>
    subst hk
    refine add_nonneg ?_ hgain
    split
    next ha =>
      subst ha
      exact sub_nonneg.mpr hcovered
    next => simpa using hbefore k a
  next => exact hbefore k a

theorem Postings.nonneg (h : Postings may before after) (hbefore : ∀ k a, 0 ≤ before k a) :
    ∀ k a, 0 ≤ after k a := by
  induction h with
  | refl => exact hbefore
  | tail _ hlast ih => exact hlast.nonneg ih

end Postings

end TikkaRaffle.Lib.Ledger
