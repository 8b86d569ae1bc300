import TikkaRaffle.Escrow.Prices
import TikkaRaffle.Properties.Validation

/-! The prizes of all tiers against the prize. The loop that should leave the
rounding remainder to the last tier counts the earlier tiers in basis points,
so the tiers add up only where the last one takes everything. -/
namespace TikkaRaffle.Properties

open TikkaRaffle.Lib TikkaRaffle.Instance TikkaRaffle.Escrow Finset

variable {r : Raffle} {reading : TierReading}

/-- Every tier has a prize, none is negative, and together they are the prize. -/
def Partitions (reading : TierReading) (r : Raffle) : Prop :=
  ∃ amounts : Nat → Int,
    (∀ tier < r.prizes.length,
      calculateTierPrize reading r tier = .ok (amounts tier) ∧ 0 ≤ amounts tier) ∧
    ∑ tier ∈ range r.prizes.length, amounts tier = r.prizeAmount

/-- Every tier but the last has no basis points. -/
def LastTakesAll (prizes : List Nat) : Prop := ∀ bp ∈ prizes.dropLast, bp = 0

theorem prizes_split (hsum : r.prizes.sum = 10000) :
    ∃ front last, r.prizes = front ++ [last] := by
  rcases List.eq_nil_or_concat r.prizes with hnil | ⟨front, last, hsplit⟩
  · rw [hnil] at hsum
    cases hsum
  · exact ⟨front, last, hsplit.trans List.concat_eq_append⟩

section

variable {front : List Nat} {last tier : Nat} {amount : Int}

theorem calculateTierPrize_front (hsplit : r.prizes = front ++ [last])
    (htier : tier < front.length) :
    calculateTierPrize reading r tier = .ok amount ↔ tierShare r tier = .ok amount := by
  have hlength : r.prizes.length = front.length + 1 := by simp [hsplit]
  have hsome : r.prizes ≠ [] := by simp [hsplit]
  have hnotlast : tier ≠ r.prizes.length - 1 := by omega
  have hinside : tier < r.prizes.length := by omega
  simp only [calculateTierPrize, except_bind_ok, ensure_ok, exists_const, if_neg hnotlast]
  exact ⟨fun hok => hok.2.2, fun hok => ⟨hsome, hinside, hok⟩⟩

theorem calculateTierPrize_last (hsplit : r.prizes = front ++ [last]) :
    calculateTierPrize reading r front.length = .ok amount ↔
      ∃ allocated, allocatedBefore r front.length = .ok allocated ∧
        match reading with
        | .ifElse => checkedI128 (r.prizeAmount - allocated) = .ok amount
        | .fallThrough => tierShare r front.length = .ok amount := by
  have hlength : r.prizes.length = front.length + 1 := by simp [hsplit]
  have hsome : r.prizes ≠ [] := by simp [hsplit]
  have hlast : r.prizes.length - 1 = front.length := by omega
  have hinside : front.length < r.prizes.length := by omega
  simp only [calculateTierPrize, except_bind_ok, ensure_ok, exists_const, hlast, if_true]
  constructor
  · rintro ⟨-, -, allocated, hallocated, hok⟩
    refine ⟨allocated, hallocated, ?_⟩
    cases reading <;> exact hok
  · rintro ⟨allocated, hallocated, hok⟩
    refine ⟨hsome, hinside, allocated, hallocated, ?_⟩
    cases reading <;> exact hok

theorem sum_tiers (hsplit : r.prizes = front ++ [last]) (f : Nat → Int) :
    ∑ tier ∈ range r.prizes.length, f tier =
      ∑ tier ∈ range front.length, f tier + f front.length := by
  have hlength : r.prizes.length = front.length + 1 := by simp [hsplit]
  rw [hlength, sum_range_succ]

/-- A tier with basis points is counted for more than its share. -/
theorem share_lt_unscaled (hprize : 0 < r.prizeAmount) (hbp : 0 < r.prizes[tier]?.getD 0) :
    share r tier < r.prizeAmount * (r.prizes[tier]?.getD 0 : Nat) := by
  have hscaled : 0 < r.prizeAmount * (r.prizes[tier]?.getD 0 : Nat) :=
    Int.mul_pos hprize (Int.natCast_pos.mpr hbp)
  unfold share
  omega

theorem lastTakesAll_of_partitions (hprize : 0 < r.prizeAmount) (hsum : r.prizes.sum = 10000)
    (hparts : Partitions .ifElse r) : LastTakesAll r.prizes := by
  obtain ⟨front, last, hsplit⟩ := prizes_split hsum
  obtain ⟨amounts, hamounts, htotal⟩ := hparts
  have hlength : r.prizes.length = front.length + 1 := by simp [hsplit]
  have hearlier : ∑ tier ∈ range front.length, amounts tier =
      ∑ tier ∈ range front.length, share r tier := by
    apply sum_congr rfl
    intro tier htier
    have hinside := mem_range.mp htier
    have hok := (hamounts tier (by omega)).1
    exact tierShare_ok hprize.le ((calculateTierPrize_front hsplit hinside).mp hok)
  obtain ⟨allocated, hallocated, hlast⟩ :=
    (calculateTierPrize_last hsplit).mp (hamounts front.length (by omega)).1
  obtain ⟨-, hrest⟩ := checkedI128_ok.mp hlast
  have hcounted := (allocatedBefore_unscaled hprize.le hallocated).2
  rw [sum_tiers hsplit, hearlier] at htotal
  intro bp hbp
  rw [hsplit, List.dropLast_concat] at hbp
  obtain ⟨tier, htier, rfl⟩ := List.getElem_of_mem hbp
  by_contra hpos
  have hread : r.prizes[tier]? = some front[tier] := by
    rw [hsplit, List.getElem?_append_left htier, List.getElem?_eq_getElem htier]
  have hmore : ∑ tier ∈ range front.length, share r tier <
      ∑ tier ∈ range front.length, r.prizeAmount * (r.prizes[tier]?.getD 0 : Nat) := by
    refine sum_lt_sum (fun i _ => share_le_unscaled hprize.le i) ⟨tier, mem_range.mpr htier, ?_⟩
    exact share_lt_unscaled hprize (by rw [hread, Option.getD_some]; omega)
  omega

theorem allocatedBefore_zero (hsplit : r.prizes = front ++ [last]) (hzero : ∀ bp ∈ front, bp = 0)
    {count : Nat} (hcount : count ≤ front.length) : allocatedBefore r count = .ok 0 := by
  induction count with
  | zero => rfl
  | succ count ih =>
    have hread : r.prizes[count]? = some 0 := by
      rw [hsplit, List.getElem?_append_left hcount, List.getElem?_eq_getElem hcount,
        hzero _ (List.getElem_mem hcount)]
    have hbefore := ih (by omega)
    have hfits : checkedI128 0 = .ok 0 := checkedI128_ok.mpr ⟨by decide, rfl⟩
    have hround : checkedI128 (r.prizeAmount * (0 : Nat)) = .ok 0 := by
      rw [Int.natCast_zero, Int.mul_zero, hfits]
    simp only [allocatedBefore, List.range_succ, List.foldlM_append, List.foldlM_cons,
      List.foldlM_nil, except_bind_ok, okOr_ok, except_pure_ok] at hbefore ⊢
    exact ⟨0, hbefore, 0, ⟨0, hread, 0, hround, 0, hfits, hfits⟩, rfl⟩

theorem tierShare_of_fits (hbp : r.prizes[tier]? = some last) (hprize : 0 ≤ r.prizeAmount)
    (hfits : fitsI128 (r.prizeAmount * (last : Nat))) :
    tierShare r tier = .ok (r.prizeAmount * last / 10000) := by
  simp only [tierShare, except_bind_ok, okOr_ok, except_pure_ok]
  refine ⟨last, hbp, _, checkedI128_ok.mpr ⟨hfits, rfl⟩, ?_⟩
  exact Int.tdiv_eq_ediv_of_nonneg (Int.mul_nonneg hprize (Int.natCast_nonneg last))

theorem partitions_of_lastTakesAll (reading : TierReading) (hlow : 0 ≤ r.prizeAmount)
    (hhigh : r.prizeAmount ≤ 10 ^ 21) (hsum : r.prizes.sum = 10000)
    (hlast : LastTakesAll r.prizes) : Partitions reading r := by
  obtain ⟨front, last, hsplit⟩ := prizes_split hsum
  have hzero : ∀ bp ∈ front, bp = 0 := by
    rwa [LastTakesAll, hsplit, List.dropLast_concat] at hlast
  have hlength : r.prizes.length = front.length + 1 := by simp [hsplit]
  have hwhole : last = 10000 := by
    rw [hsplit, List.sum_append, List.sum_eq_zero hzero, List.sum_singleton, Nat.zero_add] at hsum
    exact hsum
  have hread : r.prizes[front.length]? = some 10000 := by
    rw [hsplit, List.getElem?_concat_length, hwhole]
  have hfits : fitsI128 r.prizeAmount ∧ fitsI128 (r.prizeAmount * (10000 : Nat)) := by
    unfold fitsI128 i128Min i128Max
    omega
  refine ⟨fun tier => if tier = front.length then r.prizeAmount else 0, fun tier htier => ?_, ?_⟩
  · by_cases htop : tier = front.length
    · subst htop
      simp only [if_true, calculateTierPrize_last hsplit]
      refine ⟨⟨0, allocatedBefore_zero hsplit hzero le_rfl, ?_⟩, hlow⟩
      cases reading with
      | ifElse =>
        rw [Int.sub_zero]
        exact checkedI128_ok.mpr ⟨hfits.1, rfl⟩
      | fallThrough =>
        refine (tierShare_of_fits hread hlow hfits.2).trans (congrArg Except.ok ?_)
        exact Int.mul_ediv_cancel _ (by decide)
    · have hinside : tier < front.length := by omega
      have hnone : r.prizes[tier]? = some 0 := by
        rw [hsplit, List.getElem?_append_left hinside, List.getElem?_eq_getElem hinside,
          hzero _ (List.getElem_mem hinside)]
      simp only [if_neg htop, calculateTierPrize_front hsplit hinside]
      refine ⟨(tierShare_of_fits hnone hlow ?_).trans ?_, le_rfl⟩
      · rw [Int.natCast_zero, Int.mul_zero]
        decide
      · rw [Int.natCast_zero, Int.mul_zero]
        rfl
  · rw [sum_tiers hsplit, if_pos rfl, sum_eq_zero, Int.zero_add]
    intro tier htier
    exact if_neg (mem_range.mp htier).ne

end

/-- The tiers share out the prize, whichever value the function returns, in just
the raffles whose last tier has all of the basis points. -/
theorem tiers_partition_iff (hsum : r.prizes.sum = 10000) (hlow : 10000 ≤ r.prizeAmount)
    (hhigh : r.prizeAmount ≤ 10 ^ 21) :
    (∀ reading, Partitions reading r) ↔ LastTakesAll r.prizes := by
  constructor
  · intro hparts
    exact lastTakesAll_of_partitions (by omega) hsum (hparts .ifElse)
  · intro hlast reading
    exact partitions_of_lastTakesAll reading (by omega) hhigh hsum hlast

def tieredRaffle (prizeAmount : Int) (prizes : List Nat) : Raffle :=
  storedRaffle Sample.creator { Sample.config with prizeAmount := prizeAmount, prizes := prizes }

theorem tiers_partition_iff_empty_first :
    (∀ reading, Partitions reading (tieredRaffle 20000 [0, 10000])) ↔ LastTakesAll [0, 10000] :=
  tiers_partition_iff (by decide) (by decide) (by decide)

/-- Two tiers: read one way the second is negative, read the other way a unit of
the prize goes to neither. -/
theorem two_tiers_do_not_partition :
    [3333, 6667].sum = 10000 ∧ (10000 : Int) ≤ 10001 ∧ (10001 : Int) ≤ 10 ^ 21 ∧
      ¬ Partitions .ifElse (tieredRaffle 10001 [3333, 6667]) ∧
      ¬ Partitions .fallThrough (tieredRaffle 10001 [3333, 6667]) := by
  refine ⟨by decide, by decide, by decide, ?_, ?_⟩
  · rintro ⟨amounts, hamounts, -⟩
    have hsecond : calculateTierPrize .ifElse (tieredRaffle 10001 [3333, 6667]) 1 =
        .ok (-33323332) := by decide
    obtain ⟨hok, hnonneg⟩ := hamounts 1 (by decide)
    have hamount : -33323332 = amounts 1 := Except.ok.inj (hsecond.symm.trans hok)
    omega
  · rintro ⟨amounts, hamounts, htotal⟩
    have hfirst : calculateTierPrize .fallThrough (tieredRaffle 10001 [3333, 6667]) 0 =
        .ok 3333 := by decide
    have hsecond : calculateTierPrize .fallThrough (tieredRaffle 10001 [3333, 6667]) 1 =
        .ok 6667 := by decide
    have hdust : 3333 = amounts 0 := Except.ok.inj (hfirst.symm.trans (hamounts 0 (by decide)).1)
    have hrest : 6667 = amounts 1 := Except.ok.inj (hsecond.symm.trans (hamounts 1 (by decide)).1)
    change ∑ tier ∈ range 2, amounts tier = 10001 at htotal
    rw [sum_range_succ, sum_range_one, ← hdust, ← hrest] at htotal
    omega

end TikkaRaffle.Properties
