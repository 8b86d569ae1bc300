import Mathlib.Algebra.BigOperators.Group.Finset.Basic
import Mathlib.Data.Nat.ChineseRemainder
import Mathlib.Data.Nat.Factorial.BigOperators
import TikkaRaffle.Escrow.Positions

/-! What the winner selector computes: a partial shuffle for every seed. One
winner is drawn as fairly as 64 bits allow. Several are drawn from one number
that no round advances, so most joint outcomes have no seed. -/
namespace TikkaRaffle.Properties

open TikkaRaffle.Lib TikkaRaffle.Instance TikkaRaffle.Escrow

variable {total count seed : Nat}

/-- The code, its twin and the explicit array agree on a list of distinct
tickets. -/
theorem selects_by_shuffle (count : Nat) (hseed : seed < 2 ^ 64) (htotal : total < 2 ^ 32) :
    ∃ positions indices, drawnPositions (min count total) total seed = some positions ∧
      deal (List.range total) total positions = some indices ∧
      selectWinnerIndices seed total count = some indices ∧
      selectWinnerIndicesPure seed total count = some indices ∧
      indices.length = min count total ∧ indices.Nodup ∧ ∀ index ∈ indices, index < total := by
  obtain ⟨indices, hindices, hsmall⟩ :=
    selectWinnerIndices_some count hseed (Nat.lt_trans htotal (by decide))
  have hshuffle := hindices
  rw [selectWinnerIndices_eq_deal, Option.bind_eq_some_iff] at hshuffle
  obtain ⟨positions, hpositions, hdeal⟩ := hshuffle
  exact ⟨positions, indices, hpositions, hdeal, hindices,
    (selectWinnerIndicesPure_eq seed count htotal).trans hindices,
    selectWinnerIndices_length hindices, selectWinnerIndices_nodup hindices, hsmall⟩

theorem selects_by_shuffle_five :
    ∃ positions indices, drawnPositions 5 100 0xDEADBEEFCAFE1234 = some positions ∧
      deal (List.range 100) 100 positions = some indices ∧
      selectWinnerIndices 0xDEADBEEFCAFE1234 100 5 = some indices ∧
      selectWinnerIndicesPure 0xDEADBEEFCAFE1234 100 5 = some indices ∧
      indices.length = 5 ∧ indices.Nodup ∧ ∀ index ∈ indices, index < 100 :=
  selects_by_shuffle 5 (by decide : 0xDEADBEEFCAFE1234 < 2 ^ 64) (by decide : 100 < 2 ^ 32)

/-- From every seed the inner loop leaves after `n + 1` comparisons, for the
first `n` whose state is under the limit, so both selectors return. -/
theorem selection_terminates (hseed : seed < 2 ^ 64) :
    (∀ remaining, 1 ≤ remaining → remaining < 2 ^ 32 →
      ∃ n < 2 ^ 64,
        (∀ m < n, ¬ lcgAdvance^[m] seed < (2 ^ 64 - 1) / remaining * remaining) ∧
        lcgAdvance^[n] seed < (2 ^ 64 - 1) / remaining * remaining ∧
        ∀ fuel, rejectionSample fuel ((2 ^ 64 - 1) / remaining * remaining) seed =
          if n < fuel then some (lcgAdvance^[n] seed) else none) ∧
    ∀ total count, total < 2 ^ 32 →
      ∃ indices, selectWinnerIndices seed total count = some indices ∧
        selectWinnerIndicesPure seed total count = some indices := by
  constructor
  · intro remaining hpos hremaining
    obtain ⟨n, hn, hrejected, hbelow⟩ :=
      exists_accepted (largestMultiple_pos hpos (Nat.lt_trans hremaining (by decide))) hseed
    exact ⟨n, hn, hrejected, hbelow, rejectionSample_first hrejected hbelow⟩
  · intro total count htotal
    obtain ⟨indices, hindices, -⟩ :=
      selectWinnerIndices_some count hseed (Nat.lt_trans htotal (by decide))
    exact ⟨indices, hindices, (selectWinnerIndicesPure_eq seed count htotal).trans hindices⟩

/-- The last seed is over every limit, and the loop moves on. -/
theorem selection_terminates_last_seed :
    (∃ n < 2 ^ 64, (∀ m < n, ¬ lcgAdvance^[m] (2 ^ 64 - 1) < (2 ^ 64 - 1) / 7 * 7) ∧
        lcgAdvance^[n] (2 ^ 64 - 1) < (2 ^ 64 - 1) / 7 * 7 ∧
        ∀ fuel, rejectionSample fuel ((2 ^ 64 - 1) / 7 * 7) (2 ^ 64 - 1) =
          if n < fuel then some (lcgAdvance^[n] (2 ^ 64 - 1)) else none) ∧
      ∃ indices, selectWinnerIndices (2 ^ 64 - 1) 7 3 = some indices ∧
        selectWinnerIndicesPure (2 ^ 64 - 1) 7 3 = some indices :=
  ⟨(selection_terminates (by decide)).1 7 (by decide) (by decide),
    (selection_terminates (by decide)).2 7 3 (by decide)⟩

def seedsFor (total i : Nat) : Finset Nat :=
  {seed ∈ Finset.range (2 ^ 64) | selectWinnerIndices seed total 1 = some [i]}

def rejectedSeeds (total : Nat) : Finset Nat :=
  {seed ∈ Finset.range (2 ^ 64) | ¬ seed < (2 ^ 64 - 1) / total * total}

theorem largestMultiple_lt (total : Nat) : (2 ^ 64 - 1) / total * total < 2 ^ 64 := by
  have hle := Nat.div_mul_le_self (2 ^ 64 - 1) total
  omega

theorem card_rejectedSeeds (total : Nat) :
    (rejectedSeeds total).card = 2 ^ 64 - (2 ^ 64 - 1) / total * total := by
  have htail : rejectedSeeds total =
      Finset.range (2 ^ 64) \ Finset.range ((2 ^ 64 - 1) / total * total) := by
    ext seed
    rw [rejectedSeeds, Finset.mem_filter, Finset.mem_sdiff, Finset.mem_range, Finset.mem_range]
  rw [htail, Finset.card_sdiff_of_subset (Finset.range_subset_range.mpr
    (largestMultiple_lt total).le), Finset.card_range, Finset.card_range]

theorem selects_residue (hseed : seed < (2 ^ 64 - 1) / total * total) :
    selectWinnerIndices seed total 1 = some [seed % total] := by
  have hpos : total ≠ 0 := by
    rintro rfl
    simp at hseed
  have hone : min 1 total = 1 := by omega
  unfold selectWinnerIndices
  rw [if_neg (by omega), hone]
  simp only [selectRounds, rejectionSample_accepts (Nat.two_pow_pos 64) hseed]
  rfl

/-- The accepted seeds of an index are the multiples of the deck size, shifted by it. -/
theorem card_accepted {i : Nat} (hi : i < total) (q : Nat) :
    {seed ∈ Finset.range (q * total) | seed % total = i}.card = q := by
  have hrow : {seed ∈ Finset.range (q * total) | seed % total = i} =
      (Finset.range q).image fun k => i + total * k := by
    ext seed
    rw [Finset.mem_filter, Finset.mem_image, Finset.mem_range]
    constructor
    · rintro ⟨hseed, rfl⟩
      exact ⟨seed / total, Finset.mem_range.mpr (Nat.div_lt_of_lt_mul (by rwa [Nat.mul_comm])),
        Nat.mod_add_div ..⟩
    · rintro ⟨k, hk, rfl⟩
      rw [Finset.mem_range] at hk
      refine ⟨?_, by rw [Nat.add_mul_mod_self_left, Nat.mod_eq_of_lt hi]⟩
      calc i + total * k < total + total * k := Nat.add_lt_add_right hi _
        _ = (k + 1) * total := by rw [Nat.add_one_mul, Nat.add_comm, Nat.mul_comm]
        _ ≤ q * total := Nat.mul_le_mul_right _ hk
  rw [hrow, Finset.card_image_of_injective, Finset.card_range]
  intro k k' hk
  exact Nat.eq_of_mul_eq_mul_left (by omega : 0 < total) (Nat.add_left_cancel hk)

theorem card_seedsFor {i : Nat} (hi : i < total) :
    (2 ^ 64 - 1) / total ≤ (seedsFor total i).card ∧
      (seedsFor total i).card ≤ (2 ^ 64 - 1) / total + (rejectedSeeds total).card := by
  have haccepted := card_accepted hi ((2 ^ 64 - 1) / total)
  constructor
  · rw [← haccepted]
    apply Finset.card_le_card
    intro seed hseed
    rw [Finset.mem_filter, Finset.mem_range] at hseed
    rw [seedsFor, Finset.mem_filter, Finset.mem_range, selects_residue hseed.1, hseed.2]
    exact ⟨Nat.lt_trans hseed.1 (largestMultiple_lt total), rfl⟩
  · rw [← haccepted]
    refine (Finset.card_le_card ?_).trans (Finset.card_union_le _ _)
    intro seed hseed
    rw [seedsFor, Finset.mem_filter, Finset.mem_range] at hseed
    rw [Finset.mem_union, rejectedSeeds, Finset.mem_filter, Finset.mem_filter, Finset.mem_range,
      Finset.mem_range]
    by_cases hbelow : seed < (2 ^ 64 - 1) / total * total
    · rw [selects_residue hbelow] at hseed
      simp only [Option.some.injEq, List.cons.injEq, and_true] at hseed
      exact .inl ⟨hbelow, hseed.2⟩
    · exact .inr ⟨hseed.1, hbelow⟩

/-- Two tickets differ by no more than the seeds that are turned away. -/
theorem single_winner_is_fair {i j : Nat} (hi : i < total) (hj : j < total) :
    |((seedsFor total i).card : Int) - (seedsFor total j).card| ≤ (rejectedSeeds total).card ∧
      (rejectedSeeds total).card = 2 ^ 64 - (2 ^ 64 - 1) / total * total ∧
      (rejectedSeeds total).card ≤ total ∧
      (2 ^ 64 - 1) / total ≤ (seedsFor total i).card := by
  have hfor := card_seedsFor hi
  have hother := card_seedsFor hj
  have htail := card_rejectedSeeds total
  have hshort : (rejectedSeeds total).card ≤ total := by
    have hsplit := Nat.div_add_mod' (2 ^ 64 - 1) total
    have hremainder := Nat.mod_lt (2 ^ 64 - 1) (by omega : total > 0)
    omega
  refine ⟨abs_sub_le_iff.mpr ⟨?_, ?_⟩, htail, hshort, hfor.1⟩ <;> omega

theorem single_winner_is_fair_nine :
    |((seedsFor 9 0).card : Int) - (seedsFor 9 8).card| ≤ (rejectedSeeds 9).card ∧
      (rejectedSeeds 9).card = 2 ^ 64 - (2 ^ 64 - 1) / 9 * 9 ∧ (rejectedSeeds 9).card ≤ 9 ∧
      (2 ^ 64 - 1) / 9 ≤ (seedsFor 9 0).card :=
  single_winner_is_fair (by decide) (by decide)

/-- Every arrangement of `count` distinct tickets is some seed's outcome. -/
def EveryDrawPossible (total count : Nat) : Prop :=
  ∀ indices : List Nat, indices.length = count → indices.Nodup → (∀ i ∈ indices, i < total) →
    ∃ seed < 2 ^ 64, selectWinnerIndices seed total count = some indices

/-- Outcomes and positions are in step, so the positions decide. -/
theorem everyDrawPossible_iff_positions (hcount : count ≤ total) :
    EveryDrawPossible total count ↔
      ∀ positions : List Nat, positions.length = count → Dealable total positions →
        ∃ seed < 2 ^ 64, drawnPositions count total seed = some positions := by
  have hdeck : (List.range total).take total = List.range total :=
    List.take_of_length_le (Nat.le_of_eq List.length_range)
  have hlive : total ≤ (List.range total).length := Nat.le_of_eq List.length_range.symm
  have hcode (seed : Nat) : selectWinnerIndices seed total count =
      (drawnPositions count total seed).bind (deal (List.range total) total) := by
    rw [selectWinnerIndices_eq_deal, Nat.min_eq_left hcount]
  constructor
  · intro hpossible positions hlength hdealable
    obtain ⟨cards, kept, hdeal, hperm⟩ := deal_perm hdealable hlive
    rw [hdeck] at hperm
    have hdistinct : (cards ++ kept).Nodup := hperm.nodup_iff.mpr List.nodup_range
    obtain ⟨seed, hseed, hselect⟩ := hpossible cards ((deal_length hdeal).trans hlength)
      (List.nodup_append.mp hdistinct).1 fun i hi =>
        List.mem_range.mp (hperm.subset (List.mem_append_left _ hi))
    rw [hcode, Option.bind_eq_some_iff] at hselect
    obtain ⟨drawn, hdrawn, hsame⟩ := hselect
    refine ⟨seed, hseed, hdrawn.trans (congrArg some ?_)⟩
    exact deal_injective (by rw [hdeck]; exact List.nodup_range) hlive
      (drawnPositions_dealable hcount hdrawn).1 hdealable (hsame.trans hdeal.symm)
  · intro hpossible indices hlength hdistinct hsmall
    obtain ⟨positions, hdealable, hdeal⟩ := exists_deal hdistinct
      (fun i hi => by rw [hdeck]; exact List.mem_range.mpr (hsmall i hi)) hlive
    obtain ⟨seed, hseed, hdrawn⟩ :=
      hpossible positions ((deal_length hdeal).symm.trans hlength) hdealable
    refine ⟨seed, hseed, ?_⟩
    rw [hcode, hdrawn]
    exact hdeal

/-! Coprime moduli leave every vector of positions a common seed. -/

theorem prod_remaining (total count : Nat) :
    ((List.range count).map fun i => total - i).prod = total.descFactorial count := by
  induction count with
  | zero => rfl
  | succ count ih =>
    rw [List.range_succ, List.map_append, List.prod_append, ih, Nat.descFactorial_succ,
      Nat.mul_comm]
    simp

theorem everyDrawPossible_of_coprime (hpos : 0 < total) (htotal : total < 2 ^ 32)
    (hcount : count ≤ total) (hsmall : total.descFactorial count ≤ 2 ^ 32)
    (hcoprime : (List.range count).Pairwise fun i j => Nat.Coprime (total - i) (total - j)) :
    EveryDrawPossible total count := by
  refine (everyDrawPossible_iff_positions hcount).mpr fun positions hlength hdealable => ?_
  let crt := Nat.chineseRemainderOfList (fun i => positions[i]?.getD 0) (fun i => total - i)
    (List.range count) hcoprime
  have hbelow : crt.val < 2 ^ 32 := by
    refine Nat.lt_of_lt_of_le (Nat.chineseRemainderOfList_lt_prod _ _ _ hcoprime ?_) ?_
    · intro i hi
      have hi := List.mem_range.mp hi
      omega
    · rwa [prod_remaining]
  refine ⟨crt.val, Nat.lt_trans hbelow (by decide), ?_⟩
  rw [drawnPositions_clean hcount (by omega), Option.some.injEq]
  apply List.ext_getElem
  · rw [List.length_map, List.length_range, hlength]
  intro i hi hi'
  have hresidue : crt.val % (total - i) = positions[i]?.getD 0 % (total - i) :=
    crt.property i (List.mem_range.mpr (hlength ▸ hi'))
  rw [List.getElem_map, List.getElem_range, hresidue, List.getElem?_eq_getElem hi',
    Option.getD_some, Nat.mod_eq_of_lt (dealable_iff.mp hdealable i hi')]

theorem coprime_succ (m : Nat) : Nat.Coprime (m + 1) m :=
  Nat.coprime_self_add_left.mpr (Nat.coprime_one_left m)

theorem coprime_remaining (hcount : count ≤ total)
    (hfew : count ≤ 2 ∨ count = 3 ∧ total % 2 = 1) :
    (List.range count).Pairwise fun i j => Nat.Coprime (total - i) (total - j) := by
  obtain ⟨m, rfl⟩ : ∃ m, total = m + count := ⟨total - count, by omega⟩
  obtain rfl | rfl | rfl | ⟨rfl, hodd⟩ : count = 0 ∨ count = 1 ∨ count = 2 ∨
      count = 3 ∧ (m + count) % 2 = 1 := by omega
  · exact .nil
  · exact List.pairwise_singleton ..
  · exact List.pairwise_pair.mpr (coprime_succ (m + 1))
  · have hskip : Nat.Coprime (m + 1 + 2) (m + 1) :=
      Nat.coprime_self_add_left.mpr (Nat.coprime_two_left.mpr (Nat.odd_iff.mpr (by omega)))
    refine .cons ?_ (List.pairwise_pair.mpr (coprime_succ (m + 1)))
    intro j hj
    rcases List.mem_pair.mp hj with rfl | rfl
    · exact coprime_succ (m + 2)
    · exact hskip

/-! Two even moduli share a parity. -/

def parityDraw (count i a : Nat) : List Nat :=
  (List.range count).map fun t => if t = i + 1 then a else if t = i + 2 then 1 else 0

@[simp] theorem parityDraw_length (count i a : Nat) : (parityDraw count i a).length = count := by
  rw [parityDraw, List.length_map, List.length_range]

@[simp] theorem parityDraw_getElem {i a t : Nat} (ht : t < (parityDraw count i a).length) :
    (parityDraw count i a)[t] = if t = i + 1 then a else if t = i + 2 then 1 else 0 := by
  simp only [parityDraw, List.getElem_map, List.getElem_range]

theorem parityDraw_dealable {i a : Nat} (ha : a ≤ 1) (hcount : count ≤ total)
    (hi : i + 3 ≤ count) (heven : (total - i) % 2 = 0) : Dealable total (parityDraw count i a) := by
  refine dealable_iff.mpr fun t ht => ?_
  have hlength : t < count := by rwa [parityDraw_length] at ht
  rw [parityDraw_getElem]
  split
  next => omega
  next =>
    split
    next => omega
    next => omega

/-- A run is settled by the first candidate. Outside the tail it is the reduction
of one number, and in the tail a residue has one candidate. -/
theorem drawnPositions_head {r : Nat} {positions : List Nat} (hcount : count + 1 ≤ total)
    (h : drawnPositions (count + 1) total seed = some (r :: positions)) :
    ∃ candidate < (2 ^ 64 - 1) / total * total, candidate % total = r ∧
      drawnPositions count (total - 1) candidate = some positions ∧
      (candidate + total < 2 ^ 64 →
        r :: positions = (List.range (count + 1)).map fun i => candidate % (total - i)) := by
  obtain ⟨candidate, rest, hcandidate, hrest, hpositions⟩ := drawnPositions_cons h
  have hlimit := rejectionSample_lt hcandidate
  have haccepted := rejectionSample_accepts (Nat.two_pow_pos 64) hlimit
  rw [List.cons.injEq] at hpositions
  obtain ⟨rfl, rfl⟩ := hpositions
  refine ⟨candidate, hlimit, rfl, hrest, fun hclean => ?_⟩
  have hrun : drawnPositions (count + 1) total candidate =
      some (candidate % total :: positions) := by
    simp only [drawnPositions, haccepted, Option.bind_eq_bind, Option.bind_some, hrest]
    rfl
  exact Option.some.inj (hrun.symm.trans (drawnPositions_clean hcount hclean))

theorem tail_residue_injective {c c' : Nat} (hresidue : c % total = c' % total)
    (hc : c < 2 ^ 64) (hc' : c' < 2 ^ 64) (htail : 2 ^ 64 ≤ c + total)
    (htail' : 2 ^ 64 ≤ c' + total) : c = c' := by
  have hsplit := Nat.div_add_mod c total
  have hsplit' := Nat.div_add_mod c' total
  have hquotient : c / total = c' / total := by
    rcases Nat.lt_trichotomy (c / total) (c' / total) with hlt | heq | hlt
    · have hstep := Nat.mul_le_mul_left total hlt
      rw [Nat.mul_succ] at hstep
      omega
    · exact heq
    · have hstep := Nat.mul_le_mul_left total hlt
      rw [Nat.mul_succ] at hstep
      omega
  rw [← hsplit, ← hsplit', hresidue, hquotient]

theorem parityDraw_head (count i a : Nat) :
    parityDraw (count + 1) i a = 0 :: (parityDraw (count + 1) i a).tail := by
  unfold parityDraw
  rw [List.range_succ_eq_map, List.map_cons, List.tail_cons, if_neg (by omega),
    if_neg (by omega)]

/-- Away from the tail the even position and the odd one would be residues of
one number. -/
theorem parityDraw_not_clean {candidate i a : Nat} (hi : i + 3 ≤ count)
    (heven : (total - i) % 2 = 0) :
    parityDraw count i a ≠ (List.range count).map fun t => candidate % (total - t) := by
  intro hpositions
  have hat (t : Nat) (ht : t < count) : candidate % (total - t) =
      if t = i + 1 then a else if t = i + 2 then 1 else 0 := by
    rw [← parityDraw_getElem (by rwa [parityDraw_length])]
    simp only [hpositions, List.getElem_map, List.getElem_range]
  have hfirst := hat i (by omega)
  have hthird := hat (i + 2) (by omega)
  rw [if_neg (by omega), if_neg (by omega)] at hfirst
  rw [if_neg (by omega), if_pos rfl] at hthird
  have hzero : candidate % 2 = 0 := by
    rw [← Nat.mod_mod_of_dvd candidate (Nat.dvd_of_mod_eq_zero heven), hfirst]
  have hone : candidate % 2 = 1 := by
    rw [← Nat.mod_mod_of_dvd candidate (Nat.dvd_of_mod_eq_zero
      (by omega : (total - (i + 2)) % 2 = 0)), hthird]
  omega

/-- Two outcomes with one first position and a parity that no single number has:
both would need the one candidate of that residue in the tail. -/
theorem not_everyDrawPossible {i : Nat} (hcount : count ≤ total) (hi : i + 3 ≤ count)
    (heven : (total - i) % 2 = 0) : ¬ EveryDrawPossible total count := by
  intro hpossible
  rw [everyDrawPossible_iff_positions hcount] at hpossible
  obtain ⟨count, rfl⟩ : ∃ k, count = k + 1 := ⟨count - 1, by omega⟩
  have hrun (a : Nat) (ha : a ≤ 1) : ∃ candidate < 2 ^ 64, candidate % total = 0 ∧
      drawnPositions count (total - 1) candidate = some (parityDraw (count + 1) i a).tail ∧
      2 ^ 64 ≤ candidate + total := by
    obtain ⟨seed, -, hdrawn⟩ := hpossible (parityDraw (count + 1) i a) (parityDraw_length ..)
      (parityDraw_dealable ha hcount hi heven)
    rw [parityDraw_head] at hdrawn
    obtain ⟨candidate, hcandidate, hzero, hrest, hclean⟩ := drawnPositions_head hcount hdrawn
    rw [← parityDraw_head] at hclean
    exact ⟨candidate, Nat.lt_trans hcandidate (largestMultiple_lt total), hzero, hrest,
      Nat.le_of_not_lt fun hlow => parityDraw_not_clean hi heven (hclean hlow)⟩
  obtain ⟨candidate, hcandidate, hzero, hrest, htail⟩ := hrun 0 (by omega)
  obtain ⟨candidate', hcandidate', hzero', hrest', htail'⟩ := hrun 1 le_rfl
  obtain rfl := tail_residue_injective (hzero.trans hzero'.symm) hcandidate hcandidate' htail htail'
  have htails : (parityDraw (count + 1) i 0).tail = (parityDraw (count + 1) i 1).tail :=
    Option.some.inj (hrest.symm.trans hrest')
  have hat : (parityDraw (count + 1) i 0)[i + 1]? = (parityDraw (count + 1) i 1)[i + 1]? := by
    rw [← List.getElem?_tail, ← List.getElem?_tail, htails]
  rw [List.getElem?_eq_getElem (by rw [parityDraw_length]; omega),
    List.getElem?_eq_getElem (by rw [parityDraw_length]; omega), parityDraw_getElem,
    parityDraw_getElem, if_pos rfl, if_pos rfl] at hat
  cases hat

/-- Independent draws, wherever the outcomes are few enough for the seeds. -/
theorem every_draw_possible_iff (hpos : 0 < total) (htotal : total < 2 ^ 32)
    (hcount : count ≤ total) (hsmall : total.descFactorial count ≤ 2 ^ 32) :
    EveryDrawPossible total count ↔ count ≤ 2 ∨ count = 3 ∧ total % 2 = 1 := by
  constructor
  · intro hpossible
    by_contra hmany
    exact not_everyDrawPossible (i := total % 2) hcount (by omega) (by omega) hpossible
  · intro hfew
    exact everyDrawPossible_of_coprime hpos htotal hcount hsmall (coprime_remaining hcount hfew)

theorem every_draw_possible_iff_nine :
    EveryDrawPossible 9 3 ↔ 3 ≤ 2 ∨ 3 = 3 ∧ 9 % 2 = 1 :=
  every_draw_possible_iff (by decide) (by decide) (by decide) (by decide)

/-- Of four tickets, no seed draws the first, the last and the second. -/
theorem four_tickets_have_no_such_draw :
    Nat.descFactorial 4 3 ≤ 2 ^ 32 ∧ [0, 3, 1].Nodup ∧ (∀ i ∈ [0, 3, 1], i < 4) ∧
      ∀ seed < 2 ^ 64, selectWinnerIndices seed 4 3 ≠ some [0, 3, 1] := by
  refine ⟨by decide, by decide, by decide, fun seed _ hselect => ?_⟩
  rw [selectWinnerIndices_eq_deal, Option.bind_eq_some_iff] at hselect
  obtain ⟨positions, hdrawn, hdeal⟩ := hselect
  have hpositions : positions = [0, 0, 1] :=
    deal_injective (show ((List.range 4).take 4).Nodup by decide) (by decide)
      (drawnPositions_dealable (by decide) hdrawn).1 (by simp [Dealable]) (hdeal.trans rfl)
  subst hpositions
  obtain ⟨candidate, hlimit, -, -, hclean⟩ := drawnPositions_head (by decide) hdrawn
  have hresidues := hclean (by omega)
  simp only [List.range_succ, List.range_zero, List.nil_append, List.cons_append, List.map_cons,
    List.map_nil, List.cons.injEq, and_true] at hresidues
  omega

end TikkaRaffle.Properties
