import TikkaRaffle.Escrow.Records
import TikkaRaffle.Escrow.Registry
import Mathlib.Data.List.Lex
import Mathlib.Data.List.Sort

/-! Collecting a quorum: the submissions in storage are a list of pairs that
grows by one with every accepted call, the seed made from them does not depend
on their order, and the one that reaches the threshold ends the draw. -/
namespace TikkaRaffle.Escrow

open TikkaRaffle.Lib TikkaRaffle.Instance

variable {h : Host} {w w' : World} {r : Raffle} {s : Records} {i : Invocation}

/-- Bytes as numbers, where lexicographic order is a linear order. -/
def digits (bytes : Bytes) : List Nat := bytes.map UInt8.toNat

theorem digits_injective : Function.Injective digits :=
  List.map_injective_iff.mpr fun _ _ heq => UInt8.toNat_inj.mp heq

theorem bytesLt_iff (first last : Bytes) :
    bytesLt first last = true ↔ digits first < digits last := by
  induction first generalizing last with
  | nil => cases last <;> simp [bytesLt, digits]
  | cons a as ih =>
    cases last with
    | nil => simp [bytesLt, digits]
    | cons b bs =>
      have htail := ih bs
      unfold digits at htail ⊢
      rw [List.map_cons, List.map_cons, List.cons_lt_cons_iff, bytesLt, UInt8.toNat_inj]
      rcases lt_trichotomy a.toNat b.toNat with hlt | heq | hgt
      · simp [UInt8.lt_iff_toNat_lt, hlt]
      · have hab : a = b := UInt8.toNat_inj.mp heq
        simp [hab, htail]
      · have hne : a ≠ b := fun hab => hgt.ne' (congrArg UInt8.toNat hab)
        simp [UInt8.lt_iff_toNat_lt, hgt, hgt.not_gt, hne]

def behind (h : Host) (p q : Address × Nat) : Prop :=
  digits (h.toXdr (.address q.1)) ≤ digits (h.toXdr (.address p.1))

instance (h : Host) : DecidableRel (behind h) := fun _ _ => inferInstanceAs (Decidable (_ ≤ _))

instance (h : Host) : Std.Total (behind h) := ⟨fun _ _ => le_total _ _⟩

instance (h : Host) : IsTrans (Address × Nat) (behind h) := ⟨fun _ _ _ hpq hqr => hqr.trans hpq⟩

theorem insertSeed_eq (pair : Address × Nat) (sorted : List (Address × Nat)) :
    insertSeed h pair sorted = sorted.orderedInsert (behind h) pair := by
  induction sorted with
  | nil => rfl
  | cons last rest ih =>
    unfold insertSeed
    rw [List.orderedInsert_cons, ih]
    by_cases hlt : bytesLt (h.toXdr (.address pair.1)) (h.toXdr (.address last.1)) = true
    · have hnot : ¬behind h pair last := not_le.mpr ((bytesLt_iff _ _).mp hlt)
      rw [if_pos hlt, if_neg hnot]
    · have hbehind : behind h pair last := not_lt.mp fun hless => hlt ((bytesLt_iff _ _).mpr hless)
      rw [if_neg hlt, if_pos hbehind]

theorem foldl_insertSeed (pairs : List (Address × Nat)) :
    pairs.foldl (fun sorted pair => insertSeed h pair sorted) [] =
      pairs.reverse.insertionSort (behind h) := by
  rw [List.insertionSort, List.foldr_reverse]
  simp only [insertSeed_eq]

/-- The seed of a quorum depends on who submitted what, not on the order. -/
theorem aggregateQuorumSeeds_perm
    (hxdr : ∀ a b : Address, h.toXdr (.address a) = h.toXdr (.address b) → a = b)
    {pairs pairs' : List (Address × Nat)} (hdistinct : (pairs.map Prod.fst).Nodup)
    (hperm : pairs.Perm pairs') :
    aggregateQuorumSeeds h pairs = aggregateQuorumSeeds h pairs' := by
  have hfirst := List.perm_insertionSort (behind h) pairs.reverse
  have hlast := List.perm_insertionSort (behind h) pairs'.reverse
  have hmem : ∀ p, p ∈ pairs.reverse.insertionSort (behind h) → p ∈ pairs := fun p hp =>
    List.mem_reverse.mp (hfirst.mem_iff.mp hp)
  have hmem' : ∀ p, p ∈ pairs'.reverse.insertionSort (behind h) → p ∈ pairs := fun p hp =>
    hperm.mem_iff.mpr (List.mem_reverse.mp (hlast.mem_iff.mp hp))
  have hsorted : pairs.reverse.insertionSort (behind h) =
      pairs'.reverse.insertionSort (behind h) := by
    refine List.Perm.eq_of_pairwise (fun p q hp hq (hpq : behind h p q) hqp => ?_)
      (List.pairwise_insertionSort (behind h) _) (List.pairwise_insertionSort (behind h) _) ?_
    · have haddress := hxdr _ _ (digits_injective (le_antisymm hqp hpq))
      exact List.inj_on_of_nodup_map hdistinct (hmem p hp) (hmem' q hq) haddress
    · have hreversed : pairs.reverse.Perm pairs'.reverse :=
        (List.reverse_perm pairs).trans (hperm.trans (List.reverse_perm pairs').symm)
      exact hfirst.trans (hreversed.trans hlast.symm)
  unfold aggregateQuorumSeeds
  rw [foldl_insertSeed, foldl_insertSeed, hsorted, hperm.isEmpty_eq]

structure Holding (s : Records) (pairs : List (Address × Nat)) : Prop where
  order : s.submitted.getD [] = pairs.map Prod.fst
  stored : ∀ a seed, s.seeds a = some seed ↔ (a, seed) ∈ pairs
  distinct : (pairs.map Prod.fst).Nodup

namespace Holding

variable {pairs : List (Address × Nat)} {oracle : Address} {seed : Nat}

theorem nothing (hsubmitted : s.submitted.getD [] = []) (hseeds : ∀ a, s.seeds a = none) :
    Holding s [] := by
  refine ⟨hsubmitted, fun a seed => ?_, List.nodup_nil⟩
  rw [hseeds]
  simp

theorem congr {t : Records} (hs : Holding s pairs) (hseeds : t.seeds = s.seeds)
    (hsubmitted : t.submitted.getD [] = s.submitted.getD []) : Holding t pairs :=
  ⟨hsubmitted.trans hs.order, by rw [hseeds]; exact hs.stored, hs.distinct⟩

theorem absent (hs : Holding s pairs) (hnew : s.seeds oracle = none) :
    oracle ∉ pairs.map Prod.fst := by
  intro hmem
  obtain ⟨pair, hpair, rfl⟩ := List.mem_map.mp hmem
  have hstored := (hs.stored pair.1 pair.2).mpr hpair
  rw [hnew] at hstored
  cases hstored

theorem submit (seed : Nat) (hs : Holding s pairs) (hnew : s.seeds oracle = none) :
    Holding (s.submit oracle seed) (pairs ++ [(oracle, seed)]) where
  order := by
    rw [List.map_append, ← hs.order]
    rfl
  stored a value := by
    have habsent := hs.absent hnew
    simp only [Records.submit, List.mem_append, List.mem_singleton, Prod.mk.injEq]
    by_cases ha : a = oracle
    · subst ha
      have hnone : (a, value) ∉ pairs := fun hmem => habsent (List.mem_map_of_mem hmem)
      simp [hnone, eq_comm]
    · simp [ha, hs.stored]
  distinct := by
    rw [List.map_append]
    exact hs.distinct.append (List.nodup_singleton _) (by simpa using hs.absent hnew)

theorem delivered (hs : Holding s pairs) : s.delivered = pairs := by
  unfold Records.delivered
  rw [hs.order, List.filterMap_map]
  have hsome : ∀ pair ∈ pairs,
      ((fun oracle => (s.seeds oracle).map fun seed => (oracle, seed)) ∘ Prod.fst) pair =
        some pair := by
    intro pair hpair
    have hstored := (hs.stored pair.1 pair.2).mpr hpair
    simp only [Function.comp_apply, hstored, Option.map_some]
  rw [List.filterMap_congr hsome, List.filterMap_some]

theorem conclude (hs : Holding s pairs) (metadata : FairnessMetadata) (a : Address) :
    (s.conclude metadata).seeds a = none := by
  simp only [Records.conclude]
  split
  next => rfl
  next hnot =>
    cases hseed : s.seeds a with
    | none => rfl
    | some seed =>
      have hmem := (hs.stored a seed).mp hseed
      rw [hs.order] at hnot
      exact absurd (List.mem_map_of_mem hmem) hnot

end Holding

structure Collecting (h : Host) (config : QuorumConfig) (requestId : Nat)
    (pairs : List (Address × Nat)) (w : World) : Prop where
  books : Holds h (fun b => Lifecycle b ∧ Registry b) w
  drawing : ∃ r, w.raffle = some r ∧ r.status = .drawing ∧ r.randomnessSource = .quorum config
  locked : w.drawingLock.getD false = true
  request : w.randomnessRequestId = some requestId
  holding : Holding (records w) pairs
  registered : ∀ pair ∈ pairs, pair.1 ∈ config.oracles
  short : pairs.length < config.k

structure Concluded (h : Host) (config : QuorumConfig) (pairs : List (Address × Nat))
    (w : World) : Prop where
  books : Holds h (fun b => Lifecycle b ∧ Registry b) w
  finalized : ∃ r, w.raffle = some r ∧ r.status = .finalized
  drawn : ∃ metadata, w.randomnessSeed = some metadata ∧
    metadata.seed = aggregateQuorumSeeds h pairs ∧ metadata.quorumContributions = some pairs
  noSeed : ∀ a, w.quorumSeed a = none
  noOracles : w.quorumSubmittedOracles = none
  request : w.randomnessRequestId = none
  registered : ∀ pair ∈ pairs, pair.1 ∈ config.oracles
  distinct : (pairs.map Prod.fst).Nodup
  full : pairs.length = config.k

variable {config : QuorumConfig} {pairs : List (Address × Nat)} {oracle : Address}
  {requestId seed submittedId : Nat}

theorem registered_append (seed : Nat) (hregistered : ∀ pair ∈ pairs, pair.1 ∈ config.oracles)
    (horacle : oracle ∈ config.oracles) :
    ∀ pair ∈ pairs ++ [(oracle, seed)], pair.1 ∈ config.oracles := by
  intro pair hpair
  rcases List.mem_append.mp hpair with hold | hnew
  · exact hregistered pair hold
  · rw [List.mem_singleton.mp hnew]
    exact horacle

theorem finished_request {acts : List Act} {b b' : Books} (hpath : Path (Move h) b acts b')
    (hyields : acts = [] ∨ acts = [.finish]) (hbefore : b.raffle.status = .drawing)
    (hafter : b'.raffle.status = .finalized) : b'.requestId = none := by
  rcases hyields with rfl | rfl
  · cases hpath
    rw [hbefore] at hafter
    cases hafter
  · cases hpath.of_single with
    | finish => rfl

theorem Collecting.step (hw : Collecting h config requestId pairs w)
    (hcall : i.call = .provideQuorumRandomness oracle seed submittedId)
    (hok : invoke h i w = .ok w') :
    (submittedId = requestId ∧ oracle ∈ config.oracles ∧ oracle ∈ i.ctx.auths) ∧
      (Collecting h config requestId (pairs ++ [(oracle, seed)]) w' ∨
        Concluded h config (pairs ++ [(oracle, seed)]) w') := by
  have hbooks := hw.books.step (fun _ _ _ _ hk hm => hk.move hm) hok
  obtain ⟨r, r', acts, hr, hr', -, hyields, hpath⟩ :=
    committed_path hw.books.left hok
  obtain ⟨r₀, hr₀, hdrawing, hsource⟩ := hw.drawing
  rw [hr] at hr₀
  cases hr₀
  have hstores := invoke_stores hr hok
  rw [hcall] at hstores hyields
  obtain ⟨config', hsource', horacle, hauth, hid, hnew, hrest⟩ := hstores
  rw [hsource] at hsource'
  cases hsource'
  rw [hw.request] at hid
  cases hid
  have hholding := hw.holding.submit seed hnew
  have hlength : ((records w).submitted.getD []).length = pairs.length := by
    rw [hw.holding.order, List.length_map]
  have hregistered := registered_append seed hw.registered horacle
  refine ⟨⟨rfl, horacle, hauth⟩, ?_⟩
  rcases hrest with ⟨hshort, hkeys, hsame, -, hlock, hrequest⟩ |
    ⟨hreached, metadata, winners, r₁, -, hseed, hcontributions, hkeys, hr₁, hfinalized, -⟩
  · refine .inl ⟨hbooks, ⟨r, hsame, hdrawing, hsource⟩, hlock ▸ hw.locked,
      hrequest.trans hw.request, ?_, hregistered, ?_⟩
    · rw [hkeys]
      exact hholding
    · rw [List.length_append, ← hlength]
      exact hshort
  · rw [hr'] at hr₁
    cases hr₁
    have hend : w'.randomnessRequestId = none :=
      finished_request hpath (hyields.imp id And.right) hdrawing hfinalized
    refine .inr ⟨hbooks, ⟨r', hr', hfinalized⟩, ⟨metadata, ?_, ?_, ?_⟩, ?_, ?_, hend, hregistered,
      hholding.distinct, ?_⟩
    · exact congrArg Records.fairness hkeys
    · rw [hseed, hholding.delivered]
    · rw [hcontributions, hholding.delivered]
    · intro a
      rw [show w'.quorumSeed a = (records w').seeds a from rfl, hkeys]
      exact hholding.conclude metadata a
    · exact congrArg Records.submitted hkeys
    · rw [hlength] at hreached
      have hshort := hw.short
      rw [List.length_append]
      exact Nat.le_antisymm hshort hreached

theorem Concluded.closed (hw : Concluded h config pairs w)
    (hcall : i.call = .provideQuorumRandomness oracle seed submittedId) :
    ¬∃ w', invoke h i w = .ok w' := by
  rintro ⟨w', hok⟩
  obtain ⟨r, hr, -⟩ := hw.finalized
  have hstores := invoke_stores hr hok
  rw [hcall] at hstores
  obtain ⟨config', -, -, -, hid, -⟩ := hstores
  rw [hw.request] at hid
  cases hid

end TikkaRaffle.Escrow
