import Mathlib.Algebra.BigOperators.Intervals
import Mathlib.Algebra.Ring.GeomSum
import Mathlib.Data.Fintype.EquivFin
import Mathlib.Data.Nat.ModEq
import Mathlib.Data.Nat.Prime.Basic
import Mathlib.Tactic.Ring

/-! Linear congruential generators modulo a power of two. With a multiplier of
the form `4 * q + 1` and an odd increment the period is full: from every state
every residue is reached. -/
namespace TikkaRaffle.Lib

open Finset

variable {a c : ℕ}

def affine (a c x : ℕ) : ℕ := x * a + c

theorem iterate_affine (d c n x : ℕ) :
    (affine (d + 1) c)^[n] x = x + (∑ i ∈ range n, (d + 1) ^ i) * (d * x + c) := by
  induction n with
  | zero => simp
  | succ n ih =>
    rw [Function.iterate_succ_apply', ih, geom_sum_succ]
    unfold affine
    ring

theorem geom_sum_double (a n : ℕ) :
    ∑ i ∈ range (n + n), a ^ i = (∑ i ∈ range n, a ^ i) * (1 + a ^ n) := by
  have hshift : ∑ i ∈ range n, a ^ (n + i) = a ^ n * ∑ i ∈ range n, a ^ i := by
    rw [mul_sum]
    apply sum_congr rfl
    intro i _
    exact pow_add a n i
  rw [sum_range_add, hshift]
  ring

theorem geom_sum_mod_two (ha : a % 2 = 1) (n : ℕ) : (∑ i ∈ range n, a ^ i) % 2 = n % 2 := by
  induction n with
  | zero => rfl
  | succ n ih =>
    rw [geom_sum_succ, Nat.add_mod, Nat.mul_mod, ha, ih]
    omega

theorem two_pow_dvd_mul_odd {m s u : ℕ} (hu : u % 2 = 1) (h : 2 ^ m ∣ s * u) : 2 ^ m ∣ s := by
  have hcoprime : Nat.Coprime (2 ^ m) u :=
    Nat.Coprime.pow_left m (Nat.coprime_two_left.mpr (Nat.odd_iff.mpr hu))
  exact hcoprime.dvd_of_dvd_mul_right h

/-- The sum has no more factors of two than its length. -/
theorem two_pow_dvd_of_geom_sum (ha : a % 4 = 1) {m n : ℕ}
    (h : 2 ^ m ∣ ∑ i ∈ range n, a ^ i) : 2 ^ m ∣ n := by
  induction m generalizing n with
  | zero => simp
  | succ m ih =>
    have heven : n % 2 = 0 := by
      have htwo : 2 ∣ ∑ i ∈ range n, a ^ i := (dvd_pow_self 2 (Nat.succ_ne_zero m)).trans h
      have hparity := geom_sum_mod_two (a := a) (by omega) n
      omega
    obtain ⟨k, rfl⟩ : ∃ k, n = k + k := ⟨n / 2, by omega⟩
    have hpow : a ^ k % 4 = 1 := by
      rw [Nat.pow_mod, ha, one_pow]
      rfl
    obtain ⟨q, hq⟩ : ∃ q, 1 + a ^ k = 2 * (2 * q + 1) := ⟨a ^ k / 4, by omega⟩
    rw [geom_sum_double, hq, mul_left_comm, pow_succ, mul_comm (2 ^ m) 2] at h
    have hhalf : 2 ^ m ∣ (∑ i ∈ range k, a ^ i) * (2 * q + 1) :=
      Nat.dvd_of_mul_dvd_mul_left (by decide) h
    have hk : 2 ^ m ∣ k := ih (two_pow_dvd_mul_odd (by omega) hhalf)
    rw [← two_mul, pow_succ, mul_comm (2 ^ m) 2]
    exact Nat.mul_dvd_mul_left 2 hk

/-- Steps that come back to the same residue are a multiple of the modulus. -/
theorem two_pow_dvd_of_returns (ha : a % 4 = 1) (hc : c % 2 = 1) {m n x : ℕ}
    (h : (affine a c)^[n] x % 2 ^ m = x % 2 ^ m) : 2 ^ m ∣ n := by
  obtain ⟨d, rfl⟩ : ∃ d, a = d + 1 := ⟨a - 1, by omega⟩
  rw [iterate_affine] at h
  have hodd : (d * x + c) % 2 = 1 := by
    obtain ⟨e, rfl⟩ : ∃ e, d = 2 * e := ⟨d / 2, by omega⟩
    rw [mul_assoc]
    omega
  have hdvd : 2 ^ m ∣ (∑ i ∈ range n, (d + 1) ^ i) * (d * x + c) :=
    (Nat.modEq_zero_iff_dvd).mp (Nat.ModEq.add_left_cancel' x h)
  exact two_pow_dvd_of_geom_sum ha (two_pow_dvd_mul_odd hodd hdvd)

theorem iterate_affine_injective (ha : a % 4 = 1) (hc : c % 2 = 1) {m i j x : ℕ}
    (hi : i < 2 ^ m) (hj : j < 2 ^ m)
    (h : (affine a c)^[i] x % 2 ^ m = (affine a c)^[j] x % 2 ^ m) : i = j := by
  wlog hle : i ≤ j generalizing i j
  · exact (this hj hi h.symm (by omega)).symm
  obtain ⟨k, rfl⟩ := Nat.exists_eq_add_of_le hle
  rw [Nat.add_comm i k, Function.iterate_add_apply] at h
  have hdvd : 2 ^ m ∣ k := two_pow_dvd_of_returns ha hc h.symm
  have hzero : k = 0 := Nat.eq_zero_of_dvd_of_lt hdvd (by omega)
  omega

theorem exists_iterate_affine (ha : a % 4 = 1) (hc : c % 2 = 1) (m x : ℕ) {y : ℕ}
    (hy : y < 2 ^ m) : ∃ n < 2 ^ m, (affine a c)^[n] x % 2 ^ m = y := by
  let visit : Fin (2 ^ m) → Fin (2 ^ m) := fun n =>
    ⟨(affine a c)^[n.val] x % 2 ^ m, Nat.mod_lt _ (Nat.two_pow_pos m)⟩
  have hinjective : Function.Injective visit := by
    intro i j hij
    apply Fin.ext
    exact iterate_affine_injective ha hc i.isLt j.isLt (congrArg Fin.val hij)
  obtain ⟨n, hn⟩ := Finite.injective_iff_surjective.mp hinjective ⟨y, hy⟩
  exact ⟨n.val, n.isLt, congrArg Fin.val hn⟩

end TikkaRaffle.Lib
