import Mathlib.Algebra.BigOperators.Intervals
import Mathlib.Algebra.Order.BigOperators.Group.Finset
import Mathlib.Algebra.Order.Floor.Div
import Mathlib.Data.Int.CardIntervalMod

/-! # Counting the integers below a bound by their remainder -/

namespace Residues

variable {modulus : ℕ}

/-- Every remainder occurs equally often, up to one. -/
theorem count_eq (hpos : 0 < modulus) (bound residue : ℕ) (h : residue < modulus) :
    Nat.count (fun n => n % modulus = residue) bound =
      bound / modulus + if residue < bound % modulus then 1 else 0 := by
  have hcount := Nat.count_modEq_card bound hpos residue
  simpa only [Nat.ModEq, Nat.mod_eq_of_lt h] using hcount

theorem le_count (hpos : 0 < modulus) (bound residue : ℕ) (h : residue < modulus) :
    bound / modulus ≤ Nat.count (fun n => n % modulus = residue) bound := by
  rw [count_eq hpos bound residue h]
  omega

theorem count_le (hpos : 0 < modulus) (bound residue : ℕ) (h : residue < modulus) :
    Nat.count (fun n => n % modulus = residue) bound ≤ bound ⌈/⌉ modulus := by
  rw [count_eq hpos bound residue h, Nat.ceilDiv_eq_add_pred_div,
    Nat.le_div_iff_mul_le hpos]
  have hdiv := Nat.div_add_mod' bound modulus
  split
  · rw [Nat.add_mul]
    omega
  · rw [Nat.add_zero]
    omega

theorem count_le_succ (hpos : 0 < modulus) (bound : ℕ) {a b : ℕ} (ha : a < modulus)
    (hb : b < modulus) :
    Nat.count (fun n => n % modulus = a) bound ≤ Nat.count (fun n => n % modulus = b) bound + 1 := by
  rw [count_eq hpos bound a ha, count_eq hpos bound b hb]
  split <;> omega

/-- The numbers whose remainder lies in a range are those with each remainder of the range. -/
theorem count_range (lo hi bound : ℕ) :
    Nat.count (fun n => lo ≤ n % modulus ∧ n % modulus < hi) bound =
      ∑ residue ∈ Finset.Ico lo hi, Nat.count (fun n => n % modulus = residue) bound := by
  induction bound with
  | zero => simp
  | succ bound ih =>
      simp only [Nat.count_succ, ih, Finset.sum_add_distrib, Finset.sum_ite_eq, Finset.mem_Ico]

/-- A range of `k` remainders is hit `k` times as often as one, within the two roundings. -/
theorem count_range_bounds (hpos : 0 < modulus) {lo hi : ℕ} (hhi : hi ≤ modulus) (bound : ℕ) :
    (hi - lo) * (bound / modulus) ≤
        Nat.count (fun n => lo ≤ n % modulus ∧ n % modulus < hi) bound ∧
      Nat.count (fun n => lo ≤ n % modulus ∧ n % modulus < hi) bound ≤
        (hi - lo) * (bound ⌈/⌉ modulus) := by
  have hlt : ∀ residue ∈ Finset.Ico lo hi, residue < modulus := by
    intro residue hmem
    exact (Finset.mem_Ico.mp hmem).2.trans_le hhi
  rw [count_range]
  constructor
  · have hsum := Finset.card_nsmul_le_sum (Finset.Ico lo hi) _ (bound / modulus)
      fun residue hmem => le_count hpos bound residue (hlt residue hmem)
    simpa using hsum
  · have hsum := Finset.sum_le_card_nsmul (Finset.Ico lo hi) _ (bound ⌈/⌉ modulus)
      fun residue hmem => count_le hpos bound residue (hlt residue hmem)
    simpa using hsum

end Residues
