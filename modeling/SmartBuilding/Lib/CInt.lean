import Mathlib.Tactic.Ring

/-!
# `SmartBuilding.Lib.CInt`: the `int` of a machine with 32 bits

An operation on `int` is defined in C when its exact result fits (`Fits`). Then `Int32` has
the exact result (`toInt_add_of_fits` and its siblings). Division and remainder truncate
toward zero, and the quotient and the remainder of a positive divisor always fit.
-/

set_option autoImplicit false

namespace CInt

/-- The number is a value of `int`. -/
def Fits (n : Int) : Prop := -2 ^ 31 ≤ n ∧ n < 2 ^ 31

instance (n : Int) : Decidable (Fits n) := inferInstanceAs (Decidable (_ ∧ _))

theorem fits_toInt (a : Int32) : Fits a.toInt := ⟨a.le_toInt, a.toInt_lt⟩

/-- The wrapped result of an operation is the exact one when it fits. -/
theorem bmod_of_fits {n : Int} (h : Fits n) : n.bmod (2 ^ 32) = n := by
  obtain ⟨hlow, hhigh⟩ := h
  exact Int.bmod_eq_of_le (by simpa using hlow) (by simpa using hhigh)

section
variable {a b : Int32}

theorem toInt_add_of_fits (h : Fits (a.toInt + b.toInt)) :
    (a + b).toInt = a.toInt + b.toInt := by
  rw [Int32.toInt_add, bmod_of_fits h]

theorem toInt_sub_of_fits (h : Fits (a.toInt - b.toInt)) :
    (a - b).toInt = a.toInt - b.toInt := by
  rw [Int32.toInt_sub, bmod_of_fits h]

theorem toInt_mul_of_fits (h : Fits (a.toInt * b.toInt)) :
    (a * b).toInt = a.toInt * b.toInt := by
  rw [Int32.toInt_mul, bmod_of_fits h]

end

/-- The quotient and the remainder of a division by a positive number: they have the sign of
the dividend. -/
theorem tdiv_tmod_cases (n : Int) {k : Int} (hk : 0 < k) :
    n = k * n.tdiv k + n.tmod k ∧
      (0 ≤ n ∧ 0 ≤ n.tdiv k ∧ 0 ≤ n.tmod k ∧ n.tmod k < k ∨
        n < 0 ∧ n.tdiv k ≤ 0 ∧ n.tmod k ≤ 0 ∧ -k < n.tmod k) := by
  refine ⟨(Int.mul_tdiv_add_tmod n k).symm, ?_⟩
  rcases Int.le_total 0 n with hn | hn
  · exact .inl ⟨hn, Int.tdiv_nonneg hn (Int.le_of_lt hk), Int.tmod_nonneg k hn,
      Int.tmod_lt_of_pos n hk⟩
  · -- Both change their sign with the dividend.
    have hquot : 0 ≤ (-n).tdiv k := Int.tdiv_nonneg (by omega) (Int.le_of_lt hk)
    have hrem : 0 ≤ (-n).tmod k := Int.tmod_nonneg k (by omega)
    rw [Int.neg_tdiv] at hquot
    rw [Int.neg_tmod] at hrem
    by_cases hzero : n = 0
    · subst hzero
      left
      simpa using hk
    · exact .inr ⟨by omega, by omega, by omega, Int.lt_tmod_of_pos n hk⟩

end CInt
