import SmartBuilding.Lib.Binary64
import SmartBuilding.Lib.CText

/-!
# `SmartBuilding.Lib.Strtod`: `strtod` on decimal text

`strtod` reads the longest decimal number at the start of a text: a sign, digits with at most
one point among them, and an exponent. It gives the number as it is written (`Decimal`) and
the count of its bytes, and nothing when the text does not start with a number. The result of
the C function is the double nearest to that number (`Decimal.toDouble`), which is infinite
when it is too large.

The texts with letters that `strtod` knows as well (hexadecimal digits, `inf` and `nan`) are
not here.
-/

set_option autoImplicit false

namespace CText

open Binary64

/-- A decimal number, with the magnitude `mantissa * 10 ^ exponent`. -/
structure Decimal where
  neg : Bool
  mantissa : Nat
  exponent : Int
  deriving DecidableEq, Repr

namespace Decimal

/-- The numerator of the magnitude. -/
def num (d : Decimal) : Nat := d.mantissa * 10 ^ d.exponent.toNat

/-- The denominator of the magnitude. -/
def den (d : Decimal) : Nat := 10 ^ (-d.exponent).toNat

end Decimal

/-- The double nearest to a decimal number. -/
def Decimal.toDouble (d : Decimal) : Double := ofRatio d.neg (d.num * scale) d.den

/-- The exponent at the start of a text, and the bytes after it. An `e` without digits behind
it is no exponent. -/
def exponentPart : List UInt8 → Int × List UInt8
  | [] => (0, [])
  | b :: s =>
      let digits := (sign s).2.takeWhile isDigit
      if (b = 101 ∨ b = 69) ∧ digits ≠ [] then
        (if (sign s).1 then -digitsValue 0 digits else digitsValue 0 digits,
          (sign s).2.drop digits.length)
      else (0, b :: s)

/-- The digits behind a point, and the bytes after them. -/
def fractionPart : List UInt8 → List UInt8 × List UInt8
  | [] => ([], [])
  | b :: s =>
      if b = 46 then (s.takeWhile isDigit, s.dropWhile isDigit) else ([], b :: s)

/-- `strtod`: the number and the count of its bytes. -/
def strtod (s : List UInt8) : Option (Decimal × Nat) :=
  let whole := (sign s).2.takeWhile isDigit
  let fraction := fractionPart ((sign s).2.dropWhile isDigit)
  let exponent := exponentPart fraction.2
  if whole ++ fraction.1 = [] then none
  else
    some (⟨(sign s).1, digitsValue 0 (whole ++ fraction.1), exponent.1 - fraction.1.length⟩,
      s.length - exponent.2.length)

/-! ### What is read -/

theorem length_sign_le (s : List UInt8) : (sign s).2.length ≤ s.length := by
  unfold sign
  split
  · exact Nat.le_succ _
  · exact Nat.le_succ _
  · exact Nat.le_refl _

theorem length_exponentPart_le (s : List UInt8) : (exponentPart s).2.length ≤ s.length := by
  cases s with
  | nil => exact Nat.le_refl 0
  | cons b s =>
    have hsign := length_sign_le s
    rw [exponentPart]
    split
    · rw [List.length_drop, List.length_cons]
      omega
    · exact Nat.le_refl _

theorem length_fractionPart_le (s : List UInt8) :
    (fractionPart s).1.length + (fractionPart s).2.length ≤ s.length := by
  cases s with
  | nil => exact Nat.le_refl 0
  | cons b s =>
    have hsplit := congrArg List.length (List.takeWhile_append_dropWhile (p := isDigit) (l := s))
    rw [List.length_append] at hsplit
    rw [fractionPart]
    split
    · rw [List.length_cons]
      dsimp only
      omega
    · rw [List.length_nil, Nat.zero_add]

/-- A number has bytes, and no more of them than the text. -/
theorem strtod_bounds {s : List UInt8} {d : Decimal} {k : Nat} (h : strtod s = some (d, k)) :
    0 < k ∧ k ≤ s.length := by
  have hsign := length_sign_le s
  have hsplit := congrArg List.length
    (List.takeWhile_append_dropWhile (p := isDigit) (l := (sign s).2))
  have hfraction := length_fractionPart_le ((sign s).2.dropWhile isDigit)
  have hexponent := length_exponentPart_le (fractionPart ((sign s).2.dropWhile isDigit)).2
  rw [List.length_append] at hsplit
  unfold strtod at h
  dsimp only at h
  split at h
  · cases h
  · rename_i hne
    have hk := congrArg Prod.snd (Option.some.inj h)
    have hpos := List.length_pos_iff.mpr hne
    rw [List.length_append] at hpos
    dsimp only at hk
    omega

/-! ### Integers -/

theorem sign_decimal (n : Nat) : sign (decimal n) = (false, decimal n) := by
  obtain ⟨b, ds, hcons⟩ := List.exists_cons_of_ne_nil (decimal_ne_nil n)
  rw [hcons]
  exact sign_of_isDigit ds (isDigit_of_mem_decimal (hcons ▸ List.mem_cons_self))

/-- The sign of a printed integer, and its digits. -/
theorem sign_decimalInt (n : Int32) :
    sign (decimalInt n) = (decide (n < 0), decimal n.toInt.natAbs) := by
  rw [decimalInt]
  split
  · rename_i hneg
    rw [decide_eq_true hneg]
    rfl
  · rename_i hneg
    rw [decide_eq_false hneg]
    exact sign_decimal _

/-- A printed integer is read back, with all its bytes. -/
theorem strtod_decimalInt (n : Int32) :
    strtod (decimalInt n) =
      some (⟨decide (n < 0), n.toInt.natAbs, 0⟩, (decimalInt n).length) := by
  have hdigit : ∀ b ∈ decimal n.toInt.natAbs, isDigit b := fun b hb => isDigit_of_mem_decimal hb
  have htake := List.takeWhile_eq_self_iff.mpr hdigit
  have hdrop := List.dropWhile_eq_nil_iff.mpr hdigit
  simp only [strtod, sign_decimalInt, htake, hdrop, fractionPart, exponentPart, List.append_nil]
  rw [if_neg (decimal_ne_nil _), digitsValue_decimal]
  rfl

/-- A printed integer is read as its double. -/
theorem toDouble_natural (n : Int32) :
    (⟨decide (n < 0), n.toInt.natAbs, 0⟩ : Decimal).toDouble = Double.ofInt n.toInt := by
  have hsign : (decide (n < 0) : Bool) = decide (n.toInt < 0) :=
    decide_eq_decide.mpr Int32.lt_iff_toInt_lt
  have hnum : (⟨decide (n < 0), n.toInt.natAbs, 0⟩ : Decimal).num = n.toInt.natAbs :=
    Nat.mul_one _
  rw [Decimal.toDouble, hnum, hsign]
  rfl

/-- Zeros at the end of the digits count in the exponent. -/
theorem toDouble_shift (neg : Bool) (mantissa z : Nat) (exponent : Int) :
    (⟨neg, mantissa * 10 ^ z, exponent⟩ : Decimal).toDouble =
      (⟨neg, mantissa, exponent + z⟩ : Decimal).toDouble := by
  apply ofRatio_congr
  · exact Nat.pow_pos (by decide)
  · exact Nat.pow_pos (by decide)
  have hexp : z + exponent.toNat + (-(exponent + z)).toNat =
      (exponent + z).toNat + (-exponent).toNat := by omega
  show mantissa * 10 ^ z * 10 ^ exponent.toNat * scale * 10 ^ (-(exponent + z)).toNat =
    mantissa * 10 ^ (exponent + z).toNat * scale * 10 ^ (-exponent).toNat
  calc mantissa * 10 ^ z * 10 ^ exponent.toNat * scale * 10 ^ (-(exponent + z)).toNat
      = mantissa * scale * (10 ^ z * 10 ^ exponent.toNat * 10 ^ (-(exponent + z)).toNat) := by
        ring
    _ = mantissa * scale * (10 ^ (exponent + z).toNat * 10 ^ (-exponent).toNat) := by
        rw [← Nat.pow_add, ← Nat.pow_add, ← Nat.pow_add, hexp]
    _ = mantissa * 10 ^ (exponent + z).toNat * scale * 10 ^ (-exponent).toNat := by ring

end CText
