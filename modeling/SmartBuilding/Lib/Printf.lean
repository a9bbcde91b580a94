import Mathlib.Data.List.DropRight
import SmartBuilding.Lib.Strtod

/-!
# `SmartBuilding.Lib.Printf`: `printf` of a double with `%g`

`sprintfG precision` is what `%.<precision>g` prints for a finite double. `significant` gives the
decimal digits of a ratio, rounded to that precision with ties to even, and the exponent of the
first of them. The digits are written with a point among them, or behind the first one with an
exponent, and without the zeros at the end (`styleG`).

`strtod_sprintfG` reads the text back, as a decimal number with the same double as the digits
(`nearestDecimal`). With 17 digits that double is the one that was printed
(`nearestDecimal_seventeen`), and the text has 24 characters at most (`length_sprintfG_le`).
-/

set_option autoImplicit false

namespace CText

open Binary64

/-! ### The digits -/

/-- The place of the first digit of `n / m`, counted from as many places behind the point as `m`
has digits. -/
def leadingPlace (n m : Nat) : Nat :=
  (decimal (n * 10 ^ (decimal m).length / m)).length - 1

/-- The first digit of `n / m` stands for this power of ten. -/
def leadingExponent (n m : Nat) : Int := (leadingPlace n m : Int) - (decimal m).length

/-- The first `precision` digits of `n / m`, rounded. A carry out of the first one leaves
`10 ^ precision`. -/
def leadingDigits (precision n m : Nat) : Nat :=
  roundEven (n * 10 ^ (decimal m).length * 10 ^ (precision - 1)) (m * 10 ^ leadingPlace n m)

/-- The first `precision` digits of `n / m`, rounded, and the exponent of the first of them. -/
def significant (precision n m : Nat) : Nat × Int :=
  if leadingDigits precision n m = 10 ^ precision then
    (10 ^ (precision - 1), leadingExponent n m + 1)
  else (leadingDigits precision n m, leadingExponent n m)

/-- The decimal number of `precision` digits that is nearest to a double. -/
def nearestDecimal (precision : Nat) (neg : Bool) (x : Magnitude) : Decimal :=
  let s := significant precision x.units scale
  ⟨neg, s.1, s.2 - (precision - 1 : Nat)⟩

/-! ### The text -/

/-- Digits without the zeros at their end. -/
def stripZeros (digits : List UInt8) : List UInt8 := digits.rdropWhile (· = 48)

/-- The digits before the point and behind it. Without digits behind it there is no point. -/
def pointed (whole fraction : List UInt8) : List UInt8 :=
  if fraction = [] then whole else whole ++ 46 :: fraction

/-- A number with at least two digits. -/
def exponentDigits (n : Nat) : List UInt8 := if n < 10 then 48 :: decimal n else decimal n

/-- An exponent with its sign. -/
def exponentText (e : Int) : List UInt8 :=
  101 :: (if e < 0 then 45 else 43) :: exponentDigits e.natAbs

/-- The choice between the styles `e` and `f` for digits whose first one has the exponent `e`. -/
def styleG (precision : Nat) (digits : List UInt8) (e : Int) : List UInt8 :=
  if e < -4 ∨ precision ≤ e then
    pointed (digits.take 1) (stripZeros (digits.drop 1)) ++ exponentText e
  else if e < 0 then
    pointed [48] (stripZeros (List.replicate (-e - 1).toNat 48 ++ digits))
  else pointed (digits.take (e.toNat + 1)) (stripZeros (digits.drop (e.toNat + 1)))

/-- `sprintf` with the format `%.<precision>g` of a finite double. -/
def sprintfG (precision : Nat) (neg : Bool) (x : Magnitude) : List UInt8 :=
  let s := significant precision x.units scale
  let text := if x.units = 0 then [48] else styleG precision (decimal s.1) s.2
  if neg then 45 :: text else text

/-! ### Facts about the digits -/

/-- The number of digits of a number gives the powers of ten around it. -/
theorem pow_length_decimal {q : Nat} (hq : 0 < q) :
    10 ^ ((decimal q).length - 1) ≤ q ∧ q < 10 ^ (decimal q).length := by
  have hne := List.length_pos_iff.mpr (decimal_ne_nil q)
  refine ⟨?_, (length_decimal_le_iff hne).mp (Nat.le_refl _)⟩
  by_cases hone : (decimal q).length = 1
  · rw [hone]
    exact hq
  · have hlt : ¬ (decimal q).length ≤ (decimal q).length - 1 := by omega
    rw [length_decimal_le_iff (by omega)] at hlt
    exact Nat.le_of_not_lt hlt

section
variable {n m : Nat} (hn : 0 < n) (hm : 0 < m)
include hn hm

/-- The first digit of `n / m` is at its place. -/
theorem leadingPlace_bounds :
    m * 10 ^ leadingPlace n m ≤ n * 10 ^ (decimal m).length ∧
      n * 10 ^ (decimal m).length < m * 10 ^ (leadingPlace n m + 1) := by
  have hshift : m ≤ n * 10 ^ (decimal m).length :=
    calc m ≤ 10 ^ (decimal m).length := Nat.le_of_lt (pow_length_decimal hm).2
      _ ≤ n * 10 ^ (decimal m).length := Nat.le_mul_of_pos_left _ hn
  have hq : 0 < n * 10 ^ (decimal m).length / m := Nat.div_pos hshift hm
  obtain ⟨hlow, hhigh⟩ := pow_length_decimal hq
  have hlength : leadingPlace n m + 1 =
      (decimal (n * 10 ^ (decimal m).length / m)).length := by
    have hne := List.length_pos_iff.mpr (decimal_ne_nil (n * 10 ^ (decimal m).length / m))
    rw [leadingPlace]
    omega
  rw [hlength]
  constructor
  · rw [Nat.mul_comm]
    exact (Nat.le_div_iff_mul_le hm).mp hlow
  · rw [Nat.mul_comm m]
    exact (Nat.div_lt_iff_lt_mul hm).mp hhigh

/-- The digits have the precision, or one more after a carry. -/
theorem leadingDigits_bounds {precision : Nat} (hp : 0 < precision) :
    10 ^ (precision - 1) ≤ leadingDigits precision n m ∧
      leadingDigits precision n m ≤ 10 ^ precision := by
  obtain ⟨hlow, hhigh⟩ := leadingPlace_bounds hn hm
  have hpos : 0 < m * 10 ^ leadingPlace n m := Nat.mul_pos hm (Nat.pow_pos (by decide))
  obtain ⟨hge, hle⟩ := roundEven_bounds (n * 10 ^ (decimal m).length * 10 ^ (precision - 1))
    (m * 10 ^ leadingPlace n m)
  constructor
  · refine Nat.le_trans ((Nat.le_div_iff_mul_le hpos).mpr ?_) hge
    rw [Nat.mul_comm]
    exact Nat.mul_le_mul_right _ hlow
  · have hlt : n * 10 ^ (decimal m).length * 10 ^ (precision - 1) / (m * 10 ^ leadingPlace n m) <
        10 ^ precision := by
      rw [Nat.div_lt_iff_lt_mul hpos]
      calc n * 10 ^ (decimal m).length * 10 ^ (precision - 1)
          < m * 10 ^ (leadingPlace n m + 1) * 10 ^ (precision - 1) :=
            Nat.mul_lt_mul_of_pos_right hhigh (Nat.pow_pos (by decide))
        _ = 10 ^ (precision - 1 + 1) * (m * 10 ^ leadingPlace n m) := by
            rw [Nat.pow_succ, Nat.pow_succ]
            ring
        _ = 10 ^ precision * (m * 10 ^ leadingPlace n m) := by rw [Nat.sub_add_cancel hp]
    rw [leadingDigits]
    omega

/-- The rounded digits have the precision. -/
theorem length_significant {precision : Nat} (hp : 1 < precision) :
    (decimal (significant precision n m).1).length = precision := by
  have hpow : 10 ^ (precision - 1) < 10 ^ precision :=
    Nat.pow_lt_pow_right (by decide) (by omega)
  obtain ⟨hge, hle⟩ := leadingDigits_bounds hn hm (Nat.lt_trans Nat.one_pos hp)
  have hbounds : 10 ^ (precision - 1) ≤ (significant precision n m).1 ∧
      (significant precision n m).1 < 10 ^ precision := by
    rw [significant]
    split
    · exact ⟨Nat.le_refl _, hpow⟩
    · rename_i hne
      exact ⟨hge, Nat.lt_of_le_of_ne hle hne⟩
  have hupper := (length_decimal_le_iff (n := (significant precision n m).1)
    (Nat.lt_trans Nat.one_pos hp)).mpr hbounds.2
  have hlower : ¬ (decimal (significant precision n m).1).length ≤ precision - 1 := by
    rw [length_decimal_le_iff (by omega)]
    exact Nat.not_lt.mpr hbounds.1
  omega

end

/-! ### Reading the text back -/

theorem digitsValue_replicate (k : Nat) : digitsValue 0 (List.replicate k 48) = 0 := by
  induction k with
  | zero => rfl
  | succ k ih => exact ih

theorem replicate_isDigit (k : Nat) : ∀ b ∈ List.replicate k (48 : UInt8), isDigit b := by
  intro b hb
  rw [(List.mem_replicate.mp hb).2]
  decide

/-- Digits are their stripped part with zeros behind it. -/
theorem stripZeros_append (digits : List UInt8) :
    ∃ z, digits = stripZeros digits ++ List.replicate z 48 := by
  refine ⟨(digits.rtakeWhile (· = 48)).length, ?_⟩
  have hzeros : digits.rtakeWhile (· = 48) =
      List.replicate (digits.rtakeWhile (· = 48)).length 48 :=
    List.eq_replicate_iff.mpr
      ⟨rfl, fun b hb => by simpa using List.mem_rtakeWhile_imp hb⟩
  rw [← hzeros]
  exact List.rdropWhile_append_rtakeWhile.symm

theorem mem_of_mem_stripZeros {digits : List UInt8} {b : UInt8} (h : b ∈ stripZeros digits) :
    b ∈ digits := (List.rdropWhile_prefix _ digits).subset h

/-- Digits behind the point without the zeros at their end are the same decimal number, as far as
its double goes. -/
theorem toDouble_strip (neg : Bool) (whole rest : List UInt8) (e : Int) :
    (⟨neg, digitsValue 0 (whole ++ stripZeros rest), e - (stripZeros rest).length⟩ :
        Decimal).toDouble =
      (⟨neg, digitsValue 0 (whole ++ rest), e - rest.length⟩ : Decimal).toDouble := by
  obtain ⟨z, hz⟩ := stripZeros_append rest
  have hlength : rest.length = (stripZeros rest).length + z := by
    conv => lhs; rw [hz, List.length_append, List.length_replicate]
  have hvalue : digitsValue 0 (whole ++ rest) =
      digitsValue 0 (whole ++ stripZeros rest) * 10 ^ z := by
    conv => lhs; rw [hz, ← List.append_assoc, digitsValue_append, digitsValue_replicate,
      List.length_replicate]
    rw [Nat.add_zero, Nat.mul_comm]
  have hexp : e - (rest.length : Int) + z = e - (stripZeros rest).length := by
    rw [hlength]
    push_cast
    ring
  rw [hvalue, toDouble_shift, hexp]

/-- The bytes of an exponent, or nothing. They do not continue the digits in front of them. -/
def ExponentTail (tail : List UInt8) (e : Int) : Prop :=
  exponentPart tail = (e, []) ∧ ∀ b, tail.head? = some b → isDigit b = false ∧ b ≠ 46

theorem exponentTail_nil : ExponentTail [] 0 := ⟨rfl, fun _ h => nomatch h⟩

theorem exponentDigits_spec (n : Nat) :
    (∀ b ∈ exponentDigits n, isDigit b) ∧ exponentDigits n ≠ [] ∧
      digitsValue 0 (exponentDigits n) = n := by
  rw [exponentDigits]
  split
  · refine ⟨fun b hb => ?_, List.cons_ne_nil _ _, digitsValue_decimal n⟩
    rcases List.mem_cons.mp hb with rfl | hb
    · decide
    · exact isDigit_of_mem_decimal hb
  · exact ⟨fun b hb => isDigit_of_mem_decimal hb, decimal_ne_nil n, digitsValue_decimal n⟩

theorem exponentTail_exponentText (e : Int) : ExponentTail (exponentText e) e := by
  obtain ⟨hdigits, hne, hvalue⟩ := exponentDigits_spec e.natAbs
  have hsign : sign ((if e < 0 then 45 else 43) :: exponentDigits e.natAbs) =
      (decide (e < 0), exponentDigits e.natAbs) := by
    split
    · rename_i h
      rw [decide_eq_true h]
      rfl
    · rename_i h
      rw [decide_eq_false h]
      rfl
  constructor
  · rw [exponentText, exponentPart, hsign]
    dsimp only
    rw [List.takeWhile_eq_self_iff.mpr hdigits, if_pos ⟨Or.inl rfl, hne⟩, hvalue,
      List.drop_length]
    congr 1
    simp only [decide_eq_true_eq]
    split <;> omega
  · intro b hb
    obtain rfl := Option.some.inj hb
    decide

/-- Digits with a point and an exponent are read with all their bytes. -/
theorem strtod_pointed (neg : Bool) {whole fraction tail : List UInt8} {e : Int}
    (hne : whole ≠ []) (hw : ∀ b ∈ whole, isDigit b) (hf : ∀ b ∈ fraction, isDigit b)
    (ht : ExponentTail tail e) :
    let text := if neg then 45 :: (pointed whole fraction ++ tail)
      else pointed whole fraction ++ tail
    strtod text =
      some (⟨neg, digitsValue 0 (whole ++ fraction), e - fraction.length⟩, text.length) := by
  intro text
  obtain ⟨hexp, hhead⟩ := ht
  have hsign : sign text = (neg, pointed whole fraction ++ tail) := by
    cases neg with
    | true => rfl
    | false =>
      show sign (pointed whole fraction ++ tail) = _
      cases whole with
      | nil => exact absurd rfl hne
      | cons b ds =>
        obtain ⟨more, hmore⟩ : ∃ more, pointed (b :: ds) fraction ++ tail = b :: more := by
          rw [pointed]
          split
          · exact ⟨_, rfl⟩
          · exact ⟨_, rfl⟩
        rw [hmore]
        exact sign_of_isDigit more (hw b List.mem_cons_self)
  have hparts : (pointed whole fraction ++ tail).takeWhile isDigit = whole ∧
      fractionPart ((pointed whole fraction ++ tail).dropWhile isDigit) = (fraction, tail) := by
    rw [pointed]
    split
    · rename_i hnil
      obtain ⟨htake, hdrop⟩ := span_append hw fun b hb => (hhead b hb).1
      rw [htake, hdrop, hnil]
      refine ⟨rfl, ?_⟩
      cases tail with
      | nil => rfl
      | cons b more => exact if_neg (hhead b rfl).2
    · have happend : whole ++ 46 :: fraction ++ tail = whole ++ 46 :: (fraction ++ tail) := by
        rw [List.append_assoc, List.cons_append]
      have hpoint : ∀ b, (46 :: (fraction ++ tail)).head? = some b → isDigit b = false := by
        intro b hb
        obtain rfl := Option.some.inj hb
        decide
      obtain ⟨htake, hdrop⟩ := span_append hw hpoint
      obtain ⟨htake', hdrop'⟩ := span_append hf fun b hb => (hhead b hb).1
      rw [happend, htake, hdrop, fractionPart, if_pos rfl, htake', hdrop']
      exact ⟨rfl, rfl⟩
  have hdigits : whole ++ fraction ≠ [] := fun h => hne (List.append_eq_nil_iff.mp h).1
  simp only [strtod, hsign, hparts.1, hparts.2, hexp]
  rw [if_neg hdigits]
  rfl

/-- Both styles write the digits with a point among them, and perhaps an exponent. The digits
`whole` are before the point, and `rest` without its zeros at the end is behind it. -/
structure StyleParts (precision : Nat) (digits : List UInt8) (e : Int)
    (whole rest tail : List UInt8) (e' : Int) : Prop where
  text : styleG precision digits e = pointed whole (stripZeros rest) ++ tail
  ne_nil : whole ≠ []
  whole_isDigit : ∀ b ∈ whole, isDigit b
  rest_isDigit : ∀ b ∈ rest, isDigit b
  tail_cases : tail = [] ∧ e' = 0 ∨ tail = exponentText e ∧ e' = e
  value : digitsValue 0 (whole ++ rest) = digitsValue 0 digits
  exponent : e' - rest.length = e - (precision - 1 : Nat)
  length : whole.length + rest.length ≤ precision + if tail = [] then 4 else 0

theorem StyleParts.exponentTail {precision : Nat} {digits whole rest tail : List UInt8}
    {e e' : Int} (h : StyleParts precision digits e whole rest tail e') : ExponentTail tail e' := by
  rcases h.tail_cases with ⟨htail, he⟩ | ⟨htail, he⟩
  · rw [htail, he]
    exact exponentTail_nil
  · rw [htail, he]
    exact exponentTail_exponentText e

theorem styleG_parts {precision : Nat} {digits : List UInt8} (hp : 0 < precision)
    (hlength : digits.length = precision) (hd : ∀ b ∈ digits, isDigit b) (e : Int) :
    ∃ whole rest tail e', StyleParts precision digits e whole rest tail e' := by
  have htake : ∀ k, digits.take (k + 1) ≠ [] := by
    intro k h
    have hnil := List.take_eq_nil_iff.mp h
    have hpos : digits ≠ [] := List.length_pos_iff.mp (by omega)
    exact hpos (hnil.resolve_left (Nat.succ_ne_zero k))
  by_cases hstyle : e < -4 ∨ precision ≤ e
  · exact ⟨digits.take 1, digits.drop 1, exponentText e, e, {
      text := by rw [styleG, if_pos hstyle]
      ne_nil := htake 0
      whole_isDigit := fun b hb => hd b (List.mem_of_mem_take hb)
      rest_isDigit := fun b hb => hd b (List.mem_of_mem_drop hb)
      tail_cases := Or.inr ⟨rfl, rfl⟩
      value := by rw [List.take_append_drop]
      exponent := by rw [List.length_drop, hlength]
      length := by
        rw [List.length_take, List.length_drop]
        omega }⟩
  by_cases hneg : e < 0
  · have hzeros : [48] ++ (List.replicate (-e - 1).toNat 48 ++ digits) =
        List.replicate ((-e - 1).toNat + 1) 48 ++ digits := by
      rw [← List.append_assoc, List.singleton_append, ← List.replicate_succ]
    exact ⟨[48], List.replicate (-e - 1).toNat 48 ++ digits, [], 0, {
      text := by
        rw [styleG, if_neg hstyle, if_pos hneg]
        exact (List.append_nil _).symm
      ne_nil := List.cons_ne_nil _ _
      whole_isDigit := replicate_isDigit 1
      rest_isDigit := fun b hb => (List.mem_append.mp hb).elim (replicate_isDigit _ b) (hd b)
      tail_cases := Or.inl ⟨rfl, rfl⟩
      value := by
        rw [hzeros, digitsValue_append, digitsValue_replicate, Nat.mul_zero, Nat.zero_add]
      exponent := by
        rw [List.length_append, List.length_replicate, hlength]
        omega
      length := by
        rw [List.length_append, List.length_replicate, List.length_singleton, if_pos rfl]
        omega }⟩
  · exact ⟨digits.take (e.toNat + 1), digits.drop (e.toNat + 1), [], 0, {
      text := by
        rw [styleG, if_neg hstyle, if_neg hneg]
        exact (List.append_nil _).symm
      ne_nil := htake _
      whole_isDigit := fun b hb => hd b (List.mem_of_mem_take hb)
      rest_isDigit := fun b hb => hd b (List.mem_of_mem_drop hb)
      tail_cases := Or.inl ⟨rfl, rfl⟩
      value := by rw [List.take_append_drop]
      exponent := by
        rw [List.length_drop, hlength]
        omega
      length := by
        rw [List.length_take, List.length_drop, if_pos rfl]
        omega }⟩

/-- Zero is zero with any exponent. -/
theorem toDouble_zero (neg : Bool) (e e' : Int) :
    (⟨neg, 0, e⟩ : Decimal).toDouble = (⟨neg, 0, e'⟩ : Decimal).toDouble := by
  apply ofRatio_congr
  · exact Nat.pow_pos (by decide)
  · exact Nat.pow_pos (by decide)
  · simp only [Decimal.num, Nat.zero_mul]

/-- The digits of zero are zero. -/
theorem leadingDigits_zero (precision : Nat) : leadingDigits precision 0 scale = 0 := by
  have hpos : 0 < scale * 10 ^ leadingPlace 0 scale :=
    Nat.mul_pos scale_pos (Nat.pow_pos (by decide))
  apply roundEven_eq
  · omega
  · omega

theorem significant_zero (precision : Nat) : (significant precision 0 scale).1 = 0 := by
  have hne : leadingDigits precision 0 scale ≠ 10 ^ precision := by
    rw [leadingDigits_zero]
    exact (Nat.pow_pos (by decide)).ne
  rw [significant, if_neg hne, leadingDigits_zero]

/-- What is printed is read back as a number with the double of the rounded digits. -/
theorem strtod_sprintfG {precision : Nat} (hp : 1 < precision) (neg : Bool) (x : Magnitude) :
    ∃ d, strtod (sprintfG precision neg x) = some (d, (sprintfG precision neg x).length) ∧
      d.toDouble = (nearestDecimal precision neg x).toDouble := by
  have hpos : 0 < precision := Nat.lt_trans Nat.one_pos hp
  rw [sprintfG, nearestDecimal]
  by_cases hzero : x.units = 0
  · rw [if_pos hzero, hzero, significant_zero]
    exact ⟨_, strtod_pointed neg (List.cons_ne_nil 48 []) (replicate_isDigit 1)
      (fun b hb => absurd hb List.not_mem_nil) exponentTail_nil, toDouble_zero neg _ _⟩
  rw [if_neg hzero]
  have hlength := length_significant (Nat.pos_of_ne_zero hzero) scale_pos hp
  obtain ⟨whole, rest, tail, e, h⟩ :=
    styleG_parts hpos hlength (fun b hb => isDigit_of_mem_decimal hb)
      (significant precision x.units scale).2
  rw [h.text]
  refine ⟨_, strtod_pointed neg h.ne_nil h.whole_isDigit
    (fun b hb => h.rest_isDigit b (mem_of_mem_stripZeros hb)) h.exponentTail, ?_⟩
  rw [toDouble_strip, h.value, h.exponent, digitsValue_decimal]

/-! ### Seventeen digits -/

/-- A carry does not change the number. -/
theorem toDouble_nearestDecimal {precision : Nat} (hp : 0 < precision) (neg : Bool)
    (x : Magnitude) :
    (nearestDecimal precision neg x).toDouble =
      (⟨neg, leadingDigits precision x.units scale,
        leadingExponent x.units scale - (precision - 1 : Nat)⟩ : Decimal).toDouble := by
  rw [nearestDecimal, significant]
  split
  · rename_i hcarry
    have hpow : 10 ^ precision = 10 ^ (precision - 1) * 10 ^ 1 := by
      rw [← Nat.pow_add, Nat.sub_add_cancel hp]
    have hexp : leadingExponent x.units scale + 1 - ((precision - 1 : Nat) : Int) =
        leadingExponent x.units scale - ((precision - 1 : Nat) : Int) + (1 : Nat) := by
      push_cast
      ring
    rw [hcarry, hpow, toDouble_shift]
    dsimp only
    rw [hexp]
  · rfl

/-- A decimal number whose exponent is a difference, as one ratio. -/
theorem toDouble_ratio (neg : Bool) (digits s k : Nat) :
    (⟨neg, digits, (s : Int) - k⟩ : Decimal).toDouble =
      ofRatio neg (scale * 10 ^ s * digits) (10 ^ k) := by
  apply ofRatio_congr
  · exact Nat.pow_pos (by decide)
  · exact Nat.pow_pos (by decide)
  have hexp : ((s : Int) - k).toNat + k = s + (-((s : Int) - k)).toNat := by omega
  show digits * 10 ^ ((s : Int) - k).toNat * scale * 10 ^ k =
    scale * 10 ^ s * digits * 10 ^ (-((s : Int) - k)).toNat
  calc digits * 10 ^ ((s : Int) - k).toNat * scale * 10 ^ k
      = digits * scale * (10 ^ ((s : Int) - k).toNat * 10 ^ k) := by ring
    _ = digits * scale * (10 ^ s * 10 ^ (-((s : Int) - k)).toNat) := by
        rw [← Nat.pow_add, ← Nat.pow_add, hexp]
    _ = scale * 10 ^ s * digits * 10 ^ (-((s : Int) - k)).toNat := by ring

/-- The last of seventeen digits is finer than the last of 53 bits, as `2 ^ 53 < 10 ^ 16`. -/
theorem spacing_lt {u s k : Nat} (hplace : scale * 10 ^ s ≤ u * 10 ^ k) {c e : Nat}
    (hbits : c * u ≤ 2 ^ 53 * 2 ^ e) : c * (scale * 10 ^ s) < 10 ^ (k + 16) * 2 ^ e := by
  have hpos : 0 < 10 ^ k * 2 ^ e := Nat.mul_pos (Nat.pow_pos (by decide)) (Nat.two_pow_pos e)
  calc c * (scale * 10 ^ s) ≤ c * (u * 10 ^ k) := Nat.mul_le_mul_left _ hplace
    _ = c * u * 10 ^ k := by ring
    _ ≤ 2 ^ 53 * 2 ^ e * 10 ^ k := Nat.mul_le_mul_right _ hbits
    _ = 2 ^ 53 * (10 ^ k * 2 ^ e) := by ring
    _ < 10 ^ 16 * (10 ^ k * 2 ^ e) := Nat.mul_lt_mul_of_pos_right (by decide) hpos
    _ = 10 ^ (k + 16) * 2 ^ e := by rw [Nat.pow_add]; ring

/-- Seventeen digits are enough to get the double back. -/
theorem nearestDecimal_seventeen (neg : Bool) (x : Magnitude) :
    (nearestDecimal 17 neg x).toDouble = .finite neg x := by
  have hsixteen : 17 - 1 = 16 := rfl
  rw [toDouble_nearestDecimal (by decide), leadingExponent, Int.sub_sub, ← Int.natCast_add,
    toDouble_ratio, hsixteen]
  apply ofRatio_eq
  by_cases hzero : x.units = 0
  · rw [hzero, leadingDigits_zero, Nat.mul_zero]
    exact roundUnits_zero (Nat.pow_pos (by decide))
  obtain ⟨hplace, -⟩ := leadingPlace_bounds (Nat.pos_of_ne_zero hzero) scale_pos
  have hpos : 0 < scale * 10 ^ leadingPlace x.units scale :=
    Nat.mul_pos scale_pos (Nat.pow_pos (by decide))
  obtain ⟨hup, hdown⟩ :=
    roundEven_near (x.units * 10 ^ (decimal scale).length * 10 ^ (17 - 1)) hpos
  have hexact : x.units * 10 ^ (decimal scale).length * 10 ^ (17 - 1) =
      x.units * 10 ^ ((decimal scale).length + 16) := by
    rw [Nat.pow_add, Nat.mul_assoc]
  rw [← leadingDigits, hexact] at hup hdown
  have hlog : x.units < 2 ^ (x.units.log2 + 1) := Nat.lt_log2_self
  have hwide : 1 * (scale * 10 ^ leadingPlace x.units scale) <
      10 ^ ((decimal scale).length + 16) * 2 ^ (x.units.log2 - 52) := by
    apply spacing_lt hplace
    rw [Nat.one_mul, ← Nat.pow_add]
    exact Nat.le_of_lt (Nat.lt_of_lt_of_le hlog (Nat.pow_le_pow_right (by decide) (by omega)))
  apply roundUnits_near x.exact
  · omega
  · omega
  · intro hpower
    have hnarrow : 2 * (scale * 10 ^ leadingPlace x.units scale) <
        10 ^ ((decimal scale).length + 16) * 2 ^ (x.units.log2 - 52) := by
      apply spacing_lt hplace
      have hle : 2 ^ x.units.log2 ≤ 2 ^ (52 + (x.units.log2 - 52)) :=
        Nat.pow_le_pow_right (by decide) (by omega)
      rw [Nat.pow_add, ← hpower] at hle
      calc 2 * x.units ≤ 2 * (2 ^ 52 * 2 ^ (x.units.log2 - 52)) := Nat.mul_le_mul_left _ hle
        _ = 2 ^ 53 * 2 ^ (x.units.log2 - 52) := by ring
    omega

/-! ### The size and the bytes of the text -/

/-- The first digit of a double stands for a power of ten of three digits. -/
theorem natAbs_significant_lt (precision : Nat) (x : Magnitude) (hx : 0 < x.units) :
    (significant precision x.units scale).2.natAbs < 1000 := by
  have hten : ∀ a b : Nat, a ≤ 3 * b → 2 ^ a ≤ 10 ^ b := by
    intro a b h
    calc 2 ^ a ≤ 2 ^ (3 * b) := Nat.pow_le_pow_right (by decide) h
      _ = (2 ^ 3) ^ b := Nat.pow_mul 2 3 b
      _ ≤ 10 ^ b := Nat.pow_le_pow_left (by decide) b
  have hplaces : (decimal scale).length ≤ 999 := by
    have hlt : ∀ a b : Nat, a < 3 * b → 2 ^ a < 10 ^ b := by
      intro a b h
      exact Nat.lt_of_lt_of_le (Nat.pow_lt_pow_right (by decide) (Nat.lt_succ_self a))
        (hten (a + 1) b h)
    rw [length_decimal_le_iff (by decide)]
    unfold scale
    exact hlt 1074 999 (by decide)
  have hplace : leadingPlace x.units scale ≤ (decimal scale).length + 998 := by
    by_contra hgt
    obtain ⟨hlow, -⟩ := leadingPlace_bounds hx scale_pos
    have hpow : 10 ^ 999 * 10 ^ (decimal scale).length ≤ 10 ^ leadingPlace x.units scale := by
      rw [← Nat.pow_add]
      exact Nat.pow_le_pow_right (by decide) (by omega)
    have hunits : limit * 10 ^ (decimal scale).length ≤ x.units * 10 ^ (decimal scale).length :=
      calc limit * 10 ^ (decimal scale).length
          ≤ 10 ^ 999 * 10 ^ (decimal scale).length :=
            Nat.mul_le_mul_right _ (hten 2098 999 (by decide))
        _ ≤ 10 ^ leadingPlace x.units scale := hpow
        _ ≤ scale * 10 ^ leadingPlace x.units scale := Nat.le_mul_of_pos_left _ scale_pos
        _ ≤ x.units * 10 ^ (decimal scale).length := hlow
    have hle := Nat.le_of_mul_le_mul_right hunits (Nat.pow_pos (by decide))
    exact absurd x.lt (Nat.not_lt.mpr hle)
  have hexp : leadingExponent x.units scale =
      (leadingPlace x.units scale : Int) - (decimal scale).length := rfl
  rw [significant]
  split
  · show (leadingExponent x.units scale + 1).natAbs < 1000
    omega
  · show (leadingExponent x.units scale).natAbs < 1000
    omega

theorem length_stripZeros_le (digits : List UInt8) : (stripZeros digits).length ≤ digits.length :=
  (List.rdropWhile_prefix _ digits).length_le

theorem length_pointed_le (whole fraction : List UInt8) :
    (pointed whole fraction).length ≤ whole.length + 1 + fraction.length := by
  rw [pointed]
  split
  · omega
  · rw [List.length_append, List.length_cons]
    omega

theorem length_exponentText_le {e : Int} (h : e.natAbs < 1000) : (exponentText e).length ≤ 5 := by
  have hdigits : (exponentDigits e.natAbs).length ≤ 3 := by
    rw [exponentDigits]
    split
    · rename_i hten
      have hone := (length_decimal_le_iff (n := e.natAbs) (k := 1) (by decide)).mpr hten
      rw [List.length_cons]
      omega
    · exact (length_decimal_le_iff (by decide)).mpr h
  rw [exponentText, List.length_cons, List.length_cons]
  omega

/-- Beside the digits, the text has a sign, a point and five characters of the exponent at
most. -/
theorem length_sprintfG_le {precision : Nat} (hp : 1 < precision) (neg : Bool) (x : Magnitude) :
    (sprintfG precision neg x).length ≤ precision + 7 := by
  have hsign : ∀ text : List UInt8, text.length ≤ precision + 6 →
      (if neg then 45 :: text else text).length ≤ precision + 7 := by
    intro text h
    split
    · rw [List.length_cons]
      omega
    · omega
  apply hsign
  by_cases hzero : x.units = 0
  · rw [if_pos hzero, List.length_singleton]
    omega
  rw [if_neg hzero]
  have hpos := Nat.pos_of_ne_zero hzero
  have hlength := length_significant hpos scale_pos hp
  have hexp := natAbs_significant_lt precision x hpos
  obtain ⟨whole, rest, tail, e, h⟩ :=
    styleG_parts (Nat.lt_trans Nat.one_pos hp) hlength (fun b hb => isDigit_of_mem_decimal hb)
      (significant precision x.units scale).2
  have hpoint := length_pointed_le whole (stripZeros rest)
  have hstrip := length_stripZeros_le rest
  have hparts := h.length
  rw [h.text, List.length_append]
  rcases h.tail_cases with ⟨htail, -⟩ | ⟨htail, -⟩
  · rw [htail, if_pos rfl] at hparts
    rw [htail, List.length_nil]
    omega
  · have hlast := length_exponentText_le hexp
    have hne : exponentText (significant precision x.units scale).2 ≠ [] := List.cons_ne_nil _ _
    rw [htail, if_neg hne] at hparts
    rw [htail]
    omega

/-- A byte of a printed double. -/
def IsDoubleByte (b : UInt8) : Prop := isDigit b ∨ b = 43 ∨ b = 45 ∨ b = 46 ∨ b = 101

theorem isDoubleByte_of_mem_exponentText {e : Int} {b : UInt8} (h : b ∈ exponentText e) :
    IsDoubleByte b := by
  rcases List.mem_cons.mp h with rfl | h
  · exact Or.inr (Or.inr (Or.inr (Or.inr rfl)))
  rcases List.mem_cons.mp h with rfl | h
  · split
    · exact Or.inr (Or.inr (Or.inl rfl))
    · exact Or.inr (Or.inl rfl)
  · exact Or.inl ((exponentDigits_spec e.natAbs).1 b h)

theorem isDoubleByte_of_mem_pointed {whole fraction : List UInt8} (hw : ∀ b ∈ whole, isDigit b)
    (hf : ∀ b ∈ fraction, isDigit b) {b : UInt8} (h : b ∈ pointed whole fraction) :
    IsDoubleByte b := by
  rw [pointed] at h
  split at h
  · exact Or.inl (hw b h)
  · rcases List.mem_append.mp h with h | h
    · exact Or.inl (hw b h)
    rcases List.mem_cons.mp h with rfl | h
    · exact Or.inr (Or.inr (Or.inr (Or.inl rfl)))
    · exact Or.inl (hf b h)

theorem isDoubleByte_of_mem_styleG {precision : Nat} {digits : List UInt8} {e : Int}
    (hp : 0 < precision) (hlength : digits.length = precision) (hd : ∀ b ∈ digits, isDigit b)
    {b : UInt8} (hb : b ∈ styleG precision digits e) : IsDoubleByte b := by
  obtain ⟨whole, rest, tail, e', h⟩ := styleG_parts hp hlength hd e
  rw [h.text] at hb
  rcases List.mem_append.mp hb with hb | hb
  · exact isDoubleByte_of_mem_pointed h.whole_isDigit
      (fun b hb => h.rest_isDigit b (mem_of_mem_stripZeros hb)) hb
  · rcases h.tail_cases with ⟨htail, -⟩ | ⟨htail, -⟩
    · rw [htail] at hb
      exact absurd hb List.not_mem_nil
    · rw [htail] at hb
      exact isDoubleByte_of_mem_exponentText hb

/-- The text has digits, signs, a point and the mark of an exponent. -/
theorem isDoubleByte_of_mem_sprintfG {precision : Nat} (hp : 1 < precision) {neg : Bool}
    {x : Magnitude} {b : UInt8} (h : b ∈ sprintfG precision neg x) : IsDoubleByte b := by
  have htext : ∀ b ∈ (if x.units = 0 then [48] else
      styleG precision (decimal (significant precision x.units scale).1)
        (significant precision x.units scale).2), IsDoubleByte b := by
    intro b hb
    split at hb
    · rw [List.mem_singleton.mp hb]
      exact Or.inl (by decide)
    · rename_i hne
      exact isDoubleByte_of_mem_styleG (Nat.lt_trans Nat.one_pos hp)
        (length_significant (Nat.pos_of_ne_zero hne) scale_pos hp)
        (fun b hb => isDigit_of_mem_decimal hb) hb
  rw [sprintfG] at h
  split at h
  · rcases List.mem_cons.mp h with rfl | h
    · exact Or.inr (Or.inr (Or.inl rfl))
    · exact htext b h
  · exact htext b h

/-- The text starts with a minus sign or a digit. -/
theorem sprintfG_cons {precision : Nat} (hp : 1 < precision) (neg : Bool) (x : Magnitude) :
    ∃ b s, sprintfG precision neg x = b :: s ∧ (b = 45 ∨ isDigit b = true) := by
  rw [sprintfG]
  cases neg with
  | true => exact ⟨45, _, rfl, Or.inl rfl⟩
  | false =>
    rw [if_neg Bool.false_ne_true]
    by_cases hzero : x.units = 0
    · rw [if_pos hzero]
      exact ⟨48, [], rfl, Or.inr rfl⟩
    rw [if_neg hzero]
    have hlength := length_significant (Nat.pos_of_ne_zero hzero) scale_pos hp
    obtain ⟨whole, rest, tail, e, h⟩ :=
      styleG_parts (Nat.lt_trans Nat.one_pos hp) hlength (fun b hb => isDigit_of_mem_decimal hb)
        (significant precision x.units scale).2
    rw [h.text]
    cases whole with
    | nil => exact absurd rfl h.ne_nil
    | cons b ds =>
      refine ⟨b, (if stripZeros rest = [] then ds else ds ++ 46 :: stripZeros rest) ++ tail, ?_,
        Or.inr (h.whole_isDigit b List.mem_cons_self)⟩
      rw [pointed]
      split <;> rfl

end CText
