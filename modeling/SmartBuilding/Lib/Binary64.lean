import Mathlib.Tactic.Common
import Mathlib.Tactic.Linarith
import Mathlib.Tactic.Ring

/-!
# `SmartBuilding.Lib.Binary64`: doubles

A finite double is a sign and a whole number of units. The unit is the smallest positive double,
so `scale` units are 1. A number of units is a double when its significant bits are at most 53
(`Exact`), and below `2 ^ 2098`, where the infinities begin.

`roundUnits n d` is the number of units nearest to `n / d`: it drops the bits behind the first
53, and between two neighbours it takes the even one. Every operation computes its exact
result and rounds that (`ofRatio`), as IEEE 754 asks for.

`roundUnits_near` is the fact that the proofs about decimal texts need: what is closer to a
double than half of the distance to its neighbours is rounded to it.
-/

set_option autoImplicit false

namespace Binary64

/-! ### Rounding to a whole number -/

/-- The whole number nearest to `n / m`. Between two of them it is the even one. -/
def roundEven (n m : Nat) : Nat :=
  if m < 2 * (n % m) ∨ m = 2 * (n % m) ∧ n / m % 2 = 1 then n / m + 1 else n / m

theorem roundEven_bounds (n m : Nat) : n / m ≤ roundEven n m ∧ roundEven n m ≤ n / m + 1 := by
  rw [roundEven]
  split
  · exact ⟨Nat.le_succ _, Nat.le_refl _⟩
  · exact ⟨Nat.le_refl _, Nat.le_succ _⟩

/-- The result is at most one half away. -/
theorem roundEven_near (n : Nat) {m : Nat} (hm : 0 < m) :
    2 * n ≤ 2 * (m * roundEven n m) + m ∧ 2 * (m * roundEven n m) ≤ 2 * n + m := by
  have hsplit := Nat.div_add_mod n m
  have hmod := Nat.mod_lt n hm
  rw [roundEven]
  split
  · rw [Nat.mul_add, Nat.mul_one]
    omega
  · omega

/-- Less than one half away is rounded to the number. -/
theorem roundEven_eq {n m k : Nat} (hlow : 2 * (m * k) < 2 * n + m)
    (hhigh : 2 * n < 2 * (m * k) + m) : roundEven n m = k := by
  have hm : 0 < m := by omega
  obtain ⟨hup, hdown⟩ := roundEven_near n hm
  have hle : m * k < m * (roundEven n m + 1) := by
    rw [Nat.mul_add, Nat.mul_one]
    omega
  have hge : m * roundEven n m < m * (k + 1) := by
    rw [Nat.mul_add, Nat.mul_one]
    omega
  have hk := Nat.lt_of_mul_lt_mul_left hle
  have hr := Nat.lt_of_mul_lt_mul_left hge
  omega

/-- Only the ratio counts. -/
theorem roundEven_mul {c : Nat} (hc : 0 < c) (n m : Nat) :
    roundEven (c * n) (c * m) = roundEven n m := by
  have hlt : c * m < 2 * (c * (n % m)) ↔ m < 2 * (n % m) := by
    rw [Nat.mul_left_comm, Nat.mul_lt_mul_left hc]
  have heq : c * m = 2 * (c * (n % m)) ↔ m = 2 * (n % m) := by
    rw [Nat.mul_left_comm, Nat.mul_right_inj (Nat.ne_of_gt hc)]
  simp only [roundEven, Nat.mul_div_mul_left n m hc, Nat.mul_mod_mul_left, hlt, heq]

/-! ### Rounding to 53 bits -/

/-- The number has at most 53 significant bits. -/
def Exact (u : Nat) : Prop := 2 ^ (u.log2 - 52) ∣ u

/-- The whole number with at most 53 significant bits that is nearest to `n / d`. -/
def roundUnits (n d : Nat) : Nat :=
  let e := (n / d).log2 - 52
  roundEven n (d * 2 ^ e) * 2 ^ e

theorem exact_mul_two_pow {m : Nat} (hm : m ≤ 2 ^ 53) (e : Nat) : Exact (m * 2 ^ e) := by
  rw [Exact]
  by_cases hzero : m = 0
  · rw [hzero, Nat.zero_mul]
    exact Nat.dvd_zero _
  by_cases hlt : m < 2 ^ 53
  · have hlog : (m * 2 ^ e).log2 < 53 + e := by
      have hpow : m * 2 ^ e < 2 ^ (53 + e) := by
        rw [Nat.pow_add]
        exact Nat.mul_lt_mul_of_pos_right hlt (Nat.two_pow_pos e)
      exact (Nat.log2_lt (Nat.mul_ne_zero hzero (Nat.two_pow_pos e).ne')).mpr hpow
    exact Nat.dvd_trans (Nat.pow_dvd_pow 2 (by omega)) (Nat.dvd_mul_left _ m)
  · have htop : m * 2 ^ e = 2 ^ (53 + e) := by
      rw [Nat.le_antisymm hm (Nat.le_of_not_lt hlt), Nat.pow_add]
    rw [htop, Nat.log2_two_pow]
    exact Nat.pow_dvd_pow 2 (by omega)

theorem roundUnits_exact (n d : Nat) : Exact (roundUnits n d) := by
  apply exact_mul_two_pow
  have hbound := (roundEven_bounds n (d * 2 ^ ((n / d).log2 - 52))).2
  have hquot : n / d < 2 ^ ((n / d).log2 + 1) := Nat.lt_log2_self
  have hpow : 2 ^ ((n / d).log2 + 1) ≤ 2 ^ ((n / d).log2 - 52) * 2 ^ 53 := by
    rw [← Nat.pow_add]
    exact Nat.pow_le_pow_right (by decide) (by omega)
  have hlt := Nat.div_lt_of_lt_mul (Nat.lt_of_lt_of_le hquot hpow)
  rw [← Nat.div_div_eq_div_mul] at hbound
  omega

/-- Only the ratio counts. -/
theorem roundUnits_congr {n d n' d' : Nat} (hd : 0 < d) (hd' : 0 < d') (h : n * d' = n' * d) :
    roundUnits n d = roundUnits n' d' := by
  have hmul : ∀ {c : Nat}, 0 < c → ∀ n d, roundUnits (c * n) (c * d) = roundUnits n d := by
    intro c hc n d
    rw [roundUnits, roundUnits, Nat.mul_div_mul_left n d hc, Nat.mul_assoc, roundEven_mul hc]
  calc roundUnits n d = roundUnits (d' * n) (d' * d) := (hmul hd' n d).symm
    _ = roundUnits (d * n') (d * d') := by
      rw [Nat.mul_comm d' n, h, Nat.mul_comm n', Nat.mul_comm d']
    _ = roundUnits n' d' := hmul hd n' d'

/-- The number of bits that a quotient loses. -/
theorem log2_sub_eq {q e : Nat} (hlt : q < 2 ^ (53 + e)) (hge : e = 0 ∨ 2 ^ (52 + e) ≤ q) :
    q.log2 - 52 = e := by
  by_cases hzero : q = 0
  · rcases hge with rfl | hge
    · rw [hzero, Nat.log2_zero]
    · have hpos := Nat.two_pow_pos (52 + e)
      omega
  · have hlog := (Nat.log2_lt hzero).mpr hlt
    rcases hge with rfl | hge
    · omega
    · have hbits := (Nat.le_log2 hzero).mpr hge
      omega

theorem roundUnits_eq {n d m e : Nat} (he : (n / d).log2 - 52 = e)
    (hlow : 2 * (d * 2 ^ e * m) < 2 * n + d * 2 ^ e)
    (hhigh : 2 * n < 2 * (d * 2 ^ e * m) + d * 2 ^ e) : roundUnits n d = m * 2 ^ e := by
  rw [roundUnits, he, roundEven_eq hlow hhigh]

theorem lt_of_div_lt_two_pow {n d e : Nat} (hd : 0 < d) (h : n / d < 2 ^ (52 + e)) :
    n < d * 2 ^ e * 2 ^ 52 := by
  rw [Nat.mul_assoc, ← Nat.pow_add, Nat.add_comm e, Nat.mul_comm]
  exact (Nat.div_lt_iff_lt_mul hd).mp h

/-- A ratio below a power of two is rounded up to it when it is closer than a quarter of the last
bit, because the numbers below are closer together. -/
theorem roundUnits_below {n d f : Nat} (hd : 0 < d) (hless : n / d < 2 ^ (52 + (f + 1)))
    (hquarter : 4 * (d * 2 ^ (f + 1) * 2 ^ 52) < 4 * n + d * 2 ^ (f + 1)) :
    roundUnits n d = 2 ^ (f + 1) * 2 ^ 52 := by
  have hn : n < d * 2 ^ (f + 1) * 2 ^ 52 := lt_of_div_lt_two_pow hd hless
  have hhalf : d * 2 ^ (f + 1) = 2 * (d * 2 ^ f) := by rw [Nat.pow_succ]; ring
  rw [hhalf] at hquarter hn
  have hbits : 2 ^ (52 + f) ≤ n / d := by
    have hpos : 0 < d * 2 ^ f := Nat.mul_pos hd (Nat.two_pow_pos f)
    have hge : d * 2 ^ f * 2 ^ 52 ≤ n := by omega
    rw [Nat.le_div_iff_mul_le hd]
    calc 2 ^ (52 + f) * d = d * 2 ^ f * 2 ^ 52 := by rw [Nat.pow_add]; ring
      _ ≤ n := hge
  have hup : n / d < 2 ^ (53 + f) := by
    rw [show 53 + f = 52 + (f + 1) by omega]
    exact hless
  have hround := roundUnits_eq (m := 2 ^ 53) (log2_sub_eq hup (Or.inr hbits)) (by omega) (by omega)
  calc roundUnits n d = 2 ^ 53 * 2 ^ f := hround
    _ = 2 ^ (f + 1) * 2 ^ 52 := by rw [← Nat.pow_add, ← Nat.pow_add]; congr 1; omega

/-- A ratio is rounded to a number of 53 bits when it is closer than half of the last bit. A power
of two has the distance of the smaller numbers below it. -/
theorem roundUnits_near {n d u : Nat} (hu : Exact u)
    (hlow : 2 * (u * d) < 2 * n + d * 2 ^ (u.log2 - 52))
    (hhigh : 2 * n < 2 * (u * d) + d * 2 ^ (u.log2 - 52))
    (hpower : u = 2 ^ u.log2 → 4 * (u * d) < 4 * n + d * 2 ^ (u.log2 - 52)) :
    roundUnits n d = u := by
  obtain ⟨m, hm⟩ := hu
  have hlog : u < 2 ^ (u.log2 + 1) := Nat.lt_log2_self
  have hself : u ≠ 0 → 2 ^ u.log2 ≤ u := Nat.log2_self_le
  generalize he : u.log2 - 52 = e at *
  have hd : 0 < d := by
    rcases Nat.eq_zero_or_pos d with rfl | hd
    · omega
    · exact hd
  have hprod : u * d = d * 2 ^ e * m := by rw [hm]; ring
  have hm53 : m + 1 ≤ 2 ^ 53 := by
    have hpow : 2 ^ e * m < 2 ^ e * 2 ^ 53 := by
      rw [← hm, ← Nat.pow_add]
      exact Nat.lt_of_lt_of_le hlog (Nat.pow_le_pow_right (by decide) (by omega))
    exact Nat.lt_of_mul_lt_mul_left hpow
  have hup : n / d < 2 ^ (53 + e) := by
    have hle : d * 2 ^ e * (m + 1) ≤ d * 2 ^ e * 2 ^ 53 := Nat.mul_le_mul_left _ hm53
    have hpow : d * 2 ^ (53 + e) = d * 2 ^ e * 2 ^ 53 := by rw [Nat.pow_add]; ring
    rw [Nat.mul_add, Nat.mul_one] at hle
    exact Nat.div_lt_of_lt_mul (by omega)
  by_cases hbits : e = 0 ∨ 2 ^ (52 + e) ≤ n / d
  · have hround := roundUnits_eq (m := m) (log2_sub_eq hup hbits) (by omega) (by omega)
    rw [hround, hm, Nat.mul_comm]
  -- The quotient has a bit less than the number, so the number is a power of two.
  rw [not_or, Nat.not_le] at hbits
  obtain ⟨hne, hless⟩ := hbits
  obtain ⟨f, rfl⟩ : ∃ f, e = f + 1 := Nat.exists_eq_succ_of_ne_zero hne
  have hlogu : u.log2 = 52 + (f + 1) := by omega
  have hn : n < d * 2 ^ (f + 1) * 2 ^ 52 := lt_of_div_lt_two_pow hd hless
  have hmeq : m = 2 ^ 52 := by
    have hself52 : 2 ^ (f + 1) * 2 ^ 52 ≤ 2 ^ (f + 1) * m := by
      rw [← hm, ← Nat.pow_add, Nat.add_comm, ← hlogu]
      exact hself fun h => by rw [h, Nat.log2_zero] at hlogu; omega
    have hmle : m ≤ 2 ^ 52 := by
      by_contra hgt
      have hle : d * 2 ^ (f + 1) * (2 ^ 52 + 1) ≤ d * 2 ^ (f + 1) * m :=
        Nat.mul_le_mul_left _ (by omega)
      rw [Nat.mul_add, Nat.mul_one] at hle
      omega
    exact Nat.le_antisymm hmle (Nat.le_of_mul_le_mul_left hself52 (Nat.two_pow_pos (f + 1)))
  have hquarter := hpower (by rw [hlogu, hm, hmeq, ← Nat.pow_add, Nat.add_comm])
  rw [hprod, hmeq] at hquarter
  rw [roundUnits_below hd hless hquarter, hm, hmeq]

theorem roundUnits_zero {d : Nat} (hd : 0 < d) : roundUnits 0 d = 0 := by
  have hpow := Nat.mul_pos hd (Nat.two_pow_pos ((0 : Nat).log2 - 52))
  apply roundUnits_near (Nat.dvd_zero _)
  · omega
  · omega
  · intro _
    omega

/-! ### Doubles -/

/-- The units of 1. -/
def scale : Nat := 2 ^ 1074

/-- The units of the first power of two that is too large for a double. -/
def limit : Nat := 2 ^ 2098

theorem scale_pos : 0 < scale := by
  unfold scale
  positivity

theorem limit_pos : 0 < limit := by
  unfold limit
  positivity

theorem mul_two_pow_lt {m a b c : Nat} (hm : m ≤ 2 ^ a) (h : a + b < c) : m * 2 ^ b < 2 ^ c :=
  calc m * 2 ^ b ≤ 2 ^ a * 2 ^ b := Nat.mul_le_mul_right _ hm
    _ = 2 ^ (a + b) := (Nat.pow_add 2 a b).symm
    _ < 2 ^ c := Nat.pow_lt_pow_right (by decide) h

/-- The magnitude of a finite double. -/
structure Magnitude where
  units : Nat
  exact : Exact units
  lt : units < limit

/-- A double. There is one NaN only. -/
inductive Double where
  | nan
  | inf (neg : Bool)
  | finite (neg : Bool) (magnitude : Magnitude)

theorem Magnitude.ext {x y : Magnitude} (h : x.units = y.units) : x = y := by
  cases x
  cases y
  cases h
  rfl

instance : DecidableEq Magnitude := fun x y =>
  decidable_of_iff (x.units = y.units) ⟨Magnitude.ext, fun h => congrArg Magnitude.units h⟩

deriving instance DecidableEq for Double

/-- The double nearest to `n / d` units. Beyond the largest one it is infinite. -/
def ofRatio (neg : Bool) (n d : Nat) : Double :=
  if h : roundUnits n d < limit then .finite neg ⟨roundUnits n d, roundUnits_exact n d, h⟩
  else .inf neg

theorem ofRatio_congr (neg : Bool) {n d n' d' : Nat} (hd : 0 < d) (hd' : 0 < d')
    (h : n * d' = n' * d) : ofRatio neg n d = ofRatio neg n' d' := by
  simp only [ofRatio, roundUnits_congr hd hd' h]

theorem ofRatio_eq (neg : Bool) {n d : Nat} {x : Magnitude} (h : roundUnits n d = x.units) :
    ofRatio neg n d = .finite neg x := by
  have hlt : roundUnits n d < limit := by
    rw [h]
    exact x.lt
  rw [ofRatio, dif_pos hlt]
  exact congrArg (Double.finite neg) (Magnitude.ext h)

namespace Double

/-- The double nearest to an integer. -/
def ofInt (n : Int) : Double := ofRatio (n < 0) (n.natAbs * scale) 1

/-- The units of a finite double with their sign. -/
def signed (neg : Bool) (x : Magnitude) : Int := if neg then -x.units else x.units

/-- `a <= b`. -/
def le : Double → Double → Bool
  | nan, _ => false
  | _, nan => false
  | inf true, _ => true
  | _, inf false => true
  | inf false, _ => false
  | _, inf true => false
  | finite s x, finite t y => signed s x ≤ signed t y

/-- `a < b`. -/
def lt (a b : Double) : Bool := le a b && !le b a

/-- `a == b`. -/
def eq (a b : Double) : Bool := le a b && le b a

/-- `fabs`. -/
def abs : Double → Double
  | nan => nan
  | inf _ => inf false
  | finite _ x => finite false x

/-- `a - b`. A difference of 0 is positive, but for `-0 - 0`. -/
def sub : Double → Double → Double
  | nan, _ => nan
  | _, nan => nan
  | inf s, inf t => if s = t then nan else inf s
  | inf s, finite _ _ => inf s
  | finite _ _, inf t => inf !t
  | finite s x, finite t y =>
      let difference := signed s x - signed t y
      ofRatio (if difference = 0 then s && !t else difference < 0) difference.natAbs 1

/-- `a * b`. -/
def mul : Double → Double → Double
  | nan, _ => nan
  | _, nan => nan
  | inf s, inf t => inf (s ^^ t)
  | inf s, finite t y => if y.units = 0 then nan else inf (s ^^ t)
  | finite s x, inf t => if x.units = 0 then nan else inf (s ^^ t)
  | finite s x, finite t y => ofRatio (s ^^ t) (x.units * y.units) scale

/-- `DBL_EPSILON`. -/
def epsilon : Double := ofRatio false scale (2 ^ 52)

/-- The integer in front of the point. A double without one has none, and gets 0. -/
def trunc : Double → Int
  | finite neg x => if neg then -(x.units / scale : Nat) else (x.units / scale : Nat)
  | _ => 0

/-! ### Integers -/

/-- An integer of 53 bits is a double. -/
theorem ofInt_eq {n : Int} (h : n.natAbs ≤ 2 ^ 53) :
    ∃ x, ofInt n = finite (n < 0) x ∧ x.units = n.natAbs * scale := by
  have hexact : Exact (n.natAbs * scale) := @exact_mul_two_pow n.natAbs h 1074
  have hlt : n.natAbs * scale < limit := @mul_two_pow_lt n.natAbs 53 1074 2098 h (by decide)
  refine ⟨⟨n.natAbs * scale, hexact, hlt⟩, ofRatio_eq _ ?_, rfl⟩
  show roundUnits (n.natAbs * scale) 1 = n.natAbs * scale
  generalize n.natAbs * scale = u at hexact
  have hpos := Nat.two_pow_pos (u.log2 - 52)
  exact roundUnits_near hexact (by omega) (by omega) fun _ => by omega

theorem signed_ofInt {n : Int} {x : Magnitude} (h : x.units = n.natAbs * scale) :
    signed (n < 0) x = n * scale := by
  have habs : ((n.natAbs * scale : Nat) : Int) = n.natAbs * scale := Int.natCast_mul _ _
  rw [signed, h, habs]
  split
  · rename_i hneg
    rw [Int.ofNat_natAbs_of_nonpos (Int.le_of_lt (of_decide_eq_true hneg)), Int.neg_mul,
      Int.neg_neg]
  · rename_i hneg
    rw [Int.natAbs_of_nonneg (by simpa using hneg)]

theorem le_ofInt_iff {m n : Int} (hm : m.natAbs ≤ 2 ^ 53) (hn : n.natAbs ≤ 2 ^ 53) :
    le (ofInt m) (ofInt n) = true ↔ m ≤ n := by
  obtain ⟨x, hx, hxu⟩ := ofInt_eq hm
  obtain ⟨y, hy, hyu⟩ := ofInt_eq hn
  have hpos : (0 : Int) < scale := Int.natCast_pos.mpr scale_pos
  rw [hx, hy]
  show decide (signed (m < 0) x ≤ signed (n < 0) y) = true ↔ m ≤ n
  rw [decide_eq_true_eq, signed_ofInt hxu, signed_ofInt hyu]
  exact Int.mul_le_mul_right hpos

theorem trunc_ofInt {n : Int} (h : n.natAbs ≤ 2 ^ 53) : trunc (ofInt n) = n := by
  obtain ⟨x, hx, hxu⟩ := ofInt_eq h
  have hdiv : x.units / scale = n.natAbs := by
    rw [hxu]
    exact Nat.mul_div_cancel _ scale_pos
  rw [hx, trunc, hdiv]
  split
  · rename_i hneg
    have hlt : n < 0 := of_decide_eq_true hneg
    omega
  · rename_i hneg
    have hge : ¬ n < 0 := by simpa using hneg
    omega

/-- A finite double equals an integer when its units are those of the integer. -/
theorem eq_ofInt_iff {n : Int} (h : n.natAbs ≤ 2 ^ 53) (neg : Bool) (x : Magnitude) :
    eq (finite neg x) (ofInt n) = true ↔ signed neg x = n * scale := by
  obtain ⟨y, hy, hyu⟩ := ofInt_eq h
  rw [hy, eq, Bool.and_eq_true]
  show decide (signed neg x ≤ signed (n < 0) y) = true ∧
    decide (signed (n < 0) y ≤ signed neg x) = true ↔ _
  rw [decide_eq_true_eq, decide_eq_true_eq, signed_ofInt hyu]
  exact ⟨fun h => Int.le_antisymm h.1 h.2, fun h => ⟨Int.le_of_eq h, Int.le_of_eq h.symm⟩⟩

/-- The double of an integer that equals a finite double is that double, but for `-0`. -/
theorem ofInt_eq_iff {n : Int} (h : n.natAbs ≤ 2 ^ 53) {neg : Bool} {x : Magnitude}
    (heq : eq (finite neg x) (ofInt n) = true) :
    ofInt n = finite neg x ↔ (x.units = 0 → neg = false) := by
  rw [eq_ofInt_iff h] at heq
  obtain ⟨y, hy, hyu⟩ := ofInt_eq h
  have hpos : (0 : Int) < scale := Int.natCast_pos.mpr scale_pos
  have hsign : n < 0 ↔ neg = true ∧ x.units ≠ 0 := by
    rw [← Int.not_le, ← Int.mul_nonneg_iff_of_pos_right hpos, ← heq, signed]
    cases neg with
    | true =>
      rw [if_pos rfl, eq_self_iff_true, true_and]
      omega
    | false =>
      rw [if_neg Bool.false_ne_true]
      exact iff_of_false (by omega) fun h => Bool.false_ne_true h.1
  have hunits : y.units = x.units := by
    have habs := congrArg Int.natAbs heq
    rw [Int.natAbs_mul, Int.natAbs_natCast, ← hyu, signed] at habs
    rw [← habs]
    split
    · rw [Int.natAbs_neg, Int.natAbs_natCast]
    · rw [Int.natAbs_natCast]
  obtain rfl := Magnitude.ext hunits
  rw [hy]
  constructor
  · intro hself hzero
    have hneg : decide (n < 0) = neg := (finite.inj hself).1
    rw [← hneg, decide_eq_false_iff_not, hsign]
    exact fun hcase => hcase.2 hzero
  · intro hzero
    have hneg : decide (n < 0) = neg := by
      cases neg with
      | true => exact decide_eq_true (hsign.mpr ⟨rfl, fun h => Bool.noConfusion (hzero h)⟩)
      | false => exact decide_eq_false fun hlt => Bool.false_ne_true (hsign.mp hlt).1
    rw [hneg]

/-! ### Zero and the smallest difference -/

/-- A ratio with a positive sign is not below zero. -/
theorem zero_le_ofRatio {x : Magnitude} (hx : x.units = 0) (n d : Nat) :
    le (finite false x) (ofRatio false n d) = true := by
  rw [ofRatio]
  split
  · apply decide_eq_true
    rw [signed, signed, hx]
    exact Int.natCast_nonneg _
  · rfl

/-- The difference of equal numbers is a zero. -/
theorem sub_of_signed_eq {s t : Bool} {x y : Magnitude} (h : signed s x = signed t y) :
    ∃ neg z, sub (finite s x) (finite t y) = finite neg z ∧ z.units = 0 := by
  have hzero : roundUnits (signed s x - signed t y).natAbs 1 = 0 := by
    rw [Int.sub_eq_zero.mpr h]
    exact roundUnits_zero Nat.one_pos
  have hunits : ∀ u, ofRatio u (signed s x - signed t y).natAbs 1 =
      finite u ⟨0, Nat.dvd_zero _, limit_pos⟩ := fun u => ofRatio_eq u hzero
  exact ⟨_, _, hunits _, rfl⟩

/-- `DBL_EPSILON` is finite. -/
theorem mul_epsilon (x : Magnitude) :
    ∃ n, mul (finite false x) epsilon = ofRatio false n scale := by
  have hfinite : roundUnits scale (2 ^ 52) < limit := by decide +kernel
  rw [epsilon, ofRatio, dif_pos hfinite]
  exact ⟨_, rfl⟩

end Double

end Binary64
