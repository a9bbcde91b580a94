import Mathlib.Tactic.Ring

/-!
# `SmartBuilding.Lib.Varint`: numbers as bytes of seven bits

`encode` writes a natural number with its lowest seven bits first. The top bit of a byte says
that more bytes follow. `decode` reads one number of at most `limit` bytes and counts the
bytes that it takes.

`decode_encode` is the round trip, whatever bytes follow. `length_encode_le_iff` gives the
width of a number.
-/

set_option autoImplicit false

namespace Varint

/-- The bytes of a number. -/
def encode (n : Nat) : List UInt8 :=
  let digit := (n % 128).toUInt8
  if 0 < n / 128 then (digit ||| 128) :: encode (n / 128) else [digit]
termination_by n
decreasing_by omega

/-- The number at the start of the bytes, and how many bytes it takes. There is none when the
bytes end before it does, or when it takes more than `limit` bytes. -/
def decode : Nat → List UInt8 → Option (Nat × Nat)
  | 0, _ => none
  | _ + 1, [] => none
  | limit + 1, b :: bytes =>
      if b &&& 128 ≠ 0 then
        (decode limit bytes).map fun (n, len) => ((b &&& 127).toNat + 128 * n, len + 1)
      else
        some ((b &&& 127).toNat, 1)

/-! ### One byte -/

/-- A last byte: its top bit is clear, and the others are the digit. -/
theorem digit_bits (n : Nat) :
    (n % 128).toUInt8 &&& 128 = 0 ∧ ((n % 128).toUInt8 &&& 127).toNat = n % 128 := by
  have hall : ∀ k < 128, k.toUInt8 &&& 128 = 0 ∧ (k.toUInt8 &&& 127).toNat = k := by decide
  exact hall _ (Nat.mod_lt n (by decide))

/-- A byte before the last: its top bit is set, and the others are the digit. -/
theorem continued_bits (n : Nat) :
    ((n % 128).toUInt8 ||| 128) &&& 128 ≠ 0 ∧
      (((n % 128).toUInt8 ||| 128) &&& 127).toNat = n % 128 := by
  have hall : ∀ k < 128, (k.toUInt8 ||| 128) &&& 128 ≠ 0 ∧
      ((k.toUInt8 ||| 128) &&& 127).toNat = k := by decide
  exact hall _ (Nat.mod_lt n (by decide))

/-! ### The encoding -/

theorem encode_of_lt {n : Nat} (h : n < 128) : encode n = [(n % 128).toUInt8] := by
  rw [encode, if_neg (by omega)]

theorem encode_of_le {n : Nat} (h : 128 ≤ n) :
    encode n = ((n % 128).toUInt8 ||| 128) :: encode (n / 128) := by
  rw [encode, if_pos (by omega)]

/-- A number takes at most `k` bytes when it has at most `7 * k` bits. -/
theorem length_encode_le_iff {k : Nat} (hk : 0 < k) :
    ∀ n, (encode n).length ≤ k ↔ n < 128 ^ k := by
  induction k with
  | zero => omega
  | succ k ih =>
    intro n
    have hpow : 128 ^ (k + 1) = 128 ^ k * 128 := Nat.pow_succ _ _
    have hone : 0 < 128 ^ k := Nat.pow_pos (by decide)
    rcases Nat.lt_or_ge n 128 with hlt | hge
    · rw [encode_of_lt hlt, List.length_singleton]
      omega
    · rw [encode_of_le hge, List.length_cons, Nat.add_le_add_iff_right]
      rcases Nat.eq_zero_or_pos k with rfl | hpos
      · -- One byte is not enough, and the rest of the number takes some byte.
        have hrest : (encode (n / 128)).length ≠ 0 := by
          rw [encode]
          split <;> simp
        omega
      · rw [ih hpos, Nat.div_lt_iff_lt_mul (by decide), hpow]

/-- Reading what was written gives the number, and leaves the bytes after it. -/
theorem decode_encode {limit n : Nat} (hlimit : 0 < limit) (h : n < 128 ^ limit)
    (bytes : List UInt8) :
    decode limit (encode n ++ bytes) = some (n, (encode n).length) := by
  induction limit generalizing n with
  | zero => omega
  | succ limit ih =>
    rcases Nat.lt_or_ge n 128 with hlt | hge
    · obtain ⟨htop, hdigit⟩ := digit_bits n
      rw [encode_of_lt hlt, List.singleton_append, decode, if_neg (by simpa using htop), hdigit,
        Nat.mod_eq_of_lt hlt]
      rfl
    · obtain ⟨htop, hdigit⟩ := continued_bits n
      have hdiv : n / 128 < 128 ^ limit := by
        rwa [Nat.div_lt_iff_lt_mul (by decide), ← Nat.pow_succ]
      -- A number of two digits does not fit one byte.
      have hpos : 0 < limit := by
        rcases Nat.eq_zero_or_pos limit with rfl | hpos
        · omega
        · exact hpos
      rw [encode_of_le hge, List.cons_append, decode, if_pos htop, hdigit, ih hpos hdiv]
      show some (n % 128 + 128 * (n / 128), (encode (n / 128)).length + 1) = _
      rw [Nat.mod_add_div, List.length_cons]

end Varint
