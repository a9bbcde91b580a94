import Mathlib.Data.List.Basic
import Mathlib.Data.List.TakeWhile
import Mathlib.Tactic.Common
import Mathlib.Tactic.Linarith
import Mathlib.Tactic.Ring

/-!
# `SmartBuilding.Lib.CText`: C strings and the text functions of the C library

A C string is a `List UInt8`. Where the bytes come from a buffer, the string ends before the
first NUL (`cString`). The functions here follow the C standard on a machine whose `long`
has 32 bits:

* `decimal` is what `%d` prints;
* `strtoul` reads with base 10, and `sscanfD` is `sscanf` with the format `%d`;
* `strtok` is the loop that calls `strtok` until it returns a null pointer;
* `fgetsLine` is what one call of `fgets` takes from a stream.

The lemmas say that reading gives back what was printed. `strtoul` and `sscanfD` read the
number at the start of a run of digits, and `digitsValue_drop_decimal` gives the number that
is left when the first digits of a printed number are skipped. `strtok_pieces` says that the
tokens of a text are its nonempty pieces between the separators.
-/

set_option autoImplicit false

namespace CText

/-- The UTF-8 bytes of a text. -/
def ofText (s : String) : List UInt8 := s.toList.flatMap String.utf8EncodeChar

/-- The C string at the start of a buffer: the bytes before the first NUL. -/
def cString (b : List UInt8) : List UInt8 := b.takeWhile (· ≠ 0)

/-- `tolower`. -/
def tolower (b : UInt8) : UInt8 := if 65 ≤ b ∧ b ≤ 90 then b + 32 else b

/-- `isspace`. -/
def isSpace (b : UInt8) : Bool := b = 32 ∨ 9 ≤ b ∧ b ≤ 13

/-- `isdigit`. -/
def isDigit (b : UInt8) : Bool := 48 ≤ b ∧ b ≤ 57

/-! ### Printing -/

/-- The decimal digits of a natural number. -/
def decimal (n : Nat) : List UInt8 := (Nat.toDigits 10 n).map fun c => c.toNat.toUInt8

/-- What `%d` prints for an `int`. -/
def decimalInt (n : Int32) : List UInt8 :=
  if n < 0 then 45 :: decimal n.toInt.natAbs else decimal n.toInt.natAbs

theorem decimal_ne_nil (n : Nat) : decimal n ≠ [] := by
  simp [decimal]

theorem length_decimal_le_iff {n k : Nat} (h : 0 < k) :
    (decimal n).length ≤ k ↔ n < 10 ^ k := by
  rw [decimal, List.length_map]
  exact Nat.length_toDigits_le_iff (by decide) h

/-- The width of a printed `int`: the sign counts as one more digit. -/
theorem length_decimalInt_le_iff {n : Int32} {k : Nat} (h : 0 < k) :
    (decimalInt n).length ≤ k + 1 ↔ -10 ^ k < n.toInt ∧ n.toInt < 10 ^ (k + 1) := by
  have hcast : ∀ j : Nat, ((10 ^ j : Nat) : Int) = 10 ^ j := fun j => by push_cast; rfl
  have hpow := hcast k
  have hpow' := hcast (k + 1)
  have hpos : 0 < 10 ^ k := Nat.pow_pos (by decide)
  have hzero : (n < 0) ↔ n.toInt < 0 := Int32.lt_iff_toInt_lt
  unfold decimalInt
  by_cases hneg : n < 0
  · have hn := hzero.mp hneg
    rw [if_pos hneg, List.length_cons, Nat.add_le_add_iff_right, length_decimal_le_iff h]
    omega
  · have hn := mt hzero.mpr hneg
    rw [if_neg hneg, length_decimal_le_iff (Nat.succ_pos k)]
    omega

/-- An `int` has at most eleven characters. -/
theorem length_decimalInt_le (n : Int32) : (decimalInt n).length ≤ 11 := by
  have hlow := n.le_toInt
  have hhigh := n.toInt_lt
  exact (length_decimalInt_le_iff (k := 10) (by decide)).mpr ⟨by omega, by omega⟩

/-- The byte of a digit character. -/
private theorem toNat_digitByte {c : Char} (h : c.isDigit) :
    c.toNat.toUInt8.toNat = c.toNat ∧ 48 ≤ c.toNat ∧ c.toNat ≤ 57 := by
  have hc : 48 ≤ c.toNat ∧ c.toNat ≤ 57 := by
    simpa [Char.isDigit, UInt32.le_iff_toNat_le] using h
  refine ⟨?_, hc⟩
  rw [Nat.toUInt8_eq, UInt8.toNat_ofNat']
  omega

theorem isDigit_of_mem_decimal {n : Nat} {b : UInt8} (h : b ∈ decimal n) : isDigit b := by
  obtain ⟨c, hc, rfl⟩ := List.mem_map.mp h
  have hbyte := toNat_digitByte (Nat.isDigit_of_mem_toDigits (by decide) (by decide) hc)
  simp only [isDigit, UInt8.le_iff_toNat_le, decide_eq_true_eq, hbyte.1]
  exact hbyte.2

/-! ### Reading numbers -/

/-- The value of a list of digits, after the value `n` of the digits before. -/
def digitsValue (n : Nat) (ds : List UInt8) : Nat :=
  ds.foldl (fun n b => 10 * n + (b.toNat - 48)) n

/-- An optional sign and the bytes after it. -/
def sign : List UInt8 → Bool × List UInt8
  | 45 :: s => (true, s)
  | 43 :: s => (false, s)
  | s => (false, s)

/-- `strtoul` with base 10. A value that does not fit gives `ULONG_MAX`. -/
def strtoul (s : List UInt8) : UInt32 :=
  let (neg, s) := sign (s.dropWhile isSpace)
  let n := digitsValue 0 (s.takeWhile isDigit)
  if 2 ^ 32 ≤ n then 0xFFFFFFFF else if neg then -n.toUInt32 else n.toUInt32

/-- `sscanf` with the format `%d` into an `unsigned` variable: the stored value, or `none`
when the text does not match. A value that does not fit an `int` is clamped. -/
def sscanfD (s : List UInt8) : Option UInt32 :=
  let (neg, s) := sign (s.dropWhile isSpace)
  let ds := s.takeWhile isDigit
  let n := digitsValue 0 ds
  if ds = [] then none
  else if neg then some (-(min n (2 ^ 31)).toUInt32)
  else some (min n (2 ^ 31 - 1)).toUInt32

/-- The digits before count by their place. -/
theorem digitsValue_eq (ds : List UInt8) :
    ∀ n, digitsValue n ds = 10 ^ ds.length * n + digitsValue 0 ds := by
  induction ds with
  | nil => intro n; simp [digitsValue]
  | cons b ds ih =>
    intro n
    have hcons : ∀ n, digitsValue n (b :: ds) = digitsValue (10 * n + (b.toNat - 48)) ds :=
      fun _ => rfl
    -- The induction hypothesis serves twice: with the digit in front, and without it.
    rw [hcons, hcons, ih, ih (10 * 0 + (b.toNat - 48)), List.length_cons, Nat.pow_succ]
    ring

theorem digitsValue_append (xs ys : List UInt8) :
    digitsValue 0 (xs ++ ys) = 10 ^ ys.length * digitsValue 0 xs + digitsValue 0 ys := by
  rw [← digitsValue_eq ys]
  exact List.foldl_append

theorem digitsValue_lt {ds : List UInt8} (h : ∀ b ∈ ds, isDigit b) :
    digitsValue 0 ds < 10 ^ ds.length := by
  induction ds with
  | nil => decide
  | cons b ds ih =>
    have hb : b.toNat - 48 ≤ 9 := by
      have := h b List.mem_cons_self
      simp only [isDigit, UInt8.le_iff_toNat_le, decide_eq_true_eq] at this
      have hle : b.toNat ≤ 57 := this.2
      omega
    -- The first digit is at most 9, and the rest is below its power of ten.
    have hrest := ih fun c hc => h c (List.mem_cons_of_mem b hc)
    have hcons : digitsValue 0 (b :: ds) = digitsValue (b.toNat - 48) ds := by
      simp [digitsValue]
    rw [hcons, digitsValue_eq, List.length_cons, Nat.pow_succ]
    nlinarith [Nat.pow_pos (n := ds.length) (show 0 < 10 by decide)]

/-- Reading the digits of a printed number gives the number. -/
theorem digitsValue_decimal (n : Nat) : digitsValue 0 (decimal n) = n := by
  have hfold : digitsValue 0 (decimal n) = Nat.ofDigitChars 10 (Nat.toDigits 10 n) 0 := by
    rw [digitsValue, decimal, List.foldl_map, Nat.ofDigitChars_eq_foldl]
    -- Both folds take the same value from each digit.
    refine List.foldl_ext _ _ _ fun k c hc => ?_
    rw [(toNat_digitByte (Nat.isDigit_of_mem_toDigits (by decide) (by decide) hc)).1]
    rfl
  rw [hfold, Nat.ofDigitChars_ten_toDigits]

/-- Skipping the first `k` digits of a printed number leaves its last digits. -/
theorem digitsValue_drop_decimal (n k : Nat) :
    digitsValue 0 ((decimal n).drop k) = n % 10 ^ ((decimal n).length - k) := by
  have hsplit := digitsValue_append ((decimal n).take k) ((decimal n).drop k)
  rw [List.take_append_drop, digitsValue_decimal, List.length_drop] at hsplit
  have hlt : digitsValue 0 ((decimal n).drop k) < 10 ^ ((decimal n).length - k) := by
    rw [← List.length_drop]
    exact digitsValue_lt fun b hb => isDigit_of_mem_decimal (List.mem_of_mem_drop hb)
  -- The digits in front count in multiples of the power, so the remainder is the rest.
  have hmod := congrArg (· % 10 ^ ((decimal n).length - k)) hsplit
  rw [Nat.mul_add_mod, Nat.mod_eq_of_lt hlt] at hmod
  exact hmod.symm

/-- A digit is neither a space nor a sign. -/
theorem isDigit_cases {b : UInt8} (h : isDigit b) :
    isSpace b = false ∧ b ≠ 45 ∧ b ≠ 43 := by
  simp only [isDigit, UInt8.le_iff_toNat_le, decide_eq_true_eq] at h
  have hb : 48 ≤ b.toNat ∧ b.toNat ≤ 57 := h
  refine ⟨?_, ?_, ?_⟩
  · simp only [isSpace, UInt8.le_iff_toNat_le, ← UInt8.toNat_inj, decide_eq_false_iff_not]
    have h13 : (13 : UInt8).toNat = 13 := rfl
    have h32 : (32 : UInt8).toNat = 32 := rfl
    omega
  · rintro rfl; exact absurd hb (by decide)
  · rintro rfl; exact absurd hb (by decide)

/-- A text that starts with a digit has no sign. -/
theorem sign_of_isDigit {b : UInt8} (s : List UInt8) (h : isDigit b) :
    sign (b :: s) = (false, b :: s) := by
  obtain ⟨-, hminus, hplus⟩ := isDigit_cases h
  unfold sign
  split <;> simp_all

/-- Bytes of one kind in front of bytes that do not continue them. -/
theorem span_append {p : UInt8 → Bool} {front rest : List UInt8}
    (hfront : ∀ b ∈ front, p b = true) (hrest : ∀ b, rest.head? = some b → p b = false) :
    (front ++ rest).takeWhile p = front ∧ (front ++ rest).dropWhile p = rest := by
  rw [List.takeWhile_append_of_pos hfront, List.dropWhile_append_of_pos hfront]
  cases rest with
  | nil => exact ⟨List.append_nil _, rfl⟩
  | cons b rest =>
    have hb : ¬ p b = true := Bool.eq_false_iff.mp (hrest b rfl)
    rw [List.takeWhile_cons_of_neg hb, List.dropWhile_cons_of_neg hb]
    exact ⟨List.append_nil _, rfl⟩

/-- The text of a number: digits, and after them nothing but white space. -/
private theorem number_text {ds s : List UInt8} (hd : ∀ b ∈ ds, isDigit b)
    (hs : ∀ b ∈ s, isSpace b) :
    (sign ((ds ++ s).dropWhile isSpace)).1 = false ∧
      (sign ((ds ++ s).dropWhile isSpace)).2.takeWhile isDigit = ds := by
  cases ds with
  | nil =>
    rw [List.nil_append, List.dropWhile_eq_nil_iff.mpr hs]
    exact ⟨rfl, rfl⟩
  | cons b ds =>
    have hdigit := hd b List.mem_cons_self
    have hspace : ¬ isSpace b = true := Bool.eq_false_iff.mp (isDigit_cases hdigit).1
    -- White space is no digit, so the run of digits ends with `ds`.
    have hend : ∀ c, s.head? = some c → isDigit c = false := by
      intro c hc
      apply Bool.eq_false_iff.mpr
      intro hcdigit
      exact Bool.eq_false_iff.mp (isDigit_cases hcdigit).1 (hs c (List.mem_of_head? hc))
    rw [List.cons_append, List.dropWhile_cons_of_neg hspace, sign_of_isDigit _ hdigit]
    exact ⟨rfl, (span_append hd hend).1⟩

theorem strtoul_digits {ds s : List UInt8} (hd : ∀ b ∈ ds, isDigit b)
    (hs : ∀ b ∈ s, isSpace b) (hlt : digitsValue 0 ds < 2 ^ 32) :
    strtoul (ds ++ s) = (digitsValue 0 ds).toUInt32 := by
  obtain ⟨hsign, htake⟩ := number_text hd hs
  simp only [strtoul, hsign, htake]
  rw [if_neg (by omega), if_neg (by simp)]

/-- A number that is printed in decimal is read back. -/
theorem strtoul_decimal {n : Nat} (hn : n < 2 ^ 32) : strtoul (decimal n) = n.toUInt32 := by
  have hread := strtoul_digits (s := []) (fun b hb => isDigit_of_mem_decimal hb) (by simp)
    (by rw [digitsValue_decimal]; exact hn)
  rwa [List.append_nil, digitsValue_decimal] at hread

theorem sscanfD_digits {ds s : List UInt8} (hne : ds ≠ []) (hd : ∀ b ∈ ds, isDigit b)
    (hs : ∀ b ∈ s, isSpace b) (hlt : digitsValue 0 ds < 2 ^ 31) :
    sscanfD (ds ++ s) = some (digitsValue 0 ds).toUInt32 := by
  obtain ⟨hsign, htake⟩ := number_text hd hs
  simp only [sscanfD, hsign, htake]
  rw [if_neg hne, if_neg (by simp), Nat.min_eq_left (by omega)]

/-! ### Tokens -/

/-- The calls of `strtok` on one string until the result is a null pointer: the offset of
each token, and the buffer with the separator after each token overwritten by NUL. `inTok`
says that the byte before belongs to a token, and `off` is the offset of the first byte. -/
def strtok (delim : UInt8) : Bool → Nat → List UInt8 → List Nat × List UInt8
  | _, _, [] => ([], [])
  | inTok, off, b :: s =>
      if b = 0 then
        ([], b :: s)
      else if b = delim then
        let r := strtok delim false (off + 1) s
        (r.1, (if inTok then 0 else b) :: r.2)
      else
        let r := strtok delim true (off + 1) s
        (if inTok then r.1 else off :: r.1, b :: r.2)

/-- Inside a token, the bytes that are neither NUL nor the separator stay. -/
theorem strtok_inTok {delim : UInt8} {word : List UInt8} (s : List UInt8)
    (h : ∀ b ∈ word, b ≠ 0 ∧ b ≠ delim) :
    ∀ off, strtok delim true off (word ++ s) =
      ((strtok delim true (off + word.length) s).1,
        word ++ (strtok delim true (off + word.length) s).2) := by
  induction word with
  | nil => intro off; rfl
  | cons b word ih =>
    intro off
    obtain ⟨hnul, hdelim⟩ := h b List.mem_cons_self
    rw [List.cons_append, strtok, if_neg hnul, if_neg hdelim,
      ih (fun c hc => h c (List.mem_cons_of_mem b hc))]
    simp only [if_true, List.length_cons, List.cons_append, Nat.add_assoc, Nat.add_comm 1]

/-- A token at the start of the text. -/
theorem strtok_word {delim : UInt8} {word : List UInt8} (s : List UInt8) (hne : word ≠ [])
    (h : ∀ b ∈ word, b ≠ 0 ∧ b ≠ delim) (off : Nat) :
    strtok delim false off (word ++ s) =
      (off :: (strtok delim true (off + word.length) s).1,
        word ++ (strtok delim true (off + word.length) s).2) := by
  obtain ⟨b, word, rfl⟩ := List.exists_cons_of_ne_nil hne
  obtain ⟨hnul, hdelim⟩ := h b List.mem_cons_self
  rw [List.cons_append, strtok, if_neg hnul, if_neg hdelim,
    strtok_inTok s (fun c hc => h c (List.mem_cons_of_mem b hc))]
  simp only [Bool.false_eq_true, if_false, List.length_cons, List.cons_append, Nat.add_assoc,
    Nat.add_comm 1]

/-- A text of two tokens: the separator between them becomes the NUL that ends the first
one. -/
theorem strtok_two_words {delim : UInt8} {word word' : List UInt8} (s : List UInt8)
    (hdelim : delim ≠ 0) (hne : word ≠ []) (hne' : word' ≠ [])
    (h : ∀ b ∈ word, b ≠ 0 ∧ b ≠ delim) (h' : ∀ b ∈ word', b ≠ 0 ∧ b ≠ delim) :
    strtok delim false 0 (word ++ delim :: (word' ++ 0 :: s)) =
      ([0, word.length + 1], word ++ 0 :: (word' ++ 0 :: s)) := by
  rw [strtok_word _ hne h, strtok, if_neg hdelim, if_pos rfl, strtok_word _ hne' h', strtok,
    if_pos rfl]
  simp

/-! ### Pieces between separators -/

/-- The nonempty pieces of a text between the separators. -/
def pieces (delim : UInt8) (s : List UInt8) : List (List UInt8) :=
  (s.splitOn delim).filter (· ≠ [])

private theorem map_drop_succ (x : UInt8) (t : List UInt8) {os : List Nat} {off : Nat}
    (h : ∀ o ∈ os, off + 1 ≤ o) :
    os.map (fun o => cString ((x :: t).drop (o - off))) =
      os.map (fun o => cString (t.drop (o - (off + 1)))) := by
  refine List.map_congr_left fun o ho => ?_
  have hle := h o ho
  rw [show o - off = o - (off + 1) + 1 by omega, List.drop_succ_cons]

/-- The induction behind `strtok_pieces`. Inside a token, the first piece is the rest of
it, and the other pieces are the tokens to come. -/
private theorem strtok_pieces_aux {delim : UInt8} (s : List UInt8) (hs : ∀ b ∈ s, b ≠ 0) :
    ∀ inTok off, (∀ o ∈ (strtok delim inTok off s).1, off ≤ o) ∧
      (strtok delim inTok off s).1.map
          (fun o => cString ((strtok delim inTok off s).2.drop (o - off))) =
        (if inTok then (s.splitOn delim).tail else s.splitOn delim).filter (· ≠ []) ∧
      (inTok = true →
        (s.splitOn delim).head? = some (cString (strtok delim inTok off s).2)) := by
  induction s with
  | nil =>
    intro inTok off
    cases inTok <;> simp [strtok, cString]
  | cons b s ih =>
    intro inTok off
    have hb : b ≠ 0 := hs b List.mem_cons_self
    have htail : ∀ c ∈ s, c ≠ 0 := fun c hc => hs c (List.mem_cons_of_mem b hc)
    rw [strtok, if_neg hb, List.splitOn_cons_eq_if_modifyHead]
    by_cases hdelim : b = delim
    · -- The separator ends a piece, and the piece before the next token is empty.
      subst hdelim
      obtain ⟨hle, hmap, -⟩ := ih htail false (off + 1)
      refine ⟨fun o ho => ?_, ?_, ?_⟩
      · rw [if_pos rfl] at ho
        exact Nat.le_of_succ_le (hle o ho)
      · simp only [if_pos, beq_self_eq_true, map_drop_succ _ _ hle, hmap]
        cases inTok <;> simp
      · rintro rfl
        simp [cString]
    · -- Any other byte goes to the front of the first piece.
      obtain ⟨hle, hmap, hhead⟩ := ih htail true (off + 1)
      have hne : (b == delim) = false := by simpa using hdelim
      obtain ⟨head, tail, hsplit⟩ := List.exists_cons_of_ne_nil (List.splitOn_ne_nil delim s)
      rw [hsplit] at hmap hhead
      have hfirst : head = cString (strtok delim true (off + 1) s).2 := by
        simpa using hhead rfl
      rw [if_neg hdelim, hne, hsplit]
      have hword : cString (b :: (strtok delim true (off + 1) s).2) = b :: head := by
        rw [hfirst, cString, List.takeWhile_cons_of_pos (by simpa using hb)]
        rfl
      refine ⟨fun o ho => ?_, ?_, ?_⟩
      · cases inTok
        · obtain rfl | ho : o = off ∨ o ∈ (strtok delim true (off + 1) s).1 := by
            simpa using ho
          · exact Nat.le_refl _
          · exact Nat.le_of_succ_le (hle o ho)
        · exact Nat.le_of_succ_le (hle o ho)
      · cases inTok
        · simpa [map_drop_succ _ _ hle, hword] using hmap
        · simpa [map_drop_succ _ _ hle] using hmap
      · rintro rfl
        simp [hword]

/-- The tokens of a text are its nonempty pieces. -/
theorem strtok_pieces (delim : UInt8) {s : List UInt8} (hs : ∀ b ∈ s, b ≠ 0) :
    (strtok delim false 0 s).1.map
        (fun off => cString ((strtok delim false 0 s).2.drop off)) = pieces delim s :=
  (strtok_pieces_aux s hs false 0).2.1

/-! ### Streams -/

/-- The bytes that `fgets` with room for `n` bytes takes from a stream: up to a newline, to
the end of the stream, or to the end of the room. -/
def fgetsLine : Nat → List UInt8 → List UInt8
  | 0, _ => []
  | _ + 1, [] => []
  | n + 1, b :: s => if b = 10 then [b] else b :: fgetsLine n s

/-- A line that fits into the room is taken whole. -/
theorem fgetsLine_line {line : List UInt8} (s : List UInt8) (h : 10 ∉ line) :
    ∀ {n}, line.length < n → fgetsLine n (line ++ 10 :: s) = line ++ [10] := by
  induction line with
  | nil =>
    intro n hn
    obtain ⟨n, rfl⟩ := Nat.exists_eq_add_of_lt hn
    simp [fgetsLine]
  | cons b line ih =>
    intro n hn
    obtain ⟨n, rfl⟩ : ∃ k, n = k + 1 := ⟨n - 1, by simp at hn; omega⟩
    have hb : b ≠ 10 := by rintro rfl; exact h List.mem_cons_self
    rw [List.cons_append, fgetsLine, if_neg hb,
      ih (fun hmem => h (List.mem_cons_of_mem b hmem)) (by simp at hn; omega)]
    rfl

/-- `fgets` takes something from a stream that has something left. -/
theorem fgetsLine_ne_nil {n : Nat} (hn : 0 < n) {s : List UInt8} (hs : s ≠ []) :
    fgetsLine n s ≠ [] := by
  obtain ⟨n, rfl⟩ : ∃ k, n = k + 1 := ⟨n - 1, by omega⟩
  obtain ⟨b, s, rfl⟩ := List.exists_cons_of_ne_nil hs
  rw [fgetsLine]
  split <;> simp

/-- What `fgets` takes fits into the room. -/
theorem length_fgetsLine_le : ∀ (n : Nat) (stream : List UInt8),
    (fgetsLine n stream).length ≤ n := by
  intro n
  induction n with
  | zero => intro stream; exact Nat.le_refl _
  | succ n ih =>
    intro stream
    cases stream with
    | nil => exact Nat.zero_le _
    | cons b stream =>
      rw [fgetsLine]
      split
      · rw [List.length_singleton]
        omega
      · rw [List.length_cons]
        exact Nat.succ_le_succ (ih stream)

theorem ne_zero_of_mem_cString {t : List UInt8} {b : UInt8} (h : b ∈ cString t) : b ≠ 0 := by
  simpa using List.mem_takeWhile_imp h

/-- A NUL ends the string, also when it is not the first one. -/
theorem cString_append_nul (t s : List UInt8) : cString (t ++ 0 :: s) = cString t := by
  rw [cString, cString, List.takeWhile_append]
  split
  · rename_i hall
    have hself : t.takeWhile (· ≠ 0) = t := (List.takeWhile_prefix _).eq_of_length hall
    rw [hself]
    simp
  · rfl

theorem cString_append {line : List UInt8} (s : List UInt8) (h : ∀ b ∈ line, b ≠ 0) :
    cString (line ++ 0 :: s) = line := by
  rw [cString, List.takeWhile_append_of_pos (by simpa using h)]
  simp

end CText
