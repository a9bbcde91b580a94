import SmartBuilding.CJsonPrint
import SmartBuilding.CJsonText

/-!
# `SmartBuilding.Proofs.CJsonText`: what cJSON prints, it parses back

`CJson.text` is the text of a tree without white space. A tree comes back as `CJson.reread`, and
one that is nested too deep does not come back at all: `cJSONParse_text` says both, for every tree.
Strings are C strings, so they and the keys come back cut at their first NUL. A number comes back
as the double that its digits denote, and one that is not finite as `null` (`rereadNumber`). The
list of the elements of an array or an object is the round trip of `Delimited`.

From the other side, whatever the parser accepts is within the nesting limit, has no NUL in its
strings, and has the numbers that `cJSON_CreateNumber` makes (`parseValue_spec`). Such a tree comes
back unchanged exactly when each of its numbers does (`reread_eq_iff`).

The last section is about the memory of `parse_string`: the decoded text fits into the buffer
that the search for the closing quote has counted out.
-/

set_option autoImplicit false

namespace SmartBuilding

open CText Delimited Binary64

/-! ### The text of a tree -/

/-- A string between quotes. -/
def quoted (s : List UInt8) : List UInt8 := 34 :: ((cString s).flatMap escapedByte ++ [34])

/-- The digits that `print_number` prints of a double. -/
def printedDigits (neg : Bool) (x : Magnitude) : Nat :=
  if compareDouble (nearestDecimal 15 neg x).toDouble (.finite neg x) then 15 else 17

/-- The text of a number. -/
def numberText (n : Int32) : Double → List UInt8
  | .finite neg x =>
      if (Double.finite neg x).eq (Double.ofInt n.toInt) then decimalInt n
      else sprintfG (printedDigits neg x) neg x
  | _ => ofText "null"

mutual

/-- The text of a tree. -/
def CJson.text : CJson → List UInt8
  | .jNull => ofText "null"
  | .jFalse => ofText "false"
  | .jTrue => ofText "true"
  | .number n d => numberText n d
  | .string s => quoted s
  | .array items => 91 :: ([44].intercalate (itemTexts items) ++ [93])
  | .object members => 123 :: ([44].intercalate (memberTexts members) ++ [125])

/-- The texts of the items of an array. -/
def itemTexts : List CJson → List (List UInt8)
  | [] => []
  | x :: xs => x.text :: itemTexts xs

/-- The texts of the members of an object. -/
def memberTexts : List (List UInt8 × CJson) → List (List UInt8)
  | [] => []
  | m :: ms => memberText m :: memberTexts ms

/-- A key, a colon, and a value. -/
def memberText : List UInt8 × CJson → List UInt8
  | (key, x) => quoted key ++ 58 :: x.text

end

mutual

/-- The levels of arrays and objects in a tree. -/
def CJson.depth : CJson → Nat
  | .array items => itemsDepth items + 1
  | .object members => membersDepth members + 1
  | _ => 0

/-- The levels in the items of an array. -/
def itemsDepth : List CJson → Nat
  | [] => 0
  | x :: xs => max x.depth (itemsDepth xs)

/-- The levels in the members of an object. -/
def membersDepth : List (List UInt8 × CJson) → Nat
  | [] => 0
  | m :: ms => max (memberDepth m) (membersDepth ms)

/-- The levels in the value of a member. -/
def memberDepth : List UInt8 × CJson → Nat
  | (_, x) => x.depth

end

/-! ### The tree that comes back -/

mutual

/-- The tree with its keys and strings cut at their first NUL, and with another node for each
number. -/
def CJson.rebuild (number : Int32 → Double → CJson) : CJson → CJson
  | .jNull => .jNull
  | .jFalse => .jFalse
  | .jTrue => .jTrue
  | .number n d => number n d
  | .string s => .string (cString s)
  | .array items => .array (rebuildItems number items)
  | .object members => .object (rebuildMembers number members)

/-- The items of an array, rebuilt. -/
def rebuildItems (number : Int32 → Double → CJson) : List CJson → List CJson
  | [] => []
  | x :: xs => x.rebuild number :: rebuildItems number xs

/-- The members of an object, rebuilt. -/
def rebuildMembers (number : Int32 → Double → CJson) :
    List (List UInt8 × CJson) → List (List UInt8 × CJson)
  | [] => []
  | m :: ms => rebuildMember number m :: rebuildMembers number ms

/-- A member with its key cut and its value rebuilt. -/
def rebuildMember (number : Int32 → Double → CJson) : List UInt8 × CJson → List UInt8 × CJson
  | (key, x) => (cString key, x.rebuild number)

end

mutual

/-- The numbers in a tree. -/
def CJson.numbers : CJson → List (Int32 × Double)
  | .number n d => [(n, d)]
  | .array items => itemsNumbers items
  | .object members => membersNumbers members
  | _ => []

/-- The numbers in the items of an array. -/
def itemsNumbers : List CJson → List (Int32 × Double)
  | [] => []
  | x :: xs => x.numbers ++ itemsNumbers xs

/-- The numbers in the members of an object. -/
def membersNumbers : List (List UInt8 × CJson) → List (Int32 × Double)
  | [] => []
  | m :: ms => memberNumbers m ++ membersNumbers ms

/-- The numbers in the value of a member. -/
def memberNumbers : List UInt8 × CJson → List (Int32 × Double)
  | (_, x) => x.numbers

end

/-- The double that the printed digits of a double denote. -/
def printedDouble (neg : Bool) (x : Magnitude) : Double :=
  (nearestDecimal (printedDigits neg x) neg x).toDouble

/-- The node that is parsed from the text of a number. -/
def rereadNumber (n : Int32) : Double → CJson
  | .finite neg x =>
      if (Double.finite neg x).eq (Double.ofInt n.toInt) then .int n
      else cJSONCreateNumber (printedDouble neg x)
  | _ => .jNull

/-- The tree that is parsed from the text of a tree. -/
def CJson.reread (t : CJson) : CJson := t.rebuild rereadNumber

/-- The tree with its strings as the parser gives them, and with its numbers as
`cJSON_CreateNumber` makes them. -/
def CJson.created (t : CJson) : CJson := t.rebuild fun _ d => cJSONCreateNumber d

theorem memberText_eq (m : List UInt8 × CJson) : memberText m = quoted m.1 ++ 58 :: m.2.text := by
  cases m
  rfl

theorem memberDepth_eq (m : List UInt8 × CJson) : memberDepth m = m.2.depth := by
  cases m
  rfl

theorem rebuildMember_eq (number : Int32 → Double → CJson) (m : List UInt8 × CJson) :
    rebuildMember number m = (cString m.1, m.2.rebuild number) := by
  cases m
  rfl

theorem memberNumbers_eq (m : List UInt8 × CJson) : memberNumbers m = m.2.numbers := by
  cases m
  rfl

theorem itemTexts_eq (items : List CJson) : itemTexts items = items.map CJson.text := by
  induction items with
  | nil => rfl
  | cons x xs ih => rw [itemTexts, ih, List.map_cons]

theorem memberTexts_eq (members : List (List UInt8 × CJson)) :
    memberTexts members = members.map memberText := by
  induction members with
  | nil => rfl
  | cons m ms ih => rw [memberTexts, ih, List.map_cons]

theorem rebuildItems_eq (number : Int32 → Double → CJson) (items : List CJson) :
    rebuildItems number items = items.map (CJson.rebuild number) := by
  induction items with
  | nil => rfl
  | cons x xs ih => rw [rebuildItems, ih, List.map_cons]

theorem rebuildMembers_eq (number : Int32 → Double → CJson)
    (members : List (List UInt8 × CJson)) :
    rebuildMembers number members = members.map (rebuildMember number) := by
  induction members with
  | nil => rfl
  | cons m ms ih => rw [rebuildMembers, ih, List.map_cons]

theorem itemsNumbers_eq (items : List CJson) :
    itemsNumbers items = items.flatMap CJson.numbers := by
  induction items with
  | nil => rfl
  | cons x xs ih => rw [itemsNumbers, ih, List.flatMap_cons]

theorem membersNumbers_eq (members : List (List UInt8 × CJson)) :
    membersNumbers members = members.flatMap memberNumbers := by
  induction members with
  | nil => rfl
  | cons m ms ih => rw [membersNumbers, ih, List.flatMap_cons]

theorem itemsDepth_le_iff (items : List CJson) (n : Nat) :
    itemsDepth items ≤ n ↔ ∀ x ∈ items, x.depth ≤ n := by
  induction items with
  | nil => exact iff_of_true (Nat.zero_le n) (fun x hx => absurd hx List.not_mem_nil)
  | cons x xs ih => rw [itemsDepth, Nat.max_le, ih, List.forall_mem_cons]

theorem membersDepth_le_iff (members : List (List UInt8 × CJson)) (n : Nat) :
    membersDepth members ≤ n ↔ ∀ m ∈ members, m.2.depth ≤ n := by
  induction members with
  | nil => exact iff_of_true (Nat.zero_le n) (fun m hm => absurd hm List.not_mem_nil)
  | cons m ms ih => rw [membersDepth, memberDepth_eq, Nat.max_le, ih, List.forall_mem_cons]

/-! ### Numbers -/

/-- The bytes behind a number do not continue it. -/
def NumberEnd (s : List UInt8) : Prop := ∀ b, s.head? = some b → isNumberByte b = false

theorem numberEnd_nil : NumberEnd [] := fun _ h => (nomatch h)

theorem numberEnd_cons {b : UInt8} (s : List UInt8) (h : isNumberByte b = false) :
    NumberEnd (b :: s) := fun _ hc => Option.some.inj hc ▸ h

theorem isNumberByte_of_mem_decimalInt {n : Int32} {b : UInt8} (h : b ∈ decimalInt n) :
    isNumberByte b = true := by
  have hdigit : ∀ c ∈ decimal n.toInt.natAbs, isNumberByte c = true := by
    intro c hc
    exact decide_eq_true (Or.inl (isDigit_of_mem_decimal hc))
  rw [decimalInt] at h
  split at h
  · rcases List.mem_cons.mp h with rfl | hmem
    · decide
    · exact hdigit b hmem
  · exact hdigit b h

theorem isNumberByte_of_mem_sprintfG {precision : Nat} (hp : 1 < precision) {neg : Bool}
    {x : Magnitude} {b : UInt8} (h : b ∈ sprintfG precision neg x) : isNumberByte b = true := by
  apply decide_eq_true
  rcases isDoubleByte_of_mem_sprintfG hp h with h | h | h | h | h
  · exact Or.inl h
  · exact Or.inr (Or.inl h)
  · exact Or.inr (Or.inr (Or.inl h))
  · exact Or.inr (Or.inr (Or.inr (Or.inr (Or.inr h))))
  · exact Or.inr (Or.inr (Or.inr (Or.inl h)))

theorem printedDigits_cases (neg : Bool) (x : Magnitude) :
    printedDigits neg x = 15 ∨ printedDigits neg x = 17 := by
  rw [printedDigits]
  split
  · exact Or.inl rfl
  · exact Or.inr rfl

/-- The text is a decimal number, and `strtod` reads the whole of it as `d`. -/
structure DenotesDouble (text : List UInt8) (d : Double) : Prop where
  bytes : ∀ b ∈ text, isNumberByte b = true
  cons : ∃ b u, text = b :: u ∧ (b = 45 ∨ isDigit b = true)
  length : text.length ≤ 24
  read : ∃ r, strtod text = some (r, text.length) ∧ r.toDouble = d

theorem numberText_decimalInt (n : Int32) :
    DenotesDouble (decimalInt n) (Double.ofInt n.toInt) where
  bytes b hb := isNumberByte_of_mem_decimalInt hb
  cons := by
    rw [decimalInt]
    split
    · exact ⟨45, _, rfl, Or.inl rfl⟩
    · obtain ⟨b, ds, hcons⟩ := List.exists_cons_of_ne_nil (decimal_ne_nil n.toInt.natAbs)
      exact ⟨b, ds, hcons, Or.inr (isDigit_of_mem_decimal (hcons ▸ List.mem_cons_self))⟩
  length := Nat.le_trans (length_decimalInt_le n) (by decide)
  read := ⟨_, strtod_decimalInt n, toDouble_natural n⟩

theorem numberText_sprintfG (neg : Bool) (x : Magnitude) :
    DenotesDouble (sprintfG (printedDigits neg x) neg x) (printedDouble neg x) := by
  have hdigits := printedDigits_cases neg x
  have hp : 1 < printedDigits neg x := by omega
  have hlength := length_sprintfG_le hp neg x
  exact {
    bytes := fun b hb => isNumberByte_of_mem_sprintfG hp hb
    cons := sprintfG_cons hp neg x
    length := by omega
    read := strtod_sprintfG hp neg x }

/-- The text of a number is a decimal number, or `null`. -/
theorem numberText_cases (n : Int32) (d : Double) :
    (∃ e, DenotesDouble (numberText n d) e ∧ rereadNumber n d = cJSONCreateNumber e) ∨
      numberText n d = ofText "null" ∧ rereadNumber n d = .jNull := by
  cases d with
  | nan => exact Or.inr ⟨rfl, rfl⟩
  | inf neg => exact Or.inr ⟨rfl, rfl⟩
  | finite neg x =>
    left
    rw [numberText, rereadNumber]
    split
    · exact ⟨_, numberText_decimalInt n, (cJSONCreateNumber_ofInt n).symm⟩
    · exact ⟨_, numberText_sprintfG neg x, rfl⟩

theorem parseNumber_text {text : List UInt8} {d : Double} (h : DenotesDouble text d)
    {s : List UInt8} (hs : NumberEnd s) : parseNumber (text ++ s) = some (cJSONCreateNumber d, s) := by
  have htake : (text ++ s).takeWhile isNumberByte = text := (span_append h.bytes hs).1
  have hlength : text.length ≤ numberCStringSize - 1 := Nat.le_trans h.length (by decide)
  obtain ⟨r, hread, hdouble⟩ := h.read
  rw [parseNumber, htake, List.take_of_length_le hlength, hread, Option.map_some, hdouble,
    List.drop_left]

/-! ### Strings -/

theorem cString_cString (s : List UInt8) : cString (cString s) = cString s :=
  List.takeWhile_eq_self_iff.mpr fun _ hb => decide_eq_true (ne_zero_of_mem_cString hb)

/-- How a byte is written in a string: as it is, as an escape of two characters, or as a code
point. -/
theorem escapedByte_cases (b : UInt8) :
    (escapedByte b = [b] ∧ b ≠ 34 ∧ b ≠ 92) ∨
    (∃ c, escapedByte b = [92, c] ∧ c ≠ 117 ∧ simpleEscape c = some b) ∨
    ∃ high low, escapedByte b = [92, 117, 48, 48, high, low] ∧ (high ≠ 34 ∧ high ≠ 92) ∧
      (low ≠ 34 ∧ low ≠ 92) ∧ parseHex4 [48, 48, high, low] = b.toNat ∧ b.toNat < 32 := by
  rw [escapedByte]
  split
  case isTrue h => exact Or.inl ⟨rfl, h.2⟩
  case isFalse h =>
    right
    cases hletter : escapeLetter b with
    | some letter =>
      left
      refine ⟨letter, rfl, ?_⟩
      unfold escapeLetter at hletter
      repeat' split at hletter
      all_goals first | (subst_vars; obtain rfl := Option.some.inj hletter; decide) | cases hletter
    | none =>
      right
      -- A quote and a backslash have a letter, so the byte is a control character.
      have hlow : b.toNat < 32 := by
        have hquote : b ≠ 34 := fun h34 => by
          rw [h34] at hletter
          exact absurd hletter (by decide)
        have hslash : b ≠ 92 := fun h92 => by
          rw [h92] at hletter
          exact absurd hletter (by decide)
        have hle : ¬ 31 < b := fun hlt => h ⟨hlt, hquote, hslash⟩
        rw [UInt8.lt_iff_toNat_lt] at hle
        exact Nat.lt_succ_of_le (Nat.le_of_not_lt hle)
      have hall : ∀ n < 32, (hexDigit (n / 16) ≠ 34 ∧ hexDigit (n / 16) ≠ 92) ∧
          (hexDigit (n % 16) ≠ 34 ∧ hexDigit (n % 16) ≠ 92) ∧
          parseHex4 [48, 48, hexDigit (n / 16), hexDigit (n % 16)] = n := by decide
      obtain ⟨hhigh, hlast, hvalue⟩ := hall b.toNat hlow
      exact ⟨_, _, rfl, hhigh, hlast, hvalue, hlow⟩

/-- The search for the closing quote passes a written byte. -/
theorem closingQuote_escapedByte (b : UInt8) {t : List UInt8} {n k : Nat}
    (h : closingQuote t = some (n, k)) :
    ∃ k', closingQuote (escapedByte b ++ t) = some ((escapedByte b).length + n, k') := by
  have hplain : ∀ (c : UInt8) (u : List UInt8) (m j : Nat), c ≠ 34 → c ≠ 92 →
      closingQuote u = some (m, j) → closingQuote (c :: u) = some (m + 1, j) := by
    intro c u m j hquote hslash hu
    rw [closingQuote_cons, if_neg hquote, if_neg hslash, hu]
    rfl
  have hescape : ∀ (c : UInt8) (u : List UInt8) (m j : Nat), closingQuote u = some (m, j) →
      closingQuote (92 :: c :: u) = some (m + 2, j + 1) := by
    intro c u m j hu
    rw [closingQuote_cons, if_neg (by decide), if_pos rfl, if_neg (List.cons_ne_nil c u),
      List.tail_cons, hu]
    rfl
  rcases escapedByte_cases b with ⟨heq, hquote, hslash⟩ | ⟨c, heq, -⟩ | ⟨high, low, heq, hh, hl, -⟩
  · refine ⟨k, ?_⟩
    rw [heq, List.singleton_append, hplain b t n k hquote hslash h, Nat.add_comm]
    rfl
  · refine ⟨k + 1, ?_⟩
    rw [heq]
    show closingQuote (92 :: c :: t) = _
    rw [hescape c t n k h, Nat.add_comm]
    rfl
  · refine ⟨k + 1, ?_⟩
    rw [heq]
    have hlast := hplain low t n k hl.1 hl.2 h
    have hfirst := hplain high _ _ _ hh.1 hh.2 hlast
    have hzero := hplain 48 _ _ _ (by decide) (by decide) hfirst
    have hzeros := hplain 48 _ _ _ (by decide) (by decide) hzero
    show closingQuote (92 :: 117 :: 48 :: 48 :: high :: low :: t) = _
    rw [hescape 117 _ _ _ hzeros]
    exact congrArg (fun m => some (m, k + 1)) (Nat.add_comm n 6)

theorem closingQuote_escaped (input s : List UInt8) :
    ∃ k, closingQuote (input.flatMap escapedByte ++ 34 :: s) =
      some ((input.flatMap escapedByte).length, k) := by
  induction input with
  | nil =>
    refine ⟨0, ?_⟩
    show closingQuote (34 :: s) = _
    rw [closingQuote_cons, if_pos rfl]
    rfl
  | cons b input ih =>
    obtain ⟨k, hk⟩ := ih
    obtain ⟨k', hk'⟩ := closingQuote_escapedByte b hk
    refine ⟨k', ?_⟩
    rw [List.flatMap_cons, List.append_assoc, hk', List.length_append]

/-- The loop through the body of a string undoes the escape of a byte. -/
theorem unescape_escapedByte (b : UInt8) (t : List UInt8) :
    unescape 0 (escapedByte b ++ t) = (b :: (unescape 0 t).1, (unescape 0 t).2) := by
  rcases escapedByte_cases b with ⟨heq, -, hslash⟩ | ⟨c, heq, hc, hsimple⟩ |
    ⟨high, low, heq, -, -, hvalue, hlow⟩
  · rw [heq, List.singleton_append, unescape, if_pos hslash]
  · rw [heq]
    have hsequence : escapeSequence (92 :: c :: t) = some ([b], 2) := by
      rw [escapeSequence]
      show (if c = 117 then _ else (simpleEscape c).map _) = _
      rw [if_neg hc, hsimple]
      rfl
    show unescape 0 (92 :: c :: t) = _
    rw [unescape, if_neg (by decide), hsequence]
    rfl
  · rw [heq]
    have hutf8 : ∀ n < 32, utf8Bytes n = [n.toUInt8] := by decide
    have hcode : parseHex4 ((92 :: 117 :: 48 :: 48 :: high :: low :: t).drop 2) = b.toNat := hvalue
    have hbyte : b.toNat.toUInt8 = b := UInt8.ofNat_toNat
    have hsequence : escapeSequence (92 :: 117 :: 48 :: 48 :: high :: low :: t) =
        some ([b], 6) := by
      show utf16LiteralToUtf8 (92 :: 117 :: 48 :: 48 :: high :: low :: t) = _
      rw [utf16LiteralToUtf8, if_neg (by simp only [List.length_cons]; omega)]
      dsimp only
      rw [hcode, if_neg (by omega), if_neg (by omega), hutf8 _ hlow, hbyte]
    show unescape 0 (92 :: 117 :: 48 :: 48 :: high :: low :: t) = _
    rw [unescape, if_neg (by decide), hsequence]
    rfl

theorem unescape_escaped (input : List UInt8) :
    unescape 0 (input.flatMap escapedByte) = (input, true) := by
  induction input with
  | nil => rfl
  | cons b input ih => rw [List.flatMap_cons, unescape_escapedByte, ih]

/-- A printed string is read back up to its first NUL. -/
theorem parseString_quoted (input s : List UInt8) :
    parseString (quoted input ++ s) = some (cString input, s) := by
  have htail : (quoted input ++ s).tail = (cString input).flatMap escapedByte ++ 34 :: s := by
    show ((cString input).flatMap escapedByte ++ [34]) ++ s = _
    rw [List.append_assoc, List.singleton_append]
  obtain ⟨k, hquote⟩ := closingQuote_escaped (cString input) s
  have hhead : ¬ (quoted input ++ s).head? ≠ some 34 := not_not_intro rfl
  rw [parseString, if_neg hhead, htail, hquote, Option.bind_some]
  dsimp only
  rw [List.take_left, unescape_escaped, cString_cString, ← List.drop_drop, List.drop_left]
  rfl

/-! ### Values -/

theorem bufferSkipWhitespace_cons {b : UInt8} (s : List UInt8) (h : 32 < b) :
    bufferSkipWhitespace (b :: s) = b :: s :=
  List.dropWhile_cons_of_neg (by rw [decide_eq_true_eq]; exact UInt8.not_le.mpr h)

/-- A text starts with a mark of its kind, which is not white space and closes no list. -/
theorem text_cons (t : CJson) : ∃ b s, t.text = b :: s ∧ 32 < b ∧ b ≠ 93 ∧ b ≠ 0xEF := by
  cases t with
  | jFalse => exact ⟨102, _, rfl, by decide, by decide, by decide⟩
  | jTrue => exact ⟨116, _, rfl, by decide, by decide, by decide⟩
  | jNull => exact ⟨110, _, rfl, by decide, by decide, by decide⟩
  | string s => exact ⟨34, _, rfl, by decide, by decide, by decide⟩
  | array items => exact ⟨91, _, rfl, by decide, by decide, by decide⟩
  | object members => exact ⟨123, _, rfl, by decide, by decide, by decide⟩
  | number n d =>
    have hmark : ∀ k < 256, isNumberByte k.toUInt8 = true →
        32 < k.toUInt8 ∧ k.toUInt8 ≠ 93 ∧ k.toUInt8 ≠ 0xEF := by decide +kernel
    rcases numberText_cases n d with ⟨e, htext, -⟩ | ⟨hnull, -⟩
    · obtain ⟨b, u, hcons, -⟩ := htext.cons
      have hb := hmark b.toNat b.toNat_lt
      have hbyte : b.toNat.toUInt8 = b := UInt8.ofNat_toNat
      rw [hbyte] at hb
      exact ⟨b, u, hcons, hb (htext.bytes b (hcons ▸ List.mem_cons_self))⟩
    · exact ⟨110, _, hnull, by decide, by decide, by decide⟩

/-- The tree that a text gives, with `left` levels allowed. -/
def readText (left : Nat) (t : CJson) : Option CJson :=
  if t.depth ≤ left then some t.reread else none

/-- The member that a text gives, with `left` levels allowed. -/
def readMember (left : Nat) (m : List UInt8 × CJson) : Option (List UInt8 × CJson) :=
  if m.2.depth ≤ left then some (rebuildMember rereadNumber m) else none

/-- Reading a list succeeds when all its elements are read. -/
theorem mapM_ite {α β : Type} {P : α → Prop} [DecidablePred P] (f : α → β) (xs : List α) :
    xs.mapM (fun x => if P x then some (f x) else none) =
      if ∀ x ∈ xs, P x then some (xs.map f) else none := by
  induction xs with
  | nil =>
    rw [if_pos fun x hx => absurd hx List.not_mem_nil]
    rfl
  | cons x xs ih =>
    rw [List.mapM_cons, ih]
    by_cases hx : P x
    · rw [if_pos hx]
      by_cases hxs : ∀ y ∈ xs, P y
      · rw [if_pos hxs, if_pos (List.forall_mem_cons.mpr ⟨hx, hxs⟩)]
        rfl
      · rw [if_neg hxs, if_neg fun h => hxs (List.forall_mem_cons.mp h).2]
        rfl
    · rw [if_neg hx, if_neg fun h => hx (List.forall_mem_cons.mp h).1]
      rfl

section
variable {array object : Reader UInt8 CJson}

theorem literal_bytes : ofText "null" = [110, 117, 108, 108] ∧
    ofText "false" = [102, 97, 108, 115, 101] ∧ ofText "true" = [116, 114, 117, 101] := by
  decide

/-- A value that is no literal goes by its first byte. -/
theorem parseValueWith_cons {b : UInt8} (s : List UInt8) (h : b ≠ 110 ∧ b ≠ 102 ∧ b ≠ 116) :
    parseValueWith array object (b :: s) =
      if b = 34 then (parseString (b :: s)).map fun r => (.string r.1, r.2)
      else if b = 45 ∨ isDigit b then parseNumber (b :: s)
      else if b = 91 then array s
      else if b = 123 then object s
      else none := by
  have hliteral : ∀ (c : UInt8) (text : List UInt8), b ≠ c →
      ¬ (c :: text).isPrefixOf (b :: s) = true := by
    intro c text hne hprefix
    rw [List.isPrefixOf, Bool.and_eq_true] at hprefix
    exact hne (eq_of_beq hprefix.1).symm
  obtain ⟨hnull, hfalse, htrue⟩ := literal_bytes
  rw [parseValueWith, hnull, hfalse, htrue, if_neg (hliteral 110 _ h.1),
    if_neg (hliteral 102 _ h.2.1), if_neg (hliteral 116 _ h.2.2)]

theorem parseValueWith_number {text : List UInt8} {d : Double} (h : DenotesDouble text d)
    {s : List UInt8} (hs : NumberEnd s) :
    parseValueWith array object (text ++ s) = some (cJSONCreateNumber d, s) := by
  have hmark : ∀ k < 256, k.toUInt8 = 45 ∨ isDigit k.toUInt8 = true →
      (k.toUInt8 ≠ 110 ∧ k.toUInt8 ≠ 102 ∧ k.toUInt8 ≠ 116) ∧ k.toUInt8 ≠ 34 := by
    decide +kernel
  obtain ⟨b, u, hcons, hfirst⟩ := h.cons
  have hb := hmark b.toNat b.toNat_lt
  have hbyte : b.toNat.toUInt8 = b := UInt8.ofNat_toNat
  rw [hbyte] at hb
  obtain ⟨hletters, hquote⟩ := hb hfirst
  rw [← parseNumber_text h hs, hcons, List.cons_append, parseValueWith_cons _ hletters,
    if_neg hquote, if_pos hfirst]

theorem parseValueWith_numberText (n : Int32) (d : Double) {s : List UInt8} (hs : NumberEnd s) :
    parseValueWith array object (numberText n d ++ s) = some (rereadNumber n d, s) := by
  rcases numberText_cases n d with ⟨e, htext, hnode⟩ | ⟨hnull, hnode⟩
  · rw [hnode]
    exact parseValueWith_number htext hs
  · rw [hnull, hnode]
    rfl

end

/-- The member of an object, in front of a comma or the closing brace. -/
theorem parseMember_memberText {left : Nat} (m : List UInt8 × CJson) {s : List UInt8}
    (hvalue : parseValue left (m.2.text ++ s) = (readText left m.2).map fun t => (t, s)) :
    parseMember (parseValue left) (memberText m ++ s) =
      (readMember left m).map fun m' => (m', s) := by
  obtain ⟨b, u, htext, hb, -⟩ := text_cons m.2
  rw [memberText_eq, List.append_assoc, parseMember, parseString_quoted]
  dsimp only
  rw [List.cons_append, bufferSkipWhitespace_cons _ (by decide)]
  dsimp only
  rw [if_pos rfl]
  have hskip : bufferSkipWhitespace (m.2.text ++ s) = m.2.text ++ s := by
    rw [htext]
    exact bufferSkipWhitespace_cons _ hb
  rw [hskip, hvalue, readText, readMember, rebuildMember_eq]
  split
  · rfl
  · rfl

section
variable {left : Nat}

/-- What the parser reads for a value, when what is behind it does not continue a number. -/
def ParsesBack (left : Nat) (t : CJson) : Prop :=
  ∀ s, NumberEnd s → parseValue left (t.text ++ s) = (readText left t).map fun u => (u, s)

theorem bufferSkipWhitespace_text (t : CJson) (s : List UInt8) :
    bufferSkipWhitespace (t.text ++ s) = t.text ++ s := by
  obtain ⟨b, u, htext, hb, -⟩ := text_cons t
  rw [htext]
  exact bufferSkipWhitespace_cons _ hb

/-- An array is read when all its items are within the levels that are left. -/
theorem parseArray_text (items : List CJson) (s : List UInt8)
    (h : ∀ x ∈ items, ParsesBack left x) :
    parseArray (parseValue left) ([44].intercalate (itemTexts items) ++ 93 :: s) =
      if itemsDepth items ≤ left then some (.array (rebuildItems rereadNumber items), s)
      else none := by
  have hhead : ∀ x ∈ items, ∃ b u, x.text = b :: u ∧ b ≠ 93 := by
    intro x _
    obtain ⟨b, u, htext, -, hb, -⟩ := text_cons x
    exact ⟨b, u, htext, hb⟩
  have hread : ∀ x ∈ items, ∀ c s, c = 44 ∨ c = 93 →
      parseValue left (x.text ++ c :: s) = (readText left x).map fun u => (u, c :: s) := by
    rintro x hx c s (rfl | rfl)
    · exact h x hx _ (numberEnd_cons s (by decide))
    · exact h x hx _ (numberEnd_cons s (by decide))
  have hlist := delimited_intercalate (by decide) s
    (fun s => bufferSkipWhitespace_cons s (by decide)) (bufferSkipWhitespace_cons s (by decide))
    items (fun x _ => bufferSkipWhitespace_text x) hhead hread
  have hall : items.mapM (readText left) = _ := mapM_ite CJson.reread items
  rw [parseArray, itemTexts_eq, hlist, hall, rebuildItems_eq]
  simp only [itemsDepth_le_iff]
  split
  · rfl
  · rfl

/-- An object is read when all its members are within the levels that are left. -/
theorem parseObject_text (members : List (List UInt8 × CJson)) (s : List UInt8)
    (h : ∀ m ∈ members, ParsesBack left m.2) :
    parseObject (parseValue left) ([44].intercalate (memberTexts members) ++ 125 :: s) =
      if membersDepth members ≤ left then some (.object (rebuildMembers rereadNumber members), s)
      else none := by
  have htext : ∀ m, ∃ u, memberText m = 34 :: u := fun m => ⟨_, memberText_eq m⟩
  have hstart : ∀ m ∈ members, ∀ s,
      bufferSkipWhitespace (memberText m ++ s) = memberText m ++ s := by
    intro m _ s
    obtain ⟨u, hu⟩ := htext m
    rw [hu]
    exact bufferSkipWhitespace_cons _ (by decide)
  have hhead : ∀ m ∈ members, ∃ b u, memberText m = b :: u ∧ b ≠ 125 := by
    intro m _
    obtain ⟨u, hu⟩ := htext m
    exact ⟨34, u, hu, by decide⟩
  have hread : ∀ m ∈ members, ∀ c s, c = 44 ∨ c = 125 →
      parseMember (parseValue left) (memberText m ++ c :: s) =
        (readMember left m).map fun m' => (m', c :: s) := by
    rintro m hm c s (rfl | rfl)
    · exact parseMember_memberText m (h m hm _ (numberEnd_cons s (by decide)))
    · exact parseMember_memberText m (h m hm _ (numberEnd_cons s (by decide)))
  have hlist := delimited_intercalate (by decide) s
    (fun s => bufferSkipWhitespace_cons s (by decide)) (bufferSkipWhitespace_cons s (by decide))
    members hstart hhead hread
  have hall : members.mapM (readMember left) = _ := mapM_ite (rebuildMember rereadNumber) members
  rw [parseObject, memberTexts_eq, hlist, hall, rebuildMembers_eq]
  simp only [membersDepth_le_iff]
  split
  · rfl
  · rfl

end

/-- `parse_value` is the dispatch on the first bytes, at every depth. -/
theorem parseValue_eq (left : Nat) :
    ∃ array object, parseValue left = parseValueWith array object := by
  cases left with
  | zero => exact ⟨_, _, rfl⟩
  | succ left => exact ⟨_, _, rfl⟩

/-- A text is read back, when it is within the levels that are left. -/
theorem parseValue_text (t : CJson) : ∀ left, ParsesBack left t := by
  induction t using CJson.tree_induction with
  | jNull =>
    intro left s _
    obtain ⟨array, object, heq⟩ := parseValue_eq left
    rw [heq]
    rfl
  | jFalse =>
    intro left s _
    obtain ⟨array, object, heq⟩ := parseValue_eq left
    rw [heq]
    rfl
  | jTrue =>
    intro left s _
    obtain ⟨array, object, heq⟩ := parseValue_eq left
    rw [heq]
    rfl
  | number n d =>
    intro left s hs
    obtain ⟨array, object, heq⟩ := parseValue_eq left
    rw [heq]
    exact parseValueWith_numberText n d hs
  | string input =>
    intro left s _
    obtain ⟨array, object, heq⟩ := parseValue_eq left
    have hstring := parseString_quoted input s
    rw [heq]
    show parseValueWith array object (34 :: _) = _
    rw [parseValueWith_cons _ (by decide), if_pos rfl]
    exact congrArg (Option.map fun r => (CJson.string r.1, r.2)) hstring
  | array items ih =>
    intro left s _
    have htext : (CJson.array items).text ++ s =
        91 :: ([44].intercalate (itemTexts items) ++ 93 :: s) := by
      rw [CJson.text, List.cons_append, List.append_assoc, List.singleton_append]
    rw [htext, readText, CJson.depth, CJson.reread, CJson.rebuild]
    cases left with
    | zero =>
      rw [if_neg (Nat.not_succ_le_zero _)]
      exact parseValueWith_cons _ (by decide)
    | succ left =>
      have hitems := parseArray_text items s fun x hx => ih x hx left
      show parseValueWith _ _ _ = _
      rw [parseValueWith_cons _ (by decide), if_neg (by decide), if_neg (by decide), if_pos rfl,
        hitems]
      simp only [Nat.add_le_add_iff_right]
      split
      · rfl
      · rfl
  | object members ih =>
    intro left s _
    have htext : (CJson.object members).text ++ s =
        123 :: ([44].intercalate (memberTexts members) ++ 125 :: s) := by
      rw [CJson.text, List.cons_append, List.append_assoc, List.singleton_append]
    rw [htext, readText, CJson.depth, CJson.reread, CJson.rebuild]
    cases left with
    | zero =>
      rw [if_neg (Nat.not_succ_le_zero _)]
      exact parseValueWith_cons _ (by decide)
    | succ left =>
      have hmembers := parseObject_text members s fun m hm => ih m hm left
      show parseValueWith _ _ _ = _
      rw [parseValueWith_cons _ (by decide), if_neg (by decide), if_neg (by decide),
        if_neg (by decide), if_pos rfl, hmembers]
      simp only [Nat.add_le_add_iff_right]
      split
      · rfl
      · rfl

/-! ### The whole text -/

/-- A text has no NUL in it. -/
theorem ne_zero_of_mem_text (t : CJson) : ∀ b ∈ t.text, b ≠ 0 := by
  have hall : ∀ text : List UInt8, text.all (· ≠ 0) = true → ∀ b ∈ text, b ≠ 0 :=
    fun text h b hb => of_decide_eq_true (List.all_eq_true.mp h b hb)
  have hquoted : ∀ (input : List UInt8), ∀ b ∈ quoted input, b ≠ 0 := by
    intro input b hb
    rcases List.mem_cons.mp hb with rfl | hrest
    · decide
    · rcases List.mem_append.mp hrest with hmem | hlast
      · obtain ⟨c, hc, hbc⟩ := List.mem_flatMap.mp hmem
        have hne := ne_zero_of_mem_cString hc
        have hescaped : ∀ n < 256, n ≠ 0 → (escapedByte n.toUInt8).all (· ≠ 0) = true := by
          decide +kernel
        have hbyte : c.toNat.toUInt8 = c := UInt8.ofNat_toNat
        have hbytes := hescaped c.toNat c.toNat_lt fun h0 => hne (UInt8.toNat_inj.mp h0)
        rw [hbyte] at hbytes
        exact hall _ hbytes b hbc
      · rw [List.mem_singleton.mp hlast]
        decide
  induction t using CJson.tree_induction with
  | jNull => exact hall _ (by decide +kernel)
  | jFalse => exact hall _ (by decide +kernel)
  | jTrue => exact hall _ (by decide +kernel)
  | number n d =>
    intro b hb h0
    rcases numberText_cases n d with ⟨e, htext, -⟩ | ⟨hnull, -⟩
    · have hmark := htext.bytes b hb
      rw [h0] at hmark
      exact absurd hmark (by decide)
    · rw [CJson.text, hnull] at hb
      exact hall _ (by decide +kernel) b hb h0
  | string input => exact hquoted input
  | array items ih =>
    intro b hb
    rw [CJson.text, itemTexts_eq] at hb
    rcases List.mem_cons.mp hb with rfl | hrest
    · decide
    · rcases List.mem_append.mp hrest with hmem | hlast
      · rcases mem_intercalate hmem with rfl | ⟨text, htext, hbt⟩
        · decide
        · obtain ⟨x, hx, rfl⟩ := List.mem_map.mp htext
          exact ih x hx b hbt
      · rw [List.mem_singleton.mp hlast]
        decide
  | object members ih =>
    intro b hb
    rw [CJson.text, memberTexts_eq] at hb
    rcases List.mem_cons.mp hb with rfl | hrest
    · decide
    · rcases List.mem_append.mp hrest with hmem | hlast
      · rcases mem_intercalate hmem with rfl | ⟨text, htext, hbt⟩
        · decide
        · obtain ⟨m, hm, rfl⟩ := List.mem_map.mp htext
          rw [memberText_eq] at hbt
          rcases List.mem_append.mp hbt with hkey | hvalue
          · exact hquoted m.1 b hkey
          · rcases List.mem_cons.mp hvalue with rfl | hx
            · decide
            · exact ih m hm b hx
      · rw [List.mem_singleton.mp hlast]
        decide

/-- `cJSON_Parse` of a text with its NUL, whatever bytes are behind it. -/
theorem cJSONParse_text (t : CJson) (s : List UInt8) :
    cJSONParse (t.text ++ 0 :: s) = readText cjsonNestingLimit t := by
  obtain ⟨b, u, htext, hspace, -, hbom⟩ := text_cons t
  have hmark : skipUtf8Bom t.text = t.text := by
    rw [skipUtf8Bom, htext, if_neg]
    rintro ⟨-, hprefix⟩
    rw [List.isPrefixOf, Bool.and_eq_true] at hprefix
    exact hbom (eq_of_beq hprefix.1).symm
  have hskip : bufferSkipWhitespace t.text = t.text := by
    rw [htext]
    exact bufferSkipWhitespace_cons u hspace
  have hparse := parseValue_text t cjsonNestingLimit [] numberEnd_nil
  rw [List.append_nil] at hparse
  rw [cJSONParse, cString_append s (ne_zero_of_mem_text t), hmark, hskip, hparse, Option.map_map]
  exact Option.map_id'

/-! ### What the parser accepts -/

/-- The closing quote is inside the text, and no more bytes are skipped than are in front of
it. -/
theorem closingQuote_lt (s : List UInt8) :
    ∀ e, closingQuote s = some e → e.1 < s.length ∧ e.2 ≤ e.1 := by
  induction s using closingQuote.induct with
  | case1 => exact fun e h => (nomatch h)
  | case2 s =>
    intro e h
    rw [closingQuote_cons, if_pos rfl] at h
    obtain rfl := Option.some.inj h
    exact ⟨Nat.zero_lt_succ _, Nat.le_refl 0⟩
  | case3 hquote =>
    intro e h
    rw [closingQuote_cons, if_neg hquote, if_pos rfl, if_pos rfl] at h
    cases h
  | case4 c s hquote ih =>
    intro e h
    rw [closingQuote_cons, if_neg hquote, if_pos rfl, if_neg (List.cons_ne_nil c s),
      List.tail_cons] at h
    obtain ⟨e', he', rfl⟩ := Option.map_eq_some_iff.mp h
    obtain ⟨hlt, hle⟩ := ih e' he'
    rw [List.length_cons, List.length_cons]
    exact ⟨by omega, by omega⟩
  | case5 b s hquote hslash ih =>
    intro e h
    rw [closingQuote_cons, if_neg hquote, if_neg hslash] at h
    obtain ⟨e', he', rfl⟩ := Option.map_eq_some_iff.mp h
    obtain ⟨hlt, hle⟩ := ih e' he'
    rw [List.length_cons]
    exact ⟨by omega, by omega⟩

/-- A string takes its quotes at least, and has no NUL. -/
theorem parseString_spec {s rest : List UInt8} {x : List UInt8}
    (h : parseString s = some (x, rest)) : rest.length < s.length ∧ cString x = x := by
  rw [parseString] at h
  split at h
  · cases h
  · obtain ⟨e, hquote, hout⟩ := Option.bind_eq_some_iff.mp h
    dsimp only at hout
    split at hout
    · obtain ⟨rfl, rfl⟩ := Prod.mk.inj (Option.some.inj hout)
      obtain ⟨hlt, -⟩ := closingQuote_lt _ e hquote
      rw [List.length_tail] at hlt
      rw [List.length_drop, List.length_tail]
      exact ⟨by omega, cString_cString _⟩
    · cases hout

theorem parseNumber_spec {s rest : List UInt8} {t : CJson}
    (h : parseNumber s = some (t, rest)) :
    rest.length < s.length ∧ ∃ d, t = cJSONCreateNumber d := by
  obtain ⟨r, hr, heq⟩ := Option.map_eq_some_iff.mp h
  obtain ⟨rfl, rfl⟩ := Prod.mk.inj heq
  obtain ⟨hpos, hle⟩ := strtod_bounds (d := r.1) (k := r.2) hr
  have htake := (List.takeWhile_prefix (p := isNumberByte) (l := s)).length_le
  rw [List.length_take] at hle
  rw [List.length_drop]
  exact ⟨by omega, _, rfl⟩

/-- What `parse_value` gives: a tree without levels, or what one of the readers gives for what
is behind the first byte. -/
theorem parseValueWith_spec {array object : Reader UInt8 CJson} {s rest : List UInt8} {t : CJson}
    (h : parseValueWith array object s = some (t, rest)) :
    (rest.length < s.length ∧ t.depth = 0 ∧ t.created = t) ∨
      ∃ u, u.length < s.length ∧ (array u = some (t, rest) ∨ object u = some (t, rest)) := by
  have hliteral : ∀ (text : List UInt8) (k : Nat), text.isPrefixOf s = true → text.length = k →
      0 < k → (s.drop k).length < s.length := by
    intro text k hprefix hk hpos
    have hle := (List.isPrefixOf_iff_prefix.mp hprefix).length_le
    rw [List.length_drop]
    omega
  obtain ⟨hnull, hfalse, htrue⟩ := literal_bytes
  unfold parseValueWith at h
  split at h
  · rename_i hprefix
    obtain ⟨rfl, rfl⟩ := Prod.mk.inj (Option.some.inj h)
    exact Or.inl ⟨hliteral _ 4 hprefix (by rw [hnull]; rfl) (by decide), rfl, rfl⟩
  split at h
  · rename_i hprefix
    obtain ⟨rfl, rfl⟩ := Prod.mk.inj (Option.some.inj h)
    exact Or.inl ⟨hliteral _ 5 hprefix (by rw [hfalse]; rfl) (by decide), rfl, rfl⟩
  split at h
  · rename_i hprefix
    obtain ⟨rfl, rfl⟩ := Prod.mk.inj (Option.some.inj h)
    exact Or.inl ⟨hliteral _ 4 hprefix (by rw [htrue]; rfl) (by decide), rfl, rfl⟩
  cases s with
  | nil => cases h
  | cons b u =>
    dsimp only at h
    split at h
    · obtain ⟨r, hr, heq⟩ := Option.map_eq_some_iff.mp h
      obtain ⟨rfl, rfl⟩ := Prod.mk.inj heq
      obtain ⟨hlt, hstring⟩ := parseString_spec hr
      exact Or.inl ⟨hlt, rfl, congrArg CJson.string hstring⟩
    split at h
    · obtain ⟨hlt, d, rfl⟩ := parseNumber_spec h
      exact Or.inl ⟨hlt, rfl, rfl⟩
    split at h
    · exact Or.inr ⟨u, Nat.lt_succ_self _, Or.inl h⟩
    split at h
    · exact Or.inr ⟨u, Nat.lt_succ_self _, Or.inr h⟩
    · cases h

theorem length_bufferSkipWhitespace_le (s : List UInt8) :
    (bufferSkipWhitespace s).length ≤ s.length :=
  (List.dropWhile_suffix _).length_le

/-- A member is a name, and a value that the reader gives. -/
theorem parseMember_spec {value : Reader UInt8 CJson} {s rest : List UInt8}
    {m : List UInt8 × CJson} (h : parseMember value s = some (m, rest)) :
    cString m.1 = m.1 ∧ ∃ u, u.length < s.length ∧ value u = some (m.2, rest) := by
  rw [parseMember] at h
  cases hname : parseString s with
  | none =>
    rw [hname] at h
    cases h
  | some r =>
    obtain ⟨hlt, hstring⟩ := parseString_spec hname
    have hle := length_bufferSkipWhitespace_le r.2
    rw [hname] at h
    dsimp only at h
    cases hskip : bufferSkipWhitespace r.2 with
    | nil =>
      rw [hskip] at h
      cases h
    | cons c u =>
      rw [hskip] at h hle
      dsimp only at h
      split at h
      · obtain ⟨r', hr', heq⟩ := Option.map_eq_some_iff.mp h
        obtain ⟨rfl, rfl⟩ := Prod.mk.inj heq
        have hle' := length_bufferSkipWhitespace_le u
        rw [List.length_cons] at hle
        exact ⟨hstring, _, by omega, hr'⟩
      · cases h

theorem parseMember_progress {value : Reader UInt8 CJson} (h : Progress value) :
    Progress (parseMember value) := by
  intro s m rest hm
  obtain ⟨-, u, hlt, hvalue⟩ := parseMember_spec hm
  exact Nat.lt_trans (h u m.2 rest hvalue) hlt

/-- Every value takes at least one byte. -/
theorem parseValue_progress (left : Nat) : Progress (parseValue left) := by
  induction left with
  | zero =>
    intro s t rest h
    rcases parseValueWith_spec h with ⟨hlt, -⟩ | ⟨u, -, hu | hu⟩
    · exact hlt
    · cases hu
    · cases hu
  | succ left ih =>
    intro s t rest h
    rcases parseValueWith_spec h with ⟨hlt, -⟩ | ⟨u, hlt, hu | hu⟩
    · exact hlt
    · obtain ⟨r, hr, heq⟩ := Option.map_eq_some_iff.mp hu
      obtain ⟨-, rfl⟩ := Prod.mk.inj heq
      have hrest := delimited_progress length_bufferSkipWhitespace_le ih u r.1 r.2 hr
      omega
    · obtain ⟨r, hr, heq⟩ := Option.map_eq_some_iff.mp hu
      obtain ⟨-, rfl⟩ := Prod.mk.inj heq
      have hrest := delimited_progress length_bufferSkipWhitespace_le (parseMember_progress ih) u
        r.1 r.2 hr
      omega

/-- The bound on the number of elements never ends an array or an object: every bound above the
length of the text gives the same elements. -/
theorem elements_rounds (left : Nat) {n m : Nat} {s : List UInt8} (hn : s.length < n)
    (hm : s.length < m) :
    sepBy bufferSkipWhitespace (parseValue left) 44 93 n s =
        sepBy bufferSkipWhitespace (parseValue left) 44 93 m s ∧
      sepBy bufferSkipWhitespace (parseMember (parseValue left)) 44 125 n s =
        sepBy bufferSkipWhitespace (parseMember (parseValue left)) 44 125 m s := by
  have hvalue := parseValue_progress left
  constructor
  · exact sepBy_rounds length_bufferSkipWhitespace_le hvalue n m s hn hm
  · exact sepBy_rounds length_bufferSkipWhitespace_le (parseMember_progress hvalue) n m s hn hm

/-- A tree from the parser is within the levels that it was allowed, and is as `cJSON_CreateNumber`
and C strings make it. -/
theorem parseValue_spec (left : Nat) : ∀ s t rest, parseValue left s = some (t, rest) →
    t.depth ≤ left ∧ t.created = t := by
  induction left with
  | zero =>
    intro s t rest h
    rcases parseValueWith_spec h with ⟨-, hdepth, hstrings⟩ | ⟨u, -, hu | hu⟩
    · exact ⟨Nat.le_of_eq hdepth, hstrings⟩
    · cases hu
    · cases hu
  | succ left ih =>
    intro s t rest h
    rcases parseValueWith_spec h with ⟨-, hdepth, hstrings⟩ | ⟨u, -, hu | hu⟩
    · exact ⟨by omega, hstrings⟩
    · obtain ⟨r, hr, heq⟩ := Option.map_eq_some_iff.mp hu
      obtain ⟨rfl, -⟩ := Prod.mk.inj heq
      have hitems := forall_delimited ih hr
      rw [CJson.depth, CJson.created, CJson.rebuild, Nat.add_le_add_iff_right, itemsDepth_le_iff,
        rebuildItems_eq]
      refine ⟨fun x hx => (hitems x hx).1, congrArg CJson.array ?_⟩
      exact (List.map_congr_left fun x hx => (hitems x hx).2).trans (List.map_id' _)
    · obtain ⟨r, hr, heq⟩ := Option.map_eq_some_iff.mp hu
      obtain ⟨rfl, -⟩ := Prod.mk.inj heq
      have hmember : ∀ s m rest, parseMember (parseValue left) s = some (m, rest) →
          m.2.depth ≤ left ∧ rebuildMember (fun _ d => cJSONCreateNumber d) m = m := by
        intro s m rest hm
        obtain ⟨hname, v, -, hvalue⟩ := parseMember_spec hm
        obtain ⟨hdepth, hstrings⟩ := ih v m.2 rest hvalue
        exact ⟨hdepth, (rebuildMember_eq _ m).trans (congrArg₂ Prod.mk hname hstrings)⟩
      have hmembers := forall_delimited hmember hr
      rw [CJson.depth, CJson.created, CJson.rebuild, Nat.add_le_add_iff_right,
        membersDepth_le_iff, rebuildMembers_eq]
      refine ⟨fun m hm => (hmembers m hm).1, congrArg CJson.object ?_⟩
      exact (List.map_congr_left fun m hm => (hmembers m hm).2).trans (List.map_id' _)

/-- A tree from `cJSON_Parse` is within the nesting limit, has no NUL in its strings, and has the
`valueint` of each number from its `valuedouble`. -/
theorem cJSONParse_spec {value : List UInt8} {t : CJson} (h : cJSONParse value = some t) :
    t.depth ≤ cjsonNestingLimit ∧ t.created = t := by
  obtain ⟨r, hr, rfl⟩ := Option.map_eq_some_iff.mp h
  exact parseValue_spec cjsonNestingLimit _ r.1 r.2 hr

/-! ### Trees that come back unchanged -/

/-- What is printed of a number denotes it: it is an integer other than `-0`, or its 15 digits
denote it, unless `compare_double` sees the difference. -/
def Kept : Double → Prop
  | .finite neg x =>
      if (Double.finite neg x).eq (Double.ofInt (valueintOf (.finite neg x)).toInt) then
        x.units = 0 → neg = false
      else
        compareDouble (nearestDecimal 15 neg x).toDouble (.finite neg x) = true →
          (nearestDecimal 15 neg x).toDouble = .finite neg x
  | _ => False

theorem printedDouble_eq_iff (neg : Bool) (x : Magnitude) :
    printedDouble neg x = .finite neg x ↔
      (compareDouble (nearestDecimal 15 neg x).toDouble (.finite neg x) = true →
        (nearestDecimal 15 neg x).toDouble = .finite neg x) := by
  rw [printedDouble, printedDigits]
  split
  case isTrue h => exact (forall_prop_of_true (q := fun _ => _) h).symm
  case isFalse h => exact iff_of_true (nearestDecimal_seventeen neg x) fun hclose => absurd hclose h

theorem rereadNumber_eq_iff (d : Double) :
    rereadNumber (valueintOf d) d = .number (valueintOf d) d ↔ Kept d := by
  cases d with
  | nan => exact iff_of_false nofun id
  | inf neg => exact iff_of_false nofun id
  | finite neg x =>
    rw [rereadNumber, Kept]
    split
    case isTrue heq =>
      rw [← Double.ofInt_eq_iff (natAbs_toInt_le _) heq, CJson.int, CJson.number.injEq,
        eq_self_iff_true, true_and]
    case isFalse =>
      rw [← printedDouble_eq_iff, cJSONCreateNumber, CJson.number.injEq]
      refine ⟨fun h => h.2, fun h => ⟨?_, h⟩⟩
      rw [h]

/-- Nothing changes in a tree without NULs exactly when no number changes. -/
theorem CJson.rebuild_eq_iff {f g : Int32 → Double → CJson} (t : CJson) :
    t.rebuild g = t → (t.rebuild f = t ↔ ∀ m ∈ t.numbers, f m.1 m.2 = .number m.1 m.2) := by
  have hself : ∀ {α : Type} (h : α → α) (xs : List α), xs.map h = xs ↔ ∀ x ∈ xs, h x = x := by
    intro α h xs
    rw [← List.map_inj_left, List.map_id']
  have hnone : ∀ m ∈ ([] : List (Int32 × Double)), f m.1 m.2 = .number m.1 m.2 :=
    fun m hm => absurd hm List.not_mem_nil
  induction t using CJson.tree_induction with
  | jNull => exact fun _ => iff_of_true rfl hnone
  | jFalse => exact fun _ => iff_of_true rfl hnone
  | jTrue => exact fun _ => iff_of_true rfl hnone
  | number n d =>
    intro _
    rw [CJson.numbers, List.forall_mem_singleton]
    rfl
  | string input => exact fun hstring => iff_of_true hstring hnone
  | array items ih =>
    intro hitems
    rw [CJson.rebuild, CJson.array.injEq, rebuildItems_eq, hself] at hitems ⊢
    rw [CJson.numbers, itemsNumbers_eq, List.forall_mem_flatMap]
    exact forall₂_congr fun x hx => ih x hx (hitems x hx)
  | object members ih =>
    intro hmembers
    rw [CJson.rebuild, CJson.object.injEq, rebuildMembers_eq, hself] at hmembers ⊢
    rw [CJson.numbers, membersNumbers_eq, List.forall_mem_flatMap]
    refine forall₂_congr fun m hm => ?_
    obtain ⟨hkey, hvalue⟩ := Prod.mk.inj ((rebuildMember_eq g m).symm.trans (hmembers m hm))
    rw [memberNumbers_eq, rebuildMember_eq, ← ih m hm hvalue, Prod.ext_iff]
    exact and_iff_right hkey

/-- A tree from the parser comes back unchanged exactly when its numbers do. -/
theorem reread_eq_iff {t : CJson} (h : t.created = t) :
    t.reread = t ↔ ∀ m ∈ t.numbers, Kept m.2 := by
  have hcreated := (CJson.rebuild_eq_iff t h).mp h
  rw [CJson.reread, CJson.rebuild_eq_iff t h]
  refine forall₂_congr fun m hm => ?_
  have hvalueint : valueintOf m.2 = m.1 := (CJson.number.inj (hcreated m hm)).1
  rw [← hvalueint]
  exact rereadNumber_eq_iff m.2

/-- Equal doubles are close. -/
theorem compareDouble_of_signed_eq {s t : Bool} {x y : Magnitude}
    (h : Double.signed s x = Double.signed t y) :
    compareDouble (.finite s x) (.finite t y) = true := by
  obtain ⟨neg, z, hsub, hzero⟩ := Double.sub_of_signed_eq h
  have hmax : ∃ w, (if ((Double.finite t y).abs.lt (Double.finite s x).abs) = true then
      (Double.finite s x).abs else (Double.finite t y).abs) = .finite false w := by
    split
    · exact ⟨x, rfl⟩
    · exact ⟨y, rfl⟩
  obtain ⟨w, hw⟩ := hmax
  obtain ⟨n, hn⟩ := Double.mul_epsilon w
  rw [compareDouble, hsub, hw, hn]
  exact Double.zero_le_ofRatio hzero n scale

/-- Every finite number comes back as a number that `compare_double` does not tell from it. -/
theorem rereadNumber_close (n : Int32) (neg : Bool) (x : Magnitude) :
    ∃ d, rereadNumber n (.finite neg x) = cJSONCreateNumber d ∧
      compareDouble d (.finite neg x) = true := by
  rw [rereadNumber]
  split
  case isTrue heq =>
    obtain ⟨y, hy, hyu⟩ := Double.ofInt_eq (natAbs_toInt_le n)
    refine ⟨_, (cJSONCreateNumber_ofInt n).symm, ?_⟩
    rw [hy]
    apply compareDouble_of_signed_eq
    rw [Double.signed_ofInt hyu]
    exact ((Double.eq_ofInt_iff (natAbs_toInt_le n) neg x).mp heq).symm
  case isFalse =>
    refine ⟨_, rfl, ?_⟩
    rw [printedDouble, printedDigits]
    split
    case isTrue h => exact h
    case isFalse =>
      rw [nearestDecimal_seventeen]
      exact compareDouble_of_signed_eq rfl

/-! ### The output buffer of a string -/

/-- The backslashes that the search for the closing quote skips in a part of a body. The part
may start `inside` an escape, behind its backslash. -/
def escapes : Bool → List UInt8 → Nat
  | _, [] => 0
  | true, _ :: s => escapes false s
  | false, b :: s => if b = 92 then escapes true s + 1 else escapes false s

/-- Whether a part of a body ends behind a backslash. -/
def endsInside : Bool → List UInt8 → Bool
  | inside, [] => inside
  | true, _ :: s => endsInside false s
  | false, b :: s => endsInside (b = 92) s

theorem escapes_append (xs ys : List UInt8) (inside : Bool) :
    escapes inside (xs ++ ys) = escapes inside xs + escapes (endsInside inside xs) ys := by
  induction xs generalizing inside with
  | nil => rw [List.nil_append, escapes, endsInside, Nat.zero_add]
  | cons b xs ih =>
    rw [List.cons_append]
    cases inside with
    | true => rw [escapes, escapes, endsInside, ih]
    | false =>
      rw [escapes, escapes, endsInside]
      split
      case isTrue h =>
        rw [ih, decide_eq_true h]
        omega
      case isFalse h => rw [ih, decide_eq_false h]

theorem endsInside_append (xs ys : List UInt8) (inside : Bool) :
    endsInside inside (xs ++ ys) = endsInside (endsInside inside xs) ys := by
  induction xs generalizing inside with
  | nil => rfl
  | cons b xs ih =>
    rw [List.cons_append]
    cases inside with
    | true => rw [endsInside, endsInside, ih]
    | false => rw [endsInside, endsInside, ih]

/-- Two skipped backslashes do not stand side by side. -/
theorem escapes_le (xs : List UInt8) :
    2 * escapes false xs ≤ xs.length + 1 ∧ 2 * escapes true xs ≤ xs.length := by
  induction xs with
  | nil => exact ⟨Nat.zero_le _, Nat.le_refl 0⟩
  | cons b xs ih =>
    rw [escapes, escapes, List.length_cons]
    split
    · exact ⟨by omega, by omega⟩
    · exact ⟨by omega, by omega⟩

theorem escapes_le_half (xs : List UInt8) (inside : Bool) :
    2 * escapes inside xs ≤ xs.length + 1 := by
  have h := escapes_le xs
  cases inside with
  | true => omega
  | false => exact h.1

/-- The count of the search, and the end of the body outside an escape. -/
theorem closingQuote_body (s : List UInt8) : ∀ e, closingQuote s = some e →
    escapes false (s.take e.1) = e.2 ∧ endsInside false (s.take e.1) = false := by
  induction s using closingQuote.induct with
  | case1 => exact fun e h => (nomatch h)
  | case2 s =>
    intro e h
    rw [closingQuote_cons, if_pos rfl] at h
    obtain rfl := Option.some.inj h
    exact ⟨rfl, rfl⟩
  | case3 hquote =>
    intro e h
    rw [closingQuote_cons, if_neg hquote, if_pos rfl, if_pos rfl] at h
    cases h
  | case4 c s hquote ih =>
    intro e h
    rw [closingQuote_cons, if_neg hquote, if_pos rfl, if_neg (List.cons_ne_nil c s),
      List.tail_cons] at h
    obtain ⟨e', he', rfl⟩ := Option.map_eq_some_iff.mp h
    obtain ⟨hcount, hend⟩ := ih e' he'
    exact ⟨congrArg (· + 1) hcount, hend⟩
  | case5 b s hquote hslash ih =>
    intro e h
    rw [closingQuote_cons, if_neg hquote, if_neg hslash] at h
    obtain ⟨e', he', rfl⟩ := Option.map_eq_some_iff.mp h
    obtain ⟨hcount, hend⟩ := ih e' he'
    dsimp only
    rw [List.take_succ_cons, escapes, endsInside, if_neg hslash, decide_eq_false hslash]
    exact ⟨hcount, hend⟩

theorem parseHex4_lt (input : List UInt8) : parseHex4 input < 0x10000 := by
  have hvalue : ∀ k < 256, ∀ v, hexValue k.toUInt8 = some v → v < 16 := by decide +kernel
  have hdigit : ∀ b v, hexValue b = some v → v < 16 := by
    intro b v h
    have hbyte : b.toNat.toUInt8 = b := UInt8.ofNat_toNat
    have hlt := hvalue b.toNat b.toNat_lt v
    rw [hbyte] at hlt
    exact hlt h
  have hfold : ∀ (l : List UInt8) (h v : Nat),
      l.foldlM (fun h b => (hexValue b).map (16 * h + ·)) h = some v →
        v < (h + 1) * 16 ^ l.length := by
    intro l
    induction l with
    | nil =>
      intro h v hv
      obtain rfl := Option.some.inj hv
      rw [List.length_nil, Nat.pow_zero]
      omega
    | cons b l ih =>
      intro h v hv
      rw [List.foldlM_cons] at hv
      obtain ⟨h', hh', hv'⟩ := Option.bind_eq_some_iff.mp hv
      obtain ⟨d, hd, rfl⟩ := Option.map_eq_some_iff.mp hh'
      have hlt := hdigit b d hd
      have hrest := ih _ v hv'
      have hstep : (16 * h + d + 1) * 16 ^ l.length ≤ ((h + 1) * 16) * 16 ^ l.length :=
        Nat.mul_le_mul_right _ (by omega)
      rw [List.length_cons, Nat.pow_succ', ← Nat.mul_assoc]
      omega
  rw [parseHex4]
  cases hv : (input.take 4).foldlM (fun h b => (hexValue b).map (16 * h + ·)) 0 with
  | none => exact Nat.zero_lt_succ _
  | some v =>
    have hlt := hfold _ 0 v hv
    have hle : 16 ^ (input.take 4).length ≤ 16 ^ 4 :=
      Nat.pow_le_pow_right (by decide) (List.length_take_le 4 input)
    show v < 0x10000
    omega

theorem length_utf8Bytes_le (codepoint : Nat) :
    (utf8Bytes codepoint).length ≤ 4 ∧
      (codepoint < 0x10000 → (utf8Bytes codepoint).length ≤ 3) := by
  rw [utf8Bytes]
  dsimp only
  split
  · exact ⟨by show 1 ≤ 4; decide, fun _ => by show 1 ≤ 3; decide⟩
  split
  · exact ⟨by show 2 ≤ 4; decide, fun _ => by show 2 ≤ 3; decide⟩
  split
  · exact ⟨by show 3 ≤ 4; decide, fun _ => Nat.le_refl 3⟩
  · exact ⟨Nat.le_refl 4, fun h => absurd h ‹_›⟩

/-- An escape sequence writes at most half of its length. Only one of two characters may go over
the end of the body. -/
theorem escapeSequence_spec {input : List UInt8} {r : List UInt8 × Nat}
    (h : escapeSequence input = some r) :
    2 * r.1.length ≤ r.2 ∧ 0 < r.2 ∧ (r.2 ≤ input.length ∨ r.2 = 2) := by
  rw [escapeSequence] at h
  split at h
  · rw [utf16LiteralToUtf8] at h
    dsimp only at h
    split at h
    · cases h
    rename_i hsix
    split at h
    · cases h
    split at h
    · split at h
      · cases h
      rename_i htwelve
      split at h
      · cases h
      split at h
      · cases h
      obtain rfl := Option.some.inj h
      have hlength := (length_utf8Bytes_le (0x10000 +
        ((parseHex4 (input.drop 2) &&& 0x3FF) <<< 10 |||
          parseHex4 ((input.drop 6).drop 2) &&& 0x3FF))).1
      rw [List.length_drop] at htwelve
      exact ⟨by dsimp only; omega, Nat.zero_lt_succ _, Or.inl (by dsimp only; omega)⟩
    · obtain rfl := Option.some.inj h
      have hlength := (length_utf8Bytes_le (parseHex4 (input.drop 2))).2 (parseHex4_lt _)
      exact ⟨by dsimp only; omega, Nat.zero_lt_succ _, Or.inl (by dsimp only; omega)⟩
  · obtain ⟨b, hb, heq⟩ := Option.map_eq_some_iff.mp h
    obtain rfl := heq
    exact ⟨Nat.le_refl 2, Nat.zero_lt_two, Or.inr rfl⟩

theorem unescape_covered (covered : Nat) (input : List UInt8) :
    unescape covered input = unescape 0 (input.drop covered) := by
  induction covered generalizing input with
  | zero => rw [List.drop_zero]
  | succ covered ih =>
    cases input with
    | nil => rfl
    | cons b input => rw [unescape, ih, List.drop_succ_cons]

/-- The decoded bytes and the skipped backslashes fit into the part of the body that they come
from. The part may start inside an escape, because a sequence with invalid digits can end
there. -/
theorem length_unescape_le : ∀ (n : Nat) (input : List UInt8) (inside : Bool), input.length ≤ n →
    endsInside inside input = false →
      (unescape 0 input).1.length + escapes inside input ≤ input.length := by
  intro n
  induction n with
  | zero =>
    intro input inside hn _
    obtain rfl := List.length_eq_zero_iff.mp (Nat.le_zero.mp hn)
    cases inside <;> exact Nat.le_refl 0
  | succ n ih =>
    intro input inside hn hend
    cases input with
    | nil => cases inside <;> exact Nat.le_refl 0
    | cons b input =>
      rw [List.length_cons] at hn
      by_cases hslash : b = 92
      · obtain rfl := hslash
        rw [unescape, if_neg (by decide)]
        cases hsequence : escapeSequence (92 :: input) with
        | none =>
          have hhalf := escapes_le_half (92 :: input) inside
          rw [List.length_cons] at hhalf
          show 0 + escapes inside (92 :: input) ≤ input.length + 1
          omega
        | some r =>
          obtain ⟨hout, hpos, hk⟩ := escapeSequence_spec hsequence
          -- A body that ends with the backslash ends in an escape that started before.
          by_cases hlone : input = []
          · obtain rfl := hlone
            cases inside with
            | false => exact absurd hend (by decide)
            | true =>
              show (r.1 ++ (unescape (r.2 - 1) []).1).length + 0 ≤ 1
              have hlength : r.2 ≤ 2 := by
                rcases hk with hk | hk
                · exact Nat.le_succ_of_le hk
                · exact Nat.le_of_eq hk
              rw [unescape, List.append_nil]
              omega
          have hfits : r.2 ≤ input.length + 1 := by
            have hone := List.length_pos_iff.mpr hlone
            rcases hk with hk | hk
            · exact hk
            · omega
          have hdrop : input.drop (r.2 - 1) = (92 :: input).drop r.2 := by
            obtain ⟨k, hsucc⟩ : ∃ k, r.2 = k + 1 := ⟨r.2 - 1, by omega⟩
            rw [hsucc]
            rfl
          have hsplit := List.take_append_drop r.2 (92 :: input)
          have hcount := escapes_append ((92 :: input).take r.2) ((92 :: input).drop r.2) inside
          have hlast := endsInside_append ((92 :: input).take r.2) ((92 :: input).drop r.2) inside
          have hhalf := escapes_le_half ((92 :: input).take r.2) inside
          rw [hsplit] at hcount hlast
          rw [hend] at hlast
          have hrest := ih ((92 :: input).drop r.2) _ (by
            rw [List.length_drop, List.length_cons]
            omega) hlast.symm
          show (r.1 ++ (unescape (r.2 - 1) input).1).length + _ ≤ _
          rw [unescape_covered, hdrop, List.length_append, hcount]
          rw [List.length_take, List.length_cons] at hhalf
          rw [List.length_drop, List.length_cons] at hrest
          rw [List.length_cons]
          omega
      · rw [unescape, if_pos hslash]
        have hstate : escapes inside (b :: input) = escapes false input ∧
            endsInside inside (b :: input) = endsInside false input := by
          cases inside with
          | true => exact ⟨rfl, rfl⟩
          | false =>
            rw [escapes, endsInside, if_neg hslash, decide_eq_false hslash]
            exact ⟨rfl, rfl⟩
        rw [hstate.2] at hend
        rw [hstate.1]
        have hrest := ih input false (by omega) hend
        show (b :: (unescape 0 input).1).length + _ ≤ (b :: input).length
        rw [List.length_cons, List.length_cons]
        omega

/-- What `parse_string` writes, with the NUL, fits into the buffer that it allocates, whatever is
between the quotes and also when it stops at an invalid escape. One byte is always left over. -/
theorem parse_string_fits (s : List UInt8) (e : Nat × Nat) (h : closingQuote s = some e) :
    (unescape 0 (s.take e.1)).1.length + 1 < outputSize e := by
  obtain ⟨hlt, hle⟩ := closingQuote_lt s e h
  obtain ⟨hcount, hend⟩ := closingQuote_body s e h
  have hfits := length_unescape_le _ (s.take e.1) false (Nat.le_refl _) hend
  rw [hcount, List.length_take, Nat.min_eq_left (Nat.le_of_lt hlt)] at hfits
  rw [outputSize]
  omega

/-- The sequence `\u123\` has an invalid digit, and it ends between two backslashes. The second of
them is read with the closing quote. -/
theorem parse_string_fits_split :
    (unescape 0 ([92, 117, 49, 50, 51, 92, 92, 34].take 7)).1.length + 1 < outputSize (7, 2) :=
  parse_string_fits [92, 117, 49, 50, 51, 92, 92, 34] (7, 2) (by decide)

end SmartBuilding
