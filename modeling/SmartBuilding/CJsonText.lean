import SmartBuilding.CJson
import SmartBuilding.Lib.Delimited
import SmartBuilding.Lib.Strtod

/-!
# `SmartBuilding.CJsonText`: the parser of cJSON

`cJSON_Parse` and the functions below it, from `packages/cJSON-v1.7.17/cJSON.c`. A parse buffer
is the list of the bytes from the current offset on, and its end is the NUL that ends the text.
The NUL is white space for `buffer_skip_whitespace`, which steps back to it at the end.

`parse_array` and `parse_object` differ in their marks and in what they read for an element,
so both are `Delimited.delimited`. The depth of the source counts up to
`CJSON_NESTING_LIMIT`. Here `left` is the number of levels that are still allowed, and the
recursion is on it.

The nodes come from an allocator that never fails. The error position that a failed parse
leaves in `global_error` is not modelled, because nothing in the firmware reads it.
-/

set_option autoImplicit false

namespace SmartBuilding

open CText Delimited

/-- `CJSON_NESTING_LIMIT`. -/
def cjsonNestingLimit : Nat := 1000

/-- `buffer_skip_whitespace`. -/
def bufferSkipWhitespace (s : List UInt8) : List UInt8 := s.dropWhile (· ≤ 32)

/-- `skip_utf8_bom`. The access to index 4 counts the NUL. -/
def skipUtf8Bom (s : List UInt8) : List UInt8 :=
  if 4 < s.length + 1 ∧ [0xEF, 0xBB, 0xBF].isPrefixOf s then s.drop 3 else s

/-! ### Numbers -/

/-- A byte that `parse_number` copies for `strtod`. -/
def isNumberByte (b : UInt8) : Bool :=
  isDigit b ∨ b = 43 ∨ b = 45 ∨ b = 101 ∨ b = 69 ∨ b = 46

/-- `sizeof(number_c_string)`. -/
def numberCStringSize : Nat := 64

/-- `parse_number`. It fills the node as `cJSON_CreateNumber` does. -/
def parseNumber : Reader UInt8 CJson := fun s =>
  (strtod ((s.takeWhile isNumberByte).take (numberCStringSize - 1))).map fun r =>
    (cJSONCreateNumber r.1.toDouble, s.drop r.2)

/-! ### Strings -/

/-- The value of a hexadecimal digit. -/
def hexValue (b : UInt8) : Option Nat :=
  if 48 ≤ b ∧ b ≤ 57 then some (b.toNat - 48)
  else if 65 ≤ b ∧ b ≤ 70 then some (10 + b.toNat - 65)
  else if 97 ≤ b ∧ b ≤ 102 then some (10 + b.toNat - 97)
  else none

/-- `parse_hex4`: four digits. The result is 0 when one of them is invalid. -/
def parseHex4 (input : List UInt8) : Nat :=
  ((input.take 4).foldlM (fun h b => (hexValue b).map (16 * h + ·)) 0).getD 0

/-- The UTF-8 bytes of a code point. -/
def utf8Bytes (codepoint : Nat) : List UInt8 :=
  let last (c : Nat) : UInt8 := ((c ||| 0x80) &&& 0xBF).toUInt8
  let first (c mark : Nat) : UInt8 := ((c ||| mark) &&& 0xFF).toUInt8
  if codepoint < 0x80 then [(codepoint &&& 0x7F).toUInt8]
  else if codepoint < 0x800 then [first (codepoint >>> 6) 0xC0, last codepoint]
  else if codepoint < 0x10000 then
    [first (codepoint >>> 12) 0xE0, last (codepoint >>> 6), last codepoint]
  else
    [first (codepoint >>> 18) 0xF0, last (codepoint >>> 12), last (codepoint >>> 6),
      last codepoint]

/-- `utf16_literal_to_utf8`: the bytes that it writes, and the length of the sequence. The
argument is the body of the string from the backslash on. -/
def utf16LiteralToUtf8 (input : List UInt8) : Option (List UInt8 × Nat) :=
  if input.length < 6 then none
  else
    let firstCode := parseHex4 (input.drop 2)
    if 0xDC00 ≤ firstCode ∧ firstCode ≤ 0xDFFF then none
    else if 0xD800 ≤ firstCode ∧ firstCode ≤ 0xDBFF then
      let second := input.drop 6
      if second.length < 6 then none
      else if second[0]? ≠ some 92 ∨ second[1]? ≠ some 117 then none
      else
        let secondCode := parseHex4 (second.drop 2)
        if secondCode < 0xDC00 ∨ 0xDFFF < secondCode then none
        else
          -- Two surrogates stay below the last code point.
          let codepoint := 0x10000 + ((firstCode &&& 0x3FF) <<< 10 ||| secondCode &&& 0x3FF)
          some (utf8Bytes codepoint, 12)
    else some (utf8Bytes firstCode, 6)

/-- The byte for an escape of two characters. -/
def simpleEscape (b : UInt8) : Option UInt8 :=
  if b = 98 then some 8
  else if b = 102 then some 12
  else if b = 110 then some 10
  else if b = 114 then some 13
  else if b = 116 then some 9
  else if b = 34 ∨ b = 92 ∨ b = 47 then some b
  else none

/-- An escape sequence: the bytes for it, and its length. The argument is the body of the
string from the backslash on. Behind the last byte of the body stands the closing quote, and it
is read when the body ends with the backslash. -/
def escapeSequence (input : List UInt8) : Option (List UInt8 × Nat) :=
  let c := (input[1]?).getD 34
  if c = 117 then utf16LiteralToUtf8 input else (simpleEscape c).map fun b => ([b], 2)

/-- The loop through the body of a string: the bytes that it writes, and whether it reaches the
end. The first `covered` bytes belong to the sequence before. -/
def unescape : Nat → List UInt8 → List UInt8 × Bool
  | _, [] => ([], true)
  | covered + 1, _ :: input => unescape covered input
  | 0, b :: input =>
      if b ≠ 92 then
        let r := unescape 0 input
        (b :: r.1, r.2)
      else
        match escapeSequence (b :: input) with
        | none => ([], false)
        | some (out, sequenceLength) =>
            let r := unescape (sequenceLength - 1) input
            (out ++ r.1, r.2)

/-- The loop that looks for the closing quote: the length of the body in front of it, and
`skipped_bytes`. -/
def closingQuote : List UInt8 → Option (Nat × Nat)
  | [] => none
  | b :: s =>
      if b = 34 then some (0, 0)
      else if b = 92 then
        match s with
        | [] => none
        | _ :: s => (closingQuote s).map fun e => (e.1 + 2, e.2 + 1)
      else (closingQuote s).map fun e => (e.1 + 1, e.2)

theorem closingQuote_cons (b : UInt8) (s : List UInt8) :
    closingQuote (b :: s) =
      if b = 34 then some (0, 0)
      else if b = 92 then
        if s = [] then none else (closingQuote s.tail).map fun e => (e.1 + 2, e.2 + 1)
      else (closingQuote s).map fun e => (e.1 + 1, e.2) := by
  cases s with
  | nil => rfl
  | cons c s => rfl

/-- The size of the output that `parse_string` allocates, from what `closingQuote` found. The
source counts from the opening quote. -/
def outputSize (e : Nat × Nat) : Nat := e.1 + 1 - e.2 + 1

/-- `parse_string`: the C string in the output, without its NUL. -/
def parseString : Reader UInt8 (List UInt8) := fun s =>
  if s.head? ≠ some 34 then none
  else
    (closingQuote s.tail).bind fun e =>
      let output := unescape 0 (s.tail.take e.1)
      if output.2 then some (cString output.1, s.tail.drop (e.1 + 1)) else none

/-! ### Values -/

/-- `parse_value`, with the readers for what is behind `[` and behind `\x7b`. -/
def parseValueWith (array object : Reader UInt8 CJson) : Reader UInt8 CJson := fun s =>
  if (ofText "null").isPrefixOf s then some (.jNull, s.drop 4)
  else if (ofText "false").isPrefixOf s then some (.jFalse, s.drop 5)
  else if (ofText "true").isPrefixOf s then some (.jTrue, s.drop 4)
  else
    match s with
    | [] => none
    | b :: t =>
        if b = 34 then (parseString s).map fun r => (.string r.1, r.2)
        else if b = 45 ∨ isDigit b then parseNumber s
        else if b = 91 then array t
        else if b = 123 then object t
        else none

/-- `parse_array`, behind the `[`. -/
def parseArray (value : Reader UInt8 CJson) : Reader UInt8 CJson := fun s =>
  (delimited bufferSkipWhitespace value 44 93 s).map fun r => (.array r.1, r.2)

/-- One member of an object: its name, a colon, and its value. -/
def parseMember (value : Reader UInt8 CJson) : Reader UInt8 (List UInt8 × CJson) := fun s =>
  match parseString s with
  | none => none
  | some (name, rest) =>
      match bufferSkipWhitespace rest with
      | [] => none
      | c :: rest =>
          if c = 58 then
            (value (bufferSkipWhitespace rest)).map fun r => ((name, r.1), r.2)
          else none

/-- `parse_object`, behind the opening brace. -/
def parseObject (value : Reader UInt8 CJson) : Reader UInt8 CJson := fun s =>
  (delimited bufferSkipWhitespace (parseMember value) 44 125 s).map fun r => (.object r.1, r.2)

/-- `parse_value`, with `left` levels of nesting still allowed. -/
def parseValue : Nat → Reader UInt8 CJson
  | 0 => parseValueWith (fun _ => none) (fun _ => none)
  | left + 1 => parseValueWith (parseArray (parseValue left)) (parseObject (parseValue left))

/-- `cJSON_Parse`. What is behind the first value is not looked at. -/
def cJSONParse (value : List UInt8) : Option CJson :=
  (parseValue cjsonNestingLimit (bufferSkipWhitespace (skipUtf8Bom (cString value)))).map (·.1)

/-- The parser of the repository. -/
abbrev cJSONParser : CJsonParser := ⟨cJSONParse⟩

/-! ### Trees and their texts -/

/-- Induction over a tree: the items of an array and the members of an object come before
it. -/
@[elab_as_elim]
theorem CJson.tree_induction {P : CJson → Prop} (jFalse : P .jFalse) (jTrue : P .jTrue)
    (jNull : P .jNull) (number : ∀ n d, P (.number n d)) (string : ∀ s, P (.string s))
    (array : ∀ items, (∀ x ∈ items, P x) → P (.array items))
    (object : ∀ members, (∀ m ∈ members, P m.2) → P (.object members)) : ∀ t, P t := by
  intro t
  refine CJson.rec (motive_1 := P) (motive_2 := fun items => ∀ x ∈ items, P x)
    (motive_3 := fun members => ∀ m ∈ members, P m.2) (motive_4 := fun m => P m.2) jFalse jTrue
    jNull number string array object ?_ ?_ ?_ ?_ ?_ t
  · exact fun x hx => absurd hx List.not_mem_nil
  · exact fun x xs hx hxs => List.forall_mem_cons.mpr ⟨hx, hxs⟩
  · exact fun m hm => absurd hm List.not_mem_nil
  · exact fun m ms hm hms => List.forall_mem_cons.mpr ⟨hm, hms⟩
  · exact fun _ _ hx => hx

end SmartBuilding
