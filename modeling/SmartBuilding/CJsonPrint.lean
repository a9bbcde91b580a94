import SmartBuilding.CJson
import SmartBuilding.Lib.Memory
import SmartBuilding.Lib.Printf

/-!
# `SmartBuilding.CJsonPrint`: the printer of cJSON

`cJSON_PrintUnformatted` and the functions below it, from `packages/cJSON-v1.7.17/cJSON.c`. The
text goes into a buffer that grows (`ensure`), and every function leaves a NUL behind what it
wrote, so that `update_offset` can find the end.

The allocator is a parameter (`Heap`): the answer to each call of `malloc` or `realloc`, which
is null or a block with arbitrary bytes. The package never replaces its hooks, so a growing
buffer is moved by `realloc`.

A function that returns false or null stops the printing (`Stop.refused`). Beside it there is a
write that leaves the buffer, or a search for the NUL that leaves it (`Stop.outside`).

Only the format that the firmware uses is modelled, without line breaks. The decimal point of
the locale is a point.
-/

set_option autoImplicit false

namespace SmartBuilding

open CText Memory Binary64

/-- Why the printing stops. -/
inductive Stop where
  | refused
  | outside
  deriving DecidableEq, Repr

/-- The answer to each call of the allocator: null, or the bytes of the fresh memory. -/
abbrev Heap := Nat → Option (Nat → UInt8)

/-- `printbuffer`. The member `length` is the length of the list, and `calls` counts the calls
of the allocator. -/
structure Printbuffer where
  buffer : List UInt8
  offset : Nat
  calls : Nat

/-- `INT_MAX`. -/
def intMax : Nat := 2147483647

/-- A block with the bytes `old` after `realloc` to `size` bytes. -/
def reallocate (fresh : Nat → UInt8) (old : List UInt8) (size : Nat) : List UInt8 :=
  (old ++ (List.range (size - old.length)).map fresh).take size

variable (heap : Heap)

/-- `ensure`: room for `needed` bytes from the offset on, and one more. -/
def ensure (needed : Nat) (p : Printbuffer) : Except Stop Printbuffer :=
  if 0 < p.buffer.length ∧ p.buffer.length ≤ p.offset then .error .refused
  else if intMax < needed then .error .refused
  else if needed + p.offset + 1 ≤ p.buffer.length then .ok p
  else if intMax < needed + p.offset + 1 then .error .refused
  else
    let newsize :=
      if intMax / 2 < needed + p.offset + 1 then intMax else (needed + p.offset + 1) * 2
    match heap p.calls with
    | none => .error .refused
    | some fresh =>
        .ok { p with buffer := reallocate fresh p.buffer newsize, calls := p.calls + 1 }

/-- A write of `cells`, `pos` bytes behind the offset. -/
def Printbuffer.write (pos : Nat) (cells : List UInt8) (p : Printbuffer) :
    Except Stop Printbuffer :=
  if p.offset + pos + cells.length ≤ p.buffer.length then
    .ok { p with buffer := store p.buffer (p.offset + pos) cells }
  else .error .outside

/-- `offset += length`. -/
def Printbuffer.advance (length : Nat) (p : Printbuffer) : Printbuffer :=
  { p with offset := p.offset + length }

/-- `update_offset`. -/
def updateOffset (p : Printbuffer) : Except Stop Printbuffer :=
  if 0 ∈ p.buffer.drop p.offset then
    .ok (p.advance (cString (p.buffer.drop p.offset)).length)
  else .error .outside

/-- A text that is copied with its NUL. -/
def printLiteral (text : List UInt8) (p : Printbuffer) : Except Stop Printbuffer := do
  let p ← ensure heap (text.length + 1) p
  p.write 0 (text ++ [0])

/-- `compare_double`. -/
def compareDouble (a b : Double) : Bool :=
  let maxVal := if b.abs.lt a.abs then a.abs else b.abs
  (a.sub b).abs.le (maxVal.mul Double.epsilon)

/-- `sscanf` with the format `%lg` of a decimal number. -/
def sscanfLg (text : List UInt8) : Option Double := (strtod text).map fun r => r.1.toDouble

/-- `sizeof(number_buffer)`. -/
def numberBufferSize : Nat := 26

/-- `sprintf` into `number_buffer`, with the NUL. -/
def sprintfNumber (text : List UInt8) : Except Stop (List UInt8) :=
  if text.length + 1 ≤ numberBufferSize then .ok text else .error .outside

/-- What `print_number` leaves in `number_buffer`. -/
def renderNumber (valueint : Int32) (d : Double) : Except Stop (List UInt8) :=
  match d with
  | .nan => sprintfNumber (ofText "null")
  | .inf _ => sprintfNumber (ofText "null")
  | .finite neg x =>
      if d.eq (Double.ofInt valueint.toInt) then sprintfNumber (decimalInt valueint)
      else do
        let text ← sprintfNumber (sprintfG 15 neg x)
        if (sscanfLg text).any (compareDouble · d) then .ok text
        else sprintfNumber (sprintfG 17 neg x)

/-- `print_number`. -/
def printNumber (valueint : Int32) (valuedouble : Double) (p : Printbuffer) :
    Except Stop Printbuffer := do
  let text ← renderNumber valueint valuedouble
  if numberBufferSize - 1 < text.length then .error .refused
  else
    let p ← ensure heap (text.length + 1) p
    let p ← p.write 0 (text ++ [0])
    .ok (p.advance text.length)

/-- The digit of `%x`. -/
def hexDigit (n : Nat) : UInt8 := if n < 10 then (48 + n).toUInt8 else (87 + n).toUInt8

/-- The letter of an escape of two characters. -/
def escapeLetter (b : UInt8) : Option UInt8 :=
  if b = 92 then some 92
  else if b = 34 then some 34
  else if b = 8 then some 98
  else if b = 12 then some 102
  else if b = 10 then some 110
  else if b = 13 then some 114
  else if b = 9 then some 116
  else none

/-- What `print_string_ptr` counts for a byte in `escape_characters`. -/
def escapeCharacters (b : UInt8) : Nat :=
  if (escapeLetter b).isSome then 1 else if b < 32 then 5 else 0

/-- What the loop of `print_string_ptr` writes for a byte. -/
def escapedByte (b : UInt8) : List UInt8 :=
  if 31 < b ∧ b ≠ 34 ∧ b ≠ 92 then [b]
  else
    match escapeLetter b with
    | some letter => [92, letter]
    | none => [92, 117, 48, 48, hexDigit (b.toNat / 16), hexDigit (b.toNat % 16)]

/-- The NUL that `sprintf` leaves behind `u%04x`. The next write goes over it. -/
def sprintfNul (b : UInt8) : List UInt8 :=
  if 31 < b ∧ b ≠ 34 ∧ b ≠ 92 ∨ (escapeLetter b).isSome then [] else [0]

/-- The loop of `print_string_ptr`, `pos` bytes behind the offset. -/
def printEscaped : List UInt8 → Nat → Printbuffer → Except Stop Printbuffer
  | [], _, p => .ok p
  | b :: input, pos, p => do
      let p ← p.write pos (escapedByte b ++ sprintfNul b)
      printEscaped input (pos + (escapedByte b).length) p

/-- `print_string_ptr`. The closing quote goes where the count of the first loop says. -/
def printStringPtr (input : List UInt8) (p : Printbuffer) : Except Stop Printbuffer := do
  let input := cString input
  let escapes := (input.map escapeCharacters).sum
  let outputLength := input.length + escapes
  let p ← ensure heap (outputLength + 3) p
  if escapes = 0 then p.write 0 (34 :: input ++ [34, 0])
  else
    let p ← p.write 0 [34]
    let p ← printEscaped input 1 p
    p.write (outputLength + 1) [34, 0]

/-- What `print_array` and `print_object` write behind an element: a comma, when another
element follows. -/
def comma (more : Bool) : List UInt8 := if more then [44] else []

mutual

/-- `print_value`. -/
def printValue : CJson → Printbuffer → Except Stop Printbuffer
  | .jNull, p => printLiteral heap (ofText "null") p
  | .jFalse, p => printLiteral heap (ofText "false") p
  | .jTrue, p => printLiteral heap (ofText "true") p
  | .number valueint valuedouble, p => printNumber heap valueint valuedouble p
  | .string valuestring, p => printStringPtr heap valuestring p
  | .array items, p => do
      -- `print_array`
      let p ← ensure heap 1 p
      let p ← p.write 0 [91]
      let p ← printItems items (p.advance 1)
      let p ← ensure heap 2 p
      p.write 0 [93, 0]
  | .object members, p => do
      -- `print_object`
      let p ← ensure heap (1 + 1) p
      let p ← p.write 0 [123]
      let p ← printMembers members (p.advance 1)
      let p ← ensure heap 2 p
      p.write 0 [125, 0]

/-- The loop of `print_array`. -/
def printItems : List CJson → Printbuffer → Except Stop Printbuffer
  | [], p => .ok p
  | item :: items, p => do
      let p ← printValue item p
      let p ← updateOffset p
      if items.isEmpty then printItems items p
      else
        let p ← ensure heap (1 + 1) p
        let p ← p.write 0 [44, 0]
        printItems items (p.advance 1)

/-- The loop of `print_object`. -/
def printMembers : List (List UInt8 × CJson) → Printbuffer → Except Stop Printbuffer
  | [], p => .ok p
  | member :: members, p => do
      let p ← printMember member p
      let length := (comma (!members.isEmpty)).length
      let p ← ensure heap (length + 1) p
      let p ← p.write 0 (comma (!members.isEmpty) ++ [0])
      printMembers members (p.advance length)

/-- The key of a member, a colon, and its value. -/
def printMember : List UInt8 × CJson → Printbuffer → Except Stop Printbuffer
  | (key, item), p => do
      let p ← printStringPtr heap key p
      let p ← updateOffset p
      let p ← ensure heap 1 p
      let p ← p.write 0 [58]
      let p ← printValue item (p.advance 1)
      updateOffset p

end

/-- `default_buffer_size` of `print`. -/
def defaultBufferSize : Nat := 256

/-- The end of `print`: the block is cut behind the NUL of the text. -/
def cutBlock (p : Printbuffer) : Except Stop (List UInt8) :=
  match heap p.calls with
  | none => .error .refused
  | some fresh => .ok (reallocate fresh p.buffer (p.offset + 1))

/-- `cJSON_PrintUnformatted`: the bytes of the block that it returns. -/
def cJSONPrintUnformatted (item : CJson) : Except Stop (List UInt8) :=
  match heap 0 with
  | none => .error .refused
  | some fresh => do
      let p ← printValue heap item ⟨reallocate fresh [] defaultBufferSize, 0, 1⟩
      let p ← updateOffset p
      cutBlock heap p

end SmartBuilding
