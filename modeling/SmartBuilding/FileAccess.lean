import Mathlib.Logic.Function.Basic
import SmartBuilding.File

/-!
# `SmartBuilding.FileAccess`: the arrays of the DHT11 reader

`SmartBuilding.File` gives `none` where `read_and_send_dht11_data` leaves its arrays. Here is
each access of the reader to its two arrays `line` and `dht11data_str`, in the order of the
source. The store to a slot past the end goes on as if the slot were there.

`dht11Events` is the DHT11 log under calls of its writer, its reader and the two functions
that move the saved position. A restart of the firmware keeps the file and starts at the
position 0, so it does what `reset` does.
-/

set_option autoImplicit false

namespace SmartBuilding

open CText

/-- `dht11data_str` and `dht11data_index`. A pointer is its offset into `line`. A slot is
`none` when it holds the null pointer, or nothing yet. -/
structure TokenArray where
  str : Nat → Option Nat
  index : UInt8

/-- The array at the start of a call. -/
def TokenArray.empty : TokenArray := ⟨fun _ => none, 0⟩

/-- An access of the DHT11 reader: the bytes that `fgets` puts into `line`, a store to
`dht11data_str`, or the two pointers that `strtoul` reads. -/
inductive Dht11Access where
  | fgets (got : List UInt8)
  | store (index : Nat) (pointer : Option Nat)
  | convert (slot0 slot1 : Option Nat)
  deriving DecidableEq, Repr

/-- `dht11data_str[dht11data_index] = pointer`. -/
def TokenArray.store (pointer : Option Nat) (a : TokenArray) : TokenArray :=
  { a with str := Function.update a.str a.index.toNat pointer }

/-- The stores of one line, for the tokens that `strtok` gives before its null pointer: the
array afterwards, and the accesses. -/
def TokenArray.tokenise : List Nat → TokenArray → TokenArray × List Dht11Access
  | [], a => (a.store none, [.store a.index.toNat none])
  | t :: tokens, a =>
      let r := tokenise tokens { a.store (some t) with index := a.index + 1 }
      (r.1, .store a.index.toNat (some t) :: r.2)

/-- One pass of the reader after `fgets`: the array, the line and the accesses. -/
def TokenArray.pass (line : List UInt8) (a : TokenArray) :
    TokenArray × List UInt8 × List Dht11Access :=
  let (tokens, line) := strtok 32 false 0 line
  let (a, stores) := a.tokenise tokens
  (a, line, stores ++ [.convert (a.str 0) (a.str 1)])

/-- The accesses of the loop, when `left` passes are left before `count` reaches its limit. -/
def dht11LoopAccesses : Nat → TokenArray → List UInt8 → List UInt8 → List Dht11Access
  | 0, _, _, stream =>
      -- `fgets` comes first in the condition, so it takes one line more.
      if stream = [] then [] else [.fgets (fgetsLine (lineSize - 1) stream)]
  | left + 1, a, line, stream =>
      if stream = [] then []
      else
        let got := fgetsLine (lineSize - 1) stream
        let (a, line, accesses) := a.pass (fgetsBuffer got line)
        .fgets got ::
          (accesses ++ dht11LoopAccesses left a line (stream.drop got.length))

/-- The accesses of `read_and_send_dht11_data`. -/
def dht11Accesses (line : List UInt8) (f : LogFile) : List Dht11Access :=
  match f.bytes with
  | none => []
  | some bytes =>
      dht11LoopAccesses dht11ArraySize .empty line (bytes.drop f.lastPosition)

namespace Dht11Access

/-- The access stays inside its array, or its pointers are not null. What `fgets` takes fits
into `line` with the final NUL. -/
def InBounds : Dht11Access → Prop
  | .fgets got => got.length + 1 ≤ lineSize
  | .store index _ => index ≤ dht11ArraySize * 2
  | .convert slot0 slot1 => slot0.isSome = true ∧ slot1.isSome = true

/-- The bytes of an access that is a call of `fgets`. -/
def taken? : Dht11Access → Option (List UInt8)
  | .fgets got => some got
  | _ => none

end Dht11Access

/-! ### The log under its functions -/

/-- `reset_dht11_read_position`, without its answer over TCP. -/
def resetDht11ReadPosition (f : LogFile) : LogFile := { f with lastPosition := 0 }

/-- `set_dht11_read_position_end`. -/
def setDht11ReadPositionEnd (f : LogFile) : LogFile :=
  match f.bytes with
  | none => f
  | some bytes => { f with lastPosition := bytes.length }

/-- A call of a function of the DHT11 log. `line` is what the array of the reader holds before
the call. -/
inductive Dht11Event where
  | write (temp humi : UInt8)
  | load (line : List UInt8)
  | reset
  | setEnd

/-- The DHT11 log. The state is `none` after undefined behaviour. -/
def dht11Events : Machine (Option LogFile) Dht11Event Dht11Access where
  step f
    | .write temp humi => f.map (writeDht11Data temp humi)
    | .load line => (f.bind (readAndSendDht11Data line)).map Prod.fst
    | .reset => f.map resetDht11ReadPosition
    | .setEnd => f.map setDht11ReadPositionEnd
  out f
    | .load line => f.elim [] (dht11Accesses line)
    | _ => []

/-- The readings that the events write, in order. -/
def dht11Written (es : List Dht11Event) : List (UInt8 × UInt8) :=
  es.filterMap fun
    | .write temp humi => some (temp, humi)
    | _ => none

end SmartBuilding
