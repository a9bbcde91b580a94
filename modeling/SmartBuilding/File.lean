import SmartBuilding.Lib.CText
import SmartBuilding.Lib.Pager

/-!
# `SmartBuilding.File`: the sensor logs of `applications/src/my_file.c`

The firmware keeps two logs on its flash, one for the readings of the DHT11 sensor and one
for the light sensor. A writer appends one line of text for each reading. A reader resumes
at the position that the last call saved, and sends at most 25 readings over TCP.

Both readers have the same loop, `while (fgets(line, sizeof(line), fp) && count < N)`. It is
`fgetsLoop` here, and each reader gives its own pass. The line buffer is an array on the
stack, so a call starts with whatever bytes are there. They are an input of the call.

`none` is undefined behaviour: an index past the end of `dht11data_str`, or a null pointer
given to `strtoul`.
-/

set_option autoImplicit false

namespace SmartBuilding

open CText

/-- `DHT11_ARRAY_SIZE`. -/
def dht11ArraySize : Nat := 25

/-- `LIGHT_ARRAY_SIZE`. -/
def lightArraySize : Nat := 25

/-- The size of the array `line` of both readers. -/
def lineSize : Nat := 10

/-- A log: the bytes of its file, or `none` before the file exists, and the position that
the last call of the reader saved. -/
structure LogFile where
  bytes : Option (List UInt8)
  lastPosition : Nat
  deriving DecidableEq, Repr

/-- The log at power-on, on a new file system. -/
def LogFile.empty : LogFile := ⟨none, 0⟩

/-- Print a text to the file, opened with the mode `"a"`. -/
def LogFile.append (text : List UInt8) (f : LogFile) : LogFile :=
  { f with bytes := some (f.bytes.getD [] ++ text) }

/-! ### Writing -/

/-- What `fprintf` prints with the format `"%d %d\n"`. Both arguments are promoted to `int`
and are not negative. -/
def dht11Line (r : UInt8 × UInt8) : List UInt8 :=
  decimal r.1.toNat ++ 32 :: (decimal r.2.toNat ++ [10])

/-- `write_dht11_data`. -/
def writeDht11Data (temp humi : UInt8) (f : LogFile) : LogFile :=
  f.append (dht11Line (temp, humi))

/-- What `fprintf` prints with the format `"%d\n"`. The argument is unsigned, and is printed
as an `int`. -/
def lightLine (value : UInt32) : List UInt8 :=
  decimalInt value.toInt32 ++ [10]

/-- `write_light_data`. -/
def writeLightData (lightValue : UInt32) (f : LogFile) : LogFile :=
  f.append (lightLine lightValue)

/-! ### Reading -/

/-- The buffer after `fgets` put the bytes `got` there. The bytes after the NUL are those
from before. -/
def fgetsBuffer (got line : List UInt8) : List UInt8 :=
  got ++ 0 :: line.drop (got.length + 1)

/-- The loop `while (fgets(line, sizeof(line), fp) && count < limit)`. `body` is one pass:
from the variables of the loop and the buffer to the variables, the buffer and the record
that the pass sends, when it sends one. `count` counts the records sent. The result is the
records sent and the number of bytes taken from the stream. -/
def fgetsLoop {σ ρ : Type} (limit : Nat)
    (body : σ → List UInt8 → Option (σ × List UInt8 × Option ρ)) (s : σ)
    (line : List UInt8) (count : Nat) (stream : List UInt8) : Option (List ρ × Nat) :=
  let got := fgetsLine (lineSize - 1) stream
  if _hend : stream = [] then
    some ([], 0)
  else if limit ≤ count then
    -- `fgets` comes first in the condition, so the stream is already past this line.
    some ([], got.length)
  else
    match body s (fgetsBuffer got line) with
    | none => none
    | some (s, line, r) =>
        (fgetsLoop limit body s line (count + r.toList.length) (stream.drop got.length)).map
          fun rest => (r.toList ++ rest.1, got.length + rest.2)
termination_by stream.length
decreasing_by
  have hgot : 0 < (fgetsLine (lineSize - 1) stream).length :=
    List.length_pos_of_ne_nil (fgetsLine_ne_nil (by decide) _hend)
  have hstream : 0 < stream.length := List.length_pos_of_ne_nil _hend
  rw [List.length_drop]
  omega

/-- One pass of `read_and_send_dht11_data`. The pointers in `dht11data_str` are offsets into
`line`. `slots` holds those before `dht11data_index`, and the slot at the index is null. The
index is not reset between two lines, so the values always come from the slots that the
first line filled. -/
def dht11Pass (slots : List Nat) (line : List UInt8) :
    Option (List Nat × List UInt8 × Option (UInt8 × UInt8)) :=
  let (tokens, line) := strtok 32 false 0 line
  let slots := slots ++ tokens
  -- The null pointer after the tokens needs a slot too.
  if dht11ArraySize * 2 + 1 ≤ slots.length then
    none
  else
    match slots[0]?, slots[1]? with
    | some i, some j =>
        -- The offsets are those of the first line, and the bytes are those of this line.
        let temp := (strtoul (cString (line.drop i))).toUInt8
        let humi := (strtoul (cString (line.drop j))).toUInt8
        some (slots, line, some (temp, humi))
    | _, _ => none

/-- `read_and_send_dht11_data`: the log afterwards, and the readings handed to
`my_send_DHT11data`. -/
def readAndSendDht11Data (line : List UInt8) (f : LogFile) :
    Option (LogFile × List (UInt8 × UInt8)) :=
  match f.bytes with
  | none => some (f, [])
  | some bytes =>
      (fgetsLoop dht11ArraySize dht11Pass [] line 0 (bytes.drop f.lastPosition)).map
        fun (sent, taken) => ({ f with lastPosition := f.lastPosition + taken }, sent)

/-- One pass of `read_and_send_light_data`. A line that is no number is not counted. -/
def lightPass (_ : Unit) (line : List UInt8) : Option (Unit × List UInt8 × Option UInt32) :=
  some ((), line, sscanfD (cString line))

/-- `read_and_send_light_data`: the log afterwards, and the readings handed to
`my_send_Lightdata`. -/
def readAndSendLightData (line : List UInt8) (f : LogFile) :
    Option (LogFile × List UInt32) :=
  match f.bytes with
  | none => some (f, [])
  | some bytes =>
      (fgetsLoop lightArraySize lightPass () line 0 (bytes.drop f.lastPosition)).map
        fun (sent, taken) => ({ f with lastPosition := f.lastPosition + taken }, sent)

/-! ### The two logs as machines -/

/-- The writer and the reader of a log. -/
structure SensorLog (ρ : Type) where
  write : ρ → LogFile → LogFile
  readAndSend : List UInt8 → LogFile → Option (LogFile × List ρ)

/-- The log in `DHT11data.txt`. -/
def dht11Log : SensorLog (UInt8 × UInt8) where
  write r := writeDht11Data r.1 r.2
  readAndSend := readAndSendDht11Data

/-- The log in `Lightdata.txt`. -/
def lightLog : SensorLog UInt32 where
  write := writeLightData
  readAndSend := readAndSendLightData

/-- A log under calls of its writer and its reader. The state is `none` after undefined
behaviour. -/
def SensorLog.machine {ρ : Type} (log : SensorLog ρ) :
    Machine (Option LogFile) (PagerEvent ρ (List UInt8)) ρ where
  step f
    | .write r => f.map (log.write r)
    | .load line => (f.bind (log.readAndSend line)).map Prod.fst
  out f
    | .write _ => []
    | .load line => ((f.bind (log.readAndSend line)).map Prod.snd).getD []

end SmartBuilding
