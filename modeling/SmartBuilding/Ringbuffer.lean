import SmartBuilding.Lib.EventMachine
import SmartBuilding.Lib.Ring

/-!
# `SmartBuilding.Ringbuffer`: the ring buffer of the device drivers

`ringbuffer.c`. The buffer has an index to read at and an index to write at, and each index
has a mirror bit, which flips when the index goes over the end. Equal indices with equal
mirror bits are an empty buffer, and with unequal bits a full one.

`ptr` and `length` of a function that puts data are one list here, and the data that a
function gets is its second result. `length` is 16 bits wide, so a list of a caller has less
than `65536` bytes. The result of `rt_ringbuffer_peak`, a pointer into the buffer and a
length, is the run of bytes there.

`Ringbuffer.Valid` is what `rt_ringbuffer_init` sets up for a pool of at least 4 bytes.
`ringbuffer` is the machine of all calls in any order.
-/

set_option autoImplicit false

namespace SmartBuilding

open Memory Ring

/-- `struct rt_ringbuffer`, with the memory behind `buffer_ptr`. -/
structure Ringbuffer where
  bufferPtr : List UInt8
  readMirror : Bool
  readIndex : Nat
  writeMirror : Bool
  writeIndex : Nat
  bufferSize : Nat
  deriving DecidableEq

/-- `enum rt_ringbuffer_state`. -/
inductive RtRingbufferState where
  | empty
  | full
  | halffull
  deriving DecidableEq, Repr

/-- `RT_ALIGN_SIZE`. -/
def rtAlignSize : Nat := 4

/-- `RT_ALIGN_DOWN`. -/
def rtAlignDown (size align : Nat) : Nat := size - size % align

/-- `rt_ringbuffer_init`. -/
def rtRingbufferInit (pool : List UInt8) (size : Nat) : Ringbuffer where
  bufferPtr := pool
  readMirror := false
  readIndex := 0
  writeMirror := false
  writeIndex := 0
  bufferSize := rtAlignDown size rtAlignSize

namespace Ringbuffer

/-- `rt_ringbuffer_status`. -/
def status (rb : Ringbuffer) : RtRingbufferState :=
  if rb.readIndex = rb.writeIndex then
    if rb.readMirror = rb.writeMirror then .empty else .full
  else .halffull

/-- `rt_ringbuffer_data_len`. -/
def dataLen (rb : Ringbuffer) : Nat :=
  match rb.status with
  | .empty => 0
  | .full => rb.bufferSize
  | .halffull =>
      if rb.writeIndex > rb.readIndex then rb.writeIndex - rb.readIndex
      else rb.bufferSize - (rb.readIndex - rb.writeIndex)

/-- `rt_ringbuffer_space_len`. -/
def spaceLen (rb : Ringbuffer) : Nat := rb.bufferSize - rb.dataLen

/-- The part of `rt_ringbuffer_put` and `rt_ringbuffer_put_force` that writes the data and
moves the write index. -/
def writeOn (rb : Ringbuffer) (data : List UInt8) : Ringbuffer :=
  if rb.bufferSize - rb.writeIndex > data.length then
    { rb with
      bufferPtr := store rb.bufferPtr rb.writeIndex data
      writeIndex := rb.writeIndex + data.length }
  else
    { rb with
      bufferPtr :=
        store (store rb.bufferPtr rb.writeIndex (data.take (rb.bufferSize - rb.writeIndex))) 0
          (data.drop (rb.bufferSize - rb.writeIndex))
      writeMirror := !rb.writeMirror
      writeIndex := data.length - (rb.bufferSize - rb.writeIndex) }

/-- `rt_ringbuffer_put`. -/
def put (rb : Ringbuffer) (ptr : List UInt8) : Ringbuffer × Nat :=
  let size := rb.spaceLen
  if size = 0 then (rb, 0)
  else
    let data := ptr.take (if size < ptr.length then size else ptr.length)
    (rb.writeOn data, data.length)

/-- `rt_ringbuffer_put_force`. -/
def putForce (rb : Ringbuffer) (ptr : List UInt8) : Ringbuffer × Nat :=
  let spaceLength := rb.spaceLen
  let data :=
    if ptr.length > rb.bufferSize then ptr.drop (ptr.length - rb.bufferSize) else ptr
  let rb' := rb.writeOn data
  if rb.bufferSize - rb.writeIndex > data.length then
    (if data.length > spaceLength then { rb' with readIndex := rb'.writeIndex } else rb',
      data.length)
  else
    -- The read mirror flips here whichever side of the mirror the read index is on.
    (if data.length > spaceLength then
        { rb' with readMirror := !rb'.readMirror, readIndex := rb'.writeIndex }
      else rb',
      data.length)

/-- `rt_ringbuffer_get`. -/
def get (rb : Ringbuffer) (length : Nat) : Ringbuffer × List UInt8 :=
  let size := rb.dataLen
  if size = 0 then (rb, [])
  else
    let length := if size < length then size else length
    if rb.bufferSize - rb.readIndex > length then
      ({ rb with readIndex := rb.readIndex + length },
        (rb.bufferPtr.drop rb.readIndex).take length)
    else
      ({ rb with
          readMirror := !rb.readMirror
          readIndex := length - (rb.bufferSize - rb.readIndex) },
        (rb.bufferPtr.drop rb.readIndex).take (rb.bufferSize - rb.readIndex)
          ++ rb.bufferPtr.take (length - (rb.bufferSize - rb.readIndex)))

/-- `rt_ringbuffer_peak`. -/
def peak (rb : Ringbuffer) : Ringbuffer × List UInt8 :=
  let size := rb.dataLen
  if size = 0 then (rb, [])
  else if rb.bufferSize - rb.readIndex > size then
    ({ rb with readIndex := rb.readIndex + size },
      (rb.bufferPtr.drop rb.readIndex).take size)
  else
    let size := rb.bufferSize - rb.readIndex
    ({ rb with readMirror := !rb.readMirror, readIndex := 0 },
      (rb.bufferPtr.drop rb.readIndex).take size)

/-- The part of `rt_ringbuffer_putchar` and `rt_ringbuffer_putchar_force` that writes the
character and moves the write index. -/
def writeChar (rb : Ringbuffer) (ch : UInt8) : Ringbuffer :=
  if rb.writeIndex = rb.bufferSize - 1 then
    { rb with
      bufferPtr := store rb.bufferPtr rb.writeIndex [ch]
      writeMirror := !rb.writeMirror
      writeIndex := 0 }
  else
    { rb with
      bufferPtr := store rb.bufferPtr rb.writeIndex [ch]
      writeIndex := rb.writeIndex + 1 }

/-- `rt_ringbuffer_putchar`. -/
def putchar (rb : Ringbuffer) (ch : UInt8) : Ringbuffer × Nat :=
  if rb.spaceLen = 0 then (rb, 0) else (rb.writeChar ch, 1)

/-- `rt_ringbuffer_putchar_force`. -/
def putcharForce (rb : Ringbuffer) (ch : UInt8) : Ringbuffer × Nat :=
  let oldState := rb.status
  let rb' := rb.writeChar ch
  if rb.writeIndex = rb.bufferSize - 1 then
    (if oldState = .full then
        { rb' with readMirror := !rb'.readMirror, readIndex := rb'.writeIndex }
      else rb', 1)
  else (if oldState = .full then { rb' with readIndex := rb'.writeIndex } else rb', 1)

/-- `rt_ringbuffer_getchar`. -/
def getchar (rb : Ringbuffer) : Ringbuffer × List UInt8 :=
  if rb.dataLen = 0 then (rb, [])
  else
    let ch := (rb.bufferPtr.drop rb.readIndex).take 1
    if rb.readIndex = rb.bufferSize - 1 then
      ({ rb with readMirror := !rb.readMirror, readIndex := 0 }, ch)
    else ({ rb with readIndex := rb.readIndex + 1 }, ch)

/-- `rt_ringbuffer_reset`. -/
def reset (rb : Ringbuffer) : Ringbuffer :=
  { rb with readMirror := false, readIndex := 0, writeMirror := false, writeIndex := 0 }

/-- What every operation keeps: the indices are inside the buffer, and the write index is not
behind the read index on the same side of the mirror, nor past it on the other side. -/
structure Valid (rb : Ringbuffer) : Prop where
  length_bufferPtr : rb.bufferPtr.length = rb.bufferSize
  bufferSize_lt : rb.bufferSize < 32768
  readIndex_lt : rb.readIndex < rb.bufferSize
  writeIndex_lt : rb.writeIndex < rb.bufferSize
  same_side : rb.readMirror = rb.writeMirror → rb.readIndex ≤ rb.writeIndex
  other_side : rb.readMirror ≠ rb.writeMirror → rb.writeIndex ≤ rb.readIndex

/-- The bytes in the buffer, the oldest first. -/
def contents (rb : Ringbuffer) : List UInt8 := held rb.bufferPtr rb.writeIndex rb.dataLen

end Ringbuffer

/-! ### The machine of all calls -/

/-- A call of a function of the ring buffer. -/
inductive RingbufferCall where
  | put (ptr : List UInt8)
  | putForce (ptr : List UInt8)
  | get (length : Nat)
  | peak
  | putchar (ch : UInt8)
  | putcharForce (ch : UInt8)
  | getchar
  | reset
  deriving DecidableEq

/-- What a call returns: the number of bytes that it took, or the bytes that it gave. -/
inductive RingbufferAnswer where
  | taken (length : Nat)
  | given (data : List UInt8)
  deriving DecidableEq

/-- The state after a call, and its answer. -/
def Ringbuffer.call (rb : Ringbuffer) : RingbufferCall → Ringbuffer × Option RingbufferAnswer
  | .put ptr => ((rb.put ptr).1, some (.taken (rb.put ptr).2))
  | .putForce ptr => ((rb.putForce ptr).1, some (.taken (rb.putForce ptr).2))
  | .get length => ((rb.get length).1, some (.given (rb.get length).2))
  | .peak => (rb.peak.1, some (.given rb.peak.2))
  | .putchar ch => ((rb.putchar ch).1, some (.taken (rb.putchar ch).2))
  | .putcharForce ch => ((rb.putcharForce ch).1, some (.taken (rb.putcharForce ch).2))
  | .getchar => (rb.getchar.1, some (.given rb.getchar.2))
  | .reset => (rb.reset, none)

/-- The ring buffer as a machine. The records are the answers. -/
def ringbuffer : Machine Ringbuffer RingbufferCall RingbufferAnswer where
  step rb call := (rb.call call).1
  out rb call := (rb.call call).2.toList

/-- A forced put of more than the space into a buffer with both indices on one side of the
mirror. -/
def Ringbuffer.Lossy (rb : Ringbuffer) : RingbufferCall → Prop
  | .putForce ptr =>
      rb.readMirror = rb.writeMirror ∧ rb.spaceLen < min rb.bufferSize ptr.length
  | _ => False

/-! ### The queue that it is meant to be -/

/-- What a call may do on a queue of at most `n` bytes: `put` takes what fits, a forced call
takes everything and gives up the oldest bytes, and `get` gives the oldest bytes. `peak`
gives some of the oldest bytes, and none only when there are none. -/
def QueueStep (n : Nat) (items : List UInt8) :
    RingbufferCall → Option RingbufferAnswer → List UInt8 → Prop
  | .put ptr, answer, items' =>
      answer = some (.taken (min (n - items.length) ptr.length)) ∧
        items' = Queue.push n items ptr
  | .putForce ptr, answer, items' =>
      answer = some (.taken (min n ptr.length)) ∧ items' = Queue.force n items ptr
  | .get length, answer, items' =>
      answer = some (.given (items.take length)) ∧ items' = items.drop length
  | .peak, answer, items' =>
      ∃ j, (j = 0 ↔ items = []) ∧ answer = some (.given (items.take j)) ∧ items' = items.drop j
  | .putchar ch, answer, items' =>
      answer = some (.taken (min (n - items.length) 1)) ∧ items' = Queue.push n items [ch]
  | .putcharForce ch, answer, items' =>
      answer = some (.taken 1) ∧ items' = Queue.force n items [ch]
  | .getchar, answer, items' =>
      answer = some (.given (items.take 1)) ∧ items' = items.drop 1
  | .reset, answer, items' => answer = none ∧ items' = []

end SmartBuilding
