import SmartBuilding.Ringbuffer
import Mathlib.Logic.Function.Basic

/-!
# `SmartBuilding.Pipe`: the pipe device, and the threads that use it

`pipe_fops_read` and `pipe_fops_write` of `pipe.c`, for a pipe that both ends keep open and
that blocks. A thread that writes more than there is space for puts what fits, releases the
lock and waits, and then goes on with the rest. So the writes of several threads can lie
between each other. A thread that waits in a call does nothing else.

What happens with the lock taken is one event: one round of the loop of `pipe_fops_write`, or
the round of `pipe_fops_read` that has data. The threads are the values of any type `T`, and
`rtPipe` is the machine of all of them in any order. Its records say which bytes went where.
-/

set_option autoImplicit false

namespace SmartBuilding

/-- A pipe. `pbuf` is what each thread has still to write in its call of `pipe_fops_write`,
and nothing for a thread that is not in such a call. -/
structure RtPipe (T : Type) where
  fifo : Ringbuffer
  pbuf : T → List UInt8

/-- What a thread does to the pipe. -/
inductive PipeEvent (T : Type) where
  /-- The thread calls `pipe_fops_write`. -/
  | write (t : T) (buf : List UInt8)
  /-- One round of the loop of `pipe_fops_write`. -/
  | put (t : T)
  /-- The thread calls `pipe_fops_read`, or gets on with it. -/
  | read (t : T) (count : Nat)

/-- What is seen of it. `taken` has the number of bytes that were in the pipe before. -/
inductive PipeRecord (T : Type) where
  | called (t : T) (buf : List UInt8)
  | taken (t : T) (chunk : List UInt8) (waiting : Nat)
  | given (t : T) (data : List UInt8)

/-- The values of `rt_uint16_t`, the type of the lengths in `ringbuffer.c`. -/
def uint16Size : Nat := 65536

namespace RtPipe

variable {T : Type}

/-- A new pipe, with `size` bytes at `pool`. -/
def create (T : Type) (pool : List UInt8) (size : Nat) : RtPipe T where
  fifo := rtRingbufferInit pool size
  pbuf _ := []

/-- `rt_ringbuffer_put` with the rest of a thread's bytes. -/
def putRest (p : RtPipe T) (t : T) : Ringbuffer × Nat :=
  p.fifo.put ((p.pbuf t).take ((p.pbuf t).length % uint16Size))

/-- `rt_ringbuffer_get` with a thread's count. -/
def getCount (p : RtPipe T) (count : Nat) : Ringbuffer × List UInt8 :=
  p.fifo.get (count % uint16Size)

variable [DecidableEq T]

/-- The pipe after an event. -/
def step (p : RtPipe T) : PipeEvent T → RtPipe T
  | .write t buf =>
      if p.pbuf t = [] then { p with pbuf := Function.update p.pbuf t buf } else p
  | .put t =>
      if p.pbuf t = [] then p
      else
        { fifo := (p.putRest t).1
          pbuf := Function.update p.pbuf t ((p.pbuf t).drop (p.putRest t).2) }
  | .read t count =>
      if p.pbuf t = [] then { p with fifo := (p.getCount count).1 } else p

/-- The records of an event. -/
def out (p : RtPipe T) : PipeEvent T → List (PipeRecord T)
  | .write t buf => if p.pbuf t = [] then [.called t buf] else []
  | .put t =>
      if p.pbuf t = [] then []
      else [.taken t ((p.pbuf t).take (p.putRest t).2) p.fifo.contents.length]
  | .read t count =>
      if p.pbuf t = [] ∧ (p.getCount count).2 ≠ [] then [.given t (p.getCount count).2] else []

end RtPipe

/-- The pipe as a machine of all threads. -/
def rtPipe (T : Type) [DecidableEq T] : Machine (RtPipe T) (PipeEvent T) (PipeRecord T) where
  step := RtPipe.step
  out := RtPipe.out

/-! ### What a log says -/

namespace PipeRecord

variable {T : Type}

/-- The bytes that went into the pipe. -/
def takenBytes : PipeRecord T → List UInt8
  | taken _ chunk _ => chunk
  | _ => []

/-- The bytes that came out of the pipe. -/
def givenBytes : PipeRecord T → List UInt8
  | given _ data => data
  | _ => []

variable [DecidableEq T]

/-- The bytes that a thread was to write. -/
def calledBy (t : T) : PipeRecord T → List UInt8
  | called t' buf => if t' = t then buf else []
  | _ => []

/-- The bytes of a thread that went into the pipe. -/
def takenFrom (t : T) : PipeRecord T → List UInt8
  | taken t' chunk _ => if t' = t then chunk else []
  | _ => []

end PipeRecord

/-- Only the thread `w` reads. -/
def PipeEvent.OnlyReader {T : Type} (w : T) : PipeEvent T → Prop
  | .read t _ => t = w
  | _ => True

end SmartBuilding
