import SmartBuilding.Pipe
import SmartBuilding.Proofs.Ringbuffer

/-!
# `SmartBuilding.Proofs.Pipe`: nothing is lost in the pipe, and when its reader is stuck

Whatever the threads do, the bytes come out of the pipe in the order in which they went in,
and no thread's bytes are lost, doubled or put out of order (`pipe_conserves`). The order of
the bytes of two threads is the order of their puts.

A thread that is the only reader must not write more than there is space for: it waits for a
reader, which is itself. `reader_stuck_iff` says exactly when it never comes back.
-/

set_option autoImplicit false

namespace SmartBuilding

open Ring

variable {T : Type}

namespace RtPipe

/-- What every event keeps: the ring buffer is valid, and has its size. -/
structure Valid (n : Nat) (p : RtPipe T) : Prop where
  fifo : p.fifo.Valid
  size : p.fifo.bufferSize = n

variable {n : Nat} {p : RtPipe T}

theorem valid_create {pool : List UInt8} {size : Nat} (hsize : size < 32768) (hfour : 4 ≤ size)
    (hpool : pool.length = rtAlignDown size rtAlignSize) :
    (create T pool size).Valid pool.length ∧ (create T pool size).fifo.contents = [] := by
  obtain ⟨hvalid, hempty⟩ := Ringbuffer.valid_init pool size hsize hfour hpool
  exact ⟨⟨hvalid, hpool.symm⟩, hempty⟩

theorem Valid.length_contents (hv : p.Valid n) :
    p.fifo.contents.length + p.fifo.spaceLen = n := by
  rw [hv.fifo.length_contents, Nat.add_comm, hv.fifo.spaceLen_add, hv.size]

/-- A round of a write puts the first bytes of the rest. -/
theorem Valid.putRest (hv : p.Valid n) (t : T) :
    (p.putRest t).1.Valid ∧ (p.putRest t).1.bufferSize = n ∧
      (p.putRest t).1.contents = p.fifo.contents ++ (p.pbuf t).take (p.putRest t).2 ∧
      (p.putRest t).2 = min p.fifo.spaceLen ((p.pbuf t).length % uint16Size) := by
  have hle : (p.pbuf t).length % uint16Size ≤ (p.pbuf t).length := Nat.mod_le _ _
  have hspace : p.fifo.bufferSize - p.fifo.contents.length = p.fifo.spaceLen := by
    have hlen := hv.length_contents
    rw [hv.size]
    omega
  obtain ⟨hvalid, hcontents, hcount⟩ :=
    hv.fifo.put ((p.pbuf t).take ((p.pbuf t).length % uint16Size))
  rw [List.length_take, Nat.min_eq_left hle, hspace] at hcount
  refine ⟨hvalid, (hv.fifo.bufferSize_put _).trans hv.size, ?_, hcount⟩
  show (p.fifo.put _).1.contents = _
  rw [hcontents, Queue.push, hspace, List.take_take]
  exact congrArg (fun k => p.fifo.contents ++ (p.pbuf t).take k) hcount.symm

/-- A read takes the first bytes out. -/
theorem Valid.getCount (hv : p.Valid n) (count : Nat) :
    (p.getCount count).1.Valid ∧ (p.getCount count).1.bufferSize = n ∧
      (p.getCount count).2 ++ (p.getCount count).1.contents = p.fifo.contents := by
  obtain ⟨hvalid, hcontents, hdata⟩ := hv.fifo.get (count % uint16Size)
  refine ⟨hvalid, (p.fifo.bufferSize_get _).trans hv.size, ?_⟩
  show (p.fifo.get _).2 ++ (p.fifo.get _).1.contents = _
  rw [hcontents, hdata, List.take_append_drop]

variable [DecidableEq T]

theorem Valid.step (hv : p.Valid n) (e : PipeEvent T) : (p.step e).Valid n := by
  cases e with
  | write t buf =>
    rw [RtPipe.step]
    split
    case isTrue h => exact ⟨hv.fifo, hv.size⟩
    case isFalse h => exact hv
  | put t =>
    rw [RtPipe.step]
    obtain ⟨hvalid, hsize, -, -⟩ := hv.putRest t
    split
    case isTrue h => exact hv
    case isFalse h => exact ⟨hvalid, hsize⟩
  | read t count =>
    rw [RtPipe.step]
    obtain ⟨hvalid, hsize, -⟩ := hv.getCount count
    split
    case isTrue h => exact ⟨hvalid, hsize⟩
    case isFalse h => exact hv

/-! ### Conservation -/

/-- One event: what comes out and what is left are what was there and what goes in. -/
theorem Valid.step_contents (hv : p.Valid n) (e : PipeEvent T) :
    (p.out e).flatMap PipeRecord.givenBytes ++ (p.step e).fifo.contents =
      p.fifo.contents ++ (p.out e).flatMap PipeRecord.takenBytes := by
  cases e with
  | write t buf =>
    rw [RtPipe.step, RtPipe.out]
    split
    case isTrue h => show [] ++ p.fifo.contents = p.fifo.contents ++ []; simp
    case isFalse h => show [] ++ p.fifo.contents = p.fifo.contents ++ []; simp
  | put t =>
    obtain ⟨-, -, hcontents, -⟩ := hv.putRest t
    rw [RtPipe.step, RtPipe.out]
    split
    case isTrue h => show [] ++ p.fifo.contents = p.fifo.contents ++ []; simp
    case isFalse h =>
      show [] ++ (p.putRest t).1.contents = _ ++ ((p.pbuf t).take (p.putRest t).2 ++ [])
      rw [hcontents, List.nil_append, List.append_nil]
  | read t count =>
    obtain ⟨-, -, hcontents⟩ := hv.getCount count
    rw [RtPipe.step, RtPipe.out]
    by_cases hidle : p.pbuf t = []
    · rw [if_pos hidle]
      by_cases hdata : (p.getCount count).2 = []
      · rw [if_neg fun h => h.2 hdata]
        rw [hdata, List.nil_append] at hcontents
        show [] ++ (p.getCount count).1.contents = p.fifo.contents ++ []
        rw [hcontents, List.nil_append, List.append_nil]
      · rw [if_pos ⟨hidle, hdata⟩]
        show ((p.getCount count).2 ++ []) ++ (p.getCount count).1.contents = _ ++ []
        rw [List.append_nil, List.append_nil, hcontents]
    · rw [if_neg hidle, if_neg fun h => hidle h.1]
      show [] ++ p.fifo.contents = p.fifo.contents ++ []
      simp

/-- One event: what a thread was to write is what went in and the rest. -/
theorem step_pbuf (p : RtPipe T) (e : PipeEvent T) (t : T) :
    p.pbuf t ++ (p.out e).flatMap (PipeRecord.calledBy t) =
      (p.out e).flatMap (PipeRecord.takenFrom t) ++ (p.step e).pbuf t := by
  cases e with
  | write t' buf =>
    rw [RtPipe.step, RtPipe.out]
    by_cases hidle : p.pbuf t' = []
    · rw [if_pos hidle, if_pos hidle]
      show p.pbuf t ++ ((if t' = t then buf else []) ++ []) =
        [] ++ Function.update p.pbuf t' buf t
      rw [List.append_nil, List.nil_append, Function.update_apply]
      by_cases ht : t' = t
      · rw [if_pos ht, if_pos ht.symm, ← ht, hidle, List.nil_append]
      · rw [if_neg ht, if_neg fun h => ht h.symm, List.append_nil]
    · rw [if_neg hidle, if_neg hidle]
      show p.pbuf t ++ [] = [] ++ p.pbuf t
      simp
  | put t' =>
    rw [RtPipe.step, RtPipe.out]
    by_cases hidle : p.pbuf t' = []
    · rw [if_pos hidle, if_pos hidle]
      show p.pbuf t ++ [] = [] ++ p.pbuf t
      simp
    · rw [if_neg hidle, if_neg hidle]
      show p.pbuf t ++ [] = ((if t' = t then (p.pbuf t').take (p.putRest t').2 else []) ++ [])
        ++ Function.update p.pbuf t' ((p.pbuf t').drop (p.putRest t').2) t
      rw [List.append_nil, List.append_nil, Function.update_apply]
      by_cases ht : t' = t
      · rw [if_pos ht, if_pos ht.symm, List.take_append_drop, ht]
      · rw [if_neg ht, if_neg fun h => ht h.symm, List.nil_append]
  | read t' count =>
    have hpbuf : (p.step (.read t' count)).pbuf = p.pbuf := by
      rw [RtPipe.step]
      split <;> rfl
    rw [hpbuf, RtPipe.out]
    split
    case isTrue h => show p.pbuf t ++ [] = [] ++ p.pbuf t; simp
    case isFalse h => show p.pbuf t ++ [] = [] ++ p.pbuf t; simp

/-- A run from any valid pipe. -/
theorem Valid.run_conserves : ∀ (es : List (PipeEvent T)) (p : RtPipe T), p.Valid n →
    (((rtPipe T).log p es).flatMap PipeRecord.givenBytes ++
        ((rtPipe T).run p es).fifo.contents =
      p.fifo.contents ++ ((rtPipe T).log p es).flatMap PipeRecord.takenBytes) ∧
    ∀ t, p.pbuf t ++ ((rtPipe T).log p es).flatMap (PipeRecord.calledBy t) =
      ((rtPipe T).log p es).flatMap (PipeRecord.takenFrom t) ++ ((rtPipe T).run p es).pbuf t := by
  intro es
  induction es with
  | nil =>
    intro p _
    exact ⟨by simp, by simp⟩
  | cons e es ih =>
    intro p hv
    obtain ⟨hcontents, hpbuf⟩ := ih _ (hv.step e)
    have hc := hv.step_contents e
    rw [Machine.log_cons, Machine.run_cons]
    constructor
    · rw [List.flatMap_append, List.flatMap_append, List.append_assoc]
      calc (p.out e).flatMap PipeRecord.givenBytes ++
          (((rtPipe T).log (p.step e) es).flatMap PipeRecord.givenBytes ++
            ((rtPipe T).run (p.step e) es).fifo.contents)
          = (p.out e).flatMap PipeRecord.givenBytes ++ ((p.step e).fifo.contents ++
            ((rtPipe T).log (p.step e) es).flatMap PipeRecord.takenBytes) :=
            congrArg _ hcontents
        _ = p.fifo.contents ++ (p.out e).flatMap PipeRecord.takenBytes ++
            ((rtPipe T).log (p.step e) es).flatMap PipeRecord.takenBytes := by
            rw [← List.append_assoc, hc]
        _ = p.fifo.contents ++ ((p.out e).flatMap PipeRecord.takenBytes ++
            ((rtPipe T).log (p.step e) es).flatMap PipeRecord.takenBytes) :=
            List.append_assoc _ _ _
    · intro t
      have hp := p.step_pbuf e t
      rw [List.flatMap_append, List.flatMap_append, List.append_assoc]
      calc p.pbuf t ++ ((p.out e).flatMap (PipeRecord.calledBy t) ++
          ((rtPipe T).log (p.step e) es).flatMap (PipeRecord.calledBy t))
          = (p.out e).flatMap (PipeRecord.takenFrom t) ++ ((p.step e).pbuf t ++
            ((rtPipe T).log (p.step e) es).flatMap (PipeRecord.calledBy t)) := by
            rw [← List.append_assoc, hp, List.append_assoc]
        _ = (p.out e).flatMap (PipeRecord.takenFrom t) ++
            (((rtPipe T).log (p.step e) es).flatMap (PipeRecord.takenFrom t) ++
              ((rtPipe T).run (p.step e) es).pbuf t) := congrArg _ (hpbuf t)

end RtPipe

variable [DecidableEq T]

/-- In every run of any threads on a new pipe: the bytes that came out and those that are in
the pipe are the bytes that went in, in this order, and what each thread was to write is what
went in of it and what it has still to write, in this order. -/
theorem pipe_conserves (pool : List UInt8) (size : Nat) (es : List (PipeEvent T))
    (hsize : size < 32768) (hfour : 4 ≤ size)
    (hpool : pool.length = rtAlignDown size rtAlignSize) :
    let log := (rtPipe T).log (RtPipe.create T pool size) es
    let p := (rtPipe T).run (RtPipe.create T pool size) es
    log.flatMap PipeRecord.givenBytes ++ p.fifo.contents = log.flatMap PipeRecord.takenBytes ∧
      ∀ t, log.flatMap (PipeRecord.calledBy t) =
        log.flatMap (PipeRecord.takenFrom t) ++ p.pbuf t := by
  intro log p
  obtain ⟨hvalid, hempty⟩ := RtPipe.valid_create (T := T) hsize hfour hpool
  obtain ⟨hcontents, hpbuf⟩ := RtPipe.Valid.run_conserves es _ hvalid
  rw [hempty, List.nil_append] at hcontents
  exact ⟨hcontents, hpbuf⟩

/-- A pipe of 8 bytes and two threads: the second thread's bytes lie between those of the
first. -/
theorem pipe_conserves_two :
    let es : List (PipeEvent Bool) := [.write true [1, 2, 3, 4, 5, 6, 7, 8, 9], .put true,
      .write false [10], .read false 4, .put false, .put true]
    let log := (rtPipe Bool).log (RtPipe.create Bool (List.replicate 8 0) 8) es
    let p := (rtPipe Bool).run (RtPipe.create Bool (List.replicate 8 0) 8) es
    log.flatMap PipeRecord.givenBytes ++ p.fifo.contents = log.flatMap PipeRecord.takenBytes ∧
      ∀ t, log.flatMap (PipeRecord.calledBy t) =
        log.flatMap (PipeRecord.takenFrom t) ++ p.pbuf t :=
  pipe_conserves (List.replicate 8 0) 8 _ (by decide) (by decide) (by decide)

/-! ### A reader that writes -/

namespace RtPipe

/-- The thread has more to write than there is space for. -/
def Stuck (w : T) (p : RtPipe T) : Prop := p.fifo.spaceLen < (p.pbuf w).length

variable {n : Nat} {p : RtPipe T} {w : T}

omit [DecidableEq T] in
/-- A thread that has more to write than there is space for is writing. -/
theorem Stuck.pbuf_ne_nil (h : p.Stuck w) : p.pbuf w ≠ [] := by
  intro hnil
  rw [Stuck, hnil] at h
  exact Nat.not_lt_zero _ h

omit [DecidableEq T] in
/-- A round of any thread takes as much of the space as of its rest. -/
theorem Valid.putRest_space (hv : p.Valid n) (t : T) :
    (p.putRest t).1.spaceLen + (p.putRest t).2 = p.fifo.spaceLen ∧
      (p.putRest t).2 ≤ (p.pbuf t).length := by
  obtain ⟨hvalid, hsize, hcontents, hcount⟩ := hv.putRest t
  have hle : (p.pbuf t).length % uint16Size ≤ (p.pbuf t).length := Nat.mod_le _ _
  have hlen := congrArg List.length hcontents
  rw [List.length_append, List.length_take, hvalid.length_contents] at hlen
  have hspace := hvalid.spaceLen_add
  have hspace' := hv.length_contents
  omega

/-- Without a reader, a thread that is stuck stays stuck, and nothing comes out. -/
theorem Stuck.step (hv : p.Valid n) (h : p.Stuck w) {e : PipeEvent T} (he : e.OnlyReader w) :
    (p.step e).Stuck w ∧ (p.out e).flatMap PipeRecord.givenBytes = [] := by
  have hbusy := h.pbuf_ne_nil
  cases e with
  | write t buf =>
    rw [RtPipe.step, RtPipe.out]
    by_cases hidle : p.pbuf t = []
    · -- The thread is another one.
      have ht : w ≠ t := fun heq => hbusy (by rw [heq]; exact hidle)
      rw [if_pos hidle, if_pos hidle]
      refine ⟨?_, rfl⟩
      show p.fifo.spaceLen < (Function.update p.pbuf t buf w).length
      rw [Function.update_of_ne ht]
      exact h
    · rw [if_neg hidle, if_neg hidle]
      exact ⟨h, rfl⟩
  | put t =>
    obtain ⟨hspace, hle⟩ := hv.putRest_space t
    rw [RtPipe.step, RtPipe.out]
    by_cases hidle : p.pbuf t = []
    · rw [if_pos hidle, if_pos hidle]
      exact ⟨h, rfl⟩
    rw [if_neg hidle, if_neg hidle]
    refine ⟨?_, rfl⟩
    show (p.putRest t).1.spaceLen < (Function.update p.pbuf t _ w).length
    rw [Stuck] at h
    by_cases ht : w = t
    · subst ht
      rw [Function.update_self, List.length_drop]
      omega
    · rw [Function.update_of_ne ht]
      omega
  | read t count =>
    have ht : t = w := he
    rw [RtPipe.step, RtPipe.out, ht, if_neg hbusy, if_neg fun hr => hbusy hr.1]
    exact ⟨h, rfl⟩

theorem Stuck.run : ∀ (more : List (PipeEvent T)) (p : RtPipe T), p.Valid n → p.Stuck w →
    (∀ e ∈ more, e.OnlyReader w) → ((rtPipe T).run p more).Stuck w ∧
      ((rtPipe T).log p more).flatMap PipeRecord.givenBytes = [] := by
  intro more
  induction more with
  | nil =>
    intro p _ h _
    exact ⟨h, rfl⟩
  | cons e more ih =>
    intro p hv h hreader
    obtain ⟨hstuck, hout⟩ := h.step hv (hreader e List.mem_cons_self)
    obtain ⟨hrun, hlog⟩ :=
      ih _ (hv.step e) hstuck fun e' he' => hreader e' (List.mem_cons_of_mem _ he')
    refine ⟨hrun, ?_⟩
    rw [Machine.log_cons, List.flatMap_append]
    exact List.append_eq_nil_iff.mpr ⟨hout, hlog⟩

/-- One round ends the call of a thread that finds room for all of its rest. -/
theorem Valid.put_ends (hv : p.Valid n) (h : ¬ p.Stuck w) :
    (p.step (.put w)).pbuf w = [] := by
  have hlt : n < uint16Size := by
    have hlt := hv.fifo.bufferSize_lt
    rw [hv.size] at hlt
    exact Nat.lt_trans hlt (by decide)
  have hfit : (p.pbuf w).length ≤ p.fifo.spaceLen := Nat.not_lt.mp h
  have hlen := hv.length_contents
  have hmod : (p.pbuf w).length % uint16Size = (p.pbuf w).length := Nat.mod_eq_of_lt (by omega)
  obtain ⟨-, -, -, hcount⟩ := hv.putRest w
  rw [RtPipe.step]
  by_cases hidle : p.pbuf w = []
  · rw [if_pos hidle]
    exact hidle
  · rw [if_neg hidle]
    show Function.update p.pbuf w _ w = []
    rw [Function.update_self, hcount, hmod, Nat.min_eq_right hfit, List.drop_length]

end RtPipe

/-- After any run on a new pipe, the only reader never comes back from its own write, whatever
the threads do, exactly when it has more to write than there is space for. Then nothing comes
out of the pipe any more. -/
theorem reader_stuck_iff (pool : List UInt8) (size : Nat) (es : List (PipeEvent T)) (w : T)
    (hsize : size < 32768) (hfour : 4 ≤ size)
    (hpool : pool.length = rtAlignDown size rtAlignSize) :
    let p := (rtPipe T).run (RtPipe.create T pool size) es
    ((∀ more : List (PipeEvent T), (∀ e ∈ more, e.OnlyReader w) →
        ((rtPipe T).run p more).pbuf w ≠ []) ↔
      pool.length < p.fifo.contents.length + (p.pbuf w).length) ∧
    (pool.length < p.fifo.contents.length + (p.pbuf w).length →
      ∀ more : List (PipeEvent T), (∀ e ∈ more, e.OnlyReader w) →
        ((rtPipe T).log p more).flatMap PipeRecord.givenBytes = []) := by
  intro p
  have hvalid : p.Valid pool.length :=
    (rtPipe T).run_invariant _ (fun _ e hv => hv.step e) es _
      (RtPipe.valid_create hsize hfour hpool).1
  have hlen := hvalid.length_contents
  have hcond : pool.length < p.fifo.contents.length + (p.pbuf w).length ↔ p.Stuck w := by
    rw [RtPipe.Stuck]
    omega
  rw [hcond]
  refine ⟨⟨fun h => ?_, fun h more hmore => ?_⟩, fun h more hmore => ?_⟩
  · by_contra hfree
    exact h [.put w] (by simp [PipeEvent.OnlyReader]) (hvalid.put_ends hfree)
  · exact (RtPipe.Stuck.run more p hvalid h hmore).1.pbuf_ne_nil
  · exact (RtPipe.Stuck.run more p hvalid h hmore).2

/-- In a pipe of 8 bytes, a reader that writes 9 bytes is stuck, although the pipe is empty. -/
theorem reader_stuck_nine :
    let p := (rtPipe Bool).run (RtPipe.create Bool (List.replicate 8 0) 8)
      [.write true [1, 2, 3, 4, 5, 6, 7, 8, 9]]
    ∀ more : List (PipeEvent Bool), (∀ e ∈ more, e.OnlyReader true) →
      ((rtPipe Bool).run p more).pbuf true ≠ [] :=
  (reader_stuck_iff (List.replicate 8 0) 8 [.write true [1, 2, 3, 4, 5, 6, 7, 8, 9]] true
    (by decide) (by decide) (by decide)).1.mpr (by decide)

end SmartBuilding
