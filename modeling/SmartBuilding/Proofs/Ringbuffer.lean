import SmartBuilding.Ringbuffer

/-!
# `SmartBuilding.Proofs.Ringbuffer`: the ring buffer is a bounded queue
-/

set_option autoImplicit false

namespace SmartBuilding

open Memory Ring

namespace Ringbuffer

variable {rb : Ringbuffer}

/-! ### The indices and the number of bytes that wait -/

/-- The indices of a buffer in which `k` bytes wait. -/
def Waiting (rb : Ringbuffer) (k : Nat) : Prop :=
  k ≤ rb.bufferSize ∧
    if rb.readMirror = rb.writeMirror then rb.readIndex + k = rb.writeIndex
    else rb.readIndex + k = rb.writeIndex + rb.bufferSize

/-- The number of bytes that wait is the one that `rt_ringbuffer_data_len` computes. -/
theorem Valid.waiting (hv : rb.Valid) : rb.Waiting rb.dataLen := by
  have hr := hv.readIndex_lt
  have hw := hv.writeIndex_lt
  rw [Waiting, dataLen, status]
  by_cases hm : rb.readMirror = rb.writeMirror
  · have hle := hv.same_side hm
    rw [if_pos hm, if_pos hm]
    by_cases hi : rb.readIndex = rb.writeIndex
    · rw [if_pos hi]
      exact ⟨Nat.zero_le _, hi⟩
    · rw [if_neg hi]
      show (if rb.writeIndex > rb.readIndex then _ else _) ≤ _ ∧ _ + (if _ then _ else _) = _
      rw [if_pos (by omega)]
      omega
  · have hle := hv.other_side hm
    rw [if_neg hm, if_neg hm]
    by_cases hi : rb.readIndex = rb.writeIndex
    · rw [if_pos hi]
      exact ⟨Nat.le_refl _, by rw [hi]⟩
    · rw [if_neg hi]
      show (if rb.writeIndex > rb.readIndex then _ else _) ≤ _ ∧ _ + (if _ then _ else _) = _
      rw [if_neg (by omega)]
      omega

/-- Indices in which `k` bytes wait are valid. -/
theorem Waiting.valid {k : Nat} (h : rb.Waiting k)
    (hlen : rb.bufferPtr.length = rb.bufferSize) (hsize : rb.bufferSize < 32768)
    (hr : rb.readIndex < rb.bufferSize) (hw : rb.writeIndex < rb.bufferSize) : rb.Valid where
  length_bufferPtr := hlen
  bufferSize_lt := hsize
  readIndex_lt := hr
  writeIndex_lt := hw
  same_side hm := by
    have heq := h.2
    rw [if_pos hm] at heq
    omega
  other_side hm := by
    have hle := h.1
    have heq := h.2
    rw [if_neg hm] at heq
    omega

/-- At most one number of bytes waits at given indices. -/
theorem Waiting.unique {j k : Nat} (hj : rb.Waiting j) (hk : rb.Waiting k) : j = k := by
  have hj := hj.2
  have hk := hk.2
  split at hj
  case isTrue hm => rw [if_pos hm] at hk; omega
  case isFalse hm => rw [if_neg hm] at hk; omega

theorem Valid.dataLen_le (hv : rb.Valid) : rb.dataLen ≤ rb.bufferSize := hv.waiting.1

theorem Valid.spaceLen_add (hv : rb.Valid) : rb.spaceLen + rb.dataLen = rb.bufferSize := by
  have hle := hv.dataLen_le
  rw [spaceLen]
  omega

/-- The bytes that wait are those from the read index on. -/
theorem Valid.contents_eq_window (hv : rb.Valid) :
    rb.contents = window rb.bufferPtr rb.readIndex rb.dataLen := by
  have hw := hv.waiting.2
  have hlen := hv.length_bufferPtr
  apply held_eq_window _ (by rw [hlen]; exact hv.writeIndex_lt)
  rw [hlen]
  split at hw
  case isTrue hm => exact Or.inl hw
  case isFalse hm => exact Or.inr hw

theorem Valid.length_contents (hv : rb.Valid) : rb.contents.length = rb.dataLen := by
  have hlen := hv.length_bufferPtr
  exact length_held _ (by rw [hlen]; exact hv.writeIndex_lt) (by rw [hlen]; exact hv.dataLen_le)

/-- An empty buffer has no bytes. -/
theorem Valid.contents_eq_nil (hv : rb.Valid) : rb.contents = [] ↔ rb.dataLen = 0 := by
  rw [← List.length_eq_zero_iff, hv.length_contents]

/-! ### Reading -/

/-- The read index moved over `j` of the bytes that wait. The mirror bit flips when the
index meets the end. -/
def readOn (rb : Ringbuffer) (j : Nat) : Ringbuffer :=
  { rb with
    readMirror := if rb.bufferSize - rb.readIndex > j then rb.readMirror else !rb.readMirror
    readIndex := advance rb.bufferSize rb.readIndex j }

theorem Valid.readOn_waiting (hv : rb.Valid) {j : Nat} (hj : j ≤ rb.dataLen) :
    (rb.readOn j).Waiting (rb.dataLen - j) := by
  have hr := hv.readIndex_lt
  have hw := hv.writeIndex_lt
  have hk := hv.waiting
  obtain ⟨hle, hk⟩ := hk
  refine ⟨Nat.le_trans (Nat.sub_le _ _) hle, ?_⟩
  show if (if _ then rb.readMirror else !rb.readMirror) = rb.writeMirror
    then advance rb.bufferSize rb.readIndex j + _ = rb.writeIndex
    else advance rb.bufferSize rb.readIndex j + _ = rb.writeIndex + rb.bufferSize
  rw [advance]
  by_cases hcross : rb.bufferSize - rb.readIndex > j
  · rw [if_pos hcross, if_pos hcross]
    split at hk
    case isTrue hm => rw [if_pos hm]; omega
    case isFalse hm => rw [if_neg hm]; omega
  · rw [if_neg hcross, if_neg hcross]
    split at hk
    -- On the same side the bytes that wait end before the end of the buffer.
    case isTrue hm => omega
    case isFalse hm =>
      have hflip : (!rb.readMirror) = rb.writeMirror := by
        cases h1 : rb.readMirror <;> cases h2 : rb.writeMirror <;> simp_all
      rw [if_pos hflip]
      omega

theorem Valid.readOn (hv : rb.Valid) {j : Nat} (hj : j ≤ rb.dataLen) :
    (rb.readOn j).Valid ∧ (rb.readOn j).dataLen = rb.dataLen - j := by
  have hwait := hv.readOn_waiting hj
  have hvalid : (rb.readOn j).Valid :=
    hwait.valid hv.length_bufferPtr hv.bufferSize_lt
      (advance_lt hv.readIndex_lt (Nat.le_trans hj hv.dataLen_le)) hv.writeIndex_lt
  exact ⟨hvalid, hvalid.waiting.unique hwait⟩

/-- Moving the read index over `j` bytes takes them off the front. -/
theorem Valid.contents_readOn (hv : rb.Valid) {j : Nat} (hj : j ≤ rb.dataLen) :
    (rb.readOn j).contents = rb.contents.drop j := by
  have hlen := hv.length_bufferPtr
  rw [contents, (hv.readOn hj).2, contents, held_drop _ (by rw [hlen]; exact hv.writeIndex_lt)
    (by rw [hlen]; exact hv.dataLen_le) hj]
  rfl

/-- The first `j` bytes that wait, from a straight read. -/
theorem Valid.take_of_straight (hv : rb.Valid) {j : Nat} (hj : j ≤ rb.dataLen)
    (h : rb.readIndex + j ≤ rb.bufferSize) :
    (rb.bufferPtr.drop rb.readIndex).take j = rb.contents.take j := by
  rw [hv.contents_eq_window, window_take _ _ hj, window_of_le]
  rw [hv.length_bufferPtr]
  exact h

/-- `rt_ringbuffer_get`: the oldest bytes, at most `length` of them. -/
theorem Valid.get (hv : rb.Valid) (length : Nat) :
    (rb.get length).1.Valid ∧ (rb.get length).1.contents = rb.contents.drop length ∧
      (rb.get length).2 = rb.contents.take length := by
  by_cases hzero : rb.dataLen = 0
  · have hnil := hv.contents_eq_nil.mpr hzero
    rw [Ringbuffer.get, if_pos hzero]
    exact ⟨hv, by rw [hnil, List.drop_nil], by rw [hnil, List.take_nil]⟩
  -- The number of bytes that the call gives.
  generalize hj : (if rb.dataLen < length then rb.dataLen else length) = j
  have hjle : j ≤ rb.dataLen := by split at hj <;> omega
  have hdrop : rb.contents.drop length = rb.contents.drop j := by
    split at hj
    case isTrue h =>
      rw [List.drop_eq_nil_of_le (by rw [hv.length_contents]; omega),
        List.drop_eq_nil_of_le (by rw [hv.length_contents]; omega)]
    case isFalse h => rw [hj]
  have htake : rb.contents.take length = rb.contents.take j := by
    split at hj
    case isTrue h =>
      rw [List.take_of_length_le (by rw [hv.length_contents]; omega),
        List.take_of_length_le (by rw [hv.length_contents]; omega)]
    case isFalse h => rw [hj]
  have hget : rb.get length = (rb.readOn j, rb.contents.take j) := by
    rw [Ringbuffer.get, if_neg hzero]
    show (if rb.bufferSize - rb.readIndex > (if rb.dataLen < length then _ else _) then _ else _)
      = _
    rw [hj]
    by_cases hcross : rb.bufferSize - rb.readIndex > j
    · rw [if_pos hcross, hv.take_of_straight hjle (by omega), Ringbuffer.readOn, if_pos hcross,
        advance, if_pos hcross]
    · rw [if_neg hcross, Ringbuffer.readOn, if_neg hcross, advance, if_neg hcross,
        hv.contents_eq_window, window_take _ _ hjle, window_of_ge _
          (by rw [hv.length_bufferPtr]; exact Nat.le_of_lt hv.readIndex_lt)
          (by rw [hv.length_bufferPtr]; omega),
        List.take_of_length_le (by rw [List.length_drop, hv.length_bufferPtr]),
        hv.length_bufferPtr]
  rw [hget, hdrop, htake]
  exact ⟨(hv.readOn hjle).1, hv.contents_readOn hjle, rfl⟩

theorem bufferSize_get (rb : Ringbuffer) (length : Nat) :
    (rb.get length).1.bufferSize = rb.bufferSize := by
  rw [Ringbuffer.get]
  dsimp only
  split
  case isTrue h => rfl
  case isFalse h => split <;> split <;> rfl

/-- `rt_ringbuffer_getchar` is `rt_ringbuffer_get` of one byte. -/
theorem Valid.getchar_eq (hv : rb.Valid) : rb.getchar = rb.get 1 := by
  have hr := hv.readIndex_lt
  rw [Ringbuffer.getchar, Ringbuffer.get]
  by_cases hzero : rb.dataLen = 0
  · rw [if_pos hzero, if_pos hzero]
  rw [if_neg hzero, if_neg hzero]
  show _ = if rb.bufferSize - rb.readIndex > (if rb.dataLen < 1 then rb.dataLen else 1)
    then _ else _
  rw [if_neg (show ¬ rb.dataLen < 1 by omega)]
  by_cases hlast : rb.readIndex = rb.bufferSize - 1
  · have hone : rb.bufferSize - rb.readIndex = 1 := by omega
    rw [if_pos hlast, if_neg (by omega), hone, Nat.sub_self, List.take_zero, List.append_nil]
  · rw [if_neg hlast, if_pos (by omega)]

/-- `rt_ringbuffer_peak` is `rt_ringbuffer_get` of the bytes that wait before the end. -/
theorem Valid.peak_eq (hv : rb.Valid) :
    rb.peak = rb.get (min rb.dataLen (rb.bufferSize - rb.readIndex)) := by
  have hr := hv.readIndex_lt
  rw [Ringbuffer.peak, Ringbuffer.get]
  by_cases hzero : rb.dataLen = 0
  · rw [if_pos hzero, if_pos hzero]
  rw [if_neg hzero, if_neg hzero]
  show _ = if rb.bufferSize - rb.readIndex >
    (if rb.dataLen < min _ _ then rb.dataLen else min _ _) then _ else _
  rw [if_neg (show ¬ rb.dataLen < min _ _ by omega)]
  by_cases hcross : rb.bufferSize - rb.readIndex > rb.dataLen
  · rw [Nat.min_eq_left (by omega), if_pos hcross, if_pos hcross]
  · rw [Nat.min_eq_right (by omega), if_neg hcross, if_neg (by omega), Nat.sub_self,
      List.take_zero, List.append_nil]

/-! ### Writing -/

/-- The parts of the write that both kinds of `put` share. -/
theorem Valid.writeOn_eq (hv : rb.Valid) (data : List UInt8) :
    rb.writeOn data =
      { rb with
        bufferPtr := cyclicStore rb.bufferPtr rb.writeIndex data
        writeMirror :=
          if rb.bufferSize - rb.writeIndex > data.length then rb.writeMirror
          else !rb.writeMirror
        writeIndex := advance rb.bufferSize rb.writeIndex data.length } := by
  rw [writeOn, cyclicStore, advance, hv.length_bufferPtr]
  split <;> rfl

/-- The character writers write like `rt_ringbuffer_put`. -/
theorem Valid.writeChar_eq (hv : rb.Valid) (ch : UInt8) : rb.writeChar ch = rb.writeOn [ch] := by
  have hw := hv.writeIndex_lt
  rw [writeChar, writeOn, List.length_singleton]
  by_cases hlast : rb.writeIndex = rb.bufferSize - 1
  · have hone : rb.bufferSize - rb.writeIndex = 1 := by omega
    have hlen : (store rb.bufferPtr rb.writeIndex [ch]).length = rb.bufferSize := by
      rw [length_store _ (by rw [List.length_singleton, hv.length_bufferPtr]; omega),
        hv.length_bufferPtr]
    rw [if_pos hlast, if_neg (by omega), hone]
    simp [store]
  · rw [if_neg hlast, if_pos (by omega)]

/-- The write index after a write of data that fits the space. -/
theorem Valid.writeOn_waiting (hv : rb.Valid) {data : List UInt8}
    (hfit : data.length ≤ rb.spaceLen) :
    (rb.writeOn data).Waiting (rb.dataLen + data.length) := by
  have hr := hv.readIndex_lt
  have hw := hv.writeIndex_lt
  have hspace := hv.spaceLen_add
  obtain ⟨hle, hk⟩ := hv.waiting
  rw [hv.writeOn_eq]
  refine ⟨show _ ≤ rb.bufferSize by omega, ?_⟩
  show if rb.readMirror = (if _ then rb.writeMirror else !rb.writeMirror)
    then rb.readIndex + _ = advance rb.bufferSize rb.writeIndex _
    else rb.readIndex + _ = advance rb.bufferSize rb.writeIndex _ + rb.bufferSize
  rw [advance]
  by_cases hcross : rb.bufferSize - rb.writeIndex > data.length
  · rw [if_pos hcross, if_pos hcross]
    split at hk
    case isTrue hm => rw [if_pos hm]; omega
    case isFalse hm => rw [if_neg hm]; omega
  · rw [if_neg hcross, if_neg hcross]
    split at hk
    case isTrue hm =>
      rw [if_neg (by rw [hm]; simp)]
      omega
    -- On the other side the space ends at the read index, before the end of the buffer.
    case isFalse hm => omega

/-- Writing on with at most as many bytes as the buffer has keeps all but the indices. -/
theorem Valid.length_writeOn (hv : rb.Valid) {data : List UInt8}
    (hdata : data.length ≤ rb.bufferSize) :
    (rb.writeOn data).bufferPtr.length = (rb.writeOn data).bufferSize := by
  have hlen := hv.length_bufferPtr
  rw [hv.writeOn_eq]
  show (cyclicStore _ _ _).length = rb.bufferSize
  rw [length_cyclicStore _ (by rw [hlen]; exact hv.writeIndex_lt) (by rw [hlen]; exact hdata),
    hlen]

/-- The bytes before the new write index are those of the bounded queue that takes all of the
data. -/
theorem Valid.held_writeOn (hv : rb.Valid) {data : List UInt8}
    (hdata : data.length ≤ rb.bufferSize) :
    held (rb.writeOn data).bufferPtr (rb.writeOn data).writeIndex
        (min rb.bufferSize (rb.dataLen + data.length)) =
      Queue.force rb.bufferSize rb.contents data := by
  have hlen := hv.length_bufferPtr
  have hheld := held_cyclicStore rb.bufferPtr (w := rb.writeIndex) (k := rb.dataLen) data
    (by rw [hlen]; exact hv.writeIndex_lt) (by rw [hlen]; exact hv.dataLen_le)
    (by rw [hlen]; exact hdata)
  rw [hlen] at hheld
  rw [hv.writeOn_eq]
  exact hheld

/-- Writing data that fits the space appends it. -/
theorem Valid.writeOn (hv : rb.Valid) (data : List UInt8) (hfit : data.length ≤ rb.spaceLen) :
    (rb.writeOn data).Valid ∧ (rb.writeOn data).contents = rb.contents ++ data := by
  have hspace := hv.spaceLen_add
  have hwait := hv.writeOn_waiting hfit
  have hdata : data.length ≤ rb.bufferSize := by omega
  have hindex : (rb.writeOn data).writeIndex < (rb.writeOn data).bufferSize := by
    rw [hv.writeOn_eq]
    exact advance_lt hv.writeIndex_lt hdata
  have hsame : (rb.writeOn data).bufferSize = rb.bufferSize ∧
      (rb.writeOn data).readIndex = rb.readIndex := by
    rw [hv.writeOn_eq]
    exact ⟨rfl, rfl⟩
  have hvalid : (rb.writeOn data).Valid :=
    hwait.valid (hv.length_writeOn hdata) (by rw [hsame.1]; exact hv.bufferSize_lt)
      (by rw [hsame.1, hsame.2]; exact hv.readIndex_lt) hindex
  refine ⟨hvalid, ?_⟩
  have hheld := hv.held_writeOn hdata
  rw [Nat.min_eq_right (by omega), Queue.force_of_le (by rw [hv.length_contents]; omega)]
    at hheld
  rw [contents, hvalid.waiting.unique hwait, hheld]

/-- `rt_ringbuffer_put`: the first bytes of the data, as many as fit. -/
theorem Valid.put (hv : rb.Valid) (ptr : List UInt8) :
    (rb.put ptr).1.Valid ∧
      (rb.put ptr).1.contents = Queue.push rb.bufferSize rb.contents ptr ∧
      (rb.put ptr).2 = min (rb.bufferSize - rb.contents.length) ptr.length := by
  have hspace : rb.bufferSize - rb.contents.length = rb.spaceLen := by
    rw [hv.length_contents, spaceLen]
  rw [Queue.push, hspace, Ringbuffer.put]
  by_cases hzero : rb.spaceLen = 0
  · rw [if_pos hzero, hzero, List.take_zero, List.append_nil, Nat.zero_min]
    exact ⟨hv, rfl, rfl⟩
  rw [if_neg hzero]
  have htake : ptr.take (if rb.spaceLen < ptr.length then rb.spaceLen else ptr.length)
      = ptr.take rb.spaceLen := by
    split
    case isTrue h => rfl
    case isFalse h => rw [List.take_length, List.take_of_length_le (by omega)]
  have hlen : (ptr.take rb.spaceLen).length = min rb.spaceLen ptr.length := List.length_take
  obtain ⟨hvalid, hcontents⟩ :=
    hv.writeOn (ptr.take rb.spaceLen) (by rw [hlen]; exact Nat.min_le_left _ _)
  show (rb.writeOn (ptr.take _)).Valid ∧ (rb.writeOn (ptr.take _)).contents = _ ∧
    (ptr.take _).length = _
  rw [htake]
  exact ⟨hvalid, hcontents, hlen⟩

theorem Valid.bufferSize_put (hv : rb.Valid) (ptr : List UInt8) :
    (rb.put ptr).1.bufferSize = rb.bufferSize := by
  rw [Ringbuffer.put]
  split
  case isTrue h => rfl
  case isFalse h =>
    show (rb.writeOn _).bufferSize = _
    rw [hv.writeOn_eq]

/-- `rt_ringbuffer_putchar` is `rt_ringbuffer_put` of one byte. -/
theorem Valid.putchar_eq (hv : rb.Valid) (ch : UInt8) : rb.putchar ch = rb.put [ch] := by
  rw [Ringbuffer.putchar, Ringbuffer.put]
  by_cases hzero : rb.spaceLen = 0
  · rw [if_pos hzero, if_pos hzero]
  · have hone : (if rb.spaceLen < [ch].length then rb.spaceLen else [ch].length) = 1 :=
      if_neg (by rw [List.length_singleton]; omega)
    rw [if_neg hzero, if_neg hzero, hv.writeChar_eq, hone]
    rfl

/-- `rt_ringbuffer_reset` empties the buffer. -/
theorem Valid.reset (hv : rb.Valid) : rb.reset.Valid ∧ rb.reset.contents = [] := by
  have hpos : 0 < rb.bufferSize := Nat.lt_of_le_of_lt (Nat.zero_le _) hv.readIndex_lt
  have hwait : rb.reset.Waiting 0 := ⟨Nat.zero_le _, rfl⟩
  have hvalid : rb.reset.Valid := hwait.valid hv.length_bufferPtr hv.bufferSize_lt hpos hpos
  exact ⟨hvalid, hvalid.contents_eq_nil.mpr (hvalid.waiting.unique hwait)⟩

/-! ### Writing over the oldest bytes -/

/-- A buffer whose read index has been put on the write index, on the other side of the
mirror, is full with the last bytes that were written. -/
theorem full_of_onto (rb' : Ringbuffer) (hlen : rb'.bufferPtr.length = rb'.bufferSize)
    (hsize : rb'.bufferSize < 32768) (hw : rb'.writeIndex < rb'.bufferSize)
    (hread : rb'.readIndex = rb'.writeIndex) (hmirror : rb'.readMirror ≠ rb'.writeMirror) :
    rb'.Valid ∧ rb'.contents = held rb'.bufferPtr rb'.writeIndex rb'.bufferSize := by
  have hwait : rb'.Waiting rb'.bufferSize :=
    ⟨Nat.le_refl _, by rw [if_neg hmirror, hread]⟩
  have hvalid : rb'.Valid := hwait.valid hlen hsize (by rw [hread]; exact hw) hw
  exact ⟨hvalid, by rw [contents, hvalid.waiting.unique hwait]⟩

/-- A buffer whose read index has been put on the write index, on the same side of the
mirror, is empty. -/
theorem empty_of_onto {rb' : Ringbuffer} (hlen : rb'.bufferPtr.length = rb'.bufferSize)
    (hsize : rb'.bufferSize < 32768) (hw : rb'.writeIndex < rb'.bufferSize)
    (hread : rb'.readIndex = rb'.writeIndex) (hmirror : rb'.readMirror = rb'.writeMirror) :
    rb'.Valid ∧ rb'.contents = [] := by
  have hwait : rb'.Waiting 0 := ⟨Nat.zero_le _, by rw [if_pos hmirror, hread, Nat.add_zero]⟩
  have hvalid : rb'.Valid := hwait.valid hlen hsize (by rw [hread]; exact hw) hw
  exact ⟨hvalid, hvalid.contents_eq_nil.mpr (hvalid.waiting.unique hwait)⟩

/-- `rt_ringbuffer_put_force` writes the last bytes of the data, and puts the read index on the
write index when they are more than the space. The read mirror flips when the write goes over
the end. -/
theorem putForce_eq (ptr : List UInt8) :
    rb.putForce ptr =
      (let rb' := rb.writeOn (ptr.rtake rb.bufferSize)
       if (ptr.rtake rb.bufferSize).length > rb.spaceLen then
         { rb' with
           readMirror :=
             if rb.bufferSize - rb.writeIndex > (ptr.rtake rb.bufferSize).length then
               rb'.readMirror
             else !rb'.readMirror
           readIndex := rb'.writeIndex }
       else rb', (ptr.rtake rb.bufferSize).length) := by
  have hdata : (if ptr.length > rb.bufferSize then ptr.drop (ptr.length - rb.bufferSize) else ptr)
      = ptr.rtake rb.bufferSize := by
    rw [List.rtake]
    split
    case isTrue h => rfl
    case isFalse h => rw [Nat.sub_eq_zero_of_le (by omega), List.drop_zero]
  show (if rb.bufferSize - rb.writeIndex > (if _ then _ else _ : List UInt8).length
    then _ else _) = _
  rw [hdata]
  by_cases hcross : rb.bufferSize - rb.writeIndex > (ptr.rtake rb.bufferSize).length
  · rw [if_pos hcross]
    by_cases hover : (ptr.rtake rb.bufferSize).length > rb.spaceLen
    · rw [if_pos hover]
      simp only [if_pos hover, if_pos hcross]
    · simp only [if_neg hover]
  · rw [if_neg hcross]
    by_cases hover : (ptr.rtake rb.bufferSize).length > rb.spaceLen
    · simp only [if_pos hover, if_neg hcross]
    · simp only [if_neg hover]

/-- A write of more than the space, with the read index put on the write index. Where the
mirror bits differed before, this is the queue that gives up its oldest bytes, and where they
were equal, the buffer is empty. -/
theorem Valid.writeOver (hv : rb.Valid) {data : List UInt8} (hdata : data.length ≤ rb.bufferSize)
    (hover : data.length > rb.spaceLen) :
    let rb' : Ringbuffer :=
      { rb.writeOn data with
        readMirror :=
          if rb.bufferSize - rb.writeIndex > data.length then (rb.writeOn data).readMirror
          else !(rb.writeOn data).readMirror
        readIndex := (rb.writeOn data).writeIndex }
    rb'.Valid ∧
      rb'.contents =
        if rb.readMirror = rb.writeMirror then []
        else Queue.force rb.bufferSize rb.contents data := by
  intro rb'
  have hspace := hv.spaceLen_add
  have hheld := hv.held_writeOn hdata
  rw [Nat.min_eq_left (by omega)] at hheld
  have hlen := hv.length_writeOn hdata
  have heq := hv.writeOn_eq data
  have hsize : (rb.writeOn data).bufferSize = rb.bufferSize := by rw [heq]
  have hindex : (rb.writeOn data).writeIndex < (rb.writeOn data).bufferSize := by
    rw [heq]
    exact advance_lt hv.writeIndex_lt hdata
  have hlt : (rb.writeOn data).bufferSize < 32768 := by rw [hsize]; exact hv.bufferSize_lt
  -- Both mirror bits flip, or none.
  have hmirror : rb'.readMirror = rb'.writeMirror ↔ rb.readMirror = rb.writeMirror := by
    show (if _ then (rb.writeOn data).readMirror else !(rb.writeOn data).readMirror) =
      (rb.writeOn data).writeMirror ↔ _
    rw [heq]
    split
    case isTrue h => exact Iff.rfl
    case isFalse h => exact Bool.not_inj_iff
  by_cases hm : rb.readMirror = rb.writeMirror
  · rw [if_pos hm]
    exact empty_of_onto hlen hlt hindex rfl (hmirror.mpr hm)
  · rw [if_neg hm]
    obtain ⟨hvalid, hcontents⟩ :=
      full_of_onto rb' hlen hlt hindex rfl fun h => hm (hmirror.mp h)
    refine ⟨hvalid, ?_⟩
    rw [hcontents, ← hheld]
    show held _ _ (rb.writeOn data).bufferSize = _
    rw [hsize]

/-- `rt_ringbuffer_put_force` is the queue that takes everything and gives up its oldest bytes,
except for the lossy calls. These leave the buffer empty. -/
theorem Valid.putForce (hv : rb.Valid) (ptr : List UInt8) :
    (rb.putForce ptr).1.Valid ∧
      (rb.putForce ptr).2 = min rb.bufferSize ptr.length ∧
      (¬ rb.Lossy (.putForce ptr) →
        (rb.putForce ptr).1.contents = Queue.force rb.bufferSize rb.contents ptr) ∧
      (rb.Lossy (.putForce ptr) → (rb.putForce ptr).1.contents = []) := by
  have hlen : (ptr.rtake rb.bufferSize).length = min rb.bufferSize ptr.length := by
    rw [List.rtake, List.length_drop]
    omega
  have hspace := hv.spaceLen_add
  have hdata : (ptr.rtake rb.bufferSize).length ≤ rb.bufferSize := by omega
  rw [putForce_eq]
  by_cases hover : (ptr.rtake rb.bufferSize).length > rb.spaceLen
  · obtain ⟨hvalid, hcontents⟩ := hv.writeOver hdata hover
    rw [Queue.force_rtake] at hcontents
    simp only [if_pos hover]
    refine ⟨hvalid, hlen, fun h => ?_, fun h => ?_⟩
    · rw [hcontents, if_neg fun hm => h ⟨hm, by omega⟩]
    · rw [hcontents, if_pos h.1]
  · obtain ⟨hvalid, hcontents⟩ := hv.writeOn (ptr.rtake rb.bufferSize) (by omega)
    simp only [if_neg hover]
    refine ⟨hvalid, hlen, fun _ => ?_, fun h => ?_⟩
    · rw [hcontents, ← Queue.force_rtake, Queue.force_of_le]
      rw [hv.length_contents]
      omega
    · have hlt : rb.spaceLen < min rb.bufferSize ptr.length := h.2
      omega

/-- `rt_ringbuffer_putchar_force` is the queue that gives up its oldest byte when it is full. -/
theorem Valid.putcharForce (hv : rb.Valid) (ch : UInt8) :
    (rb.putcharForce ch).1.Valid ∧ (rb.putcharForce ch).2 = 1 ∧
      (rb.putcharForce ch).1.contents = Queue.force rb.bufferSize rb.contents [ch] := by
  have hw := hv.writeIndex_lt
  have hspace := hv.spaceLen_add
  have hone : [ch].length ≤ rb.bufferSize := by rw [List.length_singleton]; omega
  -- The buffer is full exactly when there is no space.
  have hstate : rb.status = .full ↔ [ch].length > rb.spaceLen := by
    have hr := hv.readIndex_lt
    have hk := hv.waiting
    rw [List.length_singleton]
    rw [status]
    by_cases hi : rb.readIndex = rb.writeIndex
    · rw [if_pos hi]
      by_cases hm : rb.readMirror = rb.writeMirror
      · have h := hk.2
        rw [if_pos hm] at h
        rw [if_pos hm]
        exact ⟨fun h => (nomatch h), fun h => by omega⟩
      · have h := hk.2
        rw [if_neg hm] at h
        rw [if_neg hm]
        exact ⟨fun _ => by omega, fun _ => rfl⟩
    · have h := hk.2
      rw [if_neg hi]
      refine ⟨fun h => (nomatch h), fun hfull => absurd ?_ hi⟩
      split at h <;> omega
  have heq : rb.putcharForce ch =
      (let rb' := rb.writeOn [ch]
       if [ch].length > rb.spaceLen then
         { rb' with
           readMirror :=
             if rb.bufferSize - rb.writeIndex > [ch].length then rb'.readMirror
             else !rb'.readMirror
           readIndex := rb'.writeIndex }
       else rb', 1) := by
    show (if rb.writeIndex = rb.bufferSize - 1 then _ else _) = _
    rw [hv.writeChar_eq]
    by_cases hlast : rb.writeIndex = rb.bufferSize - 1
    · have hcross : ¬ rb.bufferSize - rb.writeIndex > [ch].length := by
        rw [List.length_singleton]; omega
      rw [if_pos hlast]
      simp only [hstate, if_neg hcross]
    · have hcross : rb.bufferSize - rb.writeIndex > [ch].length := by
        rw [List.length_singleton]; omega
      rw [if_neg hlast]
      simp only [hstate, if_pos hcross]
  rw [heq]
  by_cases hover : [ch].length > rb.spaceLen
  · obtain ⟨hvalid, hcontents⟩ := hv.writeOver hone hover
    have hm : ¬ rb.readMirror = rb.writeMirror := by
      intro hm
      have hk := hv.waiting.2
      rw [if_pos hm] at hk
      rw [List.length_singleton] at hover
      omega
    rw [if_neg hm] at hcontents
    simp only [if_pos hover]
    exact ⟨hvalid, trivial, hcontents⟩
  · obtain ⟨hvalid, hcontents⟩ := hv.writeOn [ch] (by omega)
    simp only [if_neg hover]
    refine ⟨hvalid, trivial, ?_⟩
    rw [hcontents, Queue.force_of_le]
    rw [hv.length_contents]
    omega

/-! ### Runs -/

/-- One call: the buffer stays valid, its size stays, and the call is a step of the bounded
queue exactly when it is not a lossy one. -/
theorem Valid.call (hv : rb.Valid) (call : RingbufferCall) :
    (rb.call call).1.Valid ∧ (rb.call call).1.bufferSize = rb.bufferSize ∧
      (QueueStep rb.bufferSize rb.contents call (rb.call call).2 (rb.call call).1.contents ↔
        ¬ rb.Lossy call) := by
  have hsize : ∀ data, (rb.writeOn data).bufferSize = rb.bufferSize := by
    intro data
    rw [hv.writeOn_eq]
  cases call with
  | put ptr =>
    obtain ⟨hvalid, hcontents, htaken⟩ := hv.put ptr
    refine ⟨hvalid, ?_, iff_of_true ⟨?_, hcontents⟩ id⟩
    · exact hv.bufferSize_put ptr
    · rw [← htaken]; rfl
  | putForce ptr =>
    obtain ⟨hvalid, htaken, hqueue, hlost⟩ := hv.putForce ptr
    refine ⟨hvalid, ?_, ?_⟩
    · show (rb.putForce ptr).1.bufferSize = _
      rw [putForce_eq]
      dsimp only
      split <;> exact hsize _
    · by_cases hl : rb.Lossy (.putForce ptr)
      · refine iff_of_false (fun h => ?_) (not_not_intro hl)
        -- The queue is full after the call, and the buffer is empty.
        have hfull : (Queue.force rb.bufferSize rb.contents ptr).length = 0 := by
          rw [← h.2]
          show (rb.putForce ptr).1.contents.length = 0
          rw [hlost hl, List.length_nil]
        have hlt : rb.spaceLen < min rb.bufferSize ptr.length := hl.2
        rw [Queue.length_force] at hfull
        omega
      · refine iff_of_true ⟨?_, hqueue hl⟩ hl
        rw [← htaken]; rfl
  | get length =>
    obtain ⟨hvalid, hcontents, hgiven⟩ := hv.get length
    refine ⟨hvalid, ?_, iff_of_true ⟨by rw [← hgiven]; rfl, hcontents⟩ id⟩
    exact rb.bufferSize_get length
  | peak =>
    obtain ⟨hvalid, hcontents, hgiven⟩ := hv.get (min rb.dataLen (rb.bufferSize - rb.readIndex))
    have hr := hv.readIndex_lt
    rw [Ringbuffer.call, hv.peak_eq]
    refine ⟨hvalid, ?_, iff_of_true ⟨_, ?_, by rw [hgiven], hcontents⟩ id⟩
    · exact rb.bufferSize_get _
    · rw [hv.contents_eq_nil]
      omega
  | putchar ch =>
    obtain ⟨hvalid, hcontents, htaken⟩ := hv.put [ch]
    rw [Ringbuffer.call, hv.putchar_eq]
    refine ⟨hvalid, ?_, iff_of_true ⟨by rw [htaken]; rfl, hcontents⟩ id⟩
    exact hv.bufferSize_put [ch]
  | putcharForce ch =>
    obtain ⟨hvalid, htaken, hcontents⟩ := hv.putcharForce ch
    refine ⟨hvalid, ?_, iff_of_true ⟨?_, hcontents⟩ id⟩
    · show (rb.putcharForce ch).1.bufferSize = _
      rw [Ringbuffer.putcharForce, hv.writeChar_eq]
      split <;> split <;> exact hsize _
    · show some (RingbufferAnswer.taken (rb.putcharForce ch).2) = _
      rw [htaken]
  | getchar =>
    obtain ⟨hvalid, hcontents, hgiven⟩ := hv.get 1
    rw [Ringbuffer.call, hv.getchar_eq]
    refine ⟨hvalid, ?_, iff_of_true ⟨by rw [hgiven], hcontents⟩ id⟩
    exact rb.bufferSize_get 1
  | reset => exact ⟨hv.reset.1, rfl, iff_of_true ⟨rfl, hv.reset.2⟩ id⟩

/-- The buffer of `rt_ringbuffer_init` is valid and empty. -/
theorem valid_init (pool : List UInt8) (size : Nat) (hsize : size < 32768) (hfour : 4 ≤ size)
    (hpool : pool.length = rtAlignDown size rtAlignSize) :
    (rtRingbufferInit pool size).Valid ∧ (rtRingbufferInit pool size).contents = [] := by
  have hpos : 0 < (rtRingbufferInit pool size).bufferSize := by
    show 0 < size - size % 4
    omega
  have hlt : (rtRingbufferInit pool size).bufferSize < 32768 := by
    show size - size % 4 < 32768
    omega
  have hwait : (rtRingbufferInit pool size).Waiting 0 := ⟨Nat.zero_le _, rfl⟩
  have hvalid : (rtRingbufferInit pool size).Valid := hwait.valid hpool hlt hpos hpos
  exact ⟨hvalid, hvalid.contents_eq_nil.mpr (hvalid.waiting.unique hwait)⟩

end Ringbuffer

/-- What every call of the ring buffer keeps, with its size. -/
def RingbufferSized (n : Nat) (rb : Ringbuffer) : Prop := rb.Valid ∧ rb.bufferSize = n

theorem RingbufferSized.step {n : Nat} (rb : Ringbuffer) (call : RingbufferCall)
    (h : RingbufferSized n rb) : RingbufferSized n (ringbuffer.step rb call) :=
  ⟨(h.1.call call).1, (h.1.call call).2.1.trans h.2⟩

/-- A run of any calls from a new ring buffer is a run of a queue of at most `n` bytes exactly
as long as no call is lossy. A lossy call leaves an empty buffer, where the queue would be full.
-/
theorem ringbuffer_refines_queue (pool : List UInt8) (size : Nat) (calls : List RingbufferCall)
    (hsize : size < 32768) (hfour : 4 ≤ size)
    (hpool : pool.length = rtAlignDown size rtAlignSize) :
    ringbuffer.Always Ringbuffer.Valid (rtRingbufferInit pool size) calls ∧
    (ringbuffer.Along (fun rb call => QueueStep pool.length rb.contents call (rb.call call).2
        (ringbuffer.step rb call).contents) (rtRingbufferInit pool size) calls ↔
      ringbuffer.Along (fun rb call => ¬ rb.Lossy call) (rtRingbufferInit pool size) calls) ∧
    ringbuffer.Along (fun rb call => rb.Lossy call →
        rb.contents ≠ [] ∧ (ringbuffer.step rb call).contents = [])
      (rtRingbufferInit pool size) calls := by
  have hinit : RingbufferSized pool.length (rtRingbufferInit pool size) :=
    ⟨(Ringbuffer.valid_init pool size hsize hfour hpool).1, hpool.symm⟩
  have hrun : ∀ pre, RingbufferSized pool.length
      (ringbuffer.run (rtRingbufferInit pool size) pre) := by
    intro pre
    exact ringbuffer.run_invariant _ (fun rb call h => h.step rb call) pre _ hinit
  refine ⟨fun pre _ => (hrun pre).1, ?_, ?_⟩
  · apply ringbuffer.along_iff_of_invariant (RingbufferSized pool.length) _ _
      (fun rb call h => h.step rb call) _ calls _ hinit
    intro rb call h
    rw [← h.2]
    exact (h.1.call call).2.2
  · intro pre call _ hl
    have hv := (hrun pre).1
    cases call with
    | putForce ptr =>
      refine ⟨fun hnil => ?_, (hv.putForce ptr).2.2.2 hl⟩
      -- An empty buffer has space for all that a forced put writes.
      have hzero := hv.contents_eq_nil.mp hnil
      have hspace := hv.spaceLen_add
      have hlt := hl.2
      omega
    | _ => exact absurd hl id

/-- A pool of 8 bytes, and the calls that lose everything: after two bytes are read from four,
a forced put of seven. -/
theorem ringbuffer_refines_queue_eight :
    ringbuffer.Along (fun rb call => rb.Lossy call →
        rb.contents ≠ [] ∧ (ringbuffer.step rb call).contents = [])
      (rtRingbufferInit (List.replicate 8 0) 8)
      [.put [1, 2, 3, 4], .get 2, .putForce [5, 6, 7, 8, 9, 10, 11]] ∧
    (ringbuffer.run (rtRingbufferInit (List.replicate 8 0) 8)
      [.put [1, 2, 3, 4], .get 2]).Lossy (.putForce [5, 6, 7, 8, 9, 10, 11]) :=
  ⟨(ringbuffer_refines_queue (List.replicate 8 0) 8
      [.put [1, 2, 3, 4], .get 2, .putForce [5, 6, 7, 8, 9, 10, 11]] (by decide) (by decide)
      (by decide)).2.2, show _ = _ ∧ _ < _ by decide⟩

end SmartBuilding
