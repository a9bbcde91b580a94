import SmartBuilding.Proofs.CJsonText
import SmartBuilding.Proofs.Format

/-!
# `SmartBuilding.Proofs.CJsonPrint`: the printer writes the text of a tree, inside its buffer

The text `front` that is already in a buffer stays there: the offset is at its end, and a
function of the printer writes its own text behind it (`Room`, `Wrote`). `Spec` is what such a
function does: it gives a buffer with a property, or it is refused. It is refused only when the
text comes near `INT_MAX`, or when the allocator fails.

`printValue_spec` is by induction over the tree, with a run lemma for the loop over the items
of an array and one for the members of an object. `print_refines_text` is the result for
`cJSON_PrintUnformatted`, and `print_parse` and `reparse` are what the parser gives for it.
-/

set_option autoImplicit false

namespace SmartBuilding

open CText Delimited Memory Binary64

/-! ### Buffers -/

/-- The text `front` is in the buffer, with more than `n` bytes of the buffer behind it. -/
def Room (front : List UInt8) (n : Nat) (p : Printbuffer) : Prop :=
  p.offset = front.length ∧ p.buffer.length ≤ intMax ∧
    ∃ tail, p.buffer = front ++ tail ∧ n < tail.length

/-- The text `text` is behind `front`, with its NUL. The offset may be anywhere in it. -/
def Wrote (front text : List UInt8) (p : Printbuffer) : Prop :=
  p.buffer.length ≤ intMax ∧ (∃ k ≤ text.length, p.offset = front.length + k) ∧
    ∃ tail, p.buffer = front ++ (text ++ 0 :: tail)

variable {heap : Heap} {front : List UInt8} {p : Printbuffer}

/-- A step of the printer that may need `bound` bytes of the buffer: it gives a buffer with a
property, or it is refused. -/
def Spec (heap : Heap) (bound : Nat) (post : Printbuffer → Prop)
    (r : Except Stop Printbuffer) : Prop :=
  (r = .error .refused ∧ (intMax < bound ∨ ∃ i, heap i = none)) ∨ ∃ p, r = .ok p ∧ post p

theorem Spec.bind {bound bound' : Nat} {post post' : Printbuffer → Prop}
    {r : Except Stop Printbuffer} {f : Printbuffer → Except Stop Printbuffer}
    (h : Spec heap bound post r) (hle : bound ≤ bound')
    (hf : ∀ p, post p → Spec heap bound' post' (f p)) : Spec heap bound' post' (r >>= f) := by
  rcases h with ⟨rfl, hcause⟩ | ⟨p, rfl, hpost⟩
  · refine Or.inl ⟨rfl, hcause.imp_left fun hlt => ?_⟩
    exact Nat.lt_of_lt_of_le hlt hle
  · exact hf p hpost

theorem Spec.ok {bound : Nat} {post : Printbuffer → Prop} (h : post p) :
    Spec heap bound post (.ok p) := Or.inr ⟨p, rfl, h⟩

/-- A larger bound, and the result under a weaker property. -/
theorem Spec.mono {bound bound' : Nat} {post post' : Printbuffer → Prop}
    {r : Except Stop Printbuffer} (h : Spec heap bound post r) (hle : bound ≤ bound')
    (hpost : ∀ p, post p → post' p) : Spec heap bound' post' r := by
  rcases h with ⟨rfl, hcause⟩ | ⟨p, rfl, hp⟩
  · refine Or.inl ⟨rfl, hcause.imp_left fun hlt => ?_⟩
    exact Nat.lt_of_lt_of_le hlt hle
  · exact Or.inr ⟨p, rfl, hpost p hp⟩

theorem length_reallocate (fresh : Nat → UInt8) (old : List UInt8) (size : Nat) :
    (reallocate fresh old size).length = size := by
  rw [reallocate, List.length_take, List.length_append, List.length_map, List.length_range]
  omega

/-- A block keeps its bytes when it grows. -/
theorem reallocate_of_le (fresh : Nat → UInt8) {old : List UInt8} {size : Nat}
    (h : old.length ≤ size) :
    reallocate fresh old size = old ++ (List.range (size - old.length)).map fresh := by
  apply List.take_of_length_le
  rw [List.length_append, List.length_map, List.length_range]
  omega

/-- `ensure` makes room for `n` bytes, and one more. -/
theorem ensure_spec (n : Nat) (h : Room front 0 p) :
    Spec heap (front.length + n + 1) (Room front n) (ensure heap n p) := by
  obtain ⟨hoffset, hmax, tail, hbuffer, htail⟩ := h
  have hlength : p.buffer.length = front.length + tail.length := by
    rw [hbuffer, List.length_append]
  rw [ensure, if_neg (by omega)]
  split
  · exact Or.inl ⟨rfl, Or.inl (by omega)⟩
  split
  · exact Spec.ok ⟨hoffset, hmax, tail, hbuffer, by omega⟩
  split
  · exact Or.inl ⟨rfl, Or.inl (by omega)⟩
  rename_i hfit
  dsimp only
  generalize hsize : (if intMax / 2 < n + p.offset + 1 then intMax
    else (n + p.offset + 1) * 2) = size
  have hroom : n + p.offset + 1 ≤ size ∧ size ≤ intMax := by
    rw [← hsize]
    split
    · exact ⟨by omega, Nat.le_refl _⟩
    · exact ⟨by omega, by omega⟩
  cases hheap : heap p.calls with
  | none => exact Or.inl ⟨rfl, Or.inr ⟨p.calls, hheap⟩⟩
  | some fresh =>
    have hgrow : reallocate fresh p.buffer size =
        front ++ (tail ++ (List.range (size - p.buffer.length)).map fresh) := by
      rw [reallocate_of_le fresh (by omega), ← List.append_assoc, ← hbuffer]
    refine Spec.ok ⟨hoffset, ?_, _, hgrow, ?_⟩
    · rw [length_reallocate]
      exact hroom.2
    · rw [List.length_append, List.length_map, List.length_range]
      omega

/-- A write behind `front` and the bytes `written`, with room for it. -/
theorem write_eq (written cells : List UInt8) {tail : List UInt8}
    (hoffset : p.offset = front.length) (hbuffer : p.buffer = front ++ (written ++ tail))
    (hfit : cells.length ≤ tail.length) :
    p.write written.length cells =
      .ok { p with buffer := front ++ (written ++ (cells ++ tail.drop cells.length)) } := by
  have hlength : (front ++ written).length = p.offset + written.length := by
    rw [List.length_append, hoffset]
  have hstore : store p.buffer (p.offset + written.length) cells =
      front ++ (written ++ (cells ++ tail.drop cells.length)) := by
    rw [store, hbuffer, ← List.append_assoc, ← hlength, List.take_left, ← List.drop_drop,
      List.drop_left]
    simp only [List.append_assoc]
  rw [Printbuffer.write, hstore, if_pos]
  rw [hbuffer, List.length_append, List.length_append, hoffset]
  omega

/-- A write at the offset. -/
theorem Room.write {n : Nat} {cells : List UInt8} (h : Room front n p) (hfit : cells.length ≤ n) :
    ∃ tail, tail ≠ [] ∧ (front ++ (cells ++ tail)).length ≤ intMax ∧
      p.write 0 cells = .ok { p with buffer := front ++ (cells ++ tail) } := by
  obtain ⟨hoffset, hmax, tail, hbuffer, htail⟩ := h
  have hwrite := write_eq [] cells hoffset hbuffer (by omega : cells.length ≤ tail.length)
  refine ⟨tail.drop cells.length, ?_, ?_, hwrite⟩
  · rw [← List.length_pos_iff, List.length_drop]
    omega
  · rw [hbuffer, List.length_append] at hmax
    rw [List.length_append, List.length_append, List.length_drop]
    omega

/-- A text that is written with its NUL. -/
theorem Room.wrote {n : Nat} (text : List UInt8) (h : Room front n p) (hfit : text.length < n) :
    ∃ p', p.write 0 (text ++ [0]) = .ok p' ∧ p'.offset = front.length ∧ Wrote front text p' := by
  have hcells : (text ++ [0]).length ≤ n := by
    rw [List.length_append]
    exact hfit
  obtain ⟨tail, -, hmax, hwrite⟩ := h.write hcells
  rw [List.append_assoc, List.singleton_append] at hmax hwrite
  exact ⟨_, hwrite, h.1, hmax, ⟨0, Nat.zero_le _, h.1⟩, tail, rfl⟩

/-- Bytes that are written at the offset, which then goes behind them. -/
theorem Room.advance {n : Nat} {cells : List UInt8} (more : List UInt8) (h : Room front n p)
    (hfit : (cells ++ more).length ≤ n) :
    ∃ p', p.write 0 (cells ++ more) = .ok p' ∧
      Room (front ++ cells) 0 (p'.advance cells.length) := by
  obtain ⟨tail, hne, hmax, hwrite⟩ := h.write hfit
  refine ⟨_, hwrite, ?_, hmax, more ++ tail, ?_, ?_⟩
  · rw [List.length_append, ← h.1]
    rfl
  · show front ++ (cells ++ more ++ tail) = _
    simp only [List.append_assoc]
  · rw [List.length_append]
    have htail := List.length_pos_iff.mpr hne
    omega

/-- `update_offset` finds the end of the text. -/
theorem Wrote.updateOffset {text : List UInt8} (h : Wrote front text p)
    (htext : ∀ b ∈ text, b ≠ 0) :
    ∃ p', SmartBuilding.updateOffset p = .ok p' ∧ p'.offset = (front ++ text).length ∧
      p'.buffer.length ≤ intMax ∧ ∃ tail, p'.buffer = front ++ text ++ 0 :: tail := by
  obtain ⟨hmax, ⟨k, hk, hoffset⟩, tail, hbuffer⟩ := h
  have hdrop : p.buffer.drop p.offset = text.drop k ++ 0 :: tail := by
    rw [hbuffer, hoffset, ← List.drop_drop, List.drop_left, List.drop_append_of_le_length hk]
  have hnul : 0 ∈ p.buffer.drop p.offset := by
    rw [hdrop]
    exact List.mem_append_right _ List.mem_cons_self
  have hstring : cString (p.buffer.drop p.offset) = text.drop k := by
    rw [hdrop]
    exact cString_append tail fun b hb => htext b (List.mem_of_mem_drop hb)
  refine ⟨p.advance (text.drop k).length, ?_, ?_, hmax, tail, ?_⟩
  · rw [SmartBuilding.updateOffset, if_pos hnul, hstring]
  · show p.offset + (text.drop k).length = (front ++ text).length
    rw [hoffset, List.length_drop, List.length_append]
    omega
  · rw [List.append_assoc]
    exact hbuffer

theorem updateOffset_spec {text : List UInt8} (bound : Nat) (h : Wrote front text p)
    (htext : ∀ b ∈ text, b ≠ 0) : Spec heap bound (Room (front ++ text) 0) (updateOffset p) := by
  obtain ⟨p', hp', hoffset, hmax, tail, hbuffer⟩ := h.updateOffset htext
  rw [hp']
  exact Spec.ok ⟨hoffset, hmax, 0 :: tail, hbuffer, Nat.zero_lt_succ _⟩

/-! ### Values without elements -/

theorem printLiteral_spec (text : List UInt8) (h : Room front 0 p) :
    Spec heap (front.length + text.length + 2) (Wrote front text) (printLiteral heap text p) := by
  apply (ensure_spec (text.length + 1) h).bind (by omega)
  intro p' hroom
  obtain ⟨p'', hwrite, -, hwrote⟩ := hroom.wrote _ (Nat.lt_succ_self _)
  rw [hwrite]
  exact Spec.ok hwrote

theorem sprintfNumber_eq {text : List UInt8} (h : text.length ≤ 24) :
    sprintfNumber text = .ok text := by
  rw [sprintfNumber, numberBufferSize, if_pos (by omega)]

/-- Both texts of a double fit into `number_buffer`, and the first of them is scanned. -/
theorem renderNumber_eq (n : Int32) (d : Double) : renderNumber n d = .ok (numberText n d) := by
  cases d with
  | nan => exact sprintfNumber_eq (by decide +kernel)
  | inf neg => exact sprintfNumber_eq (by decide +kernel)
  | finite neg x =>
    rw [renderNumber, numberText]
    split
    case isTrue => exact sprintfNumber_eq (Nat.le_trans (length_decimalInt_le n) (by decide))
    case isFalse =>
      have hp : 1 < 15 := by decide
      obtain ⟨r, hread, hdouble⟩ := strtod_sprintfG hp neg x
      have hscan : sscanfLg (sprintfG 15 neg x) = some (nearestDecimal 15 neg x).toDouble := by
        rw [sscanfLg, hread, Option.map_some, hdouble]
      have hshort : (sprintfG 15 neg x).length ≤ 24 :=
        Nat.le_trans (length_sprintfG_le hp neg x) (by decide)
      rw [sprintfNumber_eq hshort, printedDigits]
      show (if (sscanfLg (sprintfG 15 neg x)).any (compareDouble · (.finite neg x)) = true then _
        else _) = _
      rw [hscan, Option.any_some]
      split
      · rfl
      · exact sprintfNumber_eq (length_sprintfG_le (by decide) neg x)

theorem length_numberText_le (n : Int32) (d : Double) : (numberText n d).length ≤ 24 := by
  rcases numberText_cases n d with ⟨e, htext, -⟩ | ⟨hnull, -⟩
  · exact htext.length
  · rw [hnull]
    decide +kernel

/-- `print_number` moves the offset behind its text. -/
theorem printNumber_spec (n : Int32) (d : Double) (h : Room front 0 p) :
    Spec heap (front.length + (numberText n d).length + 2) (Wrote front (numberText n d))
      (printNumber heap n d p) := by
  have hlength := length_numberText_le n d
  rw [printNumber, renderNumber_eq]
  generalize numberText n d = text at hlength
  show Spec heap _ _ (if numberBufferSize - 1 < text.length then _ else _)
  rw [if_neg (by rw [numberBufferSize]; omega)]
  apply (ensure_spec (text.length + 1) h).bind (by omega)
  intro p' hroom
  obtain ⟨p'', hwrite, hoffset, hmax, -, tail, hbuffer⟩ := hroom.wrote _ (Nat.lt_succ_self _)
  rw [hwrite]
  refine Spec.ok ⟨hmax, ⟨text.length, Nat.le_refl _, ?_⟩, tail, hbuffer⟩
  rw [← hoffset]
  rfl

/-- The count of the first loop of `print_string_ptr`, for one byte. -/
theorem length_escapedByte (b : UInt8) :
    (escapedByte b).length = escapeCharacters b + 1 ∧
      (escapeCharacters b = 0 → escapedByte b = [b]) ∧ (sprintfNul b).length ≤ 1 := by
  have hall : ∀ k < 256, (escapedByte k.toUInt8).length = escapeCharacters k.toUInt8 + 1 ∧
      (escapeCharacters k.toUInt8 = 0 → escapedByte k.toUInt8 = [k.toUInt8]) ∧
      (sprintfNul k.toUInt8).length ≤ 1 := by decide +kernel
  have hbyte : b.toNat.toUInt8 = b := UInt8.ofNat_toNat
  have hb := hall b.toNat b.toNat_lt
  rw [hbyte] at hb
  exact hb

/-- The two loops of `print_string_ptr` agree on the length of the text. -/
theorem length_escaped (input : List UInt8) :
    (input.flatMap escapedByte).length = input.length + (input.map escapeCharacters).sum := by
  induction input with
  | nil => rfl
  | cons b input ih =>
    rw [List.flatMap_cons, List.length_append, ih, (length_escapedByte b).1, List.map_cons,
      List.sum_cons, List.length_cons]
    omega

/-- A string in which nothing is counted is its own text. -/
theorem escaped_of_plain (input : List UInt8) (h : (input.map escapeCharacters).sum = 0) :
    input.flatMap escapedByte = input := by
  induction input with
  | nil => rfl
  | cons b input ih =>
    rw [List.map_cons, List.sum_cons] at h
    rw [List.flatMap_cons, (length_escapedByte b).2.1 (by omega), ih (by omega)]
    rfl

/-- The loop of `print_string_ptr` writes the escaped string behind the bytes `written`. One
byte behind it may be the NUL of `sprintf`. -/
theorem printEscaped_eq (input : List UInt8) :
    ∀ (written tail : List UInt8) (p : Printbuffer), p.offset = front.length →
      p.buffer = front ++ (written ++ tail) → (input.flatMap escapedByte).length < tail.length →
      ∃ tail', tail'.length + (input.flatMap escapedByte).length = tail.length ∧
        printEscaped input written.length p = .ok { p with
          buffer := front ++ (written ++ (input.flatMap escapedByte ++ tail')) } := by
  induction input with
  | nil =>
    intro written tail p hoffset hbuffer _
    refine ⟨tail, Nat.add_zero _, ?_⟩
    rw [List.flatMap_nil, List.nil_append, ← hbuffer]
    rfl
  | cons b input ih =>
    intro written tail p hoffset hbuffer hfit
    obtain ⟨-, -, hnul⟩ := length_escapedByte b
    rw [List.flatMap_cons, List.length_append] at hfit
    have hcells : (escapedByte b ++ sprintfNul b).length ≤ tail.length := by
      rw [List.length_append]
      omega
    have hwrite := write_eq written _ hoffset hbuffer hcells
    generalize hrest : sprintfNul b ++ tail.drop (escapedByte b ++ sprintfNul b).length = rest
    have hlength : rest.length + (escapedByte b).length = tail.length := by
      rw [← hrest, List.length_append, List.length_drop, List.length_append]
      rw [List.length_append] at hcells
      omega
    have hnext : front ++ (written ++ (escapedByte b ++ sprintfNul b ++
        tail.drop (escapedByte b ++ sprintfNul b).length)) =
        front ++ ((written ++ escapedByte b) ++ rest) := by
      rw [← hrest]
      simp only [List.append_assoc]
    rw [hnext] at hwrite
    obtain ⟨tail', htail', hloop⟩ := ih (written ++ escapedByte b) rest
      { p with buffer := front ++ ((written ++ escapedByte b) ++ rest) } hoffset rfl (by omega)
    refine ⟨tail', ?_, ?_⟩
    · rw [List.flatMap_cons, List.length_append]
      omega
    · rw [List.length_append] at hloop
      rw [printEscaped, hwrite, List.flatMap_cons]
      show printEscaped input (written.length + (escapedByte b).length) _ = _
      rw [hloop]
      simp only [List.append_assoc]

/-- `print_string_ptr` writes the string between its quotes. -/
theorem printStringPtr_spec (input : List UInt8) (h : Room front 0 p) :
    Spec heap (front.length + (quoted input).length + 2) (Wrote front (quoted input))
      (printStringPtr heap input p) := by
  have hlength := length_escaped (cString input)
  have hquoted : (quoted input).length = ((cString input).flatMap escapedByte).length + 2 := by
    rw [quoted, List.length_cons, List.length_append]
    rfl
  rw [printStringPtr]
  generalize hescapes : ((cString input).map escapeCharacters).sum = escapes at hlength
  apply (ensure_spec ((cString input).length + escapes + 3) h).bind (by omega)
  intro p' hroom
  by_cases hplain : escapes = 0
  · have htext : 34 :: cString input ++ [34, 0] = quoted input ++ [0] := by
      rw [quoted, escaped_of_plain _ (hescapes.trans hplain), List.cons_append, List.cons_append,
        List.append_assoc]
      rfl
    obtain ⟨p'', hwrite, -, hwrote⟩ := hroom.wrote (quoted input) (by omega)
    rw [if_pos hplain, htext, hwrite]
    exact Spec.ok hwrote
  · obtain ⟨hoffset, hmax, tail, hbuffer, htail⟩ := hroom
    rw [if_neg hplain]
    -- The opening quote, the loop, and the closing quote with the NUL.
    have hfirst : ([34] : List UInt8).length ≤ tail.length := by
      show 1 ≤ tail.length
      omega
    have hopen : p'.write 0 [34] =
        .ok { p' with buffer := front ++ ([34] ++ tail.drop 1) } :=
      write_eq [] [34] hoffset hbuffer hfirst
    have hroom : ((cString input).flatMap escapedByte).length < (tail.drop 1).length := by
      rw [List.length_drop]
      omega
    obtain ⟨tail', htail', hloop⟩ := printEscaped_eq (cString input) [34] (tail.drop 1)
      { p' with buffer := front ++ ([34] ++ tail.drop 1) } hoffset rfl hroom
    rw [List.length_drop] at htail'
    generalize hescaped : (cString input).flatMap escapedByte = escaped at *
    have hbuffer' : front ++ ([34] ++ (escaped ++ tail')) =
        front ++ (([34] ++ escaped) ++ tail') := by
      rw [List.append_assoc]
    have hlast : ([34, 0] : List UInt8).length ≤ tail'.length := by
      show 2 ≤ tail'.length
      omega
    have hclose := write_eq (p := { p' with buffer := front ++ ([34] ++ (escaped ++ tail')) })
      ([34] ++ escaped) [34, 0] hoffset hbuffer' hlast
    have hend : ([34] ++ escaped).length = (cString input).length + escapes + 1 := by
      rw [List.length_append, hlength, Nat.add_comm]
      rfl
    rw [hend] at hclose
    rw [hopen]
    show Spec heap _ _ (printEscaped (cString input) ([34] : List UInt8).length _ >>= fun p =>
      p.write ((cString input).length + escapes + 1) [34, 0])
    rw [hloop]
    show Spec heap _ _ (Printbuffer.write _ _ _)
    rw [hclose]
    have hlength' : (front ++ ([34] ++ escaped ++ ([34, 0] ++ tail'.drop 2))).length ≤ intMax := by
      rw [hbuffer, List.length_append] at hmax
      simp only [List.length_append, List.length_drop] at hlast ⊢
      show front.length + (1 + escaped.length + (2 + (tail'.length - 2))) ≤ intMax
      omega
    refine Spec.ok ⟨hlength', ⟨0, Nat.zero_le _, hoffset⟩, tail'.drop 2, ?_⟩
    rw [quoted, hescaped]
    show front ++ ([34] ++ escaped ++ ([34, 0] ++ tail'.drop 2)) = _
    simp only [List.append_assoc, List.cons_append, List.nil_append]

/-! ### Arrays and objects -/

/-- Bytes that the printer puts behind the text before it goes on with `f`. -/
theorem append_spec {bound n : Nat} {post : Printbuffer → Prop} {written : List UInt8}
    {f : Printbuffer → Except Stop Printbuffer} (cells more : List UInt8)
    (hwritten : written = cells ++ more) (h : Room front 0 p) (hfit : written.length ≤ n)
    (hbound : front.length + n + 1 ≤ bound)
    (hf : ∀ p', Room (front ++ cells) 0 (p'.advance cells.length) → Spec heap bound post (f p')) :
    Spec heap bound post (ensure heap n p >>= fun p => p.write 0 written >>= f) := by
  apply (ensure_spec n h).bind hbound
  intro p' hroom
  rw [hwritten] at hfit ⊢
  obtain ⟨p'', hwrite, hadvance⟩ := hroom.advance more hfit
  rw [hwrite]
  exact hf p'' hadvance

/-- The text of a value and what is written behind it are one text. -/
theorem Wrote.extend {text more : List UInt8} (h : Wrote (front ++ text) more p) :
    Wrote front (text ++ more) p := by
  obtain ⟨hmax, ⟨k, hk, hoffset⟩, tail, hbuffer⟩ := h
  rw [List.length_append] at hoffset
  refine ⟨hmax, ⟨text.length + k, ?_, ?_⟩, tail, ?_⟩
  · rw [List.length_append]
    omega
  · omega
  · rw [hbuffer]
    simp only [List.append_assoc]

/-- The closing mark of an array or an object. -/
theorem close_spec (mark : UInt8) {text : List UInt8} (h : Room (front ++ text) 0 p) :
    Spec heap (front.length + text.length + 3) (Wrote front (text ++ [mark]))
      (ensure heap 2 p >>= fun p => p.write 0 [mark, 0]) := by
  apply (ensure_spec 2 h).bind (by rw [List.length_append])
  intro p' hroom
  obtain ⟨p'', hwrite, -, hwrote⟩ := hroom.wrote [mark] Nat.one_lt_two
  rw [show p'.write 0 [mark, 0] = .ok p'' from hwrite]
  exact Spec.ok hwrote.extend

/-- What the printer does for a tree. -/
def PrintsText (heap : Heap) (t : CJson) : Prop :=
  ∀ front p, Room front 0 p →
    Spec heap (front.length + t.text.length + 2) (Wrote front t.text) (printValue heap t p)

/-- The loop over the items of an array writes them with commas between them. -/
theorem printItems_spec (items : List CJson) (h : ∀ x ∈ items, PrintsText heap x) :
    ∀ front p, Room front 0 p →
      Spec heap (front.length + ([44].intercalate (items.map CJson.text)).length + 2)
        (Room (front ++ [44].intercalate (items.map CJson.text)) 0)
        (printItems heap items p) := by
  induction items with
  | nil =>
    intro front p hroom
    rw [printItems, List.map_nil, List.intercalate_nil, List.append_nil]
    exact Spec.ok hroom
  | cons x xs ih =>
    intro front p hroom
    have hvalue := h x List.mem_cons_self front p hroom
    rw [printItems]
    cases xs with
    | nil =>
      rw [List.map_cons, List.map_nil, List.intercalate_singleton]
      apply hvalue.bind (Nat.le_refl _)
      intro p' hwrote
      apply (updateOffset_spec 0 hwrote (ne_zero_of_mem_text x)).bind (Nat.zero_le _)
      intro p'' hroom'
      exact Spec.ok hroom'
    | cons x' xs =>
      have hrest := ih fun y hy => h y (List.mem_cons_of_mem x hy)
      have hlist : [44].intercalate ((x :: x' :: xs).map CJson.text) = _ :=
        intercalate_map_cons 44 x x' xs
      rw [hlist, List.length_append, List.length_cons]
      apply hvalue.bind (by omega)
      intro p' hwrote
      apply (updateOffset_spec 0 hwrote (ne_zero_of_mem_text x)).bind (Nat.zero_le _)
      intro p'' hroom'
      apply append_spec [44] [0] rfl hroom' (by decide) (by rw [List.length_append]; omega)
      intro p''' hcomma
      have happend : front ++ (x.text ++ 44 :: [44].intercalate ((x' :: xs).map CJson.text)) =
          front ++ x.text ++ [44] ++ [44].intercalate ((x' :: xs).map CJson.text) := by
        simp only [List.append_assoc, List.singleton_append]
      rw [happend]
      refine (hrest _ _ hcomma).mono ?_ fun _ hlast => hlast
      rw [List.length_append, List.length_append, List.length_singleton]
      omega

/-- A member is written with its key, a colon, and its value. -/
theorem printMember_spec (m : List UInt8 × CJson) (h : PrintsText heap m.2)
    (hroom : Room front 0 p) :
    Spec heap (front.length + (memberText m).length + 2) (Room (front ++ memberText m) 0)
      (printMember heap m p) := by
  have hkey : Spec heap _ _ _ := printStringPtr_spec m.1 hroom
  have hnul : ∀ b ∈ quoted m.1, b ≠ 0 := ne_zero_of_mem_text (.string m.1)
  rw [memberText_eq, List.length_append, List.length_cons]
  obtain ⟨key, item⟩ := m
  rw [printMember]
  apply hkey.bind (by omega)
  intro p' hwrote
  apply (updateOffset_spec 0 hwrote hnul).bind (Nat.zero_le _)
  intro p'' hroom'
  apply append_spec [58] [] rfl hroom' (by decide) (by rw [List.length_append]; omega)
  intro p''' hcolon
  apply (h _ _ hcolon).bind
    (by rw [List.length_append, List.length_append, List.length_singleton]; omega)
  intro q hvalue
  have hend : Spec heap _ _ _ := updateOffset_spec 0 hvalue (ne_zero_of_mem_text item)
  have happend : front ++ quoted key ++ [58] ++ item.text =
      front ++ (quoted key ++ 58 :: item.text) := by
    simp only [List.append_assoc, List.singleton_append]
  rw [happend] at hend
  exact hend.mono (Nat.zero_le _) fun _ hlast => hlast

/-- The loop over the members of an object writes them with commas between them. -/
theorem printMembers_spec (members : List (List UInt8 × CJson))
    (h : ∀ m ∈ members, PrintsText heap m.2) :
    ∀ front p, Room front 0 p →
      Spec heap (front.length + ([44].intercalate (members.map memberText)).length + 2)
        (Room (front ++ [44].intercalate (members.map memberText)) 0)
        (printMembers heap members p) := by
  induction members with
  | nil =>
    intro front p hroom
    rw [printMembers, List.map_nil, List.intercalate_nil, List.append_nil]
    exact Spec.ok hroom
  | cons m ms ih =>
    intro front p hroom
    have hmember := printMember_spec m (h m List.mem_cons_self) hroom
    have hrest := ih fun y hy => h y (List.mem_cons_of_mem m hy)
    have hlist : [44].intercalate ((m :: ms).map memberText) =
        memberText m ++ (comma (!ms.isEmpty) ++ [44].intercalate (ms.map memberText)) := by
      cases ms with
      | nil =>
        rw [List.map_cons, List.map_nil, List.intercalate_singleton]
        exact (List.append_nil _).symm
      | cons m' ms => exact intercalate_map_cons 44 m m' ms
    rw [printMembers, hlist, List.length_append, List.length_append]
    apply hmember.bind (by omega)
    intro p' hroom'
    apply append_spec (comma (!ms.isEmpty)) [0] rfl hroom' (by rw [List.length_append]; rfl)
      (by rw [List.length_append]; omega)
    intro p'' hcomma
    have happend : front ++ (memberText m ++
          (comma (!ms.isEmpty) ++ [44].intercalate (ms.map memberText))) =
        front ++ memberText m ++ comma (!ms.isEmpty) ++ [44].intercalate (ms.map memberText) := by
      simp only [List.append_assoc]
    rw [happend]
    refine (hrest _ _ hcomma).mono ?_ fun _ hlast => hlast
    rw [List.length_append, List.length_append]
    omega

/-- The printer writes the text of every tree. -/
theorem printValue_spec (t : CJson) : PrintsText heap t := by
  induction t using CJson.tree_induction with
  | jNull => exact fun front p h => printLiteral_spec _ h
  | jFalse => exact fun front p h => printLiteral_spec _ h
  | jTrue => exact fun front p h => printLiteral_spec _ h
  | number n d => exact fun front p h => printNumber_spec n d h
  | string input => exact fun front p h => printStringPtr_spec input h
  | array items ih =>
    intro front p hroom
    rw [printValue, CJson.text, itemTexts_eq, List.length_cons, List.length_append,
      List.length_singleton]
    apply append_spec [91] [] rfl hroom (by decide) (by omega)
    intro p' hopen
    apply (printItems_spec items ih _ _ hopen).bind
      (by rw [List.length_append, List.length_singleton]; omega)
    intro p'' hitems
    rw [List.append_assoc] at hitems
    refine (close_spec 93 hitems).mono ?_ fun _ hlast => hlast
    rw [List.length_append, List.length_singleton]
    omega
  | object members ih =>
    intro front p hroom
    rw [printValue, CJson.text, memberTexts_eq, List.length_cons, List.length_append,
      List.length_singleton]
    apply append_spec [123] [] rfl hroom (by decide) (by omega)
    intro p' hopen
    apply (printMembers_spec members ih _ _ hopen).bind
      (by rw [List.length_append, List.length_singleton]; omega)
    intro p'' hmembers
    rw [List.append_assoc] at hmembers
    refine (close_spec 125 hmembers).mono ?_ fun _ hlast => hlast
    rw [List.length_append, List.length_singleton]
    omega

/-! ### The printer and the parser -/

/-- `cJSON_PrintUnformatted` gives the text of the tree with its NUL, or it is refused. -/
theorem cJSONPrintUnformatted_cases (heap : Heap) (t : CJson) :
    (cJSONPrintUnformatted heap t = .error .refused ∧
      (intMax < t.text.length + 2 ∨ ∃ i, heap i = none)) ∨
    cJSONPrintUnformatted heap t = .ok (t.text ++ [0]) := by
  rw [cJSONPrintUnformatted]
  cases hstart : heap 0 with
  | none => exact Or.inl ⟨rfl, Or.inr ⟨0, hstart⟩⟩
  | some fresh =>
    have hroom : Room [] 0 ⟨reallocate fresh [] defaultBufferSize, 0, 1⟩ := by
      have hlength := length_reallocate fresh [] defaultBufferSize
      generalize reallocate fresh [] defaultBufferSize = buffer at hlength
      refine ⟨rfl, ?_, buffer, rfl, ?_⟩
      · rw [hlength]
        decide
      · rw [hlength]
        decide
    dsimp only
    rcases printValue_spec t [] _ hroom with ⟨hrefused, hcause⟩ | ⟨p, hp, hwrote⟩
    · rw [hrefused]
      rw [List.length_nil, Nat.zero_add] at hcause
      exact Or.inl ⟨rfl, hcause⟩
    · obtain ⟨p', hp', hoffset, -, tail, hbuffer⟩ := hwrote.updateOffset (ne_zero_of_mem_text t)
      rw [hp]
      show ((updateOffset p >>= cutBlock heap) = _ ∧ _) ∨ (updateOffset p >>= cutBlock heap) = _
      rw [hp']
      show (cutBlock heap p' = _ ∧ _) ∨ cutBlock heap p' = _
      rw [cutBlock]
      cases hend : heap p'.calls with
      | none => exact Or.inl ⟨rfl, Or.inr ⟨p'.calls, hend⟩⟩
      | some fresh' =>
        right
        rw [List.nil_append] at hoffset hbuffer
        have hcut : reallocate fresh' p'.buffer (p'.offset + 1) = t.text ++ [0] := by
          have hsplit : t.text ++ 0 :: tail = (t.text ++ [0]) ++ tail := by
            rw [List.append_assoc, List.singleton_append]
          have hlength : p'.offset + 1 = (t.text ++ [0]).length := by
            rw [hoffset, List.length_append]
            rfl
          rw [reallocate, hbuffer, hsplit, hlength, List.append_assoc, List.take_left]
        exact congrArg Except.ok hcut

/-- The printer stays inside its buffer, whatever the allocator answers, and leaves the text of
the tree with its NUL. It is refused only when the allocator fails, or when the text comes near
`INT_MAX`. What it prints is parsed back, exactly when the tree is within the nesting limit. Every
string is then cut at its first NUL, and every number is the one that its text denotes. -/
theorem print_parse (heap : Heap) (t : CJson) :
    cJSONPrintUnformatted heap t ≠ .error .outside ∧
    (∀ block, cJSONPrintUnformatted heap t = .ok block →
      block = t.text ++ [0] ∧
        cJSONParse block = if t.depth ≤ cjsonNestingLimit then some t.reread else none) ∧
    ((∀ i, heap i ≠ none) → t.text.length + 2 ≤ intMax →
      ∃ block, cJSONPrintUnformatted heap t = .ok block) := by
  have hparse : cJSONParse (t.text ++ [0]) = _ := cJSONParse_text t []
  rcases cJSONPrintUnformatted_cases heap t with ⟨hrefused, hcause⟩ | hprinted
  · rw [hrefused]
    refine ⟨by decide, fun block h => (nomatch h), fun hheap hlength => ?_⟩
    rcases hcause with hlong | ⟨i, hnull⟩
    · exact absurd hlong (Nat.not_lt.mpr hlength)
    · exact absurd hnull (hheap i)
  · rw [hprinted]
    refine ⟨nofun, fun block h => ?_, fun _ _ => ⟨_, rfl⟩⟩
    obtain rfl := Except.ok.inj h
    exact ⟨rfl, hparse⟩

/-- Whatever the parser accepts, its print is parsed again. With its own numbers in place of those
that come back, the tree is the same. It comes back as the same tree exactly when every number of
it is kept. -/
theorem reparse (heap : Heap) (value : List UInt8) (t : CJson) (block : List UInt8)
    (hparse : cJSONParse value = some t) (hprint : cJSONPrintUnformatted heap t = .ok block) :
    cJSONParse block = some (t.rebuild rereadNumber) ∧ t.rebuild CJson.number = t ∧
      (t.rebuild rereadNumber = t ↔ ∀ m ∈ t.numbers, Kept m.2) := by
  obtain ⟨hdepth, hcreated⟩ := cJSONParse_spec hparse
  refine ⟨?_, (CJson.rebuild_eq_iff t hcreated).mpr fun m _ => rfl, reread_eq_iff hcreated⟩
  rcases cJSONPrintUnformatted_cases heap t with ⟨hrefused, -⟩ | hprinted
  · rw [hrefused] at hprint
    cases hprint
  · rw [hprinted] at hprint
    obtain rfl := Except.ok.inj hprint
    rw [cJSONParse_text t [], readText, if_pos hdepth]
    rfl

/-- A text with white space, with escapes that the printer does not use, with a fraction, and with
three numbers that are lost: one is infinite, one becomes infinite in its 15 digits, and the last
one is too close to 7. -/
theorem reparse_numbers :
    ∃ t, cJSONParse
        (ofText " [ \"\\u0041\\/\",-7.9e0,1e400,1.7976931348623157e308,6.9999999999999991] .") =
        some t ∧
      t.text = ofText "[\"A/\",-7.9,null,1.79769313486232e+308,7]" ∧
      t.reread.text = ofText "[\"A/\",-7.9,null,null,7]" ∧
      cJSONParse (t.text ++ [0]) = some t.reread := by
  have hparse : (cJSONParse
      (ofText " [ \"\\u0041\\/\",-7.9e0,1e400,1.7976931348623157e308,6.9999999999999991] .")).map
      (fun t => (t.text, t.reread.text)) =
      some (ofText "[\"A/\",-7.9,null,1.79769313486232e+308,7]",
        ofText "[\"A/\",-7.9,null,null,7]") := by decide +kernel
  obtain ⟨t, ht, htexts⟩ := Option.map_eq_some_iff.mp hparse
  obtain ⟨htext, hreread⟩ := Prod.mk.inj htexts
  refine ⟨t, ht, htext, hreread, ?_⟩
  rcases cJSONPrintUnformatted_cases (fun _ => some fun _ => 0xFF) t with
    ⟨-, hlong | ⟨i, hnull⟩⟩ | hprinted
  · rw [htext] at hlong
    exact absurd hlong (by decide +kernel)
  · cases hnull
  · exact (reparse _ _ t _ ht hprinted).1

/-! ### The messages of the firmware -/

/-- The printer of the repository, when its memory lasts. -/
abbrev cJSONPrinter : CJsonPrinter where
  cJSONPrintUnformatted t := t.text ++ [0]
  cString_ne_nil t := by
    obtain ⟨b, u, htext, -⟩ := text_cons t
    rw [cString_append [] (ne_zero_of_mem_text t), htext]
    exact List.cons_ne_nil b u

/-- The object of a message has one level. -/
theorem depth_rootObject (fields : List Field) (add : Nat → Bool) :
    (rootObject fields add).depth ≤ cjsonNestingLimit := by
  have hmembers : membersDepth (fields.zipIdx.filterMap fun f =>
      if add f.2 then f.1.member else none) ≤ 0 := by
    rw [membersDepth_le_iff]
    intro m hm
    obtain ⟨f, -, hf⟩ := List.mem_filterMap.mp hm
    split at hf
    · cases hfield : f.1 with
      | number name value =>
        rw [hfield] at hf
        obtain rfl := Option.some.inj hf
        exact Nat.le_refl 0
      | bool name value =>
        rw [hfield] at hf
        obtain rfl := Option.some.inj hf
        cases value <;> exact Nat.le_refl 0
      | string name text =>
        rw [hfield] at hf
        obtain ⟨t, -, rfl⟩ := Option.map_eq_some_iff.mp hf
        exact Nat.le_refl 0
    · cases hf
  rw [rootObject, CJson.depth, cjsonNestingLimit]
  omega

/-- The C string in a printed block is parsed back. -/
theorem cJSONParse_cString (t : CJson) :
    cJSONParse (cString (t.text ++ [0])) = readText cjsonNestingLimit t := by
  have hnul := ne_zero_of_mem_text t
  have hself : cString t.text = t.text :=
    List.takeWhile_eq_self_iff.mpr fun b hb => decide_eq_true (hnul b hb)
  rw [← cJSONParse_text t [], cString_append [] hnul, cJSONParse, cJSONParse, hself,
    cString_append [] hnul]

/-- The keys of an object survive the printer and the parser of the repository. -/
theorem printKeepsKeys : @PrintKeepsKeys cJSONPrinter cJSONParser := by
  intro members members' hnul hparse
  have hprinted := cJSONParse_cString (.object members)
  rw [readText] at hprinted
  have hmembers : rebuildMembers rereadNumber members = members' := by
    split at hprinted
    · exact CJson.object.inj (Option.some.inj (hprinted.symm.trans hparse))
    · cases hprinted.symm.trans hparse
  rw [← hmembers, rebuildMembers_eq, List.map_map]
  apply List.map_congr_left
  intro m hm
  show (rebuildMember rereadNumber m).1 = m.1
  rw [rebuildMember_eq]
  exact List.takeWhile_eq_self_iff.mpr fun b hb => decide_eq_true (hnul m hm b hb)

/-- The text that a builder prints is parsed back to the object that it built. -/
theorem cJSONParse_build {fields : List Field} {io : PublishIO} {text : List UInt8}
    (h : (@build cJSONPrinter fields io).msgStr = some text) :
    cJSONParse text = some (rootObject fields io.add).reread := by
  have htext : text = cString ((rootObject fields io.add).text ++ [0]) := by
    simp only [build] at h
    split at h
    · cases h
    · split at h
      · cases h
      · split at h
        · exact (Option.some.inj h).symm
        · exact (Option.some.inj h).symm
  rw [htext, cJSONParse_cString, readText, if_pos (depth_rootObject fields io.add)]

/-- A node that a lookup finds in a tree of the parser is like one of the parser. -/
theorem created_getObjectItem {t x : CJson} {name : String} (ht : t.created = t)
    (h : getObjectItem (some t) name = some x) : x.created = x := by
  cases t with
  | object members =>
    obtain ⟨m, hm, rfl⟩ := Option.map_eq_some_iff.mp h
    have hmembers : members.map (rebuildMember fun _ d => cJSONCreateNumber d) =
        members.map id := by
      rw [← rebuildMembers_eq, List.map_id]
      exact CJson.object.inj ht
    have hself := List.map_inj_left.mp hmembers m (List.mem_of_find?_eq_some hm)
    rw [rebuildMember_eq] at hself
    exact congrArg Prod.snd hself
  | _ => cases h

/-- The text of a response, as the server parses it, when all its members get their memory. The
command id in it is the one that the parser found in the command, byte for byte, whatever had to
be escaped. -/
theorem response_parses_back (payload id text : List UInt8) (io : PublishIO) (thresholds : Bool)
    (hid : (getObjectItem (@parsePayload cJSONParser payload) "commandId").bind
      CJson.valuestring = some id)
    (hadd : ∀ i, io.add i = true)
    (htext : (@Publication.builder cJSONPrinter
      (if thresholds then .thresholdsResponse (some id) else .deviceResponse (some id))
        io).msgStr = some text) :
    cJSONParse text = some (.object [(ofText "commandId", .string id),
      (ofText "success", .jTrue),
      (ofText "message", .string (ofText (if thresholds then "设置成功" else "执行成功")))]) := by
  obtain ⟨node, hnode, hstring⟩ := Option.bind_eq_some_iff.mp hid
  -- The id is a C string, because the parser made it.
  have hcut : cString id = id := by
    cases hparse : @parsePayload cJSONParser payload with
    | none =>
      rw [hparse] at hnode
      cases hnode
    | some t =>
      rw [hparse] at hnode
      have hself := created_getObjectItem (cJSONParse_spec hparse).2 hnode
      cases node with
      | string s =>
        obtain rfl := Option.some.inj hstring
        exact CJson.string.inj hself
      | _ => cases hstring
  have hall : io.add = fun _ => true := funext hadd
  have hmembers : ∀ message,
      (rootObject (Builder.responseFields message (some id)) io.add).reread =
        .object [(cString (ofText "commandId"), .string (cString id)),
          (cString (ofText "success"), .jTrue),
          (cString (ofText "message"), .string (cString (ofText message)))] := by
    intro message
    rw [hall, rootObject_all]
    rfl
  have hnames : cString (ofText "commandId") = ofText "commandId" ∧
      cString (ofText "success") = ofText "success" ∧
      cString (ofText "message") = ofText "message" ∧
      cString (ofText "设置成功") = ofText "设置成功" ∧
      cString (ofText "执行成功") = ofText "执行成功" := by decide +kernel
  obtain ⟨hcommand, hsuccess, hmessage, hset, hdone⟩ := hnames
  rw [@Publication.builder_eq cJSONPrinter] at htext
  rw [cJSONParse_build htext]
  cases thresholds with
  | true => rw [if_pos rfl, Publication.fields, hmembers, hcut, hcommand, hsuccess, hmessage,
      if_pos rfl, hset]
  | false => rw [if_neg Bool.false_ne_true, Publication.fields, hmembers, hcut, hcommand,
      hsuccess, hmessage, if_neg Bool.false_ne_true, hdone]

/-- A command id with a quote and a line feed. -/
theorem response_parses_back_escaped :
    cJSONParse (ofText "\x7b\"commandId\":\"a\\\"\\n\",\"success\":true,\"message\":\"执行成功\"\x7d") =
      some (.object [(ofText "commandId", .string [97, 34, 10]), (ofText "success", .jTrue),
        (ofText "message", .string (ofText "执行成功"))]) :=
  response_parses_back (ofText "\x7b\"commandId\": \"a\\u0022\\n\"\x7d") [97, 34, 10] _ .ok false
    (by decide +kernel) (fun _ => rfl) (by decide +kernel)

end SmartBuilding
