import SmartBuilding.FileAccess
import SmartBuilding.Proofs.Pager

/-!
# `SmartBuilding.Proofs.FileAccess`: the DHT11 reader stays within its arrays

The accesses of a call are in bounds exactly when the call has a result
(`accesses_inBounds_iff`). This holds for every file. On a file of DHT11 lines, with the
position at the end of a line, the call has a result, and `fgets` takes one line at a time
(`taken_lines`).

Both conditions hold after every run of the functions of the log (`Represents` with the
readings written so far), so every call of the reader in a run is safe
(`dht11_tokeniser_safe`).
-/

set_option autoImplicit false

namespace SmartBuilding

open CText

/-! ### One line -/

/-- The array holds the slots of a list, and nothing behind them. -/
structure TokenArray.Holds (a : TokenArray) (slots : List Nat) : Prop where
  str : a.str = fun i => slots[i]?
  index : a.index.toNat = slots.length

theorem TokenArray.holds_empty : TokenArray.empty.Holds [] := by
  refine ⟨?_, rfl⟩
  funext i
  exact List.getElem?_nil.symm

/-- The null pointer after the tokens changes nothing. -/
theorem TokenArray.Holds.store_none {a : TokenArray} {slots : List Nat} (h : a.Holds slots) :
    (a.store none).Holds slots := by
  refine ⟨?_, h.index⟩
  have hnull : slots[a.index.toNat]? = none := by
    rw [List.getElem?_eq_none_iff, h.index]
  show Function.update a.str a.index.toNat none = _
  rw [h.str, Function.update_eq_self_iff, hnull]

/-- A token goes behind the slots. -/
theorem TokenArray.Holds.store_some {a : TokenArray} {slots : List Nat} (h : a.Holds slots)
    (hroom : slots.length < 255) (t : Nat) :
    TokenArray.Holds { a.store (some t) with index := a.index + 1 } (slots ++ [t]) := by
  constructor
  · funext i
    show Function.update a.str a.index.toNat (some t) i = (slots ++ [t])[i]?
    rw [h.str, h.index]
    rcases Nat.lt_trichotomy i slots.length with hlt | rfl | hgt
    · rw [Function.update_of_ne (by omega), List.getElem?_append_left hlt]
    · rw [Function.update_self, List.getElem?_concat_length]
    · have hout : slots[i]? = none := List.getElem?_eq_none_iff.mpr (by omega)
      have hout' : (slots ++ [t])[i]? = none := by
        rw [List.getElem?_eq_none_iff, List.length_append, List.length_singleton]
        omega
      rw [Function.update_of_ne (by omega), hout, hout']
  · show (a.index + 1).toNat = (slots ++ [t]).length
    have hindex := h.index
    rw [UInt8.toNat_add, List.length_append, List.length_singleton]
    show (a.index.toNat + 1) % 256 = _
    omega

/-- The array after a line whose tokens have room. -/
theorem TokenArray.Holds.tokenise (tokens : List Nat) :
    ∀ {a : TokenArray} {slots : List Nat}, a.Holds slots →
      slots.length + tokens.length < 255 → (a.tokenise tokens).1.Holds (slots ++ tokens) := by
  induction tokens with
  | nil =>
    intro a slots h _
    rw [List.append_nil]
    exact h.store_none
  | cons t tokens ih =>
    intro a slots h hroom
    rw [List.length_cons] at hroom
    have hnext := ih (h.store_some (by omega) t) (by
      rw [List.length_append, List.length_singleton]
      omega)
    rw [List.append_assoc] at hnext
    exact hnext

/-- The stores of a line are in bounds exactly when the last one is. -/
theorem TokenArray.tokenise_inBounds_iff (tokens : List Nat) :
    ∀ {a : TokenArray}, a.index.toNat ≤ dht11ArraySize * 2 + 1 →
      ((∀ x ∈ (a.tokenise tokens).2, x.InBounds) ↔
        a.index.toNat + tokens.length ≤ dht11ArraySize * 2) := by
  have hsize : dht11ArraySize = 25 := rfl
  induction tokens with
  | nil =>
    intro a _
    simp [tokenise, Dht11Access.InBounds]
  | cons t tokens ih =>
    intro a h
    have hcons : (a.tokenise (t :: tokens)).2 = .store a.index.toNat (some t) ::
        (({ a.store (some t) with index := a.index + 1 } : TokenArray).tokenise tokens).2 := rfl
    rw [hcons, List.forall_mem_cons, List.length_cons]
    show a.index.toNat ≤ dht11ArraySize * 2 ∧ _ ↔ _
    by_cases hlast : a.index.toNat ≤ dht11ArraySize * 2
    · have hindex : (a.index + 1).toNat = a.index.toNat + 1 := by
        rw [UInt8.toNat_add]
        show (a.index.toNat + 1) % 256 = _
        omega
      have hrest := ih (a := { a.store (some t) with index := a.index + 1 }) (by
        show (a.index + 1).toNat ≤ _
        omega)
      rw [hrest]
      show a.index.toNat ≤ _ ∧ (a.index + 1).toNat + _ ≤ _ ↔ _
      omega
    · exact ⟨fun hall => absurd hall.1 hlast, fun hle => by omega⟩

theorem inBounds_convert (slot0 slot1 : Option Nat) :
    (Dht11Access.convert slot0 slot1).InBounds ↔ slot0.isSome = true ∧ slot1.isSome = true :=
  Iff.rfl

/-- One pass has a result exactly when its accesses are in bounds. -/
theorem pass_inBounds_iff {a : TokenArray} {slots : List Nat} (h : a.Holds slots)
    (hroom : slots.length ≤ dht11ArraySize * 2) (line : List UInt8) :
    (∀ x ∈ (a.pass line).2.2, x.InBounds) ↔ (dht11Pass slots line).isSome = true := by
  have hsize : dht11ArraySize = 25 := rfl
  have hindex := h.index
  have hstores := TokenArray.tokenise_inBounds_iff (strtok 32 false 0 line).1
    (a := a) (by omega)
  simp only [TokenArray.pass, dht11Pass, List.forall_mem_append, List.forall_mem_singleton,
    hstores, inBounds_convert]
  by_cases hfits : slots.length + (strtok 32 false 0 line).1.length ≤ dht11ArraySize * 2
  · have hholds := h.tokenise (strtok 32 false 0 line).1 (by omega)
    rw [hholds.str, if_neg (by rw [List.length_append]; omega), hindex]
    rw [and_iff_right hfits]
    -- The pass converts exactly when the first two slots are there.
    cases hslot0 : (slots ++ (strtok 32 false 0 line).1)[0]? <;>
      cases hslot1 : (slots ++ (strtok 32 false 0 line).1)[1]? <;>
      simp only [hslot0, hslot1, Option.isSome_none, Option.isSome_some, Bool.false_eq_true,
        and_self, and_false, false_and]
  · rw [if_pos (by rw [List.length_append]; omega), hindex]
    simp [hfits]

/-- The array after a pass with a result holds its slots, and every pass sends a reading. -/
theorem pass_holds {a : TokenArray} {slots slots' : List Nat} {line line' : List UInt8}
    {r : Option (UInt8 × UInt8)} (h : a.Holds slots)
    (hpass : dht11Pass slots line = some (slots', line', r)) :
    (a.pass line).1.Holds slots' ∧ (a.pass line).2.1 = line' ∧ r.isSome = true ∧
      slots'.length ≤ dht11ArraySize * 2 := by
  have hsize : dht11ArraySize = 25 := rfl
  simp only [dht11Pass] at hpass
  split at hpass
  · cases hpass
  · rename_i hfits
    rw [List.length_append] at hfits
    split at hpass
    · obtain ⟨rfl, rfl, rfl⟩ := by simpa using hpass
      have hholds := h.tokenise (strtok 32 false 0 line).1 (by omega)
      refine ⟨hholds, rfl, rfl, ?_⟩
      rw [List.length_append]
      omega
    · cases hpass

/-! ### One call -/

theorem inBounds_fgets (stream : List UInt8) :
    (Dht11Access.fgets (fgetsLine (lineSize - 1) stream)).InBounds := by
  have hle := length_fgetsLine_le (lineSize - 1) stream
  have hsize : lineSize = 10 := rfl
  show _ + 1 ≤ lineSize
  omega

/-- The loop has a result exactly when its accesses are in bounds. -/
theorem loop_inBounds_iff : ∀ (left count : Nat) {a : TokenArray} {slots : List Nat},
    a.Holds slots → slots.length ≤ dht11ArraySize * 2 → count + left = dht11ArraySize →
    ∀ line stream, (∀ x ∈ dht11LoopAccesses left a line stream, x.InBounds) ↔
      (fgetsLoop dht11ArraySize dht11Pass slots line count stream).isSome = true := by
  intro left
  induction left with
  | zero =>
    intro count a slots _ _ hcount line stream
    rw [dht11LoopAccesses, fgetsLoop]
    split
    · simp
    · rw [if_pos (by omega), List.forall_mem_singleton]
      exact iff_of_true (inBounds_fgets stream) rfl
  | succ left ih =>
    intro count a slots h hroom hcount line stream
    rw [dht11LoopAccesses, fgetsLoop]
    split
    · simp
    · have hfgets := inBounds_fgets stream
      have hpass := pass_inBounds_iff h hroom
        (fgetsBuffer (fgetsLine (lineSize - 1) stream) line)
      rw [if_neg (by omega), List.forall_mem_cons, List.forall_mem_append,
        and_iff_right hfgets, hpass]
      cases hresult : dht11Pass slots
          (fgetsBuffer (fgetsLine (lineSize - 1) stream) line) with
      | none => simp
      | some result =>
        obtain ⟨slots', line', r⟩ := result
        obtain ⟨hholds, hline, hsends, hroom'⟩ := pass_holds h hresult
        obtain ⟨reading, rfl⟩ := Option.isSome_iff_exists.mp hsends
        -- The rest of the loop starts with one pass less.
        have hrest := ih (count + 1) hholds hroom' (by omega) line'
          (stream.drop (fgetsLine (lineSize - 1) stream).length)
        rw [Option.isSome_some, and_iff_right rfl, hline, hrest]
        simp

/-- The accesses of a call are in bounds exactly when the call has a result. -/
theorem accesses_inBounds_iff (line : List UInt8) (f : LogFile) :
    (∀ x ∈ dht11Accesses line f, x.InBounds) ↔ (readAndSendDht11Data line f).isSome = true := by
  unfold dht11Accesses readAndSendDht11Data
  cases f.bytes with
  | none => simp
  | some bytes =>
    have hloop := loop_inBounds_iff dht11ArraySize 0 TokenArray.holds_empty (Nat.zero_le _)
      (Nat.zero_add dht11ArraySize) line (bytes.drop f.lastPosition)
    rw [Option.isSome_map]
    exact hloop

/-- A pass does not call `fgets`. -/
theorem taken_pass (a : TokenArray) (line : List UInt8) :
    (a.pass line).2.2.filterMap Dht11Access.taken? = [] := by
  have hstores : ∀ (tokens : List Nat) (a : TokenArray),
      (a.tokenise tokens).2.filterMap Dht11Access.taken? = [] := by
    intro tokens
    induction tokens with
    | nil => intro a; rfl
    | cons t tokens ih => intro a; exact ih _
  show ((a.tokenise _).2 ++ [_]).filterMap Dht11Access.taken? = []
  rw [List.filterMap_append, hstores]
  rfl

/-- On a stream of lines, `fgets` takes one line at a time. -/
theorem taken_lines : ∀ (left : Nat) (a : TokenArray) (line : List UInt8)
    (rs : List (UInt8 × UInt8)),
    (dht11LoopAccesses left a line (rs.flatMap dht11Line)).filterMap Dht11Access.taken? =
      (rs.take (left + 1)).map dht11Line := by
  intro left
  induction left with
  | zero =>
    intro a line rs
    cases rs with
    | nil => rfl
    | cons r rs =>
      have hne : dht11Line r ++ rs.flatMap dht11Line ≠ [] := by simp [dht11Line]
      rw [List.flatMap_cons, dht11LoopAccesses, if_neg hne, fgetsLine_dht11Line]
      rfl
  | succ left ih =>
    intro a line rs
    cases rs with
    | nil => rfl
    | cons r rs =>
      have hne : dht11Line r ++ rs.flatMap dht11Line ≠ [] := by simp [dht11Line]
      rw [List.flatMap_cons, dht11LoopAccesses, if_neg hne, fgetsLine_dht11Line]
      simp only [List.filterMap_cons, List.filterMap_append, taken_pass, List.nil_append,
        Dht11Access.taken?, List.drop_left, ih]
      rfl

/-! ### Runs -/

/-- A call of the reader on the log `f`, after the readings `rs` were written: it starts at the
end of a record, `fgets` takes whole records, and every access is in bounds. -/
structure SafeCall (rs : List (UInt8 × UInt8)) (line : List UInt8) (f : LogFile) : Prop where
  bytes : f.bytes.getD [] = rs.flatMap dht11Line
  records : ∃ n ≤ rs.length, f.lastPosition = ((rs.take n).flatMap dht11Line).length ∧
    (dht11Accesses line f).filterMap Dht11Access.taken? =
      ((rs.drop n).take (dht11ArraySize + 1)).map dht11Line
  inBounds : ∀ x ∈ dht11Accesses line f, x.InBounds

open SensorLog (Represents)

/-- A call on a log that represents the readings is safe. -/
theorem SensorLog.Represents.safeCall {f : LogFile} {s : PagedLog (UInt8 × UInt8)}
    (h : Represents dht11Line (fun _ => True) f s) (line : List UInt8) :
    SafeCall s.records line f := by
  refine ⟨h.bytes, ⟨s.next, h.next_le, h.position, ?_⟩, ?_⟩
  · have hdrop := h.drop
    unfold dht11Accesses
    cases hbytes : f.bytes with
    | none =>
      have hnil := h.records_of_absent dht11Log_spec.line_ne_nil hbytes
      rw [hnil, List.drop_nil]
      rfl
    | some bytes =>
      rw [hbytes, Option.getD_some] at hdrop
      simp only [hdrop]
      exact taken_lines _ _ _ _
  · obtain ⟨g, hload, -⟩ := h.load dht11Log_spec line
    rw [accesses_inBounds_iff]
    show (dht11Log.readAndSend line f).isSome = true
    rw [hload]
    rfl

theorem dht11Written_concat (es : List Dht11Event) (e : Dht11Event) :
    dht11Written (es ++ [e]) = dht11Written es ++ dht11Written [e] := List.filterMap_append

/-- A log at its end represents its readings. -/
theorem SensorLog.Represents.setEnd {f : LogFile} {s : PagedLog (UInt8 × UInt8)}
    (h : Represents dht11Line (fun _ => True) f s) :
    ∃ n, Represents dht11Line (fun _ => True) (setDht11ReadPositionEnd f) ⟨s.records, n⟩ := by
  cases hbytes : f.bytes with
  | none =>
    rw [setDht11ReadPositionEnd, hbytes]
    exact ⟨s.next, h⟩
  | some bytes =>
    have htext := h.bytes
    rw [hbytes, Option.getD_some] at htext
    rw [setDht11ReadPositionEnd, hbytes]
    refine ⟨s.records.length, htext, ?_, h.valid, Nat.le_refl _⟩
    show bytes.length = ((s.records.take s.records.length).flatMap dht11Line).length
    rw [List.take_length, htext]

/-- A call of a function of the log has a result, which represents the readings with the one
that the call writes. -/
theorem dht11Events_step {f : LogFile} {s : PagedLog (UInt8 × UInt8)}
    (h : Represents dht11Line (fun _ => True) f s) (e : Dht11Event) :
    ∃ g n, dht11Events.step (some f) e = some g ∧
      Represents dht11Line (fun _ => True) g ⟨s.records ++ dht11Written [e], n⟩ := by
  cases e with
  | write temp humi => exact ⟨_, s.next, rfl, h.write (r := (temp, humi)) trivial⟩
  | load line =>
    obtain ⟨g, hload, hnext⟩ := h.load dht11Log_spec line
    have hstep : dht11Events.step (some f) (.load line) = some g := by
      show (dht11Log.readAndSend line f).map Prod.fst = some g
      rw [hload]
      rfl
    show ∃ g n, _ ∧ Represents _ _ g ⟨s.records ++ [], n⟩
    rw [List.append_nil]
    exact ⟨g, _, hstep, hnext⟩
  | reset =>
    show ∃ g n, _ ∧ Represents _ _ g ⟨s.records ++ [], n⟩
    rw [List.append_nil]
    exact ⟨_, 0, rfl, h.bytes, rfl, h.valid, Nat.zero_le _⟩
  | setEnd =>
    obtain ⟨n, hend⟩ := h.setEnd
    show ∃ g n, _ ∧ Represents _ _ g ⟨s.records ++ [], n⟩
    rw [List.append_nil]
    exact ⟨_, n, rfl, hend⟩

/-- After every run, the log represents the readings that the run wrote. -/
theorem dht11Events_run (es : List Dht11Event) :
    ∃ f n, dht11Events.run (some .empty) es = some f ∧
      Represents dht11Line (fun _ => True) f ⟨dht11Written es, n⟩ := by
  induction es using List.reverseRecOn with
  | nil => exact ⟨_, 0, rfl, SensorLog.Represents.empty⟩
  | append_singleton es e ih =>
    obtain ⟨f, n, hrun, hrep⟩ := ih
    obtain ⟨g, m, hstep, hnext⟩ := dht11Events_step hrep e
    rw [Machine.run_append, hrun, dht11Written_concat]
    exact ⟨g, m, hstep, hnext⟩

/-- Every call of the reader in a run of the log is safe. -/
theorem dht11_tokeniser_safe (es : List Dht11Event) (line : List UInt8) :
    ∃ f, dht11Events.run (some .empty) es = some f ∧ SafeCall (dht11Written es) line f := by
  obtain ⟨f, n, hrun, hrep⟩ := dht11Events_run es
  exact ⟨f, hrun, hrep.safeCall line⟩

end SmartBuilding
