import SmartBuilding.File

/-!
# `SmartBuilding.Proofs.File`: one call of a log reader

The stream of a log is the text of its unread readings, one line each. `fgetsLoop_lines`
follows the loop over such a stream. Of a full page it sends `limit` readings, but it takes
one line more.

The light reader sends what was written (`readAndSendLightData_lines`). The DHT11 reader
gets every temperature right, but it looks for the humidity where the first line of the call
has it (`dht11Pass_line`). What it finds there depends on the widths of the two temperatures
(`readHumi`), and is the humidity exactly when `ReadsBack` holds.
`dht11_reads_back_iff` says this for one call on a file that was written from empty.
-/

set_option autoImplicit false

namespace SmartBuilding

open CText

/-! ### The loop -/

section
variable {σ ρ : Type} {limit : Nat}
  {body : σ → List UInt8 → Option (σ × List UInt8 × Option ρ)}

/-- The loop at the end of the stream. -/
theorem fgetsLoop_nil (s : σ) (line : List UInt8) (count : Nat) :
    fgetsLoop limit body s line count [] = some ([], 0) := by
  rw [fgetsLoop]
  simp

/-- The loop after a full page: the next line is taken and not looked at. -/
theorem fgetsLoop_full {text rest : List UInt8} (hne : text ≠ [])
    (hgot : fgetsLine (lineSize - 1) (text ++ rest) = text) (s : σ) (line : List UInt8)
    {count : Nat} (h : limit ≤ count) :
    fgetsLoop limit body s line count (text ++ rest) = some ([], text.length) := by
  rw [fgetsLoop]
  simp [hgot, hne, h]

/-- The loop on a line, when its pass sends a record. -/
theorem fgetsLoop_line {text rest : List UInt8} (hne : text ≠ [])
    (hgot : fgetsLine (lineSize - 1) (text ++ rest) = text) {s s' : σ}
    {line line' : List UInt8} {r : ρ}
    (hpass : body s (fgetsBuffer text line) = some (s', line', some r)) {count : Nat}
    (h : count < limit) :
    fgetsLoop limit body s line count (text ++ rest) =
      (fgetsLoop limit body s' line' (count + 1) rest).map
        fun p => (r :: p.1, text.length + p.2) := by
  rw [fgetsLoop]
  simp [hgot, hne, hpass, Nat.not_le.mpr h]

/-- The loop over a stream of lines. `I` is what the variables of the loop satisfy after
`count` records, and `read` is what a pass makes of a record. -/
theorem fgetsLoop_lines (text : ρ → List UInt8) (read : ρ → ρ) (I : Nat → σ → Prop)
    (recs : List ρ) (hne : ∀ r ∈ recs, text r ≠ [])
    (hgot : ∀ r ∈ recs, ∀ rest, fgetsLine (lineSize - 1) (text r ++ rest) = text r)
    (hpass : ∀ r ∈ recs, ∀ count s line, count < limit → I count s →
      ∃ s' line', body s (fgetsBuffer (text r) line) = some (s', line', some (read r)) ∧
        I (count + 1) s') :
    ∀ (s : σ) (line : List UInt8) (count : Nat), I count s → count ≤ limit →
      fgetsLoop limit body s line count (recs.flatMap text) =
        some ((recs.take (limit - count)).map read,
          ((recs.take (limit - count + 1)).flatMap text).length) := by
  induction recs with
  | nil =>
    intro s line count _ _
    simp [fgetsLoop_nil]
  | cons r recs ih =>
    intro s line count hI hle
    have hr : r ∈ r :: recs := List.mem_cons_self
    rw [List.flatMap_cons]
    -- A full page: the loop condition has taken the line `r` already.
    by_cases hfull : limit ≤ count
    · have hzero : limit - count = 0 := by omega
      rw [fgetsLoop_full (hne r hr) (hgot r hr _) _ _ hfull, hzero]
      simp
    · obtain ⟨s', line', hbody, hI'⟩ := hpass r hr count s line (by omega) hI
      have hrest := ih (fun x hx => hne x (List.mem_cons_of_mem r hx))
        (fun x hx => hgot x (List.mem_cons_of_mem r hx))
        (fun x hx => hpass x (List.mem_cons_of_mem r hx)) s' line' (count + 1) hI' (by omega)
      -- One record less to go, in both the page and the lines taken.
      have hsucc : limit - count = limit - (count + 1) + 1 := by omega
      rw [fgetsLoop_line (hne r hr) (hgot r hr _) hbody (by omega), hrest, hsucc]
      simp

end

/-! ### Lines of text -/

theorem toNat_isDigit {b : UInt8} (h : isDigit b) : 48 ≤ b.toNat ∧ b.toNat ≤ 57 := by
  simpa [isDigit, UInt8.le_iff_toNat_le] using h

/-- A printed number has no NUL, newline or blank. -/
theorem decimal_word {n : Nat} {b : UInt8} (h : b ∈ decimal n) : b ≠ 0 ∧ b ≠ 10 ∧ b ≠ 32 := by
  have hb := toNat_isDigit (isDigit_of_mem_decimal h)
  refine ⟨?_, ?_, ?_⟩ <;> rintro rfl <;> exact absurd hb (by decide)

/-- The number of decimal digits of a byte. -/
def width (n : UInt8) : Nat := (decimal n.toNat).length

theorem width_pos (n : UInt8) : 0 < width n := List.length_pos_of_ne_nil (decimal_ne_nil _)

theorem width_le (n : UInt8) : width n ≤ 3 := by
  have := n.toNat_lt
  exact (length_decimal_le_iff (by decide)).mpr (by omega)

/-- `fgets` takes a DHT11 line whole. -/
theorem fgetsLine_dht11Line (r : UInt8 × UInt8) (rest : List UInt8) :
    fgetsLine (lineSize - 1) (dht11Line r ++ rest) = dht11Line r := by
  have hline : dht11Line r = (decimal r.1.toNat ++ 32 :: decimal r.2.toNat) ++ [10] := by
    simp [dht11Line]
  -- The only newline is the last byte, and eight bytes fit into the buffer.
  have hno : 10 ∉ decimal r.1.toNat ++ 32 :: decimal r.2.toNat := by
    rw [List.mem_append, List.mem_cons]
    rintro (h | h | h)
    · exact (decimal_word h).2.1 rfl
    · exact absurd h (by decide)
    · exact (decimal_word h).2.1 rfl
  have hlength : (decimal r.1.toNat ++ 32 :: decimal r.2.toNat).length < lineSize - 1 := by
    have h1 := width_le r.1
    have h2 := width_le r.2
    simp only [width] at h1 h2
    simp only [List.length_append, List.length_cons, lineSize]
    omega
  rw [hline, List.append_assoc]
  exact fgetsLine_line rest hno hlength

/-! ### The light reader -/

/-- A value below 2^31 prints as an `int` with its own digits. -/
theorem decimalInt_of_lt {v : UInt32} (h : v.toNat < 2 ^ 31) :
    decimalInt v.toInt32 = decimal v.toNat := by
  have hint : v.toInt32.toInt = v.toNat := by
    show v.toBitVec.toInt = v.toBitVec.toNat
    rw [BitVec.toInt_eq_toNat_of_lt]
    show 2 * v.toNat < 2 ^ 32
    omega
  have hpos : ¬ v.toInt32 < 0 := by
    rw [Int32.lt_iff_toInt_lt, hint]
    exact Int.not_lt.mpr (Int.natCast_nonneg _)
  rw [decimalInt, if_neg hpos, hint, Int.natAbs_natCast]

/-- The values of the 12-bit converter. -/
def IsAdc (v : UInt32) : Prop := v < 4096

instance (v : UInt32) : Decidable (IsAdc v) := inferInstanceAs (Decidable (v < 4096))

theorem lightLine_of_isAdc {v : UInt32} (h : IsAdc v) :
    lightLine v = decimal v.toNat ++ [10] := by
  have hlt : v.toNat < 4096 := UInt32.lt_iff_toNat_lt.mp h
  rw [lightLine, decimalInt_of_lt (by omega)]

/-- `fgets` takes a light line whole. -/
theorem fgetsLine_lightLine {v : UInt32} (h : IsAdc v) (rest : List UInt8) :
    fgetsLine (lineSize - 1) (lightLine v ++ rest) = lightLine v := by
  have hlt : v.toNat < 4096 := UInt32.lt_iff_toNat_lt.mp h
  have hlength : (decimal v.toNat).length ≤ 4 :=
    (length_decimal_le_iff (by decide)).mpr (by omega)
  rw [lightLine_of_isAdc h, List.append_assoc]
  exact fgetsLine_line rest (fun hmem => (decimal_word hmem).2.1 rfl)
    (by simp only [lineSize]; omega)

/-- A pass of the light reader sends the value of its line. -/
theorem lightPass_line {v : UInt32} (h : IsAdc v) (line : List UInt8) :
    lightPass () (fgetsBuffer (lightLine v) line) =
      some ((), fgetsBuffer (lightLine v) line, some v) := by
  have hlt : v.toNat < 4096 := UInt32.lt_iff_toNat_lt.mp h
  -- The string ends at the NUL of `fgets`, before the bytes of an earlier line.
  have hstring : cString (fgetsBuffer (lightLine v) line) = decimal v.toNat ++ [10] := by
    rw [fgetsBuffer, lightLine_of_isAdc h]
    refine cString_append _ fun b hb => ?_
    rw [List.mem_append, List.mem_singleton] at hb
    obtain hb | rfl := hb
    · exact (decimal_word hb).1
    · decide
  have hread : sscanfD (decimal v.toNat ++ [10]) = some v := by
    rw [sscanfD_digits (decimal_ne_nil _) (fun _ => isDigit_of_mem_decimal) (by simp; decide)
      (by rw [digitsValue_decimal]; omega), digitsValue_decimal]
    simp
  rw [lightPass, hstring, hread]

/-- `read_and_send_light_data` on a file of light lines. -/
theorem readAndSendLightData_lines {f : LogFile} {bytes : List UInt8} {recs : List UInt32}
    (hbytes : f.bytes = some bytes)
    (hrest : bytes.drop f.lastPosition = recs.flatMap lightLine)
    (hadc : ∀ v ∈ recs, IsAdc v) (line : List UInt8) :
    readAndSendLightData line f =
      some ({ f with lastPosition :=
          f.lastPosition + ((recs.take (lightArraySize + 1)).flatMap lightLine).length },
        recs.take lightArraySize) := by
  have hloop : fgetsLoop lightArraySize lightPass () line 0 (recs.flatMap lightLine) = _ :=
    fgetsLoop_lines lightLine id (fun _ _ => True) recs
      (fun v _ => by simp [lightLine])
      (fun v hv rest => fgetsLine_lightLine (hadc v hv) rest)
      (fun v hv _ _ line _ _ => ⟨_, _, lightPass_line (hadc v hv) line, trivial⟩)
      () line 0 trivial (Nat.zero_le _)
  rw [readAndSendLightData, hbytes]
  simp only [hrest, hloop]
  simp

/-! ### The DHT11 reader -/

/-- The buffer of a DHT11 line after `strtok` cut it. `junk` is from earlier lines. -/
def cutLine (r : UInt8 × UInt8) (junk : List UInt8) : List UInt8 :=
  decimal r.1.toNat ++ 0 :: ((decimal r.2.toNat ++ [10]) ++ 0 :: junk)

private theorem strtok_dht11Line (r : UInt8 × UInt8) (line : List UInt8) :
    ∃ junk, strtok 32 false 0 (fgetsBuffer (dht11Line r) line) =
      ([0, width r.1 + 1], cutLine r junk) := by
  refine ⟨line.drop ((dht11Line r).length + 1), ?_⟩
  have hword : ∀ b ∈ decimal r.1.toNat, b ≠ 0 ∧ b ≠ 32 := fun b hb =>
    ⟨(decimal_word hb).1, (decimal_word hb).2.2⟩
  have hword' : ∀ b ∈ decimal r.2.toNat ++ [10], b ≠ 0 ∧ b ≠ 32 := by
    intro b hb
    rw [List.mem_append, List.mem_singleton] at hb
    obtain hb | rfl := hb
    · exact ⟨(decimal_word hb).1, (decimal_word hb).2.2⟩
    · decide
  have hbuffer : fgetsBuffer (dht11Line r) line = decimal r.1.toNat ++
      32 :: ((decimal r.2.toNat ++ [10]) ++ 0 :: line.drop ((dht11Line r).length + 1)) := by
    simp [fgetsBuffer, dht11Line]
  rw [hbuffer]
  exact strtok_two_words _ (by decide) (decimal_ne_nil _) (by simp) hword hword'

/-- What the DHT11 reader takes for the humidity of `r`, when the first line of the call has
a temperature of `first` digits. It skips `first + 1` bytes of the line. -/
def readHumi (first : Nat) (r : UInt8 × UInt8) : Nat :=
  if first < width r.1 then
    r.1.toNat % 10 ^ (width r.1 - (first + 1))
  else
    r.2.toNat % 10 ^ (width r.2 - (first - width r.1))

private theorem strtoul_drop_decimal (n : UInt8) (k : Nat) {s : List UInt8}
    (hs : ∀ b ∈ s, isSpace b) :
    strtoul ((decimal n.toNat).drop k ++ s) = (n.toNat % 10 ^ (width n - k)).toUInt32 := by
  have hlt := n.toNat_lt
  have hmod := Nat.mod_le n.toNat (10 ^ (width n - k))
  have hvalue : digitsValue 0 ((decimal n.toNat).drop k) = n.toNat % 10 ^ (width n - k) :=
    digitsValue_drop_decimal _ _
  rw [strtoul_digits (fun b hb => isDigit_of_mem_decimal (List.mem_of_mem_drop hb)) hs
    (by rw [hvalue]; omega), hvalue]

/-- The number at the offset `first + 1` of a line that `strtok` cut. -/
private theorem strtoul_humi {first : Nat} (hfirst : first ≤ 3) (r : UInt8 × UInt8)
    (junk : List UInt8) :
    strtoul (cString ((cutLine r junk).drop (first + 1))) = (readHumi first r).toUInt32 := by
  have hnul : ∀ {n : UInt8} {k : Nat}, ∀ b ∈ (decimal n.toNat).drop k, b ≠ 0 :=
    fun b hb => (decimal_word (List.mem_of_mem_drop hb)).1
  by_cases h : first < width r.1
  · -- The offset is inside the temperature, or at the NUL after it.
    rw [cutLine, List.drop_append_of_le_length (by exact h), cString_append _ hnul, readHumi,
      if_pos h]
    simpa using strtoul_drop_decimal r.1 (first + 1) (s := []) (by simp)
  · -- The offset is inside the humidity, or at most one byte behind it.
    have hw := width_pos r.1
    have hw' := width_pos r.2
    -- The offset passes the temperature and skips `d` digits of the humidity.
    obtain ⟨d, rfl⟩ : ∃ d, first = width r.1 + d := ⟨first - width r.1, by omega⟩
    have hskip : (cutLine r junk).drop (width r.1 + d + 1) =
        ((decimal r.2.toNat ++ [10]) ++ 0 :: junk).drop d := by
      rw [cutLine, width, Nat.add_assoc, List.drop_length_add_append]
      rfl
    rw [hskip, readHumi, if_neg h, Nat.add_sub_cancel_left]
    by_cases hd : d ≤ width r.2
    · have hcut : ((decimal r.2.toNat ++ [10]) ++ 0 :: junk).drop d =
          ((decimal r.2.toNat).drop d ++ [10]) ++ 0 :: junk := by
        rw [List.append_assoc, List.drop_append_of_le_length (by exact hd),
          List.append_assoc]
      have hline : ∀ b ∈ (decimal r.2.toNat).drop d ++ [10], b ≠ 0 := by
        intro b hb
        rw [List.mem_append, List.mem_singleton] at hb
        obtain hb | rfl := hb
        · exact hnul b hb
        · decide
      rw [hcut, cString_append _ hline]
      exact strtoul_drop_decimal r.2 d (by simp; decide)
    · -- Only the NUL is left of the line.
      have hlength : d = (decimal r.2.toNat ++ [10]).length := by
        simp only [width] at hw hw' hd hfirst
        simp only [List.length_append, List.length_singleton]
        omega
      rw [hlength, List.drop_left, ← hlength, show width r.2 - d = 0 by omega]
      simp [cString, strtoul, sign, digitsValue, Nat.mod_one]

/-- The reading that a pass of the DHT11 reader sends, when the first line of the call has a
temperature of `first` digits. -/
def readDht11 (first : Nat) (r : UInt8 × UInt8) : UInt8 × UInt8 :=
  (r.1, (readHumi first r).toUInt8)

/-- A pass of the DHT11 reader with `slots` in use before. The first two slots are the two
offsets of the first line. -/
theorem dht11Pass_line (slots : List Nat) {first : Nat} (hfirst : first ≤ 3)
    (r : UInt8 × UInt8) (hroom : slots.length + 2 ≤ 50)
    (hslots : [0, first + 1] <+: slots ++ [0, width r.1 + 1]) (line : List UInt8) :
    ∃ line', dht11Pass slots (fgetsBuffer (dht11Line r) line) =
      some (slots ++ [0, width r.1 + 1], line', some (readDht11 first r)) := by
  obtain ⟨junk, htok⟩ := strtok_dht11Line r line
  obtain ⟨more, hmore⟩ := hslots
  have htemp : strtoul (cString ((cutLine r junk).drop 0)) = r.1.toNat.toUInt32 := by
    rw [cutLine, List.drop_zero, cString_append _ fun b hb => (decimal_word hb).1]
    have hread := strtoul_drop_decimal r.1 0 (s := []) (by simp)
    have hlt : r.1.toNat < 10 ^ width r.1 :=
      (length_decimal_le_iff (width_pos r.1)).mp (Nat.le_refl _)
    rwa [List.drop_zero, List.append_nil, Nat.sub_zero, Nat.mod_eq_of_lt hlt] at hread
  -- The first two slots are those of the first line.
  have hslot0 : (slots ++ [0, width r.1 + 1])[0]? = some 0 := by rw [← hmore]; rfl
  have hslot1 : (slots ++ [0, width r.1 + 1])[1]? = some (first + 1) := by rw [← hmore]; rfl
  have hfull : ¬ dht11ArraySize * 2 + 1 ≤ (slots ++ [0, width r.1 + 1]).length := by
    simp only [List.length_append, List.length_cons, List.length_nil, dht11ArraySize]
    omega
  refine ⟨cutLine r junk, ?_⟩
  unfold dht11Pass
  rw [htok]
  simp only [hfull, if_false, hslot0, hslot1, htemp, strtoul_humi hfirst, readDht11]
  simp

/-- What the DHT11 reader sends for a page. -/
def dht11Page : List (UInt8 × UInt8) → List (UInt8 × UInt8)
  | [] => []
  | r :: rs => (r :: rs).map (readDht11 (width r.1))

theorem length_dht11Page (rs : List (UInt8 × UInt8)) : (dht11Page rs).length = rs.length := by
  cases rs <;> simp [dht11Page]

/-- `read_and_send_dht11_data` on a file of DHT11 lines. -/
theorem readAndSendDht11Data_lines {f : LogFile} {bytes : List UInt8}
    {recs : List (UInt8 × UInt8)} (hbytes : f.bytes = some bytes)
    (hrest : bytes.drop f.lastPosition = recs.flatMap dht11Line) (line : List UInt8) :
    readAndSendDht11Data line f =
      some ({ f with lastPosition :=
          f.lastPosition + ((recs.take (dht11ArraySize + 1)).flatMap dht11Line).length },
        dht11Page (recs.take dht11ArraySize)) := by
  have hloop : fgetsLoop dht11ArraySize dht11Pass [] line 0 (recs.flatMap dht11Line) =
      some (dht11Page (recs.take dht11ArraySize),
        ((recs.take (dht11ArraySize + 1)).flatMap dht11Line).length) := by
    cases recs with
    | nil => rw [List.flatMap_nil, fgetsLoop_nil]; rfl
    | cons r recs =>
      have hne : ∀ r, dht11Line r ≠ [] := by simp [dht11Line]
      -- The first line fills the first two slots.
      obtain ⟨line', hpass⟩ := dht11Pass_line [] (width_le r.1) r (by decide)
        (List.prefix_rfl) line
      rw [List.flatMap_cons, fgetsLoop_line (hne r) (fgetsLine_dht11Line r _) hpass (by decide)]
      -- The other lines go to the slots after them.
      have hothers : ∀ x ∈ recs, ∀ count (slots : List Nat) line, count < dht11ArraySize →
          slots.length = 2 * count ∧ [0, width r.1 + 1] <+: slots →
          ∃ slots' line', dht11Pass slots (fgetsBuffer (dht11Line x) line) =
              some (slots', line', some (readDht11 (width r.1) x)) ∧
            slots'.length = 2 * (count + 1) ∧ [0, width r.1 + 1] <+: slots' := by
        rintro x - count slots line hcount ⟨hlength, hslots⟩
        have hroom : slots.length + 2 ≤ 50 := by
          simp only [dht11ArraySize] at hcount
          omega
        have hslots' := hslots.trans (List.prefix_append slots [0, width x.1 + 1])
        obtain ⟨line', hx⟩ := dht11Pass_line slots (width_le r.1) x hroom hslots' line
        refine ⟨_, line', hx, ?_, hslots'⟩
        simp only [List.length_append, List.length_cons, List.length_nil]
        omega
      have hloop := fgetsLoop_lines dht11Line (readDht11 (width r.1)) _ recs
        (fun x _ => hne x) (fun x _ => fgetsLine_dht11Line x) hothers
        ([] ++ [0, width r.1 + 1]) line' (0 + 1) (by simp) (by decide)
      rw [hloop]
      simp [dht11Page, dht11ArraySize]
  rw [readAndSendDht11Data, hbytes]
  simp only [hrest, hloop, Option.map_some]

/-! ### When the DHT11 reader reads back what was written -/

/-- The DHT11 reader gets `r` right after the first line `first` of a call: the temperatures
have the same width, or the number that it takes for the humidity happens to be it. -/
def ReadsBack (first r : UInt8 × UInt8) : Prop :=
  (width first.1 < width r.1 →
    r.2.toNat = r.1.toNat % 10 ^ (width r.1 - (width first.1 + 1))) ∧
  (width r.1 < width first.1 → r.2 = 0)

instance (first r : UInt8 × UInt8) : Decidable (ReadsBack first r) :=
  inferInstanceAs (Decidable (_ ∧ _))

/-- Skipping digits of a number makes it smaller, unless it is zero. -/
private theorem mod_pow_width (n : UInt8) {k : Nat} (hk : 0 < k) :
    n.toNat % 10 ^ (width n - k) = n.toNat ↔ n = 0 := by
  constructor
  · intro h
    by_contra hne
    have hpos : 0 < n.toNat := by
      rw [Nat.pos_iff_ne_zero]
      exact fun hzero => hne (UInt8.toNat_inj.mp hzero)
    have hlt : n.toNat < 10 ^ (width n - k) := by
      rw [← h]
      exact Nat.mod_lt _ (Nat.pow_pos (by decide))
    have hw := width_pos n
    -- A number of that many digits does not fit into fewer.
    by_cases hfew : width n ≤ k
    · rw [Nat.sub_eq_zero_of_le hfew] at hlt
      omega
    · have hle : width n ≤ width n - k := (length_decimal_le_iff (by omega)).mpr hlt
      omega
  · rintro rfl
    simp

theorem readDht11_eq_iff (first r : UInt8 × UInt8) :
    readDht11 (width first.1) r = r ↔ ReadsBack first r := by
  obtain ⟨temp, humi⟩ := r
  have hhumi := humi.toNat_lt
  have hread : ∀ n, n < 256 → (n.toUInt8 = humi ↔ n = humi.toNat) := by
    intro n hn
    rw [← UInt8.toNat_inj, Nat.toUInt8_eq, UInt8.toNat_ofNat', Nat.mod_eq_of_lt hn]
  have htemp := temp.toNat_lt
  simp only [readDht11, Prod.mk.injEq, true_and, ReadsBack, readHumi]
  by_cases hlt : width first.1 < width temp
  · rw [if_pos hlt, hread _ (lt_of_le_of_lt (Nat.mod_le _ _) htemp)]
    constructor
    · intro h
      exact ⟨fun _ => h.symm, fun h' => absurd h' (by omega)⟩
    · rintro ⟨h, -⟩
      exact (h hlt).symm
  · rw [if_neg hlt, hread _ (lt_of_le_of_lt (Nat.mod_le _ _) hhumi)]
    -- With the same width the whole humidity is read, and with a smaller one it is cut.
    by_cases heq : width temp = width first.1
    · have hall : humi.toNat < 10 ^ width humi :=
        (length_decimal_le_iff (width_pos humi)).mp (Nat.le_refl _)
      rw [heq, Nat.sub_self, Nat.sub_zero, Nat.mod_eq_of_lt hall]
      simp
    · rw [mod_pow_width humi (by omega)]
      constructor
      · intro h
        exact ⟨fun h' => absurd h' hlt, fun _ => h⟩
      · rintro ⟨-, h⟩
        exact h (by omega)

/-- A page of DHT11 readings reads back when each reading does after the first one. -/
theorem dht11Page_eq_iff (rs : List (UInt8 × UInt8)) :
    dht11Page rs = rs ↔ ∀ first ∈ rs.head?, ∀ r ∈ rs, ReadsBack first r := by
  cases rs with
  | nil => simp [dht11Page]
  | cons first rs =>
    have hmap : dht11Page (first :: rs) = (first :: rs).map (readDht11 (width first.1)) := rfl
    have hself : (first :: rs).map (readDht11 (width first.1)) = first :: rs ↔
        ∀ r ∈ first :: rs, readDht11 (width first.1) r = r := by
      conv_lhs => rhs; rw [← List.map_id (first :: rs)]
      exact List.map_inj_left
    rw [hmap, hself]
    simp only [readDht11_eq_iff, List.head?_cons, Option.mem_some_iff, forall_eq']

/-! ### One call on a file that was written before -/

/-- The file after `write_dht11_data` for each reading, in order. -/
def LogFile.writeReadings (rs : List (UInt8 × UInt8)) (f : LogFile) : LogFile :=
  rs.foldl (fun f r => writeDht11Data r.1 r.2 f) f

theorem lastPosition_writeReadings (rs : List (UInt8 × UInt8)) :
    ∀ f : LogFile, (f.writeReadings rs).lastPosition = f.lastPosition := by
  induction rs with
  | nil => intro f; rfl
  | cons r rs ih => intro f; exact ih (writeDht11Data r.1 r.2 f)

/-- The file exists after the first reading, and its text is one line for each of them. -/
theorem bytes_writeReadings (rs : List (UInt8 × UInt8)) :
    ∀ f : LogFile, (f.writeReadings rs).bytes.getD [] = f.bytes.getD [] ++ rs.flatMap dht11Line ∧
      (rs ≠ [] → (f.writeReadings rs).bytes.isSome = true) := by
  induction rs with
  | nil => intro f; simp [LogFile.writeReadings]
  | cons r rs ih =>
    intro f
    obtain ⟨htext, -⟩ := ih (writeDht11Data r.1 r.2 f)
    have hone : (writeDht11Data r.1 r.2 f).bytes = some (f.bytes.getD [] ++ dht11Line r) := rfl
    have hall : f.writeReadings (r :: rs) =
        (writeDht11Data r.1 r.2 f).writeReadings rs := rfl
    refine ⟨?_, fun _ => ?_⟩
    · rw [hall, htext, hone, Option.getD_some, List.flatMap_cons, List.append_assoc]
    · -- Later readings are appended to a file that exists.
      cases rs with
      | nil => rfl
      | cons x rs => exact (ih _).2 (List.cons_ne_nil x rs)

/-- An empty log: its file is empty, or not there yet. -/
def LogFile.blank (created : Bool) : LogFile := ⟨if created then some [] else none, 0⟩

/-- What one call of the reader sends for the first page of a written file. -/
theorem readAndSendDht11Data_writeReadings (created : Bool) (rs : List (UInt8 × UInt8))
    (line : List UInt8) :
    (readAndSendDht11Data line ((LogFile.blank created).writeReadings rs)).map Prod.snd =
      some (dht11Page (rs.take dht11ArraySize)) := by
  have hposition : ((LogFile.blank created).writeReadings rs).lastPosition = 0 := by
    rw [lastPosition_writeReadings]
    rfl
  obtain ⟨htext, hsome⟩ := bytes_writeReadings rs (LogFile.blank created)
  have hblank : (LogFile.blank created).bytes.getD [] = [] := by cases created <;> rfl
  rw [hblank, List.nil_append] at htext
  cases hbytes : ((LogFile.blank created).writeReadings rs).bytes with
  | none =>
    -- Only a log without readings can be without a file.
    have hnil : rs = [] := by
      by_contra hne
      simp [hbytes] at hsome
      exact hne hsome
    subst hnil
    rw [readAndSendDht11Data, hbytes]
    rfl
  | some bytes =>
    rw [hbytes, Option.getD_some] at htext
    rw [readAndSendDht11Data_lines hbytes (by rw [hposition, List.drop_zero, htext])]
    rfl

/-- Write at most a page of readings to an empty log. One call of the reader sends exactly
these readings in this order when each of them reads back after the first one, and only
then. -/
theorem dht11_reads_back_iff (created : Bool) (rs : List (UInt8 × UInt8))
    (hpage : rs.length ≤ dht11ArraySize) (line : List UInt8) :
    (readAndSendDht11Data line ((LogFile.blank created).writeReadings rs)).map Prod.snd =
        some rs ↔
      ∀ first ∈ rs.head?, ∀ r ∈ rs, ReadsBack first r := by
  rw [readAndSendDht11Data_writeReadings, List.take_of_length_le hpage, Option.some_inj,
    dht11Page_eq_iff]

/-- Two readings with temperatures of the same width. -/
theorem dht11_reads_back_same_width :
    (readAndSendDht11Data [] ((LogFile.blank false).writeReadings [(21, 40), (22, 5)])).map
        Prod.snd = some [(21, 40), (22, 5)] ↔
      ∀ first ∈ [((21 : UInt8), (40 : UInt8)), (22, 5)].head?,
        ∀ r ∈ [((21 : UInt8), (40 : UInt8)), (22, 5)], ReadsBack first r :=
  dht11_reads_back_iff false [(21, 40), (22, 5)] (by decide) []

/-- The temperatures 9 and 10 have different widths, and the second humidity is lost. -/
theorem dht11_reads_back_wrong :
    ¬ ∀ (created : Bool) (rs : List (UInt8 × UInt8)), rs.length ≤ dht11ArraySize →
      ∀ line, (readAndSendDht11Data line
        ((LogFile.blank created).writeReadings rs)).map Prod.snd = some rs := by
  intro h
  have hpair := h false [(9, 40), (10, 50)] (by decide) []
  rw [readAndSendDht11Data_writeReadings] at hpair
  revert hpair
  decide

end SmartBuilding
