import SmartBuilding.Proofs.File

/-!
# `SmartBuilding.Proofs.Pager`: the log readers lose and repeat nothing, as long as each page
has room

A log with its reader is a concrete form of the overreading pager `PagedLog.overreading`: the
file is the text of the records, and the saved position is the length of the text behind the
reader (`SensorLog.simulation`). What the abstract pager does to a run is known, so the laws
of the two logs follow (`SensorLog.goesThrough_iff`, `pager_iff`).

The reader takes a 26th line before it notices that the page is full. So a log is read
completely exactly when at most 25 records come between two calls. The DHT11 reader must also
get the records of the page right.
-/

set_option autoImplicit false

namespace SmartBuilding

open PagerEvent

namespace SensorLog

variable {ρ : Type}

/-- What the functions of a log do to a file of lines. `line` is the text of a record,
`Valid` says which records the law is about, and `page` is what the reader makes of the
records of a page. -/
structure Spec (log : SensorLog ρ) (limit : Nat) (line : ρ → List UInt8) (Valid : ρ → Prop)
    (page : List ρ → List ρ) : Prop where
  line_ne_nil : ∀ r, line r ≠ []
  length_page : ∀ rs, (page rs).length = rs.length
  write : ∀ r f, log.write r f = f.append (line r)
  absent : ∀ buffer f, f.bytes = none → log.readAndSend buffer f = some (f, [])
  readAndSend : ∀ buffer f bytes (rs : List ρ), f.bytes = some bytes →
    bytes.drop f.lastPosition = rs.flatMap line → (∀ r ∈ rs, Valid r) →
    log.readAndSend buffer f =
      some ({ f with lastPosition :=
          f.lastPosition + ((rs.take (limit + 1)).flatMap line).length },
        page (rs.take limit))

/-- The file and the position are those of the abstract log. -/
structure Represents (line : ρ → List UInt8) (Valid : ρ → Prop) (f : LogFile)
    (s : PagedLog ρ) : Prop where
  bytes : f.bytes.getD [] = s.records.flatMap line
  position : f.lastPosition = ((s.records.take s.next).flatMap line).length
  valid : ∀ r ∈ s.records, Valid r
  next_le : s.next ≤ s.records.length

section
variable {log : SensorLog ρ} {limit : Nat} {line : ρ → List UInt8} {Valid : ρ → Prop}
  {page : List ρ → List ρ}

theorem Represents.empty : Represents line Valid .empty .empty :=
  ⟨rfl, rfl, fun _ h => absurd h List.not_mem_nil, Nat.le_refl _⟩

/-- The stream at the saved position is the text of the records before the reader. -/
theorem Represents.drop {f : LogFile} {s : PagedLog ρ} (h : Represents line Valid f s) :
    (f.bytes.getD []).drop f.lastPosition = s.rest.flatMap line := by
  -- The text before the reader and the text after it.
  have hsplit : s.records.flatMap line =
      (s.records.take s.next).flatMap line ++ s.rest.flatMap line := by
    rw [← List.flatMap_append, PagedLog.rest, List.take_append_drop]
  rw [h.bytes, h.position, hsplit, List.drop_left]

/-- The text of more records is longer. -/
theorem eq_of_length_flatMap (hline : ∀ r, line r ≠ []) {rs : List ρ} {m n : Nat}
    (hm : m ≤ rs.length) (hn : n ≤ rs.length)
    (h : ((rs.take m).flatMap line).length = ((rs.take n).flatMap line).length) : m = n := by
  induction rs generalizing m n with
  | nil =>
    simp only [List.length_nil, Nat.le_zero] at hm hn
    rw [hm, hn]
  | cons r rs ih =>
    -- Each record adds to the text, so the two counts go down together.
    have hr : 0 < (line r).length := List.length_pos_of_ne_nil (hline r)
    cases m with
    | zero =>
      cases n with
      | zero => rfl
      | succ n =>
        simp only [List.take_zero, List.flatMap_nil, List.length_nil, List.take_succ_cons,
          List.flatMap_cons, List.length_append] at h
        omega
    | succ m =>
      cases n with
      | zero =>
        simp only [List.take_zero, List.flatMap_nil, List.length_nil, List.take_succ_cons,
          List.flatMap_cons, List.length_append] at h
        omega
      | succ n =>
        simp only [List.take_succ_cons, List.flatMap_cons, List.length_append,
          Nat.add_left_cancel_iff] at h
        rw [ih (by simpa using hm) (by simpa using hn) h]

/-- The saved position is the end of a beginning of the log when the abstract reader is. -/
theorem Represents.position_iff (hline : ∀ r, line r ≠ []) {f : LogFile} {s : PagedLog ρ}
    (h : Represents line Valid f s) {sent : List ρ} (hsent : sent <+: s.records) :
    f.lastPosition = (sent.flatMap line).length ↔ s.next = sent.length := by
  rw [h.position]
  conv_lhs => rw [List.prefix_iff_eq_take.mp hsent]
  constructor
  · exact eq_of_length_flatMap hline h.next_le hsent.length_le
  · intro hnext
    rw [hnext]

theorem Represents.write {f : LogFile} {s : PagedLog ρ} (h : Represents line Valid f s)
    {r : ρ} (hr : Valid r) :
    Represents line Valid (f.append (line r)) { s with records := s.records ++ [r] } := by
  refine ⟨?_, ?_, ?_, ?_⟩
  · simp [LogFile.append, h.bytes]
  · rw [LogFile.append, h.position, List.take_append_of_le_length h.next_le]
  · intro x hx
    rw [List.mem_append, List.mem_singleton] at hx
    obtain hx | rfl := hx
    · exact h.valid x hx
    · exact hr
  · simpa using Nat.le_succ_of_le h.next_le

/-- A log without a file has no records. -/
theorem Represents.records_of_absent (hline : ∀ r, line r ≠ []) {f : LogFile} {s : PagedLog ρ}
    (h : Represents line Valid f s) (hbytes : f.bytes = none) : s.records = [] := by
  -- Without a file there is no text, and each record has some.
  have htext := h.bytes
  rw [hbytes, Option.getD_none, eq_comm, List.flatMap_eq_nil_iff] at htext
  cases hrecords : s.records with
  | nil => rfl
  | cons r rs => exact absurd (htext r (by simp [hrecords])) (hline r)

/-- One call of the reader, and the load of the abstract pager. -/
theorem Represents.load (hspec : log.Spec limit line Valid page) {f : LogFile}
    {s : PagedLog ρ} (h : Represents line Valid f s) (buffer : List UInt8) :
    ∃ g, log.readAndSend buffer f = some (g, page (s.rest.take limit)) ∧
      Represents line Valid g
        { s with next := s.next + (s.rest.take (limit + 1)).length } := by
  cases hbytes : f.bytes with
  | none =>
    have hnil := h.records_of_absent hspec.line_ne_nil hbytes
    have hrest : s.rest = [] := by rw [PagedLog.rest, hnil, List.drop_nil]
    have hpage : page [] = [] := List.eq_nil_of_length_eq_zero (hspec.length_page [])
    refine ⟨f, ?_, ?_⟩
    · rw [hspec.absent buffer f hbytes, hrest, List.take_nil, hpage]
    · rw [hrest, List.take_nil, List.length_nil, Nat.add_zero]
      exact h
  | some bytes =>
    have hdrop := h.drop
    rw [hbytes, Option.getD_some] at hdrop
    have hvalid : ∀ r ∈ s.rest, Valid r := fun r hr => h.valid r (List.mem_of_mem_drop hr)
    refine ⟨_, hspec.readAndSend buffer f bytes s.rest hbytes hdrop hvalid, ?_⟩
    refine ⟨h.bytes, ?_, h.valid, ?_⟩
    · have htake : s.records.take (s.next + (s.rest.take (limit + 1)).length) =
          s.records.take s.next ++ s.rest.take (limit + 1) := by
        rw [List.take_add, ← PagedLog.rest, List.length_take]
        exact congrArg _ List.take_eq_take_min.symm
      show f.lastPosition + _ = _
      rw [htake, List.flatMap_append, List.length_append, h.position]
    · have hrest : s.rest.length = s.records.length - s.next := List.length_drop
      have hle := h.next_le
      show s.next + (s.rest.take (limit + 1)).length ≤ s.records.length
      rw [List.length_take]
      omega

/-- The overreading pager simulates the log, for events that write valid records. -/
theorem simulation (hspec : log.Spec limit line Valid page) :
    Machine.Simulation log.machine (PagedLog.overreading limit page)
      (fun f s => ∃ g, f = some g ∧ Represents line Valid g s)
      (fun e => ∀ r, e = .write r → Valid r) := by
  rintro _ s e ⟨f, rfl, h⟩ hvalid
  cases e with
  | write r =>
    refine ⟨⟨f.append (line r), ?_, h.write (hvalid r rfl)⟩, rfl⟩
    show some (log.write r f) = _
    rw [hspec.write]
  | load buffer =>
    obtain ⟨g, hload, hnext⟩ := h.load hspec buffer
    refine ⟨⟨g, ?_, hnext⟩, ?_⟩
    · show (log.readAndSend buffer f).map Prod.fst = some g
      rw [hload]
      rfl
    · show ((log.readAndSend buffer f).map Prod.snd).getD [] = _
      rw [hload]
      rfl

/-- The reverse simulation: the log simulates the overreading pager. -/
theorem simulation_symm (hspec : log.Spec limit line Valid page) :
    Machine.Simulation (PagedLog.overreading limit page) log.machine
      (fun s f => ∃ g, f = some g ∧ Represents line Valid g s)
      (fun e => ∀ r, e = .write r → Valid r) := by
  intro s f e h hvalid
  obtain ⟨hnext, hout⟩ := simulation hspec f s e h hvalid
  exact ⟨hnext, hout.symm⟩

end

/-- A run goes through a log: its pages lose and repeat nothing, and after every event the
position is the end of the last record sent. -/
structure GoesThrough (log : SensorLog ρ) (limit : Nat) (line : ρ → List UInt8)
    (es : List (PagerEvent ρ (List UInt8))) : Prop where
  pages : log.machine.Pages limit (some .empty) es
  position : ∀ pre, pre <+: es → ∃ f, log.machine.run (some .empty) pre = some f ∧
    f.lastPosition = ((log.machine.log (some .empty) pre).flatMap line).length

private theorem valid_events {Valid : ρ → Prop} {es : List (PagerEvent ρ (List UInt8))}
    (hvalid : ∀ r ∈ written es, Valid r) : ∀ e ∈ es, ∀ r, e = .write r → Valid r := by
  rintro _ he r rfl
  exact hvalid r (List.mem_filterMap.mpr ⟨_, he, rfl⟩)

/-- The pages of a log are those of the overreading pager. -/
theorem pages_iff {log : SensorLog ρ} {limit : Nat} {line : ρ → List UInt8}
    {Valid : ρ → Prop} {page : List ρ → List ρ} (hspec : log.Spec limit line Valid page)
    {es : List (PagerEvent ρ (List UInt8))} (hvalid : ∀ r ∈ written es, Valid r) :
    log.machine.Pages limit (some .empty) es ↔
      (PagedLog.overreading limit page).Pages limit .empty es := by
  have h0 : ∃ g, some LogFile.empty = some g ∧ Represents line Valid g .empty :=
    ⟨_, rfl, Represents.empty⟩
  constructor
  · exact fun h => h.of_simulation (simulation_symm hspec) h0 (valid_events hvalid)
  · exact fun h => h.of_simulation (simulation hspec) h0 (valid_events hvalid)

/-- A run goes through a log exactly when each page has room for all that is unread, and is
read right. -/
theorem goesThrough_iff {log : SensorLog ρ} {limit : Nat} {line : ρ → List UInt8}
    {Valid : ρ → Prop} {page : List ρ → List ρ} (hspec : log.Spec limit line Valid page)
    {es : List (PagerEvent ρ (List UInt8))} (hvalid : ∀ r ∈ written es, Valid r) :
    log.GoesThrough limit line es ↔ ∀ pre buffer, pre ++ [.load buffer] <+: es →
      (unread pre).length ≤ limit ∧ page (unread pre) = unread pre := by
  have hrun : ∀ pre, pre <+: es → _ := fun pre hpre =>
    (simulation hspec).run pre (some .empty) .empty ⟨_, rfl, Represents.empty⟩
      fun e he => valid_events hvalid e (hpre.subset he)
  rw [← PagedLog.overreading_iff hspec.length_page]
  constructor
  · rintro ⟨hpages, hposition⟩
    have habstract := (pages_iff hspec hvalid).mp hpages
    refine ⟨habstract, fun pre hpre => ?_⟩
    obtain ⟨⟨f, hf, hrep⟩, hlog⟩ := hrun pre hpre
    obtain ⟨f', hf', hpos⟩ := hposition pre hpre
    -- Both describe the same state, so the position is that of the abstract reader.
    obtain rfl : f = f' := Option.some.inj (hf.symm.trans hf')
    have hsent := habstract.sent_prefix pre hpre
    rw [← PagedLog.records_run] at hsent
    rw [hlog] at hpos
    exact (hrep.position_iff hspec.line_ne_nil hsent).mp hpos
  · rintro ⟨hpages, hnext⟩
    refine ⟨(pages_iff hspec hvalid).mpr hpages, fun pre hpre => ?_⟩
    obtain ⟨⟨f, hf, hrep⟩, hlog⟩ := hrun pre hpre
    have hsent := hpages.sent_prefix pre hpre
    rw [← PagedLog.records_run] at hsent
    refine ⟨f, hf, ?_⟩
    rw [hlog]
    exact (hrep.position_iff hspec.line_ne_nil hsent).mpr (hnext pre hpre)

end SensorLog

/-! ### The two logs -/

/-- The DHT11 log. -/
theorem dht11Log_spec :
    dht11Log.Spec dht11ArraySize dht11Line (fun _ => True) dht11Page where
  line_ne_nil := by simp [dht11Line]
  length_page := length_dht11Page
  write _ _ := rfl
  absent buffer f h := by
    show readAndSendDht11Data buffer f = _
    rw [readAndSendDht11Data, h]
  readAndSend buffer _ _ _ hbytes hrest _ := readAndSendDht11Data_lines hbytes hrest buffer

/-- The light log, for values of the converter. -/
theorem lightLog_spec : lightLog.Spec lightArraySize lightLine IsAdc id where
  line_ne_nil := by simp [lightLine]
  length_page _ := rfl
  write _ _ := rfl
  absent buffer f h := by
    show readAndSendLightData buffer f = _
    rw [readAndSendLightData, h]
  readAndSend buffer _ _ _ hbytes hrest hadc :=
    readAndSendLightData_lines hbytes hrest hadc buffer

/-- Every call of the DHT11 reader finds at most a page of readings that were written since
the last call, and each of them reads back after the first one. -/
def Dht11PagesFit (es : List (PagerEvent (UInt8 × UInt8) (List UInt8))) : Prop :=
  ∀ pre line, pre ++ [.load line] <+: es → (unread pre).length ≤ dht11ArraySize ∧
    ∀ first ∈ (unread pre).head?, ∀ r ∈ unread pre, ReadsBack first r

/-- Every call of the light reader finds at most a page of values that were written since the
last call. -/
def LightPagesFit (es : List (PagerEvent UInt32 (List UInt8))) : Prop :=
  ∀ pre line, pre ++ [.load line] <+: es → (unread pre).length ≤ lightArraySize

/-- Start both logs with no file and the position 0. The calls of the DHT11 reader go through
its log exactly when every page has room and reads back. The calls of the light reader go
through its log exactly when every page has room. -/
theorem pager_iff (dht11 : List (PagerEvent (UInt8 × UInt8) (List UInt8)))
    (light : List (PagerEvent UInt32 (List UInt8))) (hadc : ∀ v ∈ written light, IsAdc v) :
    (dht11Log.GoesThrough dht11ArraySize dht11Line dht11 ↔ Dht11PagesFit dht11) ∧
      (lightLog.GoesThrough lightArraySize lightLine light ↔ LightPagesFit light) := by
  constructor
  · rw [SensorLog.goesThrough_iff dht11Log_spec fun _ _ => trivial]
    simp only [dht11Page_eq_iff, Dht11PagesFit]
  · rw [SensorLog.goesThrough_iff lightLog_spec hadc]
    simp only [id, and_true, LightPagesFit]

/-- Two readings whose temperatures have one and two digits. -/
def twoWidths : List (PagerEvent (UInt8 × UInt8) (List UInt8)) :=
  [.write (9, 40), .write (10, 50), .load []]

/-- A full page and one reading more, then two calls of the reader. -/
def fullPageAndOne : List (PagerEvent UInt32 (List UInt8)) :=
  List.replicate 26 (.write 300) ++ [.load [], .load []]

private theorem isAdc_fullPageAndOne : ∀ v ∈ written fullPageAndOne, IsAdc v := by
  intro v hv
  have hwritten : written fullPageAndOne = List.replicate 26 300 := rfl
  rw [hwritten] at hv
  rw [List.eq_of_mem_replicate hv]
  decide

theorem pager_two_runs :
    (dht11Log.GoesThrough dht11ArraySize dht11Line twoWidths ↔ Dht11PagesFit twoWidths) ∧
      (lightLog.GoesThrough lightArraySize lightLine fullPageAndOne ↔
        LightPagesFit fullPageAndOne) :=
  pager_iff twoWidths fullPageAndOne isAdc_fullPageAndOne

/-- The readers lose readings. The DHT11 reader sends the second of two readings as (10, 0).
The light reader sends 25 of 26 readings, and nothing at the next call. -/
theorem pager_loses_readings :
    ¬ dht11Log.machine.Pages dht11ArraySize (some .empty) twoWidths ∧
      ¬ lightLog.machine.Pages lightArraySize (some .empty) fullPageAndOne := by
  constructor
  · rw [SensorLog.pages_iff dht11Log_spec fun _ _ => trivial]
    intro h
    have hsent := h.sent_prefix twoWidths List.prefix_rfl
    revert hsent
    decide
  · rw [SensorLog.pages_iff lightLog_spec isAdc_fullPageAndOne]
    intro h
    have hshort := h.short_page (List.replicate 26 (.write 300) ++ [.load []]) []
      (by simp [fullPageAndOne]) (by decide)
    revert hshort
    decide

end SmartBuilding
