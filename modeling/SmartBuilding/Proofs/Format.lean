import SmartBuilding.Mqtt.Format
import SmartBuilding.Proofs.Publish

/-!
# `SmartBuilding.Proofs.Format`: the published objects and their documented formats

A builder that gets all its memory makes an object with the documented keys and the numbers
that are passed in, as soon as its texts are there (`hasFormat_iff`): the command id of a
response, and the timestamp. What `strftime` prints would be a timestamp
(`isTimestamp_stampText`).

But the timestamp of every builder is null (`timestamp_eq`). So a builder passes a null
pointer before it does anything else, and no object has the key `timestamp`, whatever the
allocator answers (`builders_break_format`). That parsing a printed object gives its keys is
an assumption about cJSON (`PrintKeepsKeys`).
-/

set_option autoImplicit false

namespace SmartBuilding

open CText

/-! ### The timestamp -/

/-- The call for the timestamp, at any time. -/
theorem timestamp_eq [NullText] (now : Tm) :
    Field.string "timestamp" (timestampAt now) = Builder.timestamp := rfl

/-- Digits have the form of digits. -/
theorem forall₂_digits {ds : List UInt8} {k : Nat} (hlength : ds.length = k)
    (hdigits : ∀ b ∈ ds, isDigit b = true) :
    List.Forall₂ (fun form b => if form = 100 then isDigit b = true else b = form)
      (List.replicate k (100 : UInt8)) ds := by
  subst hlength
  induction ds with
  | nil => exact .nil
  | cons b ds ih =>
    rw [List.length_cons, List.replicate_succ]
    refine .cons ?_ (ih fun c hc => hdigits c (List.mem_cons_of_mem b hc))
    rw [if_pos rfl]
    exact hdigits b List.mem_cons_self

/-- A number below 100 has two digits. -/
theorem twoDigits_form {n : Nat} (h : n < 100) :
    (twoDigits n).length = 2 ∧ ∀ b ∈ twoDigits n, isDigit b = true := by
  unfold twoDigits
  split
  · rename_i hlt
    have hone : (decimal n).length ≤ 1 := (length_decimal_le_iff (by decide)).mpr (by omega)
    have hpos : 0 < (decimal n).length := List.length_pos_of_ne_nil (decimal_ne_nil n)
    refine ⟨by rw [List.length_cons]; omega, ?_⟩
    rw [List.forall_mem_cons]
    exact ⟨by decide, fun b hb => isDigit_of_mem_decimal hb⟩
  · rename_i hge
    have htwo : (decimal n).length ≤ 2 := (length_decimal_le_iff (by decide)).mpr (by omega)
    have hone : ¬ (decimal n).length ≤ 1 := by
      rw [length_decimal_le_iff (by decide)]
      omega
    exact ⟨by omega, fun b hb => isDigit_of_mem_decimal hb⟩

/-- What `strftime` prints for a valid time is a timestamp. -/
theorem isTimestamp_stampText {tm : Tm} (h : tm.Valid) : IsTimestamp (stampText tm) := by
  have hform : stampForm = List.replicate 4 100 ++ 45 :: (List.replicate 2 100 ++ 45 ::
      (List.replicate 2 100 ++ 84 :: (List.replicate 2 100 ++ 58 :: (List.replicate 2 100 ++
        58 :: List.replicate 2 100)))) := by decide
  have hyear : (decimal tm.year).length = 4 := by
    have hle : (decimal tm.year).length ≤ 4 := (length_decimal_le_iff (by decide)).mpr h.year.2
    have hgt : ¬ (decimal tm.year).length ≤ 3 := by
      rw [length_decimal_le_iff (by decide)]
      have hlow := h.year.1
      omega
    omega
  have htwo : ∀ {n : Nat}, n < 100 →
      List.Forall₂ _ (List.replicate 2 (100 : UInt8)) (twoDigits n) :=
    fun hn => forall₂_digits (twoDigits_form hn).1 (twoDigits_form hn).2
  have hmon := h.mon.2
  have hmday := h.mday.2
  have hhour := h.hour
  have hmin := h.min
  have hsec := h.sec
  rw [IsTimestamp, hform, stampText]
  -- The separators stand for themselves.
  refine List.rel_append (forall₂_digits hyear fun b hb => isDigit_of_mem_decimal hb) (.cons rfl ?_)
  refine List.rel_append (htwo (by omega)) (.cons rfl ?_)
  refine List.rel_append (htwo (by omega)) (.cons rfl ?_)
  refine List.rel_append (htwo (by omega)) (.cons rfl ?_)
  exact List.rel_append (htwo (by omega)) (.cons rfl (htwo (by omega)))

/-! ### The members of a builder -/

/-- The key of a member is the name that the call gives it. -/
theorem Field.fst_of_member {f : Field} {m : List UInt8 × CJson} (h : f.member = some m) :
    m.1 = ofText f.name := by
  cases f with
  | number name value => exact congrArg Prod.fst (Option.some.inj h).symm
  | bool name value => exact congrArg Prod.fst (Option.some.inj h).symm
  | string name text =>
    obtain ⟨t, -, rfl⟩ := Option.map_eq_some_iff.mp h
    rfl

namespace Publication

variable (p : Publication) (stamp : Option (List UInt8))

/-- The calls of a builder, with its null timestamp. -/
theorem fieldsAt_none : p.fieldsAt none = p.fields := by
  cases p <;> rfl

/-- The calls add the documented keys, in this order. -/
theorem names_fieldsAt : (p.fieldsAt stamp).map Field.name = p.documentedKeys := by
  cases p <;> rfl

/-- Only the last call adds a timestamp. -/
theorem name_ne_timestamp : ∀ f ∈ p.fields.dropLast, ofText f.name ≠ ofText "timestamp" := by
  have hnames : ∀ n ∈ p.fields.dropLast.map Field.name, ofText n ≠ ofText "timestamp" := by
    cases p <;> simp only [fields, Builder.deviceStatusFields, Builder.responseFields,
      Builder.flag, List.dropLast, List.map, Field.name] <;> decide
  exact fun f hf => hnames f.name (List.mem_map_of_mem hf)

/-- The numbers that are passed in are added under their documented keys. -/
theorem number_mem_fields :
    ∀ n ∈ p.documentedNumbers, Field.number n.1 n.2 ∈ p.fields.dropLast := by
  cases p <;> simp [documentedNumbers, fields]

/-- The command id of a response is there. -/
def UuidPresent : Publication → Prop
  | .deviceResponse uuid => uuid.isSome = true
  | .thresholdsResponse uuid => uuid.isSome = true
  | _ => True

/-- Every call but the last has its text exactly when the command id is there. -/
theorem uuidPresent_iff :
    p.UuidPresent ↔ ∀ f ∈ p.fields.dropLast, f.member.isSome = true := by
  cases p <;> simp [UuidPresent, fields, Builder.deviceStatusFields, Builder.responseFields,
    Builder.flag, Field.member]

end Publication

/-- The object of a builder that gets all its memory. -/
theorem rootObject_all (fields : List Field) :
    rootObject fields (fun _ => true) = .object (fields.filterMap Field.member) := by
  have hfst : fields.zipIdx.map Prod.fst = fields := List.zipIdx_map_fst 0 fields
  conv_rhs => rw [← hfst, List.filterMap_map]
  rfl

/-- When every call adds its member, the keys are the names of the calls. -/
theorem keys_filterMap {fields : List Field} (h : ∀ f ∈ fields, f.member.isSome = true) :
    (fields.filterMap Field.member).map Prod.fst = fields.map fun f => ofText f.name := by
  induction fields with
  | nil => rfl
  | cons f fields ih =>
    obtain ⟨m, hm⟩ := Option.isSome_iff_exists.mp (h f List.mem_cons_self)
    rw [List.filterMap_cons_some hm, List.map_cons, List.map_cons, Field.fst_of_member hm,
      ih fun g hg => h g (List.mem_cons_of_mem f hg)]

/-- With all its memory, a builder makes an object of the documented format exactly when the
command id and the timestamp are there, and the timestamp has its form. -/
theorem hasFormat_iff (p : Publication) (stamp : Option (List UInt8)) :
    p.HasFormat (rootObject (p.fieldsAt stamp) fun _ => true) ↔
      p.UuidPresent ∧ ∃ t, stamp = some t ∧ IsTimestamp t := by
  have hnames := p.names_fieldsAt stamp
  rw [rootObject_all, p.uuidPresent_iff]
  constructor
  · rintro ⟨members, hroot, hperm, -, t, hmem, hform⟩
    obtain rfl : _ = members := CJson.object.inj hroot
    -- As many members as calls, so every call adds its member.
    have hall : ∀ f ∈ p.fieldsAt stamp, f.member.isSome = true := by
      have hlength := hperm.length_eq
      rw [List.length_map, List.length_map, ← hnames, List.length_map] at hlength
      exact List.filterMap_length_eq_length.mp hlength
    refine ⟨fun f hf => hall f (List.mem_append_left _ hf), t, ?_, hform⟩
    obtain ⟨f, hf, hmember⟩ := List.mem_filterMap.mp hmem
    rcases List.mem_append.mp hf with hvalue | hlast
    · exact absurd (Field.fst_of_member hmember).symm (p.name_ne_timestamp f hvalue)
    · obtain rfl := List.mem_singleton.mp hlast
      obtain ⟨t', hstamp, heq⟩ := Option.map_eq_some_iff.mp hmember
      rw [hstamp, (CJson.string.inj (Prod.mk.inj heq).2)]
  · rintro ⟨huuid, t, rfl, hform⟩
    refine ⟨_, rfl, ?_, ?_, t, ?_, hform⟩
    · have hall : ∀ f ∈ p.fieldsAt (some t), f.member.isSome = true := by
        intro f hf
        rcases List.mem_append.mp hf with hvalue | hlast
        · exact huuid f hvalue
        · obtain rfl := List.mem_singleton.mp hlast
          rfl
      rw [keys_filterMap hall, ← hnames, List.map_map]
      exact List.Perm.refl _
    · intro n hn
      have hfield := p.number_mem_fields n hn
      exact List.mem_filterMap.mpr ⟨_, List.mem_append_left _ hfield, rfl⟩
    · exact List.mem_filterMap.mpr ⟨_, List.mem_append_right _ List.mem_cons_self, rfl⟩

/-! ### What the builders do -/

/-- Parsing a printed object gives an object with the same keys. -/
def PrintKeepsKeys [CJsonPrinter] [CJsonParser] : Prop :=
  ∀ members members' : List (List UInt8 × CJson), (∀ m ∈ members, ∀ b ∈ m.1, b ≠ 0) →
    CJsonParser.cJSONParse (cString (CJsonPrinter.cJSONPrintUnformatted (.object members))) =
      some (.object members') → members'.map Prod.fst = members.map Prod.fst

/-- A member of an object comes from a call. -/
theorem exists_field_of_mem {fields : List Field} {add : Nat → Bool}
    {members : List (List UInt8 × CJson)} (h : rootObject fields add = .object members)
    {m : List UInt8 × CJson} (hm : m ∈ members) : ∃ f ∈ fields, f.member = some m := by
  obtain rfl : _ = members := CJson.object.inj h
  obtain ⟨f, hf, hmember⟩ := List.mem_filterMap.mp hm
  refine ⟨f.1, List.fst_mem_of_mem_zipIdx hf, ?_⟩
  split at hmember
  · exact hmember
  · cases hmember

/-- The keys of a printed object have no NUL, and `timestamp` is not among them. -/
theorem keys_rootObject (p : Publication) {add : Nat → Bool}
    {members : List (List UInt8 × CJson)} (h : rootObject p.fields add = .object members) :
    ∀ m ∈ members, (∀ b ∈ m.1, b ≠ 0) ∧ m.1 ≠ ofText "timestamp" := by
  intro m hm
  obtain ⟨f, hf, hmember⟩ := exists_field_of_mem h hm
  have hkey := Field.fst_of_member hmember
  constructor
  · have hname : f.name ∈ p.documentedKeys := by
      rw [← p.names_fieldsAt none, p.fieldsAt_none]
      exact List.mem_map_of_mem hf
    have hnul : ∀ n ∈ p.documentedKeys, (ofText n).all (· != 0) = true := by
      cases p <;> simp only [Publication.documentedKeys] <;> decide
    rw [hkey]
    intro b hb
    exact bne_iff_ne.mp (List.all_eq_true.mp (hnul _ hname) b hb)
  · rw [← p.fieldsAt_none] at hf
    rcases List.mem_append.mp hf with hvalue | hlast
    · rw [hkey]
      exact p.name_ne_timestamp f hvalue
    · -- A null string adds no member.
      obtain rfl := List.mem_singleton.mp hlast
      cases hmember

section
variable [CJsonPrinter]

/-- The text of a builder is the print of its object. -/
theorem text_of_build {fields : List Field} {io : PublishIO} {text : List UInt8}
    (h : (build fields io).msgStr = some text) : text = renderedText fields io := by
  simp only [build] at h
  split at h
  · cases h
  · split at h
    · cases h
    · split at h
      · exact (Option.some.inj h).symm
      · exact (Option.some.inj h).symm

/-- Every builder passes a null pointer, and no text that it builds follows the format. -/
theorem builders_break_format [CJsonParser] (hkeys : PrintKeepsKeys) (p : Publication) (now : Tm)
    (io : PublishIO) :
    (¬ ∀ call ∈ p.textCalls now io, call.NoNull) ∧
      ∀ text, (p.builder io).msgStr = some text → ¬ p.FollowsFormat text := by
  constructor
  · intro h
    have hnull := h (.strlen timestampInit) (by simp [Publication.textCalls])
    cases hnull
  · rintro text hbuilt ⟨root, hparse, members', rfl, -, -, stamp, hmem, -⟩
    rw [p.builder_eq] at hbuilt
    obtain ⟨members, hroot⟩ : ∃ members, rootObject p.fields io.add = .object members := ⟨_, rfl⟩
    have hnames := keys_rootObject p hroot
    rw [text_of_build hbuilt, renderedText, hroot] at hparse
    -- The parsed object has the keys of the printed one.
    have hsame := hkeys members members' (fun m hm => (hnames m hm).1) hparse
    have hstamp : ofText "timestamp" ∈ members'.map Prod.fst := List.mem_map_of_mem hmem
    rw [hsame] at hstamp
    obtain ⟨m, hm, hkey⟩ := List.mem_map.mp hstamp
    exact (hnames m hm).2 hkey

end

/-- The text of a sync request. -/
def syncText : String := "\x7b\"type\":\"all\"\x7d"

/-- A printer that knows the object of a sync request. -/
abbrev syncOnlyPrinter : CJsonPrinter where
  cJSONPrintUnformatted
    | .object [(key, .string value)] =>
        if key = ofText "type" ∧ value = ofText "all" then ofText syncText else ofText "?"
    | _ => ofText "?"
  cString_ne_nil root := by
    split
    · split <;> decide
    · decide

/-- A parser that knows the text of a sync request. -/
abbrev syncOnlyParser : CJsonParser :=
  .table [(syncText, .object [(ofText "type", .string (ofText "all"))])]

private theorem printKeepsKeys_sync : @PrintKeepsKeys syncOnlyPrinter syncOnlyParser := by
  intro members members' _ hparse
  have hknown : @parsePayload syncOnlyParser (ofText syncText) =
      some (.object [(ofText "type", .string (ofText "all"))]) := parsePayload_table _ _ _
  have hunknown : @parsePayload syncOnlyParser (ofText "?") = none := rfl
  -- The printer prints the known object, or a text that does not parse.
  simp only [CJsonPrinter.cJSONPrintUnformatted] at hparse
  split at hparse
  · rename_i key value heq
    obtain rfl := CJson.object.inj heq
    split at hparse
    · rename_i hmatch
      obtain ⟨rfl, rfl⟩ := hmatch
      obtain rfl := CJson.object.inj (Option.some.inj (hknown.symm.trans hparse))
      rfl
    · cases hunknown.symm.trans hparse
  · cases hunknown.symm.trans hparse

/-- The sync request at the time of the format comment. -/
theorem builders_break_format_sync :
    (¬ ∀ call ∈ @Publication.textCalls syncOnlyPrinter .syncRequest ⟨2024, 3, 20, 10, 30, 0⟩ .ok,
        call.NoNull) ∧
      ∀ text, (@Publication.builder syncOnlyPrinter .syncRequest .ok).msgStr = some text →
        ¬ @Publication.FollowsFormat syncOnlyParser .syncRequest text :=
  @builders_break_format syncOnlyPrinter syncOnlyParser printKeepsKeys_sync .syncRequest
    ⟨2024, 3, 20, 10, 30, 0⟩ .ok

/-- A sync request has the type alone. -/
theorem builds_no_timestamp :
    ¬ ∀ p now io, @Publication.BuildsFormat syncOnlyPrinter syncOnlyParser p now io := by
  intro h
  obtain ⟨-, hformat⟩ := h .syncRequest ⟨2024, 3, 20, 10, 30, 0⟩ .ok
  obtain ⟨root, hparse, members, rfl, hperm, -⟩ := hformat (ofText syncText) (by decide)
  have hknown : @CJsonParser.cJSONParse syncOnlyParser (ofText syncText) =
      some (.object [(ofText "type", .string (ofText "all"))]) := rfl
  obtain rfl := CJson.object.inj (Option.some.inj (hknown.symm.trans hparse))
  -- The format has two keys.
  exact absurd hperm.length_eq (by decide)

end SmartBuilding
