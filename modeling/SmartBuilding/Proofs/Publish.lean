import SmartBuilding.Mqtt.Publish
import SmartBuilding.Mqtt.Response

/-!
# `SmartBuilding.Proofs.Publish`: the payload of a message and the text that was rendered

A builder asks for as many bytes as its text has, and copies the text without its NUL. The
consumer looks for a NUL. So it always reads the first byte behind the buffer, and the payload
is the text exactly when that byte happens to be 0 (`payload_eq_text_iff`). A message is sent
as it was rendered, within its buffer, only when the builder does not get that far
(`sent_as_rendered_iff`).

The builders agree with the objects of `SmartBuilding.Mqtt.Status` and
`SmartBuilding.Mqtt.Response` (`rootObject_deviceStatus`, `rootObject_response`).
-/

set_option autoImplicit false

namespace SmartBuilding

open CText

/-! ### The objects -/

/-- The object of `mqtt_get_device_status`, when every member gets its memory. -/
theorem rootObject_deviceStatus (devData : Devices) :
    rootObject (Builder.deviceStatusFields devData) (fun _ => true) =
      mqttGetDeviceStatus devData := rfl

/-- A response that is built is the object of its builder. -/
theorem rootObject_response (message : String) (io : ResponseIO) (m : Mcu) {r : CJson}
    (h : (getResponse message io m).1 = some r) :
    r = rootObject (Builder.responseFields message (m.uuid.bind fun p => m.blocks[p]?))
      (fun i => [io.addCommandId, io.addSuccess, io.addMessage].getD i true) := by
  have hbuilt : io.createObject = true ∧ io.print = true ∧ io.sendBuffer = true := by
    unfold getResponse at h
    split_ifs at h <;> simp_all
  obtain ⟨hcreate, hprint, hbuffer⟩ := hbuilt
  simp only [getResponse, hcreate, hprint, hbuffer, Bool.not_true, Bool.false_eq_true, if_false,
    Option.some.injEq] at h
  rw [← h, rootObject, Builder.responseFields]
  have hid : (addCommandId io m).1 =
      if io.addCommandId then
        ((m.uuid.bind fun p => m.blocks[p]?).map fun t =>
          (ofText "commandId", CJson.string t)).toList
      else [] := by
    unfold addCommandId
    cases huuid : m.uuid with
    | none => simp
    | some p => cases hblock : m.blocks[p]? <;> simp [hblock]
  rw [hid]
  cases io.addCommandId <;> cases io.addSuccess <;> cases io.addMessage <;>
    cases m.uuid.bind (fun p => m.blocks[p]?) <;> rfl

/-! ### The builders -/

/-- A copy that is as long as its text is the text. -/
theorem strncpy_self (text : List UInt8) : strncpy text text.length = text := by
  simp [strncpy]

/-- A builder gets all its memory, or some block of it is missing. -/
theorem memory_or (createObject print sendBuffer : Bool) :
    createObject = true ∧ print = true ∧ sendBuffer = true ∨
      (createObject = false ∨ print = false ∨ sendBuffer = false) := by
  cases createObject <;> cases print <;> cases sendBuffer <;> simp

section
variable [CJsonPrinter]

/-- The text that a builder prints. -/
def renderedText (fields : List Field) (io : PublishIO) : List UInt8 :=
  cString (CJsonPrinter.cJSONPrintUnformatted (rootObject fields io.add))

/-- A builder asks for a buffer of some bytes. -/
theorem rtMalloc_renderedText (fields : List Field) (io : PublishIO) :
    rtMalloc true (renderedText fields io).length = true := by
  have htext : (renderedText fields io).length ≠ 0 :=
    mt List.eq_nil_of_length_eq_zero (CJsonPrinter.cString_ne_nil _)
  simp [rtMalloc, htext]

/-- A builder that gets all its memory leaves the text without its NUL. -/
theorem build_of_memory {fields : List Field} {io : PublishIO} (hcreate : io.createObject = true)
    (hprint : io.print = true) (hbuffer : io.sendBuffer = true) :
    build fields io =
      ⟨rtEok, some (renderedText fields io), some (renderedText fields io),
        [.acquire .root, .acquire .msgStr, .acquire .sendBuffer, .release .root,
          .release .msgStr]⟩ := by
  have hmalloc : rtMalloc io.sendBuffer (renderedText fields io).length = true := by
    rw [hbuffer]
    exact rtMalloc_renderedText fields io
  unfold build
  simp only [hcreate, hprint, Bool.not_true, Bool.false_eq_true, if_false]
  rw [← renderedText, if_pos hmalloc, strncpy_self]

/-- Any other builder fails. -/
theorem build_result_of_no_memory {fields : List Field} {io : PublishIO}
    (h : io.createObject = false ∨ io.print = false ∨ io.sendBuffer = false) :
    (build fields io).result = -rtEnomem := by
  unfold build
  cases hcreate : io.createObject with
  | false => rfl
  | true =>
    cases hprint : io.print with
    | false => rfl
    | true =>
      have hbuffer : io.sendBuffer = false := by simpa [hcreate, hprint] using h
      simp [rtMalloc, hbuffer]

end

/-! ### The consumer -/

section
variable {text : List UInt8} (htext : ∀ b ∈ text, b ≠ 0) (behind : List UInt8)

include htext

theorem cString_append_behind : cString (text ++ behind) = text ++ cString behind := by
  rw [cString, List.takeWhile_append_of_pos (by simpa using htext), cString]

/-- Finding the end of a text without its NUL reads the first byte behind it. -/
theorem length_mem_rtStrlenReads : text.length ∈ rtStrlenReads (text ++ behind) := by
  rw [rtStrlenReads, List.mem_range, rtStrlen, cString_append_behind htext, List.length_append]
  omega

/-- The payload is the text exactly when a NUL happens to lie behind it. -/
theorem pahoMqttPublish_eq_text_iff :
    pahoMqttPublish (text ++ behind) = some text ↔ behind.head? = some 0 := by
  have hstart : (text ++ behind).take (rtStrlen (text ++ behind)) = text ++ cString behind := by
    have hbegins : cString (text ++ behind) <+: text ++ behind := List.takeWhile_prefix _
    rw [rtStrlen, ← List.prefix_iff_eq_take.mp hbegins]
    exact cString_append_behind htext behind
  unfold pahoMqttPublish
  rw [hstart]
  cases behind with
  | nil =>
    have hnone : (0 : UInt8) ∉ text := fun h0 => htext 0 h0 rfl
    simp [hnone]
  | cons b behind =>
    by_cases hb : b = 0
    · subst hb
      simp [cString]
    · -- The payload has the byte `b` after the text.
      have hlonger : text ++ cString (b :: behind) ≠ text := by simp [cString, hb]
      split
      · simp [hlonger, hb]
      · simp [hb]

end

/-! ### What is sent -/

section
variable [CJsonPrinter]

/-- When the builder returns `RT_EOK`, the payload is the printed text, and finding its end
reads no byte outside the buffer. -/
def SentAsRendered (p : Publication) (io : PublishIO) (behind : List UInt8) : Prop :=
  (p.builder io).result = rtEok → ∃ text buffer,
    (p.builder io).msgStr = some text ∧ (p.builder io).outBuff = some buffer ∧
    (p.publish io behind).payload = some text ∧
    ∀ i ∈ rtStrlenReads (buffer ++ behind), i < buffer.length

/-- When the builder succeeds, the payload is the printed text exactly when the first byte
behind the buffer is 0. -/
theorem payload_eq_text_iff (p : Publication) (io : PublishIO) (behind : List UInt8)
    (hcreate : io.createObject = true) (hprint : io.print = true)
    (hbuffer : io.sendBuffer = true) :
    (p.publish io behind).payload = (p.builder io).msgStr ↔ behind.head? = some 0 := by
  rw [Publication.publish, p.builder_eq, build_of_memory hcreate hprint hbuffer]
  exact pahoMqttPublish_eq_text_iff (fun b hb => ne_zero_of_mem_cString hb) behind

/-- A message is sent as it was rendered exactly when its builder does not get all its memory,
so that nothing is sent. -/
theorem sent_as_rendered_iff (p : Publication) (io : PublishIO) (behind : List UInt8) :
    SentAsRendered p io behind ↔
      io.createObject = false ∨ io.print = false ∨ io.sendBuffer = false := by
  unfold SentAsRendered
  rw [p.builder_eq]
  constructor
  · intro h
    by_contra hmemory
    simp only [not_or, Bool.not_eq_false] at hmemory
    obtain ⟨hcreate, hprint, hbuffer⟩ := hmemory
    rw [build_of_memory hcreate hprint hbuffer] at h
    obtain ⟨text, buffer, -, hbuff, -, hreads⟩ := h rfl
    cases hbuff
    -- The read that finds the NUL is behind the buffer.
    have hlast := hreads _
      (length_mem_rtStrlenReads (fun b hb => ne_zero_of_mem_cString hb) behind)
    exact Nat.lt_irrefl _ hlast
  · intro h hresult
    rw [build_result_of_no_memory h] at hresult
    exact absurd hresult (by decide)

end

/-- The printer on the object of a sync request. -/
abbrev syncPrinter : CJsonPrinter where
  cJSONPrintUnformatted _ := ofText "\x7b\"type\":\"all\"\x7d" ++ [0]
  cString_ne_nil _ := by decide

/-- A sync request whose buffer is followed by another byte than 0 is sent with that byte. -/
theorem sent_not_as_rendered :
    ¬ ∀ p io behind, @SentAsRendered syncPrinter p io behind := by
  intro h
  obtain ⟨text, buffer, htext, -, hpayload, -⟩ := h .syncRequest .ok [88, 0] (by decide)
  have hsent : some text = some (ofText "\x7b\"type\":\"all\"\x7dX") :=
    hpayload.symm.trans (by decide)
  rw [← htext] at hsent
  revert hsent
  decide

end SmartBuilding
