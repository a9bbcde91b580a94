import SmartBuilding.Mqtt.Cycle
import SmartBuilding.Proofs.Packet
import SmartBuilding.Proofs.Serialize
import SmartBuilding.Proofs.Subscribe

/-!
# `SmartBuilding.Proofs.Cycle`: the bytes of the connection drive the firmware

The packets of a server arrive as one stream of bytes. The worker takes them apart again, one
cycle for each packet, whatever its buffers held before. It does to the firmware what the
messages say, in their order, and sends the acknowledgments in the same order
(`serve_refines_controller`). After the first cycle that fails it does nothing more.

A PUBLISH packet that is not well formed is another matter: `publishRc_iff` says when its
result is still that of a success.
-/

set_option autoImplicit false

namespace SmartBuilding

open CText

/-! ### One packet off the connection -/

theorem length_packetBytes (header : UInt8) (body : List UInt8) :
    (packetBytes header body).length = 1 + (mqttPacketEncode body.length).length + body.length := by
  rw [packetBytes, List.length_cons, List.length_append]
  omega

/-- A packet that fits has a remaining length of at most four bytes. -/
theorem body_lt {header : UInt8} {body : List UInt8}
    (h : (packetBytes header body).length ≤ readbufSize) :
    body.length < 128 ^ maxNoOfRemainingLengthBytes := by
  have hlen := length_packetBytes header body
  have hsize : readbufSize < 128 ^ maxNoOfRemainingLengthBytes := by decide
  omega

/-- The remaining length on the connection. -/
theorem decodePacket_packetBytes (header : UInt8) {body : List UInt8} (s : List UInt8)
    (h : body.length < 128 ^ maxNoOfRemainingLengthBytes) :
    decodePacket (packetBytes header body ++ s).tail =
        some (body.length, (mqttPacketEncode body.length).length) ∧
      (packetBytes header body ++ s).tail.drop
        (min (mqttPacketEncode body.length).length maxNoOfRemainingLengthBytes) = body ++ s := by
  have htail : (packetBytes header body ++ s).tail =
      mqttPacketEncode body.length ++ (body ++ s) := by
    show mqttPacketEncode body.length ++ body ++ s = _
    rw [List.append_assoc]
  -- Four bytes are enough for the remaining length, so all of it is skipped.
  have hfour : (mqttPacketEncode body.length).length ≤ maxNoOfRemainingLengthBytes :=
    (Varint.length_encode_le_iff (by decide) _).mpr h
  rw [htail, Nat.min_eq_left hfour, List.drop_left]
  exact ⟨decodeLoop_encode some h _, rfl⟩

/-- A packet that fits gets into the buffer as it was sent. -/
theorem readPacket_packetBytes (header : UInt8) (body readbuf s : List UInt8)
    (hfits : (packetBytes header body).length ≤ readbuf.length)
    (h : body.length < 128 ^ maxNoOfRemainingLengthBytes) :
    mqttPacketReadPacket readbuf (packetBytes header body ++ s) =
      some (packetBytes header body ++ readbuf.drop (packetBytes header body).length) := by
  obtain ⟨hdecode, hdrop⟩ := decodePacket_packetBytes header s h
  have hhead : (packetBytes header body ++ s).head? = some header := rfl
  have hlen := length_packetBytes header body
  have hfront : (header :: mqttPacketEncode body.length).length + body.length =
      (packetBytes header body).length := by
    rw [List.length_cons]
    omega
  rw [mqttPacketReadPacket, hhead, hdecode]
  show (if _ then _ else _) = _
  rw [hdrop, List.take_left, hfront, if_pos ⟨rfl, hfits⟩]
  rfl

/-- What is on the connection behind a packet. -/
theorem packetRest_packetBytes (header : UInt8) (body s : List UInt8)
    (h : body.length < 128 ^ maxNoOfRemainingLengthBytes) :
    mqttPacketRest (packetBytes header body ++ s) = s := by
  obtain ⟨hdecode, hdrop⟩ := decodePacket_packetBytes header s h
  rw [mqttPacketRest, hdecode]
  show List.drop _ (List.drop _ _) = s
  rw [hdrop, List.drop_left]

/-! ### Events with the same effect -/

section Events

variable [CJsonParser] [TimeoutCalc]

/-- Two lists of events with the same effect on every world, and the same records. -/
def SameEvents (es es' : List Event) : Prop :=
  ∀ w : World, controller.run w es = controller.run w es' ∧
    controller.log w es = controller.log w es'

theorem SameEvents.refl (es : List Event) : SameEvents es es := fun _ => ⟨rfl, rfl⟩

theorem SameEvents.append {es es' fs fs' : List Event} (h : SameEvents es es')
    (hf : SameEvents fs fs') : SameEvents (es ++ fs) (es' ++ fs') := by
  intro w
  obtain ⟨hrun, hlog⟩ := h w
  obtain ⟨hrun', hlog'⟩ := hf (controller.run w es')
  rw [Machine.run_append, Machine.run_append, Machine.log_append, Machine.log_append, hrun, hlog]
  exact ⟨hrun', by rw [hlog']⟩

omit [TimeoutCalc] in
/-- A handler parses its text up to the first NUL. -/
theorem parsePayload_cString (text : List UInt8) :
    parsePayload (cString text) = parsePayload text := by
  have hself : cString (cString text) = cString text :=
    List.takeWhile_eq_self_iff.mpr fun b hb => by simpa using ne_zero_of_mem_cString hb
  rw [parsePayload, parsePayload, hself]

theorem sameEvents_handler (io : TimerIO) (text : List UInt8) (handler : FirmwareHandler) :
    SameEvents (handlerEvent io (cString text) handler) (handlerEvent io text handler) := by
  intro w
  have hparse := parsePayload_cString text
  cases handler with
  | mqttSyncCallback =>
    have hdevice : syncDevice (cString text) = syncDevice text := by
      rw [syncDevice, syncDevice, hparse]
    have hthreshold : syncThreshold (cString text) = syncThreshold text := by
      rw [syncThreshold, syncThreshold, hparse]
    refine ⟨?_, ?_⟩
    · show mqttSyncCallback io (cString text) w = mqttSyncCallback io text w
      rw [mqttSyncCallback, mqttSyncCallback, hdevice, hthreshold]
    · show [Record.handled (syncDevice (cString text))] = [.handled (syncDevice text)]
      rw [hdevice]
  | mqttDevControlCallback =>
    refine ⟨?_, ?_⟩
    · show devControlEffect io (cString text) w = devControlEffect io text w
      rw [devControlEffect, devControlEffect, hparse]
    · show [Record.handled (parsePayload (cString text))] = [.handled (parsePayload text)]
      rw [hparse]
  | mqttThresholdsCallback =>
    refine ⟨?_, rfl⟩
    show thresholdsEffect (cString text) w = thresholdsEffect text w
    rw [thresholdsEffect, thresholdsEffect, hparse]
  | mqttSubDefaultCallback => exact ⟨rfl, rfl⟩

end Events

/-! ### One cycle -/

/-- The buffers of the client have their sizes, and its table is what the rounds of
`mqtt_sub_init` made it. -/
structure CycleClient.Ready (rounds : List (List (Option SubscribeIO))) (c : CycleClient) :
    Prop where
  buf : c.buf.length = readbufSize
  readbuf : c.readbuf.length = readbufSize
  messageHandlers : c.messageHandlers = ((subscriber FirmwareHandler).run
    (SubscribeClient.initial FirmwareHandler readbufSize)
    (rounds.flatMap mqttSubInit)).messageHandlers

/-- What a cycle does for a packet. -/
structure Cycled.Serves [CJsonParser] [TimeoutCalc] (rounds : List (List (Option SubscribeIO)))
    (p : ServerPacket) (io : CycleIO) (r : Cycled) : Prop where
  client : r.client.Ready rounds
  rc : r.rc < 0 ↔ p.fails io = true
  sent : r.sent = p.sent io
  events : SameEvents r.events (p.events (firmwareHandler rounds) io)

section Cycle

variable [CJsonParser] [TimeoutCalc] {rounds : List (List (Option SubscribeIO))} {c : CycleClient}

omit [CJsonParser] [TimeoutCalc] in
theorem mqttSerializeAck_eq {buf : List UInt8} (packettype : UInt8) (packetid : UInt16)
    (hbuf : 4 ≤ buf.length) :
    mqttSerializeAck buf packettype false packetid =
      some (ServerPacket.ackBytes packettype packetid ++ buf.drop 4, 4) := by
  have htwo : mqttPacketEncode 2 = [2] := by
    rw [mqttPacketEncode, Varint.encode]
    rfl
  rw [mqttSerializeAck, if_neg (by omega), htwo]
  exact writeParts_eq hbuf

omit [CJsonParser] [TimeoutCalc] in
/-- An acknowledgment goes out, unless the network fails. -/
theorem sendAck_eq (hc : c.Ready rounds) (io : CycleIO) (events : List Event)
    (packettype : UInt8) (packetid : UInt16) :
    ∃ c' : CycleClient, c'.Ready rounds ∧ sendAck io c events packettype packetid =
      some ⟨if io.send then pahoSuccess else pahoFailure, c', events,
        if io.send then [ServerPacket.ackBytes packettype packetid] else []⟩ := by
  have hfour : 4 ≤ c.buf.length := by
    rw [hc.buf]
    decide
  have hlen : (ServerPacket.ackBytes packettype packetid).length = 4 := rfl
  refine ⟨{ c with buf := ServerPacket.ackBytes packettype packetid ++ c.buf.drop 4 },
    ⟨?_, hc.readbuf, hc.messageHandlers⟩, ?_⟩
  · show (ServerPacket.ackBytes packettype packetid ++ c.buf.drop 4).length = readbufSize
    rw [List.length_append, hlen, List.length_drop, hc.buf]
    rfl
  · rw [sendAck, mqttSerializeAck_eq packettype packetid hfour]
    cases io.send with
    | false => rfl
    | true => rfl

/-- A packet that is answered with an acknowledgment. -/
theorem CycleClient.Ready.serves_ack (hc : c.Ready rounds) (io : CycleIO) {p : ServerPacket}
    (events : List Event) {packettype : UInt8} {packetid : UInt16}
    (hanswer : p.answer io = .ack packettype packetid)
    (hevents : SameEvents events (p.events (firmwareHandler rounds) io)) :
    ∃ r, sendAck io c events packettype packetid = some r ∧ r.Serves rounds p io := by
  obtain ⟨c', hc', heq⟩ := sendAck_eq hc io events packettype packetid
  refine ⟨_, heq, hc', ?_, ?_, hevents⟩
  · rw [ServerPacket.fails, hanswer]
    cases io.send with
    | false => exact iff_of_true (Int.negSucc_lt_zero 0) rfl
    | true => exact iff_of_false (Int.lt_irrefl 0) Bool.false_ne_true
  · rw [ServerPacket.sent, hanswer]

omit [CJsonParser] [TimeoutCalc] in
/-- A message in the read buffer: its fields, its text, and its topic. -/
theorem message_fields (p : PublishPacket) (readbuf : List UInt8)
    (hfits : p.bytes.length < readbuf.length)
    (hrest : p.rest.length < 128 ^ maxNoOfRemainingLengthBytes) :
    let buf := p.bytes ++ readbuf.drop p.bytes.length
    mqttDeserializePublishRc buf = some 1 ∧
      0 ∈ (terminatePayload buf p.data).drop p.data.payload ∧
      cString ((terminatePayload buf p.data).drop p.data.payload) = cString p.payload ∧
      p.data.topicName.text buf = p.topicName := by
  intro buf
  obtain ⟨b, s, hdrop⟩ : ∃ b s, readbuf.drop p.bytes.length = b :: s :=
    List.exists_cons_of_ne_nil (by rw [Ne, List.drop_eq_nil_iff]; omega)
  have hbuf : buf = p.bytes ++ b :: s := by rw [← hdrop]
  have hset : terminatePayload buf p.data = p.bytes ++ 0 :: s := by
    rw [hbuf, terminatePayload, p.terminator_data]
    simp
  obtain ⟨hdecode, hbody⟩ := decodeBuf_packet p.header p.rest (b :: s) hrest
  refine ⟨?_, ?_, ?_, ?_⟩
  · have hheader : buf[0]? = some p.header := by rw [hbuf]; rfl
    have hdecode : mqttPacketDecodeBuf buf 1 =
        some (p.rest.length, (mqttPacketEncode p.rest.length).length) := by
      rw [hbuf]
      exact hdecode
    have hread : mqttDeserializePublish buf = some (some p.data) := by
      rw [hbuf]
      exact p.deserialize_bytes (b :: s) hrest
    rw [mqttDeserializePublishRc, hheader]
    show (if p.header >>> 4 ≠ publish then _ else _) = _
    rw [if_neg (not_not_intro p.header_fields.1), hdecode, hread]
    rfl
  · rw [hset, p.drop_payload]
    simp
  · rw [hset, p.drop_payload, cString_append_nul]
  · have htopic : p.rest ++ b :: s = PublishPacket.writeInt p.topicName.length ++
        (p.topicName ++ (p.idBytes ++ (p.payload ++ b :: s))) := by
      simp only [PublishPacket.rest, List.append_assoc]
    rw [htopic] at hbody
    have hname := drop_add_length hbody
    show ((buf.drop (1 + (mqttPacketEncode p.rest.length).length + 2)).take p.topicName.length) = _
    rw [hbuf]
    exact (congrArg (List.take _) hname).trans List.take_left

/-- The cycle of a message. -/
theorem mqttCycle_message (hc : c.Ready rounds) (p : PublishPacket)
    (hfits : (ServerPacket.message p).Fits) (io : CycleIO) (s : List UInt8) :
    ∃ r, mqttCycle io (p.bytes ++ s) c = some r ∧ r.Serves rounds (.message p) io := by
  have hlt : p.bytes.length < c.readbuf.length := by rw [hc.readbuf]; exact hfits
  have hrest := PublishPacket.rest_lt (Nat.le_of_lt (show p.bytes.length < readbufSize from hfits))
  have hread := p.readPacket_bytes c.readbuf s (Nat.le_of_lt hlt) hrest
  have htaken := p.deserialize_bytes (c.readbuf.drop p.bytes.length) hrest
  obtain ⟨hrc, hnul, htext, htopic⟩ := message_fields p c.readbuf hlt hrest
  obtain ⟨htype, -, -, -⟩ := p.header_fields
  generalize hbuf : p.bytes ++ c.readbuf.drop p.bytes.length = buf
    at hread htaken hrc hnul htext htopic
  have hlen : buf.length = readbufSize := by
    rw [← hbuf, List.length_append, List.length_drop, hc.readbuf]
    exact Nat.add_sub_of_le (Nat.le_of_lt hfits)
  have hheader : buf[0]? = some p.header := by rw [← hbuf]; rfl
  -- The client with the packet in its buffer, and the NUL behind the payload.
  have hready : CycleClient.Ready rounds { c with readbuf := terminatePayload buf p.data } := by
    refine ⟨hc.buf, ?_, hc.messageHandlers⟩
    show (buf.set _ 0).length = readbufSize
    rw [List.length_set]
    exact hlen
  have hinside : 0 ≤ p.data.terminator ∧ p.data.terminator < buf.length ∧
      0 ∈ (terminatePayload buf p.data).drop p.data.payload := by
    rw [p.terminator_data, hlen]
    exact ⟨Int.natCast_nonneg _, Int.ofNat_lt.mpr hfits, hnul⟩
  have hevents : SameEvents (deliverEvents io.timer buf c.messageHandlers p.data)
      ((ServerPacket.message p).events (firmwareHandler rounds) io) := by
    have hhandler := firmwareDeliver_eq rounds p.topicName
    rw [firmwareDeliver, ← hc.messageHandlers] at hhandler
    rw [deliverEvents, htopic, hhandler, htext, List.flatMap_singleton]
    exact sameEvents_handler io.timer p.payload _
  have hid : 0 < p.qos.val → (p.data.packetid.getD 0).toUInt16 = p.packetid := by
    intro hpos
    have hdata : p.data.packetid = some p.packetid.toNat := if_pos hpos
    rw [hdata]
    exact UInt16.ofNat_toNat
  have hcycle : mqttCycle io (p.bytes ++ s) c = cyclePublish io { c with readbuf := buf } := by
    rw [mqttCycle, hread]
    show (do let header : UInt8 ← buf[0]?; _) = _
    rw [hheader]
    show (if _ then _ else _) = _
    rw [htype]
    rfl
  have hpublish : cyclePublish io { c with readbuf := buf } =
      (let events := deliverEvents io.timer buf c.messageHandlers p.data
       let c := { c with readbuf := terminatePayload buf p.data }
       let id := (p.data.packetid.getD 0).toUInt16
       if p.qos.val = 0 then some ⟨pahoSuccess, c, events, []⟩
       else if p.qos.val = 1 then sendAck io c events puback id
       else if p.qos.val = 2 then sendAck io c events pubrec id
       else some ⟨pahoFailure, c, events, []⟩) := by
    unfold cyclePublish
    simp only [hrc, htaken, Option.bind_eq_bind, Option.bind_some, ne_eq, not_true_eq_false,
      if_false]
    exact if_pos hinside
  rw [hcycle, hpublish]
  dsimp only
  by_cases hzero : p.qos.val = 0
  · rw [if_pos hzero]
    have hanswer : (ServerPacket.message p).answer io = .nothing := if_pos hzero
    refine ⟨_, rfl, hready, ?_, ?_, hevents⟩
    · rw [ServerPacket.fails, hanswer]
      exact iff_of_false (Int.lt_irrefl 0) Bool.false_ne_true
    · rw [ServerPacket.sent, hanswer]
  rw [if_neg hzero, hid (Nat.pos_of_ne_zero hzero)]
  by_cases hone : p.qos.val = 1
  · rw [if_pos hone]
    exact hready.serves_ack io _ (by rw [ServerPacket.answer, if_neg hzero, if_pos hone]) hevents
  rw [if_neg hone]
  by_cases htwo : p.qos.val = 2
  · rw [if_pos htwo]
    exact hready.serves_ack io _
      (by rw [ServerPacket.answer, if_neg hzero, if_neg hone, if_pos htwo]) hevents
  rw [if_neg htwo]
  have hanswer : (ServerPacket.message p).answer io = .failure := by
    rw [ServerPacket.answer, if_neg hzero, if_neg hone, if_neg htwo]
  refine ⟨_, rfl, hready, ?_, ?_, hevents⟩
  · rw [ServerPacket.fails, hanswer]
    exact iff_of_true (Int.negSucc_lt_zero 0) rfl
  · rw [ServerPacket.sent, hanswer]

/-- A packet that gets no answer. -/
theorem CycleClient.Ready.serves_nothing (hc : c.Ready rounds) {io : CycleIO} {header : UInt8}
    {body : List UInt8} (hanswer : (ServerPacket.control header body).answer io = .nothing)
    {rc : Int} (hrc : 0 ≤ rc) :
    Cycled.Serves rounds (.control header body) io ⟨rc, c, [], []⟩ := by
  refine ⟨hc, ?_, ?_, SameEvents.refl []⟩
  · rw [ServerPacket.fails, hanswer]
    exact iff_of_false (Int.not_lt.mpr hrc) Bool.false_ne_true
  · rw [ServerPacket.sent, hanswer]

section Control

variable {buf s body : List UInt8} {header : UInt8}

omit [CJsonParser] [TimeoutCalc] in
/-- A list of two bytes and more. -/
theorem eq_cons_cons_of_length {l : List UInt8} (h : ¬ l.length < 2) :
    ∃ a b rest, l = a :: b :: rest := by
  cases l with
  | nil => exact absurd Nat.zero_lt_two h
  | cons a tail =>
    cases tail with
    | nil => exact absurd Nat.one_lt_two h
    | cons b rest => exact ⟨a, b, rest, rfl⟩

omit [CJsonParser] [TimeoutCalc] in
/-- `MQTTDeserialize_ack` of a packet: the packet id is the start of the body, when the body
has two bytes. The result is that of a success in both cases. -/
theorem mqttDeserializeAck_eq (hheader : buf[0]? = some header)
    (hdecode : mqttPacketDecodeBuf buf 1 =
      some (body.length, (mqttPacketEncode body.length).length))
    (hbody : buf.drop (1 + (mqttPacketEncode body.length).length) = body ++ s) :
    mqttDeserializeAck buf =
      some ⟨1, header >>> 4, header >>> 3 &&& 1 = 1, ServerPacket.bodyPacketid body⟩ := by
  -- The remaining length of a body that is too short has one byte.
  have hshort : body.length < 2 → (mqttPacketEncode body.length).length = 1 := by
    intro h
    have hle := (Varint.length_encode_le_iff (k := 1) (by decide) body.length).mpr (by omega)
    have hpos : ¬ (Varint.encode body.length).length ≤ 0 := by
      rw [Varint.encode]
      split <;> simp
    rw [mqttPacketEncode]
    omega
  unfold mqttDeserializeAck
  simp only [hheader, hdecode, Option.bind_eq_bind, Option.bind_some]
  by_cases hlong : body.length < 2
  · have hid : ServerPacket.bodyPacketid body = none := by
      cases body with
      | nil => rfl
      | cons b rest =>
        cases rest with
        | nil => rfl
        | cons b' rest' =>
          rw [List.length_cons, List.length_cons] at hlong
          omega
    rw [if_pos hlong, hshort hlong, hid]
  · obtain ⟨high, low, rest, rfl⟩ := eq_cons_cons_of_length hlong
    have hhigh : buf[1 + (mqttPacketEncode (high :: low :: rest).length).length]? = some high :=
      getElem?_of_drop hbody 0
    have hlow : buf[1 + (mqttPacketEncode (high :: low :: rest).length).length + 1]? = some low :=
      getElem?_of_drop hbody 1
    rw [if_neg hlong, readInt, hhigh, hlow]
    rfl

omit [CJsonParser] [TimeoutCalc] in
/-- A packet whose type is that of an acknowledgment with codes, or with less, changes
nothing. -/
theorem cycleSuback_eq (hheader : c.readbuf[0]? = some header)
    (hdecode : mqttPacketDecodeBuf c.readbuf 1 =
      some (body.length, (mqttPacketEncode body.length).length))
    (hbody : c.readbuf.drop (1 + (mqttPacketEncode body.length).length) = body ++ s)
    (hcodes : header >>> 4 = suback → body.length ≤ 3) :
    ∃ rc : Int, 0 ≤ rc ∧ cycleSuback c = some ⟨rc, c, [], []⟩ := by
  -- Without codes the result stays that of a success.
  have hnone : mqttDeserializeSuback 1 c.readbuf = some none →
      ∃ rc : Int, 0 ≤ rc ∧ cycleSuback c = some ⟨rc, c, [], []⟩ := by
    intro h
    refine ⟨pahoSuccess, Int.le_refl 0, ?_⟩
    unfold cycleSuback
    simp only [h, Option.bind_eq_bind, Option.bind_some]
  by_cases htype : header >>> 4 = suback
  case neg =>
    apply hnone
    rw [mqttDeserializeSuback, hheader, anyway_some, andThen_some, if_pos htype]
  by_cases hshort : body.length < 2
  · apply hnone
    rw [mqttDeserializeSuback, hheader, anyway_some, andThen_some,
      if_neg (not_not_intro htype), hdecode, anyway_some, andThen_some]
    exact if_pos hshort
  obtain ⟨high, low, codes, rfl⟩ := eq_cons_cons_of_length hshort
  have hone : codes.length ≤ 1 := by
    have hthree := hcodes htype
    rw [List.length_cons, List.length_cons] at hthree
    omega
  generalize hn : (mqttPacketEncode (high :: low :: codes).length).length = n at hdecode hbody
  have hhigh : c.readbuf[1 + n]? = some high := getElem?_of_drop hbody 0
  have hlow : c.readbuf[1 + n + 1]? = some low := getElem?_of_drop hbody 1
  have hid : readInt c.readbuf (1 + n) = some (256 * high.toNat + low.toNat, 1 + n + 2) := by
    rw [readInt, hhigh, hlow]
    rfl
  have hdrop : c.readbuf.drop (1 + n + 2) = codes ++ s := by
    have hpair : c.readbuf.drop (1 + n) = [high, low] ++ (codes ++ s) := hbody
    exact drop_add_length hpair
  have hend : 1 + n + (high :: low :: codes).length = 1 + n + 2 + codes.length := by
    rw [List.length_cons, List.length_cons]
    omega
  have hloop := subackLoop_eq 1 codes (1 + n + 2 + codes.length) _ 0 hdrop (by omega)
    (Nat.zero_le _)
  have hread : mqttDeserializeSuback 1 c.readbuf =
      some (some ⟨256 * high.toNat + low.toNat, (codes.take 2).zipIdx.map Prod.swap,
        if 0 + codes.length ≤ 1 + 1 then 1 else -1⟩) := by
    rw [mqttDeserializeSuback, hheader, anyway_some, andThen_some,
      if_neg (not_not_intro htype), hdecode, anyway_some, andThen_some]
    dsimp only
    rw [if_neg hshort, hid, anyway_some, andThen_some]
    dsimp only
    rw [hend, hloop]
    rfl
  -- The one code goes to the index 0.
  have hinside : ¬ ((codes.take 2).zipIdx.map Prod.swap).any (1 ≤ ·.1) = true := by
    cases codes with
    | nil => exact Bool.false_ne_true
    | cons code more =>
      rw [List.length_cons] at hone
      rw [List.length_eq_zero_iff.mp (Nat.le_zero.mp (Nat.le_of_succ_le_succ hone))]
      exact Bool.false_ne_true
  unfold cycleSuback
  simp only [hread, Option.bind_eq_bind, Option.bind_some]
  rw [if_neg hinside]
  refine ⟨_, ?_, rfl⟩
  split
  all_goals split
  all_goals decide

end Control

/-- The cycle of any other packet. -/
theorem mqttCycle_control (hc : c.Ready rounds) (header : UInt8) (body : List UInt8)
    (hfits : (ServerPacket.control header body).Fits) (io : CycleIO) (s : List UInt8) :
    ∃ r, mqttCycle io (packetBytes header body ++ s) c = some r ∧
      r.Serves rounds (.control header body) io := by
  obtain ⟨hfit, hmessage, hcodes⟩ := hfits
  have hbody := body_lt hfit
  have hread := readPacket_packetBytes header body c.readbuf s (by rw [hc.readbuf]; exact hfit)
    hbody
  obtain ⟨hdecode, hdrop⟩ :=
    decodeBuf_packet header body (c.readbuf.drop (packetBytes header body).length) hbody
  rw [← packetBytes] at hdecode hdrop
  generalize hbuf : packetBytes header body ++ c.readbuf.drop (packetBytes header body).length =
    buf at hread hdecode hdrop
  have hheader : buf[0]? = some header := by rw [← hbuf]; rfl
  have hready : CycleClient.Ready rounds { c with readbuf := buf } := by
    refine ⟨hc.buf, ?_, hc.messageHandlers⟩
    show buf.length = readbufSize
    rw [← hbuf, List.length_append, List.length_drop, hc.readbuf]
    exact Nat.add_sub_of_le hfit
  have hack := mqttDeserializeAck_eq hheader hdecode hdrop
  have hanswer : header >>> 4 ≠ pubrec →
      (ServerPacket.control header body).answer io = .nothing := fun h => if_neg h
  unfold mqttCycle
  simp only [hread, hheader, Option.bind_eq_bind, Option.bind_some]
  by_cases hsuback : header >>> 4 = connack ∨ header >>> 4 = puback ∨ header >>> 4 = suback
  · rw [if_pos hsuback]
    obtain ⟨rc, hrc, heq⟩ := cycleSuback_eq (c := { c with readbuf := buf }) hheader hdecode hdrop
      hcodes
    refine ⟨_, heq, hready.serves_nothing (hanswer fun h => ?_) hrc⟩
    rw [h] at hsuback
    exact absurd hsuback (by decide)
  rw [if_neg hsuback]
  by_cases hunsuback : header >>> 4 = unsuback
  · rw [if_pos hunsuback]
    have hrc : mqttDeserializeUnsuback buf = some (1, ServerPacket.bodyPacketid body) := by
      unfold mqttDeserializeUnsuback
      rw [hack]
      show some (if header >>> 4 = unsuback then 1 else _, _) = _
      rw [if_pos hunsuback]
    simp only [hrc, Option.bind_some]
    refine ⟨_, rfl, hready.serves_nothing (hanswer fun h => ?_) (Int.le_refl 0)⟩
    rw [h] at hunsuback
    exact absurd hunsuback (by decide)
  rw [if_neg hunsuback, if_neg hmessage]
  by_cases hpubrec : header >>> 4 = pubrec
  · rw [if_pos hpubrec]
    have hpubrel : cyclePubrec io { c with readbuf := buf } =
        sendAck io { c with readbuf := buf } [] pubrel
          (((ServerPacket.bodyPacketid body).map Nat.toUInt16).getD io.mypacketid) := by
      unfold cyclePubrec
      simp only [hack, Option.bind_eq_bind, Option.bind_some, ne_eq, not_true_eq_false, if_false]
    rw [hpubrel]
    exact hready.serves_ack io [] (if_pos hpubrec) (SameEvents.refl [])
  rw [if_neg hpubrec]
  by_cases hping : header >>> 4 = pingresp
  · rw [if_pos hping]
    have hticked : CycleClient.Ready rounds { c with readbuf := buf, tickPing := io.tick } :=
      ⟨hready.buf, hready.readbuf, hready.messageHandlers⟩
    exact ⟨_, rfl, hticked.serves_nothing (hanswer hpubrec) (Int.le_refl 0)⟩
  rw [if_neg hping]
  exact ⟨_, rfl, hready.serves_nothing (hanswer hpubrec) (Int.le_refl 0)⟩

/-- The cycle of a packet, and the connection behind it. -/
theorem mqttCycle_serves (hc : c.Ready rounds) (p : ServerPacket) (hfits : p.Fits) (io : CycleIO)
    (s : List UInt8) :
    (∃ r, mqttCycle io (p.bytes ++ s) c = some r ∧ r.Serves rounds p io) ∧
      mqttPacketRest (p.bytes ++ s) = s := by
  cases p with
  | message p =>
    have hrest := PublishPacket.rest_lt
      (Nat.le_of_lt (show p.bytes.length < readbufSize from hfits))
    exact ⟨mqttCycle_message hc p hfits io s, packetRest_packetBytes p.header p.rest s hrest⟩
  | control header body =>
    exact ⟨mqttCycle_control hc header body hfits io s,
      packetRest_packetBytes header body s (body_lt hfits.1)⟩

/-! ### The loop of the worker -/

omit [CJsonParser] [TimeoutCalc] in
theorem servedPackets_cons (p : ServerPacket × CycleIO) (ps : List (ServerPacket × CycleIO)) :
    servedPackets (p :: ps) = if p.1.fails p.2 then [p] else p :: servedPackets ps := by
  rw [servedPackets, List.findIdx_cons]
  cases p.1.fails p.2 with
  | false => rfl
  | true => rfl

/-- The loop serves the packets up to the first that fails. -/
theorem serve_eq (ps : List (ServerPacket × CycleIO)) (rest : List UInt8) :
    ∀ c : CycleClient, c.Ready rounds → (∀ p ∈ ps, p.1.Fits) →
    ∃ s, serve (ps.map (·.2)) (ps.flatMap (·.1.bytes) ++ rest) c = some s ∧
      s.client.Ready rounds ∧
      s.stream = (ps.drop (servedPackets ps).length).flatMap (·.1.bytes) ++ rest ∧
      s.online = ps.all (fun p => !p.1.fails p.2) ∧
      s.sent = (servedPackets ps).flatMap (fun p => p.1.sent p.2) ∧
      SameEvents s.events
        ((servedPackets ps).flatMap fun p => p.1.events (firmwareHandler rounds) p.2) := by
  induction ps with
  | nil =>
    intro c hc _
    exact ⟨_, rfl, hc, rfl, rfl, rfl, SameEvents.refl []⟩
  | cons p ps ih =>
    intro c hc hfits
    obtain ⟨⟨r, hcycle, hserves⟩, hrest⟩ := mqttCycle_serves hc p.1 (hfits p List.mem_cons_self)
      p.2 (ps.flatMap (·.1.bytes) ++ rest)
    rw [List.map_cons, List.flatMap_cons, List.append_assoc, serve, hcycle, servedPackets_cons,
      List.all_cons]
    simp only [Option.bind_eq_bind, Option.bind_some, hrest]
    cases hfails : p.1.fails p.2 with
    | true =>
      rw [if_pos (hserves.rc.mpr hfails)]
      refine ⟨_, rfl, hserves.client, rfl, rfl, ?_, ?_⟩
      · show r.sent = p.1.sent p.2 ++ []
        rw [hserves.sent, List.append_nil]
      · show SameEvents r.events (p.1.events (firmwareHandler rounds) p.2 ++ [])
        rw [List.append_nil]
        exact hserves.events
    | false =>
      have hrc : ¬ r.rc < 0 := by
        rw [hserves.rc, hfails]
        exact Bool.false_ne_true
      obtain ⟨s, hserve, hclient, hstream, honline, hsent, hevents⟩ := ih r.client hserves.client
        fun q hq => hfits q (List.mem_cons_of_mem p hq)
      rw [if_neg hrc, hserve]
      refine ⟨_, rfl, hclient, hstream, honline, ?_, hserves.events.append hevents⟩
      show r.sent ++ s.sent = p.1.sent p.2 ++ (servedPackets ps).flatMap fun p => p.1.sent p.2
      rw [hserves.sent, hsent]

end Cycle

/-- Take any packets of a server, as one stream of bytes, and a worker whose table is what any
rounds of `mqtt_sub_init` made it, with anything in its buffers. The loop takes the packets
apart again up to the first whose cycle fails, and leaves the rest of the stream. The handlers
do to the firmware, from any world, what the messages of these packets say: the same world and
the same records. The acknowledgments go out in the order of the packets. -/
theorem serve_refines_controller [CJsonParser] [TimeoutCalc]
    (rounds : List (List (Option SubscribeIO))) (c : CycleClient) (hc : c.Ready rounds)
    (ps : List (ServerPacket × CycleIO)) (hfits : ∀ p ∈ ps, p.1.Fits) (rest : List UInt8) :
    ∃ s, serve (ps.map (·.2)) (ps.flatMap (·.1.bytes) ++ rest) c = some s ∧
      s.stream = (ps.drop (servedPackets ps).length).flatMap (·.1.bytes) ++ rest ∧
      s.online = ps.all (fun p => !p.1.fails p.2) ∧
      s.sent = (servedPackets ps).flatMap (fun p => p.1.sent p.2) ∧
      ∀ w : World,
        let events := (servedPackets ps).flatMap fun p =>
          p.1.events (firmwareHandler rounds) p.2
        controller.run w s.events = controller.run w events ∧
          controller.log w s.events = controller.log w events := by
  obtain ⟨s, hserve, -, hstream, honline, hsent, hevents⟩ := serve_eq ps rest c hc hfits
  exact ⟨s, hserve, hstream, honline, hsent, hevents⟩

/-- A command with QoS 1 and a PUBREC, on one stream: a PUBACK and a PUBREL go out. -/
theorem serve_refines_controller_two :
    let io : CycleIO := ⟨⟨true, 0, 0, 0, 0⟩, true, 0, 0⟩
    let p : PublishPacket := ⟨false, ⟨1, by decide⟩, false, 7, ofText "device/control", [123, 125],
      by decide⟩
    let table := (subscriber FirmwareHandler).run
      (SubscribeClient.initial FirmwareHandler readbufSize)
      ([[some ⟨true, true⟩, some ⟨true, true⟩]].flatMap mqttSubInit)
    let c : CycleClient :=
      ⟨List.replicate readbufSize 0, List.replicate readbufSize 0, table.messageHandlers, 0⟩
    ∃ s, serve [io, io] (p.bytes ++ packetBytes 80 [0, 5]) c = some s ∧ s.online = true ∧
      s.sent = [[64, 2, 0, 7], [98, 2, 0, 5]] := by
  intro io p table c
  have hc : c.Ready [[some ⟨true, true⟩, some ⟨true, true⟩]] :=
    ⟨List.length_replicate, List.length_replicate, by dsimp only [c, table]⟩
  have hfits : ∀ q ∈ [(ServerPacket.message p, io), (.control 80 [0, 5], io)], q.1.Fits := by
    intro q hq
    rcases List.mem_cons.mp hq with rfl | hq
    · show p.bytes.length < readbufSize
      decide +kernel
    · rw [List.mem_singleton.mp hq]
      show (packetBytes 80 [0, 5]).length ≤ readbufSize ∧ (80 : UInt8) >>> 4 ≠ publish ∧
        ((80 : UInt8) >>> 4 = suback → [0, 5].length ≤ 3)
      decide +kernel
  let _ := CJsonParser.table []
  let _ := TimeoutCalc.board
  obtain ⟨s, hserve, -, honline, hsent, -⟩ :=
    serve_refines_controller [[some ⟨true, true⟩, some ⟨true, true⟩]] c hc _ hfits []
  rw [List.append_nil] at hserve
  have hacks : (servedPackets [(ServerPacket.message p, io), (.control 80 [0, 5], io)]).flatMap
      (fun p => p.1.sent p.2) = [[64, 2, 0, 7], [98, 2, 0, 5]] := by decide +kernel
  refine ⟨s, ?_, honline, hsent.trans hacks⟩
  rw [← hserve]
  show serve _ _ c = serve _ (p.bytes ++ (packetBytes 80 [0, 5] ++ [])) c
  rw [List.append_nil]
  rfl

/-! ### Messages that are not well formed -/

section Malformed

variable {header : UInt8} {body s : List UInt8}

/-- The remaining length has one byte up to 127. -/
theorem length_encode_eq_one (n : Nat) : (mqttPacketEncode n).length = 1 ↔ n < 128 := by
  have hle := Varint.length_encode_le_iff (k := 1) (by decide) n
  have hpos : ¬ (Varint.encode n).length ≤ 0 := by
    rw [Varint.encode]
    split <;> simp
  rw [mqttPacketEncode]
  omega

theorem hasTopic_cons {high low : UInt8} {rest : List UInt8} {more : Nat} :
    HasTopic more (high :: low :: rest) ↔ 256 * high.toNat + low.toNat + more ≤ rest.length := by
  constructor
  · rintro ⟨_, _, _, heq, h⟩
    cases heq
    exact h
  · intro h
    exact ⟨high, low, rest, rfl, h⟩

/-- A body of less than two bytes has no topic. -/
theorem not_hasTopic_of_short {more : Nat} (h : body.length < 2) : ¬ HasTopic more body := by
  rintro ⟨high, low, rest, rfl, -⟩
  rw [List.length_cons, List.length_cons] at h
  omega

/-- `MQTTDeserialize_publish` of any packet of its type: it needs the topic, and nothing else. -/
theorem mqttDeserializePublish_cases (htype : header >>> 4 = publish)
    (hbody : body.length < 128 ^ maxNoOfRemainingLengthBytes) (hroom : 2 ≤ s.length) :
    (¬ HasTopic 0 body ∧ mqttDeserializePublish (packetBytes header body ++ s) = some none) ∨
    (HasTopic 0 body ∧ ∃ d, mqttDeserializePublish (packetBytes header body ++ s) = some (some d) ∧
      (0 ≤ d.payloadlen ↔ header >>> 1 &&& 3 = 0 ∨ HasTopic 2 body)) := by
  obtain ⟨hdecode, hdrop⟩ := decodeBuf_packet header body s hbody
  rw [← packetBytes] at hdecode hdrop
  have hheader : (packetBytes header body ++ s)[0]? = some header := rfl
  generalize packetBytes header body ++ s = buf at hdecode hdrop hheader
  generalize (mqttPacketEncode body.length).length = n at hdecode hdrop
  unfold mqttDeserializePublish
  simp only [hheader, hdecode, Option.bind_eq_bind, Option.bind_some]
  rw [if_neg (not_not_intro htype)]
  by_cases hshort : body.length < 2
  · refine Or.inl ⟨not_hasTopic_of_short hshort, ?_⟩
    have hread : readMqttLenString buf (1 + n) (1 + n + body.length) = some none := by
      rw [readMqttLenString, if_neg (by omega)]
    rw [hread]
    rfl
  obtain ⟨high, low, rest, rfl⟩ := eq_cons_cons_of_length hshort
  have hlen : (high :: low :: rest).length = 2 + rest.length := by
    rw [List.length_cons, List.length_cons]
    omega
  have hhigh : buf[1 + n]? = some high := getElem?_of_drop hdrop 0
  have hlow : buf[1 + n + 1]? = some low := getElem?_of_drop hdrop 1
  have hid : readInt buf (1 + n) = some (256 * high.toNat + low.toNat, 1 + n + 2) := by
    rw [readInt, hhigh, hlow]
    rfl
  rw [hasTopic_cons, hasTopic_cons, hlen]
  generalize 256 * high.toNat + low.toNat = len at hid
  by_cases htopic : len + 0 ≤ rest.length
  · right
    refine ⟨htopic, ?_⟩
    have hread : readMqttLenString buf (1 + n) (1 + n + (2 + rest.length)) =
        some (some (⟨1 + n + 2, len⟩, 1 + n + 2 + len)) := by
      rw [readMqttLenString, if_pos (by omega), hid]
      exact congrArg some (if_pos (by omega))
    simp only [hread, Option.bind_some]
    rw [if_neg (by omega)]
    -- The packet id may lie behind the packet.
    have hbytes : ∃ more, readInt buf (1 + n + 2 + len) = some (more, 1 + n + 2 + len + 2) := by
      have htail : buf.drop (1 + n + 2 + len) = (rest ++ s).drop len := by
        have hpair : buf.drop (1 + n) = [high, low] ++ (rest ++ s) := hdrop
        rw [← List.drop_drop]
        exact congrArg (List.drop len) (drop_add_length hpair)
      have hlong : ¬ ((rest ++ s).drop len).length < 2 := by
        rw [List.length_drop, List.length_append]
        omega
      obtain ⟨a, b, more, h⟩ := eq_cons_cons_of_length hlong
      rw [h] at htail
      have ha : buf[1 + n + 2 + len]? = some a := getElem?_of_drop htail 0
      have hb : buf[1 + n + 2 + len + 1]? = some b := getElem?_of_drop htail 1
      exact ⟨_, by rw [readInt, ha, hb]; rfl⟩
    obtain ⟨more, hmore⟩ := hbytes
    have hqos : header >>> 1 &&& 3 = 0 ↔ ¬ 0 < (header >>> 1 &&& 3).toNat := by
      rw [← UInt8.toNat_inj, UInt8.toNat_zero]
      omega
    by_cases hpos : 0 < (header >>> 1 &&& 3).toNat
    · rw [if_pos hpos, hmore]
      refine ⟨_, rfl, ?_⟩
      rw [hqos]
      show 0 ≤ ((1 + n + (2 + rest.length) : Nat) : Int) - ((1 + n + 2 + len + 2 : Nat) : Int) ↔ _
      omega
    · rw [if_neg hpos]
      refine ⟨_, rfl, iff_of_true ?_ (Or.inl (hqos.mpr hpos))⟩
      show 0 ≤ ((1 + n + (2 + rest.length) : Nat) : Int) - ((1 + n + 2 + len : Nat) : Int)
      omega
  · left
    refine ⟨htopic, ?_⟩
    have hread : readMqttLenString buf (1 + n) (1 + n + (2 + rest.length)) = some none := by
      rw [readMqttLenString, if_pos (by omega), hid]
      exact congrArg some (if_neg (by omega))
    rw [hread]
    rfl

/-- The result of `MQTTDeserialize_publish` is 1 for a packet that has its topic, and also for
every other packet whose remaining length is below 128. Of the packets that have their topic,
those of QoS 1 and 2 without room for the packet id give a payload of negative length. -/
theorem publishRc_iff (header : UInt8) (body s : List UInt8) (htype : header >>> 4 = publish)
    (hbody : body.length < 128 ^ maxNoOfRemainingLengthBytes) (hroom : 2 ≤ s.length) :
    (mqttDeserializePublishRc (packetBytes header body ++ s) = some 1 ↔
      HasTopic 0 body ∨ body.length < 128) ∧
    ((∃ d, mqttDeserializePublish (packetBytes header body ++ s) = some (some d)) ↔
      HasTopic 0 body) ∧
    ∀ d, mqttDeserializePublish (packetBytes header body ++ s) = some (some d) →
      (0 ≤ d.payloadlen ↔ header >>> 1 &&& 3 = 0 ∨ HasTopic 2 body) := by
  obtain ⟨hdecode, -⟩ := decodeBuf_packet header body s hbody
  rw [← packetBytes] at hdecode
  have hheader : (packetBytes header body ++ s)[0]? = some header := rfl
  have hrc : mqttDeserializePublishRc (packetBytes header body ++ s) =
      (mqttDeserializePublish (packetBytes header body ++ s)).map fun d =>
        if d.isSome then 1 else (mqttPacketEncode body.length).length := by
    unfold mqttDeserializePublishRc
    simp only [hheader, hdecode, Option.bind_eq_bind, Option.bind_some]
    rw [if_neg (not_not_intro htype)]
    cases mqttDeserializePublish (packetBytes header body ++ s) with
    | none => rfl
    | some d => cases d <;> rfl
  rw [hrc]
  rcases mqttDeserializePublish_cases htype hbody hroom with ⟨hno, hread⟩ | ⟨hyes, d, hread, hlen⟩
  · rw [hread]
    refine ⟨?_, ?_, ?_⟩
    · show some (mqttPacketEncode body.length).length = some 1 ↔ _
      rw [Option.some.injEq, length_encode_eq_one]
      exact ⟨Or.inr, fun h => h.resolve_left hno⟩
    · exact iff_of_false (fun h => h.elim fun d hd => nomatch Option.some.inj hd) hno
    · exact fun d hd => (nomatch Option.some.inj hd)
  · rw [hread]
    refine ⟨iff_of_true rfl (Or.inl hyes), iff_of_true ⟨d, rfl⟩ hyes, fun d' hd => ?_⟩
    obtain rfl := Option.some.inj (Option.some.inj hd)
    exact hlen

/-- A PUBLISH packet with a body of one byte has no topic, and is taken for a success. -/
theorem publishRc_short :
    mqttDeserializePublishRc (packetBytes 48 [0] ++ [0, 0]) = some 1 ∧
      ¬ ∃ d, mqttDeserializePublish (packetBytes 48 [0] ++ [0, 0]) = some (some d) := by
  obtain ⟨hrc, hfields, -⟩ := publishRc_iff 48 [0] [0, 0] (by decide) (by decide) (by decide)
  refine ⟨hrc.mpr (Or.inr (by decide)), fun h => ?_⟩
  exact not_hasTopic_of_short (by decide) (hfields.mp h)

end Malformed

end SmartBuilding
