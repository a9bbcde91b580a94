import SmartBuilding.CJson
import SmartBuilding.Mqtt.Packet

/-!
# `SmartBuilding.Proofs.Packet`: the payload in the read buffer, and the NUL behind it

A packet that fits into the read buffer gets there as it was sent (`readPacket_bytes`), and
taking it apart gives its fields back (`deserialize_bytes`), whatever the buffer held before.
So the payload starts at a known offset, and ends with the packet. The NUL that the callbacks
write goes to the byte after the packet (`terminator_data`). That byte is inside the buffer
exactly when the packet does not fill it (`terminatesInside_iff`).

In a buffer with that byte, the C string at the payload is what `parsePayload` parses
(`parse_terminated`).
-/

set_option autoImplicit false

namespace SmartBuilding

open CText

/-! ### The readers of the packet -/

/-- The loop of the source accumulates what `Varint.decode` returns. -/
theorem decodeLoop_of_decode {atEnd : Nat × Nat → Option (Nat × Nat)} {left n k : Nat}
    {bytes : List UInt8} (h : Varint.decode left bytes = some (n, k)) :
    ∀ len multiplier value, decodeLoop atEnd left len multiplier value bytes =
      some (value + multiplier * n, len + k) := by
  induction left generalizing bytes n k with
  | zero => rw [Varint.decode] at h; cases h
  | succ left ih =>
    intro len multiplier value
    cases bytes with
    | nil => rw [Varint.decode] at h; cases h
    | cons c bytes =>
      rw [Varint.decode] at h
      rw [decodeLoop]
      by_cases hmore : c &&& 128 ≠ 0
      · rw [if_pos hmore] at h ⊢
        obtain ⟨⟨n', k'⟩, hrest, hnk⟩ := Option.map_eq_some_iff.mp h
        obtain ⟨rfl, rfl⟩ := Prod.mk.inj hnk
        rw [ih hrest, Option.some.injEq, Prod.mk.injEq]
        constructor
        · ring
        · omega
      · rw [if_neg hmore] at h ⊢
        obtain ⟨rfl, rfl⟩ := Prod.mk.inj (Option.some.inj h)
        rw [Nat.mul_comm]

/-- A remaining length of at most four bytes is read back. -/
theorem decodeLoop_encode (atEnd : Nat × Nat → Option (Nat × Nat)) {n : Nat}
    (h : n < 128 ^ maxNoOfRemainingLengthBytes) (bytes : List UInt8) :
    decodeLoop atEnd maxNoOfRemainingLengthBytes 0 1 0 (mqttPacketEncode n ++ bytes) =
      some (n, (mqttPacketEncode n).length) := by
  have hdecode := Varint.decode_encode (show 0 < maxNoOfRemainingLengthBytes by decide) h bytes
  rw [mqttPacketEncode, decodeLoop_of_decode hdecode, Nat.one_mul, Nat.zero_add, Nat.zero_add]

/-- What follows a piece of the buffer. -/
theorem drop_add_length {buf xs ys : List UInt8} {off : Nat} (h : buf.drop off = xs ++ ys) :
    buf.drop (off + xs.length) = ys := by
  rw [← List.drop_drop, h, List.drop_left]

/-- The bytes of a piece of the buffer. -/
theorem getElem?_of_drop {buf xs : List UInt8} {off : Nat} (h : buf.drop off = xs) (j : Nat) :
    buf[off + j]? = xs[j]? := by
  rw [← h, List.getElem?_drop]

theorem length_writeInt (n : Nat) : (PublishPacket.writeInt n).length = 2 := rfl

/-- A number of two bytes is read back. -/
theorem readInt_writeInt {buf s : List UInt8} {off n : Nat}
    (h : buf.drop off = PublishPacket.writeInt n ++ s) (hn : n < 2 ^ 16) :
    readInt buf off = some (n, off + 2) := by
  have hhigh : buf[off]? = some (n / 256).toUInt8 := getElem?_of_drop h 0
  have hlow : buf[off + 1]? = some (n % 256).toUInt8 := getElem?_of_drop h 1
  have hvalue : 256 * (n / 256).toUInt8.toNat + (n % 256).toUInt8.toNat = n := by
    rw [Nat.toUInt8_eq, Nat.toUInt8_eq, UInt8.toNat_ofNat', UInt8.toNat_ofNat']
    omega
  rw [readInt, hhigh, hlow]
  show some (256 * (n / 256).toUInt8.toNat + (n % 256).toUInt8.toNat, off + 2) = _
  rw [hvalue]

/-- A string with its length in front is read back. -/
theorem readMqttLenString_writeInt {buf str s : List UInt8} {off : Nat} (enddata : Nat)
    (h : buf.drop off = PublishPacket.writeInt str.length ++ (str ++ s))
    (hstr : str.length < 2 ^ 16) (hend : off + 2 + str.length ≤ enddata) :
    readMqttLenString buf off enddata =
      some (some (⟨off + 2, str.length⟩, off + 2 + str.length)) := by
  unfold readMqttLenString
  rw [if_pos (by omega), readInt_writeInt h hstr]
  simp [hend]

/-! ### The fields of a packet -/

namespace PublishPacket

variable (p : PublishPacket)

/-- The bit fields of the header byte. -/
theorem header_fields :
    p.header >>> 4 = publish ∧ decide (p.header >>> 3 &&& 1 = 1) = p.dup ∧
      (p.header >>> 1 &&& 3).toNat = p.qos.val ∧ decide (p.header &&& 1 = 1) = p.retained := by
  have hall : ∀ (dup : Bool) (qos : Fin 4) (retained : Bool),
      let header := publish <<< 4 ||| dup.toUInt8 <<< 3 ||| qos.val.toUInt8 <<< 1 |||
        retained.toUInt8
      header >>> 4 = publish ∧ decide (header >>> 3 &&& 1 = 1) = dup ∧
        (header >>> 1 &&& 3).toNat = qos.val ∧ decide (header &&& 1 = 1) = retained := by decide
  exact hall p.dup p.qos p.retained

/-- What `MQTTDeserialize_publish` should find in a buffer with the packet at its start. -/
def data : PublishData where
  dup := p.dup
  qos := p.qos.val
  retained := p.retained
  packetid := if 0 < p.qos.val then some p.packetid.toNat else none
  topicName := ⟨1 + (mqttPacketEncode p.rest.length).length + 2, p.topicName.length⟩
  payload := 1 + (mqttPacketEncode p.rest.length).length + 2 + p.topicName.length +
    p.idBytes.length
  payloadlen := p.payload.length

theorem length_rest :
    p.rest.length = 2 + p.topicName.length + p.idBytes.length + p.payload.length := by
  simp only [rest, List.length_append, length_writeInt]

theorem length_bytes :
    p.bytes.length = 1 + (mqttPacketEncode p.rest.length).length + p.rest.length := by
  simp only [bytes, List.length_cons, List.length_append]
  omega

/-- The NUL goes to the byte after the packet. -/
theorem terminator_data : p.data.terminator = p.bytes.length := by
  have hrest := p.length_rest
  have hbytes := p.length_bytes
  simp only [PublishData.terminator, data]
  omega

/-- The payload is at its offset. -/
theorem drop_payload (s : List UInt8) : (p.bytes ++ s).drop p.data.payload = p.payload ++ s := by
  have hfront : p.bytes ++ s = (p.header :: (mqttPacketEncode p.rest.length ++
      (writeInt p.topicName.length ++ p.topicName ++ p.idBytes))) ++ (p.payload ++ s) := by
    simp [bytes, rest]
  have hlength : p.data.payload = (p.header :: (mqttPacketEncode p.rest.length ++
      (writeInt p.topicName.length ++ p.topicName ++ p.idBytes))).length := by
    simp only [data, List.length_cons, List.length_append, length_writeInt]
    omega
  rw [hfront, hlength, List.drop_left]

/-- Taking apart a packet at the start of a buffer gives its fields. -/
theorem deserialize_bytes (s : List UInt8)
    (h : p.rest.length < 128 ^ maxNoOfRemainingLengthBytes) :
    mqttDeserializePublish (p.bytes ++ s) = some (some p.data) := by
  obtain ⟨htype, hdup, hqos, hretained⟩ := p.header_fields
  have hheader : (p.bytes ++ s)[0]? = some p.header := rfl
  -- The remaining length, and the pointer behind it.
  have hdrop : (p.bytes ++ s).drop 1 = mqttPacketEncode p.rest.length ++ (p.rest ++ s) := by
    show mqttPacketEncode p.rest.length ++ p.rest ++ s = _
    rw [List.append_assoc]
  have hlen : mqttPacketDecodeBuf (p.bytes ++ s) 1 =
      some (p.rest.length, (mqttPacketEncode p.rest.length).length) := by
    rw [mqttPacketDecodeBuf, hdrop]
    exact decodeLoop_encode _ h _
  -- The topic.
  have hdrop := drop_add_length hdrop
  have htopic : p.rest ++ s =
      writeInt p.topicName.length ++ (p.topicName ++ (p.idBytes ++ (p.payload ++ s))) := by
    simp only [rest, List.append_assoc]
  rw [htopic] at hdrop
  have hrest := p.length_rest
  have hname := readMqttLenString_writeInt
    (1 + (mqttPacketEncode p.rest.length).length + p.rest.length) hdrop p.length_topicName
    (by omega)
  -- The packet id.
  have hdrop := drop_add_length (drop_add_length hdrop)
  rw [length_writeInt] at hdrop
  unfold mqttDeserializePublish
  simp only [hheader, hlen, hname, htype, hdup, hqos, hretained, Option.bind_eq_bind,
    Option.bind_some]
  rw [if_neg (not_not_intro rfl), if_neg (by omega)]
  by_cases hzero : 0 < p.qos.val
  · have hidBytes : p.idBytes = writeInt p.packetid.toNat := if_pos hzero
    rw [hidBytes] at hdrop
    rw [if_pos hzero, readInt_writeInt hdrop p.packetid.toNat_lt]
    simp only [data, hidBytes, length_writeInt, if_pos hzero, Option.map_some, Option.bind_some,
      Option.pure_def, Option.some.injEq, PublishData.mk.injEq, true_and]
    rw [hidBytes, length_writeInt] at hrest
    omega
  · have hidBytes : p.idBytes = [] := if_neg hzero
    rw [if_neg hzero]
    simp only [data, hidBytes, List.length_nil, if_neg hzero, Option.pure_def, Option.some.injEq,
      PublishData.mk.injEq, true_and]
    rw [hidBytes, List.length_nil] at hrest
    omega

/-- A packet that fits gets into the buffer as it was sent. -/
theorem readPacket_bytes (readbuf s : List UInt8) (hfits : p.bytes.length ≤ readbuf.length)
    (h : p.rest.length < 128 ^ maxNoOfRemainingLengthBytes) :
    mqttPacketReadPacket readbuf (p.bytes ++ s) =
      some (p.bytes ++ readbuf.drop p.bytes.length) := by
  have hlen := decodeLoop_encode some h (p.rest ++ s)
  have htail : (p.bytes ++ s).tail = mqttPacketEncode p.rest.length ++ (p.rest ++ s) := by
    show mqttPacketEncode p.rest.length ++ p.rest ++ s = _
    rw [List.append_assoc]
  unfold mqttPacketReadPacket decodePacket
  simp only [htail, hlen, Option.bind_eq_bind, Option.bind_some]
  -- Four bytes are enough for the remaining length, so all of it is skipped.
  have hfour : (mqttPacketEncode p.rest.length).length ≤ maxNoOfRemainingLengthBytes :=
    (Varint.length_encode_le_iff (by decide) _).mpr h
  have hbody : ((mqttPacketEncode p.rest.length ++ (p.rest ++ s)).drop
      (min (mqttPacketEncode p.rest.length).length maxNoOfRemainingLengthBytes)).take
        p.rest.length = p.rest := by
    rw [Nat.min_eq_left hfour, List.drop_left, List.take_left]
  have hbytes := p.length_bytes
  have hfront : (p.header :: mqttPacketEncode p.rest.length).length + p.rest.length =
      p.bytes.length := by
    rw [List.length_cons]
    omega
  show (if _ then _ else _) = _
  rw [hbody, hfront, if_pos ⟨rfl, hfits⟩]
  rfl

end PublishPacket

/-! ### The NUL behind the payload -/

/-- A packet that is received with anything in the buffer before it is taken apart, and the
NUL of the callbacks goes to an index of the buffer. -/
def TerminatesInside (p : PublishPacket) : Prop :=
  ∀ readbuf stream : List UInt8, readbuf.length = readbufSize → p.bytes.length ≤ readbufSize →
    ∃ buf d, mqttPacketReadPacket readbuf (p.bytes ++ stream) = some buf ∧
      mqttDeserializePublish buf = some (some d) ∧
      0 ≤ d.terminator ∧ d.terminator < readbufSize

/-- A packet of at most 1024 bytes has a remaining length of at most four bytes. -/
theorem PublishPacket.rest_lt {p : PublishPacket} (h : p.bytes.length ≤ readbufSize) :
    p.rest.length < 128 ^ maxNoOfRemainingLengthBytes := by
  have hbytes := p.length_bytes
  have hsize : readbufSize < 128 ^ maxNoOfRemainingLengthBytes := by decide
  omega

/-- A packet that fits into the buffer is received and taken apart. -/
theorem PublishPacket.receive {p : PublishPacket} {readbuf : List UInt8}
    (hbuf : readbuf.length = readbufSize) (h : p.bytes.length ≤ readbufSize)
    (stream : List UInt8) :
    mqttPacketReadPacket readbuf (p.bytes ++ stream) =
        some (p.bytes ++ readbuf.drop p.bytes.length) ∧
      mqttDeserializePublish (p.bytes ++ readbuf.drop p.bytes.length) = some (some p.data) :=
  ⟨p.readPacket_bytes readbuf stream (by omega) (rest_lt h), p.deserialize_bytes _ (rest_lt h)⟩

/-- A packet that fills the buffer leaves no byte for the NUL. -/
theorem terminatesOutside_of_full {p : PublishPacket} (hfull : p.bytes.length = readbufSize) :
    ¬ TerminatesInside p := by
  intro h
  have hterminator := p.terminator_data
  have hbuf : (List.replicate readbufSize (0 : UInt8)).length = readbufSize :=
    List.length_replicate
  obtain ⟨hread, htaken⟩ := PublishPacket.receive hbuf (Nat.le_of_eq hfull) []
  obtain ⟨buf, d, hread', htaken', -, hinside⟩ := h _ [] hbuf (Nat.le_of_eq hfull)
  -- Both are the same buffer and the same fields.
  obtain rfl := Option.some.inj (hread.symm.trans hread')
  obtain rfl := Option.some.inj (Option.some.inj (htaken.symm.trans htaken'))
  omega

/-- The NUL goes inside the buffer exactly when the packet does not fill the buffer. -/
theorem terminatesInside_iff (p : PublishPacket) :
    TerminatesInside p ↔ p.bytes.length ≠ readbufSize := by
  constructor
  · intro h hfull
    exact terminatesOutside_of_full hfull h
  · intro hne readbuf stream hbuf hle
    have hterminator := p.terminator_data
    obtain ⟨hread, htaken⟩ := PublishPacket.receive hbuf hle stream
    exact ⟨_, _, hread, htaken, by omega, by omega⟩

/-- A command for the devices that fills the buffer: 1005 bytes with the topic
`device/control`. -/
def fullPacket : PublishPacket where
  dup := false
  qos := 0
  retained := false
  packetid := 0
  topicName := ofText "device/control"
  payload := List.replicate 1005 32
  length_topicName := by decide

/-- The NUL behind a packet of 1024 bytes goes to index 1024. -/
theorem terminator_leaves_buffer : ¬ ∀ p, TerminatesInside p := by
  intro h
  refine terminatesOutside_of_full (p := fullPacket) ?_ (h fullPacket)
  have htopic : fullPacket.topicName.length = 14 := by decide
  have hpayload : fullPacket.payload.length = 1005 := List.length_replicate
  have hid : fullPacket.idBytes.length = 0 := by decide
  have hrest : fullPacket.rest.length = 1021 := by
    rw [fullPacket.length_rest]
    omega
  -- The remaining length takes two bytes.
  have hle : (Varint.encode 1021).length ≤ 2 :=
    (Varint.length_encode_le_iff (by decide) 1021).mpr (by decide)
  have hgt : ¬ (Varint.encode 1021).length ≤ 1 := fun h =>
    absurd ((Varint.length_encode_le_iff (by decide) 1021).mp h) (by decide)
  have hlength : (Varint.encode 1021).length = 2 := by omega
  rw [fullPacket.length_bytes, hrest, mqttPacketEncode, hlength]
  rfl

/-- When there is a byte behind the packet, the handlers parse its payload. -/
theorem parse_terminated [CJsonParser] (p : PublishPacket) {readbuf : List UInt8}
    (h : p.bytes.length < readbuf.length) :
    CJsonParser.cJSONParse (cString ((terminatePayload
      (p.bytes ++ readbuf.drop p.bytes.length) p.data).drop p.data.payload)) =
      parsePayload p.payload := by
  obtain ⟨b, s, hdrop⟩ : ∃ b s, readbuf.drop p.bytes.length = b :: s :=
    List.exists_cons_of_ne_nil (by rw [Ne, List.drop_eq_nil_iff]; omega)
  have hset : terminatePayload (p.bytes ++ b :: s) p.data = p.bytes ++ 0 :: s := by
    rw [terminatePayload, p.terminator_data]
    simp
  rw [hdrop, hset, p.drop_payload, cString_append_nul, parsePayload]

end SmartBuilding
