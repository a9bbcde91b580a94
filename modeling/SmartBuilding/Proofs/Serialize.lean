import SmartBuilding.Mqtt.Serialize
import SmartBuilding.Proofs.Packet

/-!
# `SmartBuilding.Proofs.Serialize`: what the client writes is what the other end reads

The serializers write into the buffer without a check of their own, after one comparison of
`MQTTPacket_len` with the length of the buffer. `mqttPacketLen` is never less than the length
of the packet (`mqttPacketLen_eq`), so no write leaves the buffer (`serializeParts_eq`). At
four lengths it is one more, and a packet of such a length that fits exactly is refused.
-/

set_option autoImplicit false

namespace SmartBuilding

open Memory

/-! ### The length of a packet -/

/-- The remaining lengths for which `MQTTPacket_len` counts a byte too many. -/
def overcounted (remLen : Nat) : Prop :=
  remLen = 127 ∨ remLen = 16383 ∨ remLen = 2097150 ∨ remLen = 2097151

instance (remLen : Nat) : Decidable (overcounted remLen) :=
  inferInstanceAs (Decidable (_ ∨ _))

/-- `MQTTPacket_len` is the length of a packet, but for the four lengths. -/
theorem mqttPacketLen_eq (remLen : Nat) (h : remLen < 128 ^ maxNoOfRemainingLengthBytes) :
    mqttPacketLen remLen =
      1 + (mqttPacketEncode remLen).length + remLen + if overcounted remLen then 1 else 0 := by
  have h1 := Varint.length_encode_le_iff (k := 1) (by decide) remLen
  have h2 := Varint.length_encode_le_iff (k := 2) (by decide) remLen
  have h3 := Varint.length_encode_le_iff (k := 3) (by decide) remLen
  have h4 := Varint.length_encode_le_iff (k := 4) (by decide) remLen
  have hpos : ¬ (Varint.encode remLen).length ≤ 0 := by
    rw [Varint.encode]
    split <;> simp
  have hlt : remLen < 268435456 := h
  rw [show 128 ^ 1 = 128 by rfl] at h1
  rw [show 128 ^ 2 = 16384 by rfl] at h2
  rw [show 128 ^ 3 = 2097152 by rfl] at h3
  rw [show 128 ^ 4 = 268435456 by rfl] at h4
  rw [mqttPacketLen, mqttPacketEncode]
  by_cases hover : overcounted remLen
  · rw [if_pos hover]
    rw [overcounted] at hover
    split
    case isTrue h => omega
    case isFalse h => split <;> [skip; split] <;> omega
  · rw [if_neg hover]
    rw [overcounted] at hover
    split
    case isTrue h => omega
    case isFalse h => split <;> [skip; split] <;> omega

theorem le_mqttPacketLen (remLen : Nat) : remLen ≤ mqttPacketLen remLen := by
  rw [mqttPacketLen]
  split <;> [skip; split <;> [skip; split]] <;> omega

/-! ### Writing the parts -/

/-- Writing parts one after the other is writing them together. -/
theorem foldlM_writeCells (parts : List (List UInt8)) :
    ∀ ptr : List UInt8 × Nat, ptr.2 ≤ ptr.1.length →
      parts.foldlM (fun ptr part => writeCells part ptr) ptr = writeCells parts.flatten ptr := by
  induction parts with
  | nil =>
    intro ptr h
    rw [List.flatten_nil, writeCells, store_nil, List.length_nil, Nat.add_zero, if_pos h]
    rfl
  | cons part parts ih =>
    intro ptr h
    rw [List.foldlM_cons, List.flatten_cons, ← writeCells_append]
    show (writeCells part ptr).bind _ = _
    cases hwrite : writeCells part ptr with
    | none => rfl
    | some next =>
      rw [Option.bind_some, Option.bind_some]
      apply ih
      -- The cursor is still in the buffer.
      rw [writeCells] at hwrite
      split at hwrite
      case isTrue hfit =>
        obtain rfl := Option.some.inj hwrite
        rw [length_store _ hfit]
        exact hfit
      case isFalse => cases hwrite

/-- Parts that fit go to the start of the buffer, and what lies behind them stays. -/
theorem writeParts_eq {buf : List UInt8} {parts : List (List UInt8)}
    (h : parts.flatten.length ≤ buf.length) :
    writeParts buf parts =
      some (parts.flatten ++ buf.drop parts.flatten.length, (parts.flatten.length : Int)) := by
  rw [writeParts, foldlM_writeCells parts _ (Nat.zero_le _), writeCells, Nat.zero_add, if_pos h,
    store_zero]
  rfl

/-- A serializer whose length is the length of its parts never leaves the buffer. It refuses
the packet, or writes it to the start of the buffer and changes nothing behind it. -/
theorem serializeParts_eq {buf : List UInt8} (header : UInt8) {remLen : Nat}
    {parts : List (List UInt8)} (hrem : remLen = parts.flatten.length)
    (hbuf : buf.length < 128 ^ maxNoOfRemainingLengthBytes) :
    serializeParts buf header remLen parts =
      some (if mqttPacketLen remLen ≤ buf.length then
        ((header :: (mqttPacketEncode remLen ++ parts.flatten))
            ++ buf.drop (1 + (mqttPacketEncode remLen).length + remLen),
          ((1 + (mqttPacketEncode remLen).length + remLen : Nat) : Int))
      else (buf, mqttpacketBufferTooShort)) := by
  rw [serializeParts]
  by_cases hfit : mqttPacketLen remLen ≤ buf.length
  · have hle := le_mqttPacketLen remLen
    have hlen := mqttPacketLen_eq remLen (Nat.lt_of_le_of_lt (Nat.le_trans hle hfit) hbuf)
    have hall : ([header] :: mqttPacketEncode remLen :: parts).flatten.length =
        1 + (mqttPacketEncode remLen).length + remLen := by
      rw [List.flatten_cons, List.flatten_cons, List.length_append, List.length_append,
        List.length_singleton, ← hrem]
      omega
    rw [if_neg (by omega), if_pos hfit, writeParts_eq (by omega), hall]
    rfl
  · rw [if_pos (by omega), if_neg hfit]

/-! ### PUBLISH -/

/-- The text of a C string, and its two bytes of length. -/
@[simp] theorem MqttString.written_ofCString (text : List UInt8) :
    (MqttString.ofCString text).written = PublishPacket.writeInt text.length ++ text := rfl

@[simp] theorem MqttString.mqttStrlen_ofCString (text : List UInt8) :
    (MqttString.ofCString text).mqttStrlen = text.length := rfl

/-- `MQTTSerialize_publish` writes the bytes of the packet, or refuses it. -/
theorem mqttSerializePublish_eq (p : PublishPacket) {buf : List UInt8}
    (hbuf : buf.length < 128 ^ maxNoOfRemainingLengthBytes) :
    mqttSerializePublish buf p.dup p.qos p.retained p.packetid (.ofCString p.topicName) p.payload =
      some (if mqttPacketLen p.rest.length ≤ buf.length then
        (p.bytes ++ buf.drop p.bytes.length, (p.bytes.length : Int))
      else (buf, mqttpacketBufferTooShort)) := by
  have hparts : ([(MqttString.ofCString p.topicName).written, p.idBytes, p.payload]
      : List (List UInt8)).flatten = p.rest := by
    simp [PublishPacket.rest]
  have hid : p.idBytes.length = if 0 < p.qos.val then 2 else 0 := by
    rw [PublishPacket.idBytes]
    split <;> rfl
  have hrem : mqttSerializePublishLength p.qos (.ofCString p.topicName) p.payload.length =
      p.rest.length := by
    rw [mqttSerializePublishLength, MqttString.mqttStrlen_ofCString, p.length_rest, hid]
    omega
  have hbytes := p.length_bytes
  rw [← hparts] at hrem
  have hserialize := serializeParts_eq (mqttHeader publish p.dup p.qos.val p.retained) hrem hbuf
  rw [hparts] at hrem hserialize
  rw [hrem, ← hbytes] at hserialize
  rw [mqttSerializePublish, hrem]
  exact hserialize

/-- Whatever is published, no byte is written outside of the buffer. A packet that fits is
written to its start, and the reader at the other end finds the fields there. A packet that
does not fit, or fits exactly with one of the four lengths, leaves the buffer as it was. -/
theorem serializePublish_correct (p : PublishPacket) (buf : List UInt8)
    (hbuf : buf.length < 128 ^ maxNoOfRemainingLengthBytes) :
    ∃ buf' rc, mqttSerializePublish buf p.dup p.qos p.retained p.packetid
        (.ofCString p.topicName) p.payload = some (buf', rc) ∧
      (rc = p.bytes.length ∧ buf' = p.bytes ++ buf.drop p.bytes.length ∧
          mqttDeserializePublish buf' = some (some p.data) ∨
        rc = mqttpacketBufferTooShort ∧ buf' = buf) ∧
      (0 < rc ↔ p.bytes.length ≤ buf.length ∧
        (p.bytes.length = buf.length → ¬ overcounted p.rest.length)) := by
  have hbytes := p.length_bytes
  have hle := le_mqttPacketLen p.rest.length
  have heq := mqttSerializePublish_eq p hbuf
  by_cases hfit : mqttPacketLen p.rest.length ≤ buf.length
  · have hrest : p.rest.length < 128 ^ maxNoOfRemainingLengthBytes := by omega
    have hlen := mqttPacketLen_eq _ hrest
    rw [if_pos hfit] at heq
    refine ⟨_, _, heq, Or.inl ⟨rfl, rfl, p.deserialize_bytes _ hrest⟩, iff_of_true (by omega) ?_⟩
    refine ⟨by omega, fun hfull hover => ?_⟩
    rw [if_pos hover] at hlen
    omega
  · rw [if_neg hfit] at heq
    refine ⟨_, _, heq, Or.inr ⟨rfl, rfl⟩, iff_of_false (by decide) fun h => ?_⟩
    have hlen := mqttPacketLen_eq p.rest.length (by omega)
    -- It fits by its bytes, so `MQTTPacket_len` is one more than they are.
    by_cases hover : overcounted p.rest.length
    · rw [if_pos hover] at hlen
      exact h.2 (by omega) hover
    · rw [if_neg hover] at hlen
      omega

/-- The packet of 1024 bytes, in a buffer of 1024 bytes. -/
theorem serializePublish_full :
    ∃ buf' rc, mqttSerializePublish (List.replicate readbufSize 0) fullPacket.dup fullPacket.qos
        fullPacket.retained fullPacket.packetid (.ofCString fullPacket.topicName)
        fullPacket.payload = some (buf', rc) ∧ (0 < rc ↔ fullPacket.bytes.length ≤ readbufSize ∧
        (fullPacket.bytes.length = readbufSize → ¬ overcounted fullPacket.rest.length)) := by
  have hbuf : (List.replicate readbufSize (0 : UInt8)).length = readbufSize :=
    List.length_replicate
  obtain ⟨buf', rc, heq, -, hrc⟩ := serializePublish_correct fullPacket
    (List.replicate readbufSize 0) (by rw [hbuf]; decide)
  rw [hbuf] at hrc
  exact ⟨buf', rc, heq, hrc⟩

/-! ### SUBSCRIBE -/

/-- The fields of a header byte. -/
theorem mqttHeader_fields (type : UInt8) (htype : type < 16) (dup : Bool) {qos : Nat}
    (hqos : qos < 4) (retain : Bool) :
    mqttHeader type dup qos retain >>> 4 = type ∧
      decide (mqttHeader type dup qos retain >>> 3 &&& 1 = 1) = dup := by
  have hall : ∀ (type : Fin 16) (dup : Bool) (qos : Fin 4) (retain : Bool),
      mqttHeader type.val.toUInt8 dup qos.val retain >>> 4 = type.val.toUInt8 ∧
        decide (mqttHeader type.val.toUInt8 dup qos.val retain >>> 3 &&& 1 = 1) = dup := by decide
  have hfields := hall ⟨type.toNat, htype⟩ dup ⟨qos, hqos⟩ retain
  have hback : type.toNat.toUInt8 = type := UInt8.ofNat_toNat
  rwa [hback] at hfields

/-- The remaining length at the start of a packet, and what follows it. -/
theorem decodeBuf_packet (header : UInt8) (body s : List UInt8)
    (h : body.length < 128 ^ maxNoOfRemainingLengthBytes) :
    mqttPacketDecodeBuf ((header :: (mqttPacketEncode body.length ++ body)) ++ s) 1 =
        some (body.length, (mqttPacketEncode body.length).length) ∧
      ((header :: (mqttPacketEncode body.length ++ body)) ++ s).drop
        (1 + (mqttPacketEncode body.length).length) = body ++ s := by
  have hdrop : ((header :: (mqttPacketEncode body.length ++ body)) ++ s).drop 1 =
      mqttPacketEncode body.length ++ (body ++ s) := by
    show mqttPacketEncode body.length ++ body ++ s = _
    rw [List.append_assoc]
  refine ⟨?_, drop_add_length hdrop⟩
  rw [mqttPacketDecodeBuf, hdrop]
  exact decodeLoop_encode _ h _

/-- A string with its length in front is read back, with its text and what follows it. -/
theorem readMqttLenString_text {buf text s : List UInt8} {off : Nat} (enddata : Nat)
    (h : buf.drop off = PublishPacket.writeInt text.length ++ text ++ s)
    (htext : text.length < 2 ^ 16) (hend : off + 2 + text.length ≤ enddata) :
    readMqttLenString buf off enddata =
        some (some (⟨off + 2, text.length⟩, off + 2 + text.length)) ∧
      MqttLenString.text buf ⟨off + 2, text.length⟩ = text ∧
      buf.drop (off + 2 + text.length) = s := by
  rw [List.append_assoc] at h
  have hdrop : buf.drop (off + 2) = text ++ s := drop_add_length h
  refine ⟨readMqttLenString_writeInt enddata h htext hend, ?_, drop_add_length hdrop⟩
  show (buf.drop (off + 2)).take text.length = text
  rw [hdrop, List.take_left]

/-- The bytes of a topic filter with its requested QoS. -/
def filterBytes (f : List UInt8 × UInt8) : List UInt8 :=
  PublishPacket.writeInt f.1.length ++ f.1 ++ [f.2]

/-- The loop of `MQTTDeserialize_subscribe` reads all topic filters up to the end. -/
theorem subscribeLoop_filterBytes {buf s : List UInt8} (fs : List (List UInt8 × UInt8)) :
    ∀ (fuel curdata : Nat), buf.drop curdata = fs.flatMap filterBytes ++ s →
      (fs.flatMap filterBytes).length < fuel → (fs.flatMap filterBytes).length < 2 ^ 16 →
      ∃ read, subscribeLoop buf (curdata + (fs.flatMap filterBytes).length) fuel curdata =
          some (some read) ∧
        read.map (fun f => (f.1.text buf, f.2)) = fs := by
  induction fs with
  | nil =>
    intro fuel curdata _ hfuel _
    obtain ⟨fuel, rfl⟩ : ∃ n, fuel = n + 1 := ⟨fuel - 1, by omega⟩
    exact ⟨[], if_neg (by simp), rfl⟩
  | cons f fs ih =>
    intro fuel curdata hdrop hfuel hlt
    obtain ⟨fuel, rfl⟩ : ∃ n, fuel = n + 1 := ⟨fuel - 1, by omega⟩
    have hlen : ((f :: fs).flatMap filterBytes).length =
        2 + f.1.length + 1 + (fs.flatMap filterBytes).length := by
      rw [List.flatMap_cons, List.length_append, filterBytes]
      simp only [List.length_append, length_writeInt, List.length_singleton]
    rw [List.flatMap_cons, filterBytes, List.append_assoc, List.append_assoc] at hdrop
    obtain ⟨hread, htext, hrest⟩ := readMqttLenString_text
      (curdata + ((f :: fs).flatMap filterBytes).length) hdrop (by omega) (by omega)
    have hqos : buf[curdata + 2 + f.1.length]? = some f.2 := getElem?_of_drop hrest 0
    have hnext : buf.drop (curdata + 2 + f.1.length + 1) = fs.flatMap filterBytes ++ s :=
      drop_add_length (show _ = [f.2] ++ _ from hrest)
    obtain ⟨read, hloop, hall⟩ := ih fuel _ hnext (by omega) (by omega)
    have hend : curdata + 2 + f.1.length + 1 + (fs.flatMap filterBytes).length =
        curdata + ((f :: fs).flatMap filterBytes).length := by omega
    rw [hend] at hloop
    refine ⟨(⟨curdata + 2, f.1.length⟩, f.2) :: read, ?_, ?_⟩
    · rw [subscribeLoop, if_pos (by omega), hread, andThen_some]
      show (if _ then _ else _) = _
      rw [if_neg (by omega), hqos, anyway_some, andThen_some, hloop, andThen_some]
    · rw [List.map_cons, htext, hall]

/-- What follows the remaining length of a SUBSCRIBE packet. -/
def subscribeBody (packetid : UInt16) (fs : List (List UInt8 × UInt8)) : List UInt8 :=
  PublishPacket.writeInt packetid.toNat ++ fs.flatMap filterBytes

/-- The bytes of a SUBSCRIBE packet. -/
def subscribeBytes (dup : Bool) (packetid : UInt16) (fs : List (List UInt8 × UInt8)) :
    List UInt8 :=
  mqttHeader subscribe dup 1 false ::
    (mqttPacketEncode (subscribeBody packetid fs).length ++ subscribeBody packetid fs)

/-- `MQTTSerialize_subscribe` writes the bytes of the packet, or refuses it. -/
theorem mqttSerializeSubscribe_eq (dup : Bool) (packetid : UInt16)
    (fs : List (List UInt8 × UInt8)) {buf : List UInt8}
    (hbuf : buf.length < 128 ^ maxNoOfRemainingLengthBytes) :
    mqttSerializeSubscribe buf dup packetid (fs.map fun f => (.ofCString f.1, f.2)) =
      some (if mqttPacketLen (subscribeBody packetid fs).length ≤ buf.length then
        (subscribeBytes dup packetid fs ++ buf.drop (subscribeBytes dup packetid fs).length,
          ((subscribeBytes dup packetid fs).length : Int))
      else (buf, mqttpacketBufferTooShort)) := by
  have hparts : (PublishPacket.writeInt packetid.toNat ::
      (fs.map fun f => (MqttString.ofCString f.1, f.2)).flatMap
        fun f => [f.1.written, [f.2]]).flatten = subscribeBody packetid fs := by
    rw [List.flatten_cons, subscribeBody, List.flatMap_map, List.flatMap_def, List.flatten_flatten,
      List.map_map, List.flatMap_def]
    rfl
  have hrem : mqttSerializeSubscribeLength (fs.map fun f => (.ofCString f.1, f.2)) =
      (subscribeBody packetid fs).length := by
    rw [mqttSerializeSubscribeLength, subscribeBody, List.length_append, length_writeInt,
      List.length_flatMap, List.map_map]
    congr 2
    apply List.map_congr_left
    intro f _
    simp only [Function.comp, MqttString.mqttStrlen_ofCString, filterBytes, List.length_append,
      length_writeInt, List.length_singleton]
  have hserialize := serializeParts_eq (mqttHeader subscribe dup 1 false)
    (hrem.trans (congrArg List.length hparts.symm)) hbuf
  have hbytes : (subscribeBytes dup packetid fs).length =
      1 + (mqttPacketEncode (subscribeBody packetid fs).length).length
        + (subscribeBody packetid fs).length := by
    rw [subscribeBytes, List.length_cons, List.length_append]
    omega
  rw [hparts, hrem, ← hbytes] at hserialize
  rw [mqttSerializeSubscribe, hrem]
  exact hserialize

/-- Whatever is subscribed to, no byte is written outside of the buffer. A packet that is not
refused is read back at the other end, with all of its topic filters in order. -/
theorem serializeSubscribe_correct (dup : Bool) (packetid : UInt16)
    (fs : List (List UInt8 × UInt8)) (buf : List UInt8) (hbuf : buf.length < 2 ^ 16) :
    ∃ buf' rc, mqttSerializeSubscribe buf dup packetid
        (fs.map fun f => (.ofCString f.1, f.2)) = some (buf', rc) ∧
      (rc = mqttpacketBufferTooShort ∧ buf' = buf ∨
        rc = (subscribeBytes dup packetid fs).length ∧
        buf' = subscribeBytes dup packetid fs ++ buf.drop (subscribeBytes dup packetid fs).length ∧
        ∃ read, mqttDeserializeSubscribe buf' = some (some (dup, packetid.toNat, read)) ∧
          read.map (fun f => (f.1.text buf', f.2)) = fs) := by
  have hlimit : 2 ^ 16 < 128 ^ maxNoOfRemainingLengthBytes := by decide
  have heq := mqttSerializeSubscribe_eq dup packetid fs (Nat.lt_trans hbuf hlimit)
  by_cases hfit : mqttPacketLen (subscribeBody packetid fs).length ≤ buf.length
  · rw [if_pos hfit] at heq
    refine ⟨_, _, heq, Or.inr ⟨rfl, rfl, ?_⟩⟩
    have hle := le_mqttPacketLen (subscribeBody packetid fs).length
    have hlen : (subscribeBody packetid fs).length = 2 + (fs.flatMap filterBytes).length := by
      rw [subscribeBody, List.length_append, length_writeInt]
    obtain ⟨htype, hdup⟩ := mqttHeader_fields subscribe (by decide) dup (by decide : 1 < 4) false
    generalize hs : buf.drop (subscribeBytes dup packetid fs).length = s
    obtain ⟨hdecode, hdrop⟩ := decodeBuf_packet (mqttHeader subscribe dup 1 false)
      (subscribeBody packetid fs) s (by omega)
    rw [← subscribeBytes] at hdecode hdrop
    rw [subscribeBody, List.append_assoc] at hdrop
    have hid := readInt_writeInt hdrop packetid.toNat_lt
    have hfilters := drop_add_length hdrop
    rw [length_writeInt] at hfilters
    obtain ⟨read, hloop, hall⟩ := subscribeLoop_filterBytes fs
      (1 + (mqttPacketEncode (subscribeBody packetid fs).length).length
        + (subscribeBody packetid fs).length) _ hfilters (by omega) (by omega)
    rw [show (PublishPacket.writeInt packetid.toNat ++ fs.flatMap filterBytes) =
      subscribeBody packetid fs from rfl] at hid hloop
    refine ⟨read, ?_, hall⟩
    have hend : 1 + (mqttPacketEncode (subscribeBody packetid fs).length).length + 2
        + (fs.flatMap filterBytes).length =
        1 + (mqttPacketEncode (subscribeBody packetid fs).length).length
          + (subscribeBody packetid fs).length := by omega
    rw [hend] at hloop
    rw [mqttDeserializeSubscribe]
    show andThen (anyway (some (mqttHeader subscribe dup 1 false))) _ = _
    rw [anyway_some, andThen_some, htype, if_neg (not_not_intro rfl), hdecode, anyway_some,
      andThen_some]
    dsimp only
    rw [hid, anyway_some, andThen_some]
    dsimp only
    rw [hloop, andThen_some, hdup]
  · rw [if_neg hfit] at heq
    exact ⟨_, _, heq, Or.inl ⟨rfl, rfl⟩⟩

/-- The subscription to `device/control` with QoS 1. -/
theorem serializeSubscribe_control :
    ∃ buf' rc, mqttSerializeSubscribe (List.replicate readbufSize 0) false 1
        [(.ofCString (CText.ofText "device/control"), 1)] = some (buf', rc) := by
  have hbuf : (List.replicate readbufSize (0 : UInt8)).length = readbufSize :=
    List.length_replicate
  obtain ⟨buf', rc, heq, -⟩ := serializeSubscribe_correct false 1
    [(CText.ofText "device/control", 1)] (List.replicate readbufSize 0) (by rw [hbuf]; decide)
  exact ⟨buf', rc, heq⟩

/-! ### CONNECT -/

namespace MqttString

/-- A string with one form is written with its length in front. -/
theorem Single.written {s : MqttString} (h : s.Single) :
    s.written = PublishPacket.writeInt s.text.length ++ s.text := by
  obtain ⟨cstring, lenstring⟩ := s
  rcases h with rfl | rfl
  · rw [MqttString.written]
    split
    case isTrue => rfl
    case isFalse h =>
      have hnil : lenstring.getD [] = [] := List.length_eq_zero_iff.mp (by simpa using h)
      show PublishPacket.writeInt 0 =
        PublishPacket.writeInt (lenstring.getD []).length ++ lenstring.getD []
      rw [hnil, List.append_nil]
      rfl
  · cases cstring <;> rfl

theorem mqttStrlen_eq (s : MqttString) : s.mqttStrlen = s.text.length := by
  rw [mqttStrlen, text]
  cases s.cstring <;> rfl

end MqttString

namespace ConnectData

/-- The options that a client may set: a version that MQTT has, and one form for each
string. -/
structure WellFormed (options : ConnectData) : Prop where
  version : options.mqttVersion = 3 ∨ options.mqttVersion = 4
  clientID : options.clientID.Single
  topicName : options.will.topicName.Single
  message : options.will.message.Single
  username : options.username.Single
  password : options.password.Single

/-- The options whose user name and password the other end accepts. A password needs a user
name. A password must not be empty, and neither must a user name without a password. -/
def Accepted (options : ConnectData) : Prop :=
  (options.password.present → options.username.present ∧ options.password.text ≠ []) ∧
    (options.username.present → ¬ options.password.present → options.username.text ≠ [])

/-- What follows the remaining length of a CONNECT packet. -/
def body (options : ConnectData) : List UInt8 := options.parts.flatten

/-- The bytes of a CONNECT packet. -/
def bytes (options : ConnectData) : List UInt8 :=
  mqttHeader connect false 0 false ::
    (mqttPacketEncode options.body.length ++ options.body)

variable {options : ConnectData}

/-- The bytes of an optional string. -/
def optional (b : Bool) (s : List UInt8) : List UInt8 :=
  if b then PublishPacket.writeInt s.length ++ s else []

/-- The parts of a packet, one behind the other. -/
theorem WellFormed.body_eq (h : options.WellFormed) :
    options.body = PublishPacket.writeInt options.protocol.1.length ++ options.protocol.1
      ++ ([options.protocol.2] ++ ([options.flags]
      ++ (PublishPacket.writeInt options.keepAliveInterval.toNat
      ++ (PublishPacket.writeInt options.clientID.text.length ++ options.clientID.text
      ++ (optional options.willFlag options.will.topicName.text
      ++ (optional options.willFlag options.will.message.text
      ++ (optional options.username.present options.username.text
      ++ optional options.password.present options.password.text))))))) := by
  rw [body, parts, h.clientID.written, h.topicName.written, h.message.written,
    h.username.written, h.password.written, optional, optional, optional, optional]
  cases options.willFlag <;> cases options.username.present <;> cases options.password.present <;>
    simp

theorem length_optional (b : Bool) (s : List UInt8) :
    (optional b s).length = if b then s.length + 2 else 0 := by
  rw [optional]
  split
  case isTrue => rw [List.length_append, length_writeInt, Nat.add_comm]
  case isFalse => rfl

/-- `MQTTSerialize_connectLength` is the length of the parts. -/
theorem WellFormed.connectLength_eq (h : options.WellFormed) :
    options.connectLength = options.body.length := by
  have hprotocol : 2 + options.protocol.1.length + 4 =
      if options.mqttVersion = 3 then 12 else if options.mqttVersion = 4 then 10 else 0 := by
    rw [protocol]
    rcases h.version with hv | hv
    · rw [if_neg (by rw [hv]; decide), if_pos hv]
      rfl
    · rw [if_pos hv, if_neg (by rw [hv]; decide), if_pos hv]
      rfl
  rw [h.body_eq, connectLength, ← hprotocol]
  simp only [List.length_append, length_writeInt, List.length_singleton, length_optional,
    MqttString.mqttStrlen_eq]
  split <;> omega

end ConnectData

/-- `MQTTSerialize_connect` writes the bytes of the packet, or refuses it. -/
theorem mqttSerializeConnect_eq {options : ConnectData} (h : options.WellFormed)
    {buf : List UInt8} (hbuf : buf.length < 128 ^ maxNoOfRemainingLengthBytes) :
    mqttSerializeConnect buf options =
      some (if mqttPacketLen options.body.length ≤ buf.length then
        (options.bytes ++ buf.drop options.bytes.length, (options.bytes.length : Int))
      else (buf, mqttpacketBufferTooShort)) := by
  have hbytes : options.bytes.length =
      1 + (mqttPacketEncode options.body.length).length + options.body.length := by
    rw [ConnectData.bytes, List.length_cons, List.length_append]
    omega
  have hparts : options.connectLength = options.parts.flatten.length := h.connectLength_eq
  have hserialize := serializeParts_eq (mqttHeader connect false 0 false) hparts hbuf
  rw [h.connectLength_eq, ← hbytes] at hserialize
  rw [mqttSerializeConnect, h.connectLength_eq]
  exact hserialize

/-! ### Reading a CONNECT packet -/

namespace ConnectData

variable (options : ConnectData)

/-- The bits of the connect flags. -/
theorem flags_bits :
    decide (options.flags >>> 1 &&& 1 = 1) = options.cleansession ∧
      (options.flags >>> 2 &&& 1 = 1 ↔ options.willFlag = true) ∧
      (options.willFlag = true → (options.flags >>> 3 &&& 3).toNat = options.will.qos.val ∧
        decide (options.flags >>> 5 &&& 1 = 1) = options.will.retained) ∧
      (options.flags >>> 6 &&& 1 = 1 ↔ options.password.present = true) ∧
      (options.flags >>> 7 = 1 ↔ options.username.present = true) := by
  rw [flags]
  generalize options.cleansession = cleansession
  generalize options.willFlag = willFlag
  generalize options.will.qos = qos
  generalize options.will.retained = retained
  generalize options.password.present = password
  generalize options.username.present = username
  revert cleansession willFlag qos retained password username
  decide

/-- The name and the number of the protocol are accepted. -/
theorem checkVersion (buf : List UInt8) (name : MqttLenString)
    (h : name.text buf = options.protocol.1) :
    mqttPacketCheckVersion buf name options.protocol.2 = true := by
  rw [mqttPacketCheckVersion, h, protocol]
  split <;> rfl

end ConnectData

/-- A string that is there or not: where it is there it is read, and the pointer moves over
it. -/
theorem readOptional {buf text s : List UInt8} {off enddata : Nat} (hsize : enddata < 2 ^ 16)
    (h : buf.drop off = ConnectData.optional true text ++ s)
    (hend : off + (ConnectData.optional true text).length ≤ enddata) :
    ∃ str, readMqttLenString buf off enddata =
        some (some (str, off + (ConnectData.optional true text).length)) ∧
      str.text buf = text ∧ buf.drop (off + (ConnectData.optional true text).length) = s := by
  rw [ConnectData.length_optional, if_pos rfl] at hend ⊢
  have hoff : off + (text.length + 2) = off + 2 + text.length := by omega
  rw [hoff] at hend ⊢
  exact ⟨_, readMqttLenString_text enddata h (by omega) hend⟩

/-- The will is read when its flag is set. -/
theorem readWill_eq (options : ConnectData) {buf s : List UInt8} {off enddata : Nat}
    (hsize : enddata < 2 ^ 16)
    (h : buf.drop off = ConnectData.optional options.willFlag options.will.topicName.text
      ++ (ConnectData.optional options.willFlag options.will.message.text ++ s))
    (hend : off + (ConnectData.optional options.willFlag options.will.topicName.text).length
      + (ConnectData.optional options.willFlag options.will.message.text).length ≤ enddata) :
    ∃ will, readWill buf options.flags off enddata = some (some (will,
        off + (ConnectData.optional options.willFlag options.will.topicName.text).length
          + (ConnectData.optional options.willFlag options.will.message.text).length)) ∧
      buf.drop (off + (ConnectData.optional options.willFlag options.will.topicName.text).length
          + (ConnectData.optional options.willFlag options.will.message.text).length) = s ∧
      will.map (fun w => (w.qos, w.retained, w.topicName.text buf, w.message.text buf)) =
        if options.willFlag then some (options.will.qos.val, options.will.retained,
          options.will.topicName.text, options.will.message.text) else none := by
  obtain ⟨-, hflag, hbits, -, -⟩ := options.flags_bits
  rw [readWill]
  cases hwill : options.willFlag with
  | false =>
    rw [hwill] at h
    rw [if_neg (by rw [hflag, hwill]; exact Bool.false_ne_true)]
    exact ⟨none, rfl, h, rfl⟩
  | true =>
    obtain ⟨hqos, hretained⟩ := hbits hwill
    rw [hwill] at h hend
    obtain ⟨topicName, hread, htext, hrest⟩ := readOptional hsize h (by omega)
    obtain ⟨message, hread', htext', hrest'⟩ := readOptional hsize hrest (by omega)
    rw [if_pos (hflag.mpr hwill), hread, andThen_some]
    dsimp only
    rw [hread', andThen_some, hqos, hretained]
    refine ⟨_, rfl, hrest', ?_⟩
    rw [Option.map_some, htext, htext', if_pos rfl]

/-- A user name or a password is refused when it is empty and nothing follows it. -/
theorem readCredential_eq {buf text s : List UInt8} {off enddata : Nat}
    (hsize : enddata < 2 ^ 16) (h : buf.drop off = ConnectData.optional true text ++ s)
    (hend : off + (ConnectData.optional true text).length ≤ enddata) :
    (off + 3 ≤ enddata → ∃ str, readCredential buf off enddata =
        some (some (str, off + (ConnectData.optional true text).length)) ∧
      str.text buf = text ∧ buf.drop (off + (ConnectData.optional true text).length) = s) ∧
    (enddata < off + 3 → readCredential buf off enddata = some none) := by
  rw [readCredential]
  constructor
  · intro hthree
    rw [if_neg (by omega)]
    exact readOptional hsize h hend
  · intro hthree
    rw [if_pos (by omega)]

/-- The user name and the password are read when the other end accepts them, and the packet is
rejected when it does not. -/
theorem readCredentials_eq (options : ConnectData) {buf s : List UInt8} {off enddata : Nat}
    (hsize : enddata < 2 ^ 16)
    (h : buf.drop off = ConnectData.optional options.username.present options.username.text
      ++ (ConnectData.optional options.password.present options.password.text ++ s))
    (hend : off + (ConnectData.optional options.username.present options.username.text).length
      + (ConnectData.optional options.password.present options.password.text).length = enddata) :
    (options.Accepted → ∃ username password,
        readCredentials buf options.flags off enddata = some (some (username, password)) ∧
        username.map (·.text buf) =
          (if options.username.present then some options.username.text else none) ∧
        password.map (·.text buf) =
          if options.password.present then some options.password.text else none) ∧
      (¬ options.Accepted → readCredentials buf options.flags off enddata = some none) := by
  obtain ⟨-, -, -, hpass, huser⟩ := options.flags_bits
  have hlen := ConnectData.length_optional
  rw [readCredentials, ConnectData.Accepted]
  cases hu : options.username.present with
  | false =>
    rw [if_neg (by rw [huser, hu]; exact Bool.false_ne_true)]
    cases hp : options.password.present with
    | false =>
      rw [if_neg (by rw [hpass, hp]; exact Bool.false_ne_true)]
      exact ⟨fun _ => ⟨none, none, rfl, rfl, rfl⟩, fun hno => absurd (by simp) hno⟩
    | true =>
      rw [if_pos (hpass.mpr hp)]
      exact ⟨fun hyes => absurd (hyes.1 rfl).1 Bool.false_ne_true, fun _ => rfl⟩
  | true =>
    rw [hu] at h hend
    obtain ⟨hread, hreject⟩ := readCredential_eq hsize h (by omega)
    rw [if_pos (huser.mpr hu)]
    cases hp : options.password.present with
    | false =>
      rw [hp, hlen, hlen, if_pos rfl, if_neg Bool.false_ne_true] at hend
      have hempty : options.username.text ≠ [] ↔ off + 3 ≤ enddata := by
        rw [← List.length_pos_iff_ne_nil]
        omega
      have hflag : ¬ options.flags >>> 6 &&& 1 = 1 := by
        rw [hpass, hp]
        exact Bool.false_ne_true
      rw [hempty]
      constructor
      · intro hyes
        obtain ⟨username, heq, htext, -⟩ := hread (hyes.2 rfl Bool.false_ne_true)
        rw [heq, andThen_some]
        refine ⟨some username, none, if_neg hflag, ?_, rfl⟩
        rw [Option.map_some, htext, if_pos rfl]
      · intro hno
        have hshort : enddata < off + 3 := by
          by_contra hthree
          exact hno ⟨fun hfalse => absurd hfalse Bool.false_ne_true, fun _ _ => by omega⟩
        rw [hreject hshort, andThen_reject]
    | true =>
      rw [hp] at h hend
      have hflag := hpass.mpr hp
      have hcount := hend
      rw [hlen, hlen, if_pos rfl, if_pos rfl] at hcount
      obtain ⟨username, heq, htext, hrest⟩ := hread (by omega)
      rw [hp] at hrest
      obtain ⟨hread', hreject'⟩ := readCredential_eq hsize hrest (by omega)
      have hempty : options.password.text ≠ [] ↔
          off + (ConnectData.optional true options.username.text).length + 3 ≤ enddata := by
        rw [← List.length_pos_iff_ne_nil, hlen, if_pos rfl]
        omega
      rw [heq, andThen_some, hempty]
      dsimp only
      rw [if_pos hflag]
      constructor
      · intro hyes
        obtain ⟨password, heq', htext', -⟩ := hread' (hyes.1 rfl).2
        rw [heq', andThen_some]
        refine ⟨some username, some password, rfl, ?_, ?_⟩
        · rw [Option.map_some, htext, if_pos rfl]
        · rw [Option.map_some, htext', if_pos rfl]
      · intro hno
        have hshort : enddata <
            off + (ConnectData.optional true options.username.text).length + 3 := by
          by_contra hthree
          exact hno ⟨fun _ => ⟨rfl, by omega⟩, fun _ hfalse => absurd rfl hfalse⟩
        rw [hreject' hshort, andThen_reject]

/-- What was read is what the options say. -/
structure ConnectRead.Matches (d : ConnectRead) (buf : List UInt8) (options : ConnectData) :
    Prop where
  cleansession : d.cleansession = options.cleansession
  keepAliveInterval : d.keepAliveInterval = options.keepAliveInterval.toNat
  clientID : d.clientID.text buf = options.clientID.text
  will : d.will.map (fun w => (w.qos, w.retained, w.topicName.text buf, w.message.text buf)) =
    if options.willFlag then some (options.will.qos.val, options.will.retained,
      options.will.topicName.text, options.will.message.text) else none
  username : d.username.map (·.text buf) =
    if options.username.present then some options.username.text else none
  password : d.password.map (·.text buf) =
    if options.password.present then some options.password.text else none

/-- Whatever the options are, no byte of a CONNECT packet is written outside of the buffer. A
packet that is not refused is read back at the other end as it was meant, exactly when its
user name and password are acceptable. -/
theorem serializeConnect_correct (options : ConnectData) (buf : List UInt8)
    (hoptions : options.WellFormed) (hbuf : buf.length < 2 ^ 16) :
    ∃ buf' rc, mqttSerializeConnect buf options = some (buf', rc) ∧
      (rc = mqttpacketBufferTooShort ∧ buf' = buf ∨
        rc = options.bytes.length ∧ buf' = options.bytes ++ buf.drop options.bytes.length ∧
        (options.Accepted → ∃ d, mqttDeserializeConnect buf' options.bytes.length =
          some (some d) ∧ d.Matches buf' options) ∧
        (¬ options.Accepted → mqttDeserializeConnect buf' options.bytes.length = some none)) := by
  have hlimit : 2 ^ 16 < 128 ^ maxNoOfRemainingLengthBytes := by decide
  have heq := mqttSerializeConnect_eq hoptions (Nat.lt_trans hbuf hlimit)
  by_cases hfit : mqttPacketLen options.body.length ≤ buf.length
  · rw [if_pos hfit] at heq
    refine ⟨_, _, heq, Or.inr ⟨rfl, rfl, ?_⟩⟩
    have hle := le_mqttPacketLen options.body.length
    have hbytes : options.bytes.length =
        1 + (mqttPacketEncode options.body.length).length + options.body.length := by
      rw [ConnectData.bytes, List.length_cons, List.length_append]
      omega
    have hsize : options.bytes.length < 2 ^ 16 := by
      have hlen := mqttPacketLen_eq options.body.length (by omega)
      omega
    obtain ⟨htype, -⟩ := mqttHeader_fields connect (by decide) false (by decide : 0 < 4) false
    generalize buf.drop options.bytes.length = s
    obtain ⟨hdecode, hdrop⟩ := decodeBuf_packet (mqttHeader connect false 0 false) options.body s
      (by omega)
    rw [← ConnectData.bytes] at hdecode hdrop
    have hlen := congrArg List.length hoptions.body_eq
    simp only [List.length_append, length_writeInt, List.length_singleton] at hlen
    generalize hbuf' : options.bytes ++ s = buf' at hdecode hdrop ⊢
    generalize (mqttPacketEncode options.body.length).length = rc at hdecode hdrop hbytes
    have hdrop : buf'.drop (1 + rc) =
        PublishPacket.writeInt options.protocol.1.length ++ options.protocol.1
        ++ ([options.protocol.2] ++ ([options.flags]
        ++ (PublishPacket.writeInt options.keepAliveInterval.toNat
        ++ (PublishPacket.writeInt options.clientID.text.length ++ options.clientID.text
        ++ (ConnectData.optional options.willFlag options.will.topicName.text
        ++ (ConnectData.optional options.willFlag options.will.message.text
        ++ (ConnectData.optional options.username.present options.username.text
        ++ (ConnectData.optional options.password.present options.password.text ++ s)))))))) := by
      rw [hdrop, hoptions.body_eq]
      simp only [List.append_assoc]
    -- Each piece in turn, with the pointer behind it.
    obtain ⟨hname, hnameText, hrest⟩ :=
      readMqttLenString_text options.bytes.length hdrop (by omega) (by omega)
    have hversion : buf'[1 + rc + 2 + options.protocol.1.length]? = some options.protocol.2 :=
      getElem?_of_drop hrest 0
    have hflags : buf'[1 + rc + 2 + options.protocol.1.length + 1]? = some options.flags :=
      getElem?_of_drop hrest 1
    have hrest := drop_add_length (drop_add_length hrest)
    have hkeep : readInt buf' (1 + rc + 2 + options.protocol.1.length + 2) =
        some (options.keepAliveInterval.toNat, 1 + rc + 2 + options.protocol.1.length + 2 + 2) :=
      readInt_writeInt hrest options.keepAliveInterval.toNat_lt
    have hrest := drop_add_length hrest
    simp only [List.length_singleton, length_writeInt] at hrest
    obtain ⟨hclient, hclientText, hrest⟩ :=
      readMqttLenString_text options.bytes.length hrest (by omega) (by omega)
    obtain ⟨will, hwill, hrest, hwillText⟩ :=
      readWill_eq options hsize hrest (by omega)
    obtain ⟨hyes, hno⟩ := readCredentials_eq options hsize hrest (by omega)
    obtain ⟨hcleansession, -⟩ := options.flags_bits
    have hheader : buf'[0]? = some (mqttHeader connect false 0 false) := by
      rw [← hbuf']
      rfl
    have hread : mqttDeserializeConnect buf' options.bytes.length =
        andThen (readCredentials buf' options.flags
          (1 + rc + 2 + options.protocol.1.length + 1 + 1 + 2 + 2 + options.clientID.text.length
            + (ConnectData.optional options.willFlag options.will.topicName.text).length
            + (ConnectData.optional options.willFlag options.will.message.text).length)
          options.bytes.length) fun credentials =>
        some (some ⟨options.flags >>> 1 &&& 1 = 1, options.keepAliveInterval.toNat,
          ⟨1 + rc + 2 + options.protocol.1.length + 1 + 1 + 2 + 2, options.clientID.text.length⟩,
          will, credentials.1, credentials.2⟩) := by
      rw [mqttDeserializeConnect, hheader, anyway_some, andThen_some, htype,
        if_neg (not_not_intro rfl), hdecode, anyway_some, andThen_some]
      dsimp only
      rw [hname, andThen_some]
      dsimp only
      rw [if_neg (by omega), hversion, anyway_some, andThen_some,
        if_pos (options.checkVersion buf' _ hnameText), hflags, anyway_some, andThen_some, hkeep,
        anyway_some, andThen_some]
      dsimp only
      rw [hclient, andThen_some]
      dsimp only
      rw [hwill, andThen_some]
    constructor
    · intro haccepted
      obtain ⟨username, password, heq, husername, hpassword⟩ := hyes haccepted
      rw [hread, heq, andThen_some]
      exact ⟨_, rfl, hcleansession, rfl, hclientText, hwillText, husername, hpassword⟩
    · intro hrefused
      rw [hread, hno hrefused, andThen_reject]
  · rw [if_neg hfit] at heq
    exact ⟨_, _, heq, Or.inl ⟨rfl, rfl⟩⟩

/-- The options of a client with the name `mcu` and an empty user name, which the other end
rejects. -/
def emptyName : ConnectData where
  mqttVersion := 4
  clientID := .ofCString (CText.ofText "mcu")
  keepAliveInterval := 60
  cleansession := true
  willFlag := false
  will := ⟨.initializer, .initializer, false, ⟨0, Nat.zero_lt_succ 3⟩⟩
  username := .ofCString []
  password := .initializer

theorem serializeConnect_emptyName :
    ∃ buf' rc, mqttSerializeConnect (List.replicate readbufSize 0) emptyName = some (buf', rc) ∧
      (rc = mqttpacketBufferTooShort ∨
        mqttDeserializeConnect buf' emptyName.bytes.length = some none) := by
  have hbuf : (List.replicate readbufSize (0 : UInt8)).length = readbufSize :=
    List.length_replicate
  have hwell : emptyName.WellFormed :=
    ⟨Or.inr rfl, Or.inr rfl, Or.inr rfl, Or.inr rfl, Or.inr rfl, Or.inr rfl⟩
  obtain ⟨buf', rc, heq, hcase⟩ := serializeConnect_correct emptyName
    (List.replicate readbufSize 0) hwell (by rw [hbuf]; decide)
  refine ⟨buf', rc, heq, ?_⟩
  rcases hcase with hrefused | hwritten
  · exact Or.inl hrefused.1
  · exact Or.inr (hwritten.2.2.2 fun h => h.2 rfl (by decide) rfl)

/-! ### SUBACK -/

/-- The loop of `MQTTDeserialize_suback` writes at most one code more than `maxcount`. -/
theorem subackLoop_eq {buf s : List UInt8} (maxcount : Nat) (codes : List UInt8) :
    ∀ (fuel curdata count : Nat), buf.drop curdata = codes ++ s → codes.length < fuel →
      count ≤ maxcount + 1 →
      subackLoop buf (curdata + codes.length) maxcount fuel curdata count =
        some ((codes.take (maxcount + 1 - count)).zipIdx count |>.map Prod.swap,
          if count + codes.length ≤ maxcount + 1 then 1 else -1) := by
  induction codes with
  | nil =>
    intro fuel curdata count _ hfuel hcount
    obtain ⟨fuel, rfl⟩ : ∃ n, fuel = n + 1 := ⟨fuel - 1, by omega⟩
    rw [subackLoop, List.length_nil, Nat.add_zero, if_neg (Nat.lt_irrefl _), List.take_nil,
      Nat.add_zero, if_pos hcount]
    rfl
  | cons code codes ih =>
    intro fuel curdata count hdrop hfuel hcount
    obtain ⟨fuel, rfl⟩ : ∃ n, fuel = n + 1 := ⟨fuel - 1, by omega⟩
    rw [List.length_cons] at hfuel ⊢
    rw [subackLoop, if_pos (by omega)]
    by_cases hfull : count > maxcount
    · rw [if_pos hfull, if_neg (by omega), Nat.sub_eq_zero_of_le (by omega), List.take_zero]
      rfl
    · have hcode : buf[curdata]? = some code := getElem?_of_drop hdrop 0
      have hnext : buf.drop (curdata + 1) = codes ++ s :=
        drop_add_length (show _ = [code] ++ (codes ++ s) from hdrop)
      have hrest := ih fuel (curdata + 1) (count + 1) hnext (by omega) (by omega)
      have hend : curdata + 1 + codes.length = curdata + (codes.length + 1) := by omega
      have hleft : maxcount + 1 - count = maxcount + 1 - (count + 1) + 1 := by omega
      have hcounts : count + 1 + codes.length = count + (codes.length + 1) := by omega
      rw [hend, hcounts] at hrest
      rw [if_neg hfull, hcode, hrest, hleft]
      rfl

/-- Reading a SUBACK packet of a server writes its codes to `grantedQoSs` one after the other,
up to the index `maxcount`. So the writes stay in an array of `maxcount` codes exactly when
the packet has no more, although the result is 1 for one more. -/
theorem suback_writes_inside_iff (packetid : UInt16) (codes s : List UInt8) (maxcount : Nat)
    (hlen : codes.length < 2 ^ 16) :
    ∃ d, mqttDeserializeSuback maxcount (subackBytes packetid codes ++ s) = some (some d) ∧
      d.packetid = packetid.toNat ∧ d.writes.map (·.2) = codes.take (maxcount + 1) ∧
      (d.rc = 1 ↔ codes.length ≤ maxcount + 1) ∧
      ((∀ w ∈ d.writes, w.1 < maxcount) ↔ codes.length ≤ maxcount) := by
  have hlimit : 2 ^ 16 + 2 < 128 ^ maxNoOfRemainingLengthBytes := by decide
  have hbody : (PublishPacket.writeInt packetid.toNat ++ codes).length = 2 + codes.length := by
    rw [List.length_append, length_writeInt]
  obtain ⟨htype, -⟩ := mqttHeader_fields suback (by decide) false (by decide : 0 < 4) false
  obtain ⟨hdecode, hdrop⟩ := decodeBuf_packet (mqttHeader suback false 0 false)
    (PublishPacket.writeInt packetid.toNat ++ codes) s (by omega)
  rw [← subackBytes] at hdecode hdrop
  rw [List.append_assoc] at hdrop
  have hid := readInt_writeInt hdrop packetid.toNat_lt
  have hcodes := drop_add_length hdrop
  rw [length_writeInt] at hcodes
  generalize (mqttPacketEncode (PublishPacket.writeInt packetid.toNat ++ codes).length).length
    = rc at hdecode hid hcodes
  have hloop := subackLoop_eq maxcount codes
    (1 + rc + (PublishPacket.writeInt packetid.toNat ++ codes).length) _ 0 hcodes (by omega)
    (Nat.zero_le _)
  have hend : 1 + rc + 2 + codes.length =
      1 + rc + (PublishPacket.writeInt packetid.toNat ++ codes).length := by omega
  rw [hend, Nat.zero_add, Nat.sub_zero] at hloop
  refine ⟨⟨packetid.toNat, ((codes.take (maxcount + 1)).zipIdx 0).map Prod.swap,
    if codes.length ≤ maxcount + 1 then 1 else -1⟩, ?_, rfl, ?_, ?_, ?_⟩
  · rw [mqttDeserializeSuback]
    show andThen (anyway (some (mqttHeader suback false 0 false))) _ = _
    rw [anyway_some, andThen_some, htype, if_neg (not_not_intro rfl), hdecode, anyway_some,
      andThen_some]
    dsimp only
    rw [if_neg (by omega), hid, anyway_some, andThen_some]
    dsimp only
    rw [hloop]
    rfl
  · rw [List.map_map]
    exact List.zipIdx_map_fst 0 _
  · show (if codes.length ≤ maxcount + 1 then (1 : Int) else -1) = 1 ↔ _
    split
    case isTrue h => exact iff_of_true rfl h
    case isFalse h => exact iff_of_false (by decide) h
  · constructor
    · intro hinside
      by_contra hmore
      -- The code with the number `maxcount` is written behind the array.
      have hget : (codes.take (maxcount + 1))[maxcount]? = some codes[maxcount] := by
        rw [List.getElem?_take_of_lt (by omega), List.getElem?_eq_getElem (by omega)]
      have hmem : (codes[maxcount], maxcount) ∈ (codes.take (maxcount + 1)).zipIdx :=
        List.mem_zipIdx_iff_getElem?.mpr hget
      exact Nat.lt_irrefl _ (hinside _ (List.mem_map.mpr ⟨_, hmem, rfl⟩))
    · intro hle w hw
      obtain ⟨⟨code, i⟩, hmem, rfl⟩ := List.mem_map.mp hw
      have hget := List.mem_zipIdx_iff_getElem?.mp hmem
      have hlt := (List.getElem?_eq_some_iff.mp hget).1
      rw [List.length_take] at hlt
      show i < maxcount
      omega

/-- `MQTTSubscribe` has an array of one code. A packet with two codes makes the second go
behind it, and the result is still 1. -/
theorem suback_two_codes :
    ∃ d, mqttDeserializeSuback 1 (subackBytes 1 [1, 1] ++ []) = some (some d) ∧ d.rc = 1 ∧
      ¬ ∀ w ∈ d.writes, w.1 < 1 := by
  obtain ⟨d, hread, -, -, hrc, hinside⟩ := suback_writes_inside_iff 1 [1, 1] [] 1 (by decide)
  exact ⟨d, hread, hrc.mpr (by decide), fun h => absurd (hinside.mp h) (by decide)⟩

end SmartBuilding
