import SmartBuilding.Lib.Varint

/-!
# `SmartBuilding.Mqtt.Packet`: a PUBLISH packet in the read buffer

How a PUBLISH packet of the server gets into the read buffer, and how the client takes it
apart there:

* `MQTTPacket_readPacket` of `MQTTClient-RT/paho_mqtt_pipe.c` reads one packet from the
  connection into `readbuf`;
* `MQTTDeserialize_publish` of `MQTTPacket/src/MQTTDeserializePublish.c`, with the readers of
  `MQTTPacket.c`, finds the fields of the packet in the buffer;
* every subscription callback of `mqtt_sample.c` starts with a write of a NUL behind the
  payload (`terminatePayload`).

A pointer into the buffer is its offset. A function is `none` where it reads past the end of
the buffer.

`PublishPacket` is a packet as the sender means it, and `PublishPacket.bytes` are its bytes,
in the order in which `MQTTSerialize_publish` writes them.
-/

set_option autoImplicit false

namespace SmartBuilding

/-- `client.readbuf_size`, as `mqtt_start` sets it. -/
def readbufSize : Nat := 1024

/-- The packet type `PUBLISH`. -/
def publish : UInt8 := 3

/-! ### The remaining length -/

/-- `MQTTPacket_encode`. -/
def mqttPacketEncode (length : Nat) : List UInt8 := Varint.encode length

/-- `MAX_NO_OF_REMAINING_LENGTH_BYTES`. -/
def maxNoOfRemainingLengthBytes : Nat := 4

/-- The loop of `MQTTPacket_decode` and of `decodePacket`, with `left` bytes to go before the
length is bad. The result is the value and the count `len`. `atEnd` says what happens when
there is no byte to read. -/
def decodeLoop (atEnd : Nat × Nat → Option (Nat × Nat)) :
    (left len multiplier value : Nat) → List UInt8 → Option (Nat × Nat)
  | 0, len, _, value, _ => some (value, len + 1)
  | _ + 1, len, _, value, [] => atEnd (value, len + 1)
  | left + 1, len, multiplier, value, c :: bytes =>
      let value := value + (c &&& 127).toNat * multiplier
      if c &&& 128 ≠ 0 then decodeLoop atEnd left (len + 1) (multiplier * 128) value bytes
      else some (value, len + 1)

/-- `MQTTPacket_decodeBuf` at the offset `curdata` of a buffer. -/
def mqttPacketDecodeBuf (buf : List UInt8) (curdata : Nat) : Option (Nat × Nat) :=
  decodeLoop (fun _ => none) maxNoOfRemainingLengthBytes 0 1 0 (buf.drop curdata)

/-- `decodePacket`. When the connection gives no byte, the value so far counts. -/
def decodePacket (stream : List UInt8) : Option (Nat × Nat) :=
  decodeLoop some maxNoOfRemainingLengthBytes 0 1 0 stream

/-! ### Reading a packet from the connection -/

/-- `MQTTPacket_readPacket`: the read buffer with the packet at its start. It is `none` when
the connection gives fewer bytes than the packet has, or when the packet does not fit into the
buffer. The source does not check the second. -/
def mqttPacketReadPacket (readbuf stream : List UInt8) : Option (List UInt8) := do
  let header ← stream.head?
  let (remLen, len) ← decodePacket stream.tail
  -- The original remaining length is put back into the buffer.
  let front := header :: mqttPacketEncode remLen
  let body := (stream.tail.drop (min len maxNoOfRemainingLengthBytes)).take remLen
  if body.length = remLen ∧ front.length + remLen ≤ readbuf.length then
    some (front ++ body ++ readbuf.drop (front.length + remLen))
  else
    none

/-! ### `MQTTDeserialize_publish` -/

/-- `readInt`: a number of two bytes, and the pointer behind it. -/
def readInt (buf : List UInt8) (pptr : Nat) : Option (Nat × Nat) := do
  let high ← buf[pptr]?
  let low ← buf[pptr + 1]?
  some (256 * high.toNat + low.toNat, pptr + 2)

/-- `MQTTLenString`: the offset of a string, and its length. -/
structure MqttLenString where
  data : Nat
  len : Nat
  deriving DecidableEq, Repr

/-- `readMQTTLenString`: the string and the pointer behind it, or an inner `none` when the
string does not end before `enddata`. -/
def readMqttLenString (buf : List UInt8) (pptr enddata : Nat) :
    Option (Option (MqttLenString × Nat)) :=
  if (enddata : Int) - pptr > 1 then
    (readInt buf pptr).map fun (len, pptr) =>
      if pptr + len ≤ enddata then some (⟨pptr, len⟩, pptr + len) else none
  else
    some none

/-- The output parameters of `MQTTDeserialize_publish`. For QoS 0 it leaves `packetid`
alone. -/
structure PublishData where
  dup : Bool
  qos : Nat
  retained : Bool
  packetid : Option Nat
  topicName : MqttLenString
  payload : Nat
  payloadlen : Int
  deriving DecidableEq, Repr

/-- `MQTTDeserialize_publish`. An inner `none` is an exit before the payload is set
(`mqttDeserializePublishRc` has the result). -/
def mqttDeserializePublish (buf : List UInt8) : Option (Option PublishData) := do
  let header : UInt8 ← buf[0]?
  if header >>> 4 ≠ publish then
    return none
  let (mylen, rc) ← mqttPacketDecodeBuf buf 1
  let enddata := 1 + rc + mylen
  match ← readMqttLenString buf (1 + rc) enddata with
  | none => return none
  | some (topicName, curdata) =>
      if (enddata : Int) - curdata < 0 then
        return none
      let qos := (header >>> 1 &&& 3).toNat
      -- Nothing checks that the packet has room for the packet id.
      let (packetid, curdata) ←
        if 0 < qos then (readInt buf curdata).map fun (id, curdata) => (some id, curdata)
        else some (none, curdata)
      return some {
        dup := header >>> 3 &&& 1 = 1
        qos := qos
        retained := header &&& 1 = 1
        packetid := packetid
        topicName := topicName
        payload := curdata
        payloadlen := enddata - curdata }

/-! ### The first statement of the subscription callbacks -/

/-- The index of `payload[payloadlen]` in the read buffer. -/
def PublishData.terminator (d : PublishData) : Int := d.payload + d.payloadlen

/-- The buffer after `payload[payloadlen] = 0`, when the index is inside. -/
def terminatePayload (buf : List UInt8) (d : PublishData) : List UInt8 :=
  buf.set d.terminator.toNat 0

/-! ### Packets -/

/-- A PUBLISH packet. The length of the topic is sent in two bytes. The field of the QoS has
two bits. -/
structure PublishPacket where
  dup : Bool
  qos : Fin 4
  retained : Bool
  packetid : UInt16
  topicName : List UInt8
  payload : List UInt8
  length_topicName : topicName.length < 2 ^ 16

namespace PublishPacket

/-- The header byte, with the bit fields of `MQTTHeader`. -/
def header (p : PublishPacket) : UInt8 :=
  publish <<< 4 ||| p.dup.toUInt8 <<< 3 ||| p.qos.val.toUInt8 <<< 1 ||| p.retained.toUInt8

/-- `writeInt`. -/
def writeInt (n : Nat) : List UInt8 := [(n / 256).toUInt8, (n % 256).toUInt8]

/-- The packet id, which a packet of QoS 0 does not have. -/
def idBytes (p : PublishPacket) : List UInt8 :=
  if 0 < p.qos.val then writeInt p.packetid.toNat else []

/-- What the remaining length counts. -/
def rest (p : PublishPacket) : List UInt8 :=
  writeInt p.topicName.length ++ p.topicName ++ p.idBytes ++ p.payload

/-- The bytes of the packet. -/
def bytes (p : PublishPacket) : List UInt8 :=
  p.header :: (mqttPacketEncode p.rest.length ++ p.rest)

end PublishPacket

end SmartBuilding
