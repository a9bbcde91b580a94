import SmartBuilding.Lib.Memory
import SmartBuilding.Mqtt.Packet

/-!
# `SmartBuilding.Mqtt.Serialize`: the packets that the client writes

The serializers of `MQTTPacket/src` that the client calls, and the readers of the same
directory for the other end of the connection:

* `MQTTSerializePublish.c`: `MQTTSerialize_publish` and `MQTTSerialize_ack`, with
  `MQTTDeserialize_ack` of `MQTTDeserializePublish.c`;
* `MQTTSubscribeClient.c` and `MQTTUnsubscribeClient.c`: `MQTTSerialize_subscribe`,
  `MQTTSerialize_unsubscribe` and `MQTTDeserialize_suback`, with `MQTTDeserialize_subscribe`
  of `MQTTSubscribeServer.c`;
* `MQTTConnectClient.c`: `MQTTSerialize_connect`, with `MQTTDeserialize_connect` of
  `MQTTConnectServer.c`.

The buffer of a serializer is a list as long as `buflen`. The result is the buffer afterwards
and the return value. It is `none` when a write leaves the buffer. `PublishPacket.bytes` and
its reader are in `SmartBuilding.Mqtt.Packet`.
-/

set_option autoImplicit false

namespace SmartBuilding

open Memory

/-- `MQTTPACKET_BUFFER_TOO_SHORT`. -/
def mqttpacketBufferTooShort : Int := -2

/-- The packet types of `enum msgTypes` that are used here, and `publish`. -/
def connect : UInt8 := 1
def connack : UInt8 := 2
def puback : UInt8 := 4
def pubrec : UInt8 := 5
def pubrel : UInt8 := 6
def subscribe : UInt8 := 8
def suback : UInt8 := 9
def unsubscribe : UInt8 := 10
def unsuback : UInt8 := 11
def pingresp : UInt8 := 13

/-- `MQTTHeader` as a byte, with a value of the two bits `qos`. -/
def mqttHeader (type : UInt8) (dup : Bool) (qos : Nat) (retain : Bool) : UInt8 :=
  type <<< 4 ||| dup.toUInt8 <<< 3 ||| qos.toUInt8 <<< 1 ||| retain.toUInt8

/-- `MQTTPacket_len`. The header byte is counted before the remaining length is compared. -/
def mqttPacketLen (remLen : Nat) : Nat :=
  if remLen + 1 < 128 then remLen + 2
  else if remLen + 1 < 16384 then remLen + 3
  else if remLen + 1 < 2097151 then remLen + 4
  else remLen + 5

/-! ### Strings -/

/-- `MQTTString`. A null pointer is `none`, with the length 0. -/
structure MqttString where
  cstring : Option (List UInt8)
  lenstring : Option (List UInt8)
  deriving DecidableEq

namespace MqttString

/-- A string with `cstring` set, as the client sets it. -/
def ofCString (text : List UInt8) : MqttString := ⟨some text, none⟩

/-- `MQTTString_initializer`. -/
def initializer : MqttString := ⟨none, none⟩

/-- One of the pointers is not null. -/
def present (s : MqttString) : Bool := s.cstring.isSome || s.lenstring.isSome

/-- `MQTTstrlen`. -/
def mqttStrlen (s : MqttString) : Nat :=
  match s.cstring with
  | some text => text.length
  | none => (s.lenstring.getD []).length

/-- The text of a string. -/
def text (s : MqttString) : List UInt8 :=
  match s.cstring with
  | some text => text
  | none => s.lenstring.getD []

/-- Only one of the two forms is in use. -/
def Single (s : MqttString) : Prop := s.cstring = none ∨ s.lenstring = none

/-- What `writeMQTTString` writes. -/
def written (s : MqttString) : List UInt8 :=
  if 0 < (s.lenstring.getD []).length then
    PublishPacket.writeInt (s.lenstring.getD []).length ++ s.lenstring.getD []
  else
    match s.cstring with
    | some text => PublishPacket.writeInt text.length ++ text
    | none => PublishPacket.writeInt 0

end MqttString

/-! ### The serializers -/

/-- The parts of a packet, written one after the other from the start of the buffer on. -/
def writeParts (buf : List UInt8) (parts : List (List UInt8)) : Option (List UInt8 × Int) :=
  (parts.foldlM (fun ptr part => writeCells part ptr) (buf, 0)).map fun ptr =>
    (ptr.1, (ptr.2 : Int))

/-- The text that the serializers with a length check share: the check, the header byte, the
remaining length, and then the parts of the packet. -/
def serializeParts (buf : List UInt8) (header : UInt8) (remLen : Nat)
    (parts : List (List UInt8)) : Option (List UInt8 × Int) :=
  if mqttPacketLen remLen > buf.length then some (buf, mqttpacketBufferTooShort)
  else writeParts buf ([header] :: mqttPacketEncode remLen :: parts)

/-- `MQTTSerialize_publishLength`. -/
def mqttSerializePublishLength (qos : Fin 4) (topicName : MqttString) (payloadlen : Nat) : Nat :=
  2 + topicName.mqttStrlen + payloadlen + if 0 < qos.val then 2 else 0

/-- `MQTTSerialize_publish`. -/
def mqttSerializePublish (buf : List UInt8) (dup : Bool) (qos : Fin 4) (retained : Bool)
    (packetid : UInt16) (topicName : MqttString) (payload : List UInt8) :
    Option (List UInt8 × Int) :=
  serializeParts buf (mqttHeader publish dup qos.val retained)
    (mqttSerializePublishLength qos topicName payload.length)
    [topicName.written, if 0 < qos.val then PublishPacket.writeInt packetid.toNat else [],
      payload]

/-- `MQTTSerialize_ack`. It checks for four bytes. -/
def mqttSerializeAck (buf : List UInt8) (packettype : UInt8) (dup : Bool) (packetid : UInt16) :
    Option (List UInt8 × Int) :=
  if buf.length < 4 then some (buf, mqttpacketBufferTooShort)
  else
    writeParts buf [[mqttHeader packettype dup (if packettype = pubrel then 1 else 0) false],
      mqttPacketEncode 2, PublishPacket.writeInt packetid.toNat]

/-- `MQTTSerialize_subscribeLength`. -/
def mqttSerializeSubscribeLength (topicFilters : List (MqttString × UInt8)) : Nat :=
  2 + (topicFilters.map fun f => 2 + f.1.mqttStrlen + 1).sum

/-- `MQTTSerialize_subscribe`. The arrays `topicFilters` and `requestedQoSs` are one list. -/
def mqttSerializeSubscribe (buf : List UInt8) (dup : Bool) (packetid : UInt16)
    (topicFilters : List (MqttString × UInt8)) : Option (List UInt8 × Int) :=
  serializeParts buf (mqttHeader subscribe dup 1 false)
    (mqttSerializeSubscribeLength topicFilters)
    (PublishPacket.writeInt packetid.toNat ::
      topicFilters.flatMap fun f => [f.1.written, [f.2]])

/-- `MQTTSerialize_unsubscribeLength`. -/
def mqttSerializeUnsubscribeLength (topicFilters : List MqttString) : Nat :=
  2 + (topicFilters.map fun f => 2 + f.mqttStrlen).sum

/-- `MQTTSerialize_unsubscribe`. -/
def mqttSerializeUnsubscribe (buf : List UInt8) (dup : Bool) (packetid : UInt16)
    (topicFilters : List MqttString) : Option (List UInt8 × Int) :=
  serializeParts buf (mqttHeader unsubscribe dup 1 false)
    (mqttSerializeUnsubscribeLength topicFilters)
    (PublishPacket.writeInt packetid.toNat :: topicFilters.map MqttString.written)

/-! ### CONNECT -/

/-- `MQTTPacket_willOptions`. -/
structure WillOptions where
  topicName : MqttString
  message : MqttString
  retained : Bool
  qos : Fin 4
  deriving DecidableEq

/-- `MQTTPacket_connectData`. -/
structure ConnectData where
  mqttVersion : UInt8
  clientID : MqttString
  keepAliveInterval : UInt16
  cleansession : Bool
  willFlag : Bool
  will : WillOptions
  username : MqttString
  password : MqttString
  deriving DecidableEq

namespace ConnectData

/-- `MQTTSerialize_connectLength`. It knows the versions 3 and 4. -/
def connectLength (options : ConnectData) : Nat :=
  (if options.mqttVersion = 3 then 12 else if options.mqttVersion = 4 then 10 else 0)
    + (options.clientID.mqttStrlen + 2)
    + (if options.willFlag then
        options.will.topicName.mqttStrlen + 2 + options.will.message.mqttStrlen + 2 else 0)
    + (if options.username.present then options.username.mqttStrlen + 2 else 0)
    + (if options.password.present then options.password.mqttStrlen + 2 else 0)

/-- `MQTTConnectFlags` as a byte. -/
def flags (options : ConnectData) : UInt8 :=
  options.cleansession.toUInt8 <<< 1 ||| options.willFlag.toUInt8 <<< 2
    ||| (if options.willFlag then options.will.qos.val.toUInt8 <<< 3 else 0)
    ||| (if options.willFlag then options.will.retained.toUInt8 <<< 5 else 0)
    ||| options.password.present.toUInt8 <<< 6 ||| options.username.present.toUInt8 <<< 7

/-- The name and the number of the protocol, as `MQTTSerialize_connect` writes them. -/
def protocol (options : ConnectData) : List UInt8 × UInt8 :=
  if options.mqttVersion = 4 then ([77, 81, 84, 84], 4)
  else ([77, 81, 73, 115, 100, 112], 3)

/-- The parts of a CONNECT packet, in the order of the writes. -/
def parts (options : ConnectData) : List (List UInt8) :=
  [PublishPacket.writeInt options.protocol.1.length ++ options.protocol.1,
    [options.protocol.2], [options.flags],
    PublishPacket.writeInt options.keepAliveInterval.toNat, options.clientID.written]
  ++ (if options.willFlag then [options.will.topicName.written, options.will.message.written]
      else [])
  ++ (if options.username.present then [options.username.written] else [])
  ++ (if options.password.present then [options.password.written] else [])

end ConnectData

/-- `MQTTSerialize_connect`. -/
def mqttSerializeConnect (buf : List UInt8) (options : ConnectData) :
    Option (List UInt8 × Int) :=
  serializeParts buf (mqttHeader connect false 0 false) options.connectLength options.parts

/-! ### The readers at the other end -/

/-- The next step of a reader. The step before has left the buffer (`none`), has rejected the
packet (`some none`), or has read something. -/
def andThen {α β : Type} (read : Option (Option α)) (next : α → Option (Option β)) :
    Option (Option β) :=
  match read with
  | none => none
  | some none => some none
  | some (some a) => next a

@[simp] theorem andThen_some {α β : Type} (a : α) (next : α → Option (Option β)) :
    andThen (some (some a)) next = next a := rfl

@[simp] theorem andThen_reject {α β : Type} (next : α → Option (Option β)) :
    andThen (some none) next = some none := rfl

/-- A read that rejects nothing. -/
def anyway {α : Type} (read : Option α) : Option (Option α) := read.map some

@[simp] theorem anyway_some {α : Type} (a : α) : anyway (some a) = some (some a) := rfl

/-- The text of a string that was read. -/
def MqttLenString.text (buf : List UInt8) (s : MqttLenString) : List UInt8 :=
  (buf.drop s.data).take s.len

/-- What `MQTTDeserialize_ack` does: its result, and what it sets. Without room for the packet
id it leaves `packetid` alone. -/
structure AckRead where
  rc : Nat
  packettype : UInt8
  dup : Bool
  packetid : Option Nat
  deriving DecidableEq

/-- `MQTTDeserialize_ack`. Without room for the packet id, the result is the count of the bytes
of the remaining length. -/
def mqttDeserializeAck (buf : List UInt8) : Option AckRead := do
  let header : UInt8 ← buf[0]?
  let (mylen, rc) ← mqttPacketDecodeBuf buf 1
  if mylen < 2 then some ⟨rc, header >>> 4, header >>> 3 &&& 1 = 1, none⟩
  else
    let (packetid, _) ← readInt buf (1 + rc)
    some ⟨1, header >>> 4, header >>> 3 &&& 1 = 1, some packetid⟩

/-- `MQTTDeserialize_unsuback`: its result and the packet id. -/
def mqttDeserializeUnsuback (buf : List UInt8) : Option (Nat × Option Nat) := do
  let ack ← mqttDeserializeAck buf
  some (if ack.packettype = unsuback then 1 else ack.rc, ack.packetid)

/-- The loop of `MQTTDeserialize_subscribe` from the pointer `curdata` on. Every round moves
the pointer, so there are at most `fuel` of them. -/
def subscribeLoop (buf : List UInt8) (enddata : Nat) :
    (fuel curdata : Nat) → Option (Option (List (MqttLenString × UInt8)))
  | 0, _ => some none
  | fuel + 1, curdata =>
      if curdata < enddata then
        andThen (readMqttLenString buf curdata enddata) fun (topicFilter, curdata) =>
        if curdata ≥ enddata then some none
        else
          andThen (anyway buf[curdata]?) fun (requestedQoS : UInt8) =>
          andThen (subscribeLoop buf enddata fuel (curdata + 1)) fun rest =>
          some (some ((topicFilter, requestedQoS) :: rest))
      else some (some [])

/-- `MQTTDeserialize_subscribe`: the flag `dup`, the packet id and the topic filters. An inner
`none` is an exit before the end. -/
def mqttDeserializeSubscribe (buf : List UInt8) :
    Option (Option (Bool × Nat × List (MqttLenString × UInt8))) :=
  andThen (anyway buf[0]?) fun (header : UInt8) =>
  if header >>> 4 ≠ subscribe then some none
  else
    andThen (anyway (mqttPacketDecodeBuf buf 1)) fun (mylen, rc) =>
    andThen (anyway (readInt buf (1 + rc))) fun (packetid, curdata) =>
    andThen (subscribeLoop buf (1 + rc + mylen) (1 + rc + mylen) curdata) fun topicFilters =>
    some (some (header >>> 3 &&& 1 = 1, packetid, topicFilters))

/-- `MQTTPacket_checkVersion`. `memcmp` compares the first bytes of the name, as many as the
shorter of the two has. -/
def mqttPacketCheckVersion (buf : List UInt8) (protocol : MqttLenString) (version : UInt8) :
    Bool :=
  let name := protocol.text buf
  let mqisdp : List UInt8 := [77, 81, 73, 115, 100, 112]
  let mqtt : List UInt8 := [77, 81, 84, 84]
  version = 3 && name.take 6 == mqisdp.take name.length
    || version = 4 && name.take 4 == mqtt.take name.length

/-- The fields of the will that `MQTTDeserialize_connect` sets. -/
structure WillRead where
  qos : Nat
  retained : Bool
  topicName : MqttLenString
  message : MqttLenString
  deriving DecidableEq

/-- The fields of `MQTTPacket_connectData` that `MQTTDeserialize_connect` sets. The will, the
user name and the password are set with their flags. -/
structure ConnectRead where
  cleansession : Bool
  keepAliveInterval : Nat
  clientID : MqttLenString
  will : Option WillRead
  username : Option MqttLenString
  password : Option MqttLenString
  deriving DecidableEq

/-- The part of `MQTTDeserialize_connect` for the will, with the pointer behind it. -/
def readWill (buf : List UInt8) (flags : UInt8) (curdata enddata : Nat) :
    Option (Option (Option WillRead × Nat)) :=
  if flags >>> 2 &&& 1 = 1 then
    andThen (readMqttLenString buf curdata enddata) fun (topicName, curdata) =>
    andThen (readMqttLenString buf curdata enddata) fun (message, curdata) =>
    some (some (some ⟨(flags >>> 3 &&& 3).toNat, flags >>> 5 &&& 1 = 1, topicName, message⟩,
      curdata))
  else some (some (none, curdata))

/-- A user name or a password, which must have three bytes left. -/
def readCredential (buf : List UInt8) (curdata enddata : Nat) :
    Option (Option (MqttLenString × Nat)) :=
  if (enddata : Int) - curdata < 3 then some none else readMqttLenString buf curdata enddata

/-- The part of `MQTTDeserialize_connect` for the user name and the password. A password
without a user name is invalid. -/
def readCredentials (buf : List UInt8) (flags : UInt8) (curdata enddata : Nat) :
    Option (Option (Option MqttLenString × Option MqttLenString)) :=
  if flags >>> 7 = 1 then
    andThen (readCredential buf curdata enddata) fun (username, curdata) =>
    if flags >>> 6 &&& 1 = 1 then
      andThen (readCredential buf curdata enddata) fun (password, _) =>
      some (some (some username, some password))
    else some (some (some username, none))
  else if flags >>> 6 &&& 1 = 1 then some none
  else some (some (none, none))

/-- `MQTTDeserialize_connect` of a packet of `enddata` bytes. An inner `none` is a result other
than 1. -/
def mqttDeserializeConnect (buf : List UInt8) (enddata : Nat) : Option (Option ConnectRead) :=
  andThen (anyway buf[0]?) fun (header : UInt8) =>
  if header >>> 4 ≠ connect then some none
  else
    andThen (anyway (mqttPacketDecodeBuf buf 1)) fun (_, rc) =>
    andThen (readMqttLenString buf (1 + rc) enddata) fun (protocol, curdata) =>
    if (enddata : Int) - curdata < 0 then some none
    else
      andThen (anyway buf[curdata]?) fun (version : UInt8) =>
      if mqttPacketCheckVersion buf protocol version then
        andThen (anyway buf[curdata + 1]?) fun (flags : UInt8) =>
        andThen (anyway (readInt buf (curdata + 2))) fun (keepAliveInterval, curdata) =>
        andThen (readMqttLenString buf curdata enddata) fun (clientID, curdata) =>
        andThen (readWill buf flags curdata enddata) fun (will, curdata) =>
        andThen (readCredentials buf flags curdata enddata) fun (username, password) =>
        some (some ⟨flags >>> 1 &&& 1 = 1, keepAliveInterval, clientID, will, username, password⟩)
      else some none

/-! ### SUBACK -/

/-- The loop of `MQTTDeserialize_suback` from the pointer `curdata` on: the writes to
`grantedQoSs`, each with its index, and the result. The source compares `*count` with
`maxcount` before it writes and counts. -/
def subackLoop (buf : List UInt8) (enddata maxcount : Nat) :
    (fuel curdata count : Nat) → Option (List (Nat × UInt8) × Int)
  | 0, _, _ => some ([], 1)
  | fuel + 1, curdata, count =>
      if curdata < enddata then
        if count > maxcount then some ([], -1)
        else do
          let code : UInt8 ← buf[curdata]?
          let (writes, rc) ← subackLoop buf enddata maxcount fuel (curdata + 1) (count + 1)
          some ((count, code) :: writes, rc)
      else some ([], 1)

/-- What `MQTTDeserialize_suback` does: the packet id, the writes to `grantedQoSs`, and the
result. -/
structure SubackRead where
  packetid : Nat
  writes : List (Nat × UInt8)
  rc : Int
  deriving DecidableEq

/-- `MQTTDeserialize_suback`. An inner `none` is a packet of another type, or one without room
for the packet id. -/
def mqttDeserializeSuback (maxcount : Nat) (buf : List UInt8) : Option (Option SubackRead) :=
  andThen (anyway buf[0]?) fun (header : UInt8) =>
  if header >>> 4 ≠ suback then some none
  else
    andThen (anyway (mqttPacketDecodeBuf buf 1)) fun (mylen, rc) =>
    if mylen < 2 then some none
    else
      andThen (anyway (readInt buf (1 + rc))) fun (packetid, curdata) =>
      (subackLoop buf (1 + rc + mylen) maxcount (1 + rc + mylen) curdata 0).map fun loop =>
        some ⟨packetid, loop.1, loop.2⟩

/-- The bytes of a SUBACK packet with the return codes `codes`. -/
def subackBytes (packetid : UInt16) (codes : List UInt8) : List UInt8 :=
  mqttHeader suback false 0 false ::
    (mqttPacketEncode (PublishPacket.writeInt packetid.toNat ++ codes).length
      ++ (PublishPacket.writeInt packetid.toNat ++ codes))

end SmartBuilding
