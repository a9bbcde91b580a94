import SmartBuilding.Lib.CText
import SmartBuilding.Mqtt.Serialize
import SmartBuilding.Pipe

/-!
# `SmartBuilding.Mqtt.PubPipe`: publishing through the pipe of the client

`MQTTPublish` of `paho_mqtt_pipe.c` writes a frame into the pipe: the structure `MQTTMessage`
as it lies in memory, the payload, and the topic with its NUL. The worker reads as many bytes
as its buffer has room for, and `pubSock` is what it does with them: it takes the first frame
and does not look behind it.

How the compiler lays out `MQTTMessage` is a parameter: `cast` reads the fields back from its
16 bytes. `payload` is a pointer there, which the worker sets anew.
-/

set_option autoImplicit false

namespace SmartBuilding

open CText

/-- `sizeof(MQTTMessage)`. -/
def sizeofMqttMessage : Nat := 16

/-- The fields of `MQTTMessage` that the worker reads. -/
structure MqttMessage where
  qos : Fin 4
  retained : Bool
  id : UInt16
  payloadlen : Nat

variable (cast : List UInt8 → MqttMessage)

/-- What `MQTTPublish` writes for a message that becomes the packet `p`. -/
structure MqttPublishFrame (p : PublishPacket) (frame : List UInt8) : Prop where
  /-- The message has no flag `dup`, and the topic has no NUL. -/
  dup : p.dup = false
  topicName : ∀ b ∈ p.topicName, b ≠ 0
  frame : ∃ message : List UInt8, message.length = sizeofMqttMessage ∧
    cast message = ⟨p.qos, p.retained, p.packetid, p.payload.length⟩ ∧
    frame = message ++ (p.payload ++ (p.topicName ++ [0]))

/-- What the worker does with the bytes that it reads from the pipe. -/
inductive PubSockResult where
  | command (cmd : List UInt8)
  | disconnect
  | send (packet : List UInt8)
  deriving DecidableEq

/-- The part of `paho_mqtt_thread` behind the `read` of the pipe, with `len` bytes at the start
of `readbuf`. It is `none` when a pointer leaves the buffer. -/
def pubSock (buf readbuf : List UInt8) (len : Nat) : Option PubSockResult :=
  if len < sizeofMqttMessage then some (.command (cString (readbuf.take len)))
  else
    let message := cast (readbuf.take sizeofMqttMessage)
    let topic := readbuf.drop (sizeofMqttMessage + message.payloadlen)
    if 0 ∈ topic then
      match mqttSerializePublish buf false message.qos message.retained message.id
          (.ofCString (cString topic))
          ((readbuf.drop sizeofMqttMessage).take message.payloadlen) with
      | none => none
      | some (buf, len) => some (if len ≤ 0 then .disconnect else .send (buf.take len.toNat))
    else none

/-- The fields of `MQTTMessage` where the compiler of the firmware puts them: an enumeration
has one byte, and a number its lowest byte first. -/
def mqttMessageCast (message : List UInt8) : MqttMessage where
  qos := ⟨(message.getD 0 0).toNat % 4, Nat.mod_lt _ (Nat.succ_pos 3)⟩
  retained := message.getD 1 0 ≠ 0
  id := (message.getD 4 0).toUInt16 + 256 * (message.getD 5 0).toUInt16
  payloadlen := (message.getD 12 0).toNat + 256 * (message.getD 13 0).toNat
    + 65536 * (message.getD 14 0).toNat + 16777216 * (message.getD 15 0).toNat

/-! ### The frames of a log -/

variable {T : Type}

/-- The bytes of a read. -/
def PipeRecord.read? : PipeRecord T → Option (List UInt8)
  | given _ data => some data
  | _ => none

/-- The bytes that were put into an empty pipe. -/
def PipeRecord.first? : PipeRecord T → Option (List UInt8)
  | taken _ chunk waiting => if waiting = 0 then some chunk else none
  | _ => none

/-- A publisher writes a frame, or the worker reads. -/
def PipeEvent.Publishing (w : T) : PipeEvent T → Prop
  | .write _ buf => ∃ p, MqttPublishFrame cast p buf
  | .put _ => True
  | .read t count => t = w ∧ count = readbufSize

/-- A round of a write finds room for the rest. -/
def PipeEvent.Fits (p : RtPipe T) : PipeEvent T → Prop
  | .put t => (p.pbuf t).length ≤ p.fifo.spaceLen
  | _ => True

/-- The worker sends the packet of a frame when it reads `data`. -/
def SendsFirst (data first : List UInt8) : Prop :=
  ∃ p, MqttPublishFrame cast p first ∧ ∀ buf behind : List UInt8, buf.length = readbufSize →
    pubSock cast buf (data ++ behind) data.length = some (.send p.bytes)

end SmartBuilding
