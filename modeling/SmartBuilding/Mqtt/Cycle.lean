import SmartBuilding.Controller
import SmartBuilding.Mqtt.Subscribe

/-!
# `SmartBuilding.Mqtt.Cycle`: from the bytes of the connection to the events of the firmware

`MQTT_cycle` of `paho_mqtt_pipe.c` takes one packet off the connection, runs the handlers of
its topic, and sends the acknowledgment. `serve` is the loop of `paho_mqtt_thread` around it,
as long as there are packets and no cycle fails.

The result of a handler here is the event of `controller` that it is (`handlerEvent`), with
the C string that it parses. The commands that the handlers publish go through the pipe
(`SmartBuilding.Mqtt.PubPipe`).

A function is `none` where the source reads or writes outside of a variable or a buffer, or
uses one that is not set. The source of a packet id that is not set is the stack, which is a
value of `CycleIO`.
-/

set_option autoImplicit false

namespace SmartBuilding

open CText

/-- The fields of the client that a cycle uses. -/
structure CycleClient where
  buf : List UInt8
  readbuf : List UInt8
  messageHandlers : List (MessageHandler FirmwareHandler)
  tickPing : Nat

/-- What a cycle gets from outside: the answers of the timer device, whether `sendPacket`
sends, the tick, and what the variable `mypacketid` has before it is set. -/
structure CycleIO where
  timer : TimerIO
  send : Bool
  tick : Nat
  mypacketid : UInt16

/-- The result of `MQTTDeserialize_publish`. When it exits after the remaining length, this is
the count of the bytes of that length. -/
def mqttDeserializePublishRc (buf : List UInt8) : Option Nat := do
  let header : UInt8 ← buf[0]?
  if header >>> 4 ≠ publish then some 0
  else
    let (_, rc) ← mqttPacketDecodeBuf buf 1
    match ← mqttDeserializePublish buf with
    | some _ => some 1
    | none => some rc

/-- The body of a PUBLISH packet has the topic that its first two bytes announce, and `more`
bytes behind it. -/
def HasTopic (more : Nat) (body : List UInt8) : Prop :=
  ∃ high low rest, body = high :: low :: rest ∧
    256 * high.toNat + low.toNat + more ≤ rest.length

/-- The connection behind the packet that `MQTTPacket_readPacket` reads. -/
def mqttPacketRest (stream : List UInt8) : List UInt8 :=
  match decodePacket stream.tail with
  | some (remLen, len) =>
      (stream.tail.drop (min len maxNoOfRemainingLengthBytes)).drop remLen
  | none => []

/-- The event of a handler that parses the C string `text`. The default handler only prints. -/
def handlerEvent (io : TimerIO) (text : List UInt8) : FirmwareHandler → List Event
  | .mqttSyncCallback => [.syncResponse io text]
  | .mqttDevControlCallback => [.devControl io text]
  | .mqttThresholdsCallback => [.thresholdSet text]
  | .mqttSubDefaultCallback => []

/-- The events of a message in the read buffer. Every handler first ends the payload with a
NUL. -/
def deliverEvents (io : TimerIO) (readbuf : List UInt8)
    (handlers : List (MessageHandler FirmwareHandler)) (d : PublishData) : List Event :=
  let text := cString ((terminatePayload readbuf d).drop d.payload)
  (deliverMessage (some .mqttSubDefaultCallback) (d.topicName.text readbuf) handlers).flatMap
    (handlerEvent io text)

/-- What a cycle does: its result, the client after it, the events of its handlers, and the
packets that it sends. -/
structure Cycled where
  rc : Int
  client : CycleClient
  events : List Event
  sent : List (List UInt8)

/-- An acknowledgment: `MQTTSerialize_ack`, and `sendPacket` when that succeeds. -/
def sendAck (io : CycleIO) (c : CycleClient) (events : List Event) (packettype : UInt8)
    (packetid : UInt16) : Option Cycled := do
  let (buf, len) ← mqttSerializeAck c.buf packettype false packetid
  let c := { c with buf := buf }
  if len ≤ 0 then some ⟨pahoFailure, c, events, []⟩
  else if !io.send then some ⟨pahoFailure, c, events, []⟩
  else some ⟨pahoSuccess, c, events, [buf.take len.toNat]⟩

/-- The case `PUBLISH` of `MQTT_cycle`. -/
def cyclePublish (io : CycleIO) (c : CycleClient) : Option Cycled := do
  if (← mqttDeserializePublishRc c.readbuf) ≠ 1 then some ⟨pahoSuccess, c, [], []⟩
  else
    -- A result of 1 without the fields is not seen, and the pointers are not set.
    match ← mqttDeserializePublish c.readbuf with
    | none => none
    | some d =>
        -- The first handler writes its NUL to the byte behind the payload.
        if 0 ≤ d.terminator ∧ d.terminator < c.readbuf.length ∧
            0 ∈ (terminatePayload c.readbuf d).drop d.payload then
          let events := deliverEvents io.timer c.readbuf c.messageHandlers d
          let c := { c with readbuf := terminatePayload c.readbuf d }
          let id := (d.packetid.getD 0).toUInt16
          if d.qos = 0 then some ⟨pahoSuccess, c, events, []⟩
          else if d.qos = 1 then sendAck io c events puback id
          else if d.qos = 2 then sendAck io c events pubrec id
          else some ⟨pahoFailure, c, events, []⟩
        else none

/-- The case `PUBREC` of `MQTT_cycle`. -/
def cyclePubrec (io : CycleIO) (c : CycleClient) : Option Cycled := do
  let ack ← mqttDeserializeAck c.readbuf
  if ack.rc ≠ 1 then some ⟨pahoFailure, c, [], []⟩
  else sendAck io c [] pubrel ((ack.packetid.map Nat.toUInt16).getD io.mypacketid)

/-- The cases `CONNACK`, `PUBACK` and `SUBACK` of `MQTT_cycle`. There is room for one code. -/
def cycleSuback (c : CycleClient) : Option Cycled := do
  match ← mqttDeserializeSuback 1 c.readbuf with
  | none => some ⟨pahoSuccess, c, [], []⟩
  | some d =>
      if d.writes.any (1 ≤ ·.1) then none
      else
        let refused := d.rc = 1 ∧ d.writes.getLast? = some (0, 128)
        some ⟨if refused then 128 else 0, c, [], []⟩

/-- `MQTT_cycle` on the connection `stream`, from which the whole packet comes. -/
def mqttCycle (io : CycleIO) (stream : List UInt8) (c : CycleClient) : Option Cycled := do
  let readbuf ← mqttPacketReadPacket c.readbuf stream
  let c := { c with readbuf := readbuf }
  let header : UInt8 ← readbuf[0]?
  let packetType := header >>> 4
  if packetType = connack ∨ packetType = puback ∨ packetType = suback then cycleSuback c
  else if packetType = unsuback then
    let (rc, _) ← mqttDeserializeUnsuback c.readbuf
    some ⟨if rc = 1 then pahoSuccess else pahoFailure, c, [], []⟩
  else if packetType = publish then cyclePublish io c
  else if packetType = pubrec then cyclePubrec io c
  else if packetType = pingresp then some ⟨pahoSuccess, { c with tickPing := io.tick }, [], []⟩
  else some ⟨pahoSuccess, c, [], []⟩

/-! ### The loop of the worker -/

/-- What the loop has done: the connection and the client then, the events, the packets that
were sent, and whether the worker is still in the loop. -/
structure Served where
  stream : List UInt8
  client : CycleClient
  events : List Event
  sent : List (List UInt8)
  online : Bool

/-- One cycle for each value of the list. A cycle that fails ends the loop. -/
def serve : List CycleIO → List UInt8 → CycleClient → Option Served
  | [], stream, c => some ⟨stream, c, [], [], true⟩
  | io :: ios, stream, c => do
      let r ← mqttCycle io stream c
      if r.rc < 0 then some ⟨mqttPacketRest stream, r.client, r.events, r.sent, false⟩
      else
        let s ← serve ios (mqttPacketRest stream) r.client
        some { s with events := r.events ++ s.events, sent := r.sent ++ s.sent }

/-! ### The packets of a server -/

/-- A packet with its header byte and its body. -/
def packetBytes (header : UInt8) (body : List UInt8) : List UInt8 :=
  header :: (mqttPacketEncode body.length ++ body)

/-- A packet of the server: a message, or any other one with its header byte and body. -/
inductive ServerPacket where
  | message (p : PublishPacket)
  | control (header : UInt8) (body : List UInt8)

namespace ServerPacket

def bytes : ServerPacket → List UInt8
  | message p => p.bytes
  | control header body => packetBytes header body

/-- A message leaves a byte of the buffer free. Another packet fits, and a SUBACK has one code
at most. -/
def Fits : ServerPacket → Prop
  | message p => p.bytes.length < readbufSize
  | control header body =>
      (packetBytes header body).length ≤ readbufSize ∧ header >>> 4 ≠ publish ∧
        (header >>> 4 = suback → body.length ≤ 3)

/-- The acknowledgment that a packet gets. -/
inductive Answer where
  | nothing
  | ack (packettype : UInt8) (packetid : UInt16)
  | failure

/-- The packet id at the start of a body. -/
def bodyPacketid : List UInt8 → Option Nat
  | high :: low :: _ => some (256 * high.toNat + low.toNat)
  | _ => none

/-- The acknowledgment of a packet. A PUBREC that is too short for a packet id is answered as
well. -/
def answer (io : CycleIO) : ServerPacket → Answer
  | message p =>
      if p.qos.val = 0 then .nothing
      else if p.qos.val = 1 then .ack puback p.packetid
      else if p.qos.val = 2 then .ack pubrec p.packetid
      else .failure
  | control header body =>
      if header >>> 4 = pubrec then
        .ack pubrel (((bodyPacketid body).map Nat.toUInt16).getD io.mypacketid)
      else .nothing

/-- The four bytes of an acknowledgment. -/
def ackBytes (packettype : UInt8) (packetid : UInt16) : List UInt8 :=
  mqttHeader packettype false (if packettype = pubrel then 1 else 0) false ::
    2 :: PublishPacket.writeInt packetid.toNat

/-- The events of a packet, when `handler` has the topics with their handlers. -/
def events (handler : List UInt8 → FirmwareHandler) (io : CycleIO) : ServerPacket → List Event
  | message p => handlerEvent io.timer p.payload (handler p.topicName)
  | control _ _ => []

/-- The packets that are sent for a packet. -/
def sent (io : CycleIO) (p : ServerPacket) : List (List UInt8) :=
  match p.answer io with
  | .ack packettype packetid => if io.send then [ackBytes packettype packetid] else []
  | _ => []

/-- The cycle of a packet fails. -/
def fails (io : CycleIO) (p : ServerPacket) : Bool :=
  match p.answer io with
  | .nothing => false
  | .ack _ _ => !io.send
  | .failure => true

end ServerPacket

/-- The first packets, up to the one that fails. -/
def servedPackets (ps : List (ServerPacket × CycleIO)) : List (ServerPacket × CycleIO) :=
  ps.take (ps.findIdx (fun p => p.1.fails p.2) + 1)

end SmartBuilding
