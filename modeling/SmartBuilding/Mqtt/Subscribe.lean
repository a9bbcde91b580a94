import SmartBuilding.Lib.EventMachine
import SmartBuilding.Mqtt.Serialize
import SmartBuilding.Mqtt.Topic

/-!
# `SmartBuilding.Mqtt.Subscribe`: the table of subscriptions

`paho_mqtt_subscribe`, `paho_mqtt_unsubscribe` and `deliverMessage` of
`MQTTClient-RT/paho_mqtt_pipe.c`, over the array `messageHandlers` of the client, and
`mqtt_sub_init` of `mqtt_sample.c`.

A text is the list of its bytes before the NUL. A callback is a value of any type `κ`. The
answers of the network and of the allocator are parameters: whether `sendPacket` sends the
packet, and whether `rt_strdup` has memory.

`SubscribeCall` are the calls of the two functions, and `subscriber` is the machine of all of
them in any order. Its records are the results.
-/

set_option autoImplicit false

namespace SmartBuilding

open CText

/-- `MAX_MESSAGE_HANDLERS`, which is `PKG_PAHOMQTT_SUBSCRIBE_HANDLERS`. -/
def maxMessageHandlers : Nat := 3

/-- `MAX_PACKET_ID`. -/
def maxPacketId : Nat := 65535

/-- `PAHO_SUCCESS` and `PAHO_FAILURE`. -/
def pahoSuccess : Int := 0
def pahoFailure : Int := -1

/-- `QOS1`. -/
def qos1 : UInt8 := 1

variable {κ : Type}

/-- `struct MessageHandlers`. Null pointers are `none`. -/
structure MessageHandler (κ : Type) where
  topicFilter : Option (List UInt8)
  callback : Option κ
  qos : UInt8
  deriving DecidableEq

/-- The fields of the client that the two functions use. -/
structure SubscribeClient (κ : Type) where
  isconnected : Bool
  nextPacketid : Nat
  buf : List UInt8
  messageHandlers : List (MessageHandler κ)

/-- The client before the first subscription, with a buffer of `size` bytes. -/
def SubscribeClient.initial (κ : Type) (size : Nat) : SubscribeClient κ where
  isconnected := true
  nextPacketid := 0
  buf := List.replicate size 0
  messageHandlers := List.replicate maxMessageHandlers ⟨none, none, 0⟩

/-- What the network and the allocator answer to one call. -/
structure SubscribeIO where
  send : Bool
  strdup : Bool
  deriving DecidableEq, Repr

/-! ### The functions -/

/-- `rt_strncmp(cs, ct, count) == 0`. The end of a list is the NUL of the text. -/
def rtStrncmpEq : List UInt8 → List UInt8 → Nat → Bool
  | _, _, 0 => true
  | [], [], _ + 1 => true
  | c :: cs, d :: ct, count + 1 => c == d && rtStrncmpEq cs ct count
  | _, _, _ + 1 => false

/-- The comparison that both functions make of a handler with a topic. -/
def MessageHandler.names (topic : List UInt8) (h : MessageHandler κ) : Bool :=
  match h.topicFilter with
  | some filter => rtStrncmpEq filter topic topic.length
  | none => false

/-- `getNextPacketId`. -/
def getNextPacketId (c : SubscribeClient κ) : Nat × SubscribeClient κ :=
  let id := if c.nextPacketid = maxPacketId then 1 else c.nextPacketid + 1
  (id, { c with nextPacketid := id })

/-- `paho_mqtt_subscribe`. -/
def pahoMqttSubscribe (io : SubscribeIO) (qos : UInt8) (topic : List UInt8)
    (callback : Option κ) (c : SubscribeClient κ) : Int × SubscribeClient κ :=
  if qos ≠ qos1 then (pahoFailure, c)
  else if c.messageHandlers.any (·.names topic) then (pahoSuccess, c)
  else
    match c.messageHandlers.findIdx? (·.topicFilter.isNone) with
    | none => (pahoFailure, c)
    | some i =>
        let (packetid, c) := getNextPacketId c
        -- The serializer stays in the buffer (`mqttSerializeSubscribe_eq`).
        let (buf, length) := (mqttSerializeSubscribe c.buf false packetid.toUInt16
          [(.ofCString topic, qos)]).getD (c.buf, mqttpacketBufferTooShort)
        let c := { c with buf := buf }
        -- This exit has the result of the start.
        if length ≤ 0 then (pahoSuccess, { c with isconnected := false })
        else if !io.send then (pahoFailure, { c with isconnected := false })
        else
          (pahoSuccess, { c with
            messageHandlers := c.messageHandlers.modify i fun h =>
              { qos := qos
                topicFilter := if io.strdup then some topic else none
                callback := if callback.isSome then callback else h.callback } })

/-- `paho_mqtt_unsubscribe`. -/
def pahoMqttUnsubscribe (io : SubscribeIO) (topic : List UInt8) (c : SubscribeClient κ) :
    Int × SubscribeClient κ :=
  match c.messageHandlers.findIdx? (·.names topic) with
  | none => (pahoFailure, c)
  | some i =>
      let (packetid, c) := getNextPacketId c
      let (buf, length) := (mqttSerializeUnsubscribe c.buf false packetid.toUInt16
        [.ofCString topic]).getD (c.buf, mqttpacketBufferTooShort)
      let c := { c with buf := buf }
      if length ≤ 0 then (pahoSuccess, { c with isconnected := false })
      else if !io.send then (pahoFailure, { c with isconnected := false })
      else
        (pahoSuccess, { c with
          messageHandlers := c.messageHandlers.modify i fun h =>
            { h with topicFilter := none, callback := none } })

/-- The callback of a handler that `deliverMessage` runs for a message on `topicName`. -/
def MessageHandler.called (topicName : List UInt8) (h : MessageHandler κ) : Option κ :=
  match h.topicFilter with
  | some filter => if handlerMatches filter topicName then h.callback else none
  | none => none

/-- `deliverMessage`: the callbacks that a message on `topicName` runs, in order. The
default handler is `defaultMessageHandler`. -/
def deliverMessage (defaultMessageHandler : Option κ) (topicName : List UInt8)
    (handlers : List (MessageHandler κ)) : List κ :=
  let called := handlers.filterMap (·.called topicName)
  if called = [] then defaultMessageHandler.toList else called

/-! ### The machine of all calls -/

/-- A call with the answers that it gets. -/
inductive SubscribeCall (κ : Type) where
  | subscribe (io : SubscribeIO) (topic : List UInt8) (callback : κ)
  | unsubscribe (io : SubscribeIO) (topic : List UInt8)

/-- The topic of a call. -/
def SubscribeCall.topic : SubscribeCall κ → List UInt8
  | .subscribe _ topic _ => topic
  | .unsubscribe _ topic => topic

/-- The answers of a call. -/
def SubscribeCall.io : SubscribeCall κ → SubscribeIO
  | .subscribe io _ _ => io
  | .unsubscribe io _ => io

/-- The result of a call, and the client after it. -/
def SubscribeCall.run (c : SubscribeClient κ) : SubscribeCall κ → Int × SubscribeClient κ
  | .subscribe io topic callback => pahoMqttSubscribe io qos1 topic (some callback) c
  | .unsubscribe io topic => pahoMqttUnsubscribe io topic c

/-- The table of subscriptions as a machine. -/
def subscriber (κ : Type) : Machine (SubscribeClient κ) (SubscribeCall κ) Int where
  step c call := (call.run c).2
  out c call := [(call.run c).1]

/-! ### What the table is for -/

/-- The subscriptions as a list of topics with their callbacks. -/
abbrev Subscriptions (κ : Type) := List (List UInt8 × κ)

/-- The packet for a topic fits into a buffer of `size` bytes. `extra` bytes of the remaining
length are not the topic's. -/
def topicFits (size extra : Nat) (topic : List UInt8) : Bool :=
  mqttPacketLen (extra + topic.length) ≤ size

/-- What a call comes to, with its result: a new topic is added when there is room, a known
one stays as it is, and an unsubscribed one goes. Without the network nothing changes. A topic
that is too long for the buffer changes nothing either, with the result of a success. -/
def Subscriptions.call (size : Nat) (subs : Subscriptions κ) :
    SubscribeCall κ → Subscriptions κ × Int
  | .subscribe io topic callback =>
      if topic ∈ subs.map (·.1) then (subs, pahoSuccess)
      else if subs.length = maxMessageHandlers then (subs, pahoFailure)
      else if !topicFits size 5 topic then (subs, pahoSuccess)
      else if !io.send then (subs, pahoFailure)
      else (if io.strdup then (topic, callback) :: subs else subs, pahoSuccess)
  | .unsubscribe io topic =>
      if topic ∉ subs.map (·.1) then (subs, pahoFailure)
      else if !topicFits size 4 topic then (subs, pahoSuccess)
      else if !io.send then (subs, pahoFailure)
      else (subs.filter (·.1 ≠ topic), pahoSuccess)

/-- The subscriptions as a machine. -/
def subscriptions (κ : Type) (size : Nat) :
    Machine (Subscriptions κ) (SubscribeCall κ) Int where
  step subs call := (subs.call size call).1
  out subs call := [(subs.call size call).2]

/-- The subscription of a handler. -/
def MessageHandler.subscription (h : MessageHandler κ) : Option (List UInt8 × κ) :=
  match h.topicFilter, h.callback with
  | some filter, some callback => some (filter, callback)
  | _, _ => none

/-- The subscriptions in the table. -/
def subscribed (handlers : List (MessageHandler κ)) : Subscriptions κ :=
  handlers.filterMap MessageHandler.subscription

/-! ### The subscriptions of the firmware -/

/-- The message handlers of `mqtt_sample.c`. -/
inductive FirmwareHandler where
  | mqttSyncCallback
  | mqttDevControlCallback
  | mqttThresholdsCallback
  | mqttSubDefaultCallback
  deriving DecidableEq, Repr

/-- `MQTT_SYNC_SUBTOPIC`, `MQTT_DEVICE_SUBTOPIC` and `MQTT_THRESHOLD_SUBTOPIC`. -/
def mqttSyncSubtopic : List UInt8 := ofText "sync/response"
def mqttDeviceSubtopic : List UInt8 := ofText "device/control"
def mqttThresholdSubtopic : List UInt8 := ofText "threshold/set"

/-- The topics that `mqtt_sub_init` subscribes to, in its order, with their handlers. -/
def firmwareTopics : List (List UInt8 × FirmwareHandler) :=
  [(mqttSyncSubtopic, .mqttSyncCallback), (mqttDeviceSubtopic, .mqttDevControlCallback),
    (mqttThresholdSubtopic, .mqttThresholdsCallback)]

/-- `mqtt_sub_init`: its calls of `paho_mqtt_subscribe`, with the answers to each.
`mqtt_subscribe` makes no call while `is_started` is 0, which is `none` here. -/
def mqttSubInit (answers : List (Option SubscribeIO)) : List (SubscribeCall FirmwareHandler) :=
  (firmwareTopics.zip answers).filterMap fun s => s.2.map fun io => .subscribe io s.1.1 s.1.2

/-- The handlers that a message on `topicName` runs in the firmware. -/
def firmwareDeliver (topicName : List UInt8) (c : SubscribeClient FirmwareHandler) :
    List FirmwareHandler :=
  deliverMessage (some .mqttSubDefaultCallback) topicName c.messageHandlers

/-- Some round has sent the subscription and had memory for it. -/
def firmwareAnswered (rounds : List (List (Option SubscribeIO)))
    (p : List UInt8 × FirmwareHandler) : Bool :=
  rounds.any fun answers =>
    (firmwareTopics.zip answers).any fun s => s.1 = p && s.2 = some ⟨true, true⟩

/-- The handler of a topic after these rounds. -/
def firmwareHandler (rounds : List (List (Option SubscribeIO))) (topicName : List UInt8) :
    FirmwareHandler :=
  match firmwareTopics.find? fun p => p.1 = topicName && firmwareAnswered rounds p with
  | some p => p.2
  | none => .mqttSubDefaultCallback

/-! ### Lost subscriptions -/

/-- A subscription with the network and memory for it is reported as a success, and its topic
is not in the table after it. -/
def SubscribeCall.Lost (c : SubscribeClient κ) : SubscribeCall κ → Prop
  | .subscribe io topic callback =>
      io.send = true ∧ io.strdup = true ∧
        (pahoMqttSubscribe io qos1 topic (some callback) c).1 = pahoSuccess ∧
        ¬ ∃ h ∈ (pahoMqttSubscribe io qos1 topic (some callback) c).2.messageHandlers,
          h.topicFilter = some topic
  | .unsubscribe _ _ => False

/-- A filter in the table starts with the topic. -/
def SubscribeClient.Shadows (c : SubscribeClient κ) (topic : List UInt8) : Prop :=
  ∃ h ∈ c.messageHandlers, ∃ filter, h.topicFilter = some filter ∧ topic <+: filter

/-- There is a free slot for the topic, and its packet does not fit into the buffer. -/
def SubscribeClient.Overlong (size : Nat) (c : SubscribeClient κ) (topic : List UInt8) : Prop :=
  (∃ h ∈ c.messageHandlers, h.topicFilter = none) ∧ topicFits size 5 topic = false

/-- A subscription with the network and memory for it, to a topic that is not in the table. A
longer filter there starts with the topic, or the topic is too long for the buffer. -/
def SubscribeCall.Skipped (size : Nat) (c : SubscribeClient κ) : SubscribeCall κ → Prop
  | .subscribe io topic _ =>
      io.send = true ∧ io.strdup = true ∧ (c.Shadows topic ∨ c.Overlong size topic) ∧
        ¬ ∃ h ∈ c.messageHandlers, h.topicFilter = some topic
  | .unsubscribe _ _ => False

end SmartBuilding
