import SmartBuilding.Lib.CText
import SmartBuilding.Lib.TopicFilter

/-!
# `SmartBuilding.Mqtt.Topic`: topic filters of the client

`isTopicMatched` of `MQTTClient-RT/paho_mqtt_pipe.c`, and `MQTTPacket_equals` of
`MQTTPacket.c`. A filter is a C string, as the list of its bytes before the NUL. A topic is a
string with its length. The pointers `curf` and `curn` are the parts of the two strings that
are left.

The comment above the source says that it assumes filters in the correct format. The format is
`TopicFilter.WellFormed` with the marks of MQTT.
-/

set_option autoImplicit false

namespace SmartBuilding

open TopicFilter

/-- The marks `/`, `+` and `#`. -/
def mqttMarks : Marks UInt8 := ⟨47, 43, 35⟩

/-- The loop that skips to the next separator, or to the end of the topic. -/
def skipLevel : List UInt8 → List UInt8
  | [] => []
  | n :: curn => if n = mqttMarks.sep then n :: curn else skipLevel curn

/-- `isTopicMatched`. -/
def isTopicMatched : (curf curn : List UInt8) → Bool
  | [], curn => curn = []
  | _ :: _, [] => false
  | f :: curf, n :: curn =>
      -- The two `break`s leave bytes of the topic.
      if n = mqttMarks.sep ∧ f ≠ mqttMarks.sep then false
      else if f ≠ mqttMarks.plus ∧ f ≠ mqttMarks.hash ∧ f ≠ n then false
      else if f = mqttMarks.plus then isTopicMatched curf (skipLevel curn)
      else if f = mqttMarks.hash then isTopicMatched curf []
      else isTopicMatched curf curn

/-- `MQTTPacket_equals` of a topic and a C string. `strncmp` stops at a NUL in the topic, and
the C string has none. -/
def mqttPacketEquals (topicName bptr : List UInt8) : Bool := topicName = bptr

/-- The condition of `deliverMessage` for a handler with the filter `topicFilter`. -/
def handlerMatches (topicFilter topicName : List UInt8) : Bool :=
  mqttPacketEquals topicName topicFilter || isTopicMatched topicFilter topicName

end SmartBuilding
