import SmartBuilding.Lib.Ledger
import SmartBuilding.CJson
import SmartBuilding.HwTimer
import SmartBuilding.Mqtt.Status

/-!
# `SmartBuilding.Mqtt.Publish`: from an object to the payload of a message

The six message builders of `mqtt_sample.c` and the publishers that call them, down to the
buffer that a publisher hands to `mqtt_publish`. `SmartBuilding.Mqtt.Response` and
`SmartBuilding.Mqtt.Status` say which object a message carries. Here is what happens to its
bytes.

The builders have one text. Each makes an object, adds its members, prints the object, and
copies the print into a buffer for its caller (`build`). They differ in the members. The
consumer is `paho_mqtt_publish`, which gets a pointer and finds the end of the payload by
itself.

Memory is a list of bytes: the buffer, and after it the bytes that lie behind the buffer. The
buffer is as long as it was asked for. The printer of cJSON is a parameter, and so are the
answers of the allocator and of the broker. The ledger `ops` has the three blocks that a
publisher owns. The responses also free the command id, which is a matter of
`SmartBuilding.Mqtt.Response`.
-/

set_option autoImplicit false

namespace SmartBuilding

open CText

/-- `RT_ENOMEM`. -/
def rtEnomem : Int32 := 5

/-- `cJSON_PrintUnformatted`: the bytes of the block that it returns. Every value prints as
something. -/
class CJsonPrinter where
  cJSONPrintUnformatted : CJson → List UInt8
  cString_ne_nil : ∀ root, cString (cJSONPrintUnformatted root) ≠ []

/-! ### Members -/

/-- A call of `cJSON_AddNumberToObject`, `cJSON_AddBoolToObject` or
`cJSON_AddStringToObject`. The text of a string is `none` for a null pointer. -/
inductive Field where
  | number (name : String) (value : Int32)
  | bool (name : String) (value : Bool)
  | string (name : String) (text : Option (List UInt8))
  deriving DecidableEq

/-- The member that a call adds when it gets its memory. A null string adds none. -/
def Field.member : Field → Option (List UInt8 × CJson)
  | .number name value => some (ofText name, .int value)
  | .bool name value => some (ofText name, if value then .jTrue else .jFalse)
  | .string name text => text.map fun t => (ofText name, .string t)

/-- The object after the calls. `add i` says that the call with the number `i` gets its
memory. -/
def rootObject (fields : List Field) (add : Nat → Bool) : CJson :=
  .object (fields.zipIdx.filterMap fun f => if add f.2 then f.1.member else none)

/-! ### The builders -/

/-- The blocks of a publisher: the object, its print, and the buffer. -/
inductive PublishBlock where
  | root
  | msgStr
  | sendBuffer
  deriving DecidableEq, Repr

/-- The answers of the allocator and of the broker while a publisher runs. -/
structure PublishIO where
  createObject : Bool
  add : Nat → Bool
  print : Bool
  sendBuffer : Bool
  publish : Int32

/-- Everything succeeds. -/
def PublishIO.ok : PublishIO where
  createObject := true
  add _ := true
  print := true
  sendBuffer := true
  publish := 0

/-- What a builder leaves: its result, the text that was printed, the bytes of the buffer for
the caller, and the ledger. -/
structure Built where
  result : Int32
  msgStr : Option (List UInt8)
  outBuff : Option (List UInt8)
  ops : List (Ledger.Op PublishBlock)

/-- `rt_malloc`: whether there is a block of `size` bytes. A block of no bytes is refused. -/
def rtMalloc (answer : Bool) (size : Nat) : Bool := answer && size != 0

/-- `strncpy` into a block: `n` bytes, filled up with NULs after a shorter text. -/
def strncpy (text : List UInt8) (n : Nat) : List UInt8 :=
  text.take n ++ List.replicate (n - text.length) 0

/-- The text that the six builders share. -/
def build [CJsonPrinter] (fields : List Field) (io : PublishIO) : Built :=
  if !io.createObject then ⟨-rtEnomem, none, none, []⟩
  else if !io.print then ⟨-rtEnomem, none, none, [.acquire .root, .release .root]⟩
  else
    let root := rootObject fields io.add
    let msgStr := cString (CJsonPrinter.cJSONPrintUnformatted root)
    if rtMalloc io.sendBuffer msgStr.length then
      ⟨rtEok, some msgStr, some (strncpy msgStr msgStr.length),
        [.acquire .root, .acquire .msgStr, .acquire .sendBuffer, .release .root,
          .release .msgStr]⟩
    else
      -- This exit returns at once, and frees nothing.
      ⟨-rtEnomem, some msgStr, none, [.acquire .root, .acquire .msgStr]⟩

namespace Builder

/-- The call `cJSON_AddStringToObject(root, "timestamp", timestamp)`. The builders leave
`timestamp` null. -/
def timestamp : Field := .string "timestamp" none

/-- `mqtt_get_sync_datas`. -/
def mqttGetSyncDatas [CJsonPrinter] (io : PublishIO) : Built :=
  build [.string "type" (some (ofText "all")), timestamp] io

/-- `mqtt_get_environment_datas`. -/
def mqttGetEnvironmentDatas [CJsonPrinter] (enviData : Environment) (io : PublishIO) : Built :=
  build [.number "temperature" enviData.temp, .number "humidity" enviData.humi,
    .number "light" enviData.light, .number "smoke" enviData.smoke, timestamp] io

/-- A flag that is added as a number. -/
def flag (name : String) (value : Bool) : Field := .number name (if value then 1 else 0)

/-- The members of `mqtt_get_device_status`. -/
def deviceStatusFields (devData : Devices) : List Field :=
  [flag "warningLight" devData.led0State, flag "fillLight" devData.led1State,
    flag "exhaustFan" devData.relayState, flag "alarm" devData.beepState,
    flag "emergencyDoor" devData.doorState, flag "dht11Status" devData.dht11SensorState,
    flag "lightSensorStatus" devData.lightSensorState, timestamp]

/-- `mqtt_get_device_status`. -/
def mqttGetDeviceStatus [CJsonPrinter] (devData : Devices) (io : PublishIO) : Built :=
  build (deviceStatusFields devData) io

/-- The members of a response with the text `message`. `uuid` is the text behind the pointer
`UUID`. -/
def responseFields (message : String) (uuid : Option (List UInt8)) : List Field :=
  [.string "commandId" uuid, .bool "success" true, .string "message" (some (ofText message)),
    timestamp]

/-- `mqtt_get_dev_response`. -/
def mqttGetDevResponse [CJsonPrinter] (uuid : Option (List UInt8)) (io : PublishIO) : Built :=
  build (responseFields "执行成功" uuid) io

/-- `mqtt_get_thresholds_response`. -/
def mqttGetThresholdsResponse [CJsonPrinter] (uuid : Option (List UInt8)) (io : PublishIO) :
    Built :=
  build (responseFields "设置成功" uuid) io

/-- `mqtt_get_alarm_info`. -/
def mqttGetAlarmInfo [CJsonPrinter] (alarmType : UInt8)
    (environmentData thresholdsData : Int32) (io : PublishIO) : Built :=
  build [.number "alarmType" (Int32.ofNat alarmType.toNat),
    .number "actualValue" environmentData, .number "thresholdValue" thresholdsData,
    timestamp] io

end Builder

/-! ### The publishers -/

/-- The six publishers with their arguments. The two responses read the text behind the
pointer `UUID`, which is `none` when it is null. -/
inductive Publication where
  | syncRequest
  | environmentData (enviData : Environment)
  | deviceStatus (devData : Devices)
  | deviceResponse (uuid : Option (List UInt8))
  | thresholdsResponse (uuid : Option (List UInt8))
  | alarmInfo (alarmType : UInt8) (actual threshold : Int32)

/-- The members that the builder of a publisher adds. -/
def Publication.fields : Publication → List Field
  | .syncRequest => [.string "type" (some (ofText "all")), Builder.timestamp]
  | .environmentData enviData =>
      [.number "temperature" enviData.temp, .number "humidity" enviData.humi,
        .number "light" enviData.light, .number "smoke" enviData.smoke, Builder.timestamp]
  | .deviceStatus devData => Builder.deviceStatusFields devData
  | .deviceResponse uuid => Builder.responseFields "执行成功" uuid
  | .thresholdsResponse uuid => Builder.responseFields "设置成功" uuid
  | .alarmInfo alarmType actual threshold =>
      [.number "alarmType" (Int32.ofNat alarmType.toNat), .number "actualValue" actual,
        .number "thresholdValue" threshold, Builder.timestamp]

/-- The builder of a publisher. -/
def Publication.builder [CJsonPrinter] : Publication → PublishIO → Built
  | .syncRequest => Builder.mqttGetSyncDatas
  | .environmentData enviData => Builder.mqttGetEnvironmentDatas enviData
  | .deviceStatus devData => Builder.mqttGetDeviceStatus devData
  | .deviceResponse uuid => Builder.mqttGetDevResponse uuid
  | .thresholdsResponse uuid => Builder.mqttGetThresholdsResponse uuid
  | .alarmInfo alarmType actual threshold => Builder.mqttGetAlarmInfo alarmType actual threshold

/-- The six builders are one builder with the members of each. -/
theorem Publication.builder_eq [CJsonPrinter] (p : Publication) : p.builder = build p.fields := by
  cases p <;> rfl

/-- `rt_strlen` of the text at the start of the memory. -/
def rtStrlen (memory : List UInt8) : Nat := (cString memory).length

/-- The offsets that `rt_strlen` reads, from the start of the memory. -/
def rtStrlenReads (memory : List UInt8) : List Nat := List.range (rtStrlen memory + 1)

/-- `paho_mqtt_publish`: the payload of the message, from a pointer to the start of the
memory. It is `none` when the memory has no NUL, so that `rt_strlen` leaves it. -/
def pahoMqttPublish (memory : List UInt8) : Option (List UInt8) :=
  if 0 ∈ memory then some (memory.take (rtStrlen memory)) else none

/-- What a publisher leaves: its result, the payload of its message, and the ledger. -/
structure Published where
  result : Int32
  payload : Option (List UInt8)
  ops : List (Ledger.Op PublishBlock)

/-- The text that the six publishers share. `behind` is the memory behind the buffer. -/
def Publication.publish [CJsonPrinter] (p : Publication) (io : PublishIO)
    (behind : List UInt8) : Published :=
  let built := p.builder io
  if built.result < 0 then ⟨built.result, none, built.ops⟩
  else
    match built.outBuff with
    | none => ⟨io.publish, none, built.ops⟩
    | some buffer =>
        ⟨io.publish, pahoMqttPublish (buffer ++ behind),
          built.ops ++ [.use .sendBuffer, .release .sendBuffer]⟩

end SmartBuilding
