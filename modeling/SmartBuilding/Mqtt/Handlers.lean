import SmartBuilding.CJson
import SmartBuilding.MultiThread
import SmartBuilding.PwmCtrlDoor

/-!
# `SmartBuilding.Mqtt.Handlers`: what the message handlers do to the shared state

The effect of the three subscription callbacks of `mqtt_sample.c` on the world:
`mqtt_sync_callback`, `mqtt_dev_control_callback` and `mqtt_thresholds_callback`. The saved
command id and the response are in `SmartBuilding.Mqtt.Response`.

The source reads the four threshold keys in two callbacks with the same text, and the five
actuator keys in two callbacks with the same text. Each of these blocks is one definition
here: `thresholdKeys` and `actuatorKeys`. The two sensor keys of a sync are `sensorKeys`.
-/

set_option autoImplicit false

namespace SmartBuilding

open CText

/-- One key of a handler: `node = cJSON_GetObjectItem(object, name); if (node) { … }`. -/
def onItem (object : Option CJson) (name : String) (f : CJson → World → World) (w : World) :
    World :=
  match getObjectItem object name with
  | some node => f node w
  | none => w

/-- The four threshold keys, in the order of the source. -/
def thresholdKeys (object : Option CJson) (w : World) : World :=
  let w := onItem object "temperature" (fun node => setDevproTempLimit node.valueint) w
  let w := onItem object "humidity" (fun node => setDevproHumiLimit node.valueint) w
  let w := onItem object "lightUpper" (fun node => setDevproLightUpLimit node.valueint) w
  onItem object "lightLower" (fun node => setDevproLightDownLimit node.valueint) w

/-- The five actuator keys, in the order of the source. The key `warningLight` changes the
flag alone, and no pin. -/
def actuatorKeys [TimeoutCalc] (io : TimerIO) (object : Option CJson) (w : World) : World :=
  let w := onItem object "warningLight" (fun node => setDevproLed0State node.isTrue) w
  let w := onItem object "fillLight" (fun node => emergencyLightChange node.isTrue) w
  let w := onItem object "exhaustFan" (fun node => relayChange node.isTrue) w
  let w := onItem object "alarm" (fun node => (beepChange io node.isTrue).exec) w
  onItem object "emergencyDoor" (fun node => myPwmAngleChange node.isTrue 90) w

/-- The two sensor keys of a sync, in the order of the source. -/
def sensorKeys (object : Option CJson) (w : World) : World :=
  let w := onItem object "dht11Status" (fun node => setDevproDht11SensorState node.isTrue) w
  onItem object "lightSensorStatus" (fun node => setDevproLightSensorState node.isTrue) w

/-- The member `device` of a sync message. -/
def syncDevice [CJsonParser] (payload : List UInt8) : Option CJson :=
  getObjectItem (parsePayload payload) "device"

/-- The member `threshold` of a sync message. -/
def syncThreshold [CJsonParser] (payload : List UInt8) : Option CJson :=
  getObjectItem (parsePayload payload) "threshold"

/-- `mqtt_sync_callback`. -/
def mqttSyncCallback [CJsonParser] [TimeoutCalc] (io : TimerIO) (payload : List UInt8)
    (w : World) : World :=
  let threshold := syncThreshold payload
  let device := syncDevice payload
  let w := if threshold.isSome then thresholdKeys threshold w else w
  -- The order of the source: thresholds, actuators, sensors.
  if device.isSome then sensorKeys device (actuatorKeys io device w) else w

/-- The effect of `mqtt_dev_control_callback` on the world. -/
def devControlEffect [CJsonParser] [TimeoutCalc] (io : TimerIO) (payload : List UInt8)
    (w : World) : World :=
  let root := parsePayload payload
  if root.isSome then actuatorKeys io root w else w

/-- The effect of `mqtt_thresholds_callback` on the world. -/
def thresholdsEffect [CJsonParser] (payload : List UInt8) (w : World) : World :=
  let root := parsePayload payload
  if root.isSome then thresholdKeys root w else w

end SmartBuilding
