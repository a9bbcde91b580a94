import SmartBuilding.CJson
import SmartBuilding.DataUpload

/-!
# `SmartBuilding.Mqtt.Status`: the published device status

The object that `mqtt_get_device_status` builds for `Publish_Device_Status`, when every
allocation succeeds. The source adds the seven flags with `cJSON_AddNumberToObject`, so each
of them is a number node with the value 1 or 0. The timestamp is a null pointer, and
`cJSON_AddStringToObject` adds no member for it.
-/

set_option autoImplicit false

namespace SmartBuilding

open CText

/-- `cJSON_CreateNumber` of a `bool`. -/
def numberOfBool (b : Bool) : CJson := .int (if b then 1 else 0)

/-- The object of `mqtt_get_device_status`. -/
def mqttGetDeviceStatus (devData : Devices) : CJson :=
  .object [
    (ofText "warningLight", numberOfBool devData.led0State),
    (ofText "fillLight", numberOfBool devData.led1State),
    (ofText "exhaustFan", numberOfBool devData.relayState),
    (ofText "alarm", numberOfBool devData.beepState),
    (ofText "emergencyDoor", numberOfBool devData.doorState),
    (ofText "dht11Status", numberOfBool devData.dht11SensorState),
    (ofText "lightSensorStatus", numberOfBool devData.lightSensorState)]

end SmartBuilding
