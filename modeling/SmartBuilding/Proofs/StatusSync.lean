import SmartBuilding.Mqtt.Status
import SmartBuilding.Proofs.Controller

/-!
# `SmartBuilding.Proofs.StatusSync`: a published status comes back in a sync

`mqtt_get_device_status` writes the seven flags as the numbers 1 and 0.
`mqtt_sync_callback` reads the same seven keys, and takes a flag as set when the node has
the type `cJSON_True`. A number node never has it. So a status that comes back in a sync
clears every flag, whatever it said (`sync_of_status`), and gives back the record it was
made from only when all of its flags were clear (`status_sync_iff`).
-/

set_option autoImplicit false

namespace SmartBuilding

open CText

/-- The record with every flag clear. -/
def allClear : Devices where
  beepState := false
  relayState := false
  led0State := false
  led1State := false
  doorState := false
  dht11SensorState := false
  lightSensorState := false

/-- Every actuator key of a published status is read as `false`. -/
theorem request_of_status (d : Devices) :
    Request.ofObject (some (mqttGetDeviceStatus d)) =
      ⟨some false, some false, some false, some false, some false⟩ := rfl

/-- Both sensor keys of a published status are read as `false`. -/
theorem sensorFlags_of_status (d d' : Devices) :
    sensorFlags (some (mqttGetDeviceStatus d)) d' =
      { d' with dht11SensorState := false, lightSensorState := false } := rfl

/-- A sync with a published status clears every flag. -/
theorem sync_of_status [CJsonParser] [TimeoutCalc] (io : TimerIO) (payload : List UInt8)
    (d : Devices) (w : World) (h : syncDevice payload = some (mqttGetDeviceStatus d)) :
    (mqttSyncCallback io payload w).devices = allClear := by
  -- No key of the status has the value `true`, so the record before does not matter.
  rw [mqttSyncCallback_eq, sensorKeys_eq, h, sensorFlags_of_status, request_of_status]
  rfl

/-- A sync with the status that was published for `d` gives back `d` exactly when every flag
of `d` is clear. -/
theorem status_sync_iff [CJsonParser] [TimeoutCalc] (io : TimerIO) (payload : List UInt8)
    (d : Devices) (w : World) (h : syncDevice payload = some (mqttGetDeviceStatus d)) :
    (mqttSyncCallback io payload w).devices = d ↔ d = allClear := by
  rw [sync_of_status io payload d w h]
  exact eq_comm

/-- The sync message for the clear record. -/
def clearSyncText : String :=
  "\x7b\"device\":\x7b\"warningLight\":0,\"fillLight\":0,\"exhaustFan\":0," ++
    "\"alarm\":0,\"emergencyDoor\":0,\"dht11Status\":0," ++
    "\"lightSensorStatus\":0\x7d\x7d"

/-- The sync message for the record with the warning light on. -/
def ledSyncText : String :=
  "\x7b\"device\":\x7b\"warningLight\":1,\"fillLight\":0,\"exhaustFan\":0," ++
    "\"alarm\":0,\"emergencyDoor\":0,\"dht11Status\":0," ++
    "\"lightSensorStatus\":0\x7d\x7d"

/-- The sync message with the status of `d`, on a parser that knows its text. -/
abbrev statusSyncParser (text : String) (d : Devices) : CJsonParser :=
  .table [(text, .object [(ofText "device", mqttGetDeviceStatus d)])]

private theorem syncDevice_statusSync (text : String) (d : Devices) :
    @syncDevice (statusSyncParser text d) (ofText text) = some (mqttGetDeviceStatus d) := by
  unfold syncDevice
  rw [parsePayload_table]
  rfl

/-- The clear record comes back. -/
theorem status_sync_clear :
    (@mqttSyncCallback (statusSyncParser clearSyncText allClear) .board .ok
      (ofText clearSyncText) (boot ⟨.low, .low, .low, .low⟩)).devices = allClear ↔
    allClear = allClear :=
  @status_sync_iff (statusSyncParser clearSyncText allClear) .board .ok
    (ofText clearSyncText) allClear (boot ⟨.low, .low, .low, .low⟩)
    (syncDevice_statusSync clearSyncText allClear)

/-- The record with the warning light on comes back with the light off. -/
theorem status_sync_loses_light :
    ¬ (@mqttSyncCallback (statusSyncParser ledSyncText { allClear with led0State := true })
      .board .ok (ofText ledSyncText) (boot ⟨.low, .low, .low, .low⟩)).devices =
      { allClear with led0State := true } := by
  rw [@sync_of_status (statusSyncParser ledSyncText { allClear with led0State := true }) .board
    _ _ _ _ (syncDevice_statusSync ledSyncText _)]
  decide

end SmartBuilding
