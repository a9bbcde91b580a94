import Mathlib.Tactic.Common

/-!
# `SmartBuilding.DataUpload`: the device, environment and threshold records

The three global records of `applications/src/my_data_upload.c`: `my_devices`,
`my_environment` and `my_thresholds`. Every thread of the firmware reads and writes the same
three records, the control loop through pointers and the others through the `Set_Devpro_*`
functions.

An `int` of the source is an `Int32`. A field keeps the source's word for it.
-/

set_option autoImplicit false

namespace SmartBuilding

/-- `Devices_t`: the reported state of each actuator, and the two sensor marks. A sensor mark
is `true` when the sensor works. -/
structure Devices where
  beepState : Bool
  relayState : Bool
  led0State : Bool
  led1State : Bool
  doorState : Bool
  dht11SensorState : Bool
  lightSensorState : Bool
  deriving DecidableEq, Repr

/-- `Environment_t`: the last sensor readings. -/
structure Environment where
  temp : Int32
  humi : Int32
  light : Int32
  smoke : Int32
  deriving DecidableEq, Repr

/-- `Thresholds_t`: the limits that the control loop compares the readings with. -/
structure Thresholds where
  tempLimit : Int32
  humiLimit : Int32
  lightUpLimit : Int32
  lightDownLimit : Int32
  deriving DecidableEq, Repr

/-- The initial value of `my_devices`. -/
def myDevices : Devices where
  beepState := false
  relayState := false
  led0State := false
  led1State := false
  doorState := false
  dht11SensorState := true
  lightSensorState := true

/-- The initial value of `my_environment`. -/
def myEnvironment : Environment where
  temp := 0
  humi := 0
  light := 0
  smoke := 0

/-- The initial value of `my_thresholds`. -/
def myThresholds : Thresholds where
  tempLimit := 50
  humiLimit := 60
  lightUpLimit := 2000
  lightDownLimit := 1250

end SmartBuilding
