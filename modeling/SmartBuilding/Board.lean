import SmartBuilding.DataUpload
import SmartBuilding.HwTimer

/-!
# `SmartBuilding.Board`: the shared state of the firmware

`World` is the state that the threads, the message handlers and the interrupts of the
firmware share: the three records of `my_data_upload.c`, the output pins, the alarm timer,
the door servo, and the two limits that only the TCP console writes.

The setters have the names of the functions in `my_data_upload.c`.
-/

set_option autoImplicit false

namespace SmartBuilding

/-- The level of a pin: `PIN_LOW` or `PIN_HIGH`. -/
inductive Level where
  | low
  | high
  deriving DecidableEq, Repr

/-- `1 - rt_pin_read(pin)`. -/
def Level.toggle : Level → Level
  | .low => .high
  | .high => .low

/-- The output pins `LED0_PIN`, `LED1_PIN`, `BEEP_PIN` and `Relay_PIN`. -/
structure Pins where
  led0 : Level
  led1 : Level
  beep : Level
  relay : Level
  deriving DecidableEq, Repr

/-- The shared state of the firmware. `angle` is the global of `my_pwm_ctrl_door.c`, and
`servo` is the angle of the last pulse that the servo got. `tempLimit` is `temp_limit` of
`my_dht11.c`, and `lightLimit` is `light_limit` of `my_adc.c`. -/
structure World where
  devices : Devices
  environment : Environment
  thresholds : Thresholds
  pins : Pins
  timer : TimerSys
  angle : UInt8
  servo : UInt8
  tempLimit : UInt8
  lightLimit : UInt32
  deriving DecidableEq, Repr

/-- Change the device flags. -/
def World.setDevices (w : World) (f : Devices → Devices) : World :=
  { w with devices := f w.devices }

/-- Change the thresholds. -/
def World.setThresholds (w : World) (f : Thresholds → Thresholds) : World :=
  { w with thresholds := f w.thresholds }

/-- Change the environment readings. -/
def World.setEnvironment (w : World) (f : Environment → Environment) : World :=
  { w with environment := f w.environment }

/-- Change the pins. -/
def World.setPins (w : World) (f : Pins → Pins) : World :=
  { w with pins := f w.pins }

/-! ### The setters of `my_data_upload.c` -/

/-- `Set_Devpro_BeepState`. -/
def setDevproBeepState (state : Bool) (w : World) : World :=
  w.setDevices fun d => { d with beepState := state }

/-- `Set_Devpro_RelayState`. -/
def setDevproRelayState (state : Bool) (w : World) : World :=
  w.setDevices fun d => { d with relayState := state }

/-- `Set_Devpro_LED0State`. -/
def setDevproLed0State (state : Bool) (w : World) : World :=
  w.setDevices fun d => { d with led0State := state }

/-- `Set_Devpro_LED1State`. -/
def setDevproLed1State (state : Bool) (w : World) : World :=
  w.setDevices fun d => { d with led1State := state }

/-- `Set_Devpro_DoorState`. -/
def setDevproDoorState (state : Bool) (w : World) : World :=
  w.setDevices fun d => { d with doorState := state }

/-- `Set_Devpro_DHT11_Sensor_State`. -/
def setDevproDht11SensorState (state : Bool) (w : World) : World :=
  w.setDevices fun d => { d with dht11SensorState := state }

/-- `Set_Devpro_Light_Sensor_State`. -/
def setDevproLightSensorState (state : Bool) (w : World) : World :=
  w.setDevices fun d => { d with lightSensorState := state }

/-- `Set_Devpro_Temp_Limit`. -/
def setDevproTempLimit (limit : Int32) (w : World) : World :=
  w.setThresholds fun t => { t with tempLimit := limit }

/-- `Set_Devpro_Humi_Limit`. -/
def setDevproHumiLimit (limit : Int32) (w : World) : World :=
  w.setThresholds fun t => { t with humiLimit := limit }

/-- `Set_Devpro_Light_Up_Limit`. -/
def setDevproLightUpLimit (limit : Int32) (w : World) : World :=
  w.setThresholds fun t => { t with lightUpLimit := limit }

/-- `Set_Devpro_Light_Down_Limit`. -/
def setDevproLightDownLimit (limit : Int32) (w : World) : World :=
  w.setThresholds fun t => { t with lightDownLimit := limit }

/-- `Set_Devpro_temp`. -/
def setDevproTemp (temp : Int32) (w : World) : World :=
  w.setEnvironment fun e => { e with temp := temp }

/-- `Set_Devpro_humi`. -/
def setDevproHumi (humi : Int32) (w : World) : World :=
  w.setEnvironment fun e => { e with humi := humi }

/-- `Set_Devpro_light`. -/
def setDevproLight (light : Int32) (w : World) : World :=
  w.setEnvironment fun e => { e with light := light }

/-- `Set_Devpro_smoke`. -/
def setDevproSmoke (smoke : Int32) (w : World) : World :=
  w.setEnvironment fun e => { e with smoke := smoke }

end SmartBuilding
