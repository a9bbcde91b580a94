import SmartBuilding.MultiThread
import SmartBuilding.PwmCtrlDoor

/-!
# `SmartBuilding.AutoControl`: the control loop

One iteration of the loop of `my_auto_control_entry`, in the file
`applications/src/my_auto_control.c`. The loop reads the flags, the readings and the limits
through pointers to the shared records, so each channel reads the world that the channel
before it left. An iteration also gives the messages that it hands to `Publish_Alarm_Info`
and to `Publish_Device_Status`, in order.

The read of the smoke sensor's digital pin is left out: nothing uses its value.
-/

set_option autoImplicit false

namespace SmartBuilding

/-- The alarm types of `my_auto_control.h`. -/
inductive AlarmType where
  | temperatureTooHigh
  | temperatureBackNormal
  | humidityTooHigh
  | humidityBackNormal
  | lightTooStrong
  | lightTooWeak
  deriving DecidableEq, Repr

/-- A message that the control loop hands to a publisher: an alarm with the reading and the
limit, or the device flags. -/
inductive Report where
  | alarm (alarmType : AlarmType) (environmentData thresholdsData : Int32)
  | deviceStatus (devData : Devices)
  deriving DecidableEq, Repr

/-- The world after a channel, and the reports of the channel. -/
abbrev Channel := World × List Report

/-- The temperature block: the buzzer and the door. -/
def temperatureChannel [TimeoutCalc] (io : TimerIO) (w : World) : Channel :=
  let temp := w.environment.temp
  let limit := w.thresholds.tempLimit
  if !w.devices.beepState && !w.devices.doorState then
    if temp > limit then
      let w' := myPwmAngleChange true 90 ((beepChange io true).exec w)
      (w', [.alarm .temperatureTooHigh temp limit, .deviceStatus w'.devices])
    else
      (w, [])
  -- The two mixed states of the alarm and the door have no branch of their own.
  else if w.devices.beepState && w.devices.doorState then
    if temp < limit then
      let w' := myPwmAngleChange false 90 ((beepChange io false).exec w)
      (w', [.alarm .temperatureBackNormal temp limit, .deviceStatus w'.devices])
    else
      (w, [])
  else
    (w, [])

/-- The humidity block: the relay. -/
def humidityChannel (w : World) : Channel :=
  let humi := w.environment.humi
  let limit := w.thresholds.humiLimit
  if !w.devices.relayState then
    if humi > limit then
      let w' := relayChange true w
      (w', [.alarm .humidityTooHigh humi limit, .deviceStatus w'.devices])
    else
      (w, [])
  else
    if humi < limit then
      let w' := relayChange false w
      (w', [.alarm .humidityBackNormal humi limit, .deviceStatus w'.devices])
    else
      (w, [])

/-- The light block: the emergency light. -/
def lightChannel (w : World) : Channel :=
  let light := w.environment.light
  if !w.devices.led1State then
    if light < w.thresholds.lightDownLimit then
      let w' := emergencyLightChange true w
      (w', [.alarm .lightTooWeak light w.thresholds.lightDownLimit,
        .deviceStatus w'.devices])
    else
      (w, [])
  else
    if light > w.thresholds.lightUpLimit then
      let w' := emergencyLightChange false w
      (w', [.alarm .lightTooStrong light w.thresholds.lightUpLimit,
        .deviceStatus w'.devices])
    else
      (w, [])

/-- The two channels of the DHT11 sensor. -/
def dht11Channels [TimeoutCalc] (io : TimerIO) (w : World) : Channel :=
  if w.devices.dht11SensorState then
    let t := temperatureChannel io w
    -- The humidity block reads the flags that the temperature block left.
    let h := humidityChannel t.1
    (h.1, t.2 ++ h.2)
  else
    (w, [])

/-- The channel of the light sensor. -/
def lightSensorChannel (w : World) : Channel :=
  if w.devices.lightSensorState then lightChannel w else (w, [])

/-- One iteration of the loop of `my_auto_control_entry`. -/
def myAutoControlIteration [TimeoutCalc] (io : TimerIO) (w : World) : Channel :=
  let d := dht11Channels io w
  let l := lightSensorChannel d.1
  (l.1, d.2 ++ l.2)

end SmartBuilding
