import SmartBuilding.Mqtt.Handlers
import SmartBuilding.Proofs.Actuators

/-!
# `SmartBuilding.Proofs.Handlers`: the message handlers in closed form

`Request` is what a message asks of the actuators: for each of the five keys the requested
state, or `none` when the key is absent. `Limits` is the same for the four threshold keys.
`actuatorKeys_eq` and `thresholdKeys_eq` give the world after a handler block in one step.

Two facts show in `Request.apply`. A message with both `warningLight` and `alarm` leaves the
warning light flag at the value of `alarm`, because the alarm is the later key and writes
that flag too. And `warningLight` alone never reaches a pin.
-/

set_option autoImplicit false

namespace SmartBuilding

/-- The state that a key requests: whether its value is `true`. -/
def flagKey (object : Option CJson) (name : String) : Option Bool :=
  (getObjectItem object name).map CJson.isTrue

/-- The limit that a key requests: the `valueint` of its value. -/
def numberKey (object : Option CJson) (name : String) : Option Int32 :=
  (getObjectItem object name).map CJson.valueint

/-! ### Actuator keys -/

/-- What a message asks of the actuators. -/
structure Request where
  warningLight : Option Bool
  fillLight : Option Bool
  exhaustFan : Option Bool
  alarm : Option Bool
  emergencyDoor : Option Bool

/-- The request of the object with the actuator keys. -/
def Request.ofObject (object : Option CJson) : Request where
  warningLight := flagKey object "warningLight"
  fillLight := flagKey object "fillLight"
  exhaustFan := flagKey object "exhaustFan"
  alarm := flagKey object "alarm"
  emergencyDoor := flagKey object "emergencyDoor"

/-- The device flags after a request. -/
def Request.devices (r : Request) (d : Devices) : Devices :=
  { d with
      led0State := r.alarm.getD (r.warningLight.getD d.led0State)
      led1State := r.fillLight.getD d.led1State
      relayState := r.exhaustFan.getD d.relayState
      beepState := r.alarm.getD d.beepState
      doorState := r.emergencyDoor.getD d.doorState }

/-- The pins after a request. -/
def Request.pins (r : Request) (p : Pins) : Pins where
  led0 := if r.alarm = some false then .high else p.led0
  led1 := (r.fillLight.map led1Level).getD p.led1
  beep := if r.alarm = some false then .low else p.beep
  relay := (r.exhaustFan.map relayLevel).getD p.relay

/-- The timer after a request. -/
def Request.timer [TimeoutCalc] (io : TimerIO) (r : Request) (t : TimerSys) : TimerSys :=
  match r.alarm with
  | none => t
  | some true => t.afterOpen io
  | some false => t.afterClose

/-- The angle of the door after a request. -/
def Request.angle (r : Request) (angle : UInt8) : UInt8 :=
  match r.emergencyDoor with
  | none => angle
  | some direction => nextAngle direction angle

/-- The angle of the servo after a request. -/
def Request.servo (r : Request) (angle servo : UInt8) : UInt8 :=
  match r.emergencyDoor with
  | none => servo
  | some direction => servoAngle (nextAngle direction angle)

/-- The world after a request. -/
def Request.apply [TimeoutCalc] (io : TimerIO) (r : Request) (w : World) : World :=
  { w with
      devices := r.devices w.devices
      pins := r.pins w.pins
      timer := r.timer io w.timer
      angle := r.angle w.angle
      servo := r.servo w.angle w.servo }

section
variable (object : Option CJson) (w : World)

private theorem onItem_warningLight :
    onItem object "warningLight" (fun node => setDevproLed0State node.isTrue) w =
      { w with devices := { w.devices with
          led0State := (flagKey object "warningLight").getD w.devices.led0State } } := by
  unfold onItem flagKey
  cases getObjectItem object "warningLight" <;> rfl

private theorem onItem_fillLight :
    onItem object "fillLight" (fun node => emergencyLightChange node.isTrue) w =
      { w with
          devices := { w.devices with
            led1State := (flagKey object "fillLight").getD w.devices.led1State }
          pins := { w.pins with
            led1 := ((flagKey object "fillLight").map led1Level).getD w.pins.led1 } } := by
  unfold onItem flagKey
  cases getObjectItem object "fillLight" with
  | none => rfl
  | some node => exact emergencyLightChange_eq node.isTrue w

private theorem onItem_exhaustFan :
    onItem object "exhaustFan" (fun node => relayChange node.isTrue) w =
      { w with
          devices := { w.devices with
            relayState := (flagKey object "exhaustFan").getD w.devices.relayState }
          pins := { w.pins with
            relay := ((flagKey object "exhaustFan").map relayLevel).getD w.pins.relay } } := by
  unfold onItem flagKey
  cases getObjectItem object "exhaustFan" with
  | none => rfl
  | some node => exact relayChange_eq node.isTrue w

private theorem onItem_alarm [TimeoutCalc] (io : TimerIO) :
    onItem object "alarm" (fun node => (beepChange io node.isTrue).exec) w =
      { w with
          devices := { w.devices with
            led0State := (flagKey object "alarm").getD w.devices.led0State
            beepState := (flagKey object "alarm").getD w.devices.beepState }
          pins := { w.pins with
            led0 := if flagKey object "alarm" = some false then .high else w.pins.led0
            beep := if flagKey object "alarm" = some false then .low else w.pins.beep }
          timer :=
            match flagKey object "alarm" with
            | none => w.timer
            | some true => w.timer.afterOpen io
            | some false => w.timer.afterClose } := by
  unfold onItem flagKey
  cases getObjectItem object "alarm" with
  | none => rfl
  | some node =>
    simp only [exec_beepChange]
    cases h : node.isTrue <;> simp [h]

private theorem onItem_emergencyDoor :
    onItem object "emergencyDoor" (fun node => myPwmAngleChange node.isTrue 90) w =
      { w with
          devices := { w.devices with
            doorState := (flagKey object "emergencyDoor").getD w.devices.doorState }
          angle :=
            match flagKey object "emergencyDoor" with
            | none => w.angle
            | some direction => nextAngle direction w.angle
          servo :=
            match flagKey object "emergencyDoor" with
            | none => w.servo
            | some direction => servoAngle (nextAngle direction w.angle) } := by
  unfold onItem flagKey
  cases getObjectItem object "emergencyDoor" with
  | none => rfl
  | some node => exact myPwmAngleChange_eq node.isTrue w

/-- The five actuator keys of a handler do what the request asks. -/
theorem actuatorKeys_eq [TimeoutCalc] (io : TimerIO) :
    actuatorKeys io object w = (Request.ofObject object).apply io w := by
  unfold actuatorKeys
  -- Each key changes its own fields. The alarm key comes later and overwrites LED0.
  simp only [onItem_warningLight, onItem_fillLight, onItem_exhaustFan, onItem_alarm,
    onItem_emergencyDoor]
  rfl

end

/-! ### Threshold keys -/

/-- What a message asks of the limits. -/
structure Limits where
  temperature : Option Int32
  humidity : Option Int32
  lightUpper : Option Int32
  lightLower : Option Int32

/-- The limits of the object with the threshold keys. -/
def Limits.ofObject (object : Option CJson) : Limits where
  temperature := numberKey object "temperature"
  humidity := numberKey object "humidity"
  lightUpper := numberKey object "lightUpper"
  lightLower := numberKey object "lightLower"

/-- The thresholds after a message. -/
def Limits.thresholds (l : Limits) (t : Thresholds) : Thresholds where
  tempLimit := l.temperature.getD t.tempLimit
  humiLimit := l.humidity.getD t.humiLimit
  lightUpLimit := l.lightUpper.getD t.lightUpLimit
  lightDownLimit := l.lightLower.getD t.lightDownLimit

/-- A threshold key changes its limit. -/
private theorem onItem_limit (object : Option CJson) (name : String) (w : World)
    (set : Int32 → Thresholds → Thresholds) (get : Thresholds → Int32)
    (hset : ∀ t, set (get t) t = t) :
    onItem object name (fun node w => w.setThresholds (set node.valueint)) w =
      { w with
          thresholds :=
            set ((numberKey object name).getD (get w.thresholds)) w.thresholds } := by
  unfold onItem numberKey
  cases getObjectItem object name with
  | none => simp [hset]
  | some node => rfl

/-- The four threshold keys of a handler set the limits that the message asks for. -/
theorem thresholdKeys_eq (object : Option CJson) (w : World) :
    thresholdKeys object w =
      { w with thresholds := (Limits.ofObject object).thresholds w.thresholds } := by
  -- The four keys are instances of one lemma, with the setter of each limit.
  have htemp := fun w => onItem_limit object "temperature" w
    (fun n t => { t with tempLimit := n }) (·.tempLimit) (fun _ => rfl)
  have hhumi := fun w => onItem_limit object "humidity" w
    (fun n t => { t with humiLimit := n }) (·.humiLimit) (fun _ => rfl)
  have hup := fun w => onItem_limit object "lightUpper" w
    (fun n t => { t with lightUpLimit := n }) (·.lightUpLimit) (fun _ => rfl)
  have hdown := fun w => onItem_limit object "lightLower" w
    (fun n t => { t with lightDownLimit := n }) (·.lightDownLimit) (fun _ => rfl)
  unfold thresholdKeys setDevproTempLimit setDevproHumiLimit setDevproLightUpLimit
    setDevproLightDownLimit
  rw [hdown, hup, hhumi, htemp]
  rfl

/-! ### Sensor keys and whole handlers -/

/-- The device flags after the two sensor keys of a sync. -/
def sensorFlags (object : Option CJson) (d : Devices) : Devices :=
  { d with
      dht11SensorState := (flagKey object "dht11Status").getD d.dht11SensorState
      lightSensorState := (flagKey object "lightSensorStatus").getD d.lightSensorState }

theorem sensorKeys_eq (object : Option CJson) (w : World) :
    sensorKeys object w = { w with devices := sensorFlags object w.devices } := by
  unfold sensorKeys onItem sensorFlags flagKey
  cases getObjectItem object "dht11Status" <;>
    cases getObjectItem object "lightSensorStatus" <;> rfl

/-- The world after `mqtt_dev_control_callback`. -/
theorem devControlEffect_eq [CJsonParser] [TimeoutCalc] (io : TimerIO)
    (payload : List UInt8) (w : World) :
    devControlEffect io payload w =
      (Request.ofObject (parsePayload payload)).apply io w := by
  unfold devControlEffect
  cases h : parsePayload payload with
  | none => rfl
  | some root => exact actuatorKeys_eq (some root) w io

/-- The world after `mqtt_thresholds_callback`. -/
theorem thresholdsEffect_eq [CJsonParser] (payload : List UInt8) (w : World) :
    thresholdsEffect payload w =
      { w with
          thresholds := (Limits.ofObject (parsePayload payload)).thresholds w.thresholds } := by
  unfold thresholdsEffect
  cases h : parsePayload payload with
  | none => rfl
  | some root => exact thresholdKeys_eq (some root) w

/-- The world after `mqtt_sync_callback`. -/
theorem mqttSyncCallback_eq [CJsonParser] [TimeoutCalc] (io : TimerIO)
    (payload : List UInt8) (w : World) :
    mqttSyncCallback io payload w =
      sensorKeys (syncDevice payload) ((Request.ofObject (syncDevice payload)).apply io
        { w with
            thresholds := (Limits.ofObject (syncThreshold payload)).thresholds
              w.thresholds }) := by
  unfold mqttSyncCallback
  cases ht : syncThreshold payload <;> cases hd : syncDevice payload <;>
    simp only [Option.isSome_none, Option.isSome_some, thresholdKeys_eq, actuatorKeys_eq] <;>
    rfl

end SmartBuilding
