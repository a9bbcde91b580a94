import SmartBuilding.AutoControl
import SmartBuilding.Proofs.Actuators

/-!
# `SmartBuilding.Proofs.AutoControl`: what one iteration of the control loop can do

Each channel either acts or stays quiet. The lemmas `…_cases` list what a channel can do,
with the guard of each case, so that later proofs do not unfold the channels. A quiet
channel also says why it is quiet: no limit is passed in the direction that its flags look
at.

`iteration_preserves` is the rule for an invariant of the whole iteration. It asks what each
channel preserves.
-/

set_option autoImplicit false

namespace SmartBuilding

/-- Start or end the emergency response: the alarm, and then the door. -/
def emergencyChange [TimeoutCalc] (io : TimerIO) (state : Bool) (w : World) : World :=
  myPwmAngleChange state 90 ((beepChange io state).exec w)

/-- The world after the emergency response starts or ends. -/
theorem emergencyChange_eq [TimeoutCalc] (io : TimerIO) (state : Bool) (w : World) :
    emergencyChange io state w =
      { w with
          devices := { w.devices with
            led0State := state, beepState := state, doorState := state }
          pins := if state then w.pins else { w.pins with led0 := .high, beep := .low }
          timer := if state then w.timer.afterOpen io else w.timer.afterClose
          angle := nextAngle state w.angle
          servo := servoAngle (nextAngle state w.angle) } := by
  unfold emergencyChange
  rw [myPwmAngleChange_eq, exec_beepChange]

/-- The temperature channel starts the response, ends it, or stays quiet. -/
theorem temperatureChannel_cases [TimeoutCalc] (io : TimerIO) (w : World) :
    (w.devices.beepState = false ∧ w.devices.doorState = false ∧
      w.environment.temp > w.thresholds.tempLimit ∧
      temperatureChannel io w = (emergencyChange io true w,
        [.alarm .temperatureTooHigh w.environment.temp w.thresholds.tempLimit,
          .deviceStatus (emergencyChange io true w).devices])) ∨
    (w.devices.beepState = true ∧ w.devices.doorState = true ∧
      w.environment.temp < w.thresholds.tempLimit ∧
      temperatureChannel io w = (emergencyChange io false w,
        [.alarm .temperatureBackNormal w.environment.temp w.thresholds.tempLimit,
          .deviceStatus (emergencyChange io false w).devices])) ∨
    ((w.devices.beepState = false → w.devices.doorState = false →
        ¬ w.environment.temp > w.thresholds.tempLimit) ∧
      (w.devices.beepState = true → w.devices.doorState = true →
        ¬ w.environment.temp < w.thresholds.tempLimit) ∧
      temperatureChannel io w = (w, [])) := by
  unfold temperatureChannel emergencyChange
  cases hb : w.devices.beepState <;> cases hd : w.devices.doorState
  · -- Both off: only the upper limit matters.
    by_cases ht : w.environment.temp > w.thresholds.tempLimit <;> simp [ht]
  · simp
  · simp
  · -- Both on: only the way back below the limit matters.
    by_cases ht : w.environment.temp < w.thresholds.tempLimit <;> simp [ht]

/-- The humidity channel starts the relay, stops it, or stays quiet. -/
theorem humidityChannel_cases (w : World) :
    (w.devices.relayState = false ∧ w.environment.humi > w.thresholds.humiLimit ∧
      humidityChannel w = (relayChange true w,
        [.alarm .humidityTooHigh w.environment.humi w.thresholds.humiLimit,
          .deviceStatus (relayChange true w).devices])) ∨
    (w.devices.relayState = true ∧ w.environment.humi < w.thresholds.humiLimit ∧
      humidityChannel w = (relayChange false w,
        [.alarm .humidityBackNormal w.environment.humi w.thresholds.humiLimit,
          .deviceStatus (relayChange false w).devices])) ∨
    ((w.devices.relayState = false → ¬ w.environment.humi > w.thresholds.humiLimit) ∧
      (w.devices.relayState = true → ¬ w.environment.humi < w.thresholds.humiLimit) ∧
      humidityChannel w = (w, [])) := by
  unfold humidityChannel
  cases hr : w.devices.relayState
  · by_cases hh : w.environment.humi > w.thresholds.humiLimit <;> simp [hh]
  · by_cases hh : w.environment.humi < w.thresholds.humiLimit <;> simp [hh]

/-- The light channel turns the emergency light on, turns it off, or stays quiet. -/
theorem lightChannel_cases (w : World) :
    (w.devices.led1State = false ∧ w.environment.light < w.thresholds.lightDownLimit ∧
      lightChannel w = (emergencyLightChange true w,
        [.alarm .lightTooWeak w.environment.light w.thresholds.lightDownLimit,
          .deviceStatus (emergencyLightChange true w).devices])) ∨
    (w.devices.led1State = true ∧ w.environment.light > w.thresholds.lightUpLimit ∧
      lightChannel w = (emergencyLightChange false w,
        [.alarm .lightTooStrong w.environment.light w.thresholds.lightUpLimit,
          .deviceStatus (emergencyLightChange false w).devices])) ∨
    ((w.devices.led1State = false → ¬ w.environment.light < w.thresholds.lightDownLimit) ∧
      (w.devices.led1State = true → ¬ w.environment.light > w.thresholds.lightUpLimit) ∧
      lightChannel w = (w, [])) := by
  unfold lightChannel
  cases hl : w.devices.led1State
  · by_cases hh : w.environment.light < w.thresholds.lightDownLimit <;> simp [hh]
  · by_cases hh : w.environment.light > w.thresholds.lightUpLimit <;> simp [hh]

/-! ### The whole iteration -/

/-- An iteration preserves what each of its channels preserves. -/
theorem iteration_preserves [TimeoutCalc] (io : TimerIO) (P : World → Prop)
    (htemp : ∀ w, P w → P (temperatureChannel io w).1)
    (hhumi : ∀ w, P w → P (humidityChannel w).1)
    (hlight : ∀ w, P w → P (lightChannel w).1) (w : World) (h : P w) :
    P (myAutoControlIteration io w).1 := by
  -- The channels run one after the other, each behind its sensor mark.
  have hdht : P (dht11Channels io w).1 := by
    unfold dht11Channels
    split
    · exact hhumi _ (htemp w h)
    · exact h
  show P (lightSensorChannel (dht11Channels io w).1).1
  unfold lightSensorChannel
  split
  · exact hlight _ hdht
  · exact hdht

/-- An iteration preserves what the actuations of its channels preserve. -/
theorem iteration_preserves_of_actuators [TimeoutCalc] (io : TimerIO) (P : World → Prop)
    (hemergency : ∀ w state, w.devices.beepState = !state → w.devices.doorState = !state →
      P w → P (emergencyChange io state w))
    (hrelay : ∀ w state, P w → P (relayChange state w))
    (hled1 : ∀ w state, P w → P (emergencyLightChange state w)) (w : World) (h : P w) :
    P (myAutoControlIteration io w).1 := by
  refine iteration_preserves io P ?_ ?_ ?_ w h
  · intro w h
    obtain ⟨hb, hd, -, heq⟩ | ⟨hb, hd, -, heq⟩ | ⟨-, -, heq⟩ := temperatureChannel_cases io w
    · rw [heq]; exact hemergency w true hb hd h
    · rw [heq]; exact hemergency w false hb hd h
    · rw [heq]; exact h
  · intro w h
    obtain ⟨-, -, heq⟩ | ⟨-, -, heq⟩ | ⟨-, -, heq⟩ := humidityChannel_cases w
    · rw [heq]; exact hrelay w true h
    · rw [heq]; exact hrelay w false h
    · rw [heq]; exact h
  · intro w h
    obtain ⟨-, -, heq⟩ | ⟨-, -, heq⟩ | ⟨-, -, heq⟩ := lightChannel_cases w
    · rw [heq]; exact hled1 w true h
    · rw [heq]; exact hled1 w false h
    · rw [heq]; exact h

/-- The light channel leaves the flags of the alarm, the door and the relay alone. -/
theorem lightSensorChannel_devices (w : World) :
    (lightSensorChannel w).1.devices.beepState = w.devices.beepState ∧
    (lightSensorChannel w).1.devices.doorState = w.devices.doorState ∧
    (lightSensorChannel w).1.devices.relayState = w.devices.relayState := by
  unfold lightSensorChannel
  split
  · obtain ⟨-, -, heq⟩ | ⟨-, -, heq⟩ | ⟨-, -, heq⟩ := lightChannel_cases w <;>
      simp [heq, emergencyLightChange_eq]
  · simp

/-- The humidity channel leaves the flags of the alarm and the door alone. -/
theorem humidityChannel_devices (w : World) :
    (humidityChannel w).1.devices.beepState = w.devices.beepState ∧
    (humidityChannel w).1.devices.doorState = w.devices.doorState := by
  obtain ⟨-, -, heq⟩ | ⟨-, -, heq⟩ | ⟨-, -, heq⟩ := humidityChannel_cases w <;>
    simp [heq, relayChange_eq]

/-- The temperature channel leaves the humidity, its limit and the relay flag alone. -/
theorem temperatureChannel_frame [TimeoutCalc] (io : TimerIO) (w : World) :
    (temperatureChannel io w).1.environment = w.environment ∧
    (temperatureChannel io w).1.thresholds = w.thresholds ∧
    (temperatureChannel io w).1.devices.relayState = w.devices.relayState := by
  obtain ⟨-, -, -, heq⟩ | ⟨-, -, -, heq⟩ | ⟨-, -, heq⟩ := temperatureChannel_cases io w <;>
    simp [heq, emergencyChange_eq]

end SmartBuilding
