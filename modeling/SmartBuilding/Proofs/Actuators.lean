import SmartBuilding.MultiThread
import SmartBuilding.PwmCtrlDoor

/-!
# `SmartBuilding.Proofs.Actuators`: what each actuator changes

One equation for each actuator function, and what it says about the parts of the world. The
proofs of the later modules use these lemmas and do not unfold the actuators.

`beepChange` is a program. `exec_beepChange` gives the world after it, when no interrupt
occurs: the timer changes by the program of `my_hwtimer.c`, a call with `false` also writes
the two pins of the alarm, and both flags get the requested state.
-/

set_option autoImplicit false

namespace SmartBuilding

/-- The timer after `my_hwtimer_openTimer`. -/
def TimerSys.afterOpen [TimeoutCalc] (io : TimerIO) (t : TimerSys) : TimerSys :=
  (myHwtimerOpenTimer io).exec t

/-- The timer after `my_hwtimer_closeTimer`. -/
def TimerSys.afterClose (t : TimerSys) : TimerSys := myHwtimerCloseTimer.exec t

/-- The run of a timer program in the world changes the timer alone. -/
theorem run_onTimer {α : Type} (p : Prog TimerSys α) (w : World) :
    (onTimer p).run w = ((p.run w.timer).1, { w with timer := (p.run w.timer).2 }) :=
  -- The timer is a field of the world, so reading and writing it is a lens.
  Prog.run_zoom World.timer World.putTimer (fun _ _ => rfl) (fun _ _ _ => rfl)
    (fun _ => rfl) p w

/-- The world after `beep_change`. -/
theorem exec_beepChange [TimeoutCalc] (io : TimerIO) (state : Bool) (w : World) :
    (beepChange io state).exec w =
      { w with
          devices := { w.devices with led0State := state, beepState := state }
          pins := if state then w.pins else { w.pins with led0 := .high, beep := .low }
          timer := if state then w.timer.afterOpen io else w.timer.afterClose } := by
  cases state <;>
    simp [beepChange, Prog.exec, run_onTimer, World.setPins, World.setDevices,
      setDevproLed0State, setDevproBeepState, TimerSys.afterOpen, TimerSys.afterClose]

/-! ### The relay and the emergency light -/

section
variable (state : Bool) (w : World)

/-- The level of the relay pin for a requested state. -/
def relayLevel (state : Bool) : Level := if state then .high else .low

/-- The level of the LED1 pin for a requested state. -/
def led1Level (state : Bool) : Level := if state then .low else .high

/-- The world after `relay_change`. -/
theorem relayChange_eq :
    relayChange state w =
      { w with
          devices := { w.devices with relayState := state }
          pins := { w.pins with relay := relayLevel state } } := by
  cases state <;> rfl

/-- The world after `emergency_light_change`. -/
theorem emergencyLightChange_eq :
    emergencyLightChange state w =
      { w with
          devices := { w.devices with led1State := state }
          pins := { w.pins with led1 := led1Level state } } := by
  cases state <;> rfl

end

/-! ### The door -/

/-- The angle after `my_pwm_angle_change` with the step of 90 that every caller uses. -/
def nextAngle (direction : Bool) (angle : UInt8) : UInt8 :=
  if direction then
    if angle < 180 then angle + 90 else angle
  else
    if angle > 0 then angle - 90 else angle

/-- The angle that `my_pwm_set_angle` gives to the servo. -/
def servoAngle (angle : UInt8) : UInt8 :=
  let angle := if angle ≤ 0 then 5 else angle
  if angle ≥ 180 then 170 else angle

/-- The world after `my_pwm_angle_change`. -/
theorem myPwmAngleChange_eq (direction : Bool) (w : World) :
    myPwmAngleChange direction 90 w =
      { w with
          devices := { w.devices with doorState := direction }
          angle := nextAngle direction w.angle
          servo := servoAngle (nextAngle direction w.angle) } := by
  cases direction
  · by_cases h : w.angle > 0 <;>
      simp [myPwmAngleChange, myPwmSetAngle, nextAngle, servoAngle, setDevproDoorState,
        World.setDevices, h]
  · by_cases h : w.angle < 180 <;>
      simp [myPwmAngleChange, myPwmSetAngle, nextAngle, servoAngle, setDevproDoorState,
        World.setDevices, h]

end SmartBuilding
