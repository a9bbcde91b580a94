import SmartBuilding.Board

/-!
# `SmartBuilding.PwmCtrlDoor`: the emergency door

The functions of `applications/src/my_pwm_ctrl_door.c` that move the door. The pulse width
of the source is a fixed increasing function of the angle, so `servo` keeps the angle that
goes into it.
-/

set_option autoImplicit false

namespace SmartBuilding

/-- `my_pwm_set_angle`: the servo gets the pulse of the angle, with both ends cut off. -/
def myPwmSetAngle (angles : UInt8) (w : World) : World :=
  let angles := if angles ≤ 0 then 5 else angles
  let angles := if angles ≥ 180 then 170 else angles
  { w with servo := angles }

/-- `my_pwm_angle_change`. -/
def myPwmAngleChange (direction : Bool) (angles : UInt8) (w : World) : World :=
  let w :=
    if direction then
      if w.angle < 180 then { w with angle := w.angle + angles } else w
    else
      if w.angle > 0 then { w with angle := w.angle - angles } else w
  -- The flag is set also when the guard kept the angle.
  let w := setDevproDoorState direction w
  myPwmSetAngle w.angle w

end SmartBuilding
