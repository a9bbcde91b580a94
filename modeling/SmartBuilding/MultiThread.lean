import SmartBuilding.Board

/-!
# `SmartBuilding.MultiThread`: the actuators, the keys and the timer interrupt

The functions of `applications/src/my_multiThread.c` that drive the alarm, the relay and the
emergency light, and the two key interrupts. The timer interrupt is here too: it runs the
handler of the timer core and then the callback of `my_hwtimer.c`, which toggles the red
light and the buzzer.

`beepChange` is a `Prog`, because the statements about the alarm speak of timer interrupts
between its actions. The other functions are atomic here.
-/

set_option autoImplicit false

namespace SmartBuilding

/-! ### The timer in the world -/

/-- Replace the timer. -/
def World.putTimer (w : World) (t : TimerSys) : World := { w with timer := t }

/-- A program of the timer modules, as a program over the world. -/
def onTimer {α : Type} (p : Prog TimerSys α) : Prog World α :=
  p.zoom World.timer World.putTimer

/-- `my_timeout_cb`: LED0 and BEEP change their levels. -/
def myTimeoutCb (w : World) : World :=
  let w := w.setPins fun p => { p with led0 := p.led0.toggle }
  w.setPins fun p => { p with beep := p.beep.toggle }

/-- The callback that the interrupt handler runs. -/
def runRxIndicate : Option RxIndicate → World → World
  | some .myTimeoutCb, w => myTimeoutCb w
  | none, w => w

/-- One overflow interrupt of the hardware timer. -/
def timerIrq (w : World) : World :=
  let r := rtDeviceHwtimerIsr w.timer.dev
  runRxIndicate r.2 (w.putTimer { w.timer with dev := r.1 })

/-! ### The actuators -/

/-- `beep_change`. -/
def beepChange [TimeoutCalc] (io : TimerIO) (state : Bool) : Prog World Unit := do
  if !state then do
    -- The timer goes first. After it no tick can undo the two writes.
    let _ ← onTimer myHwtimerCloseTimer
    Prog.modify fun w => w.setPins fun p => { p with led0 := .high }
    Prog.modify fun w => w.setPins fun p => { p with beep := .low }
  else do
    -- The result of the open is not looked at.
    let _ ← onTimer (myHwtimerOpenTimer io)
    pure ()
  Prog.modify (setDevproLed0State state)
  Prog.modify (setDevproBeepState state)

/-- `relay_change`. -/
def relayChange (state : Bool) (w : World) : World :=
  let w :=
    if !state then w.setPins fun p => { p with relay := .low }
    else w.setPins fun p => { p with relay := .high }
  setDevproRelayState state w

/-- `emergency_light_change`. The light is on at the low level. -/
def emergencyLightChange (state : Bool) (w : World) : World :=
  let w :=
    if !state then w.setPins fun p => { p with led1 := .high }
    else w.setPins fun p => { p with led1 := .low }
  setDevproLed1State state w

/-! ### Keys and initialization -/

/-- `IQR_HANDALE_KEY0`. -/
def iqrHandaleKey0 (w : World) : World :=
  setDevproDht11SensorState (!w.devices.dht11SensorState) w

/-- `IQR_HANDALE_KEY1`. -/
def iqrHandaleKey1 (w : World) : World :=
  setDevproLightSensorState (!w.devices.lightSensorState) w

/-- The writes of `my_GPIO_Init` to the output pins. -/
def myGpioInit (w : World) : World :=
  let w := w.setPins fun p => { p with led0 := .high }
  let w := w.setPins fun p => { p with led1 := .high }
  let w := w.setPins fun p => { p with beep := .low }
  w.setPins fun p => { p with relay := .low }

end SmartBuilding
