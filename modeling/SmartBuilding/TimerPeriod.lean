import SmartBuilding.HwTimer
import SmartBuilding.Lib.CInt

/-!
# `SmartBuilding.TimerPeriod`: changing the period of the alarm timer

`my_hwtimer_addTime` and `my_hwtimer_subTime` of `applications/src/my_hwtimer.c` read the
programmed period back from `timeout_s`, change it by `ms` milliseconds and start the timer
with the new period. The first clamps at `my_hwtimer_max_time`, the second at
`my_hwtimer_min_time`. The two are one program `myHwtimerChangeTime` with a different `next`.

The global `my_hwtimer_temp_time` is written and read within one call only, so it is a local
value here.

`changeTimeInts` lists the exact results of all operations on `int` in one call. The program
itself has the wrapped results.
-/

set_option autoImplicit false

namespace SmartBuilding

/-- `my_hwtimer_max_time`, in milliseconds. -/
def myHwtimerMaxTime : Int32 := 5000
/-- `my_hwtimer_min_time`, in milliseconds. -/
def myHwtimerMinTime : Int32 := 125

/-- `my_hwtimer_temp_time`: the programmed period in milliseconds. -/
def myHwtimerTempTime (tv : TimeVal) : Int32 := tv.sec * 1000 + tv.usec / 1000

/-- The period of `ms` milliseconds as a value of `timeout_s`. -/
def timeoutOfMs (ms : Int32) : TimeVal where
  sec := ms / 1000
  usec := ms % 1000 * 1000

/-- The common text of `my_hwtimer_addTime` and `my_hwtimer_subTime`. `next` gives the new
period for the current one. -/
def myHwtimerChangeTime [TimeoutCalc] (next : Int32 → Int32) (io : TimerIO) :
    Prog TimerSys Int32 := do
  let s ← Prog.get
  if !s.hwDev then
    pure rtError
  else do
    let s ← Prog.get
    let new := timeoutOfMs (next (myHwtimerTempTime s.timeoutS))
    Prog.modify fun s => { s with timeoutS := { s.timeoutS with sec := new.sec } }
    Prog.modify fun s => { s with timeoutS := { s.timeoutS with usec := new.usec } }
    let s ← Prog.get
    let written ← rtDeviceWrite io s.timeoutS
    if written then do
      let s ← Prog.get
      pure s.ret
    else
      pure rtError

/-- The new period of `my_hwtimer_addTime`. -/
def addedTime (ms tempTime : Int32) : Int32 :=
  if tempTime + ms ≥ myHwtimerMaxTime then myHwtimerMaxTime else tempTime + ms

/-- The new period of `my_hwtimer_subTime`. -/
def subtractedTime (ms tempTime : Int32) : Int32 :=
  if tempTime - ms ≤ myHwtimerMinTime then myHwtimerMinTime else tempTime - ms

/-- `my_hwtimer_addTime`. -/
def myHwtimerAddTime [TimeoutCalc] (io : TimerIO) (ms : Int32) : Prog TimerSys Int32 :=
  myHwtimerChangeTime (addedTime ms) io

/-- `my_hwtimer_subTime`. -/
def myHwtimerSubTime [TimeoutCalc] (io : TimerIO) (ms : Int32) : Prog TimerSys Int32 :=
  myHwtimerChangeTime (subtractedTime ms) io

/-! ### The exact results of the operations on `int` -/

/-- The operations of `myHwtimerTempTime`. -/
def tempTimeInts (tv : TimeVal) : List Int :=
  [tv.sec.toInt * 1000, tv.usec.toInt.tdiv 1000, (tv.sec * 1000).toInt + (tv.usec / 1000).toInt]

/-- The operations of `timeoutOfMs`. -/
def timeoutInts (ms : Int32) : List Int :=
  [ms.toInt.tdiv 1000, ms.toInt.tmod 1000, (ms % 1000).toInt * 1000]

/-- The operations of a call that finds the timeout `tv`: the current period, the sum or
difference `moved` of it and the argument, and the new timeout. A call without the device does
none of them. -/
def changeTimeInts (hwDev : Bool) (tv : TimeVal) (moved : Int) (new : Int32) : List Int :=
  if hwDev then tempTimeInts tv ++ moved :: timeoutInts new else []

/-- The operations of `my_hwtimer_addTime`. -/
def addTimeInts (s : TimerSys) (ms : Int32) : List Int :=
  let tempTime := myHwtimerTempTime s.timeoutS
  changeTimeInts s.hwDev s.timeoutS (tempTime.toInt + ms.toInt) (addedTime ms tempTime)

/-- The operations of `my_hwtimer_subTime`. -/
def subTimeInts (s : TimerSys) (ms : Int32) : List Int :=
  let tempTime := myHwtimerTempTime s.timeoutS
  changeTimeInts s.hwDev s.timeoutS (tempTime.toInt - ms.toInt) (subtractedTime ms tempTime)

/-! ### Calls one after another -/

/-- A call of `my_hwtimer.c`, with the answers of the device operations. -/
inductive TimerCall where
  | openTimer (io : TimerIO)
  | closeTimer
  | addTime (io : TimerIO) (ms : Int32)
  | subTime (io : TimerIO) (ms : Int32)

/-- The program of a call. -/
def TimerCall.prog [TimeoutCalc] : TimerCall → Prog TimerSys Int32
  | .openTimer io => myHwtimerOpenTimer io
  | .closeTimer => myHwtimerCloseTimer
  | .addTime io ms => myHwtimerAddTime io ms
  | .subTime io ms => myHwtimerSubTime io ms

/-- The machine of the calls of `my_hwtimer.c`. -/
def timerCalls [TimeoutCalc] : Machine TimerSys TimerCall Unit where
  step s call := call.prog.exec s
  out _ _ := []

end SmartBuilding
