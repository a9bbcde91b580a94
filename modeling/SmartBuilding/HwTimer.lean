import SmartBuilding.Lib.Interrupt

/-!
# `SmartBuilding.HwTimer`: the alarm timer, from the device layer up to `my_hwtimer.c`

The alarm flashes and sounds through one hardware timer. Three layers of the source take
part, and this module has the functions of each that the alarm uses:

* `rt-thread/src/device.c`: `rt_device_open`, `rt_device_close`, `rt_device_control`,
  `rt_device_write`, `rt_device_set_rx_indicate`;
* `rt-thread/components/drivers/hwtimer/hwtimer.c`: the device handlers and the interrupt
  handler `rt_device_hwtimer_isr`;
* `applications/src/my_hwtimer.c`: `my_hwtimer_openTimer` and `my_hwtimer_closeTimer`.

The functions are `Prog`s over `TimerSys`, with one atomic action for each access of the
source to the shared state, so that a timer interrupt can occur between any two accesses.

What the driver and the hardware answer is a parameter. `TimerIO` has the answers to the
device operations of one call. `TimeoutCalc` stands for `timeout_calc`, which computes the
number of hardware overflows for one timeout in floating point.

Left out, because no function here depends on it: the counting frequency, the driver's
prescaler and counter registers, and the overflow count that only `rt_hwtimer_read` reads.
-/

set_option autoImplicit false

namespace SmartBuilding

/-! ### Error codes of `rtdef.h` -/

/-- `RT_EOK`. -/
def rtEok : Int32 := 0
/-- `RT_ERROR`. -/
def rtError : Int32 := 1
/-- `RT_ENOSYS`. -/
def rtEnosys : Int32 := 6
/-- `RT_EBUSY`. -/
def rtEbusy : Int32 := 7

/-! ### The state of the timer -/

/-- `rt_hwtimer_mode_t`. -/
inductive HwTimerMode where
  | oneshot
  | period
  deriving DecidableEq, Repr

/-- `rt_hwtimerval_t`. -/
structure TimeVal where
  sec : Int32
  usec : Int32
  deriving DecidableEq, Repr

/-- The reception callbacks that the firmware attaches to a device. `my_timeout_cb` is the
only one. -/
inductive RxIndicate where
  | myTimeoutCb
  deriving DecidableEq, Repr

/-- The hardware timer device: `struct rt_device` and `rt_hwtimer_t` in one record.
`activated` is the flag `RT_DEVICE_FLAG_ACTIVATED`, and `opened` is the bit
`RT_DEVICE_OFLAG_OPEN` of `open_flag`. `counting` says that the driver started the hardware
counter and did not stop it since, and `opMode` is the mode of its last start. -/
structure HwTimer where
  activated : Bool
  opened : Bool
  refCount : UInt8
  rxIndicate : Option RxIndicate
  mode : HwTimerMode
  cycles : Int32
  reload : Int32
  counting : Bool
  opMode : HwTimerMode
  deriving DecidableEq, Repr

/-- The timer device and the globals of `my_hwtimer.c`. `hwDev` says that the handle
`hw_dev` is not `RT_NULL`. -/
structure TimerSys where
  dev : HwTimer
  hwDev : Bool
  ret : Int32
  timeoutS : TimeVal
  deriving DecidableEq, Repr

/-- The device after `rt_device_hwtimer_register`: closed and never activated. -/
def rtDeviceHwtimerRegister : HwTimer where
  activated := false
  opened := false
  refCount := 0
  rxIndicate := none
  mode := .oneshot
  cycles := 0
  reload := 0
  counting := false
  opMode := .oneshot

/-- The timer before its first use: the device is registered, and the globals of
`my_hwtimer.c` have their initial values. -/
def timerInit : TimerSys where
  dev := rtDeviceHwtimerRegister
  hwDev := false
  ret := rtEok
  timeoutS := ⟨0, 0⟩

/-- `rt_device_hwtimer_register` registers the device with `RT_DEVICE_FLAG_STANDALONE`, and
no function clears that flag. -/
def rtDeviceFlagStandalone : Bool := true

/-- The answers to the device operations of one call of `my_hwtimer_openTimer`: whether
`rt_device_find` finds the device, and the results of the device handlers `init`, `open`
and `control` and of the driver's `start`. -/
structure TimerIO where
  find : Bool
  init : Int32
  openDev : Int32
  control : Int32
  start : Int32
  deriving DecidableEq, Repr

/-- Every device operation succeeds. With the driver of this board, these are the answers
for a registered device when the hardware starts. -/
def TimerIO.ok : TimerIO where
  find := true
  init := rtEok
  openDev := rtEok
  control := rtEok
  start := rtEok

/-- `timeout_calc` of `hwtimer.c`: the number of hardware overflows for one timeout. The
source computes it in floating point. -/
class TimeoutCalc where
  cycles : TimeVal → Int32

/-- `timeout_calc` on this board: a timeout of 0.1 s takes two overflows of the 16-bit
counter at 1 MHz. -/
abbrev TimeoutCalc.board : TimeoutCalc where
  cycles _ := 2

/-! ### The handlers of `hwtimer.c` -/

/-- Change the device. -/
def modifyDev (f : HwTimer → HwTimer) : Prog TimerSys Unit :=
  .modify fun s => { s with dev := f s.dev }

/-- `rt_hwtimer_init`. -/
def rtHwtimerInit (io : TimerIO) : Prog TimerSys Int32 := do
  modifyDev fun d => { d with mode := .oneshot }
  modifyDev fun d => { d with cycles := 0 }
  pure io.init

/-- `rt_hwtimer_open`: the frequency request to the driver, whose result the source drops. -/
def rtHwtimerOpen (io : TimerIO) : Prog TimerSys Int32 :=
  pure io.openDev

/-- `rt_hwtimer_close`. The driver's `timer_init` does nothing for the state `0`, so the
hardware counter keeps running. -/
def rtHwtimerClose : Prog TimerSys Int32 := do
  modifyDev fun d => { d with activated := false }
  modifyDev fun d => { d with rxIndicate := none }
  pure rtEok

/-- `rt_hwtimer_control` for `HWTIMER_CTRL_MODE_SET`. The code of this version answers
`RT_EOK` for a valid mode. Another answer stands for a device that refuses the mode. -/
def rtHwtimerControl (io : TimerIO) (m : HwTimerMode) : Prog TimerSys Int32 :=
  if io.control = rtEok then do
    modifyDev fun d => { d with mode := m }
    pure rtEok
  else
    pure io.control

/-- The driver's `timer_start`. -/
def timerStart (io : TimerIO) (opm : HwTimerMode) : Prog TimerSys Int32 := do
  modifyDev fun d => { d with opMode := opm }
  if io.start = rtEok then do
    modifyDev fun d => { d with counting := true }
    pure rtEok
  else
    pure io.start

/-- `rt_hwtimer_write` of one `rt_hwtimerval_t`. The result says that the whole value was
written. -/
def rtHwtimerWrite [TimeoutCalc] (io : TimerIO) (tv : TimeVal) : Prog TimerSys Bool := do
  modifyDev fun d => { d with counting := false }
  modifyDev fun d => { d with cycles := TimeoutCalc.cycles tv }
  modifyDev fun d => { d with reload := TimeoutCalc.cycles tv }
  let s ← Prog.get
  -- One overflow in the oneshot mode needs no reload.
  let opm := if s.dev.cycles ≤ 1 ∧ s.dev.mode = .oneshot then HwTimerMode.oneshot else .period
  let result ← timerStart io opm
  pure (result = rtEok)

/-- `rt_device_hwtimer_isr`: the timer after one hardware overflow, and the callback that
the handler runs, if any. -/
def rtDeviceHwtimerIsr (t : HwTimer) : HwTimer × Option RxIndicate :=
  -- The counter stays at 0 once it is there. It does not wrap.
  let t := if t.cycles ≠ 0 then { t with cycles := t.cycles - 1 } else t
  if t.cycles = 0 then
    let t := { t with cycles := t.reload }
    let t := if t.mode = .oneshot then { t with counting := false } else t
    (t, t.rxIndicate)
  else
    (t, none)

/-! ### The device layer `device.c` -/

/-- The first block of `rt_device_open`: a device that is not activated is initialized. -/
def rtDeviceActivate (io : TimerIO) : Prog TimerSys Int32 := do
  let s ← Prog.get
  if s.dev.activated then
    pure rtEok
  else do
    let result ← rtHwtimerInit io
    if result ≠ rtEok then
      pure result
    else do
      modifyDev fun d => { d with activated := true }
      pure rtEok

/-- `rt_device_open` of the timer device. -/
def rtDeviceOpen (io : TimerIO) : Prog TimerSys Int32 := do
  let result ← rtDeviceActivate io
  if result ≠ rtEok then
    pure result
  else do
    let s ← Prog.get
    -- A second open of a stand-alone device is refused, and counts no reference.
    if rtDeviceFlagStandalone && s.dev.opened then
      pure (-rtEbusy)
    else do
      let result ← rtHwtimerOpen io
      -- A driver without this operation (`-RT_ENOSYS`) counts as opened.
      if result = rtEok ∨ result = -rtEnosys then do
        modifyDev fun d => { d with opened := true }
        modifyDev fun d => { d with refCount := d.refCount + 1 }
        pure result
      else
        pure result

/-- `rt_device_close` of the timer device. -/
def rtDeviceClose : Prog TimerSys Int32 := do
  let s ← Prog.get
  if s.dev.refCount = 0 then
    pure (-rtError)
  else do
    modifyDev fun d => { d with refCount := d.refCount - 1 }
    let s ← Prog.get
    -- Only the last reference closes the device itself.
    if s.dev.refCount ≠ 0 then
      pure rtEok
    else do
      -- This clears the callback, so no tick toggles a pin after it.
      let result ← rtHwtimerClose
      modifyDev fun d => { d with opened := false }
      pure result

/-- `rt_device_set_rx_indicate` with `my_timeout_cb`. -/
def rtDeviceSetRxIndicate : Prog TimerSys Unit :=
  modifyDev fun d => { d with rxIndicate := some .myTimeoutCb }

/-- `rt_device_control` for `HWTIMER_CTRL_MODE_SET`. -/
def rtDeviceControl (io : TimerIO) (m : HwTimerMode) : Prog TimerSys Int32 :=
  rtHwtimerControl io m

/-- `rt_device_write` of one timeout value. A device without an open reference is not
written. -/
def rtDeviceWrite [TimeoutCalc] (io : TimerIO) (tv : TimeVal) : Prog TimerSys Bool := do
  let s ← Prog.get
  if s.dev.refCount = 0 then
    pure false
  else
    rtHwtimerWrite io tv

/-! ### `my_hwtimer.c` -/

/-- The end of `my_hwtimer_openTimer`: the timeout of 0.1 s is written, which starts the
timer. -/
def myHwtimerSetTimeout [TimeoutCalc] (io : TimerIO) : Prog TimerSys Int32 := do
  Prog.modify fun s => { s with timeoutS := { s.timeoutS with sec := 0 } }
  Prog.modify fun s => { s with timeoutS := { s.timeoutS with usec := 100 * 1000 } }
  let s ← Prog.get
  let written ← rtDeviceWrite io s.timeoutS
  if written then do
    let s ← Prog.get
    pure s.ret
  else
    pure rtError

/-- `my_hwtimer_openTimer`. -/
def myHwtimerOpenTimer [TimeoutCalc] (io : TimerIO) : Prog TimerSys Int32 := do
  Prog.modify fun s => { s with hwDev := io.find }
  let s ← Prog.get
  if !s.hwDev then
    pure rtError
  else do
    let result ← rtDeviceOpen io
    Prog.modify fun s => { s with ret := result }
    if result ≠ rtEok then
      pure result
    else do
      -- From here on each expiry runs the callback.
      rtDeviceSetRxIndicate
      let result ← rtDeviceControl io .period
      Prog.modify fun s => { s with ret := result }
      if result ≠ rtEok then
        pure result
      else
        myHwtimerSetTimeout io

/-- `my_hwtimer_closeTimer`. -/
def myHwtimerCloseTimer : Prog TimerSys Int32 := do
  let s ← Prog.get
  if !s.hwDev then
    pure rtError
  else do
    let result ← rtDeviceClose
    Prog.modify fun s => { s with ret := result }
    pure result

end SmartBuilding
