import SmartBuilding.Proofs.Actuators

/-!
# `SmartBuilding.Proofs.HwTimer`: opening and closing the timer device

What `my_hwtimer_openTimer` and `my_hwtimer_closeTimer` do to the open state of the device,
when no interrupt occurs. The device is stand-alone, so an open device refuses a second open
and its reference count never passes 1 (`OpenState.InOrder`). So opening twice with the same
answers of the device leaves what opening once leaves, and the same holds for closing.

`rtDeviceHwtimerIsr_eq` says what one interrupt does to the device.
-/

set_option autoImplicit false

namespace SmartBuilding

/-- The part of the device that the device layer uses for opening and closing. -/
@[ext]
structure OpenState where
  activated : Bool
  opened : Bool
  refCount : UInt8
  deriving DecidableEq

/-- The open state of the device. -/
def HwTimer.openState (d : HwTimer) : OpenState := ⟨d.activated, d.opened, d.refCount⟩

/-- The device answers let an activated or not yet activated device open. -/
def TimerIO.opens (io : TimerIO) (o : OpenState) : Bool :=
  io.find && (o.activated || io.init = rtEok) &&
    (io.openDev = rtEok || io.openDev = -rtEnosys)

/-- The open state after `my_hwtimer_openTimer`. -/
def OpenState.afterOpen (io : TimerIO) (o : OpenState) : OpenState where
  activated := o.activated || io.find && io.init = rtEok
  opened := o.opened || io.opens o
  refCount := if !o.opened && io.opens o then o.refCount + 1 else o.refCount

/-- The open state after `my_hwtimer_closeTimer`, when the handle is `hwDev`. -/
def OpenState.afterClose (hwDev : Bool) (o : OpenState) : OpenState :=
  if !hwDev || o.refCount = 0 then o
  else if o.refCount - 1 ≠ 0 then { o with refCount := o.refCount - 1 }
  else { activated := false, opened := false, refCount := 0 }

/-! ### The device layer -/

section
variable (io : TimerIO) (s : TimerSys)

@[simp] theorem run_modifyDev (f : HwTimer → HwTimer) :
    (modifyDev f).run s = ((), { s with dev := f s.dev }) := rfl

/-- Writing the timeout and starting the timer keeps the open state. -/
theorem openState_setTimeout [TimeoutCalc] :
    ((myHwtimerSetTimeout io).run s).2.dev.openState = s.dev.openState := by
  simp only [myHwtimerSetTimeout, rtDeviceWrite, rtHwtimerWrite, timerStart, Prog.run_bind,
    Prog.run_modify, Prog.run_get]
  by_cases hr : s.dev.refCount = 0 <;> by_cases hs : io.start = rtEok <;>
    simp [hr, hs, HwTimer.openState]

/-- The device after the first block of `rt_device_open`. -/
def HwTimer.activate (io : TimerIO) (d : HwTimer) : HwTimer :=
  if d.activated then d
  else { d with mode := .oneshot, cycles := 0, activated := io.init = rtEok }

theorem run_rtDeviceActivate :
    (rtDeviceActivate io).run s =
      (if s.dev.activated then rtEok else io.init, { s with dev := s.dev.activate io }) := by
  cases ha : s.dev.activated
  · by_cases hi : io.init = rtEok <;>
      simp [rtDeviceActivate, rtHwtimerInit, HwTimer.activate, ha, hi]
  · simp [rtDeviceActivate, HwTimer.activate, ha]

/-- The open state after the first block of `rt_device_open`. -/
theorem openState_activate (d : HwTimer) :
    (d.activate io).openState =
      { d.openState with activated := d.activated || io.init = rtEok } := by
  unfold HwTimer.activate HwTimer.openState
  cases ha : d.activated <;> simp [ha]

/-- `rt_device_open` changes the open state as `my_hwtimer_openTimer` does when it finds the
device. -/
theorem openState_rtDeviceOpen :
    ((rtDeviceOpen io).run s).2.dev.openState =
      s.dev.openState.afterOpen { io with find := true } := by
  have hactivate := openState_activate io s.dev
  simp only [HwTimer.openState, OpenState.mk.injEq] at hactivate
  obtain ⟨hact, hopened, hcount⟩ := hactivate
  simp only [rtDeviceOpen, rtHwtimerOpen, Prog.run_bind, run_rtDeviceActivate]
  -- A device that cannot be activated does not reach the stand-alone test.
  by_cases hready : s.dev.activated = true ∨ io.init = rtEok
  · have hcode : (if s.dev.activated then rtEok else io.init) = rtEok := by
      split <;> simp_all
    cases ho : s.dev.opened
    · by_cases hd : io.openDev = rtEok ∨ io.openDev = -rtEnosys <;>
        simp_all [HwTimer.openState, OpenState.afterOpen, TimerIO.opens]
    · simp_all [HwTimer.openState, OpenState.afterOpen, TimerIO.opens, rtDeviceFlagStandalone]
  · obtain ⟨ha, hi⟩ := not_or.mp hready
    simp_all [HwTimer.openState, OpenState.afterOpen, TimerIO.opens]

/-- `rt_device_control` keeps the open state. -/
theorem openState_rtDeviceControl (m : HwTimerMode) :
    ((rtDeviceControl io m).run s).2.dev.openState = s.dev.openState := by
  unfold rtDeviceControl rtHwtimerControl
  split
  · simp [HwTimer.openState]
  · simp

/-- `my_hwtimer_openTimer` opens the device when the answers let it. -/
theorem openState_open [TimeoutCalc] :
    (s.afterOpen io).dev.openState = s.dev.openState.afterOpen io := by
  unfold TimerSys.afterOpen Prog.exec myHwtimerOpenTimer
  simp only [Prog.run_bind, Prog.run_modify, Prog.run_get]
  cases hf : io.find
  · simp [OpenState.afterOpen, TimerIO.opens, hf]
  · have hopen := openState_rtDeviceOpen io { s with hwDev := true }
    rw [show ({ io with find := true } : TimerIO) = io from by rw [← hf]] at hopen
    rw [← hopen]
    -- After the open, only the callback, the mode and the timeout change.
    simp only [Bool.not_true, Bool.false_eq_true, if_false, Prog.run_bind, Prog.run_modify]
    split
    · simp
    · have hcontrol : ∀ s : TimerSys, ((rtDeviceControl io .period).run
          (rtDeviceSetRxIndicate.run s).2).2.dev.openState = s.dev.openState := by
        intro s
        rw [openState_rtDeviceControl]
        rfl
      simp only [Prog.run_bind, Prog.run_modify]
      split
      · simpa using hcontrol _
      · rw [openState_setTimeout]
        exact hcontrol _

/-- `my_hwtimer_closeTimer` closes the device with its last reference. -/
theorem openState_close :
    s.afterClose.dev.openState = s.dev.openState.afterClose s.hwDev := by
  unfold TimerSys.afterClose Prog.exec myHwtimerCloseTimer rtDeviceClose rtHwtimerClose
  cases hh : s.hwDev
  · simp [OpenState.afterClose, hh]
  · by_cases hr : s.dev.refCount = 0
    · simp [OpenState.afterClose, HwTimer.openState, hh, hr]
    · by_cases hl : s.dev.refCount - 1 = 0 <;>
        simp [OpenState.afterClose, HwTimer.openState, hh, hr, hl]

/-- `my_hwtimer_closeTimer` keeps the handle. -/
theorem hwDev_close : s.afterClose.hwDev = s.hwDev := by
  unfold TimerSys.afterClose Prog.exec myHwtimerCloseTimer rtDeviceClose rtHwtimerClose
  cases hh : s.hwDev
  · simp [hh]
  · by_cases hr : s.dev.refCount = 0
    · simp [hh, hr]
    · by_cases hl : s.dev.refCount - 1 = 0 <;> simp [hh, hr, hl]

end

/-! ### One reference at most -/

/-- An open device has one reference, and a closed one has none. -/
def OpenState.InOrder (o : OpenState) : Prop := o.refCount = if o.opened then 1 else 0

theorem OpenState.InOrder.afterOpen {o : OpenState} (h : o.InOrder) (io : TimerIO) :
    (o.afterOpen io).InOrder := by
  unfold InOrder at h ⊢
  cases ho : o.opened <;> cases hio : io.opens o <;>
    simp_all [OpenState.afterOpen]

theorem OpenState.InOrder.afterClose {o : OpenState} (h : o.InOrder) (hwDev : Bool) :
    (o.afterClose hwDev).InOrder := by
  unfold InOrder at h
  unfold OpenState.afterClose
  split
  · exact h
  · cases ho : o.opened <;> simp_all [InOrder]

/-- A second open with the same answers changes nothing. -/
theorem OpenState.afterOpen_twice (io : TimerIO) (o : OpenState) :
    (o.afterOpen io).afterOpen io = o.afterOpen io := by
  -- The same answers decide the second open, whatever the first one did.
  have hopens : io.opens (o.afterOpen io) = io.opens o := by
    simp only [OpenState.afterOpen, TimerIO.opens]
    cases io.find <;> cases o.activated <;> simp
  ext1
  · show ((o.activated || _) || _) = (o.activated || _)
    cases o.activated <;> simp
  · show ((o.opened || io.opens o) || io.opens (o.afterOpen io)) = (o.opened || io.opens o)
    rw [hopens]
    cases o.opened <;> simp
  · have hnot : (!(o.afterOpen io).opened && io.opens (o.afterOpen io)) = false := by
      rw [hopens]
      show (!(o.opened || io.opens o) && io.opens o) = false
      cases o.opened <;> simp
    show (if (!(o.afterOpen io).opened && io.opens (o.afterOpen io)) then _ else _) = _
    rw [if_neg (by simp [hnot])]

/-- A second close changes nothing when the device has at most one reference. -/
theorem OpenState.InOrder.afterClose_twice {o : OpenState} (h : o.InOrder) (hwDev : Bool) :
    (o.afterClose hwDev).afterClose hwDev = o.afterClose hwDev := by
  unfold InOrder at h
  cases hwDev
  · simp [OpenState.afterClose]
  · cases ho : o.opened <;> simp_all [OpenState.afterClose]

/-! ### The interrupt handler -/

/-- The next overflow is an expiry of the timeout. -/
def HwTimer.expires (d : HwTimer) : Bool := d.cycles = 0 || d.cycles - 1 = 0

/-- The interrupt handler changes the cycle counter, and in the oneshot mode the running
hardware counter. At an expiry it runs the attached callback. -/
theorem rtDeviceHwtimerIsr_eq (d : HwTimer) :
    ∃ cycles counting,
      (rtDeviceHwtimerIsr d).1 = { d with cycles := cycles, counting := counting } ∧
      (rtDeviceHwtimerIsr d).2 = (if d.expires then d.rxIndicate else none) ∧
      (d.mode = .period → counting = d.counting) := by
  unfold rtDeviceHwtimerIsr HwTimer.expires
  by_cases hc : d.cycles = 0
  · by_cases hm : d.mode = .oneshot
    · exact ⟨d.reload, false, by simp [hc, hm], by simp [hc, hm], by simp [hm]⟩
    · exact ⟨d.reload, d.counting, by simp [hc, hm], by simp [hc, hm], fun _ => rfl⟩
  · by_cases hc' : d.cycles - 1 = 0
    · by_cases hm : d.mode = .oneshot
      · exact ⟨d.reload, false, by simp [hc, hc', hm], by simp [hc, hc', hm], by simp [hm]⟩
      · exact ⟨d.reload, d.counting, by simp [hc, hc', hm], by simp [hc, hc', hm],
          fun _ => rfl⟩
    · exact ⟨d.cycles - 1, d.counting, by simp [hc, hc'], by simp [hc, hc'], fun _ => rfl⟩

theorem isr_callback (d : HwTimer) :
    (rtDeviceHwtimerIsr d).2 = if d.expires then d.rxIndicate else none := by
  obtain ⟨-, -, -, hcallback, -⟩ := rtDeviceHwtimerIsr_eq d
  exact hcallback

/-- The interrupt handler keeps the open state. -/
theorem openState_isr (d : HwTimer) : (rtDeviceHwtimerIsr d).1.openState = d.openState := by
  obtain ⟨cycles, counting, heq, -, -⟩ := rtDeviceHwtimerIsr_eq d
  rw [heq]
  rfl

end SmartBuilding
