import SmartBuilding.Proofs.Controller
import SmartBuilding.Proofs.HwTimer

/-!
# `SmartBuilding.Proofs.Flashing`: when the alarm timer makes LED0 flash

The timer flashes when its callback is attached, it counts, and it is in the period mode. An
open keeps a flashing timer flashing, and starts one exactly when the device is closed and
every operation succeeds (`TimerSane.flashing_afterOpen`). A close ends the flashing, unless
the handle of the device is gone (`TimerSane.flashing_afterClose`).

Both need an invariant of the reachable states: a device that is not open has no callback,
and is in the oneshot mode once it is activated (`TimerSane`).
-/

set_option autoImplicit false

namespace SmartBuilding

/-! ### The alarm timer -/

/-- Each expiry of the timer runs the callback that toggles LED0, and expiries keep coming. -/
def Flashing (t : TimerSys) : Prop :=
  t.dev.rxIndicate = some .myTimeoutCb ∧ t.dev.mode = .period ∧ t.dev.counting = true

/-- The timer device in a reachable state. -/
structure TimerSane (t : TimerSys) : Prop where
  inOrder : t.dev.openState.InOrder
  activated : t.dev.opened = true → t.dev.activated = true
  detached : t.dev.opened = false → t.dev.rxIndicate = none
  oneshot : t.dev.opened = false → t.dev.activated = true → t.dev.mode = .oneshot

/-- The answers start the timer: the device is not open, and every operation of
`my_hwtimer_openTimer` succeeds. -/
def TimerStarts (io : TimerIO) (t : TimerSys) : Prop :=
  io.find = true ∧ t.dev.opened = false ∧ (t.dev.activated = true ∨ io.init = rtEok) ∧
    io.openDev = rtEok ∧ io.control = rtEok ∧ io.start = rtEok

section
variable (io : TimerIO) (t : TimerSys)

/-- The device after `my_hwtimer_closeTimer`. -/
theorem dev_afterClose (h : t.dev.openState.InOrder) :
    t.afterClose.dev =
      if t.hwDev = true ∧ t.dev.opened = true then
        { t.dev with activated := false, opened := false, refCount := 0, rxIndicate := none }
      else t.dev := by
  unfold OpenState.InOrder at h
  unfold TimerSys.afterClose Prog.exec myHwtimerCloseTimer rtDeviceClose rtHwtimerClose
  cases hh : t.hwDev
  · simp [hh]
  · cases ho : t.dev.opened <;> simp_all [HwTimer.openState]

/-- An open that does not find the device does not touch it. -/
theorem dev_afterOpen_of_not_find [TimeoutCalc] (hfind : io.find = false) :
    (t.afterOpen io).dev = t.dev := by
  simp [TimerSys.afterOpen, Prog.exec, myHwtimerOpenTimer, hfind]

/-- A device that is open refuses to open again. -/
theorem dev_afterOpen_of_opened [TimeoutCalc] (hfind : io.find = true)
    (hactivated : t.dev.activated = true) (hopened : t.dev.opened = true) :
    (t.afterOpen io).dev = t.dev := by
  simp [TimerSys.afterOpen, Prog.exec, myHwtimerOpenTimer, rtDeviceOpen, run_rtDeviceActivate,
    HwTimer.activate, rtDeviceFlagStandalone, hfind, hactivated, hopened, rtEok, rtEbusy]

/-- `rt_device_open` of a closed device. -/
theorem run_rtDeviceOpen_of_closed (hopened : t.dev.opened = false) :
    (rtDeviceOpen io).run t =
      if t.dev.activated = true ∨ io.init = rtEok then
        (io.openDev,
          { t with dev :=
              if io.openDev = rtEok ∨ io.openDev = -rtEnosys then
                { t.dev.activate io with opened := true, refCount := t.dev.refCount + 1 }
              else t.dev.activate io })
      else (io.init, { t with dev := t.dev.activate io }) := by
  simp only [rtDeviceOpen, rtHwtimerOpen, Prog.run_bind, run_rtDeviceActivate]
  by_cases ha : t.dev.activated = true
  · by_cases hd : io.openDev = rtEok ∨ io.openDev = -rtEnosys <;>
      simp [HwTimer.activate, ha, hopened, hd]
  · by_cases hi : io.init = rtEok
    · by_cases hd : io.openDev = rtEok ∨ io.openDev = -rtEnosys <;>
        simp [HwTimer.activate, ha, hi, hopened, hd]
    · simp [HwTimer.activate, ha, hi]

/-- A closed device that does not open with `RT_EOK` gets no callback, and stays in the mode
of its activation. -/
theorem dev_afterOpen_of_refused [TimeoutCalc] (hfind : io.find = true)
    (hopened : t.dev.opened = false)
    (hrefused : ¬ ((t.dev.activated = true ∨ io.init = rtEok) ∧ io.openDev = rtEok)) :
    (t.afterOpen io).dev.rxIndicate = t.dev.rxIndicate ∧
      (t.afterOpen io).dev.mode = (t.dev.activate io).mode := by
  have hactivate : (t.dev.activate io).rxIndicate = t.dev.rxIndicate := by
    unfold HwTimer.activate
    split <;> rfl
  have hopen := run_rtDeviceOpen_of_closed io { t with hwDev := true } hopened
  unfold TimerSys.afterOpen Prog.exec myHwtimerOpenTimer
  simp only [Prog.run_bind, Prog.run_modify, Prog.run_get, hfind, Bool.not_true,
    Bool.false_eq_true, if_false]
  by_cases hready : t.dev.activated = true ∨ io.init = rtEok
  · have hdev : io.openDev ≠ rtEok := fun h => hrefused ⟨hready, h⟩
    simp only [hopen.trans (if_pos hready), hdev, ne_eq, not_false_eq_true, if_true]
    split <;> simp [hactivate]
  · have hinit : io.init ≠ rtEok := fun h => hready (.inr h)
    simp [hopen.trans (if_neg hready), hinit, hactivate]

/-- A closed device that opens with `RT_EOK` gets the callback. It counts in the period mode
when the mode and the timeout are accepted. -/
theorem dev_afterOpen_of_accepted [TimeoutCalc] (hfind : io.find = true)
    (hopened : t.dev.opened = false) (hcount : t.dev.refCount = 0)
    (hready : t.dev.activated = true ∨ io.init = rtEok) (hdev : io.openDev = rtEok) :
    (t.afterOpen io).dev.rxIndicate = some .myTimeoutCb ∧
      (io.control = rtEok → (t.afterOpen io).dev.mode = .period ∧
        (t.afterOpen io).dev.counting = decide (io.start = rtEok)) ∧
      (io.control ≠ rtEok → (t.afterOpen io).dev.mode = (t.dev.activate io).mode) := by
  have hopen := run_rtDeviceOpen_of_closed io { t with hwDev := true } hopened
  unfold TimerSys.afterOpen Prog.exec myHwtimerOpenTimer
  simp only [Prog.run_bind, Prog.run_modify, Prog.run_get, hfind, Bool.not_true,
    Bool.false_eq_true, if_false, hopen.trans (if_pos hready), hdev, hcount]
  by_cases hcontrol : io.control = rtEok
  · by_cases hstart : io.start = rtEok <;>
      simp [rtDeviceSetRxIndicate, rtDeviceControl, rtHwtimerControl, myHwtimerSetTimeout,
        rtDeviceWrite, rtHwtimerWrite, timerStart, hcontrol, hstart]
  · simp [rtDeviceSetRxIndicate, rtDeviceControl, rtHwtimerControl, hcontrol]

end

/-! ### The invariant -/

section
variable {t : TimerSys} (h : TimerSane t)

include h

theorem TimerSane.refCount_of_closed (hopened : t.dev.opened = false) : t.dev.refCount = 0 := by
  have hcount := h.inOrder
  simpa [OpenState.InOrder, HwTimer.openState, hopened] using hcount

/-- The first block of `rt_device_open` leaves a closed device in the oneshot mode, or not
activated. -/
theorem TimerSane.mode_activate (io : TimerIO) (hopened : t.dev.opened = false) :
    (t.dev.activate io).mode = .oneshot := by
  unfold HwTimer.activate
  split
  · next hactivated => exact h.oneshot hopened hactivated
  · rfl

/-- A flashing timer is open. -/
theorem TimerSane.opened_of_flashing (hflash : Flashing t) : t.dev.opened = true := by
  cases hopened : t.dev.opened with
  | true => rfl
  | false =>
    have hnone := h.detached hopened
    rw [hflash.1] at hnone
    cases hnone

/-- Closing ends the flashing, when the handle of the device is there. -/
theorem TimerSane.flashing_afterClose : Flashing t.afterClose ↔ Flashing t ∧ t.hwDev = false := by
  have hdev := dev_afterClose t h.inOrder
  by_cases hcloses : t.hwDev = true ∧ t.dev.opened = true
  · rw [if_pos hcloses] at hdev
    -- The callback is gone.
    simp [Flashing, hdev, hcloses.1]
  · rw [if_neg hcloses] at hdev
    have hkept : Flashing t.afterClose ↔ Flashing t := by rw [Flashing, hdev, Flashing]
    rw [hkept]
    constructor
    · intro hflash
      have hopened := h.opened_of_flashing hflash
      exact ⟨hflash, by simpa [hopened] using hcloses⟩
    · exact fun hflash => hflash.1

/-- Opening keeps a flashing timer flashing, and starts one when every operation succeeds. -/
theorem TimerSane.flashing_afterOpen [TimeoutCalc] (io : TimerIO) :
    Flashing (t.afterOpen io) ↔ Flashing t ∨ TimerStarts io t := by
  cases hfind : io.find with
  | false =>
    have hno : ¬ TimerStarts io t := fun hs => by simp [hs.1] at hfind
    rw [Flashing, dev_afterOpen_of_not_find io t hfind, or_iff_left hno, Flashing]
  | true =>
    cases hopened : t.dev.opened with
    | true =>
      have hno : ¬ TimerStarts io t := fun hs => by simp [hs.2.1] at hopened
      rw [Flashing, dev_afterOpen_of_opened io t hfind (h.activated hopened) hopened,
        or_iff_left hno, Flashing]
    | false =>
      have hquiet : ¬ Flashing t := fun hflash => by
        simp [h.opened_of_flashing hflash] at hopened
      rw [or_iff_right hquiet]
      by_cases hopens : (t.dev.activated = true ∨ io.init = rtEok) ∧ io.openDev = rtEok
      · obtain ⟨hready, hdev⟩ := hopens
        obtain ⟨hrx, haccepted, hrefused⟩ := dev_afterOpen_of_accepted io t hfind hopened
          (h.refCount_of_closed hopened) hready hdev
        by_cases hcontrol : io.control = rtEok
        · obtain ⟨hmode, hcounting⟩ := haccepted hcontrol
          simp [Flashing, TimerStarts, hrx, hmode, hcounting, hfind, hopened, hready, hdev,
            hcontrol]
        · have hmode := (hrefused hcontrol).trans (h.mode_activate io hopened)
          simp [Flashing, TimerStarts, hmode, hcontrol]
      · have hrx := (dev_afterOpen_of_refused io t hfind hopened hopens).1
        rw [h.detached hopened] at hrx
        refine iff_of_false ?_ fun hs => hopens ⟨hs.2.2.1, hs.2.2.2.1⟩
        intro hflash
        have hattached := hflash.1
        rw [hrx] at hattached
        cases hattached

theorem TimerSane.afterClose : TimerSane t.afterClose := by
  have hdev := dev_afterClose t h.inOrder
  have horder : t.afterClose.dev.openState.InOrder := by
    rw [openState_close]
    exact h.inOrder.afterClose _
  by_cases hcloses : t.hwDev = true ∧ t.dev.opened = true
  · rw [if_pos hcloses] at hdev
    refine ⟨horder, ?_, ?_, ?_⟩ <;> rw [hdev] <;> simp
  · rw [if_neg hcloses] at hdev
    refine ⟨horder, ?_, ?_, ?_⟩ <;> rw [hdev]
    · exact h.activated
    · exact h.detached
    · exact h.oneshot

theorem TimerSane.afterOpen [TimeoutCalc] (io : TimerIO) : TimerSane (t.afterOpen io) := by
  have hstate := openState_open io t
  have horder : (t.afterOpen io).dev.openState.InOrder := by
    rw [hstate]
    exact h.inOrder.afterOpen io
  have hopenedAfter : (t.afterOpen io).dev.opened = (t.dev.opened || io.opens t.dev.openState) :=
    congrArg OpenState.opened hstate
  have hactivatedAfter : (t.afterOpen io).dev.activated =
      (t.dev.activated || io.find && io.init = rtEok) :=
    congrArg OpenState.activated hstate
  -- A device that is still closed did not open with `RT_EOK`.
  have hstill : (t.afterOpen io).dev.opened = false → t.dev.opened = false ∧
      (t.afterOpen io).dev.rxIndicate = t.dev.rxIndicate ∧
      ((t.afterOpen io).dev.activated = true → (t.afterOpen io).dev.mode = .oneshot) := by
    intro hclosed
    rw [hopenedAfter, Bool.or_eq_false_iff] at hclosed
    obtain ⟨hopened, hopens⟩ := hclosed
    cases hfind : io.find with
    | false =>
      have hdev := dev_afterOpen_of_not_find io t hfind
      rw [hdev]
      exact ⟨hopened, rfl, h.oneshot hopened⟩
    | true =>
      have hrefused : ¬ ((t.dev.activated = true ∨ io.init = rtEok) ∧ io.openDev = rtEok) := by
        intro hready
        have hfails : ¬ (t.dev.activated = true ∨ io.init = rtEok) := by
          simpa [HwTimer.openState, hfind, hready.2, TimerIO.opens] using hopens
        exact hfails hready.1
      obtain ⟨hrx, hmode⟩ := dev_afterOpen_of_refused io t hfind hopened hrefused
      exact ⟨hopened, hrx, fun _ => hmode.trans (h.mode_activate io hopened)⟩
  refine ⟨horder, ?_, ?_, ?_⟩
  · intro hopened
    rw [hopenedAfter, Bool.or_eq_true] at hopened
    rw [hactivatedAfter]
    obtain hbefore | hopens := hopened
    · rw [h.activated hbefore, Bool.true_or]
    · simp only [HwTimer.openState, TimerIO.opens, Bool.and_eq_true] at hopens
      obtain ⟨⟨hfind, hready⟩, -⟩ := hopens
      rw [hfind, Bool.true_and]
      exact hready
  · intro hclosed
    obtain ⟨hopened, hrx, -⟩ := hstill hclosed
    rw [hrx]
    exact h.detached hopened
  · intro hclosed hactivated
    exact (hstill hclosed).2.2 hactivated

/-- An interrupt keeps the timer sane. -/
theorem TimerSane.isr : TimerSane { t with dev := (rtDeviceHwtimerIsr t.dev).1 } := by
  -- The interrupt changes the cycle counter and the running counter alone.
  obtain ⟨cycles, counting, heq, -, -⟩ := rtDeviceHwtimerIsr_eq t.dev
  rw [heq]
  exact ⟨h.inOrder, h.activated, h.detached, h.oneshot⟩

/-- `my_hwtimer_openTimer` returns `RT_EOK` exactly when it starts the timer. -/
theorem TimerSane.openTimer_result_iff [TimeoutCalc] (io : TimerIO) :
    ((myHwtimerOpenTimer io).run t).1 = rtEok ↔ TimerStarts io t := by
  unfold myHwtimerOpenTimer TimerStarts
  cases hfind : io.find with
  | false => simp [rtError, rtEok]
  | true =>
    cases hopened : t.dev.opened with
    | true =>
      have hactivated := h.activated hopened
      simp [rtDeviceOpen, run_rtDeviceActivate, HwTimer.activate, rtDeviceFlagStandalone,
        hactivated, hopened, rtEok, rtEbusy]
    | false =>
      have hopen := run_rtDeviceOpen_of_closed io { t with hwDev := true } hopened
      have hcount := h.refCount_of_closed hopened
      simp only [Prog.run_bind, Prog.run_modify, Prog.run_get, Bool.not_true,
        Bool.false_eq_true, if_false]
      by_cases hready : t.dev.activated = true ∨ io.init = rtEok
      · by_cases hdev : io.openDev = rtEok
        · simp only [hopen.trans (if_pos hready), hdev, hcount]
          by_cases hcontrol : io.control = rtEok
          · have herror : rtError ≠ rtEok := by decide
            by_cases hstart : io.start = rtEok <;>
              simp [hready, hcontrol, hstart, rtDeviceSetRxIndicate, rtDeviceControl,
                rtHwtimerControl, myHwtimerSetTimeout, rtDeviceWrite, rtHwtimerWrite,
                timerStart, herror]
          · simp [hcontrol, rtDeviceSetRxIndicate, rtDeviceControl, rtHwtimerControl]
        · simp [hopen.trans (if_pos hready), hdev]
      · have hactivated : t.dev.activated ≠ true := fun ha => hready (.inl ha)
        have hinit : io.init ≠ rtEok := fun hi => hready (.inr hi)
        simp [hopen.trans (if_neg hready), hactivated, hinit]

omit h in
/-- The timer is sane in every reachable state. -/
theorem timer_sane [CJsonParser] [TimeoutCalc] (pins : Pins) (es : List Event) :
    TimerSane (controller.run (boot pins) es).timer := by
  refine controller.run_invariant (fun w => TimerSane w.timer) ?_ es (boot pins)
    ⟨rfl, fun h => Bool.noConfusion h, fun _ => rfl, fun _ _ => rfl⟩
  exact eventStep_timer TimerSane (fun io t h => h.afterOpen io) (fun t h => h.afterClose)
    fun t h => h.isr

end

end SmartBuilding
