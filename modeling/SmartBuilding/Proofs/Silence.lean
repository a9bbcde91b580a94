import SmartBuilding.Proofs.Controller
import SmartBuilding.Proofs.HwTimer

/-!
# `SmartBuilding.Proofs.Silence`: the alarm is silent when off and driven when on

The calls of `beep_change` run under the timer interrupt, which can occur at every point
between and inside the calls. The hardware counter keeps running after a close, so the
silence of the alarm does not come from the counter. It comes from the callback: closing the
device clears it, and only an open that gets through attaches it again.

The interrupt handler changes the counters of the timer only. The rest of the timer
(`TimerView`) is what an interrupt cannot touch, and every program below is followed along
its view. `TimerOff` and `TimerOn` are the two states between calls:

* `safe_open_off`: an open from `TimerOff` ends in `TimerOn`;
* `safe_open_on`: an open from `TimerOn` is refused and stays in `TimerOn` throughout;
* `safe_close_on`: a close from `TimerOn` ends in `TimerOff`;
* `safe_close_off`: a close from `TimerOff` stays in `TimerOff` throughout.

`alarm_follows_calls` puts them together, for every schedule of calls, actions and
interrupts.
-/

set_option autoImplicit false

namespace SmartBuilding

/-! ### The timer under interrupts -/

/-- One overflow interrupt, as the timer sees it. -/
def TimerSys.irq (t : TimerSys) : TimerSys := { t with dev := (rtDeviceHwtimerIsr t.dev).1 }

/-- The part of the timer that no interrupt changes. -/
structure TimerView where
  hwDev : Bool
  activated : Bool
  opened : Bool
  refCount : UInt8
  rxIndicate : Option RxIndicate
  mode : HwTimerMode
  opMode : HwTimerMode

/-- The view of a timer. -/
def TimerSys.seen (t : TimerSys) : TimerView where
  hwDev := t.hwDev
  activated := t.dev.activated
  opened := t.dev.opened
  refCount := t.dev.refCount
  rxIndicate := t.dev.rxIndicate
  mode := t.dev.mode
  opMode := t.dev.opMode

theorem seen_irq (t : TimerSys) : t.irq.seen = t.seen := by
  obtain ⟨cycles, counting, heq, -, -⟩ := rtDeviceHwtimerIsr_eq t.dev
  unfold TimerSys.irq TimerSys.seen
  rw [heq]

theorem stable_seen (v : TimerView) :
    Prog.Stable TimerSys.irq (fun t => t.seen = v) := by
  intro t h
  rw [seen_irq]
  exact h

/-- The closed device: no reference, and no callback. -/
structure TimerOff (t : TimerSys) : Prop where
  opened : t.dev.opened = false
  refCount : t.dev.refCount = 0
  rxIndicate : t.dev.rxIndicate = none

/-- The open device that drives the alarm: one reference, the callback attached, the
periodic mode, and the hardware counter running. -/
structure TimerOn (t : TimerSys) : Prop where
  hwDev : t.hwDev = true
  activated : t.dev.activated = true
  opened : t.dev.opened = true
  refCount : t.dev.refCount = 1
  rxIndicate : t.dev.rxIndicate = some .myTimeoutCb
  mode : t.dev.mode = .period
  opMode : t.dev.opMode = .period
  counting : t.dev.counting = true

theorem stable_timerOff : Prog.Stable TimerSys.irq TimerOff := by
  intro t h
  obtain ⟨cycles, counting, heq, -, -⟩ := rtDeviceHwtimerIsr_eq t.dev
  unfold TimerSys.irq
  rw [heq]
  exact ⟨h.opened, h.refCount, h.rxIndicate⟩

theorem stable_timerOn : Prog.Stable TimerSys.irq TimerOn := by
  intro t h
  obtain ⟨cycles, counting, heq, -, hcounting⟩ := rtDeviceHwtimerIsr_eq t.dev
  unfold TimerSys.irq
  rw [heq]
  exact ⟨h.hwDev, h.activated, h.opened, h.refCount, h.rxIndicate, h.mode, h.opMode,
    (hcounting h.mode).trans h.counting⟩

/-! ### Following a program along the view -/

section
variable {α : Type} {Q : α → TimerSys → Prop} {v : TimerView} {t : TimerSys}

/-- A program that is safe without a guarantee at its points. -/
abbrev Ends (Q : α → TimerSys → Prop) (p : Prog TimerSys α) (t : TimerSys) : Prop :=
  Prog.Safe TimerSys.irq (fun _ => True) Q p t

/-- The end of a program. -/
theorem Ends.done (a : α) (hQ : ∀ t, t.seen = v → Q a t) (h : t.seen = v) :
    Ends Q (.done a) t :=
  Prog.Safe.done (stable_seen v) (fun _ _ => trivial) hQ h

/-- An action that changes the view by `g`. -/
theorem Ends.act {f : TimerSys → TimerSys} {k : TimerSys → Prog TimerSys α}
    (g : TimerView → TimerView) (hf : ∀ t, (f t).seen = g t.seen)
    (hk : ∀ t, t.seen = g v → Ends Q (k t) t) (h : t.seen = v) : Ends Q (.act f k) t :=
  Prog.Safe.act (stable_seen v) (fun _ _ => trivial)
    (fun t ht => hk (f t) (by rw [hf, ht])) h

/-- An action that the view does not see, such as a read. -/
theorem Ends.unseen {f : TimerSys → TimerSys} {k : TimerSys → Prog TimerSys α}
    (hf : ∀ t, (f t).seen = t.seen) (hk : ∀ t, t.seen = v → Ends Q (k t) t)
    (h : t.seen = v) : Ends Q (.act f k) t :=
  Ends.act id hf hk h

end

/-! ### Opening -/

theorem modifyDev_bind {α : Type} (f : HwTimer → HwTimer) (k : Unit → Prog TimerSys α) :
    (modifyDev f >>= k) = .act (fun s => { s with dev := f s.dev }) (fun _ => k ()) := rfl

/-- The first block of `rt_device_open` activates the device. -/
private theorem ends_activate {v : TimerView} {t : TimerSys} (h : t.seen = v) :
    Ends (fun r t => r = rtEok ∧ ∃ m, t.seen = { v with activated := true, mode := m })
      (rtDeviceActivate .ok) t := by
  unfold rtDeviceActivate
  rw [Prog.get_bind]
  refine Ends.unseen (fun _ => rfl) (fun t ht => ?_) h
  -- An interrupt cannot change the flag between the test and the branch.
  cases hact : t.dev.activated with
  | true =>
    have hv : v.activated = true := by rw [← ht]; exact hact
    refine Ends.done rtEok (fun t ht => ⟨rfl, v.mode, ?_⟩) ht
    rw [ht, ← hv]
  | false =>
    simp only [rtHwtimerInit, modifyDev_bind, Bool.false_eq_true, if_false]
    refine Ends.act (fun v => { v with mode := .oneshot }) (fun _ => rfl) (fun t ht => ?_) ht
    refine Ends.unseen (fun _ => rfl) (fun t ht => ?_) ht
    refine Ends.act (fun v => { v with activated := true }) (fun _ => rfl) (fun t ht => ?_) ht
    exact Ends.done rtEok (fun t ht => ⟨rfl, .oneshot, ht⟩) ht

/-- `rt_device_open` of a closed device opens it with one reference. -/
private theorem ends_rtDeviceOpen {v : TimerView} {t : TimerSys} (hopened : v.opened = false)
    (hcount : v.refCount = 0) (h : t.seen = v) :
    Ends (fun r t => r = rtEok ∧
        ∃ m, t.seen = { v with activated := true, opened := true, refCount := 1, mode := m })
      (rtDeviceOpen .ok) t := by
  unfold rtDeviceOpen
  refine Prog.Safe.bind (ends_activate h) ?_
  rintro _ t ⟨rfl, m, ht⟩
  simp only [ne_eq, not_true, if_false, Prog.get_bind]
  refine Ends.unseen (fun _ => rfl) (fun t ht => ?_) ht
  -- Closed, so the stand-alone test lets the open through.
  have hclosed : t.dev.opened = false := (congrArg TimerView.opened ht).trans hopened
  simp only [hclosed, Bool.and_false, Bool.false_eq_true, if_false, rtHwtimerOpen,
    TimerIO.ok, Prog.pure_eq, Prog.done_bind, true_or, if_true, modifyDev_bind]
  refine Ends.act (fun v => { v with opened := true }) (fun _ => rfl) (fun t ht => ?_) ht
  refine Ends.act (fun v => { v with refCount := v.refCount + 1 }) (fun _ => rfl)
    (fun t ht => ?_) ht
  refine Ends.done rtEok (fun t ht => ⟨rfl, m, ?_⟩) ht
  rw [ht, hcount]
  rfl

/-- The timer with everything of `TimerOn` but the hardware: the callback is attached in the
periodic mode. -/
private def readyView (opMode : HwTimerMode) : TimerView where
  hwDev := true
  activated := true
  opened := true
  refCount := 1
  rxIndicate := some .myTimeoutCb
  mode := .period
  opMode := opMode

/-- `rt_hwtimer_write` starts the hardware in the periodic mode. -/
private theorem ends_write [TimeoutCalc] (tv : TimeVal) {m : HwTimerMode} {t : TimerSys}
    (h : t.seen = readyView m) :
    Ends (fun r t => r = true ∧ TimerOn t) (rtHwtimerWrite .ok tv) t := by
  unfold rtHwtimerWrite
  simp only [modifyDev_bind, Prog.get_bind]
  refine Ends.unseen (fun _ => rfl) (fun t ht => ?_) h
  refine Ends.unseen (fun _ => rfl) (fun t ht => ?_) ht
  refine Ends.unseen (fun _ => rfl) (fun t ht => ?_) ht
  refine Ends.unseen (fun _ => rfl) (fun t ht => ?_) ht
  -- The mode was set before, so the counter starts in the periodic mode.
  have hmode : t.dev.mode = .period := congrArg TimerView.mode ht
  have hopm : (if t.dev.cycles ≤ 1 ∧ t.dev.mode = .oneshot then HwTimerMode.oneshot
      else .period) = .period := by
    simp [hmode]
  simp only [hopm, timerStart, TimerIO.ok, if_true, modifyDev_bind, Prog.act_bind,
    Prog.pure_eq, Prog.done_bind, decide_true]
  refine Ends.act (fun v => { v with opMode := .period }) (fun _ => rfl) (fun t ht => ?_) ht
  -- The last write starts the counter. From here on the whole of `TimerOn` holds.
  refine Prog.Safe.act (stable_seen _) (fun _ _ => trivial) (fun t ht => ?_) ht
  refine Prog.Safe.done stable_timerOn (fun _ _ => trivial) (fun t ht => ⟨rfl, ht⟩) ?_
  exact ⟨congrArg TimerView.hwDev ht, congrArg TimerView.activated ht,
    congrArg TimerView.opened ht, congrArg TimerView.refCount ht,
    congrArg TimerView.rxIndicate ht, congrArg TimerView.mode ht,
    congrArg TimerView.opMode ht, rfl⟩

/-- Writing the timeout starts the hardware in the periodic mode. -/
private theorem ends_setTimeout [TimeoutCalc] {m : HwTimerMode} {t : TimerSys}
    (h : t.seen = readyView m) : Ends (fun _ => TimerOn) (myHwtimerSetTimeout .ok) t := by
  unfold myHwtimerSetTimeout rtDeviceWrite
  simp only [Prog.modify_bind, Prog.get_bind, Prog.act_bind]
  refine Ends.unseen (fun _ => rfl) (fun t ht => ?_) h
  refine Ends.unseen (fun _ => rfl) (fun t ht => ?_) ht
  refine Ends.unseen (fun _ => rfl) (fun t ht => ?_) ht
  refine Ends.unseen (fun _ => rfl) (fun t ht => ?_) ht
  have hcount : t.dev.refCount = 1 := congrArg TimerView.refCount ht
  have hopen : ¬ t.dev.refCount = 0 := by rw [hcount]; decide
  rw [if_neg hopen]
  refine Prog.Safe.bind (ends_write _ ht) ?_
  rintro _ t ⟨rfl, hon⟩
  refine Prog.Safe.act stable_timerOn (fun _ _ => trivial) (fun t hon => ?_) hon
  exact Prog.Safe.done stable_timerOn (fun _ _ => trivial) (fun _ h => h) hon

/-- An open from the closed device ends with the alarm driven. -/
theorem safe_open_off [TimeoutCalc] {t : TimerSys} (h : TimerOff t) :
    Ends (fun _ => TimerOn) (myHwtimerOpenTimer .ok) t := by
  unfold myHwtimerOpenTimer
  simp only [Prog.modify_bind, Prog.get_bind]
  refine Ends.act (v := t.seen) (fun v => { v with hwDev := true }) (fun _ => rfl)
    (fun t' ht => ?_) rfl
  refine Ends.unseen (fun _ => rfl) (fun t' ht => ?_) ht
  have hfound : t'.hwDev = true := congrArg TimerView.hwDev ht
  simp only [hfound, Bool.not_true, Bool.false_eq_true, if_false]
  -- The device opens with one reference. Then the callback, the mode and the timeout.
  refine Prog.Safe.bind (ends_rtDeviceOpen h.opened h.refCount ht) ?_
  rintro _ t' ⟨rfl, m, ht⟩
  simp only [ne_eq, not_true, if_false]
  refine Ends.unseen (fun _ => rfl) (fun t' ht => ?_) ht
  refine Ends.act (fun v => { v with rxIndicate := some .myTimeoutCb }) (fun _ => rfl)
    (fun t' ht => ?_) ht
  simp only [rtDeviceControl, rtHwtimerControl, TimerIO.ok, if_true, modifyDev_bind,
    Prog.act_bind, Prog.pure_eq, Prog.done_bind]
  refine Ends.act (fun v => { v with mode := .period }) (fun _ => rfl) (fun t' ht => ?_) ht
  refine Ends.unseen (fun _ => rfl) (fun t' ht => ?_) ht
  exact ends_setTimeout (m := t.seen.opMode) ht

/-- An open from the driven alarm is refused. The alarm stays driven at every point. -/
theorem safe_open_on [TimeoutCalc] {t : TimerSys} (h : TimerOn t) :
    Prog.Safe TimerSys.irq TimerOn (fun _ => TimerOn) (myHwtimerOpenTimer .ok) t := by
  unfold myHwtimerOpenTimer rtDeviceOpen rtDeviceActivate
  simp only [Prog.modify_bind, Prog.get_bind, Prog.act_bind, Prog.bind_assoc]
  refine Prog.Safe.act stable_timerOn (fun _ h => h) (fun t h => ?_) h
  refine Prog.Safe.act stable_timerOn (fun _ h => h) (fun t h => ?_)
    (⟨rfl, h.activated, h.opened, h.refCount, h.rxIndicate, h.mode, h.opMode, h.counting⟩)
  simp only [id, h.hwDev, Bool.not_true, Bool.false_eq_true, if_false]
  refine Prog.Safe.act stable_timerOn (fun _ h => h) (fun t h => ?_) h
  simp only [id, h.activated, if_true, Prog.pure_eq, Prog.done_bind, ne_eq, not_true, if_false]
  refine Prog.Safe.act stable_timerOn (fun _ h => h) (fun t h => ?_) h
  -- The device is open, so the stand-alone rule refuses the call.
  simp only [id, h.opened, rtDeviceFlagStandalone, Bool.and_self, if_true]
  refine Prog.Safe.act stable_timerOn (fun _ h => h) (fun t h => ?_) h
  exact Prog.Safe.done stable_timerOn (fun _ h => h) (fun _ h => h)
    ⟨h.hwDev, h.activated, h.opened, h.refCount, h.rxIndicate, h.mode, h.opMode, h.counting⟩

/-! ### Closing -/

/-- A close from the driven alarm ends with the device closed. -/
theorem safe_close_on {t : TimerSys} (h : TimerOn t) :
    Ends (fun _ => TimerOff) myHwtimerCloseTimer t := by
  unfold myHwtimerCloseTimer rtDeviceClose rtHwtimerClose
  simp only [Prog.modify_bind, Prog.get_bind, Prog.act_bind, modifyDev_bind]
  refine Ends.unseen (v := t.seen) (fun _ => rfl) (fun t' ht => ?_) rfl
  have hfound : t'.hwDev = true := (congrArg TimerView.hwDev ht).trans h.hwDev
  simp only [hfound, Bool.not_true, Bool.false_eq_true, if_false]
  refine Ends.unseen (fun _ => rfl) (fun t' ht => ?_) ht
  have hcount : t'.dev.refCount = 1 := (congrArg TimerView.refCount ht).trans h.refCount
  have hopen : ¬ t'.dev.refCount = 0 := by rw [hcount]; decide
  rw [if_neg hopen]
  refine Ends.act (fun v => { v with refCount := v.refCount - 1 }) (fun _ => rfl)
    (fun t' ht => ?_) ht
  refine Ends.unseen (fun _ => rfl) (fun t' ht => ?_) ht
  -- That was the last reference, so the device itself is closed.
  have hlast : t'.dev.refCount = 0 := by
    have hcount := congrArg TimerView.refCount ht
    simp only [TimerSys.seen, h.refCount] at hcount
    rw [hcount]
    decide
  simp only [hlast, ne_eq, not_true, if_false]
  refine Ends.act (fun v => { v with activated := false }) (fun _ => rfl) (fun t' ht => ?_) ht
  refine Ends.act (fun v => { v with rxIndicate := none }) (fun _ => rfl) (fun t' ht => ?_) ht
  refine Ends.act (fun v => { v with opened := false }) (fun _ => rfl) (fun t' ht => ?_) ht
  refine Ends.unseen (fun _ => rfl) (fun t' ht => ?_) ht
  refine Ends.done _ (fun t' ht => ?_) ht
  refine ⟨congrArg TimerView.opened ht, ?_, congrArg TimerView.rxIndicate ht⟩
  have hcount := congrArg TimerView.refCount ht
  simp only [TimerSys.seen, h.refCount] at hcount
  rw [hcount]
  decide

/-- A close of the closed device is refused. The device stays closed at every point. -/
theorem safe_close_off {t : TimerSys} (h : TimerOff t) :
    Prog.Safe TimerSys.irq TimerOff (fun _ => TimerOff) myHwtimerCloseTimer t := by
  unfold myHwtimerCloseTimer rtDeviceClose
  simp only [Prog.modify_bind, Prog.get_bind, Prog.act_bind]
  refine Prog.Safe.act stable_timerOff (fun _ h => h) (fun t h => ?_) h
  cases hhandle : t.hwDev with
  | false =>
    simp only [id, hhandle, Bool.not_false, if_true]
    exact Prog.Safe.done stable_timerOff (fun _ h => h) (fun _ h => h) h
  | true =>
    simp only [id, hhandle, Bool.not_true, Bool.false_eq_true, if_false]
    refine Prog.Safe.act stable_timerOff (fun _ h => h) (fun t h => ?_) h
    -- Without a reference `rt_device_close` returns at once.
    simp only [id, h.refCount, if_true, Prog.pure_eq, Prog.done_bind]
    refine Prog.Safe.act stable_timerOff (fun _ h => h) (fun t h => ?_) h
    exact Prog.Safe.done stable_timerOff (fun _ h => h) (fun _ h => h)
      ⟨h.opened, h.refCount, h.rxIndicate⟩

/-! ### The alarm under interrupts -/

theorem timerIrq_timer (w : World) : (timerIrq w).timer = w.timer.irq := by
  rw [timerIrq_eq]
  rfl

theorem timerIrq_devices (w : World) : (timerIrq w).devices = w.devices := by
  rw [timerIrq_eq]

/-- The alarm is silent: the timer is off, the red light and the buzzer are off, and so are
the two flags. -/
structure Silent (w : World) : Prop where
  timer : TimerOff w.timer
  led0 : w.pins.led0 = .high
  beep : w.pins.beep = .low
  led0State : w.devices.led0State = false
  beepState : w.devices.beepState = false

/-- The alarm is driven: the timer is on, and so are the two flags. -/
structure Driven (w : World) : Prop where
  timer : TimerOn w.timer
  led0State : w.devices.led0State = true
  beepState : w.devices.beepState = true

/-- With the timer off, an interrupt changes the timer alone. -/
theorem timerIrq_of_off {w : World} (h : TimerOff w.timer) :
    timerIrq w = w.putTimer w.timer.irq := by
  rw [timerIrq_eq, isr_callback, h.rxIndicate]
  simp only [ite_self]
  rfl

/-- With the timer off, what does not speak of the timer is stable. -/
private theorem stable_off {B : World → Prop} (hB : ∀ w t, B w → B (w.putTimer t)) :
    Prog.Stable timerIrq (fun w => TimerOff w.timer ∧ B w) := by
  rintro w ⟨hoff, h⟩
  rw [timerIrq_of_off hoff]
  exact ⟨stable_timerOff _ hoff, hB _ _ h⟩

/-- With the timer on, what speaks of the flags alone is stable. -/
private theorem stable_on {B : Devices → Prop} :
    Prog.Stable timerIrq (fun w => TimerOn w.timer ∧ B w.devices) := by
  rintro w ⟨hon, h⟩
  rw [timerIrq_timer, timerIrq_devices]
  exact ⟨stable_timerOn _ hon, h⟩

/-- An assertion that the writes of `beep_change(false)` and every change of the timer
keep. -/
private structure KeptBySilence (R : World → Prop) : Prop where
  put : ∀ w t, R w → R (w.putTimer t)
  led0 : ∀ w, R w → R (w.setPins fun p => { p with led0 := .high })
  beep : ∀ w, R w → R (w.setPins fun p => { p with beep := .low })
  led0State : ∀ w, R w → R (setDevproLed0State false w)
  beepState : ∀ w, R w → R (setDevproBeepState false w)

private theorem keptBySilence_true : KeptBySilence fun _ => True :=
  ⟨fun _ _ _ => trivial, fun _ _ => trivial, fun _ _ => trivial, fun _ _ => trivial,
    fun _ _ => trivial⟩

/-- The pins and the flags of the silent state survive every write of the call. -/
private theorem keptBySilence_silent : KeptBySilence fun w =>
    w.pins.led0 = .high ∧ w.pins.beep = .low ∧
      w.devices.led0State = false ∧ w.devices.beepState = false :=
  ⟨fun _ _ h => h, fun _ h => ⟨rfl, h.2⟩, fun _ h => ⟨h.1, rfl, h.2.2⟩,
    fun _ h => ⟨h.1, h.2.1, rfl, h.2.2.2⟩, fun _ h => ⟨h.1, h.2.1, h.2.2.1, rfl⟩⟩

/-- The end of `beep_change(false)`: from a timer that is off, the writes to the pins and to
the flags end in silence. `R` is what holds throughout. -/
private theorem safe_silence {R : World → Prop} (hR : KeptBySilence R) {w : World}
    (hoff : TimerOff w.timer) (h : R w) :
    Prog.Safe timerIrq (fun w => TimerOff w.timer ∧ R w) (fun _ => Silent)
      (do
        Prog.modify fun w => w.setPins fun p => { p with led0 := .high }
        Prog.modify fun w => w.setPins fun p => { p with beep := .low }
        Prog.modify (setDevproLed0State false)
        Prog.modify (setDevproBeepState false)) w := by
  simp only [Prog.modify_bind]
  -- Each write adds its own field to what the assertion says.
  refine Prog.Safe.act (stable_off hR.put) (fun _ h => h) (fun w h => ?_) ⟨hoff, h⟩
  refine Prog.Safe.act
    (stable_off (B := fun w => R w ∧ w.pins.led0 = .high)
      fun w t h => ⟨hR.put w t h.1, h.2⟩)
    (fun _ h => ⟨h.1, h.2.1⟩) (fun w h => ?_) ⟨h.1, hR.led0 _ h.2, rfl⟩
  refine Prog.Safe.act
    (stable_off (B := fun w => R w ∧ w.pins.led0 = .high ∧ w.pins.beep = .low)
      fun w t h => ⟨hR.put w t h.1, h.2⟩)
    (fun _ h => ⟨h.1, h.2.1⟩) (fun w h => ?_) ⟨h.1, hR.beep _ h.2.1, h.2.2, rfl⟩
  refine Prog.Safe.act
    (stable_off (B := fun w => R w ∧ w.pins.led0 = .high ∧ w.pins.beep = .low ∧
      w.devices.led0State = false) fun w t h => ⟨hR.put w t h.1, h.2⟩)
    (fun _ h => ⟨h.1, h.2.1⟩) (fun w h => ?_)
    ⟨h.1, hR.led0State _ h.2.1, h.2.2.1, h.2.2.2, rfl⟩
  refine Prog.Safe.done
    (stable_off (B := fun w => R w ∧ w.pins.led0 = .high ∧ w.pins.beep = .low ∧
      w.devices.led0State = false ∧ w.devices.beepState = false)
      fun w t h => ⟨hR.put w t h.1, h.2⟩)
    (fun _ h => ⟨h.1, h.2.1⟩)
    (fun w h => ⟨h.1, h.2.2.1, h.2.2.2.1, h.2.2.2.2.1, h.2.2.2.2.2⟩)
    ⟨h.1, hR.beepState _ h.2.1, h.2.2.1, h.2.2.2.1, h.2.2.2.2, rfl⟩

/-- The end of `beep_change(true)`: with the timer on, the writes to the flags end with the
alarm driven. `R` is what holds of the flags throughout. -/
private theorem safe_drive {R : Devices → Prop}
    (hflag0 : ∀ d, R d → R { d with led0State := true })
    (hflag1 : ∀ d, R d → R { d with beepState := true }) {w : World}
    (hon : TimerOn w.timer) (h : R w.devices) :
    Prog.Safe timerIrq (fun w => TimerOn w.timer ∧ R w.devices) (fun _ => Driven)
      (do
        Prog.modify (setDevproLed0State true)
        Prog.modify (setDevproBeepState true)) w := by
  simp only [Prog.modify_bind]
  refine Prog.Safe.act stable_on (fun _ h => h) (fun w h => ?_) ⟨hon, h⟩
  refine Prog.Safe.act (stable_on (B := fun d => R d ∧ d.led0State = true))
    (fun _ h => ⟨h.1, h.2.1⟩) (fun w h => ?_) ⟨h.1, hflag0 _ h.2, rfl⟩
  exact Prog.Safe.done
    (stable_on (B := fun d => R d ∧ d.led0State = true ∧ d.beepState = true))
    (fun _ h => ⟨h.1, h.2.1⟩) (fun w h => ⟨h.1, h.2.2.1, h.2.2.2⟩)
    ⟨h.1, hflag1 _ h.2.1, h.2.2, rfl⟩

private theorem beepChange_false [TimeoutCalc] (io : TimerIO) :
    beepChange io false = onTimer myHwtimerCloseTimer >>= fun _ => (do
      Prog.modify fun w => w.setPins fun p => { p with led0 := .high }
      Prog.modify fun w => w.setPins fun p => { p with beep := .low }
      Prog.modify (setDevproLed0State false)
      Prog.modify (setDevproBeepState false)) := by
  simp only [beepChange, Bool.not_false, if_true]

private theorem beepChange_true [TimeoutCalc] (io : TimerIO) :
    beepChange io true = onTimer (myHwtimerOpenTimer io) >>= fun _ => (do
      Prog.modify (setDevproLed0State true)
      Prog.modify (setDevproBeepState true)) := by
  simp only [beepChange, Bool.not_true, Bool.false_eq_true, if_false]

/-- A timer program in the world. `R` is what holds of the rest of the world throughout. -/
private theorem safe_onTimer {α : Type} {G : TimerSys → Prop} {Q : α → TimerSys → Prop}
    {R : World → Prop} (hput : ∀ w t, R w → R (w.putTimer t))
    (hirq : ∀ w, R w → G w.timer → R (timerIrq w)) {p : Prog TimerSys α} {w : World}
    (hp : Prog.Safe TimerSys.irq G Q p w.timer) (h : R w) :
    Prog.Safe timerIrq (fun w => G w.timer ∧ R w) (fun a w => Q a w.timer ∧ R w)
      (onTimer p) w :=
  Prog.Safe.zoom (fun _ _ => rfl) timerIrq_timer hput hirq hp h

section
variable [TimeoutCalc] {w : World}

/-- A call with `false` while the timer is off ends in silence. `R` holds throughout. -/
private theorem safe_false_off {R : World → Prop} (hR : KeptBySilence R)
    (hoff : TimerOff w.timer) (h : R w) :
    Prog.Safe timerIrq (fun w => TimerOff w.timer ∧ R w) (fun _ => Silent)
      (beepChange .ok false) w := by
  rw [beepChange_false]
  refine Prog.Safe.bind (safe_onTimer hR.put (fun w hw hoff => ?_) (safe_close_off hoff) h) ?_
  · rw [timerIrq_of_off hoff]
    exact hR.put _ _ hw
  · rintro _ w ⟨hoff, h⟩
    exact safe_silence hR hoff h

/-- A call with `false` while the alarm is driven ends in silence. -/
private theorem safe_false_on (h : Driven w) :
    Prog.Safe timerIrq (fun _ => True) (fun _ => Silent) (beepChange .ok false) w := by
  rw [beepChange_false]
  have hclose := safe_onTimer (R := fun _ => True) (fun _ _ _ => trivial)
    (fun _ _ _ => trivial) (safe_close_on h.timer) trivial
  refine Prog.Safe.bind (hclose.mono (fun _ _ => trivial) fun _ _ h => h) ?_
  rintro _ w ⟨hoff, -⟩
  exact (safe_silence keptBySilence_true hoff trivial).mono (fun _ _ => trivial)
    fun _ _ h => h

/-- A call with `true` while the timer is off ends with the alarm driven. -/
private theorem safe_true_off (h : TimerOff w.timer) :
    Prog.Safe timerIrq (fun _ => True) (fun _ => Driven) (beepChange .ok true) w := by
  rw [beepChange_true]
  have hopen := safe_onTimer (R := fun _ => True) (fun _ _ _ => trivial)
    (fun _ _ _ => trivial) (safe_open_off h) trivial
  refine Prog.Safe.bind (hopen.mono (fun _ _ => trivial) fun _ _ h => h) ?_
  rintro _ w ⟨hon, -⟩
  exact (safe_drive (R := fun _ => True) (fun _ _ => trivial) (fun _ _ => trivial) hon
    trivial).mono (fun _ _ => trivial) fun _ _ h => h

/-- A call with `true` while the alarm is driven keeps it driven throughout. -/
private theorem safe_true_on (h : Driven w) :
    Prog.Safe timerIrq Driven (fun _ => Driven) (beepChange .ok true) w := by
  rw [beepChange_true]
  have hopen := safe_onTimer
    (R := fun w => w.devices.led0State = true ∧ w.devices.beepState = true)
    (fun _ _ h => h) (fun w h _ => by rw [timerIrq_devices]; exact h) (safe_open_on h.timer)
    ⟨h.led0State, h.beepState⟩
  have hdriven : ∀ w : World, (TimerOn w.timer ∧
      w.devices.led0State = true ∧ w.devices.beepState = true) → Driven w :=
    fun w h => ⟨h.1, h.2.1, h.2.2⟩
  refine Prog.Safe.bind (hopen.mono hdriven fun _ _ h => h) ?_
  rintro _ w ⟨hon, hflags⟩
  exact (safe_drive (R := fun d => d.led0State = true ∧ d.beepState = true)
    (fun _ h => ⟨rfl, h.2⟩) (fun _ h => ⟨h.1, rfl⟩) hon hflags).mono hdriven fun _ _ h => h

end

/-! ### Schedules -/

/-- What holds between two calls, for the state that the last call requested. -/
def AlarmAtRest : Option Bool → World → Prop
  | none, w => TimerOff w.timer
  | some false, w => Silent w
  | some true, w => Driven w

/-- What holds at every point of a call: a call that requests the state of the last call
keeps what the last call left. -/
def AlarmDuring (last : Option Bool) (state : Bool) (w : World) : Prop :=
  last = some state → AlarmAtRest (some state) w

theorem stable_atRest (last : Option Bool) : Prog.Stable timerIrq (AlarmAtRest last) := by
  intro w h
  match last, h with
  | none, h =>
    show TimerOff (timerIrq w).timer
    rw [timerIrq_timer]
    exact stable_timerOff _ h
  | some false, h =>
    have h : Silent w := h
    show Silent (timerIrq w)
    rw [timerIrq_of_off h.timer]
    exact ⟨stable_timerOff _ h.timer, h.led0, h.beep, h.led0State, h.beepState⟩
  | some true, h =>
    have h : Driven w := h
    refine ⟨?_, ?_, ?_⟩
    · rw [timerIrq_timer]; exact stable_timerOn _ h.timer
    · rw [timerIrq_devices]; exact h.led0State
    · rw [timerIrq_devices]; exact h.beepState

/-- Each call is safe, whatever the last call requested. -/
theorem safe_beepChange [TimeoutCalc] (last : Option Bool) (state : Bool) (w : World)
    (h : AlarmAtRest last w) :
    Prog.Safe timerIrq (AlarmDuring last state) (fun _ => AlarmAtRest (some state))
      (beepChange .ok state) w := by
  have hfree : ∀ w, last ≠ some state → AlarmDuring last state w :=
    fun _ hne heq => absurd heq hne
  match last, state, h with
  | none, false, h =>
    exact (safe_false_off keptBySilence_true h trivial).mono (fun w _ => hfree w (by simp))
      fun _ _ h => h
  | none, true, h =>
    exact (safe_true_off h).mono (fun w _ => hfree w (by simp)) fun _ _ h => h
  | some false, true, h =>
    have h : Silent w := h
    exact (safe_true_off h.timer).mono (fun w _ => hfree w (by simp)) fun _ _ h => h
  | some true, false, h =>
    exact (safe_false_on h).mono (fun w _ => hfree w (by simp)) fun _ _ h => h
  | some true, true, h =>
    exact (safe_true_on h).mono (fun w h _ => h) fun _ _ h => h
  | some false, false, h =>
    have h : Silent w := h
    have hsafe := safe_false_off keptBySilence_silent h.timer
      ⟨h.led0, h.beep, h.led0State, h.beepState⟩
    exact hsafe.mono (fun w h _ => ⟨h.1, h.2.1, h.2.2.1, h.2.2.2.1, h.2.2.2.2⟩)
      fun _ _ h => h

/-- The calls of `beep_change` under the timer interrupt. -/
def alarmCalls [TimeoutCalc] : Machine (Caller World Bool) (Sched Bool) Empty :=
  interruptible (beepChange .ok) timerIrq

/-- The alarm is silent when the last completed call requested it and no call with the other
state runs: BEEP is low and LED0 is high, no tick changes a pin, and both flags are off. -/
def SilentFor (w : World) : Prop :=
  w.pins.beep = .low ∧ w.pins.led0 = .high ∧ (timerIrq w).pins = w.pins ∧
    w.devices.beepState = false ∧ w.devices.led0State = false

/-- The alarm is driven: the callback is attached to the open timer, the timer runs in the
periodic mode, each tick that is an expiry toggles BEEP and LED0, and both flags are on. -/
def DrivenFor (w : World) : Prop :=
  w.timer.dev.opened = true ∧ w.timer.dev.rxIndicate = some .myTimeoutCb ∧
    w.timer.dev.mode = .period ∧ w.timer.dev.opMode = .period ∧
    w.timer.dev.counting = true ∧
    (w.timer.dev.expires = true → (timerIrq w).pins =
      { w.pins with led0 := w.pins.led0.toggle, beep := w.pins.beep.toggle }) ∧
    w.devices.beepState = true ∧ w.devices.led0State = true

/-- Start with a closed timer, and take any schedule of calls, actions and timer interrupts.
After a completed call with `false`, and until a call with `true` starts, the alarm is
silent. After a completed call with `true`, and until a call with `false` starts, it is
driven. -/
theorem alarm_follows_calls [TimeoutCalc] (w : World) (hclosed : TimerOff w.timer)
    (es : List (Sched Bool)) (state : Bool)
    (hlast : (alarmCalls.run (.start w) es).last = some state)
    (hcurrent : ∀ call ∈ (alarmCalls.run (.start w) es).current, call.1 = state) :
    if state then DrivenFor (alarmCalls.run (.start w) es).mem
    else SilentFor (alarmCalls.run (.start w) es).mem := by
  have horder := interruptible_invariant (beepChange .ok) timerIrq AlarmAtRest AlarmDuring
    stable_atRest safe_beepChange w hclosed es
  change (alarmCalls.run (.start w) es).InOrder timerIrq AlarmAtRest AlarmDuring at horder
  generalize alarmCalls.run (.start w) es = c at hlast hcurrent horder ⊢
  obtain ⟨mem, current, last⟩ := c
  have hlast : last = some state := hlast
  subst hlast
  have hrest : AlarmAtRest (some state) mem := by
    cases current with
    | none => exact horder
    | some call =>
      obtain ⟨b, p⟩ := call
      have hb : b = state := hcurrent (b, p) rfl
      subst hb
      have hsafe : Prog.Safe timerIrq (AlarmDuring (some b) b)
        (fun _ => AlarmAtRest (some b)) p mem := horder
      -- The running call asks for the state that the last one left.
      exact hsafe.guarantee rfl
  cases state with
  | false =>
    have h : Silent mem := hrest
    have htick : (timerIrq mem).pins = mem.pins := by rw [timerIrq_of_off h.timer]; rfl
    exact ⟨h.beep, h.led0, htick, h.beepState, h.led0State⟩
  | true =>
    have h : Driven mem := hrest
    refine ⟨h.timer.opened, h.timer.rxIndicate, h.timer.mode, h.timer.opMode,
      h.timer.counting, fun hexpires => ?_, h.beepState, h.led0State⟩
    -- An expiry runs the attached callback, which toggles the two pins.
    rw [timerIrq_eq, isr_callback, hexpires, if_pos rfl, h.timer.rxIndicate]
    rfl

/-- The schedule of one call with `true` on a board after boot: an interrupt during the call,
the actions of the call, and two interrupts after it. -/
def oneCall : List (Sched Bool) :=
  .call true :: .irq :: List.replicate 27 .cpu ++ [.irq, .irq]

/-- After that schedule the alarm is driven. -/
theorem alarm_driven_after_one_call :
    DrivenFor ((@alarmCalls TimeoutCalc.board).run
      (.start (boot ⟨.low, .low, .low, .low⟩)) oneCall).mem :=
  @alarm_follows_calls TimeoutCalc.board _ ⟨rfl, rfl, rfl⟩ oneCall true rfl
    (fun call h => nomatch (h : none = some call))

end SmartBuilding
