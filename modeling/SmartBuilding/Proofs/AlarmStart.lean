import SmartBuilding.Proofs.Flashing

/-!
# `SmartBuilding.Proofs.AlarmStart`: a start of the alarm that fails

`alarm` is the machine of the calls of `beep_change`, with timer interrupts between them.
Each call has its own answers of the device operations, so that any of them may fail.

`StartsProperly` is what a call with `true` should do when it fails: the flag of the buzzer
does not say that the alarm sounds, and the timer device is closed, so that the next start
can succeed. `beep_change` sets the flag without looking at the result, and
`my_hwtimer_openTimer` returns without closing what it opened. So a call starts properly
exactly when it does not fail at all (`alarm_start_iff`).

A second start of a running alarm is refused, and counts as failed there. The flag alone is
right also after such a call (`flag_iff`). A start that fails after the open leaves the
device open, and no later start helps (`halfDone_stays`).
-/

set_option autoImplicit false

namespace SmartBuilding

/-- One event: a call of `beep_change`, or an overflow interrupt of the timer. -/
inductive AlarmEvent where
  | call (io : TimerIO) (state : Bool)
  | timerIrq

/-- The machine of the alarm. -/
def alarm [TimeoutCalc] : Machine World AlarmEvent Unit where
  step w
    | .call io state => (beepChange io state).exec w
    | .timerIrq => timerIrq w
  out _ _ := []

section
variable [TimeoutCalc]

/-- The result of `my_hwtimer_openTimer` in a call of `beep_change` from `w`. -/
def openTimerResult (io : TimerIO) (w : World) : Int32 := ((myHwtimerOpenTimer io).run w.timer).1

/-- The call `beep_change(true)` from `w`, with the answers `io` of the device operations,
neither reports a failed start as a success nor leaves it half done. -/
structure StartsProperly (w : World) (io : TimerIO) : Prop where
  /-- The flag does not stay set when the timer does not run. -/
  flag : ¬ Flashing (alarm.step w (.call io true)).timer →
    (alarm.step w (.call io true)).devices.beepState = false
  /-- After a failed open the device is closed. -/
  closed : openTimerResult io w ≠ rtEok →
    (alarm.step w (.call io true)).timer.dev.opened = false
  /-- A start whose device operations succeed starts the alarm. -/
  starts : io = .ok → Flashing (alarm.step w (.call io true)).timer

/-- `StartsProperly` for the calls with `true`. -/
def ProperEvent (w : World) : AlarmEvent → Prop
  | .call io true => StartsProperly w io
  | _ => True

/-- The calls with `true` find the device closed, and all their device operations succeed. -/
def SucceedingEvent (w : World) : AlarmEvent → Prop
  | .call io true => TimerStarts io w.timer
  | _ => True

/-! ### One call -/

section
variable {w : World} (io : TimerIO)

theorem timer_call_true : (alarm.step w (.call io true)).timer = w.timer.afterOpen io := by
  show ((beepChange io true).exec w).timer = _
  rw [exec_beepChange]
  rfl

/-- The flag is set, whatever the result of the open was. -/
theorem beepState_call_true : (alarm.step w (.call io true)).devices.beepState = true := by
  show ((beepChange io true).exec w).devices.beepState = _
  rw [exec_beepChange]

/-- Every event keeps the timer sane. -/
theorem alarm_sane (h : TimerSane w.timer) (e : AlarmEvent) :
    TimerSane (alarm.step w e).timer := by
  cases e with
  | call io state =>
    show TimerSane ((beepChange io state).exec w).timer
    rw [exec_beepChange]
    cases state
    · exact h.afterClose
    · exact h.afterOpen io
  | timerIrq =>
    show TimerSane (timerIrq w).timer
    rw [timerIrq_eq]
    exact h.isr

/-- A start is proper exactly when it succeeds. -/
theorem startsProperly_iff (h : TimerSane w.timer) :
    StartsProperly w io ↔ TimerStarts io w.timer := by
  have htimer := timer_call_true (w := w) io
  constructor
  · intro hproper
    -- The flag is set, so the timer runs, and the device is open.
    have hflash : Flashing (w.timer.afterOpen io) := by
      by_contra hquiet
      rw [← htimer] at hquiet
      have hflag := hproper.flag hquiet
      rw [beepState_call_true] at hflag
      cases hflag
    have hopened : (w.timer.afterOpen io).dev.opened = true :=
      (h.afterOpen io).opened_of_flashing hflash
    -- So the open did not fail.
    have hresult : openTimerResult io w = rtEok := by
      by_contra hfailed
      have hclosed := hproper.closed hfailed
      rw [htimer, hopened] at hclosed
      cases hclosed
    exact (h.openTimer_result_iff io).mp hresult
  · intro hstarts
    have hflash : Flashing (alarm.step w (.call io true)).timer := by
      rw [htimer]
      exact (h.flashing_afterOpen io).mpr (.inr hstarts)
    have hresult : openTimerResult io w = rtEok := (h.openTimer_result_iff io).mpr hstarts
    exact ⟨fun hquiet => absurd hflash hquiet, fun hfailed => absurd hresult hfailed,
      fun _ => hflash⟩

/-- The flag of a start is right exactly when the alarm runs already, or the start
succeeds. -/
theorem flag_iff (h : TimerSane w.timer) :
    ((alarm.step w (.call io true)).devices.beepState = true →
        Flashing (alarm.step w (.call io true)).timer) ↔
      Flashing w.timer ∨ TimerStarts io w.timer := by
  rw [timer_call_true, h.flashing_afterOpen, beepState_call_true]
  exact ⟨fun hflag => hflag rfl, fun hflash _ => hflash⟩

/-- The device is open, and the alarm does not run. -/
def HalfDone (t : TimerSys) : Prop := t.dev.opened = true ∧ ¬ Flashing t

/-- A start does not touch a device that is open. -/
theorem halfDone_call_true (h : TimerSane w.timer) (hhalf : HalfDone w.timer) :
    HalfDone (alarm.step w (.call io true)).timer := by
  have hdev : (w.timer.afterOpen io).dev = w.timer.dev := by
    cases hfind : io.find with
    | false => exact dev_afterOpen_of_not_find io w.timer hfind
    | true => exact dev_afterOpen_of_opened io w.timer hfind (h.activated hhalf.1) hhalf.1
  rw [timer_call_true, HalfDone, Flashing, hdev]
  exact hhalf

omit [TimeoutCalc] in
/-- An interrupt does not start the alarm. -/
theorem halfDone_timerIrq (hhalf : HalfDone w.timer) : HalfDone (timerIrq w).timer := by
  obtain ⟨cycles, counting, heq, -, hcounting⟩ := rtDeviceHwtimerIsr_eq w.timer.dev
  rw [timerIrq_eq, heq]
  refine ⟨hhalf.1, ?_⟩
  rintro ⟨hrx, hmode, hcount⟩
  exact hhalf.2 ⟨hrx, hmode, (hcounting hmode).symm.trans hcount⟩

end

/-! ### Runs -/

/-- From power-on, every start of a run is proper exactly when every start finds the device
closed and succeeds. -/
theorem alarm_start_iff (pins : Pins) (es : List AlarmEvent) :
    alarm.Along ProperEvent (boot pins) es ↔ alarm.Along SucceedingEvent (boot pins) es := by
  refine alarm.along_iff_of_invariant (fun w => TimerSane w.timer) ProperEvent SucceedingEvent
    (fun w e h => alarm_sane h e) ?_ es (boot pins)
    ⟨rfl, fun h => Bool.noConfusion h, fun _ => rfl, fun _ _ => rfl⟩
  intro w e h
  cases e with
  | call io state =>
    cases state with
    | true => exact startsProperly_iff io h
    | false => exact Iff.rfl
  | timerIrq => exact Iff.rfl

/-- After a start that left the device open, only a call with `false` helps: no start and no
interrupt gets the alarm to run. -/
theorem halfDone_stays (es : List AlarmEvent) (hstarts : ∀ io, .call io false ∉ es) :
    ∀ w : World, TimerSane w.timer → HalfDone w.timer → HalfDone (alarm.run w es).timer := by
  induction es with
  | nil =>
    intro w _ hhalf
    exact hhalf
  | cons e es ih =>
    intro w h hhalf
    have hrest : ∀ io, AlarmEvent.call io false ∉ es := fun io hmem =>
      hstarts io (List.mem_cons_of_mem e hmem)
    refine ih hrest _ (alarm_sane h e) ?_
    cases e with
    | call io state =>
      cases state with
      | true => exact halfDone_call_true io h hhalf
      | false => exact absurd List.mem_cons_self (hstarts io)
    | timerIrq => exact halfDone_timerIrq hhalf

end

/-- The timeout cannot be written: the flag is set, and the alarm does not run. -/
theorem alarm_start_not_proper :
    ¬ ∀ pins es, @alarm .board |>.Along (@ProperEvent .board) (boot pins) es := by
  intro h
  have hproper := h ⟨.high, .high, .high, .high⟩ [.call { TimerIO.ok with start := rtError } true]
    [] _ List.prefix_rfl
  obtain ⟨hflag, -, -⟩ := hproper
  have hquiet := hflag (by unfold Flashing; decide)
  revert hquiet
  decide

end SmartBuilding
