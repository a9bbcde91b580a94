import SmartBuilding.TimerPeriod
import SmartBuilding.Proofs.HwTimer

/-!
# `SmartBuilding.Proofs.TimerPeriod`: the bounds of the period of the alarm timer

The timeout is always the timeout of some number of milliseconds (`PeriodSet`), so reading the
period back is exact (`tempTime_timeoutOfMs`). A call of `my_hwtimer_addTime` clamps at the
upper bound alone, and one of `my_hwtimer_subTime` at the lower bound alone. So a successful
call leaves a period within the bounds exactly when the sum or the difference respects the
other bound, and no operation on `int` overflows exactly when it fits (`period_stays_iff`).

The period that `my_hwtimer_openTimer` programs is below the lower bound itself, so already
the first call of `my_hwtimer_addTime` can leave a period that is too short.
-/

set_option autoImplicit false

namespace SmartBuilding

open CInt (Fits)

/-! ### The statement -/

/-- The period of a timeout in milliseconds. -/
def TimeVal.periodMs (tv : TimeVal) : Int := tv.sec.toInt * 1000 + tv.usec.toInt.tdiv 1000

/-- The programmed period is within its bounds, and the timeout is in its normal form. -/
structure PeriodInBounds (tv : TimeVal) : Prop where
  low : myHwtimerMinTime.toInt ≤ tv.periodMs
  high : tv.periodMs ≤ myHwtimerMaxTime.toInt
  sec : 0 ≤ tv.sec.toInt
  usec : 0 ≤ tv.usec.toInt ∧ tv.usec.toInt < 1000000

/-- A call of `prog` from `s` that changes the period: when it is successful, the period after
it is within its bounds, and none of its operations `ints` on `int` overflows. -/
def ProperChange (s : TimerSys) (prog : Prog TimerSys Int32) (ints : List Int) : Prop :=
  ((prog.run s).1 = rtEok → PeriodInBounds (prog.run s).2.timeoutS) ∧ ∀ n ∈ ints, Fits n

/-- What should hold of a call from `s`. -/
def ProperCall [TimeoutCalc] (s : TimerSys) : TimerCall → Prop
  | .addTime io ms => ProperChange s (myHwtimerAddTime io ms) (addTimeInts s ms)
  | .subTime io ms => ProperChange s (myHwtimerSubTime io ms) (subTimeInts s ms)
  | _ => True

/-- A call that changes the period succeeds: the device is open, its hardware starts, and the
last call that set `ret` succeeded. -/
def ChangeSucceeds (s : TimerSys) (io : TimerIO) : Prop :=
  s.dev.refCount ≠ 0 ∧ io.start = rtEok ∧ s.ret = rtEok

/-- The condition on a call from `s`: the sum or the difference fits, and respects the bound
that the function does not look at. -/
def BoundedCall (s : TimerSys) : TimerCall → Prop
  | .addTime io ms =>
      s.hwDev = true →
        Fits (s.timeoutS.periodMs + ms.toInt) ∧
          (ChangeSucceeds s io → myHwtimerMinTime.toInt ≤ s.timeoutS.periodMs + ms.toInt)
  | .subTime io ms =>
      s.hwDev = true →
        Fits (s.timeoutS.periodMs - ms.toInt) ∧
          (ChangeSucceeds s io → s.timeoutS.periodMs - ms.toInt ≤ myHwtimerMaxTime.toInt)
  | _ => True

/-! ### The timeout of a number of milliseconds -/

section
variable (ms : Int32)

theorem sec_timeoutOfMs : (timeoutOfMs ms).sec.toInt = ms.toInt.tdiv 1000 :=
  Int32.toInt_div_of_ne_right ms 1000 (by decide)

/-- The rest of a second, in microseconds, fits. -/
theorem fits_usec : Fits ((ms % 1000).toInt * 1000) := by
  have hrem : (ms % 1000).toInt = ms.toInt.tmod 1000 := Int32.toInt_mod ms 1000
  obtain ⟨-, hcases⟩ := CInt.tdiv_tmod_cases ms.toInt (show (0 : Int) < 1000 by decide)
  unfold Fits
  omega

theorem usec_timeoutOfMs : (timeoutOfMs ms).usec.toInt = ms.toInt.tmod 1000 * 1000 := by
  have hrem : (ms % 1000).toInt = ms.toInt.tmod 1000 := Int32.toInt_mod ms 1000
  have hmul : (ms % 1000 * 1000).toInt = (ms % 1000).toInt * 1000 :=
    CInt.toInt_mul_of_fits (fits_usec ms)
  show (ms % 1000 * 1000).toInt = _
  rw [hmul, hrem]

theorem usec_div_timeoutOfMs : (timeoutOfMs ms).usec.toInt.tdiv 1000 = ms.toInt.tmod 1000 := by
  rw [usec_timeoutOfMs]
  exact Int.mul_tdiv_cancel _ (by decide)

theorem timeoutInts_fit : ∀ n ∈ timeoutInts ms, Fits n := by
  obtain ⟨hsplit, hcases⟩ := CInt.tdiv_tmod_cases ms.toInt (show (0 : Int) < 1000 by decide)
  have hms := CInt.fits_toInt ms
  have husec := fits_usec ms
  simp only [timeoutInts, List.forall_mem_cons, List.not_mem_nil, false_imp_iff, implies_true,
    and_true]
  unfold Fits at hms husec ⊢
  omega

theorem periodMs_timeoutOfMs : (timeoutOfMs ms).periodMs = ms.toInt := by
  obtain ⟨hsplit, -⟩ := CInt.tdiv_tmod_cases ms.toInt (show (0 : Int) < 1000 by decide)
  show (timeoutOfMs ms).sec.toInt * 1000 + (timeoutOfMs ms).usec.toInt.tdiv 1000 = ms.toInt
  rw [sec_timeoutOfMs, usec_div_timeoutOfMs]
  omega

/-- Reading the period back does not overflow, and is exact. -/
theorem tempTime_timeoutOfMs :
    (∀ n ∈ tempTimeInts (timeoutOfMs ms), Fits n) ∧ myHwtimerTempTime (timeoutOfMs ms) = ms := by
  obtain ⟨hsplit, hcases⟩ := CInt.tdiv_tmod_cases ms.toInt (show (0 : Int) < 1000 by decide)
  have hms := CInt.fits_toInt ms
  have hsec := sec_timeoutOfMs ms
  have husec := usec_div_timeoutOfMs ms
  have hfits : Fits ((timeoutOfMs ms).sec.toInt * 1000) := by
    unfold Fits at hms ⊢
    omega
  have hmul : ((timeoutOfMs ms).sec * 1000).toInt = (timeoutOfMs ms).sec.toInt * 1000 :=
    CInt.toInt_mul_of_fits hfits
  have hdiv : ((timeoutOfMs ms).usec / 1000).toInt = (timeoutOfMs ms).usec.toInt.tdiv 1000 :=
    Int32.toInt_div_of_ne_right _ 1000 (by decide)
  -- The quotient and the remainder add up to the milliseconds again.
  have hsum : ((timeoutOfMs ms).sec * 1000).toInt + ((timeoutOfMs ms).usec / 1000).toInt =
      ms.toInt := by
    rw [hmul, hdiv]
    omega
  have hquot : Fits ((timeoutOfMs ms).usec.toInt.tdiv 1000) := by
    unfold Fits at hms ⊢
    omega
  constructor
  · simp only [tempTimeInts, List.forall_mem_cons, List.not_mem_nil, false_imp_iff, implies_true,
      and_true, hsum]
    exact ⟨hfits, hquot, hms⟩
  · show (timeoutOfMs ms).sec * 1000 + (timeoutOfMs ms).usec / 1000 = ms
    apply Int32.toInt_inj.mp
    rw [CInt.toInt_add_of_fits (by rw [hsum]; exact hms), hsum]

/-- A timeout is within the bounds exactly when its milliseconds are. -/
theorem periodInBounds_timeoutOfMs :
    PeriodInBounds (timeoutOfMs ms) ↔
      myHwtimerMinTime.toInt ≤ ms.toInt ∧ ms.toInt ≤ myHwtimerMaxTime.toInt := by
  obtain ⟨hsplit, hcases⟩ := CInt.tdiv_tmod_cases ms.toInt (show (0 : Int) < 1000 by decide)
  have hsec := sec_timeoutOfMs ms
  have husec := usec_timeoutOfMs ms
  have hperiod := periodMs_timeoutOfMs ms
  have hmin : myHwtimerMinTime.toInt = 125 := rfl
  have hmax : myHwtimerMaxTime.toInt = 5000 := rfl
  constructor
  · rintro ⟨hlow, hhigh, -, -⟩
    omega
  · rintro ⟨hlow, hhigh⟩
    exact ⟨by omega, by omega, by omega, by omega⟩

end

/-! ### One call -/

/-- The timeout is the timeout of some number of milliseconds. -/
def PeriodSet (s : TimerSys) : Prop := ∃ ms, s.timeoutS = timeoutOfMs ms

section
variable [TimeoutCalc] (io : TimerIO) (s : TimerSys)

/-- Writing a timeout to the device changes the device alone, and is complete exactly when the
device is open and the hardware starts. -/
theorem run_rtDeviceWrite (tv : TimeVal) :
    ∃ dev, (rtDeviceWrite io tv).run s =
      (decide (s.dev.refCount ≠ 0 ∧ io.start = rtEok), { s with dev := dev }) := by
  simp only [rtDeviceWrite, rtHwtimerWrite, timerStart, Prog.run_bind, Prog.run_get]
  by_cases hr : s.dev.refCount = 0
  · exact ⟨s.dev, by simp [hr]⟩
  · by_cases hs : io.start = rtEok
    · exact ⟨_, by simp [hr, hs]; rfl⟩
    · exact ⟨_, by simp [hr, hs]; rfl⟩

/-- A change of the period without the device fails, and does nothing. -/
theorem run_changeTime_of_no_device (next : Int32 → Int32) (h : s.hwDev = false) :
    (myHwtimerChangeTime next io).run s = (rtError, s) := by
  simp [myHwtimerChangeTime, h]

/-- A change of the period: the new timeout, and when the call succeeds. -/
theorem run_changeTime (next : Int32 → Int32) (h : s.hwDev = true) :
    ((myHwtimerChangeTime next io).run s).2.timeoutS =
        timeoutOfMs (next (myHwtimerTempTime s.timeoutS)) ∧
      (((myHwtimerChangeTime next io).run s).1 = rtEok ↔ ChangeSucceeds s io) := by
  obtain ⟨dev, hwrite⟩ := run_rtDeviceWrite io
    { s with timeoutS := timeoutOfMs (next (myHwtimerTempTime s.timeoutS)) }
    (timeoutOfMs (next (myHwtimerTempTime s.timeoutS)))
  -- The two stores together put the new timeout.
  have hrun : (myHwtimerChangeTime next io).run s =
      (if s.dev.refCount ≠ 0 ∧ io.start = rtEok then s.ret else rtError,
        { s with dev := dev, timeoutS := timeoutOfMs (next (myHwtimerTempTime s.timeoutS)) }) := by
    simp only [h] at hwrite
    simp only [myHwtimerChangeTime, Prog.run_bind, Prog.run_get, Prog.run_modify, h,
      Bool.not_true, Bool.false_eq_true, if_false, hwrite]
    by_cases hopen : s.dev.refCount ≠ 0 ∧ io.start = rtEok
    · simp [hopen]
    · simp [hopen]
  rw [hrun]
  refine ⟨rfl, ?_⟩
  show (if s.dev.refCount ≠ 0 ∧ io.start = rtEok then s.ret else rtError) = rtEok ↔
    s.dev.refCount ≠ 0 ∧ io.start = rtEok ∧ s.ret = rtEok
  by_cases hopen : s.dev.refCount ≠ 0 ∧ io.start = rtEok
  · simp [hopen]
  · have hfail : rtError ≠ rtEok := by decide
    simp only [if_neg hopen, hfail, false_iff]
    exact fun hall => hopen ⟨hall.1, hall.2.1⟩

omit [TimeoutCalc] in
/-- `rt_device_open` leaves the timeout alone. -/
theorem timeoutS_rtDeviceOpen : ((rtDeviceOpen io).run s).2.timeoutS = s.timeoutS := by
  simp only [rtDeviceOpen, rtHwtimerOpen, Prog.run_bind, run_rtDeviceActivate]
  by_cases hready : (if s.dev.activated then rtEok else io.init) = rtEok
  · cases hopened : (s.dev.activate io).opened
    · by_cases hcounts : io.openDev = rtEok ∨ io.openDev = -rtEnosys <;>
        simp [hready, hopened, hcounts]
    · simp [hready, hopened, rtDeviceFlagStandalone]
  · simp [hready]

omit [TimeoutCalc] in
/-- `rt_device_control` leaves the timeout alone. -/
theorem timeoutS_rtDeviceControl (m : HwTimerMode) :
    ((rtDeviceControl io m).run s).2.timeoutS = s.timeoutS := by
  unfold rtDeviceControl rtHwtimerControl
  split
  · simp
  · simp

/-- The end of `my_hwtimer_openTimer` programs 100 ms. -/
theorem timeoutS_setTimeout :
    ((myHwtimerSetTimeout io).run s).2.timeoutS = timeoutOfMs 100 := by
  have h100 : timeoutOfMs 100 = ⟨0, 100 * 1000⟩ := by decide
  obtain ⟨dev, hwrite⟩ := run_rtDeviceWrite io { s with timeoutS := ⟨0, 100 * 1000⟩ }
    ⟨0, 100 * 1000⟩
  simp only [myHwtimerSetTimeout, Prog.run_bind, Prog.run_modify, Prog.run_get, hwrite, h100]
  split
  · simp
  · simp

/-- Opening the timer programs 100 ms, or leaves the timeout alone. -/
theorem timeoutS_openTimer :
    ((myHwtimerOpenTimer io).exec s).timeoutS = s.timeoutS ∨
      ((myHwtimerOpenTimer io).exec s).timeoutS = timeoutOfMs 100 := by
  have hopen := timeoutS_rtDeviceOpen io { s with hwDev := true }
  unfold Prog.exec myHwtimerOpenTimer
  simp only [Prog.run_bind, Prog.run_modify, Prog.run_get]
  cases hfind : io.find
  · simp
  · simp only [Bool.not_true, Bool.false_eq_true, if_false, Prog.run_bind, Prog.run_modify]
    split
    · exact .inl hopen
    · simp only [Prog.run_bind, Prog.run_modify]
      split
      · left
        simp only [Prog.pure_eq, Prog.run_done]
        rw [timeoutS_rtDeviceControl]
        exact hopen
      · right
        exact timeoutS_setTimeout io _

omit [TimeoutCalc] in
/-- Closing the timer leaves the timeout alone. -/
theorem timeoutS_closeTimer : (myHwtimerCloseTimer.exec s).timeoutS = s.timeoutS := by
  unfold Prog.exec myHwtimerCloseTimer rtDeviceClose rtHwtimerClose
  cases hh : s.hwDev
  · simp [hh]
  · by_cases hr : s.dev.refCount = 0
    · simp [hh, hr]
    · by_cases hl : s.dev.refCount - 1 = 0 <;> simp [hh, hr, hl]

/-- A call that changes the period keeps the timeout in its form. -/
theorem periodSet_changeTime (next : Int32 → Int32) (h : PeriodSet s) :
    PeriodSet ((myHwtimerChangeTime next io).exec s) := by
  unfold Prog.exec
  cases hdev : s.hwDev with
  | false =>
    rw [run_changeTime_of_no_device io s next hdev]
    exact h
  | true => exact ⟨_, (run_changeTime io s next hdev).1⟩

/-- Every call keeps the timeout in its form. -/
theorem periodSet_step (call : TimerCall) (h : PeriodSet s) :
    PeriodSet (timerCalls.step s call) := by
  obtain ⟨ms, hms⟩ := h
  cases call with
  | openTimer io =>
    rcases timeoutS_openTimer io s with hkeep | hset
    · exact ⟨ms, hkeep.trans hms⟩
    · exact ⟨100, hset⟩
  | closeTimer => exact ⟨ms, (timeoutS_closeTimer s).trans hms⟩
  | addTime io ms' => exact periodSet_changeTime io s _ ⟨ms, hms⟩
  | subTime io ms' => exact periodSet_changeTime io s _ ⟨ms, hms⟩

/-- A call that moves the period by an operation with the exact result `moved` is proper
exactly when, with the device there, the result fits, and a successful call ends within the
bounds. -/
theorem properChange_iff (next : Int32 → Int32) (moved : Int) (h : PeriodSet s) :
    ProperChange s (myHwtimerChangeTime next io)
        (changeTimeInts s.hwDev s.timeoutS moved (next (myHwtimerTempTime s.timeoutS))) ↔
      (s.hwDev = true → Fits moved ∧
        (ChangeSucceeds s io →
          myHwtimerMinTime.toInt ≤ (next (myHwtimerTempTime s.timeoutS)).toInt ∧
            (next (myHwtimerTempTime s.timeoutS)).toInt ≤ myHwtimerMaxTime.toInt)) := by
  unfold ProperChange changeTimeInts
  cases hdev : s.hwDev with
  | false =>
    have hfail : rtError ≠ rtEok := by decide
    rw [run_changeTime_of_no_device io s next hdev]
    simp [hfail]
  | true =>
    obtain ⟨ms, hms⟩ := h
    obtain ⟨htimeout, hresult⟩ := run_changeTime io s next hdev
    have hread : ∀ n ∈ tempTimeInts s.timeoutS, Fits n := by
      rw [hms]
      exact (tempTime_timeoutOfMs ms).1
    have hwrite := timeoutInts_fit (next (myHwtimerTempTime s.timeoutS))
    -- The operations before and after the move never overflow.
    have hints : (∀ n ∈ tempTimeInts s.timeoutS ++ moved ::
        timeoutInts (next (myHwtimerTempTime s.timeoutS)), Fits n) ↔ Fits moved := by
      simp only [List.forall_mem_append, List.forall_mem_cons]
      exact ⟨fun hall => hall.2.1, fun hmoved => ⟨hread, hmoved, hwrite⟩⟩
    simp only [if_true, true_imp_iff]
    rw [hints, hresult, htimeout, periodInBounds_timeoutOfMs]
    exact And.comm

/-- A call is proper exactly when it meets the condition. -/
theorem properCall_iff (call : TimerCall) (h : PeriodSet s) :
    ProperCall s call ↔ BoundedCall s call := by
  have hmin : myHwtimerMinTime.toInt = 125 := rfl
  have hmax : myHwtimerMaxTime.toInt = 5000 := rfl
  have hperiod : s.timeoutS.periodMs = (myHwtimerTempTime s.timeoutS).toInt := by
    obtain ⟨ms, hms⟩ := h
    rw [hms, periodMs_timeoutOfMs, (tempTime_timeoutOfMs ms).2]
  unfold BoundedCall
  rw [hperiod]
  cases call with
  | openTimer io => exact Iff.rfl
  | closeTimer => exact Iff.rfl
  | addTime io ms =>
    refine (properChange_iff io s (addedTime ms) _ h).trans ?_
    refine imp_congr_right fun _ => and_congr_right fun hfits => imp_congr_right fun _ => ?_
    have hsum := CInt.toInt_add_of_fits hfits
    -- The upper bound holds by the clamp.
    unfold addedTime
    split
    · rename_i hge
      have hge := Int32.le_iff_toInt_le.mp hge
      omega
    · rename_i hlt
      have hlt := mt Int32.le_iff_toInt_le.mpr hlt
      omega
  | subTime io ms =>
    refine (properChange_iff io s (subtractedTime ms) _ h).trans ?_
    refine imp_congr_right fun _ => and_congr_right fun hfits => imp_congr_right fun _ => ?_
    have hdiff := CInt.toInt_sub_of_fits hfits
    -- The lower bound holds by the clamp.
    unfold subtractedTime
    split
    · rename_i hle
      have hle := Int32.le_iff_toInt_le.mp hle
      omega
    · rename_i hgt
      have hgt := mt Int32.le_iff_toInt_le.mpr hgt
      omega

/-! ### Runs -/

/-- From the initial state, every successful change of the period in a run leaves it within its
bounds, without an overflow, exactly when every call of the run meets the condition. -/
theorem period_stays_iff (calls : List TimerCall) :
    timerCalls.Along ProperCall timerInit calls ↔
      timerCalls.Along BoundedCall timerInit calls :=
  timerCalls.along_iff_of_invariant PeriodSet ProperCall BoundedCall
    (fun s call h => periodSet_step s call h) (fun s call h => properCall_iff s call h) calls
    timerInit ⟨0, by decide⟩

end

/-- After an open, a call of `my_hwtimer_addTime` with 0 programs 100 ms, with success. -/
theorem period_leaves_bounds :
    ¬ ∀ calls, @timerCalls .board |>.Along (@ProperCall .board) timerInit calls := by
  intro h
  have hproper := h [.openTimer .ok, .addTime .ok 0] [.openTimer .ok] _ List.prefix_rfl
  have hbounds := hproper.1 (by decide)
  have hlow := hbounds.low
  revert hlow
  decide

end SmartBuilding
