import SmartBuilding.Proofs.Controller
import SmartBuilding.Proofs.TcpSession

/-!
# `SmartBuilding.Proofs.Mirror`: the flags and the output pins

`Mirror` says that the relay pin and the pin of the emergency light show what the flags of
the two actuators say. The control loop and the message handlers write a pin and its flag
together, so they keep it. The TCP console writes the pin of the emergency light alone:
`LED1 ON` and `LED1 OFF` go to the pin, and no flag changes.

`mirror_iff` says that this is the only way to lose the mirror: it holds along a run exactly
when every LED1 command of the console asks for what the flag says already. The run must have a
meaning, so that no packet makes the console leave its arrays.
-/

set_option autoImplicit false

namespace SmartBuilding

open CText

/-- The relay pin and the LED1 pin show the flags. The light is on at the low level. -/
def Mirror (w : World) : Prop :=
  (w.pins.relay = .high ↔ w.devices.relayState = true) ∧
  (w.pins.led1 = .low ↔ w.devices.led1State = true)

/-- The event is no LED1 command of the console, or one that asks for what the flag says. -/
def Led1CommandAgrees (w : World) : Event → Prop
  | .tcp packet =>
      (cString packet = ofText "LED1 ON" → w.devices.led1State = true) ∧
      (cString packet = ofText "LED1 OFF" → w.devices.led1State = false)
  | _ => True

/-- The event is no packet for the splitter of the console, or one that splits well. -/
def PacketSplits : Event → Prop
  | .tcp packet => tcpCommand (cString packet) = .other → SplitsWell (cString packet)
  | _ => True

/-! ### Actuations and requests keep the mirror -/

private theorem relayLevel_eq_high (state : Bool) : relayLevel state = .high ↔ state = true := by
  cases state <;> simp [relayLevel]

private theorem led1Level_eq_low (state : Bool) : led1Level state = .low ↔ state = true := by
  cases state <;> simp [led1Level]

/-- An iteration writes each pin with its flag. -/
private theorem iteration_mirror [TimeoutCalc] (io : TimerIO) (w : World) (h : Mirror w) :
    Mirror (myAutoControlIteration io w).1 := by
  refine iteration_preserves_of_actuators io Mirror ?_ ?_ ?_ w h
  · intro w state _ _ h
    rw [emergencyChange_eq]
    cases state <;> exact h
  · intro w state h
    rw [relayChange_eq]
    exact ⟨relayLevel_eq_high state, h.2⟩
  · intro w state h
    rw [emergencyLightChange_eq]
    exact ⟨h.1, led1Level_eq_low state⟩

/-- A request writes each pin with its flag. -/
private theorem request_mirror (r : Request) (w w' : World) (h : Mirror w)
    (hpins : w'.pins = r.pins w.pins)
    (hrelay : w'.devices.relayState = r.exhaustFan.getD w.devices.relayState)
    (hled1 : w'.devices.led1State = r.fillLight.getD w.devices.led1State) : Mirror w' := by
  unfold Mirror
  rw [hpins, hrelay, hled1]
  constructor
  · cases hr : r.exhaustFan with
    | none => simpa [Request.pins, hr] using h.1
    | some state => simpa [Request.pins, hr] using relayLevel_eq_high state
  · cases hl : r.fillLight with
    | none => simpa [Request.pins, hl] using h.2
    | some state => simpa [Request.pins, hl] using led1Level_eq_low state

/-! ### The console -/

theorem myTcpControl_led1On {packet : List UInt8} (w : World)
    (h : cString packet = ofText "LED1 ON") :
    myTcpControl packet w = some (controlLed1 .low w) := by
  simp only [myTcpControl, h]
  rw [if_neg (by decide), if_neg (by decide), if_neg (by decide), if_pos trivial]

theorem myTcpControl_led1Off {packet : List UInt8} (w : World)
    (h : cString packet = ofText "LED1 OFF") :
    myTcpControl packet w = some (controlLed1 .high w) := by
  simp only [myTcpControl, h]
  rw [if_neg (by decide), if_neg (by decide), if_neg (by decide), if_neg (by decide),
    if_pos trivial]

/-- One packet keeps the mirror exactly when it is no LED1 command, or one that agrees with
the flag. -/
private theorem tcp_mirror (packet : List UInt8) (w : World) (h : Mirror w) :
    Mirror ((myTcpControl packet w).getD w) ↔ Led1CommandAgrees w (.tcp packet) := by
  by_cases hon : cString packet = ofText "LED1 ON"
  · rw [myTcpControl_led1On w hon]
    simp [Led1CommandAgrees, hon, Mirror, controlLed1, World.setPins, h.1,
      show ofText "LED1 ON" ≠ ofText "LED1 OFF" by decide]
  · by_cases hoff : cString packet = ofText "LED1 OFF"
    · rw [myTcpControl_led1Off w hoff]
      simp [Led1CommandAgrees, hoff, Mirror, controlLed1, World.setPins, h.1,
        show ofText "LED1 OFF" ≠ ofText "LED1 ON" by decide]
    · refine iff_of_true ?_ ⟨fun hp => absurd hp hon, fun hp => absurd hp hoff⟩
      -- The other packets reach neither of the two pins.
      obtain hw | ⟨_, hw⟩ | ⟨hp, -⟩ | ⟨hp, -⟩ | ⟨_, hw⟩ | ⟨_, hw⟩ := tcp_getD_cases packet w
      · rw [hw]; exact h
      · rw [hw]; exact h
      · exact absurd hp hon
      · exact absurd hp hoff
      · rw [hw]; exact h
      · rw [hw]; exact h

/-! ### Runs -/

/-- One event keeps the mirror exactly when it is no LED1 command of the console, or one
that agrees with the flag. -/
theorem eventStep_mirror [CJsonParser] [TimeoutCalc] (w : World) (e : Event)
    (h : Mirror w) : Mirror (eventStep w e) ↔ Led1CommandAgrees w e := by
  cases e with
  | iteration io => exact iff_of_true (iteration_mirror io w h) trivial
  | devControl io payload =>
    refine iff_of_true ?_ trivial
    simp only [eventStep, devControlEffect_eq]
    exact request_mirror _ w _ h rfl rfl rfl
  | syncResponse io payload =>
    refine iff_of_true ?_ trivial
    simp only [eventStep, mqttSyncCallback_eq, sensorKeys_eq]
    exact request_mirror (Request.ofObject (syncDevice payload)) w _ h rfl rfl rfl
  | tcp packet => exact tcp_mirror packet w h
  | timerIrq =>
    refine iff_of_true ?_ trivial
    simp only [eventStep, timerIrq_eq, irqPins]
    cases (rtDeviceHwtimerIsr w.timer.dev).2 <;> exact h
  | thresholdSet payload =>
    refine iff_of_true ?_ trivial
    simp only [eventStep, thresholdsEffect_eq]
    exact h
  | _ => exact iff_of_true h trivial

/-- An event has a meaning exactly when its packet splits well. -/
theorem defined_iff (w : World) (e : Event) : e.Defined w ↔ PacketSplits e := by
  cases e with
  | tcp packet => exact myTcpControl_isSome_iff packet w
  | _ => exact Iff.rfl

/-- Along every run after `my_GPIO_Init`, every event has a meaning and the pins show the flags,
exactly when every packet of the console splits well and every LED1 command asks for what the
flag says already. -/
theorem mirror_iff [CJsonParser] [TimeoutCalc] (pins : Pins) (es : List Event) :
    (controller.Always Mirror (boot pins) es ∧
      controller.Along (fun w e => e.Defined w) (boot pins) es) ↔
    controller.Along (fun w e => PacketSplits e ∧ Led1CommandAgrees w e) (boot pins) es := by
  have hstep : ∀ w e, Mirror w →
      (e.Defined w ∧ Mirror (eventStep w e) ↔ PacketSplits e ∧ Led1CommandAgrees w e) := by
    intro w e h
    rw [defined_iff, eventStep_mirror w e h]
  refine controller.always_and_along_iff Mirror Mirror _ _ (fun _ h => h) hstep ?_ es (boot pins)
    ?_
  · intro w e h hc
    exact (eventStep_mirror w e h).mpr hc.2
  · -- Both actuators start off, at the levels that the initialization writes.
    simp [Mirror, boot, myGpioInit, powerOn, myDevices, World.setPins]

/-- The console turns the light on, and the flag says that it is off. -/
theorem mirror_lost :
    ¬ @Machine.Always _ _ _ (@controller (.table []) .board) Mirror
      (boot ⟨.low, .low, .low, .low⟩) [.tcp (ofText "LED1 ON")] := by
  intro h
  have hlost := h _ (List.prefix_refl _)
  revert hlost
  unfold Mirror
  decide

end SmartBuilding
