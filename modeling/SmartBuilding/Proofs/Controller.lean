import SmartBuilding.Controller
import SmartBuilding.Proofs.AutoControl
import SmartBuilding.Proofs.Handlers

/-!
# `SmartBuilding.Proofs.Controller`: what the small events can change

Inversion lemmas for the events that are neither messages nor iterations. The timer
interrupt changes the timer and two pins. A TCP packet does one of a few things
(`myTcpControl_cases`), and only its LED commands reach a pin.

`eventStep_of_quiet` says what such an event leaves alone, in the form that the invariants of
the controller use.
-/

set_option autoImplicit false

namespace SmartBuilding

open CText

/-- The pins after one timer interrupt. -/
def irqPins (callback : Option RxIndicate) (p : Pins) : Pins :=
  match callback with
  | some .myTimeoutCb => { p with led0 := p.led0.toggle, beep := p.beep.toggle }
  | none => p

/-- The world after one timer interrupt. -/
theorem timerIrq_eq (w : World) :
    timerIrq w =
      { w with
          timer := { w.timer with dev := (rtDeviceHwtimerIsr w.timer.dev).1 }
          pins := irqPins (rtDeviceHwtimerIsr w.timer.dev).2 w.pins } := by
  unfold timerIrq
  cases hcallback : (rtDeviceHwtimerIsr w.timer.dev).2 with
  | none => simp [hcallback, runRxIndicate, irqPins, World.putTimer]
  | some callback =>
    cases callback
    simp [hcallback, runRxIndicate, irqPins, World.putTimer, myTimeoutCb, World.setPins]

/-- A command that sets a limit sets one of the two limits of the console, or does
nothing. -/
theorem setCommand_cases {recvData : List UInt8} {w w' : World}
    (h : setCommand recvData w = some w') :
    w' = w ∨ (∃ limit, w' = setTempLimit limit w) ∨ (∃ limit, w' = setLightLimit limit w) := by
  -- A command that gives a world got all its tokens.
  simp only [setCommand, Option.bind_eq_bind, Option.bind_eq_some_iff] at h
  obtain ⟨tokens, -, command, -, h⟩ := h
  split at h
  · obtain ⟨value, -, h⟩ := Option.bind_eq_some_iff.mp h
    cases h
    exact .inr (.inl ⟨_, rfl⟩)
  · split at h
    · obtain ⟨value, -, h⟩ := Option.bind_eq_some_iff.mp h
      cases h
      exact .inr (.inr ⟨_, rfl⟩)
    · cases h
      exact .inl rfl

/-- What one packet of the console can do. -/
theorem myTcpControl_cases {packet : List UInt8} {w w' : World}
    (h : myTcpControl packet w = some w') :
    w' = w ∨ (∃ level, w' = controlLed0 level w) ∨
    (cString packet = ofText "LED1 ON" ∧ w' = controlLed1 .low w) ∨
    (cString packet = ofText "LED1 OFF" ∧ w' = controlLed1 .high w) ∨
    (∃ limit, w' = setTempLimit limit w) ∨ (∃ limit, w' = setLightLimit limit w) := by
  simp only [myTcpControl] at h
  split at h
  · cases h; exact .inl rfl
  split at h
  · cases h; exact .inr (.inl ⟨_, rfl⟩)
  split at h
  · cases h; exact .inr (.inl ⟨_, rfl⟩)
  split at h
  · next hon => cases h; exact .inr (.inr (.inl ⟨hon, rfl⟩))
  split at h
  · next hoff => cases h; exact .inr (.inr (.inr (.inl ⟨hoff, rfl⟩)))
  split at h
  · cases h; exact .inl rfl
  · obtain h | h | h := setCommand_cases h
    · exact .inl h
    · exact .inr (.inr (.inr (.inr (.inl h))))
    · exact .inr (.inr (.inr (.inr (.inr h))))

/-- A packet of the console that has a meaning, or none: the world after it, either way. -/
theorem tcp_getD_cases (packet : List UInt8) (w : World) :
    (myTcpControl packet w).getD w = w ∨
    (∃ level, (myTcpControl packet w).getD w = controlLed0 level w) ∨
    (cString packet = ofText "LED1 ON" ∧
      (myTcpControl packet w).getD w = controlLed1 .low w) ∨
    (cString packet = ofText "LED1 OFF" ∧
      (myTcpControl packet w).getD w = controlLed1 .high w) ∨
    (∃ limit, (myTcpControl packet w).getD w = setTempLimit limit w) ∨
    (∃ limit, (myTcpControl packet w).getD w = setLightLimit limit w) := by
  cases h : myTcpControl packet w with
  | none => exact .inl rfl
  | some w' => exact myTcpControl_cases h

/-- The event is a message with actuator keys or an iteration of the control loop. -/
def Event.Actuates : Event → Prop
  | .iteration _ => True
  | .devControl _ _ => True
  | .syncResponse _ _ => True
  | _ => False

/-- The other events leave the actuator flags, the door and the servo alone. -/
theorem eventStep_of_quiet [CJsonParser] [TimeoutCalc] (w : World) (e : Event)
    (he : ¬ e.Actuates) :
    (eventStep w e).devices.beepState = w.devices.beepState ∧
    (eventStep w e).devices.relayState = w.devices.relayState ∧
    (eventStep w e).devices.led0State = w.devices.led0State ∧
    (eventStep w e).devices.led1State = w.devices.led1State ∧
    (eventStep w e).devices.doorState = w.devices.doorState ∧
    (eventStep w e).angle = w.angle ∧ (eventStep w e).servo = w.servo := by
  cases e with
  | iteration io => exact absurd trivial he
  | devControl io payload => exact absurd trivial he
  | syncResponse io payload => exact absurd trivial he
  | thresholdSet payload => simp [eventStep, thresholdsEffect_eq]
  | key0 => simp [eventStep, iqrHandaleKey0, setDevproDht11SensorState, World.setDevices]
  | key1 => simp [eventStep, iqrHandaleKey1, setDevproLightSensorState, World.setDevices]
  | temp value => simp [eventStep, setDevproTemp, World.setEnvironment]
  | humi value => simp [eventStep, setDevproHumi, World.setEnvironment]
  | light value => simp [eventStep, setDevproLight, World.setEnvironment]
  | smoke value => simp [eventStep, setDevproSmoke, World.setEnvironment]
  | timerIrq => simp [eventStep, timerIrq_eq]
  | tcp packet =>
    simp only [eventStep]
    obtain h | ⟨_, h⟩ | ⟨-, h⟩ | ⟨-, h⟩ | ⟨_, h⟩ | ⟨_, h⟩ := tcp_getD_cases packet w <;>
      rw [h] <;>
      simp [controlLed0, controlLed1, setTempLimit, setLightLimit, World.setPins]

/-! ### The timer in a run -/

/-- One event keeps a property of the timer that opening, closing and the interrupt keep. -/
theorem eventStep_timer [CJsonParser] [TimeoutCalc] (P : TimerSys → Prop)
    (hopen : ∀ io t, P t → P (t.afterOpen io)) (hclose : ∀ t, P t → P t.afterClose)
    (hirq : ∀ t, P t → P { t with dev := (rtDeviceHwtimerIsr t.dev).1 }) (w : World)
    (e : Event) (h : P w.timer) : P (eventStep w e).timer := by
  have hrequest : ∀ (r : Request) io t, P t → P (r.timer io t) := by
    intro r io t ht
    unfold Request.timer
    cases r.alarm with
    | none => exact ht
    | some state =>
      cases state
      · exact hclose t ht
      · exact hopen io t ht
  cases e with
  | iteration io =>
    refine iteration_preserves_of_actuators io (fun w => P w.timer) ?_ ?_ ?_ w h
    · intro w state _ _ h
      rw [emergencyChange_eq]
      cases state
      · exact hclose _ h
      · exact hopen io _ h
    · intro w state h
      rw [relayChange_eq]
      exact h
    · intro w state h
      rw [emergencyLightChange_eq]
      exact h
  | devControl io payload =>
    simp only [eventStep, devControlEffect_eq]
    exact hrequest _ io w.timer h
  | syncResponse io payload =>
    simp only [eventStep, mqttSyncCallback_eq, sensorKeys_eq]
    exact hrequest _ io w.timer h
  | thresholdSet payload =>
    simp only [eventStep, thresholdsEffect_eq]
    exact h
  | timerIrq =>
    simp only [eventStep, timerIrq_eq]
    exact hirq _ h
  | tcp packet =>
    simp only [eventStep]
    obtain hw | ⟨_, hw⟩ | ⟨-, hw⟩ | ⟨-, hw⟩ | ⟨_, hw⟩ | ⟨_, hw⟩ := tcp_getD_cases packet w <;>
      rw [hw] <;> exact h
  | _ => exact h

end SmartBuilding
