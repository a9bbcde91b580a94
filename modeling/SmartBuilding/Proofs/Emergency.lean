import SmartBuilding.Proofs.Controller

/-!
# `SmartBuilding.Proofs.Emergency`: when the next iteration answers an emergency

`Responds io w` says that the iteration after the state `w` answers: with a working DHT11
sensor, a temperature over its limit leaves the alarm and the door on, and a humidity over
its limit leaves the relay on.

The temperature block of the loop looks at the two states "alarm and door both off" and
"alarm and door both on". It has no case for the two mixed states, so in a mixed state a
high temperature gets no answer (`responds_iff`). The humidity block has both cases of its
one flag, and always answers.

A remote message can command the alarm without the door, so a run does reach a mixed state.
`emergency_response_iff` says that this is the only way to lose the response: along a run,
every next iteration answers exactly when no state of the run is overheated with the alarm
and the door apart. `paired_iff` gives the messages that drive the two apart, and
`responds_of_paired_messages` the consequence for whole runs.
-/

set_option autoImplicit false

namespace SmartBuilding

open CText

/-- The DHT11 sensor works, and the temperature is over its limit. -/
def Overheated (w : World) : Prop :=
  w.devices.dht11SensorState = true ∧ w.environment.temp > w.thresholds.tempLimit

/-- The next iteration answers a temperature and a humidity over their limits. -/
def Responds [TimeoutCalc] (io : TimerIO) (w : World) : Prop :=
  w.devices.dht11SensorState = true →
    (w.environment.temp > w.thresholds.tempLimit →
      (myAutoControlIteration io w).1.devices.beepState = true ∧
      (myAutoControlIteration io w).1.devices.doorState = true) ∧
    (w.environment.humi > w.thresholds.humiLimit →
      (myAutoControlIteration io w).1.devices.relayState = true)

/-- Over the limit, the humidity channel leaves the relay on. -/
private theorem humidityChannel_answers (w : World)
    (hover : w.environment.humi > w.thresholds.humiLimit) :
    (humidityChannel w).1.devices.relayState = true := by
  -- Off: the channel turns it on. On: it can only turn it off below the limit.
  obtain ⟨-, -, heq⟩ | ⟨-, hunder, -⟩ | ⟨hoff, -, heq⟩ := humidityChannel_cases w
  · simp [heq, relayChange_eq]
  · exact absurd hover (Int32.lt_asymm hunder)
  · rw [heq]
    cases hr : w.devices.relayState
    · exact absurd hover (hoff hr)
    · rfl

section
variable [TimeoutCalc] (io : TimerIO) (w : World)

/-- With a working sensor, the flags of the alarm and the door after the iteration are those
after the temperature channel. -/
private theorem iteration_alarm_door (h : w.devices.dht11SensorState = true) :
    (myAutoControlIteration io w).1.devices.beepState =
      (temperatureChannel io w).1.devices.beepState ∧
    (myAutoControlIteration io w).1.devices.doorState =
      (temperatureChannel io w).1.devices.doorState := by
  have hdht : (dht11Channels io w).1 = (humidityChannel (temperatureChannel io w).1).1 := by
    simp [dht11Channels, h]
  obtain ⟨hb, hd, -⟩ := lightSensorChannel_devices (dht11Channels io w).1
  obtain ⟨hb', hd'⟩ := humidityChannel_devices (temperatureChannel io w).1
  rw [← hb', ← hd', ← hdht, ← hb, ← hd]
  exact ⟨rfl, rfl⟩

/-- With a working sensor, the relay flag after the iteration is the one after the humidity
channel. -/
private theorem iteration_relay (h : w.devices.dht11SensorState = true) :
    (myAutoControlIteration io w).1.devices.relayState =
      (humidityChannel (temperatureChannel io w).1).1.devices.relayState := by
  have hdht : (dht11Channels io w).1 = (humidityChannel (temperatureChannel io w).1).1 := by
    simp [dht11Channels, h]
  rw [← hdht]
  exact (lightSensorChannel_devices (dht11Channels io w).1).2.2

/-- Over the limit, the temperature channel leaves both the alarm and the door on exactly
when their flags agree before. -/
private theorem temperatureChannel_answers
    (hover : w.environment.temp > w.thresholds.tempLimit) :
    ((temperatureChannel io w).1.devices.beepState = true ∧
      (temperatureChannel io w).1.devices.doorState = true) ↔
    w.devices.beepState = w.devices.doorState := by
  obtain ⟨hb, hd, -, heq⟩ | ⟨-, -, hunder, -⟩ | ⟨hoff, -, heq⟩ := temperatureChannel_cases io w
  · simp [heq, emergencyChange_eq, hb, hd]
  · exact absurd hover (Int32.lt_asymm hunder)
  · rw [heq]
    cases hb : w.devices.beepState <;> cases hd : w.devices.doorState
    · -- Both off is no quiet state over the limit. In the mixed states nothing happens.
      exact absurd hover (hoff hb hd)
    · simp
    · simp
    · simp

/-- The next iteration answers exactly when the alarm and the door agree or the temperature
asks for nothing. -/
theorem responds_iff :
    Responds io w ↔ (Overheated w → w.devices.beepState = w.devices.doorState) := by
  constructor
  · rintro h ⟨hsensor, hover⟩
    obtain ⟨hb, hd⟩ := iteration_alarm_door io w hsensor
    have hon := (h hsensor).1 hover
    rw [hb, hd] at hon
    exact (temperatureChannel_answers io w hover).mp hon
  · intro h hsensor
    refine ⟨fun hover => ?_, fun hover => ?_⟩
    · obtain ⟨hb, hd⟩ := iteration_alarm_door io w hsensor
      rw [hb, hd]
      exact (temperatureChannel_answers io w hover).mpr (h ⟨hsensor, hover⟩)
    · rw [iteration_relay io w hsensor]
      obtain ⟨henv, hlimits, -⟩ := temperatureChannel_frame io w
      refine humidityChannel_answers _ ?_
      rw [henv, hlimits]
      exact hover

end

/-- Along every run from power-on, every next iteration answers exactly when no state of the
run is overheated with the alarm and the door apart. -/
theorem emergency_response_iff [CJsonParser] [TimeoutCalc] (pins : Pins) (es : List Event) :
    controller.Always (fun w => ∀ io, Responds io w) (boot pins) es ↔
    controller.Always (fun w => Overheated w → w.devices.beepState = w.devices.doorState)
      (boot pins) es := by
  constructor
  · intro h pre hpre
    exact (responds_iff TimerIO.ok _).mp (h pre hpre TimerIO.ok)
  · intro h pre hpre io
    exact (responds_iff io _).mpr (h pre hpre)

/-- A message with the alarm alone, then a high temperature: the next iteration leaves the
door closed. -/
theorem emergency_response_masked :
    ¬ @Machine.Always _ _ _
      (@controller (.table [("\x7b\"alarm\":true\x7d", .object [(ofText "alarm", .jTrue)])])
        .board)
      (fun w => ∀ io, @Responds .board io w) (boot ⟨.low, .low, .low, .low⟩)
      [.devControl .ok (ofText "\x7b\"alarm\":true\x7d"), .temp 60] := by
  intro h
  have hmasked := h _ (List.prefix_refl _) .ok
  revert hmasked
  unfold Responds
  decide

/-! ### Which messages drive the alarm and the door apart -/

/-- The flags of the alarm and the door agree. -/
def Paired (w : World) : Prop := w.devices.beepState = w.devices.doorState

/-- A request leaves the alarm and the door with the same flag. -/
def Request.KeepsPaired (r : Request) (w : World) : Prop :=
  r.alarm.getD w.devices.beepState = r.emergencyDoor.getD w.devices.doorState

/-- The event is no message, or its keys leave the alarm and the door with the same flag. -/
def KeepsPaired [CJsonParser] (w : World) : Event → Prop
  | .devControl _ payload => (Request.ofObject (parsePayload payload)).KeepsPaired w
  | .syncResponse _ payload => (Request.ofObject (syncDevice payload)).KeepsPaired w
  | _ => True

/-- An iteration keeps the alarm and the door together: it moves both or neither. -/
private theorem iteration_paired [TimeoutCalc] (io : TimerIO) (w : World) (h : Paired w) :
    Paired (myAutoControlIteration io w).1 := by
  refine iteration_preserves_of_actuators io Paired ?_ ?_ ?_ w h
  · intro w state _ _ _
    simp [Paired, emergencyChange_eq]
  · intro w state h
    simpa [Paired, relayChange_eq] using h
  · intro w state h
    simpa [Paired, emergencyLightChange_eq] using h

/-- One event keeps the alarm and the door together exactly when its keys do. -/
theorem eventStep_paired [CJsonParser] [TimeoutCalc] (w : World) (e : Event)
    (h : Paired w) : Paired (eventStep w e) ↔ KeepsPaired w e := by
  have hquiet := eventStep_of_quiet w e
  cases e with
  | iteration io => exact iff_of_true (iteration_paired io w h) trivial
  | devControl io payload =>
    simp only [eventStep, devControlEffect_eq]
    exact Iff.rfl
  | syncResponse io payload =>
    simp only [eventStep, mqttSyncCallback_eq, sensorKeys_eq]
    exact Iff.rfl
  | _ =>
    refine iff_of_true ?_ trivial
    obtain ⟨hb, -, -, -, hd, -⟩ := hquiet id
    rw [Paired, hb, hd]
    exact h

/-- The alarm and the door stay together in a run exactly when every message of the run
keeps them together. -/
theorem paired_iff [CJsonParser] [TimeoutCalc] (pins : Pins) (es : List Event) :
    controller.Always Paired (boot pins) es ↔
    controller.Along KeepsPaired (boot pins) es :=
  controller.always_iff_along Paired KeepsPaired eventStep_paired es (boot pins) rfl

/-- When every message keeps the alarm and the door together, every iteration of the run
answers. -/
theorem responds_of_paired_messages [CJsonParser] [TimeoutCalc] (pins : Pins)
    (es : List Event) (h : controller.Along KeepsPaired (boot pins) es) :
    controller.Always (fun w => ∀ io, Responds io w) (boot pins) es := by
  intro pre hpre io
  -- The flags agree in every state of the run, so no state is masked.
  have hpaired : Paired (controller.run (boot pins) pre) := (paired_iff pins es).mpr h pre hpre
  exact (responds_iff io _).mpr fun _ => hpaired

end SmartBuilding
