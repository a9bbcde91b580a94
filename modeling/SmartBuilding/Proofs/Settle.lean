import SmartBuilding.Controller
import SmartBuilding.Proofs.Handlers
import SmartBuilding.Proofs.Reports

/-!
# `SmartBuilding.Proofs.Settle`: a second iteration in the same environment

A channel that has just run is quiet: a reading cannot be above and below one limit. The
temperature and the humidity have one limit each, so their channels settle at once. The
light has two limits, which the messages set without comparing them. With the upper limit
below the lower one, a light between the two is too weak and too strong, and every iteration
switches the emergency light. `settles_iff` says that this is the only way not to settle.
-/

set_option autoImplicit false

namespace SmartBuilding

open CText

/-! ### Quiet channels -/

/-- The temperature channel has nothing to do. -/
def TemperatureQuiet (w : World) : Prop :=
  (w.devices.beepState = false → w.devices.doorState = false →
    ¬ w.environment.temp > w.thresholds.tempLimit) ∧
  (w.devices.beepState = true → w.devices.doorState = true →
    ¬ w.environment.temp < w.thresholds.tempLimit)

/-- The humidity channel has nothing to do. -/
def HumidityQuiet (w : World) : Prop :=
  (w.devices.relayState = false → ¬ w.environment.humi > w.thresholds.humiLimit) ∧
  (w.devices.relayState = true → ¬ w.environment.humi < w.thresholds.humiLimit)

/-- The light channel has nothing to do. -/
def LightQuiet (w : World) : Prop :=
  (w.devices.led1State = false → ¬ w.environment.light < w.thresholds.lightDownLimit) ∧
  (w.devices.led1State = true → ¬ w.environment.light > w.thresholds.lightUpLimit)

/-- The light is above the upper limit and below the lower limit. -/
def LightContradicts (w : World) : Prop :=
  w.devices.lightSensorState = true ∧ w.thresholds.lightUpLimit < w.environment.light ∧
    w.environment.light < w.thresholds.lightDownLimit

section
variable (w : World)

theorem temperatureChannel_of_quiet [TimeoutCalc] (io : TimerIO) (h : TemperatureQuiet w) :
    temperatureChannel io w = (w, []) := by
  obtain ⟨hb, hd, htemp, -⟩ | ⟨hb, hd, htemp, -⟩ | ⟨-, -, heq⟩ := temperatureChannel_cases io w
  · exact absurd htemp (h.1 hb hd)
  · exact absurd htemp (h.2 hb hd)
  · exact heq

theorem humidityChannel_of_quiet (h : HumidityQuiet w) : humidityChannel w = (w, []) := by
  obtain ⟨hr, hhumi, -⟩ | ⟨hr, hhumi, -⟩ | ⟨-, -, heq⟩ := humidityChannel_cases w
  · exact absurd hhumi (h.1 hr)
  · exact absurd hhumi (h.2 hr)
  · exact heq

/-- The light channel reports nothing exactly when it has nothing to do. -/
theorem lightChannel_quiet_iff : (lightChannel w).2 = [] ↔ LightQuiet w := by
  obtain ⟨hl, hlight, heq⟩ | ⟨hl, hlight, heq⟩ | ⟨hoff, hon, heq⟩ := lightChannel_cases w
  · rw [heq]
    exact iff_of_false (by simp) fun h => h.1 hl hlight
  · rw [heq]
    exact iff_of_false (by simp) fun h => h.2 hl hlight
  · rw [heq]
    exact iff_of_true rfl ⟨hoff, hon⟩

theorem lightChannel_of_quiet (h : LightQuiet w) : lightChannel w = (w, []) := by
  obtain ⟨hl, hlight, -⟩ | ⟨hl, hlight, -⟩ | ⟨-, -, heq⟩ := lightChannel_cases w
  · exact absurd hlight (h.1 hl)
  · exact absurd hlight (h.2 hl)
  · exact heq

/-! ### Channels after a run -/

/-- The temperature channel is quiet after it ran. -/
theorem temperatureChannel_quiet [TimeoutCalc] (io : TimerIO) :
    TemperatureQuiet (temperatureChannel io w).1 := by
  obtain ⟨-, -, htemp, heq⟩ | ⟨-, -, htemp, heq⟩ | ⟨hoff, hon, heq⟩ :=
    temperatureChannel_cases io w
  · rw [heq]
    refine ⟨?_, fun _ _ => ?_⟩
    · simp [emergencyChange_eq]
    · simpa [emergencyChange_eq] using Int32.le_of_lt htemp
  · rw [heq]
    refine ⟨fun _ _ => ?_, ?_⟩
    · simpa [emergencyChange_eq] using Int32.le_of_lt htemp
    · simp [emergencyChange_eq]
  · rw [heq]
    exact ⟨hoff, hon⟩

/-- The humidity channel is quiet after it ran. -/
theorem humidityChannel_quiet : HumidityQuiet (humidityChannel w).1 := by
  obtain ⟨-, hhumi, heq⟩ | ⟨-, hhumi, heq⟩ | ⟨hoff, hon, heq⟩ := humidityChannel_cases w
  · rw [heq]
    refine ⟨?_, fun _ => ?_⟩
    · simp [relayChange_eq]
    · simpa [relayChange_eq] using Int32.le_of_lt hhumi
  · rw [heq]
    refine ⟨fun _ => ?_, ?_⟩
    · simpa [relayChange_eq] using Int32.le_of_lt hhumi
    · simp [relayChange_eq]
  · rw [heq]
    exact ⟨hoff, hon⟩

/-- After it ran, the light channel is quiet unless the light contradicts the limits. -/
theorem lightChannel_quiet_after_iff (hworks : w.devices.lightSensorState = true) :
    LightQuiet (lightChannel w).1 ↔ ¬ LightContradicts w := by
  unfold LightContradicts
  simp only [hworks, true_and]
  obtain ⟨-, hlight, heq⟩ | ⟨-, hlight, heq⟩ | ⟨hoff, hon, heq⟩ := lightChannel_cases w
  · -- The light is on now, and the light reading is below the lower limit.
    rw [heq]
    simp [LightQuiet, emergencyLightChange_eq, hlight]
  · rw [heq]
    have hup : w.thresholds.lightUpLimit < w.environment.light := hlight
    simp [LightQuiet, emergencyLightChange_eq, hup]
  · rw [heq]
    refine iff_of_true ⟨hoff, hon⟩ ?_
    rintro ⟨hup, hdown⟩
    cases hl : w.devices.led1State
    · exact hoff hl hdown
    · exact hon hl hup

theorem TemperatureQuiet.congr {w w' : World} (h : TemperatureQuiet w)
    (hbeep : w'.devices.beepState = w.devices.beepState)
    (hdoor : w'.devices.doorState = w.devices.doorState)
    (henv : w'.environment = w.environment) (hlim : w'.thresholds = w.thresholds) :
    TemperatureQuiet w' := by
  unfold TemperatureQuiet
  rw [hbeep, hdoor, henv, hlim]
  exact h

theorem HumidityQuiet.congr {w w' : World} (h : HumidityQuiet w)
    (hrelay : w'.devices.relayState = w.devices.relayState)
    (henv : w'.environment = w.environment) (hlim : w'.thresholds = w.thresholds) :
    HumidityQuiet w' := by
  unfold HumidityQuiet
  rw [hrelay, henv, hlim]
  exact h

/-! ### Two iterations -/

variable [TimeoutCalc] (io : TimerIO)

/-- After an iteration with a working DHT11 sensor, both channels of the sensor are quiet. -/
theorem dht11_quiet_after (hworks : w.devices.dht11SensorState = true) :
    TemperatureQuiet (myAutoControlIteration io w).1 ∧
      HumidityQuiet (myAutoControlIteration io w).1 := by
  obtain ⟨_, ht⟩ := temperatureStage_acts io w
  obtain ⟨_, hh⟩ := humidityStage_acts io w
  obtain ⟨_, hl⟩ := lightStage_acts io w
  obtain ⟨hhenv, hhlim, -⟩ := hh.frame
  obtain ⟨hlenv, hllim, -⟩ := hl.frame
  have htemp : (temperatureStage io w).1 = (temperatureChannel io w).1 := by
    simp [temperatureStage, guarded, ControlChannel.sensorWorks, hworks]
  have hhumi : (humidityStage io w).1 = (humidityChannel (temperatureStage io w).1).1 := by
    have hmark := ht.frame.2.2 .humidity
    simp only [humidityStage, guarded, hmark]
    simp [ControlChannel.sensorWorks, hworks]
  -- The light stage comes last, and leaves the flags of the other channels alone.
  have hlight : (lightStage io w).1 = (lightSensorChannel (humidityStage io w).1).1 := rfl
  obtain ⟨hbeep, hdoor, hrelay⟩ := lightSensorChannel_devices (humidityStage io w).1
  rw [← hlight] at hbeep hdoor hrelay
  have hdht := humidityChannel_devices (temperatureStage io w).1
  rw [← hhumi] at hdht
  rw [myAutoControlIteration_eq]
  refine ⟨TemperatureQuiet.congr (w := (temperatureStage io w).1) ?_ (hbeep.trans hdht.1)
    (hdoor.trans hdht.2) (hlenv.trans hhenv) (hllim.trans hhlim),
    HumidityQuiet.congr (w := (humidityStage io w).1) ?_ hrelay hlenv hllim⟩
  · rw [htemp]
    exact temperatureChannel_quiet w io
  · rw [hhumi]
    exact humidityChannel_quiet _

/-- The parts of the world that no channel changes. -/
theorem iteration_frame :
    (myAutoControlIteration io w).1.environment = w.environment ∧
    (myAutoControlIteration io w).1.thresholds = w.thresholds ∧
    ∀ c : ControlChannel,
      c.sensorWorks (myAutoControlIteration io w).1.devices = c.sensorWorks w.devices := by
  obtain ⟨_, ht⟩ := temperatureStage_acts io w
  obtain ⟨_, hh⟩ := humidityStage_acts io w
  obtain ⟨_, hl⟩ := lightStage_acts io w
  obtain ⟨htenv, htlim, htmark⟩ := ht.frame
  obtain ⟨hhenv, hhlim, hhmark⟩ := hh.frame
  obtain ⟨hlenv, hllim, hlmark⟩ := hl.frame
  rw [myAutoControlIteration_eq]
  exact ⟨hlenv.trans (hhenv.trans htenv), hllim.trans (hhlim.trans htlim),
    fun c => (hlmark c).trans ((hhmark c).trans (htmark c))⟩

/-- When the channels of the DHT11 sensor are quiet, an iteration is its light channel. -/
theorem iteration_of_dht11_quiet
    (h : w.devices.dht11SensorState = true → TemperatureQuiet w ∧ HumidityQuiet w) :
    myAutoControlIteration io w = lightSensorChannel w := by
  have hdht : dht11Channels io w = (w, []) := by
    unfold dht11Channels
    cases hworks : w.devices.dht11SensorState with
    | false => rfl
    | true =>
      obtain ⟨htemp, hhumi⟩ := h hworks
      show ((humidityChannel (temperatureChannel io w).1).1,
        (temperatureChannel io w).2 ++ (humidityChannel (temperatureChannel io w).1).2) = _
      rw [temperatureChannel_of_quiet w io htemp]
      show ((humidityChannel w).1, [] ++ (humidityChannel w).2) = _
      rw [humidityChannel_of_quiet w hhumi]
      rfl
  show ((lightSensorChannel (dht11Channels io w).1).1,
    (dht11Channels io w).2 ++ (lightSensorChannel (dht11Channels io w).1).2) = _
  rw [hdht]
  rfl

/-- A second iteration in the same environment changes no flag and reports nothing. -/
def Settles (io' : TimerIO) : Prop :=
  (myAutoControlIteration io' (myAutoControlIteration io w).1).1.devices =
      (myAutoControlIteration io w).1.devices ∧
    (myAutoControlIteration io' (myAutoControlIteration io w).1).2 = []

/-- The second iteration is the light channel alone, so the loop settles exactly when that
channel is quiet. -/
theorem settles_iff_lightQuiet (io' : TimerIO) : Settles w io io' ↔
    (w.devices.lightSensorState = true → LightQuiet (myAutoControlIteration io w).1) := by
  obtain ⟨-, -, hmark⟩ := iteration_frame w io
  have hsecond : myAutoControlIteration io' (myAutoControlIteration io w).1 =
      lightSensorChannel (myAutoControlIteration io w).1 :=
    iteration_of_dht11_quiet _ io' fun hworks =>
      dht11_quiet_after w io ((hmark .temperature).symm.trans hworks)
  have hlight : (myAutoControlIteration io w).1.devices.lightSensorState =
      w.devices.lightSensorState := hmark .light
  unfold Settles
  rw [hsecond]
  unfold lightSensorChannel
  rw [hlight]
  cases w.devices.lightSensorState with
  | false => exact iff_of_true ⟨rfl, rfl⟩ (by simp)
  | true =>
    rw [if_pos rfl]
    constructor
    · rintro ⟨-, hquiet⟩ -
      exact (lightChannel_quiet_iff _).mp hquiet
    · intro hquiet
      rw [lightChannel_of_quiet _ (hquiet rfl)]
      exact ⟨rfl, rfl⟩

/-- The light channel ran last, on a world with the readings and the limits of `w`. -/
theorem lightQuiet_after_iff (hworks : w.devices.lightSensorState = true) :
    LightQuiet (myAutoControlIteration io w).1 ↔ ¬ LightContradicts w := by
  obtain ⟨_, ht⟩ := temperatureStage_acts io w
  obtain ⟨_, hh⟩ := humidityStage_acts io w
  have hbefore : (humidityStage io w).1.devices.lightSensorState = true :=
    (hh.frame.2.2 .light).trans ((ht.frame.2.2 .light).trans hworks)
  have hlast : (myAutoControlIteration io w).1 = (lightChannel (humidityStage io w).1).1 := by
    rw [myAutoControlIteration_eq]
    simp [lightStage, guarded, ControlChannel.sensorWorks, hbefore]
  have hcontradicts : LightContradicts (humidityStage io w).1 ↔ LightContradicts w := by
    unfold LightContradicts
    rw [hbefore, hworks, hh.frame.1, ht.frame.1, hh.frame.2.1, ht.frame.2.1]
  rw [hlast, lightChannel_quiet_after_iff _ hbefore, hcontradicts]

/-- The loop settles after one iteration exactly when the light does not contradict its
limits. -/
theorem settles_iff (io' : TimerIO) : Settles w io io' ↔ ¬ LightContradicts w := by
  rw [settles_iff_lightQuiet]
  cases hworks : w.devices.lightSensorState with
  | false => exact iff_of_true (by simp) (by simp [LightContradicts, hworks])
  | true =>
    rw [lightQuiet_after_iff w io hworks]
    simp

end

/-- With the lower limit not above the upper limit, every environment settles. -/
theorem settles_of_ordered [TimeoutCalc] (w : World) (io io' : TimerIO)
    (h : w.thresholds.lightDownLimit ≤ w.thresholds.lightUpLimit) : Settles w io io' := by
  rw [settles_iff_lightQuiet]
  intro hworks
  rw [lightQuiet_after_iff w io hworks]
  rintro ⟨-, hup, hdown⟩
  have hlt := Int32.lt_of_lt_of_le hdown (Int32.le_trans h (Int32.le_of_lt hup))
  exact absurd hlt Int32.lt_irrefl

/-- A message sets the upper limit of the light to 500 and the lower one to 1000. -/
abbrev invertedLimits : CJsonParser :=
  .table [("\x7b\"lightUpper\":500,\"lightLower\":1000\x7d",
    .object [(ofText "lightUpper", .int 500), (ofText "lightLower", .int 1000)])]

/-- At the light 700 the loop switches the emergency light on and off again. -/
theorem settles_not_with_inverted_limits :
    ¬ @Settles
      ((@controller invertedLimits .board).run (boot ⟨.low, .low, .low, .low⟩)
        [.thresholdSet (ofText "\x7b\"lightUpper\":500,\"lightLower\":1000\x7d"),
          .light 700]) .board .ok .ok := by
  rintro ⟨-, hreports⟩
  revert hreports
  decide

end SmartBuilding
