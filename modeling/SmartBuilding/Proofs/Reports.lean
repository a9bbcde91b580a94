import SmartBuilding.Proofs.AutoControl

/-!
# `SmartBuilding.Proofs.Reports`: what an iteration of the control loop reports

An `Actuation` is what one channel reports when it acts: the alarm with its reading and its
limit, and the device flags after it. `ReportsActions` says what the reports of an iteration
should be. They are the actuations of the channels in order, each alarm carries the reading
that passed its limit, and the flags are those that the channel left.

A stage is a channel behind its sensor mark (`guarded`). `StageActs` is the same law for one
stage, and an iteration is three stages in a row (`myAutoControlIteration_eq`).
-/

set_option autoImplicit false

namespace SmartBuilding

/-- The three channels of the control loop. -/
inductive ControlChannel where
  | temperature
  | humidity
  | light
  deriving DecidableEq

/-- The place of a channel in an iteration. -/
def ControlChannel.place : ControlChannel → Nat
  | .temperature => 0
  | .humidity => 1
  | .light => 2

/-- The sensor of a channel is marked as working. -/
def ControlChannel.sensorWorks : ControlChannel → Devices → Bool
  | .light, d => d.lightSensorState
  | _, d => d.dht11SensorState

/-- A flag that a channel changes whenever it acts. -/
def ControlChannel.flag : ControlChannel → Devices → Bool
  | .temperature, d => d.beepState
  | .humidity, d => d.relayState
  | .light, d => d.led1State

/-- The channel that sends an alarm. -/
def AlarmType.channel : AlarmType → ControlChannel
  | .temperatureTooHigh => .temperature
  | .temperatureBackNormal => .temperature
  | .humidityTooHigh => .humidity
  | .humidityBackNormal => .humidity
  | .lightTooStrong => .light
  | .lightTooWeak => .light

/-- The reading that an alarm is about. -/
def AlarmType.reading (t : AlarmType) (e : Environment) : Int32 :=
  match t.channel with
  | .temperature => e.temp
  | .humidity => e.humi
  | .light => e.light

/-- The limit that an alarm is about. -/
def AlarmType.limit (t : AlarmType) (l : Thresholds) : Int32 :=
  match t with
  | .temperatureTooHigh => l.tempLimit
  | .temperatureBackNormal => l.tempLimit
  | .humidityTooHigh => l.humiLimit
  | .humidityBackNormal => l.humiLimit
  | .lightTooStrong => l.lightUpLimit
  | .lightTooWeak => l.lightDownLimit

/-- The comparison that an alarm stands for. -/
def AlarmType.Passed (t : AlarmType) (value limit : Int32) : Prop :=
  match t with
  | .temperatureTooHigh => value > limit
  | .humidityTooHigh => value > limit
  | .lightTooStrong => value > limit
  | .temperatureBackNormal => value < limit
  | .humidityBackNormal => value < limit
  | .lightTooWeak => value < limit

/-- What a channel reports when it acts. -/
structure Actuation where
  alarmType : AlarmType
  value : Int32
  limit : Int32
  flags : Devices

/-- The two reports of an actuation: the alarm, and then the device status. -/
def Actuation.reports (a : Actuation) : List Report :=
  [.alarm a.alarmType a.value a.limit, .deviceStatus a.flags]

/-! ### One stage -/

/-- A channel behind its sensor mark. -/
def guarded (c : ControlChannel) (run : World → Channel) (w : World) : Channel :=
  if c.sensorWorks w.devices then run w else (w, [])

/-- The reports of a stage of the channel `c`: nothing when it left the flags alone, and the
actuation `act` when it changed them. -/
structure StageActs (c : ControlChannel) (w : World) (stage : Channel)
    (act : Option Actuation) : Prop where
  reports : stage.2 = act.toList.flatMap Actuation.reports
  alarm : ∀ a ∈ act, a.alarmType.channel = c ∧
    a.value = a.alarmType.reading w.environment ∧
    a.limit = a.alarmType.limit w.thresholds ∧ a.alarmType.Passed a.value a.limit ∧
    c.sensorWorks w.devices = true
  flags : ∀ a ∈ act, a.flags = stage.1.devices
  quiet : act = none → stage.1.devices = w.devices
  acted : act ≠ none → c.flag stage.1.devices ≠ c.flag w.devices
  others : ∀ c', c' ≠ c → c'.flag stage.1.devices = c'.flag w.devices
  frame : stage.1.environment = w.environment ∧ stage.1.thresholds = w.thresholds ∧
    ∀ c' : ControlChannel, c'.sensorWorks stage.1.devices = c'.sensorWorks w.devices

theorem stageActs_none (c : ControlChannel) (w : World) : StageActs c w (w, []) none :=
  ⟨rfl, by simp, by simp, fun _ => rfl, fun h => absurd rfl h, fun _ _ => rfl, rfl, rfl,
    fun _ => rfl⟩

/-- A stage that runs in a world `w'` with the readings, the limits and the sensor marks of
`w` sends an alarm about `w`. -/
theorem StageActs.alarm_at {c : ControlChannel} {w w' : World} {stage : Channel}
    {act : Option Actuation} (hs : StageActs c w' stage act)
    (henv : w'.environment = w.environment) (hlimits : w'.thresholds = w.thresholds)
    (hmarks : ∀ c' : ControlChannel, c'.sensorWorks w'.devices = c'.sensorWorks w.devices) :
    ∀ a ∈ act, a.value = a.alarmType.reading w.environment ∧
      a.limit = a.alarmType.limit w.thresholds ∧ a.alarmType.Passed a.value a.limit ∧
      a.alarmType.channel.sensorWorks w.devices = true := by
  intro a ha
  obtain ⟨hchannel, hvalue, hlimit, hpassed, hworks⟩ := hs.alarm a ha
  rw [henv] at hvalue
  rw [hlimits] at hlimit
  rw [hmarks] at hworks
  exact ⟨hvalue, hlimit, hpassed, hchannel ▸ hworks⟩

theorem StageActs.place_eq {c : ControlChannel} {w : World} {stage : Channel}
    {act : Option Actuation} (hs : StageActs c w stage act) :
    ∀ a ∈ act, a.alarmType.channel.place = c.place := by
  intro a ha
  rw [(hs.alarm a ha).1]

/-- A channel that acts when its sensor works acts as a stage. -/
theorem guarded_acts {c : ControlChannel} {run : World → Channel} {w : World}
    (h : c.sensorWorks w.devices = true → ∃ act, StageActs c w (run w) act) :
    ∃ act, StageActs c w (guarded c run w) act := by
  unfold guarded
  cases hworks : c.sensorWorks w.devices with
  | true => exact h hworks
  | false => exact ⟨none, stageActs_none c w⟩

/-- A stage that changes its own flag and reports it, and leaves the rest alone. -/
theorem stageActs_some {c : ControlChannel} {w : World} (w' : World) (t : AlarmType)
    (hchannel : t.channel = c) (hworks : c.sensorWorks w.devices = true)
    (hpassed : t.Passed (t.reading w.environment) (t.limit w.thresholds))
    (hacted : c.flag w'.devices ≠ c.flag w.devices)
    (hothers : ∀ c', c' ≠ c → c'.flag w'.devices = c'.flag w.devices)
    (hframe : w'.environment = w.environment ∧ w'.thresholds = w.thresholds ∧
      ∀ c' : ControlChannel, c'.sensorWorks w'.devices = c'.sensorWorks w.devices) :
    StageActs c w (w', [.alarm t (t.reading w.environment) (t.limit w.thresholds),
      .deviceStatus w'.devices])
      (some ⟨t, t.reading w.environment, t.limit w.thresholds, w'.devices⟩) where
  reports := rfl
  alarm := by
    rintro _ ⟨⟩
    exact ⟨hchannel, rfl, rfl, hpassed, hworks⟩
  flags := by
    rintro _ ⟨⟩
    rfl
  quiet := by simp
  acted _ := hacted
  others := hothers
  frame := hframe

theorem temperature_acts [TimeoutCalc] (io : TimerIO) (w : World)
    (hworks : ControlChannel.temperature.sensorWorks w.devices = true) :
    ∃ act, StageActs .temperature w (temperatureChannel io w) act := by
  have hchange : ∀ (t : AlarmType) state, w.devices.beepState = !state →
      t.channel = .temperature →
      t.Passed (t.reading w.environment) (t.limit w.thresholds) → _ :=
    fun t state hb hchannel hpassed =>
      stageActs_some (emergencyChange io state w) t hchannel hworks hpassed
        (by simp [emergencyChange_eq, ControlChannel.flag, hb])
        (by intro c' hc'; cases c' <;> simp_all [emergencyChange_eq, ControlChannel.flag])
        ⟨by simp [emergencyChange_eq], by simp [emergencyChange_eq],
          by intro c'; cases c' <;> simp [emergencyChange_eq, ControlChannel.sensorWorks]⟩
  obtain ⟨hb, -, htemp, heq⟩ | ⟨hb, -, htemp, heq⟩ | ⟨-, -, heq⟩ :=
    temperatureChannel_cases io w
  · rw [heq]
    exact ⟨_, hchange .temperatureTooHigh true hb rfl htemp⟩
  · rw [heq]
    exact ⟨_, hchange .temperatureBackNormal false hb rfl htemp⟩
  · rw [heq]
    exact ⟨none, stageActs_none _ w⟩

theorem humidity_acts (w : World)
    (hworks : ControlChannel.humidity.sensorWorks w.devices = true) :
    ∃ act, StageActs .humidity w (humidityChannel w) act := by
  have hchange : ∀ (t : AlarmType) state, w.devices.relayState = !state →
      t.channel = .humidity →
      t.Passed (t.reading w.environment) (t.limit w.thresholds) → _ :=
    fun t state hr hchannel hpassed =>
      stageActs_some (relayChange state w) t hchannel hworks hpassed
        (by simp [relayChange_eq, ControlChannel.flag, hr])
        (by intro c' hc'; cases c' <;> simp_all [relayChange_eq, ControlChannel.flag])
        ⟨by simp [relayChange_eq], by simp [relayChange_eq],
          by intro c'; cases c' <;> simp [relayChange_eq, ControlChannel.sensorWorks]⟩
  obtain ⟨hr, hhumi, heq⟩ | ⟨hr, hhumi, heq⟩ | ⟨-, -, heq⟩ := humidityChannel_cases w
  · rw [heq]
    exact ⟨_, hchange .humidityTooHigh true hr rfl hhumi⟩
  · rw [heq]
    exact ⟨_, hchange .humidityBackNormal false hr rfl hhumi⟩
  · rw [heq]
    exact ⟨none, stageActs_none _ w⟩

theorem light_acts (w : World) (hworks : ControlChannel.light.sensorWorks w.devices = true) :
    ∃ act, StageActs .light w (lightChannel w) act := by
  have hchange : ∀ (t : AlarmType) state, w.devices.led1State = !state →
      t.channel = .light →
      t.Passed (t.reading w.environment) (t.limit w.thresholds) → _ :=
    fun t state hl hchannel hpassed =>
      stageActs_some (emergencyLightChange state w) t hchannel hworks hpassed
        (by simp [emergencyLightChange_eq, ControlChannel.flag, hl])
        (by intro c' hc'; cases c' <;> simp_all [emergencyLightChange_eq, ControlChannel.flag])
        ⟨by simp [emergencyLightChange_eq], by simp [emergencyLightChange_eq],
          by intro c'; cases c' <;> simp [emergencyLightChange_eq, ControlChannel.sensorWorks]⟩
  obtain ⟨hl, hlight, heq⟩ | ⟨hl, hlight, heq⟩ | ⟨-, -, heq⟩ := lightChannel_cases w
  · rw [heq]
    exact ⟨_, hchange .lightTooWeak true hl rfl hlight⟩
  · rw [heq]
    exact ⟨_, hchange .lightTooStrong false hl rfl hlight⟩
  · rw [heq]
    exact ⟨none, stageActs_none _ w⟩

/-! ### The three stages of an iteration -/

section
variable [TimeoutCalc] (io : TimerIO) (w : World)

/-- The first stage of an iteration. -/
def temperatureStage : Channel := guarded .temperature (temperatureChannel io) w

/-- The second stage of an iteration. -/
def humidityStage : Channel := guarded .humidity humidityChannel (temperatureStage io w).1

/-- The third stage of an iteration. -/
def lightStage : Channel := guarded .light lightChannel (humidityStage io w).1

/-- The stage of a channel in the iteration on `w`. -/
def stageOf : ControlChannel → Channel
  | .temperature => temperatureStage io w
  | .humidity => humidityStage io w
  | .light => lightStage io w

theorem temperatureStage_acts :
    ∃ act, StageActs .temperature w (temperatureStage io w) act :=
  guarded_acts (temperature_acts io w)

theorem humidityStage_acts :
    ∃ act, StageActs .humidity (temperatureStage io w).1 (humidityStage io w) act :=
  guarded_acts (humidity_acts _)

theorem lightStage_acts :
    ∃ act, StageActs .light (humidityStage io w).1 (lightStage io w) act :=
  guarded_acts (light_acts _)

/-- An iteration is its three stages. The temperature channel leaves the sensor marks alone,
so testing the mark of the DHT11 sensor once or twice is the same. -/
theorem myAutoControlIteration_eq :
    myAutoControlIteration io w =
      ((lightStage io w).1,
        (temperatureStage io w).2 ++ (humidityStage io w).2 ++ (lightStage io w).2) := by
  obtain ⟨act, hact⟩ := temperatureStage_acts io w
  have hmark := hact.frame.2.2 .humidity
  have hdht : dht11Channels io w =
      ((humidityStage io w).1, (temperatureStage io w).2 ++ (humidityStage io w).2) := by
    simp only [humidityStage, guarded, hmark]
    cases hworks : w.devices.dht11SensorState <;>
      simp [dht11Channels, temperatureStage, guarded, ControlChannel.sensorWorks, hworks]
  show ((lightSensorChannel (dht11Channels io w).1).1,
    (dht11Channels io w).2 ++ (lightSensorChannel (dht11Channels io w).1).2) = _
  rw [hdht]
  rfl

/-- The actuations `acts` are what the iteration on `w` reports. -/
structure ReportsActions (acts : List Actuation) : Prop where
  /-- The reports are the pairs of the actuations. -/
  reports : (myAutoControlIteration io w).2 = acts.flatMap Actuation.reports
  /-- The channels report in the order temperature, humidity, light, at most once each. -/
  order : (acts.map fun a => a.alarmType.channel.place).Pairwise (· < ·)
  /-- An alarm carries the current reading and the limit that it passed. -/
  alarm : ∀ a ∈ acts, a.value = a.alarmType.reading w.environment ∧
    a.limit = a.alarmType.limit w.thresholds ∧ a.alarmType.Passed a.value a.limit ∧
    a.alarmType.channel.sensorWorks w.devices = true
  /-- A status carries the flags right after its channel. -/
  flags : ∀ a ∈ acts, a.flags = (stageOf io w a.alarmType.channel).1.devices
  /-- The last status carries the flags at the end of the iteration. -/
  last : ∀ a ∈ acts.getLast?, a.flags = (myAutoControlIteration io w).1.devices
  /-- The iteration reports something exactly when it changed a flag. -/
  changed : (myAutoControlIteration io w).2 ≠ [] ↔
    (myAutoControlIteration io w).1.devices ≠ w.devices

/-- The stages change different flags, so the flags change exactly when a stage acts. -/
theorem devices_changed_iff {t h l : Option Actuation}
    (ht : StageActs .temperature w (temperatureStage io w) t)
    (hh : StageActs .humidity (temperatureStage io w).1 (humidityStage io w) h)
    (hl : StageActs .light (humidityStage io w).1 (lightStage io w) l) :
    (lightStage io w).1.devices ≠ w.devices ↔ t ≠ none ∨ h ≠ none ∨ l ≠ none := by
  constructor
  · intro hchanged
    by_contra hnone
    simp only [not_or, not_not] at hnone
    obtain ⟨ht', hh', hl'⟩ := hnone
    exact hchanged ((hl.quiet hl').trans ((hh.quiet hh').trans (ht.quiet ht')))
  · -- The flag of a stage that acts stays as the stage left it.
    rintro (hact | hact | hact) heq
    · refine ht.acted hact ?_
      rw [← hh.others .temperature (by decide), ← hl.others .temperature (by decide), heq]
    · refine hh.acted hact ?_
      rw [ht.others .humidity (by decide), ← hl.others .humidity (by decide), heq]
    · refine hl.acted hact ?_
      rw [hh.others .light (by decide), ht.others .light (by decide), heq]

/-- The iteration ends with the flags of its last actuation: the stages after it leave them
alone. -/
theorem last_flags {t h l : Option Actuation}
    (ht : StageActs .temperature w (temperatureStage io w) t)
    (hh : StageActs .humidity (temperatureStage io w).1 (humidityStage io w) h)
    (hl : StageActs .light (humidityStage io w).1 (lightStage io w) l) :
    ∀ a ∈ (t.toList ++ h.toList ++ l.toList).getLast?,
      a.flags = (lightStage io w).1.devices := by
  intro a ha
  cases l with
  | some x =>
    obtain rfl : x = a := by simpa using ha
    exact hl.flags x rfl
  | none =>
    rw [hl.quiet rfl]
    cases h with
    | some x =>
      obtain rfl : x = a := by simpa using ha
      exact hh.flags x rfl
    | none =>
      rw [hh.quiet rfl]
      cases t with
      | some x =>
        obtain rfl : x = a := by simpa using ha
        exact ht.flags x rfl
      | none => simp at ha

/-- The channels of the actuations come in the order of the stages. -/
theorem places_pairwise {t h l : Option Actuation}
    (ht : StageActs .temperature w (temperatureStage io w) t)
    (hh : StageActs .humidity (temperatureStage io w).1 (humidityStage io w) h)
    (hl : StageActs .light (humidityStage io w).1 (lightStage io w) l) :
    ((t.toList ++ h.toList ++ l.toList).map fun a =>
      a.alarmType.channel.place).Pairwise (· < ·) := by
  have htplace : ∀ a ∈ t, a.alarmType.channel.place = 0 := ht.place_eq
  have hhplace : ∀ a ∈ h, a.alarmType.channel.place = 1 := hh.place_eq
  have hlplace : ∀ a ∈ l, a.alarmType.channel.place = 2 := hl.place_eq
  cases t <;> cases h <;> cases l <;> simp_all

/-- Every iteration reports exactly what it did. -/
theorem iteration_reports_actions : ∃ acts, ReportsActions io w acts := by
  obtain ⟨t, ht⟩ := temperatureStage_acts io w
  obtain ⟨h, hh⟩ := humidityStage_acts io w
  obtain ⟨l, hl⟩ := lightStage_acts io w
  have heq := myAutoControlIteration_eq io w
  have hreports : (myAutoControlIteration io w).2 =
      (t.toList ++ h.toList ++ l.toList).flatMap Actuation.reports := by
    rw [heq, ht.reports, hh.reports, hl.reports, List.flatMap_append, List.flatMap_append]
  have hmem : ∀ a, a ∈ t.toList ++ h.toList ++ l.toList ↔ (a ∈ t ∨ a ∈ h) ∨ a ∈ l := by
    intro a
    simp only [List.mem_append, Option.mem_toList, Option.mem_def]
  obtain ⟨htenv, htlimits, htmarks⟩ := ht.frame
  obtain ⟨hhenv, hhlimits, hhmarks⟩ := hh.frame
  refine ⟨t.toList ++ h.toList ++ l.toList, hreports, places_pairwise io w ht hh hl,
    ?_, ?_, ?_, ?_⟩
  · intro a ha
    rcases (hmem a).1 ha with (ha | ha) | ha
    · exact ht.alarm_at rfl rfl (fun _ => rfl) a ha
    · exact hh.alarm_at htenv htlimits htmarks a ha
    · exact hl.alarm_at (hhenv.trans htenv) (hhlimits.trans htlimits)
        (fun c => (hhmarks c).trans (htmarks c)) a ha
  · intro a ha
    rcases (hmem a).1 ha with (ha | ha) | ha
    · rw [(ht.alarm a ha).1]
      exact ht.flags a ha
    · rw [(hh.alarm a ha).1]
      exact hh.flags a ha
    · rw [(hl.alarm a ha).1]
      exact hl.flags a ha
  · rw [heq]
    exact last_flags io w ht hh hl
  · have hempty : (myAutoControlIteration io w).2 ≠ [] ↔ t ≠ none ∨ h ≠ none ∨ l ≠ none := by
      rw [hreports]
      cases t <;> cases h <;> cases l <;> simp [Actuation.reports]
    rw [hempty, heq]
    exact (devices_changed_iff io w ht hh hl).symm

end

end SmartBuilding
