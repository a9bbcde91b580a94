import SmartBuilding.Proofs.Controller

/-!
# `SmartBuilding.Proofs.Alarms`: the alarm records alternate

The control loop keeps no state of its own. Each channel decides from the reported flags,
and the remote handlers write the same flags. So a channel can publish the same alarm twice
only when its flag was reset in between, by the opposite alarm or by a message.

A `Watch` is one flag with the alarm that sets it, the alarm that clears it, and the message
key that commands it. The log of the controller tracks the flag of each of the four watches
(`Watch.tracks`): the records give the value of the flag after every step, and each alarm
occurs only while its flag has the other value. `Machine.Tracks.exists_between` then gives a
record between two equal alarms that reset the flag. The temperature alarm looks at two
flags, so it has two watches, and the record is found for each of them.
-/

set_option autoImplicit false

namespace SmartBuilding

/-- One actuator flag, the alarms that set and clear it, and the key that commands it. -/
structure Watch where
  flag : Devices → Bool
  setAlarm : AlarmType
  clearAlarm : AlarmType
  key : String

namespace Watch

/-- The relay, which the humidity channel drives. -/
def relay : Watch := ⟨(·.relayState), .humidityTooHigh, .humidityBackNormal, "exhaustFan"⟩

/-- The buzzer, which the temperature channel drives. -/
def beep : Watch := ⟨(·.beepState), .temperatureTooHigh, .temperatureBackNormal, "alarm"⟩

/-- The door, which the temperature channel drives. -/
def door : Watch :=
  ⟨(·.doorState), .temperatureTooHigh, .temperatureBackNormal, "emergencyDoor"⟩

/-- The emergency light, which the light channel drives. -/
def led1 : Watch := ⟨(·.led1State), .lightTooWeak, .lightTooStrong, "fillLight"⟩

/-- The value to which an alarm sets the flag. -/
def alarmSets (a : Watch) (t : AlarmType) : Option Bool :=
  if t = a.setAlarm then some true else if t = a.clearAlarm then some false else none

/-- The value to which a record sets the flag. -/
def sets (a : Watch) : Record → Option Bool
  | .report (.alarm t _ _) => a.alarmSets t
  | .report (.deviceStatus _) => none
  | .handled object => flagKey object a.key

/-- The value of the flag at which a record can occur. -/
def needs (a : Watch) : Record → Option Bool
  | .report (.alarm t _ _) => (a.alarmSets t).map not
  | _ => none

/-- The reports of a channel track the flag. -/
def ChannelTracks (a : Watch) (c : World → Channel) : Prop :=
  ∀ w, Signal.replay a.sets (a.flag w.devices) ((c w).2.map .report) =
      a.flag (c w).1.devices ∧
    Signal.Guarded a.sets a.needs (a.flag w.devices) ((c w).2.map .report)

variable (a : Watch)

/-- A channel that publishes one alarm and then a status tracks the flag, when the alarm
accounts for the change of the flag and needs the value before. -/
private theorem tracks_alarm (b b' : Bool) (t : AlarmType) (data limit : Int32) (d : Devices)
    (hafter : (a.alarmSets t).getD b = b')
    (hbefore : ∀ c, a.alarmSets t = some c → b = !c) :
    Signal.replay a.sets b ([Report.alarm t data limit, .deviceStatus d].map .report) = b' ∧
    Signal.Guarded a.sets a.needs b
      ([Report.alarm t data limit, .deviceStatus d].map .report) := by
  constructor
  · simpa [sets] using hafter
  · simp only [List.map_cons, List.map_nil, Signal.guarded_cons, Signal.guarded_nil, needs,
      and_true, Option.map_eq_some_iff, reduceCtorEq, false_implies, implies_true]
    rintro c ⟨x, hx, rfl⟩
    exact hbefore x hx

/-- Two channels one after the other. -/
private theorem ChannelTracks.seq {a : Watch} {c₁ c₂ : World → Channel}
    (h₁ : a.ChannelTracks c₁) (h₂ : a.ChannelTracks c₂) :
    a.ChannelTracks fun w => ((c₂ (c₁ w).1).1, (c₁ w).2 ++ (c₂ (c₁ w).1).2) := by
  intro w
  obtain ⟨hreplay₁, hguarded₁⟩ := h₁ w
  obtain ⟨hreplay₂, hguarded₂⟩ := h₂ (c₁ w).1
  rw [List.map_append]
  constructor
  · rw [Signal.replay_append, hreplay₁, hreplay₂]
  · refine Signal.guarded_append _ _ _ _ _ hguarded₁ ?_
    rw [hreplay₁]
    exact hguarded₂

/-- A channel behind a test. -/
private theorem ChannelTracks.ite {a : Watch} {c : World → Channel} (test : World → Bool)
    (h : a.ChannelTracks c) : a.ChannelTracks fun w => if test w then c w else (w, []) := by
  intro w
  cases htest : test w
  · simp [htest]
  · simpa [htest] using h w

/-- What a watch owes: its channels track the flag, a request sets the flag to the value of
its key, and nothing else changes the flag. -/
structure Lawful (a : Watch) [TimeoutCalc] : Prop where
  temperature : ∀ io, a.ChannelTracks (temperatureChannel io)
  humidity : a.ChannelTracks humidityChannel
  light : a.ChannelTracks lightChannel
  request : ∀ object d, a.flag ((Request.ofObject object).devices d) =
    (flagKey object a.key).getD (a.flag d)
  sensors : ∀ object d, a.flag (sensorFlags object d) = a.flag d
  actuators : ∀ d d' : Devices, d.beepState = d'.beepState → d.relayState = d'.relayState →
    d.led1State = d'.led1State → d.doorState = d'.doorState → a.flag d = a.flag d'

/-- The log of the controller tracks the flag of a lawful watch. -/
theorem tracks [CJsonParser] [TimeoutCalc] (h : a.Lawful) :
    controller.Tracks (fun w => a.flag w.devices) a.sets a.needs := by
  -- An iteration is the three channels in sequence, two of them behind one test.
  have hiteration : ∀ io, a.ChannelTracks (myAutoControlIteration io) := fun io =>
    ((((h.temperature io).seq h.humidity).ite (·.devices.dht11SensorState)).seq
      (h.light.ite (·.devices.lightSensorState)))
  constructor
  · intro w e
    have hquiet := eventStep_of_quiet w e
    cases e with
    | iteration io => exact (hiteration io w).1
    | devControl io payload =>
      show (flagKey (parsePayload payload) a.key).getD (a.flag w.devices) =
        a.flag (devControlEffect io payload w).devices
      rw [devControlEffect_eq]
      exact (h.request _ _).symm
    | syncResponse io payload =>
      show (flagKey (syncDevice payload) a.key).getD (a.flag w.devices) =
        a.flag (mqttSyncCallback io payload w).devices
      rw [mqttSyncCallback_eq, sensorKeys_eq]
      exact ((h.sensors _ _).trans (h.request _ _)).symm
    | _ =>
      obtain ⟨hb, hr, -, hl, hd, -⟩ := hquiet id
      exact h.actuators _ _ hb.symm hr.symm hl.symm hd.symm
  · intro w e
    cases e with
    | iteration io => exact (hiteration io w).2
    | _ => simp [controller, eventOut, needs]

/-! ### The four watches -/

/-- A channel tracks the flag when it only acts on the other value of the flag, publishes
the alarm of its action, and stays quiet otherwise. -/
private theorem channelTracks_of_cases {a : Watch} {c : World → Channel}
    (h : ∀ w, (c w).2 = [] ∧ a.flag (c w).1.devices = a.flag w.devices ∨
      ∃ t data limit d, (c w).2 = [.alarm t data limit, .deviceStatus d] ∧
        (a.alarmSets t).getD (a.flag w.devices) = a.flag (c w).1.devices ∧
        ∀ v, a.alarmSets t = some v → a.flag w.devices = !v) : a.ChannelTracks c := by
  intro w
  obtain ⟨hout, hflag⟩ | ⟨t, data, limit, d, hout, hafter, hbefore⟩ := h w
  · rw [hout, hflag]
    simp
  · rw [hout]
    exact tracks_alarm a _ _ t data limit d hafter hbefore

end Watch

/-- The humidity channel tracks the flag of a watch that the relay starts and ends with, or
that no alarm of the humidity channel sets. -/
private theorem humidity_tracks (a : Watch)
    (h : ∀ w state, w.devices.relayState = !state →
      let t := if state then AlarmType.humidityTooHigh else .humidityBackNormal
      (a.alarmSets t).getD (a.flag w.devices) = a.flag (relayChange state w).devices ∧
      ∀ v, a.alarmSets t = some v → a.flag w.devices = !v) :
    a.ChannelTracks humidityChannel := by
  refine Watch.channelTracks_of_cases fun w => ?_
  obtain ⟨hr, -, heq⟩ | ⟨hr, -, heq⟩ | ⟨-, -, heq⟩ := humidityChannel_cases w <;> rw [heq]
  · exact .inr ⟨_, _, _, _, rfl, h w true hr⟩
  · exact .inr ⟨_, _, _, _, rfl, h w false hr⟩
  · exact .inl ⟨rfl, rfl⟩

/-- The same for the light channel and the emergency light. -/
private theorem light_tracks (a : Watch)
    (h : ∀ w state, w.devices.led1State = !state →
      let t := if state then AlarmType.lightTooWeak else .lightTooStrong
      (a.alarmSets t).getD (a.flag w.devices) =
        a.flag (emergencyLightChange state w).devices ∧
      ∀ v, a.alarmSets t = some v → a.flag w.devices = !v) :
    a.ChannelTracks lightChannel := by
  refine Watch.channelTracks_of_cases fun w => ?_
  obtain ⟨hl, -, heq⟩ | ⟨hl, -, heq⟩ | ⟨-, -, heq⟩ := lightChannel_cases w <;> rw [heq]
  · exact .inr ⟨_, _, _, _, rfl, h w true hl⟩
  · exact .inr ⟨_, _, _, _, rfl, h w false hl⟩
  · exact .inl ⟨rfl, rfl⟩

section
variable [TimeoutCalc]

/-- The same for the temperature channel and the emergency response. -/
private theorem temperature_tracks (a : Watch) (io : TimerIO)
    (h : ∀ w state, w.devices.beepState = !state → w.devices.doorState = !state →
      let t := if state then AlarmType.temperatureTooHigh else .temperatureBackNormal
      (a.alarmSets t).getD (a.flag w.devices) = a.flag (emergencyChange io state w).devices ∧
      ∀ v, a.alarmSets t = some v → a.flag w.devices = !v) :
    a.ChannelTracks (temperatureChannel io) := by
  refine Watch.channelTracks_of_cases fun w => ?_
  obtain ⟨hb, hd, -, heq⟩ | ⟨hb, hd, -, heq⟩ | ⟨-, -, heq⟩ := temperatureChannel_cases io w <;>
    rw [heq]
  · exact .inr ⟨_, _, _, _, rfl, h w true hb hd⟩
  · exact .inr ⟨_, _, _, _, rfl, h w false hb hd⟩
  · exact .inl ⟨rfl, rfl⟩

theorem Watch.relay_lawful : Watch.relay.Lawful where
  temperature io := temperature_tracks _ io fun w state _ _ => by
    cases state <;> simp [relay, alarmSets, emergencyChange_eq]
  humidity := humidity_tracks _ fun w state hr => by
    cases state <;> simp_all [relay, alarmSets, relayChange_eq]
  light := light_tracks _ fun w state _ => by
    cases state <;> simp [relay, alarmSets, emergencyLightChange_eq]
  request _ _ := rfl
  sensors _ _ := rfl
  actuators _ _ _ hr _ _ := hr

theorem Watch.beep_lawful : Watch.beep.Lawful where
  temperature io := temperature_tracks _ io fun w state hb _ => by
    cases state <;> simp_all [beep, alarmSets, emergencyChange_eq]
  humidity := humidity_tracks _ fun w state _ => by
    cases state <;> simp [beep, alarmSets, relayChange_eq]
  light := light_tracks _ fun w state _ => by
    cases state <;> simp [beep, alarmSets, emergencyLightChange_eq]
  request _ _ := rfl
  sensors _ _ := rfl
  actuators _ _ hb _ _ _ := hb

theorem Watch.door_lawful : Watch.door.Lawful where
  temperature io := temperature_tracks _ io fun w state _ hd => by
    cases state <;> simp_all [door, alarmSets, emergencyChange_eq]
  humidity := humidity_tracks _ fun w state _ => by
    cases state <;> simp [door, alarmSets, relayChange_eq]
  light := light_tracks _ fun w state _ => by
    cases state <;> simp [door, alarmSets, emergencyLightChange_eq]
  request _ _ := rfl
  sensors _ _ := rfl
  actuators _ _ _ _ _ hd := hd

theorem Watch.led1_lawful : Watch.led1.Lawful where
  temperature io := temperature_tracks _ io fun w state _ _ => by
    cases state <;> simp [led1, alarmSets, emergencyChange_eq]
  humidity := humidity_tracks _ fun w state _ => by
    cases state <;> simp [led1, alarmSets, relayChange_eq]
  light := light_tracks _ fun w state hl => by
    cases state <;> simp_all [led1, alarmSets, emergencyLightChange_eq]
  request _ _ := rfl
  sensors _ _ := rfl
  actuators _ _ _ _ hl _ := hl

end

/-! ### Alternation -/

/-- Between two records of the alarm `t` in the log, the records satisfy `P`. -/
def BetweenAlarms (t : AlarmType) (P : List Record → Prop) (log : List Record) : Prop :=
  ∀ l₁ l₂ l₃ x limit y limit',
    log = l₁ ++ .report (.alarm t x limit) :: (l₂ ++ .report (.alarm t y limit') :: l₃) → P l₂

/-- An alarm of the type `t` is among the records. -/
def HasAlarm (t : AlarmType) (l : List Record) : Prop :=
  ∃ x limit, .report (.alarm t x limit) ∈ l

/-- A handled message whose key has the value `state` is among the records. The value of a
key counts as `false` when it is anything but `true`. -/
def HasCommand (key : String) (state : Bool) (l : List Record) : Prop :=
  ∃ object, .handled object ∈ l ∧ flagKey object key = some state

/-- A record that sets the flag of a watch is the alarm of the watch or a message with its
key. -/
private theorem Watch.sets_cases (a : Watch) {w : Record} {l : List Record} {state : Bool}
    (hw : w ∈ l) (hset : a.sets w = some state) :
    HasAlarm (if state then a.setAlarm else a.clearAlarm) l ∨ HasCommand a.key state l := by
  cases w with
  | report r =>
    cases r with
    | alarm t x limit =>
      left
      simp only [sets, alarmSets] at hset
      split at hset
      · next ht => cases hset; exact ⟨x, limit, ht ▸ hw⟩
      split at hset
      · next ht => cases hset; exact ⟨x, limit, ht ▸ hw⟩
      · cases hset
    | deviceStatus d => simp [sets] at hset
  | handled object => exact .inr ⟨object, hw, hset⟩

/-- Between two alarms that set the flag of a lawful watch, the alarm that clears it or a
message that turns it off. And the same with the two alarms exchanged. -/
theorem Watch.alternates [CJsonParser] [TimeoutCalc] (a : Watch) (h : a.Lawful)
    (hne : a.setAlarm ≠ a.clearAlarm) (w : World) (es : List Event) :
    BetweenAlarms a.setAlarm (fun l => HasAlarm a.clearAlarm l ∨ HasCommand a.key false l)
      (controller.log w es) ∧
    BetweenAlarms a.clearAlarm (fun l => HasAlarm a.setAlarm l ∨ HasCommand a.key true l)
      (controller.log w es) := by
  constructor
  · intro l₁ l₂ l₃ x limit y limit' hlog
    -- The first alarm sets the flag, and the second one needs it clear.
    obtain ⟨r, hr, hset⟩ := (a.tracks h).exists_between (c := true) hlog
      (by simp [sets, alarmSets]) (by simp [needs, alarmSets])
    simpa using a.sets_cases hr hset
  · intro l₁ l₂ l₃ x limit y limit' hlog
    -- The same with the two values exchanged.
    obtain ⟨r, hr, hset⟩ := (a.tracks h).exists_between (c := false) hlog
      (by simp [sets, alarmSets, hne.symm]) (by simp [needs, alarmSets, hne.symm])
    simpa using a.sets_cases hr hset

/-- The alarm that answers an alarm. -/
def AlarmType.opposite : AlarmType → AlarmType
  | .temperatureTooHigh => .temperatureBackNormal
  | .temperatureBackNormal => .temperatureTooHigh
  | .humidityTooHigh => .humidityBackNormal
  | .humidityBackNormal => .humidityTooHigh
  | .lightTooStrong => .lightTooWeak
  | .lightTooWeak => .lightTooStrong

/-- What the law of alternation asks between two alarms of one type: the opposite alarm, or
messages that reset every actuator of the channel. The temperature channel has two
actuators, and two messages can reset them. -/
def AlarmType.Reset (l : List Record) : AlarmType → Prop
  | .humidityTooHigh => HasCommand "exhaustFan" false l
  | .humidityBackNormal => HasCommand "exhaustFan" true l
  | .temperatureTooHigh => HasCommand "alarm" false l ∧ HasCommand "emergencyDoor" false l
  | .temperatureBackNormal => HasCommand "alarm" true l ∧ HasCommand "emergencyDoor" true l
  | .lightTooWeak => HasCommand "fillLight" false l
  | .lightTooStrong => HasCommand "fillLight" true l

/-- In the log of every run, between two alarms of one type there is the opposite alarm, or
messages that reset every actuator of the channel. So without such messages an alarm is
never repeated, whatever the sensors and the thresholds do. -/
theorem alarms_alternate [CJsonParser] [TimeoutCalc] (w : World) (es : List Event)
    (t : AlarmType) :
    BetweenAlarms t (fun l => HasAlarm t.opposite l ∨ t.Reset l) (controller.log w es) ∧
    BetweenAlarms t (fun l => (∀ object, .handled object ∉ l) → HasAlarm t.opposite l)
      (controller.log w es) := by
  have hlaw : BetweenAlarms t (fun l => HasAlarm t.opposite l ∨ t.Reset l)
      (controller.log w es) := by
    have hrelay := Watch.relay.alternates Watch.relay_lawful (by decide) w es
    have hbeep := Watch.beep.alternates Watch.beep_lawful (by decide) w es
    have hdoor := Watch.door.alternates Watch.door_lawful (by decide) w es
    have hled1 := Watch.led1.alternates Watch.led1_lawful (by decide) w es
    -- The temperature alarms need a reset of both of their flags.
    have hboth : ∀ {p q r : Prop}, p ∨ q → p ∨ r → p ∨ q ∧ r := by tauto
    cases t with
    | temperatureTooHigh =>
      intro l₁ l₂ l₃ x limit y limit' hlog
      exact hboth (hbeep.1 l₁ l₂ l₃ x limit y limit' hlog)
        (hdoor.1 l₁ l₂ l₃ x limit y limit' hlog)
    | temperatureBackNormal =>
      intro l₁ l₂ l₃ x limit y limit' hlog
      exact hboth (hbeep.2 l₁ l₂ l₃ x limit y limit' hlog)
        (hdoor.2 l₁ l₂ l₃ x limit y limit' hlog)
    | humidityTooHigh => exact hrelay.1
    | humidityBackNormal => exact hrelay.2
    | lightTooStrong => exact hled1.2
    | lightTooWeak => exact hled1.1
  refine ⟨hlaw, ?_⟩
  intro l₁ l₂ l₃ x limit y limit' hlog hquiet
  -- Without a message in between, only the opposite alarm is left.
  have hnone : ∀ key state, ¬ HasCommand key state l₂ := by
    rintro key state ⟨object, hobject, -⟩
    exact hquiet object hobject
  have h := hlaw l₁ l₂ l₃ x limit y limit' hlog
  cases t <;> simpa [AlarmType.Reset, hnone] using h

end SmartBuilding
