import SmartBuilding.Controller
import SmartBuilding.Proofs.Response

/-!
# `SmartBuilding.Proofs.SyncSplit`: a sync message is two command messages

A sync message carries an object of limits and an object of device states. The source has a
second copy of the code for each of them: `mqtt_thresholds_callback` and
`mqtt_dev_control_callback`. The copies agree. They also touch different parts of the world,
so their order does not matter (`sync_eq_commands`).

The comparison is about the world. A command also saves its command id and publishes a
response, and a sync does neither.
-/

set_option autoImplicit false

namespace SmartBuilding

open CText

/-- The sync object with the two members. -/
def syncObject (threshold device : CJson) : CJson :=
  .object [(ofText "threshold", threshold), (ofText "device", device)]

theorem syncThreshold_of_syncObject [CJsonParser] {payload : List UInt8}
    {threshold device : CJson} (h : parsePayload payload = some (syncObject threshold device)) :
    syncThreshold payload = some threshold := by
  rw [syncThreshold, h]
  rfl

theorem syncDevice_of_syncObject [CJsonParser] {payload : List UInt8}
    {threshold device : CJson} (h : parsePayload payload = some (syncObject threshold device)) :
    syncDevice payload = some device := by
  rw [syncDevice, h]
  rfl

/-- An object without the two sensor keys leaves the sensor marks alone. -/
theorem sensorFlags_of_absent {object : Option CJson}
    (hdht : getObjectItem object "dht11Status" = none)
    (hlight : getObjectItem object "lightSensorStatus" = none) (d : Devices) :
    sensorFlags object d = d := by
  simp [sensorFlags, flagKey, hdht, hlight]

/-- A request changes neither a limit nor a reading nor a sensor mark. -/
theorem Request.apply_frame [TimeoutCalc] (io : TimerIO) (r : Request) (w : World) :
    (r.apply io w).thresholds = w.thresholds ∧
    (r.apply io w).environment = w.environment ∧
    (r.apply io w).devices.dht11SensorState = w.devices.dht11SensorState ∧
    (r.apply io w).devices.lightSensorState = w.devices.lightSensorState :=
  ⟨rfl, rfl, rfl, rfl⟩

section
variable [CJsonParser] [TimeoutCalc] [NullText]

/-- The world after a device command. -/
theorem world_mqttDevControlCallback (tio : TimerIO) (rio : ResponseIO)
    (payload : List UInt8) (m : Mcu) :
    (mqttDevControlCallback tio rio payload m).2.world =
      (Request.ofObject (parsePayload payload)).apply tio m.world := by
  have h := handleCommand_eq ⟨.deviceControl, payload, tio, rio⟩ m
  rw [← devControlEffect_eq]
  exact congrArg (fun p => p.2.world) h

/-- The world after a threshold command. -/
theorem world_mqttThresholdsCallback (rio : ResponseIO) (payload : List UInt8) (m : Mcu) :
    (mqttThresholdsCallback rio payload m).2.world =
      { m.world with
          thresholds :=
            (Limits.ofObject (parsePayload payload)).thresholds m.world.thresholds } := by
  -- A threshold command does not use the timer, so any answers of it do.
  have h := handleCommand_eq ⟨.thresholdSet, payload, .ok, rio⟩ m
  rw [← thresholdsEffect_eq]
  exact congrArg (fun p => p.2.world) h

/-- Handling a sync message leaves the world that its two objects leave as commands, in
either order. A threshold command changes nothing but the limits, and a device command
changes no limit, no reading and no sensor mark. -/
theorem sync_eq_commands (m : Mcu) (tio : TimerIO) (rio rio' : ResponseIO)
    (threshold device : CJson) (sync set control : List UInt8)
    (hsync : parsePayload sync = some (syncObject threshold device))
    (hset : parsePayload set = some threshold)
    (hcontrol : parsePayload control = some device)
    (hdht : getObjectItem (some device) "dht11Status" = none)
    (hlight : getObjectItem (some device) "lightSensorStatus" = none) :
    mqttSyncCallback tio sync m.world =
        (mqttDevControlCallback tio rio' control (mqttThresholdsCallback rio set m).2).2.world ∧
    mqttSyncCallback tio sync m.world =
        (mqttThresholdsCallback rio set (mqttDevControlCallback tio rio' control m).2).2.world ∧
    (∀ (m : Mcu) rio payload, (mqttThresholdsCallback rio payload m).2.world =
      { m.world with
          thresholds := (mqttThresholdsCallback rio payload m).2.world.thresholds }) ∧
    (∀ (m : Mcu) tio rio payload,
      (mqttDevControlCallback tio rio payload m).2.world.thresholds = m.world.thresholds ∧
      (mqttDevControlCallback tio rio payload m).2.world.environment = m.world.environment ∧
      (mqttDevControlCallback tio rio payload m).2.world.devices.dht11SensorState =
        m.world.devices.dht11SensorState ∧
      (mqttDevControlCallback tio rio payload m).2.world.devices.lightSensorState =
        m.world.devices.lightSensorState) := by
  have hworld : mqttSyncCallback tio sync m.world =
      (Request.ofObject (some device)).apply tio
        { m.world with
            thresholds :=
              (Limits.ofObject (some threshold)).thresholds m.world.thresholds } := by
    rw [mqttSyncCallback_eq, syncThreshold_of_syncObject hsync,
      syncDevice_of_syncObject hsync, sensorKeys_eq, sensorFlags_of_absent hdht hlight]
  refine ⟨?_, ?_, ?_, ?_⟩
  · rw [hworld, world_mqttDevControlCallback, world_mqttThresholdsCallback, hset, hcontrol]
  · -- The request keeps the limits, so setting them last is the same.
    rw [hworld, world_mqttThresholdsCallback, world_mqttDevControlCallback, hset, hcontrol]
    rfl
  · intro m rio payload
    rw [world_mqttThresholdsCallback]
  · intro m tio rio payload
    rw [world_mqttDevControlCallback]
    exact Request.apply_frame tio _ m.world

end

/-- A sync with one limit and one light. -/
def splitSyncText : String :=
  "\x7b\"threshold\":\x7b\"temperature\":26\x7d," ++
    "\"device\":\x7b\"fillLight\":true\x7d\x7d"

/-- The parser on that sync, and on its two objects as commands. -/
abbrev splitMessages : CJsonParser :=
  .table [(splitSyncText, syncObject (.object [(ofText "temperature", .int 26)])
      (.object [(ofText "fillLight", .jTrue)])),
    ("\x7b\"temperature\":26\x7d", .object [(ofText "temperature", .int 26)]),
    ("\x7b\"fillLight\":true\x7d", .object [(ofText "fillLight", .jTrue)])]

theorem sync_eq_commands_fillLight :
    @mqttSyncCallback splitMessages .board .ok (ofText splitSyncText)
        (boot ⟨.low, .low, .low, .low⟩) =
      (@mqttDevControlCallback splitMessages .board ⟨[]⟩ .ok .ok
        (ofText "\x7b\"fillLight\":true\x7d")
        (@mqttThresholdsCallback splitMessages ⟨[]⟩ .ok
          (ofText "\x7b\"temperature\":26\x7d")
          (.start (boot ⟨.low, .low, .low, .low⟩))).2).2.world :=
  (@sync_eq_commands splitMessages .board ⟨[]⟩ (.start (boot ⟨.low, .low, .low, .low⟩))
    .ok .ok .ok (.object [(ofText "temperature", .int 26)])
    (.object [(ofText "fillLight", .jTrue)]) _ _ _ (parsePayload_table _ _ _) rfl rfl rfl
    rfl).1

end SmartBuilding
