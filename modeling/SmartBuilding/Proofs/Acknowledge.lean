import SmartBuilding.Proofs.RemoteCommand
import SmartBuilding.Proofs.Response

/-!
# `SmartBuilding.Proofs.Acknowledge`: when a command is all-or-nothing

A command should be applied as a whole and answered with `success`, or change nothing and
get no such answer (`AllOrNothing`). The handlers look up each key on its own, coerce
whatever node they find, and call the responder in every case, also after a payload that
does not parse. The responder always says `success`.

A key is applied when its flag has the requested value and the output follows it
(`Request.Applied`): LED0 and the alarm timer, the pins of LED1 and the relay, and the door. The
door is open at every angle but 0.

`command_acknowledged_iff` gives the exact condition, in two cases.

* A response with `success` goes out. Then the payload must be an object with well-typed
  keys, and each key must take effect (`Request.TakesEffect`). `fillLight` and `exhaustFan`
  always do. `warningLight` writes a flag alone, and `alarm` writes that flag too. `alarm`
  depends on the timer device, and a door at 180 is only half closed by one command.
* No such response goes out, because an allocation or the broker failed. Then every key of
  the payload must ask for what the state is already (`Request.Held`, `Limits.Held`).
-/

set_option autoImplicit false

namespace SmartBuilding

open CText

/-! ### The law -/

/-- The response says `success`. -/
def ReportsSuccess (reply : Option CJson) : Prop := flagKey reply "success" = some true

/-- The keys that a topic recognises, besides `commandId`. -/
def Topic.keys : Topic → List String
  | .deviceControl => ["warningLight", "fillLight", "exhaustFan", "alarm", "emergencyDoor"]
  | .thresholdSet => ["temperature", "humidity", "lightUpper", "lightLower"]

/-- The documented type of the keys of a topic. -/
def Topic.typed : Topic → CJson → Bool
  | .deviceControl, node => node.isBool
  | .thresholdSet, node => node.isNumber

/-- The payload parses to an object in which every recognised key has its documented
type. -/
structure Command.WellTyped [CJsonParser] (c : Command) : Prop where
  object : ∃ root, parsePayload c.payload = some root ∧ root.isObject = true
  commandId : ∀ node, c.idNode = some node → node.valuestring.isSome = true
  keys : ∀ name ∈ c.topic.keys, ∀ node,
    getObjectItem (parsePayload c.payload) name = some node → c.topic.typed node = true

/-- Every flag that a request names has the requested value, and the outputs follow. Besides the
outputs in `Obeyed`, the alarm flashes or is silent, and the servo holds the door open or
closed. -/
structure Request.Applied (r : Request) (w : World) : Prop extends Obeyed r w where
  alarmOutput : ∀ b, r.alarm = some b →
    (Flashing w.timer ↔ b = true) ∧ (b = false → w.pins.led0 = .high ∧ w.pins.beep = .low)
  doorOutput : ∀ b, r.emergencyDoor = some b →
    (w.angle = 0 ↔ b = false) ∧ w.servo = servoAngle w.angle

/-- Every limit that a message names has the requested value. -/
structure Limits.Applied (l : Limits) (t : Thresholds) : Prop where
  temperature : ∀ n, l.temperature = some n → t.tempLimit = n
  humidity : ∀ n, l.humidity = some n → t.humiLimit = n
  lightUpper : ∀ n, l.lightUpper = some n → t.lightUpLimit = n
  lightLower : ∀ n, l.lightLower = some n → t.lightDownLimit = n

/-- The actuator keys of a command. -/
def Command.request [CJsonParser] (c : Command) : Request :=
  Request.ofObject (parsePayload c.payload)

/-- The threshold keys of a command. -/
def Command.limits [CJsonParser] (c : Command) : Limits :=
  Limits.ofObject (parsePayload c.payload)

/-- Every recognised key of a command is applied in the world. -/
def Command.Applied [CJsonParser] (c : Command) (w : World) : Prop :=
  match c.topic with
  | .deviceControl => c.request.Applied w
  | .thresholdSet => c.limits.Applied w.thresholds

/-- A well-typed command is applied and answered with `success`, or the command changes
nothing and gets no such answer. -/
def AllOrNothing [CJsonParser] [TimeoutCalc] [NullText] (c : Command) (m : Mcu) : Prop :=
  (c.WellTyped ∧ c.Applied (handleCommand c m).2.world ∧
    ReportsSuccess (handleCommand c m).1) ∨
  ((handleCommand c m).2.world.controllerState = m.world.controllerState ∧
    ¬ ReportsSuccess (handleCommand c m).1)

/-! ### The condition -/

/-- Every key of a request takes effect: the warning light agrees with its key, the alarm flashes
already or its timer starts, a close finds the handle of a flashing timer, and the door is not
at 180 when it has to close. -/
structure Request.TakesEffect (io : TimerIO) (r : Request) (w : World) : Prop where
  warningLight : WarningLightAgrees r io w
  alarmOn : r.alarm = some true → Flashing w.timer ∨ TimerStarts io w.timer
  alarmOff : r.alarm = some false → ¬ (Flashing w.timer ∧ w.timer.hwDev = false)
  emergencyDoor : r.emergencyDoor = some false → w.angle ≠ 180

/-- Every key of a command takes effect. A limit always does. -/
def Command.TakesEffect [CJsonParser] (c : Command) (w : World) : Prop :=
  match c.topic with
  | .deviceControl => c.request.TakesEffect c.tio w
  | .thresholdSet => True

/-- Every key of a request asks for what the state is already. -/
structure Request.Held (io : TimerIO) (r : Request) (w : World) : Prop where
  warningLight : r.alarm = none → ∀ b, r.warningLight = some b → w.devices.led0State = b
  fillLight : ∀ b, r.fillLight = some b →
    w.devices.led1State = b ∧ w.pins.led1 = led1Level b
  exhaustFan : ∀ b, r.exhaustFan = some b →
    w.devices.relayState = b ∧ w.pins.relay = relayLevel b
  alarm : ∀ b, r.alarm = some b → w.devices.led0State = b ∧ w.devices.beepState = b
  alarmOff : r.alarm = some false → w.pins.led0 = .high ∧ w.pins.beep = .low ∧
    ¬ (w.timer.dev.opened = true ∧ w.timer.hwDev = true ∧ w.timer.dev.refCount = 1)
  alarmOn : r.alarm = some true →
    w.timer.dev.opened = true ∨ io.opens w.timer.dev.openState = false
  emergencyDoor : ∀ b, r.emergencyDoor = some b → w.devices.doorState = b ∧
    (if b then 180 ≤ w.angle else w.angle = 0) ∧ w.servo = servoAngle w.angle

/-- Every key of a message asks for the limit that holds already. -/
def Limits.Held (l : Limits) (t : Thresholds) : Prop := l.Applied t

/-- Every key of a command asks for what the state is already. -/
def Command.Held [CJsonParser] (c : Command) (w : World) : Prop :=
  match c.topic with
  | .deviceControl => c.request.Held c.tio w
  | .thresholdSet => c.limits.Held w.thresholds

/-- The condition for a command: with a response, the payload is well typed and takes effect.
Without one, it asks for what the state is already. -/
def Command.Truthful [CJsonParser] (c : Command) (w : World) : Prop :=
  if c.rio.delivers && c.rio.addSuccess then c.WellTyped ∧ c.TakesEffect w else c.Held w

/-! ### The response -/

/-- A response with `success` goes out exactly when nothing fails on its way. -/
theorem reportsSuccess_iff [CJsonParser] [TimeoutCalc] [NullText] (c : Command) (m : Mcu) :
    ReportsSuccess (handleCommand c m).1 ↔ (c.rio.delivers && c.rio.addSuccess) = true := by
  rw [handleCommand_eq]
  unfold ReportsSuccess flagKey
  cases c.rio.delivers
  · simp
  · rw [if_pos rfl, getObjectItem_success]
    cases c.rio.addSuccess <;> simp [CJson.isTrue]

/-! ### The state -/

private theorem getD_eq_self {α : Type} (o : Option α) (a : α) :
    o.getD a = a ↔ ∀ b, o = some b → a = b := by
  cases o with
  | none => simp
  | some b => simp [eq_comm]

/-- A door command leaves the angle alone only at the end of its range. -/
private theorem nextAngle_eq_self (direction : Bool) (angle : UInt8) :
    nextAngle direction angle = angle ↔ if direction then 180 ≤ angle else angle = 0 := by
  unfold nextAngle
  have hlt := angle.toNat_lt
  cases direction
  · by_cases h : angle > 0
    · have hmove : angle - 90 ≠ angle := by
        intro heq
        have hnat := congrArg UInt8.toNat heq
        simp only [UInt8.toNat_sub, UInt8.reduceToNat] at hnat
        omega
      have hne : angle ≠ 0 := UInt8.pos_iff_ne_zero.mp h
      simp [h, hmove, hne]
    · have hzero : angle = 0 := by simpa [UInt8.pos_iff_ne_zero] using h
      simp [hzero]
  · by_cases h : angle < 180
    · have hmove : angle + 90 ≠ angle := by
        intro heq
        have hnat := congrArg UInt8.toNat heq
        simp only [UInt8.toNat_add, UInt8.reduceToNat] at hnat
        omega
      simp [h, hmove]
    · simpa [h] using UInt8.not_lt.mp h

/-- The door part of a request that changes nothing. -/
private theorem door_held (r : Request) (d : Bool) (angle servo : UInt8) :
    (r.emergencyDoor.getD d = d ∧ r.angle angle = angle ∧ r.servo angle servo = servo) ↔
      ∀ b, r.emergencyDoor = some b →
        d = b ∧ (if b then 180 ≤ angle else angle = 0) ∧ servo = servoAngle angle := by
  unfold Request.angle Request.servo
  cases r.emergencyDoor with
  | none => simp
  | some b =>
    simp only [Option.getD_some, Option.some.injEq, forall_eq']
    constructor
    · rintro ⟨hd, ha, hs⟩
      rw [ha] at hs
      exact ⟨hd.symm, (nextAngle_eq_self b angle).mp ha, hs.symm⟩
    · rintro ⟨hd, ha, hs⟩
      have hangle := (nextAngle_eq_self b angle).mpr ha
      rw [hangle]
      exact ⟨hd.symm, rfl, hs.symm⟩

/-- The timer part of a request that changes nothing. -/
private theorem timer_held [TimeoutCalc] (io : TimerIO) (r : Request) (t : TimerSys) :
    (r.timer io t).dev.opened = t.dev.opened ↔
      (r.alarm = some false →
        ¬ (t.dev.opened = true ∧ t.hwDev = true ∧ t.dev.refCount = 1)) ∧
      (r.alarm = some true → t.dev.opened = true ∨ io.opens t.dev.openState = false) := by
  have hopened : (r.timer io t).dev.opened = (r.timer io t).dev.openState.opened := rfl
  rw [hopened, Request.openState_timer]
  cases r.alarm with
  | none => simp [HwTimer.openState]
  | some state =>
    cases state
    · -- A close changes the open bit only when it drops the last reference.
      have hlast : t.dev.refCount - 1 = 0 ↔ t.dev.refCount = 1 :=
        UInt8.sub_eq_iff_eq_add
      cases hh : t.hwDev
      · simp [OpenState.afterClose, HwTimer.openState]
      · by_cases hr : t.dev.refCount = 1 <;> by_cases hz : t.dev.refCount = 0 <;>
          simp_all [OpenState.afterClose, HwTimer.openState]
    · cases ho : t.dev.opened <;> simp [OpenState.afterOpen, HwTimer.openState, ho]

/-- A request changes nothing exactly when each of its keys asks for what is so already. -/
theorem request_unchanged_iff [TimeoutCalc] (io : TimerIO) (r : Request) (w : World) :
    (r.apply io w).controllerState = w.controllerState ↔ r.Held io w := by
  have hdoor := door_held r w.devices.doorState w.angle w.servo
  have htimer := timer_held io r w.timer
  obtain ⟨⟨beepState, relayState, led0State, led1State, doorState, dht11, lightSensor⟩,
    environment, thresholds, ⟨led0, led1, beep, relay⟩, timer, angle, servo, tempLimit,
    lightLimit⟩ := w
  simp only [World.controllerState, Request.apply, Request.devices, Request.pins,
    ControllerState.mk.injEq, Devices.mk.injEq, Pins.mk.injEq, true_and, and_true]
  constructor
  · rintro ⟨⟨hbeep, hrelay, hled0, hled1, hdoorState⟩, ⟨hp0, hp1, hpb, hpr⟩, hopened, hangle,
      hservo⟩
    have hoff := htimer.mp hopened
    refine ⟨?_, ?_, ?_, ?_, ?_, hoff.2, hdoor.mp ⟨hdoorState, hangle, hservo⟩⟩
    · intro hnone b hb
      simpa [hnone, hb] using hled0.symm
    · intro b hb
      simp only [hb, Option.getD_some, Option.map_some] at hled1 hp1
      exact ⟨hled1.symm, hp1.symm⟩
    · intro b hb
      simp only [hb, Option.getD_some, Option.map_some] at hrelay hpr
      exact ⟨hrelay.symm, hpr.symm⟩
    · intro b hb
      simp only [hb, Option.getD_some] at hbeep hled0
      exact ⟨hled0.symm, hbeep.symm⟩
    · intro hfalse
      simp only [hfalse, if_true] at hp0 hpb
      exact ⟨hp0.symm, hpb.symm, hoff.1 hfalse⟩
  · intro h
    obtain ⟨hdoorState, hangle, hservo⟩ := hdoor.mpr h.emergencyDoor
    refine ⟨⟨?_, ?_, ?_, ?_, hdoorState⟩, ⟨?_, ?_, ?_, ?_⟩, ?_, hangle, hservo⟩
    · exact (getD_eq_self _ _).mpr fun b hb => (h.alarm b hb).2
    · exact (getD_eq_self _ _).mpr fun b hb => (h.exhaustFan b hb).1
    · cases halarm : r.alarm with
      | none => exact (getD_eq_self _ _).mpr fun b hb => h.warningLight halarm b hb
      | some b => exact (h.alarm b halarm).1.symm
    · exact (getD_eq_self _ _).mpr fun b hb => (h.fillLight b hb).1
    · split
      · next hfalse => exact (h.alarmOff hfalse).1.symm
      · rfl
    · cases hfill : r.fillLight with
      | none => rfl
      | some b => exact (h.fillLight b hfill).2.symm
    · split
      · next hfalse => exact (h.alarmOff hfalse).2.1.symm
      · rfl
    · cases hfan : r.exhaustFan with
      | none => rfl
      | some b => exact (h.exhaustFan b hfan).2.symm
    · exact htimer.mpr ⟨fun hfalse => (h.alarmOff hfalse).2.2, h.alarmOn⟩

/-- The limits of a message change nothing exactly when they hold already. -/
theorem limits_unchanged_iff (l : Limits) (t : Thresholds) : l.thresholds t = t ↔ l.Held t := by
  obtain ⟨tempLimit, humiLimit, lightUpLimit, lightDownLimit⟩ := t
  simp only [Limits.thresholds, Thresholds.mk.injEq, getD_eq_self]
  constructor
  · rintro ⟨htemp, hhumi, hup, hdown⟩
    exact ⟨htemp, hhumi, hup, hdown⟩
  · rintro ⟨htemp, hhumi, hup, hdown⟩
    exact ⟨htemp, hhumi, hup, hdown⟩

/-- The alarm timer after a request that names the alarm. -/
private theorem flashing_apply [TimeoutCalc] (io : TimerIO) (r : Request) {w : World}
    (h : TimerSane w.timer) (b : Bool) (hb : r.alarm = some b) :
    Flashing (r.apply io w).timer ↔
      if b then Flashing w.timer ∨ TimerStarts io w.timer
      else Flashing w.timer ∧ w.timer.hwDev = false := by
  show Flashing (r.timer io w.timer) ↔ _
  rw [Request.timer, hb]
  cases b with
  | true => simpa using h.flashing_afterOpen io
  | false => simpa using h.flashing_afterClose

/-- A door command brings the door from one of its three angles to the requested side, except
that a close stops half-way from 180. -/
private theorem nextAngle_eq_zero_iff (direction : Bool) {angle : UInt8}
    (h : AngleReachable angle) :
    (nextAngle direction angle = 0 ↔ direction = false) ↔
      (direction = false → angle ≠ 180) := by
  obtain rfl | rfl | rfl := h <;> cases direction <;> decide

/-- The keys of a request are applied exactly when each of them takes effect. -/
theorem request_applied_iff [TimeoutCalc] (io : TimerIO) (r : Request) {w : World}
    (ht : TimerSane w.timer) (ha : AngleReachable w.angle) :
    r.Applied (r.apply io w) ↔ r.TakesEffect io w := by
  have hwarning := warningLight_apply_iff r io ht
  have hflashing := flashing_apply io r ht
  constructor
  · intro h
    refine ⟨hwarning.mp h.warningLight, ?_, ?_, ?_⟩
    · intro hb
      exact (hflashing true hb).mp ((h.alarmOutput true hb).1.mpr rfl)
    · intro hb hstays
      have hflash := (hflashing false hb).mpr hstays
      exact Bool.noConfusion ((h.alarmOutput false hb).1.mp hflash)
    · intro hb
      have hangle : nextAngle false w.angle = 0 ↔ false = false := by
        have hdoor := (h.doorOutput false hb).1
        simpa only [Request.apply, Request.angle, hb] using hdoor
      exact (nextAngle_eq_zero_iff false ha).mp hangle rfl
  · intro h
    refine ⟨⟨hwarning.mpr h.warningLight, ?_, ?_, ?_, ?_⟩, ?_, ?_⟩
    · intro b hb
      simp [Request.apply, Request.devices, Request.pins, hb]
    · intro b hb
      simp [Request.apply, Request.devices, Request.pins, hb]
    · intro b hb
      simp [Request.apply, Request.devices, hb]
    · intro b hb
      simp [Request.apply, Request.devices, hb]
    · intro b hb
      rw [hflashing b hb]
      cases b with
      | true => exact ⟨iff_of_true (h.alarmOn hb) rfl, fun hfalse => Bool.noConfusion hfalse⟩
      | false =>
        refine ⟨iff_of_false (h.alarmOff hb) Bool.false_ne_true, fun _ => ?_⟩
        simp [Request.apply, Request.pins, hb]
    · intro b hb
      have hangle := (nextAngle_eq_zero_iff b ha).mpr fun hfalse =>
        h.emergencyDoor (hb.trans (congrArg some hfalse))
      simpa only [Request.apply, Request.angle, Request.servo, hb, and_true] using hangle

theorem limits_applied (l : Limits) (t : Thresholds) : l.Applied (l.thresholds t) := by
  refine ⟨?_, ?_, ?_, ?_⟩ <;>
    · intro n hn
      simp [Limits.thresholds, hn]

/-! ### The exact condition -/

/-- After a command, its keys are applied exactly when each of them takes effect. -/
theorem applied_iff [CJsonParser] [TimeoutCalc] (c : Command) {w : World}
    (ht : TimerSane w.timer) (ha : AngleReachable w.angle) :
    c.Applied (c.effect w) ↔ c.TakesEffect w := by
  unfold Command.Applied Command.effect Command.TakesEffect
  cases c.topic with
  | deviceControl =>
    simp only [devControlEffect_eq]
    exact request_applied_iff c.tio c.request ht ha
  | thresholdSet =>
    simp only [thresholdsEffect_eq]
    exact iff_of_true (limits_applied c.limits w.thresholds) trivial

/-- A command changes nothing exactly when its keys ask for what is so already. -/
theorem unchanged_iff [CJsonParser] [TimeoutCalc] (c : Command) (w : World) :
    (c.effect w).controllerState = w.controllerState ↔ c.Held w := by
  unfold Command.effect Command.Held
  cases c.topic with
  | deviceControl =>
    simp only [devControlEffect_eq]
    exact request_unchanged_iff c.tio c.request w
  | thresholdSet =>
    simp only [thresholdsEffect_eq]
    rw [← limits_unchanged_iff]
    simp [World.controllerState, Command.limits]

/-- A command is all-or-nothing exactly under its condition: with a response, a well-typed
payload whose keys all take effect. Without one, a payload that asks for what is so already. The
timer is sane and the angle is one of three in every reachable state (`timer_sane`,
`angle_reachable`). -/
theorem command_acknowledged_iff [CJsonParser] [TimeoutCalc] [NullText] (c : Command)
    (m : Mcu) (ht : TimerSane m.world.timer) (ha : AngleReachable m.world.angle) :
    AllOrNothing c m ↔ c.Truthful m.world := by
  have hworld : (handleCommand c m).2.world = c.effect m.world := by rw [handleCommand_eq]
  unfold AllOrNothing Command.Truthful
  rw [hworld, reportsSuccess_iff, applied_iff c ht ha, unchanged_iff]
  -- With a response only the first case is left, and without one only the second.
  cases c.rio.delivers && c.rio.addSuccess <;> simp

/-- The parser on a message that turns the fill light on. -/
abbrev fillLightMessages : CJsonParser :=
  .table [("\x7b\"fillLight\":true\x7d", .object [(ofText "fillLight", .jTrue)])]

/-- The fill light is turned on, and the answer is `success`. -/
theorem fillLight_acknowledged :
    @AllOrNothing fillLightMessages .board ⟨[]⟩
      ⟨.deviceControl, ofText "\x7b\"fillLight\":true\x7d", .ok, .ok⟩
      (.start (boot ⟨.low, .low, .low, .low⟩)) := by
  refine (@command_acknowledged_iff fillLightMessages .board ⟨[]⟩
    ⟨.deviceControl, ofText "\x7b\"fillLight\":true\x7d", .ok, .ok⟩
    (.start (boot ⟨.low, .low, .low, .low⟩))
    (@timer_sane fillLightMessages .board ⟨.low, .low, .low, .low⟩ [])
    (@angle_reachable fillLightMessages .board ⟨.low, .low, .low, .low⟩ [])).mpr ?_
  show @Command.WellTyped fillLightMessages _ ∧ @Command.TakesEffect fillLightMessages _ _
  have hparse : @parsePayload fillLightMessages (ofText "\x7b\"fillLight\":true\x7d") =
      some (.object [(ofText "fillLight", .jTrue)]) := parsePayload_table _ _ _
  have hkeys : ∀ name ∈ Topic.deviceControl.keys, ∀ node,
      getObjectItem (@parsePayload fillLightMessages (ofText "\x7b\"fillLight\":true\x7d"))
        name = some node → Topic.deviceControl.typed node = true := by
    intro name _ node hnode
    rw [hparse] at hnode
    -- Only one key is there, and it is a boolean.
    obtain ⟨m, hm, rfl⟩ := Option.map_eq_some_iff.mp hnode
    obtain rfl := List.mem_singleton.mp (List.mem_of_find?_eq_some hm)
    rfl
  have hrequest : @Command.request fillLightMessages
      ⟨.deviceControl, ofText "\x7b\"fillLight\":true\x7d", .ok, .ok⟩ =
        ⟨none, some true, none, none, none⟩ := rfl
  refine ⟨@Command.WellTyped.mk fillLightMessages _ ⟨_, hparse, rfl⟩ (fun _ h => nomatch h) hkeys,
    ?_⟩
  show Request.TakesEffect .ok (@Command.request fillLightMessages _) _
  rw [hrequest]
  exact ⟨nofun, nofun, nofun, nofun⟩

/-- A payload that does not parse changes nothing, and the answer is `success`. -/
theorem malformed_command_acknowledged :
    ¬ @AllOrNothing (.table []) .board ⟨[]⟩
      ⟨.deviceControl, ofText "\x7b", .ok, .ok⟩ (.start (boot ⟨.low, .low, .low, .low⟩)) := by
  rintro (⟨hwell, -, -⟩ | ⟨-, hsilent⟩)
  · obtain ⟨root, hroot, -⟩ := @Command.WellTyped.object (.table []) _ hwell
    cases hroot
  · exact hsilent rfl

end SmartBuilding
