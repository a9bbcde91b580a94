import SmartBuilding.Proofs.Controller

/-!
# `SmartBuilding.Proofs.Door`: the door flag and the angle of the door

`my_pwm_angle_change` adds 90 to the angle to open the door, and subtracts 90 to close it.
The guards are `angle < 180` and `angle > 0`, so the angle is 0, 90 or 180 in every
reachable state and the byte never wraps (`angle_reachable`).

The flag is set to the direction of the last call, whatever the angle was. A first opening
takes the door from 0 to 90, and the guard lets a second one take it to 180. After that a
closing takes it to 90 only, with the flag at "closed". `door_agrees_iff` says that this is
the only way to break the agreement: the flag gives the angle along a run exactly when no
message opens the door while it is open. The control loop never does so, because it opens
the door only from the closed state.
-/

set_option autoImplicit false

namespace SmartBuilding

open CText

/-! ### The angle -/

/-- The three angles of the reachable states. -/
def AngleReachable (angle : UInt8) : Prop := angle = 0 ∨ angle = 90 ∨ angle = 180

theorem nextAngle_reachable (direction : Bool) {angle : UInt8} (h : AngleReachable angle) :
    AngleReachable (nextAngle direction angle) := by
  -- Three angles and two directions: 0, 90 and 180 are closed under the step.
  obtain rfl | rfl | rfl := h <;> cases direction <;> simp [nextAngle, AngleReachable]

/-- The step of `my_pwm_angle_change` from an angle does not wrap the byte. -/
def AngleFits (direction : Bool) (angle : UInt8) : Prop :=
  if direction then angle < 180 → angle.toNat + 90 < 2 ^ 8 else angle > 0 → 90 ≤ angle.toNat

theorem angleFits_of_reachable (direction : Bool) {angle : UInt8} (h : AngleReachable angle) :
    AngleFits direction angle := by
  obtain rfl | rfl | rfl := h <;> cases direction <;> simp [AngleFits]

/-- A request keeps the angle among the three. -/
theorem Request.angle_reachable (r : Request) {angle : UInt8} (h : AngleReachable angle) :
    AngleReachable (r.angle angle) := by
  unfold Request.angle
  cases r.emergencyDoor with
  | none => exact h
  | some direction => exact nextAngle_reachable direction h

/-- One event keeps the angle among the three. -/
theorem eventStep_angle_reachable [CJsonParser] [TimeoutCalc] (w : World) (e : Event)
    (h : AngleReachable w.angle) : AngleReachable (eventStep w e).angle := by
  have hquiet := eventStep_of_quiet w e
  cases e with
  | iteration io =>
    refine iteration_preserves_of_actuators io (fun w => AngleReachable w.angle) ?_ ?_ ?_ w h
    · intro w state _ _ h
      rw [emergencyChange_eq]
      exact nextAngle_reachable state h
    · intro w state h
      rw [relayChange_eq]
      exact h
    · intro w state h
      rw [emergencyLightChange_eq]
      exact h
  | devControl io payload =>
    simp only [eventStep, devControlEffect_eq]
    exact Request.angle_reachable _ h
  | syncResponse io payload =>
    simp only [eventStep, mqttSyncCallback_eq, sensorKeys_eq]
    exact Request.angle_reachable _ h
  | _ =>
    obtain ⟨-, -, -, -, -, hangle, -⟩ := hquiet id
    rw [hangle]
    exact h

/-- The angle is 0, 90 or 180 in every reachable state. -/
theorem angle_reachable [CJsonParser] [TimeoutCalc] (pins : Pins) (es : List Event) :
    AngleReachable (controller.run (boot pins) es).angle :=
  controller.run_invariant (fun w => AngleReachable w.angle) eventStep_angle_reachable es
    (boot pins) (.inl rfl)

/-! ### The flag and the angle -/

/-- The flag gives the angle: 0 when the door is closed, and `openAngle` when it is open. -/
def DoorAt (openAngle : UInt8) (w : World) : Prop :=
  (w.devices.doorState = false → w.angle = 0) ∧
  (w.devices.doorState = true → w.angle = openAngle)

/-- The event is no message that opens the door while it is open. -/
def OpensClosedDoor [CJsonParser] (w : World) : Event → Prop
  | .devControl _ payload =>
      flagKey (parsePayload payload) "emergencyDoor" = some true → w.devices.doorState = false
  | .syncResponse _ payload =>
      flagKey (syncDevice payload) "emergencyDoor" = some true → w.devices.doorState = false
  | _ => True

/-- The door call `q` leads from the door of `w` to the door of `w'`. There is no call when
`q` is `none`. -/
def DoorCall (q : Option Bool) (w w' : World) : Prop :=
  match q with
  | none => w'.devices.doorState = w.devices.doorState ∧ w'.angle = w.angle
  | some direction =>
      w'.devices.doorState = direction ∧ w'.angle = nextAngle direction w.angle

/-- The request of a message makes the door call of its key. -/
theorem Request.doorCall (r : Request) {w w' : World}
    (hdoor : w'.devices.doorState = (r.devices w.devices).doorState)
    (hangle : w'.angle = r.angle w.angle) : DoorCall r.emergencyDoor w w' := by
  unfold DoorCall
  cases h : r.emergencyDoor <;> simp_all [Request.devices, Request.angle]

/-- An iteration makes at most one door call, and opens the door from the closed state
only. -/
theorem iteration_doorCall [TimeoutCalc] (io : TimerIO) (w : World) :
    ∃ q, DoorCall q w (myAutoControlIteration io w).1 ∧
      (q = some true → w.devices.doorState = false) := by
  -- The temperature channel makes the call. The other channels leave the door alone.
  have hrest : ∀ w', (humidityChannel w').1.devices.doorState = w'.devices.doorState ∧
      (humidityChannel w').1.angle = w'.angle ∧
      (lightSensorChannel w').1.devices.doorState = w'.devices.doorState ∧
      (lightSensorChannel w').1.angle = w'.angle := by
    intro w'
    refine ⟨(humidityChannel_devices w').2, ?_, (lightSensorChannel_devices w').2.1, ?_⟩
    · obtain ⟨-, -, heq⟩ | ⟨-, -, heq⟩ | ⟨-, -, heq⟩ := humidityChannel_cases w' <;>
        simp [heq, relayChange_eq]
    · unfold lightSensorChannel
      split
      · obtain ⟨-, -, heq⟩ | ⟨-, -, heq⟩ | ⟨-, -, heq⟩ := lightChannel_cases w' <;>
          simp [heq, emergencyLightChange_eq]
      · rfl
  have htemp : ∃ q, DoorCall q w (temperatureChannel io w).1 ∧
      (q = some true → w.devices.doorState = false) := by
    obtain ⟨-, hd, -, heq⟩ | ⟨-, -, -, heq⟩ | ⟨-, -, heq⟩ := temperatureChannel_cases io w
    · exact ⟨some true, by simp [DoorCall, heq, emergencyChange_eq], fun _ => hd⟩
    · exact ⟨some false, by simp [DoorCall, heq, emergencyChange_eq], by simp⟩
    · exact ⟨none, by simp [DoorCall, heq], by simp⟩
  show ∃ q, DoorCall q w (lightSensorChannel (dht11Channels io w).1).1 ∧ _
  obtain ⟨-, -, hdoor, hangle⟩ := hrest (dht11Channels io w).1
  simp only [DoorCall, hdoor, hangle]
  unfold dht11Channels
  split
  · obtain ⟨hdoor, hangle, -, -⟩ := hrest (temperatureChannel io w).1
    simp only [hdoor, hangle]
    exact htemp
  · exact ⟨none, ⟨rfl, rfl⟩, by simp⟩

/-- One event makes at most one door call. It opens an open door exactly when it is a
message that does. -/
theorem eventStep_doorCall [CJsonParser] [TimeoutCalc] (w : World) (e : Event) :
    ∃ q, DoorCall q w (eventStep w e) ∧
      ((q = some true → w.devices.doorState = false) ↔ OpensClosedDoor w e) := by
  have hquiet := eventStep_of_quiet w e
  cases e with
  | iteration io =>
    obtain ⟨q, hq, hclosed⟩ := iteration_doorCall io w
    exact ⟨q, hq, iff_of_true hclosed trivial⟩
  | devControl io payload =>
    refine ⟨flagKey (parsePayload payload) "emergencyDoor", ?_, Iff.rfl⟩
    simp only [eventStep, devControlEffect_eq]
    exact Request.doorCall (Request.ofObject (parsePayload payload)) rfl rfl
  | syncResponse io payload =>
    refine ⟨flagKey (syncDevice payload) "emergencyDoor", ?_, Iff.rfl⟩
    simp only [eventStep, mqttSyncCallback_eq, sensorKeys_eq]
    exact Request.doorCall (Request.ofObject (syncDevice payload)) rfl rfl
  | _ =>
    obtain ⟨-, -, -, -, hdoor, hangle, -⟩ := hquiet id
    exact ⟨none, ⟨hdoor, hangle⟩, iff_of_true (by simp) trivial⟩

/-- From the door at 0 or 90, a call that does not open the open door keeps it there. -/
private theorem doorAt_of_call {q : Option Bool} {w w' : World} (h : DoorAt 90 w)
    (hcall : DoorCall q w w') (hq : q = some true → w.devices.doorState = false) :
    DoorAt 90 w' := by
  cases q with
  | none =>
    obtain ⟨hdoor, hangle⟩ := hcall
    unfold DoorAt
    rw [hdoor, hangle]
    exact h
  | some direction =>
    obtain ⟨hdoor, hangle⟩ := hcall
    unfold DoorAt
    rw [hdoor, hangle]
    cases direction with
    | true =>
      -- Opened from the closed state, so from the angle 0.
      rw [h.1 (hq rfl)]
      decide
    | false =>
      cases hd : w.devices.doorState with
      | false => rw [h.1 hd]; decide
      | true => rw [h.2 hd]; decide

/-- From the door at 0 or 90, a call that opens the open door moves it to 180, so no single
open angle fits both states. -/
private theorem closed_of_doorAt {q : Option Bool} {w w' : World} {openAngle : UInt8}
    (h : DoorAt 90 w) (hp : DoorAt openAngle w) (hp' : DoorAt openAngle w')
    (hcall : DoorCall q w w') (hq : q = some true) : w.devices.doorState = false := by
  subst hq
  obtain ⟨hdoor, hangle⟩ := hcall
  cases hd : w.devices.doorState with
  | false => rfl
  | true =>
    -- The open angle would have to be both 90 and 180.
    have h90 : w.angle = 90 := h.2 hd
    have hbefore : w.angle = openAngle := hp.2 hd
    have hafter : w'.angle = openAngle := hp'.2 hdoor
    rw [hangle, h90, ← hbefore, h90] at hafter
    exact absurd hafter (by decide)

/-- Along every run from power-on, the door flag gives the angle of the door, with a single
open angle, and no door call wraps the angle, exactly when no message of the run opens the
door while it is open. -/
theorem door_agrees_iff [CJsonParser] [TimeoutCalc] (pins : Pins) (es : List Event) :
    ((∃ openAngle, controller.Always (DoorAt openAngle) (boot pins) es) ∧
      controller.Always (fun w => ∀ direction, AngleFits direction w.angle) (boot pins) es) ↔
    controller.Along OpensClosedDoor (boot pins) es := by
  have hstart : DoorAt 90 (boot pins) := ⟨fun _ => rfl, fun h => by cases h⟩
  have hkeep : ∀ w e, DoorAt 90 w → OpensClosedDoor w e → DoorAt 90 (eventStep w e) := by
    intro w e h hc
    obtain ⟨q, hcall, hq⟩ := eventStep_doorCall w e
    exact doorAt_of_call h hcall (hq.mpr hc)
  constructor
  · rintro ⟨⟨openAngle, h⟩, -⟩
    -- `DoorAt 90` is the invariant that names the open angle of the run so far.
    refine controller.along_of_always (DoorAt openAngle) (DoorAt 90) OpensClosedDoor ?_ hkeep
      es (boot pins) hstart h
    intro w e h90 hp hp'
    obtain ⟨q, hcall, hq⟩ := eventStep_doorCall w e
    exact hq.mp (closed_of_doorAt h90 hp hp' hcall)
  · intro h
    refine ⟨⟨90, ?_⟩, fun pre _ direction => ?_⟩
    · exact controller.always_of_along (DoorAt 90) OpensClosedDoor hkeep es (boot pins) hstart h
    · exact angleFits_of_reachable direction (angle_reachable pins pre)

/-- The messages that open and close the door. -/
abbrev doorMessages : CJsonParser :=
  .table [("\x7b\"emergencyDoor\":true\x7d", .object [(ofText "emergencyDoor", .jTrue)]),
    ("\x7b\"emergencyDoor\":false\x7d", .object [(ofText "emergencyDoor", .jFalse)])]

/-- Two messages that open the door, and one that closes it: the flag says closed at the
angle 90. -/
theorem door_disagrees :
    ¬ ∃ openAngle, @Machine.Always _ _ _ (@controller doorMessages .board)
      (DoorAt openAngle) (boot ⟨.low, .low, .low, .low⟩)
      [.devControl .ok (ofText "\x7b\"emergencyDoor\":true\x7d"),
        .devControl .ok (ofText "\x7b\"emergencyDoor\":true\x7d"),
        .devControl .ok (ofText "\x7b\"emergencyDoor\":false\x7d")] := by
  rintro ⟨openAngle, h⟩
  have hclosed := (h _ (List.prefix_refl _)).1
  revert hclosed
  decide

end SmartBuilding
