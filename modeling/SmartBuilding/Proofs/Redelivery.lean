import SmartBuilding.Proofs.Door
import SmartBuilding.Proofs.HwTimer

/-!
# `SmartBuilding.Proofs.Redelivery`: a message that arrives twice

The broker can deliver a message twice. This module compares the controller state after a
message with the state after the same message twice in a row.

Every part of a message but one sets something to a value that the message gives: the flags,
the limits, the pins. The alarm goes through opening and closing the timer device, which are
idempotent too, because the device is stand-alone and so has one reference at most. The door
is the exception. It moves by 90 at every command, so a command that does not reach the end
of the range moves it again. `redelivery_iff` says that this is the only difference: a
second delivery is harmless exactly when the message does not open the door from the angle 0
and does not close it from the angle 180.
-/

set_option autoImplicit false

namespace SmartBuilding

open CText

/-! ### Messages -/

/-- One message of the three subscribed topics, with the answers of the timer device. -/
inductive Message where
  | devControl (io : TimerIO) (payload : List UInt8)
  | syncResponse (io : TimerIO) (payload : List UInt8)
  | thresholdSet (payload : List UInt8)

/-- The event of a message. -/
def Message.event : Message → Event
  | .devControl io payload => .devControl io payload
  | .syncResponse io payload => .syncResponse io payload
  | .thresholdSet payload => .thresholdSet payload

/-- The world after the handler of a message. -/
def handle [CJsonParser] [TimeoutCalc] (m : Message) (w : World) : World :=
  eventStep w m.event

/-- The object with the actuator keys of a message. -/
def Message.actuators [CJsonParser] : Message → Option CJson
  | .devControl _ payload => parsePayload payload
  | .syncResponse _ payload => syncDevice payload
  | .thresholdSet _ => none

/-- The object with the sensor keys of a message. -/
def Message.sensors [CJsonParser] : Message → Option CJson
  | .syncResponse _ payload => syncDevice payload
  | _ => none

/-- The object with the threshold keys of a message. -/
def Message.limits [CJsonParser] : Message → Option CJson
  | .syncResponse _ payload => syncThreshold payload
  | .thresholdSet payload => parsePayload payload
  | .devControl _ _ => none

/-- The answers of the timer device. A `threshold/set` message does not use it. -/
def Message.io : Message → TimerIO
  | .devControl io _ => io
  | .syncResponse io _ => io
  | .thresholdSet _ => .ok

/-- The world after a message, for all three topics at once. -/
theorem handle_eq [CJsonParser] [TimeoutCalc] (m : Message) (w : World) :
    handle m w =
      { (Request.ofObject m.actuators).apply m.io w with
          devices := sensorFlags m.sensors
            ((Request.ofObject m.actuators).devices w.devices)
          thresholds := (Limits.ofObject m.limits).thresholds w.thresholds } := by
  cases m with
  | devControl io payload => exact devControlEffect_eq io payload w
  | syncResponse io payload =>
    show mqttSyncCallback io payload w = _
    rw [mqttSyncCallback_eq, sensorKeys_eq]
    rfl
  | thresholdSet payload => exact thresholdsEffect_eq payload w

/-! ### The controller state -/

/-- What a message can change: the flags, the limits, the output pins, whether the alarm
timer is open, and the door. -/
structure ControllerState where
  devices : Devices
  thresholds : Thresholds
  pins : Pins
  timerOpened : Bool
  angle : UInt8
  servo : UInt8
  deriving DecidableEq

/-- The controller state of the world. -/
def World.controllerState (w : World) : ControllerState where
  devices := w.devices
  thresholds := w.thresholds
  pins := w.pins
  timerOpened := w.timer.dev.opened
  angle := w.angle
  servo := w.servo

/-! ### Each part twice -/

theorem flags_twice (r : Request) (object : Option CJson) (d : Devices) :
    sensorFlags object (r.devices (sensorFlags object (r.devices d))) =
      sensorFlags object (r.devices d) := by
  obtain ⟨warningLight, fillLight, exhaustFan, alarm, emergencyDoor⟩ := r
  unfold sensorFlags Request.devices
  cases warningLight <;> cases fillLight <;> cases exhaustFan <;> cases alarm <;>
    cases emergencyDoor <;> cases flagKey object "dht11Status" <;>
    cases flagKey object "lightSensorStatus" <;> rfl

theorem Limits.thresholds_twice (l : Limits) (t : Thresholds) :
    l.thresholds (l.thresholds t) = l.thresholds t := by
  obtain ⟨temperature, humidity, lightUpper, lightLower⟩ := l
  cases temperature <;> cases humidity <;> cases lightUpper <;> cases lightLower <;> rfl

theorem Request.pins_twice (r : Request) (p : Pins) : r.pins (r.pins p) = r.pins p := by
  unfold Request.pins
  cases r.fillLight <;> cases r.exhaustFan <;> cases r.alarm with
  | none => rfl
  | some state => cases state <;> rfl

/-- The open state after the alarm key of a request. -/
theorem Request.openState_timer [TimeoutCalc] (r : Request) (io : TimerIO) (t : TimerSys) :
    (r.timer io t).dev.openState =
      match r.alarm with
      | none => t.dev.openState
      | some true => t.dev.openState.afterOpen io
      | some false => t.dev.openState.afterClose t.hwDev := by
  unfold Request.timer
  cases r.alarm with
  | none => rfl
  | some state =>
    cases state
    · exact openState_close t
    · exact openState_open io t

theorem Request.openState_twice [TimeoutCalc] (r : Request) (io : TimerIO) (t : TimerSys)
    (h : t.dev.openState.InOrder) :
    (r.timer io (r.timer io t)).dev.openState = (r.timer io t).dev.openState := by
  rw [openState_timer r io (r.timer io t), openState_timer r io t]
  cases halarm : r.alarm with
  | none => rfl
  | some state =>
    cases state
    · -- The second close finds the same handle, so it takes the same way.
      have hhandle : (r.timer io t).hwDev = t.hwDev := by
        simpa [Request.timer, halarm] using hwDev_close t
      rw [hhandle]
      exact h.afterClose_twice t.hwDev
    · exact OpenState.afterOpen_twice io t.dev.openState

/-- The second door command of a message moves the door no further. -/
def DoorSettles (q : Option Bool) (angle : UInt8) : Prop :=
  ¬ (q = some true ∧ angle = 0) ∧ ¬ (q = some false ∧ angle = 180)

theorem Request.angle_twice (r : Request) {angle : UInt8} (h : AngleReachable angle) :
    r.angle (r.angle angle) = r.angle angle ↔ DoorSettles r.emergencyDoor angle := by
  unfold Request.angle DoorSettles
  cases r.emergencyDoor with
  | none => simp
  | some direction =>
    obtain rfl | rfl | rfl := h <;> cases direction <;> decide

theorem Request.servo_twice (r : Request) (angle servo : UInt8)
    (h : r.angle (r.angle angle) = r.angle angle) :
    r.servo (r.angle angle) (r.servo angle servo) = r.servo angle servo := by
  unfold Request.angle Request.servo at *
  cases hdoor : r.emergencyDoor with
  | none => rfl
  | some direction =>
    simp only [hdoor] at h ⊢
    rw [h]

/-! ### The invariant of the timer -/

/-- The timer is in order in every reachable state. -/
theorem timer_inOrder [CJsonParser] [TimeoutCalc] (pins : Pins) (es : List Event) :
    (controller.run (boot pins) es).timer.dev.openState.InOrder := by
  refine controller.run_invariant (fun w => w.timer.dev.openState.InOrder) ?_ es (boot pins) rfl
  -- Opening and closing keep the order, and the interrupt keeps the whole open state.
  refine eventStep_timer (fun t => t.dev.openState.InOrder) ?_ ?_ ?_
  · intro io t h
    rw [openState_open]
    exact h.afterOpen io
  · intro t h
    rw [openState_close]
    exact h.afterClose _
  · intro t h
    show (rtDeviceHwtimerIsr t.dev).1.openState.InOrder
    rw [openState_isr]
    exact h

/-! ### A second delivery -/

/-- From every reachable state, handling a message twice in a row leaves the controller state
of handling it once, exactly when the message does not open the door at the angle 0 and does
not close it at the angle 180. -/
theorem redelivery_iff [CJsonParser] [TimeoutCalc] (pins : Pins) (es : List Event)
    (m : Message) :
    (handle m (handle m (controller.run (boot pins) es))).controllerState =
        (handle m (controller.run (boot pins) es)).controllerState ↔
      DoorSettles (flagKey m.actuators "emergencyDoor")
        (controller.run (boot pins) es).angle := by
  have hangle := angle_reachable pins es
  have htimer := timer_inOrder pins es
  generalize controller.run (boot pins) es = w at hangle htimer
  have hsettles := (Request.ofObject m.actuators).angle_twice hangle
  rw [handle_eq m (handle m w), handle_eq m w]
  constructor
  · intro h
    -- Equal states have equal angles.
    exact hsettles.mp (congrArg ControllerState.angle h)
  · intro h
    -- Everything but the angle is idempotent as it is.
    have hmoved := hsettles.mpr h
    have hopened := congrArg OpenState.opened
      ((Request.ofObject m.actuators).openState_twice m.io w.timer htimer)
    simp only [World.controllerState, Request.apply, ControllerState.mk.injEq]
    exact ⟨flags_twice _ _ _, Limits.thresholds_twice _ _, Request.pins_twice _ _, hopened,
      hmoved, Request.servo_twice _ _ _ hmoved⟩

/-- The message that opens the door, delivered twice to the closed door: the angle is 180,
and after one delivery it is 90. -/
theorem redelivery_moves_door :
    ¬ (@handle doorMessages .board
        (.devControl .ok (ofText "\x7b\"emergencyDoor\":true\x7d"))
        (@handle doorMessages .board
          (.devControl .ok (ofText "\x7b\"emergencyDoor\":true\x7d"))
          (boot ⟨.low, .low, .low, .low⟩))).controllerState =
      (@handle doorMessages .board
        (.devControl .ok (ofText "\x7b\"emergencyDoor\":true\x7d"))
        (boot ⟨.low, .low, .low, .low⟩)).controllerState := by
  intro h
  have hangle := congrArg ControllerState.angle h
  revert hangle
  decide

end SmartBuilding
