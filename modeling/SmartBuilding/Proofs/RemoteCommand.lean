import SmartBuilding.Proofs.Flashing
import SmartBuilding.Proofs.Redelivery

/-!
# `SmartBuilding.Proofs.RemoteCommand`: a remote command does what it asks

A command is obeyed when each of its keys has set the flag, and when the three keys with an
output of their own have set the output too (`Obeyed`). The output of `warningLight` is LED0,
and it warns when it is lit or when the alarm timer makes it flash.

Four of the five keys are always obeyed. The key `warningLight` sets its flag alone. So LED0
agrees with it when it did so before, or when the key `alarm` comes along with the same value
and takes effect (`command_obeyed_iff`).
-/

set_option autoImplicit false

namespace SmartBuilding

open CText

/-- LED0 is lit, or the alarm timer makes it flash. -/
def Warns (w : World) : Prop := w.pins.led0 = .low ∨ Flashing w.timer

/-- What the keys of a command ask for holds in the world. -/
structure Obeyed (r : Request) (w : World) : Prop where
  warningLight : ∀ b, r.warningLight = some b →
    w.devices.led0State = b ∧ (Warns w ↔ b = true)
  fillLight : ∀ b, r.fillLight = some b →
    w.devices.led1State = b ∧ w.pins.led1 = led1Level b
  exhaustFan : ∀ b, r.exhaustFan = some b →
    w.devices.relayState = b ∧ w.pins.relay = relayLevel b
  alarm : ∀ b, r.alarm = some b → w.devices.beepState = b
  emergencyDoor : ∀ b, r.emergencyDoor = some b → w.devices.doorState = b

/-- The key `warningLight` is absent, or LED0 already agrees with it and the key `alarm` is
absent, or the key `alarm` has the same value and takes effect: LED0 warns already or the
timer starts, or the close finds the handle of a flashing timer. -/
def WarningLightAgrees (r : Request) (io : TimerIO) (w : World) : Prop :=
  ∀ b, r.warningLight = some b →
    match r.alarm with
    | none => Warns w ↔ b = true
    | some true => b = true ∧ (Warns w ∨ TimerStarts io w.timer)
    | some false => b = false ∧ ¬ (Flashing w.timer ∧ w.timer.hwDev = false)

/-- LED0 after a request. -/
theorem warns_apply [TimeoutCalc] (r : Request) (io : TimerIO) {w : World}
    (h : TimerSane w.timer) :
    Warns (r.apply io w) ↔
      match r.alarm with
      | none => Warns w
      | some true => Warns w ∨ TimerStarts io w.timer
      | some false => Flashing w.timer ∧ w.timer.hwDev = false := by
  simp only [Warns, Request.apply, Request.pins, Request.timer]
  cases r.alarm with
  | none => simp
  | some state =>
    cases state
    · simp [h.flashing_afterClose]
    · simp [h.flashing_afterOpen, or_assoc]

/-- The flag and the output of `warningLight` after a request. -/
theorem warningLight_apply_iff [TimeoutCalc] (r : Request) (io : TimerIO) {w : World}
    (h : TimerSane w.timer) :
    (∀ b, r.warningLight = some b → (r.devices w.devices).led0State = b ∧
        (Warns (r.apply io w) ↔ b = true)) ↔ WarningLightAgrees r io w := by
  unfold WarningLightAgrees
  rw [warns_apply r io h]
  refine forall_congr' fun b => forall_congr' fun hb => ?_
  -- The key `alarm` comes later, so its value counts for the flag.
  simp only [Request.devices, hb, Option.getD_some]
  cases r.alarm with
  | none => simp
  | some state => cases state <;> cases b <;> simp

/-- A command is obeyed exactly when LED0 agrees with its key `warningLight`. The timer is sane
in every reachable state (`timer_sane`). -/
theorem command_obeyed_iff [CJsonParser] [TimeoutCalc] (m : Message) {w : World}
    (h : TimerSane w.timer) :
    Obeyed (Request.ofObject m.actuators) (handle m w) ↔
      WarningLightAgrees (Request.ofObject m.actuators) m.io w := by
  generalize hr : Request.ofObject m.actuators = r
  have hwarning := warningLight_apply_iff r m.io h
  rw [← hwarning]
  have hworld := handle_eq m w
  rw [hr] at hworld
  rw [hworld]
  constructor
  · intro h
    exact h.warningLight
  · intro h
    refine ⟨h, ?_, ?_, ?_, ?_⟩
    · intro b hb
      simp [sensorFlags, Request.devices, Request.apply, Request.pins, hb]
    · intro b hb
      simp [sensorFlags, Request.devices, Request.apply, Request.pins, hb]
    · intro b hb
      simp [sensorFlags, Request.devices, hb]
    · intro b hb
      simp [sensorFlags, Request.devices, hb]

/-- The parser on a message that turns the warning light on. -/
abbrev warningMessages : CJsonParser :=
  .table [("\x7b\"warningLight\":true\x7d", .object [(ofText "warningLight", .jTrue)])]

/-- The message is obeyed when LED0 is lit already. -/
theorem command_obeyed_lit :
    @Obeyed (Request.ofObject (some (.object [(ofText "warningLight", .jTrue)])))
      (@handle warningMessages .board
        (.devControl .ok (ofText "\x7b\"warningLight\":true\x7d"))
        { boot ⟨.low, .low, .low, .low⟩ with pins := ⟨.low, .high, .low, .low⟩ }) := by
  refine (@command_obeyed_iff warningMessages .board
    (.devControl .ok (ofText "\x7b\"warningLight\":true\x7d"))
    { boot ⟨.low, .low, .low, .low⟩ with pins := ⟨.low, .high, .low, .low⟩ }
    ⟨rfl, fun h => Bool.noConfusion h, fun _ => rfl, fun _ _ => rfl⟩).mpr ?_
  intro b hb
  obtain rfl : true = b := Option.some.inj hb
  exact iff_of_true (Or.inl rfl) rfl

/-- After power-on, the message sets the flag and leaves LED0 dark. -/
theorem command_not_obeyed :
    ¬ ∀ m, @Obeyed (Request.ofObject (@Message.actuators warningMessages m))
      (@handle warningMessages .board m (boot ⟨.low, .low, .low, .low⟩)) := by
  intro h
  have hobeyed := h (.devControl .ok (ofText "\x7b\"warningLight\":true\x7d"))
  have hwarns := (hobeyed.warningLight true (by decide)).2.mpr rfl
  revert hwarns
  unfold Warns Flashing
  decide

end SmartBuilding
