import SmartBuilding.Proofs.Controller
import SmartBuilding.Proofs.Splitter

/-!
# `SmartBuilding.Proofs.TempLimit`: the two commands that set the temperature limit

The console command `Set templimit` writes the variable `temp_limit` of `my_dht11.c`, which
is a `uint8_t`. The MQTT message writes `Temp_Limit` of the shared thresholds, and this is
the one that the control loop reads. Nothing reads `temp_limit`
(`eventStep_forgetLimit`), so the console command never changes a decision of the loop.

`temp_limits_agree_iff` draws the consequence: the two commands agree exactly when the limit
is what the loop has already, and fits a `uint8_t`.
-/

set_option autoImplicit false

namespace SmartBuilding

open CText

/-! ### Nothing reads the limit of the console -/

/-- The world without the limit that the console sets. -/
def forgetLimit (w : World) : World := setTempLimit 0 w

section
variable (limit : UInt8) (w : World)

@[simp] theorem devices_setTempLimit : (setTempLimit limit w).devices = w.devices := rfl

theorem temperatureChannel_setTempLimit [TimeoutCalc] (io : TimerIO) :
    temperatureChannel io (setTempLimit limit w) =
      (setTempLimit limit (temperatureChannel io w).1, (temperatureChannel io w).2) := by
  simp only [temperatureChannel, setTempLimit, exec_beepChange, myPwmAngleChange_eq]
  split_ifs <;> rfl

theorem humidityChannel_setTempLimit :
    humidityChannel (setTempLimit limit w) =
      (setTempLimit limit (humidityChannel w).1, (humidityChannel w).2) := by
  simp only [humidityChannel, setTempLimit, relayChange_eq]
  split_ifs <;> rfl

theorem lightChannel_setTempLimit :
    lightChannel (setTempLimit limit w) =
      (setTempLimit limit (lightChannel w).1, (lightChannel w).2) := by
  simp only [lightChannel, setTempLimit, emergencyLightChange_eq]
  split_ifs <;> rfl

theorem iteration_setTempLimit [TimeoutCalc] (io : TimerIO) :
    myAutoControlIteration io (setTempLimit limit w) =
      (setTempLimit limit (myAutoControlIteration io w).1,
        (myAutoControlIteration io w).2) := by
  have hdht : dht11Channels io (setTempLimit limit w) =
      (setTempLimit limit (dht11Channels io w).1, (dht11Channels io w).2) := by
    simp only [dht11Channels, temperatureChannel_setTempLimit, humidityChannel_setTempLimit,
      devices_setTempLimit]
    split_ifs <;> rfl
  have hlight : ∀ w, lightSensorChannel (setTempLimit limit w) =
      (setTempLimit limit (lightSensorChannel w).1, (lightSensorChannel w).2) := by
    intro w
    simp only [lightSensorChannel, lightChannel_setTempLimit, devices_setTempLimit]
    split_ifs <;> rfl
  simp only [myAutoControlIteration, hdht, hlight]

/-- A command of the last branch succeeds for the same texts, and leaves the same world but
for the limit. -/
theorem setCommand_setTempLimit (recvData : List UInt8) :
    (setCommand recvData (setTempLimit limit w)).map forgetLimit =
      (setCommand recvData w).map forgetLimit := by
  unfold setCommand
  cases splitCommand recvData with
  | none => rfl
  | some strtokStr =>
    cases h : strtokStr[0]? with
    | none => simp [h]
    | some command =>
      simp only [h, Option.bind_eq_bind, Option.bind_some]
      split_ifs
      · cases strtokStr[1]? <;> rfl
      · cases strtokStr[1]? <;> rfl
      · rfl

/-- A packet has the same effect, whatever the limit of the console is. -/
theorem tcp_setTempLimit (packet : List UInt8) :
    forgetLimit ((myTcpControl packet (setTempLimit limit w)).getD (setTempLimit limit w)) =
      forgetLimit ((myTcpControl packet w).getD w) := by
  have hmap : (myTcpControl packet (setTempLimit limit w)).map forgetLimit =
      (myTcpControl packet w).map forgetLimit := by
    simp only [myTcpControl]
    split_ifs
    · rfl
    · rfl
    · rfl
    · rfl
    · rfl
    · rfl
    · exact setCommand_setTempLimit limit w _
  cases h : myTcpControl packet (setTempLimit limit w) <;> cases h' : myTcpControl packet w <;>
    simp_all
  rfl

end

/-- A step does not read the limit of the console. -/
theorem eventStep_forgetLimit [CJsonParser] [TimeoutCalc] (w : World) (e : Event) :
    forgetLimit (eventStep (forgetLimit w) e) = forgetLimit (eventStep w e) := by
  cases e with
  | iteration io =>
    simp only [eventStep, forgetLimit, iteration_setTempLimit]
    rfl
  | devControl io payload =>
    simp only [eventStep, devControlEffect_eq]
    rfl
  | syncResponse io payload =>
    simp only [eventStep, mqttSyncCallback_eq, sensorKeys_eq]
    rfl
  | thresholdSet payload =>
    simp only [eventStep, thresholdsEffect_eq]
    rfl
  | timerIrq =>
    simp only [eventStep, timerIrq_eq]
    rfl
  | tcp packet => exact tcp_setTempLimit 0 w packet
  | _ => rfl

/-- The records of a step do not depend on the limit of the console. -/
theorem eventOut_forgetLimit [CJsonParser] [TimeoutCalc] (w : World) (e : Event) :
    eventOut (forgetLimit w) e = eventOut w e := by
  cases e with
  | iteration io =>
    simp only [eventOut, forgetLimit, iteration_setTempLimit]
  | _ => rfl

/-- The limit of the console decides nothing: the records, the flags and the angle of every
later run are the same with any other. -/
theorem decisions_setTempLimit [CJsonParser] [TimeoutCalc] (limit : UInt8) (w : World)
    (es : List Event) :
    controller.log (setTempLimit limit w) es = controller.log w es ∧
      (controller.run (setTempLimit limit w) es).devices = (controller.run w es).devices ∧
      (controller.run (setTempLimit limit w) es).angle = (controller.run w es).angle := by
  have herase : forgetLimit (setTempLimit limit w) = forgetLimit w := rfl
  obtain ⟨hrun, hlog⟩ :=
    controller.run_of_erase_eq eventStep_forgetLimit eventOut_forgetLimit es herase
  have hdevices := congrArg World.devices hrun
  have hangle := congrArg World.angle hrun
  exact ⟨hlog, hdevices, hangle⟩

/-! ### The two commands -/

/-- The console command that sets the limit `n`. -/
def setTemplimitPacket (n : Nat) : List UInt8 := ofText "Set templimit:" ++ decimal n

/-- The object of the MQTT message that sets the limit `n`. -/
def temperatureObject (n : Nat) : CJson :=
  .object [(ofText "temperature", .int (Int32.ofNat n))]

theorem pieces_setTemplimitPacket (n : Nat) :
    pieces 58 (setTemplimitPacket n) = [ofText "Set templimit", decimal n] := by
  have hcolon : (58 : UInt8) ∉ decimal n := fun h =>
    absurd (isDigit_of_mem_decimal h) (by decide)
  have hsplit : setTemplimitPacket n = ofText "Set templimit" ++ 58 :: decimal n := rfl
  rw [pieces, hsplit, List.splitOn_append_cons_self_of_not_mem (by decide),
    List.splitOn_eq_singleton hcolon]
  have hname : ofText "Set templimit" ≠ [] := by decide
  simp [hname, decimal_ne_nil]

theorem ne_zero_of_mem_setTemplimitPacket {n : Nat} {b : UInt8}
    (hb : b ∈ setTemplimitPacket n) : b ≠ 0 := by
  rw [setTemplimitPacket, List.mem_append] at hb
  rintro rfl
  rcases hb with hb | hb
  · have hname : (0 : UInt8) ∉ ofText "Set templimit:" := by decide
    exact hname hb
  · exact absurd (isDigit_of_mem_decimal hb) (by decide)

/-- The limit has ten digits at most, so the packet fits the copy. -/
theorem setTemplimitPacket_fits {n : Nat} (hn : n ≤ 2147483647) :
    (setTemplimitPacket n).length + 1 ≤ tempRecvCommSize := by
  have hwidth : (decimal n).length ≤ 10 :=
    (length_decimal_le_iff (by decide)).mpr (by omega)
  have hname : (ofText "Set templimit:").length = 14 := rfl
  rw [setTemplimitPacket, List.length_append, hname]
  show 14 + (decimal n).length + 1 ≤ 50
  omega

theorem setCommand_setTemplimit {n : Nat} (hn : n ≤ 2147483647) (w : World) :
    setCommand (setTemplimitPacket n) w = some (setTempLimit n.toUInt32.toUInt8 w) := by
  have hvalue : strtoul (decimal n) = n.toUInt32 := strtoul_decimal (by omega)
  simp only [setCommand, splitCommand, if_pos (setTemplimitPacket_fits hn),
    strtok_pieces 58 fun _ hb => ne_zero_of_mem_setTemplimitPacket hb,
    pieces_setTemplimitPacket]
  simp [strtokStrSize, hvalue]

/-- The console command sets the limit of the console, cut to eight bits. -/
theorem myTcpControl_setTemplimit {n : Nat} (hn : n ≤ 2147483647) (w : World) :
    myTcpControl (setTemplimitPacket n) w = some (setTempLimit n.toUInt32.toUInt8 w) := by
  have hstring : cString (setTemplimitPacket n) = setTemplimitPacket n := by
    rw [cString, List.takeWhile_eq_self_iff]
    simpa using fun _ hb => ne_zero_of_mem_setTemplimitPacket hb
  -- The first letter is an S, and no fixed command starts with it.
  have hhead : (setTemplimitPacket n).head? = some 83 := rfl
  have hne : ∀ text : String, (ofText text).head? ≠ some 83 →
      setTemplimitPacket n ≠ ofText text := by
    intro text htext heq
    rw [← heq] at htext
    exact htext hhead
  simp only [myTcpControl, hstring, hhead, setCommand_setTemplimit hn,
    hne "LED0 ON" (by decide), hne "LED0 OFF" (by decide), hne "LED1 ON" (by decide),
    hne "LED1 OFF" (by decide), hne "DHT11data Load" (by decide),
    hne "Lightdata Load" (by decide), hne "DHT11 file position reset" (by decide),
    hne "Light file position reset" (by decide)]
  simp

/-- The MQTT message sets the limit of the control loop. -/
theorem thresholdsEffect_temperature [CJsonParser] {n : Nat} {payload : List UInt8}
    (hparse : parsePayload payload = some (temperatureObject n)) (w : World) :
    thresholdsEffect payload w = setDevproTempLimit (Int32.ofNat n) w := by
  rw [thresholdsEffect_eq, hparse]
  rfl

/-- The two commands for the limit `n` agree from `w`: the control loop has the same limit
after both, it decides the same along all later events, and each path keeps the whole
number. -/
structure TempLimitsAgree [CJsonParser] [TimeoutCalc] (w : World) (n : Nat)
    (payload : List UInt8) : Prop where
  limit : (eventStep w (.tcp (setTemplimitPacket n))).thresholds.tempLimit =
    (eventStep w (.thresholdSet payload)).thresholds.tempLimit
  decisions : ∀ es,
    controller.log (eventStep w (.tcp (setTemplimitPacket n))) es =
        controller.log (eventStep w (.thresholdSet payload)) es ∧
      (controller.run (eventStep w (.tcp (setTemplimitPacket n))) es).devices =
        (controller.run (eventStep w (.thresholdSet payload)) es).devices ∧
      (controller.run (eventStep w (.tcp (setTemplimitPacket n))) es).angle =
        (controller.run (eventStep w (.thresholdSet payload)) es).angle
  console_whole : (eventStep w (.tcp (setTemplimitPacket n))).tempLimit.toNat = n
  message_whole : (eventStep w (.thresholdSet payload)).thresholds.tempLimit.toInt = n

/-- The two commands for the limit `n` agree exactly when `n` fits a `uint8_t` and is the
limit of the control loop already. -/
theorem temp_limits_agree_iff [CJsonParser] [TimeoutCalc] (w : World) (n : Nat)
    (hn : n ≤ 2147483647) (payload : List UInt8)
    (hparse : parsePayload payload = some (temperatureObject n)) :
    TempLimitsAgree w n payload ↔ n < 256 ∧ w.thresholds.tempLimit = Int32.ofNat n := by
  have htcp : eventStep w (.tcp (setTemplimitPacket n)) =
      setTempLimit n.toUInt32.toUInt8 w := by
    simp only [eventStep, myTcpControl_setTemplimit hn, Option.getD_some]
  have hmqtt : eventStep w (.thresholdSet payload) =
      setDevproTempLimit (Int32.ofNat n) w := thresholdsEffect_temperature hparse w
  have hbyte : n.toUInt32.toUInt8.toNat = n ↔ n < 256 := by
    rw [UInt32.toNat_toUInt8, Nat.toUInt32_eq, UInt32.toNat_ofNat']
    omega
  constructor
  · intro h
    have hlimit := h.limit
    have hwhole := h.console_whole
    rw [htcp] at hwhole
    rw [htcp, hmqtt] at hlimit
    exact ⟨hbyte.mp hwhole, hlimit⟩
  · rintro ⟨hfits, hlimit⟩
    -- Setting the limit that is there already changes nothing.
    have hsame : setDevproTempLimit (Int32.ofNat n) w = w := by
      rw [← hlimit]
      rfl
    rw [hsame] at hmqtt
    refine ⟨?_, fun es => ?_, ?_, ?_⟩
    · rw [htcp, hmqtt]
      rfl
    · rw [htcp, hmqtt]
      exact decisions_setTempLimit _ w es
    · rw [htcp]
      exact hbyte.mpr hfits
    · rw [hmqtt, hlimit]
      exact Int32.toInt_ofNat_of_lt (by omega)

/-- The parser on the message that sets the limit `n`. -/
abbrev temperatureMessage (text : String) (n : Nat) : CJsonParser :=
  .table [(text, temperatureObject n)]

theorem temp_limits_agree_fifty :
    @TempLimitsAgree (temperatureMessage "\x7b\"temperature\":50\x7d" 50) .board
        (boot ⟨.low, .low, .low, .low⟩) 50 (ofText "\x7b\"temperature\":50\x7d") ↔
      50 < 256 ∧ (boot ⟨.low, .low, .low, .low⟩).thresholds.tempLimit = Int32.ofNat 50 :=
  @temp_limits_agree_iff (temperatureMessage "\x7b\"temperature\":50\x7d" 50) .board
    (boot ⟨.low, .low, .low, .low⟩) 50 (by decide) _ (parsePayload_table _ _ _)

/-- At power-on the limit of the loop is 50. The console command for 30 leaves it there, and
the message for 30 changes it. -/
theorem temp_limits_disagree :
    ¬ @TempLimitsAgree (temperatureMessage "\x7b\"temperature\":30\x7d" 30) .board
        (boot ⟨.low, .low, .low, .low⟩) 30 (ofText "\x7b\"temperature\":30\x7d") := by
  rintro ⟨hlimit, -⟩
  revert hlimit
  decide

end SmartBuilding
