import SmartBuilding.Controller
import SmartBuilding.Proofs.Pager
import SmartBuilding.Proofs.Splitter
import SmartBuilding.TcpSession

/-!
# `SmartBuilding.Proofs.TcpSession`: the TCP session releases its socket and its buffer once

`KeepsLaw` is the ownership law of a call of `my_tcp_control`. While the call is in its loop
nothing is released. When it has returned, what it acquired was released exactly once, and
not used after that.

A send that fails closes the socket and frees the buffer. The commands for the LEDs look at
the result and leave the loop, and the law holds. The two load commands and the two reset
commands do not look at it. So a call keeps the law exactly when the name of the host
resolves, no send of these four commands fails, and the other commands split well
(`session_keepsLaw_iff`).
-/

set_option autoImplicit false

namespace SmartBuilding

open CText Ledger

/-- The law in one state of a call. -/
def KeepsLaw (s : TcpSession) : Prop :=
  match s.status with
  | .running => NothingReleased s.ops
  | .returned => Clean s.ops
  | .faulted => False

/-- The file has lines that `write_dht11_data` wrote, and the saved position is the end of
one of them, or the start of the file. -/
def OfDht11Lines (f : LogFile) : Prop :=
  ∃ log, SensorLog.Represents dht11Line (fun _ => True) f log

/-- A log of the DHT11 sensor. -/
abbrev Dht11Log := { f : LogFile // OfDht11Lines f }

/-! ### The DHT11 log during a call -/

theorem OfDht11Lines.write {f : LogFile} (h : OfDht11Lines f) (temp humi : UInt8) :
    OfDht11Lines (writeDht11Data temp humi f) := by
  obtain ⟨log, hlog⟩ := h
  exact ⟨_, hlog.write (r := (temp, humi)) trivial⟩

theorem OfDht11Lines.reset {f : LogFile} (h : OfDht11Lines f) :
    OfDht11Lines { f with lastPosition := 0 } := by
  obtain ⟨log, hlog⟩ := h
  exact ⟨{ log with next := 0 }, hlog.bytes, rfl, hlog.valid, Nat.zero_le _⟩

/-- The reader of such a log stays within its arrays, and leaves such a log. -/
theorem OfDht11Lines.load {f : LogFile} (h : OfDht11Lines f) (line : List UInt8) :
    ∃ g readings, readAndSendDht11Data line f = some (g, readings) ∧ OfDht11Lines g := by
  obtain ⟨log, hlog⟩ := h
  obtain ⟨g, hload, hg⟩ := hlog.load dht11Log_spec line
  exact ⟨g, _, hload, _, hg⟩

/-- The light reader has no array that it could leave. -/
theorem lightPass_total (limit : Nat) (stream : List UInt8) :
    ∀ line count, (fgetsLoop limit lightPass () line count stream).isSome = true := by
  intro line count
  fun_induction fgetsLoop limit lightPass () line count stream with
  | case1 => rfl
  | case2 => rfl
  | case3 s line count stream got hend hlimit hpass => simp [lightPass] at hpass
  | case4 s line count stream got hend hlimit s' line' r hpass ih =>
    rw [Option.isSome_map]
    exact ih

theorem readAndSendLightData_total (line : List UInt8) (f : LogFile) :
    ∃ g readings, readAndSendLightData line f = some (g, readings) := by
  cases hbytes : f.bytes with
  | none => exact ⟨f, [], by rw [readAndSendLightData, hbytes]⟩
  | some bytes =>
    obtain ⟨sent, hsent⟩ := Option.isSome_iff_exists.mp
      (lightPass_total lightArraySize (bytes.drop f.lastPosition) line 0)
    exact ⟨_, _, by rw [readAndSendLightData, hbytes]; simp only [hsent]; rfl⟩

/-! ### Sends -/

section
variable (ret : Int) (s : TcpSession)

@[simp] theorem sendOrClose_status : (sendOrClose ret s).status = s.status := by
  unfold sendOrClose
  split <;> rfl

@[simp] theorem sendOrClose_dht11File : (sendOrClose ret s).dht11File = s.dht11File := by
  unfold sendOrClose
  split <;> rfl

/-- A send tears the session down exactly when it fails. -/
theorem sendOrClose_nothingReleased :
    NothingReleased (sendOrClose ret s).ops ↔ NothingReleased s.ops ∧ 0 ≤ ret := by
  by_cases hret : ret < 0
  · have hneg : ¬ 0 ≤ ret := by omega
    simp [sendOrClose, hret, hneg, TcpSession.closeAndFree, TcpSession.record]
  · have hpos : 0 ≤ ret := by omega
    simp [sendOrClose, hret, hpos, TcpSession.record]

end

theorem mySendDht11Data_eq : mySendDht11Data = sendOrClose := rfl

theorem mySendLightdata_eq : mySendLightdata = sendOrClose := rfl

section
variable {send : Int → TcpSession → TcpSession} (hsend : send = sendOrClose)
  (sends : Nat → Int) (s : TcpSession)

theorem sendReadings_succ (count : Nat) :
    sendReadings send (count + 1) sends s =
      send (sends count) (sendReadings send count sends s) := by
  rw [sendReadings, List.range_succ, List.foldl_append]
  rfl

include hsend

theorem sendReadings_status (count : Nat) :
    (sendReadings send count sends s).status = s.status := by
  induction count with
  | zero => rfl
  | succ count ih => rw [sendReadings_succ, hsend, sendOrClose_status, ← hsend, ih]

theorem sendReadings_dht11File (count : Nat) :
    (sendReadings send count sends s).dht11File = s.dht11File := by
  induction count with
  | zero => rfl
  | succ count ih => rw [sendReadings_succ, hsend, sendOrClose_dht11File, ← hsend, ih]

/-- The readings of a log tear the session down as soon as one send fails. -/
theorem sendReadings_nothingReleased (count : Nat) :
    NothingReleased (sendReadings send count sends s).ops ↔
      NothingReleased s.ops ∧ ∀ i < count, 0 ≤ sends i := by
  induction count with
  | zero => simp [sendReadings]
  | succ count ih =>
    rw [sendReadings_succ, hsend, sendOrClose_nothingReleased, ← hsend, ih, and_assoc,
      Nat.forall_lt_succ_right]

end

/-! ### One pass -/

/-- Both resources are released on the way out, exactly once. -/
theorem keepsLaw_closeAndFree {s : TcpSession} (h : NothingReleased s.ops) :
    KeepsLaw s.closeAndFree.leave := by
  show Clean (s.ops ++ [TcpResource.sock, TcpResource.recvData].map .release)
  exact clean_release_all h (by decide) fun r _ => by cases r <;> simp

/-- What a load command sends. -/
def readingsSent {ρ : Type} (loaded : Option (LogFile × List ρ)) : Nat :=
  (loaded.map fun r => r.2.length).getD 0

/-- The sends of the four commands that do not look at the result succeed. -/
def SendsSucceed (sends : Nat → Int) (line : List UInt8) (s : TcpSession) : TcpCommand → Prop
  | .dht11Load => ∀ i < readingsSent (readAndSendDht11Data line s.dht11File), 0 ≤ sends i
  | .lightLoad => ∀ i < readingsSent (readAndSendLightData line s.lightFile), 0 ≤ sends i
  | .dht11Reset => 0 ≤ sends 0
  | .lightReset => 0 ≤ sends 0
  | _ => True

/-- The packet does not make the call forget a failed send, and splits well if it is to be
split. -/
def AnswersSafely (recvData : List UInt8) (sends : Nat → Int) (line : List UInt8)
    (s : TcpSession) : Prop :=
  SendsSucceed sends line s (tcpCommand recvData) ∧
    (tcpCommand recvData = .other → SplitsWell recvData)

/-- `AnswersSafely` for the packet of a pass. -/
def PassSafe (s : TcpSession) : TcpEvent → Prop
  | .pass (some (b :: bs)) sends line =>
      s.status = .running → AnswersSafely (cString (b :: bs)) sends line s
  | _ => True

/-- The world allows every command but the last branch, and that one exactly when the packet
splits well. -/
theorem myTcpControl_isSome_iff (packet : List UInt8) (w : World) :
    (myTcpControl packet w).isSome = true ↔
      (tcpCommand (cString packet) = .other → SplitsWell (cString packet)) := by
  have hset : (setCommand (cString packet) w).isSome = true ↔ SplitsWell (cString packet) :=
    setCommand_isSome_iff (fun b hb => ne_zero_of_mem_cString hb) w
  unfold myTcpControl tcpCommand
  generalize cString packet = recvData at hset
  simp only
  split_ifs <;> simp_all

/-- A packet that the world does not allow ends in undefined behaviour. -/
theorem tcpPass_eq_fault {b : UInt8} {bs : List UInt8} {s : TcpSession}
    (hworld : myTcpControl (b :: bs) s.world = none) (sends : Nat → Int) (line : List UInt8) :
    tcpPass (some (b :: bs)) sends line s =
      (s.record [.use .sock, .use .recvData, .use .recvData]).fault := by
  have hworld' : myTcpControl (b :: bs)
      ((s.record [.use .sock, .use .recvData]).record [.use .recvData]).world = none := hworld
  unfold tcpPass
  simp only [hworld']
  simp [TcpSession.record]

/-- Any other packet is received and answered. -/
theorem tcpPass_eq_tcpAnswer {b : UInt8} {bs : List UInt8} {s : TcpSession} {w : World}
    (hworld : myTcpControl (b :: bs) s.world = some w) (sends : Nat → Int)
    (line : List UInt8) :
    tcpPass (some (b :: bs)) sends line s =
      tcpAnswer sends line
        { s.record [.use .sock, .use .recvData, .use .recvData] with world := w }
        (tcpCommand (cString (b :: bs))) := by
  have hworld' : myTcpControl (b :: bs)
      ((s.record [.use .sock, .use .recvData]).record [.use .recvData]).world = some w := hworld
  unfold tcpPass
  simp only [hworld']
  simp [TcpSession.record]

section
variable {s : TcpSession} (hrunning : s.status = .running)
  (hnothing : NothingReleased s.ops) (hlines : OfDht11Lines s.dht11File)
  (sends : Nat → Int) (line : List UInt8)

include hrunning

theorem keepsLaw_running : KeepsLaw s ↔ NothingReleased s.ops := by
  rw [KeepsLaw, hrunning]

include hnothing

/-- A send that nobody looks at keeps the law exactly when it succeeds. -/
theorem keepsLaw_sendOrClose (ret : Int) : KeepsLaw (sendOrClose ret s) ↔ 0 ≤ ret := by
  have hstatus : (sendOrClose ret s).status = .running := by
    rw [sendOrClose_status]
    exact hrunning
  rw [keepsLaw_running hstatus, sendOrClose_nothingReleased]
  exact and_iff_right hnothing

/-- The readings of a log keep the law exactly when every send succeeds. -/
theorem keepsLaw_sendReadings {send : Int → TcpSession → TcpSession}
    (hsend : send = sendOrClose) (count : Nat) :
    KeepsLaw (sendReadings send count sends s) ↔ ∀ i < count, 0 ≤ sends i := by
  have hstatus : (sendReadings send count sends s).status = .running := by
    rw [sendReadings_status hsend]
    exact hrunning
  rw [keepsLaw_running hstatus, sendReadings_nothingReleased hsend]
  exact and_iff_right hnothing

include hlines

/-- The answer to a command keeps the law exactly when no failed send is forgotten. -/
theorem tcpAnswer_keepsLaw_iff (c : TcpCommand) :
    KeepsLaw (tcpAnswer sends line s c) ↔ SendsSucceed sends line s c := by
  cases c with
  | quit => simpa [SendsSucceed, tcpAnswer] using keepsLaw_closeAndFree hnothing
  | led =>
    -- The result of the send is looked at, so both branches keep the law.
    simp only [SendsSucceed, iff_true]
    by_cases hret : sends 0 < 0
    · have hanswer : tcpAnswer sends line s .led =
          (s.record [.use .sock]).closeAndFree.leave := by
        simp [tcpAnswer, mySendMsg, sendOrClose, hret]
      rw [hanswer]
      exact keepsLaw_closeAndFree (by simpa [TcpSession.record] using hnothing)
    · have hanswer : tcpAnswer sends line s .led = s.record [.use .sock] := by
        simp [tcpAnswer, mySendMsg, sendOrClose, hret]
      rw [hanswer, keepsLaw_running (show (s.record _).status = _ from hrunning)]
      simpa [TcpSession.record] using hnothing
  | dht11Load =>
    obtain ⟨g, readings, hload, -⟩ := hlines.load line
    simp only [tcpAnswer, SendsSucceed, readingsSent, hload, Option.map_some, Option.getD_some]
    exact keepsLaw_sendReadings (s := { s with dht11File := g }) hrunning hnothing sends
      mySendDht11Data_eq _
  | lightLoad =>
    obtain ⟨g, readings, hload⟩ := readAndSendLightData_total line s.lightFile
    simp only [tcpAnswer, SendsSucceed, readingsSent, hload, Option.map_some, Option.getD_some]
    exact keepsLaw_sendReadings (s := { s with lightFile := g }) hrunning hnothing sends
      mySendLightdata_eq _
  | dht11Reset =>
    simp only [tcpAnswer, SendsSucceed, mySendFpResetFeedback]
    exact keepsLaw_sendOrClose (s := { s with dht11File.lastPosition := 0 }) hrunning hnothing _
  | lightReset =>
    simp only [tcpAnswer, SendsSucceed, mySendFpResetFeedback]
    exact keepsLaw_sendOrClose (s := { s with lightFile.lastPosition := 0 }) hrunning hnothing _
  | other =>
    simp only [tcpAnswer, SendsSucceed, iff_true]
    exact (keepsLaw_running hrunning).mpr hnothing

omit hrunning hnothing in
theorem tcpAnswer_lines (c : TcpCommand) : OfDht11Lines (tcpAnswer sends line s c).dht11File := by
  cases c with
  | led =>
    simp only [tcpAnswer, mySendMsg]
    split
    · exact (sendOrClose_dht11File _ s).symm ▸ hlines
    · exact (sendOrClose_dht11File _ s).symm ▸ hlines
  | dht11Load =>
    obtain ⟨g, readings, hload, hg⟩ := hlines.load line
    simp only [tcpAnswer, hload]
    rw [sendReadings_dht11File mySendDht11Data_eq]
    exact hg
  | lightLoad =>
    obtain ⟨g, readings, hload⟩ := readAndSendLightData_total line s.lightFile
    simp only [tcpAnswer, hload]
    rw [sendReadings_dht11File mySendLightdata_eq]
    exact hlines
  | dht11Reset =>
    simp only [tcpAnswer, mySendFpResetFeedback, sendOrClose_dht11File]
    exact hlines.reset
  | lightReset =>
    simp only [tcpAnswer, mySendFpResetFeedback, sendOrClose_dht11File]
    exact hlines
  | quit => exact hlines
  | other => exact hlines

/-- A pass with a packet keeps the law exactly when the packet is answered safely. -/
theorem tcpPass_packet_keepsLaw_iff (b : UInt8) (bs : List UInt8) :
    KeepsLaw (tcpPass (some (b :: bs)) sends line s) ↔
      AnswersSafely (cString (b :: bs)) sends line s := by
  have hworld := myTcpControl_isSome_iff (b :: bs) s.world
  unfold AnswersSafely
  cases hw : myTcpControl (b :: bs) s.world with
  | none =>
    -- The packet is one to be split, and does not split well.
    have hbad : ¬ (tcpCommand (cString (b :: bs)) = .other → SplitsWell (cString (b :: bs))) := by
      rw [← hworld, hw]
      decide
    rw [tcpPass_eq_fault hw]
    exact iff_of_false id fun h => hbad h.2
  | some w =>
    have hgood := hworld.mp (by rw [hw]; rfl)
    rw [tcpPass_eq_tcpAnswer hw, and_iff_left hgood]
    refine tcpAnswer_keepsLaw_iff ?_ ?_ ?_ sends line _
    · exact hrunning
    · simpa [TcpSession.record] using hnothing
    · exact hlines

end

theorem tcpPass_lines {s : TcpSession} (hlines : OfDht11Lines s.dht11File)
    (received : Option (List UInt8)) (sends : Nat → Int) (line : List UInt8) :
    OfDht11Lines (tcpPass received sends line s).dht11File := by
  rcases received with _ | _ | ⟨b, bs⟩
  · exact hlines
  · exact hlines
  · cases hw : myTcpControl (b :: bs) s.world with
    | none =>
      rw [tcpPass_eq_fault hw]
      exact hlines
    | some w =>
      rw [tcpPass_eq_tcpAnswer hw]
      refine tcpAnswer_lines ?_ sends line _
      exact hlines

/-! ### Runs -/

/-- The law, and a log of the DHT11 sensor that the reader can load. -/
structure SessionInv (s : TcpSession) : Prop where
  law : KeepsLaw s
  lines : OfDht11Lines s.dht11File

theorem tcpStep_lines {s : TcpSession} (hlines : OfDht11Lines s.dht11File) (e : TcpEvent) :
    OfDht11Lines (tcpStep s e).dht11File := by
  cases e with
  | pass received sends line =>
    simp only [tcpStep]
    split
    · exact tcpPass_lines hlines received sends line
    · exact hlines
  | writeDht11 temp humi => exact hlines.write temp humi
  | writeLight value => exact hlines
  | setWorld w => exact hlines

/-- One event keeps the law exactly when its pass is safe. -/
theorem tcpStep_keepsLaw_iff {s : TcpSession} (h : SessionInv s) (e : TcpEvent) :
    KeepsLaw (tcpStep s e) ↔ PassSafe s e := by
  obtain ⟨hlaw, hlines⟩ := h
  cases e with
  | pass received sends line =>
    by_cases hrunning : s.status = .running
    · have hnothing : NothingReleased s.ops := (keepsLaw_running hrunning).mp hlaw
      have hrecv : NothingReleased (s.record [.use .sock, .use .recvData]).ops := by
        simpa [TcpSession.record] using hnothing
      have hstep : tcpStep s (.pass received sends line) = tcpPass received sends line s :=
        if_pos hrunning
      rw [hstep]
      rcases received with _ | _ | ⟨b, bs⟩
      · exact iff_of_true (keepsLaw_closeAndFree hrecv) trivial
      · exact iff_of_true (keepsLaw_closeAndFree hrecv) trivial
      · rw [tcpPass_packet_keepsLaw_iff hrunning hnothing hlines]
        exact ⟨fun h _ => h, fun h => h hrunning⟩
    · have hstep : tcpStep s (.pass received sends line) = s := if_neg hrunning
      rw [hstep]
      refine iff_of_true hlaw ?_
      rcases received with _ | _ | ⟨b, bs⟩
      · trivial
      · trivial
      · exact fun h => absurd h hrunning
  | writeDht11 temp humi => exact iff_of_true hlaw trivial
  | writeLight value => exact iff_of_true hlaw trivial
  | setWorld w => exact iff_of_true hlaw trivial

/-- With a buffer and a socket, the call reads `host->h_addr`, and the host was found. -/
def HostResolves (start : TcpStart) : Prop :=
  3 ≤ start.argc → start.malloc = true → start.socket = true → start.host = true

theorem openSession_keepsLaw_iff (start : TcpStart) (dht11File lightFile : LogFile)
    (w : World) :
    KeepsLaw (openSession start dht11File lightFile w) ↔ HostResolves start := by
  obtain ⟨argc, host, malloc, socket, connect⟩ := start
  simp only [openSession, HostResolves]
  by_cases hargc : argc < 3
  · rw [if_pos hargc]
    exact iff_of_true clean_nil fun h => absurd hargc (by omega)
  · rw [if_neg hargc]
    cases malloc with
    | false => exact iff_of_true clean_nil fun _ h => absurd h (by decide)
    | true =>
      cases socket with
      | false =>
        have hbuffer : Clean ([.acquire TcpResource.recvData] ++ [.recvData].map .release) :=
          clean_release_all (by simp) (by decide) (by simp)
        exact iff_of_true hbuffer fun _ _ h => absurd h (by decide)
      | true =>
        cases host with
        | false => exact iff_of_false id fun h => absurd (h (by omega) rfl rfl) (by decide)
        | true =>
          refine iff_of_true ?_ fun _ _ _ => rfl
          have hopen : NothingReleased
              [.acquire TcpResource.recvData, .acquire .sock, .use .sock] := by simp
          cases connect with
          | false => exact keepsLaw_closeAndFree hopen
          | true => exact hopen

/-- A call of `my_tcp_control` keeps the ownership law in all its states exactly when the name
of the host resolves, and every packet is answered safely. -/
theorem session_keepsLaw_iff (start : TcpStart) (dht11 : Dht11Log) (light : LogFile)
    (w : World) (es : List TcpEvent) :
    tcpSession.Always KeepsLaw (openSession start dht11.1 light w) es ↔
      HostResolves start ∧
        tcpSession.Along PassSafe (openSession start dht11.1 light w) es := by
  have hlines : OfDht11Lines (openSession start dht11.1 light w).dht11File := by
    have hfile : (openSession start dht11.1 light w).dht11File = dht11.1 := by
      unfold openSession
      simp only
      split_ifs <;> rfl
    rw [hfile]
    exact dht11.2
  rw [← openSession_keepsLaw_iff start dht11.1 light w]
  generalize openSession start dht11.1 light w = s at hlines
  -- The log of the sensor stays loadable in every run, so only the law is at stake.
  have hrun : KeepsLaw s →
      (tcpSession.Always KeepsLaw s es ↔ tcpSession.Along PassSafe s es) := fun hlaw =>
    tcpSession.always_iff_along_of_invariant (fun s => OfDht11Lines s.dht11File) KeepsLaw
      PassSafe (fun _ e hl => tcpStep_lines hl e)
      (fun _ e hl hlaw => tcpStep_keepsLaw_iff ⟨hlaw, hl⟩ e) es s hlines hlaw
  constructor
  · intro h
    have hlaw : KeepsLaw s := h [] List.nil_prefix
    exact ⟨hlaw, (hrun hlaw).mp h⟩
  · rintro ⟨hlaw, halong⟩
    exact (hrun hlaw).mpr halong

/-- The answer to a reset of the light position fails, and so does the next `recv`. -/
def resetFails : List TcpEvent :=
  [.pass (some (ofText "Light file position reset")) (fun _ => -1) [],
    .pass none (fun _ => 0) []]

/-- The call of `resetFails` receives on a closed socket, and frees the buffer twice. -/
theorem session_frees_twice :
    ¬ ∀ (start : TcpStart) (dht11 : Dht11Log) (light : LogFile) (w : World)
        (es : List TcpEvent), HostResolves start →
      tcpSession.Always KeepsLaw (openSession start dht11.1 light w) es := by
  intro h
  have hlaw := h ⟨3, true, true, true, true⟩ ⟨.empty, _, SensorLog.Represents.empty⟩ .empty
    (powerOn ⟨.high, .high, .high, .high⟩) resetFails (fun _ _ _ => rfl) resetFails List.prefix_rfl
  have hclean : Clean (tcpSession.run (openSession ⟨3, true, true, true, true⟩ .empty .empty
    (powerOn ⟨.high, .high, .high, .high⟩)) resetFails).ops := hlaw
  have honce := (hclean .recvData (by decide)).once
  revert honce
  decide

end SmartBuilding
