import SmartBuilding.Mqtt.Client

/-!
# `SmartBuilding.Proofs.Client`: one worker on the static MQTT client

The flag `is_started` guards `mqtt_start`. It is right when it is set whenever a worker is
alive, so that a start never meets a worker or the buffers of one (`OneWorker`). And a call
that fails should leave the flag and the buffers alone (`CallSafe`).

`mqtt_stop` clears the flag before it knows whether the worker ends, and the worker ends
later, if it does. So the flag is right in a run exactly when no stop occurs while the client
is started, and each start gets all that it asks for, or neither of the two buffers
(`one_worker_iff`).
-/

set_option autoImplicit false

namespace SmartBuilding

/-- At most one worker is alive, and it is alive while the client is started. -/
structure OneWorker (c : MqttClient) : Prop where
  one : c.workers.length ≤ 1
  started : c.workers ≠ [] → c.isStarted = true

/-- The call leaves the flag and the buffers as they were. -/
def Untouched (c c' : MqttClient) : Prop := c'.isStarted = c.isStarted ∧ c'.heap = c.heap

/-- A start that allocates finds no worker and no buffers. A call that fails leaves the flag
and the buffers as they were. A start also fails when it leaves no new worker behind. -/
def CallSafe (c : MqttClient) : ClientEvent → Prop
  | .start io =>
      ((mqttStart io c).2.nextBlock ≠ c.nextBlock → c.workers = [] ∧ c.heap = []) ∧
      ((mqttStart io c).1 ≠ 0 ∨ (mqttStart io c).2.workers = c.workers →
        Untouched c (mqttStart io c).2)
  | .stop io => (mqttStop io c).1 ≠ 0 → Untouched c (mqttStop io c).2
  | _ => True

/-- A start gets both buffers, the mutex and the thread, or neither buffer. A stop finds the
client not started. -/
def CallAllowed (c : MqttClient) : ClientEvent → Prop
  | .start io => c.isStarted = false →
      (io.buf = true ∧ io.readbuf = true ∧ io.mutex = true ∧ io.thread = true) ∨
      (io.buf = false ∧ io.readbuf = false)
  | .stop _ => c.isStarted = false
  | _ => True

/-- The invariant of a run whose calls are allowed. -/
structure ClientInv (c : MqttClient) : Prop where
  oneWorker : OneWorker c
  no_buffers : c.isStarted = false → c.heap = []
  online : c.isconnected = true → WorkerPhase.online ∈ c.workers

theorem ClientInv.no_worker {c : MqttClient} (h : ClientInv c) (hstopped : c.isStarted = false) :
    c.workers = [] := by
  by_contra hworkers
  have hstarted := h.oneWorker.started hworkers
  rw [hstopped] at hstarted
  cases hstarted

/-! ### The calls -/

section
variable {c : MqttClient}

/-- A start of a started client does nothing. -/
theorem mqttStart_of_started (io : StartIO) (hstarted : c.isStarted = true) :
    mqttStart io c = (-1, c) := if_pos hstarted

/-- A start that gets everything adds a worker and two buffers. -/
theorem mqttStart_of_all {io : StartIO} (hstopped : c.isStarted = false) (hbuf : io.buf = true)
    (hreadbuf : io.readbuf = true) (hmutex : io.mutex = true) (hthread : io.thread = true) :
    mqttStart io c = (0, { c with
      isStarted := true
      isconnected := false
      buf := some c.nextBlock
      readbuf := some (c.nextBlock + 1)
      workers := c.workers ++ [.created]
      heap := (c.nextBlock + 1) :: c.nextBlock :: c.heap
      nextBlock := c.nextBlock + 1 + 1 }) := by
  simp [mqttStart, pahoMqttStart, rtCalloc, hstopped, hbuf, hreadbuf, hmutex, hthread]

/-- A start that gets neither buffer fails. -/
theorem mqttStart_of_neither {io : StartIO} (hstopped : c.isStarted = false)
    (hbuf : io.buf = false) (hreadbuf : io.readbuf = false) :
    mqttStart io c = (-1, { c with isconnected := false, buf := none, readbuf := none }) := by
  simp [mqttStart, rtCalloc, hstopped, hbuf, hreadbuf]

/-- A start that gets one of the two buffers fails, and leaves it behind. -/
theorem mqttStart_of_one {io : StartIO} (hstopped : c.isStarted = false)
    (hone : io.readbuf = !io.buf) :
    (mqttStart io c).1 = -1 ∧ (mqttStart io c).2.heap = c.nextBlock :: c.heap := by
  cases hbuf : io.buf <;> simp [mqttStart, rtCalloc, hstopped, hone, hbuf]

/-- A start that gets both buffers and no thread leaves them behind without a worker. -/
theorem mqttStart_of_no_thread {io : StartIO} (hstopped : c.isStarted = false)
    (hbuf : io.buf = true) (hreadbuf : io.readbuf = true)
    (hnothread : ¬ (io.mutex = true ∧ io.thread = true)) :
    (mqttStart io c).2.workers = c.workers ∧
      (mqttStart io c).2.heap = (c.nextBlock + 1) :: c.nextBlock :: c.heap := by
  cases hmutex : io.mutex with
  | false => simp [mqttStart, pahoMqttStart, rtCalloc, hstopped, hbuf, hreadbuf, hmutex]
  | true =>
    have hthread : io.thread = false := by simpa [hmutex] using hnothread
    simp [mqttStart, pahoMqttStart, rtCalloc, hstopped, hbuf, hreadbuf, hmutex, hthread]

/-- Any start between all and neither is not safe. -/
theorem mqttStart_not_safe {io : StartIO} (hstopped : c.isStarted = false)
    (hnotall : ¬ (io.buf = true ∧ io.readbuf = true ∧ io.mutex = true ∧ io.thread = true))
    (hsome : ¬ (io.buf = false ∧ io.readbuf = false)) : ¬ CallSafe c (.start io) := by
  rintro ⟨-, hfailed⟩
  by_cases hone : io.readbuf = !io.buf
  · obtain ⟨hresult, hheap⟩ := mqttStart_of_one hstopped hone
    have hkept := (hfailed (.inl (by rw [hresult]; decide))).2
    rw [hheap] at hkept
    have hlength := congrArg List.length hkept
    simp only [List.length_cons] at hlength
    omega
  · -- The two answers agree, and they are not both no.
    have hboth : io.buf = true ∧ io.readbuf = true := by
      cases hbuf : io.buf <;> cases hreadbuf : io.readbuf <;> simp_all
    obtain ⟨hworkers, hheap⟩ := mqttStart_of_no_thread hstopped hboth.1 hboth.2
      fun hthread => hnotall ⟨hboth.1, hboth.2, hthread⟩
    have hkept := (hfailed (.inr hworkers)).2
    rw [hheap] at hkept
    have hlength := congrArg List.length hkept
    simp only [List.length_cons] at hlength
    omega

/-- A stop of a client that is not connected fails. -/
theorem mqttStop_of_not_connected (io : StopIO) (hdown : c.isconnected = false) :
    mqttStop io c = (-1, { c with isStarted := false }) := by
  simp [mqttStop, pahoMqttStop, mqttCmd, hdown]

/-- A stop clears the flag, and leaves the workers and the heap as they are. -/
theorem mqttStop_frame (io : StopIO) :
    (mqttStop io c).2.isStarted = false ∧ (mqttStop io c).2.workers = c.workers ∧
      (mqttStop io c).2.heap = c.heap := by
  unfold mqttStop pahoMqttStop mqttCmd
  split_ifs <;> exact ⟨rfl, rfl, rfl⟩

end

/-! ### The worker -/

/-- A step of a worker keeps the flag. -/
theorem workerStep_isStarted (i : Nat) (step : WorkerStep) (c : MqttClient) :
    (workerStep i step c).isStarted = c.isStarted := by
  unfold workerStep
  split
  · split <;> rfl
  · split <;> rfl
  · rfl
  · split <;> rfl
  · rfl

/-- A step of a worker keeps the invariant. A worker frees the buffers only when it ends. -/
theorem ClientInv.workerStep {c : MqttClient} (h : ClientInv c) (i : Nat) (step : WorkerStep) :
    ClientInv (workerStep i step c) := by
  obtain ⟨⟨hone, hstarted⟩, hbuffers, honline⟩ := h
  -- There is no worker, or one, with the number 0.
  rcases hworkers : c.workers with _ | ⟨phase, _ | ⟨phase', rest⟩⟩
  · have hidle : SmartBuilding.workerStep i step c = c := by
      cases step <;> simp [SmartBuilding.workerStep, hworkers]
    rw [hidle]
    exact ⟨⟨hone, hstarted⟩, hbuffers, honline⟩
  · have hflag : c.isStarted = true := hstarted (by simp [hworkers])
    have hflag' := (workerStep_isStarted i step c).trans hflag
    rw [hworkers] at honline
    have hworker : (SmartBuilding.workerStep i step c).workers.length ≤ 1 ∧
        ((SmartBuilding.workerStep i step c).isconnected = true →
          .online ∈ (SmartBuilding.workerStep i step c).workers) := by
      cases i with
      | zero =>
        cases step with
        | initPipe made =>
          cases phase <;> cases made <;>
            simp_all [SmartBuilding.workerStep, setPhase, endWorker]
        | connect accepted =>
          cases phase <;> cases accepted <;> cases hup : c.isconnected <;>
            simp_all [SmartBuilding.workerStep, setPhase]
        | lose =>
          cases phase <;> simp_all [SmartBuilding.workerStep, setPhase]
        | readPipe =>
          rcases hpipe : c.pipe with _ | _ | n <;> cases phase <;>
            simp_all [SmartBuilding.workerStep, endWorker, netDisconnectExit]
      | succ i =>
        have hidle : SmartBuilding.workerStep (i + 1) step c = c := by
          cases step <;> simp [SmartBuilding.workerStep, hworkers]
        rw [hidle, hworkers]
        exact ⟨Nat.le_refl 1, honline⟩
    refine ⟨⟨hworker.1, fun _ => hflag'⟩, ?_, hworker.2⟩
    intro hstopped
    rw [hflag'] at hstopped
    cases hstopped
  · rw [hworkers] at hone
    simp at hone

/-! ### Runs -/

theorem ClientInv.initial : ClientInv .initial := by
  refine ⟨⟨Nat.zero_le 1, fun h => absurd rfl h⟩, fun _ => rfl, ?_⟩
  intro hup
  exact absurd hup (by decide)

/-- An allowed event keeps the invariant. -/
theorem ClientInv.step {c : MqttClient} (h : ClientInv c) {e : ClientEvent}
    (hallowed : CallAllowed c e) : ClientInv (clientStep c e) := by
  cases e with
  | start io =>
    show ClientInv (mqttStart io c).2
    cases hflag : c.isStarted with
    | true => rw [mqttStart_of_started io hflag]; exact h
    | false =>
      obtain ⟨hbuf, hreadbuf, hmutex, hthread⟩ | ⟨hbuf, hreadbuf⟩ := hallowed hflag
      · rw [mqttStart_of_all hflag hbuf hreadbuf hmutex hthread, h.no_worker hflag]
        exact ⟨⟨Nat.le_refl 1, fun _ => rfl⟩, nofun, nofun⟩
      · rw [mqttStart_of_neither hflag hbuf hreadbuf]
        exact ⟨⟨h.oneWorker.one, h.oneWorker.started⟩, h.no_buffers, nofun⟩
  | stop io =>
    have hflag : c.isStarted = false := hallowed
    obtain ⟨hstopped, hworkers, hheap⟩ := mqttStop_frame (c := c) io
    have hnone : (clientStep c (.stop io)).workers = [] := hworkers.trans (h.no_worker hflag)
    refine ⟨⟨by rw [hnone]; exact Nat.zero_le 1, fun hne => absurd hnone hne⟩, ?_, ?_⟩
    · intro _
      exact hheap.trans (h.no_buffers hflag)
    · intro hup
      -- Without a worker the client is not connected, and a stop does not connect it.
      have hdown : c.isconnected = false := by
        cases hc : c.isconnected with
        | false => rfl
        | true =>
          have honline := h.online hc
          rw [h.no_worker hflag] at honline
          cases honline
      rw [clientStep, mqttStop_of_not_connected io hdown] at hup
      exact absurd (hdown.symm.trans hup) (by decide)
  | worker i step => exact h.workerStep i step
  | sendFails => exact ⟨⟨h.oneWorker.one, h.oneWorker.started⟩, h.no_buffers, nofun⟩

/-- An event is safe and leaves one worker under the flag exactly when it is allowed. -/
theorem ClientInv.safe_iff {c : MqttClient} (h : ClientInv c) (e : ClientEvent) :
    CallSafe c e ∧ OneWorker (clientStep c e) ↔ CallAllowed c e := by
  cases e with
  | start io =>
    cases hflag : c.isStarted with
    | true =>
      have hstart := mqttStart_of_started io hflag
      have hone : OneWorker (clientStep c (.start io)) := by
        rw [clientStep, hstart]
        exact h.oneWorker
      refine iff_of_true ⟨⟨?_, ?_⟩, hone⟩ fun hstopped => ?_
      · intro hallocates
        rw [hstart] at hallocates
        exact absurd rfl hallocates
      · intro _
        rw [hstart]
        exact ⟨rfl, rfl⟩
      · rw [hflag] at hstopped
        cases hstopped
    | false =>
      constructor
      · rintro ⟨hsafe, -⟩ -
        by_cases hall : io.buf = true ∧ io.readbuf = true ∧ io.mutex = true ∧ io.thread = true
        · exact .inl hall
        · by_cases hneither : io.buf = false ∧ io.readbuf = false
          · exact .inr hneither
          · exact absurd hsafe (mqttStart_not_safe hflag hall hneither)
      · intro hallowed
        refine ⟨⟨fun _ => ⟨h.no_worker hflag, h.no_buffers hflag⟩, ?_⟩,
          (h.step hallowed).oneWorker⟩
        obtain ⟨hbuf, hreadbuf, hmutex, hthread⟩ | ⟨hbuf, hreadbuf⟩ := hallowed hflag
        · rw [mqttStart_of_all hflag hbuf hreadbuf hmutex hthread]
          -- The result is 0, and there is a new worker.
          rintro (hresult | hworkers)
          · exact absurd rfl hresult
          · simp at hworkers
        · rw [mqttStart_of_neither hflag hbuf hreadbuf]
          exact fun _ => ⟨rfl, rfl⟩
  | stop io =>
    obtain ⟨hstopped, hworkers, hheap⟩ := mqttStop_frame (c := c) io
    constructor
    · rintro ⟨hsafe, hone⟩
      by_contra hstarted
      have hflag : c.isStarted = true := by simpa [CallAllowed] using hstarted
      by_cases hresult : (mqttStop io c).1 = 0
      · -- The command is accepted, so the client is connected, and its worker is alive.
        have hup : c.isconnected = true := by
          by_contra hdown
          rw [mqttStop_of_not_connected io (by simpa using hdown)] at hresult
          have hfails : (-1 : Int) = 0 := hresult
          exact absurd hfails (by decide)
        have halive : (clientStep c (.stop io)).workers ≠ [] := by
          intro hnone
          have honline := h.online hup
          rw [← hworkers, show (mqttStop io c).2.workers = [] from hnone] at honline
          cases honline
        exact absurd (hstopped.symm.trans (hone.started halive)) (by decide)
      · have hkept := (hsafe hresult).1
        rw [hstopped, hflag] at hkept
        cases hkept
    · intro hflag
      refine ⟨fun _ => ⟨hstopped.trans (Eq.symm hflag), hheap⟩, ?_⟩
      exact (h.step (e := .stop io) hflag).oneWorker
  | worker i step => exact iff_of_true ⟨trivial, (h.workerStep i step).oneWorker⟩ trivial
  | sendFails =>
    exact iff_of_true ⟨trivial, ⟨h.oneWorker.one, h.oneWorker.started⟩⟩ trivial

/-- In a run from the initial client, at most one worker is alive, always under the flag, and
every call is safe, exactly when every call is allowed. -/
theorem one_worker_iff (es : List ClientEvent) :
    mqttClient.Always OneWorker .initial es ∧ mqttClient.Along CallSafe .initial es ↔
      mqttClient.Along CallAllowed .initial es :=
  mqttClient.always_and_along_iff ClientInv OneWorker CallSafe CallAllowed
    (fun _ h => h.oneWorker) (fun _ e h => h.safe_iff e) (fun _ _ h => h.step) es .initial
    ClientInv.initial

/-- A client that starts, connects, is told to stop, and starts again before its worker reads
the command. -/
def restartedClient : List ClientEvent :=
  [.start ⟨true, true, true, true⟩, .worker 0 (.initPipe true), .worker 0 (.connect true),
    .stop ⟨true, true⟩, .start ⟨true, true, true, true⟩]

/-- All calls of that run succeed, and at its end two workers share the client. -/
theorem two_workers :
    ¬ ∀ es, mqttClient.Always OneWorker .initial es ∧ mqttClient.Along CallSafe .initial es := by
  intro h
  have hone := ((h restartedClient).1 restartedClient List.prefix_rfl).one
  revert hone
  decide

end SmartBuilding
