import SmartBuilding.Lib.EventMachine

/-!
# `SmartBuilding.Mqtt.Client`: starting and stopping the MQTT client

`mqtt_start` and `mqtt_stop` of `mqtt_sample.c`, with what they call in `paho_mqtt_pipe.c`,
and the worker thread `paho_mqtt_thread` as far as it decides when the worker ends and what
it frees. All workers share the one static client. So a second worker would take over the
connection, the buffers and the pipe of the first.

The heap is the list of the blocks that are allocated. A block has a number, and a pointer of
the client is the number of its block, or `none` for the null pointer.

The calls and the steps of a worker are atomic here. The publish mutex and the thread enter
as answers: whether the kernel creates them.
-/

set_option autoImplicit false

namespace SmartBuilding

/-- A worker before it has its pipe, while it tries to connect, and in its service loop. -/
inductive WorkerPhase where
  | created
  | connecting
  | online
  deriving DecidableEq, Repr

/-- The static client, the flag `is_started`, the worker threads that are alive, and the heap.
`pipe` counts the `DISCONNECT` commands in the pipe, and is `none` without a pipe. -/
structure MqttClient where
  isStarted : Bool
  isconnected : Bool
  buf : Option Nat
  readbuf : Option Nat
  pipe : Option Nat
  workers : List WorkerPhase
  heap : List Nat
  nextBlock : Nat
  deriving DecidableEq, Repr

/-- The client before the first call. -/
def MqttClient.initial : MqttClient where
  isStarted := false
  isconnected := false
  buf := none
  readbuf := none
  pipe := none
  workers := []
  heap := []
  nextBlock := 0

/-! ### `mqtt_start` -/

/-- `rt_calloc`, which has memory when `answer` is true: the pointer, and the client with the
heap after it. -/
def rtCalloc (answer : Bool) (c : MqttClient) : Option Nat × MqttClient :=
  if answer then
    (some c.nextBlock,
      { c with heap := c.nextBlock :: c.heap, nextBlock := c.nextBlock + 1 })
  else (none, c)

/-- What one call of `mqtt_start` gets from the system. -/
structure StartIO where
  buf : Bool
  readbuf : Bool
  mutex : Bool
  thread : Bool
  deriving DecidableEq, Repr

/-- `paho_mqtt_start`. A thread that cannot be created is no error. -/
def pahoMqttStart (io : StartIO) (c : MqttClient) : Int × MqttClient :=
  if !io.mutex then (-1, c)
  else if io.thread then (0, { c with workers := c.workers ++ [.created] })
  else (0, c)

/-- `mqtt_start`. -/
def mqttStart (io : StartIO) (c : MqttClient) : Int × MqttClient :=
  if c.isStarted then (-1, c)
  else
    let c := { c with isconnected := false }
    let (buf, c) := rtCalloc io.buf c
    let c := { c with buf := buf }
    let (readbuf, c) := rtCalloc io.readbuf c
    let c := { c with readbuf := readbuf }
    if !(c.buf.isSome && c.readbuf.isSome) then (-1, c)
    else
      -- The result of `paho_mqtt_start` is not looked at.
      let c := (pahoMqttStart io c).2
      (0, { c with isStarted := true })

/-! ### `mqtt_stop` -/

/-- What one call of `mqtt_stop` gets from the system: memory for the command, and room in the
pipe. -/
structure StopIO where
  malloc : Bool
  write : Bool
  deriving DecidableEq, Repr

/-- `MQTT_CMD` with `"DISCONNECT"`. -/
def mqttCmd (io : StopIO) (c : MqttClient) : Int × MqttClient :=
  if !c.isconnected then (-1, c)
  else if !io.malloc then (-1, c)
  else if io.write then (0, { c with pipe := c.pipe.map (· + 1) })
  else (-1, c)

/-- `paho_mqtt_stop`. -/
def pahoMqttStop (io : StopIO) (c : MqttClient) : Int × MqttClient := mqttCmd io c

/-- `mqtt_stop`. -/
def mqttStop (io : StopIO) (c : MqttClient) : Int × MqttClient :=
  pahoMqttStop io { c with isStarted := false }

/-! ### The worker -/

/-- What a worker thread does next. -/
inductive WorkerStep where
  /-- `mqtt_pipe_init` makes the pipe, or fails. -/
  | initPipe (made : Bool)
  /-- One attempt to connect and to subscribe. -/
  | connect (accepted : Bool)
  /-- The connection is lost, and the worker goes back to connecting. -/
  | lose
  /-- The worker reads its pipe. -/
  | readPipe
  deriving DecidableEq, Repr

/-- `net_disconnect_exit`: the buffers are freed, and the pipe is deleted. -/
def netDisconnectExit (c : MqttClient) : MqttClient :=
  let heap :=
    match c.buf, c.readbuf with
    | some buf, some readbuf => (c.heap.erase buf).erase readbuf
    | _, _ => c.heap
  { c with heap := heap, pipe := none, isconnected := false }

/-- The thread with the number `i` ends. -/
def endWorker (i : Nat) (c : MqttClient) : MqttClient :=
  { c with workers := c.workers.eraseIdx i }

/-- The thread with the number `i` is in the phase `phase`. -/
def setPhase (i : Nat) (phase : WorkerPhase) (c : MqttClient) : MqttClient :=
  { c with workers := c.workers.set i phase }

/-- One step of the worker with the number `i`. A step that does not fit its phase does not
occur. -/
def workerStep (i : Nat) (step : WorkerStep) (c : MqttClient) : MqttClient :=
  match step, c.workers[i]? with
  | .initPipe made, some .created =>
      -- Without a pipe the thread ends, and frees nothing.
      if made then setPhase i .connecting { c with pipe := some 0 } else endWorker i c
  | .connect accepted, some .connecting =>
      -- `MQTTConnect` refuses a client that is connected.
      if !c.isconnected && accepted then setPhase i .online { c with isconnected := true }
      else c
  | .lose, some .online => setPhase i .connecting { c with isconnected := false }
  | .readPipe, some .online =>
      match c.pipe with
      | some (_ + 1) => endWorker i (netDisconnectExit c)
      | _ => c
  | _, _ => c

/-! ### The client as a machine -/

/-- A call, a step of a worker, or a failed `paho_mqtt_subscribe` or `paho_mqtt_unsubscribe`
of another thread, which marks the client as not connected. -/
inductive ClientEvent where
  | start (io : StartIO)
  | stop (io : StopIO)
  | worker (i : Nat) (step : WorkerStep)
  | sendFails

/-- One event. -/
def clientStep (c : MqttClient) : ClientEvent → MqttClient
  | .start io => (mqttStart io c).2
  | .stop io => (mqttStop io c).2
  | .worker i step => workerStep i step c
  | .sendFails => { c with isconnected := false }

/-- The result of a call. -/
def clientResult (c : MqttClient) : ClientEvent → Option Int
  | .start io => some (mqttStart io c).1
  | .stop io => some (mqttStop io c).1
  | _ => none

/-- The client as a machine. Its records are the results of the calls. -/
def mqttClient : Machine MqttClient ClientEvent Int where
  step := clientStep
  out c e := (clientResult c e).toList

end SmartBuilding
