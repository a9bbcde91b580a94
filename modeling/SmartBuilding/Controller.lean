import SmartBuilding.Lib.EventMachine
import SmartBuilding.AutoControl
import SmartBuilding.Mqtt.Handlers
import SmartBuilding.Tcp

/-!
# `SmartBuilding.Controller`: the firmware as one machine

`controller` is the machine whose events are everything that changes the shared state: the
iterations of the control loop, the three kinds of MQTT messages with arbitrary payloads,
the two keys, the sensor updates, the timer interrupts and the packets of the TCP console.
Each event is atomic here. The events that start the alarm carry the answers of the timer
device.

The log of a run has the reports of the control loop, and for each message that commands
actuators the object with its keys.

A packet that makes `my_tcp_control` leave its arrays has no meaning here (`Event.Defined`).
The step of the machine leaves the world as it is then.
-/

set_option autoImplicit false

namespace SmartBuilding

/-- One event. -/
inductive Event where
  | iteration (io : TimerIO)
  | devControl (io : TimerIO) (payload : List UInt8)
  | syncResponse (io : TimerIO) (payload : List UInt8)
  | thresholdSet (payload : List UInt8)
  | key0
  | key1
  | temp (value : Int32)
  | humi (value : Int32)
  | light (value : Int32)
  | smoke (value : Int32)
  | timerIrq
  | tcp (packet : List UInt8)

/-- One record of the log. `handled object` is a message whose actuator keys are read from
`object`. -/
inductive Record where
  | report (r : Report)
  | handled (object : Option CJson)

/-- The world after one event. -/
def eventStep [CJsonParser] [TimeoutCalc] (w : World) : Event → World
  | .iteration io => (myAutoControlIteration io w).1
  | .devControl io payload => devControlEffect io payload w
  | .syncResponse io payload => mqttSyncCallback io payload w
  | .thresholdSet payload => thresholdsEffect payload w
  | .key0 => iqrHandaleKey0 w
  | .key1 => iqrHandaleKey1 w
  | .temp value => setDevproTemp value w
  | .humi value => setDevproHumi value w
  | .light value => setDevproLight value w
  | .smoke value => setDevproSmoke value w
  | .timerIrq => timerIrq w
  | .tcp packet => (myTcpControl packet w).getD w

/-- The event has a meaning in the world: it is no packet that makes `my_tcp_control` leave its
arrays. -/
def Event.Defined (w : World) : Event → Prop
  | .tcp packet => (myTcpControl packet w).isSome = true
  | _ => True

/-- The records of one event. -/
def eventOut [CJsonParser] [TimeoutCalc] (w : World) : Event → List Record
  | .iteration io => (myAutoControlIteration io w).2.map .report
  | .devControl _ payload => [.handled (parsePayload payload)]
  | .syncResponse _ payload => [.handled (syncDevice payload)]
  | _ => []

/-- The firmware as a machine. -/
def controller [CJsonParser] [TimeoutCalc] : Machine World Event Record where
  step := eventStep
  out := eventOut

/-- The world at power-on: the initial values of the globals, and any levels on the pins. -/
def powerOn (pins : Pins) : World where
  devices := myDevices
  environment := myEnvironment
  thresholds := myThresholds
  pins := pins
  timer := timerInit
  angle := 0
  servo := 0
  tempLimit := 50
  lightLimit := 2500

/-- The world after `my_GPIO_Init`. -/
def boot (pins : Pins) : World := myGpioInit (powerOn pins)

end SmartBuilding
