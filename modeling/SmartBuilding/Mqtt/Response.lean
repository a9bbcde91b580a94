import SmartBuilding.Lib.Ledger
import SmartBuilding.Mqtt.Handlers

/-!
# `SmartBuilding.Mqtt.Response`: command ids and responses

The rest of `mqtt_dev_control_callback` and `mqtt_thresholds_callback`: the command id that
they save in the global `UUID`, and the response that they publish.

`UUID` is a pointer to a heap block. A block has a number that is never used again, so
`Mcu.ops` is the ledger of the blocks that `strdup` made: when each one was acquired, read
and freed. Freeing a block does not change `UUID`, as in the source.

What the allocator and the broker answer is a parameter (`ResponseIO`), one answer for each
place that can fail. The two response builders of the source differ in the text of the
member `message` alone.

Two pointers of the source are null where it reads a string. The builders call
`strlen(timestamp)` and `strftime` with a null `timestamp`, and `cJSON_AddStringToObject`
adds no member for a null string, so a response has no timestamp. And `strdup` gets the
null `valuestring` of a `commandId` that is not a string. Address 0 is readable on this
board (it is the start of the flash), so such a read gives the text there: `NullText`.
-/

set_option autoImplicit false

namespace SmartBuilding

open CText

/-- The text at address 0, up to its first NUL. -/
class NullText where
  nullText : List UInt8

/-- The answers to the allocations and to the publication of one message: for `strdup`, for
`cJSON_CreateObject`, for the three members, for `cJSON_PrintUnformatted` and for the send
buffer, and the result of `mqtt_publish`. -/
structure ResponseIO where
  strdup : Bool
  createObject : Bool
  addCommandId : Bool
  addSuccess : Bool
  addMessage : Bool
  print : Bool
  sendBuffer : Bool
  publish : Int32
  deriving DecidableEq

/-- Every allocation succeeds, and the broker acknowledges. -/
def ResponseIO.ok : ResponseIO where
  strdup := true
  createObject := true
  addCommandId := true
  addSuccess := true
  addMessage := true
  print := true
  sendBuffer := true
  publish := 0

/-- The board and the globals of `mqtt_sample.c`: the world, the pointer `UUID`, the texts
of the blocks that `strdup` made, and their ledger. -/
structure Mcu where
  world : World
  uuid : Option Nat
  blocks : List (List UInt8)
  ops : List (Ledger.Op Nat)

/-- The board at the start of the client. -/
def Mcu.start (w : World) : Mcu where
  world := w
  uuid := none
  blocks := []
  ops := []

/-- `UUID = strdup(node->valuestring)`. -/
def saveCommandId [NullText] (io : ResponseIO) (node : CJson) (m : Mcu) : Mcu :=
  if io.strdup then
    { m with
        uuid := some m.blocks.length
        blocks := m.blocks ++ [node.valuestring.getD NullText.nullText]
        ops := m.ops ++ [.acquire m.blocks.length] }
  else
    -- Without memory the old pointer is lost. `UUID` becomes null.
    { m with uuid := none }

/-- `cJSON_AddStringToObject(root, "commandId", UUID)`: the members that it adds, and the
ledger. A null string adds no member. -/
def addCommandId (io : ResponseIO) (m : Mcu) : List (List UInt8 × CJson) × Mcu :=
  match m.uuid with
  | none => ([], m)
  | some p =>
      -- The builder reads the block even when the member gets no memory.
      let m' := { m with ops := m.ops ++ [.use p] }
      match m.blocks[p]? with
      | some text => (if io.addCommandId then [(ofText "commandId", .string text)] else [], m')
      | none => ([], m')

/-- `mqtt_get_dev_response` and `mqtt_get_thresholds_response`, with the text of the member
`message`: the rendered object, or `none` for the result `-RT_ENOMEM`. -/
def getResponse (message : String) (io : ResponseIO) (m : Mcu) : Option CJson × Mcu :=
  if !io.createObject then
    (none, m)
  else
    let (commandId, m) := addCommandId io m
    let success := if io.addSuccess then [(ofText "success", CJson.jTrue)] else []
    let text :=
      if io.addMessage then [(ofText "message", CJson.string (ofText message))] else []
    if !io.print then
      (none, m)
    else if !io.sendBuffer then
      (none, m)
    else
      (some (.object (commandId ++ success ++ text)), m)

/-- `mqtt_get_dev_response`. -/
def mqttGetDevResponse (io : ResponseIO) (m : Mcu) : Option CJson × Mcu :=
  getResponse "执行成功" io m

/-- `mqtt_get_thresholds_response`. -/
def mqttGetThresholdsResponse (io : ResponseIO) (m : Mcu) : Option CJson × Mcu :=
  getResponse "设置成功" io m

/-- `if (UUID) rt_free(UUID);`. The pointer keeps its value. -/
def freeUuid (m : Mcu) : Mcu :=
  match m.uuid with
  | none => m
  | some p => { m with ops := m.ops ++ [.release p] }

/-- The part that the two response publishers share: the builder, `mqtt_publish`, and the
release of the command id. The result is the response that `mqtt_publish` accepted. -/
def publishResponse (builder : ResponseIO → Mcu → Option CJson × Mcu) (io : ResponseIO)
    (m : Mcu) : Option CJson × Mcu :=
  let (response, m) := builder io m
  match response with
  -- The id is freed also when there is no response to send.
  | none => (none, freeUuid m)
  | some r => (if io.publish < 0 then none else some r, freeUuid m)

/-- `Publish_Device_Response`. -/
def publishDeviceResponse (io : ResponseIO) (m : Mcu) : Option CJson × Mcu :=
  publishResponse mqttGetDevResponse io m

/-- `Publish_Thresholds_Response`. -/
def publishThresholdsResponse (io : ResponseIO) (m : Mcu) : Option CJson × Mcu :=
  publishResponse mqttGetThresholdsResponse io m

/-- The key `commandId` of a handler. -/
def onCommandId [NullText] (io : ResponseIO) (root : CJson) (m : Mcu) : Mcu :=
  match getObjectItem (some root) "commandId" with
  | some node => saveCommandId io node m
  | none => m

/-- `mqtt_dev_control_callback`: the published response and the board after it. -/
def mqttDevControlCallback [CJsonParser] [TimeoutCalc] [NullText] (tio : TimerIO)
    (rio : ResponseIO) (payload : List UInt8) (m : Mcu) : Option CJson × Mcu :=
  let root := parsePayload payload
  let m :=
    match root with
    | none => m
    | some root =>
        let m := onCommandId rio root m
        { m with world := actuatorKeys tio (some root) m.world }
  -- The responder runs also after a payload that does not parse.
  publishDeviceResponse rio m

/-- `mqtt_thresholds_callback`: the published response and the board after it. -/
def mqttThresholdsCallback [CJsonParser] [NullText] (rio : ResponseIO) (payload : List UInt8)
    (m : Mcu) : Option CJson × Mcu :=
  let root := parsePayload payload
  let m :=
    match root with
    | none => m
    | some root =>
        let m := onCommandId rio root m
        { m with world := thresholdKeys (some root) m.world }
  publishThresholdsResponse rio m

/-! ### Commands -/

/-- The two topics whose messages get a response. -/
inductive Topic where
  | deviceControl
  | thresholdSet
  deriving DecidableEq

/-- One command message, with the answers of the timer device, of the allocator and of the
broker while the handler runs. -/
structure Command where
  topic : Topic
  payload : List UInt8
  tio : TimerIO
  rio : ResponseIO

/-- The handler of a command: the published response and the board after it. -/
def handleCommand [CJsonParser] [TimeoutCalc] [NullText] (c : Command) (m : Mcu) :
    Option CJson × Mcu :=
  match c.topic with
  | .deviceControl => mqttDevControlCallback c.tio c.rio c.payload m
  | .thresholdSet => mqttThresholdsCallback c.rio c.payload m

end SmartBuilding
