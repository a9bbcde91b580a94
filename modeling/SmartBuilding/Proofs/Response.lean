import SmartBuilding.Mqtt.Response
import SmartBuilding.Proofs.Handlers

/-!
# `SmartBuilding.Proofs.Response`: the two parts of a command handler

A command handler does two things that do not touch each other. It changes the world by the
keys of the message, and it saves a command id and publishes a response.
`publishResponse_eq` gives the response and its ledger in terms of the saved id, and
`handleCommand_eq` puts the two parts together again.
-/

set_option autoImplicit false

namespace SmartBuilding

open CText

/-- A response goes out: the builder gets its memory, and the broker accepts. -/
def ResponseIO.delivers (io : ResponseIO) : Bool :=
  io.createObject && io.print && io.sendBuffer && !(io.publish < 0)

/-- The members of a response with the given command id. -/
def responseMembers (message : String) (io : ResponseIO) (commandId : Option (List UInt8)) :
    List (List UInt8 × CJson) :=
  (if io.addCommandId then
      (commandId.map fun text => (ofText "commandId", CJson.string text)).toList
    else []) ++
  (if io.addSuccess then [(ofText "success", CJson.jTrue)] else []) ++
  (if io.addMessage then [(ofText "message", CJson.string (ofText message))] else [])

/-- The member `success` of a response. -/
theorem getObjectItem_success (message : String) (io : ResponseIO)
    (commandId : Option (List UInt8)) :
    getObjectItem (some (.object (responseMembers message io commandId))) "success" =
      if io.addSuccess then some .jTrue else none := by
  unfold responseMembers
  cases io.addCommandId <;> cases io.addSuccess <;> cases io.addMessage <;>
    cases commandId <;> rfl

/-- The member `commandId` of a response. -/
theorem getObjectItem_commandId (message : String) (io : ResponseIO)
    (commandId : Option (List UInt8)) :
    getObjectItem (some (.object (responseMembers message io commandId))) "commandId" =
      if io.addCommandId then commandId.map CJson.string else none := by
  unfold responseMembers
  cases io.addCommandId <;> cases io.addSuccess <;> cases io.addMessage <;>
    cases commandId <;> rfl

/-- The text of the response to a command. -/
def Topic.message : Topic → String
  | .deviceControl => "执行成功"
  | .thresholdSet => "设置成功"

section
variable (message : String) (io : ResponseIO) (m : Mcu)

/-- The text of the command id that `UUID` points to. -/
def Mcu.savedId (m : Mcu) : Option (List UInt8) := m.uuid.bind (m.blocks[·]?)

private theorem addCommandId_members :
    (addCommandId io m).1 =
      if io.addCommandId then
        (m.savedId.map fun text => (ofText "commandId", CJson.string text)).toList
      else [] := by
  unfold addCommandId Mcu.savedId
  cases m.uuid with
  | none => simp
  | some p =>
    cases hp : m.blocks[p]? <;> cases io.addCommandId <;> simp [hp]

/-- The ledger entries of one response for the pointer `UUID`: the builder reads the block,
and the publisher frees it. -/
def uuidOps (io : ResponseIO) : Option Nat → List (Ledger.Op Nat)
  | none => []
  | some p => (if io.createObject then [.use p] else []) ++ [.release p]

private theorem addCommandId_snd :
    (addCommandId io m).2 =
      { m with ops := m.ops ++ (m.uuid.map Ledger.Op.use).toList } := by
  obtain ⟨world, uuid, blocks, ops⟩ := m
  unfold addCommandId
  cases uuid with
  | none => simp
  | some p => cases hp : blocks[p]? <;> simp [hp]

/-- What `Publish_Device_Response` and `Publish_Thresholds_Response` do. -/
theorem publishResponse_eq :
    publishResponse (getResponse message) io m =
      (if io.delivers then some (.object (responseMembers message io m.savedId)) else none,
        { m with ops := m.ops ++ uuidOps io m.uuid }) := by
  have hmembers := addCommandId_members io m
  have hops := addCommandId_snd io m
  unfold publishResponse getResponse
  cases hc : io.createObject
  · obtain ⟨world, uuid, blocks, ops⟩ := m
    cases uuid <;> simp [freeUuid, uuidOps, ResponseIO.delivers, hc]
  · -- The builder reads `UUID` without changing it, so the publisher frees the same block.
    have hfree : freeUuid (addCommandId io m).2 =
        { m with ops := m.ops ++ uuidOps io m.uuid } := by
      rw [hops]
      obtain ⟨world, uuid, blocks, ops⟩ := m
      cases uuid <;> simp [freeUuid, uuidOps, hc]
    cases hp : io.print
    · simp [hfree, ResponseIO.delivers, hp]
    · cases hs : io.sendBuffer
      · simp [hfree, ResponseIO.delivers, hs]
      · by_cases hb : io.publish < 0 <;>
          simp [hfree, hmembers, ResponseIO.delivers, responseMembers, hc, hp, hs, hb]

end

/-! ### Commands -/

/-- The node of the command id in a command. -/
def Command.idNode [CJsonParser] (c : Command) : Option CJson :=
  getObjectItem (parsePayload c.payload) "commandId"

/-- The board after the command id of a command is saved. -/
def saved [CJsonParser] [NullText] (c : Command) (m : Mcu) : Mcu :=
  match c.idNode with
  | none => m
  | some node => saveCommandId c.rio node m

/-- The world after a command. -/
def Command.effect [CJsonParser] [TimeoutCalc] (c : Command) (w : World) : World :=
  match c.topic with
  | .deviceControl => devControlEffect c.tio c.payload w
  | .thresholdSet => thresholdsEffect c.payload w

/-- What the handler of a command does: it saves the id, changes the world, and publishes a
response with the saved id. -/
theorem handleCommand_eq [CJsonParser] [TimeoutCalc] [NullText] (c : Command) (m : Mcu) :
    handleCommand c m =
      (if c.rio.delivers then
          some (.object (responseMembers c.topic.message c.rio (saved c m).savedId))
        else none,
        { saved c m with
            world := c.effect m.world
            ops := (saved c m).ops ++ uuidOps c.rio (saved c m).uuid }) := by
  have hworld : ∀ node, (saveCommandId c.rio node m).world = m.world := by
    intro node
    unfold saveCommandId
    split <;> rfl
  obtain ⟨topic, payload, tio, rio⟩ := c
  -- The two handlers differ in the keys and in the text, and not in their shape.
  cases topic <;> cases hroot : parsePayload payload with
  | none =>
    simp only [handleCommand, mqttDevControlCallback, mqttThresholdsCallback,
      publishDeviceResponse, publishThresholdsResponse, hroot]
    refine (publishResponse_eq _ rio m).trans ?_
    simp [saved, Command.idNode, Command.effect, devControlEffect, thresholdsEffect, hroot,
      Topic.message]
  | some root =>
    simp only [handleCommand, mqttDevControlCallback, mqttThresholdsCallback,
      publishDeviceResponse, publishThresholdsResponse, hroot]
    refine (publishResponse_eq _ rio _).trans ?_
    cases hid : getObjectItem (some root) "commandId" with
    | none =>
      simp [saved, Command.idNode, Command.effect, devControlEffect, thresholdsEffect, hroot,
        onCommandId, hid, Topic.message, Mcu.savedId]
    | some node =>
      simp [saved, Command.idNode, Command.effect, devControlEffect, thresholdsEffect, hroot,
        onCommandId, hid, Topic.message, Mcu.savedId, hworld node]

end SmartBuilding
