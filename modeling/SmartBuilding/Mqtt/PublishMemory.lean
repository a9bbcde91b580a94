import SmartBuilding.Mqtt.Publish

/-!
# `SmartBuilding.Mqtt.PublishMemory`: the blocks of a publisher, one by one

`SmartBuilding.Mqtt.Publish` has one block for the whole object of a message. Here each
member of the object has its own blocks: the node, the copy of its string and its key. The
functions of cJSON that make, attach and delete a node are here with all their exits.

`Publication.memoryOps` is the ledger of a publisher over these blocks, for any answers of
the allocator. It follows the same exits as `build` and `Publication.publish`. The buffer in
which cJSON prints never leaves `cJSON_PrintUnformatted`, so only the print is a block.
-/

set_option autoImplicit false

namespace SmartBuilding

open CText Ledger

/-- A heap block of a publisher: the root node, the blocks of the member with the number `i`,
the print and the buffer. -/
inductive HeapBlock where
  | root
  | item (i : Nat)
  | valuestring (i : Nat)
  | key (i : Nat)
  | msgStr
  | sendBuffer
  deriving DecidableEq, Repr

/-- The answers to the allocations for one member. -/
structure MemberIO where
  item : Bool
  valuestring : Bool
  key : Bool

/-- The answers of the allocator while a publisher runs, and the result of `mqtt_publish`. -/
structure MemoryIO where
  createObject : Bool
  member : Nat → MemberIO
  print : Bool
  sendBuffer : Bool
  publish : Int32

/-! ### Members -/

/-- `cJSON_CreateNumber`, `cJSON_CreateBool` and `cJSON_CreateString`: whether there is a
node, and the ledger. -/
def createItem (i : Nat) (f : Field) (io : MemberIO) : Bool × List (Op HeapBlock) :=
  if !io.item then (false, [])
  else
    match f with
    | .number _ _ => (true, [.acquire (.item i)])
    | .bool _ _ => (true, [.acquire (.item i)])
    -- `cJSON_strdup` of a null string is null, like a copy without memory.
    | .string _ none => (false, [.acquire (.item i), .release (.item i)])
    | .string _ (some _) =>
        if io.valuestring then (true, [.acquire (.item i), .acquire (.valuestring i)])
        else (false, [.acquire (.item i), .release (.item i)])

/-- `cJSON_Delete` of one node: its string, its key and the node itself. `keyed` says that
the node has a key. -/
def deleteItem (i : Nat) (f : Field) (keyed : Bool) : List (Op HeapBlock) :=
  (match f with
    | .string _ (some _) => [.release (.valuestring i)]
    | _ => []) ++
  (if keyed then [.release (.key i)] else []) ++ [.release (.item i)]

/-- `cJSON_AddNumberToObject`, `cJSON_AddBoolToObject` and `cJSON_AddStringToObject`: whether
the object has the member, and the ledger. -/
def addItem (i : Nat) (f : Field) (io : MemberIO) : Bool × List (Op HeapBlock) :=
  let (created, ops) := createItem i f io
  if !created then (false, ops)
  else if io.key then (true, ops ++ [.acquire (.key i)])
  else (false, ops ++ deleteItem i f false)

/-- The part of `cJSON_Delete(root)` for one member: it deletes the node when the object has
it. -/
def deleteMember (i : Nat) (f : Field) (io : MemberIO) : List (Op HeapBlock) :=
  if (addItem i f io).1 then deleteItem i f true else []

/-- The calls that add the members, from the number `k` on. -/
def addItems (io : Nat → MemberIO) (k : Nat) (fields : List Field) : List (Op HeapBlock) :=
  (fields.zipIdx k).flatMap fun f => (addItem f.2 f.1 (io f.2)).2

/-- The deletions of the members, from the number `k` on. -/
def deleteMembers (io : Nat → MemberIO) (k : Nat) (fields : List Field) :
    List (Op HeapBlock) :=
  (fields.zipIdx k).flatMap fun f => deleteMember f.2 f.1 (io f.2)

/-- `cJSON_Delete(root)`: the members come before the root. -/
def cJSONDelete (io : Nat → MemberIO) (fields : List Field) : List (Op HeapBlock) :=
  deleteMembers io 0 fields ++ [.release .root]

/-! ### Publishers -/

/-- The answers as `SmartBuilding.Mqtt.Publish` has them: one for each member. -/
def MemoryIO.toPublishIO (io : MemoryIO) (fields : List Field) : PublishIO where
  createObject := io.createObject
  add i := (fields[i]?.map fun f => (addItem i f (io.member i)).1).getD true
  print := io.print
  sendBuffer := io.sendBuffer
  publish := io.publish

/-- The ledger of the text that the six builders share. -/
def buildOps [CJsonPrinter] (fields : List Field) (io : MemoryIO) : List (Op HeapBlock) :=
  if !io.createObject then []
  else if !io.print then
    [.acquire .root] ++ addItems io.member 0 fields ++ cJSONDelete io.member fields
  else
    let root := rootObject fields (io.toPublishIO fields).add
    let msgStr := cString (CJsonPrinter.cJSONPrintUnformatted root)
    if rtMalloc io.sendBuffer msgStr.length then
      [.acquire .root] ++ addItems io.member 0 fields ++
        [.acquire .msgStr, .acquire .sendBuffer] ++ cJSONDelete io.member fields ++
        [.release .msgStr]
    else
      [.acquire .root] ++ addItems io.member 0 fields ++ [.acquire .msgStr]

/-- The ledger of a publisher. -/
def Publication.memoryOps [CJsonPrinter] (p : Publication) (io : MemoryIO) :
    List (Op HeapBlock) :=
  let built := p.builder (io.toPublishIO p.fields)
  buildOps p.fields io ++
    (if built.result < 0 then [] else [.use .sendBuffer]) ++
    (if built.outBuff.isSome then [.release .sendBuffer] else [])

/-- The block of `SmartBuilding.Mqtt.Publish` for a heap block. The blocks of the members are
not among them. -/
def HeapBlock.publishBlock : HeapBlock → Option PublishBlock
  | .root => some .root
  | .msgStr => some .msgStr
  | .sendBuffer => some .sendBuffer
  | _ => none

end SmartBuilding
