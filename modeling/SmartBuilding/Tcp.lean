import SmartBuilding.Board
import SmartBuilding.Lib.CText

/-!
# `SmartBuilding.Tcp`: the commands of the TCP console

What one received packet does to the world, as in the loop of `my_tcp_control` in
`applications/src/my_TCP.c`. The console writes the two LED pins and the two limits that
only it writes. The other commands send log records or reset a log position, and leave the
world alone.

The result is `none` where the code leaves its arrays or reads through a null pointer: the
copy into `temp_recv_comm` must fit 50 bytes, the tokens and the null pointer after them
must fit the 5 slots of `strtok_str`, and the compared tokens must not be null.
-/

set_option autoImplicit false

namespace SmartBuilding

open CText

/-- `set_temp_limit` of `my_dht11.c`. -/
def setTempLimit (limit : UInt8) (w : World) : World := { w with tempLimit := limit }

/-- `set_light_limit` of `my_adc.c`. -/
def setLightLimit (limit : UInt32) (w : World) : World := { w with lightLimit := limit }

/-- `BUFSZ`: the size of the receive buffer. -/
def bufsz : Nat := 2048

/-- The size of `temp_recv_comm`. -/
def tempRecvCommSize : Nat := 50

/-- The number of slots of `strtok_str`. -/
def strtokStrSize : Nat := 5

/-- The tokens of a received text between colons, or `none` when the copy or the tokens do
not fit. -/
def splitCommand (recvData : List UInt8) : Option (List (List UInt8)) :=
  if recvData.length + 1 ≤ tempRecvCommSize then
    -- 58 is the colon.
    let r := strtok 58 false 0 recvData
    let tokens := r.1.map fun off => cString (r.2.drop off)
    if tokens.length + 1 ≤ strtokStrSize then some tokens else none
  else
    none

/-- The last branch of `my_tcp_control`: a command that sets a limit, or any other text. -/
def setCommand (recvData : List UInt8) (w : World) : Option World := do
  let strtokStr ← splitCommand recvData
  let command ← strtokStr[0]?
  if command = ofText "Set templimit" then do
    let value ← strtokStr[1]?
    some (setTempLimit (strtoul value).toUInt8 w)
  else if command = ofText "Set lightlimit" then do
    let value ← strtokStr[1]?
    some (setLightLimit (strtoul value) w)
  else
    some w

/-! ### The memory accesses of the last branch

`setCommand` gives no world where an access goes wrong. Here are the accesses one by one. -/

/-- An access of the last branch: a store to `temp_recv_comm`, a store to `strtok_str`, or a
pointer from `strtok_str` that `strcmp` or `strtoul` reads. -/
inductive SplitAccess where
  | copy (index : Nat)
  | slot (index : Nat)
  | read (token : Option (List UInt8))

/-- The access stays inside its array, or its pointer is not null. -/
def SplitAccess.InBounds : SplitAccess → Prop
  | .copy index => index < tempRecvCommSize
  | .slot index => index < strtokStrSize
  | .read token => token.isSome = true

/-- The stores to `strtok_str`, with their slots: the tokens, and the null pointer after
them. `strtok_index` is a `uint8_t`. -/
def strtokStores (recvData : List UInt8) : List (Option (List UInt8) × Nat) :=
  let r := strtok 58 false 0 recvData
  let tokens := r.1.map fun off => some (cString (r.2.drop off))
  (tokens ++ [none]).zipIdx.map fun (token, index) => (token, index % 256)

/-- The pointer in a slot after the stores. The last store to the slot counts. -/
def strtokSlot (recvData : List UInt8) (index : Nat) : Option (List UInt8) :=
  ((strtokStores recvData).reverse.find? fun store => store.2 = index).bind (·.1)

/-- The pointers that `strcmp` and `strtoul` read, in order. -/
def strtokReads (recvData : List UInt8) : List (Option (List UInt8)) :=
  let strtokStr := strtokSlot recvData
  if strtokStr 0 = some (ofText "Set templimit") then
    [strtokStr 0, strtokStr 1]
  else if strtokStr 0 = some (ofText "Set lightlimit") then
    [strtokStr 0, strtokStr 0, strtokStr 1]
  else
    [strtokStr 0, strtokStr 0]

/-- The accesses of the last branch on the text `recvData`: `strcpy` with the final NUL, the
stores of the `strtok` loop, and the reads of the tokens. -/
def splitAccesses (recvData : List UInt8) : List SplitAccess :=
  (List.range (recvData.length + 1)).map .copy ++
    (strtokStores recvData).map (fun store => .slot store.2) ++
    (strtokReads recvData).map .read

/-- `my_control_led` for LED0. -/
def controlLed0 (ledState : Level) (w : World) : World :=
  w.setPins fun p => { p with led0 := ledState }

/-- `my_control_led` for LED1. -/
def controlLed1 (ledState : Level) (w : World) : World :=
  w.setPins fun p => { p with led1 := ledState }

/-- What one received packet does to the world. -/
def myTcpControl (packet : List UInt8) (w : World) : Option World :=
  let recvData := cString packet
  -- `q` and `Q` end the connection.
  if recvData.head? = some 113 ∨ recvData.head? = some 81 then
    some w
  else if recvData = ofText "LED0 ON" then
    some (controlLed0 .low w)
  else if recvData = ofText "LED0 OFF" then
    some (controlLed0 .high w)
  else if recvData = ofText "LED1 ON" then
    some (controlLed1 .low w)
  else if recvData = ofText "LED1 OFF" then
    some (controlLed1 .high w)
  else if recvData = ofText "DHT11data Load" ∨ recvData = ofText "Lightdata Load"
      ∨ recvData = ofText "DHT11 file position reset"
      ∨ recvData = ofText "Light file position reset" then
    some w
  else
    setCommand recvData w

end SmartBuilding
