import SmartBuilding.File
import SmartBuilding.Lib.EventMachine
import SmartBuilding.Lib.Ledger
import SmartBuilding.Tcp

/-!
# `SmartBuilding.TcpSession`: one call of `my_tcp_control`

`SmartBuilding.Tcp` says what a packet does to the world. This module is the call around it:
the buffer `recv_data`, the socket `sock`, the `recv` at the start of each pass of the loop,
and the `send` calls that answer a packet. The ledger `ops` has each use of the two
resources, in order.

What the network and the heap answer is an input. An answer of `send` below zero makes the
helper that called it close the socket and free the buffer. The six helpers of `my_TCP.c` do
this in the same way, and two of them have no caller.

The texts that are sent are left out, with the arrays in which the helpers format them.
-/

set_option autoImplicit false

namespace SmartBuilding

open CText

/-- What a call owns: the buffer `recv_data` and the socket `sock`. -/
inductive TcpResource where
  | recvData
  | sock
  deriving DecidableEq, Repr

/-- The call is in its loop, or it returned. It is `faulted` after undefined behaviour. -/
inductive TcpStatus where
  | running
  | returned
  | faulted
  deriving DecidableEq, Repr

/-- A call of `my_tcp_control`, with the two logs that it loads and the world. -/
structure TcpSession where
  status : TcpStatus
  ops : List (Ledger.Op TcpResource)
  dht11File : LogFile
  lightFile : LogFile
  world : World

namespace TcpSession

/-- Add entries to the ledger. -/
def record (ops : List (Ledger.Op TcpResource)) (s : TcpSession) : TcpSession :=
  { s with ops := s.ops ++ ops }

/-- `closesocket(sock)` and `rt_free(recv_data)`. -/
def closeAndFree (s : TcpSession) : TcpSession := s.record [.release .sock, .release .recvData]

/-- `break` and `return`. -/
def leave (s : TcpSession) : TcpSession := { s with status := .returned }

/-- Undefined behaviour. -/
def fault (s : TcpSession) : TcpSession := { s with status := .faulted }

end TcpSession

/-! ### Sending -/

/-- What a send helper does when `send` returns `ret`. -/
def sendOrClose (ret : Int) (s : TcpSession) : TcpSession :=
  let s := s.record [.use .sock]
  if ret < 0 then s.closeAndFree else s

/-- `my_send_msg`. -/
def mySendMsg (ret : Int) (s : TcpSession) : TcpSession := sendOrClose ret s

/-- `my_send_fp_reset_feedback`. -/
def mySendFpResetFeedback (ret : Int) (s : TcpSession) : TcpSession := sendOrClose ret s

/-- `my_send_DHT11data`. -/
def mySendDht11Data (ret : Int) (s : TcpSession) : TcpSession := sendOrClose ret s

/-- `my_send_Lightdata`. -/
def mySendLightdata (ret : Int) (s : TcpSession) : TcpSession := sendOrClose ret s

/-- A log reader hands `count` readings to its helper. It looks at no result. -/
def sendReadings (send : Int → TcpSession → TcpSession) (count : Nat) (sends : Nat → Int)
    (s : TcpSession) : TcpSession :=
  (List.range count).foldl (fun s i => send (sends i) s) s

/-! ### One pass of the loop -/

/-- The branches of the loop. -/
inductive TcpCommand where
  | quit
  | led
  | dht11Load
  | lightLoad
  | dht11Reset
  | lightReset
  | other
  deriving DecidableEq, Repr

/-- The branch that a received text takes. -/
def tcpCommand (recvData : List UInt8) : TcpCommand :=
  if recvData.head? = some 113 ∨ recvData.head? = some 81 then .quit
  else if recvData = ofText "LED0 ON" ∨ recvData = ofText "LED0 OFF"
      ∨ recvData = ofText "LED1 ON" ∨ recvData = ofText "LED1 OFF" then .led
  else if recvData = ofText "DHT11data Load" then .dht11Load
  else if recvData = ofText "Lightdata Load" then .lightLoad
  else if recvData = ofText "DHT11 file position reset" then .dht11Reset
  else if recvData = ofText "Light file position reset" then .lightReset
  else .other

/-- The answer to a packet. `sends` are the results of the `send` calls, and `line` is what
the array `line` of a log reader holds before the call. -/
def tcpAnswer (sends : Nat → Int) (line : List UInt8) (s : TcpSession) :
    TcpCommand → TcpSession
  | .quit => s.closeAndFree.leave
  | .led =>
      let s := mySendMsg (sends 0) s
      if sends 0 < 0 then s.leave else s
  | .dht11Load =>
      match readAndSendDht11Data line s.dht11File with
      | none => s.fault
      | some (f, readings) =>
          sendReadings mySendDht11Data readings.length sends { s with dht11File := f }
  | .lightLoad =>
      match readAndSendLightData line s.lightFile with
      | none => s.fault
      | some (f, readings) =>
          sendReadings mySendLightdata readings.length sends { s with lightFile := f }
  | .dht11Reset =>
      mySendFpResetFeedback (sends 0) { s with dht11File.lastPosition := 0 }
  | .lightReset =>
      mySendFpResetFeedback (sends 0) { s with lightFile.lastPosition := 0 }
  | .other => s

/-- One pass of the loop. `received` is what `recv` gives: `none` for an error, no bytes when
it returns 0, or a packet. -/
def tcpPass (received : Option (List UInt8)) (sends : Nat → Int) (line : List UInt8)
    (s : TcpSession) : TcpSession :=
  let s := s.record [.use .sock, .use .recvData]
  match received with
  | none => s.closeAndFree.leave
  | some [] => s.closeAndFree.leave
  | some packet =>
      let s := s.record [.use .recvData]
      match myTcpControl packet s.world with
      | none => s.fault
      | some w => tcpAnswer sends line { s with world := w } (tcpCommand (cString packet))

/-! ### A whole call -/

/-- What happens before the loop. -/
structure TcpStart where
  argc : Nat
  /-- `gethostbyname` finds the host. -/
  host : Bool
  malloc : Bool
  socket : Bool
  connect : Bool
  deriving DecidableEq, Repr

/-- `my_tcp_control` up to its loop. -/
def openSession (start : TcpStart) (dht11File lightFile : LogFile) (w : World) : TcpSession :=
  let s : TcpSession := ⟨.running, [], dht11File, lightFile, w⟩
  if start.argc < 3 then s.leave
  else if !start.malloc then s.leave
  else
    let s := s.record [.acquire .recvData]
    if !start.socket then (s.record [.release .recvData]).leave
    else
      let s := s.record [.acquire .sock]
      -- `host->h_addr` is read without a look at `host`.
      if !start.host then s.fault
      else
        let s := s.record [.use .sock]
        if !start.connect then s.closeAndFree.leave else s

/-- A pass of the loop, or something that the other threads do between two passes. -/
inductive TcpEvent where
  | pass (received : Option (List UInt8)) (sends : Nat → Int) (line : List UInt8)
  | writeDht11 (temp humi : UInt8)
  | writeLight (lightValue : UInt32)
  | setWorld (w : World)

/-- One event. After the loop no pass follows. -/
def tcpStep (s : TcpSession) : TcpEvent → TcpSession
  | .pass received sends line =>
      if s.status = .running then tcpPass received sends line s else s
  | .writeDht11 temp humi => { s with dht11File := writeDht11Data temp humi s.dht11File }
  | .writeLight value => { s with lightFile := writeLightData value s.lightFile }
  | .setWorld w => { s with world := w }

/-- A call as a machine. -/
def tcpSession : Machine TcpSession TcpEvent Unit where
  step := tcpStep
  out _ _ := []

end SmartBuilding
