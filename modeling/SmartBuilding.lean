import SmartBuilding.Lib.EventMachine
import SmartBuilding.Lib.Interrupt
import SmartBuilding.Lib.Ledger
import SmartBuilding.Lib.Pager
import SmartBuilding.Lib.CText
import SmartBuilding.Lib.CInt
import SmartBuilding.Lib.Varint
import SmartBuilding.Lib.Memory
import SmartBuilding.Lib.Ring
import SmartBuilding.Lib.TopicFilter
import SmartBuilding.Lib.Binary64
import SmartBuilding.Lib.Strtod
import SmartBuilding.Lib.Printf
import SmartBuilding.Lib.Delimited
import SmartBuilding.DataUpload
import SmartBuilding.HwTimer
import SmartBuilding.TimerPeriod
import SmartBuilding.Board
import SmartBuilding.MultiThread
import SmartBuilding.PwmCtrlDoor
import SmartBuilding.File
import SmartBuilding.FileAccess
import SmartBuilding.Telemetry
import SmartBuilding.CJson
import SmartBuilding.CJsonText
import SmartBuilding.CJsonPrint
import SmartBuilding.Mqtt.Handlers
import SmartBuilding.Mqtt.Response
import SmartBuilding.Mqtt.Status
import SmartBuilding.Mqtt.Client
import SmartBuilding.Mqtt.Packet
import SmartBuilding.Mqtt.Serialize
import SmartBuilding.Mqtt.Publish
import SmartBuilding.Mqtt.PublishMemory
import SmartBuilding.Mqtt.Format
import SmartBuilding.AutoControl
import SmartBuilding.Tcp
import SmartBuilding.TcpSession
import SmartBuilding.Controller
import SmartBuilding.Ringbuffer
import SmartBuilding.Pipe
import SmartBuilding.Mqtt.Topic
import SmartBuilding.Mqtt.Subscribe
import SmartBuilding.Mqtt.PubPipe
import SmartBuilding.Mqtt.Cycle
import SmartBuilding.Proofs.Actuators
import SmartBuilding.Proofs.HwTimer
import SmartBuilding.Proofs.Handlers
import SmartBuilding.Proofs.AutoControl
import SmartBuilding.Proofs.Controller
import SmartBuilding.Proofs.Emergency
import SmartBuilding.Proofs.Door
import SmartBuilding.Proofs.Alarms
import SmartBuilding.Proofs.Mirror
import SmartBuilding.Proofs.Reports
import SmartBuilding.Proofs.Settle
import SmartBuilding.Proofs.Splitter
import SmartBuilding.Proofs.StatusSync
import SmartBuilding.Proofs.SyncSplit
import SmartBuilding.Proofs.TempLimit
import SmartBuilding.Proofs.Redelivery
import SmartBuilding.Proofs.Flashing
import SmartBuilding.Proofs.RemoteCommand
import SmartBuilding.Proofs.AlarmStart
import SmartBuilding.Proofs.TimerPeriod
import SmartBuilding.Proofs.Client
import SmartBuilding.Proofs.Packet
import SmartBuilding.Proofs.Publish
import SmartBuilding.Proofs.PublishMemory
import SmartBuilding.Proofs.Format
import SmartBuilding.Proofs.CJsonText
import SmartBuilding.Proofs.CJsonPrint
import SmartBuilding.Proofs.Response
import SmartBuilding.Proofs.Acknowledge
import SmartBuilding.Proofs.CommandId
import SmartBuilding.Proofs.Silence
import SmartBuilding.Proofs.File
import SmartBuilding.Proofs.Pager
import SmartBuilding.Proofs.FileAccess
import SmartBuilding.Proofs.Telemetry
import SmartBuilding.Proofs.TcpSession
import SmartBuilding.Proofs.Ringbuffer
import SmartBuilding.Proofs.Pipe
import SmartBuilding.Proofs.Serialize
import SmartBuilding.Proofs.Topic
import SmartBuilding.Proofs.Subscribe
import SmartBuilding.Proofs.PubPipe
import SmartBuilding.Proofs.Cycle
