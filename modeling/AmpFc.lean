import AmpFc.Lib.Execution
import AmpFc.Lib.Counter
import AmpFc.Lib.Scanning
import AmpFc.Lib.Numeral
import AmpFc.Common.Float
import AmpFc.Common.Single
import AmpFc.Common.Protocol
import AmpFc.Common.Ibus
import AmpFc.Firmware.State
import AmpFc.Firmware.Ibus
import AmpFc.Firmware.Bus
import AmpFc.Firmware.Sensors
import AmpFc.Firmware.ProbeSteps
import AmpFc.Firmware.SharedRegion
import AmpFc.Firmware.ArmGate
import AmpFc.Firmware.Control
import AmpFc.Firmware.Corrections
import AmpFc.Firmware.Pwm
import AmpFc.Firmware.Poll
import AmpFc.Firmware.MotorSafety
import AmpFc.Firmware.ArmHistory
import AmpFc.Firmware.EmergencyStop
import AmpFc.Linux.MailboxTransport
import AmpFc.System.EmergencyLatch
import AmpFc.Rt.FrameHistory
import AmpFc.Rt.Controller
import AmpFc.Rt.FlightRtNode
import AmpFc.Rt.NodeSteps
import AmpFc.Rt.NodeInvariants
import AmpFc.Rt.MotorOutput
import AmpFc.Rt.Arming
import AmpFc.Rt.CmdquTransport
import AmpFc.System.CommandChannel
import AmpFc.System.Restarts
import AmpFc.System.StopOrder
import AmpFc.Rt.Doorbells
import AmpFc.Common.IbusCodec
import AmpFc.Firmware.IbusStream
import AmpFc.Firmware.Noninterference
import AmpFc.Firmware.Reports
import AmpFc.Linux.RegionBackend
import AmpFc.Rt.Stage3
import AmpFc.System.Stage3Agreement
import AmpFc.Lib.Mailbox
import AmpFc.Linux.TelemetryNode
import AmpFc.Linux.RcOutages
import AmpFc.System.PollInterleaving
import AmpFc.Firmware.ControlBounds
import AmpFc.System.ConfigAgreement
import AmpFc.Firmware.ConfigGains
import AmpFc.Firmware.IbusResync
import AmpFc.Rt.ReceiverResync
import AmpFc.Rt.FailsafeFrames
import AmpFc.Firmware.SensorFlags
import AmpFc.Firmware.BodyAngles
import AmpFc.Firmware.ImuConfiguration
import AmpFc.System.MixerRange
import AmpFc.Linux.ConfigText
import AmpFc.Linux.WholeNumerals
import AmpFc.Linux.ConfigLoad
import AmpFc.Linux.ConfigCycles
import AmpFc.System.GainRanges
import AmpFc.Lib.ShiftRegister
import AmpFc.Common.Checksum
import AmpFc.System.NegativeFeedback
import AmpFc.Rt.ControllerRuns
import AmpFc.Lib.Covariance
import AmpFc.Lib.Loop
import AmpFc.Rt.Estimator
import AmpFc.Rt.ThrottleCurve
import AmpFc.Rt.PwmBackend
import AmpFc.Lib.Fifo
import AmpFc.Lib.CellRing
import AmpFc.Lib.Grid
import AmpFc.Rt.DoorbellQueue
import AmpFc.Rt.ControlSchedule
import AmpFc.Rt.BoardClock
import AmpFc.Firmware.RootLoops
import AmpFc.Firmware.AngleOrder
import AmpFc.Lib.TwoWire
import AmpFc.Lib.ByteTarget
import AmpFc.Lib.RegisterBank
import AmpFc.Firmware.BitBang
import AmpFc.Firmware.BusWires
import AmpFc.Firmware.BusTransactions
import AmpFc.Firmware.OpenDrain
import AmpFc.Firmware.RegisterStore
import AmpFc.Lib.QueueApi
import AmpFc.Firmware.CommandMailbox
import AmpFc.Firmware.MailboxVisits
import AmpFc.Firmware.MailboxSteps
import AmpFc.Firmware.MailboxRuns
import AmpFc.Rt.ControllerFeedback
import AmpFc.Rt.BoardPwm
import AmpFc.Lib.History
import AmpFc.Rt.BoardI2c
import AmpFc.Rt.SensePath
import AmpFc.Rt.SenseBias
import AmpFc.System.FlightSystem
import AmpFc.System.ReportSlot
import AmpFc.System.StopChain
import AmpFc.Rt.SensedNode
import AmpFc.System.SensedRun
import AmpFc.Firmware.GyroBias
import AmpFc.System.GroundSystem
