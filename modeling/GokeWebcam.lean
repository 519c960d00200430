import GokeWebcam.Lib.Transition
import GokeWebcam.Lib.MaskedRing
import GokeWebcam.Lib.BoundedFifo
import GokeWebcam.Lib.Bisect
import GokeWebcam.Lib.CString
import GokeWebcam.Lib.SlotTable
import GokeWebcam.Lib.ByteMemory
import GokeWebcam.Lib.Shell
import GokeWebcam.Common.Misc
import GokeWebcam.Common.H264
import GokeWebcam.Common.H264Bounds
import GokeWebcam.Common.Message
import GokeWebcam.Common.MsgBuffer
import GokeWebcam.Common.MsgSlots
import GokeWebcam.Common.MsgBufferRefine
import GokeWebcam.Lib.BlockHeap
import GokeWebcam.Common.MsgCopy
import GokeWebcam.Common.MsgCopyRefine
import GokeWebcam.Common.CJson
import GokeWebcam.Common.JsonText
import GokeWebcam.Common.JsonArray
import GokeWebcam.Lib.Separated
import GokeWebcam.Lib.Decimal
import GokeWebcam.Common.JsonReader
import GokeWebcam.Common.JsonPrinter
import GokeWebcam.Common.Time
import GokeWebcam.Global.Interface
import GokeWebcam.Global.Config
import GokeWebcam.Global.ConfigFile
import GokeWebcam.Global.ConfigStore
import GokeWebcam.Server.Info
import GokeWebcam.Server.ControlMessages
import GokeWebcam.Manager.Config
import GokeWebcam.Manager.Timer
import GokeWebcam.Manager.Manager
import GokeWebcam.Manager.TimerOwnership
import GokeWebcam.Manager.FailRestart
import GokeWebcam.Manager.Sleep
import GokeWebcam.Manager.SchedulerWindow
import GokeWebcam.Manager.ExitTimers
import GokeWebcam.Server.MessageBlock
import GokeWebcam.Server.Loop
import GokeWebcam.Server.ChannelTable
import GokeWebcam.Server.Frame
import GokeWebcam.Server.Video
import GokeWebcam.Server.VideoRequests
import GokeWebcam.Server.VideoChannel
import GokeWebcam.Server.Audio
import GokeWebcam.Server.Goke
import GokeWebcam.Server.AudioChannel
import GokeWebcam.Server.AudioGate
import GokeWebcam.Server.Player
import GokeWebcam.Server.PlayerStatus
import GokeWebcam.Server.PlayerJobs
import GokeWebcam.Server.PlayerSync
import GokeWebcam.Server.PlayerCommands
import GokeWebcam.Server.Recorder
import GokeWebcam.Server.Aliyun
import GokeWebcam.Server.AliyunYield
import GokeWebcam.Server.AliyunCommand
import GokeWebcam.Server.ConfigProperty
import GokeWebcam.Server.ExitForward
import GokeWebcam.Server.ExitServers
import GokeWebcam.Device.Sd
import GokeWebcam.Device.SdHandshake
import GokeWebcam.Device.FileList
import GokeWebcam.Device.FileSearch
import GokeWebcam.Device.Directory
import GokeWebcam.Device.CleanDisk
import GokeWebcam.Device.Retention
import GokeWebcam.Device.FileManager
import GokeWebcam.Device.FileIndex
import GokeWebcam.Server.RecorderFile
import GokeWebcam.Server.RecorderStop
import GokeWebcam.Server.RecorderWindow
import GokeWebcam.Server.RecorderIndex
import GokeWebcam.Server.RecorderSlots
import GokeWebcam.Server.RecorderPlan
import GokeWebcam.Server.RecorderSamples
import GokeWebcam.Server.PlayerSamples
import GokeWebcam.Lib.Walk
import GokeWebcam.Server.PlayerTracks
import GokeWebcam.Server.RecorderPlayback
import GokeWebcam.Lib.Monitor
import GokeWebcam.Server.WakeUp
import GokeWebcam.Server.RecorderWakeUp
import GokeWebcam.Server.RecordingNames
import GokeWebcam.Server.DayListing
import GokeWebcam.Lib.Attempt
import GokeWebcam.Server.VideoHardware
import GokeWebcam.Server.Restart
import GokeWebcam.Server.RecorderTiming
import GokeWebcam.Server.BlockedQueue
import GokeWebcam.Manager.TimerTable
import GokeWebcam.Manager.TimerClock
import GokeWebcam.Server.AliyunService
import GokeWebcam.Server.WifiConfigure
import GokeWebcam.Server.HexText
import GokeWebcam.Server.WifiConnect
import GokeWebcam.Module.HiPtz
import GokeWebcam.Server.MotionPlan
import GokeWebcam.Server.PropertyReport
import GokeWebcam.Lib.RwLock
import GokeWebcam.Server.FileLock
import GokeWebcam.Server.RecordTypes
import GokeWebcam.Server.PlayerMain
import GokeWebcam.Lib.Schedule
import GokeWebcam.Server.PlayerList
import GokeWebcam.Server.PlayerPending
import GokeWebcam.Server.PlayerWindow
import GokeWebcam.Server.PlayerSeek
import GokeWebcam.Server.ExitAck
import GokeWebcam.Server.DeviceServer
import GokeWebcam.Server.Member
import GokeWebcam.Manager.Announce
import GokeWebcam.Webcam.Program
import GokeWebcam.Webcam.Members
import GokeWebcam.Webcam.ExitOrder
import GokeWebcam.Server.CloudConvergence
