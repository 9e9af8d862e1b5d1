import TrafficLight.Runs
import TrafficLight.Fifo
import TrafficLight.Protocol
import TrafficLight.CrossingMachine
import TrafficLight.CrossingOutcomes
import TrafficLight.CrossingCalls
import TrafficLight.CrossingRuns
import TrafficLight.CrossingInvariant
import TrafficLight.StaleTimers
import TrafficLight.TrainDisplay
import TrafficLight.CrossingTrains
import TrafficLight.CrossingGate
import TrafficLight.Slots
import TrafficLight.RailSimulator
import TrafficLight.Decimal
import TrafficLight.SimCommands
import TrafficLight.SimPending
import TrafficLight.SimTimers
import TrafficLight.SimTrains
import TrafficLight.SimInvariant
import TrafficLight.TrackAdmission
import TrafficLight.TrainRows
import TrafficLight.GateMovement
import TrafficLight.GateTimeouts
import TrafficLight.TrainOrder
import TrafficLight.TrainTiming
import TrafficLight.WarningTime
import TrafficLight.Telemetry
import TrafficLight.CentralMonitor
import TrafficLight.CentralCommands
import TrafficLight.CentralFrames
import TrafficLight.TruncatedReplies
import TrafficLight.CompactFrames
import TrafficLight.CentralLink
import TrafficLight.LinkRequests
import TrafficLight.LocalData
import TrafficLight.LocalTraffic
import TrafficLight.SignalFrame
import TrafficLight.LocalMessages
import TrafficLight.LocalCore
import TrafficLight.CommandAgreement
import TrafficLight.SimLanguage
import TrafficLight.TrainCommands
import TrafficLight.RingQueue
import TrafficLight.CommandQueue
import TrafficLight.QueueOperations
import TrafficLight.CommandAdmission
import TrafficLight.QueueOrder
import TrafficLight.CommandCycles
import TrafficLight.AllOrNothing
import TrafficLight.CommandBooks
import TrafficLight.OperatorRequests
import TrafficLight.OperatorCommands
import TrafficLight.SchedulePolicy
import TrafficLight.DailySchedule
import TrafficLight.ScheduleFile
import TrafficLight.Histories
import TrafficLight.OperatorPrecedence
import TrafficLight.OperatorHold
import TrafficLight.StatusSequence
import TrafficLight.HistoryRing
import TrafficLight.StatusHistory
import TrafficLight.StatusDelivery
import TrafficLight.FailsafeAlarm
import TrafficLight.ModeRegime
import TrafficLight.OverlayReturn
import TrafficLight.FailsafeLatch
import TrafficLight.SimulationControl
import TrafficLight.SignalMachine
import TrafficLight.SignalView
import TrafficLight.SignalRefinement
import TrafficLight.SignalInvariant
import TrafficLight.SignalChanges
import TrafficLight.LocalSafety
import TrafficLight.LocalCommands
import TrafficLight.ClearingYellow
import TrafficLight.LampSequence
import TrafficLight.RailwayHold
import TrafficLight.GreenPlan
import TrafficLight.GreenTransfer
import TrafficLight.FreeRun
import TrafficLight.CoordinationLanding
import TrafficLight.PedestrianService
import TrafficLight.LocalProfile
import TrafficLight.SensorIndependence
import TrafficLight.RailwayLink
import TrafficLight.LocalMeters
import TrafficLight.LocalReports
import TrafficLight.Countdown
import TrafficLight.ConsoleCommands
import TrafficLight.FaultBoard
import TrafficLight.TrainReports
import TrafficLight.CentralReports
import TrafficLight.PeerThreads
import TrafficLight.EndpointFlags
import TrafficLight.HeartbeatGuard
import TrafficLight.FixedRate
import TrafficLight.HeartbeatGrid
import TrafficLight.TrainOutbox
import TrafficLight.RailwayNetwork
import TrafficLight.EventLog
import TrafficLight.FixedDelay
import TrafficLight.CoreClock
import TrafficLight.LinkFreshness
import TrafficLight.DisplayLink
import TrafficLight.NameTable
import TrafficLight.Endpoints
import TrafficLight.LineEditor
import TrafficLight.OperatorConsole
import TrafficLight.OperatorTerminal
import TrafficLight.LocalConsole
