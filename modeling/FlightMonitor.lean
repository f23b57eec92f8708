import FlightMonitor.Dict
import FlightMonitor.Trace
import FlightMonitor.IsoTime
import FlightMonitor.PyValue
import FlightMonitor.Registry
import FlightMonitor.RegistryIndex
import FlightMonitor.Tracker
import FlightMonitor.Finalizer
import FlightMonitor.FlownIntervals
import FlightMonitor.Webhooks
import FlightMonitor.Sweeper
import FlightMonitor.Worker
import FlightMonitor.Service
import FlightMonitor.SessionMachine
import FlightMonitor.Reporting
import FlightMonitor.LiveStates
import FlightMonitor.Stamps
import FlightMonitor.ExitIntent
import FlightMonitor.ForceClose
import FlightMonitor.Roster
import FlightMonitor.Tasks
import FlightMonitor.GracePeriod
import FlightMonitor.Contract
import FlightMonitor.Posting
import FlightMonitor.Undelivered
import FlightMonitor.Draining
import FlightMonitor.Backstop
import FlightMonitor.ExitOwners
import FlightMonitor.StaleTasks
import FlightMonitor.Backlog
import FlightMonitor.Arrivals
import FlightMonitor.Isolation
import FlightMonitor.Reception
import FlightMonitor.Startup
import FlightMonitor.UtcZ
import FlightMonitor.Distance
import FlightMonitor.Blocking
import FlightMonitor.Chronicle
import FlightMonitor.TimeWindows
import FlightMonitor.Groups
import FlightMonitor.Dashboard
import FlightMonitor.SadeCentral
import FlightMonitor.Snapshots
import FlightMonitor.StubOverrides
import FlightMonitor.FirstSweep
import FlightMonitor.Updates
import FlightMonitor.Accumulation
import FlightMonitor.SegmentVoltage
import FlightMonitor.SessionModes
import FlightMonitor.FailedMessages
import FlightMonitor.MissionRows
import FlightMonitor.ServiceRows
import FlightMonitor.GreatCircle
import FlightMonitor.FiniteReports
import FlightMonitor.Sphere
import FlightMonitor.ExactDistance
import FlightMonitor.Summary
import FlightMonitor.PipelineMetrics
import FlightMonitor.Accounting
import FlightMonitor.Csv
import FlightMonitor.MissionCsv
import FlightMonitor.LocalSessions
import FlightMonitor.Departures
import FlightMonitor.Deadline
import FlightMonitor.Watchdog
import FlightMonitor.Displacement
import FlightMonitor.Delimited
import FlightMonitor.Topics
import FlightMonitor.Endpoints
import FlightMonitor.EntrySessions
import FlightMonitor.Sequential
import FlightMonitor.Shutdown
import FlightMonitor.Supervision
