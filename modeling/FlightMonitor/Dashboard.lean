import Mathlib.Data.String.Basic
import FlightMonitor.Groups
import FlightMonitor.Sweeper

/-! The dashboard (`app/api/dashboard.py`): the status of a session and the JSON snapshot of
the sessions by zone. -/
namespace FlightMonitor
open PyValue IsoTime

inductive SessionStatus where
  | exitRequested
  | flying
  | landed
  | waiting
  | active
  deriving DecidableEq, Repr

inductive SessionFlag where
  | pastDeadline
  | stranded
  deriving DecidableEq, Repr

-- A date-time is kept as its instant: only differences are taken.
def parseIsoUtc (value : Option String) : Option Int := parsedInstant value

def secondsSince (now : UtcTime) (lastSeen : String) : Option PyFloat :=
  (parseIsoUtc (some lastSeen)).map (fun seen => .finite ((now.instant - seen : Int) / 1000000))

def DroneState.openSegment (state : DroneState) : Option FlightSegment :=
  state.segments.getLast?.filter (fun segment => segment.timeOutUtc.isNone)

def classifySessionStatus (session : ActiveFlightSession) (state : Option DroneState) :
    SessionStatus :=
  if session.exitRequestedAt.isSome then .exitRequested else
    match state with
    | none => .waiting
    | some state =>
      if state.openSegment.isSome then .flying
      else if state.armedFieldSeen then .landed
      else .active

structure DashboardLive where
  hasTelemetry : Bool
  lastSeen : String
  secondsSinceLastSeen : Option PyFloat
  altitudeM : Json
  voltageV : Option PyFloat
  distanceFlownM : PyFloat
  completedSegments : Nat
  currentSegmentOpen : Bool

structure SessionEntry where
  flightSessionId : String
  droneId : Option String
  pilotId : Option String
  registeredAt : String
  requestedEntryTime : Option String
  requestedExitTime : Option String
  exitRequestedAt : Option String
  exitDeadlineBreachedAt : Option String
  strandedFlaggedAt : Option String
  status : SessionStatus
  flags : List SessionFlag
  live : Option DashboardLive

def buildDashboardLive (state : DroneState) (now : UtcTime) : DashboardLive where
  hasTelemetry := true
  lastSeen := state.lastSeen
  secondsSinceLastSeen := secondsSince now state.lastSeen
  altitudeM := (state.position.map Position.altitude).getD .null
  voltageV := state.voltageOut
  distanceFlownM := state.distanceFlownM
  completedSegments := state.segments.countP (fun segment => segment.timeOutUtc.isSome)
  currentSegmentOpen := state.openSegment.isSome

def buildSessionEntry (session : ActiveFlightSession) (state : Option DroneState)
    (now : UtcTime) : SessionEntry where
  flightSessionId := session.flightSessionId
  droneId := session.droneId
  pilotId := session.pilotId
  registeredAt := session.registeredAt
  requestedEntryTime := session.requestedEntryTime
  requestedExitTime := session.requestedExitTime
  exitRequestedAt := session.exitRequestedAt
  exitDeadlineBreachedAt := session.exitDeadlineBreachedAt
  strandedFlaggedAt := session.strandedFlaggedAt
  status := classifySessionStatus session state
  flags := (if session.exitDeadlineBreachedAt.isSome then [.pastDeadline] else []) ++
    if session.strandedFlaggedAt.isSome then [.stranded] else []
  live := state.map (fun state => buildDashboardLive state now)

def ActiveFlightSession.zoneKey (session : ActiveFlightSession) : String :=
  match session.sadeZoneId with
  | some zone => if zone = "" then "(unspecified)" else zone
  | none => "(unspecified)"

structure Zone where
  sadeZoneId : String
  sessions : List SessionEntry

structure DashboardSnapshot where
  reportTimeUtc : String
  strandedSilenceSeconds : Int
  forceCloseThresholdSeconds : Int
  activeSessions : Nat
  sessionsPastDeadline : Nat
  sessionsStranded : Nat
  zones : List Zone

def sessionsByZone (reg : ActiveSessionRegistry) (tracker : DroneStateTracker) (now : UtcTime) :
    Dict String (List SessionEntry) :=
  reg.snapshot.values.foldl (fun groups session => Groups.add groups session.zoneKey
    (buildSessionEntry session (tracker.get session.flightSessionId) now)) .empty

def buildDashboardSnapshot (reg : ActiveSessionRegistry) (tracker : DroneStateTracker)
    (now : UtcTime) : DashboardSnapshot where
  reportTimeUtc := isoformat now.val
  strandedSilenceSeconds := strandedSilenceThresholdSeconds
  forceCloseThresholdSeconds := forceCloseThresholdSeconds
  activeSessions := reg.count
  sessionsPastDeadline := reg.countPastDeadline
  sessionsStranded := reg.countStranded
  zones := (Groups.sorted (sessionsByZone reg tracker now)).map (fun zone => ⟨zone.1,zone.2⟩)

def DashboardSnapshot.entries (board : DashboardSnapshot) : List SessionEntry :=
  board.zones.flatMap Zone.sessions

def zonedEntries (reg : ActiveSessionRegistry) (tracker : DroneStateTracker) (now : UtcTime) :
    List (String × SessionEntry) :=
  reg.snapshot.values.map (fun session =>
    (session.zoneKey,buildSessionEntry session (tracker.get session.flightSessionId) now))

theorem sessionsByZoneGroup (reg : ActiveSessionRegistry) (tracker : DroneStateTracker)
    (now : UtcTime) :
    sessionsByZone reg tracker now = Groups.group (zonedEntries reg tracker now) := by
  rw [Groups.group,zonedEntries,List.foldl_map]
  rfl

theorem dashboardPartition (reg : ActiveSessionRegistry) (tracker : DroneStateTracker)
    (now : UtcTime) : ((buildDashboardSnapshot reg tracker now).zones.flatMap
      (fun zone => zone.sessions.map (fun entry => (zone.sadeZoneId,entry)))).Perm
        (zonedEntries reg tracker now) := by
  have spread := Groups.sortedSpread (zonedEntries reg tracker now)
  rw [← sessionsByZoneGroup] at spread
  simpa only [buildDashboardSnapshot,Groups.spread,List.flatMap_map] using spread

theorem dashboardEntries (reg : ActiveSessionRegistry) (tracker : DroneStateTracker)
    (now : UtcTime) : (buildDashboardSnapshot reg tracker now).entries.Perm
      (reg.snapshot.values.map (fun session =>
        buildSessionEntry session (tracker.get session.flightSessionId) now)) := by
  have entries := (dashboardPartition reg tracker now).map Prod.snd
  simpa [zonedEntries,DashboardSnapshot.entries,List.map_flatMap,Function.comp_def] using entries

theorem zonesStrict (reg : ActiveSessionRegistry) (tracker : DroneStateTracker) (now : UtcTime) :
    (buildDashboardSnapshot reg tracker now).zones.Pairwise
      (fun a b => a.sadeZoneId < b.sadeZoneId) :=
  List.pairwise_map.mpr (Groups.sortedStrict _)

theorem zonesInhabited {reg : ActiveSessionRegistry} {tracker : DroneStateTracker}
    {now : UtcTime} {zone : Zone} (mem : zone ∈ (buildDashboardSnapshot reg tracker now).zones) :
    zone.sessions ≠ [] := by
  obtain ⟨group,inside,rfl⟩ := List.mem_map.mp mem
  have found := Dict.memEntries.mp ((Groups.sortedPerm _).mem_iff.mp inside)
  rw [sessionsByZoneGroup] at found
  exact Groups.groupMembers _ found

end FlightMonitor
