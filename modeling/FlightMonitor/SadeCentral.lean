import FlightMonitor.Dashboard

/-! The snapshot SADE Central polls (`app/api/sade_central.py`): one entry for each session,
with the counts by status and by flag that are taken on the way. -/
namespace FlightMonitor
open PyValue IsoTime

def allStatuses : List SessionStatus := [.exitRequested,.flying,.landed,.waiting,.active]

def allFlags : List SessionFlag := [.pastDeadline,.stranded]

structure LivePosition where
  latitude : Json
  longitude : Json
  altitudeM : Json

structure LiveBlock where
  lastSeen : String
  secondsSinceLastSeen : Option PyFloat
  position : Option LivePosition
  batteryVoltageV : Option PyFloat
  distanceFlownM : PyFloat
  currentlyArmed : Option Bool
  currentSegmentStartedAt : Option String

def livePosition (position : Position) : Option LivePosition :=
  if position.latitude.isNull && position.longitude.isNull && position.altitude.isNull then none
  else some ⟨position.latitude,position.longitude,position.altitude⟩

def buildLiveBlock (state : DroneState) (now : UtcTime) : LiveBlock where
  lastSeen := state.lastSeen
  secondsSinceLastSeen := secondsSince now state.lastSeen
  position := state.position.bind livePosition
  batteryVoltageV := state.voltageOut
  distanceFlownM := state.distanceFlownM
  currentlyArmed := if state.armedFieldSeen then some state.openSegment.isSome else none
  currentSegmentStartedAt :=
    if state.armedFieldSeen then state.openSegment.map FlightSegment.timeInUtc else none

structure SessionWindow where
  registeredAt : String
  requestedEntryTime : Option String
  requestedExitTime : Option String
  exitRequestedAt : Option String

structure DroneEntry where
  droneId : Option String
  flightSessionId : String
  pilotId : Option String
  organizationId : Option String
  sadeZoneId : Option String
  status : SessionStatus
  flags : List SessionFlag
  sessionWindow : SessionWindow
  live : Option LiveBlock

def buildDroneEntry (session : ActiveFlightSession) (state : Option DroneState) (now : UtcTime) :
    DroneEntry where
  droneId := session.droneId
  flightSessionId := session.flightSessionId
  pilotId := session.pilotId
  organizationId := session.organizationId
  sadeZoneId := session.sadeZoneId
  status := classifySessionStatus session state
  flags := (if session.exitDeadlineBreachedAt.isSome then [.pastDeadline] else []) ++
    if session.strandedFlaggedAt.isSome then [.stranded] else []
  sessionWindow := ⟨session.registeredAt,session.requestedEntryTime,session.requestedExitTime,
    session.exitRequestedAt⟩
  live := state.map (fun state => buildLiveBlock state now)

structure DroneSnapshot where
  reportTimeUtc : String
  activeDrones : Nat
  byStatus : Dict SessionStatus Nat
  byFlag : Dict SessionFlag Nat
  drones : List DroneEntry

structure DronePass where
  drones : List DroneEntry
  byStatus : Dict SessionStatus Nat
  byFlag : Dict SessionFlag Nat

def DronePass.start : DronePass where
  drones := []
  byStatus := ⟨allStatuses.map (fun status => (status,0)),by decide⟩
  byFlag := ⟨allFlags.map (fun flag => (flag,0)),by decide⟩

def DronePass.add (pass : DronePass) (entry : DroneEntry) : DronePass where
  drones := pass.drones ++ [entry]
  byStatus := Groups.bump pass.byStatus entry.status
  byFlag := entry.flags.foldl Groups.bump pass.byFlag

def dronePass (reg : ActiveSessionRegistry) (tracker : DroneStateTracker) (now : UtcTime) :
    DronePass :=
  reg.snapshot.values.foldl (fun pass session => DronePass.add pass
    (buildDroneEntry session (tracker.get session.flightSessionId) now)) DronePass.start

def buildDroneSnapshot (reg : ActiveSessionRegistry) (tracker : DroneStateTracker)
    (now : UtcTime) : DroneSnapshot :=
  let pass := dronePass reg tracker now
  ⟨isoformat now.val,pass.drones.length,pass.byStatus,pass.byFlag,pass.drones⟩

theorem passAdds (pass : DronePass) (entries : List DroneEntry) :
    entries.foldl DronePass.add pass = ⟨pass.drones ++ entries,
      Groups.tally pass.byStatus (entries.map DroneEntry.status),
      Groups.tally pass.byFlag (entries.flatMap DroneEntry.flags)⟩ := by
  induction entries generalizing pass with
  | nil => simp [Groups.tally]
  | cons entry entries ih =>
    rw [List.foldl_cons,ih]
    simp [DronePass.add,Groups.tally,List.foldl_append]

def droneEntries (reg : ActiveSessionRegistry) (tracker : DroneStateTracker) (now : UtcTime) :
    List DroneEntry :=
  reg.snapshot.values.map (fun session =>
    buildDroneEntry session (tracker.get session.flightSessionId) now)

theorem dronePassAdds (reg : ActiveSessionRegistry) (tracker : DroneStateTracker)
    (now : UtcTime) : dronePass reg tracker now = ⟨droneEntries reg tracker now,
      Groups.tally DronePass.start.byStatus
        ((droneEntries reg tracker now).map DroneEntry.status),
      Groups.tally DronePass.start.byFlag
        ((droneEntries reg tracker now).flatMap DroneEntry.flags)⟩ := by
  have pass : dronePass reg tracker now =
      (droneEntries reg tracker now).foldl DronePass.add DronePass.start := by
    rw [droneEntries,List.foldl_map]
    rfl
  rw [pass,passAdds]
  rfl

theorem dronesEntries (reg : ActiveSessionRegistry) (tracker : DroneStateTracker)
    (now : UtcTime) :
    (buildDroneSnapshot reg tracker now).drones = droneEntries reg tracker now := by
  simp only [buildDroneSnapshot,dronePassAdds]

theorem droneEntriesLength (reg : ActiveSessionRegistry) (tracker : DroneStateTracker)
    (now : UtcTime) : (droneEntries reg tracker now).length = reg.count := by
  simp [droneEntries,ActiveSessionRegistry.count,ActiveSessionRegistry.snapshot,Dict.values,
    Dict.size]

theorem statusTotal (reg : ActiveSessionRegistry) (tracker : DroneStateTracker) (now : UtcTime) :
    (buildDroneSnapshot reg tracker now).byStatus.values.sum = reg.count := by
  simp only [buildDroneSnapshot,dronePassAdds,Groups.sumTally,List.length_map,droneEntriesLength]
  exact Nat.zero_add _

theorem flagCounts (sessions : List ActiveFlightSession) (entry : ActiveFlightSession → DroneEntry)
    (flags : ∀ session, (entry session).flags =
      (if session.exitDeadlineBreachedAt.isSome then [.pastDeadline] else []) ++
        if session.strandedFlaggedAt.isSome then [.stranded] else []) :
    ((sessions.map entry).flatMap DroneEntry.flags).count .pastDeadline =
        sessions.countP (fun s => s.exitDeadlineBreachedAt.isSome) ∧
      ((sessions.map entry).flatMap DroneEntry.flags).count .stranded =
        sessions.countP (fun s => s.strandedFlaggedAt.isSome) := by
  induction sessions with
  | nil => exact ⟨rfl,rfl⟩
  | cons session sessions ih =>
    simp only [List.map_cons,List.flatMap_cons,List.count_append,List.countP_cons,flags,ih.1,ih.2]
    cases session.exitDeadlineBreachedAt <;> cases session.strandedFlaggedAt <;>
      simp [Nat.add_comm]

theorem flagTotal (reg : ActiveSessionRegistry) (tracker : DroneStateTracker) (now : UtcTime) :
    (buildDroneSnapshot reg tracker now).byFlag.get .pastDeadline = some reg.countPastDeadline ∧
      (buildDroneSnapshot reg tracker now).byFlag.get .stranded = some reg.countStranded := by
  have counts := flagCounts reg.snapshot.values (fun session =>
    buildDroneEntry session (tracker.get session.flightSessionId) now) (fun _ => rfl)
  have past : DronePass.start.byFlag.get .pastDeadline = some 0 := rfl
  have stranded : DronePass.start.byFlag.get .stranded = some 0 := rfl
  simp only [buildDroneSnapshot,dronePassAdds,Groups.tallyGet past,Groups.tallyGet stranded,
    Nat.zero_add,droneEntries,counts]
  exact ⟨rfl,rfl⟩

end FlightMonitor
