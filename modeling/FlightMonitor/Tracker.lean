import FlightMonitor.IsoTime
import FlightMonitor.PyValue

/-! The live per-session state (`app/monitoring/state_tracker.py`). `update` is written as
the source runs it: an exception in the middle leaves the fields assigned so far. Its parts
are `readings` before anything is stored, `create` for a new session, and `receive`, `leg`
and `accumulate` before, at and after the distance. -/
namespace FlightMonitor
open PyValue IsoTime

abbrev Members := List (String × Json)

structure Position where
  latitude : Json
  longitude : Json
  altitude : Json
  raw : Members

structure FlightSegment where
  timeInUtc : String
  timeOutUtc : Option String := none
  voltageIn : Option PyFloat := none
  voltageOut : Option PyFloat := none
  deriving DecidableEq, Repr

structure DroneState where
  flightSessionId : String
  droneId : Option String
  sessionSource : String
  firstSeen : String
  lastSeen : String
  latestRawMessage : Members
  latestParsedPayload : Members
  missionStatus : Json := .null
  mode : Json := .null
  position : Option Position := none
  startPosition : Option Position := none
  maxAltitude : Option PyFloat := none
  minAltitude : Option PyFloat := none
  voltageIn : Option PyFloat := none
  voltageOut : Option PyFloat := none
  distanceFlownM : PyFloat := .zero
  messageCount : Nat := 0
  rowWritten : Bool := false
  exitRequestedAt : Option String := none
  exitReason : Option String := none
  segments : List FlightSegment := []
  lastArmed : Option Bool := none
  armedFieldSeen : Bool := false

structure Telemetry where
  droneId : String
  sessionSource : String
  rawMessage : Members
  parsedPayload : Members
  missionStatus : Json
  mode : Json
  position : Option Position
  armed : Option Bool := none
  lastSeen : Option String := none

/-- `_haversine_m`. It computes with the trigonometric functions of the platform's floats,
and nothing outside it looks into how, so it stays a parameter. -/
abbrev Haversine := PyFloat → PyFloat → PyFloat → PyFloat → Except PyError PyFloat

def safeFloat (value : Json) : Except PyError (Option PyFloat) :=
  if value.isNull then .ok none else
    match toFloat value with
    | .ok x => .ok (some x)
    | .error (.valueError _) | .error .typeError => .ok none
    | .error e => .error e

def extractVoltage (payload : Members) : Except PyError (Option PyFloat) :=
  let status := (Json.member payload "status" .null).dictOrEmpty
  let battery := (Json.member status "battery" .null).dictOrEmpty
  safeFloat (if battery ≠ [] then Json.member battery "voltage" .null
    else Json.member status "voltage" (Json.member payload "voltage" .null))

def changeOpen (change : FlightSegment → FlightSegment) : List FlightSegment → List FlightSegment
  | [] => []
  | [segment] => [if segment.timeOutUtc = none then change segment else segment]
  | segment :: next :: rest => segment :: changeOpen change (next :: rest)

def measureOpen (voltage : Option PyFloat) (segments : List FlightSegment) : List FlightSegment :=
  match voltage with
  | some voltage => changeOpen (fun s => { s with voltageOut := some voltage }) segments
  | none => segments

def handleArmState (state : DroneState) (armed : Option Bool) (observedAt : String)
    (currentVoltage : Option PyFloat) : DroneState :=
  match armed with
  | none => state
  | some armed =>
    let arming := if armed ∧ state.lastArmed ≠ some true then
      state.segments ++ [⟨observedAt,none,currentVoltage,currentVoltage⟩] else state.segments
    let measured := measureOpen currentVoltage arming
    let segments := if ¬ armed ∧ state.lastArmed = some true then
      changeOpen (fun s => { s with timeOutUtc := some observedAt }) measured else measured
    { state with armedFieldSeen := true, segments := segments, lastArmed := some armed }

structure DroneStateTracker where
  states : Dict String DroneState
  filed : ∀ f s, states.get f = some s → s.flightSessionId = f

namespace DroneStateTracker

def empty : DroneStateTracker := ⟨Dict.empty,by simp⟩

def get (tracker : DroneStateTracker) (f : String) : Option DroneState := tracker.states.get f

def pop (tracker : DroneStateTracker) (f : String) : DroneStateTracker where
  states := tracker.states.erase f
  filed := by
    intro g s found
    rw [Dict.getErase] at found
    split at found
    · cases found
    · exact tracker.filed g s found

def put (tracker : DroneStateTracker) (state : DroneState) : DroneStateTracker where
  states := tracker.states.set state.flightSessionId state
  filed := by
    intro f s found
    rw [Dict.getSet] at found
    split at found
    · cases found; assumption
    · exact tracker.filed f s found

@[simp] theorem getEmpty (f : String) : empty.get f = none := rfl

@[simp] theorem getPop (tracker : DroneStateTracker) (f g : String) :
    (tracker.pop f).get g = if f = g then none else tracker.get g := Dict.getErase ..

@[simp] theorem getPut (tracker : DroneStateTracker) (state : DroneState) (f : String) :
    (tracker.put state).get f = if state.flightSessionId = f then some state else tracker.get f :=
  Dict.getSet ..

theorem stateFiled {tracker : DroneStateTracker} {f : String} {s : DroneState}
    (found : tracker.get f = some s) : s.flightSessionId = f := tracker.filed f s found

end DroneStateTracker

namespace Telemetry

def observedAt (u : Telemetry) (now : UtcTime) : String :=
  match u.lastSeen with
  | some stamp => if stamp = "" then isoformat now.val else stamp
  | none => isoformat now.val

def altitude (u : Telemetry) : Json := (u.position.map Position.altitude).getD .null

def readings (u : Telemetry) : Except PyError (Option PyFloat × Option PyFloat) := do
  let altitude ← safeFloat u.altitude
  let voltage ← extractVoltage u.parsedPayload
  .ok (altitude,voltage)

def create (u : Telemetry) (f observedAt : String) (altitude voltage : Option PyFloat) :
    DroneState where
  flightSessionId := f
  droneId := some u.droneId
  sessionSource := u.sessionSource
  firstSeen := observedAt
  lastSeen := observedAt
  latestRawMessage := u.rawMessage
  latestParsedPayload := u.parsedPayload
  missionStatus := u.missionStatus
  mode := u.mode
  position := u.position
  startPosition := u.position
  maxAltitude := altitude
  minAltitude := altitude
  voltageIn := voltage
  voltageOut := voltage
  messageCount := 1

def receive (u : Telemetry) (state : DroneState) (observedAt : String) : DroneState :=
  { state with
    lastSeen := observedAt
    latestRawMessage := u.rawMessage
    latestParsedPayload := u.parsedPayload
    missionStatus := u.missionStatus
    mode := u.mode }

end Telemetry

def leg (haversine : Haversine) (previous current : Option Position) :
    Except PyError (Option PyFloat) :=
  match previous,current with
  | some previous,some current => do
      let prevLat ← safeFloat previous.latitude
      let prevLon ← safeFloat previous.longitude
      let newLat ← safeFloat current.latitude
      let newLon ← safeFloat current.longitude
      match prevLat,prevLon,newLat,newLon with
      | some prevLat,some prevLon,some newLat,some newLon =>
          let metres ← haversine prevLat prevLon newLat newLon
          .ok (some metres)
      | _,_,_,_ => .ok none
  | _,_ => .ok none

def keepReading (combine : PyFloat → PyFloat → PyFloat) (kept reading : Option PyFloat) :
    Option PyFloat :=
  match reading,kept with
  | none,_ => kept
  | some x,none => some x
  | some x,some k => some (combine k x)

def Telemetry.accumulate (u : Telemetry) (state : DroneState) (metres : Option PyFloat)
    (altitude voltage : Option PyFloat) : DroneState :=
  { state with
    distanceFlownM := match metres with
      | some d => PyFloat.add state.distanceFlownM d
      | none => state.distanceFlownM
    position := u.position
    messageCount := state.messageCount + 1
    startPosition := match state.startPosition with
      | none => u.position
      | some start => some start
    maxAltitude := keepReading PyFloat.max state.maxAltitude altitude
    minAltitude := keepReading PyFloat.min state.minAltitude altitude
    voltageIn := keepReading (fun k _ => k) state.voltageIn voltage
    voltageOut := keepReading (fun _ x => x) state.voltageOut voltage }

def DroneStateTracker.update (haversine : Haversine) (tracker : DroneStateTracker) (f : String)
    (u : Telemetry) (now : UtcTime) : DroneStateTracker × Except PyError DroneState :=
  let observedAt := u.observedAt now
  match u.readings with
  | .error e => (tracker,.error e)
  | .ok (altitude,voltage) =>
    match tracker.get f with
    | none =>
      let state := handleArmState (u.create f observedAt altitude voltage) u.armed observedAt voltage
      (tracker.put state,.ok state)
    | some existing =>
      let received := u.receive existing observedAt
      match leg haversine existing.position u.position with
      | .error e => (tracker.put received,.error e)
      | .ok metres =>
        let state := handleArmState (u.accumulate received metres altitude voltage) u.armed
          observedAt voltage
        (tracker.put state,.ok state)

/-! The fields an update leaves alone, and the one it always writes. -/

@[simp] theorem handleArmStateFlightSessionId (s : DroneState) (armed stamp voltage) :
    (handleArmState s armed stamp voltage).flightSessionId = s.flightSessionId := by
  cases armed <;> rfl

@[simp] theorem handleArmStateLastSeen (s : DroneState) (armed stamp voltage) :
    (handleArmState s armed stamp voltage).lastSeen = s.lastSeen := by
  cases armed <;> rfl

@[simp] theorem handleArmStateFirstSeen (s : DroneState) (armed stamp voltage) :
    (handleArmState s armed stamp voltage).firstSeen = s.firstSeen := by
  cases armed <;> rfl

@[simp] theorem handleArmStateExit (s : DroneState) (armed stamp voltage) :
    (handleArmState s armed stamp voltage).exitRequestedAt = s.exitRequestedAt ∧
    (handleArmState s armed stamp voltage).exitReason = s.exitReason := by
  cases armed <;> exact ⟨rfl,rfl⟩

@[simp] theorem handleArmStatePosition (s : DroneState) (armed stamp voltage) :
    (handleArmState s armed stamp voltage).position = s.position ∧
    (handleArmState s armed stamp voltage).distanceFlownM = s.distanceFlownM := by
  cases armed <;> exact ⟨rfl,rfl⟩

theorem DroneStateTracker.updateCases (haversine : Haversine) (tracker : DroneStateTracker)
    (f : String) (u : Telemetry) (now : UtcTime) :
    (∃ e, u.readings = .error e ∧ tracker.update haversine f u now = (tracker,.error e)) ∨
    ∃ state outcome r, u.readings = .ok r ∧
      tracker.update haversine f u now = (tracker.put state,outcome) ∧
      state.flightSessionId = f ∧ state.lastSeen = u.observedAt now ∧
      (∀ s, outcome = .ok s → s = state) ∧
      state.exitRequestedAt = (tracker.get f).bind DroneState.exitRequestedAt ∧
      state.exitReason = (tracker.get f).bind DroneState.exitReason := by
  unfold update
  cases read : u.readings with
  | error e => exact .inl ⟨e,rfl,rfl⟩
  | ok r =>
    obtain ⟨altitude,voltage⟩ := r
    refine .inr ?_
    cases found : tracker.get f with
    | none => exact ⟨_,_,_,rfl,rfl,by simp [Telemetry.create],by simp [Telemetry.create],by simp,
        by simp [Telemetry.create],by simp [Telemetry.create]⟩
    | some existing =>
      have filed := stateFiled found
      dsimp only
      cases leg haversine existing.position u.position with
      | error e => exact ⟨_,_,_,rfl,rfl,filed,rfl,by simp,rfl,rfl⟩
      | ok metres => exact ⟨_,_,_,rfl,rfl,by simp [Telemetry.accumulate,Telemetry.receive,filed],
          by simp [Telemetry.accumulate,Telemetry.receive],by simp,
          by simp [Telemetry.accumulate,Telemetry.receive],
          by simp [Telemetry.accumulate,Telemetry.receive]⟩

theorem updateStores {u : Telemetry} {r : Option PyFloat × Option PyFloat}
    (read : u.readings = .ok r) (haversine : Haversine) (tracker : DroneStateTracker) (f : String)
    (now : UtcTime) : ∃ state, (tracker.update haversine f u now).1.get f = some state := by
  rcases tracker.updateCases haversine f u now with ⟨e,failed,-⟩ | ⟨state,_,_,-,done,filed,-⟩
  · rw [read] at failed; cases failed
  · exact ⟨state,by rw [done,DroneStateTracker.getPut,if_pos filed]⟩

end FlightMonitor
