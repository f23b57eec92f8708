import Mathlib.Data.Rat.Floor
import FlightMonitor.Registry
import FlightMonitor.Tracker

/-! One message through a telemetry worker (`app/ingestion/workers.py`) in aws mode, the
mode `run_service` forces. Between taking a message from the queue and asking for the
next one a worker never waits, so a message is one step. -/
namespace FlightMonitor
open PyValue IsoTime

structure Env where
  jsonLoads : String → Except PyError Json
  haversine : Haversine
  trackerFinalizedUrl : Option String
  queueSize : Nat

def orElse (a b : Json) : Json := if a.truthy then a else b

def extractDroneId (payload : Members) : Json :=
  let field := fun key => Json.member payload key .null
  orElse (field "drone_id") (orElse (field "droneId") (orElse (field "uavid")
    (orElse (field "uavID") (field "uav_id"))))

def statusOf (payload : Members) : Members := (Json.member payload "status" .null).dictOrEmpty

def extractPosition (payload : Members) : Option Position :=
  let location := (Json.member (statusOf payload) "location" .null).dictOrEmpty
  let lat := Json.member location "latitude" (Json.member location "lat" .null)
  let lon := Json.member location "longitude"
    (Json.member location "lon" (Json.member location "lng" .null))
  let alt := Json.member location "altitude" (Json.member location "alt" .null)
  if lat.isNull && lon.isNull && alt.isNull then none else some ⟨lat,lon,alt,location⟩

def extractMissionStatus (payload : Members) : Json :=
  Json.member payload "mission_status" (Json.member (statusOf payload) "status" .null)

def extractArmed (payload : Members) : Option Bool :=
  match Json.member (statusOf payload) "armed" .null with
  | .bool armed => some armed
  | _ => none

def extractMode (payload : Members) : Json :=
  Json.member payload "mode" (Json.member (statusOf payload) "mode" .null)

def terminalMissionStatuses : List String :=
  ["complete","completed","done","finished","mission_complete","mission_completed",
    "mission_finished"]

-- The text of a value that is not a string is never a terminal status.
def isTerminalMissionStatus : Json → Bool
  | .str text =>
    terminalMissionStatuses.any (fun status => (strip text.toList).map Char.toLower == status.toList)
  | _ => false

structure ParsedMessage where
  droneId : Json
  payload : Members
  missionStatus : Json
  mode : Json
  position : Option Position
  armed : Option Bool

def parseQueueMessage (jsonLoads : String → Except PyError Json) (message : Members) :
    Except PyError ParsedMessage :=
  match Json.member message "payload" .null with
  | .str text => do
      match ← jsonLoads text with
      | .obj payload => .ok ⟨extractDroneId payload,payload,extractMissionStatus payload,
          extractMode payload,extractPosition payload,extractArmed payload⟩
      | _ => .error (.valueError "Payload JSON must be an object/dictionary")
  | _ => .error (.valueError "Queue message payload is missing or not a string")

/-- The registry lookup by drone id. An id that is no string is no key of the index, and one
that cannot be hashed is an error. -/
def resolveActiveSession (reg : ActiveSessionRegistry) :
    Json → Except PyError (Option ActiveFlightSession)
  | .str drone => .ok (reg.getByDroneId drone)
  | .arr _ | .obj _ => .error .typeError
  | _ => .ok none

def jsonText : Json → String
  | .str text => text
  | _ => ""

/-! The mission row (`app/monitoring/mission_row_builder.py`), without the constant columns.
`entry_decision` and `entry_conditions` hold the values whose text the row carries. -/

structure MissionRow where
  uavId : Option String
  sessionId : String
  timeIn : String
  timeOut : String
  maxAltAslM : Int
  distanceFlownMi : PyFloat
  startLat : Json
  startLon : Json
  startAltM : Json
  endLat : Json
  endLon : Json
  endAltM : Json
  voltageIn : Option PyFloat
  voltageOut : Option PyFloat
  entryDecision : Json
  entryConditions : Json

def roundHalfEven (q : Rat) : Int :=
  let low := q.floor
  let rest := q - low
  if rest < 1/2 then low else if 1/2 < rest then low + 1 else if low % 2 = 0 then low else low + 1

def roundInt : PyFloat → Except PyError Int
  | .finite q => .ok (roundHalfEven q)
  | .posInf | .negInf => .error .overflowError
  | .nan => .error (.valueError "cannot convert float NaN to integer")

def round3 : PyFloat → PyFloat
  | .finite q => .finite (roundHalfEven (q * 1000) / 1000)
  | x => x

def metresToMiles : PyFloat → PyFloat
  | .finite q => .finite (q * (621371 / 1000000000))
  | x => x

def positionField (position : Option Position) (field : Position → Json) : Json :=
  (position.map field).getD .null

def buildRow (state : DroneState) : Except PyError MissionRow := do
  let maxAlt ← match state.maxAltitude with
    | some x => roundInt x
    | none => .ok 0
  .ok {
    uavId := state.droneId
    sessionId := state.flightSessionId
    timeIn := state.firstSeen
    timeOut := state.lastSeen
    maxAltAslM := maxAlt
    distanceFlownMi := round3 (metresToMiles state.distanceFlownM)
    startLat := positionField state.startPosition Position.latitude
    startLon := positionField state.startPosition Position.longitude
    startAltM := positionField state.startPosition Position.altitude
    endLat := positionField state.position Position.latitude
    endLon := positionField state.position Position.longitude
    endAltM := positionField state.position Position.altitude
    voltageIn := state.voltageIn.map round3
    voltageOut := state.voltageOut.map round3
    entryDecision := orElse state.missionStatus (.str "")
    entryConditions := orElse state.mode (.str "") }

inductive WorkerOutcome where
  | failed (e : PyError)
  | missingDroneId
  | noActiveSession
  | processed
  deriving DecidableEq, Repr

def messageStamp (message : Members) (now : UtcTime) : String :=
  match Json.member message "timestamp" .null with
  | .str stamp => stamp
  | _ => isoformat now.val

def sessionDrone (session : ActiveFlightSession) (droneId : Json) : String :=
  session.droneKey.getD (jsonText droneId)

def telemetryOf (session : ActiveFlightSession) (parsed : ParsedMessage) (message : Members)
    (now : UtcTime) : Telemetry where
  droneId := sessionDrone session parsed.droneId
  sessionSource := session.sessionSource
  rawMessage := message
  parsedPayload := parsed.payload
  missionStatus := parsed.missionStatus
  mode := parsed.mode
  position := parsed.position
  armed := parsed.armed
  lastSeen := some (messageStamp message now)

def updateCall (env : Env) (reg : ActiveSessionRegistry) (message : Members) (now : UtcTime) :
    Except WorkerOutcome (String × Telemetry) :=
  match parseQueueMessage env.jsonLoads message with
  | .error e => .error (.failed e)
  | .ok parsed =>
    if ¬ parsed.droneId.truthy then .error .missingDroneId else
      match resolveActiveSession reg parsed.droneId with
      | .error e => .error (.failed e)
      | .ok none => .error .noActiveSession
      | .ok (some session) => .ok (session.flightSessionId,telemetryOf session parsed message now)

/-- The row of a terminal status: built and marked at most once per state, then written.
`written` is what the CSV writer does with it. -/
def writeTerminalRow (written : Except PyError Unit) (tracker : DroneStateTracker)
    (state : DroneState) : DroneStateTracker × List MissionRow × WorkerOutcome :=
  if isTerminalMissionStatus state.missionStatus && !state.rowWritten then
    match buildRow state with
    | .error e => (tracker,[],.failed e)
    | .ok row =>
      let tracker := tracker.put { state with rowWritten := true }
      match written with
      | .error e => (tracker,[],.failed e)
      | .ok _ => (tracker,[row],.processed)
  else (tracker,[],.processed)

def telemetryWorker (env : Env) (written : Except PyError Unit) (reg : ActiveSessionRegistry)
    (tracker : DroneStateTracker) (message : Members) (now : UtcTime) :
    DroneStateTracker × List MissionRow × WorkerOutcome :=
  match updateCall env reg message now with
  | .error outcome => (tracker,[],outcome)
  | .ok (f,telemetry) =>
    match tracker.update env.haversine f telemetry now with
    | (tracker,.error e) => (tracker,[],.failed e)
    | (tracker,.ok state) => writeTerminalRow written tracker state

theorem updateCallActive {env : Env} {reg : ActiveSessionRegistry} {message : Members}
    {now : UtcTime} {f : String} {telemetry : Telemetry}
    (call : updateCall env reg message now = .ok (f,telemetry)) :
    ∃ s, reg.getByFlightSessionId f = some s := by
  unfold updateCall at call
  split at call
  · cases call
  · rename_i parsed _
    split at call
    · cases call
    · split at call
      · cases call
      · cases call
      · rename_i session resolved
        cases call
        cases id : parsed.droneId <;> simp only [id,resolveActiveSession] at resolved <;> try cases resolved
        rename_i drone
        have found := Except.ok.inj resolved
        unfold ActiveSessionRegistry.getByDroneId at found
        split at found
        · cases found
        · exact ⟨session,by rw [ActiveSessionRegistry.recordFiled found]; exact found⟩

theorem getWriteTerminalRow (written : Except PyError Unit) {tracker : DroneStateTracker}
    {state : DroneState} (own : tracker.get state.flightSessionId = some state) :
    ∃ flag, ∀ g, (writeTerminalRow written tracker state).1.get g =
      if state.flightSessionId = g then some { state with rowWritten := flag }
      else tracker.get g := by
  have same : ∃ flag, ∀ g, tracker.get g =
      if state.flightSessionId = g then some { state with rowWritten := flag }
      else tracker.get g := by
    refine ⟨state.rowWritten,fun g => ?_⟩
    split
    · rename_i here; subst g; exact own
    · rfl
  have marked : ∃ flag, ∀ g, (tracker.put { state with rowWritten := true }).get g =
      if state.flightSessionId = g then some { state with rowWritten := flag }
      else tracker.get g := ⟨true,fun g => DroneStateTracker.getPut ..⟩
  unfold writeTerminalRow
  split
  · split
    · exact same
    · dsimp only
      split
      · exact marked
      · exact marked
  · exact same

theorem telemetryWorkerStores {env : Env} {reg : ActiveSessionRegistry} {message : Members}
    {now : UtcTime} {f : String} {u : Telemetry} (call : updateCall env reg message now = .ok (f,u))
    (written : Except PyError Unit) (tracker : DroneStateTracker) {state : DroneState}
    (stored : (tracker.update env.haversine f u now).1.get f = some state) :
    ∃ flag, (telemetryWorker env written reg tracker message now).1.get f =
      some { state with rowWritten := flag } := by
  simp only [telemetryWorker,call]
  rcases DroneStateTracker.updateCases env.haversine tracker f u now with
    ⟨e,-,done⟩ | ⟨state',outcome,_,-,done,filed,-,returned,-⟩
  · rw [done] at stored ⊢
    exact ⟨state.rowWritten,stored⟩
  · rw [done] at stored ⊢
    rw [DroneStateTracker.getPut,if_pos filed] at stored
    cases Option.some.inj stored
    have own : (tracker.put state).get state.flightSessionId = some state := by simp
    cases outcome with
    | error e => exact ⟨state.rowWritten,by rw [filed] at own; exact own⟩
    | ok state' =>
      cases returned state' rfl
      obtain ⟨flag,got⟩ := getWriteTerminalRow written own
      exact ⟨flag,(got f).trans (if_pos filed)⟩

theorem telemetryWorkerFiles {env : Env} {reg : ActiveSessionRegistry} {message : Members}
    {now : UtcTime} {f : String} {u : Telemetry} {r : Option PyFloat × Option PyFloat}
    (call : updateCall env reg message now = .ok (f,u)) (read : u.readings = .ok r)
    (written : Except PyError Unit) (tracker : DroneStateTracker) :
    ∃ state, state.flightSessionId = f ∧ state.lastSeen = u.observedAt now ∧
      state.exitRequestedAt = (tracker.get f).bind DroneState.exitRequestedAt ∧
      state.exitReason = (tracker.get f).bind DroneState.exitReason ∧
      ∀ g, (telemetryWorker env written reg tracker message now).1.get g =
        if f = g then some state else tracker.get g := by
  rcases DroneStateTracker.updateCases env.haversine tracker f u now with
    ⟨e,failed,-⟩ | ⟨state,outcome,_,-,done,filed,seen,returned,at_,why⟩
  · rw [read] at failed; cases failed
  · simp only [telemetryWorker,call,done]
    cases outcome with
    | error e =>
      refine ⟨state,filed,seen,at_,why,fun g => ?_⟩
      rw [DroneStateTracker.getPut,filed]
    | ok state' =>
      cases returned state' rfl
      have stored : (tracker.put state).get state.flightSessionId = some state := by simp
      obtain ⟨flag,got⟩ := getWriteTerminalRow written stored
      refine ⟨{ state with rowWritten := flag },filed,seen,at_,why,fun g => ?_⟩
      dsimp only
      rw [got,DroneStateTracker.getPut,filed]
      split <;> rfl

theorem telemetryWorkerIdle {env : Env} {reg : ActiveSessionRegistry} {message : Members}
    {now : UtcTime} (idle : ∀ f u r, updateCall env reg message now = .ok (f,u) →
      u.readings ≠ .ok r) (written : Except PyError Unit) (tracker : DroneStateTracker) :
    (telemetryWorker env written reg tracker message now).1 = tracker := by
  cases call : updateCall env reg message now with
  | error outcome => simp only [telemetryWorker,call]
  | ok call' =>
    obtain ⟨f,u⟩ := call'
    rcases DroneStateTracker.updateCases env.haversine tracker f u now with
      ⟨e,-,done⟩ | ⟨_,_,r,read,-⟩
    · simp only [telemetryWorker,call,done]
    · exact absurd read (idle f u r call)

end FlightMonitor
