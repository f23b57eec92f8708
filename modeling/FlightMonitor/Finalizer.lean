import FlightMonitor.Tracker

/-! The finalization reports (`app/sending/tracker_finalizer.py`): the canonical payload
built from a `DroneState` and the stub payload built from `test_overrides`. -/
namespace FlightMonitor
open PyValue IsoTime

structure Slot where
  slotId : String
  voltageV : PyFloat
  deriving DecidableEq, Repr

structure BatteryState where
  systemChargePct : Option PyFloat
  slots : List Slot
  deriving DecidableEq, Repr

inductive PayloadEvent where
  | flightSegment (timeInUtc timeOutUtc : String) (batteryStateIn batteryStateOut : BatteryState)
  | exitRequest (timeUtc reason : String)
  -- An event object taken over from the overrides, as the pairs it was built from.
  | override (items : List (Json × Json))

structure TelemetrySummary where
  altitudeMinM : PyFloat
  altitudeMaxM : PyFloat
  distanceFlownM : PyFloat
  deriving DecidableEq, Repr

structure FinalizationPayload where
  flightSessionId : String
  reportTimeUtc : String
  telemetrySummary : TelemetrySummary
  events : List PayloadEvent

def toUtcZ (now : UtcTime) : Option String → String
  | none => strftimeZ now.val
  | some text =>
    if text = "" then strftimeZ now.val else
      match fromisoformat text with
      | some t => strftimeZ t
      | none => text

def buildBatteryState (voltage : Option PyFloat) : BatteryState :=
  ⟨none,[⟨"A",voltage.getD .zero⟩]⟩

def FlightSegment.timeOut (segment : FlightSegment) (lastSeen : String) : String :=
  match segment.timeOutUtc with
  | some stamp => if stamp = "" then lastSeen else stamp
  | none => lastSeen

def segmentEvent (now : UtcTime) (lastSeen : String) (segment : FlightSegment) : PayloadEvent :=
  .flightSegment (toUtcZ now (some segment.timeInUtc)) (toUtcZ now (some (segment.timeOut lastSeen)))
    (buildBatteryState segment.voltageIn) (buildBatteryState segment.voltageOut)

def reasonOr : Option String → String
  | some reason => if reason = "" then "unspecified" else reason
  | none => "unspecified"

def segmentEvents (state : DroneState) (now : UtcTime) : List PayloadEvent :=
  if state.armedFieldSeen then state.segments.map (segmentEvent now state.lastSeen)
  else [.flightSegment (toUtcZ now (some state.firstSeen)) (toUtcZ now (some state.lastSeen))
    (buildBatteryState state.voltageIn) (buildBatteryState state.voltageOut)]

def exitEvents (state : DroneState) (now : UtcTime) : List PayloadEvent :=
  match state.exitRequestedAt with
  | some requestedAt => [.exitRequest (toUtcZ now (some requestedAt)) (reasonOr state.exitReason)]
  | none => []

def buildFinalizationPayload (state : DroneState) (now : UtcTime) : FinalizationPayload where
  flightSessionId := state.flightSessionId
  reportTimeUtc := strftimeZ now.val
  telemetrySummary := ⟨state.minAltitude.getD .zero,state.maxAltitude.getD .zero,state.distanceFlownM⟩
  events := segmentEvents state now ++ exitEvents state now

/-! `dict(event)` and the iterations over override values, for every JSON shape. -/

def iterate : Json → Except PyError (List Json)
  | .arr items => .ok items
  | .str text => .ok (text.toList.map (fun c => .str (String.ofList [c])))
  | .obj members => .ok (members.map (fun m => .str m.1))
  | _ => .error .typeError

def hashable : Json → Bool
  | .arr _ | .obj _ => false
  | _ => true

def pairOf (item : Json) : Except PyError (Json × Json) := do
  match ← iterate item with
  | [key,value] => if hashable key then .ok (key,value) else .error .typeError
  | _ => .error (.valueError "dictionary update sequence element does not have length 2")

def dictOf : Json → Except PyError (List (Json × Json))
  | .obj members => .ok (members.map (fun m => (.str m.1,m.2)))
  | value => do (← iterate value).mapM pairOf

def overrideReading (telemetry : Members) (key : String) : Except PyError PyFloat :=
  toFloat (Json.member telemetry key (.float .zero))

def stubEvents (overrides : Members) (nowZ : String) : Except PyError (List PayloadEvent) :=
  let overrideEvents := Json.member overrides "events" .null
  if overrideEvents.truthy then do
    (← iterate overrideEvents).mapM (fun event => do
      let items ← dictOf event
      .ok (.override items))
  else .ok [.flightSegment nowZ nowZ (buildBatteryState none) (buildBatteryState none)]

-- `test_overrides.get("telemetry_summary") or {}`; what is not a dict has no `get`.
def stubTelemetry (overrides : Members) : Except PyError Members :=
  let summary := Json.member overrides "telemetry_summary" .null
  if summary.truthy then
    match summary with
    | .obj members => .ok members
    | _ => .error .attributeError
  else .ok []

def buildStubFinalizationPayload (f : String) (overrides : Members) (now : UtcTime) :
    Except PyError FinalizationPayload := do
  let nowZ := strftimeZ now.val
  let events ← stubEvents overrides nowZ
  let telemetry ← stubTelemetry overrides
  let altitudeMin ← overrideReading telemetry "altitude_min_m"
  let altitudeMax ← overrideReading telemetry "altitude_max_m"
  let distance ← overrideReading telemetry "distance_flown_m"
  .ok ⟨f,nowZ,⟨altitudeMin,altitudeMax,distance⟩,events⟩

def getTrackerFinalizedUrl (url : Option String) : Except PyError String :=
  let unset := PyError.runtimeError ("TRACKER_FINALIZED_URL is not set. " ++
    "This environment variable is required to POST finalization reports " ++
    "to SADE.  Set it to the full /tracker-session-finalized URL for the target environment.")
  match url with
  | some url => if url = "" then .error unset else .ok url
  | none => .error unset

theorem stubPayloadSession {f : String} {overrides : Members} {now : UtcTime}
    {payload : FinalizationPayload}
    (built : buildStubFinalizationPayload f overrides now = .ok payload) :
    payload.flightSessionId = f := by
  obtain ⟨events,-,built⟩ := bindOk built
  obtain ⟨telemetry,-,built⟩ := bindOk built
  obtain ⟨altitudeMin,-,built⟩ := bindOk built
  obtain ⟨altitudeMax,-,built⟩ := bindOk built
  obtain ⟨distance,-,built⟩ := bindOk built
  cases built
  rfl

end FlightMonitor
