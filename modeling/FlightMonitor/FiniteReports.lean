import FlightMonitor.GreatCircle
import FlightMonitor.SegmentVoltage

/-! Whether the numbers of a report are finite. Readings convert to any float, and what becomes of
one that is not finite depends on the message it comes with and on the state it meets: the guard
of a message says what it may carry, and the reports stay finite exactly as long as every message
keeps to it. -/
namespace FlightMonitor.FiniteReports
open PyValue IsoTime Updates SegmentVoltage GreatCircle

def batteryNumbers (b : BatteryState) : List PyFloat :=
  b.systemChargePct.toList ++ b.slots.map Slot.voltageV

def eventNumbers : PayloadEvent → List PyFloat
  | .flightSegment _ _ batteryIn batteryOut => batteryNumbers batteryIn ++ batteryNumbers batteryOut
  | .exitRequest .. | .override _ => []

def payloadNumbers (payload : FinalizationPayload) : List PyFloat :=
  [payload.telemetrySummary.altitudeMinM,payload.telemetrySummary.altitudeMaxM,
    payload.telemetrySummary.distanceFlownM] ++ payload.events.flatMap eventNumbers

def FinitePayload (payload : FinalizationPayload) : Prop := ∀ x ∈ payloadNumbers payload, Numeric x

def FiniteOr (reading : Option PyFloat) : Prop := ∀ x, reading = some x → Numeric x

@[simp] theorem finiteNone : FiniteOr none := fun _ same => by cases same

@[simp] theorem finiteSome (x : PyFloat) : FiniteOr (some x) ↔ Numeric x := by simp [FiniteOr]

-- `max` and `min` keep an altitude they have when NaN comes after it.
def CleanAltitude (live : Option DroneState) (altitude : Option PyFloat) : Prop :=
  ∀ x, altitude = some x → Numeric x ∨ x = .nan ∧ live.bind DroneState.minAltitude ≠ none

def seenOf (live : Option DroneState) : Bool := (live.map DroneState.armedFieldSeen).getD false

/-- A voltage reading reaches the report: that of the session, as long as no arm state was seen,
that of a segment that is opened, or that of the segment that is open. -/
def Reported (live : Option DroneState) : Option Bool → Prop
  | none => seenOf live = false
  | some armed => (armed = true ∧ lastArmedOf live ≠ some true) ∨ openVoltage live ≠ none

def CleanVoltage (live : Option DroneState) (armed : Option Bool) (voltage : Option PyFloat) : Prop :=
  Reported live armed → FiniteOr voltage

def Clean (haversine : Haversine) (live : Option DroneState) (u : Telemetry) : Prop :=
  ∀ altitude voltage metres, u.readings = .ok (altitude,voltage) →
    leg haversine (live.bind DroneState.position) u.position = .ok metres →
    CleanAltitude live altitude ∧ CleanVoltage live u.armed voltage ∧
      FiniteLeg (live.bind DroneState.position) u.position

def FiniteSegments (segments : List FlightSegment) : Prop :=
  ∀ s ∈ segments, FiniteOr s.voltageIn ∧ FiniteOr s.voltageOut

structure FiniteState (s : DroneState) : Prop where
  low : FiniteOr s.minAltitude
  high : FiniteOr s.maxAltitude
  distance : Numeric s.distanceFlownM
  legacy : s.armedFieldSeen = false → FiniteOr s.voltageIn ∧ FiniteOr s.voltageOut
  segments : s.armedFieldSeen = true → FiniteSegments s.segments

theorem finiteGetD {reading : Option PyFloat} : Numeric (reading.getD .zero) ↔ FiniteOr reading := by
  cases reading <;> simp [PyFloat.zero]

theorem batteryFinite {voltage : Option PyFloat} :
    (∀ x ∈ batteryNumbers (buildBatteryState voltage), Numeric x) ↔ FiniteOr voltage := by
  simp [batteryNumbers,buildBatteryState,finiteGetD]

theorem eventFinite {now : UtcTime} {lastSeen : String} {segment : FlightSegment} :
    (∀ x ∈ eventNumbers (segmentEvent now lastSeen segment), Numeric x) ↔
      FiniteOr segment.voltageIn ∧ FiniteOr segment.voltageOut := by
  simp only [segmentEvent,eventNumbers,List.forall_mem_append,batteryFinite]

theorem segmentEventsFinite {s : DroneState} {now : UtcTime} :
    (∀ x ∈ (segmentEvents s now).flatMap eventNumbers, Numeric x) ↔
      (s.armedFieldSeen = false → FiniteOr s.voltageIn ∧ FiniteOr s.voltageOut) ∧
      (s.armedFieldSeen = true → FiniteSegments s.segments) := by
  unfold segmentEvents
  cases s.armedFieldSeen with
  | false =>
    simp only [Bool.false_eq_true,if_false,List.flatMap_cons,List.flatMap_nil,List.append_nil,
      eventNumbers,List.forall_mem_append,batteryFinite,true_implies,false_implies,and_true]
  | true =>
    simp only [if_true,List.flatMap_map,List.forall_mem_flatMap,eventFinite,FiniteSegments,
      Bool.true_eq_false,false_implies,true_implies,true_and]

theorem exitEventsBare {s : DroneState} {now : UtcTime} :
    (exitEvents s now).flatMap eventNumbers = [] := by
  unfold exitEvents
  cases s.exitRequestedAt with
  | none => rfl
  | some requestedAt => rfl

theorem payloadFinite {s : DroneState} {now : UtcTime} :
    FinitePayload (buildFinalizationPayload s now) ↔ FiniteState s := by
  have events := @segmentEventsFinite s now
  simp only [FinitePayload,payloadNumbers,buildFinalizationPayload,List.flatMap_append,
    exitEventsBare,List.append_nil,List.forall_mem_append,events,List.forall_mem_cons,finiteGetD]
  constructor
  · rintro ⟨⟨low,high,distance,-⟩,legacy,segments⟩
    exact ⟨low,high,distance,legacy,segments⟩
  · intro finite
    exact ⟨⟨finite.low,finite.high,finite.distance,by simp⟩,finite.legacy,finite.segments⟩

theorem keptAltitudes {p q : Rat} {x : PyFloat} :
    Numeric (PyFloat.min (.finite p) x) ∧ Numeric (PyFloat.max (.finite q) x) ↔
      Numeric x ∨ x = .nan := by
  cases x with
  | finite r =>
    refine iff_of_true ⟨?_,?_⟩ (.inl (numericFinite r))
    · unfold PyFloat.min
      split <;> exact numericFinite _
    · unfold PyFloat.max
      split <;> exact numericFinite _
  | nan => exact iff_of_true ⟨numericFinite p,numericFinite q⟩ (.inr rfl)
  | posInf => simp [PyFloat.max,PyFloat.lt,Numeric]
  | negInf => simp [PyFloat.min,PyFloat.lt,Numeric]

theorem altitudesClean {live : Option DroneState} {high altitude : Option PyFloat}
    (paired : live.bind DroneState.minAltitude = none ↔ high = none)
    (lowest : FiniteOr (live.bind DroneState.minAltitude)) (highest : FiniteOr high) :
    FiniteOr (keepReading PyFloat.min (live.bind DroneState.minAltitude) altitude) ∧
      FiniteOr (keepReading PyFloat.max high altitude) ↔ CleanAltitude live altitude := by
  unfold CleanAltitude
  cases altitude with
  | none => simp [keepReading,lowest,highest]
  | some x =>
    cases low : live.bind DroneState.minAltitude with
    | none =>
      rw [paired.mp low]
      simp [keepReading]
    | some k =>
      obtain ⟨top,present⟩ := Option.ne_none_iff_exists'.mp
        (fun none_ => by rw [paired.mpr none_] at low; cases low)
      obtain ⟨p,rfl⟩ := lowest k low
      obtain ⟨q,rfl⟩ := highest top present
      rw [present]
      simpa [keepReading] using keptAltitudes (p := p) (q := q) (x := x)

theorem addNumeric {total : PyFloat} (finite : Numeric total) (metres : PyFloat) :
    Numeric (PyFloat.add total metres) ↔ Numeric metres := by
  obtain ⟨q,rfl⟩ := finite
  cases metres <;> simp [PyFloat.add,Numeric]

theorem flownNumeric {total : PyFloat} (finite : Numeric total) (metres : Option PyFloat) :
    Numeric (match metres with
      | some d => PyFloat.add total d
      | none => total) ↔ FiniteOr metres := by
  cases metres with
  | none => simp [finite]
  | some d => simp [addNumeric finite]

theorem keptVoltages {voltageIn voltageOut voltage : Option PyFloat} (first : FiniteOr voltageIn)
    (last : FiniteOr voltageOut) :
    FiniteOr (keepReading (fun k _ => k) voltageIn voltage) ∧
      FiniteOr (keepReading (fun _ x => x) voltageOut voltage) ↔ FiniteOr voltage := by
  cases voltage with
  | none => simp [keepReading,first,last]
  | some v => cases voltageIn <;> cases voltageOut <;> simp_all [keepReading]

def OpenAtLast (segments : List FlightSegment) : Prop :=
  ∃ s, segments.getLast? = some s ∧ s.timeOutUtc = none

theorem openVoltageSome {live : Option DroneState} :
    openVoltage live ≠ none ↔ OpenAtLast (segmentsOf live) := by
  unfold openVoltage OpenAtLast
  cases (segmentsOf live).getLast? with
  | none => simp
  | some s => by_cases ends : s.timeOutUtc = none <;> simp [ends]

theorem segmentsConcat {segments : List FlightSegment} {s : FlightSegment} :
    FiniteSegments (segments ++ [s]) ↔
      FiniteSegments segments ∧ FiniteOr s.voltageIn ∧ FiniteOr s.voltageOut := by
  simp only [FiniteSegments,List.forall_mem_append,List.forall_mem_singleton]

theorem closedFinite (stamp : String) (segments : List FlightSegment) :
    FiniteSegments (changeOpen (fun s => { s with timeOutUtc := some stamp }) segments) ↔
      FiniteSegments segments := by
  rw [changeOpenAtLast]
  cases segments using List.reverseRecOn with
  | nil => rfl
  | append_singleton segments s _ =>
    rw [atLastConcat,segmentsConcat,segmentsConcat]
    by_cases ends : s.timeOutUtc = none <;> simp [ends]

theorem measuredFinite {segments : List FlightSegment} (finite : FiniteSegments segments)
    (voltage : Option PyFloat) :
    FiniteSegments (measureOpen voltage segments) ↔ (OpenAtLast segments → FiniteOr voltage) := by
  cases voltage with
  | none => simp [measureOpen,finite]
  | some v =>
    simp only [measureOpen,changeOpenAtLast,OpenAtLast]
    cases segments using List.reverseRecOn with
    | nil => simp [atLast,finite]
    | append_singleton segments s _ =>
      obtain ⟨before,last⟩ := segmentsConcat.mp finite
      rw [atLastConcat,segmentsConcat]
      by_cases ends : s.timeOutUtc = none <;> simp [ends,before,last]

theorem openedFinite {segments : List FlightSegment} (finite : FiniteSegments segments)
    (voltage : Option PyFloat) (stamp : String) :
    FiniteSegments (measureOpen voltage (segments ++ [⟨stamp,none,voltage,voltage⟩])) ↔
      FiniteOr voltage := by
  cases voltage with
  | none => simp [measureOpen,segmentsConcat,finite]
  | some v => simp [measureOpen,changeOpenAtLast,atLastConcat,segmentsConcat,finite]

theorem handledFinite (state : DroneState) (finite : FiniteSegments state.segments) (armed : Bool)
    (stamp : String) (voltage : Option PyFloat) :
    FiniteSegments (handleArmState state (some armed) stamp voltage).segments ↔
      ((armed = true ∧ state.lastArmed ≠ some true) ∨ OpenAtLast state.segments →
        FiniteOr voltage) := by
  simp only [handleArmState]
  by_cases arming : armed = true ∧ state.lastArmed ≠ some true
  · obtain ⟨rfl,grounded⟩ := arming
    simp [grounded,openedFinite finite]
  · rw [if_neg arming]
    split
    · rw [closedFinite,measuredFinite finite]
      simp [arming]
    · rw [measuredFinite finite]
      simp [arming]

/-! What every message keeps: a finite state, without segments before an arm state is seen, and
with both extremes of the altitude or none. -/

structure Sound (s : DroneState) : Prop where
  finite : FiniteState s
  unarmed : s.armedFieldSeen = false → s.segments = []
  paired : s.minAltitude = none ↔ s.maxAltitude = none

theorem soundSegments {s : DroneState} (sound : Sound s) : FiniteSegments s.segments := by
  cases seen : s.armedFieldSeen with
  | false =>
    rw [sound.unarmed seen]
    intro _ mem
    cases mem
  | true => exact sound.finite.segments seen

def FiniteVoltages (s : DroneState) : Prop :=
  (s.armedFieldSeen = false → FiniteOr s.voltageIn ∧ FiniteOr s.voltageOut) ∧
    (s.armedFieldSeen = true → FiniteSegments s.segments)

theorem finiteStateIff {s : DroneState} : FiniteState s ↔
    (FiniteOr s.minAltitude ∧ FiniteOr s.maxAltitude) ∧ Numeric s.distanceFlownM ∧
      FiniteVoltages s := by
  constructor
  · intro finite
    exact ⟨⟨finite.low,finite.high⟩,finite.distance,finite.legacy,finite.segments⟩
  · rintro ⟨⟨low,high⟩,distance,legacy,segments⟩
    exact ⟨low,high,distance,legacy,segments⟩

theorem keptNone {combine : PyFloat → PyFloat → PyFloat} {kept reading : Option PyFloat} :
    keepReading combine kept reading = none ↔ kept = none ∧ reading = none := by
  cases reading <;> cases kept <;> simp [keepReading]

section
variable {s : DroneState} (sound : Sound s)
include sound

theorem voltagesUnhandled (u : Telemetry) (stamp : String)
    (metres altitude voltage : Option PyFloat) :
    FiniteVoltages (u.accumulate (u.receive s stamp) metres altitude voltage) ↔
      CleanVoltage (some s) none voltage := by
  simp only [FiniteVoltages,CleanVoltage,Reported,seenOf,Telemetry.accumulate,Telemetry.receive,
    Option.map_some,Option.getD_some]
  cases seen : s.armedFieldSeen with
  | false =>
    obtain ⟨first,last⟩ := sound.finite.legacy seen
    simpa using keptVoltages first last
  | true => simpa using soundSegments sound

theorem voltagesHandled (u : Telemetry) (stamp : String) (metres altitude voltage : Option PyFloat)
    (armed : Bool) : FiniteVoltages (handleArmState
      (u.accumulate (u.receive s stamp) metres altitude voltage) (some armed) stamp voltage) ↔
      CleanVoltage (some s) (some armed) voltage := by
  have segments := soundSegments sound
  have handled := handledFinite (u.accumulate (u.receive s stamp) metres altitude voltage) segments
    armed stamp voltage
  unfold FiniteVoltages CleanVoltage Reported
  rw [openVoltageSome]
  constructor
  · intro finite
    exact handled.mp (finite.2 rfl)
  · intro clean
    exact ⟨fun unseen => (by cases unseen),fun _ => handled.mpr clean⟩

theorem recordedFinite (u : Telemetry) (stamp : String) (metres altitude voltage : Option PyFloat) :
    FiniteState (handleArmState (u.accumulate (u.receive s stamp) metres altitude voltage) u.armed
      stamp voltage) ↔
      CleanAltitude (some s) altitude ∧ CleanVoltage (some s) u.armed voltage ∧ FiniteOr metres := by
  have altitudes := @altitudesClean (some s) s.maxAltitude altitude sound.paired sound.finite.low
    sound.finite.high
  have flown := flownNumeric sound.finite.distance metres
  rw [finiteStateIff]
  cases u.armed with
  | none =>
    have voltages := voltagesUnhandled sound u stamp metres altitude voltage
    exact and_congr altitudes ((and_congr flown voltages).trans and_comm)
  | some armed =>
    have voltages := voltagesHandled sound u stamp metres altitude voltage armed
    exact and_congr altitudes ((and_congr flown voltages).trans and_comm)

theorem recordedKeeps (u : Telemetry) (stamp : String) (metres altitude voltage : Option PyFloat)
    (finite : FiniteState (handleArmState (u.accumulate (u.receive s stamp) metres altitude voltage)
      u.armed stamp voltage)) :
    Sound (handleArmState (u.accumulate (u.receive s stamp) metres altitude voltage) u.armed stamp
      voltage) := by
  have paired : keepReading PyFloat.min s.minAltitude altitude = none ↔
      keepReading PyFloat.max s.maxAltitude altitude = none := by
    rw [keptNone,keptNone,sound.paired]
  refine ⟨finite,?_,?_⟩
  · cases u.armed with
    | none => exact sound.unarmed
    | some armed => exact fun unseen => by cases unseen
  · cases u.armed with
    | none => exact paired
    | some armed => exact paired

end

def blank (u : Telemetry) (f stamp : String) : DroneState :=
  { u.create f stamp none none with messageCount := 0 }

theorem blankSound (u : Telemetry) (f stamp : String) : Sound (blank u f stamp) where
  finite := ⟨finiteNone,finiteNone,numericFinite 0,fun _ => ⟨finiteNone,finiteNone⟩,
    fun _ s mem => by cases mem⟩
  unarmed := fun _ => rfl
  paired := Iff.rfl

theorem createdBlank (u : Telemetry) (f stamp : String) (altitude voltage : Option PyFloat) :
    u.create f stamp altitude voltage =
      u.accumulate (u.receive (blank u f stamp) stamp) none altitude voltage := by
  unfold Telemetry.accumulate Telemetry.receive blank Telemetry.create
  cases altitude <;> cases voltage <;> cases u.position <;> rfl

theorem blankClean (u : Telemetry) (f stamp : String) (altitude voltage : Option PyFloat) :
    CleanAltitude (some (blank u f stamp)) altitude ∧
      CleanVoltage (some (blank u f stamp)) u.armed voltage ∧ FiniteOr none ↔
    CleanAltitude none altitude ∧ CleanVoltage none u.armed voltage ∧ FiniteLeg none u.position := by
  have grounded : FiniteLeg none u.position := fun _ _ _ _ _ _ same => by cases same
  simp only [finiteNone,grounded,and_true]
  cases u.armed <;> rfl

def SoundAt (live : Option DroneState) : Prop := ∀ s, live = some s → Sound s

section
variable {m : Libm} {f : String} {live left : Option DroneState} {u : Update} {returned : Bool}
  (sound : SoundAt live) (updated : Updated (haversineM m) f live u left returned)
include sound updated

theorem cleanKeeps (clean : Clean (haversineM m) live u.1) : SoundAt left := by
  cases updated with
  | refused => exact sound
  | created altitude voltage read fresh =>
    subst fresh
    obtain ⟨altitudes,voltages,grounded⟩ := clean altitude voltage none read rfl
    rintro s ⟨⟩
    rw [createdBlank]
    have blank := blankSound u.1 f u.stamp
    exact recordedKeeps blank _ _ _ _ _ ((recordedFinite blank _ _ _ _ _).mpr
      ((blankClean ..).mpr ⟨altitudes,voltages,grounded⟩))
  | broken altitude voltage read existing found =>
    rintro s ⟨⟩
    obtain ⟨⟨low,high,distance,legacy,segments⟩,unarmed,paired⟩ := sound existing found
    exact ⟨⟨low,high,distance,legacy,segments⟩,unarmed,paired⟩
  | recorded altitude voltage read existing found metres flown =>
    subst found
    obtain ⟨altitudes,voltages,fixes⟩ := clean altitude voltage metres read flown
    rintro s ⟨⟩
    have kept := sound existing rfl
    exact recordedKeeps kept _ _ _ _ _ ((recordedFinite kept _ _ _ _ _).mpr
      ⟨altitudes,voltages,(legNumeric flown).mpr fixes⟩)

theorem uncleanShows (unclean : ¬ Clean (haversineM m) live u.1) :
    ∃ s, left = some s ∧ ¬ FiniteState s := by
  cases updated with
  | refused e read =>
    refine absurd (fun altitude voltage metres read' => ?_) unclean
    rw [read] at read'
    cases read'
  | created altitude voltage read fresh =>
    subst fresh
    refine ⟨_,rfl,fun finite => unclean (fun altitude' voltage' metres read' flown => ?_)⟩
    cases read.symm.trans read'
    rw [createdBlank] at finite
    exact (blankClean ..).mp ((recordedFinite (blankSound u.1 f u.stamp) _ _ _ _ _).mp finite)
  | broken altitude voltage read existing found e failed =>
    subst found
    refine absurd (fun altitude' voltage' metres read' flown => ?_) unclean
    cases failed.symm.trans flown
  | recorded altitude voltage read existing found metres flown =>
    subst found
    refine ⟨_,rfl,fun finite => unclean (fun altitude' voltage' metres' read' flown' => ?_)⟩
    cases read.symm.trans read'
    cases flown.symm.trans flown'
    obtain ⟨altitudes,voltages,fixes⟩ :=
      (recordedFinite (sound existing rfl) _ _ _ _ _).mp finite
    exact ⟨altitudes,voltages,(legNumeric flown).mp fixes⟩

end

/-! Messages that the parser accepts, for one session. -/

structure Accepted (jsonLoads : String → Except PyError Json) where
  message : Members
  now : UtcTime
  session : ActiveFlightSession
  parsed : ParsedMessage
  accepted : parseQueueMessage jsonLoads message = .ok parsed

section
variable {jsonLoads : String → Except PyError Json} (m : Libm) (f : String)

def Accepted.update (a : Accepted jsonLoads) : Update :=
  (telemetryOf a.session a.parsed a.message a.now,a.now)

def tracked (messages : List (Accepted jsonLoads)) : Option DroneState :=
  (absorbed (haversineM m) f .empty (messages.map Accepted.update)).get f

def ReportsFinite (messages : List (Accepted jsonLoads)) : Prop :=
  ∀ s now, tracked m f messages = some s → FinitePayload (buildFinalizationPayload s now)

theorem reportsFiniteIff (messages : List (Accepted jsonLoads)) :
    Trace.Throughout (ReportsFinite m f) messages ↔
      Trace.Meets (fun before a => Clean (haversineM m) (tracked m f before) a.update.1)
        messages := by
  have step : ∀ before (a : Accepted jsonLoads), ∃ returned, Updated (haversineM m) f
      (tracked m f before) a.update (tracked m f (before ++ [a])) returned := by
    intro before a
    have updated := absorbUpdated (haversineM m) f
      (absorbed (haversineM m) f .empty (before.map Accepted.update)) a.update
    rw [← absorbedConcat] at updated
    exact ⟨_,by simpa only [tracked,List.map_append,List.map_cons,List.map_nil] using updated⟩
  refine Trace.goodIffGuarded (fun before => SoundAt (tracked m f before)) ?_ ?_ ?_ ?_ messages
  · intro s found
    cases found
  · intro before sound s now found
    exact payloadFinite.mpr (sound s found).finite
  · intro before a sound clean
    obtain ⟨returned,updated⟩ := step before a
    exact cleanKeeps sound updated clean
  · intro before a sound unclean good
    obtain ⟨returned,updated⟩ := step before a
    obtain ⟨s,found,infinite⟩ := uncleanShows sound updated unclean
    exact infinite (payloadFinite.mp (good s (march 0 9 0 0) found))

end

def nanPayload : Members :=
  [("drone_id",.str "drone-1"),("status",.obj [("location",.obj [("alt",.float .nan)])])]

def nanText : String :=
  "\x7b\"drone_id\": \"drone-1\", \"status\": \x7b\"location\": \x7b\"alt\": NaN\x7d\x7d\x7d"

def nanLoads (text : String) : Except PyError Json :=
  if text = nanText then .ok (.obj nanPayload) else .error (.valueError "Expecting value")

def nanMessage : Accepted nanLoads where
  message := [("payload",.str nanText),("timestamp",.str "2026-03-01T09:00:00+00:00")]
  now := march 0 9 0 0
  session := { flightSessionId := "flight-1", droneId := some "drone-1", registeredAt := "" }
  parsed := ⟨extractDroneId nanPayload,nanPayload,extractMissionStatus nanPayload,
    extractMode nanPayload,extractPosition nanPayload,extractArmed nanPayload⟩
  accepted := rfl

def atZero : Libm := ⟨fun _ => 0,fun _ => 0,fun _ => 1,fun _ => .ok 0,fun _ => .ok 0⟩

theorem nanAltitudeReported : ¬ ReportsFinite atZero "flight-1" [nanMessage] := by
  intro reports
  obtain ⟨q,same⟩ := reports _ (march 0 9 0 1) rfl .nan (.head _)
  cases same

end FlightMonitor.FiniteReports
