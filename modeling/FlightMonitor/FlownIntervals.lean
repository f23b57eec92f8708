import FlightMonitor.Finalizer
import FlightMonitor.Updates

/-! The flown intervals of a session's telemetry. The tracker opens and closes segments
message by message and the payload closes what is left open; read over the whole history,
the events are the maximal runs of armed messages. -/
namespace FlightMonitor.FlownIntervals
open PyValue IsoTime Updates

abbrev Observation := String × Option Bool

abbrev Mark := String × Bool

def marks (history : List Observation) : List Mark :=
  history.filterMap (fun o => o.2.map (fun armed => (o.1,armed)))

def closing (later : List Mark) : Option String := (later.find? (fun m => !m.2)).map Prod.fst

/-- The maximal armed runs: each starts at an armed message that does not follow an armed
one, and ends at the first disarmed message after it, if there is one. -/
def armedRuns : Bool → List Mark → List (String × Option String)
  | _,[] => []
  | _,(_,false) :: later => armedRuns false later
  | true,(_,true) :: later => armedRuns true later
  | false,(stamp,true) :: later => (stamp,closing later) :: armedRuns true later

def flownIntervals (first last : String) (history : List Observation) : List (String × String) :=
  if marks history = [] then [(first,last)]
  else (armedRuns false (marks history)).map (fun run => (run.1,run.2.getD last))

def flyingAfter : Bool → List Mark → Bool
  | flying,[] => flying
  | _,(_,armed) :: later => flyingAfter armed later

def closeLast (stamp : String) : List (String × Option String) → List (String × Option String)
  | [] => []
  | [run] => [(run.1,some (run.2.getD stamp))]
  | run :: next :: rest => run :: closeLast stamp (next :: rest)

theorem flyingConcat (flying : Bool) (ms : List Mark) (m : Mark) :
    flyingAfter flying (ms ++ [m]) = m.2 := by
  induction ms generalizing flying with
  | nil => rfl
  | cons head later ih => exact ih head.2

theorem closingConcatArmed (ms : List Mark) (stamp : String) :
    closing (ms ++ [(stamp,true)]) = closing ms := by
  simp [closing,List.find?_append]

theorem closingConcatDisarmed (ms : List Mark) (stamp : String) :
    closing (ms ++ [(stamp,false)]) = some ((closing ms).getD stamp) := by
  simp only [closing,List.find?_append]
  cases ms.find? (fun m => !m.2) <;> simp

theorem neverDisarmed {ms : List Mark} (none : closing ms = none) :
    armedRuns true ms = [] ∧ flyingAfter true ms = true := by
  induction ms with
  | nil => exact ⟨rfl,rfl⟩
  | cons head later ih =>
    obtain ⟨stamp,armed⟩ := head
    cases armed with
    | false => simp [closing] at none
    | true => exact ih (by simpa [closing] using none)

theorem armedRunsConcatArmed (flying : Bool) (ms : List Mark) (stamp : String) :
    armedRuns flying (ms ++ [(stamp,true)]) =
      armedRuns flying ms ++ if flyingAfter flying ms then [] else [(stamp,none)] := by
  induction ms generalizing flying with
  | nil => cases flying <;> rfl
  | cons head later ih =>
    obtain ⟨start,armed⟩ := head
    cases armed with
    | false => exact ih false
    | true =>
      cases flying with
      | true => exact ih true
      | false =>
        have later := ih true
        simp only [List.cons_append,armedRuns,closingConcatArmed,later]
        rfl

theorem armedRunsConcatDisarmed (flying : Bool) (ms : List Mark) (stamp : String) :
    armedRuns flying (ms ++ [(stamp,false)]) =
      if flyingAfter flying ms then closeLast stamp (armedRuns flying ms) else armedRuns flying ms := by
  induction ms generalizing flying with
  | nil => cases flying <;> rfl
  | cons head later ih =>
    obtain ⟨start,armed⟩ := head
    cases armed with
    | false => exact ih false
    | true =>
      cases flying with
      | true => exact ih true
      | false =>
        have after : flyingAfter false ((start,true) :: later) = flyingAfter true later := rfl
        simp only [List.cons_append,armedRuns,closingConcatDisarmed,ih,after]
        cases ends : closing later with
        | none => simp [neverDisarmed ends,closeLast]
        | some stop =>
          cases flyingAfter true later <;> cases armedRuns true later <;> simp [closeLast]

theorem onlyLastOpen (flying : Bool) (ms : List Mark) :
    ∀ run ∈ (armedRuns flying ms).dropLast, ∃ stop, run.2 = some stop ∧ (stop,false) ∈ ms := by
  induction ms generalizing flying with
  | nil => cases flying <;> simp [armedRuns]
  | cons head later ih =>
    obtain ⟨start,armed⟩ := head
    have tail : ∀ run ∈ (armedRuns armed later).dropLast,
        ∃ stop, run.2 = some stop ∧ (stop,false) ∈ (start,armed) :: later := by
      intro run mem
      obtain ⟨stop,same,inside⟩ := ih armed run mem
      exact ⟨stop,same,List.mem_cons_of_mem _ inside⟩
    cases armed with
    | false => exact tail
    | true =>
      cases flying with
      | true => exact tail
      | false =>
        intro run mem
        simp only [armedRuns] at mem
        cases rest : armedRuns true later with
        | nil => simp [rest] at mem
        | cons next more =>
          rw [rest,List.dropLast_cons_of_ne_nil (by simp),List.mem_cons] at mem
          rcases mem with rfl | mem
          · cases ends : closing later with
            | none => rw [(neverDisarmed ends).1] at rest; cases rest
            | some stop =>
              refine ⟨stop,rfl,List.mem_cons_of_mem _ ?_⟩
              obtain ⟨m,found,rfl⟩ := Option.map_eq_some_iff.mp ends
              have off : m.2 = false := by simpa using List.find?_some found
              have same : (m.1,false) = m := by rw [← off]
              rw [same]
              exact List.mem_of_find?_eq_some found
          · exact tail run (by rw [rest]; exact mem)

def windows (segments : List FlightSegment) : List (String × Option String) :=
  segments.map (fun s => (s.timeInUtc,s.timeOutUtc))

theorem windowsMeasured (voltage : Option PyFloat) (segments : List FlightSegment) :
    windows (measureOpen voltage segments) = windows segments := by
  cases voltage with
  | none => rfl
  | some v =>
    simp only [measureOpen]
    induction segments with
    | nil => rfl
    | cons segment rest ih =>
      cases rest with
      | nil => simp only [changeOpen,windows,List.map_cons,List.map_nil]; split <;> rfl
      | cons next rest => simpa [changeOpen,windows] using ih

theorem windowsClosed (stamp : String) (segments : List FlightSegment) :
    windows (changeOpen (fun s => { s with timeOutUtc := some stamp }) segments) =
      closeLast stamp (windows segments) := by
  induction segments with
  | nil => rfl
  | cons segment rest ih =>
    cases rest with
    | nil =>
      cases ends : segment.timeOutUtc <;> simp [changeOpen,windows,closeLast,ends]
    | cons next rest => simpa [changeOpen,windows,closeLast] using ih

structure Detects (state : DroneState) (history : List Observation) : Prop where
  seen : state.armedFieldSeen = true ↔ marks history ≠ []
  last : state.lastArmed = some true ↔ flyingAfter false (marks history) = true
  segments : windows state.segments = armedRuns false (marks history)

theorem marksConcat (history : List Observation) (o : Observation) :
    marks (history ++ [o]) = marks history ++ (o.2.map (fun armed => (o.1,armed))).toList := by
  simp only [marks,List.filterMap_append,List.filterMap_cons,List.filterMap_nil]
  cases o.2 <;> rfl

theorem handleArmStateDetects {state : DroneState} {history : List Observation}
    (detects : Detects state history) (armed : Option Bool) (stamp : String)
    (voltage : Option PyFloat) :
    Detects (handleArmState state armed stamp voltage) (history ++ [(stamp,armed)]) := by
  cases armed with
  | none =>
    have same : marks (history ++ [(stamp,none)]) = marks history := by simp [marksConcat]
    exact ⟨same ▸ detects.seen,same ▸ detects.last,same ▸ detects.segments⟩
  | some armed =>
    have more : marks (history ++ [(stamp,some armed)]) = marks history ++ [(stamp,armed)] := by
      simp [marksConcat]
    refine ⟨by simp [handleArmState,more],by simp [handleArmState,more,flyingConcat],?_⟩
    rw [more]
    cases armed with
    | true =>
      rw [armedRunsConcatArmed,← detects.segments]
      simp only [handleArmState,true_and,not_true_eq_false,false_and,if_false,windowsMeasured]
      by_cases flying : state.lastArmed = some true
      · simp [flying,detects.last.mp flying]
      · have landed : flyingAfter false (marks history) ≠ true := fun h => flying (detects.last.mpr h)
        simp [flying,landed,windows]
    | false =>
      rw [armedRunsConcatDisarmed,← detects.segments]
      simp only [handleArmState,Bool.false_eq_true,false_and,if_false,not_false_eq_true,true_and]
      by_cases flying : state.lastArmed = some true
      · rw [if_pos flying,if_pos (detects.last.mp flying),windowsClosed,windowsMeasured]
      · rw [if_neg flying,if_neg (fun h => flying (detects.last.mpr h)),windowsMeasured]

def foldUpdates (haversine : Haversine) (f : String) :
    DroneStateTracker → List (Telemetry × UtcTime) → Except PyError DroneStateTracker
  | tracker,[] => .ok tracker
  | tracker,(u,now) :: rest =>
    match tracker.update haversine f u now with
    | (tracker,.ok _) => foldUpdates haversine f tracker rest
    | (_,.error e) => .error e

def observation (message : Telemetry × UtcTime) : Observation :=
  (message.1.observedAt message.2,message.1.armed)

structure Summarises (state : DroneState) (history : List Observation) : Prop where
  first : (history.map Prod.fst).head? = some state.firstSeen
  last : (history.map Prod.fst).getLast? = some state.lastSeen
  detects : Detects state history

theorem createSummarises (u : Telemetry) (f stamp : String) (altitude voltage) :
    Summarises (handleArmState (u.create f stamp altitude voltage) u.armed stamp voltage)
      [(stamp,u.armed)] := by
  have blank : Detects (u.create f stamp altitude voltage) [] :=
    ⟨by simp [Telemetry.create,marks],by simp [Telemetry.create,marks,flyingAfter],
      by simp [Telemetry.create,marks,windows,armedRuns]⟩
  exact ⟨by simp [Telemetry.create],by simp [Telemetry.create],handleArmStateDetects blank ..⟩

theorem updateSummarises {state : DroneState} {history : List Observation}
    (known : Summarises state history) (u : Telemetry) (stamp : String) (metres altitude voltage) :
    Summarises (handleArmState (u.accumulate (u.receive state stamp) metres altitude voltage)
      u.armed stamp voltage) (history ++ [(stamp,u.armed)]) := by
  have same : Detects (u.accumulate (u.receive state stamp) metres altitude voltage) history :=
    ⟨known.detects.seen,known.detects.last,known.detects.segments⟩
  refine ⟨?_,?_,handleArmStateDetects same ..⟩
  · rw [List.map_append,List.head?_append,known.first]
    simp [Telemetry.accumulate,Telemetry.receive]
  · simp [Telemetry.accumulate,Telemetry.receive]

theorem receiveSummarises {state : DroneState} {history : List Observation}
    (known : Summarises state history) (u : Telemetry) (stamp : String) :
    Summarises (u.receive state stamp) (history ++ [(stamp,none)]) := by
  have same : marks (history ++ [(stamp,none)]) = marks history := by simp [marksConcat]
  refine ⟨?_,by simp [Telemetry.receive],same ▸ known.detects.seen,same ▸ known.detects.last,
    same ▸ known.detects.segments⟩
  rw [List.map_append,List.head?_append,known.first]
  rfl

/-! A message whose update raises at the distance is noted without its arm field, and one whose
update raises before that is not noted. -/

def folded (haversine : Haversine) (tracker : DroneStateTracker) (f : String) (u : Telemetry)
    (now : UtcTime) : Observation :=
  (u.observedAt now,
    match leg haversine ((tracker.get f).bind DroneState.position) u.position with
    | .ok _ => u.armed
    | .error _ => none)

def observe (haversine : Haversine) (f : String) (history : List Observation)
    (tracker : DroneStateTracker) (u : Update) : List Observation :=
  match u.1.readings with
  | .ok _ => history ++ [folded haversine tracker f u.1 u.2]
  | .error _ => history

def observations (haversine : Haversine) (f : String) (tracker : DroneStateTracker)
    (updates : List Update) : List Observation :=
  Trace.history (absorb haversine f) tracker (observe haversine f) [] updates

structure Known (live : Option DroneState) (history : List Observation) : Prop where
  blank : live = none → history = []
  summary : ∀ state, live = some state → Summarises state history

theorem updateFolds (haversine : Haversine) {tracker : DroneStateTracker} {f : String}
    {history : List Observation} (known : Known (tracker.get f) history) {u : Telemetry}
    {r : Option PyFloat × Option PyFloat} (read : u.readings = .ok r) (now : UtcTime) :
    ∃ state, (tracker.update haversine f u now).1.get f = some state ∧
      Summarises state (history ++ [folded haversine tracker f u now]) := by
  simp only [DroneStateTracker.update,read,folded]
  cases found : tracker.get f with
  | none =>
    cases known.blank found
    exact ⟨_,by rw [DroneStateTracker.getPut]; exact if_pos (by simp [Telemetry.create]),
      createSummarises u f (u.observedAt now) r.1 r.2⟩
  | some existing =>
    have filed := DroneStateTracker.stateFiled found
    have summary := known.summary existing found
    simp only [Option.bind_some]
    cases leg haversine existing.position u.position with
    | error e =>
      refine ⟨_,by rw [DroneStateTracker.getPut]; exact if_pos filed,?_⟩
      exact receiveSummarises summary u (u.observedAt now)
    | ok metres =>
      exact ⟨_,by rw [DroneStateTracker.getPut]; exact if_pos (by simp [Telemetry.accumulate,
        Telemetry.receive,filed]),updateSummarises summary u (u.observedAt now) metres r.1 r.2⟩

theorem observedNonempty (u : Telemetry) (now : UtcTime) : u.observedAt now ≠ "" := by
  unfold Telemetry.observedAt
  split
  · split
    · exact isoformatNonempty now.val
    · assumption
  · exact isoformatNonempty now.val

section
variable {haversine : Haversine} {f : String}

theorem absorbKnown {tracker : DroneStateTracker} {history : List Observation}
    (known : Known (tracker.get f) history) (u : Update) :
    Known ((absorb haversine f tracker u).get f) (observe haversine f history tracker u) := by
  cases read : u.1.readings with
  | error e =>
    have refused : absorb haversine f tracker u = tracker := by
      simp only [absorb,DroneStateTracker.update,read]
    simpa only [observe,read,refused] using known
  | ok r =>
    obtain ⟨state,stored,summary⟩ := updateFolds haversine known read u.2
    have stored : (absorb haversine f tracker u).get f = some state := stored
    simp only [observe,read,stored]
    refine ⟨fun gone => (by cases gone),fun other same => ?_⟩
    cases same
    exact summary

theorem absorbedKnown {tracker : DroneStateTracker} (fresh : tracker.get f = none)
    (updates : List Update) : Known ((absorbed haversine f tracker updates).get f)
      (observations haversine f tracker updates) := by
  induction updates using List.reverseRecOn with
  | nil => exact ⟨fun _ => rfl,fun state live => (by cases fresh.symm.trans live)⟩
  | append_singleton updates u ih =>
    rw [absorbedConcat,observations,Trace.historyConcat]
    exact absorbKnown ih u

theorem observationsStamped (tracker : DroneStateTracker) (updates : List Update) :
    ∀ stamp ∈ (observations haversine f tracker updates).map Prod.fst, stamp ≠ "" := by
  induction updates using List.reverseRecOn with
  | nil => simp [observations]
  | append_singleton updates u ih =>
    intro stamp mem
    rw [observations,Trace.historyConcat,observe] at mem
    split at mem
    · rw [List.map_append,List.mem_append] at mem
      rcases mem with early | last
      · exact ih stamp early
      · rw [List.mem_singleton.mp last]
        exact observedNonempty u.1 u.2
    · exact ih stamp mem

theorem returnedFolds {tracker : DroneStateTracker} {u : Telemetry} {now : UtcTime}
    {state : DroneState} (returned : (tracker.update haversine f u now).2 = .ok state) :
    ∃ r, u.readings = .ok r ∧
      folded haversine tracker f u now = (u.observedAt now,u.armed) := by
  unfold DroneStateTracker.update at returned
  cases read : u.readings with
  | error e => simp [read] at returned
  | ok r =>
    refine ⟨r,rfl,?_⟩
    simp only [read] at returned
    cases found : tracker.get f with
    | none => simp only [folded,found]; rfl
    | some existing =>
      simp only [found] at returned
      cases flown : leg haversine existing.position u.position with
      | error e => simp [flown] at returned
      | ok metres => simp only [folded,found,Option.bind_some,flown]

theorem foldAbsorbs {messages : List Update} {tracker after : DroneStateTracker}
    (returned : foldUpdates haversine f tracker messages = .ok after) (history : List Observation) :
    absorbed haversine f tracker messages = after ∧
      Trace.history (absorb haversine f) tracker (observe haversine f) history messages =
        history ++ messages.map observation := by
  induction messages generalizing tracker history with
  | nil => cases returned; simp
  | cons message rest ih =>
    obtain ⟨u,now⟩ := message
    cases update : tracker.update haversine f u now with
    | mk next outcome =>
      cases outcome with
      | error e => simp [foldUpdates,update] at returned
      | ok state =>
        simp only [foldUpdates,update] at returned
        obtain ⟨r,read,noted⟩ := returnedFolds (congrArg Prod.snd update)
        have onward : absorb haversine f tracker (u,now) = next := congrArg Prod.fst update
        have seen : observe haversine f history tracker (u,now) =
            history ++ [observation (u,now)] := by simp only [observe,read,noted,observation]
        obtain ⟨same,listed⟩ := ih returned (history ++ [observation (u,now)])
        constructor
        · exact (congrArg (absorbed haversine f · rest) onward).trans same
        · rw [List.map_cons,List.append_cons,← listed,← seen,← onward]
          rfl

end

def eventWindow : PayloadEvent → Option (String × String)
  | .flightSegment timeIn timeOut _ _ => some (timeIn,timeOut)
  | _ => none

def inUtcZ (now : UtcTime) (interval : String × String) : String × String :=
  (toUtcZ now (some interval.1),toUtcZ now (some interval.2))

theorem marksStamps {history : List Observation} {m : Mark} (mem : m ∈ marks history) :
    m.1 ∈ history.map Prod.fst := by
  obtain ⟨o,inside,marked⟩ := List.mem_filterMap.mp mem
  obtain ⟨armed,-,rfl⟩ := Option.map_eq_some_iff.mp marked
  exact List.mem_map.mpr ⟨o,inside,rfl⟩

theorem closingStamp {ms : List Mark} {stop : String} (ends : closing ms = some stop) :
    stop ∈ ms.map Prod.fst := by
  obtain ⟨m,found,rfl⟩ := Option.map_eq_some_iff.mp ends
  exact List.mem_map.mpr ⟨m,List.mem_of_find?_eq_some found,rfl⟩

theorem runStamps (flying : Bool) (ms : List Mark) {run : String × Option String}
    (mem : run ∈ armedRuns flying ms) : ∀ stop, run.2 = some stop → stop ∈ ms.map Prod.fst := by
  induction ms generalizing flying with
  | nil => cases flying <;> simp [armedRuns] at mem
  | cons head later ih =>
    obtain ⟨start,armed⟩ := head
    have tail : run ∈ armedRuns armed later →
        ∀ stop, run.2 = some stop → stop ∈ ((start,armed) :: later).map Prod.fst :=
      fun mem stop same => List.mem_cons_of_mem _ (ih armed mem stop same)
    cases armed with
    | false => exact tail (by cases flying <;> exact mem)
    | true =>
      cases flying with
      | true => exact tail mem
      | false =>
        rcases List.mem_cons.mp mem with rfl | mem
        · intro stop ends
          exact List.mem_cons_of_mem _ (closingStamp ends)
        · exact tail mem

theorem payloadWindows {state : DroneState} {history : List Observation}
    (summary : Summarises state history)
    (stamped : ∀ stamp ∈ history.map Prod.fst, stamp ≠ "") (now : UtcTime) :
    (buildFinalizationPayload state now).events.filterMap eventWindow =
      (flownIntervals state.firstSeen state.lastSeen history).map (inUtcZ now) := by
  have exits : (exitEvents state now).filterMap eventWindow = [] := by
    unfold exitEvents; split <;> rfl
  simp only [buildFinalizationPayload,List.filterMap_append,exits,List.append_nil,segmentEvents,
    flownIntervals]
  by_cases seen : marks history = []
  · have unseen : ¬ state.armedFieldSeen = true := fun h => (summary.detects.seen.mp h) seen
    rw [if_pos seen,if_neg unseen]
    rfl
  · rw [if_neg seen,if_pos (summary.detects.seen.mpr seen),← summary.detects.segments]
    simp only [windows,List.filterMap_map,List.map_map]
    rw [← List.filterMap_eq_map]
    refine List.filterMap_congr (fun segment mem => ?_)
    have closed : segment.timeOut state.lastSeen = segment.timeOutUtc.getD state.lastSeen := by
      unfold FlightSegment.timeOut
      cases ends : segment.timeOutUtc with
      | none => rfl
      | some stamp =>
        have run : (segment.timeInUtc,segment.timeOutUtc) ∈ armedRuns false (marks history) := by
          rw [← summary.detects.segments]
          exact List.mem_map.mpr ⟨segment,mem,rfl⟩
        obtain ⟨m,inside,same⟩ := List.mem_map.mp (runStamps _ _ run stamp ends)
        have named : stamp ≠ "" := same ▸ stamped m.1 (marksStamps inside)
        simp [named]
    simp [segmentEvent,eventWindow,inUtcZ,closed]

theorem absorbedIntervals {haversine : Haversine} {f : String} {tracker : DroneStateTracker}
    (fresh : tracker.get f = none) (updates : List Update) {state : DroneState}
    (stored : (absorbed haversine f tracker updates).get f = some state) (now : UtcTime) :
    (buildFinalizationPayload state now).events.filterMap eventWindow =
      (flownIntervals state.firstSeen state.lastSeen (observations haversine f tracker updates)).map
        (inUtcZ now) :=
  payloadWindows ((absorbedKnown fresh updates).summary state stored)
    (observationsStamped tracker updates) now

theorem segmentEventsAreFlownIntervals (haversine : Haversine) (f : String)
    (tracker after : DroneStateTracker) (message : Telemetry × UtcTime)
    (messages : List (Telemetry × UtcTime)) (fresh : tracker.get f = none)
    (folded : foldUpdates haversine f tracker (message :: messages) = .ok after) :
    let history := (message :: messages).map observation
    let first := (observation message).1
    let last := (observation ((message :: messages).getLast (by simp))).1
    (∃ state, after.get f = some state ∧ ∀ now,
      (buildFinalizationPayload state now).events.filterMap eventWindow =
        (flownIntervals first last history).map (inUtcZ now)) ∧
    ∀ run ∈ (armedRuns false (marks history)).dropLast,
      ∃ stop, run.2 = some stop ∧ (stop,false) ∈ marks history := by
  intro history first last
  refine ⟨?_,onlyLastOpen false (marks history)⟩
  obtain ⟨rfl,noted⟩ := foldAbsorbs folded []
  have noted : observations haversine f tracker (message :: messages) = history := noted
  have known := @absorbedKnown haversine f tracker fresh (message :: messages)
  rw [noted] at known
  cases stored : (absorbed haversine f tracker (message :: messages)).get f with
  | none => exact absurd (known.blank stored) (by simp [history])
  | some state =>
    have summary := known.summary state stored
    have start : first = state.firstSeen := Option.some.inj summary.first
    have stop : (history.map Prod.fst).getLast? = some last := by
      rw [List.map_map,List.getLast?_map,List.getLast?_eq_some_getLast (by simp)]
      rfl
    refine ⟨state,rfl,fun now => ?_⟩
    rw [start,Option.some.inj (stop.symm.trans summary.last),← noted]
    exact absorbedIntervals fresh _ stored now

def reading (stamp : String) (armed : Option Bool) : Telemetry where
  droneId := "drone-1"
  sessionSource := "webhook"
  rawMessage := []
  parsedPayload := []
  missionStatus := .null
  mode := .null
  position := none
  armed := armed
  lastSeen := some stamp

def evening : UtcTime := ⟨⟨⟨2026,3,9,18,0,0,0,some 0⟩,by decide⟩,rfl⟩

def landing : List (Telemetry × UtcTime) :=
  [(reading "2026-03-09T18:00:10+00:00" none,evening),
    (reading "2026-03-09T18:00:20+00:00" (some false),evening),
    (reading "2026-03-09T18:00:30+00:00" none,evening)]

theorem landedFlightIsOneInterval : ∃ after state,
    foldUpdates (fun _ _ _ _ => .ok .zero) "flight-A" .empty
      ((reading "2026-03-09T18:00:00+00:00" (some true),evening) :: landing) = .ok after ∧
    after.get "flight-A" = some state ∧ ∀ now,
      (buildFinalizationPayload state now).events.filterMap eventWindow =
        [inUtcZ now ("2026-03-09T18:00:00+00:00","2026-03-09T18:00:20+00:00")] := by
  obtain ⟨⟨state,found,windows⟩,-⟩ := segmentEventsAreFlownIntervals (fun _ _ _ _ => .ok .zero)
    "flight-A" .empty _ (reading "2026-03-09T18:00:00+00:00" (some true),evening) landing rfl rfl
  exact ⟨_,state,rfl,found,windows⟩

end FlightMonitor.FlownIntervals
