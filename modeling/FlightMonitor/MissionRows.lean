import FlightMonitor.FailedMessages
import FlightMonitor.Updates

/-! The mission row of a tracked state. Workers share the queue, the registry and the tracker, and
none of them waits while it handles a message, so a run is a sequence of turns, whichever worker's,
and of what the handlers and tasks do to the two stores between them. The mark on the state is
what keeps a second row away. -/
namespace FlightMonitor.MissionRows
open PyValue IsoTime SessionModes Updates FailedMessages

inductive Move where
  | turn (message : Members) (now : UtcTime) (fresh : Fresh)
  | registryChanged (registry : KeyedRegistry)
  | exitMirrored (f requestedAt reason : String)
  | popped (f : String)

def turnOf (message : Members) (now : UtcTime) (fresh : Fresh) : WorkerTurn :=
  ⟨message,now,fresh,.ok ()⟩

def step (p : Pipeline) (live : Live) : Move → Live
  | .turn message now fresh => (telemetryWorkerTurn p live (turnOf message now fresh)).1
  | .registryChanged registry => { live with registry := registry }
  | .exitMirrored f requestedAt reason =>
    { live with tracker := mirrorExit live.tracker f requestedAt reason }
  | .popped f => { live with tracker := live.tracker.pop f }

def after (p : Pipeline) (start : Live) (moves : List Move) : Live :=
  Trace.final (step p) start moves

@[simp] theorem afterNil (p : Pipeline) (start : Live) : after p start [] = start := rfl

@[simp] theorem afterConcat (p : Pipeline) (start : Live) (moves : List Move) (m : Move) :
    after p start (moves ++ [m]) = step p (after p start moves) m := Trace.finalConcat ..

def terminalUpdate (p : Pipeline) (f : String) (live : Live) : Move → Option DroneState
  | .turn message now fresh =>
    match sessionUpdateCall p live.registry (turnOf message now fresh) with
    | .error _ => none
    | .ok (_,g,u) =>
      if g = f ∧ isTerminalMissionStatus u.missionStatus then
        (live.tracker.update p.env.haversine g u now).2.toOption
      else none
  | .registryChanged _ | .exitMirrored .. | .popped _ => none

def FiniteAltitude (p : Pipeline) : Move → Prop
  | .turn message _ _ => ∀ parsed x, parseQueueMessage p.env.jsonLoads message = .ok parsed →
      safeFloat ((parsed.position.map Position.altitude).getD .null) = .ok (some x) → Numeric x
  | .registryChanged _ | .exitMirrored .. | .popped _ => True

def Tracked (p : Pipeline) (f : String) (start : Live) (life : List Move) : Prop :=
  Trace.Meets (fun before m => ((after p start (before ++ [m])).tracker.get f).isSome) life

def ofSession (f : String) (rows : List MissionRow) : List MissionRow :=
  rows.filter (fun row => row.sessionId = f)

inductive WrittenOnce : Option DroneState → List MissionRow → Prop where
  | never : WrittenOnce none []
  | once (state : DroneState) (row : MissionRow) (build : buildRow state = .ok row) :
      WrittenOnce (some state) [row]

structure Keeps (live next : Live) : Prop where
  sessions : ∀ f, live.registry.Registered f → next.registry.Registered f
  states : ∀ f, (live.tracker.get f).isSome → (next.tracker.get f).isSome

/-- A life of session `f`'s state: its one row, if any, no row after it, and nothing that a row
takes away. -/
structure RowOnce (p : Pipeline) (f : String) (start : Live) (life : List Move) : Prop where
  row : ∃ first added,
    Trace.First (fun before m => terminalUpdate p f (after p start before) m) life first ∧
    (after p start life).rows = start.rows ++ added ∧ WrittenOnce first (ofSession f added)
  settled : Trace.Meets (fun before m =>
    ¬ Trace.Meets (fun early m => terminalUpdate p f (after p start early) m = none) before →
    ofSession f (after p start (before ++ [m])).rows = ofSession f (after p start before).rows) life
  keeps : Trace.Meets (fun before m =>
    (after p start (before ++ [m])).rows ≠ (after p start before).rows →
    Keeps (after p start before) (after p start (before ++ [m]))) life

def Leveled (state : Option DroneState) : Prop :=
  ∀ s x, state = some s → s.maxAltitude = some x → Numeric x

def marked (state : Option DroneState) : Bool := (state.map DroneState.rowWritten).getD false

theorem armStateRow (s : DroneState) (armed : Option Bool) (stamp : String)
    (voltage : Option PyFloat) :
    (handleArmState s armed stamp voltage).rowWritten = s.rowWritten ∧
    (handleArmState s armed stamp voltage).missionStatus = s.missionStatus ∧
    (handleArmState s armed stamp voltage).maxAltitude = s.maxAltitude := by
  cases armed with
  | none => exact ⟨rfl,rfl,rfl⟩
  | some armed => exact ⟨rfl,rfl,rfl⟩

theorem maxNumeric {k x : PyFloat} (kept : Numeric k) (read : Numeric x) :
    Numeric (PyFloat.max k x) := by
  unfold PyFloat.max
  split
  · exact read
  · exact kept

section
variable {haversine : Haversine} {f : String} {live left : Option DroneState} {u : Update}
  {returned : Bool} (updated : Updated haversine f live u left returned)
include updated

theorem updatedMark : marked left = marked live := by
  cases updated with
  | refused => rfl
  | created altitude voltage _ fresh =>
    subst fresh
    exact (armStateRow ..).1
  | broken _ _ _ existing found =>
    subst found
    rfl
  | recorded altitude voltage _ existing found metres =>
    subst found
    exact (armStateRow ..).1

theorem updatedStatus (done : returned = true) :
    ∃ s, left = some s ∧ s.missionStatus = u.1.missionStatus := by
  cases updated with
  | refused => cases done
  | created => exact ⟨_,rfl,(armStateRow ..).2.1⟩
  | broken => cases done
  | recorded => exact ⟨_,rfl,(armStateRow ..).2.1⟩

theorem updatedLevel (finite : ∀ altitude voltage x, u.1.readings = .ok (altitude,voltage) →
    altitude = some x → Numeric x) (level : Leveled live) : Leveled left := by
  cases updated with
  | refused => exact level
  | created altitude voltage read =>
    intro s x here high
    cases here
    rw [(armStateRow ..).2.2] at high
    exact finite altitude voltage x read high
  | broken altitude voltage read existing found =>
    intro s x here high
    cases here
    exact level existing x found high
  | recorded altitude voltage read existing found metres =>
    intro s x here high
    cases here
    rw [(armStateRow ..).2.2] at high
    simp only [Telemetry.accumulate,Telemetry.receive] at high
    cases altitude with
    | none => exact level existing x found high
    | some reading =>
      have numeric := finite _ voltage reading read rfl
      cases kept : existing.maxAltitude with
      | none =>
        rw [kept] at high
        exact finite _ voltage x read high
      | some top =>
        rw [kept] at high
        obtain rfl := Option.some.inj high
        exact maxNumeric (level existing top found kept) numeric

end

theorem rowBuilt {state : DroneState} (level : Leveled (some state)) :
    ∃ row, buildRow state = .ok row := by
  unfold buildRow
  cases high : state.maxAltitude with
  | none => exact ⟨_,rfl⟩
  | some x =>
    obtain ⟨q,rfl⟩ := level state x rfl high
    exact ⟨_,rfl⟩

theorem rowSession {state : DroneState} {row : MissionRow} (build : buildRow state = .ok row) :
    row.sessionId = state.flightSessionId := by
  unfold buildRow at build
  cases high : state.maxAltitude with
  | none =>
    simp only [high] at build
    cases build
    rfl
  | some x =>
    simp only [high] at build
    obtain ⟨_,-,last⟩ := bindOk build
    cases last
    rfl

inductive Moved (p : Pipeline) (f : String) (live : Live) (m : Move) (next : Live) : Prop where
  | quiet (added : List MissionRow) (rows : next.rows = live.rows ++ added)
      (foreign : ofSession f added = [])
      (idle : terminalUpdate p f live m = none ∨ marked (live.tracker.get f) = true)
      (mark : marked (next.tracker.get f) = marked (live.tracker.get f))
  | wrote (state : DroneState) (row : MissionRow)
      (terminal : terminalUpdate p f live m = some state) (build : buildRow state = .ok row)
      (rows : next.rows = live.rows ++ [row]) (own : row.sessionId = f)
      (unmarked : marked (live.tracker.get f) = false)
      (mark : marked (next.tracker.get f) = true)

section
variable {p : Pipeline} {live : Live} {message : Members} {now : UtcTime} {fresh : Fresh}
  {reg : KeyedRegistry} {g : String} {u : Telemetry}
  (call : sessionUpdateCall p live.registry (turnOf message now fresh) = .ok (reg,g,u))
include call

theorem raisedNoTerminal {tracker : DroneStateTracker} {e : PyError}
    (update : live.tracker.update p.env.haversine g u now = (tracker,.error e)) (f : String) :
    terminalUpdate p f live (.turn message now fresh) = none := by
  simp only [terminalUpdate,call,update,Except.toOption]
  split <;> rfl

theorem returnedTerminal {tracker : DroneStateTracker} {state : DroneState}
    (update : live.tracker.update p.env.haversine g u now = (tracker,.ok state)) (f : String) :
    terminalUpdate p f live (.turn message now fresh) =
      if g = f ∧ isTerminalMissionStatus state.missionStatus then some state else none := by
  have absorbed := absorbUpdated p.env.haversine g live.tracker (u,now)
  simp only [absorb,returns,update] at absorbed
  obtain ⟨left,here,status⟩ := updatedStatus absorbed rfl
  obtain ⟨-,filed,rfl⟩ := returnedState update
  rw [DroneStateTracker.getPut,if_pos filed] at here
  obtain rfl := Option.some.inj here
  simp only [terminalUpdate,call,update,Except.toOption,status]

theorem calledFinite (finite : FiniteAltitude p (.turn message now fresh)) :
    ∀ altitude voltage x, u.readings = .ok (altitude,voltage) → altitude = some x → Numeric x := by
  intro altitude voltage x read present
  obtain ⟨parsed,_,session,parse,-,-,-,telemetry⟩ := sessionUpdateCalled call
  obtain ⟨altitude',converted,last⟩ := bindOk read
  obtain ⟨voltage',-,last⟩ := bindOk last
  cases last
  subst present telemetry
  exact finite parsed x parse converted

end

section
variable {haversine : Haversine} {tracker tracker' : DroneStateTracker} {g : String} {u : Telemetry}
  {now : UtcTime} {returned : Except PyError DroneState}
  (update : tracker.update haversine g u now = (tracker',returned))
include update

theorem markAfter (f : String) : marked (tracker'.get f) = marked (tracker.get f) := by
  by_cases own : g = f
  · subst own
    have absorbed := absorbUpdated haversine g tracker (u,now)
    simp only [absorb,update] at absorbed
    exact updatedMark absorbed
  · have apart := updateApart haversine tracker u now own
    rw [update] at apart
    rw [apart]

theorem levelAfter {f : String} (finite : ∀ altitude voltage x, u.readings = .ok (altitude,voltage) →
    altitude = some x → Numeric x) (level : Leveled (tracker.get f)) : Leveled (tracker'.get f) := by
  by_cases own : g = f
  · subst own
    have absorbed := absorbUpdated haversine g tracker (u,now)
    simp only [absorb,update] at absorbed
    exact updatedLevel absorbed finite level
  · have apart := updateApart haversine tracker u now own
    rw [update] at apart
    rw [apart]
    exact level

end

theorem ownState {tracker tracker' : DroneStateTracker} {haversine : Haversine} {g : String}
    {u : Telemetry} {now : UtcTime} {state : DroneState}
    (update : tracker.update haversine g u now = (tracker',.ok state)) :
    tracker'.get g = some state := by
  obtain ⟨-,filed,rfl⟩ := returnedState update
  rw [DroneStateTracker.getPut,if_pos filed]

theorem stepHandled (p : Pipeline) (live : Live) (message : Members) (now : UtcTime) (fresh : Fresh) :
    ∃ outcome, Handled p live (turnOf message now fresh) (step p live (.turn message now fresh))
      outcome := ⟨_,turnHandled p live (turnOf message now fresh)⟩

theorem turnMoved {p : Pipeline} {f : String} {live : Live} {message : Members} {now : UtcTime}
    {fresh : Fresh} (finite : FiniteAltitude p (.turn message now fresh))
    (level : Leveled (live.tracker.get f)) :
    Moved p f live (.turn message now fresh) (step p live (.turn message now fresh)) := by
  obtain ⟨outcome,handled⟩ := stepHandled p live message now fresh
  generalize step p live (.turn message now fresh) = next at handled ⊢
  cases handled with
  | passed _ call =>
    refine .quiet [] (by simp) rfl (.inl ?_) rfl
    simp only [terminalUpdate,call]
  | broken reg g u tracker e call update =>
    exact .quiet [] (by simp) rfl (.inl (raisedNoTerminal call update f)) (markAfter update f)
  | noted reg g u tracker state call update calm =>
    have mark := markAfter update f
    refine .quiet [] (by simp) rfl ?_ mark
    rw [returnedTerminal call update f]
    by_cases ends : g = f ∧ isTerminalMissionStatus state.missionStatus = true
    · obtain ⟨rfl,terminal⟩ := ends
      have written : state.rowWritten = true := by
        by_contra unwritten
        exact calm ⟨terminal,by simpa using unwritten⟩
      refine .inr ?_
      rw [← mark,ownState update]
      exact written
    · exact .inl (if_neg ends)
  | unbuilt reg g u tracker state e call update due build =>
    by_cases own : g = f
    · subst own
      have level' := levelAfter update (calledFinite call finite) level
      rw [ownState update] at level'
      obtain ⟨row,built⟩ := rowBuilt level'
      rw [build] at built
      cases built
    · refine .quiet [] (by simp) rfl (.inl ?_) (markAfter update f)
      rw [returnedTerminal call update f,if_neg (fun ends => own ends.1)]
  | unwritten reg g u tracker state row e call update due build write => cases write
  | wrote reg g u tracker state row call update due build write =>
    have mark := markAfter update f
    obtain ⟨-,filed,-⟩ := returnedState update
    by_cases own : g = f
    · subst own
      refine .wrote state row ?_ build rfl ((rowSession build).trans filed) ?_ ?_
      · rw [returnedTerminal call update g,if_pos ⟨rfl,due.1⟩]
      · rw [← mark,ownState update]
        exact due.2
      · simp only [DroneStateTracker.getPut,if_pos filed,marked,Option.map,Option.getD]
    · have foreign : row.sessionId ≠ f := by
        rw [rowSession build,filed]
        exact own
      refine .quiet [row] rfl (by simp [ofSession,foreign]) (.inl ?_) ?_
      · rw [returnedTerminal call update f,if_neg (fun ends => own ends.1)]
      · simp only [DroneStateTracker.getPut,filed,if_neg own]
        exact mark

theorem turnLevel {p : Pipeline} {f : String} {live : Live} {message : Members} {now : UtcTime}
    {fresh : Fresh} (finite : FiniteAltitude p (.turn message now fresh))
    (level : Leveled (live.tracker.get f)) :
    Leveled ((step p live (.turn message now fresh)).tracker.get f) := by
  obtain ⟨outcome,handled⟩ := stepHandled p live message now fresh
  generalize step p live (.turn message now fresh) = next at handled ⊢
  cases handled with
  | passed => exact level
  | broken reg g u tracker e call update => exact levelAfter update (calledFinite call finite) level
  | noted reg g u tracker state call update =>
    exact levelAfter update (calledFinite call finite) level
  | unbuilt reg g u tracker state e call update =>
    exact levelAfter update (calledFinite call finite) level
  | unwritten reg g u tracker state row e call update due build write => cases write
  | wrote reg g u tracker state row call update =>
    have level' := levelAfter update (calledFinite call finite) level
    obtain ⟨-,filed,-⟩ := returnedState update
    rw [DroneStateTracker.getPut]
    split
    · rename_i own
      rw [← own,filed,ownState update] at level'
      intro s x here high
      cases here
      exact level' state x rfl high
    · exact level'

theorem exitMirroredState {state : Option DroneState} (requestedAt reason : String) :
    marked (state.map (DroneState.stampExit requestedAt reason)) = marked state ∧
      (Leveled state → Leveled (state.map (DroneState.stampExit requestedAt reason))) := by
  cases state with
  | none => exact ⟨rfl,id⟩
  | some state =>
    obtain ⟨_,_,same⟩ := liveStamped requestedAt reason state
    rw [Option.map_some,same]
    refine ⟨rfl,fun level s x here high => ?_⟩
    cases here
    exact level state x rfl high

theorem moveLevel {p : Pipeline} {f : String} {live : Live} {m : Move} (finite : FiniteAltitude p m)
    (level : Leveled (live.tracker.get f)) : Leveled ((step p live m).tracker.get f) := by
  cases m with
  | turn message now fresh => exact turnLevel finite level
  | registryChanged => exact level
  | exitMirrored g requestedAt reason =>
    simp only [step,getMirrorExit]
    split
    · exact (exitMirroredState requestedAt reason).2 level
    · exact level
  | popped g =>
    simp only [step,DroneStateTracker.getPop]
    split
    · intro s x here
      cases here
    · exact level

theorem moveMoved {p : Pipeline} {f : String} {live : Live} {m : Move} (finite : FiniteAltitude p m)
    (level : Leveled (live.tracker.get f)) (tracked : ((step p live m).tracker.get f).isSome) :
    Moved p f live m (step p live m) := by
  cases m with
  | turn message now fresh => exact turnMoved finite level
  | registryChanged => exact .quiet [] (by simp [step]) rfl (.inl rfl) rfl
  | exitMirrored g requestedAt reason =>
    refine .quiet [] (by simp [step]) rfl (.inl rfl) ?_
    simp only [step,getMirrorExit]
    split
    · exact (exitMirroredState requestedAt reason).1
    · rfl
  | popped g =>
    refine .quiet [] (by simp [step]) rfl (.inl rfl) ?_
    simp only [step,DroneStateTracker.getPop] at tracked ⊢
    split
    · rename_i own
      rw [if_pos own] at tracked
      cases tracked
    · rfl

theorem storeKeeps {reg : KeyedRegistry} {key : DroneKey} (session : ActiveFlightSession)
    (absent : reg.getByDroneId key = none) {f : String} (registered : reg.Registered f) :
    (reg.store key session).Registered f := by
  cases key with
  | name drone =>
    rcases registered with ⟨s,named⟩ | numbered
    · refine .inl ?_
      simp only [KeyedRegistry.store,ActiveSessionRegistry.getStore]
      split
      · exact ⟨session,rfl⟩
      · exact ⟨s,named⟩
    · exact .inr numbered
  | number value =>
    rcases registered with named | ⟨value',s,numbered,own⟩
    · exact .inl named
    · have apart : value ≠ value' := by
        rintro rfl
        rw [KeyedRegistry.getByDroneId,numbered] at absent
        cases absent
      exact .inr ⟨value',s,by simp only [KeyedRegistry.store,Dict.getSet,if_neg apart,numbered],own⟩

theorem callKeeps {p : Pipeline} {reg reg' : KeyedRegistry} {t : WorkerTurn} {g : String} {u : Telemetry}
    (call : sessionUpdateCall p reg t = .ok (reg',g,u)) {f : String}
    (registered : reg.Registered f) : reg'.Registered f := by
  obtain ⟨_,_,_,-,-,resolved,-,-⟩ := sessionUpdateCalled call
  cases resolved with
  | active => exact registered
  | made permissive absent name => exact storeKeeps _ absent registered

theorem putKeeps {tracker : DroneStateTracker} (state : DroneState) {f : String}
    (tracked : (tracker.get f).isSome) : ((tracker.put state).get f).isSome := by
  rw [DroneStateTracker.getPut]
  split
  · rfl
  · exact tracked

theorem updateKeeps {haversine : Haversine} {tracker tracker' : DroneStateTracker} {g : String}
    {u : Telemetry} {now : UtcTime} {returned : Except PyError DroneState}
    (update : tracker.update haversine g u now = (tracker',returned)) {f : String}
    (tracked : (tracker.get f).isSome) : (tracker'.get f).isSome := by
  rcases tracker.updateCases haversine g u now with ⟨e,-,done⟩ | ⟨state,_,_,-,done,-⟩
  · rw [update] at done
    cases done
    exact tracked
  · rw [update] at done
    cases done
    exact putKeeps state tracked

theorem turnKeeps (p : Pipeline) (live : Live) (t : WorkerTurn) :
    Keeps live (telemetryWorkerTurn p live t).1 := by
  have handled := turnHandled p live t
  generalize (telemetryWorkerTurn p live t).2 = outcome at handled
  generalize (telemetryWorkerTurn p live t).1 = next at handled ⊢
  cases handled with
  | passed => exact ⟨fun _ registered => registered,fun _ tracked => tracked⟩
  | broken reg g u tracker e call update =>
    exact ⟨fun _ => callKeeps call,fun _ => updateKeeps update⟩
  | noted reg g u tracker state call update =>
    exact ⟨fun _ => callKeeps call,fun _ => updateKeeps update⟩
  | unbuilt reg g u tracker state e call update =>
    exact ⟨fun _ => callKeeps call,fun _ => updateKeeps update⟩
  | unwritten reg g u tracker state row e call update =>
    exact ⟨fun _ => callKeeps call,fun _ tracked => putKeeps _ (updateKeeps update tracked)⟩
  | wrote reg g u tracker state row call update =>
    exact ⟨fun _ => callKeeps call,fun _ tracked => putKeeps _ (updateKeeps update tracked)⟩

theorem rowMoveKeeps {p : Pipeline} {live : Live} {m : Move}
    (wrote : (step p live m).rows ≠ live.rows) : Keeps live (step p live m) := by
  cases m with
  | turn message now fresh => exact turnKeeps p live (turnOf message now fresh)
  | registryChanged | exitMirrored | popped => exact absurd rfl wrote

structure Marked (p : Pipeline) (f : String) (start : Live) (life : List Move)
    (first : Option DroneState) (added : List MissionRow) : Prop where
  found : Trace.First (fun before m => terminalUpdate p f (after p start before) m) life first
  rows : (after p start life).rows = start.rows ++ added
  once : WrittenOnce first (ofSession f added)
  mark : marked ((after p start life).tracker.get f) = first.isSome
  level : Leveled ((after p start life).tracker.get f)

theorem markedInit {p : Pipeline} {f : String} {start : Live} (unknown : start.tracker.get f = none) :
    Marked p f start [] none [] where
  found := Trace.firstNil _
  rows := by simp
  once := .never
  mark := by simp [unknown,marked]
  level := by simp [unknown,Leveled]

theorem markedStep {p : Pipeline} {f : String} {start : Live} {life : List Move} {m : Move}
    {first : Option DroneState} {added : List MissionRow} (holds : Marked p f start life first added)
    (finite : FiniteAltitude p m)
    (tracked : ((after p start (life ++ [m])).tracker.get f).isSome) :
    ∃ added', Marked p f start (life ++ [m])
        (first.or (terminalUpdate p f (after p start life) m)) added' ∧
      (first.isSome → ofSession f added' = ofSession f added) := by
  have next := Trace.firstConcat holds.found m
  rw [afterConcat] at tracked
  cases moveMoved finite holds.level tracked with
  | quiet more rows foreign idle mark =>
    have same : first.or (terminalUpdate p f (after p start life) m) = first := by
      rcases idle with idle | written
      · rw [idle,Option.or_none]
      · rw [holds.mark] at written
        exact Option.or_of_isSome written
    have rows' : ofSession f (added ++ more) = ofSession f added := by
      rw [ofSession,List.filter_append,← ofSession,← ofSession,foreign,List.append_nil]
    refine ⟨added ++ more,⟨next,?_,?_,?_,?_⟩,fun _ => rows'⟩
    · rw [afterConcat,rows,holds.rows,List.append_assoc]
    · rw [same,rows']
      exact holds.once
    · rw [same,afterConcat,mark,holds.mark]
    · rw [afterConcat]
      exact moveLevel finite holds.level
  | wrote state row terminal build rows own unmarked mark =>
    rw [holds.mark] at unmarked
    obtain rfl : first = none := by simpa using unmarked
    have none_ : ofSession f added = [] := by
      have once := holds.once
      generalize ofSession f added = written at once
      cases once
      rfl
    refine ⟨added ++ [row],⟨next,?_,?_,?_,?_⟩,fun written => by cases written⟩
    · rw [afterConcat,rows,holds.rows,List.append_assoc]
    · rw [terminal,ofSession,List.filter_append,← ofSession,none_]
      simp only [Option.none_or,List.nil_append,List.filter_cons,own,decide_true,if_true,
        List.filter_nil]
      exact .once state row build
    · rw [terminal,afterConcat,mark]
      rfl
    · rw [afterConcat]
      exact moveLevel finite holds.level

theorem rowOncePerState {p : Pipeline} {f : String} {start : Live}
    (unknown : start.tracker.get f = none) {life : List Move} (tracked : Tracked p f start life)
    (finite : Trace.Meets (fun _ m => FiniteAltitude p m) life) : RowOnce p f start life := by
  have lived : ∀ before, before <+: life → ∃ first added, Marked p f start before first added := by
    intro before within
    induction before using List.reverseRecOn with
    | nil => exact ⟨none,[],markedInit unknown⟩
    | append_singleton before m ih =>
      obtain ⟨first,added,holds⟩ := ih ((List.prefix_append before [m]).trans within)
      obtain ⟨added',holds',-⟩ :=
        markedStep holds (finite before m within) (tracked before m within)
      exact ⟨_,added',holds'⟩
  refine ⟨?_,?_,?_⟩
  · obtain ⟨first,added,holds⟩ := lived life (List.prefix_refl life)
    exact ⟨first,added,holds.found,holds.rows,holds.once⟩
  · intro before m within fired
    obtain ⟨first,added,holds⟩ := lived before ((List.prefix_append before [m]).trans within)
    obtain ⟨added',holds',settled⟩ :=
      markedStep holds (finite before m within) (tracked before m within)
    have written : first.isSome := by
      cases first with
      | none => exact absurd holds.found fired
      | some state => rfl
    rw [holds'.rows,holds.rows]
    simp only [ofSession,List.filter_append] at settled ⊢
    rw [settled written]
  · intro before m within wrote
    rw [afterConcat] at wrote ⊢
    exact rowMoveKeeps wrote

def completedTwice : List Move :=
  [.turn [("payload",.str ""),("timestamp",.str "2026-03-01T09:00:00+00:00")] (march 0 9 0 0)
      ⟨"0","1","2026-03-01T09:00:00+00:00"⟩,
    .turn [("payload",.str ""),("timestamp",.str "2026-03-01T09:00:05+00:00")] (march 0 9 0 5)
      ⟨"2","3","2026-03-01T09:00:05+00:00"⟩]

theorem completedTwiceOneRow :
    RowOnce (pipelineFor .aws (completed (.float (.finite 120)))) "flight-1" approved
      completedTwice := by
  have two : ∀ {Cond : List Move → Move → Prop}, Cond [] completedTwice[0] →
      Cond [completedTwice[0]] completedTwice[1] → Trace.Meets Cond completedTwice :=
    fun first second => Trace.meetsConcat.mpr ⟨Trace.meetsSingle.mpr first,second⟩
  refine rowOncePerState rfl (two rfl rfl) (two ?_ ?_)
  all_goals
    intro parsed x parse altitude
    cases parse
    cases altitude
    exact ⟨120,rfl⟩

end FlightMonitor.MissionRows
