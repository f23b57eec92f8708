import FlightMonitor.Posting
import FlightMonitor.SessionMachine
import FlightMonitor.Tasks

/-! The stub finalization of a registration with `test_overrides`: what the overrides must be
for `build_stub_finalization_payload` to build a report that satisfies the contract, and what
becomes of the task and of the session otherwise. -/
namespace FlightMonitor.StubOverrides
open PyValue IsoTime

/-! The contract of a report. The pairs `dict(...)` is built from may repeat a key, and the
last one counts. -/

def itemOf (items : List (Json × Json)) (key : String) : Json :=
  (items.reverse.findSome? (fun item => match item.1 with
    | .str text => if text = key then some item.2 else none
    | _ => none)).getD .null

def isText : Json → Bool
  | .str _ => true
  | _ => false

def isObject : Json → Bool
  | .obj _ => true
  | _ => false

def isFlightSegment (items : List (Json × Json)) : Bool :=
  match itemOf items "type" with
  | .str kind => kind == "FLIGHT_SEGMENT"
  | _ => false

def hasWindow (items : List (Json × Json)) : Bool :=
  isText (itemOf items "time_in_utc") && isText (itemOf items "time_out_utc") &&
    isObject (itemOf items "battery_state_in") && isObject (itemOf items "battery_state_out")

-- The segments and exit requests that the module builds itself carry all their fields.
def Complete : PayloadEvent → Prop
  | .override items => isFlightSegment items = true → hasWindow items = true
  | _ => True

structure SatisfiesContract (payload : FinalizationPayload) : Prop where
  altitudeMin : Numeric payload.telemetrySummary.altitudeMinM
  altitudeMax : Numeric payload.telemetrySummary.altitudeMaxM
  distance : Numeric payload.telemetrySummary.distanceFlownM
  eventful : payload.events ≠ []
  segments : ∀ event ∈ payload.events, Complete event

def summaryKeys : List String := ["altitude_min_m","altitude_max_m","distance_flown_m"]

/-- A summary that is not falsy is an object, and each of the three keys that it has holds
what `float` converts to a finite number. -/
def SummaryWellFormed (overrides : Members) : Prop :=
  (Json.member overrides "telemetry_summary" .null).truthy = true →
    ∃ summary, Json.member overrides "telemetry_summary" .null = .obj summary ∧
      ∀ key ∈ summaryKeys, ∀ value, Dict.lookup key summary = some value →
        ∃ q, toFloat value = .ok (.finite q)

/-- Events that are not falsy can be iterated, `dict` takes each of them, and a flight segment
among them has its window and both battery states. -/
def EventsWellFormed (overrides : Members) : Prop :=
  (Json.member overrides "events" .null).truthy = true →
    ∃ events, iterate (Json.member overrides "events" .null) = .ok events ∧
      ∀ event ∈ events, ∃ items, dictOf event = .ok items ∧
        (isFlightSegment items = true → hasWindow items = true)

structure WellFormed (overrides : Members) : Prop where
  summary : SummaryWellFormed overrides
  events : EventsWellFormed overrides

theorem mapMOk {α β ε : Type} (f : α → Except ε β) (P : β → Prop) (xs : List α) :
    (∃ ys, xs.mapM f = .ok ys ∧ ∀ y ∈ ys, P y) ↔ ∀ x ∈ xs, ∃ y, f x = .ok y ∧ P y := by
  induction xs with
  | nil => simp [pure,Except.pure]
  | cons x xs ih =>
    rw [List.mapM_cons,List.forall_mem_cons,← ih]
    cases first : f x with
    | error e => simp [bind,Except.bind]
    | ok y =>
      cases rest : xs.mapM f with
      | error e => simp [bind,Except.bind]
      | ok ys => simp [bind,Except.bind,pure,Except.pure]

theorem mapMLength {α β ε : Type} {f : α → Except ε β} {xs : List α} {ys : List β}
    (done : xs.mapM f = .ok ys) : ys.length = xs.length := by
  induction xs generalizing ys with
  | nil => cases done; rfl
  | cons x xs ih =>
    rw [List.mapM_cons] at done
    cases first : f x with
    | error e => rw [first] at done; cases done
    | ok y =>
      cases rest : xs.mapM f with
      | error e => rw [first,rest] at done; cases done
      | ok zs =>
        rw [first,rest] at done
        cases done
        rw [List.length_cons,List.length_cons,ih rest]

theorem iterateTruthy {value : Json} {items : List Json} (truthy : value.truthy = true)
    (iterated : iterate value = .ok items) : items ≠ [] := by
  cases value with
  | null | bool | int | float => cases iterated
  | str text =>
    cases iterated
    intro none
    have empty : text = "" := String.toList_eq_nil_iff.mp (List.map_eq_nil_iff.mp none)
    rw [empty] at truthy
    cases truthy
  | arr xs =>
    cases iterated
    simpa [Json.truthy] using truthy
  | obj members =>
    cases iterated
    simpa [Json.truthy] using truthy

theorem stubEventsIff (overrides : Members) (nowZ : String) :
    (∃ events, stubEvents overrides nowZ = .ok events ∧ events ≠ [] ∧
      ∀ event ∈ events, Complete event) ↔ EventsWellFormed overrides := by
  unfold stubEvents EventsWellFormed
  generalize Json.member overrides "events" .null = value
  cases truthy : value.truthy with
  | false =>
    simp only [truthy,Bool.false_eq_true,if_false,false_imp_iff,iff_true]
    exact ⟨_,rfl,by simp,by simp [Complete]⟩
  | true =>
    simp only [truthy,if_true,forall_const]
    cases iterated : iterate value with
    | error e => simp [bind,Except.bind]
    | ok items =>
      have some_ : items ≠ [] := iterateTruthy truthy iterated
      have each := mapMOk (fun event => do
        let items ← dictOf event
        .ok (PayloadEvent.override items)) Complete items
      constructor
      · intro built
        obtain ⟨events,made,-,complete⟩ := built
        refine ⟨items,rfl,fun event mem => ?_⟩
        obtain ⟨kept,done,whole⟩ := each.mp ⟨events,made,complete⟩ event mem
        cases taken : dictOf event with
        | error e => simp [taken,bind,Except.bind] at done
        | ok pairs =>
          simp only [taken,bind,Except.bind,Except.ok.injEq] at done
          subst kept
          exact ⟨pairs,rfl,whole⟩
      · intro taken
        obtain ⟨_,same,taken⟩ := taken
        cases same
        obtain ⟨events,made,complete⟩ := each.mpr (by
          intro event mem
          obtain ⟨pairs,done,whole⟩ := taken event mem
          exact ⟨.override pairs,by simp [done,bind,Except.bind],whole⟩)
        refine ⟨events,made,?_,complete⟩
        have length := mapMLength made
        intro none
        rw [none] at length
        exact some_ (List.length_eq_zero_iff.mp length.symm)

theorem overrideReadingIff (summary : Members) (key : String) :
    (∃ x, overrideReading summary key = .ok x ∧ Numeric x) ↔
      ∀ value, Dict.lookup key summary = some value → ∃ q, toFloat value = .ok (.finite q) := by
  unfold overrideReading Json.member
  cases Dict.lookup key summary with
  | none => simp [toFloat,Numeric,PyFloat.zero]
  | some value =>
    simp only [Option.getD_some,Option.some.injEq,forall_eq']
    constructor
    · intro read
      obtain ⟨x,done,q,rfl⟩ := read
      exact ⟨q,done⟩
    · intro read
      obtain ⟨q,done⟩ := read
      exact ⟨_,done,q,rfl⟩

theorem stubTelemetryIff (overrides : Members) :
    (∃ summary, stubTelemetry overrides = .ok summary ∧ ∀ key ∈ summaryKeys,
      ∃ x, overrideReading summary key = .ok x ∧ Numeric x) ↔ SummaryWellFormed overrides := by
  simp only [overrideReadingIff]
  unfold stubTelemetry SummaryWellFormed
  generalize Json.member overrides "telemetry_summary" .null = summary
  cases truthy : summary.truthy with
  | false => simp [truthy,Dict.lookup]
  | true => cases summary <;> simp [truthy]

theorem stubBuiltIff (f : String) (overrides : Members) (now : UtcTime) :
    (∃ payload, buildStubFinalizationPayload f overrides now = .ok payload ∧
      SatisfiesContract payload) ↔ WellFormed overrides := by
  constructor
  · intro built
    obtain ⟨payload,built,contract⟩ := built
    unfold buildStubFinalizationPayload at built
    obtain ⟨events,eventsMade,built⟩ := bindOk built
    obtain ⟨summary,summaryMade,built⟩ := bindOk built
    obtain ⟨low,lowRead,built⟩ := bindOk built
    obtain ⟨high,highRead,built⟩ := bindOk built
    obtain ⟨far,farRead,built⟩ := bindOk built
    cases built
    refine ⟨(stubTelemetryIff overrides).mp ⟨summary,summaryMade,?_⟩,
      (stubEventsIff overrides _).mp ⟨events,eventsMade,contract.eventful,contract.segments⟩⟩
    intro key mem
    simp only [summaryKeys,List.mem_cons,List.not_mem_nil,or_false] at mem
    rcases mem with rfl | rfl | rfl
    · exact ⟨low,lowRead,contract.altitudeMin⟩
    · exact ⟨high,highRead,contract.altitudeMax⟩
    · exact ⟨far,farRead,contract.distance⟩
  · intro formed
    obtain ⟨events,eventsMade,eventful,complete⟩ :=
      (stubEventsIff overrides (strftimeZ now.val)).mpr formed.events
    obtain ⟨summary,summaryMade,read⟩ := (stubTelemetryIff overrides).mpr formed.summary
    obtain ⟨low,lowRead,lowNumeric⟩ := read "altitude_min_m" (by simp [summaryKeys])
    obtain ⟨high,highRead,highNumeric⟩ := read "altitude_max_m" (by simp [summaryKeys])
    obtain ⟨far,farRead,farNumeric⟩ := read "distance_flown_m" (by simp [summaryKeys])
    refine ⟨⟨f,strftimeZ now.val,⟨low,high,far⟩,events⟩,?_,
      ⟨lowNumeric,highNumeric,farNumeric,eventful,complete⟩⟩
    simp [buildStubFinalizationPayload,eventsMade,summaryMade,lowRead,highRead,farRead,bind,
      Except.bind]

/-! The stub task in a run of the service: its registration, the five seconds it sleeps, its
POST, and what other tasks do in between. -/

structure StubRun (env : Env) where
  before : List Event
  registration : Event
  session : ActiveFlightSession
  overrides : Members
  accepted : registering (after env before) registration = some session
  overridden : session.testOverrides = some overrides
  waiting : List Event
  unfired : ∀ e ∈ waiting, e.action.stubTask ≠ some (after env before).stubs.length
  fires : Event
  firing : fires.action = .stubFires (after env before).stubs.length
  meanwhile : List Event
  unposted : ∀ e ∈ meanwhile, e.action.stubTask ≠ some (after env before).stubs.length
  outcomes : Nat → Attempt
  lands : Event
  landing : ∀ payload,
    buildStubFinalizationPayload session.flightSessionId overrides fires.wall = .ok payload →
    lands.action = .stubPosted (after env before).stubs.length
      (postTrackerSessionFinalized env.trackerFinalizedUrl payload outcomes).outcome

namespace StubRun
variable {env : Env} (run : StubRun env)

def task : Nat := (after env run.before).stubs.length

def scheduled : State := after env (run.before ++ [run.registration] ++ run.waiting)

def fired : State := step env run.scheduled run.fires

def inFlight : State := Trace.final (step env) run.fired run.meanwhile

def ended : State := step env run.inFlight run.lands

structure Finishes (payload : FinalizationPayload) : Prop where
  built : buildStubFinalizationPayload run.session.flightSessionId run.overrides run.fires.wall =
    .ok payload
  contract : SatisfiesContract payload
  posted : run.fired.posts = run.scheduled.posts ++ [payload]
  finished : run.ended.stubs[run.task]? =
    some ⟨run.session.flightSessionId,run.overrides,.finished⟩
  once : ∀ later e, e.action.stubTask = some run.task →
    step env (Trace.final (step env) run.ended later) e = Trace.final (step env) run.ended later
  gone : run.ended.registry.getByFlightSessionId run.session.flightSessionId = none
  free : ∀ record drone, run.inFlight.registry.getByFlightSessionId run.session.flightSessionId =
      some record → record.droneId = some drone →
    run.inFlight.registry.indexed drone = some run.session.flightSessionId →
    ∀ next, next.droneKey = some drone →
      run.ended.registry.register next = .ok (run.ended.registry.store next)

end StubRun

theorem setStubSelf {s : State} {i : Nat} {task : StubTask} (found : s.stubs[i]? = some task)
    (phase : StubPhase) : (s.setStub i phase).stubs[i]? = some { task with phase := phase } := by
  rw [setStubSet found]
  exact List.getElem?_set_self (List.getElem?_eq_some_iff.mp found).1

theorem stubKept {env : Env} {s : State} {e : Event} {i : Nat} {task : StubTask}
    (found : s.stubs[i]? = some task) (other : e.action.stubTask ≠ some i) :
    (step env s e).stubs[i]? = some task := by
  have apart : ∀ j phase, j ≠ i → (s.setStub j phase).stubs[i]? = some task := by
    intro j phase differ
    rw [State.setStub,List.getElem?_modify_ne _ _ differ,found]
  obtain ⟨now,loop,action⟩ := e
  cases action with
  | registerSession body =>
    rcases registerSessionCases s body now loop with ⟨-,done⟩ | ⟨p,-,-,done⟩
    · simp only [step,done]; exact found
    · simp only [step,done]
      rw [List.getElem?_append_left (List.getElem?_eq_some_iff.mp found).1,found]
  | stubFires j =>
    have differ : j ≠ i := fun same => other (congrArg some same)
    simp only [step,stubFires]
    split
    · split
      · exact apart j .buildRaised differ
      · split
        · exact apart j .postRaised differ
        · exact apart j .posting differ
    · exact found
  | stubPosted j outcome =>
    have differ : j ≠ i := fun same => other (congrArg some same)
    simp only [step,stubPosted]
    split
    · cases outcome with
      | raised => exact apart j .postRaised differ
      | returned => exact apart j .finished differ
    · exact found
  | _ => rw [(stepFrame env s _).stubs rfl]; exact found

theorem stubKeptOnward {env : Env} {s : State} {i : Nat} {task : StubTask} {events : List Event}
    (found : s.stubs[i]? = some task) (others : ∀ e ∈ events, e.action.stubTask ≠ some i) :
    (Trace.final (step env) s events).stubs[i]? = some task := by
  induction events using List.reverseRecOn with
  | nil => exact found
  | append_singleton events e ih =>
    rw [Trace.finalConcat]
    exact stubKept (ih (fun x mem => others x (List.mem_append_left _ mem))) (others e (by simp))

theorem finishedIdle {env : Env} {s : State} {e : Event} {i : Nat} {f : String}
    {overrides : Members} (found : s.stubs[i]? = some ⟨f,overrides,.finished⟩)
    (own : e.action.stubTask = some i) : step env s e = s := by
  obtain ⟨now,loop,action⟩ := e
  cases action with
  | stubFires j =>
    cases own
    simp only [step,stubFires,found]
  | stubPosted j outcome =>
    cases own
    simp only [step,stubPosted,found]
  | _ => cases own

theorem finishedOnward {env : Env} {s : State} {i : Nat} {f : String} {overrides : Members}
    (found : s.stubs[i]? = some ⟨f,overrides,.finished⟩) (later : List Event) :
    (Trace.final (step env) s later).stubs[i]? = some ⟨f,overrides,.finished⟩ := by
  refine Trace.invariant (step env) s (P := fun s => s.stubs[i]? = some ⟨f,overrides,.finished⟩)
    found (fun s e held => ?_) later
  by_cases own : e.action.stubTask = some i
  · rw [finishedIdle held own]; exact held
  · exact stubKept held own

theorem registeredStub {env : Env} {s : State} {e : Event} {session : ActiveFlightSession}
    {overrides : Members} (made : registering s e = some session)
    (overridden : session.testOverrides = some overrides) :
    (step env s e).stubs[s.stubs.length]? = some ⟨session.flightSessionId,overrides,.sleeping⟩ := by
  obtain ⟨body,p,acts,-,rfl⟩ := registeringDecoded made
  obtain ⟨now,loop,action⟩ := e
  cases acts
  rcases registerSessionCases s body now loop with ⟨none,-⟩ | ⟨q,-,some_,done⟩
  · rw [none] at made; cases made
  · have same : q.session now = p.session now := Option.some.inj (some_.symm.trans made)
    have carried : q.testOverrides = some overrides :=
      (congrArg ActiveFlightSession.testOverrides same).trans overridden
    have filed : q.flightSessionId = p.flightSessionId :=
      congrArg ActiveFlightSession.flightSessionId same
    simp only [step,done,RegisterSessionPayload.startedStubs,carried,filed]
    simp [RegisterSessionPayload.session]

theorem releasedDrone {reg : ActiveSessionRegistry} {f drone : String}
    {record next : ActiveFlightSession} (found : reg.getByFlightSessionId f = some record)
    (carries : record.droneId = some drone) (led : reg.indexed drone = some f)
    (keyed : next.droneKey = some drone) :
    (reg.complete f).register next = .ok ((reg.complete f).store next) := by
  have free : (reg.complete f).indexed drone = none := by
    rw [ActiveSessionRegistry.indexedComplete,if_pos ⟨led,record,found,carries⟩]
  unfold ActiveSessionRegistry.register
  split
  · rfl
  · simp only [keyed,free]

namespace StubRun
variable {env : Env} (run : StubRun env)

theorem scheduledTask : run.scheduled.stubs[run.task]? =
    some ⟨run.session.flightSessionId,run.overrides,.sleeping⟩ := by
  rw [scheduled,after,Trace.finalAppend]
  refine stubKeptOnward ?_ run.unfired
  rw [Trace.finalConcat]
  exact registeredStub run.accepted run.overridden

theorem builtPosting {target : String} {payload : FinalizationPayload}
    (configured : getTrackerFinalizedUrl env.trackerFinalizedUrl = .ok target)
    (built : buildStubFinalizationPayload run.session.flightSessionId run.overrides
      run.fires.wall = .ok payload) :
    run.fired.posts = run.scheduled.posts ++ [payload] ∧ run.inFlight.stubs[run.task]? =
      some ⟨run.session.flightSessionId,run.overrides,.posting⟩ := by
  have waits := run.scheduledTask
  have fires : run.fired = { run.scheduled with posts := run.scheduled.posts ++ [payload] }.setStub
      run.task .posting := by
    rw [fired,step,run.firing]
    change stubFires env run.scheduled run.task run.fires.wall = _
    simp only [stubFires,waits,built,configured]
  refine ⟨by rw [fires]; rfl,stubKeptOnward ?_ run.unposted⟩
  rw [fires]
  exact setStubSelf waits .posting

theorem finishesIff (configured : ∃ target,
    getTrackerFinalizedUrl env.trackerFinalizedUrl = .ok target) :
    (∃ payload, run.Finishes payload) ↔
      WellFormed run.overrides ∧ ReadableErrors run.outcomes := by
  obtain ⟨target,configured⟩ := configured
  constructor
  · intro finishes
    obtain ⟨payload,finishes⟩ := finishes
    refine ⟨(stubBuiltIff ..).mp ⟨payload,finishes.built,finishes.contract⟩,?_⟩
    obtain ⟨-,posting⟩ := run.builtPosting configured finishes.built
    have done := finishes.finished
    rw [ended,step,run.landing payload finishes.built] at done
    change (stubPosted run.inFlight run.task _).stubs[run.task]? = _ at done
    rw [← postReturnsIff configured payload]
    cases outcome : (postTrackerSessionFinalized env.trackerFinalizedUrl payload
        run.outcomes).outcome with
    | returned => rfl
    | raised =>
      simp only [stubPosted,posting,outcome,setStubSelf posting] at done
      cases done
  · intro conditions
    obtain ⟨formed,readable⟩ := conditions
    obtain ⟨payload,built,contract⟩ := (stubBuiltIff run.session.flightSessionId run.overrides
      run.fires.wall).mpr formed
    obtain ⟨posted,posting⟩ := run.builtPosting configured built
    have ends : run.ended = { run.inFlight.setStub run.task .finished with
        registry := run.inFlight.registry.complete run.session.flightSessionId } := by
      rw [ended,step,run.landing payload built,(postReturnsIff configured payload _).mpr readable]
      change stubPosted run.inFlight run.task .returned = _
      simp only [stubPosted,posting]
    have finished : run.ended.stubs[run.task]? =
        some ⟨run.session.flightSessionId,run.overrides,.finished⟩ := by
      rw [ends]
      exact setStubSelf posting .finished
    exact ⟨payload,{
      built := built
      contract := contract
      posted := posted
      finished := finished
      once := fun later e own => finishedIdle (finishedOnward finished later) own
      gone := by rw [ends]; simp
      free := fun record drone found carries led next keyed => by
        rw [ends]; exact releasedDrone found carries led keyed }⟩

end StubRun

def stubbed (overrides : Members) : Json :=
  .obj [("flight_session_id",.str "flight-A"),("drone_id",.str "drone-1"),
    ("test_overrides",.obj overrides)]

def decodedStub (overrides : Members) : RegisterSessionPayload where
  flightSessionId := "flight-A"
  pilotId := none
  droneId := some "drone-1"
  organizationId := none
  sadeZoneId := none
  requestedEntryTime := none
  requestedExitTime := none
  requestedOperation := none
  testOverrides := some overrides
  submittedAt := none

def aloneRun (overrides : Members) : StubRun deployment where
  before := []
  registration := (Action.registerSession (stubbed overrides)).at 0 10 0 0
  session := (decodedStub overrides).session (march 0 10 0 0)
  overrides := overrides
  accepted := rfl
  overridden := rfl
  waiting := []
  unfired := by simp
  fires := (Action.stubFires 0).at 0 10 0 5
  firing := rfl
  meanwhile := []
  unposted := by simp
  outcomes := fun _ => .answered (.ok (.obj []))
  lands := (Action.stubPosted 0 .returned).at 0 10 0 6
  landing := fun _ _ => rfl

theorem highFlightFinishes : ∃ payload, (aloneRun
    [("telemetry_summary",.obj [("altitude_max_m",.float (.finite 90))])]).Finishes payload := by
  refine (StubRun.finishesIff _ ⟨_,rfl⟩).mpr ⟨⟨fun _ => ⟨_,rfl,?_⟩,?_⟩,?_⟩
  · intro key mem value found
    simp only [summaryKeys,List.mem_cons,List.not_mem_nil,or_false] at mem
    rcases mem with rfl | rfl | rfl
    · cases found
    · cases found
      exact ⟨90,rfl⟩
    · cases found
  · intro truthy
    cases truthy
  · intro k within earlier response refused
    cases refused

theorem nullAltitudeBlocksDrone : (¬ ∃ payload, (aloneRun
    [("telemetry_summary",.obj [("altitude_min_m",.null)])]).Finishes payload) ∧
    (aloneRun [("telemetry_summary",.obj [("altitude_min_m",.null)])]).ended.registry.register
        { flightSessionId := "flight-B", droneId := some "drone-1", registeredAt := "" } =
      .error (.valueError "Drone drone-1 already has active flight session flight-A") := by
  refine ⟨?_,rfl⟩
  intro finishes
  obtain ⟨payload,finishes⟩ := finishes
  cases finishes.built

end FlightMonitor.StubOverrides
