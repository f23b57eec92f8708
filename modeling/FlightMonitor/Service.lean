import FlightMonitor.Sweeper
import FlightMonitor.Trace
import FlightMonitor.Webhooks
import FlightMonitor.Worker

/-! The combined service (`app/api/server.py` with the pipeline of `app/main.py`) between the
steps of its event loop. Handlers and tasks run without interruption from one `await` to the
next, so a step is one such stretch. A step says which task runs, what the clocks read and
what comes from outside; one that addresses a task which is not waiting there does nothing.
Delays of a task are lower bounds only, so any later step may be its next one. -/
namespace FlightMonitor
open PyValue IsoTime

def exitGracePeriodSeconds : Rat := 300

inductive PostOutcome where
  | returned
  | raised
  deriving DecidableEq, Repr

inductive StubPhase where
  | sleeping
  | posting
  | finished
  | buildRaised
  | postRaised
  deriving DecidableEq, Repr

structure StubTask where
  flightSessionId : String
  testOverrides : Members
  phase : StubPhase := .sleeping

structure Watch where
  exitRequestedAt : Rat
  lastSeenAtPreviousCheck : Option String := none
  lastTelemetryChangeMonotonic : Option Rat := none

inductive GracePhase where
  | created
  | watching (watch : Watch)
  | posting
  | finished
  | raised

structure GraceTask where
  flightSessionId : String
  phase : GracePhase := .created

/-- The sweeper waits for its next turn, or for a POST inside a force-close pass with these
candidates still to come. -/
inductive SweeperPhase where
  | sleeping
  | forceClosing (pending : List String) (closed : Nat)
  deriving DecidableEq, Repr

/-- Tasks are never dropped: a task is known by its place in its list. `posts` are the calls
of `post_tracker_session_finalized` so far. -/
structure State where
  registry : ActiveSessionRegistry := .empty
  tracker : DroneStateTracker := .empty
  scheduled : List Members := []
  queue : List Members := []
  stubs : List StubTask := []
  graces : List GraceTask := []
  sweeper : SweeperPhase := .sleeping
  posts : List FinalizationPayload := []
  rows : List MissionRow := []

inductive Action where
  | registerSession (body : Json)
  | exitRequest (body : Json)
  | onMessage (topic payload : String)
  | enqueueMessage
  | worker (written : Except PyError Unit)
  | stubFires (i : Nat)
  | stubPosted (i : Nat) (outcome : PostOutcome)
  | graceStarts (i : Nat)
  | graceChecks (i : Nat)
  | gracePosted (i : Nat) (outcome : PostOutcome)
  -- The wall clock of the step is what the deadline scan reads.
  | sweep (strandedNow forceCloseNow : UtcTime)
  | sweeperPosted (outcome : PostOutcome)

structure Event where
  wall : UtcTime
  loop : Rat
  action : Action

/-! The endpoints. -/

def registerSession (s : State) (body : Json) (now : UtcTime) : State :=
  match decodeRegisterSession body with
  | .error _ => s
  | .ok p =>
    match processRegisterSession p s.registry now with
    | (reg,.rejected ..) => { s with registry := reg }
    | (reg,.registered ..) =>
      match p.testOverrides with
      | none => { s with registry := reg }
      | some overrides =>
        { s with registry := reg, stubs := s.stubs ++ [⟨p.flightSessionId,overrides,.sleeping⟩] }

def exitRequest (s : State) (body : Json) (now : UtcTime) : State :=
  match decodeExitRequest body with
  | .error _ => s
  | .ok p =>
    match processExitRequest p s.registry s.tracker now with
    | (reg,tracker,.notFound ..) => { s with registry := reg, tracker := tracker }
    | (reg,tracker,.accepted ..) =>
      { s with
        registry := reg, tracker := tracker
        graces := s.graces ++ [⟨p.flightSessionId,.created⟩] }

/-! The telemetry path. -/

def onMessage (s : State) (topic payload : String) (now : UtcTime) (monotonic : Rat) : State :=
  { s with scheduled := s.scheduled ++ [[("topic",.str topic),("payload",.str payload),
    ("timestamp",.str (isoformat now.val)),("enqueued_monotonic",.float (.finite monotonic))]] }

def enqueueMessage (env : Env) (s : State) : State :=
  match s.scheduled with
  | [] => s
  | envelope :: scheduled =>
    if env.queueSize = 0 ∨ s.queue.length < env.queueSize then
      { s with scheduled := scheduled, queue := s.queue ++ [envelope] }
    else { s with scheduled := scheduled }

def worker (env : Env) (written : Except PyError Unit) (s : State) (now : UtcTime) : State :=
  match s.queue with
  | [] => s
  | message :: queue =>
    match telemetryWorker env written s.registry s.tracker message now with
    | (tracker,rows,_) => { s with queue := queue, tracker := tracker, rows := s.rows ++ rows }

/-! The stub finalization. -/

def State.setStub (s : State) (i : Nat) (phase : StubPhase) : State :=
  { s with stubs := s.stubs.modify i (fun task => { task with phase := phase }) }

def stubFires (env : Env) (s : State) (i : Nat) (now : UtcTime) : State :=
  match s.stubs[i]? with
  | some ⟨f,overrides,.sleeping⟩ =>
    match buildStubFinalizationPayload f overrides now with
    | .error _ => s.setStub i .buildRaised
    | .ok payload =>
      let s := { s with posts := s.posts ++ [payload] }
      match getTrackerFinalizedUrl env.trackerFinalizedUrl with
      | .error _ => s.setStub i .postRaised
      | .ok _ => s.setStub i .posting
  | _ => s

def stubPosted (s : State) (i : Nat) (outcome : PostOutcome) : State :=
  match s.stubs[i]? with
  | some ⟨f,_,.posting⟩ =>
    match outcome with
    | .raised => s.setStub i .postRaised
    | .returned => { s.setStub i .finished with registry := s.registry.complete f }
  | _ => s

/-! The canonical finalize sequence. -/

def syntheticState (session : ActiveFlightSession) (now : UtcTime) : DroneState where
  flightSessionId := session.flightSessionId
  droneId := session.droneId
  sessionSource := session.sessionSource
  firstSeen := match session.requestedEntryTime with
    | some entryTime => if entryTime = "" then isoformat now.val else entryTime
    | none => isoformat now.val
  lastSeen := isoformat now.val
  latestRawMessage := []
  latestParsedPayload := []

def finalReport (captured : Option DroneState) (session : Option ActiveFlightSession)
    (now : UtcTime) : Option FinalizationPayload :=
  match captured,session with
  | some state,_ => some (buildFinalizationPayload state now)
  | none,some session => some (buildFinalizationPayload (syntheticState session now) now)
  | none,none => none

inductive Finalize where
  | nothingLeft
  | posting
  | raised (e : PyError)

def finalizeSessionToSade (env : Env) (s : State) (f : String) (now : UtcTime) :
    State × Finalize :=
  let cleared := { s with tracker := s.tracker.pop f, registry := s.registry.complete f }
  match finalReport (s.tracker.get f) (s.registry.getByFlightSessionId f) now with
  | none => (cleared,.nothingLeft)
  | some payload =>
    ({ cleared with posts := cleared.posts ++ [payload] },
      match getTrackerFinalizedUrl env.trackerFinalizedUrl with
      | .error e => .raised e
      | .ok _ => .posting)

/-! The exit grace period. -/

def State.setGrace (s : State) (i : Nat) (phase : GracePhase) : State :=
  { s with graces := s.graces.modify i (fun task => { task with phase := phase }) }

def Watch.check (watch : Watch) (currentLastSeen : Option String) (nowMonotonic : Rat) :
    Option Watch :=
  if currentLastSeen ≠ none ∧ currentLastSeen ≠ watch.lastSeenAtPreviousCheck then
    some { watch with
      lastSeenAtPreviousCheck := currentLastSeen
      lastTelemetryChangeMonotonic := some nowMonotonic }
  else
    let silenceReference := watch.lastTelemetryChangeMonotonic.getD watch.exitRequestedAt
    if exitGracePeriodSeconds ≤ nowMonotonic - silenceReference then none else some watch

def graceStarts (s : State) (i : Nat) (loop : Rat) : State :=
  match s.graces[i]? with
  | some ⟨_,.created⟩ => s.setGrace i (.watching ⟨loop,none,none⟩)
  | _ => s

def graceChecks (env : Env) (s : State) (i : Nat) (loop : Rat) (now : UtcTime) : State :=
  match s.graces[i]? with
  | some ⟨f,.watching watch⟩ =>
    match s.registry.getByFlightSessionId f with
    | none => s.setGrace i .finished
    | some _ =>
      match watch.check ((s.tracker.get f).map DroneState.lastSeen) loop with
      | some watch => s.setGrace i (.watching watch)
      | none =>
        match finalizeSessionToSade env s f now with
        | (s,.nothingLeft) => s.setGrace i .finished
        | (s,.posting) => s.setGrace i .posting
        | (s,.raised _) => s.setGrace i .raised
  | _ => s

def gracePosted (s : State) (i : Nat) (outcome : PostOutcome) : State :=
  match s.graces[i]? with
  | some ⟨_,.posting⟩ =>
    match outcome with
    | .returned => s.setGrace i .finished
    | .raised => s.setGrace i .raised
  | _ => s

/-! The sweeper. -/

/-- The loop of `_scan_for_force_close` over the candidates still to come, up to the next
POST. A session that is gone already counts as closed, one whose POST raises does not. -/
def forceClose (env : Env) (now : UtcTime) : List String → State → Nat → State
  | [],s,_ => { s with sweeper := .sleeping }
  | f :: pending,s,closed =>
    match finalizeSessionToSade env s f now with
    | (s,.posting) => { s with sweeper := .forceClosing pending closed }
    | (s,.nothingLeft) => forceClose env now pending s (closed + 1)
    | (s,.raised _) => forceClose env now pending s closed

def State.scanned (s : State) (now strandedNow : UtcTime) : State :=
  { s with registry :=
    (scanForStrandedSessions (scanForDeadlineBreaches s.registry now).1 s.tracker strandedNow).1 }

def sweep (env : Env) (s : State) (now strandedNow forceCloseNow : UtcTime) : State :=
  match s.sweeper with
  | .forceClosing .. => s
  | .sleeping =>
    let s := s.scanned now strandedNow
    let candidates := findForceCloseCandidates s.registry forceCloseNow
    forceClose env forceCloseNow (candidates.map ActiveFlightSession.flightSessionId) s 0

def sweeperPosted (env : Env) (s : State) (outcome : PostOutcome) (now : UtcTime) : State :=
  match s.sweeper with
  | .sleeping => s
  | .forceClosing pending closed =>
    forceClose env now pending s (match outcome with
      | .returned => closed + 1
      | .raised => closed)

def step (env : Env) (s : State) (e : Event) : State :=
  match e.action with
  | .registerSession body => registerSession s body e.wall
  | .exitRequest body => exitRequest s body e.wall
  | .onMessage topic payload => onMessage s topic payload e.wall e.loop
  | .enqueueMessage => enqueueMessage env s
  | .worker written => worker env written s e.wall
  | .stubFires i => stubFires env s i e.wall
  | .stubPosted i outcome => stubPosted s i outcome
  | .graceStarts i => graceStarts s i e.loop
  | .graceChecks i => graceChecks env s i e.loop e.wall
  | .gracePosted i outcome => gracePosted s i outcome
  | .sweep strandedNow forceCloseNow => sweep env s e.wall strandedNow forceCloseNow
  | .sweeperPosted outcome => sweeperPosted env s outcome e.wall

def after (env : Env) (events : List Event) : State := Trace.final (step env) {} events

@[simp] theorem afterNil (env : Env) : after env [] = {} := rfl

@[simp] theorem afterConcat (env : Env) (events : List Event) (e : Event) :
    after env (events ++ [e]) = step env (after env events) e := Trace.finalConcat ..

def Enters (env : Env) (f : String) (s : State) (e : Event) : Prop :=
  s.registry.getByFlightSessionId f = none ∧
    (step env s e).registry.getByFlightSessionId f ≠ none

instance (env : Env) (f : String) (s : State) (e : Event) : Decidable (Enters env f s e) :=
  decidable_of_iff ((s.registry.getByFlightSessionId f).isNone = true ∧
    ((step env s e).registry.getByFlightSessionId f).isSome = true)
    (by simp [Enters,Option.isSome_iff_ne_none])

/-! A deployment and its clocks, for runs on fixed inputs. -/

-- A moment of March 2026. The day counts from zero, and each number wraps in its range.
def march (day hour minute second : Nat) : UtcTime :=
  ⟨⟨⟨2026,3,day % 31 + 1,hour % 24,minute % 60,second % 60,0,some 0⟩,{
    year := by simp
    month := by simp
    day := ⟨Nat.le_add_left ..,Nat.mod_lt _ (by decide)⟩
    hour := Nat.mod_lt _ (by decide)
    minute := Nat.mod_lt _ (by decide)
    second := Nat.mod_lt _ (by decide)
    microsecond := by simp
    utcoffset := by show OffsetValid (some 0); decide }⟩,rfl⟩

def Action.at (action : Action) (day hour minute second : Nat) : Event :=
  ⟨march day hour minute second,
    ((((day * 24 + hour) * 60 + minute) * 60 + second : Nat) : Rat),action⟩

def droneMessage : String := "\x7b\"drone_id\": \"drone-1\"\x7d"

def deployment : Env where
  jsonLoads := fun text =>
    if text = droneMessage then .ok (.obj [("drone_id",.str "drone-1")])
    else .error (.valueError "Expecting value")
  haversine := fun _ _ _ _ => .ok .zero
  trackerFinalizedUrl := some "https://sade.example/tracker-session-finalized"
  queueSize := 10000

end FlightMonitor
