import FlightMonitor.Isolation

/-! A telemetry worker in either session mode, as `run_pipeline` starts it. In local mode a drone
without a session gets a synthetic one at its first message, and its id may be any value that can
be hashed: the sessions of drones known by a number are kept apart from the others. -/
namespace FlightMonitor.SessionModes
open PyValue IsoTime

inductive SessionSourceMode where
  | aws
  | localTest
  deriving DecidableEq, Repr

/-- `str` of a float is the platform's. -/
structure Pipeline where
  env : Env
  sessionSourceMode : SessionSourceMode
  metrics : Bool
  floatText : PyFloat → String

inductive DroneKey where
  | name (text : String)
  | number (value : PyFloat)

-- Numbers that compare equal are one key, and `json.loads` gives one and the same NaN.
def droneKey (id : Json) : Except WorkerOutcome DroneKey :=
  if ¬ id.truthy then .error .missingDroneId else
    match id with
    | .null => .error .missingDroneId
    | .str text => .ok (.name text)
    | .bool b => .ok (.number (.finite (if b then 1 else 0)))
    | .int n => .ok (.number (.finite n))
    | .float x => .ok (.number x)
    | .arr _ | .obj _ => .error (.failed .typeError)

def Pipeline.idText (p : Pipeline) : Json → String
  | .str text => text
  | .bool b => if b then "True" else "False"
  | .int n => toString n
  | .float x => p.floatText x
  | .null | .arr _ | .obj _ => ""

/-- Only `ensure_local_session` makes a session of a drone known by a number. -/
structure KeyedRegistry where
  named : ActiveSessionRegistry
  numbered : Dict PyFloat ActiveFlightSession

namespace KeyedRegistry

def empty : KeyedRegistry := ⟨.empty,.empty⟩

def getByDroneId (reg : KeyedRegistry) : DroneKey → Option ActiveFlightSession
  | .name drone => reg.named.getByDroneId drone
  | .number value => reg.numbered.get value

def store (reg : KeyedRegistry) (key : DroneKey) (session : ActiveFlightSession) : KeyedRegistry :=
  match key with
  | .name _ => { reg with named := reg.named.store session }
  | .number value => { reg with numbered := reg.numbered.set value session }

def Registered (reg : KeyedRegistry) (f : String) : Prop :=
  (∃ s, reg.named.getByFlightSessionId f = some s) ∨
    ∃ value s, reg.numbered.get value = some s ∧ s.flightSessionId = f

end KeyedRegistry

structure Fresh where
  flightUuid : String
  evalUuid : String
  registeredAt : String

def Fresh.session (fresh : Fresh) (drone : String) : ActiveFlightSession :=
  ActiveSessionRegistry.syntheticSession drone fresh.flightUuid fresh.evalUuid fresh.registeredAt

def ensureLocalSession (reg : KeyedRegistry) (key : DroneKey) (drone : String) (fresh : Fresh) :
    Except PyError (KeyedRegistry × ActiveFlightSession) :=
  match key with
  | .name name => do
      let (named,session) ← reg.named.ensureLocalSession name fresh.flightUuid fresh.evalUuid
        fresh.registeredAt
      .ok ({ reg with named := named },session)
  | .number value =>
    match reg.numbered.get value with
    | some existing => .ok (reg,existing)
    | none => .ok (reg.store key (fresh.session drone),fresh.session drone)

def resolveActiveSessionIn (mode : SessionSourceMode) (reg : KeyedRegistry) (key : DroneKey)
    (drone : String) (fresh : Fresh) :
    Except PyError (KeyedRegistry × Option ActiveFlightSession) :=
  match reg.getByDroneId key with
  | some session => .ok (reg,some session)
  | none =>
    match mode with
    | .aws => .ok (reg,none)
    | .localTest => do
        let (reg,session) ← ensureLocalSession reg key drone fresh
        .ok (reg,some session)

def Pipeline.observe (p : Pipeline) (message : Members) : Except PyError Unit :=
  if p.metrics then Isolation.observeQueueLatency message else .ok ()

structure WorkerTurn where
  message : Members
  now : UtcTime
  fresh : Fresh
  written : Except PyError Unit

structure Live where
  registry : KeyedRegistry
  tracker : DroneStateTracker
  rows : List MissionRow

def sessionUpdateCall (p : Pipeline) (reg : KeyedRegistry) (t : WorkerTurn) :
    Except WorkerOutcome (KeyedRegistry × String × Telemetry) := do
  let _ ← (p.observe t.message).mapError .failed
  let parsed ← (parseQueueMessage p.env.jsonLoads t.message).mapError .failed
  let key ← droneKey parsed.droneId
  let (reg,session) ← (resolveActiveSessionIn p.sessionSourceMode reg key (p.idText parsed.droneId)
    t.fresh).mapError .failed
  match session with
  | none => .error .noActiveSession
  | some session => .ok (reg,session.flightSessionId,telemetryOf session parsed t.message t.now)

def telemetryWorkerTurn (p : Pipeline) (live : Live) (t : WorkerTurn) : Live × WorkerOutcome :=
  match sessionUpdateCall p live.registry t with
  | .error outcome => (live,outcome)
  | .ok (reg,f,telemetry) =>
    match live.tracker.update p.env.haversine f telemetry t.now with
    | (tracker,.error e) => (⟨reg,tracker,live.rows⟩,.failed e)
    | (tracker,.ok state) =>
      match writeTerminalRow t.written tracker state with
      | (tracker,rows,outcome) => (⟨reg,tracker,live.rows ++ rows⟩,outcome)

theorem ensuredCases {reg reg' : KeyedRegistry} {key : DroneKey} {drone : String} {fresh : Fresh}
    {session : ActiveFlightSession} (unknown : reg.getByDroneId key = none)
    (ensured : ensureLocalSession reg key drone fresh = .ok (reg',session)) :
    ∃ name, session = fresh.session name ∧ reg' = reg.store key session := by
  cases key with
  | number value =>
    have absent : reg.numbered.get value = none := unknown
    simp only [ensureLocalSession,absent] at ensured
    cases ensured
    exact ⟨drone,rfl,rfl⟩
  | name name =>
    have absent : reg.named.getByDroneId name = none := unknown
    simp only [ensureLocalSession,ActiveSessionRegistry.ensureLocalSession,absent] at ensured
    rcases reg.named.registerCases (fresh.session name) with done | ⟨⟨text,refused⟩,-⟩
    · rw [← Fresh.session,done] at ensured
      cases ensured
      exact ⟨name,rfl,rfl⟩
    · rw [← Fresh.session,refused] at ensured
      cases ensured

inductive Resolved (mode : SessionSourceMode) (reg : KeyedRegistry) (key : DroneKey)
    (fresh : Fresh) : KeyedRegistry → Option ActiveFlightSession → Prop where
  | active (session : ActiveFlightSession) (found : reg.getByDroneId key = some session) :
      Resolved mode reg key fresh reg (some session)
  | unknown (strict : mode = .aws) (absent : reg.getByDroneId key = none) :
      Resolved mode reg key fresh reg none
  | made (permissive : mode = .localTest) (absent : reg.getByDroneId key = none) (name : String) :
      Resolved mode reg key fresh (reg.store key (fresh.session name)) (some (fresh.session name))

theorem resolvedIn {mode : SessionSourceMode} {reg reg' : KeyedRegistry}
    {key : DroneKey} {drone : String} {fresh : Fresh} {session : Option ActiveFlightSession}
    (done : resolveActiveSessionIn mode reg key drone fresh = .ok (reg',session)) :
    Resolved mode reg key fresh reg' session := by
  unfold resolveActiveSessionIn at done
  cases found : reg.getByDroneId key with
  | some session =>
    rw [found] at done
    cases done
    exact .active session found
  | none =>
    simp only [found] at done
    cases mode with
    | aws => cases done; exact .unknown rfl found
    | localTest =>
      obtain ⟨⟨_,_⟩,ensured,last⟩ := bindOk done
      cases last
      obtain ⟨name,rfl,rfl⟩ := ensuredCases found ensured
      exact .made rfl found name

structure Called (p : Pipeline) (reg : KeyedRegistry) (t : WorkerTurn) (reg' : KeyedRegistry) (f : String)
    (u : Telemetry) (parsed : ParsedMessage) (key : DroneKey) (session : ActiveFlightSession) :
    Prop where
  message : parseQueueMessage p.env.jsonLoads t.message = .ok parsed
  drone : droneKey parsed.droneId = .ok key
  resolved : Resolved p.sessionSourceMode reg key t.fresh reg' (some session)
  owner : f = session.flightSessionId
  telemetry : u = telemetryOf session parsed t.message t.now

theorem mapErrorOk {α β γ : Type} {x : Except α γ} {f : α → β} {c : γ}
    (done : x.mapError f = .ok c) : x = .ok c := by
  cases x with
  | error e => cases done
  | ok c' => cases done; rfl

theorem sessionUpdateCalled {p : Pipeline} {reg reg' : KeyedRegistry} {t : WorkerTurn} {f : String}
    {u : Telemetry} (call : sessionUpdateCall p reg t = .ok (reg',f,u)) :
    ∃ parsed key session, Called p reg t reg' f u parsed key session := by
  obtain ⟨_,-,call⟩ := bindOk call
  obtain ⟨parsed,message,call⟩ := bindOk call
  obtain ⟨key,drone,call⟩ := bindOk call
  obtain ⟨⟨reg'',session⟩,resolved,call⟩ := bindOk call
  cases session with
  | none => cases call
  | some session =>
    cases call
    exact ⟨parsed,key,session,mapErrorOk message,drone,
      resolvedIn (mapErrorOk resolved),rfl,rfl⟩

def RowDue (state : DroneState) : Prop :=
  isTerminalMissionStatus state.missionStatus = true ∧ state.rowWritten = false

inductive Handled (p : Pipeline) (live : Live) (t : WorkerTurn) : Live → WorkerOutcome → Prop where
  | passed (outcome : WorkerOutcome) (call : sessionUpdateCall p live.registry t = .error outcome) :
      Handled p live t live outcome
  | broken (reg : KeyedRegistry) (f : String) (u : Telemetry) (tracker : DroneStateTracker)
      (e : PyError) (call : sessionUpdateCall p live.registry t = .ok (reg,f,u))
      (update : live.tracker.update p.env.haversine f u t.now = (tracker,.error e)) :
      Handled p live t ⟨reg,tracker,live.rows⟩ (.failed e)
  | noted (reg : KeyedRegistry) (f : String) (u : Telemetry) (tracker : DroneStateTracker)
      (state : DroneState) (call : sessionUpdateCall p live.registry t = .ok (reg,f,u))
      (update : live.tracker.update p.env.haversine f u t.now = (tracker,.ok state))
      (calm : ¬ RowDue state) : Handled p live t ⟨reg,tracker,live.rows⟩ .processed
  | unbuilt (reg : KeyedRegistry) (f : String) (u : Telemetry) (tracker : DroneStateTracker)
      (state : DroneState) (e : PyError) (call : sessionUpdateCall p live.registry t = .ok (reg,f,u))
      (update : live.tracker.update p.env.haversine f u t.now = (tracker,.ok state))
      (due : RowDue state) (build : buildRow state = .error e) :
      Handled p live t ⟨reg,tracker,live.rows⟩ (.failed e)
  | unwritten (reg : KeyedRegistry) (f : String) (u : Telemetry) (tracker : DroneStateTracker)
      (state : DroneState) (row : MissionRow) (e : PyError)
      (call : sessionUpdateCall p live.registry t = .ok (reg,f,u))
      (update : live.tracker.update p.env.haversine f u t.now = (tracker,.ok state))
      (due : RowDue state) (build : buildRow state = .ok row) (write : t.written = .error e) :
      Handled p live t ⟨reg,tracker.put { state with rowWritten := true },live.rows⟩ (.failed e)
  | wrote (reg : KeyedRegistry) (f : String) (u : Telemetry) (tracker : DroneStateTracker)
      (state : DroneState) (row : MissionRow)
      (call : sessionUpdateCall p live.registry t = .ok (reg,f,u))
      (update : live.tracker.update p.env.haversine f u t.now = (tracker,.ok state))
      (due : RowDue state) (build : buildRow state = .ok row) (write : t.written = .ok ()) :
      Handled p live t ⟨reg,tracker.put { state with rowWritten := true },live.rows ++ [row]⟩
        .processed

theorem turnHandled (p : Pipeline) (live : Live) (t : WorkerTurn) :
    Handled p live t (telemetryWorkerTurn p live t).1 (telemetryWorkerTurn p live t).2 := by
  unfold telemetryWorkerTurn
  cases call : sessionUpdateCall p live.registry t with
  | error outcome => exact .passed outcome call
  | ok call' =>
    obtain ⟨reg,f,u⟩ := call'
    dsimp only
    cases update : live.tracker.update p.env.haversine f u t.now with
    | mk tracker returned =>
      cases returned with
      | error e => exact .broken reg f u tracker e call update
      | ok state =>
        simp only [writeTerminalRow]
        by_cases due : RowDue state
        · have ready : (isTerminalMissionStatus state.missionStatus && !state.rowWritten) = true := by
            simp [due.1,due.2]
          rw [if_pos ready]
          cases build : buildRow state with
          | error e =>
            simp only [List.append_nil]
            exact .unbuilt reg f u tracker state e call update due build
          | ok row =>
            cases write : t.written with
            | error e =>
              simp only [List.append_nil]
              exact .unwritten reg f u tracker state row e call update due build write
            | ok done => exact .wrote reg f u tracker state row call update due build write
        · have idle : ¬ (isTerminalMissionStatus state.missionStatus && !state.rowWritten) = true := by
            simpa [RowDue] using due
          rw [if_neg idle,List.append_nil]
          exact .noted reg f u tracker state call update due

/-! In aws mode, where no session is made, the worker is the one of the combined service. -/

theorem awsResolves {reg : KeyedRegistry} (strings : reg.numbered = .empty) (key : DroneKey)
    (drone : String) (fresh : Fresh) : resolveActiveSessionIn .aws reg key drone fresh =
      .ok (reg,match key with
        | .name name => reg.named.getByDroneId name
        | .number _ => none) := by
  unfold resolveActiveSessionIn
  cases key with
  | number value => simp [KeyedRegistry.getByDroneId,strings]
  | name name =>
    simp only [KeyedRegistry.getByDroneId]
    cases reg.named.getByDroneId name with
    | none => rfl
    | some session => rfl

theorem awsCall {p : Pipeline} {reg : KeyedRegistry} {t : WorkerTurn} (aws : p.sessionSourceMode = .aws)
    (strings : reg.numbered = .empty) (timed : p.observe t.message = .ok ()) :
    sessionUpdateCall p reg t =
      (FlightMonitor.updateCall p.env reg.named t.message t.now).map (fun c => (reg,c.1,c.2)) := by
  unfold sessionUpdateCall FlightMonitor.updateCall
  rw [timed,aws]
  cases parseQueueMessage p.env.jsonLoads t.message with
  | error e => rfl
  | ok parsed =>
    simp only [Except.mapError,bind,Except.bind,droneKey]
    generalize parsed.droneId = id
    by_cases named : id.truthy = true
    · cases id with
      | null => cases named
      | bool b => simp [named,awsResolves strings,FlightMonitor.resolveActiveSession,Except.map]
      | int n => simp [named,awsResolves strings,FlightMonitor.resolveActiveSession,Except.map]
      | float x => simp [named,awsResolves strings,FlightMonitor.resolveActiveSession,Except.map]
      | str text =>
        simp only [named,not_true_eq_false,if_false,awsResolves strings,
          FlightMonitor.resolveActiveSession]
        cases reg.named.getByDroneId text with
        | none => rfl
        | some session => rfl
      | arr items => simp [named,FlightMonitor.resolveActiveSession,Except.map]
      | obj members => simp [named,FlightMonitor.resolveActiveSession,Except.map]
    · simp [named,Except.map]

theorem awsTurn {p : Pipeline} {live : Live} {t : WorkerTurn} (aws : p.sessionSourceMode = .aws)
    (strings : live.registry.numbered = .empty)
    (timed : p.observe t.message = .ok ()) :
    telemetryWorkerTurn p live t =
      match FlightMonitor.telemetryWorker p.env t.written live.registry.named live.tracker t.message
        t.now with
      | (tracker,rows,outcome) => (⟨live.registry,tracker,live.rows ++ rows⟩,outcome) := by
  unfold telemetryWorkerTurn FlightMonitor.telemetryWorker
  rw [awsCall aws strings timed]
  cases FlightMonitor.updateCall p.env live.registry.named t.message t.now with
  | error outcome => simp [Except.map]
  | ok call =>
    obtain ⟨f,u⟩ := call
    simp only [Except.map]
    cases live.tracker.update p.env.haversine f u t.now with
    | mk tracker returned =>
      cases returned with
      | error e => simp
      | ok state => rfl

end FlightMonitor.SessionModes
