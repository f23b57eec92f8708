import FlightMonitor.Service
import FlightMonitor.SessionModes

/-! What a failed message leaves behind. A worker has no rollback: the local session it made, the
update it completed and the mark of the row it built stay, whatever fails after them. -/
namespace FlightMonitor.FailedMessages
open PyValue IsoTime SessionModes

def FailureTransparent (p : Pipeline) (live : Live) (t : WorkerTurn) : Prop :=
  ∀ e, (telemetryWorkerTurn p live t).2 = .failed e →
    (telemetryWorkerTurn p live t).1.registry = live.registry ∧
    (telemetryWorkerTurn p live t).1.tracker = live.tracker

def addressed (p : Pipeline) (live : Live) (t : WorkerTurn) : Option String :=
  match sessionUpdateCall p live.registry t with
  | .ok (_,f,_) => some f
  | .error _ => none

inductive RowFailed (t : WorkerTurn) (tracker : DroneStateTracker) (state : DroneState) :
    DroneStateTracker → Prop where
  | unbuilt (e : PyError) (build : buildRow state = .error e) : RowFailed t tracker state tracker
  | unwritten (row : MissionRow) (e : PyError) (build : buildRow state = .ok row)
      (write : t.written = .error e) :
      RowFailed t tracker state (tracker.put { state with rowWritten := true })

/-- What a failed message may change: of the registry, a new local session of its own drone, and
of the tracker, the state of its own session from the moment its readings convert. -/
structure FailureContained (p : Pipeline) (live : Live) (t : WorkerTurn) (after : Live) : Prop where
  rows : after.rows = live.rows
  strict : p.sessionSourceMode = .aws → after.registry = live.registry
  registry : after.registry = live.registry ∨ ∃ parsed key name,
    parseQueueMessage p.env.jsonLoads t.message = .ok parsed ∧
    droneKey parsed.droneId = .ok key ∧ live.registry.getByDroneId key = none ∧
    after.registry = live.registry.store key (t.fresh.session name)
  others : ∀ g, addressed p live t ≠ some g → after.tracker.get g = live.tracker.get g
  unresolved : ∀ outcome, sessionUpdateCall p live.registry t = .error outcome → after = live
  unread : (∀ reg f u r, sessionUpdateCall p live.registry t = .ok (reg,f,u) → u.readings ≠ .ok r) →
    after.tracker = live.tracker
  completed : ∀ reg f u tracker state, sessionUpdateCall p live.registry t = .ok (reg,f,u) →
    live.tracker.update p.env.haversine f u t.now = (tracker,.ok state) →
    RowFailed t tracker state after.tracker

theorem updateApart (haversine : Haversine) (tracker : DroneStateTracker) (u : Telemetry)
    (now : UtcTime) {f g : String} (other : f ≠ g) :
    (tracker.update haversine f u now).1.get g = tracker.get g := by
  rcases tracker.updateCases haversine f u now with ⟨e,-,done⟩ | ⟨state,_,_,-,done,filed,-⟩
  · rw [done]
  · rw [done,DroneStateTracker.getPut,filed,if_neg other]

section
variable {p : Pipeline} {live : Live} {t : WorkerTurn} {reg : KeyedRegistry} {f : String} {u : Telemetry}
  (call : sessionUpdateCall p live.registry t = .ok (reg,f,u))
include call

theorem sessionOnly : (p.sessionSourceMode = .aws → reg = live.registry) ∧
    (reg = live.registry ∨ ∃ parsed key name,
      parseQueueMessage p.env.jsonLoads t.message = .ok parsed ∧
      droneKey parsed.droneId = .ok key ∧ live.registry.getByDroneId key = none ∧
      reg = live.registry.store key (t.fresh.session name)) := by
  obtain ⟨parsed,key,_,message,drone,resolved,-,-⟩ := sessionUpdateCalled call
  cases resolved with
  | active session found => exact ⟨fun _ => rfl,.inl rfl⟩
  | made permissive absent name =>
    refine ⟨fun strict => ?_,.inr ⟨parsed,key,name,message,drone,absent,rfl⟩⟩
    rw [permissive] at strict
    cases strict

theorem ownStateOnly (g : String) (other : addressed p live t ≠ some g) :
    (live.tracker.update p.env.haversine f u t.now).1.get g = live.tracker.get g := by
  refine updateApart _ _ _ _ (fun same => other ?_)
  simp only [addressed,call,same]

theorem containedAfter {tracker : DroneStateTracker}
    (others : ∀ g, addressed p live t ≠ some g → tracker.get g = live.tracker.get g)
    (unread : (∀ r, u.readings ≠ .ok r) → tracker = live.tracker)
    (completed : ∀ tracker' state, live.tracker.update p.env.haversine f u t.now =
      (tracker',.ok state) → RowFailed t tracker' state tracker) :
    FailureContained p live t ⟨reg,tracker,live.rows⟩ := by
  obtain ⟨strict,registry⟩ := sessionOnly call
  refine ⟨rfl,strict,registry,others,?_,?_,?_⟩
  · intro outcome refused
    rw [call] at refused
    cases refused
  · intro unreadable
    exact unread (fun r => unreadable reg f u r call)
  · intro reg' f' u' tracker' state call' update
    rw [call] at call'
    cases call'
    exact completed tracker' state update

end

theorem returnedState {haversine : Haversine} {tracker tracker' : DroneStateTracker} {f : String}
    {u : Telemetry} {now : UtcTime} {state : DroneState}
    (update : tracker.update haversine f u now = (tracker',.ok state)) :
    (∃ r, u.readings = .ok r) ∧ state.flightSessionId = f ∧ tracker' = tracker.put state := by
  rcases tracker.updateCases haversine f u now with
    ⟨e,-,done⟩ | ⟨state',_,r,read,done,filed,-,returned,-⟩
  · rw [update] at done; cases done
  · rw [update] at done
    obtain ⟨left,outcome⟩ := Prod.mk.inj done
    obtain rfl := returned state outcome.symm
    exact ⟨⟨r,read⟩,filed,left⟩

theorem failureContained {p : Pipeline} {live : Live} {t : WorkerTurn} {e : PyError}
    (failed : (telemetryWorkerTurn p live t).2 = .failed e) :
    FailureContained p live t (telemetryWorkerTurn p live t).1 := by
  have handled := turnHandled p live t
  rw [failed] at handled
  generalize (telemetryWorkerTurn p live t).1 = after at handled
  cases handled with
  | passed _ call =>
    refine ⟨rfl,fun _ => rfl,.inl rfl,fun _ _ => rfl,fun _ _ => rfl,fun _ => rfl,?_⟩
    intro _ _ _ _ _ call'
    rw [call] at call'
    cases call'
  | broken reg f u tracker _ call update =>
    have others := ownStateOnly call
    rw [update] at others
    refine containedAfter call others (fun unread => ?_) (fun tracker' state update' => ?_)
    · rcases live.tracker.updateCases p.env.haversine f u t.now with ⟨_,-,done⟩ | ⟨_,_,r,read,-⟩
      · rw [update] at done
        exact (Prod.mk.inj done).1
      · exact absurd read (unread r)
    · rw [update] at update'
      cases update'
  | unbuilt reg f u tracker state _ call update due build =>
    have others := ownStateOnly call
    rw [update] at others
    obtain ⟨⟨r,read⟩,-⟩ := returnedState update
    refine containedAfter call others (fun unread => absurd read (unread r))
      (fun tracker' state' update' => ?_)
    rw [update] at update'
    cases update'
    exact .unbuilt _ build
  | unwritten reg f u tracker state row _ call update due build write =>
    obtain ⟨⟨r,read⟩,filed,left⟩ := returnedState update
    have others : ∀ g, addressed p live t ≠ some g →
        (tracker.put { state with rowWritten := true }).get g = live.tracker.get g := by
      intro g other
      have apart : state.flightSessionId ≠ g :=
        fun here => other (by simp only [addressed,call,← here,filed])
      rw [left,DroneStateTracker.getPut,if_neg apart,DroneStateTracker.getPut,if_neg apart]
    refine containedAfter call others (fun unread => absurd read (unread r))
      (fun tracker' state' update' => ?_)
    rw [update] at update'
    cases update'
    exact .unwritten row _ build write

def completed (altitude : Json) : Members := [("drone_id",.str "drone-1"),
  ("mission_status",.str "completed"),("status",.obj [("location",.obj [("alt",altitude)])])]

def pipelineFor (mode : SessionSourceMode) (payload : Members) : Pipeline :=
  ⟨{ deployment with jsonLoads := fun _ => .ok (.obj payload) },mode,true,fun _ => "nan"⟩

def approved : Live where
  registry := KeyedRegistry.empty.store (.name "drone-1")
    { flightSessionId := "flight-1", droneId := some "drone-1", registeredAt := "" }
  tracker := .empty
  rows := []

def turnOf (written : Except PyError Unit) : WorkerTurn where
  message := [("payload",.str ""),("timestamp",.str "2026-03-01T09:00:00+00:00")]
  now := march 0 9 0 0
  fresh := ⟨"0","1","2026-03-01T09:00:00+00:00"⟩
  written := written

theorem failuresLeaveTraces :
    ¬ FailureTransparent (pipelineFor .aws (completed .null)) approved
      (turnOf (.error (.runtimeError "disk full"))) ∧
    ¬ FailureTransparent (pipelineFor .localTest (completed (.float .nan))) ⟨.empty,.empty,[]⟩
      (turnOf (.ok ())) := by
  constructor
  · intro transparent
    obtain ⟨-,tracker⟩ := transparent (.runtimeError "disk full") rfl
    have seen := congrArg (fun tracker => (tracker.get "flight-1").isSome) tracker
    cases seen
  · intro transparent
    obtain ⟨registry,-⟩ :=
      transparent (.valueError "cannot convert float NaN to integer") rfl
    have known := congrArg (fun reg => (reg.named.indexed "drone-1").isSome) registry
    cases known

theorem unwrittenRowContained :
    FailureContained (pipelineFor .aws (completed .null)) approved
      (turnOf (.error (.runtimeError "disk full")))
      (telemetryWorkerTurn (pipelineFor .aws (completed .null)) approved
        (turnOf (.error (.runtimeError "disk full")))).1 :=
  failureContained (e := .runtimeError "disk full") rfl

end FlightMonitor.FailedMessages
