import FlightMonitor.Arrivals

/-! Telemetry of different sessions. A worker reads the registry without writing it, and a
message touches the live state of one session only, the one its drone id resolves to, also
when its processing raises midway. -/
namespace FlightMonitor.Isolation
open PyValue IsoTime

def observeQueueLatency (message : Members) : Except PyError Unit :=
  let enqueued := Json.member message "enqueued_monotonic" .null
  match enqueued with
  | .bool _ | .int _ | .float _ => (toFloat enqueued).map (fun _ => ())
  | _ => .ok ()

structure Turn where
  message : Members
  now : UtcTime
  written : Except PyError Unit

def takeTurn (env : Env) (metrics : Bool) (s : State) (turn : Turn) : State :=
  match if metrics then observeQueueLatency turn.message else .ok () with
  | .error _ => s
  | .ok _ => worker env turn.written { s with queue := turn.message :: s.queue } turn.now

def takeTurns (env : Env) (metrics : Bool) (s : State) (turns : List Turn) : State :=
  Trace.final (takeTurn env metrics) s turns

theorem takeTurnsConcat (env : Env) (metrics : Bool) (s : State) (turns : List Turn) (turn : Turn) :
    takeTurns env metrics s (turns ++ [turn]) =
      takeTurn env metrics (takeTurns env metrics s turns) turn := Trace.finalConcat ..

def resolvesTo (env : Env) (reg : ActiveSessionRegistry) (f : String) (message : Members) : Bool :=
  match parseQueueMessage env.jsonLoads message with
  | .error _ => false
  | .ok parsed => parsed.droneId.truthy &&
    match resolveActiveSession reg parsed.droneId with
    | .ok (some session) => session.flightSessionId == f
    | _ => false

structure Isolated (env : Env) (metrics : Bool) (s : State) (turns : List Turn) : Prop where
  frame : takeTurns env metrics s turns = { s with
    tracker := (takeTurns env metrics s turns).tracker
    rows := (takeTurns env metrics s turns).rows }
  own : ∀ f, (takeTurns env metrics s turns).tracker.get f =
    (takeTurns env metrics s
      (turns.filter (fun turn => resolvesTo env s.registry f turn.message))).tracker.get f

theorem reachedLatency {env : Env} {events : List Event} {message : Members} {queue : List Members}
    (waiting : (after env events).queue = message :: queue) :
    observeQueueLatency message = .ok () := by
  obtain ⟨r,rest,-,rfl,received⟩ := queueReceived waiting
  obtain ⟨topic,payload,acts⟩ := received.message
  simp [observeQueueLatency,envelope,acts,Json.member,Dict.lookup,toFloat,Except.map]

theorem workerTurn {env : Env} {events : List Event} {message : Members} {queue : List Members}
    (waiting : (after env events).queue = message :: queue) (metrics : Bool) (now : UtcTime)
    (loop : Rat) (written : Except PyError Unit) :
    step env (after env events) ⟨now,loop,.worker written⟩ =
      takeTurn env metrics { after env events with queue := queue } ⟨message,now,written⟩ := by
  have observed : (if metrics then observeQueueLatency message else .ok ()) = .ok () := by
    split
    · exact reachedLatency waiting
    · rfl
  have same : { after env events with queue := message :: queue } = after env events := by
    rw [← waiting]
  simp only [step,takeTurn,observed,same]

theorem resolvesCall {env : Env} {reg : ActiveSessionRegistry} {message : Members} (now : UtcTime)
    (f : String) : resolvesTo env reg f message = true ↔
      ∃ u, updateCall env reg message now = .ok (f,u) := by
  unfold resolvesTo updateCall
  cases parseQueueMessage env.jsonLoads message with
  | error e => simp
  | ok parsed =>
    by_cases named : parsed.droneId.truthy = true
    · rcases resolved : resolveActiveSession reg parsed.droneId with e | _ | session <;>
        simp [named,resolved]
    · simp [named]

theorem updateLocal (haversine : Haversine) {f : String} (u : Telemetry) (now : UtcTime)
    {tracker tracker' : DroneStateTracker} (same : tracker.get f = tracker'.get f) :
    (tracker.update haversine f u now).2 = (tracker'.update haversine f u now).2 ∧
      (tracker.update haversine f u now).1.get f = (tracker'.update haversine f u now).1.get f := by
  unfold DroneStateTracker.update
  rw [same]
  cases u.readings with
  | error e => exact ⟨rfl,same⟩
  | ok r =>
    cases tracker'.get f with
    | none => simp [same]
    | some existing =>
      dsimp only
      cases leg haversine existing.position u.position <;> simp [same]

theorem writeLocal {written : Except PyError Unit} {tracker tracker' : DroneStateTracker}
    {state : DroneState} {f : String} (same : tracker.get f = tracker'.get f) :
    (writeTerminalRow written tracker state).1.get f =
      (writeTerminalRow written tracker' state).1.get f := by
  unfold writeTerminalRow
  split
  · cases buildRow state with
    | error e => exact same
    | ok row => cases written <;> simp [same]
  · exact same

theorem workerLocal {env : Env} {written : Except PyError Unit} {reg : ActiveSessionRegistry}
    {message : Members} {now : UtcTime} {f : String} {tracker tracker' : DroneStateTracker}
    (own : resolvesTo env reg f message = true) (same : tracker.get f = tracker'.get f) :
    (telemetryWorker env written reg tracker message now).1.get f =
      (telemetryWorker env written reg tracker' message now).1.get f := by
  obtain ⟨u,call⟩ := (resolvesCall now f).mp own
  obtain ⟨returned,stored⟩ := updateLocal env.haversine u now same
  simp only [telemetryWorker,call]
  rcases first : tracker.update env.haversine f u now with ⟨left,outcome⟩
  rcases second : tracker'.update env.haversine f u now with ⟨right,outcome'⟩
  rw [first,second] at returned stored
  cases (show outcome = outcome' from returned)
  cases outcome with
  | error e => exact stored
  | ok state => exact writeLocal stored

theorem workerElsewhere {env : Env} {written : Except PyError Unit} {reg : ActiveSessionRegistry}
    {message : Members} {now : UtcTime} {f : String} (other : resolvesTo env reg f message = false)
    (tracker : DroneStateTracker) :
    (telemetryWorker env written reg tracker message now).1.get f = tracker.get f := by
  cases call : updateCall env reg message now with
  | error outcome => simp only [telemetryWorker,call]
  | ok target =>
    obtain ⟨g,u⟩ := target
    have away : g ≠ f := by
      intro here
      subst g
      exact absurd ((resolvesCall now f).mpr ⟨u,call⟩) (by simp [other])
    cases read : u.readings with
    | error e =>
      rw [telemetryWorkerIdle]
      intro h v r again
      cases call.symm.trans again
      simp [read]
    | ok r =>
      obtain ⟨state,-,-,-,-,got⟩ := telemetryWorkerFiles call read written tracker
      rw [got,if_neg away]

theorem turnCases (env : Env) (metrics : Bool) (s : State) (turn : Turn) :
    takeTurn env metrics s turn = s ∧ (∀ s', takeTurn env metrics s' turn = s') ∨
    ∃ rows, takeTurn env metrics s turn = { s with
        tracker := (telemetryWorker env turn.written s.registry s.tracker turn.message turn.now).1
        rows := rows } ∧
      ∀ s', (takeTurn env metrics s' turn).tracker =
        (telemetryWorker env turn.written s'.registry s'.tracker turn.message turn.now).1 := by
  unfold takeTurn
  cases if metrics then observeQueueLatency turn.message else .ok () with
  | error e => exact .inl ⟨rfl,fun _ => rfl⟩
  | ok => exact .inr ⟨_,rfl,fun _ => rfl⟩

theorem turnFrame (env : Env) (metrics : Bool) (s : State) (turn : Turn) :
    ∃ tracker rows, takeTurn env metrics s turn = { s with tracker := tracker, rows := rows } := by
  rcases turnCases env metrics s turn with ⟨same,-⟩ | ⟨rows,done,-⟩
  · exact ⟨s.tracker,s.rows,same⟩
  · exact ⟨_,rows,done⟩

theorem turnElsewhere {env : Env} {metrics : Bool} {s : State} {turn : Turn} {f : String}
    (other : resolvesTo env s.registry f turn.message = false) :
    (takeTurn env metrics s turn).tracker.get f = s.tracker.get f := by
  rcases turnCases env metrics s turn with ⟨same,-⟩ | ⟨rows,-,done⟩
  · rw [same]
  · rw [done,workerElsewhere other]

theorem turnLocal {env : Env} {metrics : Bool} {s s' : State} {turn : Turn} {f : String}
    (own : resolvesTo env s.registry f turn.message = true) (registry : s.registry = s'.registry)
    (same : s.tracker.get f = s'.tracker.get f) :
    (takeTurn env metrics s turn).tracker.get f = (takeTurn env metrics s' turn).tracker.get f := by
  rcases turnCases env metrics s turn with ⟨still,idle⟩ | ⟨rows,-,done⟩
  · rw [still,idle,same]
  · rw [done,done,← registry]
    exact workerLocal own same

theorem turnsRegistry (env : Env) (metrics : Bool) (s : State) (turns : List Turn) :
    (takeTurns env metrics s turns).registry = s.registry := by
  induction turns using List.reverseRecOn with
  | nil => rfl
  | append_singleton turns turn ih =>
    obtain ⟨tracker,rows,done⟩ := turnFrame env metrics (takeTurns env metrics s turns) turn
    rw [takeTurnsConcat]
    exact (congrArg State.registry done).trans ih

theorem turnsFrame (env : Env) (metrics : Bool) (s : State) (turns : List Turn) :
    ∃ tracker rows, takeTurns env metrics s turns = { s with tracker := tracker, rows := rows } := by
  induction turns using List.reverseRecOn with
  | nil => exact ⟨s.tracker,s.rows,rfl⟩
  | append_singleton turns turn ih =>
    obtain ⟨tracker,rows,before⟩ := ih
    obtain ⟨tracker',rows',done⟩ := turnFrame env metrics (takeTurns env metrics s turns) turn
    refine ⟨tracker',rows',?_⟩
    rw [takeTurnsConcat]
    refine done.trans ?_
    rw [before]

theorem sessionsIsolated (env : Env) (metrics : Bool) (s : State) (turns : List Turn) :
    Isolated env metrics s turns := by
  constructor
  · obtain ⟨tracker,rows,done⟩ := turnsFrame env metrics s turns
    rw [done]
  · intro f
    induction turns using List.reverseRecOn with
    | nil => rfl
    | append_singleton turns turn ih =>
      have registry := turnsRegistry env metrics s turns
      rw [List.filter_append,takeTurnsConcat]
      cases own : resolvesTo env s.registry f turn.message with
      | false =>
        simp only [List.filter_cons,own,List.filter_nil,List.append_nil,Bool.false_eq_true,if_false]
        rw [turnElsewhere (by rw [registry]; exact own),ih]
      | true =>
        simp only [List.filter_cons,own,List.filter_nil,if_true]
        rw [takeTurnsConcat]
        exact turnLocal (by rw [registry]; exact own)
          (registry.trans (turnsRegistry env metrics s _).symm) ih

end FlightMonitor.Isolation
