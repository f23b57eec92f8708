import FlightMonitor.Service

/-! The service seen from one session: its record, its live state, the reports posted for
it and the stub tasks that have posted one without having released the session. Every step
of the service is a short list of moves of this machine, and most steps are no move. -/
namespace FlightMonitor
open PyValue IsoTime

structure SessionView where
  record : Option ActiveFlightSession := none
  live : Option DroneState := none
  reports : List FinalizationPayload := []
  unreleased : Nat := 0

inductive Move where
  | registered (session : ActiveFlightSession)
  | exitAccepted (requestedAt reason : String)
  | observed (state : DroneState)
  | stubReported (payload : FinalizationPayload)
  | stubReleased
  | scanned (now strandedNow : UtcTime)
  | finalized (now : UtcTime)

def ActiveFlightSession.scan (live : Option DroneState) (now strandedNow : UtcTime)
    (s : ActiveFlightSession) : ActiveFlightSession :=
  (s.stampBreach now).stampStranded live strandedNow

theorem scanFlags (live : Option DroneState) (now strandedNow : UtcTime)
    (s : ActiveFlightSession) : ∃ breached stranded, s.scan live now strandedNow =
      { s with exitDeadlineBreachedAt := breached, strandedFlaggedAt := stranded } := by
  unfold ActiveFlightSession.scan ActiveFlightSession.stampStranded ActiveFlightSession.stampBreach
  split <;> split <;> exact ⟨_,_,rfl⟩

def Move.apply (v : SessionView) : Move → SessionView
  | .registered session => { v with record := some session }
  | .exitAccepted requestedAt reason =>
    { v with
      record := v.record.map (ActiveFlightSession.stampExit requestedAt)
      live := v.live.map (DroneState.stampExit requestedAt reason) }
  | .observed state => { v with live := some state }
  | .stubReported payload =>
    { v with reports := v.reports ++ [payload], unreleased := v.unreleased + 1 }
  | .stubReleased => { v with record := none, unreleased := v.unreleased - 1 }
  | .scanned now strandedNow =>
    { v with record := v.record.map (ActiveFlightSession.scan v.live now strandedNow) }
  | .finalized now =>
    { v with
      record := none, live := none
      reports := v.reports ++ (finalReport v.live v.record now).toList }

def StubTask.unreleased (f : String) (task : StubTask) : Bool :=
  task.flightSessionId == f && (task.phase == .posting || task.phase == .postRaised)

def State.view (s : State) (f : String) : SessionView where
  record := s.registry.getByFlightSessionId f
  live := s.tracker.get f
  reports := s.posts.filter (fun payload => payload.flightSessionId == f)
  unreleased := s.stubs.countP (StubTask.unreleased f)

theorem entersView {env : Env} {f : String} {s : State} {e : Event} : Enters env f s e ↔
    (s.view f).record = none ∧ ((step env s e).view f).record ≠ none := Iff.rfl

def reached (env : Env) (now : UtcTime) : List String → State → List String
  | [],_ => []
  | f :: pending,s =>
    match finalizeSessionToSade env s f now with
    | (_,.posting) => [f]
    | (s,_) => f :: reached env now pending s

def scannedCandidates (s : State) (now strandedNow forceCloseNow : UtcTime) : List String :=
  (findForceCloseCandidates (s.scanned now strandedNow).registry forceCloseNow).map
    ActiveFlightSession.flightSessionId

def silentSession (s : State) (i : Nat) (loop : Rat) : Option String :=
  match s.graces[i]? with
  | some ⟨f,.watching watch⟩ =>
    if (s.registry.getByFlightSessionId f).isSome ∧
      (watch.check ((s.tracker.get f).map DroneState.lastSeen) loop).isNone then some f else none
  | _ => none

def finalizing (env : Env) (s : State) (e : Event) : List String :=
  match e.action with
  | .graceChecks i => (silentSession s i e.loop).toList
  | .sweep strandedNow forceCloseNow =>
    match s.sweeper with
    | .sleeping => reached env forceCloseNow
        (scannedCandidates s e.wall strandedNow forceCloseNow) (s.scanned e.wall strandedNow)
    | .forceClosing .. => []
  | .sweeperPosted _ =>
    match s.sweeper with
    | .sleeping => []
    | .forceClosing pending _ => reached env e.wall pending s
  | _ => []

def registering (s : State) (e : Event) : Option ActiveFlightSession :=
  match e.action with
  | .registerSession body =>
    match decodeRegisterSession body with
    | .error _ => none
    | .ok p =>
      match s.registry.register (p.session e.wall) with
      | .error _ => none
      | .ok _ => some (p.session e.wall)
  | _ => none

def accepting (s : State) (e : Event) : Option ExitRequestPayload :=
  match e.action with
  | .exitRequest body =>
    match decodeExitRequest body with
    | .error _ => none
    | .ok p => (s.registry.getByFlightSessionId p.flightSessionId).map (fun _ => p)
  | _ => none

def observing (env : Env) (s : State) (e : Event) : Option DroneState :=
  match e.action,s.queue with
  | .worker written,message :: _ =>
    match updateCall env s.registry message e.wall with
    | .error _ => none
    | .ok (f,telemetry) =>
      match telemetry.readings with
      | .error _ => none
      | .ok _ => (telemetryWorker env written s.registry s.tracker message e.wall).1.get f
  | _,_ => none

def stubReporting (s : State) (e : Event) : Option FinalizationPayload :=
  match e.action with
  | .stubFires i =>
    match s.stubs[i]? with
    | some ⟨f,overrides,.sleeping⟩ =>
      match buildStubFinalizationPayload f overrides e.wall with
      | .error _ => none
      | .ok payload => some payload
    | _ => none
  | _ => none

def stubReleasing (s : State) (e : Event) : Option String :=
  match e.action with
  | .stubPosted i .returned =>
    match s.stubs[i]? with
    | some ⟨f,_,.posting⟩ => some f
    | _ => none
  | _ => none

def scanning (s : State) (e : Event) : Option (UtcTime × UtcTime) :=
  match e.action,s.sweeper with
  | .sweep strandedNow _,.sleeping => some (e.wall,strandedNow)
  | _,_ => none

def Event.finalizeClock (e : Event) : UtcTime :=
  match e.action with
  | .sweep _ forceCloseNow => forceCloseNow
  | _ => e.wall

def Move.about {α : Type} (f : String) (id : α → String) (move : α → Move) : Option α → List Move
  | none => []
  | some a => if id a = f then [move a] else []

@[simp] theorem Move.aboutNone {α : Type} (f : String) (id : α → String) (move : α → Move) :
    Move.about f id move none = [] := rfl

def moves (env : Env) (s : State) (e : Event) (f : String) : List Move :=
  Move.about f ActiveFlightSession.flightSessionId .registered (registering s e) ++
  Move.about f ExitRequestPayload.flightSessionId
    (fun p => .exitAccepted (p.stamp e.wall) (reasonOr p.reason)) (accepting s e) ++
  Move.about f DroneState.flightSessionId .observed (observing env s e) ++
  Move.about f FinalizationPayload.flightSessionId .stubReported (stubReporting s e) ++
  Move.about f id (fun _ => .stubReleased) (stubReleasing s e) ++
  Move.about f (fun _ => f) (fun t => .scanned t.1 t.2) (scanning s e) ++
  if f ∈ finalizing env s e then [.finalized e.finalizeClock] else []

def RegisterSessionPayload.startedStubs (p : RegisterSessionPayload) : List StubTask :=
  (p.testOverrides.map (fun overrides => ⟨p.flightSessionId,overrides,.sleeping⟩)).toList

theorem registerSessionCases (s : State) (body : Json) (now : UtcTime) (loop : Rat) :
    (registering s ⟨now,loop,.registerSession body⟩ = none ∧ registerSession s body now = s) ∨
    ∃ p, decodeRegisterSession body = .ok p ∧
      registering s ⟨now,loop,.registerSession body⟩ = some (p.session now) ∧
      registerSession s body now = { s with
        registry := s.registry.store (p.session now), stubs := s.stubs ++ p.startedStubs } := by
  simp only [registerSession,registering]
  cases decodeRegisterSession body with
  | error e => exact .inl ⟨rfl,rfl⟩
  | ok p =>
    rcases ActiveSessionRegistry.registerCases s.registry (p.session now) with done | ⟨⟨text,refused⟩,-⟩
    · refine .inr ⟨p,rfl,by simp only [done],?_⟩
      simp only [processRegisterSession,done,RegisterSessionPayload.startedStubs]
      cases p.testOverrides <;> simp
    · exact .inl ⟨by simp only [refused],by simp only [processRegisterSession,refused]⟩

theorem exitRequestCases (s : State) (body : Json) (now : UtcTime) (loop : Rat) :
    (accepting s ⟨now,loop,.exitRequest body⟩ = none ∧ exitRequest s body now = s) ∨
    ∃ p session, decodeExitRequest body = .ok p ∧
      s.registry.getByFlightSessionId p.flightSessionId = some session ∧
      accepting s ⟨now,loop,.exitRequest body⟩ = some p ∧
      exitRequest s body now = { s with
        registry := s.registry.modifySession p.flightSessionId
          (ActiveFlightSession.stampExit (p.stamp now)) (stampExitSession _)
        tracker := mirrorExit s.tracker p.flightSessionId (p.stamp now) (reasonOr p.reason)
        graces := s.graces ++ [⟨p.flightSessionId,.created⟩] } := by
  simp only [exitRequest,accepting]
  cases decodeExitRequest body with
  | error e => exact .inl ⟨rfl,rfl⟩
  | ok p =>
    cases active : s.registry.getByFlightSessionId p.flightSessionId with
    | none => exact .inl ⟨by simp [active],by simp only [processExitRequest,active]⟩
    | some session =>
      exact .inr ⟨p,session,rfl,active,by simp [active],by simp only [processExitRequest,active]⟩

theorem workerCases (env : Env) (written : Except PyError Unit) (s : State) (now : UtcTime)
    (loop : Rat) : ∃ queue rows tracker,
    worker env written s now = { s with queue := queue, rows := rows, tracker := tracker } ∧
    ((observing env s ⟨now,loop,.worker written⟩ = none ∧ tracker = s.tracker) ∨
    ∃ state record, observing env s ⟨now,loop,.worker written⟩ = some state ∧
      s.registry.getByFlightSessionId state.flightSessionId = some record ∧
      state.exitRequestedAt =
        (s.tracker.get state.flightSessionId).bind DroneState.exitRequestedAt ∧
      state.exitReason = (s.tracker.get state.flightSessionId).bind DroneState.exitReason ∧
      ∀ g, tracker.get g = if state.flightSessionId = g then some state else s.tracker.get g) := by
  cases waiting : s.queue with
  | nil =>
    have idle : worker env written s now = s := by simp only [worker,waiting]
    exact ⟨s.queue,s.rows,s.tracker,idle,.inl ⟨by simp only [observing,waiting],rfl⟩⟩
  | cons message queue =>
    refine ⟨queue,_,_,by simp only [worker,waiting]; rfl,?_⟩
    cases call : updateCall env s.registry message now with
    | error outcome =>
      exact .inl ⟨by simp only [observing,waiting,call],
        telemetryWorkerIdle (by simp [call]) written s.tracker⟩
    | ok target =>
      obtain ⟨f,u⟩ := target
      cases read : u.readings with
      | error e =>
        refine .inl ⟨by simp only [observing,waiting,call,read],
          telemetryWorkerIdle ?_ written s.tracker⟩
        intro g w r same
        cases call.symm.trans same
        simp [read]
      | ok r =>
        obtain ⟨record,active⟩ := updateCallActive call
        obtain ⟨state,filed,-,at_,why,got⟩ := telemetryWorkerFiles call read written s.tracker
        subst f
        refine .inr ⟨state,record,?_,active,at_,why,got⟩
        simp only [observing,waiting,call,read]
        rw [got,if_pos rfl]

theorem observingCall {env : Env} {s : State} {e : Event} {state : DroneState}
    (made : observing env s e = some state) : ∃ written message rest u r,
      e.action = .worker written ∧ s.queue = message :: rest ∧
      updateCall env s.registry message e.wall = .ok (state.flightSessionId,u) ∧
      u.readings = .ok r ∧ (telemetryWorker env written s.registry s.tracker message e.wall).1.get
        state.flightSessionId = some state := by
  unfold observing at made
  split at made
  · rename_i written message rest acts waiting
    split at made
    · cases made
    · rename_i f u call
      split at made
      · cases made
      · rename_i r read
        have filed := DroneStateTracker.stateFiled made
        subst f
        exact ⟨written,message,rest,u,r,acts,waiting,call,read,made⟩
  · cases made

theorem callObserves {env : Env} {s : State} {e : Event} {written : Except PyError Unit}
    {message : Members} {rest : List Members} {f : String} {u : Telemetry}
    {r : Option PyFloat × Option PyFloat} (acts : e.action = .worker written)
    (waiting : s.queue = message :: rest)
    (call : updateCall env s.registry message e.wall = .ok (f,u)) (read : u.readings = .ok r) :
    ∃ state, observing env s e = some state ∧ state.flightSessionId = f := by
  obtain ⟨state,filed,-,-,-,got⟩ := telemetryWorkerFiles call read written s.tracker
  refine ⟨state,?_,filed⟩
  simp only [observing,acts,waiting,call,read]
  rw [got,if_pos rfl]

theorem registeringDecoded {s : State} {e : Event} {session : ActiveFlightSession}
    (made : registering s e = some session) : ∃ body p, e.action = .registerSession body ∧
      decodeRegisterSession body = .ok p ∧ session = p.session e.wall := by
  obtain ⟨now,loop,action⟩ := e
  cases action with
  | registerSession body =>
    rcases registerSessionCases s body now loop with ⟨none,-⟩ | ⟨p,decoded,some,-⟩
    · rw [none] at made; cases made
    · exact ⟨body,p,rfl,decoded,(Option.some.inj (some.symm.trans made)).symm⟩
  | _ => simp [registering] at made

theorem acceptingDecoded {s : State} {e : Event} {p : ExitRequestPayload}
    (made : accepting s e = some p) :
    ∃ body, e.action = .exitRequest body ∧ decodeExitRequest body = .ok p := by
  obtain ⟨now,loop,action⟩ := e
  cases action with
  | exitRequest body =>
    rcases exitRequestCases s body now loop with ⟨none,-⟩ | ⟨q,_,decoded,-,some,-⟩
    · rw [none] at made; cases made
    · cases some.symm.trans made
      exact ⟨body,rfl,decoded⟩
  | _ => simp [accepting] at made

theorem registerSessionView (s : State) (body : Json) (now : UtcTime) (loop : Rat) (f : String) :
    (registerSession s body now).view f =
      (Move.about f ActiveFlightSession.flightSessionId .registered
        (registering s ⟨now,loop,.registerSession body⟩)).foldl Move.apply (s.view f) := by
  rcases registerSessionCases s body now loop with ⟨none,same⟩ | ⟨p,-,made,done⟩
  · rw [none,same]; rfl
  · have idle : p.startedStubs.countP (StubTask.unreleased f) = 0 := by
      unfold RegisterSessionPayload.startedStubs
      cases p.testOverrides <;> simp [StubTask.unreleased]
    rw [made,done]
    by_cases here : (p.session now).flightSessionId = f
    · simp [State.view,Move.about,here,Move.apply,idle]
    · simp [State.view,Move.about,here,idle]

theorem exitRequestView (s : State) (body : Json) (now : UtcTime) (loop : Rat) (f : String) :
    (exitRequest s body now).view f =
      (Move.about f ExitRequestPayload.flightSessionId
        (fun p => .exitAccepted (p.stamp now) (reasonOr p.reason))
        (accepting s ⟨now,loop,.exitRequest body⟩)).foldl Move.apply (s.view f) := by
  rcases exitRequestCases s body now loop with ⟨none,same⟩ | ⟨p,session,-,-,made,done⟩
  · rw [none,same]; rfl
  · rw [made,done]
    by_cases here : p.flightSessionId = f
    · simp [State.view,Move.about,getMirrorExit,here,Move.apply]
    · simp [State.view,Move.about,getMirrorExit,here]

theorem workerView (env : Env) (written : Except PyError Unit) (s : State) (now : UtcTime)
    (loop : Rat) (f : String) : (worker env written s now).view f =
      (Move.about f DroneState.flightSessionId .observed
        (observing env s ⟨now,loop,.worker written⟩)).foldl Move.apply (s.view f) := by
  obtain ⟨queue,rows,tracker,done,⟨none,same⟩ | ⟨state,record,some,-,-,-,got⟩⟩ :=
    workerCases env written s now loop
  · rw [none,done,same]; rfl
  · rw [some,done]
    by_cases here : state.flightSessionId = f
    · simp [State.view,Move.about,here,Move.apply,got]
    · simp [State.view,Move.about,here,got]

theorem countModify {α : Type} (p : α → Bool) (change : α → α) {l : List α} {i : Nat} {a : α}
    (found : l[i]? = some a) : (l.modify i change).countP p + (if p a then 1 else 0) =
      l.countP p + (if p (change a) then 1 else 0) := by
  induction l generalizing i with
  | nil => simp at found
  | cons head tail ih =>
    cases i with
    | zero =>
      cases found
      simp only [List.modify_zero_cons,List.countP_cons]
      omega
    | succ i =>
      have rest := ih (i := i) (by simpa using found)
      simp only [List.modify_succ_cons,List.countP_cons]
      omega

theorem setStubUnreleased {s : State} {i : Nat} {task : StubTask} (found : s.stubs[i]? = some task)
    (phase : StubPhase) (f : String) :
    (s.setStub i phase).stubs.countP (StubTask.unreleased f) +
        (if task.unreleased f then 1 else 0) =
      s.stubs.countP (StubTask.unreleased f) +
        (if StubTask.unreleased f { task with phase := phase } then 1 else 0) :=
  countModify _ _ found

theorem stubFiresCases (env : Env) (s : State) (i : Nat) (now : UtcTime) (loop : Rat) :
    ∃ stubs, (stubReporting s ⟨now,loop,.stubFires i⟩ = none ∧
      stubFires env s i now = { s with stubs := stubs } ∧
      ∀ f, stubs.countP (StubTask.unreleased f) = s.stubs.countP (StubTask.unreleased f)) ∨
    ∃ payload, stubReporting s ⟨now,loop,.stubFires i⟩ = some payload ∧
      stubFires env s i now = { s with stubs := stubs, posts := s.posts ++ [payload] } ∧
      ∀ f, stubs.countP (StubTask.unreleased f) =
        s.stubs.countP (StubTask.unreleased f) + if payload.flightSessionId = f then 1 else 0 := by
  simp only [stubFires,stubReporting]
  rcases found : s.stubs[i]? with _ | ⟨g,overrides,phase⟩
  · exact ⟨s.stubs,.inl ⟨rfl,rfl,fun f => rfl⟩⟩
  · cases phase with
    | posting | finished | buildRaised | postRaised =>
      exact ⟨s.stubs,.inl ⟨rfl,rfl,fun f => rfl⟩⟩
    | sleeping =>
      have counted := setStubUnreleased found
      cases built : buildStubFinalizationPayload g overrides now with
      | error e =>
        refine ⟨(s.setStub i .buildRaised).stubs,
          .inl ⟨by simp only [built],by simp only [built]; rfl,fun f => ?_⟩⟩
        simpa [StubTask.unreleased] using counted .buildRaised f
      | ok payload =>
        have id := stubPayloadSession built
        cases getTrackerFinalizedUrl env.trackerFinalizedUrl with
        | error e =>
          refine ⟨(s.setStub i .postRaised).stubs,
            .inr ⟨payload,by simp only [built],by simp only [built]; rfl,fun f => ?_⟩⟩
          simpa [StubTask.unreleased,id] using counted .postRaised f
        | ok url =>
          refine ⟨(s.setStub i .posting).stubs,
            .inr ⟨payload,by simp only [built],by simp only [built]; rfl,fun f => ?_⟩⟩
          simpa [StubTask.unreleased,id] using counted .posting f

theorem stubPostedCases (s : State) (i : Nat) (outcome : PostOutcome) (now : UtcTime) (loop : Rat) :
    ∃ stubs, (stubReleasing s ⟨now,loop,.stubPosted i outcome⟩ = none ∧
      stubPosted s i outcome = { s with stubs := stubs } ∧
      ∀ f, stubs.countP (StubTask.unreleased f) = s.stubs.countP (StubTask.unreleased f)) ∨
    ∃ g, stubReleasing s ⟨now,loop,.stubPosted i outcome⟩ = some g ∧
      stubPosted s i outcome = { s with stubs := stubs, registry := s.registry.complete g } ∧
      ∀ f, stubs.countP (StubTask.unreleased f) + (if g = f then 1 else 0) =
        s.stubs.countP (StubTask.unreleased f) := by
  simp only [stubPosted]
  rcases found : s.stubs[i]? with _ | ⟨g,overrides,phase⟩
  · refine ⟨s.stubs,.inl ⟨?_,rfl,fun f => rfl⟩⟩
    cases outcome <;> simp only [stubReleasing,found]
  · cases phase with
    | sleeping | finished | buildRaised | postRaised =>
      refine ⟨s.stubs,.inl ⟨?_,rfl,fun f => rfl⟩⟩
      cases outcome <;> simp only [stubReleasing,found]
    | posting =>
      have counted := setStubUnreleased found
      cases outcome with
      | raised =>
        refine ⟨(s.setStub i .postRaised).stubs,.inl ⟨rfl,rfl,fun f => ?_⟩⟩
        simpa [StubTask.unreleased] using counted .postRaised f
      | returned =>
        refine ⟨(s.setStub i .finished).stubs,.inr ⟨g,by simp only [stubReleasing,found],rfl,
          fun f => ?_⟩⟩
        simpa [StubTask.unreleased] using counted .finished f

theorem stubFiresView (env : Env) (s : State) (i : Nat) (now : UtcTime) (loop : Rat) (f : String) :
    (stubFires env s i now).view f =
      (Move.about f FinalizationPayload.flightSessionId .stubReported
        (stubReporting s ⟨now,loop,.stubFires i⟩)).foldl Move.apply (s.view f) := by
  obtain ⟨stubs,⟨none,done,same⟩ | ⟨payload,some,done,more⟩⟩ := stubFiresCases env s i now loop
  · rw [none,done]
    simp [State.view,Move.about,same]
  · rw [some,done]
    by_cases here : payload.flightSessionId = f
    · simp [State.view,Move.about,Move.apply,here,more]
    · simp [State.view,Move.about,here,more]

theorem stubPostedView (s : State) (i : Nat) (outcome : PostOutcome) (now : UtcTime) (loop : Rat)
    (f : String) : (stubPosted s i outcome).view f =
      (Move.about f id (fun _ => .stubReleased)
        (stubReleasing s ⟨now,loop,.stubPosted i outcome⟩)).foldl Move.apply (s.view f) := by
  obtain ⟨stubs,⟨none,done,same⟩ | ⟨g,some,done,less⟩⟩ := stubPostedCases s i outcome now loop
  · rw [none,done]
    simp [State.view,Move.about,same]
  · rw [some,done]
    have left := less f
    by_cases here : g = f
    · simp [State.view,Move.about,Move.apply,here,← left]
    · simp [here] at left
      simp [State.view,Move.about,here,left]

theorem finalReportSession {live : Option DroneState} {record : Option ActiveFlightSession}
    {now : UtcTime} {payload : FinalizationPayload} {f : String}
    (liveFiled : ∀ state, live = some state → state.flightSessionId = f)
    (recordFiled : ∀ session, record = some session → session.flightSessionId = f)
    (built : finalReport live record now = some payload) : payload.flightSessionId = f := by
  cases live with
  | some state => cases built; exact liveFiled state rfl
  | none =>
    cases record with
    | some session => cases built; exact recordFiled session rfl
    | none => cases built

theorem finalizeCases (env : Env) (s : State) (f : String) (now : UtcTime) :
    (finalizeSessionToSade env s f now).1 = { s with
      tracker := s.tracker.pop f, registry := s.registry.complete f
      posts := s.posts ++
        (finalReport (s.tracker.get f) (s.registry.getByFlightSessionId f) now).toList } := by
  unfold finalizeSessionToSade
  cases finalReport (s.tracker.get f) (s.registry.getByFlightSessionId f) now <;> simp

theorem finalizeView (env : Env) (s : State) (f g : String) (now : UtcTime) :
    (finalizeSessionToSade env s f now).1.view g =
      if f = g then (Move.finalized now).apply (s.view g) else s.view g := by
  have own : ∀ payload ∈ (finalReport (s.tracker.get f) (s.registry.getByFlightSessionId f) now).toList,
      payload.flightSessionId = f := fun payload mem =>
    finalReportSession (fun _ => DroneStateTracker.stateFiled)
      (fun _ => ActiveSessionRegistry.recordFiled) (Option.mem_toList.mp mem)
  rw [finalizeCases]
  by_cases here : f = g
  · subst g
    have all := List.filter_eq_self.mpr (fun payload mem => beq_iff_eq.mpr (own payload mem))
    simp [State.view,Move.apply,all]
  · have none : (finalReport (s.tracker.get f) (s.registry.getByFlightSessionId f) now).toList.filter
        (fun payload => payload.flightSessionId == g) = [] := by
      rw [List.filter_eq_nil_iff]
      intro payload mem same
      exact here ((own payload mem).symm.trans (beq_iff_eq.mp same))
    simp [State.view,here,none]

theorem finalizedTwice (v : SessionView) (first second : UtcTime) :
    (Move.finalized second).apply ((Move.finalized first).apply v) =
      (Move.finalized first).apply v := by
  simp [Move.apply,finalReport]

theorem forceCloseCases (env : Env) (now : UtcTime) (pending : List String) (s : State)
    (closed : Nat) : ∃ rest reg tracker more sweeper,
    forceClose env now pending s closed = { s with
      registry := reg, tracker := tracker, posts := s.posts ++ more, sweeper := sweeper } ∧
    pending = reached env now pending s ++ rest ∧
    ((sweeper = .sleeping ∧ rest = []) ∨ ∃ n, sweeper = .forceClosing rest n) := by
  induction pending generalizing s closed with
  | nil => exact ⟨[],s.registry,s.tracker,[],.sleeping,by simp [forceClose],rfl,.inl ⟨rfl,rfl⟩⟩
  | cons f pending ih =>
    have next := finalizeCases env s f now
    simp only [forceClose,reached]
    generalize finalizeSessionToSade env s f now = finalized at next ⊢
    obtain ⟨s',_ | _ | e⟩ := finalized
    · obtain ⟨rest,reg,tracker,more,sweeper,done,split_,waits⟩ := ih s' (closed + 1)
      subst next
      simp only [List.append_assoc] at done
      exact ⟨rest,reg,tracker,_,sweeper,done,by simpa using split_,waits⟩
    · subst next
      exact ⟨pending,_,_,_,_,rfl,rfl,.inr ⟨closed,rfl⟩⟩
    · obtain ⟨rest,reg,tracker,more,sweeper,done,split_,waits⟩ := ih s' closed
      subst next
      simp only [List.append_assoc] at done
      exact ⟨rest,reg,tracker,_,sweeper,done,by simpa using split_,waits⟩

theorem forceCloseView (env : Env) (now : UtcTime) (pending : List String) (s : State)
    (closed : Nat) (f : String) : (forceClose env now pending s closed).view f =
      if f ∈ reached env now pending s then (Move.finalized now).apply (s.view f)
      else s.view f := by
  induction pending generalizing s closed with
  | nil => rfl
  | cons g pending ih =>
    have next := finalizeView env s g f now
    rcases finalized : finalizeSessionToSade env s g now with ⟨s',outcome⟩
    rw [finalized] at next
    dsimp only at next
    have onward : ∀ closed, (forceClose env now pending s' closed).view f =
        if f ∈ g :: reached env now pending s' then (Move.finalized now).apply (s.view f)
        else s.view f := by
      intro closed
      rw [ih,next]
      by_cases here : g = f
      · simp [here,finalizedTwice]
      · simp [here,Ne.symm here]
    cases outcome with
    | nothingLeft =>
      simp only [forceClose,reached,finalized]
      exact onward (closed + 1)
    | raised e =>
      simp only [forceClose,reached,finalized]
      exact onward closed
    | posting =>
      simp only [forceClose,reached,finalized,List.mem_singleton,eq_comm (a := f)]
      exact next

def GracePhase.isWatching : GracePhase → Bool
  | .watching _ => true
  | _ => false

theorem silentIff {s : State} {i : Nat} {loop : Rat} {f : String} :
    silentSession s i loop = some f ↔ (s.registry.getByFlightSessionId f).isSome ∧
      ∃ watch, s.graces[i]? = some ⟨f,.watching watch⟩ ∧
        watch.check ((s.tracker.get f).map DroneState.lastSeen) loop = none := by
  constructor
  · intro silent
    unfold silentSession at silent
    split at silent
    · rename_i g watch found
      split at silent
      · rename_i leaves
        cases silent
        exact ⟨leaves.1,watch,found,Option.isNone_iff_eq_none.mp leaves.2⟩
      · cases silent
    · cases silent
  · rintro ⟨active,watch,found,checked⟩
    simp [silentSession,found,active,checked]

theorem graceChecksCases (env : Env) (s : State) (i : Nat) (loop : Rat) (now : UtcTime) :
    (silentSession s i loop = none ∧ (graceChecks env s i loop now = s ∨
      ∃ f watch, s.graces[i]? = some ⟨f,.watching watch⟩ ∧
        (s.registry.getByFlightSessionId f = none ∧
          graceChecks env s i loop now = s.setGrace i .finished ∨
        ∃ watch', watch.check ((s.tracker.get f).map DroneState.lastSeen) loop = some watch' ∧
          graceChecks env s i loop now = s.setGrace i (.watching watch')))) ∨
    ∃ f phase, silentSession s i loop = some f ∧ (phase.isWatching = false ∧ phase ≠ .created) ∧
      graceChecks env s i loop now = (finalizeSessionToSade env s f now).1.setGrace i phase := by
  simp only [silentSession,graceChecks]
  rcases found : s.graces[i]? with _ | ⟨f,phase⟩
  · exact .inl ⟨rfl,.inl rfl⟩
  · cases phase with
    | created | posting | finished | raised => exact .inl ⟨rfl,.inl rfl⟩
    | watching watch =>
      cases active : s.registry.getByFlightSessionId f with
      | none => exact .inl ⟨by simp [active],.inr ⟨f,watch,rfl,.inl ⟨active,by simp only [active]⟩⟩⟩
      | some record =>
        cases checked : watch.check ((s.tracker.get f).map DroneState.lastSeen) loop with
        | some watch' =>
          exact .inl ⟨by simp [checked],
            .inr ⟨f,watch,rfl,.inr ⟨watch',checked,by simp only [active,checked]⟩⟩⟩
        | none =>
          rcases finalized : finalizeSessionToSade env s f now with ⟨s',_ | _ | e⟩
          · exact .inr ⟨f,.finished,by simp [active,checked],⟨rfl,by simp⟩,
              by simp only [active,checked,finalized]⟩
          · exact .inr ⟨f,.posting,by simp [active,checked],⟨rfl,by simp⟩,
              by simp only [active,checked,finalized]⟩
          · exact .inr ⟨f,.raised,by simp [active,checked],⟨rfl,by simp⟩,
              by simp only [active,checked,finalized]⟩

theorem scannedView (s : State) (now strandedNow : UtcTime) (f : String) :
    (s.scanned now strandedNow).view f = (Move.scanned now strandedNow).apply (s.view f) := by
  have stamped : ((s.scanned now strandedNow).registry.getByFlightSessionId f) =
      (s.registry.getByFlightSessionId f).map
        (ActiveFlightSession.scan (s.tracker.get f) now strandedNow) := by
    simp only [State.scanned,scanForStrandedSessions,scanForDeadlineBreaches,
      ActiveSessionRegistry.getMapSessions,Option.map_map]
    cases found : s.registry.getByFlightSessionId f with
    | none => rfl
    | some record =>
      have filed := ActiveSessionRegistry.recordFiled found
      simp [ActiveFlightSession.scan,stampBreachSession,filed]
  simp only [State.view,stamped,Move.apply]
  rfl

theorem stepView (env : Env) (s : State) (e : Event) (f : String) :
    (step env s e).view f = (moves env s e f).foldl Move.apply (s.view f) := by
  obtain ⟨now,loop,action⟩ := e
  cases action with
  | registerSession body =>
    rw [step,registerSessionView s body now loop]
    simp [moves,accepting,observing,stubReporting,stubReleasing,scanning,finalizing]
  | exitRequest body =>
    rw [step,exitRequestView s body now loop]
    simp [moves,registering,observing,stubReporting,stubReleasing,scanning,finalizing]
  | onMessage topic payload =>
    simp [step,onMessage,State.view,moves,registering,accepting,observing,stubReporting,
      stubReleasing,scanning,finalizing]
  | enqueueMessage =>
    have same : (enqueueMessage env s).view f = s.view f := by
      unfold enqueueMessage
      cases s.scheduled with
      | nil => rfl
      | cons envelope scheduled => dsimp only; split <;> rfl
    simp [step,same,moves,registering,accepting,observing,stubReporting,stubReleasing,scanning,
      finalizing]
  | worker written =>
    rw [step,workerView env written s now loop]
    simp [moves,registering,accepting,stubReporting,stubReleasing,scanning,finalizing]
  | stubFires i =>
    rw [step,stubFiresView env s i now loop]
    simp [moves,registering,accepting,observing,stubReleasing,scanning,finalizing]
  | stubPosted i outcome =>
    rw [step,stubPostedView s i outcome now loop]
    simp [moves,registering,accepting,observing,stubReporting,scanning,finalizing]
  | graceStarts i =>
    have same : (graceStarts s i loop).view f = s.view f := by
      unfold graceStarts; split <;> rfl
    simp [step,same,moves,registering,accepting,observing,stubReporting,stubReleasing,scanning,
      finalizing]
  | gracePosted i outcome =>
    have same : (gracePosted s i outcome).view f = s.view f := by
      unfold gracePosted
      split
      · cases outcome <;> rfl
      · rfl
    simp [step,same,moves,registering,accepting,observing,stubReporting,stubReleasing,scanning,
      finalizing]
  | graceChecks i =>
    have alone : moves env s ⟨now,loop,.graceChecks i⟩ f =
        if f ∈ silentSession s i loop then [.finalized now] else [] := by
      simp [moves,registering,accepting,observing,stubReporting,stubReleasing,scanning,finalizing,
        Event.finalizeClock]
    rw [alone]
    rcases graceChecksCases env s i loop now with
      ⟨none,same | ⟨g,watch,-,⟨-,same⟩ | ⟨watch',-,same⟩⟩⟩ | ⟨g,phase,some,-,done⟩
    · simp [step,same,none]
    · simp [step,same,none]; rfl
    · simp [step,same,none]; rfl
    · have view := finalizeView env s g f now
      simp only [step,done,some]
      change (finalizeSessionToSade env s g now).1.view f = _
      rw [view]
      by_cases here : g = f <;> simp [here]
  | sweep strandedNow forceCloseNow =>
    cases resting : s.sweeper with
    | forceClosing pending closed =>
      simp [step,sweep,resting,moves,registering,accepting,observing,stubReporting,stubReleasing,
        scanning,finalizing]
    | sleeping =>
      simp only [step,sweep,resting]
      rw [forceCloseView,scannedView]
      simp only [moves,registering,accepting,observing,stubReporting,stubReleasing,scanning,
        finalizing,resting,Move.aboutNone,List.nil_append,scannedCandidates,Event.finalizeClock]
      split <;> simp [Move.about]
  | sweeperPosted outcome =>
    cases resting : s.sweeper with
    | sleeping =>
      simp [step,sweeperPosted,resting,moves,registering,accepting,observing,stubReporting,
        stubReleasing,scanning,finalizing]
    | forceClosing pending closed =>
      simp only [step,sweeperPosted,resting]
      rw [forceCloseView]
      simp only [moves,registering,accepting,observing,stubReporting,stubReleasing,scanning,
        finalizing,resting,Move.aboutNone,List.nil_append,Event.finalizeClock]
      split <;> simp

def Action.isSweeper : Action → Bool
  | .sweep .. | .sweeperPosted _ => true
  | _ => false

def Action.isGrace : Action → Bool
  | .exitRequest _ | .graceStarts _ | .graceChecks _ | .gracePosted .. => true
  | _ => false

def Action.isStub : Action → Bool
  | .registerSession _ | .stubFires _ | .stubPosted .. => true
  | _ => false

def Action.isTelemetry : Action → Bool
  | .onMessage .. | .enqueueMessage | .worker _ => true
  | _ => false

def Action.isRegistry : Action → Bool
  | .registerSession _ | .exitRequest _ | .stubPosted .. | .graceChecks _ | .sweep ..
  | .sweeperPosted _ => true
  | _ => false

structure Frame (action : Action) (s s' : State) : Prop where
  sweeper : action.isSweeper = false → s'.sweeper = s.sweeper
  graces : action.isGrace = false → s'.graces = s.graces
  stubs : action.isStub = false → s'.stubs = s.stubs
  lane : action.isTelemetry = false → s'.queue = s.queue ∧ s'.scheduled = s.scheduled
  registry : action.isRegistry = false → s'.registry = s.registry
  posts : ∃ more, s'.posts = s.posts ++ more

theorem Frame.refl (action : Action) (s : State) : Frame action s s :=
  ⟨fun _ => rfl,fun _ => rfl,fun _ => rfl,fun _ => ⟨rfl,rfl⟩,fun _ => rfl,[],by simp⟩

theorem forceCloseFrame {action : Action} {s t : State} (frame : Frame action s t)
    (sweeps : action.isSweeper = true) (env : Env) (now : UtcTime) (pending : List String)
    (closed : Nat) : Frame action s (forceClose env now pending t closed) := by
  obtain ⟨more,grown⟩ := frame.posts
  obtain ⟨_,_,_,last,_,done,-⟩ := forceCloseCases env now pending t closed
  have registry : action.isRegistry = true := by
    cases action <;> simp_all [Action.isSweeper,Action.isRegistry]
  rw [done]
  refine ⟨?_,frame.graces,frame.stubs,frame.lane,?_,more ++ last,?_⟩
  · simp [sweeps]
  · simp [registry]
  · simp [grown]

theorem stepFrame (env : Env) (s : State) (e : Event) : Frame e.action s (step env s e) := by
  obtain ⟨now,loop,action⟩ := e
  cases action with
  | registerSession body =>
    rcases registerSessionCases s body now loop with ⟨-,done⟩ | ⟨p,-,-,done⟩ <;>
      constructor <;> simp [step,done,Action.isStub,Action.isRegistry]
  | exitRequest body =>
    rcases exitRequestCases s body now loop with ⟨-,done⟩ | ⟨p,record,-,-,-,done⟩ <;>
      constructor <;> simp [step,done,Action.isGrace,Action.isRegistry]
  | onMessage topic payload =>
    constructor <;> simp [step,onMessage,Action.isTelemetry]
  | enqueueMessage =>
    simp only [step,enqueueMessage]
    cases s.scheduled with
    | nil => exact .refl ..
    | cons envelope scheduled =>
      dsimp only
      split <;> constructor <;> simp [Action.isTelemetry]
  | worker written =>
    obtain ⟨queue,rows,tracker,done,-⟩ := workerCases env written s now loop
    constructor <;> simp [step,done,Action.isTelemetry]
  | stubFires i =>
    obtain ⟨stubs,⟨-,done,-⟩ | ⟨payload,-,done,-⟩⟩ := stubFiresCases env s i now loop <;>
      constructor <;> simp [step,done,Action.isStub]
  | stubPosted i outcome =>
    obtain ⟨stubs,⟨-,done,-⟩ | ⟨g,-,done,-⟩⟩ := stubPostedCases s i outcome now loop <;>
      constructor <;> simp [step,done,Action.isStub,Action.isRegistry]
  | graceStarts i =>
    simp only [step,graceStarts]
    split
    · constructor <;> simp [State.setGrace,Action.isGrace]
    · exact .refl ..
  | graceChecks i =>
    rcases graceChecksCases env s i loop now with
      ⟨-,done | ⟨g,watch,-,⟨-,done⟩ | ⟨watch',-,done⟩⟩⟩ | ⟨g,phase,-,-,done⟩ <;>
      constructor <;>
      simp [step,done,State.setGrace,finalizeCases,Action.isGrace,Action.isRegistry]
  | gracePosted i outcome =>
    simp only [step,gracePosted]
    split
    · cases outcome <;> constructor <;> simp [State.setGrace,Action.isGrace]
    · exact .refl ..
  | sweep strandedNow forceCloseNow =>
    simp only [step,sweep]
    split
    · exact .refl ..
    · have scanned : Frame (.sweep strandedNow forceCloseNow) s (s.scanned now strandedNow) := by
        constructor <;> simp [State.scanned,Action.isRegistry]
      exact forceCloseFrame scanned rfl ..
  | sweeperPosted outcome =>
    simp only [step,sweeperPosted]
    split
    · exact .refl ..
    · exact forceCloseFrame (.refl ..) rfl ..

inductive Moved (env : Env) (s : State) (e : Event) (f : String) : List Move → Prop where
  | idle : Moved env s e f []
  | registered {session} (made : registering s e = some session)
      (own : session.flightSessionId = f) : Moved env s e f [.registered session]
  | exitAccepted {p record} (made : accepting s e = some p) (own : p.flightSessionId = f)
      (active : (s.view f).record = some record) :
      Moved env s e f [.exitAccepted (p.stamp e.wall) (reasonOr p.reason)]
  | observed {state record} (made : observing env s e = some state)
      (own : state.flightSessionId = f) (active : (s.view f).record = some record)
      (at_ : state.exitRequestedAt = (s.view f).live.bind DroneState.exitRequestedAt)
      (why : state.exitReason = (s.view f).live.bind DroneState.exitReason) :
      Moved env s e f [.observed state]
  | stubReported {payload} (made : stubReporting s e = some payload)
      (own : payload.flightSessionId = f) : Moved env s e f [.stubReported payload]
  | stubReleased (made : stubReleasing s e = some f) : Moved env s e f [.stubReleased]
  | scanned {t} (made : scanning s e = some t) (spared : f ∉ finalizing env s e) :
      Moved env s e f [.scanned t.1 t.2]
  | scannedFinalized {t} (made : scanning s e = some t) (taken : f ∈ finalizing env s e) :
      Moved env s e f [.scanned t.1 t.2,.finalized e.finalizeClock]
  | finalized (calm : scanning s e = none) (taken : f ∈ finalizing env s e) :
      Moved env s e f [.finalized e.finalizeClock]

theorem stepMoved (env : Env) (s : State) (e : Event) (f : String) :
    Moved env s e f (moves env s e f) := by
  obtain ⟨now,loop,action⟩ := e
  cases action with
  | registerSession body =>
    simp only [moves,accepting,observing,stubReporting,stubReleasing,scanning,finalizing,
      Move.aboutNone,List.append_nil,List.not_mem_nil,if_false]
    cases made : registering s ⟨now,loop,.registerSession body⟩ with
    | none => exact .idle
    | some session =>
      simp only [Move.about]
      split
      · exact .registered made (by assumption)
      · exact .idle
  | exitRequest body =>
    simp only [moves,registering,observing,stubReporting,stubReleasing,scanning,finalizing,
      Move.aboutNone,List.nil_append,List.append_nil,List.not_mem_nil,if_false]
    rcases exitRequestCases s body now loop with ⟨made,-⟩ | ⟨p,record,-,active,made,-⟩
    · rw [made]; exact .idle
    · rw [made]
      simp only [Move.about]
      split
      · rename_i own
        subst f
        exact .exitAccepted made rfl active
      · exact .idle
  | worker written =>
    simp only [moves,registering,accepting,stubReporting,stubReleasing,scanning,finalizing,
      Move.aboutNone,List.nil_append,List.append_nil,List.not_mem_nil,if_false]
    obtain ⟨_,_,_,-,⟨made,-⟩ | ⟨state,record,made,active,at_,why,-⟩⟩ :=
      workerCases env written s now loop
    · rw [made]; exact .idle
    · rw [made]
      simp only [Move.about]
      split
      · rename_i own
        subst f
        exact .observed made rfl active at_ why
      · exact .idle
  | stubFires i =>
    simp only [moves,registering,accepting,observing,stubReleasing,scanning,finalizing,
      Move.aboutNone,List.nil_append,List.append_nil,List.not_mem_nil,if_false]
    cases made : stubReporting s ⟨now,loop,.stubFires i⟩ with
    | none => exact .idle
    | some payload =>
      simp only [Move.about]
      split
      · exact .stubReported made (by assumption)
      · exact .idle
  | stubPosted i outcome =>
    simp only [moves,registering,accepting,observing,stubReporting,scanning,finalizing,
      Move.aboutNone,List.nil_append,List.append_nil,List.not_mem_nil,if_false]
    cases made : stubReleasing s ⟨now,loop,.stubPosted i outcome⟩ with
    | none => exact .idle
    | some g =>
      simp only [Move.about,id]
      split
      · rename_i own
        subst f
        exact .stubReleased made
      · exact .idle
  | onMessage topic payload => exact .idle
  | enqueueMessage => exact .idle
  | graceStarts i => exact .idle
  | gracePosted i outcome => exact .idle
  | graceChecks i =>
    have calm : scanning s ⟨now,loop,.graceChecks i⟩ = none := rfl
    simp only [moves,registering,accepting,observing,stubReporting,stubReleasing,calm,
      Move.aboutNone,List.nil_append]
    split
    · exact .finalized calm (by assumption)
    · exact .idle
  | sweeperPosted outcome =>
    have calm : scanning s ⟨now,loop,.sweeperPosted outcome⟩ = none := rfl
    simp only [moves,registering,accepting,observing,stubReporting,stubReleasing,calm,
      Move.aboutNone,List.nil_append]
    split
    · exact .finalized calm (by assumption)
    · exact .idle
  | sweep strandedNow forceCloseNow =>
    cases made : scanning s ⟨now,loop,.sweep strandedNow forceCloseNow⟩ with
    | none =>
      simp only [moves,registering,accepting,observing,stubReporting,stubReleasing,made,
        Move.aboutNone,List.nil_append]
      split
      · exact .finalized made (by assumption)
      · exact .idle
    | some t =>
      simp only [moves,registering,accepting,observing,stubReporting,stubReleasing,made,
        List.nil_append,Move.about,if_true]
      split
      · exact .scannedFinalized made (by assumption)
      · exact .scanned made (by assumption)

theorem registeringMoves (env : Env) {s : State} {e : Event} {session : ActiveFlightSession}
    {f : String} (made : registering s e = some session) (own : session.flightSessionId = f) :
    moves env s e f = [.registered session] := by
  obtain ⟨now,loop,action⟩ := e
  cases action with
  | registerSession body =>
    simp [moves,accepting,observing,stubReporting,stubReleasing,scanning,finalizing,made,Move.about,
      own]
  | _ => simp [registering] at made

theorem acceptingMoves (env : Env) {s : State} {e : Event} {p : ExitRequestPayload} {f : String}
    (made : accepting s e = some p) (own : p.flightSessionId = f) :
    moves env s e f = [.exitAccepted (p.stamp e.wall) (reasonOr p.reason)] ∧
      (s.view f).record.isSome := by
  obtain ⟨now,loop,action⟩ := e
  cases action with
  | exitRequest body =>
    rcases exitRequestCases s body now loop with ⟨none,-⟩ | ⟨q,record,-,active,some,-⟩
    · rw [none] at made; cases made
    · cases some.symm.trans made
      subst f
      refine ⟨?_,by simp [State.view,active]⟩
      simp [moves,registering,observing,stubReporting,stubReleasing,scanning,finalizing,made,
        Move.about]
  | _ => simp [accepting] at made

theorem observingMoves {env : Env} {s : State} {e : Event} {state : DroneState} {f : String}
    (made : observing env s e = some state) (own : state.flightSessionId = f) :
    moves env s e f = [.observed state] := by
  obtain ⟨now,loop,action⟩ := e
  cases action with
  | worker written =>
    simp [moves,registering,accepting,stubReporting,stubReleasing,scanning,finalizing,made,
      Move.about,own]
  | _ => simp [observing] at made

theorem stubReportingMoves (env : Env) {s : State} {e : Event} {payload : FinalizationPayload}
    (made : stubReporting s e = some payload) :
    moves env s e payload.flightSessionId = [.stubReported payload] := by
  obtain ⟨now,loop,action⟩ := e
  cases action with
  | stubFires i =>
    simp [moves,registering,accepting,observing,stubReleasing,scanning,finalizing,made,Move.about]
  | _ => simp [stubReporting] at made

theorem stubReleasingMoves (env : Env) {s : State} {e : Event} {f : String}
    (made : stubReleasing s e = some f) : moves env s e f = [.stubReleased] := by
  obtain ⟨now,loop,action⟩ := e
  cases action with
  | stubPosted i outcome =>
    simp [moves,registering,accepting,observing,stubReporting,scanning,finalizing,made,Move.about]
  | _ => simp [stubReleasing] at made

theorem scanningMoves (env : Env) {s : State} {e : Event} {t : UtcTime × UtcTime}
    (made : scanning s e = some t) (f : String) : moves env s e f =
      .scanned t.1 t.2 :: if f ∈ finalizing env s e then [.finalized e.finalizeClock] else [] := by
  obtain ⟨now,loop,action⟩ := e
  cases action with
  | sweep strandedNow forceCloseNow =>
    simp [moves,registering,accepting,observing,stubReporting,stubReleasing,made,Move.about]
  | _ => simp [scanning] at made

theorem finalizingMoves {env : Env} {s : State} {e : Event} {f : String}
    (taken : f ∈ finalizing env s e) : moves env s e f =
      Move.about f (fun _ => f) (fun t => .scanned t.1 t.2) (scanning s e) ++
        [.finalized e.finalizeClock] := by
  have last := taken
  cases action : e.action <;> simp only [finalizing,action] at taken <;> try cases taken
  all_goals
    simp only [moves,registering,accepting,observing,stubReporting,stubReleasing,action,
      Move.aboutNone,List.nil_append,if_pos last]

end FlightMonitor
