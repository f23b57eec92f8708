import FlightMonitor.Accounting
import FlightMonitor.Departures
import FlightMonitor.ForceClose
import FlightMonitor.MissionRows

/-! The endpoints as their callers see them (`app/api/server.py`). Nothing is kept or reported
about a flight whose registration was never answered with 202; an exit-request tells, by its
answer, whether the session of the last registration is over, and then its report was handed to
the POST. -/
namespace FlightMonitor.Endpoints
open PyValue IsoTime Reporting Departures

structure JSONResponse where
  statusCode : Nat
  content : Json

inductive Answer where
  | unprocessable (error : FieldError)
  | response (r : JSONResponse)

def Answer.statusCode : Answer → Nat
  | .unprocessable _ => 422
  | .response r => r.statusCode

def RegisterResult.content : RegisterResult → Json
  | .registered f drone => .obj [("action",.str "registered"),("flight_session_id",.str f),
      ("drone_id",optStr drone)]
  | .rejected reason f => .obj [("action",.str "rejected"),("reason",.str reason),
      ("flight_session_id",.str f)]

def RegisterResult.statusCode : RegisterResult → Nat
  | .registered .. => 202
  | .rejected .. => 409

def ExitResult.content : ExitResult → Json
  | .accepted f drone message => .obj [("action",.str "accepted"),("flight_session_id",.str f),
      ("drone_id",optStr drone),("message",.str message)]
  | .notFound f message => .obj [("action",.str "not_found"),("flight_session_id",.str f),
      ("message",.str message)]

def ExitResult.statusCode : ExitResult → Nat
  | .accepted .. => 202
  | .notFound .. => 404

def registerSessionAnswer (s : State) (body : Json) (now : UtcTime) : Answer :=
  match decodeRegisterSession body with
  | .error e => .unprocessable e
  | .ok p =>
    let result := (processRegisterSession p s.registry now).2
    .response ⟨RegisterResult.statusCode result,RegisterResult.content result⟩

def exitRequestAnswer (s : State) (body : Json) (now : UtcTime) : Answer :=
  match decodeExitRequest body with
  | .error e => .unprocessable e
  | .ok p =>
    let result := (processExitRequest p s.registry s.tracker now).2.2
    .response ⟨ExitResult.statusCode result,ExitResult.content result⟩

def answer (s : State) (e : Event) : Option Answer :=
  match e.action with
  | .registerSession body => some (registerSessionAnswer s body e.wall)
  | .exitRequest body => some (exitRequestAnswer s body e.wall)
  | _ => none

def health (s : State) : Json :=
  .obj [("status",.str "ok"),("active_sessions",.int s.registry.count),
    ("sessions_past_deadline",.int s.registry.countPastDeadline),
    ("sessions_stranded",.int s.registry.countStranded)]

def Acknowledges (f : String) (s : State) (e : Event) : Prop :=
  ∃ body p, e.action = .registerSession body ∧ decodeRegisterSession body = .ok p ∧
    p.flightSessionId = f ∧ (registerSessionAnswer s body e.wall).statusCode = 202

structure Untouched (f : String) (s : State) : Prop where
  record : s.registry.getByFlightSessionId f = none
  index : ∀ drone, s.registry.indexed drone ≠ some f
  live : s.tracker.get f = none
  posts : ∀ payload ∈ s.posts, payload.flightSessionId ≠ f
  rows : ∀ row ∈ s.rows, row.sessionId ≠ f
  stubs : ∀ task ∈ s.stubs, task.flightSessionId ≠ f
  graces : ∀ task ∈ s.graces, task.flightSessionId ≠ f
  pending : ∀ pending closed, s.sweeper = .forceClosing pending closed → f ∉ pending

theorem acknowledgesIff {f : String} {s : State} {e : Event} : Acknowledges f s e ↔
    ∃ session, registering s e = some session ∧ session.flightSessionId = f := by
  obtain ⟨now,loop,action⟩ := e
  constructor
  · rintro ⟨body,p,rfl,decoded,rfl,code⟩
    refine ⟨p.session now,?_,rfl⟩
    simp only [registerSessionAnswer,decoded,processRegisterSession] at code
    simp only [registering,decoded]
    rcases ActiveSessionRegistry.registerCases s.registry (p.session now) with
      done | ⟨⟨text,refused⟩,-⟩
    · simp only [done]
    · simp only [refused] at code
      cases code
  · rintro ⟨session,made,rfl⟩
    obtain ⟨body,p,acts,decoded,rfl⟩ := registeringDecoded made
    refine ⟨body,p,acts,decoded,rfl,?_⟩
    cases acts
    simp only [registering,decoded] at made
    simp only [registerSessionAnswer,decoded,processRegisterSession]
    cases done : s.registry.register (p.session now) with
    | ok reg => rfl
    | error e => rw [done] at made; cases made

/-! Where a step takes from what it leaves: from before, from an active session, or from the
registration it acknowledges. -/

section
variable {env : Env} {s : State} {e : Event}

theorem setStubNames {i : Nat} {phase : StubPhase} {task : StubTask}
    (mem : task ∈ (s.setStub i phase).stubs) :
    ∃ old ∈ s.stubs, old.flightSessionId = task.flightSessionId := by
  cases found : s.stubs[i]? with
  | none =>
    rw [State.setStub,List.modify_eq_set_getElem?,found] at mem
    exact ⟨task,mem,rfl⟩
  | some old =>
    rw [setStubSet found] at mem
    rcases List.mem_or_eq_of_mem_set mem with before | rfl
    · exact ⟨task,before,rfl⟩
    · exact ⟨old,List.mem_of_getElem? found,rfl⟩

theorem stubsOrigin {task : StubTask} (mem : task ∈ (step env s e).stubs) :
    (∃ old ∈ s.stubs, old.flightSessionId = task.flightSessionId) ∨
      Acknowledges task.flightSessionId s e := by
  have frame := (stepFrame env s e).stubs
  rw [acknowledgesIff]
  obtain ⟨now,loop,action⟩ := e
  cases action with
  | registerSession body =>
    rcases registerSessionCases s body now loop with ⟨-,done⟩ | ⟨p,-,made,done⟩
    · simp only [step,done] at mem
      exact .inl ⟨task,mem,rfl⟩
    · simp only [step,done,List.mem_append] at mem
      rcases mem with before | fresh
      · exact .inl ⟨task,before,rfl⟩
      · refine .inr ⟨p.session now,made,?_⟩
        simp only [RegisterSessionPayload.startedStubs,Option.mem_toList,Option.map_eq_some_iff]
          at fresh
        obtain ⟨overrides,-,rfl⟩ := fresh
        rfl
  | stubFires i =>
    simp only [step,stubFires] at mem
    split at mem
    · split at mem
      · exact .inl (setStubNames mem)
      · split at mem <;> exact .inl (setStubNames mem)
    · exact .inl ⟨task,mem,rfl⟩
  | stubPosted i outcome =>
    simp only [step,stubPosted] at mem
    split at mem
    · split at mem <;> exact .inl (setStubNames mem)
    · exact .inl ⟨task,mem,rfl⟩
  | _ =>
    rw [frame rfl] at mem
    exact .inl ⟨task,mem,rfl⟩

theorem gracesOrigin {task : GraceTask} (mem : task ∈ (step env s e).graces) :
    (∃ old ∈ s.graces, old.flightSessionId = task.flightSessionId) ∨
      s.registry.getByFlightSessionId task.flightSessionId ≠ none := by
  have moved := gracesMoved env s e
  generalize (step env s e).graces = graces at moved mem
  have kept : ∀ {i : Nat} {f : String} {old phase : GracePhase}, s.graces[i]? = some ⟨f,old⟩ →
      task ∈ s.graces.set i ⟨f,phase⟩ → ∃ old ∈ s.graces, old.flightSessionId = task.flightSessionId := by
    intro i f old phase found mem
    rcases List.mem_or_eq_of_mem_set mem with before | rfl
    · exact ⟨task,before,rfl⟩
    · exact ⟨_,List.mem_of_getElem? found,rfl⟩
  cases moved with
  | same => exact .inl ⟨task,mem,rfl⟩
  | @asked p made =>
    rcases List.mem_append.mp mem with before | fresh
    · exact .inl ⟨task,before,rfl⟩
    · rw [List.mem_singleton.mp fresh]
      exact .inr (Option.isSome_iff_ne_none.mp (acceptingMoves env made rfl).2)
  | starts _ found | checks _ found | ends _ found => exact .inl (kept found mem)

theorem workerRowSession {written : Except PyError Unit} {message : Members} {now : UtcTime}
    {row : MissionRow} (mem : row ∈
      (telemetryWorker env written s.registry s.tracker message now).2.1) :
    s.registry.getByFlightSessionId row.sessionId ≠ none := by
  unfold telemetryWorker at mem
  cases call : updateCall env s.registry message now with
  | error outcome =>
    simp only [call] at mem
    cases mem
  | ok target =>
    obtain ⟨f,u⟩ := target
    obtain ⟨record,active⟩ := updateCallActive call
    rcases update : s.tracker.update env.haversine f u now with ⟨tracker,e | state⟩ <;>
      simp only [call,update] at mem
    · cases mem
    · obtain ⟨-,rfl,-⟩ := FailedMessages.returnedState update
      unfold writeTerminalRow at mem
      split at mem
      · split at mem
        · cases mem
        · rename_i build
          split at mem
          · cases mem
          · rw [List.mem_singleton.mp mem,MissionRows.rowSession build,active]
            simp
      · cases mem

theorem rowsOrigin {row : MissionRow} (mem : row ∈ (step env s e).rows) :
    row ∈ s.rows ∨ s.registry.getByFlightSessionId row.sessionId ≠ none := by
  have rested := @Accounting.restedRows env s e
  obtain ⟨now,loop,action⟩ := e
  cases action with
  | onMessage topic payload => exact .inl mem
  | enqueueMessage =>
    simp only [step,enqueueMessage] at mem
    split at mem
    · exact .inl mem
    · split at mem <;> exact .inl mem
  | worker written =>
    simp only [step,worker] at mem
    split at mem
    · exact .inl mem
    · exact (List.mem_append.mp mem).imp_right workerRowSession
  | _ =>
    rw [rested rfl] at mem
    exact .inl mem

theorem completeIndex {reg : ActiveSessionRegistry} {f g drone : String}
    (found : (reg.complete f).indexed drone = some g) : reg.indexed drone = some g := by
  rw [ActiveSessionRegistry.indexedComplete] at found
  split at found
  · cases found
  · exact found

theorem forceCloseIndex {now : UtcTime} {pending : List String} {closed : Nat} {g drone : String}
    (found : (forceClose env now pending s closed).registry.indexed drone = some g) :
    s.registry.indexed drone = some g := by
  induction pending generalizing s closed with
  | nil => exact found
  | cons f pending ih =>
    have next := finalizeCases env s f now
    simp only [forceClose] at found
    generalize finalizeSessionToSade env s f now = finalized at next found
    have earlier : finalized.1.registry.indexed drone = some g := by
      obtain ⟨s',_ | _ | e⟩ := finalized
      · exact ih found
      · exact found
      · exact ih found
    rw [next] at earlier
    exact completeIndex earlier

theorem indexOrigin {g drone : String} (found : (step env s e).registry.indexed drone = some g) :
    s.registry.indexed drone = some g ∨ Acknowledges g s e := by
  have frame := (stepFrame env s e).registry
  rw [acknowledgesIff]
  obtain ⟨now,loop,action⟩ := e
  cases action with
  | registerSession body =>
    rcases registerSessionCases s body now loop with ⟨-,done⟩ | ⟨p,-,made,done⟩
    · simp only [step,done] at found
      exact .inl found
    · simp only [step,done,ActiveSessionRegistry.indexedStore] at found
      split at found
      · exact .inr ⟨p.session now,made,Option.some.inj found⟩
      · exact .inl found
  | exitRequest body =>
    rcases exitRequestCases s body now loop with ⟨-,done⟩ | ⟨p,record,-,-,-,done⟩ <;>
      simp only [step,done] at found <;> exact .inl found
  | stubPosted i outcome =>
    obtain ⟨stubs,⟨-,done,-⟩ | ⟨g,-,done,-⟩⟩ := stubPostedCases s i outcome now loop <;>
      simp only [step,done] at found
    · exact .inl found
    · exact .inl (completeIndex found)
  | graceChecks i =>
    rcases graceChecksCases env s i loop now with
      ⟨-,done | ⟨f,watch,-,⟨-,done⟩ | ⟨watch',-,done⟩⟩⟩ | ⟨f,phase,-,-,done⟩ <;>
      simp only [step,done] at found
    · exact .inl found
    · exact .inl found
    · exact .inl found
    · have next := finalizeCases env s f now
      rw [next] at found
      exact .inl (completeIndex found)
  | sweep strandedNow forceCloseNow =>
    simp only [step,sweep] at found
    split at found
    · exact .inl found
    · exact .inl (@forceCloseIndex _ (s.scanned now strandedNow) _ _ _ _ _ found)
  | sweeperPosted outcome =>
    simp only [step,sweeperPosted] at found
    split at found
    · exact .inl found
    · exact .inl (forceCloseIndex found)
  | _ =>
    rw [frame rfl] at found
    exact .inl found

theorem stubReportingTask {payload : FinalizationPayload} (made : stubReporting s e = some payload) :
    ∃ task ∈ s.stubs, task.flightSessionId = payload.flightSessionId := by
  unfold stubReporting at made
  split at made
  · split at made
    · rename_i f overrides found
      split at made
      · cases made
      · rename_i built
        cases made
        exact ⟨_,List.mem_of_getElem? found,(stubPayloadSession built).symm⟩
    · cases made
  · cases made

theorem untouchedView {f : String} (untouched : Untouched f s) (quiet : ¬ Acknowledges f s e) :
    ((step env s e).view f).record = none ∧ ((step env s e).view f).live = none ∧
      ((step env s e).view f).reports = [] := by
  have record : (s.view f).record = none := untouched.record
  have live : (s.view f).live = none := untouched.live
  have reports : (s.view f).reports = [] := by
    refine List.filter_eq_nil_iff.mpr (fun payload mem => ?_)
    simpa using untouched.posts payload mem
  rw [stepView]
  have moved := stepMoved env s e f
  generalize moves env s e f = ms at moved ⊢
  cases moved with
  | idle => exact ⟨record,live,reports⟩
  | registered made own => exact absurd (acknowledgesIff.mpr ⟨_,made,own⟩) quiet
  | exitAccepted _ _ active | observed _ _ active => rw [record] at active; cases active
  | stubReported made own =>
    obtain ⟨task,mem,same⟩ := stubReportingTask made
    exact absurd (same.trans own) (untouched.stubs task mem)
  | stubReleased => exact ⟨rfl,live,reports⟩
  | scanned => simp [Move.apply,record,live,reports]
  | scannedFinalized | finalized => simp [Move.apply,record,live,reports,finalReport]

theorem stepUntouched {f : String} (untouched : Untouched f s) (quiet : ¬ Acknowledges f s e) :
    Untouched f (step env s e) := by
  obtain ⟨record,live,reports⟩ := @untouchedView env s e f untouched quiet
  refine ⟨record,?_,live,?_,?_,?_,?_,?_⟩
  · intro drone found
    exact (indexOrigin found).elim (untouched.index drone) quiet
  · intro payload mem own
    exact List.filter_eq_nil_iff.mp reports payload mem (beq_iff_eq.mpr own)
  · rintro row mem rfl
    exact (rowsOrigin mem).elim (fun before => untouched.rows row before rfl)
      (fun active => active untouched.record)
  · rintro task mem rfl
    exact (stubsOrigin mem).elim (fun ⟨old,before,same⟩ => untouched.stubs old before same) quiet
  · rintro task mem rfl
    exact (gracesOrigin mem).elim (fun ⟨old,before,same⟩ => untouched.graces old before same)
      (fun active => active untouched.record)
  · intro pending closed waits mem
    rcases ForceClose.pendingOrigin waits with
      ⟨before,m,waited,within⟩ | ⟨strandedNow,forceCloseNow,-,-,within⟩
    · exact untouched.pending before m waited (within mem)
    · obtain ⟨r,found,-⟩ := ForceClose.memScannedCandidates.mp (within mem)
      have same := congrArg SessionView.record (scannedView s e.wall strandedNow f)
      change (s.scanned e.wall strandedNow).registry.getByFlightSessionId f =
        (s.registry.getByFlightSessionId f).map _ at same
      rw [found,untouched.record] at same
      cases same

end

theorem tracedIfAcknowledged (env : Env) (f : String) (events : List Event) :
    Untouched f (after env events) ∨
      ∃ before e, before ++ [e] <+: events ∧ Acknowledges f (after env before) e := by
  induction events using List.reverseRecOn with
  | nil => exact .inl ⟨rfl,by simp,rfl,by simp,by simp,by simp,by simp,by simp⟩
  | append_singleton events e ih =>
    rcases ih with untouched | ⟨before,x,within,made⟩
    · by_cases made : Acknowledges f (after env events) e
      · exact .inr ⟨events,e,List.prefix_refl _,made⟩
      · rw [afterConcat]
        exact .inl (stepUntouched untouched made)
    · exact .inr ⟨before,x,within.trans (List.prefix_append ..),made⟩

section
variable {s : State} {e : Event}

theorem registerAnswerCases {body : Json} (now : UtcTime) {p : RegisterSessionPayload}
    (decoded : decodeRegisterSession body = .ok p) :
    ((registerSessionAnswer s body now).statusCode = 202 ∧
      (registerSession s body now).registry = s.registry.store (p.session now)) ∨
    ((registerSessionAnswer s body now).statusCode = 409 ∧ registerSession s body now = s ∧
      s.Gone p.flightSessionId) := by
  simp only [registerSessionAnswer,registerSession,decoded,processRegisterSession]
  rcases ActiveSessionRegistry.registerCases s.registry (p.session now) with
    done | ⟨⟨text,refused⟩,fresh,-⟩
  · simp only [done]
    refine .inl ⟨rfl,?_⟩
    cases p.testOverrides <;> rfl
  · simp only [refused]
    exact .inr ⟨rfl,trivial,fresh⟩

theorem exitAnswerCases {body : Json} (now : UtcTime) {p : ExitRequestPayload}
    (decoded : decodeExitRequest body = .ok p) :
    ((exitRequestAnswer s body now).statusCode = 202 ∧ ¬ s.Gone p.flightSessionId) ∨
    ((exitRequestAnswer s body now).statusCode = 404 ∧ exitRequest s body now = s ∧
      s.Gone p.flightSessionId) := by
  simp only [exitRequestAnswer,exitRequest,decoded,processExitRequest,State.Gone]
  cases s.registry.getByFlightSessionId p.flightSessionId with
  | none => exact .inr ⟨rfl,rfl,rfl⟩
  | some session => exact .inl ⟨rfl,by simp⟩

theorem refusedKeeps (env : Env) {a : Answer} (answered : answer s e = some a)
    (refused : a.statusCode ≠ 202) : step env s e = s := by
  obtain ⟨now,loop,action⟩ := e
  cases action with
  | registerSession body =>
    cases answered
    cases decoded : decodeRegisterSession body with
    | error error => simp only [step,registerSession,decoded]
    | ok p =>
      rcases registerAnswerCases now decoded with ⟨code,-⟩ | ⟨-,same,-⟩
      · exact absurd code refused
      · exact same
  | exitRequest body =>
    cases answered
    cases decoded : decodeExitRequest body with
    | error error => simp only [step,exitRequest,decoded]
    | ok p =>
      rcases exitAnswerCases now decoded with ⟨code,-⟩ | ⟨-,same,-⟩
      · exact absurd code refused
      · exact same
  | _ => cases answered

end

def Flagged (env : Env) (events : List Event) (flag : ActiveFlightSession → Option String)
    (f : String) : Bool :=
  ((after env events).registry.getByFlightSessionId f).any (fun session => (flag session).isSome)

def Healthy (env : Env) (events : List Event) : Prop :=
  ∃ ids : List String, ids.Nodup ∧
    (∀ f, f ∈ ids ↔ entries env f events = departures env f events + 1) ∧
    health (after env events) = .obj [("status",.str "ok"),("active_sessions",.int ids.length),
      ("sessions_past_deadline",
        .int (ids.countP (Flagged env events ActiveFlightSession.exitDeadlineBreachedAt) : Nat)),
      ("sessions_stranded",
        .int (ids.countP (Flagged env events ActiveFlightSession.strandedFlaggedAt) : Nat))]

structure Truthful (env : Env) (events : List Event) : Prop where
  refused : ∀ e a, answer (after env events) e = some a → a.statusCode ≠ 202 →
    step env (after env events) e = after env events
  registered : ∀ body now p, decodeRegisterSession body = .ok p →
    (registerSessionAnswer (after env events) body now).statusCode = 202 →
    (registerSession (after env events) body now).registry.getByFlightSessionId p.flightSessionId =
      some (p.session now)
  rejected : ∀ body now p, decodeRegisterSession body = .ok p →
    (registerSessionAnswer (after env events) body now).statusCode = 409 →
    entries env p.flightSessionId events = departures env p.flightSessionId events
  accepted : ∀ body now p, decodeExitRequest body = .ok p →
    (exitRequestAnswer (after env events) body now).statusCode = 202 →
    entries env p.flightSessionId events = departures env p.flightSessionId events + 1
  notFound : ∀ body now p, decodeExitRequest body = .ok p →
    (exitRequestAnswer (after env events) body now).statusCode = 404 →
    entries env p.flightSessionId events = departures env p.flightSessionId events ∧
      entries env p.flightSessionId events ≤ reports env p.flightSessionId events
  healthy : Healthy env events

theorem goneEntries {env : Env} {f : String} {events : List Event}
    (gone : (after env events).Gone f) : entries env f events = departures env f events := by
  have entered := entriesLeft env f events
  rwa [show (after env events).registry.getByFlightSessionId f = none from gone] at entered

theorem countValues {κ ν : Type} [DecidableEq κ] (d : Dict κ ν) (p : ν → Bool) :
    d.values.countP p = (d.entries.map Prod.fst).countP (fun k => (d.get k).any p) := by
  rw [Dict.values,List.countP_map,List.countP_map]
  refine List.countP_congr (fun entry mem => ?_)
  have stored := Dict.memEntries.mp (show (entry.1,entry.2) ∈ d.entries from mem)
  simp [stored]

theorem healthCounts (env : Env) (events : List Event) : Healthy env events := by
  refine ⟨_,(after env events).registry.sessionsByFlightSessionId.unique,fun f => ?_,?_⟩
  · rw [entriesLeft,Nat.add_left_cancel_iff]
    cases found : (after env events).registry.getByFlightSessionId f with
    | none =>
      refine iff_of_false (fun mem => ?_) (by simp)
      obtain ⟨entry,inside,rfl⟩ := List.mem_map.mp mem
      cases found.symm.trans (Dict.memEntries.mp inside)
    | some session =>
      exact iff_of_true (List.mem_map.mpr ⟨(f,session),Dict.memEntries.mpr found,rfl⟩) rfl
  · simp only [health,ActiveSessionRegistry.count,ActiveSessionRegistry.countPastDeadline,
      ActiveSessionRegistry.countStranded,countValues,Dict.size,List.length_map]
    rfl

theorem answersTruthful (env : Env) (events : List Event) : Truthful env events := by
  refine ⟨fun e a => refusedKeeps env,?_,?_,?_,?_,healthCounts env events⟩
  · intro body now p decoded code
    rcases registerAnswerCases (s := after env events) now decoded with
      ⟨-,stored⟩ | ⟨other,-⟩
    · rw [stored,ActiveSessionRegistry.getStore]
      exact if_pos rfl
    · rw [code] at other; cases other
  · intro body now p decoded code
    rcases registerAnswerCases (s := after env events) now decoded with
      ⟨other,-⟩ | ⟨-,-,gone⟩
    · rw [code] at other; cases other
    · exact goneEntries gone
  · intro body now p decoded code
    rcases exitAnswerCases (s := after env events) now decoded with
      ⟨-,active⟩ | ⟨other,-⟩
    · have entered := entriesLeft env p.flightSessionId events
      obtain ⟨session,found⟩ := Option.ne_none_iff_exists'.mp active
      rwa [found] at entered
    · rw [code] at other; cases other
  · intro body now p decoded code
    rcases exitAnswerCases (s := after env events) now decoded with
      ⟨other,-⟩ | ⟨-,-,gone⟩
    · rw [code] at other; cases other
    · have paid := departuresReported env p.flightSessionId events
      have left := goneEntries gone
      exact ⟨left,by omega⟩

end FlightMonitor.Endpoints
