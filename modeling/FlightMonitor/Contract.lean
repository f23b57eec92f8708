import FlightMonitor.SessionMachine

/-! The request bodies of `SADE_CONTRACT.md` against the decoders. The contract's names end in
`_utc`, the decoders' do not, and a decoder ignores the names it does not know. `deadlineOf`
is the exit time of the body that the present record of a session came from. -/
namespace FlightMonitor.Contract
open PyValue IsoTime

def registerSessionNames : List String :=
  ["flight_session_id","pilot_id","drone_id","organization_id","sade_zone_id",
    "requested_entry_time_utc","requested_exit_time_utc","requested_operation","test_overrides",
    "submitted_at_utc"]

def exitRequestNames : List String := ["flight_session_id","request_time_utc","reason"]

def Written (names : List String) (body : Members) : Prop := ∀ m ∈ body, m.1 ∈ names

instance (names : List String) (body : Members) : Decidable (Written names body) :=
  inferInstanceAs (Decidable (∀ m ∈ body, m.1 ∈ names))

def timeField (body : Members) (name : String) : Option String :=
  match Dict.lookup name body with
  | some (.str text) => some text
  | _ => none

def noteDeadline (f : String) (deadline : Option String) (s : State) (e : Event) : Option String :=
  match e.action,registering s e with
  | .registerSession (.obj body),some session =>
    if session.flightSessionId = f then
      if Written registerSessionNames body then timeField body "requested_exit_time_utc" else none
    else deadline
  | _,_ => deadline

def deadlineOf (env : Env) (f : String) (events : List Event) : Option String :=
  Trace.history (step env) {} (noteDeadline f) none events

structure KeepsTimes (env : Env) (before : List Event) (e : Event) : Prop where
  window : ∀ body session record, e.action = .registerSession (.obj body) →
    Written registerSessionNames body → registering (after env before) e = some session →
    (after env (before ++ [e])).registry.getByFlightSessionId session.flightSessionId = some record →
    record.requestedEntryTime = timeField body "requested_entry_time_utc" ∧
      record.requestedExitTime = timeField body "requested_exit_time_utc"
  exit : ∀ body p old record t, e.action = .exitRequest (.obj body) →
    Written exitRequestNames body → accepting (after env before) e = some p →
    (after env before).registry.getByFlightSessionId p.flightSessionId = some old →
    old.exitRequestedAt = none →
    (after env (before ++ [e])).registry.getByFlightSessionId p.flightSessionId = some record →
    timeField body "request_time_utc" = some t → record.exitRequestedAt = some t
  flagged : ∀ now strandedNow f record d, scanning (after env before) e = some (now,strandedNow) →
    (after env (before ++ [e])).registry.getByFlightSessionId f = some record →
    record.exitRequestedAt = none → parsedInstant (deadlineOf env f before) = some d →
    d < now.instant → record.exitDeadlineBreachedAt ≠ none

/-- What the decoders do with a body in the contract's names: the window must be absent, and
the time of a first exit request must be what the clock of the handler reads. -/
structure Lossless (env : Env) (before : List Event) (e : Event) : Prop where
  window : ∀ body session, e.action = .registerSession (.obj body) →
    Written registerSessionNames body → registering (after env before) e = some session →
    timeField body "requested_entry_time_utc" = none ∧
      timeField body "requested_exit_time_utc" = none
  exit : ∀ body p old t, e.action = .exitRequest (.obj body) →
    Written exitRequestNames body → accepting (after env before) e = some p →
    (after env before).registry.getByFlightSessionId p.flightSessionId = some old →
    old.exitRequestedAt = none → timeField body "request_time_utc" = some t →
    t = isoformat e.wall.val

theorem lookupForeign {names : List String} {body : Members} {name : String}
    (written : Written names body) (foreign : name ∉ names) : Dict.lookup name body = none := by
  induction body with
  | nil => rfl
  | cons m rest ih =>
    obtain ⟨key,value⟩ := m
    have known : key ∈ names := written (key,value) (List.mem_cons_self ..)
    have other : key ≠ name := fun same => foreign (same ▸ known)
    rw [Dict.lookup,if_neg other]
    exact ih (fun m mem => written m (List.mem_cons_of_mem _ mem))

theorem decodedWindow {body : Members} {p : RegisterSessionPayload}
    (written : Written registerSessionNames body)
    (decoded : decodeRegisterSession (.obj body) = .ok p) :
    p.requestedEntryTime = none ∧ p.requestedExitTime = none := by
  have entry : readOptStr body "requested_entry_time" = .ok none := by
    unfold readOptStr
    rw [lookupForeign written (by decide)]
  have exit : readOptStr body "requested_exit_time" = .ok none := by
    unfold readOptStr
    rw [lookupForeign written (by decide)]
  obtain ⟨flightSessionId,-,decoded⟩ := bindOk decoded
  obtain ⟨pilotId,-,decoded⟩ := bindOk decoded
  obtain ⟨droneId,-,decoded⟩ := bindOk decoded
  obtain ⟨organizationId,-,decoded⟩ := bindOk decoded
  obtain ⟨sadeZoneId,-,decoded⟩ := bindOk decoded
  obtain ⟨entryTime,entryRead,decoded⟩ := bindOk decoded
  obtain ⟨exitTime,exitRead,decoded⟩ := bindOk decoded
  obtain ⟨operation,-,decoded⟩ := bindOk decoded
  obtain ⟨overrides,-,decoded⟩ := bindOk decoded
  obtain ⟨submittedAt,-,decoded⟩ := bindOk decoded
  cases decoded
  exact ⟨Except.ok.inj (entryRead.symm.trans entry),Except.ok.inj (exitRead.symm.trans exit)⟩

theorem decodedExitTime {body : Members} {p : ExitRequestPayload}
    (written : Written exitRequestNames body) (decoded : decodeExitRequest (.obj body) = .ok p) :
    p.requestedAt = none := by
  have time : readOptStr body "requested_at" = .ok none := by
    unfold readOptStr
    rw [lookupForeign written (by decide)]
  obtain ⟨flightSessionId,-,decoded⟩ := bindOk decoded
  obtain ⟨reason,-,decoded⟩ := bindOk decoded
  obtain ⟨exitTime,read,decoded⟩ := bindOk decoded
  cases decoded
  exact Except.ok.inj (read.symm.trans time)

theorem registeredWindow {env : Env} {s : State} {e : Event} {body : Members}
    {session record : ActiveFlightSession} (action : e.action = .registerSession (.obj body))
    (written : Written registerSessionNames body) (made : registering s e = some session)
    (stored : (step env s e).registry.getByFlightSessionId session.flightSessionId = some record) :
    record.requestedEntryTime = none ∧ record.requestedExitTime = none := by
  have view : ((step env s e).view session.flightSessionId).record = some record := stored
  rw [stepView,registeringMoves env made rfl] at view
  cases view
  obtain ⟨_,p,same,decoded,rfl⟩ := registeringDecoded made
  cases action.symm.trans same
  exact decodedWindow written decoded

theorem acceptedTime {env : Env} {s : State} {e : Event} {body : Members} {p : ExitRequestPayload}
    {old record : ActiveFlightSession} (action : e.action = .exitRequest (.obj body))
    (written : Written exitRequestNames body) (made : accepting s e = some p)
    (found : s.registry.getByFlightSessionId p.flightSessionId = some old)
    (first : old.exitRequestedAt = none)
    (stored : (step env s e).registry.getByFlightSessionId p.flightSessionId = some record) :
    record.exitRequestedAt = some (isoformat e.wall.val) := by
  have view : ((step env s e).view p.flightSessionId).record = some record := stored
  have before : (s.view p.flightSessionId).record = some old := found
  rw [stepView,(acceptingMoves env made rfl).1] at view
  simp only [List.foldl_cons,List.foldl_nil,Move.apply,before,Option.map_some] at view
  cases view
  obtain ⟨_,same,decoded⟩ := acceptingDecoded made
  cases action.symm.trans same
  simp [ActiveFlightSession.stampExit,first,ExitRequestPayload.stamp,
    decodedExitTime written decoded]

theorem noDeadline {env : Env} {events : List Event} (lossless : Trace.Meets (Lossless env) events)
    (f : String) : deadlineOf env f events = none := by
  refine Trace.guardedInvariant (fun events => deadlineOf env f events = none) rfl ?_ lossless
  intro before e none guard
  rw [deadlineOf,Trace.historyConcat]
  change noteDeadline f (deadlineOf env f before) (after env before) e = _
  rw [none]
  unfold noteDeadline
  split
  · rename_i body session action made
    split
    · split
      · exact (guard.window body session action (by assumption) made).2
      · rfl
    · rfl
  · rfl

theorem losslessOfKept {env : Env} {before : List Event} {e : Event}
    (kept : KeepsTimes env before e) : Lossless env before e := by
  constructor
  · intro body session action written made
    have stored : (step env (after env before) e).registry.getByFlightSessionId
        session.flightSessionId = some session := by
      change ((step env (after env before) e).view session.flightSessionId).record = some session
      rw [stepView,registeringMoves env made rfl]
      rfl
    have unread := registeredWindow action written made stored
    have same := kept.window body session session action written made
      (by rw [afterConcat]; exact stored)
    exact ⟨same.1.symm.trans unread.1,same.2.symm.trans unread.2⟩
  · intro body p old t action written made found first time
    have view : ((step env (after env before) e).view p.flightSessionId).record =
        some (old.stampExit (p.stamp e.wall)) := by
      rw [stepView,(acceptingMoves env made rfl).1]
      simp only [List.foldl_cons,List.foldl_nil,Move.apply]
      rw [show ((after env before).view p.flightSessionId).record = some old from found]
      rfl
    have clock := acceptedTime action written made found first view
    have same := kept.exit body p old _ t action written made found first
      (by rw [afterConcat]; exact view) time
    exact Option.some.inj (same.symm.trans clock)

theorem keptOfLossless {env : Env} {before : List Event} {e : Event}
    (early : Trace.Meets (Lossless env) before) (lossless : Lossless env before e) :
    KeepsTimes env before e := by
  constructor
  · intro body session record action written made stored
    rw [afterConcat] at stored
    have unread := registeredWindow action written made stored
    have absent := lossless.window body session action written made
    exact ⟨unread.1.trans absent.1.symm,unread.2.trans absent.2.symm⟩
  · intro body p old record t action written made found first stored time
    rw [afterConcat] at stored
    rw [acceptedTime action written made found first stored,
      lossless.exit body p old t action written made found first time]
  · intro now strandedNow f record d _ _ _ deadline
    rw [noDeadline early f] at deadline
    cases deadline

theorem timesKeptIffLossless (env : Env) (events : List Event) :
    Trace.Meets (KeepsTimes env) events ↔ Trace.Meets (Lossless env) events := by
  constructor
  · exact fun kept before e reached => losslessOfKept (kept before e reached)
  · intro lossless before e reached
    exact keptOfLossless
      (fun first x inside => lossless first x (inside.trans ((List.prefix_append ..).trans reached)))
      (lossless before e reached)

def documented : Members :=
  [("flight_session_id",.str "8c189f91-0348-4a15-a6f0-23377dca7834"),("pilot_id",.str "pilot-001"),
    ("drone_id",.str "drone-001"),("organization_id",.str "org-001"),
    ("sade_zone_id",.str "zone-001"),("requested_entry_time_utc",.str "2026-03-09T18:00:00Z"),
    ("requested_exit_time_utc",.str "2026-03-09T19:00:00Z"),
    ("requested_operation",.obj [("operation_type",.str "INSPECTION"),("priority",.str "NORMAL")]),
    ("test_overrides",.null),("submitted_at_utc",.str "2026-03-09T17:55:00Z")]

def overstayed : List Event :=
  [(Action.registerSession (.obj documented)).at 8 17 55 0,
    (Action.sweep (march 8 19 1 0) (march 8 19 1 0)).at 8 19 1 0]

theorem documentedWindowLost : ¬ Trace.Meets (KeepsTimes deployment) overstayed ∧
    ((after deployment overstayed).registry.getByFlightSessionId
      "8c189f91-0348-4a15-a6f0-23377dca7834").map ActiveFlightSession.exitDeadlineBreachedAt =
        some none := by
  refine ⟨fun kept => ?_,by decide⟩
  have lossless := losslessOfKept (kept [] _ (List.prefix_append [_] _))
  obtain ⟨session,made⟩ := Option.isSome_iff_exists.mp (show (registering (after deployment [])
    ((Action.registerSession (.obj documented)).at 8 17 55 0)).isSome by decide)
  exact absurd (lossless.window documented session rfl (by decide) made).1 (by decide)

end FlightMonitor.Contract
