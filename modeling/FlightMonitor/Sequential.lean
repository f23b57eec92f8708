import FlightMonitor.Accounting
import FlightMonitor.Chronicle
import FlightMonitor.ExitIntent
import FlightMonitor.Updates

/-! One session by itself. Its live state is written by workers and by the exit-request handler,
and taken by three finalizers, in between the steps of all other sessions. A report says no more
than one tracker that is fed the messages and exit-requests of this session, one after the other. -/
namespace FlightMonitor.Sequential
open PyValue IsoTime Updates Accounting
open ExitIntent (accepted posted acceptedMoves)

inductive Input where
  | telemetry (reception : Event) (update : Update)
  | exitRequest (requestedAt reason : String)

def feed (haversine : Haversine) (f : String) (tracker : DroneStateTracker) :
    Input → DroneStateTracker
  | .telemetry _ u => absorb haversine f tracker u
  | .exitRequest requestedAt reason => mirrorExit tracker f requestedAt reason

def fed (haversine : Haversine) (f : String) (inputs : List Input) : DroneStateTracker :=
  Trace.final (feed haversine f) .empty inputs

@[simp] theorem fedConcat (haversine : Haversine) (f : String) (inputs : List Input) (i : Input) :
    fed haversine f (inputs ++ [i]) = feed haversine f (fed haversine f inputs) i :=
  Trace.finalConcat ..

def inputOf (env : Env) (f : String) (waiting : List Event) (s : State) (e : Event) : Option Input :=
  match e.action,waiting with
  | .worker _,reception :: _ =>
    match updateCall env s.registry (envelope reception) e.wall with
    | .error _ => none
    | .ok (g,u) => if g = f then some (.telemetry reception (u,e.wall)) else none
  | .exitRequest _,_ => (accepted f s e).map (fun i => .exitRequest i.1 i.2)
  | _,_ => none

def collect (env : Env) (f : String) (p : Backlog.Ledger Event × List Input) (s : State)
    (e : Event) : Backlog.Ledger Event × List Input :=
  (p.1.record e (laneOp env s e),
    if ((step env s e).tracker.get f).isSome then
      p.2 ++ (inputOf env f p.1.lane.queue s e).toList
    else [])

def inputs (env : Env) (f : String) (events : List Event) : List Input :=
  (Trace.history (step env) {} (collect env f) ({},[]) events).2

def reception : Input → Option Event
  | .telemetry r _ => some r
  | .exitRequest .. => none

theorem collectLedger (env : Env) (f : String) (events : List Event) :
    (Trace.history (step env) {} (collect env f) ({},[]) events).1 = ledger env events := by
  induction events using List.reverseRecOn with
  | nil => rfl
  | append_singleton events e ih =>
    rw [Trace.historyConcat,ledgerConcat,← ih]
    rfl

@[simp] theorem inputsConcat (env : Env) (f : String) (events : List Event) (e : Event) :
    inputs env f (events ++ [e]) =
      if ((step env (after env events) e).tracker.get f).isSome then inputs env f events ++
        (inputOf env f (ledger env events).lane.queue (after env events) e).toList
      else [] := by
  rw [inputs,Trace.historyConcat,← collectLedger env f]
  rfl

/-! Two live states that differ in the mark of the mission row only. -/

def unwritten (state : DroneState) : DroneState := { state with rowWritten := false }

def Alike (a b : Option DroneState) : Prop := a.map unwritten = b.map unwritten

theorem alikeSome {a b : DroneState} (alike : Alike (some a) (some b)) :
    ∃ flag, b = { a with rowWritten := flag } := by
  refine ⟨b.rowWritten,?_⟩
  have same : unwritten a = unwritten b := Option.some.inj alike
  calc b = { unwritten b with rowWritten := b.rowWritten } := rfl
    _ = { unwritten a with rowWritten := b.rowWritten } := by rw [same]
    _ = { a with rowWritten := b.rowWritten } := rfl

theorem armAlike {a b : DroneState} (alike : Alike (some a) (some b)) (armed : Option Bool)
    (stamp : String) (voltage : Option PyFloat) :
    Alike (some (handleArmState a armed stamp voltage))
      (some (handleArmState b armed stamp voltage)) := by
  obtain ⟨flag,rfl⟩ := alikeSome alike
  cases armed <;> rfl

theorem absorbAlike (haversine : Haversine) (u : Update) {f : String} {a b : DroneStateTracker}
    (alike : Alike (a.get f) (b.get f)) :
    Alike ((absorb haversine f a u).get f) ((absorb haversine f b u).get f) := by
  unfold absorb DroneStateTracker.update
  cases read : u.1.readings with
  | error e => exact alike
  | ok r =>
    obtain ⟨altitude,voltage⟩ := r
    cases first : a.get f with
    | none =>
      cases second : b.get f with
      | none => simp [DroneStateTracker.getPut,Telemetry.create,Alike]
      | some other =>
        rw [first,second] at alike
        cases alike
    | some state =>
      cases second : b.get f with
      | none =>
        rw [first,second] at alike
        cases alike
      | some other =>
        rw [first,second] at alike
        obtain ⟨flag,rfl⟩ := alikeSome alike
        have own := DroneStateTracker.stateFiled first
        dsimp only
        cases leg haversine state.position u.1.position with
        | error e =>
          simp only [DroneStateTracker.getPut,Telemetry.receive,own,if_true]
          rfl
        | ok metres =>
          simp only [DroneStateTracker.getPut,handleArmStateFlightSessionId,Telemetry.accumulate,
            Telemetry.receive,own,if_true]
          apply armAlike
          rfl

theorem stampAlike (requestedAt reason : String) {a b : Option DroneState} (alike : Alike a b) :
    Alike (a.map (DroneState.stampExit requestedAt reason))
      (b.map (DroneState.stampExit requestedAt reason)) := by
  cases a with
  | none =>
    cases b with
    | none => rfl
    | some other => cases alike
  | some state =>
    cases b with
    | none => cases alike
    | some other =>
      obtain ⟨flag,rfl⟩ := alikeSome alike
      cases stamped : state.exitRequestedAt <;>
        simp [Alike,unwritten,DroneState.stampExit,stamped]

theorem reportAlike {a b : Option DroneState} (alike : Alike a b)
    (record : Option ActiveFlightSession) (now : UtcTime) :
    finalReport a record now = finalReport b record now := by
  cases a with
  | none =>
    cases b with
    | none => rfl
    | some other => cases alike
  | some state =>
    cases b with
    | none => cases alike
    | some other =>
      obtain ⟨flag,rfl⟩ := alikeSome alike
      rfl

/-! One step of the service is one input of the session, or none. -/

theorem workerAlike {env : Env} {s : State} {message : Members} {now : UtcTime} {f : String}
    {u : Telemetry} (call : updateCall env s.registry message now = .ok (f,u))
    (written : Except PyError Unit) :
    Alike ((telemetryWorker env written s.registry s.tracker message now).1.get f)
      ((absorb env.haversine f s.tracker (u,now)).get f) := by
  cases stored : (absorb env.haversine f s.tracker (u,now)).get f with
  | some state =>
    obtain ⟨flag,kept⟩ := telemetryWorkerStores call written s.tracker stored
    rw [kept]
    rfl
  | none =>
    have unread : ∀ r, u.readings ≠ .ok r := by
      intro r read
      obtain ⟨state,some_⟩ := updateStores read env.haversine s.tracker f now
      cases stored.symm.trans some_
    have refused : absorb env.haversine f s.tracker (u,now) = s.tracker := by
      unfold absorb DroneStateTracker.update
      cases read : u.readings with
      | error e => rfl
      | ok r => exact absurd read (unread r)
    have idle := telemetryWorkerIdle (fun g w r same => by
      cases call.symm.trans same
      exact unread r) written s.tracker
    rw [idle,← stored,refused]
    rfl

inductive Supplied (env : Env) (f : String) (waiting : List Event) (s : State) (e : Event) :
    Option Input → Prop where
  | nothing (quiet : ∀ state, observing env s e = some state → state.flightSessionId ≠ f)
      (silent : accepted f s e = none) : Supplied env f waiting s e none
  | telemetry (written : Except PyError Unit) (reception : Event) (later : List Event) (u : Telemetry)
      (acts : e.action = .worker written) (next : waiting = reception :: later)
      (call : updateCall env s.registry (envelope reception) e.wall = .ok (f,u)) :
      Supplied env f waiting s e (some (.telemetry reception (u,e.wall)))
  | exitRequest (requestedAt reason : String) (made : accepted f s e = some (requestedAt,reason)) :
      Supplied env f waiting s e (some (.exitRequest requestedAt reason))

theorem supplied (env : Env) {s : State} {waiting : List Event} (f : String) (e : Event)
    (queued : waiting.map envelope = s.queue) :
    Supplied env f waiting s e (inputOf env f waiting s e) := by
  obtain ⟨now,loop,action⟩ := e
  cases action with
  | worker written =>
    cases waiting with
    | nil =>
      refine .nothing (fun state made => ?_) rfl
      simp [observing,← queued] at made
    | cons reception later =>
      simp only [inputOf]
      cases call : updateCall env s.registry (envelope reception) now with
      | error outcome =>
        refine .nothing (fun state made => ?_) rfl
        simp [observing,← queued,call] at made
      | ok target =>
        obtain ⟨g,u⟩ := target
        dsimp only
        split
        · rename_i own
          subst g
          exact .telemetry written reception later u rfl rfl call
        · rename_i other
          refine .nothing (fun state made own => other ?_) rfl
          obtain ⟨_,message,rest,v,r,-,next,call',-⟩ := observingCall made
          rw [← queued] at next
          cases next
          cases call.symm.trans call'
          exact own
  | exitRequest body =>
    simp only [inputOf]
    cases made : accepted f s ⟨now,loop,.exitRequest body⟩ with
    | none => exact .nothing (fun state made => by simp [observing] at made) made
    | some i => exact .exitRequest i.1 i.2 made
  | _ => exact .nothing (fun state made => by simp [observing] at made) rfl

theorem quietLive {env : Env} {s : State} {e : Event} {f : String}
    (quiet : ∀ state, observing env s e = some state → state.flightSessionId ≠ f)
    (silent : accepted f s e = none) (live : ((step env s e).tracker.get f).isSome) :
    (step env s e).tracker.get f = s.tracker.get f := by
  change ((step env s e).view f).live.isSome at live
  change ((step env s e).view f).live = (s.view f).live
  have moved := stepMoved env s e f
  rw [stepView] at live ⊢
  generalize moves env s e f = ms at moved live
  cases moved with
  | idle | stubReported | registered | stubReleased | scanned => rfl
  | exitAccepted made own =>
    simp [accepted,made,own] at silent
  | observed made own => exact absurd own (quiet _ made)
  | scannedFinalized | finalized => cases live

theorem stepFed {env : Env} {s : State} {waiting : List Event} {f : String} {inputs : List Input}
    (queued : waiting.map envelope = s.queue)
    (alike : Alike (s.tracker.get f) ((fed env.haversine f inputs).get f)) (e : Event)
    (live : ((step env s e).tracker.get f).isSome) :
    Alike ((step env s e).tracker.get f)
      ((fed env.haversine f (inputs ++ (inputOf env f waiting s e).toList)).get f) := by
  have given := supplied env f e queued
  generalize inputOf env f waiting s e = input at given ⊢
  cases given with
  | nothing quiet silent =>
    rw [quietLive quiet silent live,Option.toList_none,List.append_nil]
    exact alike
  | telemetry written reception later u acts next call =>
    obtain ⟨now,loop,action⟩ := e
    cases acts
    subst next
    rw [Option.toList_some,fedConcat,feed]
    refine Eq.trans ?_ (absorbAlike env.haversine (u,now) alike)
    have same : (step env s ⟨now,loop,.worker written⟩).tracker =
        (telemetryWorker env written s.registry s.tracker (envelope reception) now).1 := by
      simp only [step,worker,← queued,List.map_cons]
    rw [same]
    exact workerAlike call written
  | exitRequest requestedAt reason made =>
    obtain ⟨alone,-,-⟩ := acceptedMoves env made
    have stamped : (step env s e).tracker.get f =
        (s.tracker.get f).map (DroneState.stampExit requestedAt reason) := by
      change ((step env s e).view f).live = (s.view f).live.map _
      rw [stepView,alone]
      rfl
    rw [stamped,Option.toList_some,fedConcat,feed,getMirrorExit,if_pos rfl]
    exact stampAlike requestedAt reason alike

theorem runFed (env : Env) (f : String) (events : List Event) :
    Alike ((after env events).tracker.get f) ((fed env.haversine f (inputs env f events)).get f) := by
  induction events using List.reverseRecOn with
  | nil => rfl
  | append_singleton events e ih =>
    rw [inputsConcat,afterConcat]
    by_cases live : ((step env (after env events) e).tracker.get f).isSome
    · rw [if_pos live]
      exact stepFed (ledgerQueue env events) ih e live
    · rw [if_neg live,Option.not_isSome_iff_eq_none.mp live]
      rfl

def CalledFrom (env : Env) (f : String) (events : List Event) (r : Event) (u : Update) : Prop :=
  ∃ before e written, before ++ [e] <+: events ∧ e.action = .worker written ∧ e.wall = u.2 ∧
    updateCall env (after env before).registry (envelope r) e.wall = .ok (f,u.1)

theorem calledLater {env : Env} {f : String} {events : List Event} {r : Event} {u : Update}
    (called : CalledFrom env f events r u) (e : Event) : CalledFrom env f (events ++ [e]) r u := by
  obtain ⟨before,e',written,within,facts⟩ := called
  exact ⟨before,e',written,within.trans (List.prefix_append ..),facts⟩

structure Drawn (env : Env) (f : String) (events : List Event) (inputs : List Input) : Prop where
  ordered : (inputs.filterMap reception).Sublist (ledger env events).taken
  called : ∀ r u, .telemetry r u ∈ inputs → CalledFrom env f events r u

theorem drawnLater {env : Env} {f : String} {events : List Event} {inputs : List Input}
    (drawn : Drawn env f events inputs) (e : Event) : Drawn env f (events ++ [e]) inputs := by
  refine ⟨drawn.ordered.trans ?_,fun r u mem => calledLater (drawn.called r u mem) e⟩
  rw [ledgerConcat,takenStep]
  exact List.sublist_append_left ..

theorem drawnInput {env : Env} {f : String} {events : List Event} {inputs : List Input}
    (drawn : Drawn env f events inputs) (e : Event) : Drawn env f (events ++ [e]) (inputs ++
      (inputOf env f (ledger env events).lane.queue (after env events) e).toList) := by
  have later := drawnLater drawn e
  have given := supplied env f e (ledgerQueue env events)
  generalize inputOf env f (ledger env events).lane.queue (after env events) e = input at given ⊢
  cases given with
  | nothing quiet silent => simpa using later
  | exitRequest requestedAt reason made =>
    have bare : [Input.exitRequest requestedAt reason].filterMap reception = [] := rfl
    refine ⟨?_,fun r u mem => later.called r u (by simpa using mem)⟩
    rw [Option.toList_some,List.filterMap_append,bare,List.append_nil]
    exact later.ordered
  | telemetry written r rest u acts next call =>
    constructor
    · rw [ledgerConcat,takenStep,acts,next,List.filterMap_append]
      exact drawn.ordered.append (List.Sublist.refl [r])
    · intro r' u' mem
      rcases List.mem_append.mp mem with old | new
      · exact later.called r' u' old
      · simp only [Option.toList_some,List.mem_singleton,Input.telemetry.injEq] at new
        obtain ⟨rfl,rfl⟩ := new
        exact ⟨events,e,written,List.prefix_refl _,acts,rfl,call⟩

theorem runDrawn (env : Env) (f : String) (events : List Event) :
    Drawn env f events (inputs env f events) := by
  induction events using List.reverseRecOn with
  | nil => exact ⟨List.Sublist.refl _,fun r u mem => by cases mem⟩
  | append_singleton events e ih =>
    rw [inputsConcat]
    split
    · exact drawnInput ih e
    · exact ⟨List.nil_sublist _,fun r u mem => by cases mem⟩

theorem scannedReport (live : Option DroneState) (record : Option ActiveFlightSession)
    (now strandedNow clock : UtcTime) :
    finalReport live (record.map (ActiveFlightSession.scan live now strandedNow)) clock =
      finalReport live record clock := by
  cases live with
  | some state => rfl
  | none =>
    cases record with
    | none => rfl
    | some session =>
      obtain ⟨_,_,same⟩ := scanFlags none now strandedNow session
      simp only [Option.map_some,finalReport,syntheticState,same]

def stubPosts (f : String) (s : State) (e : Event) : List FinalizationPayload :=
  ((stubReporting s e).filter (fun payload => payload.flightSessionId == f)).toList

theorem postedIs (env : Env) (f : String) (s : State) (e : Event) :
    posted env f s e = stubPosts f s e ++ if f ∈ finalizing env s e then
      (finalReport (s.tracker.get f) (s.registry.getByFlightSessionId f) e.finalizeClock).toList
    else [] := by
  have moved := stepMoved env s e f
  by_cases taken : f ∈ finalizing env s e
  · have unstubbed : stubReporting s e = none := by
      obtain ⟨now,loop,action⟩ := e
      cases action <;> first | rfl | simp [finalizing] at taken
    rw [if_pos taken,posted,stepView,finalizingMoves taken,stubPosts,unstubbed]
    cases scanning s e with
    | none => simp [Move.apply,State.view]
    | some t =>
      simp only [Move.about,if_true,List.singleton_append,List.foldl_cons,List.foldl_nil,
        Move.apply,List.drop_left,State.view,scannedReport]
      rfl
  · rw [if_neg taken,List.append_nil]
    cases made : stubReporting s e with
    | none =>
      rw [posted,stepView,stubPosts,made]
      generalize moves env s e f = ms at moved
      cases moved with
      | stubReported made' => cases made.symm.trans made'
      | scannedFinalized _ taken' | finalized _ taken' => exact absurd taken' taken
      | _ => simp [Move.apply]
    | some payload =>
      by_cases own : payload.flightSessionId = f
      · subst f
        rw [posted,stepView,stubReportingMoves env made,stubPosts,made]
        simp [Move.apply,Option.filter]
      · rw [posted,stepView,stubPosts,made]
        generalize moves env s e f = ms at moved
        cases moved with
        | stubReported made' own' =>
          cases made.symm.trans made'
          exact absurd own' own
        | scannedFinalized _ taken' | finalized _ taken' => exact absurd taken' taken
        | _ => simp [Move.apply,Option.filter,own]

/-- The service serves the session f as one tracker of its own would: its state is that tracker's
but for the mark of the mission row, its messages are receptions of the run, each once and in
their order, and what is posted for it, but by a stub task, is the report of that tracker. -/
structure Served (env : Env) (f : String) (events : List Event) : Prop where
  state : Alike ((after env events).tracker.get f) ((fed env.haversine f (inputs env f events)).get f)
  ordered : ((inputs env f events).filterMap reception).Sublist (events.filter isReception)
  called : ∀ r u, .telemetry r u ∈ inputs env f events → CalledFrom env f events r u
  reports : Trace.Meets (fun before e => posted env f (after env before) e =
    stubPosts f (after env before) e ++ if f ∈ finalizing env (after env before) e then
      (finalReport ((fed env.haversine f (inputs env f before)).get f)
        ((after env before).registry.getByFlightSessionId f) e.finalizeClock).toList
    else []) events

theorem servedAlone (env : Env) (f : String) (events : List Event) : Served env f events := by
  have drawn := runDrawn env f events
  refine ⟨runFed env f events,?_,drawn.called,fun before e _ => ?_⟩
  · rw [← ledgerReceived env events]
    exact drawn.ordered.trans
      ((List.sublist_append_left ..).trans (ledgerKept env events).ordered)
  · dsimp only
    rw [postedIs,reportAlike (runFed env f before)]

theorem armedRunsNil (ms : List FlownIntervals.Mark) :
    FlownIntervals.armedRuns false ms = [] ↔ ∀ m ∈ ms, m.2 = false := by
  induction ms with
  | nil => simp [FlownIntervals.armedRuns]
  | cons head later ih =>
    obtain ⟨stamp,armed⟩ := head
    cases armed <;> simp [FlownIntervals.armedRuns,ih]

theorem unstampedLive {env : Env} {s : State} {e : Event} {f : String} {state : DroneState}
    (silent : accepted f s e = none) (live : (step env s e).tracker.get f = some state) :
    state.exitRequestedAt = (s.tracker.get f).bind DroneState.exitRequestedAt := by
  change ((step env s e).view f).live = some state at live
  change _ = (s.view f).live.bind _
  have moved := stepMoved env s e f
  rw [stepView] at live
  generalize moves env s e f = ms at moved live
  cases moved with
  | idle | stubReported | registered | stubReleased | scanned =>
    change (s.view f).live = some state at live
    rw [live,Option.bind_some]
  | exitAccepted made own => simp [accepted,made,own] at silent
  | observed made own active at_ why =>
    cases Option.some.inj live
    exact at_
  | scannedFinalized | finalized => cases live

structure ExitKnown (live : Option DroneState) (inputs : List Input) : Prop where
  blank : live = none → inputs = []
  exit : ∀ state, live = some state →
    (state.exitRequestedAt = none ↔ ∀ requestedAt reason, .exitRequest requestedAt reason ∉ inputs)

theorem unaskedKnown {live : Option DroneState} {inputs : List Input} (known : ExitKnown live inputs)
    {more : List Input} (silent : ∀ requestedAt reason, .exitRequest requestedAt reason ∉ more) :
    live.bind DroneState.exitRequestedAt = none ↔
      ∀ requestedAt reason, .exitRequest requestedAt reason ∉ inputs ++ more := by
  have same : (∀ requestedAt reason, .exitRequest requestedAt reason ∉ inputs ++ more) ↔
      ∀ requestedAt reason, .exitRequest requestedAt reason ∉ inputs := by
    refine forall₂_congr (fun requestedAt reason => ?_)
    simp [silent]
  rw [same]
  cases found : live with
  | none => simp [known.blank found]
  | some state => exact known.exit state found

theorem runExit (env : Env) (f : String) (events : List Event) :
    ExitKnown ((after env events).tracker.get f) (inputs env f events) := by
  induction events using List.reverseRecOn with
  | nil => exact ⟨fun _ => rfl,fun state live => by cases live⟩
  | append_singleton events e ih =>
    rw [inputsConcat,afterConcat]
    refine ⟨fun gone => by simp [gone],fun state live => ?_⟩
    rw [live,Option.isSome_some,if_pos rfl]
    have given := supplied env f e (ledgerQueue env events)
    generalize inputOf env f (ledger env events).lane.queue (after env events) e = input at given ⊢
    cases given with
    | nothing quiet silent =>
      rw [unstampedLive silent live]
      exact unaskedKnown ih (by simp)
    | telemetry written r rest u acts next call =>
      have silent : accepted f (after env events) e = none := by simp [accepted,accepting,acts]
      rw [unstampedLive silent live]
      exact unaskedKnown ih (by simp)
    | exitRequest requestedAt reason made =>
      obtain ⟨alone,-,-⟩ := acceptedMoves env made
      change ((step env (after env events) e).view f).live = some state at live
      rw [stepView,alone] at live
      obtain ⟨old,-,rfl⟩ := Option.map_eq_some_iff.mp live
      constructor
      · intro unstamped
        cases asked : old.exitRequestedAt <;> simp [DroneState.stampExit,asked] at unstamped
      · intro never
        exact absurd (by simp) (never requestedAt reason)

/-- By the messages whose update came to its arm state the vehicle told that it was not armed,
never that it was, and nobody asked for its exit. -/
structure Grounded (history : List FlownIntervals.Observation) (inputs : List Input) : Prop where
  told : FlownIntervals.marks history ≠ []
  disarmed : ∀ m ∈ FlownIntervals.marks history, m.2 = false
  unasked : ∀ requestedAt reason, .exitRequest requestedAt reason ∉ inputs

theorem builtEmpty {state : DroneState} {history : List FlownIntervals.Observation}
    (summary : FlownIntervals.Summarises state history) (now : UtcTime) :
    (buildFinalizationPayload state now).events = [] ↔ FlownIntervals.marks history ≠ [] ∧
      (∀ m ∈ FlownIntervals.marks history, m.2 = false) ∧ state.exitRequestedAt = none := by
  have segments : state.segments = [] ↔ ∀ m ∈ FlownIntervals.marks history, m.2 = false := by
    rw [← armedRunsNil,← summary.detects.segments,FlownIntervals.windows,List.map_eq_nil_iff]
  rw [← segments,← summary.detects.seen]
  simp only [buildFinalizationPayload,segmentEvents,exitEvents]
  cases state.armedFieldSeen <;> cases state.exitRequestedAt <;> simp

theorem emptyIffGrounded (env : Env) (f : String) (events : List Event) :
    Trace.Meets (fun before e => stubReporting (after env before) e = none →
      ∀ payload ∈ posted env f (after env before) e,
        (payload.events = [] ↔ Grounded (Chronicle.chronicle env f before) (inputs env f before)))
      events := by
  intro before e within unstubbed payload mem
  rw [postedIs,stubPosts,unstubbed] at mem
  have known := Chronicle.chronicleKnown env f before
  have exits := runExit env f before
  have grounded : ∀ state, (after env before).tracker.get f = some state → ∀ now,
      ((buildFinalizationPayload state now).events = [] ↔
        Grounded (Chronicle.chronicle env f before) (inputs env f before)) := by
    intro state live now
    rw [builtEmpty (known.summary state live),exits.exit state live]
    exact ⟨fun ⟨told,disarmed,unasked⟩ => ⟨told,disarmed,unasked⟩,
      fun grounded => ⟨grounded.told,grounded.disarmed,grounded.unasked⟩⟩
  have synthetic : (after env before).tracker.get f = none → ∀ session now,
      ((buildFinalizationPayload (syntheticState session now) now).events = [] ↔
        Grounded (Chronicle.chronicle env f before) (inputs env f before)) := by
    intro none session now
    constructor
    · intro empty
      simp [buildFinalizationPayload,segmentEvents,syntheticState] at empty
    · intro grounded
      exact absurd (by rw [known.blank none]; rfl) grounded.told
  simp only [Option.filter_none,Option.toList_none,List.nil_append] at mem
  split at mem
  · unfold finalReport at mem
    split at mem
    · rename_i state live
      rw [List.mem_singleton.mp mem]
      exact grounded state live _
    · rename_i session none record
      rw [List.mem_singleton.mp mem]
      exact synthetic none session _
    · cases mem
  · cases mem

end FlightMonitor.Sequential
