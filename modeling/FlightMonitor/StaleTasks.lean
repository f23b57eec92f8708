import FlightMonitor.ExitIntent
import FlightMonitor.ExitOwners
import FlightMonitor.GracePeriod

/-! Tasks and the registrations they belong to. A task remembers the id of its session and
reads the registry again after each wait, so it takes a later registration of the id for its
own. The ledger counts the registrations of a session and notes for each task the count at
its start. -/
namespace FlightMonitor.StaleTasks
open PyValue IsoTime
open ExitOwners (Owns OwnStep)
open ExitIntent (Intent accepted noteIntent firstIntent posted)

structure Ledger where
  registration : Nat := 0
  graces : List Nat := []
  stubs : List Nat := []

def noteTasks (env : Env) (f : String) (ledger : Ledger) (s : State) (e : Event) : Ledger :=
  let registration := if Enters env f s e then ledger.registration + 1 else ledger.registration
  { registration := registration
    graces := Roster.note (fun _ => registration) s.graces (step env s e).graces ledger.graces
    stubs := Roster.note (fun _ => registration) s.stubs (step env s e).stubs ledger.stubs }

def ledger (env : Env) (f : String) (events : List Event) : Ledger :=
  Trace.history (step env) {} (noteTasks env f) {} events

def Pends (s : State) (f : String) (i : Nat) : Prop :=
  ∃ task, s.stubs[i]? = some task ∧ task.flightSessionId = f ∧ task.Waits

def Acts (env : Env) (f : String) (s : State) (e : Event) : Prop :=
  ¬ s.Gone f ∧ ((step env s e).Gone f ∨ posted env f s e ≠ [])

structure ActsInTime (env : Env) (f : String) (before : List Event) (e : Event) : Prop where
  grace : ∀ i, e.action.graceTask = some i → Acts env f (after env before) e →
    (ledger env f before).graces[i]? = some (ledger env f before).registration ∧
      firstIntent env f before ≠ none
  stub : ∀ i, e.action.stubTask = some i → Acts env f (after env before) e →
    (ledger env f before).stubs[i]? = some (ledger env f before).registration

structure EntersAlone (env : Env) (f : String) (s : State) (e : Event) : Prop where
  grace : Enters env f s e → ∀ i, ¬ Owns s f i
  stub : Enters env f s e → ∀ i, ¬ Pends s f i

def TaskStep (e : Event) : Prop := e.action.graceTask.isSome ∨ e.action.stubTask.isSome

structure InTime (f : String) (s : State) (l : Ledger) (intent : Option Intent) : Prop where
  grace : ¬ s.Gone f → ∀ i, Owns s f i → l.graces[i]? = some l.registration ∧ intent ≠ none
  stub : ¬ s.Gone f → ∀ i, Pends s f i → l.stubs[i]? = some l.registration

structure Noted (s : State) (l : Ledger) : Prop where
  graces : l.graces.length = s.graces.length
  stubs : l.stubs.length = s.stubs.length
  pastGraces : ∀ n ∈ l.graces, n ≤ l.registration
  pastStubs : ∀ n ∈ l.stubs, n ≤ l.registration

theorem notePast {α : Type} {old new : List α} {notes : List Nat} {n m : Nat}
    (past : ∀ k ∈ notes, k ≤ n) (later : n ≤ m) :
    ∀ k ∈ Roster.note (fun _ => m) old new notes, k ≤ m := by
  intro k mem
  rcases List.mem_append.mp mem with early | fresh
  · exact (past k early).trans later
  · obtain ⟨task,-,rfl⟩ := List.mem_map.mp fresh
    exact le_refl _

theorem stepNoted {env : Env} {f : String} {s : State} {e : Event} {l : Ledger}
    (noted : Noted s l) : Noted (step env s e) (noteTasks env f l s e) := by
  have later : l.registration ≤ (noteTasks env f l s e).registration := by
    simp only [noteTasks]
    split <;> omega
  exact ⟨Roster.noteLength (gracesChange env s e) noted.graces,
    Roster.noteLength (stubsChange env s e) noted.stubs,
    notePast noted.pastGraces later,notePast noted.pastStubs later⟩

theorem acceptedPresent (env : Env) {f : String} {s : State} {e : Event} {p : ExitRequestPayload}
    (made : accepting s e = some p) (own : p.flightSessionId = f) : ¬ Enters env f s e := by
  intro enters
  have active := (acceptingMoves env made own).2
  rw [(entersView.mp enters).1] at active
  cases active

theorem freshAccepted {env : Env} {s : State} {e : Event} {next : GraceTask}
    (fresh : next ∈ (step env s e).graces.drop s.graces.length) :
    ∃ p, accepting s e = some p ∧ p.flightSessionId = next.flightSessionId := by
  have longer := gracesLength env s e
  cases made : accepting s e with
  | none =>
    rw [made] at longer
    rw [List.drop_eq_nil_of_le (by simp [longer])] at fresh
    cases fresh
  | some p =>
    obtain ⟨now,loop,action⟩ := e
    obtain ⟨body,rfl,-⟩ := acceptingDecoded made
    rcases exitRequestCases s body now loop with ⟨none,-⟩ | ⟨q,record,-,-,some,done⟩
    · cases none.symm.trans made
    · cases some.symm.trans made
      simp only [step,done,List.drop_left] at fresh
      cases List.mem_singleton.mp fresh
      exact ⟨p,rfl,rfl⟩

theorem stepInTime {env : Env} {f : String} {s : State} {e : Event} {l : Ledger}
    {intent : Option Intent} (noted : Noted s l) (inTime : InTime f s l intent)
    (alone : EntersAlone env f s e) :
    InTime f (step env s e) (noteTasks env f l s e) (noteIntent env f intent s e) := by
  have present : ¬ (step env s e).Gone f → ¬ Enters env f s e → ¬ s.Gone f :=
    fun stays again gone => again ⟨gone,stays⟩
  constructor
  · intro stays i owns
    obtain ⟨next,found,rfl,waiting⟩ := owns
    rcases Roster.waitsOrigin (gracesChange env s e) found waiting with
      ⟨task,before,same,waited⟩ | ⟨late,fresh⟩
    · have owned : Owns s next.flightSessionId i := ⟨task,before,same,waited⟩
      have again : ¬ Enters env next.flightSessionId s e := fun enters => alone.grace enters i owned
      obtain ⟨born,asked⟩ := inTime.grace (present stays again) i owned
      simp only [noteTasks,noteIntent,if_neg again]
      refine ⟨Roster.noteKept born,?_⟩
      obtain ⟨first,rfl⟩ := Option.ne_none_iff_exists'.mp asked
      simp
    · obtain ⟨p,made,own⟩ := freshAccepted fresh
      have again := acceptedPresent env made own
      refine ⟨Roster.noteFresh noted.graces found late,?_⟩
      simp only [noteIntent,if_neg again,accepted,made,own,if_true]
      cases intent <;> simp
  · intro stays i pends
    obtain ⟨next,found,rfl,waiting⟩ := pends
    rcases Roster.waitsOrigin (stubsChange env s e) found waiting with
      ⟨task,before,same,waited⟩ | ⟨late,fresh⟩
    · have pended : Pends s next.flightSessionId i := ⟨task,before,same,waited⟩
      have again : ¬ Enters env next.flightSessionId s e := fun enters => alone.stub enters i pended
      have born := inTime.stub (present stays again) i pended
      simp only [noteTasks,if_neg again]
      exact Roster.noteKept born
    · exact Roster.noteFresh noted.stubs found late

/-! A task that acts on a registered session was waiting for it. -/

theorem actsMoves {env : Env} {f : String} {s : State} {e : Event} (acts : Acts env f s e) :
    moves env s e f ≠ [] := by
  intro idle
  have same := stepView env s e f
  rw [idle] at same
  obtain ⟨active,gone | reports⟩ := acts
  · exact active ((congrArg SessionView.record same).symm.trans gone)
  · simp [posted,same] at reports

theorem graceMoves (env : Env) (s : State) (now : UtcTime) (loop : Rat) (i : Nat) (f : String) :
    moves env s ⟨now,loop,.graceChecks i⟩ f =
      if silentSession s i loop = some f then [.finalized now] else [] := by
  simp [moves,registering,accepting,observing,stubReporting,stubReleasing,scanning,finalizing,
    Event.finalizeClock]

theorem actsOwns {env : Env} {f : String} {s : State} {e : Event} {i : Nat}
    (own : e.action.graceTask = some i) (acts : Acts env f s e) : Owns s f i := by
  have moved := actsMoves acts
  obtain ⟨now,loop,action⟩ := e
  cases action with
  | graceChecks j =>
    cases own
    rw [graceMoves] at moved
    have leaves : silentSession s i loop = some f := by
      by_contra stays
      exact moved (if_neg stays)
    obtain ⟨-,watch,found,-⟩ := silentIff.mp leaves
    exact ⟨_,found,rfl,trivial⟩
  | graceStarts | gracePosted => exact absurd rfl moved
  | _ => cases own

theorem reportingPends {s : State} {e : Event} {payload : FinalizationPayload} {i : Nat}
    (own : e.action.stubTask = some i) (made : stubReporting s e = some payload) :
    Pends s payload.flightSessionId i := by
  obtain ⟨now,loop,action⟩ := e
  cases action with
  | stubFires j =>
    cases own
    simp only [stubReporting] at made
    split at made
    · rename_i g overrides found
      split at made
      · cases made
      · rename_i built
        cases made
        exact ⟨_,found,(stubPayloadSession built).symm,now,_,built⟩
    · cases made
  | _ => simp [stubReporting] at made

theorem releasingPends {s : State} {e : Event} {f : String} {i : Nat}
    (own : e.action.stubTask = some i) (made : stubReleasing s e = some f) : Pends s f i := by
  obtain ⟨now,loop,action⟩ := e
  cases action with
  | stubPosted j outcome =>
    cases own
    cases outcome with
    | raised => cases made
    | returned =>
      simp only [stubReleasing] at made
      split at made
      · rename_i found
        cases made
        exact ⟨_,found,rfl,trivial⟩
      · cases made
  | _ => simp [stubReleasing] at made

theorem actsPends {env : Env} {f : String} {s : State} {e : Event} {i : Nat}
    (own : e.action.stubTask = some i) (acts : Acts env f s e) : Pends s f i := by
  have moved := actsMoves acts
  have step := stepMoved env s e f
  generalize moves env s e f = ms at step moved
  cases step with
  | idle => exact absurd rfl moved
  | stubReported made mine => rw [← mine]; exact reportingPends own made
  | stubReleased made => exact releasingPends own made
  | registered made => obtain ⟨_,_,acts,-⟩ := registeringDecoded made; simp [acts,Action.stubTask] at own
  | exitAccepted made => obtain ⟨_,acts,-⟩ := acceptingDecoded made; simp [acts,Action.stubTask] at own
  | observed made => cases action : e.action <;> simp [observing,action,Action.stubTask] at made own
  | scanned made | scannedFinalized made =>
    cases action : e.action <;> simp [scanning,action,Action.stubTask] at made own
  | finalized calm taken =>
    cases action : e.action <;> simp [finalizing,action,Action.stubTask] at taken own

theorem entersRegisters {env : Env} {f : String} {s : State} {e : Event} (enters : Enters env f s e) :
    ∃ body, e.action = .registerSession body := by
  obtain ⟨absent,present⟩ := entersView.mp enters
  rw [stepView] at present
  have moved := stepMoved env s e f
  generalize moves env s e f = ms at moved present
  cases moved with
  | registered made => obtain ⟨body,_,acts,-⟩ := registeringDecoded made; exact ⟨body,acts⟩
  | idle | stubReported | observed => exact absurd absent present
  | exitAccepted | scanned => simp [Move.apply,absent] at present
  | stubReleased | scannedFinalized | finalized => simp [Move.apply] at present

theorem taskNotEnters (env : Env) (f : String) (s : State) {e : Event} (task : TaskStep e) :
    ¬ Enters env f s e := by
  intro enters
  obtain ⟨body,acts⟩ := entersRegisters enters
  simp [TaskStep,acts,Action.graceTask,Action.stubTask] at task

@[simp] theorem ledgerConcat (env : Env) (f : String) (events : List Event) (e : Event) :
    ledger env f (events ++ [e]) = noteTasks env f (ledger env f events) (after env events) e :=
  Trace.historyConcat ..

@[simp] theorem intentConcat (env : Env) (f : String) (events : List Event) (e : Event) :
    firstIntent env f (events ++ [e]) =
      noteIntent env f (firstIntent env f events) (after env events) e := Trace.historyConcat ..

theorem runNoted (env : Env) (f : String) (events : List Event) :
    Noted (after env events) (ledger env f events) := by
  induction events using List.reverseRecOn with
  | nil => exact ⟨rfl,rfl,by simp [ledger],by simp [ledger]⟩
  | append_singleton events e ih =>
    rw [afterConcat,ledgerConcat]
    exact stepNoted ih

def Kept (env : Env) (f : String) (events : List Event) : Prop :=
  InTime f (after env events) (ledger env f events) (firstIntent env f events)

theorem keptConcat {env : Env} {f : String} {events : List Event} {e : Event}
    (kept : Kept env f events) (alone : EntersAlone env f (after env events) e) :
    Kept env f (events ++ [e]) := by
  rw [Kept,afterConcat,ledgerConcat,intentConcat]
  exact stepInTime (runNoted env f events) kept alone

theorem keptActs {env : Env} {f : String} {events : List Event} (kept : Kept env f events)
    (e : Event) : ActsInTime env f events e where
  grace i own acts := kept.grace acts.1 i (actsOwns own acts)
  stub i own acts := kept.stub acts.1 i (actsPends own acts)

theorem keptOnward {env : Env} {f : String} {events : List Event} (kept : Kept env f events)
    (later : List Event) (tasks : ∀ e ∈ later, TaskStep e) : Kept env f (events ++ later) := by
  induction later using List.reverseRecOn with
  | nil => rwa [List.append_nil]
  | append_singleton later e ih =>
    rw [← List.append_assoc]
    have late := taskNotEnters env f (after env (events ++ later))
      (tasks e (by simp))
    exact keptConcat (ih (fun x mem => tasks x (List.mem_append_left _ mem)))
      ⟨fun enters => absurd enters late,fun enters => absurd enters late⟩

theorem ledgerOnward (env : Env) (f : String) (events later : List Event)
    (tasks : ∀ e ∈ later, TaskStep e) :
    (ledger env f (events ++ later)).registration = (ledger env f events).registration ∧
      ∀ (i n : Nat), (ledger env f events).graces[i]? = some n →
        (ledger env f (events ++ later)).graces[i]? = some n := by
  induction later using List.reverseRecOn with
  | nil => simp
  | append_singleton later e ih =>
    obtain ⟨same,kept⟩ := ih (fun x mem => tasks x (List.mem_append_left _ mem))
    have late := taskNotEnters env f (after env (events ++ later))
      (tasks e (by simp))
    rw [← List.append_assoc,ledgerConcat]
    simp only [noteTasks,if_neg late]
    exact ⟨same,fun i n noted => Roster.noteKept (kept i n noted)⟩

/-! A task that still waits when its session is registered again can act on the new
registration. -/

def Safe (env : Env) (f : String) (before : List Event) : Prop :=
  ∀ later, (∀ e ∈ later, TaskStep e) → Trace.Meets (ActsInTime env f) (before ++ later)

theorem meetsLast {env : Env} {f : String} {before : List Event} (later : List Event) (e : Event)
    (safe : Safe env f before) (tasks : ∀ x ∈ later ++ [e], TaskStep x) :
    ActsInTime env f (before ++ later) e := by
  refine safe (later ++ [e]) tasks (before ++ later) e ?_
  rw [List.append_assoc]

theorem staleNote {env : Env} {f : String} {before : List Event} {e : Event} {i n : Nat}
    (enters : Enters env f (after env before) e) (old : i < (after env before).graces.length)
    {later : List Event} (tasks : ∀ x ∈ later, TaskStep x)
    (born : (ledger env f (before ++ [e] ++ later)).graces[i]? = some n) :
    n < (ledger env f (before ++ [e] ++ later)).registration := by
  have noted := runNoted env f before
  have inside : i < (ledger env f before).graces.length := by rw [noted.graces]; exact old
  have first := List.getElem?_eq_getElem inside
  have past := noted.pastGraces _ (List.mem_of_getElem? first)
  obtain ⟨same,kept⟩ := ledgerOnward env f (before ++ [e]) later tasks
  have stays := kept i _ (by rw [ledgerConcat]; exact Roster.noteKept first)
  cases born.symm.trans stays
  rw [same,ledgerConcat]
  simp only [noteTasks,if_pos enters]
  omega

theorem staleGraceActs {env : Env} {f : String} {before : List Event} {e : Event} {i : Nat}
    (enters : Enters env f (after env before) e) (owns : Owns (after env before) f i) :
    ¬ Safe env f (before ++ [e]) := by
  intro safe
  have active : ¬ (after env (before ++ [e])).Gone f := by rw [afterConcat]; exact enters.2
  have waits : Owns (after env (before ++ [e])) f i := by
    rw [afterConcat] at active ⊢
    exact ExitOwners.ownsOnward owns active
  obtain ⟨wait,loop,own,-,silent⟩ := ExitOwners.ownerSilences env waits active 0 e.wall
  have reached : Trace.final (step env) (after env (before ++ [e])) wait =
      after env (before ++ [e] ++ wait) := (Trace.finalAppend ..).symm
  rw [reached] at silent
  have waiting : ∀ x ∈ wait, TaskStep x := by
    intro x mem
    obtain ⟨-,-,starts | checks⟩ := own x mem
    · simp [TaskStep,starts,Action.graceTask]
    · simp [TaskStep,checks,Action.graceTask]
  have late := meetsLast wait ⟨e.wall,loop,.graceChecks i⟩ safe (by
    intro x mem
    rcases List.mem_append.mp mem with mem | mem
    · exact waiting x mem
    · cases List.mem_singleton.mp mem
      exact .inl rfl)
  obtain ⟨born,-⟩ := late.grace i rfl
    ⟨ExitOwners.silentActive silent,.inl (ExitOwners.silentCloses silent e.wall)⟩
  obtain ⟨task,found,-⟩ := owns
  have stale := staleNote enters (List.getElem?_eq_some_iff.mp found).1 waiting born
  exact absurd stale (lt_irrefl _)

theorem pendingActs (env : Env) {s : State} {f : String} {i : Nat} (pends : Pends s f i)
    (active : ¬ s.Gone f) (wall : UtcTime) :
    ∃ x : Event, x.action.stubTask = some i ∧ Acts env f s x := by
  obtain ⟨⟨g,overrides,phase⟩,found,rfl,waits⟩ := pends
  cases phase with
  | finished | buildRaised | postRaised => exact absurd waits id
  | posting =>
    refine ⟨⟨wall,0,.stubPosted i .returned⟩,rfl,active,.inl ?_⟩
    simp [State.Gone,step,stubPosted,found]
  | sleeping =>
    obtain ⟨now,payload,built⟩ := waits
    have mine : payload.flightSessionId = g := stubPayloadSession built
    have made : stubReporting s ⟨now,0,.stubFires i⟩ = some payload := by
      simp only [stubReporting,found,built]
    refine ⟨⟨now,0,.stubFires i⟩,rfl,active,.inr ?_⟩
    have view := stepView env s ⟨now,0,.stubFires i⟩ payload.flightSessionId
    rw [stubReportingMoves env made,mine] at view
    simp [posted,view,Move.apply]

theorem staleStubActs {env : Env} {f : String} {before : List Event} {e : Event} {i : Nat}
    (enters : Enters env f (after env before) e) (pends : Pends (after env before) f i) :
    ¬ Safe env f (before ++ [e]) := by
  intro safe
  have active : ¬ (after env (before ++ [e])).Gone f := by rw [afterConcat]; exact enters.2
  obtain ⟨body,registers⟩ := entersRegisters enters
  obtain ⟨task,old,rfl,waited⟩ := pends
  have onward := Roster.waitsOnward (stubsChange env (after env before) e) old waited
    (by simp [registers,Action.stubTask])
  rw [← afterConcat] at onward
  obtain ⟨x,own,acts⟩ := pendingActs env onward active e.wall
  have late := meetsLast [] x safe (by
    intro y mem
    cases List.mem_singleton.mp mem
    exact .inr (by simp [own]))
  rw [List.append_nil] at late
  have born := late.stub i own acts
  have noted := runNoted env task.flightSessionId before
  have inside : i < (ledger env task.flightSessionId before).stubs.length := by
    rw [noted.stubs]; exact (List.getElem?_eq_some_iff.mp old).1
  have first := List.getElem?_eq_getElem inside
  have past := noted.pastStubs _ (List.mem_of_getElem? first)
  rw [ledgerConcat] at born
  simp only [noteTasks,if_pos enters] at born
  have same := Option.some.inj (born.symm.trans (Roster.noteKept first))
  omega

theorem tasksActInTimeIffEnteredAlone (env : Env) (f : String) (events : List Event) :
    Trace.Throughout (Safe env f) events ↔
      Trace.Meets (fun before e => EntersAlone env f (after env before) e) events := by
  refine Trace.goodIffGuarded
    (fun before => Kept env f before ∧ Trace.Meets (ActsInTime env f) before) ?_ ?_ ?_ ?_ events
  · refine ⟨⟨fun stays => ?_,fun stays => ?_⟩,Trace.meetsNil⟩
    · exact absurd rfl stays
    · exact absurd rfl stays
  · intro before held later tasks
    obtain ⟨kept,acts⟩ := held
    refine Trace.meetsAppend.mpr ⟨acts,fun first e within => ?_⟩
    have inside : ∀ x ∈ first, TaskStep x := fun x mem =>
      tasks x (within.subset (List.mem_append_left _ mem))
    exact keptActs (keptOnward kept first inside) e
  · intro before e held alone
    obtain ⟨kept,acts⟩ := held
    exact ⟨keptConcat kept alone,Trace.meetsConcat.mpr ⟨acts,keptActs kept e⟩⟩
  · intro before e _ attended safe
    refine attended ⟨fun enters i owns => ?_,fun enters i pends => ?_⟩
    · exact staleGraceActs enters owns safe
    · exact staleStubActs enters pends safe

def registration : Json :=
  .obj [("flight_session_id",.str "flight-A"),("drone_id",.str "drone-1")]

def exitRequest : Action := .exitRequest (.obj [("flight_session_id",.str "flight-A")])

def bothCheck (k : Nat) : List Event :=
  [(Action.graceChecks 0).at 8 18 (10 + k / 2) (k % 2 * 30),
    (Action.graceChecks 1).at 8 18 (10 + k / 2) (k % 2 * 30 + 10)]

def redelivered : List Event :=
  [(Action.registerSession registration).at 8 18 0 0,exitRequest.at 8 18 10 0,
    (Action.graceStarts 0).at 8 18 10 0,exitRequest.at 8 18 10 10,
    (Action.graceStarts 1).at 8 18 10 10] ++
  [1,2,3,4,5,6,7,8,9].flatMap bothCheck ++
  [(Action.graceChecks 0).at 8 18 15 0,(Action.registerSession registration).at 8 18 15 5]

theorem duplicateEndsNextRegistration : ¬ Trace.Meets (ActsInTime deployment "flight-A")
    (redelivered ++ [(Action.graceChecks 1).at 8 18 15 10]) := by
  intro meets
  obtain ⟨born,-⟩ := (meets redelivered _ (List.prefix_refl _)).grace 1 rfl
    ⟨fun gone => absurd (congrArg Option.isNone gone) (by decide +kernel),
      .inl (Option.isNone_iff_eq_none.mp (by decide +kernel))⟩
  exact absurd born (by decide +kernel)

end FlightMonitor.StaleTasks
