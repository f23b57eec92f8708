import FlightMonitor.Roster
import FlightMonitor.SessionMachine

/-! The background tasks across a step. A step starts the task of an accepted exit request or
of a registration with overrides, or it moves one task on; a grace task that waits stops
waiting only where its session is gone after the step. -/
namespace FlightMonitor
open PyValue IsoTime

def GraceTask.Waits (task : GraceTask) : Prop :=
  match task.phase with
  | .created | .watching _ => True
  | _ => False

-- A stub task whose overrides cannot be built ends without a trace.
def StubTask.Waits (task : StubTask) : Prop :=
  match task.phase with
  | .sleeping => ∃ now payload,
      buildStubFinalizationPayload task.flightSessionId task.testOverrides now = .ok payload
  | .posting => True
  | _ => False

def State.Gone (s : State) (f : String) : Prop := s.registry.getByFlightSessionId f = none

theorem setGraceSet {s : State} {i : Nat} {task : GraceTask} (found : s.graces[i]? = some task)
    (phase : GracePhase) :
    (s.setGrace i phase).graces = s.graces.set i ⟨task.flightSessionId,phase⟩ := by
  rw [State.setGrace,List.modify_eq_set_getElem?,found]
  rfl

theorem setStubSet {s : State} {i : Nat} {task : StubTask} (found : s.stubs[i]? = some task)
    (phase : StubPhase) : (s.setStub i phase).stubs = s.stubs.set i { task with phase := phase } := by
  rw [State.setStub,List.modify_eq_set_getElem?,found]
  rfl

def Action.graceTask : Action → Option Nat
  | .graceStarts i | .graceChecks i | .gracePosted i _ => some i
  | _ => none

def Action.stubTask : Action → Option Nat
  | .stubFires i | .stubPosted i _ => some i
  | _ => none

def GracesChange (env : Env) (s : State) (e : Event) : Prop :=
  Roster.Change GraceTask.flightSessionId GraceTask.Waits
    (fun task => (step env s e).Gone task.flightSessionId) s.graces (step env s e).graces

theorem finalizeGone (env : Env) (s : State) (f : String) (now : UtcTime) :
    (finalizeSessionToSade env s f now).1.Gone f := by
  rw [State.Gone,finalizeCases]
  simp

theorem finalizeGraces (env : Env) (s : State) (f : String) (now : UtcTime) :
    (finalizeSessionToSade env s f now).1.graces = s.graces := by
  rw [finalizeCases]

inductive GracesMoved (env : Env) (s : State) (e : Event) : List GraceTask → Prop where
  | same (quiet : accepting s e = none) : GracesMoved env s e s.graces
  | asked {p} (made : accepting s e = some p) :
      GracesMoved env s e (s.graces ++ [⟨p.flightSessionId,.created⟩])
  | starts {i f} (quiet : accepting s e = none) (found : s.graces[i]? = some ⟨f,.created⟩) :
      GracesMoved env s e (s.graces.set i ⟨f,.watching ⟨e.loop,none,none⟩⟩)
  | checks {i f old new} (quiet : accepting s e = none)
      (found : s.graces[i]? = some ⟨f,.watching old⟩)
      (checked : old.check ((s.tracker.get f).map DroneState.lastSeen) e.loop = some new) :
      GracesMoved env s e (s.graces.set i ⟨f,.watching new⟩)
  | ends {i f old phase} (quiet : accepting s e = none) (found : s.graces[i]? = some ⟨f,old⟩)
      (ended : ¬ GraceTask.Waits ⟨f,phase⟩)
      (gone : GraceTask.Waits ⟨f,old⟩ → (step env s e).Gone f) :
      GracesMoved env s e (s.graces.set i ⟨f,phase⟩)

theorem gracesMoved (env : Env) (s : State) (e : Event) :
    GracesMoved env s e (step env s e).graces := by
  have frame := (stepFrame env s e).graces
  obtain ⟨now,loop,action⟩ := e
  cases action with
  | exitRequest body =>
    rcases exitRequestCases s body now loop with ⟨none,done⟩ | ⟨p,record,-,-,some,done⟩
    · simp only [step,done]
      exact .same none
    · simp only [step,done]
      exact .asked some
  | graceStarts i =>
    simp only [step,graceStarts]
    split
    · rename_i f created
      rw [setGraceSet created]
      exact .starts rfl created
    · exact .same rfl
  | graceChecks i =>
    have next : step env s ⟨now,loop,.graceChecks i⟩ = graceChecks env s i loop now := rfl
    rcases graceChecksCases env s i loop now with
      ⟨-,done | ⟨f,watch,found,⟨gone,done⟩ | ⟨watch',checked,done⟩⟩⟩ | ⟨f,phase,leaves,quiet,done⟩
    · rw [next,done]
      exact .same rfl
    · rw [next,done,setGraceSet found]
      refine .ends rfl found id (fun _ => ?_)
      rw [next,done]
      exact gone
    · rw [next,done,setGraceSet found]
      exact .checks rfl found checked
    · obtain ⟨-,watch,found,-⟩ := silentIff.mp leaves
      have kept : (finalizeSessionToSade env s f now).1.graces[i]? = some ⟨f,.watching watch⟩ := by
        rw [finalizeGraces,found]
      rw [next,done,setGraceSet kept,finalizeGraces]
      refine .ends rfl found ?_ (fun _ => ?_)
      · cases phase <;> simp_all [GraceTask.Waits,GracePhase.isWatching]
      · rw [next,done]
        exact finalizeGone env s f now
  | gracePosted i outcome =>
    simp only [step,gracePosted]
    split
    · rename_i f posting
      cases outcome with
      | returned | raised =>
        dsimp only
        rw [setGraceSet posting]
        exact .ends rfl posting id False.elim
    · exact .same rfl
  | _ =>
    rw [frame rfl]
    exact .same rfl

theorem gracesLength (env : Env) (s : State) (e : Event) :
    (step env s e).graces.length = s.graces.length + (accepting s e).toList.length := by
  have moved := gracesMoved env s e
  generalize (step env s e).graces = graces at moved ⊢
  cases moved with
  | same quiet | starts quiet | checks quiet | ends quiet => simp [quiet]
  | asked made => simp [made]

theorem gracesChange (env : Env) (s : State) (e : Event) : GracesChange env s e := by
  have moved := gracesMoved env s e
  unfold GracesChange
  generalize (step env s e).graces = graces at moved ⊢
  cases moved with
  | same => exact Roster.idle
  | asked made => exact .started _
  | starts quiet found => exact .ran found rfl (fun _ => trivial) (fun _ => .inl trivial)
  | checks quiet found checked => exact .ran found rfl (fun _ => trivial) (fun _ => .inl trivial)
  | ends quiet found ended gone =>
    exact .ran found rfl (fun waits => absurd waits ended) (fun waits => .inr (gone waits))

def StubsChange (env : Env) (s : State) (e : Event) : Prop :=
  Roster.Change StubTask.flightSessionId StubTask.Waits (fun _ => e.action.stubTask.isSome)
    s.stubs (step env s e).stubs

theorem stubRan {env : Env} {s : State} {e : Event} {i : Nat} {task : StubTask}
    (phase : StubPhase) (found : s.stubs[i]? = some task)
    (done : (step env s e).stubs = (s.setStub i phase).stubs)
    (woken : StubTask.Waits { task with phase := phase } → task.Waits)
    (moved : e.action.stubTask.isSome) : StubsChange env s e := by
  rw [StubsChange,done,setStubSet found]
  exact .ran found rfl woken (fun _ => .inr moved)

theorem stubsChange (env : Env) (s : State) (e : Event) : StubsChange env s e := by
  have same : (step env s e).stubs = s.stubs → StubsChange env s e := by
    intro same
    rw [StubsChange,same]
    exact Roster.idle
  obtain ⟨now,loop,action⟩ := e
  cases action with
  | registerSession body =>
    rcases registerSessionCases s body now loop with ⟨-,done⟩ | ⟨p,-,-,done⟩
    · exact same (by simp only [step,done])
    · have grown : (step env s ⟨now,loop,.registerSession body⟩).stubs =
          s.stubs ++ p.startedStubs := by simp only [step,done]
      rw [StubsChange,grown]
      exact .started _
  | stubFires i =>
    rcases found : s.stubs[i]? with _ | ⟨f,overrides,phase⟩
    · exact same (by simp only [step,stubFires,found])
    · cases phase with
      | posting | finished | buildRaised | postRaised =>
        exact same (by simp only [step,stubFires,found])
      | sleeping =>
        cases built : buildStubFinalizationPayload f overrides now with
        | error e =>
          exact stubRan .buildRaised found (by simp only [step,stubFires,found,built])
            False.elim rfl
        | ok payload =>
          cases url : getTrackerFinalizedUrl env.trackerFinalizedUrl with
          | error e =>
            exact stubRan .postRaised found
              (by simp only [step,stubFires,found,built,url]; rfl) False.elim rfl
          | ok url' =>
            exact stubRan .posting found
              (by simp only [step,stubFires,found,built,url]; rfl)
              (fun _ => ⟨now,payload,built⟩) rfl
  | stubPosted i outcome =>
    rcases found : s.stubs[i]? with _ | ⟨f,overrides,phase⟩
    · exact same (by simp only [step,stubPosted,found])
    · cases phase with
      | sleeping | finished | buildRaised | postRaised =>
        exact same (by simp only [step,stubPosted,found])
      | posting =>
        cases outcome with
        | raised =>
          exact stubRan .postRaised found (by simp only [step,stubPosted,found])
            False.elim rfl
        | returned =>
          exact stubRan .finished found (by simp only [step,stubPosted,found])
            False.elim rfl
  | _ => exact same ((stepFrame env s _).stubs rfl)

end FlightMonitor
