import FlightMonitor.ForceClose
import FlightMonitor.Undelivered

/-! A force-close pass from its first candidate to its end. The pass waits for a POST after
each removal, other tasks step in between, and any of the POSTs may raise. -/
namespace FlightMonitor.Draining
open PyValue IsoTime Undelivered ForceClose

section
variable (env : Env) (now : UtcTime) (candidates : List String) (s : State)

def start : State := forceClose env now candidates s 0

structure Pass (later : List Event) : Prop where
  suspended : Trace.Meets (fun before _ =>
    (Trace.final (step env) (start env now candidates s) before).sweeper ≠ .sleeping) later
  returned : (Trace.final (step env) (start env now candidates s) later).sweeper = .sleeping

def noteClosed (closed : List String) (s : State) (e : Event) : List String :=
  closed ++ if e.action.isSweeper then finalizing env s e else []

def closed (later : List Event) : List String :=
  Trace.history (step env) (start env now candidates s) (noteClosed env)
    (reached env now candidates s) later

end

def Waits (s : State) (rest : List String) : Prop := ∃ n, s.sweeper = .forceClosing rest n

structure Progress (candidates done : List String) (s : State) : Prop where
  split : ∃ rest, candidates = done ++ rest ∧ (s.sweeper = .sleeping ∧ rest = [] ∨ Waits s rest)

theorem forceCloseProgress (env : Env) (now : UtcTime) (candidates : List String) (s : State)
    (n : Nat) :
    Progress candidates (reached env now candidates s) (forceClose env now candidates s n) := by
  obtain ⟨rest,_,_,_,sweeper,done,split_,waits⟩ := forceCloseCases env now candidates s n
  refine ⟨rest,split_,?_⟩
  rcases waits with ⟨asleep,none⟩ | ⟨m,waits⟩
  · exact .inl ⟨by rw [done]; exact asleep,none⟩
  · exact .inr ⟨m,by rw [done]; exact waits⟩

theorem stepProgress {env : Env} {candidates done : List String} {s : State} {e : Event}
    (progress : Progress candidates done s) (awake : s.sweeper ≠ .sleeping) :
    Progress candidates (noteClosed env done s e) (step env s e) := by
  obtain ⟨rest,split_,⟨asleep,-⟩ | ⟨n,waits⟩⟩ := progress
  · exact absurd asleep awake
  · obtain ⟨wall,loop,action⟩ := e
    have same : ∀ {t : State}, t.sweeper = s.sweeper → Progress candidates done t :=
      fun same => ⟨rest,split_,.inr ⟨n,same.trans waits⟩⟩
    cases action with
    | sweep strandedNow forceCloseNow =>
      simp only [noteClosed,Action.isSweeper,finalizing,waits,if_true,List.append_nil]
      exact same (by simp only [step,sweep,waits])
    | sweeperPosted outcome =>
      have resumed : ∀ m, Progress candidates (done ++ reached env wall rest s)
          (forceClose env wall rest s m) := by
        intro m
        obtain ⟨onward,cut,ends⟩ := forceCloseProgress env wall rest s m
        exact ⟨onward,by rw [split_,List.append_assoc,← cut],ends⟩
      simp only [noteClosed,Action.isSweeper,finalizing,waits,if_true,step,sweeperPosted]
      exact resumed _
    | _ =>
      simp only [noteClosed,Action.isSweeper,Bool.false_eq_true,if_false,List.append_nil]
      exact same ((stepFrame env s _).sweeper rfl)

def Cleared (f : String) (s : State) : Prop := Absent f s ∨ ∃ rest, Waits s rest ∧ f ∈ rest

theorem forceCloseClears {env : Env} {now : UtcTime} {candidates : List String} {s : State} {n : Nat}
    {f : String} (mem : f ∈ candidates) : Cleared f (forceClose env now candidates s n) := by
  obtain ⟨rest,split_,ends⟩ := forceCloseProgress env now candidates s n
  have view := forceCloseView env now candidates s n f
  rw [split_] at mem
  rcases List.mem_append.mp mem with taken | left
  · rw [if_pos taken] at view
    exact .inl ⟨congrArg SessionView.record view,congrArg SessionView.live view⟩
  · rcases ends with ⟨-,rfl⟩ | waits
    · cases left
    · exact .inr ⟨rest,waits,left⟩

theorem stepClears {env : Env} {f : String} {s : State} {e : Event} (cleared : Cleared f s)
    (fresh : ¬ Registers f s e) : Cleared f (step env s e) := by
  rcases cleared with absent | ⟨rest,⟨n,waits⟩,mem⟩
  · exact .inl (absentMoves absent fresh)
  · obtain ⟨wall,loop,action⟩ := e
    cases action with
    | sweep strandedNow forceCloseNow =>
      simp only [step,sweep,waits]
      exact .inr ⟨rest,⟨n,waits⟩,mem⟩
    | sweeperPosted outcome =>
      simp only [step,sweeperPosted,waits]
      exact forceCloseClears mem
    | _ => exact .inr ⟨rest,⟨n,((stepFrame env s _).sweeper rfl).trans waits⟩,mem⟩

theorem forceCloseSpares {env : Env} {now : UtcTime} {candidates : List String} {s : State}
    {g : String} (other : g ∉ candidates) (n : Nat) :
    (forceClose env now candidates s n).view g = s.view g := by
  obtain ⟨rest,split_,-⟩ := forceCloseProgress env now candidates s n
  rw [forceCloseView,if_neg]
  intro taken
  exact other (by rw [split_]; exact List.mem_append_left _ taken)

theorem stepSpares {env : Env} {candidates done : List String} {s : State} {e : Event} {g : String}
    (progress : Progress candidates done s) (awake : s.sweeper ≠ .sleeping)
    (other : g ∉ candidates) (sweeps : e.action.isSweeper = true) :
    (step env s e).view g = s.view g := by
  obtain ⟨rest,split_,⟨asleep,-⟩ | ⟨n,waits⟩⟩ := progress
  · exact absurd asleep awake
  · obtain ⟨wall,loop,action⟩ := e
    cases action with
    | sweep strandedNow forceCloseNow => simp only [step,sweep,waits]
    | sweeperPosted outcome =>
      simp only [step,sweeperPosted,waits]
      exact forceCloseSpares (fun mem => other (by
        rw [split_]; exact List.mem_append_right _ mem)) _
    | _ => cases sweeps

section
variable {env : Env} {now : UtcTime} {candidates : List String} {s : State} {later : List Event}

theorem passProgress (suspended : Trace.Meets (fun before _ =>
      (Trace.final (step env) (start env now candidates s) before).sweeper ≠ .sleeping) later) :
    Progress candidates (closed env now candidates s later)
      (Trace.final (step env) (start env now candidates s) later) := by
  refine Trace.guardedInvariant (fun later => Progress candidates
    (closed env now candidates s later)
    (Trace.final (step env) (start env now candidates s) later))
    (forceCloseProgress env now candidates s 0) (fun before e progress awake => ?_) suspended
  rw [closed,Trace.historyConcat,Trace.finalConcat]
  exact stepProgress progress awake

theorem passClears {f : String} (mem : f ∈ candidates)
    (fresh : Unregistered env f (start env now candidates s) later) :
    Cleared f (Trace.final (step env) (start env now candidates s) later) := by
  refine Trace.guardedInvariant (fun later => Cleared f
    (Trace.final (step env) (start env now candidates s) later))
    (forceCloseClears mem) (fun before e cleared other => ?_) fresh
  rw [Trace.finalConcat]
  exact stepClears cleared other

/-- When a pass returns it has run the finalize sequence for each of its candidates, one after
the other and whatever the POSTs did; a candidate that was not registered again is in neither
store; and none of the pass's own steps has changed anything for another session. -/
theorem passDrains (pass : Pass env now candidates s later) :
    closed env now candidates s later = candidates ∧
    (∀ f ∈ candidates, Unregistered env f (start env now candidates s) later →
      Absent f (Trace.final (step env) (start env now candidates s) later)) ∧
    ∀ g ∉ candidates, (start env now candidates s).view g = s.view g ∧
      Trace.Meets (fun before e => e.action.isSweeper = true →
        (Trace.final (step env) (start env now candidates s) (before ++ [e])).view g =
          (Trace.final (step env) (start env now candidates s) before).view g) later := by
  refine ⟨?_,fun f mem fresh => ?_,fun g other => ⟨forceCloseSpares other 0,?_⟩⟩
  · obtain ⟨rest,split_,⟨-,rfl⟩ | ⟨n,waits⟩⟩ := passProgress pass.suspended
    · rw [List.append_nil] at split_
      exact split_.symm
    · cases pass.returned.symm.trans waits
  · rcases passClears mem fresh with absent | ⟨rest,⟨n,waits⟩,-⟩
    · exact absent
    · cases pass.returned.symm.trans waits
  · intro before e within sweeps
    have whole := Trace.meetsPrefix pass.suspended within
    obtain ⟨early,awake⟩ := Trace.meetsConcat.mp whole
    rw [Trace.finalConcat]
    exact stepSpares (passProgress early) awake other sweeps

end

def arrival (f drone : String) : Event :=
  (Action.registerSession (.obj [("flight_session_id",.str f),("drone_id",.str drone)])).at 0 10 0 0

def bothClosed : List Event :=
  [(Action.sweeperPosted .raised).at 2 10 0 7,(Action.sweeperPosted .returned).at 2 10 0 8]

def bothFlying : State :=
  after deployment [arrival "flight-A" "drone-1",arrival "flight-B" "drone-2"]

theorem raisedPostClosesBoth :
    closed deployment (march 2 10 0 0) ["flight-A","flight-B"] bothFlying bothClosed =
      ["flight-A","flight-B"] := by
  refine (passDrains ⟨Trace.meetsTake.mpr (fun n inside asleep => ?_),rfl⟩).1
  cases n with
  | zero => cases asleep
  | succ n =>
    cases n with
    | zero => cases asleep
    | succ n =>
      have few : bothClosed.length = 2 := rfl
      omega

end FlightMonitor.Draining
