import FlightMonitor.Posting
import FlightMonitor.SessionMachine

/-! The finalize sequence to the end of its POST. It clears both stores before it posts, so
nothing that happens to the POST leaves anything behind: a session that is in neither store
stays out of both and is not reported again until it is registered again. -/
namespace FlightMonitor.Undelivered
open PyValue IsoTime

/-- `_finalize_session_to_sade`: the stores it leaves and what it returns or raises. Other
tasks take the steps `meanwhile` while the POST runs. -/
def finalizeCall (env : Env) (s : State) (f : String) (now : UtcTime) (meanwhile : List Event)
    (outcomes : Nat → Attempt) : State × Except PyError Bool :=
  let cleared := (finalizeSessionToSade env s f now).1
  match finalReport (s.tracker.get f) (s.registry.getByFlightSessionId f) now with
  | none => (cleared,.ok false)
  | some payload =>
    match getTrackerFinalizedUrl env.trackerFinalizedUrl with
    | .error e => (cleared,.error e)
    | .ok _ => (Trace.final (step env) cleared meanwhile,
        (postTrackerSessionFinalized env.trackerFinalizedUrl payload outcomes).result.map
          (fun _ => (s.tracker.get f).isSome))

def Answered (env : Env) (s : State) (f : String) (now : UtcTime) (outcomes : Nat → Attempt) :
    Prop :=
  ∃ payload, finalReport (s.tracker.get f) (s.registry.getByFlightSessionId f) now = some payload ∧
    ∃ k loaded, outcomes k = .answered loaded ∧
      k < (postTrackerSessionFinalized env.trackerFinalizedUrl payload outcomes).requests.length

def KeptUntilAnswered (env : Env) (s : State) (f : String) (now : UtcTime)
    (meanwhile : List Event) (outcomes : Nat → Attempt) : Prop :=
  ¬ Answered env s f now outcomes →
    ((s.registry.getByFlightSessionId f).isSome → ((finalizeCall env s f now meanwhile
      outcomes).1.registry.getByFlightSessionId f).isSome) ∧
    ((s.tracker.get f).isSome →
      ((finalizeCall env s f now meanwhile outcomes).1.tracker.get f).isSome)

def Registers (f : String) (s : State) (e : Event) : Prop :=
  ∃ session, registering s e = some session ∧ session.flightSessionId = f

def Unregistered (env : Env) (f : String) (s : State) (later : List Event) : Prop :=
  Trace.Meets (fun before e => ¬ Registers f (Trace.final (step env) s before) e) later

theorem unregistered (env : Env) (f : String) (s : State) {later : List Event}
    (others : ∀ e ∈ later, ∀ body, e.action ≠ .registerSession body) :
    Unregistered env f s later := by
  intro before e within registers
  obtain ⟨session,made,-⟩ := registers
  obtain ⟨body,_,acts,-⟩ := registeringDecoded made
  exact others e (within.subset (by simp)) body acts

structure Absent (f : String) (s : State) : Prop where
  record : s.registry.getByFlightSessionId f = none
  live : s.tracker.get f = none

structure Unreachable (env : Env) (f : String) (s : State) : Prop where
  absent : Absent f s
  unaccepted : ∀ e p, accepting s e = some p → p.flightSessionId ≠ f
  unreported : ∀ e, stubReporting s e = none →
    ((step env s e).view f).reports = (s.view f).reports

def Forgotten (env : Env) (f : String) (s : State) : Prop :=
  ∀ later, Unregistered env f s later → Unreachable env f (Trace.final (step env) s later)

theorem absentMoves {env : Env} {f : String} {s : State} {e : Event} (absent : Absent f s)
    (fresh : ¬ Registers f s e) : Absent f (step env s e) := by
  have none_ : (s.view f).record = none := absent.record
  have moved := stepMoved env s e f
  have view := stepView env s e f
  generalize moves env s e f = ms at moved view
  have both : ((step env s e).view f).record = none ∧ ((step env s e).view f).live = none := by
    rw [view]
    cases moved with
    | idle | stubReported => exact ⟨absent.record,absent.live⟩
    | registered made own => exact absurd ⟨_,made,own⟩ fresh
    | exitAccepted made own active => cases none_.symm.trans active
    | observed made own active => cases none_.symm.trans active
    | stubReleased => exact ⟨rfl,absent.live⟩
    | scanned => exact ⟨by simp [Move.apply,none_],absent.live⟩
    | scannedFinalized | finalized => exact ⟨rfl,rfl⟩
  exact ⟨both.1,both.2⟩

theorem absentUnreachable (env : Env) {f : String} {s : State} (absent : Absent f s) :
    Unreachable env f s where
  absent := absent
  unaccepted := by
    intro e p made own
    have active := (acceptingMoves env made own).2
    rw [show (s.view f).record = none from absent.record] at active
    cases active
  unreported := by
    intro e quiet
    have empty : s.view f = { s.view f with record := none, live := none } := by
      simp [State.view,absent.record,absent.live]
    have moved := stepMoved env s e f
    rw [stepView]
    generalize moves env s e f = ms at moved
    cases moved with
    | stubReported made => cases quiet.symm.trans made
    | scannedFinalized | finalized => rw [empty]; simp [Move.apply,finalReport]
    | _ => rfl

theorem absentOnward {env : Env} {f : String} {s : State} (absent : Absent f s)
    {later : List Event} (fresh : Unregistered env f s later) :
    Absent f (Trace.final (step env) s later) := by
  refine Trace.guardedInvariant (fun later => Absent f (Trace.final (step env) s later))
    absent (fun before e held other => ?_) fresh
  rw [Trace.finalConcat]
  exact absentMoves held other

theorem absentForgotten (env : Env) {f : String} {s : State} (absent : Absent f s) :
    Forgotten env f s :=
  fun _ fresh => absentUnreachable env (absentOnward absent fresh)

theorem finalizeClears (env : Env) (s : State) (f : String) (now : UtcTime) :
    Absent f (finalizeSessionToSade env s f now).1 := by
  rw [finalizeCases]
  exact ⟨by simp,by simp⟩

theorem callAbsent {env : Env} {s : State} {f : String} {now : UtcTime} {meanwhile : List Event}
    (fresh : Unregistered env f (finalizeSessionToSade env s f now).1 meanwhile)
    (outcomes : Nat → Attempt) : Absent f (finalizeCall env s f now meanwhile outcomes).1 := by
  have cleared := finalizeClears env s f now
  unfold finalizeCall
  split
  · exact cleared
  · split
    · exact cleared
    · exact absentOnward cleared fresh

theorem clearedWhateverThePost (env : Env) (s : State) (f : String) (now : UtcTime)
    (meanwhile : List Event) (outcomes : Nat → Attempt)
    (fresh : Unregistered env f (finalizeSessionToSade env s f now).1 meanwhile) :
    Absent f (finalizeSessionToSade env s f now).1 ∧
    (finalizeSessionToSade env s f now).1.posts = s.posts ++
      (finalReport (s.tracker.get f) (s.registry.getByFlightSessionId f) now).toList ∧
    Absent f (finalizeCall env s f now meanwhile outcomes).1 ∧
    Forgotten env f (finalizeCall env s f now meanwhile outcomes).1 := by
  have ended := callAbsent fresh outcomes
  refine ⟨finalizeClears env s f now,?_,ended,absentForgotten env ended⟩
  rw [finalizeCases]

def reporting : List Event :=
  [(Action.registerSession (.obj [("flight_session_id",.str "flight-A"),
      ("drone_id",.str "drone-1")])).at 0 10 0 0,
    (Action.onMessage "telemetry" droneMessage).at 0 10 1 0,
    Action.enqueueMessage.at 0 10 1 0,(Action.worker (.ok ())).at 0 10 1 0]

def unreachableSade : Nat → Attempt := fun _ => .transportError (.runtimeError "connection refused")

theorem reportLostToSade : ¬ KeptUntilAnswered deployment (after deployment reporting) "flight-A"
    (march 0 10 2 0) [] unreachableSade := by
  intro kept
  obtain ⟨record,-⟩ := kept (by
    intro answered
    obtain ⟨_,_,k,loaded,outcome,-⟩ := answered
    cases outcome)
  cases record rfl

theorem sweptReportLost : Forgotten deployment "flight-A" (finalizeCall deployment
    (after deployment reporting) "flight-A" (march 0 10 2 0)
    [(Action.sweep (march 0 10 2 1) (march 0 10 2 1)).at 0 10 2 1] unreachableSade).1 := by
  refine (clearedWhateverThePost deployment (after deployment reporting) "flight-A" (march 0 10 2 0)
    [(Action.sweep (march 0 10 2 1) (march 0 10 2 1)).at 0 10 2 1] unreachableSade
    (unregistered _ _ _ ?_)).2.2.2
  simp [Action.at]

end FlightMonitor.Undelivered
