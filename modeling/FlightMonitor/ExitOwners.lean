import Mathlib.Algebra.Order.Ring.Rat
import Mathlib.Tactic.Linarith
import FlightMonitor.Tasks

/-! Who owns a session with an exit request. The sweeper leaves such a session alone, so a
grace task has to be waiting for it as long as it is registered, and that task needs no step
but its own to close it. -/
namespace FlightMonitor.ExitOwners
open PyValue IsoTime

def Owns (s : State) (f : String) (i : Nat) : Prop :=
  ∃ task, s.graces[i]? = some task ∧ task.flightSessionId = f ∧ task.Waits

def Owned (s : State) : Prop :=
  ∀ f session, s.registry.getByFlightSessionId f = some session →
    session.exitRequestedAt ≠ none → ∃ i, Owns s f i

theorem ownsOnward {env : Env} {s : State} {e : Event} {f : String} {i : Nat} (owns : Owns s f i)
    (stays : ¬ (step env s e).Gone f) : Owns (step env s e) f i := by
  obtain ⟨task,found,rfl,waiting⟩ := owns
  exact Roster.waitsOnward (gracesChange env s e) found waiting stays

theorem acceptedOwns {env : Env} {s : State} {e : Event} {p : ExitRequestPayload}
    (made : accepting s e = some p) : ∃ i, Owns (step env s e) p.flightSessionId i := by
  obtain ⟨now,loop,action⟩ := e
  cases action with
  | exitRequest body =>
    rcases exitRequestCases s body now loop with ⟨none,-⟩ | ⟨q,record,-,-,some,done⟩
    · rw [none] at made; cases made
    · cases some.symm.trans made
      refine ⟨s.graces.length,⟨p.flightSessionId,.created⟩,?_,rfl,trivial⟩
      simp only [step,done]
      exact List.getElem?_concat_length
  | _ => simp [accepting] at made

theorem stepOwned {env : Env} {s : State} {e : Event} (owned : Owned s) :
    Owned (step env s e) := by
  intro f session found exiting
  have stays : ¬ (step env s e).Gone f := by simp [State.Gone,found]
  have onward : (∃ i, Owns s f i) → ∃ i, Owns (step env s e) f i := by
    intro owned
    obtain ⟨i,owns⟩ := owned
    exact ⟨i,ownsOnward owns stays⟩
  change ((step env s e).view f).record = some session at found
  rw [stepView] at found
  have moved := stepMoved env s e f
  generalize moves env s e f = ms at moved found
  cases moved with
  | idle | stubReported => exact onward (owned f session found exiting)
  | @registered fresh made own =>
    cases found
    obtain ⟨body,p,-,-,rfl⟩ := registeringDecoded made
    exact absurd rfl exiting
  | @exitAccepted p record made own active =>
    rw [← own]
    exact acceptedOwns made
  | observed => exact onward (owned f session found exiting)
  | stubReleased | scannedFinalized | finalized => simp [Move.apply] at found
  | @scanned t made spared =>
    obtain ⟨record,active,rfl⟩ := Option.map_eq_some_iff.mp found
    obtain ⟨breached,stranded,done⟩ := scanFlags (s.view f).live t.1 t.2 record
    rw [done] at exiting
    exact onward (owned f record active exiting)

/-! An owner needs no step but its own to close the session. -/

def OwnStep (i : Nat) (t : Rat) (now : UtcTime) (e : Event) : Prop :=
  e.wall = now ∧ t ≤ e.loop ∧ (e.action = .graceStarts i ∨ e.action = .graceChecks i)

def Closes (env : Env) (s : State) (f : String) (i : Nat) : Prop :=
  ∀ t now, ∃ steps, (∀ e ∈ steps, OwnStep i t now e) ∧
    (Trace.final (step env) s steps).Gone f

theorem checkSettles (watch : Watch) (lastSeen : Option String) (t : Rat) :
    watch.check lastSeen t = none ∨ ∃ next later, watch.check lastSeen t = some next ∧ t ≤ later ∧
      next.check lastSeen later = none := by
  have silences : ∀ w : Watch, ¬ (lastSeen ≠ none ∧ lastSeen ≠ w.lastSeenAtPreviousCheck) →
      ∃ later, t ≤ later ∧ w.check lastSeen later = none := by
    intro w known
    refine ⟨max t (w.lastTelemetryChangeMonotonic.getD w.exitRequestedAt + exitGracePeriodSeconds),
      le_max_left .., ?_⟩
    rw [Watch.check,if_neg known]
    dsimp only
    rw [if_pos]
    have past := le_max_right t
      (w.lastTelemetryChangeMonotonic.getD w.exitRequestedAt + exitGracePeriodSeconds)
    linarith
  by_cases changed : lastSeen ≠ none ∧ lastSeen ≠ watch.lastSeenAtPreviousCheck
  · obtain ⟨later,after,none⟩ := silences { watch with
      lastSeenAtPreviousCheck := lastSeen, lastTelemetryChangeMonotonic := some t }
      (fun h => h.2 rfl)
    exact .inr ⟨_,later,by rw [Watch.check,if_pos changed],after,none⟩
  · cases checked : watch.check lastSeen t with
    | none => exact .inl rfl
    | some next =>
      rw [Watch.check,if_neg changed] at checked
      dsimp only at checked
      split at checked
      · cases checked
      · cases checked
        obtain ⟨later,after,none⟩ := silences watch changed
        exact .inr ⟨watch,later,rfl,after,none⟩

theorem silentWatching {s : State} {i : Nat} {f : String} (watch : Watch) {loop : Rat}
    (found : s.graces[i]? = some ⟨f,.watching watch⟩) (active : ¬ s.Gone f)
    (checked : watch.check ((s.tracker.get f).map DroneState.lastSeen) loop = none) :
    silentSession s i loop = some f :=
  silentIff.mpr ⟨Option.ne_none_iff_isSome.mp active,watch,found,checked⟩

theorem silentActive {s : State} {i : Nat} {f : String} {loop : Rat}
    (silent : silentSession s i loop = some f) : ¬ s.Gone f := by
  exact Option.ne_none_iff_isSome.mpr (silentIff.mp silent).1

theorem watchingSilences (env : Env) {s : State} {i : Nat} {f : String} {watch : Watch}
    (found : s.graces[i]? = some ⟨f,.watching watch⟩) (active : ¬ s.Gone f) (t : Rat)
    (now : UtcTime) : ∃ wait loop, (∀ e ∈ wait, OwnStep i t now e) ∧ t ≤ loop ∧
      silentSession (Trace.final (step env) s wait) i loop = some f := by
  rcases checkSettles watch ((s.tracker.get f).map DroneState.lastSeen) t with
    none | ⟨next,later,goes,after,none⟩
  · exact ⟨[],t,by simp,le_refl t,silentWatching _ found active none⟩
  · obtain ⟨record,registered⟩ := Option.ne_none_iff_exists'.mp active
    have watched : step env s ⟨now,t,.graceChecks i⟩ = s.setGrace i (.watching next) := by
      simp only [step,graceChecks,found,registered,goes]
    refine ⟨[⟨now,t,.graceChecks i⟩],later,?_,after,?_⟩
    · intro e mem
      cases List.mem_singleton.mp mem
      exact ⟨rfl,le_refl t,.inr rfl⟩
    · change silentSession (step env s ⟨now,t,.graceChecks i⟩) i later = some f
      rw [watched]
      have inside := (List.getElem?_eq_some_iff.mp found).1
      refine silentWatching next ?_ active none
      rw [setGraceSet found,List.getElem?_set_self inside]

theorem ownerSilences (env : Env) {s : State} {i : Nat} {f : String} (owns : Owns s f i)
    (active : ¬ s.Gone f) (t : Rat) (now : UtcTime) :
    ∃ wait loop, (∀ e ∈ wait, OwnStep i t now e) ∧ t ≤ loop ∧
      silentSession (Trace.final (step env) s wait) i loop = some f := by
  obtain ⟨⟨g,phase⟩,found,rfl,waiting⟩ := owns
  cases phase with
  | posting | finished | raised => cases waiting
  | watching watch => exact watchingSilences env found active t now
  | created =>
    have begun : step env s ⟨now,t,.graceStarts i⟩ = s.setGrace i (.watching ⟨t,none,none⟩) := by
      simp only [step,graceStarts,found]
    have inside := (List.getElem?_eq_some_iff.mp found).1
    have watches : (s.setGrace i (.watching ⟨t,none,none⟩)).graces[i]? =
        some ⟨g,.watching ⟨t,none,none⟩⟩ := by
      rw [setGraceSet found,List.getElem?_set_self inside]
    obtain ⟨wait,loop,own,after,silent⟩ := watchingSilences env watches active t now
    refine ⟨⟨now,t,.graceStarts i⟩ :: wait,loop,?_,after,?_⟩
    · intro e mem
      rcases List.mem_cons.mp mem with rfl | mem
      · exact ⟨rfl,le_refl t,.inl rfl⟩
      · exact own e mem
    · change silentSession (Trace.final (step env) (step env s ⟨now,t,.graceStarts i⟩) wait) i loop =
        some g
      rw [begun]
      exact silent

theorem silentCloses {env : Env} {s : State} {i : Nat} {f : String} {loop : Rat}
    (silent : silentSession s i loop = some f) (now : UtcTime) :
    (step env s ⟨now,loop,.graceChecks i⟩).Gone f := by
  rcases graceChecksCases env s i loop now with ⟨none,-⟩ | ⟨g,phase,leaves,-,done⟩
  · rw [none] at silent; cases silent
  · cases leaves.symm.trans silent
    simp only [step,done]
    exact finalizeGone env s f now

theorem ownerCloses (env : Env) {s : State} {i : Nat} {f : String} (owns : Owns s f i)
    (active : ¬ s.Gone f) : Closes env s f i := by
  intro t now
  obtain ⟨wait,loop,own,after,silent⟩ := ownerSilences env owns active t now
  refine ⟨wait ++ [⟨now,loop,.graceChecks i⟩],?_,?_⟩
  · intro e mem
    rcases List.mem_append.mp mem with mem | mem
    · exact own e mem
    · cases List.mem_singleton.mp mem
      exact ⟨rfl,after,.inr rfl⟩
  · rw [Trace.finalConcat]
    exact silentCloses silent now

theorem exitRequestedIsOwned (env : Env) (events : List Event) (f : String)
    (session : ActiveFlightSession)
    (active : (after env events).registry.getByFlightSessionId f = some session)
    (exiting : session.exitRequestedAt ≠ none) :
    ∃ i, Owns (after env events) f i ∧ Closes env (after env events) f i := by
  have owned : Owned (after env events) :=
    Trace.invariant (step env) {} (by intro f session found; simp at found)
      (fun _ _ => stepOwned) events
  obtain ⟨i,owns⟩ := owned f session active exiting
  exact ⟨i,owns,ownerCloses env owns (by simp [State.Gone,active])⟩

def departed : List Event :=
  [(Action.registerSession (.obj [("flight_session_id",.str "flight-A")])).at 8 18 0 0,
    (Action.exitRequest (.obj [("flight_session_id",.str "flight-A")])).at 8 18 10 0]

theorem departedIsOwned : ∃ i, Owns (after deployment departed) "flight-A" i ∧
    Closes deployment (after deployment departed) "flight-A" i :=
  exitRequestedIsOwned deployment departed "flight-A" _
    (Option.some_get (by decide +kernel)).symm (by decide +kernel)

end FlightMonitor.ExitOwners
