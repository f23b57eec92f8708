import FlightMonitor.SessionMachine

/-! Whether every live state belongs to an active session. Telemetry only reaches the tracker
through the registry, and the canonical finalize sequence clears both stores; a stub task
clears the registry alone. -/
namespace FlightMonitor.LiveStates
open PyValue IsoTime

def Covered (s : State) : Prop :=
  ∀ f, (s.tracker.get f).isSome → (s.registry.getByFlightSessionId f).isSome

def ReleasedBare (s : State) (e : Event) : Prop :=
  ∀ f, stubReleasing s e = some f → s.tracker.get f = none

def CoveredView (v : SessionView) : Prop := v.live.isSome → v.record.isSome

theorem stepCovered {env : Env} {s : State} {e : Event} (covered : Covered s)
    (bare : ReleasedBare s e) : Covered (step env s e) := by
  intro f
  have before : CoveredView (s.view f) := covered f
  change CoveredView ((step env s e).view f)
  have moved := stepMoved env s e f
  have released : stubReleasing s e = some f → (s.view f).live = none := bare f
  rw [stepView]
  generalize moves env s e f = ms at moved ⊢
  unfold CoveredView at before ⊢
  cases moved with
  | idle | stubReported => exact before
  | registered => simp [Move.apply]
  | exitAccepted | scanned => simpa [Move.apply] using before
  | observed made own active => simp [Move.apply,active]
  | stubReleased made => simp [Move.apply,released made]
  | scannedFinalized | finalized => simp [Move.apply]

theorem releaseUncovers {env : Env} {s : State} {e : Event} {f : String} {state : DroneState}
    (made : stubReleasing s e = some f) (live : s.tracker.get f = some state) :
    ¬ Covered (step env s e) := by
  intro covered
  have after : CoveredView ((step env s e).view f) := covered f
  have before : (s.view f).live = some state := live
  rw [stepView,stubReleasingMoves env made] at after
  simp [CoveredView,Move.apply,before] at after

theorem coveredIffReleasedBare (env : Env) (events : List Event) :
    Trace.Throughout (fun before => Covered (after env before)) events ↔
      Trace.Meets (fun before e => ReleasedBare (after env before) e) events := by
  refine Trace.goodIffGuarded (fun before => Covered (after env before)) ?_ ?_ ?_ ?_ events
  · intro f live
    simp at live
  · exact fun _ covered => covered
  · intro before e covered bare
    rw [afterConcat]
    exact stepCovered covered bare
  · intro before e _ laden
    rw [afterConcat]
    unfold ReleasedBare at laden
    push Not at laden
    obtain ⟨f,made,laden⟩ := laden
    obtain ⟨state,live⟩ := Option.ne_none_iff_exists'.mp laden
    exact releaseUncovers made live

def overheard : List Event :=
  let body : Json := .obj [("flight_session_id",.str "flight-A"),("drone_id",.str "drone-1"),
    ("test_overrides",.obj [])]
  [(Action.registerSession body).at 8 18 0 0,
    (Action.onMessage "update_drone" droneMessage).at 8 18 0 1,Action.enqueueMessage.at 8 18 0 1,
    (Action.worker (.ok ())).at 8 18 0 1,(Action.stubFires 0).at 8 18 0 5,
    (Action.stubPosted 0 .returned).at 8 18 0 6]

theorem stubLeavesLiveState : ¬ Covered (after deployment overheard) := by
  intro covered
  exact absurd (covered "flight-A" (by decide)) (by decide)

end FlightMonitor.LiveStates
