import FlightMonitor.FlownIntervals
import FlightMonitor.SessionMachine

/-! The messages folded into each live state. A worker that stores a state adds an observation
to its history: the time of the message and, unless the distance raised first, its arm field.
In every run a live state summarises its history. -/
namespace FlightMonitor.Chronicle
open PyValue IsoTime FlownIntervals

def sighting (env : Env) (s : State) (e : Event) : Option (String × Observation) :=
  match e.action,s.queue with
  | .worker _,message :: _ =>
    match updateCall env s.registry message e.wall with
    | .error _ => none
    | .ok (f,u) =>
      match u.readings with
      | .error _ => none
      | .ok _ => some (f,folded env.haversine s.tracker f u e.wall)
  | _,_ => none

def note (env : Env) (f : String) (history : List Observation) (s : State) (e : Event) :
    List Observation :=
  if ((step env s e).tracker.get f).isSome then
    history ++ ((sighting env s e).filter (fun o => o.1 == f)).toList.map Prod.snd
  else []

def chronicle (env : Env) (f : String) (events : List Event) : List Observation :=
  Trace.history (step env) {} (note env f) [] events

theorem observingFolds {env : Env} {s : State} {e : Event} {state : DroneState}
    (made : observing env s e = some state) {history : List Observation}
    (known : Known (s.tracker.get state.flightSessionId) history) :
    ∃ o, sighting env s e = some (state.flightSessionId,o) ∧ Summarises state (history ++ [o]) := by
  obtain ⟨written,message,rest,u,r,acts,waiting,call,read,stored⟩ := observingCall made
  generalize state.flightSessionId = f at known call stored ⊢
  obtain ⟨state',updated,summary⟩ := updateFolds env.haversine known read e.wall
  obtain ⟨flag,kept⟩ := telemetryWorkerStores call written s.tracker updated
  cases Option.some.inj (kept.symm.trans stored)
  refine ⟨folded env.haversine s.tracker f u e.wall,by simp only [sighting,acts,waiting,call,read],?_⟩
  exact ⟨summary.first,summary.last,summary.detects.seen,summary.detects.last,
    summary.detects.segments⟩

theorem sightingObserves {env : Env} {s : State} {e : Event} {o : String × Observation}
    (seen : sighting env s e = some o) : ∃ state, observing env s e = some state ∧
      state.flightSessionId = o.1 := by
  unfold sighting at seen
  split at seen
  · rename_i written message rest acts waiting
    split at seen
    · cases seen
    · rename_i f u call
      split at seen
      · cases seen
      · rename_i r read
        cases seen
        exact callObserves acts waiting call read
  · cases seen

theorem stampExitSummarises {state : DroneState} {history : List Observation}
    (summary : Summarises state history) (requestedAt reason : String) :
    Summarises (state.stampExit requestedAt reason) history := by
  obtain ⟨at_,why,same⟩ := liveStamped requestedAt reason state
  rw [same]
  exact ⟨summary.first,summary.last,summary.detects.seen,summary.detects.last,
    summary.detects.segments⟩

theorem unsightedSummary {env : Env} {s : State} {e : Event} {f : String}
    {history : List Observation} (known : Known (s.tracker.get f) history)
    (unseen : ∀ o, sighting env s e ≠ some (f,o)) {state : DroneState}
    (live : (step env s e).tracker.get f = some state) : Summarises state history := by
  have known : Known (s.view f).live history := known
  change ((step env s e).view f).live = some state at live
  have moved := stepMoved env s e f
  rw [stepView] at live
  generalize moves env s e f = ms at moved live
  cases moved with
  | idle | stubReported | registered | stubReleased | scanned => exact known.summary state live
  | exitAccepted made own active =>
    obtain ⟨old,found,rfl⟩ := Option.map_eq_some_iff.mp live
    exact stampExitSummarises (known.summary old found) ..
  | observed made own active at_ why =>
    subst f
    obtain ⟨o,seen,-⟩ := observingFolds made known
    exact absurd seen (unseen o)
  | scannedFinalized | finalized => cases live

theorem stepKnown {env : Env} {s : State} {f : String} {history : List Observation}
    (known : Known (s.tracker.get f) history) (e : Event) :
    Known ((step env s e).tracker.get f) (note env f history s e) := by
  refine ⟨fun gone => by simp [note,gone],fun state live => ?_⟩
  simp only [note,live,Option.isSome_some,if_true]
  by_cases seen : ∃ o, sighting env s e = some (f,o)
  · obtain ⟨o,seen⟩ := seen
    obtain ⟨state',made,own⟩ := sightingObserves seen
    change ((step env s e).view f).live = some state at live
    rw [stepView,observingMoves made own] at live
    cases Option.some.inj live
    have own : state.flightSessionId = f := own
    subst f
    obtain ⟨o',seen',summary⟩ := observingFolds made known
    cases seen.symm.trans seen'
    simpa [seen,Option.filter] using summary
  · have unseen : ∀ o, sighting env s e ≠ some (f,o) := fun o same => seen ⟨o,same⟩
    have other : (sighting env s e).filter (fun o => o.1 == f) = none := by
      rw [Option.filter_eq_none_iff]
      intro o same own
      exact unseen o.2 (by rw [same,← beq_iff_eq.mp own])
    simpa [other] using unsightedSummary known unseen live

theorem chronicleKnown (env : Env) (f : String) (events : List Event) :
    Known ((after env events).tracker.get f) (chronicle env f events) := by
  induction events using List.reverseRecOn with
  | nil => exact ⟨fun _ => rfl,fun state live => by simp at live⟩
  | append_singleton events e ih =>
    rw [chronicle,Trace.historyConcat,afterConcat]
    exact stepKnown ih e

end FlightMonitor.Chronicle
