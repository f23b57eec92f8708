import FlightMonitor.ExitOwners
import FlightMonitor.Reporting

/-! How a session leaves the registry. Whoever takes it out, the grace task, the sweeper or a stub
task, a report for it has been handed to the POST, one for each departure; and an accepted
exit-request keeps its task until the session has left. -/
namespace FlightMonitor.Departures
open PyValue IsoTime Reporting ExitOwners

def Leaves (env : Env) (f : String) (s : State) (e : Event) : Prop :=
  s.registry.getByFlightSessionId f ≠ none ∧
    (step env s e).registry.getByFlightSessionId f = none

instance (env : Env) (f : String) (s : State) (e : Event) : Decidable (Leaves env f s e) :=
  decidable_of_iff ((s.registry.getByFlightSessionId f).isSome = true ∧
    ((step env s e).registry.getByFlightSessionId f).isNone = true)
    (by simp [Leaves,Option.isSome_iff_ne_none])

def departures (env : Env) (f : String) (events : List Event) : Nat :=
  Trace.count (step env) {} (Leaves env f) events

structure Paid (env : Env) (f : String) (events : List Event) : Prop where
  reported : departures env f events + ((after env events).view f).unreleased ≤ reports env f events
  entered : entries env f events = departures env f events +
    ((after env events).registry.getByFlightSessionId f).isSome.toNat

/-- What has become of an exit-request that was accepted after `before`: its grace task still
waits for the session, which it can close by steps of its own, or a report was handed to the POST
since. A stub task may have handed its own over before the request came, and not released the
session yet. -/
inductive Answered (env : Env) (f : String) (before since : List Event) : Prop where
  | awaited (i : Nat) (active : ¬ (after env since).Gone f) (owns : Owns (after env since) f i)
      (closes : Closes env (after env since) f i)
  | reported (more : reports env f before < reports env f since)
  | early (unreleased : 0 < ((after env before).view f).unreleased)

theorem movesPay {v : SessionView} {ms : List Move} {env : Env} {s : State} {e : Event} {f : String}
    (moved : Moved env s e f ms) (releasing : stubReleasing s e = some f → 0 < v.unreleased) :
    (if v.record ≠ none ∧ (ms.foldl Move.apply v).record = none then 1 else 0) +
        (ms.foldl Move.apply v).unreleased + v.reports.length ≤
      v.unreleased + (ms.foldl Move.apply v).reports.length := by
  have paid : ∀ now (record : Option ActiveFlightSession), record.isSome = v.record.isSome →
      v.record ≠ none → (finalReport v.live record now).toList.length = 1 := by
    intro now record same present
    rw [finalReportLength,same]
    exact if_pos (.inl (Option.isSome_iff_ne_none.mpr present))
  cases moved with
  | idle => simp
  | registered | observed => simp [Move.apply]
  | exitAccepted | scanned => simp [Move.apply]
  | @stubReported payload made own =>
    have stays : ¬ (v.record ≠ none ∧ ([.stubReported payload].foldl Move.apply v).record = none) :=
      fun leaves => leaves.1 leaves.2
    rw [if_neg stays]
    simp only [List.foldl_cons,List.foldl_nil,Move.apply,List.length_append,List.length_singleton]
    omega
  | stubReleased made =>
    have one := releasing made
    simp only [List.foldl_cons,List.foldl_nil,Move.apply,and_true]
    split <;> omega
  | @scannedFinalized t made taken =>
    simp only [List.foldl_cons,List.foldl_nil,Move.apply,and_true,List.length_append]
    split
    · rename_i present
      rw [paid _ _ (by simp) present]
      omega
    · omega
  | finalized calm taken =>
    simp only [List.foldl_cons,List.foldl_nil,Move.apply,and_true,List.length_append]
    split
    · rename_i present
      rw [paid _ _ rfl present]
      omega
    · omega

theorem stepPays (env : Env) (f : String) (s : State) (e : Event) :
    (if Leaves env f s e then 1 else 0) + ((step env s e).view f).unreleased +
        (s.view f).reports.length ≤
      (s.view f).unreleased + ((step env s e).view f).reports.length := by
  have paid := movesPay (v := s.view f) (stepMoved env s e f) releasingUnreleased
  rw [← stepView] at paid
  by_cases leaves : Leaves env f s e
  · rw [if_pos leaves]
    rwa [if_pos (show (s.view f).record ≠ none ∧ ((step env s e).view f).record = none from leaves)]
      at paid
  · rw [if_neg leaves]
    rwa [if_neg (show ¬ ((s.view f).record ≠ none ∧ ((step env s e).view f).record = none) from leaves)]
      at paid

theorem departuresConcat (env : Env) (f : String) (events : List Event) (e : Event) :
    departures env f (events ++ [e]) =
      departures env f events + if Leaves env f (after env events) e then 1 else 0 := by
  rw [departures,Trace.countConcat]
  change (if Leaves env f (after env events) e then _ else _) = _
  split <;> rfl

theorem entriesConcat (env : Env) (f : String) (events : List Event) (e : Event) :
    entries env f (events ++ [e]) =
      entries env f events + if Enters env f (after env events) e then 1 else 0 := by
  rw [entries,Trace.countConcat]
  change (if Enters env f (after env events) e then _ else _) = _
  split <;> rfl

theorem crossings (env : Env) (f : String) (s : State) (e : Event) :
    (s.registry.getByFlightSessionId f).isSome.toNat + (if Enters env f s e then 1 else 0) =
      ((step env s e).registry.getByFlightSessionId f).isSome.toNat +
        if Leaves env f s e then 1 else 0 := by
  rcases here : s.registry.getByFlightSessionId f with _ | session <;>
    rcases there : (step env s e).registry.getByFlightSessionId f with _ | session' <;>
    simp [Enters,Leaves,here,there]

theorem departuresReported (env : Env) (f : String) (events : List Event) :
    departures env f events + ((after env events).view f).unreleased ≤ reports env f events := by
  induction events using List.reverseRecOn with
  | nil => exact Nat.le_refl 0
  | append_singleton events e ih =>
    have pays := stepPays env f (after env events) e
    rw [reportsView] at ih ⊢
    rw [departuresConcat,afterConcat]
    omega

theorem entriesLeft (env : Env) (f : String) (events : List Event) :
    entries env f events = departures env f events +
      ((after env events).registry.getByFlightSessionId f).isSome.toNat := by
  induction events using List.reverseRecOn with
  | nil => rfl
  | append_singleton events e ih =>
    have crossed := crossings env f (after env events) e
    rw [departuresConcat,entriesConcat,afterConcat]
    omega

theorem everyDeparturePaid (env : Env) (f : String) (events : List Event) : Paid env f events :=
  ⟨departuresReported env f events,entriesLeft env f events⟩

theorem reportsSince (env : Env) (f : String) (before later : List Event) :
    departures env f (before ++ later) + ((after env (before ++ later)).view f).unreleased +
        reports env f before ≤
      departures env f before + ((after env before).view f).unreleased +
        reports env f (before ++ later) := by
  induction later using List.reverseRecOn with
  | nil => simp
  | append_singleton later e ih =>
    have pays := stepPays env f (after env (before ++ later)) e
    rw [reportsView] at ih ⊢
    rw [← List.append_assoc,reportsView,departuresConcat,afterConcat]
    rw [reportsView] at ih
    omega

theorem acceptedActive (env : Env) {s : State} {e : Event} {p : ExitRequestPayload}
    (made : accepting s e = some p) : ¬ (step env s e).Gone p.flightSessionId := by
  obtain ⟨alone,active⟩ := acceptingMoves env made rfl
  change ((step env s e).view p.flightSessionId).record ≠ none
  rw [stepView,alone]
  simpa [Move.apply,Option.ne_none_iff_isSome] using active

theorem departuresOnward (env : Env) (f : String) (before later : List Event) :
    departures env f before ≤ departures env f (before ++ later) := by
  induction later using List.reverseRecOn with
  | nil => simp
  | append_singleton later e ih =>
    rw [← List.append_assoc,departuresConcat]
    omega

theorem ownedOrLeft {env : Env} {f : String} {before : List Event} {i : Nat}
    (owns : Owns (after env before) f i) (active : ¬ (after env before).Gone f)
    (later : List Event) :
    ¬ (after env (before ++ later)).Gone f ∧ Owns (after env (before ++ later)) f i ∨
      departures env f before < departures env f (before ++ later) := by
  induction later using List.reverseRecOn with
  | nil => exact .inl (by simpa using ⟨active,owns⟩)
  | append_singleton later e ih =>
    rw [← List.append_assoc,departuresConcat,afterConcat]
    rcases ih with ⟨active,owns⟩ | left
    · by_cases stays : (step env (after env (before ++ later)) e).Gone f
      · rw [if_pos ⟨active,stays⟩]
        exact .inr (Nat.lt_succ_of_le (departuresOnward env f before later))
      · exact .inl ⟨stays,ownsOnward owns stays⟩
    · exact .inr (by omega)

theorem acceptedAnswered (env : Env) (before : List Event) (e : Event) (p : ExitRequestPayload)
    (made : accepting (after env before) e = some p) (later : List Event) :
    Answered env p.flightSessionId before (before ++ [e] ++ later) := by
  obtain ⟨i,owns⟩ := @acceptedOwns env _ _ _ made
  have active := acceptedActive env made
  rw [← afterConcat] at owns active
  rcases ownedOrLeft owns active later with ⟨active,owns⟩ | left
  · exact .awaited i active owns (ownerCloses env owns active)
  · have onward := departuresOnward env p.flightSessionId before [e]
    have paid := reportsSince env p.flightSessionId before ([e] ++ later)
    rw [← List.append_assoc] at paid
    by_cases settled : ((after env before).view p.flightSessionId).unreleased = 0
    · exact .reported (by omega)
    · exact .early (Nat.pos_of_ne_zero settled)

def leaving : List Event :=
  [(Action.registerSession (.obj [("flight_session_id",.str "flight-A")])).at 8 18 0 0]

theorem leavingAnswered : Answered deployment "flight-A" leaving
    (leaving ++ [(Action.exitRequest (.obj [("flight_session_id",.str "flight-A")])).at 8 18 10 0] ++
      [(Action.graceStarts 0).at 8 18 10 0,(Action.graceChecks 0).at 8 18 16 1]) :=
  acceptedAnswered deployment leaving _ ⟨"flight-A",none,none⟩ (by rfl) _

end FlightMonitor.Departures
