import FlightMonitor.SessionMachine

/-! The exit intent of a session and the EXIT_REQUEST event of its report. The intent is
stamped on the record and on the live state; the report reads the live state only. The
intent is the first exit request accepted since the session last entered the registry. -/
namespace FlightMonitor.ExitIntent
open PyValue IsoTime

abbrev Intent := String × String

def intentOf (p : ExitRequestPayload) (now : UtcTime) : Intent :=
  (p.stamp now,reasonOr p.reason)

def accepted (f : String) (s : State) (e : Event) : Option Intent :=
  match accepting s e with
  | some p => if p.flightSessionId = f then some (intentOf p e.wall) else none
  | none => none

def noteIntent (env : Env) (f : String) (intent : Option Intent) (s : State) (e : Event) :
    Option Intent :=
  if Enters env f s e then none else intent.or (accepted f s e)

def firstIntent (env : Env) (f : String) (events : List Event) : Option Intent :=
  Trace.history (step env) {} (noteIntent env f) none events

def posted (env : Env) (f : String) (s : State) (e : Event) : List FinalizationPayload :=
  ((step env s e).view f).reports.drop (s.view f).reports.length

def exitRequestEvent : PayloadEvent → Option Intent
  | .exitRequest timeUtc reason => some (timeUtc,reason)
  | _ => none

def Carries (now : UtcTime) (intent : Option Intent) (payload : FinalizationPayload) : Prop :=
  payload.events.filterMap exitRequestEvent =
    (intent.map (fun i => (toUtcZ now (some i.1),i.2))).toList

def ReportsIntent (env : Env) (f : String) (before : List Event) (e : Event) : Prop :=
  stubReporting (after env before) e = none →
    ∀ payload ∈ posted env f (after env before) e,
      Carries e.finalizeClock (firstIntent env f before) payload

/-- The first exit request accepted for a session finds its live state, and a session enters
the registry without a live state that carries an exit stamp. -/
structure Attended (env : Env) (f : String) (before : List Event) (e : Event) : Prop where
  observed : ∀ i, accepted f (after env before) e = some i → firstIntent env f before = none →
    ((after env before).tracker.get f).isSome
  clean : Enters env f (after env before) e → ∀ state, (after env before).tracker.get f = some state →
    state.exitRequestedAt = none

instance (env : Env) (f : String) (before : List Event) (e : Event) :
    Decidable (ReportsIntent env f before e) :=
  inferInstanceAs (Decidable (stubReporting (after env before) e = none →
    ∀ payload ∈ posted env f (after env before) e,
      payload.events.filterMap exitRequestEvent =
        ((firstIntent env f before).map (fun i => (toUtcZ e.finalizeClock (some i.1),i.2))).toList))

instance (env : Env) (f : String) (before : List Event) (e : Event) :
    Decidable (Attended env f before e) :=
  decidable_of_iff
    (((accepted f (after env before) e).isSome = true → firstIntent env f before = none →
        ((after env before).tracker.get f).isSome = true) ∧
      (Enters env f (after env before) e →
        ((after env before).tracker.get f).bind DroneState.exitRequestedAt = none))
    ⟨fun ⟨observed,clean⟩ => ⟨fun i made => observed (by simp [made]),
        fun enters state live => by simpa [live] using clean enters⟩,
      fun ⟨observed,clean⟩ => ⟨fun made => observed _ (Option.some_get made).symm,
        fun enters => Option.bind_eq_none_iff.mpr (clean enters)⟩⟩

structure Mirrored (v : SessionView) (intent : Option Intent) : Prop where
  stamped : ∀ state, v.live = some state → state.exitRequestedAt = intent.map Prod.fst
  reason : ∀ state i, v.live = some state → intent = some i → reasonOr state.exitReason = i.2
  live : v.record.isSome → intent.isSome → v.live.isSome

theorem reasonOrTwice (reason : Option String) : reasonOr (some (reasonOr reason)) = reasonOr reason := by
  cases reason with
  | none => decide
  | some text =>
    by_cases empty : text = ""
    · subst text; decide
    · simp [reasonOr,empty]

theorem segmentEventsSilent (state : DroneState) (now : UtcTime) :
    (segmentEvents state now).filterMap exitRequestEvent = [] := by
  unfold segmentEvents
  split
  · rw [List.filterMap_map]
    exact List.filterMap_eq_nil_iff.mpr (fun _ _ => rfl)
  · rfl

theorem builtCarries {state : DroneState} {intent : Option Intent}
    (stamped : state.exitRequestedAt = intent.map Prod.fst)
    (reason : ∀ i, intent = some i → reasonOr state.exitReason = i.2) (now : UtcTime) :
    Carries now intent (buildFinalizationPayload state now) := by
  simp only [Carries,buildFinalizationPayload,List.filterMap_append,segmentEventsSilent,
    List.nil_append,exitEvents,stamped]
  cases intent with
  | none => rfl
  | some i => simp [exitRequestEvent,reason i rfl]

theorem acceptedMoves (env : Env) {f : String} {s : State} {e : Event} {i : Intent}
    (made : accepted f s e = some i) : moves env s e f = [.exitAccepted i.1 i.2] ∧
      (s.view f).record.isSome ∧ reasonOr (some i.2) = i.2 := by
  unfold accepted at made
  split at made
  · rename_i p accepts
    split at made
    · cases made
      obtain ⟨alone,active⟩ := acceptingMoves env accepts (by assumption)
      exact ⟨alone,active,reasonOrTwice p.reason⟩
    · cases made
  · cases made

theorem acceptMirrored {v : SessionView} {intent : Option Intent} {i : Intent}
    (mirrored : Mirrored v intent) (observed : intent = none → v.live.isSome)
    (plain : reasonOr (some i.2) = i.2) :
    Mirrored ((Move.exitAccepted i.1 i.2).apply v) (intent.or (some i)) := by
  cases known : intent with
  | some first =>
    have stays : v.live.map (DroneState.stampExit i.1 i.2) = v.live := by
      cases live : v.live with
      | none => rfl
      | some state =>
        have set := mirrored.stamped state live
        rw [known] at set
        simp [DroneState.stampExit,set]
    subst intent
    exact ⟨by simpa [Move.apply,stays] using mirrored.stamped,
      by simpa [Move.apply,stays] using mirrored.reason,
      by simpa [Move.apply,stays] using mirrored.live⟩
  | none =>
    obtain ⟨state,live⟩ := Option.isSome_iff_exists.mp (observed known)
    have unset := mirrored.stamped state live
    rw [known] at unset
    have stamped : state.stampExit i.1 i.2 =
        { state with exitRequestedAt := some i.1, exitReason := some i.2 } := by
      simp [DroneState.stampExit,unset]
    exact ⟨by simp [Move.apply,live,stamped],by simp [Move.apply,live,stamped,plain],
      by simp [Move.apply,live]⟩

theorem observedMirrored {v : SessionView} {intent : Option Intent} (mirrored : Mirrored v intent)
    {state : DroneState} (active : v.record.isSome)
    (at_ : state.exitRequestedAt = v.live.bind DroneState.exitRequestedAt)
    (why : state.exitReason = v.live.bind DroneState.exitReason) :
    Mirrored { v with live := some state } intent := by
  obtain ⟨stamped,reason,lives⟩ := mirrored
  cases found : v.live with
  | some old =>
    rw [found] at at_ why
    have first := stamped old found
    have because := reason old
    refine ⟨?_,?_,by simp⟩
    · simpa [at_] using first
    · intro state' i same known
      cases same
      rw [why]
      exact because i found known
  | none =>
    have unknown : intent = none := by
      cases known : intent with
      | none => rfl
      | some i =>
        have some := lives active (by simp [known])
        rw [found] at some; cases some
    subst intent
    rw [found] at at_
    exact ⟨by simpa using at_,by simp,by simp⟩

theorem registeredMirrored {v : SessionView} {intent : Option Intent} (mirrored : Mirrored v intent)
    (clean : v.record = none → ∀ state, v.live = some state → state.exitRequestedAt = none)
    (session : ActiveFlightSession) : Mirrored { v with record := some session }
      (if v.record = none then none else intent) := by
  obtain ⟨stamped,reason,lives⟩ := mirrored
  cases present : v.record with
  | some old => exact ⟨stamped,reason,fun _ => lives (by simp [present])⟩
  | none => exact ⟨clean present,by simp,by simp⟩

theorem stepMirrored {env : Env} {f : String} {s : State} {e : Event} {intent : Option Intent}
    (mirrored : Mirrored (s.view f) intent)
    (observed : ∀ i, accepted f s e = some i → intent = none → (s.tracker.get f).isSome)
    (clean : Enters env f s e → ∀ state, s.tracker.get f = some state →
      state.exitRequestedAt = none) :
    Mirrored ((step env s e).view f) (noteIntent env f intent s e) := by
  have live : s.tracker.get f = (s.view f).live := rfl
  rw [live] at observed clean
  rw [entersView,stepView] at clean
  simp only [noteIntent,entersView,stepView]
  cases made : accepted f s e with
  | some i =>
    obtain ⟨alone,active,plain⟩ := acceptedMoves env made
    rw [alone,if_neg (fun h => by simp [h.1] at active)]
    exact acceptMirrored mirrored (observed i made) plain
  | none =>
    have moved := stepMoved env s e f
    have refused : ∀ p, accepting s e = some p → p.flightSessionId ≠ f := by
      intro p accepts own
      simp [accepted,accepts,own] at made
    rw [Option.or_none]
    generalize moves env s e f = ms at moved clean ⊢
    have claimed := mirrored
    obtain ⟨stamped,reason,lives⟩ := mirrored
    cases moved with
    | exitAccepted accepts own active => exact absurd own (refused _ accepts)
    | idle | stubReported =>
      rw [if_neg (fun h => h.2 h.1)]
      exact ⟨stamped,reason,lives⟩
    | @registered session registers own =>
      have stored := registeredMirrored claimed
        (fun absent => clean ⟨absent,by simp [Move.apply]⟩) session
      by_cases absent : (s.view f).record = none
      · rw [if_pos ⟨absent,by simp [Move.apply]⟩]
        rwa [if_pos absent] at stored
      · rw [if_neg (fun h => absent h.1)]
        rwa [if_neg absent] at stored
    | @observed state record observes own active at_ why =>
      rw [if_neg (fun h => h.2 h.1)]
      exact observedMirrored claimed (by simp [active]) at_ why
    | stubReleased releases =>
      rw [if_neg (by simp [Move.apply])]
      exact ⟨stamped,reason,by simp [Move.apply]⟩
    | scanned scans spared =>
      rw [if_neg (fun h => h.2 (by simp [Move.apply,h.1]))]
      exact ⟨stamped,reason,by simpa [Move.apply] using lives⟩
    | scannedFinalized | finalized =>
      rw [if_neg (by simp [Move.apply])]
      exact ⟨by simp [Move.apply],by simp [Move.apply],by simp [Move.apply]⟩

theorem finalCarries {v : SessionView} {intent : Option Intent} (mirrored : Mirrored v intent)
    {record : Option ActiveFlightSession} (same : record.isSome = v.record.isSome) (now : UtcTime) :
    ∀ payload ∈ (finalReport v.live record now).toList, Carries now intent payload := by
  intro payload mem
  have built := Option.mem_toList.mp mem
  cases live : v.live with
  | some state =>
    rw [live] at built
    cases built
    exact builtCarries (mirrored.stamped state live) (fun i => mirrored.reason state i live) now
  | none =>
    rw [live] at built
    cases record with
    | none => cases built
    | some session =>
      cases built
      have unknown : intent = none := by
        cases known : intent with
        | none => rfl
        | some i =>
          have some := mirrored.live (by rw [← same]; rfl) (by simp [known])
          rw [live] at some; cases some
      subst intent
      exact builtCarries rfl (by simp) now

theorem postedCarries {env : Env} {f : String} {s : State} {e : Event} {intent : Option Intent}
    (mirrored : Mirrored (s.view f) intent) (canonical : stubReporting s e = none) :
    ∀ payload ∈ posted env f s e, Carries e.finalizeClock intent payload := by
  have moved := stepMoved env s e f
  unfold posted
  rw [stepView]
  generalize moves env s e f = ms at moved ⊢
  cases moved with
  | stubReported reports own => rw [canonical] at reports; cases reports
  | @scannedFinalized t scans taken =>
    have same : ((s.view f).record.map (ActiveFlightSession.scan (s.view f).live t.1 t.2)).isSome =
        (s.view f).record.isSome := by simp
    simpa [Move.apply] using finalCarries mirrored same e.finalizeClock
  | finalized calm taken =>
    simpa [Move.apply] using finalCarries mirrored rfl e.finalizeClock
  | _ => simp [Move.apply]

theorem attendedReportsIntent (env : Env) (f : String) (events : List Event)
    (attended : Trace.Meets (Attended env f) events) :
    Trace.Meets (ReportsIntent env f) events := by
  intro before e reached
  have early : Trace.Meets (Attended env f) before :=
    fun first x inside => attended first x (inside.trans ((List.prefix_append ..).trans reached))
  have mirrored : Mirrored ((after env before).view f) (firstIntent env f before) := by
    refine Trace.guardedInvariant (fun events =>
      Mirrored ((after env events).view f) (firstIntent env f events)) ?_ ?_ early
    · exact ⟨by simp [State.view],by simp [State.view],by simp [State.view]⟩
    · intro events e mirrored attended
      rw [afterConcat,firstIntent,Trace.historyConcat]
      exact stepMirrored mirrored attended.observed attended.clean
  exact postedCarries mirrored

def registration : Json :=
  .obj [("flight_session_id",.str "flight-A"),("drone_id",.str "drone-1")]

def exitBody : Json :=
  .obj [("flight_session_id",.str "flight-A"),("reason",.str "ZONE_EXIT_DETECTED"),
    ("requested_at",.str "2026-03-09T18:10:00Z")]

def transmission (minute : Nat) : List Event :=
  [(Action.onMessage "update_drone" droneMessage).at 8 18 minute 0,
    Action.enqueueMessage.at 8 18 minute 0,(Action.worker (.ok ())).at 8 18 minute 0]

def departure : List Event :=
  [(Action.exitRequest exitBody).at 8 18 10 0,(Action.graceStarts 0).at 8 18 10 0,
    (Action.graceChecks 0).at 8 18 10 30,(Action.graceChecks 0).at 8 18 15 30]

def observedFlight : List Event :=
  (Action.registerSession registration).at 8 18 0 0 :: transmission 5 ++ departure

theorem observedFlightReportsIntent :
    Trace.Meets (ReportsIntent deployment "flight-A") observedFlight :=
  attendedReportsIntent deployment "flight-A" observedFlight (by decide +kernel)

theorem silentFlightLosesIntent : ¬ Trace.Meets (ReportsIntent deployment "flight-A")
    ((Action.registerSession registration).at 8 18 0 0 :: departure) := by
  decide +kernel

end FlightMonitor.ExitIntent
