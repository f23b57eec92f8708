import FlightMonitor.SessionMachine

/-! The three stamps of a session over one stay in the registry, a stretch of steps that all
leave it registered. Each writer looks before it writes; a registration of an active id
replaces the whole record, so it must find one without stamps. -/
namespace FlightMonitor.Stamps
open PyValue IsoTime

def stamps : List (ActiveFlightSession → Option String) :=
  [ActiveFlightSession.exitRequestedAt,ActiveFlightSession.exitDeadlineBreachedAt,
    ActiveFlightSession.strandedFlaggedAt]

def Kept (old new : ActiveFlightSession) : Prop :=
  ∀ stamp ∈ stamps, ∀ t, stamp old = some t → stamp new = some t

def Bare (s : ActiveFlightSession) : Prop := ∀ stamp ∈ stamps, stamp s = none

def record (env : Env) (f : String) (events : List Event) : Option ActiveFlightSession :=
  (after env events).registry.getByFlightSessionId f

def WriteOnce (env : Env) (f : String) (events : List Event) : Prop :=
  ∀ before stay, before ++ stay <+: events →
    (∀ part, part <+: stay → (record env f (before ++ part)).isSome) →
    ∀ old new, record env f before = some old → record env f (before ++ stay) = some new →
      Kept old new

def ReplacesBare (env : Env) (f : String) (before : List Event) (e : Event) : Prop :=
  ∀ session old, registering (after env before) e = some session → session.flightSessionId = f →
    record env f before = some old → Bare old

theorem keptRefl (s : ActiveFlightSession) : Kept s s := fun _ _ _ same => same

theorem keptTrans {a b c : ActiveFlightSession} (first : Kept a b) (second : Kept b c) : Kept a c :=
  fun stamp mem t same => second stamp mem t (first stamp mem t same)

theorem stampExitKept (requestedAt : String) (s : ActiveFlightSession) :
    Kept s (s.stampExit requestedAt) := by
  unfold ActiveFlightSession.stampExit Kept stamps
  split
  · rename_i unset; simp [unset]
  · simp

theorem stampBreachKept (now : UtcTime) (s : ActiveFlightSession) : Kept s (s.stampBreach now) := by
  unfold ActiveFlightSession.stampBreach
  split
  · rename_i due
    have unset : s.exitDeadlineBreachedAt = none := by
      simp only [ActiveFlightSession.breaches,Bool.and_eq_true,Option.isNone_iff_eq_none] at due
      exact due.1.1
    simp [Kept,stamps,unset]
  · exact keptRefl s

theorem stampStrandedKept (live : Option DroneState) (now : UtcTime) (s : ActiveFlightSession) :
    Kept s (s.stampStranded live now) := by
  unfold ActiveFlightSession.stampStranded
  split
  · rename_i due
    have unset : s.strandedFlaggedAt = none := by
      simp only [ActiveFlightSession.stranded,Bool.and_eq_true,Option.isNone_iff_eq_none] at due
      exact due.1.1
    simp [Kept,stamps,unset]
  · exact keptRefl s

theorem scanKept (live : Option DroneState) (now strandedNow : UtcTime) (s : ActiveFlightSession) :
    Kept s (s.scan live now strandedNow) :=
  keptTrans (stampBreachKept now s) (stampStrandedKept live strandedNow _)

theorem registeringBare {s : State} {e : Event} {session : ActiveFlightSession}
    (made : registering s e = some session) : Bare session := by
  obtain ⟨_,p,-,-,rfl⟩ := registeringDecoded made
  simp [Bare,stamps,RegisterSessionPayload.session]

theorem bareOfKept {old new : ActiveFlightSession} (kept : Kept old new) (bare : Bare new) :
    Bare old := by
  intro stamp mem
  cases same : stamp old with
  | none => rfl
  | some t => exact absurd ((kept stamp mem t same).symm.trans (bare stamp mem)) (by simp)

theorem keptOfBare {old : ActiveFlightSession} (bare : Bare old) (new : ActiveFlightSession) :
    Kept old new := by
  intro stamp mem t same
  rw [bare stamp mem] at same; cases same

theorem stepKept {env : Env} {s : State} {e : Event} {f : String} {old new : ActiveFlightSession}
    (found : (s.view f).record = some old) (left : ((step env s e).view f).record = some new) :
    Kept old new ↔ ∀ session, registering s e = some session → session.flightSessionId = f →
      Bare old := by
  have moved := stepMoved env s e f
  constructor
  · intro kept session made own
    have alone : moves env s e f = [.registered session] := registeringMoves env made own
    rw [stepView,alone] at left
    cases left
    exact bareOfKept kept (registeringBare made)
  · intro bare
    rw [stepView] at left
    generalize moves env s e f = ms at moved left
    cases moved with
    | idle | observed | stubReported =>
      cases found.symm.trans left
      exact keptRefl old
    | registered made own => exact keptOfBare (bare _ made own) new
    | exitAccepted made own active =>
      simp only [List.foldl_cons,List.foldl_nil,Move.apply,found,Option.map_some] at left
      cases left
      exact stampExitKept _ old
    | scanned made spared =>
      simp only [List.foldl_cons,List.foldl_nil,Move.apply,found,Option.map_some] at left
      cases left
      exact scanKept _ _ _ old
    | stubReleased | scannedFinalized | finalized => cases left

theorem prefixOfOne {α : Type} {part : List α} {a : α} (within : part <+: [a]) :
    part = [] ∨ part = [a] := by
  cases part with
  | nil => exact .inl rfl
  | cons x rest =>
    obtain ⟨rfl,nothing⟩ := List.cons_prefix_cons.mp within
    exact .inr (by rw [List.prefix_nil.mp nothing])

theorem writeOnceSteps (env : Env) (f : String) (events : List Event) :
    WriteOnce env f events ↔ Trace.Meets (fun before e => ∀ old new, record env f before = some old →
      record env f (before ++ [e]) = some new → Kept old new) events := by
  constructor
  · intro once before e reached old new found left
    refine once before [e] reached (fun part stays => ?_) old new found left
    rcases prefixOfOne stays with rfl | rfl
    · rw [List.append_nil,found]; rfl
    · rw [left]; rfl
  · intro steps before stay
    induction stay using List.reverseRecOn with
    | nil =>
      intro reached present old new found left
      rw [List.append_nil] at left
      cases found.symm.trans left
      exact keptRefl old
    | append_singleton stay e ih =>
      intro reached present old new found left
      have shorter : stay <+: stay ++ [e] := List.prefix_append ..
      obtain ⟨mid,middle⟩ := Option.isSome_iff_exists.mp (present stay shorter)
      rw [← List.append_assoc] at reached left
      have early := ih ((List.prefix_append ..).trans reached)
        (fun part stays => present part (stays.trans shorter)) old mid found middle
      exact keptTrans early (steps (before ++ stay) e reached mid new middle left)

theorem writeOnceIffReplacesBare (env : Env) (f : String) (events : List Event) :
    WriteOnce env f events ↔ Trace.Meets (ReplacesBare env f) events := by
  rw [writeOnceSteps]
  refine forall_congr' (fun before => forall_congr' (fun e => imp_congr_right (fun _ => ?_)))
  simp only [ReplacesBare,record,afterConcat]
  constructor
  · intro kept session old made own found
    have alone : moves env (after env before) e f = [.registered session] :=
      registeringMoves env made own
    have left : ((step env (after env before) e).view f).record = some session := by
      rw [stepView,alone]; rfl
    exact (stepKept found left).mp (kept old session found left) session made own
  · intro bare old new found left
    exact (stepKept found left).mpr (fun session made own => bare session old made own found)

def registration : Json :=
  .obj [("flight_session_id",.str "flight-A"),
    ("requested_exit_time",.str "2026-03-09T18:30:00+00:00")]

def flagged : List Event :=
  [(Action.registerSession registration).at 8 18 0 0,
    (Action.sweep (march 8 18 31 0) (march 8 18 31 0)).at 8 18 31 0]

theorem redeliveryClearsStamp : ¬ WriteOnce deployment "flight-A"
    (flagged ++ [(Action.registerSession registration).at 8 18 32 0]) := by
  intro once
  obtain ⟨old,found,stamped⟩ := Option.bind_eq_some_iff.mp
    (show (record deployment "flight-A" flagged).bind ActiveFlightSession.exitDeadlineBreachedAt =
      some "2026-03-09T18:31:00+00:00" by decide)
  have present : (record deployment "flight-A"
      (flagged ++ [(Action.registerSession registration).at 8 18 32 0])).isSome := by decide
  obtain ⟨new,left⟩ := Option.isSome_iff_exists.mp present
  have kept := once flagged [(Action.registerSession registration).at 8 18 32 0]
    (List.prefix_refl _) (fun part stays => ?_) old new found left
    ActiveFlightSession.exitDeadlineBreachedAt (by simp [stamps]) _ stamped
  · have cleared : (record deployment "flight-A"
        (flagged ++ [(Action.registerSession registration).at 8 18 32 0])).bind
          ActiveFlightSession.exitDeadlineBreachedAt = none := by decide
    rw [left] at cleared
    exact absurd (kept.symm.trans cleared) (by simp)
  · rcases prefixOfOne stays with rfl | rfl
    · rw [List.append_nil,found]; rfl
    · exact present

end FlightMonitor.Stamps
