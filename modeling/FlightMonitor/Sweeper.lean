import FlightMonitor.Registry
import FlightMonitor.Tracker

/-! One sweep over the registry (`app/api/server.py`): the deadline and the stranded
detectors and the selection for force-close. The detectors treat every record on its own,
so a loop over the records is a map over them; `breaches` and `stranded` are what the skips
of the two scans leave. -/
namespace FlightMonitor
open PyValue IsoTime

def strandedSilenceThresholdSeconds : Int := 600
def forceCloseThresholdSeconds : Int := 86400

def parsedInstant : Option String → Option Int
  | some text => if text = "" then none else (fromisoformat text).map instant
  | none => none

def ActiveFlightSession.breaches (s : ActiveFlightSession) (now : UtcTime) : Bool :=
  s.exitDeadlineBreachedAt.isNone && s.exitRequestedAt.isNone &&
    match parsedInstant s.requestedExitTime with
    | some deadline => decide (deadline < now.instant)
    | none => false

def ActiveFlightSession.stampBreach (now : UtcTime) (s : ActiveFlightSession) :
    ActiveFlightSession :=
  if s.breaches now then { s with exitDeadlineBreachedAt := some (isoformat now.val) } else s

theorem stampBreachSession (now : UtcTime) (s : ActiveFlightSession) :
    (s.stampBreach now).flightSessionId = s.flightSessionId := by
  unfold ActiveFlightSession.stampBreach; split <;> rfl

def scanForDeadlineBreaches (reg : ActiveSessionRegistry) (now : UtcTime) :
    ActiveSessionRegistry × Nat :=
  (reg.mapSessions (ActiveFlightSession.stampBreach now) (stampBreachSession now),
    reg.snapshot.values.countP (fun s => s.breaches now))

def ActiveFlightSession.stranded (state : Option DroneState) (s : ActiveFlightSession)
    (now : UtcTime) : Bool :=
  s.strandedFlaggedAt.isNone && s.exitRequestedAt.isNone &&
    match state.bind (fun state => parsedInstant (some state.lastSeen)) with
    | some lastSeen =>
      decide (strandedSilenceThresholdSeconds * secondMicros ≤ now.instant - lastSeen)
    | none => false

def ActiveFlightSession.stampStranded (state : Option DroneState) (now : UtcTime)
    (s : ActiveFlightSession) : ActiveFlightSession :=
  if s.stranded state now then { s with strandedFlaggedAt := some (isoformat now.val) } else s

theorem stampStrandedSession (state : Option DroneState) (now : UtcTime)
    (s : ActiveFlightSession) : (s.stampStranded state now).flightSessionId = s.flightSessionId := by
  unfold ActiveFlightSession.stampStranded; split <;> rfl

def scanForStrandedSessions (reg : ActiveSessionRegistry) (tracker : DroneStateTracker)
    (now : UtcTime) : ActiveSessionRegistry × Nat :=
  (reg.mapSessions (fun s => s.stampStranded (tracker.get s.flightSessionId) now)
      (fun _ => stampStrandedSession ..),
    reg.snapshot.values.countP (fun s => s.stranded (tracker.get s.flightSessionId) now))

def ActiveFlightSession.earliestFlagDt (s : ActiveFlightSession) : Option Int :=
  match parsedInstant s.exitDeadlineBreachedAt,parsedInstant s.strandedFlaggedAt with
  | some breached,some stranded => some (min breached stranded)
  | some breached,none => some breached
  | none,some stranded => some stranded
  | none,none => none

def ActiveFlightSession.forceCloseDue (s : ActiveFlightSession) (now : UtcTime) : Bool :=
  s.exitRequestedAt.isNone &&
    match s.earliestFlagDt with
    | some flag => decide (forceCloseThresholdSeconds * secondMicros ≤ now.instant - flag)
    | none => false

def findForceCloseCandidates (reg : ActiveSessionRegistry) (now : UtcTime) :
    List ActiveFlightSession :=
  reg.snapshot.values.filter (fun s => s.forceCloseDue now)

theorem memCandidates {reg : ActiveSessionRegistry} {now : UtcTime} {s : ActiveFlightSession} :
    s ∈ findForceCloseCandidates reg now ↔
      reg.getByFlightSessionId s.flightSessionId = some s ∧ s.forceCloseDue now = true := by
  rw [findForceCloseCandidates,List.mem_filter,ActiveSessionRegistry.memSnapshot]

theorem parsedIsoformat (t : DateTime) : parsedInstant (some (isoformat t)) = some (instant t) := by
  simp [parsedInstant,isoformatNonempty,fromisoformatIsoformat]

end FlightMonitor
