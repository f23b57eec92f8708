import FlightMonitor.Backstop
import FlightMonitor.Undelivered

/-! The two sweeper flags of a record over a whole run: each is the clock reading of the first
scan that found the record in the state it looks for, and neither depends on any other record. -/
namespace FlightMonitor.FirstSweep
open PyValue IsoTime Undelivered

def overdue (r : ActiveFlightSession) (now : UtcTime) : Bool :=
  r.exitRequestedAt.isNone && match parsedInstant r.requestedExitTime with
    | some deadline => decide (deadline < now.instant)
    | none => false

def silent (live : Option DroneState) (r : ActiveFlightSession) (now : UtcTime) : Bool :=
  r.exitRequestedAt.isNone &&
    match live.bind (fun state => parsedInstant (some state.lastSeen)) with
    | some lastSeen => decide (strandedSilenceThresholdSeconds * secondMicros ≤ now.instant - lastSeen)
    | none => false

def breachReading (f : String) (s : State) (e : Event) : Option UtcTime :=
  match scanning s e,s.registry.getByFlightSessionId f with
  | some (now,_),some r => if overdue r now then some now else none
  | _,_ => none

def strandedReading (f : String) (s : State) (e : Event) : Option UtcTime :=
  match scanning s e,s.registry.getByFlightSessionId f with
  | some (_,strandedNow),some r =>
    if silent (s.tracker.get f) r strandedNow then some strandedNow else none
  | _,_ => none

def stamp (first : Option UtcTime) : Option String := first.map (fun now => isoformat now.val)

def earlier : Option UtcTime → Option UtcTime → Option Int
  | some a,some b => some (min a.instant b.instant)
  | some a,none => some a.instant
  | none,some b => some b.instant
  | none,none => none

structure FlaggedByFirst (env : Env) (f : String) (s : State) (events : List Event)
    (r : ActiveFlightSession) (breached stranded : Option UtcTime) : Prop where
  firstBreach : Trace.First (fun before e => breachReading f (Trace.final (step env) s before) e)
    events breached
  firstSilence : Trace.First
    (fun before e => strandedReading f (Trace.final (step env) s before) e) events stranded
  breach : r.exitDeadlineBreachedAt = stamp breached
  silence : r.strandedFlaggedAt = stamp stranded

theorem breachesOverdue (r : ActiveFlightSession) (now : UtcTime) :
    r.breaches now = (r.exitDeadlineBreachedAt.isNone && overdue r now) := Bool.and_assoc ..

theorem strandedSilent (live : Option DroneState) (r : ActiveFlightSession) (now : UtcTime) :
    r.stranded live now = (r.strandedFlaggedAt.isNone && silent live r now) := Bool.and_assoc ..

theorem scanFlagged (live : Option DroneState) (now strandedNow : UtcTime)
    (r : ActiveFlightSession) :
    (r.scan live now strandedNow).exitDeadlineBreachedAt = r.exitDeadlineBreachedAt.or
      (stamp (if overdue r now then some now else none)) ∧
    (r.scan live now strandedNow).strandedFlaggedAt = r.strandedFlaggedAt.or
      (stamp (if silent live r strandedNow then some strandedNow else none)) := by
  unfold ActiveFlightSession.scan
  have breached : (r.stampBreach now).exitDeadlineBreachedAt = r.exitDeadlineBreachedAt.or
        (stamp (if overdue r now then some now else none)) ∧
      (r.stampBreach now).strandedFlaggedAt = r.strandedFlaggedAt ∧
      silent live (r.stampBreach now) strandedNow = silent live r strandedNow := by
    unfold ActiveFlightSession.stampBreach
    rw [breachesOverdue]
    cases flag : r.exitDeadlineBreachedAt with
    | some t => simp [flag]
    | none => cases due : overdue r now <;> simp [stamp,flag,silent]
  obtain ⟨breach,unflagged,same⟩ := breached
  unfold ActiveFlightSession.stampStranded
  rw [strandedSilent,same,unflagged]
  cases flag : r.strandedFlaggedAt with
  | some t => simp [unflagged,flag,breach]
  | none => cases quiet : silent live r strandedNow <;> simp [stamp,unflagged,flag,breach]

theorem stampOr (first next : Option UtcTime) :
    (stamp first).or (stamp next) = stamp (first.or next) := by
  cases first <;> rfl

theorem unscannedFlags {env : Env} {f : String} {s : State} {e : Event} {r : ActiveFlightSession}
    (calm : scanning s e = none) (fresh : ¬ Registers f s e)
    (left : (step env s e).registry.getByFlightSessionId f = some r) :
    ∃ old, s.registry.getByFlightSessionId f = some old ∧
      r.exitDeadlineBreachedAt = old.exitDeadlineBreachedAt ∧
      r.strandedFlaggedAt = old.strandedFlaggedAt := by
  have view : ((step env s e).view f).record = some r := left
  have moved := stepMoved env s e f
  rw [stepView] at view
  generalize moves env s e f = ms at moved view
  cases moved with
  | idle | observed | stubReported => exact ⟨r,view,rfl,rfl⟩
  | registered made own => exact absurd ⟨_,made,own⟩ fresh
  | exitAccepted made own active =>
    simp only [List.foldl_cons,List.foldl_nil,Move.apply,active,Option.map_some] at view
    cases view
    obtain ⟨at_,same⟩ := recordStamped _ _
    exact ⟨_,active,by rw [same],by rw [same]⟩
  | scanned made | scannedFinalized made => cases calm.symm.trans made
  | stubReleased | finalized => cases view

theorem stepFlagged {env : Env} {f : String} {s : State} {e : Event} {r : ActiveFlightSession}
    (fresh : ¬ Registers f s e) (left : (step env s e).registry.getByFlightSessionId f = some r) :
    ∃ old, s.registry.getByFlightSessionId f = some old ∧
      r.exitDeadlineBreachedAt = old.exitDeadlineBreachedAt.or (stamp (breachReading f s e)) ∧
      r.strandedFlaggedAt = old.strandedFlaggedAt.or (stamp (strandedReading f s e)) := by
  cases scans : scanning s e with
  | none =>
    obtain ⟨old,found,breach,silence⟩ := unscannedFlags scans fresh left
    refine ⟨old,found,?_,?_⟩
    · simp [breach,breachReading,scans,stamp]
    · simp [silence,strandedReading,scans,stamp]
  | some t =>
    obtain ⟨old,found,rfl⟩ := Backstop.scanLeft scans left
    obtain ⟨breach,silence⟩ := scanFlagged (s.tracker.get f) t.1 t.2 old
    have stored : s.registry.getByFlightSessionId f = some old := found
    refine ⟨old,stored,?_,?_⟩
    · simp only [breachReading,scans,stored]
      exact breach
    · simp only [strandedReading,scans,stored]
      exact silence

theorem runFlagged {env : Env} {f : String} {s : State} {events : List Event}
    {r : ActiveFlightSession}
    (unflagged : ∀ r, s.registry.getByFlightSessionId f = some r →
      r.exitDeadlineBreachedAt = none ∧ r.strandedFlaggedAt = none)
    (fresh : Unregistered env f s events)
    (found : (Trace.final (step env) s events).registry.getByFlightSessionId f = some r) :
    ∃ breached stranded, FlaggedByFirst env f s events r breached stranded := by
  induction events using List.reverseRecOn generalizing r with
  | nil =>
    obtain ⟨breach,silence⟩ := unflagged r found
    exact ⟨none,none,Trace.firstNil _,Trace.firstNil _,breach,silence⟩
  | append_singleton events e ih =>
    obtain ⟨early,last⟩ := Trace.meetsConcat.mp fresh
    rw [Trace.finalConcat] at found
    obtain ⟨old,stored,breach,silence⟩ := stepFlagged last found
    obtain ⟨breached,stranded,flagged⟩ := ih early stored
    refine ⟨_,_,Trace.firstConcat flagged.firstBreach e,Trace.firstConcat flagged.firstSilence e,?_,?_⟩
    · rw [breach,flagged.breach,stampOr]
    · rw [silence,flagged.silence,stampOr]

theorem runKept {env : Env} {f : String} {s : State} {later : List Event}
    {old r : ActiveFlightSession} (found : s.registry.getByFlightSessionId f = some old)
    (fresh : Unregistered env f s later)
    (left : (Trace.final (step env) s later).registry.getByFlightSessionId f = some r) :
    Stamps.Kept old r := by
  induction later using List.reverseRecOn generalizing r with
  | nil =>
    cases found.symm.trans left
    exact Stamps.keptRefl _
  | append_singleton later e ih =>
    obtain ⟨early,last⟩ := Trace.meetsConcat.mp fresh
    rw [Trace.finalConcat] at left
    obtain ⟨mid,stored,-⟩ := stepFlagged last left
    have onward := (Stamps.stepKept stored left).mpr
      (fun session made own => absurd ⟨session,made,own⟩ last)
    exact Stamps.keptTrans (ih early stored) onward

theorem earliestOfFirst {r : ActiveFlightSession} {breached stranded : Option UtcTime}
    (breach : r.exitDeadlineBreachedAt = stamp breached)
    (silence : r.strandedFlaggedAt = stamp stranded) :
    r.earliestFlagDt = earlier breached stranded := by
  unfold ActiveFlightSession.earliestFlagDt
  rw [breach,silence]
  have parsed : ∀ first, parsedInstant (stamp first) = first.map UtcTime.instant := by
    intro first
    cases first with
    | none => rfl
    | some now => exact parsedIsoformat now.val
  rw [parsed,parsed]
  cases breached <;> cases stranded <;> rfl

theorem candidateIff {reg : ActiveSessionRegistry} {f : String} {r : ActiveFlightSession}
    {breached stranded : Option UtcTime} (found : reg.getByFlightSessionId f = some r)
    (breach : r.exitDeadlineBreachedAt = stamp breached)
    (silence : r.strandedFlaggedAt = stamp stranded) (now : UtcTime) :
    r ∈ findForceCloseCandidates reg now ↔ r.exitRequestedAt = none ∧
      ∃ flag, earlier breached stranded = some flag ∧
        forceCloseThresholdSeconds * secondMicros ≤ now.instant - flag := by
  rw [memCandidates,ActiveSessionRegistry.recordFiled found,← ForceClose.dueIff,ForceClose.Due,
    earliestOfFirst breach silence]
  exact and_iff_right found

def newlyStamped (flag : ActiveFlightSession → Option String)
    (before after : ActiveSessionRegistry) : Nat :=
  before.snapshot.values.countP (fun s => (flag s).isNone &&
    ((after.getByFlightSessionId s.flightSessionId).bind flag).isSome)

theorem deadlineCount (reg : ActiveSessionRegistry) (now : UtcTime) :
    (scanForDeadlineBreaches reg now).2 = newlyStamped ActiveFlightSession.exitDeadlineBreachedAt
      reg (scanForDeadlineBreaches reg now).1 := by
  refine List.countP_congr (fun s mem => ?_)
  have stored := ActiveSessionRegistry.memSnapshot.mp mem
  simp only [scanForDeadlineBreaches,ActiveSessionRegistry.getMapSessions,stored,Option.map_some,
    Option.bind_some,ActiveFlightSession.stampBreach,breachesOverdue]
  cases flag : s.exitDeadlineBreachedAt with
  | some t => simp
  | none => cases due : overdue s now <;> simp [flag]

theorem strandedCount (reg : ActiveSessionRegistry) (tracker : DroneStateTracker) (now : UtcTime) :
    (scanForStrandedSessions reg tracker now).2 = newlyStamped ActiveFlightSession.strandedFlaggedAt
      reg (scanForStrandedSessions reg tracker now).1 := by
  refine List.countP_congr (fun s mem => ?_)
  have stored := ActiveSessionRegistry.memSnapshot.mp mem
  simp only [scanForStrandedSessions,ActiveSessionRegistry.getMapSessions,stored,Option.map_some,
    Option.bind_some,ActiveFlightSession.stampStranded,strandedSilent]
  cases flag : s.strandedFlaggedAt with
  | some t => simp
  | none => cases quiet : silent (tracker.get s.flightSessionId) s now <;> simp [flag]

structure ScannedAlike (f : String) (now : UtcTime) (reg reg' : ActiveSessionRegistry)
    (tracker tracker' : DroneStateTracker) : Prop where
  breach : (scanForDeadlineBreaches reg now).1.getByFlightSessionId f =
    (scanForDeadlineBreaches reg' now).1.getByFlightSessionId f
  silence : (scanForStrandedSessions reg tracker now).1.getByFlightSessionId f =
    (scanForStrandedSessions reg' tracker' now).1.getByFlightSessionId f
  candidate : ∀ r, r.flightSessionId = f →
    (r ∈ findForceCloseCandidates reg now ↔ r ∈ findForceCloseCandidates reg' now)

theorem scannedAlike {f : String} {reg reg' : ActiveSessionRegistry}
    {tracker tracker' : DroneStateTracker}
    (record : reg.getByFlightSessionId f = reg'.getByFlightSessionId f)
    (live : tracker.get f = tracker'.get f) (now : UtcTime) :
    ScannedAlike f now reg reg' tracker tracker' where
  breach := by simp only [scanForDeadlineBreaches,ActiveSessionRegistry.getMapSessions,record]
  silence := by
    simp only [scanForStrandedSessions,ActiveSessionRegistry.getMapSessions,record]
    cases found : reg'.getByFlightSessionId f with
    | none => rfl
    | some r => simp [ActiveSessionRegistry.recordFiled found,live]
  candidate := by
    intro r own
    rw [memCandidates,memCandidates,own,record]

theorem flagsMarkFirstSweeps (env : Env) (f : String) (s : State) (events : List Event)
    (r : ActiveFlightSession)
    (unflagged : ∀ r, s.registry.getByFlightSessionId f = some r →
      r.exitDeadlineBreachedAt = none ∧ r.strandedFlaggedAt = none)
    (fresh : Unregistered env f s events)
    (found : (Trace.final (step env) s events).registry.getByFlightSessionId f = some r) :
    (∃ breached stranded, FlaggedByFirst env f s events r breached stranded ∧
      ∀ now, r ∈ findForceCloseCandidates (Trace.final (step env) s events).registry now ↔
        r.exitRequestedAt = none ∧ ∃ flag, earlier breached stranded = some flag ∧
          forceCloseThresholdSeconds * secondMicros ≤ now.instant - flag) ∧
    (∀ before later old, events = before ++ later →
      (Trace.final (step env) s before).registry.getByFlightSessionId f = some old →
      Stamps.Kept old r) ∧
    (∀ reg now, (scanForDeadlineBreaches reg now).2 = newlyStamped
      ActiveFlightSession.exitDeadlineBreachedAt reg (scanForDeadlineBreaches reg now).1) ∧
    (∀ reg tracker now, (scanForStrandedSessions reg tracker now).2 = newlyStamped
      ActiveFlightSession.strandedFlaggedAt reg (scanForStrandedSessions reg tracker now).1) ∧
    (∀ (g : String) (reg reg' : ActiveSessionRegistry) (tracker tracker' : DroneStateTracker),
      reg.getByFlightSessionId g = reg'.getByFlightSessionId g → tracker.get g = tracker'.get g →
      ∀ now, ScannedAlike g now reg reg' tracker tracker') := by
  refine ⟨?_,?_,deadlineCount,strandedCount,fun g reg reg' tracker tracker' record live now =>
    scannedAlike record live now⟩
  · obtain ⟨breached,stranded,flagged⟩ := runFlagged unflagged fresh found
    exact ⟨breached,stranded,flagged,candidateIff found flagged.breach flagged.silence⟩
  · intro before later old split_ stored
    subst split_
    rw [Trace.finalAppend] at found
    refine runKept stored ?_ found
    have onward := (Trace.meetsAppend.mp fresh).2
    simp only [Trace.finalAppend] at onward
    exact onward

def sweptAt (minute : Nat) : Event :=
  (Action.sweep (march 8 18 minute 0) (march 8 18 minute 0)).at 8 18 minute 0

def announced : State :=
  after deployment [(Action.registerSession Stamps.registration).at 8 18 0 0]

theorem lateFlightFlagged : ∃ r breached stranded, FlaggedByFirst deployment "flight-A" announced
    [sweptAt 29,sweptAt 31,sweptAt 32] r breached stranded := by
  obtain ⟨r,found⟩ := Option.isSome_iff_exists.mp (show ((Trace.final (step deployment) announced
    [sweptAt 29,sweptAt 31,sweptAt 32]).registry.getByFlightSessionId "flight-A").isSome by decide)
  obtain ⟨breached,stranded,flagged,-⟩ := (flagsMarkFirstSweeps deployment "flight-A" announced
    [sweptAt 29,sweptAt 31,sweptAt 32] r (by intro r same; cases same; exact ⟨rfl,rfl⟩)
    (unregistered _ _ _ (by simp [sweptAt,Action.at])) found).1
  exact ⟨r,breached,stranded,flagged⟩

end FlightMonitor.FirstSweep
