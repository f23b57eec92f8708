import FlightMonitor.Draining
import FlightMonitor.Stamps

/-! Whether a session whose drone and whose operator fall silent is closed in the end. The
deadline detector and the stranded detector each leave some sessions to the other; a session
that both skip carries no flag, and the force-close pass only closes sessions with a flag.
`NeverLeaked` asks for a time from which the sweeper takes care of the session in every run
that is quiet about it and whose wall clock does not go back. -/
namespace FlightMonitor.Backstop
open PyValue IsoTime

structure Silent (env : Env) (f : String) (s : State) (e : Event) : Prop where
  unregistered : ∀ session, registering s e = some session → session.flightSessionId ≠ f
  unasked : ∀ p, accepting s e = some p → p.flightSessionId ≠ f
  unobserved : ∀ state, observing env s e = some state → state.flightSessionId ≠ f

def Quiet (env : Env) (f : String) (s : State) (later : List Event) : Prop :=
  Trace.Meets (fun before e => Silent env f (Trace.final (step env) s before) e) later

structure Forward (later : List Event) : Prop where
  within : ∀ e ∈ later, ∀ strandedNow forceCloseNow, e.action = .sweep strandedNow forceCloseNow →
    e.wall.instant ≤ strandedNow.instant ∧ strandedNow.instant ≤ forceCloseNow.instant
  between : later.Pairwise (fun a b => a.finalizeClock.instant ≤ b.wall.instant)

def flags : List (ActiveFlightSession → Option String) :=
  [ActiveFlightSession.exitDeadlineBreachedAt,ActiveFlightSession.strandedFlaggedAt]

def Flagged (record : ActiveFlightSession) : Prop := ∃ flag ∈ flags, flag record ≠ none

def FlaggedFrom (env : Env) (f : String) (s : State) (since : UtcTime) : Prop :=
  ∀ later e t, Quiet env f s (later ++ [e]) → Forward (later ++ [e]) →
    scanning (Trace.final (step env) s later) e = some t → since.instant ≤ e.wall.instant →
    ∀ record, ((Trace.final (step env) s (later ++ [e])).view f).record = some record →
      Flagged record

/-- A force-close pass that starts a threshold after such a sweep has removed the session by
the time it returns. -/
def ClosedFrom (env : Env) (f : String) (s : State) (since : UtcTime) : Prop :=
  ∀ later e between pass rest t u,
    Quiet env f s (later ++ [e] ++ (between ++ [pass] ++ rest)) →
    Forward (later ++ [e] ++ (between ++ [pass] ++ rest)) →
    scanning (Trace.final (step env) s later) e = some t → since.instant ≤ e.wall.instant →
    scanning (Trace.final (step env) s (later ++ [e] ++ between)) pass = some u →
    forceCloseThresholdSeconds * secondMicros ≤ pass.finalizeClock.instant - t.2.instant →
    (Trace.final (step env) s (later ++ [e] ++ (between ++ [pass] ++ rest))).sweeper = .sleeping →
    ((Trace.final (step env) s (later ++ [e] ++ (between ++ [pass] ++ rest))).view f).record = none

def NeverLeaked (env : Env) (f : String) (s : State) : Prop :=
  ∃ since, FlaggedFrom env f s since ∧ ClosedFrom env f s since

def DetectedBy (since : UtcTime) (record : ActiveFlightSession) (live : Option DroneState) : Prop :=
  (∃ d, parsedInstant record.requestedExitTime = some d ∧ d < since.instant) ∨
  ∃ state l, live = some state ∧ parsedInstant (some state.lastSeen) = some l ∧
    strandedSilenceThresholdSeconds * secondMicros ≤ since.instant - l

def Pending (f : String) (s : State) : Prop :=
  ∃ pending n, s.sweeper = .forceClosing pending n ∧ f ∈ pending

def Detectable (f : String) (s : State) (record : ActiveFlightSession) : Prop :=
  Flagged record ∨ Pending f s ∨ ∃ since, DetectedBy since record (s.tracker.get f)

def FlagsBy (bound : UtcTime) (record : ActiveFlightSession) : Prop :=
  ∀ flag ∈ flags, ∀ text, flag record = some text →
    ∃ t : UtcTime, text = isoformat t.val ∧ t.instant ≤ bound.instant

def FlaggedBy (bound : UtcTime) (record : ActiveFlightSession) : Prop :=
  ∃ flag ∈ flags, ∃ t : UtcTime, flag record = some (isoformat t.val) ∧ t.instant ≤ bound.instant

theorem flagsByLater {a b : UtcTime} {record : ActiveFlightSession} (early : FlagsBy a record)
    (le : a.instant ≤ b.instant) : FlagsBy b record := by
  intro flag mem text set
  obtain ⟨t,reads,bounded⟩ := early flag mem text set
  exact ⟨t,reads,bounded.trans le⟩

theorem flaggedBy {bound : UtcTime} {record : ActiveFlightSession} (flagged : Flagged record)
    (early : FlagsBy bound record) : FlaggedBy bound record := by
  obtain ⟨flag,mem,set⟩ := flagged
  obtain ⟨text,reads⟩ := Option.ne_none_iff_exists'.mp set
  obtain ⟨t,rfl,bounded⟩ := early flag mem text reads
  exact ⟨flag,mem,t,reads,bounded⟩

theorem flagStamp {flag : ActiveFlightSession → Option String} (mem : flag ∈ flags) :
    flag ∈ Stamps.stamps := List.mem_cons_of_mem _ mem

theorem flaggedKept {old new : ActiveFlightSession} (kept : Stamps.Kept old new)
    (flagged : Flagged old) : Flagged new := by
  obtain ⟨flag,mem,set⟩ := flagged
  obtain ⟨text,reads⟩ := Option.ne_none_iff_exists'.mp set
  exact ⟨flag,mem,by rw [kept flag (flagStamp mem) text reads]; simp⟩

theorem flaggedByKept {bound : UtcTime} {old new : ActiveFlightSession}
    (kept : Stamps.Kept old new) (flagged : FlaggedBy bound old) : FlaggedBy bound new := by
  obtain ⟨flag,mem,t,reads,bounded⟩ := flagged
  exact ⟨flag,mem,t,kept flag (flagStamp mem) _ reads,bounded⟩

theorem earliestFlagLe {record : ActiveFlightSession} {flag : ActiveFlightSession → Option String}
    (mem : flag ∈ flags) {m : Int} (reads : parsedInstant (flag record) = some m) :
    ∃ first, record.earliestFlagDt = some first ∧ first ≤ m := by
  unfold ActiveFlightSession.earliestFlagDt
  rcases List.mem_pair.mp mem with rfl | rfl
  · rw [reads]
    cases parsedInstant record.strandedFlaggedAt with
    | none => exact ⟨m,rfl,le_refl m⟩
    | some stranded => exact ⟨_,rfl,min_le_left ..⟩
  · rw [reads]
    cases parsedInstant record.exitDeadlineBreachedAt with
    | none => exact ⟨m,rfl,le_refl m⟩
    | some breached => exact ⟨_,rfl,min_le_right ..⟩

theorem flaggedByDue {bound now : UtcTime} {record : ActiveFlightSession}
    (unasked : record.exitRequestedAt = none) (flagged : FlaggedBy bound record)
    (old : forceCloseThresholdSeconds * secondMicros ≤ now.instant - bound.instant) :
    ForceClose.Due now record := by
  obtain ⟨flag,mem,t,reads,bounded⟩ := flagged
  obtain ⟨first,earliest,le⟩ := earliestFlagLe mem
    (show parsedInstant (flag record) = some t.instant by rw [reads]; exact parsedIsoformat t.val)
  exact ⟨unasked,first,earliest,by omega⟩

theorem unflaggedNotDue {now : UtcTime} {record : ActiveFlightSession}
    (unflagged : ¬ Flagged record) : ¬ ForceClose.Due now record := by
  have unset : ∀ flag ∈ flags, flag record = none := fun flag mem =>
    by_contra (fun set => unflagged ⟨flag,mem,set⟩)
  have breached := unset ActiveFlightSession.exitDeadlineBreachedAt (by simp [flags])
  have stranded := unset ActiveFlightSession.strandedFlaggedAt (by simp [flags])
  refine ForceClose.spentNotDue (.inr ?_)
  simp [ActiveFlightSession.earliestFlagDt,breached,stranded,parsedInstant]

theorem stampBreachFlags {bound now : UtcTime} {record : ActiveFlightSession}
    (early : FlagsBy bound record) (le : now.instant ≤ bound.instant) :
    FlagsBy bound (record.stampBreach now) := by
  unfold ActiveFlightSession.stampBreach
  split
  · intro flag mem text set
    rcases List.mem_pair.mp mem with rfl | rfl
    · exact ⟨now,(Option.some.inj set).symm,le⟩
    · exact early _ mem text set
  · exact early

theorem stampStrandedFlags {bound now : UtcTime} {live : Option DroneState}
    {record : ActiveFlightSession} (early : FlagsBy bound record)
    (le : now.instant ≤ bound.instant) : FlagsBy bound (record.stampStranded live now) := by
  unfold ActiveFlightSession.stampStranded
  split
  · intro flag mem text set
    rcases List.mem_pair.mp mem with rfl | rfl
    · exact early _ mem text set
    · exact ⟨now,(Option.some.inj set).symm,le⟩
  · exact early

theorem scanKeeps (live : Option DroneState) (now strandedNow : UtcTime)
    (record : ActiveFlightSession) :
    (record.scan live now strandedNow).exitRequestedAt = record.exitRequestedAt ∧
      (record.scan live now strandedNow).requestedExitTime = record.requestedExitTime := by
  obtain ⟨breached,stranded,done⟩ := scanFlags live now strandedNow record
  rw [done]
  exact ⟨rfl,rfl⟩

theorem breachFlagged {now : UtcTime} {record : ActiveFlightSession} {d : Int}
    (unasked : record.exitRequestedAt = none)
    (deadline : parsedInstant record.requestedExitTime = some d) (passed : d < now.instant) :
    Flagged (record.stampBreach now) := by
  refine ⟨ActiveFlightSession.exitDeadlineBreachedAt,by simp [flags],?_⟩
  cases set : record.exitDeadlineBreachedAt with
  | some text =>
    have kept := Stamps.stampBreachKept now record ActiveFlightSession.exitDeadlineBreachedAt
      (by simp [Stamps.stamps]) text set
    simp [kept]
  | none =>
    have due : record.breaches now = true := by
      simp [ActiveFlightSession.breaches,set,unasked,deadline,passed]
    simp [ActiveFlightSession.stampBreach,due]

theorem strandedFlagged {now : UtcTime} {record : ActiveFlightSession} {state : DroneState} {l : Int}
    (unasked : record.exitRequestedAt = none) (seen : parsedInstant (some state.lastSeen) = some l)
    (silent : strandedSilenceThresholdSeconds * secondMicros ≤ now.instant - l) :
    Flagged (record.stampStranded (some state) now) := by
  refine ⟨ActiveFlightSession.strandedFlaggedAt,by simp [flags],?_⟩
  cases set : record.strandedFlaggedAt with
  | some text =>
    have kept := Stamps.stampStrandedKept (some state) now record
      ActiveFlightSession.strandedFlaggedAt (by simp [Stamps.stamps]) text set
    simp [kept]
  | none =>
    have due : record.stranded (some state) now = true := by
      simp [ActiveFlightSession.stranded,set,unasked,seen,silent]
    simp [ActiveFlightSession.stampStranded,due]

theorem detectedFlagged {since now strandedNow : UtcTime} {record : ActiveFlightSession}
    {live : Option DroneState} (unasked : record.exitRequestedAt = none)
    (detected : DetectedBy since record live) (deadlineScan : since.instant ≤ now.instant)
    (strandedScan : since.instant ≤ strandedNow.instant) :
    Flagged (record.scan live now strandedNow) := by
  rcases detected with ⟨d,deadline,passed⟩ | ⟨state,l,rfl,seen,silent⟩
  · exact flaggedKept (Stamps.stampStrandedKept _ _ _)
      (breachFlagged unasked deadline (passed.trans_le deadlineScan))
  · refine strandedFlagged ?_ seen (by omega)
    unfold ActiveFlightSession.stampBreach
    split <;> exact unasked

theorem undetectedScan {now : UtcTime} {record : ActiveFlightSession} {live : Option DroneState}
    (undetected : ¬ DetectedBy now record live) : record.scan live now now = record := by
  have unbreached : record.stampBreach now = record := by
    refine if_neg (fun due => undetected (.inl ?_))
    simp only [ActiveFlightSession.breaches,Bool.and_eq_true] at due
    cases deadline : parsedInstant record.requestedExitTime with
    | none => simp [deadline] at due
    | some d => exact ⟨d,rfl,by simpa [deadline] using due.2⟩
  unfold ActiveFlightSession.scan
  rw [unbreached]
  refine if_neg (fun due => undetected (.inr ?_))
  simp only [ActiveFlightSession.stranded,Bool.and_eq_true] at due
  cases live with
  | none => simp at due
  | some state =>
    cases seen : parsedInstant (some state.lastSeen) with
    | none => simp [seen] at due
    | some l => exact ⟨state,l,rfl,seen,by simpa [seen] using due.2⟩

structure Held (record : ActiveFlightSession) (live : Option DroneState) (v : SessionView)
    (r : ActiveFlightSession) : Prop where
  same : v.live = live
  unasked : r.exitRequestedAt = none
  deadline : r.requestedExitTime = record.requestedExitTime
  kept : Stamps.Kept record r

theorem silentStep {env : Env} {f : String} {s : State} {e : Event} (silent : Silent env f s e)
    {r : ActiveFlightSession} (left : ((step env s e).view f).record = some r) :
    ((step env s e).view f).live = (s.view f).live ∧
      ∃ old, (s.view f).record = some old ∧ (r = old ∨
        ∃ t, scanning s e = some t ∧ r = old.scan (s.view f).live t.1 t.2) := by
  have moved := stepMoved env s e f
  rw [stepView] at left ⊢
  generalize moves env s e f = ms at moved left
  cases moved with
  | idle | stubReported => exact ⟨rfl,r,left,.inl rfl⟩
  | registered made own => exact absurd own (silent.unregistered _ made)
  | exitAccepted made own active => exact absurd own (silent.unasked _ made)
  | observed made own => exact absurd own (silent.unobserved _ made)
  | scanned made spared =>
    obtain ⟨old,found,rfl⟩ := Option.map_eq_some_iff.mp left
    exact ⟨rfl,old,found,.inr ⟨_,made,rfl⟩⟩
  | stubReleased | scannedFinalized | finalized => cases left

theorem stepHeld {env : Env} {f : String} {s : State} {e : Event} {record : ActiveFlightSession}
    {live : Option DroneState} (silent : Silent env f s e)
    (held : ∀ r, (s.view f).record = some r → Held record live (s.view f) r)
    (r : ActiveFlightSession) (left : ((step env s e).view f).record = some r) :
    Held record live ((step env s e).view f) r := by
  obtain ⟨same,old,found,rfl | ⟨t,-,rfl⟩⟩ := silentStep silent left
  · obtain ⟨same',unasked,deadline,kept⟩ := held r found
    exact ⟨same.trans same',unasked,deadline,kept⟩
  · obtain ⟨same',unasked,deadline,kept⟩ := held old found
    obtain ⟨asked,exit_⟩ := scanKeeps (s.view f).live t.1 t.2 old
    exact ⟨same.trans same',asked.trans unasked,exit_.trans deadline,
      Stamps.keptTrans kept (Stamps.scanKept _ _ _ _)⟩

theorem runHeld {env : Env} {f : String} {s : State} {record : ActiveFlightSession}
    (active : (s.view f).record = some record) (unasked : record.exitRequestedAt = none)
    {later : List Event} (quiet : Quiet env f s later) (r : ActiveFlightSession)
    (left : ((Trace.final (step env) s later).view f).record = some r) :
    Held record (s.view f).live ((Trace.final (step env) s later).view f) r := by
  refine Trace.guardedInvariant (fun later => ∀ r,
    ((Trace.final (step env) s later).view f).record = some r →
      Held record (s.view f).live ((Trace.final (step env) s later).view f) r)
    ?_ (fun before e held silent => ?_) quiet r left
  · intro r found
    cases active.symm.trans found
    exact ⟨rfl,unasked,rfl,Stamps.keptRefl _⟩
  · rw [Trace.finalConcat]
    exact stepHeld silent held

theorem scanLeft {env : Env} {f : String} {s : State} {e : Event} {t : UtcTime × UtcTime}
    {r : ActiveFlightSession} (scans : scanning s e = some t)
    (left : ((step env s e).view f).record = some r) : ∃ old, (s.view f).record = some old ∧
      r = old.scan (s.view f).live t.1 t.2 := by
  rw [stepView,scanningMoves env scans] at left
  split at left
  · cases left
  · obtain ⟨old,found,rfl⟩ := Option.map_eq_some_iff.mp left
    exact ⟨old,found,rfl⟩

theorem scanningSweeps {s : State} {e : Event} {t : UtcTime × UtcTime} (scans : scanning s e = some t) :
    s.sweeper = .sleeping ∧ e.wall = t.1 ∧ e.action = .sweep t.2 e.finalizeClock := by
  obtain ⟨now,loop,action⟩ := e
  cases action with
  | sweep strandedNow forceCloseNow =>
    cases resting : s.sweeper with
    | sleeping => simp only [scanning,resting] at scans; cases scans; exact ⟨rfl,rfl,rfl⟩
    | forceClosing pending n => simp [scanning,resting] at scans
  | _ => simp [scanning] at scans

def ReadsBy (bound : UtcTime) (s : State) (e : Event) : Prop :=
  ∀ t, scanning s e = some t → t.1.instant ≤ bound.instant ∧ t.2.instant ≤ bound.instant

theorem scanFlags {bound : UtcTime} {live : Option DroneState} {record : ActiveFlightSession}
    {t : UtcTime × UtcTime} (early : FlagsBy bound record)
    (reads : t.1.instant ≤ bound.instant ∧ t.2.instant ≤ bound.instant) :
    FlagsBy bound (record.scan live t.1 t.2) :=
  stampStrandedFlags (stampBreachFlags early reads.1) reads.2

theorem runFlags {env : Env} {f : String} {s : State} {record : ActiveFlightSession}
    {bound : UtcTime} (active : (s.view f).record = some record) (early : FlagsBy bound record)
    {later : List Event} (quiet : Quiet env f s later)
    (readings : Trace.Meets (fun before e => ReadsBy bound (Trace.final (step env) s before) e) later)
    (r : ActiveFlightSession) (left : ((Trace.final (step env) s later).view f).record = some r) :
    FlagsBy bound r := by
  have guarded : Trace.Meets (fun before e => Silent env f (Trace.final (step env) s before) e ∧
      ReadsBy bound (Trace.final (step env) s before) e) later :=
    fun before e within => ⟨quiet before e within,readings before e within⟩
  refine Trace.guardedInvariant (fun later => ∀ r,
    ((Trace.final (step env) s later).view f).record = some r → FlagsBy bound r)
    ?_ (fun before e held guard r left => ?_) guarded r left
  · intro r found
    cases active.symm.trans found
    exact early
  · rw [Trace.finalConcat] at left
    obtain ⟨-,old,found,rfl | ⟨t,scans,rfl⟩⟩ := silentStep guard.1 left
    · exact held r found
    · exact scanFlags (held old found) (guard.2 t scans)

theorem forwardReadings {env : Env} {s : State} {later : List Event} {e : Event}
    {t : UtcTime × UtcTime} (forward : Forward (later ++ [e]))
    (scans : scanning (Trace.final (step env) s later) e = some t) :
    Trace.Meets (fun before x => ReadsBy t.2 (Trace.final (step env) s before) x)
      (later ++ [e]) := by
  obtain ⟨-,wall,sweeps⟩ := scanningSweeps scans
  have last := (forward.within e (by simp) _ _ sweeps).1
  rw [wall] at last
  refine Trace.meetsConcat.mpr ⟨fun before x within u reads => ?_,fun u reads => ?_⟩
  · have mem : x ∈ later := within.subset (by simp)
    obtain ⟨-,wall',sweeps'⟩ := scanningSweeps reads
    have own := forward.within x (by simp [mem]) _ _ sweeps'
    have next := (List.pairwise_append.mp forward.between).2.2 x mem e (by simp)
    rw [wall'] at own
    rw [wall] at next
    omega
  · cases scans.symm.trans reads
    exact ⟨last,le_refl _⟩

/-! A session that the pass in progress has removed or will remove. -/

def Gone (f : String) (s : State) : Prop := (s.view f).record = none ∨ Pending f s

theorem forceCloseGone {env : Env} {now : UtcTime} {candidates : List String} {s : State} {n : Nat}
    {f : String} (mem : f ∈ candidates) : Gone f (forceClose env now candidates s n) := by
  rcases Draining.forceCloseClears mem with absent | ⟨rest,⟨m,waits⟩,left⟩
  · exact .inl absent.record
  · exact .inr ⟨rest,m,waits,left⟩

theorem absentStays {env : Env} {f : String} {s : State} {e : Event} (silent : Silent env f s e)
    (absent : (s.view f).record = none) : ((step env s e).view f).record = none := by
  cases left : ((step env s e).view f).record with
  | none => rfl
  | some r =>
    obtain ⟨-,old,found,-⟩ := silentStep silent left
    cases absent.symm.trans found

theorem stepGone {env : Env} {f : String} {s : State} {e : Event} (silent : Silent env f s e)
    (gone : Gone f s) : Gone f (step env s e) := by
  rcases gone with absent | ⟨pending,n,waits,mem⟩
  · exact .inl (absentStays silent absent)
  · obtain ⟨now,loop,action⟩ := e
    cases action with
    | sweep strandedNow forceCloseNow =>
      simp only [step,sweep,waits]
      exact .inr ⟨pending,n,waits,mem⟩
    | sweeperPosted outcome =>
      simp only [step,sweeperPosted,waits]
      exact forceCloseGone mem
    | _ => exact .inr ⟨pending,n,((stepFrame env s _).sweeper rfl).trans waits,mem⟩

theorem runGone {env : Env} {f : String} {s : State} {later : List Event}
    (quiet : Quiet env f s later) (gone : Gone f s) : Gone f (Trace.final (step env) s later) := by
  refine Trace.guardedInvariant (fun later => Gone f (Trace.final (step env) s later))
    gone (fun before e held silent => ?_) quiet
  rw [Trace.finalConcat]
  exact stepGone silent held

theorem goneAwake {f : String} {s : State} (gone : Gone f s) (awake : s.sweeper = .sleeping) :
    (s.view f).record = none := by
  refine gone.resolve_right ?_
  intro pending
  obtain ⟨pending,n,waits,-⟩ := pending
  cases awake.symm.trans waits

theorem selectedGone {env : Env} {f : String} {s : State} {pass : Event} {u : UtcTime × UtcTime}
    {r : ActiveFlightSession} (passes : scanning s pass = some u)
    (found : (s.view f).record = some r)
    (due : ForceClose.Due pass.finalizeClock (r.scan (s.view f).live u.1 u.2)) :
    Gone f (step env s pass) := by
  obtain ⟨awake,wall,sweeps⟩ := scanningSweeps passes
  simp only [step,sweeps,sweep,awake]
  refine forceCloseGone (ForceClose.memScannedCandidates.mpr ⟨_,?_,due⟩)
  change ((s.scanned pass.wall u.2).view f).record = _
  rw [scannedView,wall]
  simp only [Move.apply,found,Option.map_some]

theorem quietAppend {env : Env} {f : String} {s : State} {first later : List Event} :
    Quiet env f s (first ++ later) ↔
      Quiet env f s first ∧ Quiet env f (Trace.final (step env) s first) later := by
  unfold Quiet
  rw [Trace.meetsAppend]
  simp only [Trace.finalAppend]

theorem forwardFirst {first later : List Event} (forward : Forward (first ++ later)) :
    Forward first where
  within e mem := forward.within e (List.mem_append_left _ mem)
  between := (List.pairwise_append.mp forward.between).1

/-! Sessions that are taken care of. -/

theorem detectedLater {a b : UtcTime} {record : ActiveFlightSession} {live : Option DroneState}
    (detected : DetectedBy a record live) (le : a.instant ≤ b.instant) : DetectedBy b record live := by
  rcases detected with ⟨d,deadline,passed⟩ | ⟨state,l,same,seen,silent⟩
  · exact .inl ⟨d,deadline,passed.trans_le le⟩
  · exact .inr ⟨state,l,same,seen,by omega⟩

theorem laterOf (a b : UtcTime) : ∃ c : UtcTime, a.instant ≤ c.instant ∧ b.instant ≤ c.instant := by
  rcases le_total a.instant b.instant with le | le
  · exact ⟨b,le,le_refl _⟩
  · exact ⟨a,le_refl _,le⟩

theorem flaggedFrom {env : Env} {f : String} {s : State} {record : ActiveFlightSession}
    {since : UtcTime} (active : (s.view f).record = some record)
    (unasked : record.exitRequestedAt = none)
    (cause : Flagged record ∨ DetectedBy since record (s.view f).live) :
    FlaggedFrom env f s since := by
  intro later e t quiet forward scans late r left
  obtain ⟨early,-⟩ := quietAppend.mp quiet
  obtain ⟨-,wall,sweeps⟩ := scanningSweeps scans
  rw [Trace.finalConcat] at left
  obtain ⟨old,found,rfl⟩ := scanLeft scans left
  have held := runHeld active unasked early old found
  rcases cause with flagged | detected
  · exact flaggedKept (Stamps.keptTrans held.kept (Stamps.scanKept _ _ _ _)) flagged
  · have ordered := (forward.within e (by simp) _ _ sweeps).1
    rw [wall] at ordered late
    refine detectedFlagged held.unasked (show DetectedBy since old _ from ?_) late
      (late.trans ordered)
    unfold DetectedBy
    rw [held.deadline,held.same]
    exact detected

theorem closedFrom {env : Env} {f : String} {s : State} {record : ActiveFlightSession}
    {since : UtcTime} (active : (s.view f).record = some record)
    (unasked : record.exitRequestedAt = none) (early : FlagsBy since record)
    (flagged : FlaggedFrom env f s since) : ClosedFrom env f s since := by
  intro later e between pass rest t u quiet forward scans late passes old awake
  obtain ⟨quietSweep,quietRest⟩ := quietAppend.mp quiet
  have forwardSweep := forwardFirst forward
  obtain ⟨-,wall,sweeps⟩ := scanningSweeps scans
  have ordered := (forwardSweep.within e (by simp) _ _ sweeps).1
  refine goneAwake ?_ awake
  rw [Trace.finalAppend] at passes ⊢
  -- Either the sweep itself was the end of the session, or its flag lives on until the pass.
  cases left : ((Trace.final (step env) s (later ++ [e])).view f).record with
  | none => exact runGone quietRest (.inl left)
  | some r =>
    have bounded := runFlags active (flagsByLater early (late.trans ordered)) quietSweep
      (forwardReadings forwardSweep scans) r left
    have flag := flaggedBy (flagged later e t quietSweep forwardSweep scans late r left) bounded
    have asked := (runHeld active unasked quietSweep r left).unasked
    obtain ⟨quietPass,quietLast⟩ := quietAppend.mp quietRest
    obtain ⟨quietBetween,quietStart⟩ := quietAppend.mp quietPass
    rw [Trace.finalAppend]
    refine runGone quietLast ?_
    rw [Trace.finalConcat]
    cases found : ((Trace.final (step env) (Trace.final (step env) s (later ++ [e]))
        between).view f).record with
    | none => exact stepGone (Trace.meetsConcat.mp quietPass).2 (.inl found)
    | some r' =>
      have held := runHeld left asked quietBetween r' found
      refine selectedGone passes found (flaggedByDue ?_ (flaggedByKept ?_ flag) old)
      · rw [(scanKeeps ..).1,held.unasked]
      · exact Stamps.keptTrans held.kept (Stamps.scanKept _ _ _ _)

theorem pendingCared {env : Env} {f : String} {s : State} (pending : Pending f s) (since : UtcTime) :
    FlaggedFrom env f s since ∧ ClosedFrom env f s since := by
  constructor
  · intro later e t quiet forward scans late r left
    obtain ⟨early,last⟩ := Trace.meetsConcat.mp quiet
    have absent := goneAwake (runGone early (.inr pending)) (scanningSweeps scans).1
    rw [Trace.finalConcat] at left
    cases (absentStays last absent).symm.trans left
  · intro later e between pass rest t u quiet forward scans late passes old awake
    exact goneAwake (runGone quiet (.inr pending)) awake

/-! Sessions that are not. -/

theorem reachedHead (env : Env) (now : UtcTime) (g : String) (pending : List String) (s : State) :
    ∃ tail, reached env now (g :: pending) s = g :: tail := by
  simp only [reached]
  split
  · exact ⟨[],rfl⟩
  · exact ⟨_,rfl⟩

def returned (now : UtcTime) : Event := ⟨now,0,.sweeperPosted .returned⟩

theorem drainsWithin (env : Env) {f : String} {s : State} (now : UtcTime) {n : Nat}
    (short : ∀ pending m, s.sweeper = .forceClosing pending m → pending.length < n ∧ f ∉ pending) :
    ∃ k, (Trace.final (step env) s (List.replicate k (returned now))).sweeper = .sleeping ∧
      (Trace.final (step env) s (List.replicate k (returned now))).view f = s.view f := by
  -- Each POST that returns takes at least one candidate off the list.
  induction n generalizing s with
  | zero =>
    cases resting : s.sweeper with
    | sleeping => exact ⟨0,resting,rfl⟩
    | forceClosing pending m => exact absurd (short pending m resting).1 (Nat.not_lt_zero _)
  | succ n ih =>
    cases resting : s.sweeper with
    | sleeping => exact ⟨0,resting,rfl⟩
    | forceClosing pending m =>
      obtain ⟨bounded,apart⟩ := short pending m resting
      have next : step env s (returned now) = forceClose env now pending s (m + 1) := by
        simp only [step,returned,sweeperPosted,resting]
      have same : (step env s (returned now)).view f = s.view f := by
        rw [next,forceCloseView,if_neg (fun taken => apart (ForceClose.reachedCandidate taken))]
      obtain ⟨k,awake,kept⟩ := ih (s := step env s (returned now)) (fun rest m' waits => by
        rw [next] at waits
        refine ⟨?_,fun mem => apart (ForceClose.forceClosePending waits mem)⟩
        cases pending with
        | nil => cases waits
        | cons g pending =>
          obtain ⟨tail,head⟩ := reachedHead env now g pending s
          obtain ⟨left,_,_,_,_,done,split_,stops⟩ := forceCloseCases env now (g :: pending) s (m + 1)
          have shorter := congrArg List.length split_
          rw [done] at waits
          rw [head] at shorter
          rcases stops with ⟨sleeping,-⟩ | ⟨count,sweeper⟩
          · rw [sleeping] at waits; cases waits
          · rw [sweeper] at waits
            cases waits
            simp only [List.length_cons,List.length_append] at shorter bounded
            omega)
      exact ⟨k + 1,awake,kept.trans same⟩

theorem drains (env : Env) {f : String} {s : State} (now : UtcTime) (apart : ¬ Pending f s) :
    ∃ k, (Trace.final (step env) s (List.replicate k (returned now))).sweeper = .sleeping ∧
      (Trace.final (step env) s (List.replicate k (returned now))).view f = s.view f := by
  cases resting : s.sweeper with
  | sleeping => exact ⟨0,resting,rfl⟩
  | forceClosing pending m =>
    refine drainsWithin env now (n := pending.length + 1) (fun rest m' waits => ?_)
    cases resting.symm.trans waits
    exact ⟨Nat.lt_succ_self _,fun mem => apart ⟨pending,m,resting,mem⟩⟩

theorem sweeperSilent {env : Env} {f : String} {s : State} {e : Event}
    (own : e.action.isSweeper = true) : Silent env f s e := by
  obtain ⟨now,loop,action⟩ := e
  cases action with
  | sweep strandedNow forceCloseNow | sweeperPosted outcome => constructor <;> intro _ made <;> cases made
  | _ => cases own

theorem undetectedUnflagged {env : Env} {f : String} {s : State} {record : ActiveFlightSession}
    {since : UtcTime} (active : (s.view f).record = some record) (unflagged : ¬ Flagged record)
    (apart : ¬ Pending f s) (undetected : ¬ DetectedBy since record (s.view f).live) :
    ¬ FlaggedFrom env f s since := by
  intro flagged
  -- The pass in progress ends first; then one sweep, with the clock standing still.
  obtain ⟨k,awake,kept⟩ := drains env since apart
  have same : ∀ x ∈ List.replicate k (returned since) ++ [⟨since,0,.sweep since since⟩],
      x.action.isSweeper = true ∧ x.wall = since ∧ x.finalizeClock = since := by
    intro x mem
    rcases List.mem_append.mp mem with mem | mem
    · rw [(List.mem_replicate.mp mem).2]
      exact ⟨rfl,rfl,rfl⟩
    · rw [List.mem_singleton.mp mem]
      exact ⟨rfl,rfl,rfl⟩
  have scans : scanning (Trace.final (step env) s (List.replicate k (returned since)))
      ⟨since,0,.sweep since since⟩ = some (since,since) := by
    simp only [scanning,awake]
  refine unflagged (flagged _ _ _ (fun before x within => ?_) ⟨?_,?_⟩ scans (le_refl _) record ?_)
  · exact sweeperSilent (same x (within.subset (by simp))).1
  · intro x mem strandedNow forceCloseNow sweeps
    rcases List.mem_append.mp mem with mem | mem
    · rw [(List.mem_replicate.mp mem).2] at sweeps
      cases sweeps
    · rw [List.mem_singleton.mp mem] at sweeps ⊢
      cases sweeps
      exact ⟨le_refl _,le_refl _⟩
  · refine List.pairwise_of_forall_mem_list (fun a first b second => ?_)
    rw [(same a first).2.2,(same b second).2.1]
  · rw [Trace.finalConcat,stepView,scanningMoves env scans,if_neg ?_,kept]
    · simp only [List.foldl_cons,List.foldl_nil,Move.apply,active,Option.map_some,
        undetectedScan undetected]
    · intro taken
      simp only [finalizing,awake] at taken
      obtain ⟨r,found,due⟩ := ForceClose.memScannedCandidates.mp (ForceClose.reachedCandidate taken)
      change ((State.scanned _ since since).view f).record = some r at found
      rw [scannedView,kept] at found
      simp only [Move.apply,active,Option.map_some,undetectedScan undetected] at found
      cases found
      exact unflaggedNotDue unflagged due

theorem registeringUnflagged {s : State} {e : Event} {session : ActiveFlightSession}
    (made : registering s e = some session) (bound : UtcTime) : FlagsBy bound session := by
  intro flag mem text set
  rw [Stamps.registeringBare made flag (flagStamp mem)] at set
  cases set

theorem stampExitFlags {bound : UtcTime} {record : ActiveFlightSession} (requestedAt : String)
    (early : FlagsBy bound record) : FlagsBy bound (record.stampExit requestedAt) := by
  obtain ⟨at_,same⟩ := recordStamped requestedAt record
  rw [same]
  intro flag mem
  rcases List.mem_pair.mp mem with rfl | rfl <;> exact early _ mem

theorem runFlagsBounded (env : Env) (events : List Event) (f : String)
    (record : ActiveFlightSession) (active : ((after env events).view f).record = some record) :
    ∃ bound, FlagsBy bound record := by
  refine Trace.invariant (step env) {} (P := fun s => ∀ record, (s.view f).record = some record →
    ∃ bound, FlagsBy bound record) (fun _ found => by cases found) (fun s e early record left => ?_)
    events record active
  have moved := stepMoved env s e f
  rw [stepView] at left
  generalize moves env s e f = ms at moved left
  cases moved with
  | idle | observed | stubReported => exact early record left
  | registered made own =>
    cases left
    exact ⟨e.wall,registeringUnflagged made _⟩
  | exitAccepted made own active =>
    obtain ⟨old,found,rfl⟩ := Option.map_eq_some_iff.mp left
    obtain ⟨bound,bounded⟩ := early old found
    exact ⟨bound,stampExitFlags _ bounded⟩
  | @scanned t made spared =>
    obtain ⟨old,found,rfl⟩ := Option.map_eq_some_iff.mp left
    obtain ⟨bound,bounded⟩ := early old found
    obtain ⟨reading,first,second⟩ := laterOf t.1 t.2
    obtain ⟨last,old_,new⟩ := laterOf bound reading
    exact ⟨last,scanFlags (flagsByLater bounded old_) ⟨first.trans new,second.trans new⟩⟩
  | stubReleased | scannedFinalized | finalized => cases left

theorem neverLeakedIffDetectable (env : Env) (events : List Event) (f : String)
    (record : ActiveFlightSession)
    (active : (after env events).registry.getByFlightSessionId f = some record)
    (unasked : record.exitRequestedAt = none) :
    NeverLeaked env f (after env events) ↔ Detectable f (after env events) record := by
  constructor
  · intro cared
    obtain ⟨since,flagged,-⟩ := cared
    by_contra undetectable
    obtain ⟨unflagged,rest⟩ := not_or.mp undetectable
    obtain ⟨apart,undetected⟩ := not_or.mp rest
    exact undetectedUnflagged active unflagged apart (not_exists.mp undetected since) flagged
  · intro detectable
    rcases detectable with flagged | pending | ⟨since,detected⟩
    · obtain ⟨bound,early⟩ := runFlagsBounded env events f record active
      have cared : FlaggedFrom env f (after env events) bound :=
        flaggedFrom active unasked (.inl flagged)
      exact ⟨bound,cared,closedFrom active unasked early cared⟩
    · exact ⟨march 0 0 0 0,pendingCared pending _⟩
    · obtain ⟨bound,early⟩ := runFlagsBounded env events f record active
      obtain ⟨last,first,second⟩ := laterOf since bound
      have cared : FlaggedFrom env f (after env events) last :=
        flaggedFrom active unasked (.inr (detectedLater detected first))
      exact ⟨last,cared,closedFrom active unasked (flagsByLater early second) cared⟩

def sweeperFields (record : ActiveFlightSession) :
    Option String × Option String × Option String × Option String :=
  (record.exitRequestedAt,record.requestedExitTime,record.exitDeadlineBreachedAt,
    record.strandedFlaggedAt)

def booked : List Event :=
  [(Action.registerSession (ForceClose.deadline "flight-A" "drone-1")).at 8 18 0 0]

theorem bookedFlightIsClosed : NeverLeaked deployment "flight-A" (after deployment booked) := by
  obtain ⟨record,active,fields⟩ := Option.map_eq_some_iff.mp
    (show ((after deployment booked).registry.getByFlightSessionId "flight-A").map sweeperFields =
      some (none,some "2026-03-09T18:30:00+00:00",none,none) by decide)
  simp only [sweeperFields,Prod.mk.injEq] at fields
  obtain ⟨unasked,deadline,-⟩ := fields
  refine (neverLeakedIffDetectable deployment booked "flight-A" record active unasked).mpr
    (.inr (.inr ⟨march 8 18 31 0,.inl ?_⟩))
  rw [deadline]
  exact ⟨(march 8 18 30 0).instant,by decide,by decide⟩

def unbooked : List Event :=
  [(Action.registerSession (.obj [("flight_session_id",.str "flight-A")])).at 8 18 0 0]

theorem unbookedFlightLeaks : ∃ record,
    (after deployment unbooked).registry.getByFlightSessionId "flight-A" = some record ∧
      record.exitRequestedAt = none ∧
        ¬ NeverLeaked deployment "flight-A" (after deployment unbooked) := by
  obtain ⟨record,active,fields⟩ := Option.map_eq_some_iff.mp
    (show ((after deployment unbooked).registry.getByFlightSessionId "flight-A").map sweeperFields =
      some (none,none,none,none) by decide)
  simp only [sweeperFields,Prod.mk.injEq] at fields
  obtain ⟨unasked,deadline,breached,stranded⟩ := fields
  have silent : (after deployment unbooked).tracker.get "flight-A" = none := by decide
  refine ⟨record,active,unasked,fun ⟨since,flagged,_⟩ => ?_⟩
  refine undetectedUnflagged (f := "flight-A") (s := after deployment unbooked) active ?_ ?_ ?_ flagged
  · intro carried
    obtain ⟨flag,mem,set⟩ := carried
    rcases List.mem_pair.mp mem with rfl | rfl
    · exact set breached
    · exact set stranded
  · intro pass
    obtain ⟨pending,n,waits,-⟩ := pass
    cases (show (after deployment unbooked).sweeper = .sleeping by decide).symm.trans waits
  · intro detected
    rcases detected with ⟨d,parsed,-⟩ | ⟨state,l,live,-⟩
    · rw [deadline] at parsed; cases parsed
    · cases silent.symm.trans live

end FlightMonitor.Backstop
