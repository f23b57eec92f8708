import FlightMonitor.SessionMachine

/-! The force-close pass between its selection of candidates and the removal of each. The
pass waits for a POST after every removal, and while it waits other tasks can change the
records of the candidates still to come. A touched record is no longer due: it has an exit
request, or it is new and has no flag. -/
namespace FlightMonitor.ForceClose
open PyValue IsoTime

structure Pass where
  checkedAt : Option UtcTime := none
  touched : List String := []

def notePass (pass : Pass) (s : State) (e : Event) : Pass :=
  match e.action,s.sweeper with
  | .sweep _ forceCloseNow,.sleeping => ⟨some forceCloseNow,[]⟩
  | _,_ => { pass with touched :=
      (registering s e).toList.map ActiveFlightSession.flightSessionId ++
      (accepting s e).toList.map ExitRequestPayload.flightSessionId ++ pass.touched }

def passOf (env : Env) (events : List Event) : Pass :=
  Trace.history (step env) {} notePass {} events

def closing (env : Env) (s : State) (e : Event) : List String :=
  match e.action with
  | .graceChecks _ => []
  | _ => finalizing env s e

def registryAt (s : State) (e : Event) : ActiveSessionRegistry :=
  match e.action,s.sweeper with
  | .sweep strandedNow _,.sleeping => (s.scanned e.wall strandedNow).registry
  | _,_ => s.registry

def Due (now : UtcTime) (record : ActiveFlightSession) : Prop :=
  record.exitRequestedAt = none ∧ ∃ flag, record.earliestFlagDt = some flag ∧
    forceCloseThresholdSeconds * secondMicros ≤ now.instant - flag

def ClosesDue (env : Env) (before : List Event) (e : Event) : Prop :=
  ∀ f ∈ closing env (after env before) e, ∀ record,
    (registryAt (after env before) e).getByFlightSessionId f = some record →
      Due e.finalizeClock record

def Untouched (env : Env) (before : List Event) (e : Event) : Prop :=
  (∃ outcome, e.action = .sweeperPosted outcome) → ∀ f ∈ closing env (after env before) e,
    ((after env before).registry.getByFlightSessionId f).isSome → f ∉ (passOf env before).touched

def ClockKept (env : Env) (before : List Event) (e : Event) : Prop :=
  (∃ outcome, e.action = .sweeperPosted outcome) → ∀ t, (passOf env before).checkedAt = some t →
    t.instant ≤ e.wall.instant

theorem dueIff {now : UtcTime} {record : ActiveFlightSession} :
    Due now record ↔ record.forceCloseDue now = true := by
  unfold Due ActiveFlightSession.forceCloseDue
  rw [Bool.and_eq_true,Option.isNone_iff_eq_none]
  refine and_congr_right (fun _ => ?_)
  cases record.earliestFlagDt with
  | none => simp
  | some flag => simp

theorem dueLater {now later : UtcTime} {record : ActiveFlightSession} (due : Due now record)
    (forward : now.instant ≤ later.instant) : Due later record := by
  obtain ⟨unasked,flag,earliest,old⟩ := due
  exact ⟨unasked,flag,earliest,by omega⟩

def Spent (record : ActiveFlightSession) : Prop :=
  record.exitRequestedAt ≠ none ∨ record.earliestFlagDt = none

theorem spentNotDue {now : UtcTime} {record : ActiveFlightSession} (spent : Spent record) :
    ¬ Due now record := by
  intro due
  obtain ⟨unasked,flag,earliest,-⟩ := due
  rcases spent with asked | unflagged
  · exact asked unasked
  · rw [unflagged] at earliest; cases earliest

def Screened (s : State) (pass : Pass) : Prop :=
  ∀ pending n, s.sweeper = .forceClosing pending n → ∃ t, pass.checkedAt = some t ∧
    ∀ f ∈ pending, ∀ record, s.registry.getByFlightSessionId f = some record →
      (f ∈ pass.touched → Spent record) ∧ (f ∉ pass.touched → Due t record)

theorem forceClosePending {env : Env} {now : UtcTime} {candidates pending : List String} {s : State}
    {closed n : Nat}
    (waits : (forceClose env now candidates s closed).sweeper = .forceClosing pending n) :
    pending ⊆ candidates := by
  obtain ⟨rest,_,_,_,_,done,split_,⟨rfl,-⟩ | ⟨m,rfl⟩⟩ := forceCloseCases env now candidates s closed
  · rw [done] at waits; cases waits
  · rw [done] at waits
    cases waits
    rw [split_]
    exact List.subset_append_right ..

theorem pendingOrigin {env : Env} {s : State} {e : Event} {pending : List String} {n : Nat}
    (waits : (step env s e).sweeper = .forceClosing pending n) :
    (∃ before m, s.sweeper = .forceClosing before m ∧ pending ⊆ before) ∨
    ∃ strandedNow forceCloseNow, e.action = .sweep strandedNow forceCloseNow ∧
      s.sweeper = .sleeping ∧ pending ⊆ scannedCandidates s e.wall strandedNow forceCloseNow := by
  obtain ⟨now,loop,action⟩ := e
  cases action with
  | sweep strandedNow forceCloseNow =>
    cases resting : s.sweeper with
    | forceClosing before m =>
      simp only [step,sweep,resting] at waits
      exact .inl ⟨pending,n,waits,List.Subset.refl _⟩
    | sleeping =>
      simp only [step,sweep,resting] at waits
      exact .inr ⟨strandedNow,forceCloseNow,rfl,rfl,forceClosePending waits⟩
  | sweeperPosted outcome =>
    cases resting : s.sweeper with
    | sleeping =>
      simp only [step,sweeperPosted,resting] at waits
      cases waits
    | forceClosing before m =>
      simp only [step,sweeperPosted,resting] at waits
      exact .inl ⟨before,m,rfl,forceClosePending waits⟩
  | _ =>
    rw [(stepFrame env s _).sweeper rfl] at waits
    exact .inl ⟨pending,n,waits,List.Subset.refl _⟩

theorem exitSpent (requestedAt : String) (record : ActiveFlightSession) :
    Spent (record.stampExit requestedAt) := by
  unfold ActiveFlightSession.stampExit Spent
  split
  · simp
  · rename_i stamp set; simp [set]

theorem registeringSpent {s : State} {e : Event} {session : ActiveFlightSession}
    (made : registering s e = some session) : Spent session := by
  obtain ⟨_,p,-,-,rfl⟩ := registeringDecoded made
  exact .inr rfl

def touching (s : State) (e : Event) : List String :=
  (registering s e).toList.map ActiveFlightSession.flightSessionId ++
    (accepting s e).toList.map ExitRequestPayload.flightSessionId

theorem recordTouched {env : Env} {s : State} {e : Event} {f : String} {record : ActiveFlightSession}
    (calm : scanning s e = none) (left : ((step env s e).view f).record = some record) :
    (f ∈ touching s e → Spent record) ∧
      (f ∉ touching s e → (s.view f).record = some record) := by
  rw [stepView] at left
  constructor
  · intro mem
    simp only [touching,List.mem_append,List.mem_map,Option.mem_toList] at mem
    rcases mem with ⟨session,made,own⟩ | ⟨p,made,own⟩
    · rw [registeringMoves env made own] at left
      cases left
      exact registeringSpent made
    · rw [(acceptingMoves env made own).1] at left
      obtain ⟨old,-,rfl⟩ := Option.map_eq_some_iff.mp left
      exact exitSpent ..
  · intro apart
    have moved := stepMoved env s e f
    generalize moves env s e f = ms at moved left
    cases moved with
    | idle | observed | stubReported => exact left
    | registered made own => exact absurd (by simp [touching,made,own]) apart
    | exitAccepted made own active => exact absurd (by simp [touching,made,own]) apart
    | scanned made spared => rw [calm] at made; cases made
    | stubReleased | scannedFinalized | finalized => cases left

theorem notePassCalm {pass : Pass} {s : State} {e : Event} (calm : scanning s e = none) :
    notePass pass s e = { pass with touched := touching s e ++ pass.touched } := by
  obtain ⟨now,loop,action⟩ := e
  cases action with
  | sweep strandedNow forceCloseNow =>
    cases resting : s.sweeper with
    | sleeping => simp [scanning,resting] at calm
    | forceClosing before m => simp [notePass,resting,touching]
  | _ => simp [notePass,touching]

theorem memScannedCandidates {s : State} {now strandedNow forceCloseNow : UtcTime} {f : String} :
    f ∈ scannedCandidates s now strandedNow forceCloseNow ↔ ∃ record,
      (s.scanned now strandedNow).registry.getByFlightSessionId f = some record ∧
        Due forceCloseNow record := by
  simp only [scannedCandidates,List.mem_map,memCandidates,dueIff]
  constructor
  · intro selected
    obtain ⟨record,⟨found,due⟩,rfl⟩ := selected
    exact ⟨record,found,due⟩
  · intro scanned
    obtain ⟨record,found,due⟩ := scanned
    have own := ActiveSessionRegistry.recordFiled found
    subst own
    exact ⟨record,⟨found,due⟩,rfl⟩

theorem candidateDue {s : State} {now strandedNow forceCloseNow : UtcTime} {f : String}
    {record : ActiveFlightSession} (mem : f ∈ scannedCandidates s now strandedNow forceCloseNow)
    (found : (s.scanned now strandedNow).registry.getByFlightSessionId f = some record) :
    Due forceCloseNow record := by
  obtain ⟨candidate,registered,due⟩ := memScannedCandidates.mp mem
  cases registered.symm.trans found
  exact due

theorem stepScreened {env : Env} {s : State} {e : Event} {pass : Pass} (screened : Screened s pass) :
    Screened (step env s e) (notePass pass s e) := by
  intro pending n waits
  -- A pass that goes on has its candidates from before; a new one has just screened them.
  rcases pendingOrigin waits with ⟨before,m,waiting,within⟩ | ⟨strandedNow,forceCloseNow,action,resting,within⟩
  · obtain ⟨t,checked,candidates⟩ := screened before m waiting
    have calm : scanning s e = none := by
      simp only [scanning,waiting]
      split
      · contradiction
      · rfl
    rw [notePassCalm calm]
    refine ⟨t,checked,fun f mem record left => ?_⟩
    obtain ⟨spent,kept⟩ := recordTouched calm left
    by_cases now : f ∈ touching s e
    · exact ⟨fun _ => spent now,fun apart => absurd (List.mem_append_left _ now) apart⟩
    · obtain ⟨old,due⟩ := candidates f (within mem) record (kept now)
      refine ⟨fun touched => old ?_,fun apart => due (fun touched => apart (List.mem_append_right _ touched))⟩
      exact (List.mem_append.mp touched).resolve_left now
  · have fresh : notePass pass s e = ⟨some forceCloseNow,[]⟩ := by simp [notePass,action,resting]
    rw [fresh]
    refine ⟨forceCloseNow,rfl,fun f mem record left => ⟨by simp,fun _ => ?_⟩⟩
    have scans : scanning s e = some (e.wall,strandedNow) := by simp [scanning,action,resting]
    have survived : (s.scanned e.wall strandedNow).registry.getByFlightSessionId f = some record := by
      change ((s.scanned e.wall strandedNow).view f).record = some record
      change ((step env s e).view f).record = some record at left
      rw [stepView,scanningMoves env scans] at left
      rw [scannedView]
      split at left
      · cases left
      · exact left
    exact candidateDue (within mem) survived

theorem reachedCandidate {env : Env} {now : UtcTime} {candidates : List String} {s : State}
    {f : String} (mem : f ∈ reached env now candidates s) : f ∈ candidates := by
  obtain ⟨rest,_,_,_,_,-,split_,-⟩ := forceCloseCases env now candidates s 0
  rw [split_]
  exact List.mem_append_left _ mem

theorem sweepClosesDue {env : Env} {before : List Event} {e : Event} {f : String}
    {record : ActiveFlightSession} {strandedNow forceCloseNow : UtcTime}
    (action : e.action = .sweep strandedNow forceCloseNow)
    (taken : f ∈ closing env (after env before) e)
    (found : (registryAt (after env before) e).getByFlightSessionId f = some record) :
    Due e.finalizeClock record := by
  simp only [closing,finalizing,action] at taken
  cases resting : (after env before).sweeper with
  | forceClosing pending n => simp [resting] at taken
  | sleeping =>
    simp only [resting] at taken
    simp only [registryAt,action,resting] at found
    simp only [Event.finalizeClock,action]
    exact candidateDue (reachedCandidate taken) found

theorem resumedCloses {env : Env} {s : State} {e : Event} {pass : Pass} {f : String}
    {record : ActiveFlightSession} {outcome : PostOutcome} (screened : Screened s pass)
    (action : e.action = .sweeperPosted outcome) (taken : f ∈ closing env s e)
    (found : s.registry.getByFlightSessionId f = some record) :
    ∃ t, pass.checkedAt = some t ∧ (f ∈ pass.touched → Spent record) ∧
      (f ∉ pass.touched → Due t record) := by
  simp only [closing,finalizing,action] at taken
  cases resting : s.sweeper with
  | sleeping => simp [resting] at taken
  | forceClosing pending n =>
    simp only [resting] at taken
    obtain ⟨t,checked,candidates⟩ := screened pending n resting
    exact ⟨t,checked,candidates f (reachedCandidate taken) record found⟩

theorem closingAction {env : Env} {s : State} {e : Event} {f : String} (taken : f ∈ closing env s e) :
    (∃ strandedNow forceCloseNow, e.action = .sweep strandedNow forceCloseNow) ∨
      ∃ outcome, e.action = .sweeperPosted outcome := by
  obtain ⟨now,loop,action⟩ := e
  cases action with
  | sweep strandedNow forceCloseNow => exact .inl ⟨_,_,rfl⟩
  | sweeperPosted outcome => exact .inr ⟨_,rfl⟩
  | _ => simp [closing,finalizing] at taken

theorem runScreened (env : Env) (events : List Event) :
    Screened (after env events) (passOf env events) := by
  induction events using List.reverseRecOn with
  | nil => intro pending n waits; cases waits
  | append_singleton events e ih =>
    rw [afterConcat,passOf,Trace.historyConcat]
    exact stepScreened ih

theorem closesDueIfUntouched (env : Env) (events : List Event) :
    (Trace.Meets (ClosesDue env) events → Trace.Meets (Untouched env) events) ∧
    (Trace.Meets (fun before e => Untouched env before e ∧ ClockKept env before e) events →
      Trace.Meets (ClosesDue env) events) := by
  constructor
  · intro due before e reached resumes f taken registered touched
    obtain ⟨outcome,action⟩ := resumes
    obtain ⟨record,found⟩ := Option.isSome_iff_exists.mp registered
    obtain ⟨t,-,spent,-⟩ := resumedCloses (runScreened env before) action taken found
    have stays : registryAt (after env before) e = (after env before).registry := by
      simp [registryAt,action]
    exact spentNotDue (spent touched) (due before e reached f taken record (by rw [stays]; exact found))
  · intro guarded before e reached f taken record found
    obtain ⟨untouched,kept⟩ := guarded before e reached
    rcases closingAction taken with ⟨strandedNow,forceCloseNow,action⟩ | ⟨outcome,action⟩
    · exact sweepClosesDue action taken found
    · have stays : registryAt (after env before) e = (after env before).registry := by
        simp [registryAt,action]
      have clock : e.finalizeClock = e.wall := by simp [Event.finalizeClock,action]
      rw [stays] at found
      rw [clock]
      obtain ⟨t,checked,-,due⟩ := resumedCloses (runScreened env before) action taken found
      have apart := untouched ⟨outcome,action⟩ f taken (by rw [found]; rfl)
      exact dueLater (due apart) (kept ⟨outcome,action⟩ t checked)

def deadline (f drone : String) : Json :=
  .obj [("flight_session_id",.str f),("drone_id",.str drone),
    ("requested_exit_time",.str "2026-03-09T18:30:00+00:00")]

def overstay : List Event :=
  [(Action.registerSession (deadline "flight-A" "drone-1")).at 8 18 0 0,
    (Action.registerSession (deadline "flight-B" "drone-2")).at 8 18 0 0,
    (Action.sweep (march 8 18 31 0) (march 8 18 31 0)).at 8 18 31 0,
    (Action.sweep (march 9 18 31 0) (march 9 18 31 0)).at 9 18 31 0,
    (Action.exitRequest (.obj [("flight_session_id",.str "flight-B")])).at 9 18 31 5,
    (Action.sweeperPosted .returned).at 9 18 31 10]

instance (now : UtcTime) (record : ActiveFlightSession) : Decidable (Due now record) :=
  decidable_of_iff _ dueIff.symm

theorem passClosesExitedSession : ¬ Trace.Meets (ClosesDue deployment) overstay := by
  intro due
  have removal := due (overstay.take 5) ((Action.sweeperPosted .returned).at 9 18 31 10)
    (List.prefix_refl _) "flight-B" (by decide +kernel)
  obtain ⟨record,found,asked⟩ := Option.bind_eq_some_iff.mp
    (show ((after deployment (overstay.take 5)).registry.getByFlightSessionId "flight-B").bind
      ActiveFlightSession.exitRequestedAt = some "2026-03-10T18:31:05+00:00" by decide +kernel)
  rw [(removal record found).1] at asked
  cases asked

end FlightMonitor.ForceClose
