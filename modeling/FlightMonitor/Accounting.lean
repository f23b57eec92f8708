import FlightMonitor.PipelineMetrics

/-! The books of the pipeline. Every message that came in is counted once, as dropped, processed,
failed or skipped, or it is still on its way, and the high-water mark is the deepest the queue
ever was. A message without a drone id and one without a session are counted nowhere. -/
namespace FlightMonitor.Accounting
open PyValue IsoTime

def isReception (e : Event) : Bool :=
  match e.action with
  | .onMessage .. => true
  | _ => false

def ignored : WorkerOutcome → Bool
  | .missingDroneId | .noActiveSession => true
  | .failed _ | .processed => false

def skips (env : Env) (s : State) (t : Timed) : Bool :=
  match t.event.action,s.queue with
  | .worker written,message :: _ =>
    ignored (telemetryWorker env written s.registry s.tracker message t.event.wall).2.2
  | _,_ => false

def hasRoom (env : Env) (s : State) : Prop := env.queueSize = 0 ∨ s.queue.length < env.queueSize

instance (env : Env) (s : State) : Decidable (hasRoom env s) :=
  inferInstanceAs (Decidable (_ ∨ _))

def taskDone : Option Nat → Option Nat
  | some (n + 1) => some n
  | _ => none

def tallyTasks (env : Env) (unfinished : Option Nat) (s : State) (t : Timed) : Option Nat :=
  match t.event.action with
  | .enqueueMessage =>
    match s.scheduled with
    | [] => unfinished
    | _ :: _ => if hasRoom env s then unfinished.map (· + 1) else unfinished
  | .worker _ =>
    match s.queue with
    | [] => unfinished
    | _ :: _ => taskDone unfinished
  | _ => unfinished

def arrivals (env : Env) (run : List Timed) : Nat :=
  Trace.count (timedStep env) {} (fun _ t => isReception t.event = true) run

def skipped (env : Env) (run : List Timed) : Nat :=
  Trace.count (timedStep env) {} (fun s t => skips env s t = true) run

def unfinishedTasks (env : Env) (run : List Timed) : Option Nat :=
  Trace.history (timedStep env) {} (tallyTasks env) (some 0) run

def stateAfter (env : Env) (run : List Timed) : State := after env (run.map Timed.event)

/-- `unfinishedTasks` is never `none`: no worker calls `task_done` too often. -/
structure Balanced (env : Env) (s : State) (m : PipelineMetrics) (arrived ignored : Nat)
    (unfinished : Option Nat) : Prop where
  arrived : arrived = m.enqueuedMessages + m.droppedMessages + s.scheduled.length
  enqueued : m.enqueuedMessages =
    m.processedMessages + m.failedMessages + ignored + s.queue.length
  rows : m.finalRowsWritten = s.rows.length
  waits : m.queueLatency.count + s.queue.length = m.enqueuedMessages
  durations : m.processing.count = m.processedMessages + m.failedMessages
  tasks : unfinished = some s.queue.length
  bounded : env.queueSize ≠ 0 → s.queue.length ≤ env.queueSize

structure Accounted (env : Env) (run : List Timed) : Prop where
  balanced : Balanced env (stateAfter env run) (metricsAfter env run) (arrivals env run)
    (skipped env run) (unfinishedTasks env run)
  deepest : IsGreatest {depth | ∃ before, before <+: run ∧
    (stateAfter env before).queue.length = depth} (metricsAfter env run).maxQueueDepth
  waits : ∀ depth, 0 ≤ ((metricsAfter env run).snapshot depth).averageQueueLatencyMs ∧
    ((metricsAfter env run).snapshot depth).averageQueueLatencyMs ≤
      ((metricsAfter env run).snapshot depth).maxQueueLatencyMs
  durations : ∀ depth, 0 ≤ ((metricsAfter env run).snapshot depth).averageProcessingMs ∧
    ((metricsAfter env run).snapshot depth).averageProcessingMs ≤
      ((metricsAfter env run).snapshot depth).maxProcessingMs

inductive Measured (env : Env) (m : PipelineMetrics) (s : State) (t : Timed) :
    State → PipelineMetrics → Prop where
  | rested (s' : State) (queue : s'.queue = s.queue) (scheduled : s'.scheduled = s.scheduled)
      (rows : s'.rows = s.rows) (calm : isReception t.event = false) (silent : skips env s t = false)
      (tasks : ∀ u, tallyTasks env u s t = u) : Measured env m s t s' m
  | received (envelope : Members) (arrival : isReception t.event = true) (silent : skips env s t = false)
      (tasks : ∀ u, tallyTasks env u s t = u) :
      Measured env m s t { s with scheduled := s.scheduled ++ [envelope] } m
  | enqueued (envelope : Members) (scheduled : List Members)
      (waiting : s.scheduled = envelope :: scheduled) (room : hasRoom env s)
      (calm : isReception t.event = false) (silent : skips env s t = false)
      (tasks : ∀ u, tallyTasks env u s t = u.map (· + 1)) :
      Measured env m s t { s with scheduled := scheduled, queue := s.queue ++ [envelope] }
        (m.recordEnqueue (s.queue.length + 1))
  | dropped (envelope : Members) (scheduled : List Members)
      (waiting : s.scheduled = envelope :: scheduled) (full : ¬ hasRoom env s)
      (calm : isReception t.event = false) (silent : skips env s t = false)
      (tasks : ∀ u, tallyTasks env u s t = u) :
      Measured env m s t { s with scheduled := scheduled } (m.recordDrop s.queue.length)
  | handled (message : Members) (queue : List Members) (tracker : DroneStateTracker)
      (rows : List MissionRow) (outcome : WorkerOutcome) (waiting : s.queue = message :: queue)
      (few : rows.length ≤ 1) (calm : isReception t.event = false) (silent : skips env s t = ignored outcome)
      (tasks : ∀ u, tallyTasks env u s t = taskDone u) :
      Measured env m s t { s with queue := queue, tracker := tracker, rows := s.rows ++ rows }
        (observeOutcome (observeRows (observeWait m message t.event.loop queue.length) rows)
          (t.finished - t.event.loop) outcome)

theorem workerRows (env : Env) (written : Except PyError Unit) (reg : ActiveSessionRegistry)
    (tracker : DroneStateTracker) (message : Members) (now : UtcTime) :
    (telemetryWorker env written reg tracker message now).2.1.length ≤ 1 := by
  unfold telemetryWorker writeTerminalRow
  repeat' split
  all_goals simp

theorem restedRows (env : Env) (s : State) {e : Event} (rests : e.action.isTelemetry = false) :
    (step env s e).rows = s.rows := by
  obtain ⟨now,loop,action⟩ := e
  cases action with
  | registerSession body =>
    rcases registerSessionCases s body now loop with ⟨-,done⟩ | ⟨_,-,-,done⟩ <;> simp only [step,done]
  | exitRequest body =>
    rcases exitRequestCases s body now loop with ⟨-,done⟩ | ⟨_,_,-,-,-,done⟩ <;> simp only [step,done]
  | onMessage | enqueueMessage | worker => cases rests
  | stubFires i =>
    obtain ⟨_,⟨-,done,-⟩ | ⟨_,-,done,-⟩⟩ := stubFiresCases env s i now loop <;> simp only [step,done]
  | stubPosted i outcome =>
    obtain ⟨_,⟨-,done,-⟩ | ⟨_,-,done,-⟩⟩ := stubPostedCases s i outcome now loop <;>
      simp only [step,done]
  | graceStarts i =>
    simp only [step,graceStarts]
    split <;> rfl
  | graceChecks i =>
    rcases graceChecksCases env s i loop now with
      ⟨-,done | ⟨_,_,-,⟨-,done⟩ | ⟨_,-,done⟩⟩⟩ | ⟨_,_,-,-,done⟩ <;>
      simp only [step,done,State.setGrace,finalizeCases]
  | gracePosted i outcome =>
    simp only [step,gracePosted]
    split
    · cases outcome <;> rfl
    · rfl
  | sweep strandedNow forceCloseNow =>
    simp only [step,sweep]
    split
    · rfl
    · obtain ⟨_,_,_,_,_,done,-,-⟩ := forceCloseCases env forceCloseNow
        ((findForceCloseCandidates (s.scanned now strandedNow).registry forceCloseNow).map
          ActiveFlightSession.flightSessionId) (s.scanned now strandedNow) 0
      rw [done]
      rfl
  | sweeperPosted outcome =>
    simp only [step,sweeperPosted]
    split
    · rfl
    · obtain ⟨_,_,_,_,_,done,-,-⟩ := forceCloseCases env now _ s _
      rw [done]

theorem restedMeasured {env : Env} (m : PipelineMetrics) (s : State) {t : Timed}
    (rests : t.event.action.isTelemetry = false) :
    Measured env m s t (step env s t.event) (measure env m s t) := by
  have lane := (stepFrame env s t.event).lane rests
  have rows := restedRows env s rests
  have same : measure env m s t = m := by
    unfold measure
    split <;> simp_all [Action.isTelemetry]
  rw [same]
  refine .rested (step env s t.event) lane.1 lane.2 rows ?_ ?_ (fun u => ?_)
  · unfold isReception
    split <;> simp_all [Action.isTelemetry]
  · unfold skips
    split <;> simp_all [Action.isTelemetry]
  · unfold tallyTasks
    split <;> simp_all [Action.isTelemetry]

theorem measured (env : Env) (m : PipelineMetrics) (s : State) (t : Timed) :
    Measured env m s t (step env s t.event) (measure env m s t) := by
  obtain ⟨⟨now,loop,action⟩,finished⟩ := t
  cases action with
  | onMessage topic payload => exact .received _ rfl rfl (fun _ => rfl)
  | enqueueMessage =>
    simp only [step,enqueueMessage,measure,measureEnqueue]
    cases waiting : s.scheduled with
    | nil =>
      exact .rested s rfl rfl rfl rfl rfl (fun u => by simp only [tallyTasks,waiting])
    | cons envelope scheduled =>
      by_cases room : hasRoom env s
      · simp only [if_pos (show env.queueSize = 0 ∨ s.queue.length < env.queueSize from room)]
        exact .enqueued envelope scheduled waiting room rfl rfl
          (fun u => by simp only [tallyTasks,waiting,if_pos room])
      · simp only [if_neg (show ¬ (env.queueSize = 0 ∨ s.queue.length < env.queueSize) from room)]
        exact .dropped envelope scheduled waiting room rfl rfl
          (fun u => by simp only [tallyTasks,waiting,if_neg room])
  | worker written =>
    simp only [step,worker,measure,measureWorker]
    cases waiting : s.queue with
    | nil =>
      exact .rested s rfl rfl rfl rfl (by simp only [skips,waiting])
        (fun u => by simp only [tallyTasks,waiting])
    | cons message queue =>
      have few := workerRows env written s.registry s.tracker message now
      have silent : skips env s ⟨⟨now,loop,.worker written⟩,finished⟩ =
          ignored (telemetryWorker env written s.registry s.tracker message now).2.2 := by
        simp only [skips,waiting]
      dsimp only
      generalize telemetryWorker env written s.registry s.tracker message now = result
        at few silent ⊢
      obtain ⟨tracker,rows,outcome⟩ := result
      exact .handled message queue tracker rows outcome waiting few rfl silent
        (fun u => by simp only [tallyTasks,waiting])
  | _ => exact restedMeasured m s rfl

structure Tallied (m m' : PipelineMetrics) (depth rows : Nat) (outcome : WorkerOutcome) : Prop where
  enqueued : m'.enqueuedMessages = m.enqueuedMessages
  dropped : m'.droppedMessages = m.droppedMessages
  handled : m'.processedMessages + m'.failedMessages + (ignored outcome).toNat =
    m.processedMessages + m.failedMessages + 1
  durations : m'.processing.count + (ignored outcome).toNat = m.processing.count + 1
  waits : m'.queueLatency.count = m.queueLatency.count + 1
  rows : m'.finalRowsWritten = m.finalRowsWritten + rows
  depth : m'.maxQueueDepth = max m.maxQueueDepth depth

theorem observedRows (m : PipelineMetrics) {rows : List MissionRow} (few : rows.length ≤ 1) :
    observeRows m rows = { m with finalRowsWritten := m.finalRowsWritten + rows.length } := by
  cases rows with
  | nil => rfl
  | cons row rest =>
    cases rest with
    | nil => rfl
    | cons => simp at few

theorem outcomeTallied {m : PipelineMetrics} {message : Members} {reading : Rat}
    (timed : enqueuedMonotonic message = some reading) {rows : List MissionRow}
    (few : rows.length ≤ 1) (started seconds : Rat) (depth : Nat) (outcome : WorkerOutcome) :
    Tallied m (observeOutcome (observeRows (observeWait m message started depth) rows) seconds outcome)
      depth rows.length outcome := by
  have observed : observeRows (observeWait m message started depth) rows =
      { m.observeQueueLatency (started - reading) depth with
        finalRowsWritten := m.finalRowsWritten + rows.length } := by
    simp only [observeWait,timed,observedRows _ few,PipelineMetrics.observeQueueLatency]
  rw [observed]
  cases outcome <;> constructor <;>
    simp [observeOutcome,ignored,PipelineMetrics.observeFailure,PipelineMetrics.observeProcessed,
      PipelineMetrics.observeQueueLatency,Summary.observe] <;> omega

theorem balancedStep {env : Env} {s : State} {m : PipelineMetrics} {t : Timed} {arrived passed : Nat}
    {unfinished : Option Nat} (balanced : Balanced env s m arrived passed unfinished)
    (timed : ∀ message queue, s.queue = message :: queue →
      ∃ reading, enqueuedMonotonic message = some reading) :
    Balanced env (step env s t.event) (measure env m s t) (arrived + (isReception t.event).toNat)
      (passed + (skips env s t).toNat) (tallyTasks env unfinished s t) := by
  have step_ := measured env m s t
  obtain ⟨arrived',enqueued',rows',waits',durations',tasks',bounded'⟩ := balanced
  generalize step env s t.event = next,measure env m s t = counted at step_ ⊢
  cases step_ with
  | rested _ queue scheduled rows calm silent tasks =>
    rw [calm,silent,tasks]
    exact ⟨by rw [scheduled]; exact arrived',by rw [queue]; exact enqueued',by rw [rows]; exact rows',
      by rw [queue]; exact waits',durations',by rw [queue]; exact tasks',
      by rw [queue]; exact bounded'⟩
  | received envelope arrival silent tasks =>
    rw [arrival,silent,tasks]
    refine ⟨?_,enqueued',rows',waits',durations',tasks',bounded'⟩
    simp only [List.length_append,List.length_singleton,Bool.toNat_true]
    omega
  | enqueued envelope scheduled waiting room calm silent tasks =>
    rw [calm,silent,tasks]
    have length := congrArg List.length waiting
    simp only [List.length_cons] at length
    constructor <;>
      simp only [PipelineMetrics.recordEnqueue,List.length_append,List.length_singleton,
        Bool.toNat_false,Nat.add_zero]
    · omega
    · omega
    · exact rows'
    · omega
    · exact durations'
    · rw [tasks',Option.map_some]
    · intro limited
      exact (room.resolve_left limited)
  | dropped envelope scheduled waiting full calm silent tasks =>
    rw [calm,silent,tasks]
    have length := congrArg List.length waiting
    simp only [List.length_cons] at length
    refine ⟨?_,enqueued',rows',waits',durations',tasks',bounded'⟩
    simp only [PipelineMetrics.recordDrop,Bool.toNat_false]
    omega
  | handled message queue tracker rows outcome waiting few calm silent tasks =>
    obtain ⟨reading,stamped⟩ := timed message queue waiting
    have tallied := outcomeTallied (m := m) stamped few t.event.loop (t.finished - t.event.loop)
      queue.length outcome
    have length := congrArg List.length waiting
    simp only [List.length_cons] at length
    rw [calm,silent,tasks]
    obtain ⟨enqueued,dropped,handled,durations,waits,rows_,-⟩ := tallied
    refine ⟨?_,?_,?_,?_,?_,?_,?_⟩
    · rw [enqueued,dropped]
      exact arrived'
    · dsimp only
      omega
    · rw [rows_,rows',List.length_append]
    · dsimp only
      omega
    · omega
    · rw [tasks',length]
      rfl
    · intro limited
      have within := bounded' limited
      dsimp only
      omega

theorem queuedTimed {env : Env} {events : List Event} {message : Members} {queue : List Members}
    (waiting : (after env events).queue = message :: queue) :
    ∃ reading, enqueuedMonotonic message = some reading := by
  obtain ⟨r,rest,-,rfl,received⟩ := queueReceived waiting
  obtain ⟨topic,payload,acts⟩ := received.message
  exact ⟨r.2.loop,by simp [enqueuedMonotonic,envelope,acts,Json.member,Dict.lookup]⟩

@[simp] theorem stateConcat (env : Env) (run : List Timed) (t : Timed) :
    stateAfter env (run ++ [t]) = step env (stateAfter env run) t.event := by
  simp [stateAfter]

theorem countToNat {env : Env} {run : List Timed} {t : Timed} (p : State → Timed → Bool) :
    Trace.count (timedStep env) {} (fun s t => p s t = true) (run ++ [t]) =
      Trace.count (timedStep env) {} (fun s t => p s t = true) run +
        (p (stateAfter env run) t).toNat := by
  rw [Trace.countConcat,timedFinal]
  change _ = _ + (p (after env (run.map Timed.event)) t).toNat
  cases p (after env (run.map Timed.event)) t <;> rfl

theorem runBalanced (env : Env) (run : List Timed) : Balanced env (stateAfter env run)
    (metricsAfter env run) (arrivals env run) (skipped env run) (unfinishedTasks env run) := by
  induction run using List.reverseRecOn with
  | nil => constructor <;> simp [stateAfter,arrivals,skipped,unfinishedTasks,Summary.blank]
  | append_singleton run t ih =>
    have next := balancedStep (t := t) ih (fun _ _ waiting => queuedTimed waiting)
    rw [stateConcat,metricsConcat]
    simp only [arrivals,skipped,unfinishedTasks,countToNat,Trace.historyConcat,timedFinal] at next ⊢
    exact next

theorem depthStep (env : Env) {s : State} {m : PipelineMetrics} (t : Timed)
    (within : s.queue.length ≤ m.maxQueueDepth)
    (timed : ∀ message queue, s.queue = message :: queue →
      ∃ reading, enqueuedMonotonic message = some reading) :
    (measure env m s t).maxQueueDepth = max m.maxQueueDepth (step env s t.event).queue.length := by
  have step_ := measured env m s t
  generalize step env s t.event = next,measure env m s t = counted at step_ ⊢
  cases step_ with
  | rested _ queue => rw [queue,max_eq_left within]
  | received => exact (max_eq_left within).symm
  | enqueued => simp [PipelineMetrics.recordEnqueue]
  | dropped => rfl
  | handled message queue tracker rows outcome waiting few =>
    obtain ⟨reading,stamped⟩ := timed message queue waiting
    exact (outcomeTallied stamped few ..).depth

theorem runDeepest (env : Env) (run : List Timed) :
    IsGreatest {depth | ∃ before, before <+: run ∧ (stateAfter env before).queue.length = depth}
      (metricsAfter env run).maxQueueDepth := by
  induction run using List.reverseRecOn with
  | nil =>
    refine ⟨⟨[],List.prefix_refl _,rfl⟩,?_⟩
    rintro depth ⟨before,within,rfl⟩
    rw [List.prefix_nil.mp within]
    exact le_refl _
  | append_singleton run t ih =>
    obtain ⟨⟨peak,early,attained⟩,bound⟩ := ih
    have within := bound ⟨run,List.prefix_refl _,rfl⟩
    have next := depthStep env t within (fun _ _ waiting => queuedTimed waiting)
    rw [metricsConcat]
    change IsGreatest _ (measure env _ (stateAfter env run) t).maxQueueDepth
    rw [next,← stateConcat]
    refine ⟨?_,?_⟩
    · rcases le_total (stateAfter env (run ++ [t])).queue.length
        (metricsAfter env run).maxQueueDepth with low | high
      · rw [max_eq_left low]
        exact ⟨peak,early.trans (List.prefix_append ..),attained⟩
      · rw [max_eq_right high]
        exact ⟨_,List.prefix_refl _,rfl⟩
    · rintro depth ⟨before,inside,rfl⟩
      rcases List.prefix_concat_iff.mp inside with rfl | earlier
      · exact le_max_right ..
      · exact (bound ⟨before,earlier,rfl⟩).trans (le_max_left ..)

theorem observedSound {m : PipelineMetrics} (wait : m.queueLatency.Sound)
    (duration : m.processing.Sound) (message : Members) (started seconds : Rat) (depth : Nat)
    (rows : List MissionRow) (outcome : WorkerOutcome) :
    (observeOutcome (observeRows (observeWait m message started depth) rows) seconds
      outcome).queueLatency.Sound ∧
    (observeOutcome (observeRows (observeWait m message started depth) rows) seconds
      outcome).processing.Sound := by
  have waited : (observeRows (observeWait m message started depth) rows).queueLatency.Sound ∧
      (observeRows (observeWait m message started depth) rows).processing.Sound := by
    unfold observeRows observeWait
    split <;> split
    · exact ⟨Summary.soundObserve wait (le_max_left ..),duration⟩
    · exact ⟨wait,duration⟩
    · exact ⟨Summary.soundObserve wait (le_max_left ..),duration⟩
    · exact ⟨wait,duration⟩
  cases outcome with
  | failed e => exact ⟨waited.1,Summary.soundObserve waited.2 (le_max_left ..)⟩
  | missingDroneId => exact waited
  | noActiveSession => exact waited
  | processed => exact ⟨waited.1,Summary.soundObserve waited.2 (le_max_left ..)⟩

theorem runSound (env : Env) (run : List Timed) :
    (metricsAfter env run).queueLatency.Sound ∧ (metricsAfter env run).processing.Sound := by
  induction run using List.reverseRecOn with
  | nil => exact ⟨Summary.soundBlank,Summary.soundBlank⟩
  | append_singleton run t ih =>
    rw [metricsConcat]
    have step_ := measured env (metricsAfter env run) (after env (run.map Timed.event)) t
    generalize step env _ t.event = next,measure env _ _ t = counted at step_ ⊢
    cases step_ with
    | rested | received | enqueued | dropped => exact ih
    | handled message queue tracker rows outcome => exact observedSound ih.1 ih.2 ..

theorem averageMs {s : Summary Rat} (sound : s.Sound) :
    0 ≤ s.average * 1000 ∧ s.average * 1000 ≤ s.highest * 1000 := by
  obtain ⟨low,high⟩ := Summary.soundAverage sound
  constructor <;> linarith

theorem everyMessageAccounted (env : Env) (run : List Timed) : Accounted env run :=
  ⟨runBalanced env run,runDeepest env run,fun _ => averageMs (runSound env run).1,
    fun _ => averageMs (runSound env run).2⟩

def ledger (env : Env) (events : List Event) : Backlog.Ledger Event :=
  Trace.history (step env) {} (fun l s e => l.record e (laneOp env s e)) {} events

/-- The receptions of a run: the messages in the queue and on their way to it are theirs, those
taken by workers or still waiting stand in the order of reception, no reception is lost or
handled twice, and one is dropped only at a full queue. -/
structure Delivered (env : Env) (events : List Event) : Prop where
  received : (ledger env events).received = events.filter isReception
  waiting : (ledger env events).lane.map envelope = (after env events).lane
  ordered : ((ledger env events).taken ++ (ledger env events).lane.waiting).Sublist
    (events.filter isReception)
  complete : ((ledger env events).taken ++ (ledger env events).lane.waiting ++
    (ledger env events).dropped).Perm (events.filter isReception)
  taken : Trace.Meets (fun before e => (ledger env (before ++ [e])).taken =
    (ledger env before).taken ++ match e.action with
      | .worker _ => (ledger env before).lane.queue.take 1
      | _ => []) events
  dropped : Trace.Meets (fun before e =>
    (ledger env (before ++ [e])).dropped ≠ (ledger env before).dropped →
    env.queueSize ≠ 0 ∧ (after env before).queue.length = env.queueSize) events

@[simp] theorem ledgerConcat (env : Env) (events : List Event) (e : Event) :
    ledger env (events ++ [e]) = (ledger env events).record e (laneOp env (after env events) e) :=
  Trace.historyConcat ..

theorem ledgerReceived (env : Env) (events : List Event) :
    (ledger env events).received = events.filter isReception := by
  induction events using List.reverseRecOn with
  | nil => rfl
  | append_singleton events e ih =>
    obtain ⟨now,loop,action⟩ := e
    rw [ledgerConcat,List.filter_append]
    cases action with
    | onMessage topic payload => exact congrArg (· ++ _) ih
    | enqueueMessage =>
      simp only [laneOp]
      split <;> simp [Backlog.Ledger.record,isReception,ih]
    | _ => simp [Backlog.Ledger.record,laneOp,isReception,ih]

theorem ledgerLane (env : Env) (events : List Event) :
    (ledger env events).lane.map envelope = (after env events).lane := by
  induction events using List.reverseRecOn with
  | nil => rfl
  | append_singleton events e ih =>
    rw [ledgerConcat,afterLane,← ih]
    exact Backlog.mapRun ..

theorem ledgerQueue (env : Env) (events : List Event) :
    (ledger env events).lane.queue.map envelope = (after env events).queue :=
  congrArg Backlog.Lane.queue (ledgerLane env events)

theorem ledgerKept (env : Env) (events : List Event) : (ledger env events).Kept := by
  induction events using List.reverseRecOn with
  | nil => exact Backlog.keptEmpty
  | append_singleton events e ih => rw [ledgerConcat]; exact Backlog.keptRecord ih ..

theorem takenStep (env : Env) (s : State) (e : Event) (l : Backlog.Ledger Event) :
    (l.record e (laneOp env s e)).taken = l.taken ++ match e.action with
      | .worker _ => l.lane.queue.take 1
      | _ => [] := by
  obtain ⟨now,loop,action⟩ := e
  cases action with
  | enqueueMessage =>
    simp only [laneOp]
    split <;> simp [Backlog.Ledger.record]
  | _ => simp [Backlog.Ledger.record,laneOp]

theorem droppedFull {env : Env} {s : State} {e : Event} (l : Backlog.Ledger Event)
    (changed : (l.record e (laneOp env s e)).dropped ≠ l.dropped) :
    env.queueSize ≠ 0 ∧ env.queueSize ≤ s.queue.length := by
  obtain ⟨now,loop,action⟩ := e
  cases action with
  | enqueueMessage =>
    simp only [laneOp] at changed
    split at changed
    · exact absurd rfl changed
    · rename_i full
      exact ⟨fun unlimited => full (.inl unlimited),Nat.not_lt.mp (fun room => full (.inr room))⟩
  | _ => exact absurd rfl changed

theorem queueBounded {env : Env} (limited : env.queueSize ≠ 0) (events : List Event) :
    (after env events).queue.length ≤ env.queueSize := by
  have timed : (events.map (fun e => (⟨e,0⟩ : Timed))).map Timed.event = events := by
    simp [Function.comp_def]
  have bounded := (runBalanced env (events.map (fun e => (⟨e,0⟩ : Timed)))).bounded limited
  rwa [stateAfter,timed] at bounded

theorem deliveredOnce (env : Env) (events : List Event) : Delivered env events := by
  have kept := ledgerKept env events
  have received := ledgerReceived env events
  refine ⟨received,ledgerLane env events,received ▸ kept.ordered,received ▸ kept.complete,?_,?_⟩
  · intro before e _
    rw [ledgerConcat]
    exact takenStep ..
  · intro before e _ changed
    rw [ledgerConcat] at changed
    obtain ⟨limited,full⟩ := droppedFull _ changed
    exact ⟨limited,le_antisymm (queueBounded limited before) full⟩

end FlightMonitor.Accounting
