import FlightMonitor.Accounting

/-! The end of `run_pipeline` (`app/main.py`). Once cancelled it ends its helper tasks, stops the
MQTT client, waits for the queue to be joined, but not for ever, and then cancels the workers.
The client is stopped while the event loop stands still; what it receives meanwhile is scheduled,
and the join asks about the queue only. -/
namespace FlightMonitor.Shutdown
open Accounting Backlog

/-- Where `run_pipeline` stands: at its event, which nobody sets; at the gather over its helper
tasks; inside `mqtt_client.stop`; at `queue.join`, whose waiter is released or not; or past it,
by its return or by the timeout, with the workers cancelled. -/
inductive Phase where
  | running
  | gathering
  | stopping
  | joining (released : Bool)
  | closing (drained : Bool)
  deriving DecidableEq, Repr

structure RunPipeline where
  phase : Phase := .running
  service : State := {}
  unfinishedTasks : Option Nat := some 0

inductive Turn where
  | serves (event : Event)
  | cancelled
  | gathered
  | clientStopped
  | joinReturned
  | joinTimedOut

/-- Who can act: all tasks until the client is being stopped, then only its network thread, then
all tasks without it, and at last all but the workers. -/
def Phase.allows : Phase → Action → Bool
  | .stopping,.onMessage .. => true
  | .stopping,_ => false
  | .joining _,.onMessage .. => false
  | .closing _,.onMessage .. => false
  | .closing _,.worker _ => false
  | _,_ => true

-- `task_done` sets the event that `join` waits for when it counts down to zero.
def Phase.finished (phase : Phase) (before after : Option Nat) : Phase :=
  match phase with
  | .joining released => .joining (released || (decide (after = some 0) && decide (before ≠ some 0)))
  | phase => phase

def serve (env : Env) (p : RunPipeline) (e : Event) : RunPipeline :=
  let unfinished := tallyTasks env p.unfinishedTasks p.service ⟨e,0⟩
  { phase := p.phase.finished p.unfinishedTasks unfinished
    service := step env p.service e
    unfinishedTasks := unfinished }

def turn (env : Env) (p : RunPipeline) : Turn → RunPipeline
  | .serves e => if p.phase.allows e.action then serve env p e else p
  | .cancelled =>
    match p.phase with
    | .running => { p with phase := .gathering }
    | _ => p
  | .gathered =>
    match p.phase with
    | .gathering => { p with phase := .stopping }
    | _ => p
  | .clientStopped =>
    match p.phase with
    -- `wait_for` of Python 3.12 awaits the join itself, which with no unfinished task returns
    -- without giving way to the loop.
    | .stopping => { p with phase :=
        if p.unfinishedTasks = some 0 then .closing true else .joining false }
    | _ => p
  | .joinReturned =>
    match p.phase with
    | .joining true => { p with phase := .closing true }
    | _ => p
  | .joinTimedOut =>
    match p.phase with
    | .joining _ => { p with phase := .closing false }
    | _ => p

def runPipeline (env : Env) (turns : List Turn) : RunPipeline := Trace.final (turn env) {} turns

def perform (events : List Event) (p : RunPipeline) : Turn → List Event
  | .serves e => if p.phase.allows e.action then events ++ [e] else events
  | _ => events

def performed (env : Env) (turns : List Turn) : List Event :=
  Trace.history (turn env) {} perform [] turns

def books (env : Env) (turns : List Turn) : Ledger Event := ledger env (performed env turns)

structure Drains (stopped now : Ledger Event) (drained : Bool) : Prop where
  received : now.received = stopped.received
  left : now.lane.waiting.Sublist stopped.lane.waiting
  taken : drained = true → (stopped.taken ++ stopped.lane.queue) <+: now.taken
  late : drained = true → now.lane.waiting.Sublist stopped.lane.scheduled
  unattended : stopped.lane.queue = [] → now.taken = stopped.taken
  complete : drained = true → stopped.lane.scheduled = [] →
    (now.taken ++ now.dropped).Perm now.received

def untimed (events : List Event) : List Timed := events.map (fun e => ⟨e,0⟩)

theorem untimedEvents (events : List Event) : (untimed events).map Timed.event = events := by
  simp [untimed,Function.comp_def]

@[simp] theorem pipelineConcat (env : Env) (turns : List Turn) (t : Turn) :
    runPipeline env (turns ++ [t]) = turn env (runPipeline env turns) t := Trace.finalConcat ..

@[simp] theorem performedConcat (env : Env) (turns : List Turn) (t : Turn) :
    performed env (turns ++ [t]) = perform (performed env turns) (runPipeline env turns) t :=
  Trace.historyConcat ..

structure Runs (env : Env) (p : RunPipeline) (events : List Event) : Prop where
  service : p.service = after env events
  unfinished : p.unfinishedTasks = unfinishedTasks env (untimed events)

theorem serveRuns {env : Env} {p : RunPipeline} {events : List Event} (runs : Runs env p events)
    (e : Event) : Runs env (serve env p e) (events ++ [e]) := by
  constructor
  · rw [afterConcat,← runs.service]
    rfl
  · have state : Trace.final (timedStep env) {} (untimed events) = p.service := by
      rw [timedFinal,untimedEvents,runs.service]
    simp only [serve,runs.unfinished,unfinishedTasks,untimed,List.map_append,List.map_cons,
      List.map_nil,Trace.historyConcat]
    rw [← untimed,state]

theorem turnRuns {env : Env} {p : RunPipeline} {events : List Event} (runs : Runs env p events)
    (t : Turn) : Runs env (turn env p t) (perform events p t) := by
  cases t with
  | serves e =>
    simp only [turn,perform]
    split
    · exact serveRuns runs e
    · exact runs
  | _ =>
    simp only [turn,perform]
    split <;> exact ⟨runs.service,runs.unfinished⟩

theorem pipelineRuns (env : Env) (turns : List Turn) :
    Runs env (runPipeline env turns) (performed env turns) := by
  induction turns using List.reverseRecOn with
  | nil => exact ⟨rfl,rfl⟩
  | append_singleton turns t ih =>
    rw [pipelineConcat,performedConcat]
    exact turnRuns ih t

theorem pipelineUnfinished (env : Env) (turns : List Turn) :
    (runPipeline env turns).unfinishedTasks = some (books env turns).lane.queue.length := by
  obtain ⟨service,unfinished⟩ := pipelineRuns env turns
  have balanced := (runBalanced env (untimed (performed env turns))).tasks
  rw [← unfinished,stateAfter,untimedEvents] at balanced
  have queue : (books env turns).lane.queue.map envelope = (after env (performed env turns)).queue :=
    ledgerQueue env (performed env turns)
  rw [balanced,← queue,List.length_map]

def Phase.joined : Phase → Bool
  | .joining released => released
  | .closing drained => drained
  | _ => false

def Phase.halted : Phase → Bool
  | .closing _ => true
  | _ => false

structure Draining (stopped now : Ledger Event) (phase : Phase) : Prop where
  past : (∃ released, phase = .joining released) ∨ ∃ drained, phase = .closing drained
  received : now.received = stopped.received
  left : now.lane.waiting.Sublist stopped.lane.waiting
  onward : (stopped.taken ++ stopped.lane.queue) <+: now.taken ++ now.lane.queue
  scheduled : now.lane.scheduled <:+ stopped.lane.scheduled
  taken : phase.joined = true → (stopped.taken ++ stopped.lane.queue) <+: now.taken
  late : phase.joined = true → now.lane.waiting.Sublist stopped.lane.scheduled
  unattended : stopped.lane.queue = [] → phase.halted = true ∧ now.taken = stopped.taken

theorem drainingStart (l : Ledger Event) :
    Draining l l (if l.lane.queue = [] then .closing true else .joining false) := by
  by_cases empty : l.lane.queue = []
  · rw [if_pos empty]
    refine ⟨.inr ⟨true,rfl⟩,rfl,List.Sublist.refl _,List.prefix_refl _,List.suffix_refl _,?_,?_,?_⟩
    · intro _
      rw [empty,List.append_nil]
    · intro _
      rw [Lane.waiting,empty,List.nil_append]
    · exact fun _ => ⟨rfl,rfl⟩
  · rw [if_neg empty]
    exact ⟨.inl ⟨false,rfl⟩,rfl,List.Sublist.refl _,List.prefix_refl _,List.suffix_refl _,
      fun joined => absurd joined (by decide),fun joined => absurd joined (by decide),
      fun none => absurd none empty⟩

theorem quietLane (env : Env) (s : State) {e : Event} {phase : Phase}
    (past : (∃ released, phase = .joining released) ∨ ∃ drained, phase = .closing drained)
    (lets : phase.allows e.action = true) : laneOp env s e ≠ .receives := by
  obtain ⟨now,loop,action⟩ := e
  cases action with
  | onMessage topic payload => rcases past with ⟨_,rfl⟩ | ⟨_,rfl⟩ <;> cases lets
  | enqueueMessage =>
    simp only [laneOp]
    split <;> simp
  | _ => simp [laneOp]

theorem haltedTakes {env : Env} {s : State} {e : Event} {phase : Phase} (halted : phase.halted = true)
    (lets : phase.allows e.action = true) : laneOp env s e ≠ .takes := by
  obtain ⟨now,loop,action⟩ := e
  cases phase with
  | closing drained =>
    cases action with
    | worker written => cases lets
    | enqueueMessage =>
      simp only [laneOp]
      split <;> simp
    | _ => simp [laneOp]
  | _ => cases halted

theorem recordQuiet {op : Op} (l : Ledger Event) (e : Event) (quiet : op ≠ .receives) :
    (l.record e op).received = l.received := by
  cases op with
  | receives => exact absurd rfl quiet
  | _ => rfl

theorem recordUntaken {op : Op} (l : Ledger Event) (e : Event) (still : op ≠ .takes) :
    (l.record e op).taken = l.taken := by
  cases op with
  | takes => exact absurd rfl still
  | _ => rfl

theorem finishedJoined {phase : Phase} {before after : Option Nat}
    (joined : (phase.finished before after).joined = true) : phase.joined = true ∨ after = some 0 := by
  cases phase with
  | joining released =>
    simp only [Phase.finished,Phase.joined,Bool.or_eq_true,Bool.and_eq_true,decide_eq_true_eq]
      at joined
    exact joined.imp id And.left
  | _ => exact .inl joined

theorem finishedPast {phase : Phase}
    (past : (∃ released, phase = .joining released) ∨ ∃ drained, phase = .closing drained)
    (before after : Option Nat) : (∃ released, phase.finished before after = .joining released) ∨
      ∃ drained, phase.finished before after = .closing drained := by
  rcases past with ⟨_,rfl⟩ | ⟨_,rfl⟩
  · exact .inl ⟨_,rfl⟩
  · exact .inr ⟨_,rfl⟩

theorem drainingServes {env : Env} {stopped now : Ledger Event} {phase : Phase} {s : State}
    (draining : Draining stopped now phase) {e : Event} (lets : phase.allows e.action = true)
    (before : Option Nat) {after : Option Nat}
    (count : after = some 0 → (now.record e (laneOp env s e)).lane.queue = []) :
    Draining stopped (now.record e (laneOp env s e)) (phase.finished before after) := by
  have quiet := quietLane env s draining.past lets
  have grows := takenGrows now e (laneOp env s e)
  have onward := draining.onward.trans (takenOnward now e (laneOp env s e))
  have scheduled : (now.record e (laneOp env s e)).lane.scheduled <:+ stopped.lane.scheduled :=
    (scheduledLater quiet e now.lane).trans draining.scheduled
  have left := waitingLater quiet e now.lane
  refine ⟨finishedPast draining.past .., ?_,left.trans draining.left,onward,scheduled,?_,?_,?_⟩
  · rw [recordQuiet now e quiet,draining.received]
  · intro joined
    rcases finishedJoined joined with old | empty
    · exact (draining.taken old).trans grows
    · rwa [count empty,List.append_nil] at onward
  · intro joined
    rcases finishedJoined joined with old | empty
    · exact left.trans (draining.late old)
    · rw [Lane.waiting,count empty,List.nil_append]
      exact scheduled.sublist
  · intro empty
    obtain ⟨halted,same⟩ := draining.unattended empty
    refine ⟨?_,by rw [recordUntaken now e (haltedTakes halted lets),same]⟩
    cases phase with
    | closing drained => rfl
    | _ => cases halted

theorem booksServe {env : Env} {turns : List Turn} {e : Event}
    (lets : (runPipeline env turns).phase.allows e.action = true) :
    books env (turns ++ [.serves e]) =
      (books env turns).record e (laneOp env (after env (performed env turns)) e) := by
  rw [books,performedConcat,perform,if_pos lets,ledgerConcat]
  rfl

theorem booksIdle {env : Env} {turns : List Turn} {t : Turn}
    (idle : ∀ e, t = .serves e → (runPipeline env turns).phase.allows e.action = false) :
    books env (turns ++ [t]) = books env turns := by
  rw [books,performedConcat]
  cases t with
  | serves e =>
    rw [perform,if_neg (by rw [idle e rfl]; decide)]
    rfl
  | _ => rfl

theorem drainingCloses {stopped now : Ledger Event} {released drained : Bool}
    (draining : Draining stopped now (.joining released)) (known : drained = true → released = true) :
    Draining stopped now (.closing drained) where
  past := .inr ⟨drained,rfl⟩
  received := draining.received
  left := draining.left
  onward := draining.onward
  scheduled := draining.scheduled
  taken joined := draining.taken (known joined)
  late joined := draining.late (known joined)
  unattended empty := ⟨rfl,(draining.unattended empty).2⟩

theorem pastTurn {env : Env} {p : RunPipeline} {t : Turn}
    (idle : ∀ e, t = .serves e → p.phase.allows e.action = false)
    (past : (∃ released, p.phase = .joining released) ∨ ∃ drained, p.phase = .closing drained) :
    (turn env p t).phase = p.phase ∨ ∃ released drained, p.phase = .joining released ∧
      (turn env p t).phase = .closing drained ∧ (drained = true → released = true) := by
  rcases past with ⟨released,stands⟩ | ⟨drained,stands⟩
  · cases t with
    | serves e => exact .inl (by simp [turn,idle e rfl])
    | joinReturned =>
      cases released with
      | false => exact .inl (by simp only [turn,stands])
      | true => exact .inr ⟨true,true,stands,by simp only [turn,stands],id⟩
    | joinTimedOut => exact .inr ⟨released,false,stands,by simp only [turn,stands],nofun⟩
    | _ => exact .inl (by simp only [turn,stands])
  · cases t with
    | serves e => exact .inl (by simp [turn,idle e rfl])
    | _ => exact .inl (by simp only [turn,stands])

theorem drainingTurn {env : Env} {stopped : Ledger Event} {turns : List Turn}
    (draining : Draining stopped (books env turns) (runPipeline env turns).phase) (t : Turn) :
    Draining stopped (books env (turns ++ [t])) (runPipeline env (turns ++ [t])).phase := by
  by_cases serves : ∃ e, t = .serves e ∧ (runPipeline env turns).phase.allows e.action = true
  · obtain ⟨e,rfl,lets⟩ := serves
    have count := pipelineUnfinished env (turns ++ [.serves e])
    rw [pipelineConcat,booksServe lets,turn,if_pos lets] at count ⊢
    refine drainingServes draining lets _ (fun empty => ?_)
    have same : (serve env (runPipeline env turns) e).unfinishedTasks = some 0 := empty
    rw [same] at count
    exact List.length_eq_zero_iff.mp (Option.some.inj count).symm
  · have idle : ∀ e, t = .serves e → (runPipeline env turns).phase.allows e.action = false :=
      fun e same => Bool.eq_false_iff.mpr (fun lets => serves ⟨e,same,lets⟩)
    rw [pipelineConcat,booksIdle idle]
    rcases pastTurn idle draining.past with same | ⟨released,drained,stands,closes,known⟩
    · rw [same]
      exact draining
    · rw [closes]
      exact drainingCloses (stands ▸ draining) known

theorem stoppedDrains {env : Env} {before : List Turn}
    (stopping : (runPipeline env before).phase = .stopping) (later : List Turn) :
    Draining (books env before) (books env (before ++ [.clientStopped] ++ later))
      (runPipeline env (before ++ [.clientStopped] ++ later)).phase := by
  induction later using List.reverseRecOn with
  | nil =>
    have count := pipelineUnfinished env before
    rw [List.append_nil,booksIdle (fun e same => by cases same),pipelineConcat]
    simp only [turn,stopping,count]
    have same : (some (books env before).lane.queue.length = some 0) ↔
        (books env before).lane.queue = [] := by
      rw [Option.some.injEq,List.length_eq_zero_iff]
    simp only [same]
    exact drainingStart _
  | append_singleton later t ih =>
    rw [← List.append_assoc]
    exact drainingTurn ih t

theorem shutdownDrains (env : Env) (before later : List Turn) (drained : Bool)
    (stopping : (runPipeline env before).phase = .stopping)
    (closing : (runPipeline env (before ++ [.clientStopped] ++ later)).phase = .closing drained) :
    Drains (books env before) (books env (before ++ [.clientStopped] ++ later)) drained := by
  have draining := stoppedDrains stopping later
  rw [closing] at draining
  refine ⟨draining.received,draining.left,draining.taken,draining.late,
    fun empty => (draining.unattended empty).2,fun joined none => ?_⟩
  have nothing := draining.late joined
  rw [none,List.sublist_nil] at nothing
  have kept := (ledgerKept env (performed env (before ++ [.clientStopped] ++ later))).complete
  change ((books env _).taken ++ (books env _).lane.waiting ++ (books env _).dropped).Perm
    (books env _).received at kept
  rwa [nothing,List.append_nil] at kept

def stopping : List Turn :=
  [.serves ((Action.onMessage "update_drone" droneMessage).at 8 18 0 0),
    .serves (Action.enqueueMessage.at 8 18 0 0),.cancelled,.gathered,
    .serves ((Action.onMessage "update_drone" droneMessage).at 8 18 0 1)]

def draining : List Turn :=
  [.serves ((Action.worker (.ok ())).at 8 18 0 2),.joinReturned,
    .serves (Action.enqueueMessage.at 8 18 0 2),.serves ((Action.worker (.ok ())).at 8 18 0 3)]

theorem lateMessageWaits :
    Drains (books deployment stopping) (books deployment (stopping ++ [.clientStopped] ++ draining))
      true ∧
    (books deployment (stopping ++ [.clientStopped] ++ draining)).lane.waiting.length = 1 :=
  ⟨shutdownDrains deployment stopping draining true (by decide +kernel) (by decide +kernel),
    by decide +kernel⟩

end FlightMonitor.Shutdown
