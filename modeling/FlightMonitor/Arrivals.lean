import FlightMonitor.Backlog
import FlightMonitor.SessionMachine

/-! The messages on their way to the workers. Each one was made by a reception earlier in the
run, they keep the order of their receptions, and the state that a reception met is noted
beside its message. -/
namespace FlightMonitor
open PyValue IsoTime Backlog

def State.lane (s : State) : Lane Members := ⟨s.queue,s.scheduled⟩

def laneOp (env : Env) (s : State) (e : Event) : Op :=
  match e.action with
  | .onMessage .. => .receives
  | .enqueueMessage =>
    if env.queueSize = 0 ∨ s.queue.length < env.queueSize then .enqueues else .drops
  | .worker _ => .takes
  | _ => .rests

def envelope (e : Event) : Members :=
  match e.action with
  | .onMessage topic payload => [("topic",.str topic),("payload",.str payload),
      ("timestamp",.str (isoformat e.wall.val)),("enqueued_monotonic",.float (.finite e.loop))]
  | _ => []

theorem stepLane (env : Env) (s : State) (e : Event) :
    (step env s e).lane = (laneOp env s e).run (envelope e) s.lane := by
  have lane := (stepFrame env s e).lane
  obtain ⟨now,loop,action⟩ := e
  cases action with
  | onMessage topic payload => rfl
  | enqueueMessage =>
    simp only [step,enqueueMessage,laneOp]
    by_cases room : env.queueSize = 0 ∨ s.queue.length < env.queueSize
    · cases waiting : s.scheduled <;> simp [Op.run,State.lane,waiting,if_pos room]
    · cases waiting : s.scheduled <;> simp [Op.run,State.lane,waiting,if_neg room]
  | worker written =>
    simp only [step,worker,laneOp]
    cases waiting : s.queue with
    | nil => simp [Op.run,State.lane,waiting]
    | cons message queue => simp [Op.run,State.lane,waiting]
  | _ =>
    obtain ⟨queue,scheduled⟩ := lane rfl
    simp only [laneOp,Op.run,State.lane,queue,scheduled]

theorem afterLane (env : Env) (events : List Event) (e : Event) :
    (after env (events ++ [e])).lane =
      (laneOp env (after env events) e).run (envelope e) (after env events).lane := by
  rw [afterConcat]
  exact stepLane ..

def noteReception (env : Env) (lane : Lane (State × Event)) (s : State) (e : Event) :
    Lane (State × Event) := (laneOp env s e).run (s,e) lane

def receptions (env : Env) (events : List Event) : Lane (State × Event) :=
  Trace.history (step env) {} (noteReception env) {} events

@[simp] theorem receptionsConcat (env : Env) (events : List Event) (e : Event) :
    receptions env (events ++ [e]) =
      (laneOp env (after env events) e).run (after env events,e) (receptions env events) :=
  Trace.historyConcat ..

theorem receptionsLane (env : Env) (events : List Event) :
    (receptions env events).map (fun r => envelope r.2) = (after env events).lane := by
  induction events using List.reverseRecOn with
  | nil => rfl
  | append_singleton events e ih => rw [receptionsConcat,mapRun,ih,afterLane]

theorem receptionsOrdered (env : Env) (events : List Event) :
    ((receptions env events).waiting.map Prod.snd).Sublist events := by
  induction events using List.reverseRecOn with
  | nil => exact List.Sublist.refl _
  | append_singleton events e ih =>
    rw [receptionsConcat]
    have onward := (waitingRun (laneOp env (after env events) e) (after env events,e)
      (receptions env events)).map Prod.snd
    rw [List.map_append] at onward
    exact onward.trans (ih.append_right _)

structure Received (env : Env) (events : List Event) (r : State × Event) : Prop where
  message : ∃ topic payload, r.2.action = .onMessage topic payload
  reached : ∃ before, before ++ [r.2] <+: events ∧ r.1 = after env before

theorem receivesMessage {env : Env} {s : State} {e : Event} (receives : laneOp env s e = .receives) :
    ∃ topic payload, e.action = .onMessage topic payload := by
  unfold laneOp at receives
  split at receives
  · exact ⟨_,_,by assumption⟩
  · split at receives <;> cases receives
  · cases receives
  · cases receives

theorem waitingReceived (env : Env) (events : List Event) :
    ∀ r ∈ (receptions env events).waiting, Received env events r := by
  induction events using List.reverseRecOn with
  | nil => intro r mem; cases mem
  | append_singleton events e ih =>
    intro r mem
    rw [receptionsConcat] at mem
    have onward : ∀ r, Received env events r → Received env (events ++ [e]) r := by
      intro r received
      obtain ⟨before,within,met⟩ := received.reached
      exact ⟨received.message,before,within.trans (List.prefix_append ..),met⟩
    by_cases quiet : laneOp env (after env events) e = .receives
    · rcases List.mem_append.mp ((waitingRun ..).subset mem) with early | last
      · exact onward r (ih r early)
      · cases List.mem_singleton.mp last
        exact ⟨receivesMessage quiet,events,List.prefix_refl _,rfl⟩
    · exact onward r (ih r ((waitingLater quiet ..).subset mem))

theorem queueReceived {env : Env} {events : List Event} {message : Members} {queue : List Members}
    (waiting : (after env events).queue = message :: queue) :
    ∃ r rest, (receptions env events).queue = r :: rest ∧ message = envelope r.2 ∧
      Received env events r := by
  have lane := congrArg Lane.queue (receptionsLane env events)
  change (receptions env events).queue.map _ = (after env events).queue at lane
  rw [waiting] at lane
  obtain ⟨r,rest,noted,rfl,-⟩ := List.map_eq_cons_iff.mp lane
  exact ⟨r,rest,noted,rfl,waitingReceived env events r
    (List.mem_append_left _ (noted ▸ List.mem_cons_self ..))⟩

end FlightMonitor
