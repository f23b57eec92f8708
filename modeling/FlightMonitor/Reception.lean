import FlightMonitor.Arrivals
import FlightMonitor.RegistryIndex

/-! The session a message is recorded for against the session at its reception. The worker
looks the drone up when it takes the message from the queue, through an index that can be
stale, so what a waiting message would be recorded for changes with each registration. -/
namespace FlightMonitor.Reception
open PyValue IsoTime Backlog
open RegistryIndex (Carries)

def parsedReadings (parsed : ParsedMessage) : Except PyError (Option PyFloat × Option PyFloat) := do
  let altitude ← safeFloat ((parsed.position.map Position.altitude).getD .null)
  let voltage ← extractVoltage parsed.payload
  .ok (altitude,voltage)

def droneOf (env : Env) (message : Members) : Option String :=
  match parseQueueMessage env.jsonLoads message with
  | .error _ => none
  | .ok parsed =>
    match parsed.droneId,parsedReadings parsed with
    | .str drone,.ok _ => if drone = "" then none else some drone
    | _,_ => none

def RecordsOwn (env : Env) (before : List Event) (e : Event) : Prop :=
  ∀ state, observing env (after env before) e = some state →
    ∀ r rest, (receptions env before).queue = r :: rest →
      ∀ parsed, parseQueueMessage env.jsonLoads (envelope r.2) = .ok parsed →
        ∃ drone, parsed.droneId = .str drone ∧ Carries r.1.registry state.flightSessionId drone

/-- No registration turns messages of another time over to its session, and no message comes
in for a drone whose index entry leads to a record of another drone. -/
structure Timely (env : Env) (before : List Event) (e : Event) : Prop where
  registered : ∀ session, registering (after env before) e = some session →
    ∀ r ∈ (receptions env before).waiting, ∀ drone, droneOf env (envelope r.2) = some drone →
      (step env (after env before) e).registry.indexed drone = some session.flightSessionId →
        Carries r.1.registry session.flightSessionId drone
  received : ∀ topic payload, e.action = .onMessage topic payload →
    ∀ drone session, droneOf env (envelope e) = some drone →
      (after env before).registry.getByDroneId drone = some session → session.droneId = some drone

def DeliveryStep (e : Event) : Prop :=
  e.action = .enqueueMessage ∨ ∃ written, e.action = .worker written

def Safe (env : Env) (before : List Event) : Prop :=
  ∀ later, (∀ e ∈ later, DeliveryStep e) → Trace.Meets (RecordsOwn env) (before ++ later)

theorem updateDrone {env : Env} {reg : ActiveSessionRegistry} {message : Members} {now : UtcTime}
    {f : String} {u : Telemetry} {r : Option PyFloat × Option PyFloat}
    (call : updateCall env reg message now = .ok (f,u)) (read : u.readings = .ok r) :
    ∃ drone session, droneOf env message = some drone ∧ reg.getByDroneId drone = some session ∧
      session.flightSessionId = f := by
  unfold updateCall at call
  unfold droneOf
  cases parsed : parseQueueMessage env.jsonLoads message with
  | error e => simp [parsed] at call
  | ok m =>
    simp only [parsed] at call ⊢
    cases id : m.droneId <;> simp only [id,resolveActiveSession] at call <;> try (split at call <;> cases call)
    rename_i drone
    split at call
    · cases call
    · rename_i named
      have truthy : drone ≠ "" := by simpa [Json.truthy] using named
      cases found : reg.getByDroneId drone with
      | none => simp [found] at call
      | some session =>
        simp only [found] at call
        cases call
        have readable : parsedReadings m = .ok r := read
        exact ⟨drone,session,by simp [readable,truthy],found,rfl⟩

theorem droneUpdate {env : Env} {reg : ActiveSessionRegistry} {message : Members} {drone : String}
    {session : ActiveFlightSession} (named : droneOf env message = some drone)
    (found : reg.getByDroneId drone = some session) (now : UtcTime) :
    ∃ u r, updateCall env reg message now = .ok (session.flightSessionId,u) ∧ u.readings = .ok r := by
  unfold droneOf at named
  cases parsed : parseQueueMessage env.jsonLoads message with
  | error e => simp [parsed] at named
  | ok m =>
    simp only [parsed] at named
    split at named
    · rename_i d r id read
      split at named
      · cases named
      · rename_i truthy
        cases named
        refine ⟨telemetryOf session m message now,r,?_,read⟩
        simp [updateCall,parsed,id,Json.truthy,truthy,resolveActiveSession,found]
    · cases named

theorem observingDrone {env : Env} {s : State} {e : Event} {state : DroneState}
    (made : observing env s e = some state) : ∃ written message rest drone session,
      e.action = .worker written ∧ s.queue = message :: rest ∧ droneOf env message = some drone ∧
      s.registry.getByDroneId drone = some session ∧
      session.flightSessionId = state.flightSessionId := by
  obtain ⟨written,message,rest,u,r,acts,waiting,call,read,-⟩ := observingCall made
  obtain ⟨drone,session,named,found,own⟩ := updateDrone call read
  exact ⟨written,message,rest,drone,session,acts,waiting,named,found,own⟩

theorem droneObserving (env : Env) {s : State} (e : Event) {written : Except PyError Unit}
    {message : Members} {rest : List Members} {drone : String} {session : ActiveFlightSession}
    (acts : e.action = .worker written) (waiting : s.queue = message :: rest)
    (named : droneOf env message = some drone)
    (found : s.registry.getByDroneId drone = some session) :
    ∃ state, observing env s e = some state ∧ state.flightSessionId = session.flightSessionId := by
  obtain ⟨u,r,call,read⟩ := droneUpdate named found e.wall
  exact callObserves acts waiting call read

/-! Without a registration, a drone leads to the session it led to before, or to none. -/

structure Shrinks (reg reg' : ActiveSessionRegistry) : Prop where
  lookup : ∀ drone session', reg'.getByDroneId drone = some session' →
    ∃ session, reg.getByDroneId drone = some session ∧
      session.flightSessionId = session'.flightSessionId

theorem lookupCases {reg : ActiveSessionRegistry} {drone : String} {session : ActiveFlightSession} :
    reg.getByDroneId drone = some session ↔ reg.indexed drone = some session.flightSessionId ∧
      reg.getByFlightSessionId session.flightSessionId = some session := by
  unfold ActiveSessionRegistry.getByDroneId
  cases reg.indexed drone with
  | none => simp
  | some f =>
    simp only [Option.some.injEq]
    constructor
    · intro found
      have filed := ActiveSessionRegistry.recordFiled found
      rw [filed]
      exact ⟨rfl,found⟩
    · intro entry
      rw [entry.1]
      exact entry.2

theorem shrinksRefl (reg : ActiveSessionRegistry) : Shrinks reg reg :=
  ⟨fun _ session found => ⟨session,found,rfl⟩⟩

theorem shrinksTrans {a b c : ActiveSessionRegistry} (first : Shrinks a b) (second : Shrinks b c) :
    Shrinks a c := by
  refine ⟨fun drone session' found => ?_⟩
  obtain ⟨session,middle,same⟩ := second.lookup drone session' found
  obtain ⟨origin,early,own⟩ := first.lookup drone session middle
  exact ⟨origin,early,own.trans same⟩

theorem shrinksComplete (reg : ActiveSessionRegistry) (f : String) : Shrinks reg (reg.complete f) := by
  refine ⟨fun drone session found => ?_⟩
  obtain ⟨entry,record⟩ := lookupCases.mp found
  rw [ActiveSessionRegistry.indexedComplete] at entry
  rw [ActiveSessionRegistry.getComplete] at record
  split at entry
  · cases entry
  · split at record
    · cases record
    · exact ⟨session,lookupCases.mpr ⟨entry,record⟩,rfl⟩

theorem shrinksMap (reg : ActiveSessionRegistry) (change : ActiveFlightSession → ActiveFlightSession)
    (same) : Shrinks reg (reg.mapSessions change same) := by
  refine ⟨fun drone session' found => ?_⟩
  obtain ⟨entry,record⟩ := lookupCases.mp found
  rw [ActiveSessionRegistry.getMapSessions] at record
  obtain ⟨session,stored,rfl⟩ := Option.map_eq_some_iff.mp record
  rw [same] at entry stored
  exact ⟨session,lookupCases.mpr ⟨entry,stored⟩,(same session).symm⟩

theorem shrinksScanned (s : State) (now strandedNow : UtcTime) :
    Shrinks s.registry (s.scanned now strandedNow).registry :=
  shrinksTrans (shrinksMap _ _ (stampBreachSession now))
    (shrinksMap _ _ (fun _ => stampStrandedSession ..))

theorem shrinksFinalize (env : Env) (s : State) (f : String) (now : UtcTime) :
    Shrinks s.registry (finalizeSessionToSade env s f now).1.registry := by
  rw [finalizeCases]
  exact shrinksComplete ..

theorem shrinksForceClose (env : Env) (now : UtcTime) (pending : List String) (s : State)
    (closed : Nat) : Shrinks s.registry (forceClose env now pending s closed).registry := by
  induction pending generalizing s closed with
  | nil => exact shrinksRefl _
  | cons f pending ih =>
    have first := shrinksFinalize env s f now
    rcases finalized : finalizeSessionToSade env s f now with ⟨s',_ | _ | e⟩
    · simp only [forceClose,finalized] at first ⊢
      exact shrinksTrans first (ih s' (closed + 1))
    · simp only [forceClose,finalized] at first ⊢
      exact first
    · simp only [forceClose,finalized] at first ⊢
      exact shrinksTrans first (ih s' closed)

theorem registryChange (env : Env) (s : State) (e : Event) :
    (∃ session, registering s e = some session ∧
      (step env s e).registry = s.registry.store session) ∨
    registering s e = none ∧ Shrinks s.registry (step env s e).registry := by
  have same : registering s e = none → (step env s e).registry = s.registry →
      registering s e = none ∧ Shrinks s.registry (step env s e).registry := by
    intro none same
    rw [same]
    exact ⟨none,shrinksRefl _⟩
  obtain ⟨now,loop,action⟩ := e
  cases action with
  | registerSession body =>
    rcases registerSessionCases s body now loop with ⟨none,done⟩ | ⟨p,-,made,done⟩
    · exact .inr (same none (by simp only [step,done]))
    · exact .inl ⟨_,made,by simp only [step,done]⟩
  | exitRequest body =>
    refine .inr ?_
    rcases exitRequestCases s body now loop with ⟨-,done⟩ | ⟨p,record,-,-,-,done⟩
    · exact same rfl (by simp only [step,done])
    · simp only [step,done]
      exact ⟨rfl,shrinksMap ..⟩
  | stubPosted i outcome =>
    refine .inr ?_
    obtain ⟨stubs,⟨-,done,-⟩ | ⟨g,-,done,-⟩⟩ := stubPostedCases s i outcome now loop
    · exact same rfl (by simp only [step,done])
    · simp only [step,done]
      exact ⟨rfl,shrinksComplete ..⟩
  | graceChecks i =>
    refine .inr ?_
    rcases graceChecksCases env s i loop now with
      ⟨-,done | ⟨g,watch,-,⟨-,done⟩ | ⟨watch',-,done⟩⟩⟩ | ⟨g,phase,-,-,done⟩
    · exact same rfl (by simp only [step,done])
    · exact same rfl (by simp only [step,done]; rfl)
    · exact same rfl (by simp only [step,done]; rfl)
    · simp only [step,done]
      exact ⟨rfl,shrinksFinalize ..⟩
  | sweep strandedNow forceCloseNow =>
    refine .inr ⟨rfl,?_⟩
    simp only [step,sweep]
    split
    · exact shrinksRefl _
    · exact shrinksTrans (shrinksScanned ..) (shrinksForceClose ..)
  | sweeperPosted outcome =>
    refine .inr ⟨rfl,?_⟩
    simp only [step,sweeperPosted]
    split
    · exact shrinksRefl _
    · exact shrinksForceClose ..
  | _ => exact .inr (same rfl ((stepFrame env s _).registry rfl))

/-! Every waiting message would be recorded for a session that carried its drone when it came
in. -/

def Rightful (env : Env) (reg : ActiveSessionRegistry) (r : State × Event) : Prop :=
  ∀ drone session, droneOf env (envelope r.2) = some drone →
    reg.getByDroneId drone = some session → Carries r.1.registry session.flightSessionId drone

def Waiting (env : Env) (before : List Event) : Prop :=
  ∀ r ∈ (receptions env before).waiting, Rightful env (after env before).registry r

theorem waitingConcat {env : Env} {before : List Event} {e : Event} (held : Waiting env before)
    (timely : Timely env before e) : Waiting env (before ++ [e]) := by
  intro r mem drone session named found
  rw [receptionsConcat] at mem
  rw [afterConcat] at found
  rcases registryChange env (after env before) e with ⟨fresh,made,stored⟩ | ⟨none,shrinks⟩
  · obtain ⟨body,_,acts,-⟩ := registeringDecoded made
    simp only [laneOp,acts,Op.run] at mem
    obtain ⟨entry,record⟩ := lookupCases.mp found
    by_cases own : session.flightSessionId = fresh.flightSessionId
    · rw [own] at entry ⊢
      exact timely.registered fresh made r mem drone named entry
    · rw [stored,RegistryIndex.indexedStoreOther (Ne.symm own)] at entry
      rw [stored,ActiveSessionRegistry.getStore,if_neg (Ne.symm own)] at record
      exact held r mem drone session named (lookupCases.mpr ⟨entry.2,record⟩)
  · obtain ⟨earlier,led,same⟩ := shrinks.lookup drone session found
    rw [← same]
    by_cases received : laneOp env (after env before) e = .receives
    · rcases List.mem_append.mp ((waitingRun ..).subset mem) with old | last
      · exact held r old drone earlier named led
      · cases List.mem_singleton.mp last
        obtain ⟨topic,payload,acts⟩ := receivesMessage received
        have carried := timely.received topic payload acts drone earlier named led
        obtain ⟨-,record⟩ := lookupCases.mp led
        exact ⟨earlier,record,carried⟩
    · exact held r ((waitingLater received ..).subset mem) drone earlier named led

theorem waitingOnward {env : Env} {before : List Event} (held : Waiting env before)
    (later : List Event) (delivers : ∀ e ∈ later, DeliveryStep e) :
    Waiting env (before ++ later) := by
  induction later using List.reverseRecOn with
  | nil => rwa [List.append_nil]
  | append_singleton later e ih =>
    rw [← List.append_assoc]
    have last := delivers e (by simp)
    refine waitingConcat (ih (fun x mem => delivers x (List.mem_append_left _ mem))) ⟨?_,?_⟩
    · intro session made
      obtain ⟨body,_,acts,-⟩ := registeringDecoded made
      simp [DeliveryStep,acts] at last
    · intro topic payload acts
      simp [DeliveryStep,acts] at last

theorem droneParsed {env : Env} {message : Members} {drone : String}
    (named : droneOf env message = some drone) :
    ∃ parsed, parseQueueMessage env.jsonLoads message = .ok parsed ∧ parsed.droneId = .str drone := by
  unfold droneOf at named
  split at named
  · cases named
  · rename_i parsed read
    split at named
    · rename_i id _
      split at named
      · cases named
      · cases named
        exact ⟨parsed,read,id⟩
    · cases named

theorem waitingRecords {env : Env} {before : List Event} (held : Waiting env before) (e : Event) :
    RecordsOwn env before e := by
  intro state made r rest noted parsed read
  obtain ⟨written,message,queue,drone,session,-,waiting,named,found,own⟩ := observingDrone made
  obtain ⟨r',rest',noted',rfl,-⟩ := queueReceived waiting
  cases noted.symm.trans noted'
  have inside : r ∈ (receptions env before).waiting :=
    List.mem_append_left _ (noted ▸ List.mem_cons_self ..)
  obtain ⟨parsed',read',id⟩ := droneParsed named
  cases read.symm.trans read'
  exact ⟨drone,id,own ▸ held r inside drone session named found⟩

/-! Every waiting message can still come to a worker under the present registry. -/

theorem deliveryRegistry {env : Env} {s : State} {e : Event} (delivers : DeliveryStep e) :
    (step env s e).registry = s.registry := by
  obtain ⟨now,loop,action⟩ := e
  rcases delivers with rfl | ⟨written,rfl⟩
  · simp only [step,enqueueMessage]
    split
    · rfl
    · split <;> rfl
  · obtain ⟨queue,rows,tracker,done,-⟩ := workerCases env written s now loop
    simp only [step,done]

structure Delivers (env : Env) (before later : List Event) : Prop where
  steps : ∀ e ∈ later, DeliveryStep e
  registry : (after env (before ++ later)).registry = (after env before).registry

theorem deliversNil (env : Env) (before : List Event) : Delivers env before [] :=
  ⟨by simp,by rw [List.append_nil]⟩

theorem deliversConcat {env : Env} {before later : List Event} {e : Event}
    (so : Delivers env before later) (delivers : DeliveryStep e) :
    Delivers env before (later ++ [e]) := by
  constructor
  · intro x mem
    rcases List.mem_append.mp mem with early | last
    · exact so.steps x early
    · cases List.mem_singleton.mp last
      exact delivers
  · rw [← List.append_assoc,afterConcat,deliveryRegistry delivers,so.registry]

theorem deliversAppend {env : Env} {before first later : List Event}
    (one : Delivers env before first) (two : Delivers env (before ++ first) later) :
    Delivers env before (first ++ later) := by
  constructor
  · intro x mem
    exact (List.mem_append.mp mem).elim (one.steps x) (two.steps x)
  · rw [← List.append_assoc,two.registry,one.registry]

theorem frontDelivered {env : Env} {before : List Event} {r : State × Event}
    {later : List (State × Event)} (waits : (receptions env before).waiting = r :: later)
    (wall : UtcTime) : ∃ first, Delivers env before first ∧
      (receptions env (before ++ first)).waiting = r :: later ∧
      ∃ rest, (receptions env (before ++ first)).queue = r :: rest := by
  cases queued : (receptions env before).queue with
  | cons x rest =>
    have front := waits
    rw [Lane.waiting,queued] at front
    cases front
    exact ⟨[],deliversNil env before,by rwa [List.append_nil],rest,by rwa [List.append_nil]⟩
  | nil =>
    let enqueue : Event := ⟨wall,0,.enqueueMessage⟩
    have empty : (after env before).queue = [] := by
      have lane := congrArg Lane.queue (receptionsLane env before)
      change (receptions env before).queue.map _ = (after env before).queue at lane
      rw [← lane,queued]
      rfl
    have op : laneOp env (after env before) enqueue = .enqueues := by
      simp only [enqueue,laneOp,empty,List.length_nil]
      rw [if_pos (by omega)]
    have scheduled : (receptions env before).scheduled = r :: later := by
      rwa [Lane.waiting,queued,List.nil_append] at waits
    refine ⟨[enqueue],deliversConcat (deliversNil env before) (.inl rfl),?_,[],?_⟩
    · rw [receptionsConcat,op,waitingEnqueues,waits]
    · rw [receptionsConcat,op]
      simp [Op.run,queued,scheduled]

theorem delivered {env : Env} {before : List Event} {r : State × Event}
    (mem : r ∈ (receptions env before).waiting) (wall : UtcTime) :
    ∃ later, Delivers env before later ∧
      ∃ rest, (receptions env (before ++ later)).queue = r :: rest := by
  generalize waits : (receptions env before).waiting = waiting at mem
  induction waiting generalizing before with
  | nil => cases mem
  | cons x others ih =>
    obtain ⟨first,delivers,kept,rest,queued⟩ := frontDelivered waits wall
    by_cases here : r = x
    · subst x
      exact ⟨first,delivers,rest,queued⟩
    · let work : Event := ⟨wall,0,.worker (.ok ())⟩
      have taken : (receptions env (before ++ (first ++ [work]))).waiting = others := by
        rw [← List.append_assoc,receptionsConcat]
        simp only [laneOp,work,Op.run,Lane.waiting] at kept ⊢
        rw [queued] at kept ⊢
        simpa using kept
      have onward := deliversConcat delivers (e := work) (.inr ⟨.ok (),rfl⟩)
      obtain ⟨later,delivers',rest',queued'⟩ :=
        ih taken ((List.mem_cons.mp mem).resolve_left here)
      refine ⟨first ++ [work] ++ later,deliversAppend onward delivers',rest',?_⟩
      rwa [← List.append_assoc]

theorem wrongfulUnsafe {env : Env} {before : List Event} {r : State × Event} (wall : UtcTime)
    (mem : r ∈ (receptions env before).waiting)
    (wrong : ¬ Rightful env (after env before).registry r) : ¬ Safe env before := by
  intro safe
  unfold Rightful at wrong
  push Not at wrong
  obtain ⟨drone,session,named,found,strange⟩ := wrong
  obtain ⟨later,delivers,rest,queued⟩ := delivered mem wall
  let work : Event := ⟨wall,0,.worker (.ok ())⟩
  have waiting : (after env (before ++ later)).queue = envelope r.2 ::
      rest.map (fun r => envelope r.2) := by
    have lane := congrArg Lane.queue (receptionsLane env (before ++ later))
    change (receptions env (before ++ later)).queue.map _ = (after env (before ++ later)).queue at lane
    rw [← lane,queued]
    rfl
  rw [← delivers.registry] at found
  obtain ⟨state,made,own⟩ := droneObserving env work rfl waiting named found
  obtain ⟨parsed,read,id⟩ := droneParsed named
  have records : RecordsOwn env (before ++ later) work :=
    safe (later ++ [work]) (deliversConcat delivers (.inr ⟨.ok (),rfl⟩)).steps _ _
      (by rw [List.append_assoc])
  obtain ⟨drone',id',carries⟩ := records state made r rest queued parsed read
  cases id.symm.trans id'
  exact strange (own ▸ carries)

theorem untimelyUnsafe {env : Env} {before : List Event} {e : Event}
    (untimely : ¬ Timely env before e) : ¬ Safe env (before ++ [e]) := by
  intro safe
  refine untimely ⟨?_,?_⟩
  · intro session made r mem drone named entry
    by_contra strange
    obtain ⟨body,_,acts,-⟩ := registeringDecoded made
    rcases registryChange env (after env before) e with ⟨fresh,made',stored⟩ | ⟨none,-⟩
    · cases made.symm.trans made'
      have record : (after env (before ++ [e])).registry.getByFlightSessionId
          session.flightSessionId = some session := by
        rw [afterConcat,stored,ActiveSessionRegistry.getStore,if_pos rfl]
      rw [← afterConcat] at entry
      refine wrongfulUnsafe (r := r) e.wall ?_ ?_ safe
      · rw [receptionsConcat]
        simpa only [laneOp,acts,Op.run] using mem
      · intro rightful
        exact strange (rightful drone session named (lookupCases.mpr ⟨entry,record⟩))
    · cases none.symm.trans made
  · intro topic payload acts drone session named found
    by_contra strange
    refine wrongfulUnsafe (r := (after env before,e)) e.wall ?_ ?_ safe
    · rw [receptionsConcat]
      simp [laneOp,acts,Op.run,Lane.waiting]
    · intro rightful
      have same : (after env (before ++ [e])).registry = (after env before).registry := by
        rw [afterConcat]
        simp [step,acts,onMessage]
      rw [same] at rightful
      obtain ⟨record,stored,carried⟩ := rightful drone session named found
      obtain ⟨-,active⟩ := lookupCases.mp found
      cases active.symm.trans stored
      exact strange carried

theorem recordsOwnIffTimely (env : Env) (events : List Event) :
    Trace.Throughout (Safe env) events ↔ Trace.Meets (Timely env) events := by
  refine Trace.goodIffGuarded
    (fun before => Waiting env before ∧ Trace.Meets (RecordsOwn env) before) ?_ ?_ ?_ ?_ events
  · refine ⟨fun r mem => ?_,Trace.meetsNil⟩
    cases mem
  · intro before held later delivers
    obtain ⟨waiting,records⟩ := held
    refine Trace.meetsAppend.mpr ⟨records,fun first e within => ?_⟩
    have inside : ∀ x ∈ first, DeliveryStep x := fun x mem =>
      delivers x (within.subset (List.mem_append_left _ mem))
    exact waitingRecords (waitingOnward waiting first inside) e
  · intro before e held timely
    obtain ⟨waiting,records⟩ := held
    exact ⟨waitingConcat waiting timely,
      Trace.meetsConcat.mpr ⟨records,waitingRecords waiting e⟩⟩
  · intro before e _ untimely
    exact untimelyUnsafe untimely

def transmission : Event := (Action.onMessage "update_drone" droneMessage).at 8 18 0 0

def early : List Event :=
  [transmission,Action.enqueueMessage.at 8 18 0 0,
    (Action.registerSession (.obj [("flight_session_id",.str "flight-A"),
      ("drone_id",.str "drone-1")])).at 8 18 0 1]

theorem earlyMessageRecorded : ¬ Trace.Meets (RecordsOwn deployment)
    (early ++ [(Action.worker (.ok ())).at 8 18 0 2]) := by
  intro meets
  have records := meets early _ (List.prefix_refl _)
  obtain ⟨state,made⟩ := Option.isSome_iff_exists.mp
    (show (observing deployment (after deployment early)
      ((Action.worker (.ok ())).at 8 18 0 2)).isSome by decide +kernel)
  obtain ⟨parsed,read,-⟩ := droneParsed
    (show droneOf deployment (envelope transmission) = some "drone-1" by decide +kernel)
  have noted : (receptions deployment early).queue = [(after deployment [],transmission)] := rfl
  obtain ⟨drone,-,record,active,-⟩ := records state made _ _ noted parsed read
  cases active

end FlightMonitor.Reception
