import FlightMonitor.MissionRows

/-! Runs in local mode. The first message of a drone makes its session, which then stays for the
whole run, so every message with a usable drone id is recorded for its own drone and none is
ignored, and what one drone sends never shows in the state of another. -/
namespace FlightMonitor.LocalSessions
open PyValue IsoTime SessionModes FailedMessages
open MissionRows (ofSession rowSession)

deriving instance DecidableEq for DroneKey

def runFrom (p : Pipeline) (start : Live) (turns : List WorkerTurn) : Live :=
  Trace.final (fun live t => (telemetryWorkerTurn p live t).1) start turns

def localAfter (p : Pipeline) (turns : List WorkerTurn) : Live :=
  runFrom p ⟨.empty,.empty,[]⟩ turns

@[simp] theorem localNil (p : Pipeline) : localAfter p [] = ⟨.empty,.empty,[]⟩ := rfl

@[simp] theorem localConcat (p : Pipeline) (turns : List WorkerTurn) (t : WorkerTurn) :
    localAfter p (turns ++ [t]) = (telemetryWorkerTurn p (localAfter p turns) t).1 :=
  Trace.finalConcat ..

def droneOfTurn (p : Pipeline) (t : WorkerTurn) : Option (DroneKey × String) :=
  match p.observe t.message,parseQueueMessage p.env.jsonLoads t.message with
  | .ok _,.ok parsed =>
    match droneKey parsed.droneId with
    | .ok key => some (key,p.idText parsed.droneId)
    | .error _ => none
  | _,_ => none

def sessionName : DroneKey → String → String
  | .name name,_ => name
  | .number _,text => text

def opens (p : Pipeline) (key : DroneKey) (t : WorkerTurn) : Option ActiveFlightSession :=
  match droneOfTurn p t with
  | some (key',text) => if key' = key then some (t.fresh.session (sessionName key' text)) else none
  | none => none

def opened (p : Pipeline) (turns : List WorkerTurn) (key : DroneKey) : Option ActiveFlightSession :=
  turns.findSome? (opens p key)

def ofDrone (p : Pipeline) (key : DroneKey) (t : WorkerTurn) : Bool :=
  (droneOfTurn p t).map Prod.fst = some key

def shows (live : Live) (f : String) : Option DroneState × List MissionRow :=
  (live.tracker.get f,ofSession f live.rows)

def Distinct (turns : List WorkerTurn) : Prop :=
  (turns.map (fun t => t.fresh.flightUuid)).Nodup

/-- A run in local mode: one session for each drone heard of, used by every message of its drone,
and for each drone the state and the rows that its own messages alone would give. -/
structure Apart (p : Pipeline) (turns : List WorkerTurn) : Prop where
  sessions : ∀ key, (localAfter p turns).registry.getByDroneId key = opened p turns key
  used : Trace.Meets (fun before t => ∀ key text, droneOfTurn p t = some (key,text) →
    ∃ session, opened p (before ++ [t]) key = some session ∧
      addressed p (localAfter p before) t = some session.flightSessionId) turns
  accepted : Trace.Meets (fun before t =>
    (telemetryWorkerTurn p (localAfter p before) t).2 ≠ .noActiveSession) turns
  distinct : ∀ key key' s s', opened p turns key = some s → opened p turns key' = some s' →
    s.flightSessionId = s'.flightSessionId → key = key'
  tracked : ∀ f, ((localAfter p turns).tracker.get f).isSome →
    ∃ key s, opened p turns key = some s ∧ s.flightSessionId = f
  own : ∀ key s, opened p turns key = some s →
    shows (localAfter p turns) s.flightSessionId =
      shows (localAfter p (turns.filter (ofDrone p key))) s.flightSessionId

theorem openedConcat (p : Pipeline) (turns : List WorkerTurn) (t : WorkerTurn) (key : DroneKey) :
    opened p (turns ++ [t]) key = (opened p turns key).or (opens p key t) := by
  simp [opened,List.findSome?_append]

theorem opensId {p : Pipeline} {key : DroneKey} {t : WorkerTurn} {s : ActiveFlightSession}
    (made : opens p key t = some s) : s.flightSessionId = "local-flight-" ++ t.fresh.flightUuid := by
  unfold opens at made
  split at made
  · split at made
    · cases made; rfl
    · cases made
  · cases made

theorem openedId {p : Pipeline} {turns : List WorkerTurn} {key : DroneKey} {s : ActiveFlightSession}
    (made : opened p turns key = some s) :
    ∃ t ∈ turns, opens p key t = some s ∧ s.flightSessionId = "local-flight-" ++ t.fresh.flightUuid := by
  obtain ⟨t,mem,found⟩ := List.exists_of_findSome?_eq_some made
  exact ⟨t,mem,found,opensId found⟩

def Unstale (reg : KeyedRegistry) : Prop :=
  ∀ d f, reg.named.indexed d = some f → (reg.named.getByFlightSessionId f).isSome

def settled (reg : KeyedRegistry) (key : DroneKey) (session : ActiveFlightSession) :
    KeyedRegistry × ActiveFlightSession :=
  match reg.getByDroneId key with
  | some existing => (reg,existing)
  | none => (reg.store key session,session)

theorem droneNamed {id : Json} {key : DroneKey} (drone : droneKey id = .ok key) :
    ∀ name, key = .name name → name ≠ "" := by
  rintro name rfl
  unfold droneKey at drone
  split at drone
  · cases drone
  · rename_i truthy
    cases id <;> cases drone
    simpa [Json.truthy] using truthy

theorem resolvedLocal {reg : KeyedRegistry} (unstale : Unstale reg) {key : DroneKey}
    (named : ∀ name, key = .name name → name ≠ "") (text : String) (fresh : Fresh) :
    resolveActiveSessionIn .localTest reg key text fresh =
      .ok ((settled reg key (fresh.session (sessionName key text))).1,
        some (settled reg key (fresh.session (sessionName key text))).2) := by
  unfold resolveActiveSessionIn settled
  cases found : reg.getByDroneId key with
  | some existing => rfl
  | none =>
    cases key with
    | number value =>
      have absent : reg.numbered.get value = none := found
      simp only [ensureLocalSession,absent,sessionName]
      rfl
    | name name =>
      have absent : reg.named.getByDroneId name = none := found
      simp only [ensureLocalSession,ActiveSessionRegistry.ensureLocalSession,absent,sessionName]
      rcases reg.named.registerCases (fresh.session name) with done | ⟨-,-,drone,active,own,stale,-⟩
      · rw [← Fresh.session,done]
        rfl
      · have same : name = drone ∧ drone ≠ "" := by
          simpa [Fresh.session,ActiveSessionRegistry.syntheticSession,ActiveFlightSession.droneKey]
            using own
        obtain ⟨rfl,-⟩ := same
        have present := unstale name active stale
        simp only [ActiveSessionRegistry.getByDroneId,stale] at absent
        rw [absent] at present
        cases present

theorem turnNamed {p : Pipeline} {t : WorkerTurn} {key : DroneKey} {text : String}
    (named : droneOfTurn p t = some (key,text)) : ∃ parsed, p.observe t.message = .ok () ∧
      parseQueueMessage p.env.jsonLoads t.message = .ok parsed ∧
      droneKey parsed.droneId = .ok key ∧ text = p.idText parsed.droneId := by
  unfold droneOfTurn at named
  split at named
  · rename_i parsed observed message
    split at named
    · rename_i drone
      cases named
      exact ⟨parsed,observed,message,drone,rfl⟩
    · cases named
  · cases named

theorem callNamed {p : Pipeline} (permissive : p.sessionSourceMode = .localTest) {reg : KeyedRegistry}
    (unstale : Unstale reg) {t : WorkerTurn} {key : DroneKey} {text : String}
    (named : droneOfTurn p t = some (key,text)) :
    ∃ parsed, parseQueueMessage p.env.jsonLoads t.message = .ok parsed ∧
      sessionUpdateCall p reg t =
        .ok ((settled reg key (t.fresh.session (sessionName key text))).1,
          (settled reg key (t.fresh.session (sessionName key text))).2.flightSessionId,
          telemetryOf (settled reg key (t.fresh.session (sessionName key text))).2 parsed t.message
            t.now) := by
  obtain ⟨parsed,observed,message,drone,rfl⟩ := turnNamed named
  refine ⟨parsed,message,?_⟩
  simp only [sessionUpdateCall,observed,message,drone,permissive,Except.mapError,bind,Except.bind,
    resolvedLocal unstale (droneNamed drone)]

theorem callUnnamed {p : Pipeline} (reg : KeyedRegistry) {t : WorkerTurn}
    (unnamed : droneOfTurn p t = none) :
    ∃ outcome, sessionUpdateCall p reg t = .error outcome ∧ outcome ≠ .noActiveSession := by
  unfold droneOfTurn at unnamed
  unfold sessionUpdateCall
  cases observed : p.observe t.message with
  | error e => exact ⟨.failed e,rfl,by simp⟩
  | ok done =>
    cases message : parseQueueMessage p.env.jsonLoads t.message with
    | error e => exact ⟨.failed e,rfl,by simp⟩
    | ok parsed =>
      cases drone : droneKey parsed.droneId with
      | ok key => simp [observed,message,drone] at unnamed
      | error outcome =>
        refine ⟨outcome,by simp [Except.mapError,drone,bind,Except.bind],?_⟩
        rintro rfl
        unfold droneKey at drone
        split at drone
        · cases drone
        · split at drone <;> cases drone

structure Rostered (p : Pipeline) (turns : List WorkerTurn) (reg : KeyedRegistry) : Prop where
  sessions : ∀ key, reg.getByDroneId key = opened p turns key
  filed : ∀ f, (reg.named.getByFlightSessionId f).isSome →
    ∃ t ∈ turns, f = "local-flight-" ++ t.fresh.flightUuid
  unstale : Unstale reg

theorem rosteredEmpty (p : Pipeline) : Rostered p [] .empty := by
  refine ⟨fun key => ?_,fun f present => ?_,fun d f indexed => ?_⟩
  · cases key <;> rfl
  · cases present
  · cases indexed

section
variable {reg : KeyedRegistry} {key : DroneKey} {session : ActiveFlightSession}

theorem storeFiled {f : String}
    (present : ((reg.store key session).named.getByFlightSessionId f).isSome) :
    session.flightSessionId = f ∨ (reg.named.getByFlightSessionId f).isSome := by
  cases key with
  | number value => exact .inr present
  | name name =>
    simp only [KeyedRegistry.store,ActiveSessionRegistry.getStore] at present
    split at present
    · exact .inl (by assumption)
    · exact .inr present

theorem storeUnstale (unstale : Unstale reg) : Unstale (reg.store key session) := by
  intro d f indexed
  cases key with
  | number value => exact unstale d f indexed
  | name name =>
    simp only [KeyedRegistry.store,ActiveSessionRegistry.indexedStore,
      ActiveSessionRegistry.getStore] at indexed ⊢
    by_cases own : session.flightSessionId = f
    · simp [own]
    · rw [if_neg own]
      split at indexed
      · exact absurd (Option.some.inj indexed) own
      · exact unstale d f indexed

theorem getStored (unstale : Unstale reg)
    (own : ∀ name, key = .name name → session.droneKey = some name)
    (apart : ∀ f, (reg.named.getByFlightSessionId f).isSome → session.flightSessionId ≠ f)
    (key' : DroneKey) : (reg.store key session).getByDroneId key' =
      if key = key' then some session else reg.getByDroneId key' := by
  cases key with
  | number value =>
    cases key' with
    | name name => simp [KeyedRegistry.store,KeyedRegistry.getByDroneId]
    | number value' => simp [KeyedRegistry.store,KeyedRegistry.getByDroneId]
  | name name =>
    cases key' with
    | number value => simp [KeyedRegistry.store,KeyedRegistry.getByDroneId]
    | name name' =>
      simp only [KeyedRegistry.getByDroneId,KeyedRegistry.store,ActiveSessionRegistry.getByDroneId,
        ActiveSessionRegistry.indexedStore,own name rfl,Option.some.injEq,DroneKey.name.injEq]
      by_cases here : name = name'
      · simp [here]
      · rw [if_neg here,if_neg here]
        cases indexed : reg.named.indexed name' with
        | none => rfl
        | some f => simp only [ActiveSessionRegistry.getStore,if_neg (apart f (unstale name' f indexed))]

end

theorem storeRostered {p : Pipeline} {turns : List WorkerTurn} {t : WorkerTurn} {reg : KeyedRegistry}
    (rostered : Rostered p turns reg) {key : DroneKey} {text : String}
    (named : droneOfTurn p t = some (key,text)) (unheard : opened p turns key = none)
    (fresh : ∀ t' ∈ turns, t'.fresh.flightUuid ≠ t.fresh.flightUuid) :
    Rostered p (turns ++ [t]) (reg.store key (t.fresh.session (sessionName key text))) := by
  have apart : ∀ f, (reg.named.getByFlightSessionId f).isSome →
      (t.fresh.session (sessionName key text)).flightSessionId ≠ f := by
    rintro _ present rfl
    obtain ⟨t',mem,same⟩ := rostered.filed _ present
    exact fresh t' mem (String.append_right_inj _ |>.mp same).symm
  have own : ∀ name, key = .name name →
      (t.fresh.session (sessionName key text)).droneKey = some name := by
    rintro name rfl
    obtain ⟨parsed,-,-,drone,-⟩ := turnNamed named
    simp [sessionName,Fresh.session,ActiveSessionRegistry.syntheticSession,
      ActiveFlightSession.droneKey,droneNamed drone name rfl]
  refine ⟨fun key' => ?_,fun f present => ?_,storeUnstale rostered.unstale⟩
  · rw [getStored rostered.unstale own apart,rostered.sessions,openedConcat,opens,named]
    by_cases here : key = key'
    · subst here
      simp [unheard]
    · simp [here]
  · rcases storeFiled present with rfl | before
    · exact ⟨t,by simp,rfl⟩
    · obtain ⟨t',mem,same⟩ := rostered.filed f before
      exact ⟨t',List.mem_append_left _ mem,same⟩

theorem turnUnnamed {p : Pipeline} (live : Live) {t : WorkerTurn} (unnamed : droneOfTurn p t = none) :
    (telemetryWorkerTurn p live t).1 = live ∧
      (telemetryWorkerTurn p live t).2 ≠ .noActiveSession := by
  obtain ⟨outcome,call,other⟩ := callUnnamed live.registry unnamed
  simp only [telemetryWorkerTurn,call]
  exact ⟨trivial,other⟩

theorem opensUnnamed {p : Pipeline} {t : WorkerTurn} (unnamed : droneOfTurn p t = none)
    (turns : List WorkerTurn) (key : DroneKey) :
    opened p (turns ++ [t]) key = opened p turns key := by
  rw [openedConcat,opens,unnamed,Option.or_none]

theorem turnRegistry {p : Pipeline} {live : Live} {t : WorkerTurn} {reg : KeyedRegistry} {f : String}
    {u : Telemetry} (call : sessionUpdateCall p live.registry t = .ok (reg,f,u)) :
    (telemetryWorkerTurn p live t).1.registry = reg := by
  simp only [telemetryWorkerTurn,call]
  rcases live.tracker.update p.env.haversine f u t.now with ⟨tracker,_ | state⟩ <;> rfl

theorem turnRostered {p : Pipeline} (permissive : p.sessionSourceMode = .localTest)
    {turns : List WorkerTurn} {live : Live} (rostered : Rostered p turns live.registry)
    {t : WorkerTurn} (fresh : ∀ t' ∈ turns, t'.fresh.flightUuid ≠ t.fresh.flightUuid) :
    Rostered p (turns ++ [t]) (telemetryWorkerTurn p live t).1.registry := by
  have onward : ∀ f, (live.registry.named.getByFlightSessionId f).isSome →
      ∃ t' ∈ turns ++ [t], f = "local-flight-" ++ t'.fresh.flightUuid := by
    intro f present
    obtain ⟨t',mem,same⟩ := rostered.filed f present
    exact ⟨t',List.mem_append_left _ mem,same⟩
  cases named : droneOfTurn p t with
  | none =>
    rw [(turnUnnamed live named).1]
    refine ⟨fun key => ?_,onward,rostered.unstale⟩
    rw [opensUnnamed named]
    exact rostered.sessions key
  | some drone =>
    obtain ⟨key,text⟩ := drone
    obtain ⟨parsed,-,call⟩ := callNamed permissive rostered.unstale named
    rw [turnRegistry call]
    unfold settled
    cases found : live.registry.getByDroneId key with
    | none => exact storeRostered rostered named (by rw [← rostered.sessions,found]) fresh
    | some existing =>
      refine ⟨fun key' => ?_,onward,rostered.unstale⟩
      have known : opened p turns key = some existing := by rw [← rostered.sessions,found]
      rw [openedConcat,opens,named]
      by_cases own : key = key'
      · subst own
        simp only [known,Option.some_or]
        exact found
      · simp only [if_neg own,Option.or_none]
        exact rostered.sessions key'

theorem distinctConcat {turns : List WorkerTurn} {t : WorkerTurn} (distinct : Distinct (turns ++ [t])) :
    Distinct turns ∧ ∀ t' ∈ turns, t'.fresh.flightUuid ≠ t.fresh.flightUuid := by
  simp only [Distinct,List.map_append,List.map_cons,List.map_nil,List.nodup_append] at distinct
  obtain ⟨early,-,apart⟩ := distinct
  exact ⟨early,fun t' mem => apart _ (List.mem_map_of_mem mem) _ (by simp)⟩

theorem runRostered {p : Pipeline} (permissive : p.sessionSourceMode = .localTest)
    {turns : List WorkerTurn} (distinct : Distinct turns) :
    Rostered p turns (localAfter p turns).registry := by
  induction turns using List.reverseRecOn with
  | nil => exact rosteredEmpty p
  | append_singleton turns t ih =>
    obtain ⟨early,fresh⟩ := distinctConcat distinct
    rw [localConcat]
    exact turnRostered permissive (ih early) fresh

theorem distinctSessions {p : Pipeline} {turns : List WorkerTurn} (distinct : Distinct turns)
    {key key' : DroneKey} {s s' : ActiveFlightSession} (first : opened p turns key = some s)
    (second : opened p turns key' = some s') (same : s.flightSessionId = s'.flightSessionId) :
    key = key' := by
  obtain ⟨t,mem,opens_,id⟩ := openedId first
  obtain ⟨t',mem',opens',id'⟩ := openedId second
  have uuid : t.fresh.flightUuid = t'.fresh.flightUuid :=
    String.append_right_inj _ |>.mp (id.symm.trans (same.trans id'))
  obtain rfl := List.inj_on_of_nodup_map distinct mem mem' uuid
  have named : ∀ {key : DroneKey} {s : ActiveFlightSession}, opens p key t = some s →
      ∃ text, droneOfTurn p t = some (key,text) := by
    intro key s made
    unfold opens at made
    split at made
    · rename_i key' text named
      split at made
      · rename_i own
        exact ⟨text,own ▸ named⟩
      · cases made
    · cases made
  obtain ⟨text,drone⟩ := named opens_
  obtain ⟨text',drone'⟩ := named opens'
  rw [drone] at drone'
  cases drone'
  rfl

theorem updateElsewhere {p : Pipeline} {live : Live} {t : WorkerTurn} {reg : KeyedRegistry}
    {f g : String} {u : Telemetry} (call : sessionUpdateCall p live.registry t = .ok (reg,g,u))
    (other : addressed p live t ≠ some f) {tracker : DroneStateTracker}
    {returned : Except PyError DroneState}
    (update : live.tracker.update p.env.haversine g u t.now = (tracker,returned)) :
    tracker.get f = live.tracker.get f ∧ g ≠ f := by
  have apart := ownStateOnly call f other
  rw [update] at apart
  exact ⟨apart,by simpa [addressed,call] using other⟩

theorem turnElsewhere {p : Pipeline} {live : Live} {t : WorkerTurn} {f : String}
    (other : addressed p live t ≠ some f) :
    shows (telemetryWorkerTurn p live t).1 f = shows live f := by
  have handled := turnHandled p live t
  generalize (telemetryWorkerTurn p live t).2 = outcome at handled
  generalize (telemetryWorkerTurn p live t).1 = next at handled ⊢
  cases handled with
  | passed => rfl
  | broken reg g u tracker e call update => simp only [shows,updateElsewhere call other update]
  | noted reg g u tracker state call update => simp only [shows,updateElsewhere call other update]
  | unbuilt reg g u tracker state e call update => simp only [shows,updateElsewhere call other update]
  | unwritten reg g u tracker state row e call update =>
    obtain ⟨apart,away⟩ := updateElsewhere call other update
    obtain ⟨-,rfl,-⟩ := returnedState update
    simp only [shows,DroneStateTracker.getPut,if_neg away,apart]
  | wrote reg g u tracker state row call update due build =>
    obtain ⟨apart,away⟩ := updateElsewhere call other update
    obtain ⟨-,rfl,-⟩ := returnedState update
    have foreign : row.sessionId ≠ f := by rw [rowSession build]; exact away
    simp [shows,away,apart,ofSession,foreign]

theorem writtenSame (written : Except PyError Unit) (tracker tracker' : DroneStateTracker)
    (state : DroneState) :
    (writeTerminalRow written tracker state).2 = (writeTerminalRow written tracker' state).2 := by
  unfold writeTerminalRow
  split
  · cases buildRow state with
    | error e => rfl
    | ok row => cases written <;> rfl
  · rfl

theorem turnOwn {p : Pipeline} {live live' : Live} {t : WorkerTurn} {reg reg' : KeyedRegistry}
    {f : String} {u : Telemetry} (same : shows live f = shows live' f)
    (call : sessionUpdateCall p live.registry t = .ok (reg,f,u))
    (call' : sessionUpdateCall p live'.registry t = .ok (reg',f,u)) :
    shows (telemetryWorkerTurn p live t).1 f = shows (telemetryWorkerTurn p live' t).1 f := by
  obtain ⟨state,rows⟩ := Prod.mk.inj same
  obtain ⟨returned,stored⟩ := Isolation.updateLocal p.env.haversine u t.now state
  simp only [telemetryWorkerTurn,call,call']
  generalize live.tracker.update p.env.haversine f u t.now = first at returned stored ⊢
  generalize live'.tracker.update p.env.haversine f u t.now = second at returned stored ⊢
  obtain ⟨tracker,outcome⟩ := first
  obtain ⟨tracker',outcome'⟩ := second
  cases (show outcome = outcome' from returned)
  cases outcome with
  | error e => exact Prod.ext stored rows
  | ok left =>
    have written := @Isolation.writeLocal t.written _ _ left _ stored
    have lines := writtenSame t.written tracker tracker' left
    dsimp only at written ⊢
    generalize writeTerminalRow t.written tracker left = wrote at written lines ⊢
    generalize writeTerminalRow t.written tracker' left = wrote' at written lines ⊢
    obtain ⟨after,made⟩ := wrote
    obtain ⟨after',made'⟩ := wrote'
    obtain rfl : made = made' := lines
    simp only [shows,ofSession,List.filter_append] at rows written ⊢
    rw [written,rows]

section
variable {p : Pipeline} {turns : List WorkerTurn} {t : WorkerTurn} {key : DroneKey} {text : String}

theorem openedSettled {reg : KeyedRegistry} (rostered : Rostered p turns reg)
    (named : droneOfTurn p t = some (key,text)) : opened p (turns ++ [t]) key =
      some (settled reg key (t.fresh.session (sessionName key text))).2 := by
  rw [openedConcat,← rostered.sessions,opens,named]
  unfold settled
  cases reg.getByDroneId key with
  | none => simp
  | some existing => rfl

theorem namedAddressed (permissive : p.sessionSourceMode = .localTest) {live : Live}
    (rostered : Rostered p turns live.registry) (named : droneOfTurn p t = some (key,text)) :
    ∃ s, opened p (turns ++ [t]) key = some s ∧ addressed p live t = some s.flightSessionId := by
  obtain ⟨parsed,-,call⟩ := callNamed permissive rostered.unstale named
  exact ⟨_,openedSettled rostered named,by simp only [addressed,call]⟩

theorem namedAccepted (permissive : p.sessionSourceMode = .localTest) {live : Live}
    (rostered : Rostered p turns live.registry) (named : droneOfTurn p t = some (key,text)) :
    (telemetryWorkerTurn p live t).2 ≠ .noActiveSession := by
  obtain ⟨parsed,-,call⟩ := callNamed permissive rostered.unstale named
  have handled := turnHandled p live t
  generalize (telemetryWorkerTurn p live t).1 = next at handled
  generalize (telemetryWorkerTurn p live t).2 = outcome at handled ⊢
  cases handled with
  | passed _ refused => rw [call] at refused; cases refused
  | broken | noted | unbuilt | unwritten | wrote => simp

theorem unnamedAddressed (live : Live) (unnamed : droneOfTurn p t = none) :
    addressed p live t = none := by
  obtain ⟨outcome,call,-⟩ := callUnnamed live.registry unnamed
  simp only [addressed,call]

theorem openedOnward {s : ActiveFlightSession} (made : opened p turns key = some s) :
    opened p (turns ++ [t]) key = some s := by
  rw [openedConcat,made,Option.some_or]

theorem unheardShows (permissive : p.sessionSourceMode = .localTest) (distinct : Distinct turns)
    {f : String} (unheard : ∀ key s, opened p turns key = some s → s.flightSessionId ≠ f) :
    shows (localAfter p turns) f = (none,[]) := by
  induction turns using List.reverseRecOn with
  | nil => rfl
  | append_singleton turns t ih =>
    have rostered := runRostered permissive (distinctConcat distinct).1
    have before := ih (distinctConcat distinct).1 (fun key s made => unheard key s (openedOnward made))
    rw [localConcat,turnElsewhere,before]
    cases named : droneOfTurn p t with
    | none => rw [unnamedAddressed _ named]; simp
    | some drone =>
      obtain ⟨s,made,addressed_⟩ := namedAddressed permissive rostered named
      rw [addressed_]
      exact fun same => unheard _ s made (Option.some.inj same)

theorem opensOther (other : ¬ ofDrone p key t = true) : opens p key t = none := by
  unfold opens
  cases named : droneOfTurn p t with
  | none => rfl
  | some drone =>
    have apart : drone.1 ≠ key := by simpa [ofDrone,named] using other
    exact if_neg apart

theorem openedFilter (p : Pipeline) (turns : List WorkerTurn) (key : DroneKey) :
    opened p (turns.filter (ofDrone p key)) key = opened p turns key := by
  induction turns using List.reverseRecOn with
  | nil => rfl
  | append_singleton turns t ih =>
    rw [List.filter_append,openedConcat]
    by_cases own : ofDrone p key t = true
    · rw [List.filter_cons_of_pos own,List.filter_nil,openedConcat,ih]
    · rw [List.filter_cons_of_neg own,List.filter_nil,List.append_nil,ih,opensOther own,
        Option.or_none]

theorem distinctFilter (distinct : Distinct turns) (keep : WorkerTurn → Bool) :
    Distinct (turns.filter keep) :=
  distinct.sublist (List.filter_sublist.map _)

theorem newShows (permissive : p.sessionSourceMode = .localTest) (distinct : Distinct turns)
    (fresh : ∀ t' ∈ turns, t'.fresh.flightUuid ≠ t.fresh.flightUuid) :
    shows (localAfter p turns) ("local-flight-" ++ t.fresh.flightUuid) = (none,[]) := by
  refine unheardShows permissive distinct (fun key s made same => ?_)
  obtain ⟨t',mem,-,id⟩ := openedId made
  exact fresh t' mem (String.append_right_inj _ |>.mp (id.symm.trans same))

theorem foreignTurn (permissive : p.sessionSourceMode = .localTest)
    (distinct : Distinct (turns ++ [t])) {s : ActiveFlightSession}
    (made : opened p (turns ++ [t]) key = some s) (foreign : ¬ ofDrone p key t = true) :
    opened p turns key = some s ∧
      shows (localAfter p (turns ++ [t])) s.flightSessionId =
        shows (localAfter p turns) s.flightSessionId := by
  have rostered := runRostered permissive (distinctConcat distinct).1
  have other : addressed p (localAfter p turns) t ≠ some s.flightSessionId := by
    cases named : droneOfTurn p t with
    | none => rw [unnamedAddressed _ named]; simp
    | some drone =>
      obtain ⟨s',made',addressed_⟩ := namedAddressed permissive rostered named
      rw [addressed_]
      intro same
      have key' := distinctSessions distinct made' made (Option.some.inj same)
      exact foreign (by simp [ofDrone,named,key'])
  refine ⟨by rwa [openedConcat,opensOther foreign,Option.or_none] at made,?_⟩
  rw [localConcat,turnElsewhere other]

theorem ownTurn (permissive : p.sessionSourceMode = .localTest)
    (distinct : Distinct (turns ++ [t])) {s : ActiveFlightSession}
    (made : opened p (turns ++ [t]) key = some s) (own : ofDrone p key t = true)
    (before : opened p turns key = some s → shows (localAfter p turns) s.flightSessionId =
      shows (localAfter p (turns.filter (ofDrone p key))) s.flightSessionId) :
    shows (localAfter p (turns ++ [t])) s.flightSessionId =
      shows (localAfter p (turns.filter (ofDrone p key) ++ [t])) s.flightSessionId := by
  obtain ⟨early,fresh⟩ := distinctConcat distinct
  have rostered := runRostered permissive early
  have rostered' := runRostered permissive (distinctFilter early (ofDrone p key))
  rw [localConcat,localConcat]
  obtain ⟨drone,named,rfl⟩ : ∃ drone, droneOfTurn p t = some drone ∧ drone.1 = key := by
    simpa [ofDrone] using own
  obtain ⟨parsed,message,call⟩ := callNamed permissive rostered.unstale named
  obtain ⟨parsed',message',call'⟩ := callNamed permissive rostered'.unstale named
  have first := openedSettled rostered named
  have second := openedSettled rostered' named
  rw [openedConcat,openedFilter,← openedConcat,made] at second
  rw [made] at first
  rw [← Option.some.inj first] at call
  rw [← Option.some.inj second] at call'
  rw [message] at message'
  cases message'
  refine turnOwn ?_ call call'
  cases known : opened p turns drone.1 with
  | some s' =>
    have onward := openedOnward (t := t) known
    rw [made] at onward
    cases onward
    exact before known
  | none =>
    have here : opens p drone.1 t = some s := by
      rwa [openedConcat,known,Option.none_or] at made
    rw [opensId here,newShows permissive early fresh,newShows permissive
      (distinctFilter early _) (fun t' mem => fresh t' (List.mem_filter.mp mem).1)]

theorem ownMessages (permissive : p.sessionSourceMode = .localTest) (distinct : Distinct turns)
    {s : ActiveFlightSession} (made : opened p turns key = some s) :
    shows (localAfter p turns) s.flightSessionId =
      shows (localAfter p (turns.filter (ofDrone p key))) s.flightSessionId := by
  induction turns using List.reverseRecOn with
  | nil => rfl
  | append_singleton turns t ih =>
    have early := (distinctConcat distinct).1
    rw [List.filter_append]
    by_cases own : ofDrone p key t = true
    · rw [List.filter_cons_of_pos own,List.filter_nil]
      exact ownTurn permissive distinct made own (ih early)
    · rw [List.filter_cons_of_neg own,List.filter_nil,List.append_nil]
      obtain ⟨known,same⟩ := foreignTurn permissive distinct made own
      rw [same]
      exact ih early known

end

theorem dronesApart {p : Pipeline} (permissive : p.sessionSourceMode = .localTest)
    {turns : List WorkerTurn} (distinct : Distinct turns) : Apart p turns := by
  have early : ∀ before t, before ++ [t] <+: turns → Distinct before := fun before t within =>
    distinct.sublist (((List.prefix_append before [t]).trans within).sublist.map _)
  refine ⟨(runRostered permissive distinct).sessions,?_,?_,?_,?_,?_⟩
  · intro before t within key text named
    exact namedAddressed permissive (runRostered permissive (early before t within)) named
  · intro before t within
    cases named : droneOfTurn p t with
    | none => exact (turnUnnamed _ named).2
    | some drone =>
      exact namedAccepted permissive (runRostered permissive (early before t within)) named
  · intro key key' s s' first second same
    exact distinctSessions distinct first second same
  · intro f present
    by_contra unheard
    have nothing := unheardShows permissive distinct
      (fun key s made same => unheard ⟨key,s,made,same⟩)
    rw [(Prod.mk.inj nothing).1] at present
    cases present
  · intro key s made
    exact ownMessages permissive distinct made

def namedDrones : Pipeline where
  env := { deployment with jsonLoads := fun text => .ok (.obj [("drone_id",.str text)]) }
  sessionSourceMode := .localTest
  metrics := true
  floatText := fun _ => "nan"

def heard (drone : String) (second : Nat) (flightUuid evalUuid : String) : WorkerTurn where
  message := [("payload",.str drone),("timestamp",.str "2026-03-01T09:00:00+00:00"),
    ("enqueued_monotonic",.float (.finite second))]
  now := march 0 9 0 second
  fresh := ⟨flightUuid,evalUuid,"2026-03-01T09:00:00+00:00"⟩
  written := .ok ()

def inTurn : List WorkerTurn :=
  [heard "drone-1" 1 "0" "1",heard "drone-2" 2 "2" "3",heard "drone-1" 3 "4" "5"]

theorem inTurnApart : Apart namedDrones inTurn :=
  dronesApart rfl (by unfold Distinct; decide)

end FlightMonitor.LocalSessions
