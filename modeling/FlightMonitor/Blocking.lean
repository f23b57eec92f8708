import FlightMonitor.SessionMachine

/-! Whether a recorded message can make later ones fail. A position is stored as it came and
converted when the next message arrives, so an update raises on what an earlier one left. -/
namespace FlightMonitor.Blocking
open PyValue IsoTime

def infinite : PyFloat → Bool
  | .posInf | .negInf => true
  | .finite _ | .nan => false

structure RaisesOnInfinite (haversine : Haversine) : Prop where
  total : ∀ lat lon lat' lon', infinite lat = false → infinite lon = false →
    infinite lat' = false → infinite lon' = false → ∃ metres, haversine lat lon lat' lon' = .ok metres
  raises : ∀ lat lon x y, infinite lat ∨ infinite lon →
    ∃ e, haversine lat lon (.finite x) (.finite y) = .error e

def Fix (position : Option Position) : Prop :=
  ∃ p x y, position = some p ∧ safeFloat p.latitude = .ok (some (.finite x)) ∧
    safeFloat p.longitude = .ok (some (.finite y)) ∧ -90 ≤ x ∧ x ≤ 90 ∧ -180 ≤ y ∧ y ≤ 180

structure WellFormed (u : Telemetry) : Prop where
  position : Fix u.position
  readings : ∃ altitude voltage, u.readings = .ok (some (.finite altitude),some (.finite voltage))

def Recordable (env : Env) (s : State) : Prop :=
  ∀ f record, s.registry.getByFlightSessionId f = some record → ∀ u now, WellFormed u →
    ∃ state, (s.tracker.update env.haversine f u now).2 = .ok state

def poisonous (position : Option Position) : Bool :=
  match position with
  | none => false
  | some p =>
    match safeFloat p.latitude,safeFloat p.longitude with
    | .error _,_ | _,.error _ => true
    | .ok (some lat),.ok (some lon) => infinite lat || infinite lon
    | .ok _,.ok _ => false

def shown (tracker : DroneStateTracker) (f : String) : Option Position :=
  (tracker.get f).bind DroneState.position

/-- A worker stores a poisonous position: the readings of its message convert, and the leg
from the position shown so far can be computed or there is none. -/
def poisons (env : Env) (s : State) (e : Event) : Bool :=
  match e.action,s.queue with
  | .worker _,message :: _ =>
    match updateCall env s.registry message e.wall with
    | .error _ => false
    | .ok (f,u) =>
      match u.readings,leg env.haversine (shown s.tracker f) u.position with
      | .ok _,.ok _ => poisonous u.position
      | _,_ => false
  | _,_ => false

theorem legPoisoned {haversine : Haversine} (calls : RaisesOnInfinite haversine)
    {previous current : Option Position} (poison : poisonous previous = true) (fix : Fix current) :
    ∃ e, leg haversine previous current = .error e := by
  obtain ⟨q,x,y,rfl,lat',lon',-⟩ := fix
  cases previous with
  | none => cases poison
  | some p =>
    simp only [poisonous] at poison
    simp only [leg,lat',lon']
    rcases lat : safeFloat p.latitude with e | a
    · exact ⟨e,rfl⟩
    rcases lon : safeFloat p.longitude with e | b
    · exact ⟨e,rfl⟩
    rw [lat,lon] at poison
    rcases a with _ | a <;> rcases b with _ | b <;> try cases poison
    obtain ⟨e,raised⟩ := calls.raises a b x y (by simpa using poison)
    exact ⟨e,by simp [bind,Except.bind,raised]⟩

theorem legClean {haversine : Haversine} (calls : RaisesOnInfinite haversine)
    {previous current : Option Position} (clean : poisonous previous = false) (fix : Fix current) :
    ∃ metres, leg haversine previous current = .ok metres := by
  obtain ⟨q,x,y,rfl,lat',lon',-⟩ := fix
  cases previous with
  | none => exact ⟨none,rfl⟩
  | some p =>
    simp only [poisonous] at clean
    simp only [leg,lat',lon']
    rcases lat : safeFloat p.latitude with e | a
    · simp [lat] at clean
    rcases lon : safeFloat p.longitude with e | b
    · simp [lat,lon] at clean
    rw [lat,lon] at clean
    rcases a with _ | a <;> rcases b with _ | b <;> try exact ⟨none,rfl⟩
    obtain ⟨finiteLat,finiteLon⟩ := Bool.or_eq_false_iff.mp clean
    obtain ⟨metres,flown⟩ := calls.total a b (.finite x) (.finite y) finiteLat finiteLon rfl rfl
    exact ⟨some metres,by simp [bind,Except.bind,flown]⟩

theorem updateReturnsIff {haversine : Haversine} (calls : RaisesOnInfinite haversine)
    (tracker : DroneStateTracker) (f : String) {u : Telemetry} (good : WellFormed u)
    (now : UtcTime) : (∃ state, (tracker.update haversine f u now).2 = .ok state) ↔
      poisonous (shown tracker f) = false := by
  obtain ⟨altitude,voltage,read⟩ := good.readings
  simp only [DroneStateTracker.update,read,shown]
  cases tracker.get f with
  | none => simp [poisonous]
  | some existing =>
    simp only [Option.bind_some]
    cases poison : poisonous existing.position with
    | false =>
      obtain ⟨metres,flown⟩ := legClean calls poison good.position
      simp [flown]
    | true =>
      obtain ⟨e,raised⟩ := legPoisoned calls poison good.position
      simp [raised]

theorem recordableIff {env : Env} (calls : RaisesOnInfinite env.haversine) {s : State}
    {u : Telemetry} (good : WellFormed u) : Recordable env s ↔
      ∀ f record, s.registry.getByFlightSessionId f = some record →
        poisonous (shown s.tracker f) = false := by
  constructor
  · intro records f record active
    exact (updateReturnsIff calls s.tracker f good ⟨⟨⟨1,1,1,0,0,0,0,some 0⟩,by decide⟩,rfl⟩).mp
      (records f record active u _ good)
  · intro clean f record active u now good
    exact (updateReturnsIff calls s.tracker f good now).mpr (clean f record active)

theorem updateShown {u : Telemetry} {r : Option PyFloat × Option PyFloat}
    (read : u.readings = .ok r) (haversine : Haversine) (tracker : DroneStateTracker) (f : String)
    (now : UtcTime) : shown (tracker.update haversine f u now).1 f =
      match leg haversine (shown tracker f) u.position with
      | .ok _ => u.position
      | .error _ => shown tracker f := by
  simp only [DroneStateTracker.update,read,shown]
  cases found : tracker.get f with
  | none => simp [Telemetry.create,leg]
  | some existing =>
    have filed := DroneStateTracker.stateFiled found
    simp only [Option.bind_some]
    cases leg haversine existing.position u.position with
    | error e => simp [Telemetry.receive,filed]
    | ok metres => simp [Telemetry.accumulate,Telemetry.receive,filed]

theorem workerShown {env : Env} {reg : ActiveSessionRegistry} {message : Members} {now : UtcTime}
    {f : String} {u : Telemetry} {r : Option PyFloat × Option PyFloat}
    (call : updateCall env reg message now = .ok (f,u)) (read : u.readings = .ok r)
    (written : Except PyError Unit) (tracker : DroneStateTracker) :
    shown (telemetryWorker env written reg tracker message now).1 f =
      match leg env.haversine (shown tracker f) u.position with
      | .ok _ => u.position
      | .error _ => shown tracker f := by
  rw [← updateShown read env.haversine tracker f now]
  obtain ⟨state,stored⟩ := updateStores read env.haversine tracker f now
  obtain ⟨flag,kept⟩ := telemetryWorkerStores call written tracker stored
  simp only [shown,stored,kept,Option.bind_some]

theorem observingShown {env : Env} {s : State} {e : Event} {state : DroneState}
    (made : observing env s e = some state) : ∃ written message rest u r,
      e.action = .worker written ∧ s.queue = message :: rest ∧
      updateCall env s.registry message e.wall = .ok (state.flightSessionId,u) ∧
      u.readings = .ok r ∧ state.position =
        match leg env.haversine (shown s.tracker state.flightSessionId) u.position with
        | .ok _ => u.position
        | .error _ => shown s.tracker state.flightSessionId := by
  obtain ⟨written,message,rest,u,r,acts,waiting,call,read,stored⟩ := observingCall made
  refine ⟨written,message,rest,u,r,acts,waiting,call,read,?_⟩
  rw [← workerShown call read written s.tracker,shown,stored]
  rfl

theorem poisonsIff {env : Env} {s : State} {e : Event} : poisons env s e = true ↔
    ∃ written message rest f u r metres, e.action = .worker written ∧ s.queue = message :: rest ∧
      updateCall env s.registry message e.wall = .ok (f,u) ∧ u.readings = .ok r ∧
      leg env.haversine (shown s.tracker f) u.position = .ok metres ∧
      poisonous u.position = true := by
  constructor
  · intro made
    unfold poisons at made
    split at made
    · rename_i written message rest acts waiting
      split at made
      · cases made
      · rename_i f u call
        split at made
        · rename_i r metres read flown
          exact ⟨written,message,rest,f,u,r,metres,acts,waiting,call,read,flown,made⟩
        · cases made
    · cases made
  · intro stored
    obtain ⟨written,message,rest,f,u,r,metres,acts,waiting,call,read,flown,poison⟩ := stored
    simp only [poisons,acts,waiting,call,read,flown,poison]

theorem stampExitPosition (requestedAt reason : String) (state : DroneState) :
    (state.stampExit requestedAt reason).position = state.position := by
  obtain ⟨at_,why,same⟩ := liveStamped requestedAt reason state
  rw [same]

theorem stepShown {env : Env} {s : State} {e : Event} {f : String}
    (poison : poisonous (shown (step env s e).tracker f) = true) :
    poisonous (shown s.tracker f) = true ∨ poisons env s e = true := by
  have before : shown s.tracker f = (s.view f).live.bind DroneState.position := rfl
  change poisonous (((step env s e).view f).live.bind DroneState.position) = true at poison
  rw [before]
  have moved := stepMoved env s e f
  rw [stepView] at poison
  generalize moves env s e f = ms at moved poison
  cases moved with
  | idle | stubReported | registered | stubReleased | scanned => exact .inl poison
  | exitAccepted made own active =>
    refine .inl ?_
    cases live : (s.view f).live with
    | none => simp [Move.apply,live,poisonous] at poison
    | some state => simpa [Move.apply,live,stampExitPosition] using poison
  | observed made own active at_ why =>
    obtain ⟨written,message,rest,u,r,acts,waiting,call,read,stored⟩ := observingShown made
    subst f
    change poisonous (DroneState.position _) = true at poison
    rw [stored] at poison
    cases flown : leg env.haversine (shown s.tracker _) u.position with
    | error e =>
      rw [flown] at poison
      exact .inl poison
    | ok metres =>
      rw [flown] at poison
      exact .inr (poisonsIff.mpr
        ⟨written,message,rest,_,u,r,metres,acts,waiting,call,read,flown,poison⟩)
  | scannedFinalized | finalized => simp [Move.apply,poisonous] at poison

theorem poisonsActive {env : Env} {s : State} {e : Event} (made : poisons env s e = true) :
    ∃ f record, (step env s e).registry.getByFlightSessionId f = some record ∧
      poisonous (shown (step env s e).tracker f) = true := by
  obtain ⟨written,message,rest,f,u,r,metres,acts,waiting,call,read,flown,poison⟩ :=
    poisonsIff.mp made
  obtain ⟨record,active⟩ := updateCallActive call
  refine ⟨f,record,?_,?_⟩
  · simpa [step,acts,worker,waiting] using active
  · have stored := workerShown call read written s.tracker
    rw [flown] at stored
    simp only [step,acts,worker,waiting]
    rwa [stored]

def goodMessage : Telemetry where
  droneId := "drone-1"
  sessionSource := "aws"
  rawMessage := []
  parsedPayload := [("voltage",.float (.finite 12))]
  missionStatus := .null
  mode := .null
  position := some ⟨.float (.finite 47),.float (.finite 8),.float (.finite 400),[]⟩

theorem goodMessageWellFormed : WellFormed goodMessage where
  position := ⟨_,47,8,rfl,rfl,rfl,by decide,by decide,by decide,by decide⟩
  readings := ⟨400,12,rfl⟩

theorem recordableIffNoPoison (env : Env) (calls : RaisesOnInfinite env.haversine)
    (events : List Event) :
    Trace.Throughout (fun before => Recordable env (after env before)) events ↔
      Trace.Meets (fun before e => poisons env (after env before) e = false) events := by
  let Clean := fun before => ∀ f, poisonous (shown (after env before).tracker f) = false
  refine Trace.goodIffGuarded Clean ?_ ?_ ?_ ?_ events
  · intro f
    rfl
  · intro before clean
    rw [recordableIff calls goodMessageWellFormed]
    exact fun f _ _ => clean f
  · intro before e clean spared f
    rw [afterConcat]
    cases poison : poisonous (shown (step env (after env before) e).tracker f) with
    | false => rfl
    | true =>
      rcases stepShown poison with already | made
      · exact absurd already (by simp [clean f])
      · exact absurd made (by simp [spared])
  · intro before e clean made records
    obtain ⟨f,record,active,poison⟩ := poisonsActive (Bool.of_not_eq_false made)
    rw [afterConcat,recordableIff calls goodMessageWellFormed] at records
    exact absurd (records f record active) (by simp [poison])

/-! A drone that hovers, after a first message of its own or one of no place on earth. -/

def raising : Haversine := fun lat lon lat' lon' =>
  if infinite lat || infinite lon || infinite lat' || infinite lon' then
    .error (.valueError "math domain error") else .ok .zero

theorem raisingRaises : RaisesOnInfinite raising where
  total := by
    intro lat lon lat' lon' a b c d
    exact ⟨.zero,by simp [raising,a,b,c,d]⟩
  raises := by
    intro lat lon x y either
    have caught : (infinite lat || infinite lon) = true := by simpa using either
    exact ⟨_,if_pos (by simp [caught])⟩

def fixMessage (latitude : Json) : Json :=
  .obj [("drone_id",.str "drone-1"),("status",.obj [("location",
    .obj [("latitude",latitude),("longitude",.float (.finite 8))])])]

def wildLatitude : Json := .int (10^400)

def coast : Env :=
  { deployment with
    haversine := raising
    jsonLoads := fun text =>
      if text = "hover" then .ok (fixMessage (.float (.finite 47)))
      else if text = "wild" then .ok (fixMessage wildLatitude)
      else .error (.valueError "Expecting value") }

def flightOf (first : String) : List Event :=
  let body : Json := .obj [("flight_session_id",.str "flight-A"),("drone_id",.str "drone-1")]
  [(Action.registerSession body).at 8 18 0 0,
    (Action.onMessage "update_drone" first).at 8 18 0 1,Action.enqueueMessage.at 8 18 0 1,
    (Action.worker (.ok ())).at 8 18 0 1,
    (Action.onMessage "update_drone" "hover").at 8 18 0 2,Action.enqueueMessage.at 8 18 0 2,
    (Action.worker (.ok ())).at 8 18 0 2]

theorem hoverRecordable : Trace.Throughout (fun before => Recordable coast (after coast before))
    (flightOf "hover") :=
  (recordableIffNoPoison coast raisingRaises (flightOf "hover")).mpr (by decide)

theorem limitBelow : PyFloat.limit ≤ ((2^1024 : Nat) : Int) := by
  rw [Nat.cast_pow]
  exact sub_le_self _ (by positivity)

theorem hugeOverflows {n : Int} (huge : PyFloat.limit ≤ n.natAbs) :
    safeFloat (.int n) = .error .overflowError := by
  have overflows : toFloat (.int n) = .error .overflowError := by
    simp only [toFloat]
    rw [if_neg (not_lt.mpr huge)]
  simp only [safeFloat,overflows]
  rfl

theorem wildOverflows : safeFloat wildLatitude = .error .overflowError := by
  refine hugeOverflows (limitBelow.trans (Nat.cast_le.mpr ?_))
  rw [Int.natAbs_pow]
  decide +kernel

theorem wildLatitudeBlocks : ¬ Trace.Throughout
    (fun before => Recordable coast (after coast before)) (flightOf "wild") := by
  intro records
  have stored : Recordable coast (after coast ((flightOf "wild").take 4)) :=
    records _ (List.take_prefix 4 _)
  rw [recordableIff raisingRaises goodMessageWellFormed] at stored
  have clean := stored "flight-A" _ rfl
  have shows : shown (after coast ((flightOf "wild").take 4)).tracker "flight-A" =
      some ⟨wildLatitude,.float (.finite 8),.null,
        [("latitude",wildLatitude),("longitude",.float (.finite 8))]⟩ := rfl
  rw [shows] at clean
  simp [poisonous,wildOverflows] at clean

end FlightMonitor.Blocking
