import Mathlib.Data.List.Chain
import Mathlib.Data.Rat.Defs
import FlightMonitor.Service
import FlightMonitor.Updates

/-! What a sequence of updates adds up to when every reading is an exact number: the first and
the last of some fields, the least and the greatest of others, over the whole sequence. -/
namespace FlightMonitor.Accumulation
open PyValue IsoTime Updates

def exact : Except PyError (Option PyFloat) → Option Rat
  | .ok (some (.finite q)) => some q
  | _ => none

def altitudeOf (u : Update) : Option Rat := exact (safeFloat u.1.altitude)

def voltageOf (u : Update) : Option Rat := exact (extractVoltage u.1.parsedPayload)

def altitudes (updates : List Update) : List Rat := updates.filterMap altitudeOf

def voltages (updates : List Update) : List Rat := updates.filterMap voltageOf

def positions (updates : List Update) : List Position := updates.filterMap (·.1.position)

def Exact (reading : Except PyError (Option PyFloat)) : Prop :=
  reading = .ok ((exact reading).map .finite)

structure ExactReadings (u : Update) : Prop where
  altitude : Exact (safeFloat u.1.altitude)
  voltage : Exact (extractVoltage u.1.parsedPayload)
  latitude : ∀ p, u.1.position = some p → Exact (safeFloat p.latitude)
  longitude : ∀ p, u.1.position = some p → Exact (safeFloat p.longitude)

def coordinates (position : Option Position) : Option (Rat × Rat) :=
  position.bind (fun p => (exact (safeFloat p.latitude)).bind (fun latitude =>
    (exact (safeFloat p.longitude)).map (fun longitude => (latitude,longitude))))

def MeasuresLeg (haversine : Haversine) (previous current : Option Position) : Prop :=
  ∀ a b c d, coordinates previous = some (a,b) → coordinates current = some (c,d) →
    ∃ x, haversine (.finite a) (.finite b) (.finite c) (.finite d) = .ok x

/-- A distance for the legs of the sequence, and for the leg a repeated last message adds. -/
structure MeasuresExact (haversine : Haversine) (updates : List Update) : Prop where
  legs : (updates.map (·.1.position)).IsChain (MeasuresLeg haversine)
  stays : ∀ u, updates.getLast? = some u → MeasuresLeg haversine u.1.position u.1.position

structure Accumulates (updates : List Update) (state : DroneState) : Prop where
  firstSeen : (updates.map Update.stamp).head? = some state.firstSeen
  lastSeen : (updates.map Update.stamp).getLast? = some state.lastSeen
  messageCount : state.messageCount = updates.length
  minAltitude : state.minAltitude = (altitudes updates).min?.map .finite
  maxAltitude : state.maxAltitude = (altitudes updates).max?.map .finite
  voltageIn : state.voltageIn = (voltages updates).head?.map .finite
  voltageOut : state.voltageOut = (voltages updates).getLast?.map .finite
  startPosition : state.startPosition = (positions updates).head?
  missionStatus : updates.getLast?.map (·.1.missionStatus) = some state.missionStatus
  mode : updates.getLast?.map (·.1.mode) = some state.mode

theorem minConcat (xs : List Rat) (x : Rat) :
    (xs ++ [x]).min? = some (xs.min?.elim x (fun least => min least x)) := by
  cases xs with
  | nil => rfl
  | cons y ys => rw [List.cons_append,List.min?_cons',List.min?_cons',List.foldl_append]; rfl

theorem maxConcat (xs : List Rat) (x : Rat) :
    (xs ++ [x]).max? = some (xs.max?.elim x (fun greatest => max greatest x)) := by
  cases xs with
  | nil => rfl
  | cons y ys => rw [List.cons_append,List.max?_cons',List.max?_cons',List.foldl_append]; rfl

theorem minFinite (a b : Rat) : PyFloat.min (.finite a) (.finite b) = .finite (min a b) := by
  simp only [PyFloat.min,PyFloat.lt,decide_eq_true_eq]
  split
  · rw [min_eq_right (by linarith)]
  · rw [min_eq_left (by linarith)]

theorem maxFinite (a b : Rat) : PyFloat.max (.finite a) (.finite b) = .finite (max a b) := by
  simp only [PyFloat.max,PyFloat.lt,decide_eq_true_eq]
  split
  · rw [max_eq_right (by linarith)]
  · rw [max_eq_left (by linarith)]

theorem exactRead {u : Update} (reads : ExactReadings u) :
    u.1.readings = .ok ((altitudeOf u).map .finite,(voltageOf u).map .finite) := by
  unfold Telemetry.readings
  rw [show safeFloat u.1.altitude = .ok ((altitudeOf u).map .finite) from reads.altitude,
    show extractVoltage u.1.parsedPayload = .ok ((voltageOf u).map .finite) from reads.voltage]
  rfl

theorem exactLeg {haversine : Haversine} {x y : Update} (before : ExactReadings x)
    (now : ExactReadings y) (measures : MeasuresLeg haversine x.1.position y.1.position) :
    ∃ metres, leg haversine x.1.position y.1.position = .ok metres := by
  cases start : x.1.position with
  | none => exact ⟨none,rfl⟩
  | some p =>
    cases stop : y.1.position with
    | none => exact ⟨none,rfl⟩
    | some q =>
      rw [start,stop] at measures
      simp only [leg]
      rw [before.latitude p start,before.longitude p start,now.latitude q stop,now.longitude q stop]
      simp only [bind,Except.bind]
      cases lat : exact (safeFloat p.latitude) with
      | none => exact ⟨none,rfl⟩
      | some a =>
      cases lon : exact (safeFloat p.longitude) with
      | none => exact ⟨none,rfl⟩
      | some b =>
      cases lat' : exact (safeFloat q.latitude) with
      | none => exact ⟨none,rfl⟩
      | some c =>
      cases lon' : exact (safeFloat q.longitude) with
      | none => exact ⟨none,rfl⟩
      | some d =>
        obtain ⟨x,measured⟩ := measures a b c d (by simp [coordinates,lat,lon])
          (by simp [coordinates,lat',lon'])
        exact ⟨some x,by simp only [Option.map_some,measured]⟩

theorem keepMin (altitudes : List Rat) (reading : Option Rat) :
    keepReading PyFloat.min (altitudes.min?.map .finite) (reading.map .finite) =
      (altitudes ++ reading.toList).min?.map .finite := by
  cases reading with
  | none => simp [keepReading]
  | some x =>
    rw [Option.toList_some,minConcat]
    cases altitudes.min? with
    | none => rfl
    | some least => simp [keepReading,minFinite]

theorem keepMax (altitudes : List Rat) (reading : Option Rat) :
    keepReading PyFloat.max (altitudes.max?.map .finite) (reading.map .finite) =
      (altitudes ++ reading.toList).max?.map .finite := by
  cases reading with
  | none => simp [keepReading]
  | some x =>
    rw [Option.toList_some,maxConcat]
    cases altitudes.max? with
    | none => rfl
    | some greatest => simp [keepReading,maxFinite]

theorem keepFirst (voltages : List Rat) (reading : Option Rat) :
    keepReading (fun k _ => k) (voltages.head?.map .finite) (reading.map .finite) =
      (voltages ++ reading.toList).head?.map .finite := by
  cases reading with
  | none => simp [keepReading]
  | some x => cases voltages <;> simp [keepReading]

theorem keepLast (voltages : List Rat) (reading : Option Rat) :
    keepReading (fun _ x => x) (voltages.getLast?.map .finite) (reading.map .finite) =
      (voltages ++ reading.toList).getLast?.map .finite := by
  cases reading with
  | none => simp [keepReading]
  | some x => cases voltages.getLast? <;> simp [keepReading]

theorem filterMapConcat {α β : Type} (g : α → Option β) (xs : List α) (x : α) :
    (xs ++ [x]).filterMap g = xs.filterMap g ++ (g x).toList := by
  cases read : g x <;> simp [List.filterMap_append,read]

theorem createdAccumulates (u : Update) (f : String) :
    Accumulates [u] (handleArmState (u.1.create f u.stamp ((altitudeOf u).map .finite)
      ((voltageOf u).map .finite)) u.1.armed u.stamp ((voltageOf u).map .finite)) := by
  obtain ⟨_,_,_,same⟩ := armStateFields (u.1.create f u.stamp ((altitudeOf u).map .finite)
    ((voltageOf u).map .finite)) u.1.armed u.stamp ((voltageOf u).map .finite)
  rw [same]
  have one : ∀ {β : Type} (g : Update → Option β), [u].filterMap g = (g u).toList :=
    fun g => filterMapConcat g [] u
  constructor
  case minAltitude => rw [altitudes,one]; cases altitudeOf u <;> rfl
  case maxAltitude => rw [altitudes,one]; cases altitudeOf u <;> rfl
  case voltageIn => rw [voltages,one]; cases voltageOf u <;> rfl
  case voltageOut => rw [voltages,one]; cases voltageOf u <;> rfl
  case startPosition => rw [positions,one]; cases position : u.1.position <;> simp [Telemetry.create,position]
  all_goals rfl

theorem recordedAccumulates {updates : List Update} {state : DroneState}
    (sum : Accumulates updates state) (u : Update) (metres : Option PyFloat) :
    Accumulates (updates ++ [u]) (handleArmState (u.1.accumulate (u.1.receive state u.stamp) metres
      ((altitudeOf u).map .finite) ((voltageOf u).map .finite)) u.1.armed u.stamp
      ((voltageOf u).map .finite)) := by
  obtain ⟨_,_,_,same⟩ := armStateFields (u.1.accumulate (u.1.receive state u.stamp) metres
    ((altitudeOf u).map .finite) ((voltageOf u).map .finite)) u.1.armed u.stamp
    ((voltageOf u).map .finite)
  rw [same]
  constructor
  case firstSeen =>
    rw [List.map_append,List.head?_append,sum.firstSeen]
    rfl
  case lastSeen => simp [Telemetry.accumulate,Telemetry.receive]
  case messageCount => simp [Telemetry.accumulate,Telemetry.receive,sum.messageCount]
  case minAltitude =>
    rw [altitudes,filterMapConcat,← keepMin]
    exact congrArg (fun kept => keepReading PyFloat.min kept _) sum.minAltitude
  case maxAltitude =>
    rw [altitudes,filterMapConcat,← keepMax]
    exact congrArg (fun kept => keepReading PyFloat.max kept _) sum.maxAltitude
  case voltageIn =>
    rw [voltages,filterMapConcat,← keepFirst]
    exact congrArg (fun kept => keepReading (fun k _ => k) kept _) sum.voltageIn
  case voltageOut =>
    rw [voltages,filterMapConcat,← keepLast]
    exact congrArg (fun kept => keepReading (fun _ x => x) kept _) sum.voltageOut
  case startPosition =>
    rw [positions,filterMapConcat,List.head?_append]
    have start := sum.startPosition
    unfold positions at start
    rw [← start]
    simp only [Telemetry.accumulate,Telemetry.receive]
    cases state.startPosition with
    | some p => rfl
    | none => cases u.1.position <;> rfl
  case missionStatus => simp [Telemetry.accumulate,Telemetry.receive]
  case mode => simp [Telemetry.accumulate,Telemetry.receive]

section
variable {haversine : Haversine} {f : String} {tracker : DroneStateTracker}

theorem runAccumulates (fresh : tracker.get f = none) {updates : List Update}
    (legs : (updates.map (·.1.position)).IsChain (MeasuresLeg haversine))
    (reads : ∀ u ∈ updates, ExactReadings u) :
    (updates = [] ∧ (absorbed haversine f tracker updates).get f = none) ∨
    ∃ state, (absorbed haversine f tracker updates).get f = some state ∧
      Accumulates updates state ∧ updates.getLast?.map (·.1.position) = some state.position := by
  induction updates using List.reverseRecOn with
  | nil => exact .inl ⟨rfl,fresh⟩
  | append_singleton updates u ih =>
    have read := exactRead (reads u (by simp))
    rw [List.map_append,List.isChain_append] at legs
    obtain ⟨legs,-,onward⟩ := legs
    right
    rw [absorbedConcat]
    have updated := absorbUpdated haversine f (absorbed haversine f tracker updates) u
    have before := ih legs (fun x mem => reads x (List.mem_append_left _ mem))
    generalize (absorb haversine f (absorbed haversine f tracker updates) u).get f = next,
      returns haversine f (absorbed haversine f tracker updates) u = returned at updated ⊢
    cases updated with
    | refused e failed => rw [read] at failed; cases failed
    | created altitude voltage got none_ =>
      cases read.symm.trans got
      rcases before with ⟨rfl,-⟩ | ⟨state,found,-⟩
      · exact ⟨_,rfl,createdAccumulates u f,by simp [Telemetry.create]⟩
      · cases none_.symm.trans found
    | broken altitude voltage got existing found e failed =>
      rcases before with ⟨-,none_⟩ | ⟨state,same,-,there⟩
      · cases none_.symm.trans found
      · cases same.symm.trans found
        obtain ⟨x,last,fix⟩ := Option.map_eq_some_iff.mp there
        have measures := onward x.1.position (by simp [last]) u.1.position (by simp)
        obtain ⟨metres,flown⟩ := exactLeg
          (reads x (List.mem_append_left _ (List.mem_of_getLast? last))) (reads u (by simp)) measures
        rw [fix] at flown
        cases flown.symm.trans failed
    | recorded altitude voltage got existing found metres flown =>
      cases read.symm.trans got
      rcases before with ⟨-,none_⟩ | ⟨state,same,sum,-⟩
      · cases none_.symm.trans found
      · cases same.symm.trans found
        exact ⟨_,rfl,recordedAccumulates sum u metres,by simp [Telemetry.accumulate]⟩

end

theorem absorbsNil {α : Type} {ys : List α} (old : ∀ y ∈ ys, y ∈ ([] : List α)) : ys = [] :=
  List.eq_nil_iff_forall_not_mem.mpr (fun y mem => List.not_mem_nil (old y mem))

theorem boundAbsorbs {P : Rat → Prop} {xs ys : List Rat} (bound : ∀ b ∈ xs, P b)
    (old : ∀ y ∈ ys, y ∈ xs) : ∀ b ∈ xs ++ ys, P b := by
  intro b inside
  rcases List.mem_append.mp inside with here | again
  · exact bound b here
  · exact bound b (old b again)

theorem minAbsorbs {xs ys : List Rat} (old : ∀ y ∈ ys, y ∈ xs) : (xs ++ ys).min? = xs.min? := by
  cases least : xs.min? with
  | none =>
    rw [List.min?_eq_none_iff] at least
    subst xs
    rw [absorbsNil old]
    rfl
  | some a =>
    rw [List.min?_eq_some_iff] at least ⊢
    obtain ⟨mem,le⟩ := least
    exact ⟨List.mem_append_left _ mem,boundAbsorbs le old⟩

theorem maxAbsorbs {xs ys : List Rat} (old : ∀ y ∈ ys, y ∈ xs) : (xs ++ ys).max? = xs.max? := by
  cases greatest : xs.max? with
  | none =>
    rw [List.max?_eq_none_iff] at greatest
    subst xs
    rw [absorbsNil old]
    rfl
  | some a =>
    rw [List.max?_eq_some_iff] at greatest ⊢
    obtain ⟨mem,le⟩ := greatest
    exact ⟨List.mem_append_left _ mem,boundAbsorbs le old⟩

theorem headAbsorbs {α : Type} {xs ys : List α} (old : ∀ y ∈ ys, y ∈ xs) :
    (xs ++ ys).head? = xs.head? := by
  cases xs with
  | cons x xs => rfl
  | nil => rw [absorbsNil old]; rfl

theorem lastAbsorbs {α : Type} {xs ys : List α} (old : ∀ y ∈ ys, xs.getLast? = some y) :
    (xs ++ ys).getLast? = xs.getLast? := by
  rw [List.getLast?_append]
  cases last : ys.getLast? with
  | none => rfl
  | some y => exact (old y (List.mem_of_getLast? last)).symm

theorem repeatedMem {β : Type} {g : Update → Option β} (own : ∀ x y, x.1 = y.1 → g x = g y)
    {updates more : List Update} {u : Update} (last : updates.getLast? = some u)
    (again : ∀ x ∈ more, x.1 = u.1) :
    ∀ y ∈ more.filterMap g, (updates.filterMap g).getLast? = some y := by
  intro y mem
  obtain ⟨x,inside,read⟩ := List.mem_filterMap.mp mem
  rw [own x u (again x inside)] at read
  obtain ⟨init,rfl⟩ := List.getLast?_eq_some_iff.mp last
  rw [filterMapConcat,read,Option.toList_some,List.getLast?_concat]

theorem repeatedMeasured {haversine : Haversine} {updates more : List Update} {u : Update}
    (measures : MeasuresExact haversine updates) (last : updates.getLast? = some u)
    (again : ∀ x ∈ more, x.1 = u.1) :
    ((updates ++ more).map (·.1.position)).IsChain (MeasuresLeg haversine) := by
  have stays := measures.stays u last
  have standing : ∀ p ∈ more.map (·.1.position), p = u.1.position := by
    intro p mem
    obtain ⟨x,inside,rfl⟩ := List.mem_map.mp mem
    rw [again x inside]
  rw [List.map_append]
  refine measures.legs.append (List.Pairwise.isChain (List.pairwise_of_forall_mem_list ?_)) ?_
  · intro p first q second
    rw [standing p first,standing q second]
    exact stays
  · intro p before q after
    rw [List.getLast?_map,last] at before
    cases before
    rw [standing q (List.mem_of_mem_head? after)]
    exact stays

theorem altitudeOwn (x y : Update) (same : x.1 = y.1) : altitudeOf x = altitudeOf y := by
  rw [altitudeOf,altitudeOf,same]

theorem voltageOwn (x y : Update) (same : x.1 = y.1) : voltageOf x = voltageOf y := by
  rw [voltageOf,voltageOf,same]

structure SameReadings (state later : DroneState) : Prop where
  minAltitude : later.minAltitude = state.minAltitude
  maxAltitude : later.maxAltitude = state.maxAltitude
  voltageIn : later.voltageIn = state.voltageIn
  voltageOut : later.voltageOut = state.voltageOut
  startPosition : later.startPosition = state.startPosition

theorem repeatedSame {updates more : List Update} {u : Update} {state later : DroneState}
    (last : updates.getLast? = some u) (again : ∀ x ∈ more, x.1 = u.1)
    (sum : Accumulates updates state) (total : Accumulates (updates ++ more) later) :
    SameReadings state later where
  minAltitude := by
    rw [total.minAltitude,sum.minAltitude,altitudes,altitudes,List.filterMap_append]
    rw [minAbsorbs (fun y mem => List.mem_of_getLast?
      (repeatedMem altitudeOwn last again y mem))]
  maxAltitude := by
    rw [total.maxAltitude,sum.maxAltitude,altitudes,altitudes,List.filterMap_append]
    rw [maxAbsorbs (fun y mem => List.mem_of_getLast?
      (repeatedMem altitudeOwn last again y mem))]
  voltageIn := by
    rw [total.voltageIn,sum.voltageIn,voltages,voltages,List.filterMap_append]
    rw [headAbsorbs (fun y mem => List.mem_of_getLast?
      (repeatedMem voltageOwn last again y mem))]
  voltageOut := by
    rw [total.voltageOut,sum.voltageOut,voltages,voltages,List.filterMap_append]
    rw [lastAbsorbs (repeatedMem voltageOwn last again)]
  startPosition := by
    rw [total.startPosition,sum.startPosition,positions,positions,List.filterMap_append]
    rw [headAbsorbs (fun y mem => List.mem_of_getLast?
      (repeatedMem (fun _ _ same => congrArg Telemetry.position same) last again y mem))]

theorem altitudesOrdered {updates : List Update} {state : DroneState}
    (sum : Accumulates updates state) (now : UtcTime) : ∃ low high : Rat,
      (buildFinalizationPayload state now).telemetrySummary.altitudeMinM = .finite low ∧
      (buildFinalizationPayload state now).telemetrySummary.altitudeMaxM = .finite high ∧
      low ≤ high := by
  simp only [buildFinalizationPayload,sum.minAltitude,sum.maxAltitude]
  cases least : (altitudes updates).min? with
  | none =>
    rw [List.min?_eq_none_iff] at least
    rw [least]
    exact ⟨0,0,rfl,rfl,le_rfl⟩
  | some low =>
    obtain ⟨mem,-⟩ := List.min?_eq_some_iff.mp least
    cases greatest : (altitudes updates).max? with
    | none =>
      rw [List.max?_eq_none_iff.mp greatest] at mem
      cases mem
    | some high => exact ⟨low,high,rfl,rfl,(List.max?_eq_some_iff.mp greatest).2 low mem⟩

theorem startKept {before updates : List Update} {early state : DroneState} {p : Position}
    (within : before <+: updates) (first : Accumulates before early)
    (sum : Accumulates updates state) (start : early.startPosition = some p) :
    state.startPosition = some p := by
  obtain ⟨rest,rfl⟩ := within
  rw [sum.startPosition,positions,List.filterMap_append,List.head?_append]
  have head := first.startPosition
  unfold positions at head
  rw [← head,start]
  rfl

theorem stateAccumulates (haversine : Haversine) (f : String) (tracker : DroneStateTracker)
    (fresh : tracker.get f = none) (updates : List Update) (flown : updates ≠ [])
    (reads : ∀ u ∈ updates, ExactReadings u) (measures : MeasuresExact haversine updates) :
    ∃ state, (absorbed haversine f tracker updates).get f = some state ∧
      Accumulates updates state ∧
      (∀ now, ∃ low high : Rat,
        (buildFinalizationPayload state now).telemetrySummary.altitudeMinM = .finite low ∧
        (buildFinalizationPayload state now).telemetrySummary.altitudeMaxM = .finite high ∧
        low ≤ high) ∧
      (∀ before early p, before <+: updates →
        (absorbed haversine f tracker before).get f = some early →
        early.startPosition = some p → state.startPosition = some p) ∧
      (∀ u more, updates.getLast? = some u → (∀ x ∈ more, x.1 = u.1) →
        ∃ later, (absorbed haversine f tracker (updates ++ more)).get f = some later ∧
          SameReadings state later) := by
  have total : ∀ {all : List Update}, all ≠ [] → (∀ u ∈ all, ExactReadings u) →
      (all.map (·.1.position)).IsChain (MeasuresLeg haversine) →
      ∃ state, (absorbed haversine f tracker all).get f = some state ∧ Accumulates all state := by
    intro all some_ reads legs
    rcases runAccumulates fresh legs reads with ⟨none_,-⟩ | ⟨state,found,sum,-⟩
    · exact absurd none_ some_
    · exact ⟨state,found,sum⟩
  obtain ⟨state,found,sum⟩ := total flown reads measures.legs
  refine ⟨state,found,sum,altitudesOrdered sum,?_,?_⟩
  · intro before early p within stored start
    have legs := measures.legs.prefix (within.map (·.1.position))
    rcases runAccumulates fresh legs (fun u mem => reads u (within.subset mem)) with
      ⟨-,none_⟩ | ⟨same,stored',first,-⟩
    · cases none_.symm.trans stored
    · cases stored'.symm.trans stored
      exact startKept within first sum start
  · intro u more last again
    have exactMore : ∀ x ∈ updates ++ more, ExactReadings x := by
      intro x mem
      rcases List.mem_append.mp mem with early | late
      · exact reads x early
      · obtain ⟨altitude,voltage,latitude,longitude⟩ := reads u (List.mem_of_getLast? last)
        rw [← again x late] at altitude voltage latitude longitude
        exact ⟨altitude,voltage,latitude,longitude⟩
    obtain ⟨later,stored,totalSum⟩ := total (by simp [flown]) exactMore
      (repeatedMeasured measures last again)
    exact ⟨later,stored,repeatedSame last again sum totalSum⟩

def climbing (altitude : Rat) : Update :=
  ({ droneId := "drone-1", sessionSource := "aws", rawMessage := []
     parsedPayload := [("voltage",.float (.finite 12))], missionStatus := .null, mode := .null
     position := some ⟨.float (.finite 47),.float (.finite 8),.float (.finite altitude),[]⟩ },
    march 0 10 0 0)

theorem climbSummed : ∃ state, (absorbed (fun _ _ _ _ => .ok .zero) "flight-A" .empty
    [climbing 20,climbing 50]).get "flight-A" = some state ∧
    Accumulates [climbing 20,climbing 50] state := by
  have reads : ∀ u ∈ [climbing 20,climbing 50], ExactReadings u := by
    intro u mem
    simp only [List.mem_cons,List.not_mem_nil,or_false] at mem
    rcases mem with rfl | rfl
    · exact ⟨rfl,rfl,fun p same => by cases same; rfl,fun p same => by cases same; rfl⟩
    · exact ⟨rfl,rfl,fun p same => by cases same; rfl,fun p same => by cases same; rfl⟩
  have measured : ∀ p q, MeasuresLeg (fun _ _ _ _ => .ok .zero) p q :=
    fun _ _ _ _ _ _ _ _ => ⟨.zero,rfl⟩
  obtain ⟨state,found,sum,-⟩ := stateAccumulates (fun _ _ _ _ => .ok .zero) "flight-A" .empty rfl
    [climbing 20,climbing 50] (by simp) reads
    ⟨List.isChain_cons_cons.mpr ⟨measured _ _,.singleton _⟩,fun _ _ => measured _ _⟩
  exact ⟨state,found,sum⟩

end FlightMonitor.Accumulation
