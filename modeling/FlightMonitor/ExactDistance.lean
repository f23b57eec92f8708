import FlightMonitor.GreatCircle
import FlightMonitor.Service
import FlightMonitor.Sphere
import FlightMonitor.Updates

/-! The distance of an update over exact real arithmetic. `_haversine_m` and the update around it
are written once, in any arithmetic: the floats give the update of the tracker, and the reals,
with the domains of `sqrt` and `asin` kept, never leave these domains. -/
namespace FlightMonitor.ExactDistance
open PyValue IsoTime Updates

structure Arithmetic (F : Type) where
  zero : F
  add : F → F → F
  sub : F → F → F
  mul : F → F → F
  half : F → F
  radians : F → F
  diameterM : F
  sin : F → Except PyError F
  cos : F → Except PyError F
  sqrt : F → Except PyError F
  asin : F → Except PyError F

-- A state whose distance is a number of the arithmetic; the record's own distance is not used.
structure Flight (F : Type) where
  state : DroneState
  distanceFlownM : F

namespace Arithmetic
variable {F : Type} (A : Arithmetic F)

def haversineA (lat1 lon1 lat2 lon2 : F) : Except PyError F := do
  let lat1r := A.radians lat1
  let lat2r := A.radians lat2
  let dlat := A.radians (A.sub lat2 lat1)
  let dlon := A.radians (A.sub lon2 lon1)
  let sinLat ← A.sin (A.half dlat)
  let cosLat1 ← A.cos lat1r
  let cosLat2 ← A.cos lat2r
  let sinLon ← A.sin (A.half dlon)
  .ok (A.add (A.mul sinLat sinLat) (A.mul (A.mul cosLat1 cosLat2) (A.mul sinLon sinLon)))

def haversineM (lat1 lon1 lat2 lon2 : F) : Except PyError F := do
  let a ← A.haversineA lat1 lon1 lat2 lon2
  let root ← A.sqrt a
  let arc ← A.asin root
  .ok (A.mul A.diameterM arc)

variable (read : Json → Except PyError (Option F))

def leg (previous current : Option Position) : Except PyError (Option F) :=
  match previous,current with
  | some previous,some current => do
      let prevLat ← read previous.latitude
      let prevLon ← read previous.longitude
      let newLat ← read current.latitude
      let newLon ← read current.longitude
      match prevLat,prevLon,newLat,newLon with
      | some prevLat,some prevLon,some newLat,some newLon =>
          let metres ← A.haversineM prevLat prevLon newLat newLon
          .ok (some metres)
      | _,_,_,_ => .ok none
  | _,_ => .ok none

def flown (distance : F) (metres : Option F) : F :=
  match metres with
  | some d => A.add distance d
  | none => distance

def update (f : String) (live : Option (Flight F)) (u : Update) :
    Option (Flight F) × Except PyError (Flight F) :=
  match u.1.readings with
  | .error e => (live,.error e)
  | .ok (altitude,voltage) =>
    match live with
    | none =>
      let flight := ⟨handleArmState (u.1.create f u.stamp altitude voltage) u.1.armed u.stamp voltage,
        A.zero⟩
      (some flight,.ok flight)
    | some existing =>
      let received := u.1.receive existing.state u.stamp
      match A.leg read existing.state.position u.1.position with
      | .error e => (some ⟨received,existing.distanceFlownM⟩,.error e)
      | .ok metres =>
        let flight := ⟨handleArmState (u.1.accumulate received none altitude voltage) u.1.armed
          u.stamp voltage,A.flown existing.distanceFlownM metres⟩
        (some flight,.ok flight)

def updated (f : String) (live : Option (Flight F)) (updates : List Update) : Option (Flight F) :=
  Trace.final (fun live u => (A.update read f live u).1) live updates

end Arithmetic

def floats (m : GreatCircle.Libm) : Arithmetic PyFloat where
  zero := .zero
  add := PyFloat.add
  sub := GreatCircle.sub
  mul := GreatCircle.mul
  half := GreatCircle.scale (· / 2)
  radians := GreatCircle.scale m.radians
  diameterM := .finite (2 * GreatCircle.earthRadiusM)
  sin := GreatCircle.trig m.sin
  cos := GreatCircle.trig m.cos
  sqrt := GreatCircle.sqrt m
  asin := GreatCircle.asin m

def merged (flight : Flight PyFloat) : DroneState :=
  { flight.state with distanceFlownM := flight.distanceFlownM }

theorem haversineFloats (m : GreatCircle.Libm) :
    (floats m).haversineM = GreatCircle.haversineM m := by
  funext lat1 lon1 lat2 lon2
  simp only [Arithmetic.haversineM,Arithmetic.haversineA,bind_assoc]
  rfl

theorem legFloats (m : GreatCircle.Libm) :
    (floats m).leg safeFloat = leg (GreatCircle.haversineM m) := by
  funext previous current
  rcases previous with _ | p
  · rfl
  rcases current with _ | q
  · rfl
  simp only [Arithmetic.leg,leg,haversineFloats]
  refine bind_congr (fun lat1 => bind_congr (fun lon1 => bind_congr (fun lat2 =>
    bind_congr (fun lon2 => ?_))))
  cases lat1 <;> cases lon1 <;> cases lat2 <;> cases lon2 <;> rfl

theorem armStateMerged (s : DroneState) (distance : PyFloat) (armed : Option Bool) (stamp : String)
    (voltage : Option PyFloat) : merged ⟨handleArmState s armed stamp voltage,distance⟩ =
      handleArmState (merged ⟨s,distance⟩) armed stamp voltage := by
  cases armed <;> rfl

theorem accumulateMerged (m : GreatCircle.Libm) (u : Telemetry) (s : DroneState)
    (distance : PyFloat) (metres altitude voltage : Option PyFloat) :
    merged ⟨u.accumulate s none altitude voltage,(floats m).flown distance metres⟩ =
      u.accumulate (merged ⟨s,distance⟩) metres altitude voltage := by
  cases metres <;> rfl

theorem updateFloats (m : GreatCircle.Libm) {tracker : DroneStateTracker} {f : String}
    {live : Option (Flight PyFloat)} (held : tracker.get f = live.map merged) (u : Update) :
    (tracker.update (GreatCircle.haversineM m) f u.1 u.2).1.get f =
      ((floats m).update safeFloat f live u).1.map merged ∧
    (tracker.update (GreatCircle.haversineM m) f u.1 u.2).2 =
      ((floats m).update safeFloat f live u).2.map merged := by
  simp only [DroneStateTracker.update,Arithmetic.update,held,legFloats,Update.stamp]
  cases u.1.readings with
  | error e => exact ⟨held,rfl⟩
  | ok r =>
    obtain ⟨altitude,voltage⟩ := r
    cases live with
    | none =>
      simp only [Option.map_none,Option.map_some,Except.map,armStateMerged,DroneStateTracker.getPut,
        handleArmStateFlightSessionId]
      exact ⟨if_pos rfl,rfl⟩
    | some existing =>
      have filed : (merged existing).flightSessionId = f := DroneStateTracker.stateFiled held
      have shown : (merged existing).position = existing.state.position := rfl
      simp only [Option.map_some,shown]
      cases leg (GreatCircle.haversineM m) existing.state.position u.1.position with
      | error e =>
        simp only [Option.map_some,Except.map,DroneStateTracker.getPut,and_true]
        exact if_pos filed
      | ok metres =>
        simp only [Option.map_some,Except.map,armStateMerged,accumulateMerged,
          DroneStateTracker.getPut,handleArmStateFlightSessionId]
        exact ⟨if_pos filed,rfl⟩

theorem updatedFloats (m : GreatCircle.Libm) {tracker : DroneStateTracker} {f : String}
    {live : Option (Flight PyFloat)} (held : tracker.get f = live.map merged)
    (updates : List Update) : (absorbed (GreatCircle.haversineM m) f tracker updates).get f =
      ((floats m).updated safeFloat f live updates).map merged := by
  induction updates using List.reverseRecOn with
  | nil => exact held
  | append_singleton updates u ih =>
    rw [absorbedConcat,Arithmetic.updated,Trace.finalConcat]
    exact (updateFloats m ih u).1

/-! The reals. Outside its domain `sqrt` or `asin` raises. -/

noncomputable def reals : Arithmetic ℝ where
  zero := 0
  add x y := x + y
  sub x y := x - y
  mul x y := x * y
  half x := x / (2 : Rat)
  radians x := x * (Real.pi / (180 : Rat))
  diameterM := (2 * GreatCircle.earthRadiusM : Rat)
  sin x := .ok (Real.sin x)
  cos x := .ok (Real.cos x)
  sqrt x := if 0 ≤ x then .ok (√x) else .error GreatCircle.domainError
  asin x := if -1 ≤ x ∧ x ≤ 1 then .ok (Real.arcsin x) else .error GreatCircle.domainError

noncomputable def radius : ℝ := GreatCircle.earthRadiusM

noncomputable def greatCircle (lat1 lon1 lat2 lon2 : ℝ) : ℝ := radius * Sphere.arc
  (reals.radians lat1) (reals.radians lon1) (reals.radians lat2) (reals.radians lon2)

theorem haversineReals (lat1 lon1 lat2 lon2 : ℝ) : reals.haversineA lat1 lon1 lat2 lon2 =
    .ok (Sphere.haversine (reals.radians lat1) (reals.radians lon1) (reals.radians lat2)
      (reals.radians lon2)) := by
  simp only [Arithmetic.haversineA,reals,Sphere.haversine,sub_mul,sq,Rat.cast_ofNat]
  rfl

theorem metresReals (lat1 lon1 lat2 lon2 : ℝ) :
    reals.haversineM lat1 lon1 lat2 lon2 = .ok (greatCircle lat1 lon1 lat2 lon2) := by
  obtain ⟨low,high⟩ := Sphere.haversineInside (reals.radians lat1) (reals.radians lon1)
    (reals.radians lat2) (reals.radians lon2)
  have angle := Sphere.arcsinSqrtHaversine (reals.radians lat1) (reals.radians lon1)
    (reals.radians lat2) (reals.radians lon2)
  rw [Arithmetic.haversineM,haversineReals]
  generalize Sphere.haversine (reals.radians lat1) (reals.radians lon1) (reals.radians lat2)
      (reals.radians lon2) = a at low high angle
  have root : reals.sqrt a = .ok (√a) := if_pos low
  have arc : reals.asin (√a) = .ok (Real.arcsin (√a)) :=
    if_pos ⟨by linarith [Real.sqrt_nonneg a],Real.sqrt_le_one.mpr high⟩
  have doubled : reals.mul reals.diameterM (Real.arcsin (√a)) = greatCircle lat1 lon1 lat2 lon2 := by
    simp only [angle,reals,greatCircle,radius,Rat.cast_mul,Rat.cast_ofNat]
    ring
  simp only [bind,Except.bind,root,arc,doubled]

theorem radiusPositive : 0 < radius := by
  simp only [radius,GreatCircle.earthRadiusM]
  norm_num

theorem greatCircleNonneg (lat1 lon1 lat2 lon2 : ℝ) : 0 ≤ greatCircle lat1 lon1 lat2 lon2 :=
  mul_nonneg radiusPositive.le (InnerProductGeometry.angle_nonneg ..)

theorem greatCircleAtMost (lat1 lon1 lat2 lon2 : ℝ) :
    greatCircle lat1 lon1 lat2 lon2 ≤ Real.pi * radius := by
  rw [greatCircle,mul_comm Real.pi]
  exact mul_le_mul_of_nonneg_left (InnerProductGeometry.angle_le_pi ..) radiusPositive.le

theorem greatCircleComm (lat1 lon1 lat2 lon2 : ℝ) :
    greatCircle lat1 lon1 lat2 lon2 = greatCircle lat2 lon2 lat1 lon1 :=
  congrArg (radius * ·) (InnerProductGeometry.angle_comm ..)

theorem greatCircleSelf (lat lon : ℝ) : greatCircle lat lon lat lon = 0 := by
  rw [greatCircle,Sphere.arcSelf,mul_zero]

theorem halfTurn (lat lon : ℝ) : reals.haversineM lat lon (lat + 180) lon = .ok (Real.pi * radius) := by
  have turned : reals.radians (lat + 180) = reals.radians lat + Real.pi := by
    simp only [reals,Rat.cast_ofNat]
    ring
  rw [metresReals,greatCircle,turned,Sphere.arcOpposite,mul_comm]

inductive Step {F : Type} (A : Arithmetic F) (read : Json → Except PyError (Option F))
    (live : Option (Flight F)) (u : Update) :
    Option (Flight F) → Except PyError (Flight F) → Prop where
  | refused (e : PyError) (unread : u.1.readings = .error e) : Step A read live u live (.error e)
  | created (flight : Flight F) (fresh : live = none)
      (shown : flight.state.position = u.1.position) (distance : flight.distanceFlownM = A.zero) :
      Step A read live u (some flight) (.ok flight)
  | broken (existing : Flight F) (found : live = some existing) (received : DroneState)
      (shown : received.position = existing.state.position) (e : PyError)
      (failed : A.leg read existing.state.position u.1.position = .error e) :
      Step A read live u (some ⟨received,existing.distanceFlownM⟩) (.error e)
  | recorded (existing : Flight F) (found : live = some existing) (flight : Flight F)
      (shown : flight.state.position = u.1.position) (metres : Option F)
      (flown : A.leg read existing.state.position u.1.position = .ok metres)
      (distance : flight.distanceFlownM = A.flown existing.distanceFlownM metres) :
      Step A read live u (some flight) (.ok flight)

theorem updateStep {F : Type} (A : Arithmetic F) (read : Json → Except PyError (Option F))
    (f : String) (live : Option (Flight F)) (u : Update) :
    Step A read live u (A.update read f live u).1 (A.update read f live u).2 := by
  unfold Arithmetic.update
  cases unread : u.1.readings with
  | error e => exact .refused e unread
  | ok r =>
    obtain ⟨altitude,voltage⟩ := r
    cases live with
    | none => exact .created _ rfl (by simp [Telemetry.create]) rfl
    | some existing =>
      cases flown : A.leg read existing.state.position u.1.position with
      | error e =>
        simp only [flown]
        exact .broken existing rfl (u.1.receive existing.state u.stamp) rfl e flown
      | ok metres =>
        simp only [flown]
        exact .recorded existing rfl _ (by simp [Telemetry.accumulate]) metres flown rfl

section
variable (read : Json → Except PyError (Option ℝ))

def FiniteFix (position : Option Position) : Prop :=
  ∀ p, position = some p → (∃ lat, read p.latitude = .ok lat) ∧ ∃ lon, read p.longitude = .ok lon

def shown (live : Option (Flight ℝ)) : Option Position :=
  live.bind (fun flight => flight.state.position)

def distance (live : Option (Flight ℝ)) : ℝ := (live.map Flight.distanceFlownM).getD 0

variable {read}

theorem legNonneg {previous current : Option Position} {d : ℝ}
    (flown : reals.leg read previous current = .ok (some d)) : 0 ≤ d := by
  rcases previous with _ | p
  · cases flown
  rcases current with _ | q
  · cases flown
  obtain ⟨lat1,-,flown⟩ := bindOk flown
  obtain ⟨lon1,-,flown⟩ := bindOk flown
  obtain ⟨lat2,-,flown⟩ := bindOk flown
  obtain ⟨lon2,-,flown⟩ := bindOk flown
  split at flown
  · rw [metresReals] at flown
    cases flown
    exact greatCircleNonneg ..
  · cases flown

theorem legFinite {previous current : Option Position} (before : FiniteFix read previous)
    (now : FiniteFix read current) : ∃ metres, reals.leg read previous current = .ok metres := by
  rcases previous with _ | p
  · exact ⟨none,rfl⟩
  rcases current with _ | q
  · exact ⟨none,rfl⟩
  obtain ⟨⟨lat1,start⟩,lon1,start'⟩ := before p rfl
  obtain ⟨⟨lat2,finish⟩,lon2,finish'⟩ := now q rfl
  simp only [Arithmetic.leg,start,start',finish,finish',metresReals]
  cases lat1 <;> cases lon1 <;> cases lat2 <;> cases lon2 <;> exact ⟨_,rfl⟩

section
variable {live next : Option (Flight ℝ)} {u : Update} {outcome : Except PyError (Flight ℝ)}
  (step : Step reals read live u next outcome)
include step

theorem stepGrows : distance live ≤ distance next := by
  cases step with
  | refused => exact le_rfl
  | created flight fresh _ began =>
    subst fresh
    exact began.ge
  | broken existing found =>
    subst found
    exact le_rfl
  | recorded existing found flight _ metres flown added =>
    subst found
    cases metres with
    | none => exact added.ge
    | some d =>
      have longer : existing.distanceFlownM ≤ existing.distanceFlownM + d :=
        le_add_of_nonneg_right (legNonneg flown)
      exact longer.trans added.ge

theorem stepShows (before : FiniteFix read (shown live)) (now : FiniteFix read u.1.position) :
    FiniteFix read (shown next) := by
  cases step with
  | refused => exact before
  | created flight _ same | recorded _ _ flight same =>
    have shows : shown (some flight) = u.1.position := same
    rw [shows]
    exact now
  | broken existing found received same =>
    subst found
    have shows : shown (some ⟨received,existing.distanceFlownM⟩) = existing.state.position := same
    rw [shows]
    exact before

theorem stepCompletes (before : FiniteFix read (shown live)) (now : FiniteFix read u.1.position)
    {r : Option PyFloat × Option PyFloat} (converts : u.1.readings = .ok r) :
    ∃ flight, outcome = .ok flight := by
  cases step with
  | refused e unread => cases converts.symm.trans unread
  | created flight => exact ⟨flight,rfl⟩
  | broken existing found received same e failed =>
    subst found
    obtain ⟨metres,flown⟩ := legFinite before now
    cases failed.symm.trans flown
  | recorded existing found flight => exact ⟨flight,rfl⟩

end

theorem updatedShows (f : String) {live : Option (Flight ℝ)} (start : FiniteFix read (shown live))
    {updates : List Update} (finite : ∀ u ∈ updates, FiniteFix read u.1.position) :
    FiniteFix read (shown (reals.updated read f live updates)) := by
  induction updates using List.reverseRecOn with
  | nil => exact start
  | append_singleton updates u ih =>
    rw [Arithmetic.updated,Trace.finalConcat]
    exact stepShows (updateStep ..) (ih (fun x mem => finite x (List.mem_append_left _ mem)))
      (finite u (by simp))

theorem updatedGrows (f : String) (live : Option (Flight ℝ)) (before later : List Update) :
    distance (reals.updated read f live before) ≤
      distance (reals.updated read f live (before ++ later)) := by
  induction later using List.reverseRecOn with
  | nil => rw [List.append_nil]
  | append_singleton later u ih =>
    rw [← List.append_assoc,Arithmetic.updated,Arithmetic.updated,Trace.finalConcat]
    exact ih.trans (stepGrows (updateStep ..))

end

structure Measured (lat1 lon1 lat2 lon2 : ℝ) : Prop where
  inside : ∃ a, reals.haversineA lat1 lon1 lat2 lon2 = .ok a ∧ 0 ≤ a ∧ a ≤ 1
  metres : ∃ d, reals.haversineM lat1 lon1 lat2 lon2 = .ok d ∧ 0 ≤ d ∧ d ≤ Real.pi * radius
  symmetric : reals.haversineM lat1 lon1 lat2 lon2 = reals.haversineM lat2 lon2 lat1 lon1
  still : reals.haversineM lat1 lon1 lat1 lon1 = .ok 0

/-- The updates of a session from any state on. With finite coordinates an update can only fail
at its altitude or its voltage, before anything is stored. -/
structure Accumulates (read : Json → Except PyError (Option ℝ)) (f : String)
    (live : Option (Flight ℝ)) : Prop where
  grows : ∀ before later, distance (reals.updated read f live before) ≤
    distance (reals.updated read f live (before ++ later))
  completes : FiniteFix read (shown live) → ∀ updates, (∀ u ∈ updates, FiniteFix read u.1.position) →
    Trace.Meets (fun before u => ∀ r, u.1.readings = .ok r →
      ∃ flight, (reals.update read f (reals.updated read f live before) u).2 = .ok flight) updates

theorem measured (lat1 lon1 lat2 lon2 : ℝ) : Measured lat1 lon1 lat2 lon2 where
  inside := ⟨_,haversineReals ..,Sphere.haversineInside ..⟩
  metres := ⟨_,metresReals ..,greatCircleNonneg ..,greatCircleAtMost ..⟩
  symmetric := by rw [metresReals,metresReals,greatCircleComm]
  still := by rw [metresReals,greatCircleSelf]

theorem domainsKept :
    (∀ lat1 lon1 lat2 lon2, Measured lat1 lon1 lat2 lon2) ∧
    ∀ read f live, Accumulates read f live := by
  refine ⟨measured,fun read f live => ⟨updatedGrows f live,fun start updates finite => ?_⟩⟩
  intro before u within r converts
  have known : ∀ x ∈ before ++ [u], FiniteFix read x.1.position :=
    fun x mem => finite x (within.subset mem)
  have shows := updatedShows f start (fun x mem => known x (List.mem_append_left _ mem))
  exact stepCompletes (updateStep ..) shows (known u (by simp)) converts

noncomputable def readNumber (value : Json) : Except PyError (Option ℝ) := do
  match ← safeFloat value with
  | none => .ok none
  | some (.finite q) => .ok (some q)
  | some _ => .error GreatCircle.domainError

def beyond (latitude longitude : Rat) : Update :=
  ({ droneId := "drone-1", sessionSource := "aws", rawMessage := [], parsedPayload := [],
     missionStatus := .null, mode := .null,
     position := some ⟨.float (.finite latitude),.float (.finite longitude),.null,[]⟩ },march 0 9 0 0)

theorem beyondPolesMeasured : ∃ flight, (reals.update readNumber "flight-1"
    (reals.updated readNumber "flight-1" none [beyond 270 540]) (beyond (-1000) 181)).2 =
      .ok flight := by
  have finite : ∀ latitude longitude, FiniteFix readNumber (beyond latitude longitude).1.position := by
    intro latitude longitude p same
    cases same
    exact ⟨⟨_,rfl⟩,_,rfl⟩
  have completes := (domainsKept.2 readNumber "flight-1" none).completes (fun _ none_ => by cases none_)
    [beyond 270 540,beyond (-1000) 181] (by
      intro u mem
      simp only [List.mem_cons,List.not_mem_nil,or_false] at mem
      rcases mem with rfl | rfl
      · exact finite 270 540
      · exact finite (-1000) 181)
  exact completes [beyond 270 540] _ (List.prefix_refl _) _ rfl

end FlightMonitor.ExactDistance
