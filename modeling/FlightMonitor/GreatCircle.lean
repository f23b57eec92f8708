import FlightMonitor.Tracker

/-! `_haversine_m` on floats that need not be finite. The platform's functions are parameters on
the finite floats; what the source does to infinities and NaN is spelled out. A NaN goes through,
and an infinity, given or made by a difference that overflows, has no sine. -/
namespace FlightMonitor.GreatCircle
open PyValue

/-- The platform's functions. Sines, cosines and arcs are far from the range of the floats. -/
structure Libm where
  radians : Rat → Rat
  sin : Rat → Rat
  cos : Rat → Rat
  sqrt : Rat → Except PyError Rat
  asin : Rat → Except PyError Rat

def bounded (q : Rat) : PyFloat :=
  if (PyFloat.limit : Rat) ≤ q then .posInf
  else if q ≤ -(PyFloat.limit : Rat) then .negInf else .finite q

def sub : PyFloat → PyFloat → PyFloat
  | .nan,_ | _,.nan => .nan
  | .posInf,.posInf | .negInf,.negInf => .nan
  | .posInf,_ | _,.negInf => .posInf
  | .negInf,_ | _,.posInf => .negInf
  | .finite a,.finite b => bounded (a - b)

def scale (f : Rat → Rat) : PyFloat → PyFloat
  | .finite q => .finite (f q)
  | x => x

def domainError : PyError := .valueError "math domain error"

def trig (f : Rat → Rat) : PyFloat → Except PyError PyFloat
  | .finite q => .ok (.finite (f q))
  | .nan => .ok .nan
  | .posInf | .negInf => .error domainError

def sqrt (m : Libm) : PyFloat → Except PyError PyFloat
  | .finite q => (m.sqrt q).map .finite
  | .nan => .ok .nan
  | .posInf => .ok .posInf
  | .negInf => .error domainError

def asin (m : Libm) : PyFloat → Except PyError PyFloat
  | .finite q => (m.asin q).map .finite
  | .nan => .ok .nan
  | .posInf | .negInf => .error domainError

def sign : PyFloat → Int
  | .finite q => if q < 0 then -1 else if q = 0 then 0 else 1
  | .posInf => 1
  | .negInf => -1
  | .nan => 0

def mul : PyFloat → PyFloat → PyFloat
  | .finite a,.finite b => .finite (a * b)
  | x,y => if sign x * sign y = 0 then .nan else if 0 < sign x * sign y then .posInf else .negInf

def earthRadiusM : Rat := 6371000

def haversineM (m : Libm) : Haversine := fun lat1 lon1 lat2 lon2 => do
  let lat1r := scale m.radians lat1
  let lat2r := scale m.radians lat2
  let dlat := scale m.radians (sub lat2 lat1)
  let dlon := scale m.radians (sub lon2 lon1)
  let sinLat ← trig m.sin (scale (· / 2) dlat)
  let cosLat1 ← trig m.cos lat1r
  let cosLat2 ← trig m.cos lat2r
  let sinLon ← trig m.sin (scale (· / 2) dlon)
  let a := PyFloat.add (mul sinLat sinLat) (mul (mul cosLat1 cosLat2) (mul sinLon sinLon))
  let root ← sqrt m a
  let arc ← asin m root
  .ok (mul (.finite (2 * earthRadiusM)) arc)

/-! Where the functions return, a result is finite or NaN, and it is finite exactly when all its
arguments are. -/

def Tame (x : PyFloat) : Prop := Numeric x ∨ x = .nan

@[simp] theorem numericFinite (q : Rat) : Numeric (.finite q) := ⟨q,rfl⟩

@[simp] theorem nanNotNumeric : ¬ Numeric .nan := fun ⟨_,same⟩ => by cases same

theorem numericScale (f : Rat → Rat) (x : PyFloat) : Numeric (scale f x) ↔ Numeric x := by
  cases x <;> simp [scale,Numeric]

theorem boundedOrdered (q : Rat) : bounded q ≠ .nan := by
  unfold bounded
  split
  · exact fun same => by cases same
  · split <;> exact fun same => by cases same

theorem numericSub {a b : PyFloat} (tame : Tame (sub a b)) :
    Numeric (sub a b) ↔ Numeric a ∧ Numeric b := by
  rcases tame with numeric | nan
  · refine iff_of_true numeric ?_
    cases a <;> cases b <;> simp [sub,Numeric] at numeric ⊢
  · rw [nan]
    refine iff_of_false nanNotNumeric ?_
    rintro ⟨⟨p,rfl⟩,q,rfl⟩
    exact boundedOrdered _ nan

theorem trigTame {f : Rat → Rat} {x y : PyFloat} (done : trig f x = .ok y) :
    Tame x ∧ Tame y ∧ (Numeric y ↔ Numeric x) := by
  cases x with
  | finite q => cases done; simp [Tame]
  | nan => cases done; simp [Tame]
  | posInf | negInf => cases done

theorem mulTame {x y : PyFloat} (left : Tame x) (right : Tame y) :
    Tame (mul x y) ∧ (Numeric (mul x y) ↔ Numeric x ∧ Numeric y) := by
  rcases left with ⟨p,rfl⟩ | rfl <;> rcases right with ⟨q,rfl⟩ | rfl <;>
    simp [mul,sign,Tame,Numeric]

theorem addTame {x y : PyFloat} (left : Tame x) (right : Tame y) :
    Tame (PyFloat.add x y) ∧ (Numeric (PyFloat.add x y) ↔ Numeric x ∧ Numeric y) := by
  rcases left with ⟨p,rfl⟩ | rfl <;> rcases right with ⟨q,rfl⟩ | rfl <;>
    simp [PyFloat.add,Tame,Numeric]

theorem mapNumeric {e : Except PyError Rat} {y : PyFloat} (done : e.map PyFloat.finite = .ok y) :
    Numeric y := by
  cases e with
  | error e => cases done
  | ok q => cases done; exact ⟨q,rfl⟩

theorem mappedTame (g : PyFloat → Except PyError PyFloat) {f : Rat → Except PyError Rat}
    (onFinite : ∀ q, g (.finite q) = (f q).map .finite) (onNan : g .nan = .ok .nan) {x y : PyFloat}
    (tame : Tame x) (done : g x = .ok y) : Tame y ∧ (Numeric y ↔ Numeric x) := by
  rcases tame with ⟨q,rfl⟩ | rfl
  · have numeric := mapNumeric ((onFinite q).symm.trans done)
    exact ⟨.inl numeric,by simp [numeric]⟩
  · cases onNan.symm.trans done
    simp [Tame]

theorem tameScale {f : Rat → Rat} {x : PyFloat} (tame : Tame (scale f x)) : Tame x := by
  cases x <;> simp_all [scale,Tame,Numeric]

theorem haversineNumeric {m : Libm} {lat1 lon1 lat2 lon2 metres : PyFloat}
    (measured : haversineM m lat1 lon1 lat2 lon2 = .ok metres) :
    Numeric metres ↔ (Numeric lat1 ∧ Numeric lon1) ∧ Numeric lat2 ∧ Numeric lon2 := by
  obtain ⟨sinLat,lat,measured⟩ := bindOk measured
  obtain ⟨cosLat1,start,measured⟩ := bindOk measured
  obtain ⟨cosLat2,finish,measured⟩ := bindOk measured
  obtain ⟨sinLon,lon,measured⟩ := bindOk measured
  obtain ⟨root,square,measured⟩ := bindOk measured
  obtain ⟨arc,angle,measured⟩ := bindOk measured
  cases measured
  obtain ⟨dlat,latTame,latIff⟩ := trigTame lat
  obtain ⟨-,startTame,startIff⟩ := trigTame start
  obtain ⟨-,finishTame,finishIff⟩ := trigTame finish
  obtain ⟨dlon,lonTame,lonIff⟩ := trigTame lon
  have lats := numericSub (tameScale (tameScale dlat))
  have lons := numericSub (tameScale (tameScale dlon))
  have lat2 := mulTame latTame latTame
  have cosines := mulTame startTame finishTame
  have lon2 := mulTame lonTame lonTame
  have product := mulTame cosines.1 lon2.1
  have sum := addTame lat2.1 product.1
  have root := mappedTame (sqrt m) (fun _ => rfl) rfl sum.1 square
  have arc := mappedTame (asin m) (fun _ => rfl) rfl root.1 angle
  have whole := mulTame (x := .finite (2 * earthRadiusM)) (.inl (numericFinite _)) arc.1
  simp only [numericScale] at latIff startIff finishIff lonIff
  rw [whole.2,arc.2,root.2,sum.2,product.2,cosines.2,lat2.2,lon2.2,latIff,startIff,finishIff,lonIff,
    lats,lons]
  constructor
  · rintro ⟨-,⟨⟨finish,start⟩,-⟩,-,⟨far,near⟩,-⟩
    exact ⟨⟨start,near⟩,finish,far⟩
  · rintro ⟨⟨start,near⟩,finish,far⟩
    exact ⟨numericFinite _,⟨⟨finish,start⟩,finish,start⟩,⟨start,finish⟩,⟨far,near⟩,far,near⟩

def FixAt (p : Position) (lat lon : PyFloat) : Prop :=
  safeFloat p.latitude = .ok (some lat) ∧ safeFloat p.longitude = .ok (some lon)

def FiniteLeg (previous current : Option Position) : Prop :=
  ∀ p q lat1 lon1 lat2 lon2, previous = some p → current = some q → FixAt p lat1 lon1 →
    FixAt q lat2 lon2 → (Numeric lat1 ∧ Numeric lon1) ∧ Numeric lat2 ∧ Numeric lon2

theorem legNumeric {m : Libm} {previous current : Option Position} {metres : Option PyFloat}
    (flown : leg (haversineM m) previous current = .ok metres) :
    (∀ d, metres = some d → Numeric d) ↔ FiniteLeg previous current := by
  rcases previous with _ | p
  · cases flown
    exact iff_of_true (fun _ same => by cases same) (fun _ _ _ _ _ _ same => by cases same)
  rcases current with _ | q
  · cases flown
    exact iff_of_true (fun _ same => by cases same) (fun _ _ _ _ _ _ _ same => by cases same)
  by_cases fixes : ∃ a b c d, FixAt p a b ∧ FixAt q c d
  · obtain ⟨a,b,c,d,first,next⟩ := fixes
    simp only [leg,first.1,first.2,next.1,next.2] at flown
    change (haversineM m a b c d >>= fun far => .ok (some far)) = .ok metres at flown
    obtain ⟨far,measured,last⟩ := bindOk flown
    cases last
    have numeric := haversineNumeric measured
    constructor
    · intro finite _ _ _ _ _ _ here there first' next'
      cases here
      cases there
      cases first.1.symm.trans first'.1
      cases first.2.symm.trans first'.2
      cases next.1.symm.trans next'.1
      cases next.2.symm.trans next'.2
      exact numeric.mp (finite far rfl)
    · intro finite _ same
      cases same
      exact numeric.mpr (finite p q _ _ _ _ rfl rfl first next)
  · have unmeasured : metres = none := by
      obtain ⟨prevLat,lat1,flown⟩ := bindOk flown
      obtain ⟨prevLon,lon1,flown⟩ := bindOk flown
      obtain ⟨newLat,lat2,flown⟩ := bindOk flown
      obtain ⟨newLon,lon2,flown⟩ := bindOk flown
      split at flown
      · exact absurd ⟨_,_,_,_,⟨lat1,lon1⟩,lat2,lon2⟩ fixes
      · cases flown
        rfl
    subst unmeasured
    refine iff_of_true (fun _ same => by cases same) ?_
    intro _ _ _ _ _ _ here there first next
    cases here
    cases there
    exact absurd ⟨_,_,_,_,first,next⟩ fixes

end FlightMonitor.GreatCircle
