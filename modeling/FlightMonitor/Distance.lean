import FlightMonitor.Service

/-! The distance flown. The tracker adds a leg from the position it shows to the next one, and
every message overwrites the position it shows, with or without usable coordinates. `SumsFixes`
asks for the sum over consecutive GPS fixes, for any distance between two fixes. -/
namespace FlightMonitor.Distance
open PyValue IsoTime

abbrev Fix := PyFloat × PyFloat

abbrev Metric := Fix → Fix → PyFloat

def haversineOf (dist : Metric) : Haversine := fun a b c d => .ok (dist (a,b) (c,d))

def usable (position : Option Position) : Option Fix :=
  match position with
  | none => none
  | some p =>
    match safeFloat p.latitude,safeFloat p.longitude with
    | .ok (some lat),.ok (some lon) => some (lat,lon)
    | _,_ => none

abbrev Update := Telemetry × UtcTime

def fixOf (u : Update) : Option Fix := usable u.1.position

def fixes (updates : List Update) : List Fix := updates.filterMap fixOf

def legs {α : Type} (fixes : List α) : List (α × α) := fixes.zip fixes.tail

def pathLength (dist : Metric) (fixes : List Fix) : PyFloat :=
  (legs fixes).foldl (fun total leg => PyFloat.add total (dist leg.1 leg.2)) .zero

def record (dist : Metric) (f : String) (tracker : DroneStateTracker) (u : Update) :
    DroneStateTracker := (tracker.update (haversineOf dist) f u.1 u.2).1

def tracked (dist : Metric) (f : String) (updates : List Update) : DroneStateTracker :=
  Trace.final (record dist f) .empty updates

def distanceFlown (dist : Metric) (f : String) (updates : List Update) : PyFloat :=
  (((tracked dist f updates).get f).map DroneState.distanceFlownM).getD .zero

def shown (dist : Metric) (f : String) (updates : List Update) : Option Position :=
  ((tracked dist f updates).get f).bind DroneState.position

structure SumsFixes (f : String) (updates : List Update) : Prop where
  sum : ∀ dist, distanceFlown dist f updates = pathLength dist (fixes updates)
  skips : ∀ dist, distanceFlown dist f updates =
    distanceFlown dist f (updates.filter (fun u => (fixOf u).isSome))

/-- A fix after the first one finds the position of a fix, and its own readings convert. -/
def Continues (f : String) (before : List Update) (u : Update) : Prop :=
  (fixOf u).isSome → fixes before ≠ [] →
    (∃ r, u.1.readings = .ok r) ∧ (usable (shown (fun _ _ => .zero) f before)).isSome

abbrev Odometer := Option (Option Position × PyFloat)

def advance (dist : Metric) (o : Odometer) (u : Telemetry) : Odometer :=
  match u.readings with
  | .error _ => o
  | .ok _ =>
    match o with
    | none => some (u.position,.zero)
    | some (position,distance) =>
      match leg (haversineOf dist) position u.position with
      | .error _ => o
      | .ok none => some (u.position,distance)
      | .ok (some metres) => some (u.position,PyFloat.add distance metres)

def odometer (dist : Metric) (f : String) (updates : List Update) : Odometer :=
  ((tracked dist f updates).get f).map (fun s => (s.position,s.distanceFlownM))

theorem odometerConcat (dist : Metric) (f : String) (updates : List Update) (u : Update) :
    odometer dist f (updates ++ [u]) = advance dist (odometer dist f updates) u.1 := by
  simp only [odometer,tracked,Trace.finalConcat]
  generalize Trace.final (record dist f) .empty updates = tracker
  unfold record DroneStateTracker.update advance
  cases u.1.readings with
  | error e => rfl
  | ok r =>
    cases found : tracker.get f with
    | none => simp [Telemetry.create]
    | some existing =>
      have filed := DroneStateTracker.stateFiled found
      simp only [Option.map_some]
      rcases leg (haversineOf dist) existing.position u.1.position with e | _ | metres
      · simp [Telemetry.receive,filed]
      · simp [Telemetry.accumulate,Telemetry.receive,filed]
      · simp [Telemetry.accumulate,Telemetry.receive,filed]

theorem distanceOdometer (dist : Metric) (f : String) (updates : List Update) :
    distanceFlown dist f updates = ((odometer dist f updates).map Prod.snd).getD .zero := by
  simp [distanceFlown,odometer,Function.comp_def]

theorem shownOdometer (dist : Metric) (f : String) (updates : List Update) :
    shown dist f updates = (odometer dist f updates).bind Prod.fst := by
  simp only [shown,odometer]
  cases (tracked dist f updates).get f <;> rfl

theorem legCases (p q : Option Position) :
    (∃ x y, usable p = some x ∧ usable q = some y ∧
      ∀ dist, leg (haversineOf dist) p q = .ok (some (dist x y))) ∨
    (usable p = none ∨ usable q = none) ∧ ((∀ dist, leg (haversineOf dist) p q = .ok none) ∨
      ∃ e, ∀ dist, leg (haversineOf dist) p q = .error e) := by
  cases p with
  | none => exact .inr ⟨.inl rfl,.inl (fun _ => rfl)⟩
  | some p =>
    cases q with
    | none => exact .inr ⟨.inr rfl,.inl (fun _ => rfl)⟩
    | some q =>
      rcases lat : safeFloat p.latitude with e | x
      · exact .inr ⟨.inl (by simp [usable,lat]),
          .inr ⟨e,fun _ => by simp [leg,lat,bind,Except.bind]⟩⟩
      rcases lon : safeFloat p.longitude with e | y
      · exact .inr ⟨.inl (by simp [usable,lat,lon]),
          .inr ⟨e,fun _ => by simp [leg,lat,lon,bind,Except.bind]⟩⟩
      rcases lat' : safeFloat q.latitude with e | x'
      · exact .inr ⟨.inr (by simp [usable,lat']),
          .inr ⟨e,fun _ => by simp [leg,lat,lon,lat',bind,Except.bind]⟩⟩
      rcases lon' : safeFloat q.longitude with e | y'
      · exact .inr ⟨.inr (by simp [usable,lat',lon']),
          .inr ⟨e,fun _ => by simp [leg,lat,lon,lat',lon',bind,Except.bind]⟩⟩
      simp only [usable,leg,lat,lon,lat',lon',bind,Except.bind,haversineOf]
      cases x <;> cases y <;> cases x' <;> cases y' <;> simp

theorem legsConcat {α : Type} {fixes : List α} {x : α} (last : fixes.getLast? = some x) (y : α) :
    legs (fixes ++ [y]) = legs fixes ++ [(x,y)] := by
  induction fixes with
  | nil => cases last
  | cons a rest ih =>
    cases rest with
    | nil => cases last; rfl
    | cons b rest =>
      have inner := ih (by simpa using last)
      simp only [legs,List.cons_append,List.tail_cons,List.zip_cons_cons] at inner ⊢
      rw [inner]

theorem pathConcat (dist : Metric) {fixes : List Fix} {x : Fix} (last : fixes.getLast? = some x)
    (y : Fix) : pathLength dist (fixes ++ [y]) =
      PyFloat.add (pathLength dist fixes) (dist x y) := by
  simp [pathLength,legsConcat last]

def unit : Metric := fun _ _ => .finite 1

theorem pathUnit (fixes : List Fix) :
    pathLength unit fixes = .finite ((fixes.length - 1 : Nat) : Rat) := by
  induction fixes using List.reverseRecOn with
  | nil => rfl
  | append_singleton fixes y ih =>
    cases last : fixes.getLast? with
    | none =>
      rw [List.getLast?_eq_none_iff] at last
      subst fixes
      rfl
    | some x =>
      obtain ⟨front,rfl⟩ := List.getLast?_eq_some_iff.mp last
      rw [pathConcat _ last,ih]
      simp [PyFloat.add,unit]

inductive Advances (o : Odometer) (u : Telemetry) : Prop where
  | adds {x y} (read : ∃ r, u.readings = .ok r) (shows : usable (o.bind Prod.fst) = some x)
      (fix : usable u.position = some y) (next : ∀ dist, advance dist o u =
        some (u.position,PyFloat.add ((o.map Prod.snd).getD .zero) (dist x y)))
  | moves (read : ∃ r, u.readings = .ok r)
      (gap : usable (o.bind Prod.fst) = none ∨ usable u.position = none)
      (next : ∀ dist, advance dist o u = some (u.position,(o.map Prod.snd).getD .zero))
  | refused (why : (∃ e, u.readings = .error e) ∨
        o.isSome ∧ (usable (o.bind Prod.fst) = none ∨ usable u.position = none))
      (next : ∀ dist, advance dist o u = o)

theorem advances (o : Odometer) (u : Telemetry) : Advances o u := by
  cases read : u.readings with
  | error e => exact .refused (.inl ⟨e,read⟩) (fun dist => by simp [advance,read])
  | ok r =>
    rcases o with _ | ⟨p,d⟩
    · exact .moves ⟨r,read⟩ (.inl rfl) (fun dist => by simp [advance,read])
    · rcases legCases p u.position with ⟨x,y,shows,fix,adds⟩ | ⟨gap,none | ⟨e,fails⟩⟩
      · exact .adds ⟨r,read⟩ shows fix (fun dist => by simp [advance,read,adds])
      · exact .moves ⟨r,read⟩ gap (fun dist => by simp [advance,read,none])
      · exact .refused (.inr ⟨rfl,gap⟩) (fun dist => by simp [advance,read,fails])

theorem advanceSum (dist : Metric) (o : Odometer) (u : Telemetry) (fs : List Fix)
    (sum : (o.map Prod.snd).getD .zero = pathLength dist fs)
    (last : ∀ x, usable (o.bind Prod.fst) = some x → fs.getLast? = some x)
    (continues : (usable u.position).isSome → fs ≠ [] →
      (∃ r, u.readings = .ok r) ∧ (usable (o.bind Prod.fst)).isSome) :
    ((advance dist o u).map Prod.snd).getD .zero =
        pathLength dist (fs ++ (usable u.position).toList) ∧
      ∀ x, usable ((advance dist o u).bind Prod.fst) = some x →
        (fs ++ (usable u.position).toList).getLast? = some x := by
  -- A fix that adds no leg is the first one.
  have first : ∀ y, usable u.position = some y →
      (∃ e, u.readings = .error e) ∨ usable (o.bind Prod.fst) = none → fs = [] := by
    intro y fix stuck
    by_contra more
    obtain ⟨⟨r,read⟩,held⟩ := continues (by simp [fix]) more
    rcases stuck with ⟨e,fails⟩ | bare
    · cases read.symm.trans fails
    · simp [bare] at held
  cases advances o u with
  | adds read shows fix next =>
    rw [next dist,fix,Option.toList_some,pathConcat dist (last _ shows),← sum]
    exact ⟨rfl,by simp [fix]⟩
  | moves read gap next =>
    rw [next dist]
    cases fix : usable u.position with
    | none => simpa [fix] using sum
    | some y =>
      have first := first y fix (.inr (gap.resolve_right (by simp [fix])))
      subst first
      exact ⟨sum,by simp [fix]⟩
  | refused why next =>
    rw [next dist]
    cases fix : usable u.position with
    | none =>
      rw [Option.toList_none,List.append_nil]
      exact ⟨sum,last⟩
    | some y =>
      have first := first y fix (why.imp_right (fun gap => gap.2.resolve_right (by simp [fix])))
      subst first
      exact ⟨sum,fun x shows => by cases last x shows⟩

theorem advanceUnit {o : Odometer} {n : Nat} (counted : (o.map Prod.snd).getD .zero = .finite n)
    (u : Telemetry) : ∃ m : Nat, ((advance unit o u).map Prod.snd).getD .zero = .finite m ∧
      (m = n ∨ m = n + 1 ∧ (usable u.position).isSome ∧ (∃ r, u.readings = .ok r) ∧
        (usable (o.bind Prod.fst)).isSome) := by
  cases advances o u with
  | adds read shows fix next =>
    refine ⟨n + 1,?_,.inr ⟨rfl,by simp [fix],read,by simp [shows]⟩⟩
    simp [next,counted,unit,PyFloat.add]
  | moves read gap next => exact ⟨n,by rw [next]; exact counted,.inl rfl⟩
  | refused why next => exact ⟨n,by rw [next]; exact counted,.inl rfl⟩

theorem advanceSeat {dist dist' : Metric} {o o' : Odometer} (same : o.map Prod.fst = o'.map Prod.fst)
    (u : Telemetry) : (advance dist o u).map Prod.fst = (advance dist' o' u).map Prod.fst := by
  unfold advance
  cases u.readings with
  | error e => exact same
  | ok r =>
    rcases o with _ | ⟨p,d⟩ <;> rcases o' with _ | ⟨p',d'⟩
    · rfl
    · cases same
    · cases same
    · cases Option.some.inj same
      rcases legCases p u.position with ⟨x,y,-,-,adds⟩ | ⟨-,none | ⟨e,fails⟩⟩
      · simp [adds]
      · simp [none]
      · simp [fails]

theorem seatSame (dist dist' : Metric) (f : String) (updates : List Update) :
    (odometer dist f updates).map Prod.fst = (odometer dist' f updates).map Prod.fst := by
  induction updates using List.reverseRecOn with
  | nil => rfl
  | append_singleton updates u ih =>
    rw [odometerConcat,odometerConcat]
    exact advanceSeat ih u.1

theorem shownSame (dist dist' : Metric) (f : String) (updates : List Update) :
    shown dist f updates = shown dist' f updates := by
  have same := seatSame dist dist' f updates
  rw [shownOdometer,shownOdometer]
  generalize odometer dist f updates = o at same ⊢
  generalize odometer dist' f updates = o' at same ⊢
  rcases o with _ | o <;> rcases o' with _ | o'
  · rfl
  · cases same
  · cases same
  · exact Option.some.inj same

def onlyFixes (updates : List Update) : List Update :=
  updates.filter (fun u => (fixOf u).isSome)

structure Sums (f : String) (updates : List Update) (fs : List Fix) : Prop where
  sum : ∀ dist, distanceFlown dist f updates = pathLength dist fs
  last : ∀ dist x, usable (shown dist f updates) = some x → fs.getLast? = some x

structure Running (f : String) (updates : List Update) : Prop where
  all : Sums f updates (fixes updates)
  thinned : Sums f (onlyFixes updates) (fixes updates)
  shows : ∀ dist x, usable (shown dist f updates) = some x →
    usable (shown dist f (onlyFixes updates)) = some x

theorem sumsConcat {f : String} {updates : List Update} {fs : List Fix} {u : Update}
    (sums : Sums f updates fs) (continues : (fixOf u).isSome → fs ≠ [] →
      (∃ r, u.1.readings = .ok r) ∧ ∀ dist, (usable (shown dist f updates)).isSome) :
    Sums f (updates ++ [u]) (fs ++ (fixOf u).toList) := by
  have step : ∀ dist, _ := fun dist =>
    advanceSum dist (odometer dist f updates) u.1 fs
      (by rw [← distanceOdometer]; exact sums.sum dist)
      (by rw [← shownOdometer]; exact sums.last dist)
      (by
        rw [← shownOdometer]
        intro fix some
        obtain ⟨read,held⟩ := continues fix some
        exact ⟨read,held dist⟩)
  constructor
  · intro dist
    rw [distanceOdometer,odometerConcat]
    exact (step dist).1
  · intro dist
    rw [shownOdometer,odometerConcat]
    exact (step dist).2

theorem fixesConcat (updates : List Update) (u : Update) :
    fixes (updates ++ [u]) = fixes updates ++ (fixOf u).toList := by
  rw [fixes,fixes,List.filterMap_append]
  cases fix : fixOf u <;> simp [fix]

theorem onlyFixesConcat (updates : List Update) {u : Update} :
    onlyFixes (updates ++ [u]) = onlyFixes updates ++ if (fixOf u).isSome then [u] else [] := by
  rw [onlyFixes,onlyFixes,List.filter_append]
  cases fix : fixOf u <;> simp [fix]

theorem noFixes {updates : List Update} (none : fixes updates = []) : onlyFixes updates = [] := by
  rw [fixes,List.filterMap_eq_nil_iff] at none
  rw [onlyFixes,List.filter_eq_nil_iff]
  intro u mem
  simp [none u mem]

theorem advanceShown {dist : Metric} {o : Odometer} {u : Telemetry} {x : Fix}
    (shows : usable ((advance dist o u).bind Prod.fst) = some x) :
    (∃ r, u.readings = .ok r) ∧ usable u.position = some x ∨ usable (o.bind Prod.fst) = some x := by
  cases advances o u with
  | adds read _ _ next | moves read _ next =>
    rw [next] at shows
    exact .inl ⟨read,shows⟩
  | refused why next =>
    rw [next] at shows
    exact .inr shows

theorem advanceFix {dist : Metric} {o : Odometer} {u : Telemetry} {y : Fix}
    {r : Option PyFloat × Option PyFloat} (read : u.readings = .ok r)
    (fix : usable u.position = some y) (ready : o = none ∨ (usable (o.bind Prod.fst)).isSome) :
    usable ((advance dist o u).bind Prod.fst) = some y := by
  cases advances o u with
  | adds _ _ _ next | moves _ _ next =>
    rw [next]
    exact fix
  | refused why next =>
    rcases why with ⟨e,fails⟩ | ⟨some,bare | bare⟩
    · cases read.symm.trans fails
    · rcases ready with rfl | held
      · cases some
      · simp [bare] at held
    · cases fix.symm.trans bare

theorem shownConcat {dist : Metric} {f : String} {updates : List Update} {u : Update} {x : Fix}
    (shows : usable (shown dist f (updates ++ [u])) = some x) :
    (∃ r, u.1.readings = .ok r) ∧ fixOf u = some x ∨ usable (shown dist f updates) = some x := by
  rw [shownOdometer,odometerConcat] at shows
  rw [shownOdometer]
  exact advanceShown shows

theorem shownFix {dist : Metric} {f : String} {updates : List Update} {u : Update} {y : Fix}
    {r : Option PyFloat × Option PyFloat} (read : u.1.readings = .ok r) (fix : fixOf u = some y)
    (ready : updates = [] ∨ (usable (shown dist f updates)).isSome) :
    usable (shown dist f (updates ++ [u])) = some y := by
  rw [shownOdometer] at ready ⊢
  rw [odometerConcat]
  refine advanceFix read fix (ready.imp_left ?_)
  intro none
  subst none
  rfl

theorem runningConcat {f : String} {updates : List Update} {u : Update} (running : Running f updates)
    (continues : Continues f updates u) : Running f (updates ++ [u]) := by
  have held : (fixOf u).isSome → fixes updates ≠ [] →
      (∃ r, u.1.readings = .ok r) ∧ ∀ dist, (usable (shown dist f updates)).isSome := by
    intro fix some
    obtain ⟨read,shows⟩ := continues fix some
    exact ⟨read,fun dist => by rwa [shownSame dist]⟩
  have thin : (fixOf u).isSome → fixes updates ≠ [] →
      (∃ r, u.1.readings = .ok r) ∧ ∀ dist, (usable (shown dist f (onlyFixes updates))).isSome := by
    intro fix some
    obtain ⟨read,shows⟩ := held fix some
    refine ⟨read,fun dist => ?_⟩
    obtain ⟨x,same⟩ := Option.isSome_iff_exists.mp (shows dist)
    rw [running.shows dist x same]
    rfl
  have all := sumsConcat running.all held
  rw [← fixesConcat] at all
  cases fix : fixOf u with
  | none =>
    have same : fixes (updates ++ [u]) = fixes updates := by simp [fixesConcat,fix]
    have kept : onlyFixes (updates ++ [u]) = onlyFixes updates := by simp [onlyFixesConcat,fix]
    refine ⟨all,by rw [same,kept]; exact running.thinned,fun dist x shows => ?_⟩
    rw [kept]
    rcases shownConcat shows with ⟨-,here⟩ | before
    · cases fix.symm.trans here
    · exact running.shows dist x before
  | some y =>
    have longer : onlyFixes (updates ++ [u]) = onlyFixes updates ++ [u] := by
      simp [onlyFixesConcat,fix]
    refine ⟨all,?_,fun dist x shows => ?_⟩
    · rw [longer,fixesConcat]
      exact sumsConcat running.thinned thin
    · rw [longer]
      by_cases first : fixes updates = []
      · rcases shownConcat shows with ⟨⟨r,read⟩,here⟩ | before
        · exact shownFix read here (.inl (noFixes first))
        · have gone := running.all.last dist x before
          rw [first] at gone
          cases gone
      · obtain ⟨⟨r,read⟩,ready⟩ := thin (by simp [fix]) first
        have mine := shownFix read fix (.inr ((held (by simp [fix]) first).2 dist))
        cases mine.symm.trans shows
        exact shownFix read fix (.inr (ready dist))

theorem running {f : String} {updates : List Update}
    (continues : Trace.Meets (Continues f) updates) : Running f updates :=
  Trace.guardedInvariant (Running f)
    ⟨⟨fun _ => rfl,fun _ _ gone => by cases gone⟩,⟨fun _ => rfl,fun _ _ gone => by cases gone⟩,
      fun _ _ gone => by cases gone⟩ (fun _ _ => runningConcat) continues

theorem unitConcat {f : String} {updates : List Update} {n : Nat}
    (counted : distanceFlown unit f updates = .finite n) (u : Update) :
    ∃ m : Nat, distanceFlown unit f (updates ++ [u]) = .finite m ∧
      (m = n ∨ m = n + 1 ∧ (fixOf u).isSome ∧ (∃ r, u.1.readings = .ok r) ∧
        (usable (shown unit f updates)).isSome) := by
  rw [distanceOdometer] at counted
  rw [distanceOdometer,odometerConcat,shownOdometer]
  exact advanceUnit counted u.1

theorem shownNeedsFix {dist : Metric} {f : String} {updates : List Update}
    (shows : (usable (shown dist f updates)).isSome) : fixes updates ≠ [] := by
  induction updates using List.reverseRecOn with
  | nil => cases shows
  | append_singleton updates u ih =>
    obtain ⟨x,shows⟩ := Option.isSome_iff_exists.mp shows
    rw [fixesConcat]
    rcases shownConcat shows with ⟨-,here⟩ | before
    · simp [here]
    · simp [ih (by simp [before])]

theorem unitBound (f : String) (updates : List Update) : ∃ n : Nat,
    distanceFlown unit f updates = .finite n ∧ n ≤ (fixes updates).length - 1 := by
  induction updates using List.reverseRecOn with
  | nil => exact ⟨0,rfl,Nat.zero_le _⟩
  | append_singleton updates u ih =>
    obtain ⟨n,counted,bound⟩ := ih
    obtain ⟨m,counted',grows⟩ := unitConcat counted u
    refine ⟨m,counted',?_⟩
    have length : (fixes (updates ++ [u])).length =
        (fixes updates).length + (fixOf u).toList.length := by simp [fixesConcat]
    rcases grows with rfl | ⟨rfl,fix,-,shows⟩
    · omega
    · have some := List.length_pos_of_ne_nil (shownNeedsFix shows)
      rw [Option.length_toList,if_pos fix] at length
      omega

theorem unitContinues {f : String} {updates : List Update}
    (full : distanceFlown unit f updates = .finite ((fixes updates).length - 1 : Nat)) :
    Trace.Meets (Continues f) updates := by
  induction updates using List.reverseRecOn with
  | nil => exact Trace.meetsNil
  | append_singleton updates u ih =>
    obtain ⟨n,counted,bound⟩ := unitBound f updates
    obtain ⟨m,counted',grows⟩ := unitConcat counted u
    have same := PyFloat.finite.inj (counted'.symm.trans full)
    have length : (fixes (updates ++ [u])).length =
        (fixes updates).length + (fixOf u).toList.length := by simp [fixesConcat]
    rw [length] at same
    have same : m = (fixes updates).length + (fixOf u).toList.length - 1 := by exact_mod_cast same
    rw [Trace.meetsConcat]
    constructor
    · apply ih
      rw [counted]
      congr 2
      rcases grows with rfl | ⟨rfl,fix,-,shows⟩
      · omega
      · rw [Option.length_toList,if_pos fix] at same
        omega
    · intro fix some
      have some := List.length_pos_of_ne_nil some
      rw [Option.length_toList,if_pos fix] at same
      rcases grows with rfl | ⟨-,-,read,shows⟩
      · omega
      · exact ⟨read,by rwa [shownSame _ unit]⟩

theorem sumsFixesIff (f : String) (updates : List Update) :
    SumsFixes f updates ↔ Trace.Meets (Continues f) updates := by
  constructor
  · intro sums
    apply unitContinues
    rw [sums.sum,pathUnit]
  · intro continues
    obtain ⟨all,thinned,-⟩ := running continues
    exact ⟨all.sum,fun dist => (all.sum dist).trans (thinned.sum dist).symm⟩

def at47 (longitude : Int) : Position :=
  ⟨.float (.finite 47),.float (.finite longitude),.null,[]⟩

def messageAt (second : Nat) (position : Option Position) : Update :=
  (⟨"drone-1","topic",[],[],.null,.null,position,none,none⟩,march 8 14 0 second)

theorem gapLosesLeg : ¬ SumsFixes "fs"
    [messageAt 0 (some (at47 8)),messageAt 1 none,messageAt 2 (some (at47 9))] := by
  intro sums
  have flown := sums.sum unit
  rw [pathUnit] at flown
  have lost : (0 : Rat) = (1 : Nat) := PyFloat.finite.inj flown
  exact absurd lost (by decide)

end FlightMonitor.Distance
