import FlightMonitor.Service
import FlightMonitor.Updates

/-! The voltage at the end of a flown segment. Over the whole history a segment has a window,
from its arming message to its disarming one; the tracker keeps a voltage while the segment is
open, but only the messages with a boolean arm state reach it. -/
namespace FlightMonitor.SegmentVoltage
open PyValue IsoTime Updates

abbrev Sample := Option Bool × Option PyFloat

structure Window where
  readings : List (Option PyFloat)
  isOpen : Bool

def Window.precede (reading : Option PyFloat) (w : Window) : Window :=
  ⟨reading :: w.readings,w.isOpen⟩

def Window.extend (w : Window) (sample : Sample) : Window :=
  if w.isOpen then ⟨w.readings ++ [sample.2],decide (sample.1 ≠ some false)⟩ else w

def lastReading (readings : List (Option PyFloat)) : Option PyFloat :=
  (readings.filterMap id).getLast?

def rest : List Sample → Window
  | [] => ⟨[],true⟩
  | (some false,reading) :: _ => ⟨[reading],false⟩
  | (_,reading) :: later => (rest later).precede reading

def windowsOf : Bool → List Sample → List Window
  | _,[] => []
  | false,(some true,reading) :: later => (rest later).precede reading :: windowsOf true later
  | true,(some false,_) :: later => windowsOf false later
  | flying,_ :: later => windowsOf flying later

def flyingAfter (history : List Sample) (flying : Bool) : Bool :=
  history.foldl (fun flying sample => sample.1.getD flying) flying

def atLast {α : Type} (g : α → α) : List α → List α
  | [] => []
  | [x] => [g x]
  | x :: y :: rest => x :: atLast g (y :: rest)

theorem atLastConcat {α : Type} (g : α → α) (xs : List α) (x : α) :
    atLast g (xs ++ [x]) = xs ++ [g x] := by
  induction xs with
  | nil => rfl
  | cons y ys ih =>
    cases ys with
    | nil => rfl
    | cons z zs => rw [List.cons_append,List.cons_append,atLast,← List.cons_append,ih]; rfl

theorem mapAtLast {α β : Type} {h : α → β} {g : α → α} {g' : β → β} (comm : ∀ x, h (g x) = g' (h x))
    (xs : List α) : (atLast g xs).map h = atLast g' (xs.map h) := by
  cases xs using List.reverseRecOn with
  | nil => rfl
  | append_singleton xs x _ =>
    simp only [atLastConcat,List.map_append,List.map_cons,List.map_nil,comm]

theorem atLastSame {α : Type} {g : α → α} {xs : List α} (same : ∀ x ∈ xs, g x = x) :
    atLast g xs = xs := by
  cases xs using List.reverseRecOn with
  | nil => rfl
  | append_singleton xs x _ => rw [atLastConcat,same x (by simp)]

theorem flyingConcat (history : List Sample) (flying : Bool) (sample : Sample) :
    flyingAfter (history ++ [sample]) flying = sample.1.getD (flyingAfter history flying) := by
  simp [flyingAfter,List.foldl_append]

theorem extendPrecede (w : Window) (reading : Option PyFloat) (sample : Sample) :
    (w.precede reading).extend sample = (w.extend sample).precede reading := by
  unfold Window.extend
  cases opens : w.isOpen <;> simp [Window.precede,opens]

theorem restConcat (history : List Sample) (sample : Sample) :
    rest (history ++ [sample]) = (rest history).extend sample := by
  induction history with
  | nil =>
    obtain ⟨armed,reading⟩ := sample
    rcases armed with _ | _ | _ <;> rfl
  | cons first later ih =>
    obtain ⟨armed,reading⟩ := first
    rcases armed with _ | _ | _
    · simp only [List.cons_append,rest,ih,extendPrecede]
    · rfl
    · simp only [List.cons_append,rest,ih,extendPrecede]

theorem neverDisarmed {history : List Sample} (opens : (rest history).isOpen = true) :
    windowsOf true history = [] ∧ flyingAfter history true = true := by
  induction history with
  | nil => exact ⟨rfl,rfl⟩
  | cons first later ih =>
    obtain ⟨armed,reading⟩ := first
    rcases armed with _ | _ | _
    · exact ih opens
    · cases opens
    · exact ih opens

theorem windowsConcat (history : List Sample) (flying : Bool) (sample : Sample) :
    windowsOf flying (history ++ [sample]) =
      if flyingAfter history flying then atLast (Window.extend · sample) (windowsOf flying history)
      else windowsOf flying history ++
        if sample.1 = some true then [⟨[sample.2],true⟩] else [] := by
  induction history generalizing flying with
  | nil =>
    obtain ⟨armed,reading⟩ := sample
    cases flying <;> rcases armed with _ | _ | _ <;> rfl
  | cons first later ih =>
    obtain ⟨armed,reading⟩ := first
    cases flying with
    | true =>
      rcases armed with _ | _ | _
      · exact ih true
      · exact ih false
      · exact ih true
    | false =>
      rcases armed with _ | _ | _
      · exact ih false
      · exact ih false
      · have after : flyingAfter ((some true,reading) :: later) false = flyingAfter later true := rfl
        simp only [List.cons_append,windowsOf,restConcat,ih,after,← extendPrecede]
        cases opens : (rest later).isOpen with
        | true =>
          obtain ⟨none_,flying⟩ := neverDisarmed opens
          rw [none_,flying]
          rfl
        | false =>
          have closed : ((rest later).precede reading).extend sample =
              (rest later).precede reading := by simp [Window.extend,Window.precede,opens]
          rw [closed]
          cases flyingAfter later true with
          | false => rfl
          | true =>
            cases windowsOf true later with
            | nil => simp only [if_true,atLast,closed]
            | cons w ws => rfl

structure OpenLast (flying : Bool) (windows : List Window) : Prop where
  airborne : flying = true → ∃ before w, windows = before ++ [w] ∧ w.isOpen = true ∧
    ∀ x ∈ before, x.isOpen = false
  landed : flying = false → ∀ w ∈ windows, w.isOpen = false

theorem lastIsOpen (history : List Sample) :
    OpenLast (flyingAfter history false) (windowsOf false history) := by
  induction history using List.reverseRecOn with
  | nil => exact ⟨fun flying => (by cases flying),fun _ w mem => (by cases mem)⟩
  | append_singleton history sample ih =>
    obtain ⟨armed,reading⟩ := sample
    rw [flyingConcat,windowsConcat]
    cases flying : flyingAfter history false with
    | true =>
      obtain ⟨before,w,split_,opens,closed⟩ := ih.airborne flying
      rw [split_,if_pos rfl,atLastConcat]
      have last : (w.extend (armed,reading)).isOpen = decide (armed ≠ some false) := by
        simp [Window.extend,opens]
      rcases armed with _ | _ | _
      · exact ⟨fun _ => ⟨before,_,rfl,last,closed⟩,fun landed => by cases landed⟩
      · refine ⟨fun airborne => (by cases airborne),fun _ x mem => ?_⟩
        rcases List.mem_append.mp mem with early | here
        · exact closed x early
        · cases List.mem_singleton.mp here
          exact last
      · exact ⟨fun _ => ⟨before,_,rfl,last,closed⟩,fun landed => by cases landed⟩
    | false =>
      have closed := ih.landed flying
      simp only [Bool.false_eq_true,if_false]
      rcases armed with _ | _ | _
      · exact ⟨fun airborne => (by cases airborne),fun _ w mem => closed w (by simpa using mem)⟩
      · exact ⟨fun airborne => (by cases airborne),fun _ w mem => closed w (by simpa using mem)⟩
      · exact ⟨fun _ => ⟨_,_,rfl,rfl,closed⟩,fun landed => by cases landed⟩

abbrev Panel := Option PyFloat × Bool

def panel (s : FlightSegment) : Panel := (s.voltageOut,s.timeOutUtc.isNone)

def Window.panel (w : Window) : Panel := (lastReading w.readings,w.isOpen)

def meter (reading : Option PyFloat) (closes : Bool) (p : Panel) : Panel :=
  if p.2 then (reading.or p.1,!closes) else p

theorem lastReadingConcat (readings : List (Option PyFloat)) (reading : Option PyFloat) :
    lastReading (readings ++ [reading]) = reading.or (lastReading readings) := by
  cases reading <;> simp [lastReading]

theorem panelExtend (w : Window) (armed : Option Bool) (reading : Option PyFloat) :
    (w.extend (armed,reading)).panel = meter reading (decide (armed = some false)) w.panel := by
  unfold Window.extend meter
  cases opens : w.isOpen <;> simp [Window.panel,opens,lastReadingConcat]

theorem changeOpenAtLast (change : FlightSegment → FlightSegment) (segments : List FlightSegment) :
    changeOpen change segments =
      atLast (fun s => if s.timeOutUtc = none then change s else s) segments := by
  induction segments with
  | nil => rfl
  | cons segment later ih =>
    cases later with
    | nil => rfl
    | cons next later => rw [changeOpen,ih]; rfl

theorem panelsMeasured (reading : Option PyFloat) (segments : List FlightSegment) :
    (measureOpen reading segments).map panel = atLast (meter reading false) (segments.map panel) := by
  cases reading with
  | none =>
    rw [atLastSame]
    · rfl
    · intro p _
      obtain ⟨voltage,_ | _⟩ := p <;> rfl
  | some v =>
    simp only [measureOpen,changeOpenAtLast]
    refine mapAtLast (fun s => ?_) segments
    cases ends : s.timeOutUtc <;> simp [panel,meter,ends]

theorem panelsClosed (stamp : String) (segments : List FlightSegment) :
    (changeOpen (fun s => { s with timeOutUtc := some stamp }) segments).map panel =
      atLast (meter none true) (segments.map panel) := by
  rw [changeOpenAtLast]
  refine mapAtLast (fun s => ?_) segments
  cases ends : s.timeOutUtc <;> simp [panel,meter,ends]

theorem atLastTwice {α : Type} (g h : α → α) (xs : List α) :
    atLast g (atLast h xs) = atLast (fun x => g (h x)) xs := by
  cases xs using List.reverseRecOn with
  | nil => rfl
  | append_singleton xs x _ => simp only [atLastConcat]

def segmentsOf (live : Option DroneState) : List FlightSegment :=
  (live.map DroneState.segments).getD []

def lastArmedOf (live : Option DroneState) : Option Bool := live.bind DroneState.lastArmed

structure Metered (live : Option DroneState) (history : List Sample) : Prop where
  flying : lastArmedOf live = some true ↔ flyingAfter history false = true
  panels : (segmentsOf live).map panel = (windowsOf false history).map Window.panel

theorem handledMetered {live : Option DroneState} {history : List Sample} {state : DroneState}
    (metered : Metered live history) (segments : state.segments = segmentsOf live)
    (last : state.lastArmed = lastArmedOf live) (armed : Bool) (stamp : String)
    (reading : Option PyFloat) :
    Metered (some (handleArmState state (some armed) stamp reading))
      (history ++ [(some armed,reading)]) := by
  have opens := lastIsOpen history
  refine ⟨by simp [lastArmedOf,handleArmState,flyingConcat],?_⟩
  have panels := metered.panels
  rw [← segments] at panels
  have flying := metered.flying
  rw [← last] at flying
  rw [windowsConcat]
  cases airborne : flyingAfter history false with
  | true =>
    have was : state.lastArmed = some true := flying.mpr airborne
    rw [if_pos rfl,mapAtLast (fun w => panelExtend w (some armed) reading),← panels]
    cases armed with
    | true => simp [segmentsOf,handleArmState,was,panelsMeasured]
    | false =>
      simp only [segmentsOf,handleArmState,was,Option.map_some,Option.getD_some,Bool.false_eq_true,
        false_and,if_false,not_false_eq_true,true_and,if_true,panelsClosed,panelsMeasured,
        atLastTwice,decide_true]
      congr 1
      funext p
      obtain ⟨voltage,_ | _⟩ := p <;> simp [meter]
  | false =>
    have was : state.lastArmed ≠ some true := fun same => by simp [flying.mp same] at airborne
    simp only [Bool.false_eq_true,if_false,List.map_append]
    rw [← panels]
    cases armed with
    | true =>
      simp only [segmentsOf,handleArmState,was,Option.map_some,Option.getD_some,ne_eq,
        not_false_eq_true,and_self,if_true,not_true_eq_false,if_false,panelsMeasured,
        List.map_append,List.map_cons,List.map_nil,atLastConcat]
      cases reading <;> rfl
    | false =>
      simp only [segmentsOf,handleArmState,was,Option.map_some,Option.getD_some,
        Bool.false_eq_true,false_and,if_false,not_false_eq_true,and_false,panelsMeasured]
      rw [atLastSame]
      · simp
      · intro p mem
        rw [panels] at mem
        obtain ⟨w,inside,rfl⟩ := List.mem_map.mp mem
        simp [meter,Window.panel,opens.landed airborne w inside]

def openVoltage (live : Option DroneState) : Option (Option PyFloat) :=
  (segmentsOf live).getLast?.bind (fun s => if s.timeOutUtc = none then some s.voltageOut else none)

/-- A message that the arm-state handler leaves alone has no reading, or no segment is open, or
the reading is the one the open segment has. -/
def Unread (live : Option DroneState) (reading : Option PyFloat) : Prop :=
  reading = none ∨ openVoltage live = none ∨ openVoltage live = some reading

instance (live : Option DroneState) (reading : Option PyFloat) : Decidable (Unread live reading) :=
  inferInstanceAs (Decidable (_ ∨ _ ∨ _))

theorem openLast {live : Option DroneState} {history : List Sample} (metered : Metered live history)
    (airborne : flyingAfter history false = true) : ∃ before w,
      windowsOf false history = before ++ [w] ∧ w.isOpen = true ∧
      openVoltage live = some (lastReading w.readings) := by
  obtain ⟨before,w,split_,opens,-⟩ := (lastIsOpen history).airborne airborne
  refine ⟨before,w,split_,opens,?_⟩
  have panels := metered.panels
  rw [split_,List.map_append] at panels
  obtain ⟨early,late,same,-,last⟩ := List.map_eq_append_iff.mp panels
  obtain ⟨segment,rfl,kept⟩ := List.map_eq_singleton_iff.mp last
  have voltage : segment.voltageOut = lastReading w.readings := congrArg Prod.fst kept
  have ends : segment.timeOutUtc = none := by
    have flag : segment.timeOutUtc.isNone = w.isOpen := congrArg Prod.snd kept
    rw [opens] at flag
    exact Option.isNone_iff_eq_none.mp flag
  simp [openVoltage,same,ends,voltage]

theorem unhandledMetered {live next : Option DroneState} {history : List Sample}
    (metered : Metered live history) (segments : segmentsOf next = segmentsOf live)
    (last : lastArmedOf next = lastArmedOf live) {reading : Option PyFloat}
    (unread : Unread live reading) : Metered next (history ++ [(none,reading)]) := by
  refine ⟨by rw [last,flyingConcat]; exact metered.flying,?_⟩
  rw [segments,metered.panels,windowsConcat]
  cases airborne : flyingAfter history false with
  | false => simp
  | true =>
    obtain ⟨before,w,split_,opens,voltage⟩ := openLast metered airborne
    rw [split_,if_pos rfl,atLastConcat,List.map_append,List.map_append]
    have same : (w.extend (none,reading)).panel = w.panel := by
      rw [panelExtend]
      rcases unread with none_ | none_ | read
      · rw [none_]; simp [meter,Window.panel,opens]
      · rw [voltage] at none_; cases none_
      · rw [voltage] at read
        simp [meter,Window.panel,opens,Option.some.inj read]
    simp only [List.map_cons,List.map_nil,same]

def voltagesOf (live : Option DroneState) : List (Option PyFloat) :=
  (segmentsOf live).map FlightSegment.voltageOut

def LastReadings (live : Option DroneState) (history : List Sample) : Prop :=
  voltagesOf live = (windowsOf false history).map (fun w => lastReading w.readings)

theorem meteredReadings {live : Option DroneState} {history : List Sample}
    (metered : Metered live history) : LastReadings live history := by
  have voltages := congrArg (List.map Prod.fst) metered.panels
  rwa [List.map_map,List.map_map] at voltages

theorem unhandledMisses {live next : Option DroneState} {history : List Sample}
    (metered : Metered live history) (segments : segmentsOf next = segmentsOf live)
    {reading : Option PyFloat} (read : ¬ Unread live reading) :
    ¬ LastReadings next (history ++ [(none,reading)]) := by
  intro good
  have before := meteredReadings metered
  simp only [LastReadings,voltagesOf,segments] at good before
  rw [windowsConcat] at good
  cases airborne : flyingAfter history false with
  | false =>
    refine read (.inr (.inl ?_))
    cases opens : openVoltage live with
    | none => rfl
    | some voltage =>
      obtain ⟨s,last,ends⟩ := Option.bind_eq_some_iff.mp opens
      have mem : panel s ∈ (segmentsOf live).map panel :=
        List.mem_map_of_mem (List.mem_of_getLast? last)
      rw [metered.panels] at mem
      obtain ⟨w,inside,same⟩ := List.mem_map.mp mem
      have closed := (lastIsOpen history).landed airborne w inside
      have flag : w.isOpen = s.timeOutUtc.isNone := congrArg Prod.snd same
      split at ends
      · rename_i none_
        rw [closed,none_] at flag
        cases flag
      · cases ends
  | true =>
    obtain ⟨init,w,split_,opens,voltage⟩ := openLast metered airborne
    rw [airborne,if_pos rfl,split_,atLastConcat] at good
    rw [split_] at before
    rw [before,List.map_append,List.map_append] at good
    have last := List.append_cancel_left good
    simp only [Window.extend,opens,if_true,List.map_cons,List.map_nil,lastReadingConcat,
      List.cons.injEq,and_true] at last
    cases reading with
    | none => exact read (.inl rfl)
    | some x => exact read (.inr (.inr (by rw [voltage,last]; rfl)))

/-! The updates of a session. An update that raises handles no arm state, whatever its message
says, but its message may carry a reading all the same. -/

def carried (u : Telemetry) : Option PyFloat :=
  match extractVoltage u.parsedPayload with
  | .ok reading => reading
  | .error _ => none

section
variable (haversine : Haversine) (f : String)

def sample (tracker : DroneStateTracker) (u : Update) : Sample :=
  (if returns haversine f tracker u then u.1.armed else none,carried u.1)

def samples (tracker : DroneStateTracker) (updates : List Update) : List Sample :=
  Trace.history (absorb haversine f) tracker
    (fun history tracker u => history ++ [sample haversine f tracker u]) [] updates

def EndsAtLastReadings (tracker : DroneStateTracker) (updates : List Update) : Prop :=
  LastReadings ((absorbed haversine f tracker updates).get f) (samples haversine f tracker updates)

def ReadOrHandled (tracker : DroneStateTracker) (before : List Update) (u : Update) : Prop :=
  (sample haversine f (absorbed haversine f tracker before) u).1 = none →
    Unread ((absorbed haversine f tracker before).get f) (carried u.1)

end

theorem carriedRead {u : Telemetry} {altitude voltage : Option PyFloat}
    (read : u.readings = .ok (altitude,voltage)) : carried u = voltage := by
  unfold Telemetry.readings at read
  obtain ⟨_,-,read⟩ := bindOk read
  obtain ⟨_,got,same⟩ := bindOk read
  cases same
  rw [carried,got]

inductive Sampled (live next : Option DroneState) : Sample → Prop where
  | unhandled (reading : Option PyFloat) (segments : segmentsOf next = segmentsOf live)
      (last : lastArmedOf next = lastArmedOf live) : Sampled live next (none,reading)
  | handled (state : DroneState) (armed : Bool) (stamp : String) (reading : Option PyFloat)
      (segments : state.segments = segmentsOf live) (last : state.lastArmed = lastArmedOf live)
      (done : next = some (handleArmState state (some armed) stamp reading)) :
      Sampled live next (some armed,reading)

theorem handledSampled {live : Option DroneState} {state : DroneState} (armed : Option Bool)
    (stamp : String) (reading : Option PyFloat) (segments : state.segments = segmentsOf live)
    (last : state.lastArmed = lastArmedOf live) :
    Sampled live (some (handleArmState state armed stamp reading)) (armed,reading) := by
  cases armed with
  | none => exact .unhandled reading segments last
  | some armed => exact .handled state armed stamp reading segments last rfl

theorem stepSampled (haversine : Haversine) (f : String) (tracker : DroneStateTracker) (u : Update) :
    Sampled (tracker.get f) ((absorb haversine f tracker u).get f) (sample haversine f tracker u) := by
  have updated := absorbUpdated haversine f tracker u
  unfold sample
  generalize (absorb haversine f tracker u).get f = next,returns haversine f tracker u = returned
    at updated ⊢
  cases updated with
  | refused e read => exact .unhandled _ rfl rfl
  | broken altitude voltage read existing found e failed =>
    rw [found]
    exact .unhandled _ rfl rfl
  | created altitude voltage read fresh =>
    rw [fresh,carriedRead read]
    exact handledSampled u.1.armed u.stamp voltage rfl rfl
  | recorded altitude voltage read existing found metres flown =>
    rw [found,carriedRead read]
    exact handledSampled u.1.armed u.stamp voltage rfl rfl

theorem sampledMetered {live next : Option DroneState} {history : List Sample} {sample : Sample}
    (metered : Metered live history) (step : Sampled live next sample)
    (cond : sample.1 = none → Unread live sample.2) : Metered next (history ++ [sample]) := by
  cases step with
  | unhandled reading segments last => exact unhandledMetered metered segments last (cond rfl)
  | handled state armed stamp reading segments last done =>
    rw [done]
    exact handledMetered metered segments last armed stamp reading

theorem sampledMisses {live next : Option DroneState} {history : List Sample} {sample : Sample}
    (metered : Metered live history) (step : Sampled live next sample)
    (missed : ¬ (sample.1 = none → Unread live sample.2)) :
    ¬ LastReadings next (history ++ [sample]) := by
  cases step with
  | unhandled reading segments last =>
    exact unhandledMisses metered segments (fun unread => missed (fun _ => unread))
  | handled state armed => exact absurd (fun none_ => by cases none_) missed

theorem endsAtLastReadingsIff (haversine : Haversine) (f : String) (tracker : DroneStateTracker)
    (fresh : tracker.get f = none) (updates : List Update) :
    Trace.Throughout (EndsAtLastReadings haversine f tracker) updates ↔
      Trace.Meets (ReadOrHandled haversine f tracker) updates := by
  refine Trace.goodIffGuarded (fun updates => Metered ((absorbed haversine f tracker updates).get f)
    (samples haversine f tracker updates)) ?_ (fun _ => meteredReadings) ?_ ?_ updates
  · rw [absorbedNil,fresh]
    exact ⟨by simp [lastArmedOf,samples,flyingAfter],rfl⟩
  · intro before u metered cond
    rw [absorbedConcat,samples,Trace.historyConcat]
    exact sampledMetered metered (stepSampled haversine f _ u) cond
  · intro before u metered missed
    rw [absorbedConcat,samples,Trace.historyConcat]
    exact sampledMisses metered (stepSampled haversine f _ u) missed

def measured (armed : Option Bool) (voltage : Rat) : Update :=
  ({ droneId := "drone-1", sessionSource := "aws", rawMessage := []
     parsedPayload := [("voltage",.float (.finite voltage))], missionStatus := .null, mode := .null
     position := none, armed := armed },march 0 10 0 0)

theorem armedMessagesMeasured : Trace.Throughout
    (EndsAtLastReadings deployment.haversine "flight-A" .empty)
    [measured (some true) 12,measured (some true) 11,measured (some false) 10] := by
  refine (endsAtLastReadingsIff deployment.haversine "flight-A" .empty rfl _).mpr ?_
  refine Trace.meetsTake.mpr (fun n inside silent => ?_)
  cases n with
  | zero => cases silent
  | succ n =>
    cases n with
    | zero => cases silent
    | succ n =>
      cases n with
      | zero => cases silent
      | succ n =>
        simp only [List.length_cons,List.length_nil] at inside
        omega

theorem silentMessageMissed : ¬ Trace.Throughout
    (EndsAtLastReadings deployment.haversine "flight-A" .empty)
    [measured (some true) 12,measured none 11] := by
  intro good
  have last := good _ (List.prefix_refl _)
  cases last

end FlightMonitor.SegmentVoltage
