import FlightMonitor.Tracker
import FlightMonitor.Trace

/-! A sequence of updates of one session. An update reads and writes the live state of its own
session only; `Updated` says what it leaves, and whether it returns: it can raise before anything
is stored, or at the distance. -/
namespace FlightMonitor.Updates
open PyValue IsoTime

abbrev Update := Telemetry × UtcTime

def Update.stamp (u : Update) : String := u.1.observedAt u.2

inductive Updated (haversine : Haversine) (f : String) (live : Option DroneState) (u : Update) :
    Option DroneState → Bool → Prop where
  | refused (e : PyError) (read : u.1.readings = .error e) : Updated haversine f live u live false
  | created (altitude voltage : Option PyFloat) (read : u.1.readings = .ok (altitude,voltage))
      (fresh : live = none) :
      Updated haversine f live u (some (handleArmState
        (u.1.create f u.stamp altitude voltage) u.1.armed u.stamp voltage)) true
  | broken (altitude voltage : Option PyFloat) (read : u.1.readings = .ok (altitude,voltage))
      (existing : DroneState) (found : live = some existing) (e : PyError)
      (failed : leg haversine existing.position u.1.position = .error e) :
      Updated haversine f live u (some (u.1.receive existing u.stamp)) false
  | recorded (altitude voltage : Option PyFloat) (read : u.1.readings = .ok (altitude,voltage))
      (existing : DroneState) (found : live = some existing) (metres : Option PyFloat)
      (flown : leg haversine existing.position u.1.position = .ok metres) :
      Updated haversine f live u (some (handleArmState
        (u.1.accumulate (u.1.receive existing u.stamp) metres altitude voltage) u.1.armed u.stamp
        voltage)) true

def absorb (haversine : Haversine) (f : String) (tracker : DroneStateTracker) (u : Update) :
    DroneStateTracker := (tracker.update haversine f u.1 u.2).1

def returns (haversine : Haversine) (f : String) (tracker : DroneStateTracker) (u : Update) :
    Bool := (tracker.update haversine f u.1 u.2).2.isOk

def absorbed (haversine : Haversine) (f : String) (tracker : DroneStateTracker)
    (updates : List Update) : DroneStateTracker :=
  Trace.final (absorb haversine f) tracker updates

@[simp] theorem absorbedNil (haversine : Haversine) (f : String) (tracker : DroneStateTracker) :
    absorbed haversine f tracker [] = tracker := rfl

@[simp] theorem absorbedConcat (haversine : Haversine) (f : String) (tracker : DroneStateTracker)
    (updates : List Update) (u : Update) : absorbed haversine f tracker (updates ++ [u]) =
      absorb haversine f (absorbed haversine f tracker updates) u := Trace.finalConcat ..

theorem absorbUpdated (haversine : Haversine) (f : String) (tracker : DroneStateTracker)
    (u : Update) : Updated haversine f (tracker.get f) u ((absorb haversine f tracker u).get f)
      (returns haversine f tracker u) := by
  unfold absorb returns DroneStateTracker.update
  cases read : u.1.readings with
  | error e => exact .refused e read
  | ok r =>
    obtain ⟨altitude,voltage⟩ := r
    cases found : tracker.get f with
    | none =>
      simp only [DroneStateTracker.getPut,handleArmStateFlightSessionId,Telemetry.create,if_true]
      exact .created altitude voltage read rfl
    | some existing =>
      have filed := DroneStateTracker.stateFiled found
      cases flown : leg haversine existing.position u.1.position with
      | error e =>
        have own : (u.1.receive existing (u.1.observedAt u.2)).flightSessionId = f := filed
        simp only [DroneStateTracker.getPut,flown]
        rw [if_pos own]
        exact .broken altitude voltage read existing rfl e flown
      | ok metres =>
        have own : (u.1.accumulate (u.1.receive existing (u.1.observedAt u.2)) metres altitude
          voltage).flightSessionId = f := filed
        simp only [DroneStateTracker.getPut,flown,handleArmStateFlightSessionId]
        rw [if_pos own]
        exact .recorded altitude voltage read existing rfl metres flown

theorem armStateFields (s : DroneState) (armed : Option Bool) (stamp : String)
    (voltage : Option PyFloat) : ∃ segments lastArmed seen, handleArmState s armed stamp voltage =
      { s with segments := segments, lastArmed := lastArmed, armedFieldSeen := seen } := by
  cases armed with
  | none => exact ⟨_,_,_,rfl⟩
  | some armed => exact ⟨_,_,_,rfl⟩

end FlightMonitor.Updates
