import FlightMonitor.PyValue

/-! The registry of active flight sessions (`app/monitoring/active_session_registry.py`).
Both dictionaries are kept as the source keeps them; that every record is filed under
its own `flight_session_id` is the one fact about them that no caller can break. -/
namespace FlightMonitor
open PyValue

structure ActiveFlightSession where
  flightSessionId : String
  evaluationSeriesId : String := ""
  droneId : Option String := none
  pilotId : Option String := none
  organizationId : Option String := none
  sadeZoneId : Option String := none
  decision : Option String := none
  requestedEntryTime : Option String := none
  requestedExitTime : Option String := none
  statusUrl : Option String := none
  notificationTopic : Option String := none
  sessionSource : String := "aws"
  constraints : Option (List (String × Json)) := none
  requestedOperation : Option (List (String × Json)) := none
  testOverrides : Option (List (String × Json)) := none
  submittedAt : Option String := none
  sourcePayload : List (String × Json) := []
  registeredAt : String
  exitRequestedAt : Option String := none
  exitDeadlineBreachedAt : Option String := none
  strandedFlaggedAt : Option String := none

def ActiveFlightSession.droneKey (s : ActiveFlightSession) : Option String :=
  s.droneId.filter (· ≠ "")

structure ActiveSessionRegistry where
  sessionsByFlightSessionId : Dict String ActiveFlightSession
  flightSessionIdByDroneId : Dict String String
  filed : ∀ f s, sessionsByFlightSessionId.get f = some s → s.flightSessionId = f

namespace ActiveSessionRegistry

def empty : ActiveSessionRegistry := ⟨Dict.empty,Dict.empty,by simp⟩

def getByFlightSessionId (reg : ActiveSessionRegistry) (f : String) : Option ActiveFlightSession :=
  reg.sessionsByFlightSessionId.get f

def indexed (reg : ActiveSessionRegistry) (drone : String) : Option String :=
  reg.flightSessionIdByDroneId.get drone

def getByDroneId (reg : ActiveSessionRegistry) (drone : String) : Option ActiveFlightSession :=
  match reg.indexed drone with
  | none => none
  | some f => reg.getByFlightSessionId f

def store (reg : ActiveSessionRegistry) (session : ActiveFlightSession) : ActiveSessionRegistry where
  sessionsByFlightSessionId := reg.sessionsByFlightSessionId.set session.flightSessionId session
  flightSessionIdByDroneId := match session.droneKey with
    | some drone => reg.flightSessionIdByDroneId.set drone session.flightSessionId
    | none => reg.flightSessionIdByDroneId
  filed := by
    intro f s found
    rw [Dict.getSet] at found
    split at found
    · cases found; assumption
    · exact reg.filed f s found

def register (reg : ActiveSessionRegistry) (session : ActiveFlightSession) :
    Except PyError ActiveSessionRegistry :=
  match reg.getByFlightSessionId session.flightSessionId with
  | some _ => .ok (reg.store session)
  | none =>
    match session.droneKey with
    | none => .ok (reg.store session)
    | some drone =>
      match reg.indexed drone with
      | none => .ok (reg.store session)
      | some active =>
        if active ≠ session.flightSessionId then
          .error (.valueError
            ("Drone " ++ drone ++ " already has active flight session " ++ active))
        else .ok (reg.store session)

-- The record `ensure_local_session` builds; the two identifiers are fresh UUIDs.
def syntheticSession (drone flightUuid evalUuid registeredAt : String) : ActiveFlightSession where
  flightSessionId := "local-flight-" ++ flightUuid
  evaluationSeriesId := "local-eval-" ++ evalUuid
  droneId := some drone
  decision := some "LOCAL_TEST_SESSION"
  sessionSource := "local"
  sourcePayload := [("created_by",.str "ActiveSessionRegistry.ensure_local_session"),
    ("reason",.str "Local telemetry auto-session enabled")]
  registeredAt := registeredAt

def ensureLocalSession (reg : ActiveSessionRegistry)
    (drone flightUuid evalUuid registeredAt : String) :
    Except PyError (ActiveSessionRegistry × ActiveFlightSession) :=
  match reg.getByDroneId drone with
  | some existing => .ok (reg,existing)
  | none => do
      let session := syntheticSession drone flightUuid evalUuid registeredAt
      let reg ← reg.register session
      .ok (reg,session)

def releasedIndex (reg : ActiveSessionRegistry) (f : String) : Dict String String :=
  match reg.getByFlightSessionId f with
  | none => reg.flightSessionIdByDroneId
  | some session =>
    match session.droneId with
    | none => reg.flightSessionIdByDroneId
    | some drone =>
      if reg.indexed drone = some f then reg.flightSessionIdByDroneId.erase drone
      else reg.flightSessionIdByDroneId

def complete (reg : ActiveSessionRegistry) (f : String) : ActiveSessionRegistry where
  sessionsByFlightSessionId := reg.sessionsByFlightSessionId.erase f
  flightSessionIdByDroneId := reg.releasedIndex f
  filed := by
    intro g s found
    rw [Dict.getErase] at found
    split at found
    · cases found
    · exact reg.filed g s found

def snapshot (reg : ActiveSessionRegistry) : Dict String ActiveFlightSession :=
  reg.sessionsByFlightSessionId

def count (reg : ActiveSessionRegistry) : Nat := reg.sessionsByFlightSessionId.size

def countPastDeadline (reg : ActiveSessionRegistry) : Nat :=
  reg.sessionsByFlightSessionId.values.countP (fun s => s.exitDeadlineBreachedAt.isSome)

def countStranded (reg : ActiveSessionRegistry) : Nat :=
  reg.sessionsByFlightSessionId.values.countP (fun s => s.strandedFlaggedAt.isSome)

/-- Assignments to fields of the records in place, as a loop over `snapshot().values()`
makes them. The identifier is not among the fields the source assigns to. -/
def mapSessions (reg : ActiveSessionRegistry) (f : ActiveFlightSession → ActiveFlightSession)
    (same : ∀ s, (f s).flightSessionId = s.flightSessionId) : ActiveSessionRegistry where
  sessionsByFlightSessionId := reg.sessionsByFlightSessionId.mapValues (fun _ s => f s)
  flightSessionIdByDroneId := reg.flightSessionIdByDroneId
  filed := by
    intro g s found
    rw [Dict.getMapValues,Option.map_eq_some_iff] at found
    obtain ⟨s,found,rfl⟩ := found
    exact (same s).trans (reg.filed g s found)

def modifySession (reg : ActiveSessionRegistry) (f : String)
    (change : ActiveFlightSession → ActiveFlightSession)
    (same : ∀ s, (change s).flightSessionId = s.flightSessionId) : ActiveSessionRegistry :=
  reg.mapSessions (fun s => if s.flightSessionId = f then change s else s)
    (by intro s; split <;> simp [same])

@[simp] theorem getEmpty (f : String) : empty.getByFlightSessionId f = none := rfl

@[simp] theorem indexedEmpty (d : String) : empty.indexed d = none := rfl

@[simp] theorem getStore (reg : ActiveSessionRegistry) (session : ActiveFlightSession) (f : String) :
    (reg.store session).getByFlightSessionId f =
      if session.flightSessionId = f then some session else reg.getByFlightSessionId f :=
  Dict.getSet ..

theorem indexedStore (reg : ActiveSessionRegistry) (session : ActiveFlightSession) (d : String) :
    (reg.store session).indexed d =
      if session.droneKey = some d then some session.flightSessionId else reg.indexed d := by
  simp only [indexed,store]
  cases session.droneKey with
  | none => simp
  | some drone => simp

@[simp] theorem getComplete (reg : ActiveSessionRegistry) (f g : String) :
    (reg.complete f).getByFlightSessionId g =
      if f = g then none else reg.getByFlightSessionId g := Dict.getErase ..

theorem indexedComplete (reg : ActiveSessionRegistry) (f d : String) :
    (reg.complete f).indexed d =
      if reg.indexed d = some f ∧
        (∃ s, reg.getByFlightSessionId f = some s ∧ s.droneId = some d) then none
      else reg.indexed d := by
  simp only [indexed,complete,releasedIndex]
  cases reg.getByFlightSessionId f with
  | none => simp
  | some session =>
    cases hd : session.droneId with
    | none => simp [hd]
    | some drone =>
      by_cases same : drone = d
      · subst d
        by_cases own : reg.flightSessionIdByDroneId.get drone = some f <;> simp [hd,own]
      · by_cases own : reg.flightSessionIdByDroneId.get drone = some f <;> simp [hd,own,same]

theorem recordFiled {reg : ActiveSessionRegistry} {f : String} {s : ActiveFlightSession}
    (found : reg.getByFlightSessionId f = some s) : s.flightSessionId = f := reg.filed f s found

@[simp] theorem getMapSessions (reg : ActiveSessionRegistry)
    (change : ActiveFlightSession → ActiveFlightSession) (same) (f : String) :
    (reg.mapSessions change same).getByFlightSessionId f =
      (reg.getByFlightSessionId f).map change := Dict.getMapValues ..

@[simp] theorem getModifySession (reg : ActiveSessionRegistry) (f g : String)
    (change : ActiveFlightSession → ActiveFlightSession) (same) :
    (reg.modifySession f change same).getByFlightSessionId g =
      if f = g then (reg.getByFlightSessionId g).map change else reg.getByFlightSessionId g := by
  rw [modifySession,getMapSessions]
  cases found : reg.getByFlightSessionId g with
  | none => simp
  | some s =>
    have filed := recordFiled found
    by_cases here : g = f
    · simp [filed,here]
    · simp [filed,here,Ne.symm here]

theorem registerCases (reg : ActiveSessionRegistry) (session : ActiveFlightSession) :
    (reg.register session = .ok (reg.store session)) ∨
    (∃ text, reg.register session = .error (.valueError text)) ∧
      reg.getByFlightSessionId session.flightSessionId = none ∧
      ∃ drone active, session.droneKey = some drone ∧ reg.indexed drone = some active ∧
        active ≠ session.flightSessionId := by
  unfold register
  cases reg.getByFlightSessionId session.flightSessionId with
  | some old => exact .inl rfl
  | none =>
    cases session.droneKey with
    | none => exact .inl rfl
    | some drone =>
      cases own : reg.indexed drone with
      | none => exact .inl (by simp [own])
      | some active =>
        by_cases other : active = session.flightSessionId
        · exact .inl (by simp [own,other])
        · exact .inr ⟨⟨_,by simp only [own]; exact if_pos other⟩,rfl,drone,active,rfl,own,other⟩

theorem memSnapshot {reg : ActiveSessionRegistry} {s : ActiveFlightSession} :
    s ∈ reg.snapshot.values ↔ reg.getByFlightSessionId s.flightSessionId = some s := by
  rw [snapshot,Dict.memValues]
  constructor
  · intro stored
    obtain ⟨f,found⟩ := stored
    rw [reg.filed f s found]; exact found
  · intro found; exact ⟨_,found⟩

end ActiveSessionRegistry
end FlightMonitor
