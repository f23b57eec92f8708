import FlightMonitor.Finalizer
import FlightMonitor.Registry

/-! The two webhook bodies and their processing (`app/api/approval_handler.py` and
`app/api/exit_handler.py`). A model reads each field by its own name and ignores all
other members of the body. -/
namespace FlightMonitor
open PyValue IsoTime

inductive FieldError where
  | notAnObject
  | missing (field : String)
  | stringType (field : String)
  | dictType (field : String)
  deriving DecidableEq, Repr

def readStr (body : Members) (field : String) : Except FieldError String :=
  match Dict.lookup field body with
  | some (.str text) => .ok text
  | some _ => .error (.stringType field)
  | none => .error (.missing field)

def readOptStr (body : Members) (field : String) : Except FieldError (Option String) :=
  match Dict.lookup field body with
  | some (.str text) => .ok (some text)
  | some .null | none => .ok none
  | some _ => .error (.stringType field)

def readOptDict (body : Members) (field : String) : Except FieldError (Option Members) :=
  match Dict.lookup field body with
  | some (.obj members) => .ok (some members)
  | some .null | none => .ok none
  | some _ => .error (.dictType field)

structure RegisterSessionPayload where
  flightSessionId : String
  pilotId : Option String
  droneId : Option String
  organizationId : Option String
  sadeZoneId : Option String
  requestedEntryTime : Option String
  requestedExitTime : Option String
  requestedOperation : Option Members
  testOverrides : Option Members
  submittedAt : Option String

def optStr : Option String → Json
  | some text => .str text
  | none => .null

def optDict : Option Members → Json
  | some members => .obj members
  | none => .null

def RegisterSessionPayload.modelDump (p : RegisterSessionPayload) : Members :=
  [("flight_session_id",.str p.flightSessionId),("pilot_id",optStr p.pilotId),
    ("drone_id",optStr p.droneId),("organization_id",optStr p.organizationId),
    ("sade_zone_id",optStr p.sadeZoneId),("requested_entry_time",optStr p.requestedEntryTime),
    ("requested_exit_time",optStr p.requestedExitTime),
    ("requested_operation",optDict p.requestedOperation),
    ("test_overrides",optDict p.testOverrides),("submitted_at",optStr p.submittedAt)]

-- Validation of the request body; the first error stands for the 422 answer.
def decodeRegisterSession : Json → Except FieldError RegisterSessionPayload
  | .obj body => do
      let flightSessionId ← readStr body "flight_session_id"
      let pilotId ← readOptStr body "pilot_id"
      let droneId ← readOptStr body "drone_id"
      let organizationId ← readOptStr body "organization_id"
      let sadeZoneId ← readOptStr body "sade_zone_id"
      let requestedEntryTime ← readOptStr body "requested_entry_time"
      let requestedExitTime ← readOptStr body "requested_exit_time"
      let requestedOperation ← readOptDict body "requested_operation"
      let testOverrides ← readOptDict body "test_overrides"
      let submittedAt ← readOptStr body "submitted_at"
      .ok ⟨flightSessionId,pilotId,droneId,organizationId,sadeZoneId,requestedEntryTime,
        requestedExitTime,requestedOperation,testOverrides,submittedAt⟩
  | _ => .error .notAnObject

inductive RegisterResult where
  | registered (flightSessionId : String) (droneId : Option String)
  | rejected (reason flightSessionId : String)
  deriving DecidableEq, Repr

def RegisterSessionPayload.session (p : RegisterSessionPayload) (now : UtcTime) :
    ActiveFlightSession where
  flightSessionId := p.flightSessionId
  droneId := p.droneId
  pilotId := p.pilotId
  organizationId := p.organizationId
  sadeZoneId := p.sadeZoneId
  decision := some "REGISTERED"
  requestedEntryTime := p.requestedEntryTime
  requestedExitTime := p.requestedExitTime
  requestedOperation := p.requestedOperation
  testOverrides := p.testOverrides
  submittedAt := p.submittedAt
  sessionSource := "aws"
  sourcePayload := p.modelDump
  registeredAt := isoformat now.val

def processRegisterSession (p : RegisterSessionPayload) (reg : ActiveSessionRegistry)
    (now : UtcTime) : ActiveSessionRegistry × RegisterResult :=
  match reg.register (p.session now) with
  | .ok reg => (reg,.registered p.flightSessionId p.droneId)
  | .error (.valueError reason) => (reg,.rejected reason p.flightSessionId)
  | .error _ => (reg,.rejected "" p.flightSessionId)

structure ExitRequestPayload where
  flightSessionId : String
  reason : Option String
  requestedAt : Option String

def decodeExitRequest : Json → Except FieldError ExitRequestPayload
  | .obj body => do
      let flightSessionId ← readStr body "flight_session_id"
      let reason ← readOptStr body "reason"
      let requestedAt ← readOptStr body "requested_at"
      .ok ⟨flightSessionId,reason,requestedAt⟩
  | _ => .error .notAnObject

inductive ExitResult where
  | accepted (flightSessionId : String) (droneId : Option String) (message : String)
  | notFound (flightSessionId message : String)
  deriving DecidableEq, Repr

def ExitRequestPayload.stamp (p : ExitRequestPayload) (now : UtcTime) : String :=
  match p.requestedAt with
  | some stamp => if stamp = "" then isoformat now.val else stamp
  | none => isoformat now.val

def ActiveFlightSession.stampExit (requestedAt : String) (s : ActiveFlightSession) :
    ActiveFlightSession :=
  match s.exitRequestedAt with
  | none => { s with exitRequestedAt := some requestedAt }
  | some _ => s

def DroneState.stampExit (requestedAt reason : String) (s : DroneState) : DroneState :=
  match s.exitRequestedAt with
  | none => { s with exitRequestedAt := some requestedAt, exitReason := some reason }
  | some _ => s

theorem recordStamped (requestedAt : String) (s : ActiveFlightSession) : ∃ at_,
    s.stampExit requestedAt = { s with exitRequestedAt := at_ } := by
  unfold ActiveFlightSession.stampExit
  split <;> exact ⟨_,rfl⟩

theorem liveStamped (requestedAt reason : String) (s : DroneState) : ∃ at_ why,
    s.stampExit requestedAt reason = { s with exitRequestedAt := at_, exitReason := why } := by
  unfold DroneState.stampExit
  split <;> exact ⟨_,_,rfl⟩

theorem stampExitSession (requestedAt : String) (s : ActiveFlightSession) :
    (s.stampExit requestedAt).flightSessionId = s.flightSessionId := by
  obtain ⟨at_,same⟩ := recordStamped requestedAt s
  rw [same]

theorem stampExitState (requestedAt reason : String) (s : DroneState) :
    (s.stampExit requestedAt reason).flightSessionId = s.flightSessionId ∧
    (s.stampExit requestedAt reason).lastSeen = s.lastSeen := by
  obtain ⟨at_,why,same⟩ := liveStamped requestedAt reason s
  rw [same]
  exact ⟨rfl,rfl⟩

def mirrorExit (tracker : DroneStateTracker) (f requestedAt reason : String) : DroneStateTracker :=
  match tracker.get f with
  | some state => tracker.put (state.stampExit requestedAt reason)
  | none => tracker

def processExitRequest (p : ExitRequestPayload) (reg : ActiveSessionRegistry)
    (tracker : DroneStateTracker) (now : UtcTime) :
    ActiveSessionRegistry × DroneStateTracker × ExitResult :=
  let f := p.flightSessionId
  match reg.getByFlightSessionId f with
  | none => (reg,tracker,.notFound f "No active session found for this flight_session_id.")
  | some session =>
    (reg.modifySession f (ActiveFlightSession.stampExit (p.stamp now)) (stampExitSession _),
      mirrorExit tracker f (p.stamp now) (reasonOr p.reason),
      .accepted f session.droneId
        ("Exit request accepted. " ++
          "Finalization report will be sent to SADE after grace period."))

theorem getMirrorExit (tracker : DroneStateTracker) (f g requestedAt reason : String) :
    (mirrorExit tracker f requestedAt reason).get g =
      if f = g then (tracker.get g).map (DroneState.stampExit requestedAt reason)
      else tracker.get g := by
  unfold mirrorExit
  cases found : tracker.get f with
  | none =>
    by_cases same : f = g
    · subst g; simp [found]
    · simp [same]
  | some state =>
    have filed := DroneStateTracker.stateFiled found
    rw [DroneStateTracker.getPut,(stampExitState ..).1,filed]
    split
    · rename_i same; subst g; rw [found]; rfl
    · rfl

end FlightMonitor
