import FlightMonitor.Delimited
import FlightMonitor.Registry
import FlightMonitor.Tracker
import FlightMonitor.Trace

/-! The listener for approved entry sessions (`app/monitoring/entry_session_listener.py`). It keeps
the context of each entry request and registers a session once a status response approves it;
every session it has registered goes back to such a response and to the context kept then. -/
namespace FlightMonitor.EntrySessions
open PyValue IsoTime

structure EntryRequestContext where
  evaluationSeriesId : String
  droneId : Option String := none
  pilotId : Option String := none
  organizationId : Option String := none
  sadeZoneId : Option String := none
  requestedEntryTime : Option String := none
  requestedExitTime : Option String := none
  statusUrl : Option String := none
  notificationTopic : Option String := none
  requestPayload : Members := []
  receiptPayload : Members := []
  storedAt : String

structure EntrySessionListener where
  sessionRegistry : ActiveSessionRegistry := .empty
  contextsByEvaluationSeriesId : Dict String EntryRequestContext := .empty

def approvedDecisions : List String := ["APPROVED","APPROVED_CONSTRAINTS"]

section
variable (str : Json → String)

-- `str` of a text is the text; of other values it is the platform's.
def optionalStr (value : Json) : Option String :=
  match value with
  | .null => none
  | .str text => some (String.ofList (strip text.toList)) |>.filter (· ≠ "")
  | value => some (String.ofList (strip (str value).toList)) |>.filter (· ≠ "")

def optionalMember (members : Members) (key : String) : Option String :=
  optionalStr str (Json.member members key .null)

def notificationTopic (receipt : Members) : Json :=
  match Json.member receipt "notifications" .null with
  | .obj notifications =>
    match Json.member notifications "entry_request_updates" .null with
    | .obj updates => Json.member updates "topic" .null
    | _ => .null
  | _ => .null

def contextOf (request receipt : Members) (now : UtcTime) : Except PyError EntryRequestContext :=
  let missing := PyError.valueError "Acceptance receipt is missing evaluation_series_id"
  match Json.member receipt "evaluation_series_id" .null with
  | .str id =>
    if id = "" then .error missing else .ok {
      evaluationSeriesId := id
      droneId := optionalMember str request "drone_id"
      pilotId := optionalMember str request "pilot_id"
      organizationId := optionalMember str request "organization_id"
      sadeZoneId := optionalMember str request "sade_zone_id"
      requestedEntryTime := optionalMember str request "requested_entry_time"
      requestedExitTime := optionalMember str request "requested_exit_time"
      statusUrl := optionalMember str receipt "status_url"
      notificationTopic := optionalStr str (notificationTopic receipt)
      requestPayload := request
      receiptPayload := receipt
      storedAt := isoformat now.val }
  | _ => .error missing

def extractConstraints (entry : Members) : Option Members :=
  match Json.member entry "constraints" .null with
  | .obj members => some members
  | _ => none

def approvedSession (kept : String → Option EntryRequestContext) (response : Members)
    (given : Option EntryRequestContext) (now : UtcTime) : Option ActiveFlightSession :=
  match Json.member response "entry_request" .null with
  | .obj entry => do
    let seriesId ← optionalMember str entry "evaluation_series_id"
    let context := given.or (kept seriesId)
    let decision ← (optionalMember str entry "decision").filter (· ∈ approvedDecisions)
    let f ← optionalMember str entry "flight_session_id"
    some {
      flightSessionId := f
      evaluationSeriesId := seriesId
      droneId := context.bind EntryRequestContext.droneId
      pilotId := context.bind EntryRequestContext.pilotId
      organizationId := context.bind EntryRequestContext.organizationId
      sadeZoneId := context.bind EntryRequestContext.sadeZoneId
      decision := some decision
      requestedEntryTime := context.bind EntryRequestContext.requestedEntryTime
      requestedExitTime := context.bind EntryRequestContext.requestedExitTime
      statusUrl := context.bind EntryRequestContext.statusUrl
      notificationTopic := context.bind EntryRequestContext.notificationTopic
      constraints := extractConstraints entry
      sourcePayload := response
      registeredAt := isoformat now.val }
  | _ => none

namespace EntrySessionListener

def storeRequestContext (l : EntrySessionListener) (request receipt : Members) (now : UtcTime) :
    Except PyError EntrySessionListener := do
  let context ← contextOf str request receipt now
  .ok { l with contextsByEvaluationSeriesId :=
    l.contextsByEvaluationSeriesId.set context.evaluationSeriesId context }

def getRequestContext (l : EntrySessionListener) (seriesId : String) : Option EntryRequestContext :=
  l.contextsByEvaluationSeriesId.get seriesId

def dropRequestContext (l : EntrySessionListener) (seriesId : String) : EntrySessionListener :=
  { l with contextsByEvaluationSeriesId := l.contextsByEvaluationSeriesId.erase seriesId }

def processEntryStatusResponse (l : EntrySessionListener) (response : Members)
    (given : Option EntryRequestContext) (now : UtcTime) :
    Except PyError (EntrySessionListener × Option ActiveFlightSession) :=
  match approvedSession str l.getRequestContext response given now with
  | none => .ok (l,none)
  | some session => do
    let reg ← l.sessionRegistry.register session
    .ok ({ l with sessionRegistry := reg },some session)

end EntrySessionListener

inductive Operation where
  | store (request receipt : Members)
  | process (response : Members) (given : Option EntryRequestContext)
  | drop (seriesId : String)
  | complete (f : String)

structure Call where
  wall : UtcTime
  operation : Operation

-- A call that raises leaves the listener as it was.
def perform (l : EntrySessionListener) (c : Call) : EntrySessionListener :=
  match c.operation with
  | .store request receipt =>
    match l.storeRequestContext str request receipt c.wall with
    | .ok l => l
    | .error _ => l
  | .process response given =>
    match l.processEntryStatusResponse str response given c.wall with
    | .ok (l,_) => l
    | .error _ => l
  | .drop seriesId => l.dropRequestContext seriesId
  | .complete f => { l with sessionRegistry := l.sessionRegistry.complete f }

def listening (calls : List Call) : EntrySessionListener := Trace.final (perform str) {} calls

def noteKept (seriesId : String) (known : Option EntryRequestContext) (c : Call) :
    Option EntryRequestContext :=
  match c.operation with
  | .store request receipt =>
    match contextOf str request receipt c.wall with
    | .ok context => if context.evaluationSeriesId = seriesId then some context else known
    | .error _ => known
  | .drop dropped => if dropped = seriesId then none else known
  | .process .. | .complete _ => known

def kept (calls : List Call) (seriesId : String) : Option EntryRequestContext :=
  calls.foldl (noteKept str seriesId) none

def Approves (before : List Call) (c : Call) (s : ActiveFlightSession) : Prop :=
  ∃ response given, c.operation = .process response given ∧
    approvedSession str (kept str before) response given c.wall = some s

structure Backed (calls : List Call) (f : String) (s : ActiveFlightSession) : Prop where
  approved : ∃ before c rest, calls = before ++ c :: rest ∧ Approves str before c s ∧
    ∀ later ∈ rest, later.operation ≠ .complete f
  decision : ∃ d ∈ approvedDecisions, s.decision = some d
  named : s.flightSessionId = f ∧ f ≠ "" ∧ strip f.toList = f.toList

def Undisturbed (before : List Call) (f : String) (rest : List Call) : Prop :=
  Trace.Meets (fun early later => later.operation ≠ .complete f ∧
    ∀ s, Approves str (before ++ early) later s → s.flightSessionId ≠ f) rest

structure Listens (calls : List Call) : Prop where
  contexts : ∀ seriesId, (listening str calls).getRequestContext seriesId = kept str calls seriesId
  backed : ∀ f s, (listening str calls).sessionRegistry.getByFlightSessionId f = some s →
    Backed str calls f s
  held : ∀ before c rest s, calls = before ++ [c] ++ rest → Approves str before c s →
    (∃ reg, (listening str before).sessionRegistry.register s = .ok reg) →
    (∀ later ∈ rest, later.operation ≠ .complete s.flightSessionId) →
    (listening str calls).sessionRegistry.getByFlightSessionId s.flightSessionId ≠ none
  unchanged : ∀ before c rest s, calls = before ++ [c] ++ rest → Approves str before c s →
    (∃ reg, (listening str before).sessionRegistry.register s = .ok reg) →
    Undisturbed str (before ++ [c]) s.flightSessionId rest →
    (listening str calls).sessionRegistry.getByFlightSessionId s.flightSessionId = some s

variable {str}

@[simp] theorem listeningConcat (calls : List Call) (c : Call) :
    listening str (calls ++ [c]) = perform str (listening str calls) c := Trace.finalConcat ..

theorem keptConcat (calls : List Call) (c : Call) (seriesId : String) :
    kept str (calls ++ [c]) seriesId = noteKept str seriesId (kept str calls seriesId) c := by
  simp [kept,List.foldl_append]

theorem performContexts (l : EntrySessionListener) (c : Call) (seriesId : String) :
    (perform str l c).getRequestContext seriesId =
      noteKept str seriesId (l.getRequestContext seriesId) c := by
  obtain ⟨now,operation⟩ := c
  cases operation with
  | store request receipt =>
    simp only [perform,EntrySessionListener.storeRequestContext,noteKept]
    cases contextOf str request receipt now with
    | error e => rfl
    | ok context => exact Dict.getSet ..
  | process response given =>
    simp only [perform,EntrySessionListener.processEntryStatusResponse,noteKept]
    cases approvedSession str l.getRequestContext response given now with
    | none => rfl
    | some session =>
      dsimp only
      cases l.sessionRegistry.register session <;> rfl
  | drop dropped => exact Dict.getErase ..
  | complete f => rfl

theorem contextsKept (calls : List Call) :
    (listening str calls).getRequestContext = kept str calls := by
  funext seriesId
  induction calls using List.reverseRecOn with
  | nil => rfl
  | append_singleton calls c ih => rw [listeningConcat,performContexts,ih,keptConcat]

inductive Registers (str : Json → String) (l : EntrySessionListener) (c : Call) : ActiveSessionRegistry → Prop where
  | same (closes : ∀ f, c.operation ≠ .complete f) : Registers str l c l.sessionRegistry
  | approved (response : Members) (given : Option EntryRequestContext) (s : ActiveFlightSession)
      (act : c.operation = .process response given)
      (approval : approvedSession str l.getRequestContext response given c.wall = some s) :
      Registers str l c (l.sessionRegistry.store s)
  | completed (f : String) (act : c.operation = .complete f) :
      Registers str l c (l.sessionRegistry.complete f)

theorem performRegisters (str : Json → String) (l : EntrySessionListener) (c : Call) :
    Registers str l c (perform str l c).sessionRegistry := by
  obtain ⟨now,operation⟩ := c
  cases operation with
  | store request receipt =>
    simp only [perform,EntrySessionListener.storeRequestContext]
    cases contextOf str request receipt now <;> exact .same (by simp)
  | process response given =>
    simp only [perform,EntrySessionListener.processEntryStatusResponse]
    cases approval : approvedSession str l.getRequestContext response given now with
    | none => exact .same (by simp)
    | some session =>
      dsimp only
      rcases l.sessionRegistry.registerCases session with done | ⟨⟨text,refused⟩,-⟩
      · rw [done]
        exact .approved response given session rfl approval
      · rw [refused]
        exact .same (by simp)
  | drop dropped => exact .same (by simp)
  | complete f => exact .completed f rfl

theorem optionalStrNamed {value : Json} {text : String} (read : optionalStr str value = some text) :
    text ≠ "" ∧ strip text.toList = text.toList := by
  have stripped : ∀ plain : String,
      (some (String.ofList (strip plain.toList))).filter (· ≠ "") = some text →
      text ≠ "" ∧ strip text.toList = text.toList := by
    intro plain read
    obtain ⟨same,filled⟩ := Option.filter_eq_some_iff.mp read
    cases same
    refine ⟨by simpa using filled,?_⟩
    rw [String.toList_ofList]
    exact Delimited.trimTwice plain.toList
  cases value with
  | null => cases read
  | _ => exact stripped _ read

theorem approvedNamed {known : String → Option EntryRequestContext} {response : Members}
    {given : Option EntryRequestContext} {now : UtcTime} {s : ActiveFlightSession}
    (approval : approvedSession str known response given now = some s) :
    (∃ d ∈ approvedDecisions, s.decision = some d) ∧ s.flightSessionId ≠ "" ∧
      strip s.flightSessionId.toList = s.flightSessionId.toList := by
  unfold approvedSession at approval
  split at approval
  · rename_i entry _
    obtain ⟨seriesId,-,approval⟩ := Option.bind_eq_some_iff.mp approval
    obtain ⟨decision,approves,approval⟩ := Option.bind_eq_some_iff.mp approval
    obtain ⟨f,named,done⟩ := Option.bind_eq_some_iff.mp approval
    cases done
    have among := (Option.filter_eq_some_iff.mp approves).2
    exact ⟨⟨decision,by simpa using among,rfl⟩,optionalStrNamed named⟩
  · cases approval

theorem backedConcat {calls : List Call} {c : Call} {f : String} {s : ActiveFlightSession}
    (backed : Backed str calls f s) (open_ : c.operation ≠ .complete f) :
    Backed str (calls ++ [c]) f s := by
  obtain ⟨⟨before,x,rest,rfl,approves,stands⟩,decision,named⟩ := backed
  refine ⟨⟨before,x,rest ++ [c],by simp,approves,?_⟩,decision,named⟩
  intro later mem
  rcases List.mem_append.mp mem with early | last
  · exact stands later early
  · rw [List.mem_singleton.mp last]
    exact open_

theorem sessionsBacked (calls : List Call) (f : String) (s : ActiveFlightSession)
    (active : (listening str calls).sessionRegistry.getByFlightSessionId f = some s) :
    Backed str calls f s := by
  induction calls using List.reverseRecOn with
  | nil => cases active
  | append_singleton calls c ih =>
    rw [listeningConcat] at active
    have registers := performRegisters str (listening str calls) c
    generalize (perform str (listening str calls) c).sessionRegistry = reg at registers active
    have before : (listening str calls).sessionRegistry.getByFlightSessionId f = some s →
        c.operation ≠ .complete f → Backed str (calls ++ [c]) f s :=
      fun active stays => backedConcat (ih active) stays
    cases registers with
    | same closes => exact before active (closes f)
    | approved response given session act approval =>
      rw [ActiveSessionRegistry.getStore] at active
      split at active
      · rename_i own
        cases active
        rw [contextsKept] at approval
        obtain ⟨decision,named⟩ := approvedNamed approval
        exact ⟨⟨calls,c,[],rfl,⟨response,given,act,approval⟩,by simp⟩,decision,own,own ▸ named⟩
      · exact before active (by rw [act]; simp)
    | completed g act =>
      rw [ActiveSessionRegistry.getComplete] at active
      split at active
      · cases active
      · rename_i other
        refine before active ?_
        rw [act]
        simpa using other

theorem approvedStays {calls : List Call} {f : String}
    (active : (listening str calls).sessionRegistry.getByFlightSessionId f ≠ none)
    {rest : List Call} (stands : ∀ later ∈ rest, later.operation ≠ .complete f) :
    (listening str (calls ++ rest)).sessionRegistry.getByFlightSessionId f ≠ none := by
  induction rest using List.reverseRecOn with
  | nil => rwa [List.append_nil]
  | append_singleton rest c ih =>
    have before := ih (fun later mem => stands later (List.mem_append_left _ mem))
    have last := stands c (by simp)
    rw [← List.append_assoc,listeningConcat]
    have registers := performRegisters str (listening str (calls ++ rest)) c
    generalize (perform str (listening str (calls ++ rest)) c).sessionRegistry = reg at registers ⊢
    cases registers with
    | same => exact before
    | approved response given session =>
      rw [ActiveSessionRegistry.getStore]
      split
      · simp
      · exact before
    | completed g act =>
      rw [ActiveSessionRegistry.getComplete,if_neg]
      · exact before
      · rintro rfl
        exact last act

theorem approvedUnchanged {calls : List Call} {f : String} {s : ActiveFlightSession}
    (active : (listening str calls).sessionRegistry.getByFlightSessionId f = some s)
    {rest : List Call} (undisturbed : Undisturbed str calls f rest) :
    (listening str (calls ++ rest)).sessionRegistry.getByFlightSessionId f = some s := by
  induction rest using List.reverseRecOn with
  | nil => rwa [List.append_nil]
  | append_singleton rest c ih =>
    obtain ⟨early,open_,other⟩ := Trace.meetsConcat.mp undisturbed
    have before := ih early
    rw [← List.append_assoc,listeningConcat]
    have registers := performRegisters str (listening str (calls ++ rest)) c
    generalize (perform str (listening str (calls ++ rest)) c).sessionRegistry = reg at registers ⊢
    cases registers with
    | same => exact before
    | approved response given session act approval =>
      rw [contextsKept] at approval
      rw [ActiveSessionRegistry.getStore,if_neg (other session ⟨response,given,act,approval⟩)]
      exact before
    | completed g act =>
      rw [ActiveSessionRegistry.getComplete,if_neg]
      · exact before
      · rintro rfl
        exact open_ act

theorem approvedRegisters {before : List Call} {c : Call} {s : ActiveFlightSession}
    (approves : Approves str before c s)
    (accepted : ∃ reg, (listening str before).sessionRegistry.register s = .ok reg) :
    (listening str (before ++ [c])).sessionRegistry.getByFlightSessionId s.flightSessionId =
      some s := by
  obtain ⟨response,given,act,approval⟩ := approves
  obtain ⟨reg,accepted⟩ := accepted
  obtain ⟨now,operation⟩ := c
  cases act
  rw [← contextsKept] at approval
  rw [listeningConcat]
  simp only [perform,EntrySessionListener.processEntryStatusResponse,approval,accepted]
  rcases ActiveSessionRegistry.registerCases (listening str before).sessionRegistry s with
    done | ⟨⟨text,refused⟩,-⟩
  · cases done.symm.trans accepted
    change ((listening str before).sessionRegistry.store s).getByFlightSessionId _ = some s
    simp
  · rw [refused] at accepted
    cases accepted

theorem listensFaithfully (str : Json → String) (calls : List Call) : Listens str calls := by
  refine ⟨congrFun (contextsKept calls),sessionsBacked calls,?_,?_⟩
  · rintro before c rest s rfl approves accepted stands
    have registered := approvedRegisters approves accepted
    exact approvedStays (by rw [registered]; exact Option.some_ne_none s) stands
  · rintro before c rest s rfl approves accepted undisturbed
    exact approvedUnchanged (approvedRegisters approves accepted) undisturbed

end

end FlightMonitor.EntrySessions
