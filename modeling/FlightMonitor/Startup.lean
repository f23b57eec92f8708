import FlightMonitor.ForceClose
import FlightMonitor.Reporting

/-! The start of the service and the flag `finalize_to_api` (`run_pipeline` of `app/main.py`).
The flag decides whether a missing URL or a wrong certificate stops the start. None of the
three finalization paths reads it afterwards. -/
namespace FlightMonitor.Startup
open PyValue IsoTime

/-- What the arguments say, and the four variables that are read from the environment later. -/
structure Settings where
  apiCaCert : String
  apiServerCert : String
  apiServerKey : String
  finalizeToApi : Bool
  topic : String
  mqttTls : Bool
  mqttCaCert : String
  mqttClientCert : String
  mqttPrivateKey : String
  trackerFinalizedUrl : Option String
  environServerCert : Option String
  environServerKey : Option String
  environTrackerCa : Option String

structure Host where
  pathExists : String → Bool
  repr : String → String
  reprList : List String → String

def stripped (text : String) : String := String.ofList (strip text.toList)

namespace Settings

def ca (s : Settings) : String := stripped s.apiCaCert
def cert (s : Settings) : String := stripped s.apiServerCert
def key (s : Settings) : String := stripped s.apiServerKey
def outboundCert (s : Settings) : String := stripped (s.environServerCert.getD "")
def outboundKey (s : Settings) : String := stripped (s.environServerKey.getD "")
def outboundCa (s : Settings) : String := stripped (s.environTrackerCa.getD "")

def outboundPaths (s : Settings) : List String := [s.outboundCert,s.outboundKey,s.outboundCa]
def mqttPaths (s : Settings) : List String := [s.mqttCaCert,s.mqttClientCert,s.mqttPrivateKey]

end Settings

structure OutboundTls where
  caCertPath : Option String
  clientCertPath : Option String
  clientKeyPath : Option String
  deriving DecidableEq, Repr

def pathOrNone (path : String) : Option String := if path = "" then none else some path

def resolveOutboundTlsConfig (host : Host) (s : Settings) : Except PyError (Option OutboundTls) :=
  if ¬ (s.outboundCert ≠ "" ∨ s.outboundKey ≠ "" ∨ s.outboundCa ≠ "") then .ok none
  else if ¬ (s.outboundCert = "" ↔ s.outboundKey = "") then
    .error (.runtimeError ("Outbound mTLS is partially configured: API_SERVER_CERT_PATH " ++
      "and API_SERVER_KEY_PATH must be set together when presenting a client cert to SADE.  " ++
      "Got cert=" ++ host.repr s.outboundCert ++ " key=" ++ host.repr s.outboundKey ++ "."))
  else
    match s.outboundPaths.filter (fun p => decide (p ≠ "") && !host.pathExists p) with
    | [] => .ok (some ⟨pathOrNone s.outboundCa,pathOrNone s.outboundCert,pathOrNone s.outboundKey⟩)
    | missing => .error (.runtimeError ("Outbound mTLS cert path(s) not found on disk: " ++
        host.reprList missing ++ ".  Verify the bind-mount and path values."))

inductive Transport where
  | plainTcp
  | mutualTls (caCerts certfile keyfile : String)
  | genericTls
  deriving DecidableEq, Repr

def boolText (b : Bool) : String := if b then "True" else "False"

def configureTls (s : Settings) : Except PyError Transport :=
  let setCount := s.mqttPaths.countP (· ≠ "")
  if ¬ s.mqttTls then .ok .plainTcp
  else if setCount = 3 then .ok (.mutualTls s.mqttCaCert s.mqttClientCert s.mqttPrivateKey)
  else if setCount = 0 then .ok .genericTls
  else .error (.runtimeError ("MQTT mTLS configuration is incomplete. " ++
    "Set all three of MQTT_CA_CERT_PATH, MQTT_CLIENT_CERT_PATH, and " ++
    "MQTT_PRIVATE_KEY_PATH for AWS IoT Core, or leave all three unset " ++
    "for generic TLS using the system CA bundle. " ++
    "Currently set: ca_cert_path=" ++ boolText (s.mqttCaCert ≠ "") ++
    ", client_cert_path=" ++ boolText (s.mqttClientCert ≠ "") ++
    ", private_key_path=" ++ boolText (s.mqttPrivateKey ≠ "") ++ "."))

/-! The first stretch of `run_pipeline`. The CSV file is opened and the broker connected outside
of the model: `opened` and `connected` are what these calls come to. -/

def checkFinalization (host : Host) (s : Settings) : Except PyError Unit :=
  if s.finalizeToApi then do
    let _ ← getTrackerFinalizedUrl s.trackerFinalizedUrl
    let _ ← resolveOutboundTlsConfig host s
    .ok ()
  else .ok ()

def parseTopics (value : String) : List String :=
  (((value.toList.splitOn ',').map strip).filter (· ≠ [])).map String.ofList

def topicsMissing : PyError := .runtimeError
  "MQTT_TOPIC is empty.  Set at least one topic name (comma-separated for multiple)."

def startClient (s : Settings) (connected : Except PyError Unit) : Except PyError Transport :=
  if parseTopics s.topic = [] then .error topicsMissing
  else do
    let transport ← configureTls s
    connected
    .ok transport

def startPipeline (host : Host) (s : Settings) (opened connected : Except PyError Unit) :
    Except PyError Transport := do
  checkFinalization host s
  opened
  startClient s connected

def startService (host : Host) (s : Settings) (opened connected : Except PyError Unit) :
    Except PyError State := do
  let _ ← startPipeline host s opened connected
  .ok {}

theorem startedOff {host : Host} {s : Settings} (off : s.finalizeToApi = false)
    {opened connected : Except PyError Unit} {start : State} :
    startService host s opened connected = .ok start ↔
      opened = .ok () ∧ (∃ transport, startClient s connected = .ok transport) ∧ start = {} := by
  have checked : checkFinalization host s = .ok () := by simp [checkFinalization,off]
  unfold startService startPipeline
  rw [checked]
  cases opened <;> cases startClient s connected <;> simp [bind,Except.bind,eq_comm]

def runFrom (env : Env) (start : State) (events : List Event) : State :=
  Trace.final (step env) start events

theorem runFromConcat (env : Env) (start : State) (events : List Event) (e : Event) :
    runFrom env start (events ++ [e]) = step env (runFrom env start events) e :=
  Trace.finalConcat ..

structure Dormant (env : Env) (s : State) (e : Event) : Prop where
  stub : ∀ i f overrides, e.action = .stubFires i → s.stubs[i]? = some ⟨f,overrides,.sleeping⟩ →
    ∃ error, buildStubFinalizationPayload f overrides e.wall = .error error
  grace : ∀ i, e.action = .graceChecks i → silentSession s i e.loop = none
  sweep : ∀ strandedNow forceCloseNow, e.action = .sweep strandedNow forceCloseNow →
    scannedCandidates s e.wall strandedNow forceCloseNow = []

structure Resting (s : State) : Prop where
  posts : s.posts = []
  sweeper : s.sweeper = .sleeping

theorem postsIff {s : State} : s.posts = [] ↔ ∀ f, (s.view f).reports = [] := by
  constructor
  · intro none f
    simp [State.view,none]
  · intro none
    by_contra some
    obtain ⟨payload,mem⟩ := List.exists_mem_of_ne_nil _ some
    have kept : payload ∈ (s.view payload.flightSessionId).reports :=
      List.mem_filter.mpr ⟨mem,beq_self_eq_true _⟩
    rw [none] at kept
    cases kept

theorem dormantStub {env : Env} {s : State} {e : Event} (dormant : Dormant env s e) :
    stubReporting s e = none := by
  cases made : stubReporting s e with
  | none => rfl
  | some payload =>
    unfold stubReporting at made
    split at made
    · rename_i i acts
      split at made
      · rename_i f overrides found
        obtain ⟨error,refused⟩ := dormant.stub i f overrides acts found
        rw [refused] at made
        cases made
      · cases made
    · cases made

def quietAt (s : State) (e : Event) : Bool :=
  match e.action with
  | .stubFires _ => (stubReporting s e).isNone
  | .graceChecks i => (silentSession s i e.loop).isNone
  | .sweep strandedNow forceCloseNow =>
    (scannedCandidates s e.wall strandedNow forceCloseNow).isEmpty
  | _ => true

theorem quietIff {env : Env} {s : State} {e : Event} : quietAt s e = true ↔ Dormant env s e := by
  constructor
  · intro quiet
    refine ⟨?_,?_,?_⟩
    · intro i f overrides acts found
      simp only [quietAt,acts,stubReporting,found] at quiet
      cases built : buildStubFinalizationPayload f overrides e.wall with
      | error error => exact ⟨error,rfl⟩
      | ok payload => simp [built] at quiet
    · intro i acts
      simpa [quietAt,acts] using quiet
    · intro strandedNow forceCloseNow acts
      simpa [quietAt,acts] using quiet
  · intro dormant
    unfold quietAt
    split
    · rw [dormantStub dormant]
      rfl
    · rename_i i acts
      rw [dormant.grace i acts]
      rfl
    · rename_i strandedNow forceCloseNow acts
      rw [dormant.sweep strandedNow forceCloseNow acts]
      rfl
    · rfl

instance (env : Env) (s : State) (e : Event) : Decidable (Dormant env s e) :=
  decidable_of_iff _ quietIff

theorem dormantFinalizing {env : Env} {s : State} {e : Event} (resting : Resting s)
    (dormant : Dormant env s e) : finalizing env s e = [] := by
  unfold finalizing
  split
  · rename_i i acts
    rw [dormant.grace i acts]
    rfl
  · rename_i strandedNow forceCloseNow acts
    rw [resting.sweeper]
    dsimp only
    rw [dormant.sweep strandedNow forceCloseNow acts]
    rfl
  · rw [resting.sweeper]
  · rfl

theorem dormantPosts {env : Env} {s : State} {e : Event} (resting : Resting s)
    (dormant : Dormant env s e) : (step env s e).posts = [] := by
  refine postsIff.mpr (fun f => ?_)
  have before := postsIff.mp resting.posts f
  have none := dormantStub dormant
  have idle := dormantFinalizing resting dormant
  rw [stepView]
  have moved := stepMoved env s e f
  generalize moves env s e f = ms at moved ⊢
  cases moved with
  | stubReported made => rw [none] at made; cases made
  | scannedFinalized made taken => rw [idle] at taken; cases taken
  | finalized calm taken => rw [idle] at taken; cases taken
  | _ => exact before

theorem dormantSweeper {env : Env} {s : State} {e : Event} (resting : Resting s)
    (dormant : Dormant env s e) : (step env s e).sweeper = .sleeping := by
  obtain ⟨now,loop,action⟩ := e
  cases action with
  | sweep strandedNow forceCloseNow =>
    have none := dormant.sweep strandedNow forceCloseNow rfl
    simp only [scannedCandidates] at none
    simp only [step,sweep,resting.sweeper,none]
    rfl
  | sweeperPosted outcome =>
    simp only [step,sweeperPosted,resting.sweeper]
  | _ => exact ((stepFrame env s _).sweeper rfl).trans resting.sweeper

theorem sweepReaches (env : Env) {s : State} {e : Event} {strandedNow forceCloseNow : UtcTime}
    {f : String} {pending : List String} (resting : s.sweeper = .sleeping)
    (acts : e.action = .sweep strandedNow forceCloseNow)
    (found : scannedCandidates s e.wall strandedNow forceCloseNow = f :: pending) :
    f ∈ finalizing env s e ∧ (s.registry.getByFlightSessionId f).isSome := by
  constructor
  · simp only [finalizing,acts,resting,found,reached]
    split <;> simp
  · have candidate : f ∈ scannedCandidates s e.wall strandedNow forceCloseNow :=
      found ▸ List.mem_cons_self ..
    obtain ⟨record,active,-⟩ := ForceClose.memScannedCandidates.mp candidate
    change ((s.scanned e.wall strandedNow).view f).record = some record at active
    rw [scannedView] at active
    obtain ⟨old,registered,-⟩ := Option.map_eq_some_iff.mp active
    change (s.view f).record.isSome
    rw [registered]
    rfl

theorem wakingPosts {env : Env} {s : State} {e : Event} (resting : Resting s)
    (waking : ¬ Dormant env s e) : ∃ f, Reporting.Posts env f s e := by
  have loud : ¬ quietAt s e = true := fun quiet => waking (quietIff.mp quiet)
  unfold quietAt at loud
  split at loud
  · obtain ⟨payload,made⟩ := Option.ne_none_iff_exists'.mp (mt Option.isNone_iff_eq_none.mpr loud)
    exact ⟨payload.flightSessionId,.inl ⟨payload,made,rfl⟩⟩
  · rename_i i acts
    obtain ⟨f,silent⟩ := Option.ne_none_iff_exists'.mp (mt Option.isNone_iff_eq_none.mpr loud)
    exact ⟨f,.inr ⟨by simp [finalizing,acts,silent],.inl (silentIff.mp silent).1⟩⟩
  · rename_i strandedNow forceCloseNow acts
    cases found : scannedCandidates s e.wall strandedNow forceCloseNow with
    | nil => exact absurd (by rw [found]; rfl) loud
    | cons f pending =>
      obtain ⟨taken,active⟩ := sweepReaches env resting.sweeper acts found
      exact ⟨f,.inr ⟨taken,.inl active⟩⟩
  · exact absurd rfl loud

theorem postsNothingIffDormant (env : Env) (host : Host) (s : Settings)
    (opened connected : Except PyError Unit) (start : State) (off : s.finalizeToApi = false)
    (started : startService host s opened connected = .ok start) (events : List Event) :
    Trace.Throughout (fun before => (runFrom env start before).posts = []) events ↔
      Trace.Meets (fun before e => Dormant env (runFrom env start before) e) events := by
  obtain ⟨-,-,rfl⟩ := (startedOff off).mp started
  refine Trace.goodIffGuarded (fun before => Resting (runFrom env {} before)) ?_ ?_ ?_ ?_ events
  · exact ⟨rfl,rfl⟩
  · exact fun _ resting => resting.posts
  · intro before e resting dormant
    rw [runFromConcat]
    exact ⟨dormantPosts resting dormant,dormantSweeper resting dormant⟩
  · intro before e resting waking
    rw [runFromConcat]
    intro none
    obtain ⟨f,posts⟩ := wakingPosts resting waking
    have more := Reporting.postsReport posts
    rw [postsIff.mp none f] at more
    cases more

def localHost : Host := ⟨fun _ => false,fun text => text,fun texts => String.join texts⟩

def localSettings : Settings where
  apiCaCert := ""
  apiServerCert := ""
  apiServerKey := ""
  finalizeToApi := false
  topic := "update_drone"
  mqttTls := false
  mqttCaCert := ""
  mqttClientCert := ""
  mqttPrivateKey := ""
  trackerFinalizedUrl := deployment.trackerFinalizedUrl
  environServerCert := none
  environServerKey := none
  environTrackerCa := none

def arrival : Event := (Action.registerSession (.obj [("flight_session_id",.str "flight-A"),
  ("drone_id",.str "drone-1")])).at 8 18 0 0

def leaving : Event :=
  (Action.exitRequest (.obj [("flight_session_id",.str "flight-A")])).at 8 18 10 0

def hovering : List Event :=
  [arrival,(Action.onMessage "update_drone" droneMessage).at 8 18 5 0,
    Action.enqueueMessage.at 8 18 5 0,(Action.worker (.ok ())).at 8 18 5 0,leaving,
    (Action.graceStarts 0).at 8 18 10 0,(Action.graceChecks 0).at 8 18 12 30,
    (Action.sweep (march 8 18 13 0) (march 8 18 13 0)).at 8 18 13 0]

theorem hoveringPostsNothing :
    Trace.Throughout (fun before => (runFrom deployment {} before).posts = []) hovering :=
  (postsNothingIffDormant deployment localHost localSettings (.ok ()) (.ok ()) {} rfl rfl
    hovering).mpr (by decide +kernel)

def departure : List Event :=
  [arrival,leaving,(Action.graceStarts 0).at 8 18 10 0,(Action.graceChecks 0).at 8 18 15 0]

theorem departurePostsWithFlagOff : ¬ ∀ start,
    startService localHost localSettings (.ok ()) (.ok ()) = .ok start →
      Trace.Throughout (fun before => (runFrom deployment start before).posts = []) departure := by
  intro silent
  have none := silent {} rfl departure (List.prefix_refl _)
  exact absurd (congrArg List.isEmpty none) (by decide +kernel)

end FlightMonitor.Startup
