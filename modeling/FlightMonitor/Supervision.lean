import FlightMonitor.Startup

/-! The process around the pipeline: `run_service` and `main` of `app/main.py`, over the
certificate settings of its three connections. The pipeline is a task beside the server. When it
fails, a callback tells the server to stop, and the failure becomes the status of the process. -/
namespace FlightMonitor.Supervision
open PyValue Startup

structure ApiTls where
  sslKeyfile : String
  sslCertfile : String
  sslCaCerts : String
  deriving DecidableEq, Repr

def resolveApiTlsConfig (host : Host) (s : Settings) : Except PyError (Option ApiTls) :=
  if ¬ (s.cert = "" ↔ s.key = "") then
    .error (.runtimeError ("API_SERVER_CERT_PATH and API_SERVER_KEY_PATH must be set " ++
      "together — they form the Flight Monitor's identity certificate.  " ++
      "Got cert=" ++ host.repr s.cert ++ " key=" ++ host.repr s.key ++ "."))
  else if s.ca ≠ "" ∧ ¬ (s.cert ≠ "" ∧ s.key ≠ "") then
    .error (.runtimeError ("API_CA_CERT_PATH is set but API_SERVER_CERT_PATH and " ++
      "API_SERVER_KEY_PATH are not.  Inbound mTLS requires all three.  " ++
      "Got ca=" ++ host.repr s.ca ++ " cert=" ++ host.repr s.cert ++ " key=" ++ host.repr s.key ++ "."))
  else if ¬ (s.ca ≠ "" ∧ s.cert ≠ "" ∧ s.key ≠ "") then .ok none
  else
    match [s.ca,s.cert,s.key].filter (fun p => !host.pathExists p) with
    | [] => .ok (some ⟨s.key,s.cert,s.ca⟩)
    | missing => .error (.runtimeError ("API mTLS cert path(s) not found on disk: " ++
        host.reprList missing ++ ".  Verify the bind-mount and path values."))

inductive PipelineTask where
  | pending
  | up
  | closing
  | cancelled (began : Bool)
  | failed (e : PyError)
  deriving DecidableEq, Repr

/-- How `server.serve` ends; `exited` stands for what is no `Exception`, with the status it means. -/
inductive ServerEnd where
  | returned
  | raised (e : PyError)
  | exited (status : Nat)
  deriving DecidableEq, Repr

inductive Main where
  | starting
  | refused (e : PyError)
  | serving (tls : Option ApiTls)
  | awaiting (tls : Option ApiTls) (how : ServerEnd)
  | finished (tls : Option ApiTls) (how : ServerEnd)
  deriving DecidableEq, Repr

structure Process where
  main : Main := .starting
  pipeline : PipelineTask := .pending
  cancelRequested : Bool := false
  doneCallback : Bool := false
  shouldExit : Bool := false
  deriving DecidableEq, Repr

inductive Happening where
  | resolves
  | pipelineBegins (opened connected : Except PyError Unit)
  | pipelineCancels
  | pipelineCloses (outcome : Except PyError Unit)
  | callbackRuns
  | serverEnds (how : ServerEnd)
  | pipelineAwaited

def PipelineTask.ended : PipelineTask → Bool
  | .cancelled _ | .failed _ => true
  | _ => false

def settle (p : Process) (task : PipelineTask) : Process :=
  { p with pipeline := task, doneCallback := task.ended }

def onDone (p : Process) : Process :=
  match p.pipeline with
  | .failed _ => { p with doneCallback := false, shouldExit := true }
  | _ => { p with doneCallback := false }

def Main.runs : Main → Bool
  | .serving _ | .awaiting .. => true
  | _ => false

def begin (host : Host) (s : Settings) (p : Process) (opened connected : Except PyError Unit) :
    Process :=
  if p.cancelRequested then settle p (.cancelled false)
  else
    match startPipeline host s opened connected with
    | .error e => settle p (.failed e)
    | .ok _ => settle p .up

def happen (host : Host) (s : Settings) (p : Process) : Happening → Process
  | .resolves =>
    match p.main with
    | .starting =>
      match resolveApiTlsConfig host s with
      | .error e => { p with main := .refused e }
      | .ok tls => { p with main := .serving tls }
    | _ => p
  | .pipelineBegins opened connected =>
    match p.main.runs,p.pipeline with
    | true,.pending => begin host s p opened connected
    | _,_ => p
  | .pipelineCancels =>
    match p.pipeline,p.cancelRequested with
    | .up,true => settle p .closing
    | _,_ => p
  | .pipelineCloses outcome =>
    match p.pipeline with
    | .closing =>
      match outcome with
      | .error e => settle p (.failed e)
      | .ok _ => settle p (.cancelled true)
    | _ => p
  | .callbackRuns => if p.doneCallback then onDone p else p
  | .serverEnds how =>
    match p.main with
    | .serving tls => { p with main := .awaiting tls how, cancelRequested := true }
    | _ => p
  | .pipelineAwaited =>
    match p.main with
    | .awaiting tls how => if p.pipeline.ended then { p with main := .finished tls how } else p
    | _ => p

def exitStatus (p : Process) : Option Nat :=
  match p.main with
  | .refused _ => some 1
  | .finished _ (.exited status) => some status
  | .finished _ (.raised _) => some 1
  | .finished _ .returned =>
    match p.pipeline with
    | .failed _ => some 1
    | _ => some 0
  | _ => none

def process (host : Host) (s : Settings) (happenings : List Happening) : Process :=
  Trace.final (happen host s) {} happenings

structure Inbound (host : Host) (s : Settings) (tls : Option ApiTls) : Prop where
  identity : s.cert = "" ↔ s.key = ""
  complete : s.ca ≠ "" → s.cert ≠ "" ∧ ∀ p ∈ [s.ca,s.cert,s.key], host.pathExists p = true
  offered : tls = if s.ca = "" then none else some ⟨s.key,s.cert,s.ca⟩

structure Configured (host : Host) (s : Settings) : Prop where
  url : s.finalizeToApi = true → ∃ url, s.trackerFinalizedUrl = some url ∧ url ≠ ""
  outbound : s.finalizeToApi = true → (s.outboundCert = "" ↔ s.outboundKey = "") ∧
    ∀ p ∈ s.outboundPaths, p ≠ "" → host.pathExists p = true
  topics : parseTopics s.topic ≠ []
  mqtt : s.mqttTls = true → (∀ p ∈ s.mqttPaths, p = "") ∨ ∀ p ∈ s.mqttPaths, p ≠ ""

theorem apiTlsIff (host : Host) (s : Settings) (tls : Option ApiTls) :
    resolveApiTlsConfig host s = .ok tls ↔ Inbound host s tls := by
  have bare : s.ca = "" → (Inbound host s tls ↔ (s.cert = "" ↔ s.key = "") ∧ none = tls) := by
    intro none_
    refine ⟨fun inbound => ⟨inbound.identity,?_⟩,fun ⟨identity,same⟩ => ⟨identity,?_,?_⟩⟩
    · rw [inbound.offered,if_pos none_]
    · exact fun some_ => absurd none_ some_
    · rw [if_pos none_,same]
  unfold resolveApiTlsConfig
  by_cases identity : s.cert = "" ↔ s.key = ""
  · rw [if_neg (not_not.mpr identity)]
    by_cases none_ : s.ca = ""
    · rw [if_neg (fun half => half.1 none_),if_pos (fun all => all.1 none_),bare none_]
      simp [identity]
    · by_cases blank : s.cert = ""
      · rw [if_pos ⟨none_,fun both => both.1 blank⟩]
        exact ⟨nofun,fun inbound => absurd blank (inbound.complete none_).1⟩
      · have filled : s.key ≠ "" := fun empty => blank (identity.mpr empty)
        rw [if_neg (fun half => half.2 ⟨blank,filled⟩),
          if_neg (not_not.mpr ⟨none_,blank,filled⟩)]
        have present : [s.ca,s.cert,s.key].filter (fun p => !host.pathExists p) = [] ↔
            ∀ p ∈ [s.ca,s.cert,s.key], host.pathExists p = true := by
          rw [List.filter_eq_nil_iff]
          simp
        split
        · rename_i missing
          constructor
          · intro same
            cases same
            exact ⟨identity,fun _ => ⟨blank,present.mp missing⟩,by rw [if_neg none_]⟩
          · intro inbound
            rw [inbound.offered,if_neg none_]
        · rename_i missing
          exact ⟨nofun,fun inbound => absurd (present.mpr (inbound.complete none_).2) missing⟩
  · rw [if_pos identity]
    exact ⟨nofun,fun inbound => absurd inbound.identity identity⟩

theorem outboundTlsIff (host : Host) (s : Settings) :
    (∃ tls, resolveOutboundTlsConfig host s = .ok tls) ↔
      (s.outboundCert = "" ↔ s.outboundKey = "") ∧
        ∀ p ∈ s.outboundPaths, p ≠ "" → host.pathExists p = true := by
  unfold resolveOutboundTlsConfig
  have present : s.outboundPaths.filter (fun p => decide (p ≠ "") && !host.pathExists p) = [] ↔
      ∀ p ∈ s.outboundPaths, p ≠ "" → host.pathExists p = true := by
    rw [List.filter_eq_nil_iff]
    simp
  by_cases unset : s.outboundCert ≠ "" ∨ s.outboundKey ≠ "" ∨ s.outboundCa ≠ ""
  · rw [if_neg (not_not.mpr unset)]
    by_cases identity : s.outboundCert = "" ↔ s.outboundKey = ""
    · rw [if_neg (not_not.mpr identity)]
      split
      · rename_i missing
        exact ⟨fun _ => ⟨identity,present.mp missing⟩,fun _ => ⟨_,rfl⟩⟩
      · rename_i missing
        exact ⟨nofun,fun both => absurd (present.mpr both.2) missing⟩
    · rw [if_pos identity]
      exact ⟨nofun,fun both => absurd both.1 identity⟩
  · rw [if_pos unset]
    push Not at unset
    refine ⟨fun _ => ⟨by rw [unset.1,unset.2.1],fun p mem filled => ?_⟩,fun _ => ⟨_,rfl⟩⟩
    simp only [Settings.outboundPaths,unset,List.mem_cons,List.not_mem_nil,or_false,or_self] at mem
    exact absurd mem filled

theorem transportIff (s : Settings) : (∃ transport, configureTls s = .ok transport) ↔
    (s.mqttTls = true → (∀ p ∈ s.mqttPaths, p = "") ∨ ∀ p ∈ s.mqttPaths, p ≠ "") := by
  have all : s.mqttPaths.countP (· ≠ "") = 3 ↔ ∀ p ∈ s.mqttPaths, p ≠ "" := by
    rw [show 3 = s.mqttPaths.length from rfl,List.countP_eq_length]
    simp
  have none_ : s.mqttPaths.countP (· ≠ "") = 0 ↔ ∀ p ∈ s.mqttPaths, p = "" := by
    rw [List.countP_eq_zero]
    simp
  unfold configureTls
  dsimp only
  split
  · rename_i plain
    exact ⟨fun _ on => absurd on plain,fun _ => ⟨_,rfl⟩⟩
  · split
    · rename_i three
      exact ⟨fun _ _ => .inr (all.mp three),fun _ => ⟨_,rfl⟩⟩
    · rename_i on three
      split
      · rename_i zero
        exact ⟨fun _ _ => .inl (none_.mp zero),fun _ => ⟨_,rfl⟩⟩
      · rename_i zero
        refine ⟨nofun,fun ruled => ?_⟩
        rcases ruled (not_not.mp on) with blank | filled
        · exact absurd (none_.mpr blank) zero
        · exact absurd (all.mpr filled) three

theorem urlIff (url : Option String) : (∃ text, getTrackerFinalizedUrl url = .ok text) ↔
    ∃ text, url = some text ∧ text ≠ "" := by
  cases url with
  | none => simp [getTrackerFinalizedUrl]
  | some text => by_cases empty : text = "" <;> simp [getTrackerFinalizedUrl,empty]

theorem checkIff (host : Host) (s : Settings) : checkFinalization host s = .ok () ↔
    (s.finalizeToApi = true → (∃ url, s.trackerFinalizedUrl = some url ∧ url ≠ "") ∧
      (s.outboundCert = "" ↔ s.outboundKey = "") ∧
      ∀ p ∈ s.outboundPaths, p ≠ "" → host.pathExists p = true) := by
  rw [← outboundTlsIff,← urlIff]
  unfold checkFinalization
  cases s.finalizeToApi with
  | false => simp
  | true =>
    cases getTrackerFinalizedUrl s.trackerFinalizedUrl <;>
      cases resolveOutboundTlsConfig host s <;> simp [bind,Except.bind]

theorem clientIff (s : Settings) (connected : Except PyError Unit) :
    (∃ transport, startClient s connected = .ok transport) ↔ parseTopics s.topic ≠ [] ∧
      (s.mqttTls = true → (∀ p ∈ s.mqttPaths, p = "") ∨ ∀ p ∈ s.mqttPaths, p ≠ "") ∧
      connected = .ok () := by
  rw [← transportIff]
  unfold startClient
  split
  · rename_i empty
    exact ⟨nofun,fun facts => absurd empty facts.1⟩
  · rename_i named
    cases configureTls s <;> cases connected <;> simp [bind,Except.bind,named]

theorem startIff (host : Host) (s : Settings) (opened connected : Except PyError Unit) :
    (∃ transport, startPipeline host s opened connected = .ok transport) ↔
      Configured host s ∧ opened = .ok () ∧ connected = .ok () := by
  have parts : (∃ transport, startPipeline host s opened connected = .ok transport) ↔
      checkFinalization host s = .ok () ∧ opened = .ok () ∧
        ∃ transport, startClient s connected = .ok transport := by
    unfold startPipeline
    cases checkFinalization host s <;> cases opened <;> simp [bind,Except.bind]
  rw [parts,checkIff,clientIff]
  constructor
  · rintro ⟨finalization,open_,topics,mqtt,connects⟩
    exact ⟨⟨fun on => (finalization on).1,fun on => (finalization on).2,topics,mqtt⟩,open_,connects⟩
  · rintro ⟨⟨url,outbound,topics,mqtt⟩,open_,connects⟩
    exact ⟨fun on => ⟨url on,outbound on⟩,open_,topics,mqtt,connects⟩

def PipelineTask.began : PipelineTask → Bool
  | .up | .closing | .cancelled true => true
  | _ => false

def Main.serves (main : Main) (tls : Option ApiTls) : Prop :=
  main = .serving tls ∨ ∃ how, main = .awaiting tls how ∨ main = .finished tls how

structure Kept (host : Host) (s : Settings) (p : Process) : Prop where
  inbound : ∀ tls, p.main.serves tls → Inbound host s tls
  refused : ∀ e, p.main = .refused e → ∀ tls, ¬ Inbound host s tls
  configured : p.pipeline.began = true → Configured host s
  told : ∀ e, p.pipeline = .failed e → p.doneCallback = true ∨ p.shouldExit = true
  alone : p.shouldExit = true → ∃ e, p.pipeline = .failed e
  ended : ∀ tls how, p.main = .finished tls how → p.pipeline.ended = true

theorem keptStart (host : Host) (s : Settings) : Kept host s {} where
  inbound tls serves := by
    rcases serves with main | ⟨how,main | main⟩ <;> cases main
  refused e main := by cases main
  configured began := by cases began
  told e failed := by cases failed
  alone told := by cases told
  ended tls how main := by cases main

section
variable {host : Host} {s : Settings} {p : Process} (kept : Kept host s p)
include kept

theorem settleKept {task : PipelineTask} (live : p.pipeline.ended = false)
    (configured : task.began = true → Configured host s) : Kept host s (settle p task) where
  inbound := kept.inbound
  refused := kept.refused
  configured := configured
  told e failed := by
    have failed : task = .failed e := failed
    exact .inl (by simp [settle,failed,PipelineTask.ended])
  alone told := by
    obtain ⟨e,failed⟩ := kept.alone told
    rw [failed] at live
    cases live
  ended tls how main := by
    have ended := kept.ended tls how main
    rw [live] at ended
    cases ended

theorem beginKept (waits : p.pipeline = .pending) (opened connected : Except PyError Unit) :
    Kept host s (begin host s p opened connected) := by
  have live : p.pipeline.ended = false := by rw [waits]; rfl
  unfold begin
  split
  · exact settleKept kept live (by simp [PipelineTask.began])
  · split
    · exact settleKept kept live (by simp [PipelineTask.began])
    · rename_i transport started
      exact settleKept kept live (fun _ => ((startIff host s opened connected).mp ⟨transport,started⟩).1)

theorem resolveKept : Kept host s (match resolveApiTlsConfig host s with
    | .error e => { p with main := .refused e }
    | .ok tls => { p with main := .serving tls }) := by
  cases resolved : resolveApiTlsConfig host s with
  | error e =>
    refine ⟨?_,?_,kept.configured,kept.told,kept.alone,nofun⟩
    · rintro tls (main | ⟨how,main | main⟩) <;> cases main
    · intro _ _ tls inbound
      rw [(apiTlsIff host s tls).mpr inbound] at resolved
      cases resolved
  | ok tls =>
    refine ⟨?_,nofun,kept.configured,kept.told,kept.alone,nofun⟩
    rintro tls' (main | ⟨how,main | main⟩)
    · cases main
      exact (apiTlsIff host s tls).mp resolved
    · cases main
    · cases main

theorem doneKept : Kept host s (onDone p) := by
  unfold onDone
  split
  · rename_i e failed
    exact ⟨kept.inbound,kept.refused,kept.configured,fun _ _ => .inr rfl,fun _ => ⟨e,failed⟩,kept.ended⟩
  · rename_i sound
    refine ⟨kept.inbound,kept.refused,kept.configured,fun e failed => ?_,kept.alone,kept.ended⟩
    exact absurd failed (sound e)

theorem happenKept (h : Happening) : Kept host s (happen host s p h) := by
  cases h with
  | resolves =>
    simp only [happen]
    split
    · exact resolveKept kept
    · exact kept
  | pipelineBegins opened connected =>
    simp only [happen]
    split
    · rename_i waits
      exact beginKept kept waits opened connected
    · exact kept
  | pipelineCancels =>
    simp only [happen]
    split
    · rename_i up _
      refine settleKept kept (by rw [up]; rfl) (fun _ => kept.configured (by rw [up]; rfl))
    · exact kept
  | pipelineCloses outcome =>
    simp only [happen]
    split
    · rename_i closing
      split
      · exact settleKept kept (by rw [closing]; rfl) (by simp [PipelineTask.began])
      · exact settleKept kept (by rw [closing]; rfl) (fun _ => kept.configured (by rw [closing]; rfl))
    · exact kept
  | callbackRuns =>
    simp only [happen]
    split
    · exact doneKept kept
    · exact kept
  | serverEnds how =>
    simp only [happen]
    split
    · rename_i tls serving
      refine ⟨?_,nofun,kept.configured,kept.told,kept.alone,nofun⟩
      rintro tls' (main | ⟨how',main | main⟩) <;> cases main
      exact kept.inbound tls (.inl serving)
    · exact kept
  | pipelineAwaited =>
    simp only [happen]
    split
    · rename_i tls how awaiting
      split
      · rename_i ended
        refine ⟨?_,nofun,kept.configured,kept.told,kept.alone,fun _ _ _ => ended⟩
        rintro tls' (main | ⟨how',main | main⟩) <;> cases main
        exact kept.inbound tls (.inr ⟨how,.inl awaiting⟩)
      · exact kept
    · exact kept

end

theorem failedLasts {host : Host} {s : Settings} {p : Process} {e : PyError}
    (failed : p.pipeline = .failed e) (h : Happening) : (happen host s p h).pipeline = .failed e := by
  obtain ⟨main,pipeline,cancelRequested,doneCallback,shouldExit⟩ := p
  cases failed
  cases h with
  | resolves | serverEnds how | pipelineAwaited =>
    simp only [happen]
    split
    · first | rfl | split <;> rfl
    · rfl
  | callbackRuns =>
    simp only [happen,onDone]
    split <;> rfl
  | pipelineBegins opened connected =>
    simp only [happen]
    cases main.runs <;> rfl
  | pipelineCancels | pipelineCloses outcome => rfl

structure Supervised (host : Host) (s : Settings) (happenings : List Happening) (p : Process) :
    Prop where
  inbound : ∀ tls, p.main.serves tls → Inbound host s tls
  refused : ∀ e, p.main = .refused e → ∀ tls, ¬ Inbound host s tls
  configured : p.pipeline.began = true → Configured host s
  identity : ∀ tls, p.main.serves (some tls) → p.pipeline.began = true → s.finalizeToApi = true →
    s.environServerCert.getD "" = s.apiServerCert → s.environServerKey.getD "" = s.apiServerKey →
    ∃ outbound, resolveOutboundTlsConfig host s = .ok (some outbound) ∧
      outbound.clientCertPath = some tls.sslCertfile ∧ outbound.clientKeyPath = some tls.sslKeyfile
  told : ∀ e, p.pipeline = .failed e → p.doneCallback = true ∨ p.shouldExit = true
  alone : p.shouldExit = true → ∃ e, p.pipeline = .failed e
  lasts : ∀ before e, before <+: happenings → (process host s before).pipeline = .failed e →
    p.pipeline = .failed e
  status : ∀ status, exitStatus p = some status → (status = 0 ↔ ∃ tls how, p.main = .finished tls how ∧
    (how = .exited 0 ∨ how = .returned ∧ ∃ began, p.pipeline = .cancelled began))

@[simp] theorem processConcat (host : Host) (s : Settings) (happenings : List Happening)
    (h : Happening) :
    process host s (happenings ++ [h]) = happen host s (process host s happenings) h :=
  Trace.finalConcat ..

theorem runLasts {host : Host} {s : Settings} {before : List Happening} {e : PyError}
    (failed : (process host s before).pipeline = .failed e) (later : List Happening) :
    (process host s (before ++ later)).pipeline = .failed e := by
  induction later using List.reverseRecOn with
  | nil => rwa [List.append_nil]
  | append_singleton later h ih =>
    rw [← List.append_assoc,processConcat]
    exact failedLasts ih h

theorem statusIs {host : Host} {s : Settings} {p : Process} (kept : Kept host s p) {status : Nat}
    (ended : exitStatus p = some status) : status = 0 ↔ ∃ tls how, p.main = .finished tls how ∧
      (how = .exited 0 ∨ how = .returned ∧ ∃ began, p.pipeline = .cancelled began) := by
  cases main : p.main with
  | starting | serving tls | awaiting tls how => simp [exitStatus,main] at ended
  | refused e =>
    simp only [exitStatus,main,Option.some.injEq] at ended
    subst ended
    simp
  | finished tls how =>
    have done := kept.ended tls how main
    simp only [exitStatus,main] at ended
    cases how with
    | exited status' =>
      cases Option.some.inj ended
      simp
    | raised e =>
      cases Option.some.inj ended
      simp
    | returned =>
      cases task : p.pipeline with
      | failed e =>
        simp only [task,Option.some.injEq] at ended
        subst ended
        simp
      | cancelled began =>
        simp only [task,Option.some.injEq] at ended
        subst ended
        simp
      | pending | up | closing =>
        rw [task] at done
        cases done

theorem identityShared {host : Host} {s : Settings} {tls : ApiTls}
    (inbound : Inbound host s (some tls)) (configured : Configured host s)
    (finalizes : s.finalizeToApi = true) (cert : s.environServerCert.getD "" = s.apiServerCert)
    (key : s.environServerKey.getD "" = s.apiServerKey) :
    ∃ outbound, resolveOutboundTlsConfig host s = .ok (some outbound) ∧
      outbound.clientCertPath = some tls.sslCertfile ∧
      outbound.clientKeyPath = some tls.sslKeyfile := by
  have sameCert : s.outboundCert = s.cert := by rw [Settings.outboundCert,cert,Settings.cert]
  have sameKey : s.outboundKey = s.key := by rw [Settings.outboundKey,key,Settings.key]
  have offered := inbound.offered
  have some_ : s.ca ≠ "" := by
    intro none_
    rw [if_pos none_] at offered
    cases offered
  rw [if_neg some_] at offered
  cases offered
  have filled := (inbound.complete some_).1
  have filledKey : s.key ≠ "" := fun empty => filled (inbound.identity.mpr empty)
  obtain ⟨identity,present⟩ := configured.outbound finalizes
  have missing : s.outboundPaths.filter (fun p => decide (p ≠ "") && !host.pathExists p) = [] := by
    rw [List.filter_eq_nil_iff]
    simpa using present
  refine ⟨⟨pathOrNone s.outboundCa,pathOrNone s.outboundCert,pathOrNone s.outboundKey⟩,?_,?_,?_⟩
  · rw [resolveOutboundTlsConfig,if_neg (not_not.mpr (.inl (by rwa [sameCert]))),
      if_neg (not_not.mpr identity),missing]
  · dsimp only
    rw [sameCert,pathOrNone,if_neg filled]
  · dsimp only
    rw [sameKey,pathOrNone,if_neg filledKey]

theorem everyRunSupervised (host : Host) (s : Settings) (happenings : List Happening) :
    Supervised host s happenings (process host s happenings) := by
  have kept : Kept host s (process host s happenings) :=
    Trace.invariant (happen host s) {} (keptStart host s) (fun _ h kept => happenKept kept h) happenings
  refine ⟨kept.inbound,kept.refused,kept.configured,?_,kept.told,kept.alone,?_,?_⟩
  · intro tls serves began finalizes cert key
    exact identityShared (kept.inbound _ serves) (kept.configured began) finalizes cert key
  · rintro before e ⟨later,rfl⟩ failed
    exact runLasts failed later
  · exact fun status ended => statusIs kept ended

end FlightMonitor.Supervision
