import FlightMonitor.MissionRows

/-! The combined service is one of the pipelines: whatever its handlers and tasks do between two
worker steps is a change of the registry, a mirrored exit or a removed state, so a run of the
service is a run of its workers with such moves between them. -/
namespace FlightMonitor.ServiceRows
open PyValue IsoTime SessionModes

def servicePipeline (env : Env) (floatText : PyFloat → String) : Pipeline :=
  ⟨env,.aws,true,floatText⟩

def live (s : State) : Live := ⟨⟨s.registry,.empty⟩,s.tracker,s.rows⟩

def Reaches (p : Pipeline) (s s' : State) : Prop :=
  ∃ moves, MissionRows.after p (live s) moves = live s'

variable {p : Pipeline} {s s' s'' : State}

theorem reachesTrans (first : Reaches p s s') (later : Reaches p s' s'') : Reaches p s s'' := by
  obtain ⟨moves,here⟩ := first
  obtain ⟨moves',there⟩ := later
  refine ⟨moves ++ moves',(Trace.finalAppend ..).trans ?_⟩
  exact (congrArg (fun l => MissionRows.after p l moves') here).trans there

theorem registryReaches (tracker : s'.tracker = s.tracker) (rows : s'.rows = s.rows) :
    Reaches p s s' := by
  refine ⟨[.registryChanged ⟨s'.registry,.empty⟩],?_⟩
  simp [MissionRows.after,Trace.final,MissionRows.step,live,tracker,rows]

theorem finalizeReaches (env : Env) (s : State) (f : String) (now : UtcTime) :
    Reaches p s (finalizeSessionToSade env s f now).1 := by
  refine ⟨[.popped f,.registryChanged ⟨s.registry.complete f,.empty⟩],?_⟩
  rw [finalizeCases]
  rfl

theorem forceCloseReaches (env : Env) (now : UtcTime) (pending : List String) (s : State)
    (closed : Nat) : Reaches p s (forceClose env now pending s closed) := by
  induction pending generalizing s closed with
  | nil => exact registryReaches rfl rfl
  | cons f pending ih =>
    have one := finalizeReaches (p := p) env s f now
    simp only [forceClose]
    generalize finalizeSessionToSade env s f now = finalized at one ⊢
    obtain ⟨s',_ | _ | e⟩ := finalized
    · exact reachesTrans one (ih s' (closed + 1))
    · exact reachesTrans one (registryReaches rfl rfl)
    · exact reachesTrans one (ih s' closed)

theorem workerReaches {env : Env} {floatText : PyFloat → String} {now : UtcTime}
    (timed : ∀ message queue, s.queue = message :: queue →
      Isolation.observeQueueLatency message = .ok ()) :
    Reaches (servicePipeline env floatText) s (worker env (.ok ()) s now) := by
  cases waiting : s.queue with
  | nil => exact registryReaches (by simp only [worker,waiting]) (by simp only [worker,waiting])
  | cons message queue =>
    refine ⟨[.turn message now ⟨"","",""⟩],?_⟩
    have turn := @awsTurn (servicePipeline env floatText) (live s)
      (MissionRows.turnOf message now ⟨"","",""⟩) rfl rfl (timed message queue waiting)
    simp only [MissionRows.after,Trace.final,List.foldl_cons,List.foldl_nil,MissionRows.step,turn,
      worker,waiting]
    rfl

theorem stepReaches (env : Env) (floatText : PyFloat → String) (s : State) (e : Event)
    (writer : ∀ written, e.action = .worker written → written = .ok ())
    (timed : ∀ message queue, s.queue = message :: queue →
      Isolation.observeQueueLatency message = .ok ()) :
    Reaches (servicePipeline env floatText) s (step env s e) := by
  obtain ⟨now,loop,action⟩ := e
  cases action with
  | registerSession body =>
    rcases registerSessionCases s body now loop with ⟨-,done⟩ | ⟨_,-,-,done⟩ <;>
      exact registryReaches (by simp only [step,done]) (by simp only [step,done])
  | exitRequest body =>
    rcases exitRequestCases s body now loop with ⟨-,done⟩ | ⟨q,_,-,-,-,done⟩
    · exact registryReaches (by simp only [step,done]) (by simp only [step,done])
    · refine ⟨[.exitMirrored q.flightSessionId (q.stamp now) (reasonOr q.reason),
        .registryChanged ⟨(step env s ⟨now,loop,.exitRequest body⟩).registry,.empty⟩],?_⟩
      simp only [step,done]
      rfl
  | onMessage topic payload => exact registryReaches rfl rfl
  | enqueueMessage =>
    refine registryReaches ?_ ?_ <;> simp only [step,enqueueMessage] <;> split <;>
      first | rfl | (split <;> rfl)
  | worker written =>
    cases writer written rfl
    exact workerReaches timed
  | stubFires i =>
    obtain ⟨stubs,⟨-,done,-⟩ | ⟨_,-,done,-⟩⟩ := stubFiresCases env s i now loop <;>
      exact registryReaches (by simp only [step,done]) (by simp only [step,done])
  | stubPosted i outcome =>
    obtain ⟨stubs,⟨-,done,-⟩ | ⟨_,-,done,-⟩⟩ := stubPostedCases s i outcome now loop <;>
      exact registryReaches (by simp only [step,done]) (by simp only [step,done])
  | graceStarts i =>
    refine registryReaches ?_ ?_ <;> simp only [step,graceStarts] <;> split <;> rfl
  | graceChecks i =>
    rcases graceChecksCases env s i loop now with
      ⟨-,done | ⟨_,_,-,⟨-,done⟩ | ⟨_,-,done⟩⟩⟩ | ⟨f,phase,-,-,done⟩
    · exact registryReaches (by simp only [step,done]) (by simp only [step,done])
    · exact registryReaches (by simp only [step,done]; rfl) (by simp only [step,done]; rfl)
    · exact registryReaches (by simp only [step,done]; rfl) (by simp only [step,done]; rfl)
    · simp only [step,done]
      exact reachesTrans (finalizeReaches env s f now) (registryReaches rfl rfl)
  | gracePosted i outcome =>
    refine registryReaches ?_ ?_ <;> simp only [step,gracePosted] <;> split <;>
      first | rfl | (cases outcome <;> rfl)
  | sweep strandedNow forceCloseNow =>
    simp only [step,sweep]
    split
    · exact registryReaches rfl rfl
    · have scanned : Reaches (servicePipeline env floatText) s (s.scanned now strandedNow) :=
        registryReaches rfl rfl
      exact reachesTrans scanned (forceCloseReaches ..)
  | sweeperPosted outcome =>
    simp only [step,sweeperPosted]
    split
    · exact registryReaches rfl rfl
    · exact forceCloseReaches ..

theorem serviceReaches (env : Env) (floatText : PyFloat → String) (events : List Event)
    (writer : ∀ e ∈ events, ∀ written, e.action = .worker written → written = .ok ()) :
    Reaches (servicePipeline env floatText) {} (after env events) := by
  induction events using List.reverseRecOn with
  | nil => exact ⟨[],rfl⟩
  | append_singleton events e ih =>
    rw [afterConcat]
    refine reachesTrans (ih (fun x mem => writer x (List.mem_append_left _ mem)))
      (stepReaches env floatText _ e (writer e (by simp)) (fun _ _ => Isolation.reachedLatency))

end FlightMonitor.ServiceRows
