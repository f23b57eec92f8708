import Mathlib.Algebra.Order.Ring.Rat
import Mathlib.Tactic.Linarith
import FlightMonitor.ForceClose
import FlightMonitor.Tasks

/-! The exit grace period. A task samples `last_seen` at its checks only; that no telemetry
went unnoticed follows from what its two variables say about the updates in between. The
tasks are numbered as their exit requests were accepted. -/
namespace FlightMonitor.GracePeriod
open PyValue IsoTime

abbrev Applied := Rat × String

def noteApplied (env : Env) (f : String) (earlier : List Applied) (s : State) (e : Event) :
    List Applied :=
  match observing env s e with
  | some state => if state.flightSessionId = f then earlier ++ [(e.loop,state.lastSeen)] else earlier
  | none => earlier

def applied (env : Env) (f : String) (events : List Event) : List Applied :=
  Trace.history (step env) {} (noteApplied env f) [] events

def noteStarted (earlier : List Rat) (s : State) (e : Event) : List Rat :=
  match accepting s e with
  | some _ => earlier ++ [e.loop]
  | none => earlier

def started (env : Env) (events : List Event) : List Rat :=
  Trace.history (step env) {} noteStarted [] events

structure Informed (updates : List Applied) (t now : Rat) (watch : Watch) : Prop where
  asked : t ≤ watch.exitRequestedAt
  past : watch.exitRequestedAt ≤ now
  unchanged : watch.lastTelemetryChangeMonotonic = none → watch.lastSeenAtPreviousCheck = none
  changed : ∀ c, watch.lastTelemetryChangeMonotonic = some c → watch.exitRequestedAt ≤ c ∧
    ∀ stamp, watch.lastSeenAtPreviousCheck = some stamp → ∃ u, (u,stamp) ∈ updates ∧ u ≤ c

structure Tracked (f : String) (s : State) (updates : List Applied) (asked : List Rat)
    (now : Rat) : Prop where
  ordered : updates.Pairwise (fun a b => a.1 ≤ b.1)
  past : ∀ u ∈ updates, u.1 ≤ now
  seen : ∀ state, s.tracker.get f = some state → ∃ t, updates.getLast? = some (t,state.lastSeen)
  gone : s.tracker.get f = none → ∀ u ∈ updates, u.1 ≤ now - exitGracePeriodSeconds
  known : s.graces.length = asked.length
  requested : ∀ t ∈ asked, t ≤ now
  watching : ∀ (i : Nat) watch, s.graces[i]? = some ⟨f,.watching watch⟩ →
    ∃ t, asked[i]? = some t ∧ Informed updates t now watch

theorem orderedLast {updates : List Applied} {last : Applied}
    (ordered : updates.Pairwise (fun a b => a.1 ≤ b.1)) (ends : updates.getLast? = some last) :
    ∀ u ∈ updates, u.1 ≤ last.1 := by
  obtain ⟨front,rfl⟩ := List.getLast?_eq_some_iff.mp ends
  intro u mem
  rcases List.mem_append.mp mem with early | last
  · exact (List.pairwise_append.mp ordered).2.2 u early _ (List.mem_singleton_self _)
  · rw [List.mem_singleton.mp last]

theorem checkCases (watch : Watch) (lastSeen : Option String) (now : Rat) :
    (∃ stamp, lastSeen = some stamp ∧ watch.check lastSeen now = some { watch with
      lastSeenAtPreviousCheck := some stamp, lastTelemetryChangeMonotonic := some now }) ∨
    (lastSeen = none ∨ lastSeen = watch.lastSeenAtPreviousCheck) ∧
      ((watch.check lastSeen now = none ∧ exitGracePeriodSeconds ≤
        now - watch.lastTelemetryChangeMonotonic.getD watch.exitRequestedAt) ∨
      watch.check lastSeen now = some watch) := by
  unfold Watch.check
  cases lastSeen with
  | none =>
    refine .inr ⟨.inl rfl,?_⟩
    rw [if_neg (by simp)]
    dsimp only
    split
    · exact .inl ⟨rfl,by assumption⟩
    · exact .inr rfl
  | some stamp =>
    by_cases known : some stamp = watch.lastSeenAtPreviousCheck
    · refine .inr ⟨.inr known,?_⟩
      rw [if_neg (fun h => h.2 known)]
      dsimp only
      split
      · exact .inl ⟨rfl,by assumption⟩
      · exact .inr rfl
    · exact .inl ⟨stamp,rfl,by rw [if_pos ⟨by simp,known⟩]⟩

theorem silenceSeen {f : String} {s : State} {updates : List Applied} {asked : List Rat}
    {now loop : Rat} {i : Nat} (tracked : Tracked f s updates asked now) (later : now ≤ loop)
    (distinct : (updates.map Prod.snd).Nodup) (leaves : silentSession s i loop = some f) :
    (∀ u ∈ updates, u.1 ≤ loop - exitGracePeriodSeconds) ∧
      ∃ t, asked[i]? = some t ∧ t ≤ loop - exitGracePeriodSeconds := by
  obtain ⟨-,watch,found,none⟩ := silentIff.mp leaves
  obtain ⟨t,request,informed⟩ := tracked.watching i watch found
  rcases checkCases watch ((s.tracker.get f).map DroneState.lastSeen) loop with
    ⟨stamp,-,goes⟩ | ⟨current,⟨-,silence⟩ | goes⟩
  · rw [none] at goes; cases goes
  · -- The period counts from the last change the task saw, or from its start.
    have reference : t ≤ loop - exitGracePeriodSeconds ∧
        ∀ stamp, watch.lastSeenAtPreviousCheck = some stamp →
          ∃ u, (u,stamp) ∈ updates ∧ u ≤ loop - exitGracePeriodSeconds := by
      have asked := informed.asked
      cases change : watch.lastTelemetryChangeMonotonic with
      | none =>
        rw [change,Option.getD_none] at silence
        exact ⟨by linarith,by simp [informed.unchanged change]⟩
      | some c =>
        rw [change,Option.getD_some] at silence
        obtain ⟨since,sampled⟩ := informed.changed c change
        refine ⟨by linarith,fun stamp previous => ?_⟩
        obtain ⟨u,mem,before⟩ := sampled stamp previous
        exact ⟨u,mem,by linarith⟩
    refine ⟨?_,t,request,reference.1⟩
    cases live : s.tracker.get f with
    | none =>
      intro u mem
      have old := tracked.gone live u mem
      linarith
    | some state =>
      rw [live,Option.map_some] at current
      obtain ⟨u,mem,old⟩ := reference.2 state.lastSeen
        (current.resolve_left (by simp)).symm
      obtain ⟨last,ends⟩ := tracked.seen state live
      have same : (u,state.lastSeen) = (last,state.lastSeen) :=
        List.inj_on_of_nodup_map distinct mem (List.mem_of_getLast? ends) rfl
      cases same
      intro v inside
      exact (orderedLast tracked.ordered ends v inside).trans old
  · rw [none] at goes; cases goes

theorem watchingOrigin {env : Env} {s : State} {e : Event} {i : Nat} {f : String} {watch : Watch}
    (watches : (step env s e).graces[i]? = some ⟨f,.watching watch⟩) :
    s.graces[i]? = some ⟨f,.watching watch⟩ ∨
    (s.graces[i]? = some ⟨f,.created⟩ ∧ watch = ⟨e.loop,none,none⟩) ∨
    ∃ old, s.graces[i]? = some ⟨f,.watching old⟩ ∧
      old.check ((s.tracker.get f).map DroneState.lastSeen) e.loop = some watch := by
  have moved := gracesMoved env s e
  generalize (step env s e).graces = graces at moved watches
  cases moved with
  | same => exact .inl watches
  | asked made =>
    by_cases early : i < s.graces.length
    · rw [List.getElem?_append_left early] at watches
      exact .inl watches
    · rw [List.getElem?_append_right (by omega)] at watches
      cases List.mem_singleton.mp (List.mem_of_getElem? watches)
  | starts quiet found =>
    rcases Roster.setFound watches with same | ⟨rfl,starts⟩
    · exact .inl same
    · cases starts
      exact .inr (.inl ⟨found,rfl⟩)
  | checks quiet found checked =>
    rcases Roster.setFound watches with same | ⟨rfl,goes⟩
    · exact .inl same
    · cases goes
      exact .inr (.inr ⟨_,found,checked⟩)
  | ends quiet found ended =>
    rcases Roster.setFound watches with same | ⟨rfl,ends⟩
    · exact .inl same
    · cases ends
      exact absurd trivial ended

theorem informedLater {updates : List Applied} (more : List Applied) {t now later : Rat}
    {watch : Watch} (informed : Informed updates t now watch) (forward : now ≤ later) :
    Informed (updates ++ more) t later watch := by
  refine ⟨informed.asked,informed.past.trans forward,informed.unchanged,fun c change => ?_⟩
  obtain ⟨since,sampled⟩ := informed.changed c change
  refine ⟨since,fun stamp previous => ?_⟩
  obtain ⟨u,mem,before⟩ := sampled stamp previous
  exact ⟨u,List.mem_append_left _ mem,before⟩

theorem informedCheck {f : String} {s : State} {updates : List Applied} {asked : List Rat}
    {t now loop : Rat} {old watch : Watch} (tracked : Tracked f s updates asked now)
    (informed : Informed updates t now old) (forward : now ≤ loop)
    (checked : old.check ((s.tracker.get f).map DroneState.lastSeen) loop = some watch) :
    Informed updates t loop watch := by
  rcases checkCases old ((s.tracker.get f).map DroneState.lastSeen) loop with
    ⟨stamp,sampled,goes⟩ | ⟨-,⟨leaves,-⟩ | goes⟩
  · cases checked.symm.trans goes
    obtain ⟨state,live,rfl⟩ := Option.map_eq_some_iff.mp sampled
    obtain ⟨u,ends⟩ := tracked.seen state live
    have mem := List.mem_of_getLast? ends
    refine ⟨informed.asked,informed.past.trans forward,by simp,?_⟩
    intro c change
    cases change
    refine ⟨informed.past.trans forward,?_⟩
    intro stamp previous
    cases previous
    exact ⟨u,mem,(tracked.past _ mem).trans forward⟩
  · rw [leaves] at checked; cases checked
  · cases checked.symm.trans goes
    simpa using informedLater [] informed forward

theorem sparedSilent {env : Env} {s : State} {e : Event} {f : String}
    (taken : f ∈ finalizing env s e) (spared : f ∉ ForceClose.closing env s e) :
    ∃ i, silentSession s i e.loop = some f := by
  obtain ⟨now,loop,action⟩ := e
  cases action with
  | graceChecks i =>
    exact ⟨i,by simpa [finalizing] using taken⟩
  | _ => exact absurd taken spared

theorem liveStep {env : Env} {f : String} {s : State} {e : Event} (updates : List Applied)
    (spared : f ∉ ForceClose.closing env s e) :
    (∃ state, (step env s e).tracker.get f = some state ∧
      noteApplied env f updates s e = updates ++ [(e.loop,state.lastSeen)]) ∨
    noteApplied env f updates s e = updates ∧
      (((step env s e).tracker.get f).map DroneState.lastSeen =
          (s.tracker.get f).map DroneState.lastSeen ∨
        (step env s e).tracker.get f = none ∧ ∃ i, silentSession s i e.loop = some f) := by
  have after : (step env s e).tracker.get f = ((step env s e).view f).live := rfl
  have before : s.tracker.get f = (s.view f).live := rfl
  by_cases filed : ∃ state, observing env s e = some state ∧ state.flightSessionId = f
  · obtain ⟨state,made,own⟩ := filed
    refine .inl ⟨state,?_,by simp [noteApplied,made,own]⟩
    rw [after,stepView,observingMoves made own]
    rfl
  · have unfiled : noteApplied env f updates s e = updates := by
      unfold noteApplied
      split
      · rename_i state made
        exact if_neg (fun own => filed ⟨state,made,own⟩)
      · rfl
    refine .inr ⟨unfiled,?_⟩
    rw [after,before,stepView]
    have moved := stepMoved env s e f
    generalize moves env s e f = ms at moved ⊢
    cases moved with
    | observed made own => exact absurd ⟨_,made,own⟩ filed
    | idle | registered | stubReported | stubReleased | scanned => exact .inl rfl
    | exitAccepted made own active =>
      refine .inl ?_
      simp [Move.apply,Function.comp_def,stampExitState]
    | scannedFinalized made taken => exact .inr ⟨rfl,sparedSilent taken spared⟩
    | finalized calm taken => exact .inr ⟨rfl,sparedSilent taken spared⟩

theorem appliedGrows (env : Env) (f : String) (updates : List Applied) (s : State) (e : Event) :
    ∃ more, noteApplied env f updates s e = updates ++ more := by
  unfold noteApplied
  split
  · split
    · exact ⟨_,rfl⟩
    · exact ⟨[],(List.append_nil _).symm⟩
  · exact ⟨[],(List.append_nil _).symm⟩

theorem startedGrows (asked : List Rat) (s : State) (e : Event) :
    noteStarted asked s e = asked ++ (accepting s e).toList.map (fun _ => e.loop) := by
  unfold noteStarted
  cases accepting s e <;> simp

theorem startedPast {asked : List Rat} {s : State} {e : Event} {now : Rat}
    (past : ∀ t ∈ asked, t ≤ now) (forward : now ≤ e.loop) :
    ∀ t ∈ noteStarted asked s e, t ≤ e.loop := by
  intro t mem
  rw [startedGrows,List.mem_append,List.mem_map] at mem
  rcases mem with early | ⟨p,-,rfl⟩
  · exact (past t early).trans forward
  · exact le_refl _

theorem startedKept {asked : List Rat} {s : State} {i : Nat} {task : GraceTask} (e : Event)
    (known : s.graces.length = asked.length) (found : s.graces[i]? = some task) :
    ∃ t, asked[i]? = some t ∧ (noteStarted asked s e)[i]? = some t := by
  have inside : i < asked.length := by
    rw [← known]
    exact (List.getElem?_eq_some_iff.mp found).1
  refine ⟨asked[i],List.getElem?_eq_getElem inside,?_⟩
  rw [startedGrows,List.getElem?_append_left inside]
  exact List.getElem?_eq_getElem inside

theorem stepWatching {env : Env} {f : String} {s : State} {e : Event} {updates : List Applied}
    {asked : List Rat} {now : Rat} (tracked : Tracked f s updates asked now) (forward : now ≤ e.loop)
    {i : Nat} {watch : Watch} (watches : (step env s e).graces[i]? = some ⟨f,.watching watch⟩) :
    ∃ t, (noteStarted asked s e)[i]? = some t ∧
      Informed (noteApplied env f updates s e) t e.loop watch := by
  obtain ⟨more,noted⟩ := appliedGrows env f updates s e
  rw [noted]
  rcases watchingOrigin watches with found | ⟨found,rfl⟩ | ⟨old,found,checked⟩
  · obtain ⟨t,request,later⟩ := startedKept e tracked.known found
    obtain ⟨t',request',informed⟩ := tracked.watching i watch found
    cases request.symm.trans request'
    exact ⟨t,later,informedLater _ informed forward⟩
  · obtain ⟨t,request,later⟩ := startedKept e tracked.known found
    have early := tracked.requested t (List.mem_of_getElem? request)
    exact ⟨t,later,early.trans forward,le_refl _,fun _ => rfl,by simp⟩
  · obtain ⟨t,request,later⟩ := startedKept e tracked.known found
    obtain ⟨t',request',informed⟩ := tracked.watching i old found
    cases request.symm.trans request'
    exact ⟨t,later,informedLater _ (informedCheck tracked informed forward checked) (le_refl _)⟩

theorem stepTracked {env : Env} {f : String} {s : State} {e : Event} {updates : List Applied}
    {asked : List Rat} {now : Rat} (tracked : Tracked f s updates asked now) (forward : now ≤ e.loop)
    (distinct : (updates.map Prod.snd).Nodup) (spared : f ∉ ForceClose.closing env s e) :
    Tracked f (step env s e) (noteApplied env f updates s e) (noteStarted asked s e) e.loop := by
  have past := tracked.past
  have requested := startedPast (s := s) tracked.requested forward
  have known : (step env s e).graces.length = (noteStarted asked s e).length := by
    rw [gracesLength,startedGrows,tracked.known]
    simp
  have watching : ∀ (i : Nat) watch, (step env s e).graces[i]? = some ⟨f,.watching watch⟩ →
      ∃ t, (noteStarted asked s e)[i]? = some t ∧
        Informed (noteApplied env f updates s e) t e.loop watch :=
    fun _ _ watches => stepWatching tracked forward watches
  -- An update becomes the last one, the live state stays, or a grace task takes it in silence.
  rcases liveStep updates spared with ⟨state,live,noted⟩ | ⟨noted,same | ⟨popped,i,leaves⟩⟩
  · refine ⟨?_,?_,?_,by simp [live],known,requested,watching⟩
    · rw [noted,List.pairwise_append]
      refine ⟨tracked.ordered,List.pairwise_singleton ..,?_⟩
      intro u mem last inside
      cases List.mem_singleton.mp inside
      exact (past u mem).trans forward
    · intro u mem
      rw [noted,List.mem_append,List.mem_singleton] at mem
      rcases mem with early | rfl
      · exact (past u early).trans forward
      · exact le_refl _
    · intro state' found
      cases live.symm.trans found
      exact ⟨e.loop,by rw [noted]; simp⟩
  · rw [noted] at watching ⊢
    refine ⟨tracked.ordered,fun u mem => (past u mem).trans forward,?_,?_,known,requested,watching⟩
    · intro state found
      rw [found] at same
      obtain ⟨old,live,stamp⟩ := Option.map_eq_some_iff.mp same.symm
      rw [← stamp]
      exact tracked.seen old live
    · intro none u mem
      rw [none] at same
      have old := tracked.gone (Option.map_eq_none_iff.mp same.symm) u mem
      linarith
  · rw [noted] at watching ⊢
    refine ⟨tracked.ordered,fun u mem => (past u mem).trans forward,?_,?_,known,requested,watching⟩
    · intro state found
      rw [popped] at found; cases found
    · exact fun _ => (silenceSeen tracked forward distinct leaves).1

theorem trackedLater {f : String} {s : State} {updates : List Applied} {asked : List Rat}
    {now later : Rat} (tracked : Tracked f s updates asked now) (forward : now ≤ later) :
    Tracked f s updates asked later := by
  refine ⟨tracked.ordered,fun u mem => (tracked.past u mem).trans forward,tracked.seen,?_,
    tracked.known,fun t mem => (tracked.requested t mem).trans forward,?_⟩
  · intro none u mem
    have old := tracked.gone none u mem
    linarith
  · intro i watch found
    obtain ⟨t,request,informed⟩ := tracked.watching i watch found
    exact ⟨t,request,by simpa using informedLater [] informed forward⟩

theorem runTracked {env : Env} {f : String} {events : List Event} {now : Rat}
    (clock : events.Pairwise (fun a b => a.loop ≤ b.loop)) (bound : ∀ e ∈ events, e.loop ≤ now)
    (spared : Trace.Meets (fun before e => f ∉ ForceClose.closing env (after env before) e) events)
    (distinct : ((applied env f events).map Prod.snd).Nodup) :
    Tracked f (after env events) (applied env f events) (started env events) now := by
  induction events using List.reverseRecOn generalizing now with
  | nil =>
    exact ⟨by simp [applied],by simp [applied],by simp,by simp [applied],by simp [started],
      by simp [started],by simp⟩
  | append_singleton events e ih =>
    obtain ⟨early,-,order⟩ := List.pairwise_append.mp clock
    obtain ⟨before,last⟩ := Trace.meetsConcat.mp spared
    have noted : applied env f (events ++ [e]) =
        noteApplied env f (applied env f events) (after env events) e := Trace.historyConcat ..
    obtain ⟨more,grown⟩ := appliedGrows env f (applied env f events) (after env events) e
    rw [noted,grown,List.map_append] at distinct
    have tracked := ih early (fun x mem => order x mem e (List.mem_singleton_self e)) before
      distinct.of_append_left
    rw [afterConcat,noted,started,Trace.historyConcat]
    exact trackedLater (stepTracked tracked (le_refl _) distinct.of_append_left last)
      (bound e (by simp))

def Spared (env : Env) (f : String) (before : List Event) (e : Event) : Prop :=
  f ∉ ForceClose.closing env (after env before) e

/-- Where a grace task of the session leaves its loop, no update was applied to the session in
the period up to then, and the exit request that started the task is a period old. -/
def LeavesInSilence (env : Env) (f : String) (before : List Event) (e : Event) : Prop :=
  ∀ i, e.action = .graceChecks i → silentSession (after env before) i e.loop = some f →
    (∀ u ∈ applied env f before, ¬ (e.loop - exitGracePeriodSeconds < u.1 ∧ u.1 ≤ e.loop)) ∧
    ∃ t, (started env before)[i]? = some t ∧ exitGracePeriodSeconds ≤ e.loop - t

theorem appliedPrefix {env : Env} {f : String} {before events : List Event}
    (within : before <+: events) : applied env f before <+: applied env f events := by
  obtain ⟨later,rfl⟩ := within
  induction later using List.reverseRecOn with
  | nil => rw [List.append_nil]
  | append_singleton later e ih =>
    rw [← List.append_assoc]
    obtain ⟨more,grown⟩ := appliedGrows env f (applied env f (before ++ later))
      (after env (before ++ later)) e
    have noted : applied env f (before ++ later ++ [e]) = applied env f (before ++ later) ++ more :=
      (Trace.historyConcat ..).trans grown
    exact ih.trans (noted ▸ List.prefix_append ..)

theorem gracePeriodIsSilent (env : Env) (f : String) (events : List Event)
    (clock : events.Pairwise (fun a b => a.loop ≤ b.loop))
    (spared : Trace.Meets (Spared env f) events)
    (distinct : ((applied env f events).map Prod.snd).Nodup) :
    Trace.Meets (LeavesInSilence env f) events := by
  intro before e reached i _ leaves
  have within : before <+: events := (List.prefix_append ..).trans reached
  obtain ⟨early,-,order⟩ := List.pairwise_append.mp (clock.sublist reached.sublist)
  have unique := distinct.sublist ((appliedPrefix within).sublist.map Prod.snd)
  have tracked := runTracked early (fun x mem => order x mem e (List.mem_singleton_self e))
    (fun first x inside => spared first x (inside.trans within)) unique
  obtain ⟨silent,t,request,old⟩ := silenceSeen tracked (le_refl _) unique leaves
  refine ⟨fun u mem inside => ?_,t,request,by linarith⟩
  have past := silent u mem
  linarith [inside.1]

def registration : Json :=
  .obj [("flight_session_id",.str "flight-A"),("drone_id",.str "drone-1")]

def lateTransmission : List Event :=
  [(Action.registerSession registration).at 8 18 0 0,
    (Action.exitRequest (.obj [("flight_session_id",.str "flight-A")])).at 8 18 10 0,
    (Action.graceStarts 0).at 8 18 10 0,
    (Action.onMessage "update_drone" droneMessage).at 8 18 12 10,
    Action.enqueueMessage.at 8 18 12 10,(Action.worker (.ok ())).at 8 18 12 10,
    (Action.graceChecks 0).at 8 18 12 30,(Action.graceChecks 0).at 8 18 17 0,
    (Action.graceChecks 0).at 8 18 17 30]

instance (env : Env) (f : String) (before : List Event) (e : Event) :
    Decidable (Spared env f before e) := inferInstanceAs (Decidable (¬ _ ∈ _))

theorem lateTransmissionIsAwaited :
    Trace.Meets (LeavesInSilence deployment "flight-A") lateTransmission :=
  gracePeriodIsSilent deployment "flight-A" lateTransmission (by decide +kernel)
    (by decide +kernel) (by decide +kernel)

end FlightMonitor.GracePeriod
