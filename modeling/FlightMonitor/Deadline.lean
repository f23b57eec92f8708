import Mathlib.Tactic.Linarith
import FlightMonitor.Departures
import FlightMonitor.GracePeriod

/-! How long a grace task takes. The first check after the last telemetry notes it, and the
first check a period later ends the task; so where its checks are never further apart than
some bound, a silent session has left within the period and twice that bound. -/
namespace FlightMonitor.Deadline
open PyValue IsoTime GracePeriod ExitOwners Departures

def Begun (s : State) (i : Nat) (f : String) : Prop :=
  ∃ phase, s.graces[i]? = some ⟨f,phase⟩ ∧ phase ≠ .created

def Over (s : State) (i : Nat) (f : String) : Prop :=
  ∃ phase, s.graces[i]? = some ⟨f,phase⟩ ∧ ¬ GraceTask.Waits ⟨f,phase⟩

def reference (watch : Watch) : Rat :=
  watch.lastTelemetryChangeMonotonic.getD watch.exitRequestedAt

def Referred (s : State) (now : Rat) : Prop :=
  ∀ (i : Nat) f watch, s.graces[i]? = some ⟨f,.watching watch⟩ → reference watch ≤ now

def Settled (s : State) (i : Nat) (f : String) (c : Rat) : Prop :=
  ∀ watch, s.graces[i]? = some ⟨f,.watching watch⟩ → reference watch ≤ c ∧
    ((s.tracker.get f).map DroneState.lastSeen = none ∨
      (s.tracker.get f).map DroneState.lastSeen = watch.lastSeenAtPreviousCheck)

def Quiet (env : Env) (f : String) (s : State) (e : Event) : Prop :=
  ∀ state, observing env s e = some state → state.flightSessionId ≠ f

/-- From `T` on, no stretch of `D` seconds that begins before the deadline is without a check. -/
def Polled (i : Nat) (T D : Rat) (events : List Event) : Prop :=
  ∀ t, T ≤ t → t ≤ T + D + exitGracePeriodSeconds →
    ∃ e ∈ events, e.action = .graceChecks i ∧ t ≤ e.loop ∧ e.loop ≤ t + D

theorem begunOnward (env : Env) {s : State} (e : Event) {i : Nat} {f : String}
    (begun : Begun s i f) : Begun (step env s e) i f := by
  obtain ⟨phase,found,started⟩ := begun
  have moved := gracesMoved env s e
  unfold Begun
  generalize (step env s e).graces = graces at moved ⊢
  have inside := (List.getElem?_eq_some_iff.mp found).1
  have elsewhere : ∀ {j : Nat} {task next : GraceTask}, s.graces[j]? = some task →
      next.flightSessionId = task.flightSessionId → (j = i → next.phase ≠ .created) →
      ∃ phase, (s.graces.set j next)[i]? = some ⟨f,phase⟩ ∧ phase ≠ .created := by
    intro j task next here same later
    by_cases own : j = i
    · subst own
      cases found.symm.trans here
      obtain ⟨g,phase'⟩ := next
      cases same
      exact ⟨phase',List.getElem?_set_self inside,later rfl⟩
    · exact ⟨phase,by rwa [List.getElem?_set_ne own],started⟩
  cases moved with
  | same => exact ⟨phase,found,started⟩
  | asked => exact ⟨phase,by rwa [List.getElem?_append_left inside],started⟩
  | starts _ here => exact elsewhere here rfl (by simp)
  | checks _ here => exact elsewhere here rfl (by simp)
  | ends _ here ended =>
    refine elsewhere here rfl (fun _ created => ended ?_)
    cases created
    trivial

theorem overOnward {env : Env} {s : State} {e : Event} {i : Nat} {f : String}
    (finished : Over s i f) :
    Over (step env s e) i f := by
  obtain ⟨phase,found,ended⟩ := finished
  have started : phase ≠ .created := by
    rintro rfl
    exact ended trivial
  obtain ⟨phase',found',-⟩ := begunOnward env e ⟨phase,found,started⟩
  refine ⟨phase',found',fun waiting => ?_⟩
  rcases Roster.waitsOrigin (gracesChange env s e) found' waiting with
    ⟨task,before,-,waited⟩ | ⟨late,-⟩
  · cases found.symm.trans before
    exact ended waited
  · have inside := (List.getElem?_eq_some_iff.mp found).1
    omega

theorem checkReference {watch next : Watch} {lastSeen : Option String} {now c : Rat}
    (checked : watch.check lastSeen now = some next) (early : reference watch ≤ c)
    (forward : c ≤ now) : reference next ≤ now := by
  rcases checkCases watch lastSeen now with ⟨stamp,-,goes⟩ | ⟨-,⟨leaves,-⟩ | goes⟩
  · cases checked.symm.trans goes
    exact le_refl now
  · rw [leaves] at checked; cases checked
  · cases checked.symm.trans goes
    exact early.trans forward

theorem referredOnward {env : Env} {s : State} {e : Event} {now : Rat} (referred : Referred s now)
    (forward : now ≤ e.loop) : Referred (step env s e) e.loop := by
  intro i f watch watches
  rcases watchingOrigin watches with found | ⟨-,rfl⟩ | ⟨old,found,checked⟩
  · exact (referred i f watch found).trans forward
  · exact le_refl e.loop
  · exact checkReference checked (referred i f old found) forward

theorem runReferred (env : Env) {events : List Event} {now : Rat}
    (clock : events.Pairwise (fun a b => a.loop ≤ b.loop)) (bound : ∀ e ∈ events, e.loop ≤ now) :
    Referred (after env events) now := by
  induction events using List.reverseRecOn generalizing now with
  | nil => exact fun i f watch found => by simp at found
  | append_singleton events e ih =>
    obtain ⟨early,-,order⟩ := List.pairwise_append.mp clock
    have referred := ih early (fun x mem => order x mem e (List.mem_singleton_self e))
    rw [afterConcat]
    intro i f watch found
    exact (referredOnward referred (le_refl _) i f watch found).trans (bound e (by simp))

/-! One check settles the task, telemetry alone unsettles it, and a period later it leaves. -/

theorem setGraceFound {s : State} {i : Nat} {f : String} {old : GracePhase}
    (found : s.graces[i]? = some ⟨f,old⟩) (phase : GracePhase) :
    (s.setGrace i phase).graces[i]? = some ⟨f,phase⟩ := by
  rw [setGraceSet found]
  exact List.getElem?_set_self (List.getElem?_eq_some_iff.mp found).1

theorem checkRuns (env : Env) {s : State} {i : Nat} {f : String} {watch : Watch} (now : UtcTime)
    (loop : Rat) (found : s.graces[i]? = some ⟨f,.watching watch⟩) :
    Over (step env s ⟨now,loop,.graceChecks i⟩) i f ∨
      ∃ next, watch.check ((s.tracker.get f).map DroneState.lastSeen) loop = some next ∧
        step env s ⟨now,loop,.graceChecks i⟩ = s.setGrace i (.watching next) := by
  simp only [step,graceChecks,found]
  cases s.registry.getByFlightSessionId f with
  | none => exact .inl ⟨.finished,setGraceFound found _,id⟩
  | some record =>
    cases checked : watch.check ((s.tracker.get f).map DroneState.lastSeen) loop with
    | some next => exact .inr ⟨next,rfl,rfl⟩
    | none =>
      have kept : (finalizeSessionToSade env s f now).1.graces[i]? = some ⟨f,.watching watch⟩ := by
        rw [finalizeGraces,found]
      left
      rcases finalized : finalizeSessionToSade env s f now with ⟨s',_ | _ | e⟩ <;>
        rw [finalized] at kept
      · exact ⟨.finished,setGraceFound kept _,id⟩
      · exact ⟨.posting,setGraceFound kept _,id⟩
      · exact ⟨.raised,setGraceFound kept _,id⟩

theorem overSettled {s : State} {i : Nat} {f : String} (finished : Over s i f) (c : Rat) :
    Settled s i f c := by
  intro watch found
  obtain ⟨phase,found',ended⟩ := finished
  cases found.symm.trans found'
  exact absurd trivial ended

theorem begunPhase {s : State} {i : Nat} {f : String} (begun : Begun s i f) :
    Over s i f ∨ ∃ watch, s.graces[i]? = some ⟨f,.watching watch⟩ := by
  obtain ⟨phase,found,started⟩ := begun
  cases phase with
  | created => exact absurd rfl started
  | watching watch => exact .inr ⟨watch,found⟩
  | posting | finished | raised => exact .inl ⟨_,found,id⟩

theorem checkSettlesTask {env : Env} {s : State} {now : UtcTime} {loop c : Rat} {i : Nat} {f : String}
    (begun : Begun s i f) (referred : Referred s c) (forward : c ≤ loop) :
    Settled (step env s ⟨now,loop,.graceChecks i⟩) i f loop := by
  rcases begunPhase begun with finished | ⟨old,found⟩
  · exact overSettled (overOnward finished) loop
  · rcases checkRuns env now loop found with finished | ⟨next,checked,done⟩
    · exact overSettled finished loop
    · intro watch watches
      rw [done] at watches ⊢
      cases (setGraceFound found _).symm.trans watches
      have early := referred i f old found
      refine ⟨checkReference checked early forward,?_⟩
      change (s.tracker.get f).map DroneState.lastSeen = none ∨
        (s.tracker.get f).map DroneState.lastSeen = next.lastSeenAtPreviousCheck
      rcases checkCases old ((s.tracker.get f).map DroneState.lastSeen) loop with
        ⟨stamp,live,goes⟩ | ⟨noted,⟨leaves,-⟩ | goes⟩
      · cases checked.symm.trans goes
        exact .inr live
      · rw [leaves] at checked; cases checked
      · cases checked.symm.trans goes
        exact noted

theorem lastSeenOnward {env : Env} {s : State} {e : Event} {f : String} (quiet : Quiet env f s e) :
    ((step env s e).tracker.get f).map DroneState.lastSeen = none ∨
      ((step env s e).tracker.get f).map DroneState.lastSeen =
        (s.tracker.get f).map DroneState.lastSeen := by
  change ((step env s e).view f).live.map DroneState.lastSeen = none ∨
    ((step env s e).view f).live.map DroneState.lastSeen = (s.view f).live.map DroneState.lastSeen
  rw [stepView]
  have moved := stepMoved env s e f
  generalize moves env s e f = ms at moved ⊢
  cases moved with
  | observed made own => exact absurd own (quiet _ made)
  | idle | registered | stubReported | stubReleased | scanned => exact .inr rfl
  | exitAccepted => exact .inr (by simp [Move.apply,Function.comp_def,stampExitState])
  | scannedFinalized | finalized => exact .inl rfl

theorem settledOnward {env : Env} {s : State} {e : Event} {i : Nat} {f : String} {c : Rat}
    (settled : Settled s i f c) (begun : Begun s i f) (quiet : Quiet env f s e) :
    Settled (step env s e) i f c := by
  intro watch watches
  have kept : ∀ {previous : Option String},
      (s.tracker.get f).map DroneState.lastSeen = none ∨
        (s.tracker.get f).map DroneState.lastSeen = previous →
      ((step env s e).tracker.get f).map DroneState.lastSeen = none ∨
        ((step env s e).tracker.get f).map DroneState.lastSeen = previous := by
    intro previous noted
    rcases lastSeenOnward quiet with none | same
    · exact .inl none
    · rwa [same]
  rcases watchingOrigin watches with found | ⟨created,-⟩ | ⟨old,found,checked⟩
  · obtain ⟨early,noted⟩ := settled watch found
    exact ⟨early,kept noted⟩
  · obtain ⟨phase,found,started⟩ := begun
    cases found.symm.trans created
    exact absurd rfl started
  · obtain ⟨early,noted⟩ := settled old found
    rw [Watch.check,if_neg (noted.elim (fun none h => h.1 none) (fun same h => h.2 same))] at checked
    dsimp only at checked
    split at checked
    · cases checked
    · cases checked
      exact ⟨early,kept noted⟩

theorem settledLeaves {env : Env} {s : State} {now : UtcTime} {loop c : Rat} {i : Nat} {f : String}
    (settled : Settled s i f c) (begun : Begun s i f) (far : c + exitGracePeriodSeconds ≤ loop) :
    Over (step env s ⟨now,loop,.graceChecks i⟩) i f := by
  rcases begunPhase begun with finished | ⟨watch,found⟩
  · exact overOnward finished
  · obtain ⟨early,noted⟩ := settled watch found
    have silent : watch.check ((s.tracker.get f).map DroneState.lastSeen) loop = none := by
      rw [Watch.check,if_neg (noted.elim (fun none h => h.1 none) (fun same h => h.2 same))]
      dsimp only
      rw [if_pos]
      change reference watch ≤ c at early
      rw [reference] at early
      linarith
    rcases checkRuns env now loop found with finished | ⟨next,checked,-⟩
    · exact finished
    · rw [silent] at checked; cases checked

theorem runBegun {env : Env} {before : List Event} {i : Nat} {f : String}
    (begun : Begun (after env before) i f) (later : List Event) :
    Begun (after env (before ++ later)) i f := by
  induction later using List.reverseRecOn with
  | nil => rwa [List.append_nil]
  | append_singleton later e ih =>
    rw [← List.append_assoc,afterConcat]
    exact begunOnward env e ih

theorem runSettled {env : Env} {before : List Event} {i : Nat} {f : String} {c : Rat}
    (begun : Begun (after env before) i f) (settled : Settled (after env before) i f c)
    (later : List Event)
    (quiet : Trace.Meets (fun since e => Quiet env f (after env (before ++ since)) e) later) :
    Settled (after env (before ++ later)) i f c := by
  induction later using List.reverseRecOn with
  | nil => rwa [List.append_nil]
  | append_singleton later e ih =>
    obtain ⟨early,last⟩ := Trace.meetsConcat.mp quiet
    rw [← List.append_assoc,afterConcat]
    exact settledOnward (ih early) (runBegun begun later) last

theorem twoChecks {env : Env} {before between : List Event} {first second : Event} {i : Nat}
    {f : String} (begun : Begun (after env before) i f)
    (clock : (before ++ [first]).Pairwise (fun a b => a.loop ≤ b.loop))
    (checks : first.action = .graceChecks i) (again : second.action = .graceChecks i)
    (far : first.loop + exitGracePeriodSeconds ≤ second.loop)
    (quiet : Trace.Meets (fun since e => Quiet env f (after env (before ++ [first] ++ since)) e)
      between) : Over (after env (before ++ [first] ++ between ++ [second])) i f := by
  obtain ⟨early,-,order⟩ := List.pairwise_append.mp clock
  have referred := runReferred env early
    (fun x mem => order x mem first (List.mem_singleton_self first))
  have settled : Settled (after env (before ++ [first])) i f first.loop := by
    obtain ⟨now,loop,action⟩ := first
    cases checks
    rw [afterConcat]
    exact checkSettlesTask begun referred (le_refl loop)
  have started := runBegun begun [first]
  have stays := runSettled started settled between quiet
  obtain ⟨now,loop,action⟩ := second
  cases again
  rw [afterConcat]
  exact settledLeaves stays (runBegun started between) far

structure Met (env : Env) (f : String) (i : Nat) (deadline : Rat) (before since : List Event) :
    Prop where
  intime : ∀ e ∈ since, e.loop ≤ deadline
  finished : Over (after env (before ++ since)) i f
  left : departures env f before < departures env f (before ++ since)

theorem overLeft {env : Env} {f : String} {before later : List Event} {i : Nat}
    (active : ¬ (after env before).Gone f) (waits : Owns (after env before) f i)
    (finished : Over (after env (before ++ later)) i f) :
    departures env f before < departures env f (before ++ later) := by
  rcases ownedOrLeft waits active later with ⟨-,task,found,-,waiting⟩ | left
  · obtain ⟨phase,found',ended⟩ := finished
    cases found.symm.trans found'
    exact absurd waiting ended
  · exact left

theorem laterAfter {events front back : List Event} {first second : Event}
    (clock : events.Pairwise (fun a b => a.loop ≤ b.loop)) (split : events = front ++ first :: back)
    (mem : second ∈ events) (later : first.loop < second.loop) : second ∈ back := by
  subst split
  obtain ⟨-,-,order⟩ := List.pairwise_append.mp clock
  rcases List.mem_append.mp mem with early | late
  · exact absurd (order second early first List.mem_cons_self) (not_le_of_gt later)
  · rcases List.mem_cons.mp late with rfl | inside
    · exact absurd later (lt_irrefl _)
    · exact inside

theorem boundedBy {front : List Event} {last : Event}
    (clock : (front ++ [last]).Pairwise (fun a b => a.loop ≤ b.loop)) :
    ∀ e ∈ front ++ [last], e.loop ≤ last.loop := by
  intro e mem
  rcases List.mem_append.mp mem with early | late
  · exact (List.pairwise_append.mp clock).2.2 e early last (List.mem_singleton_self last)
  · rw [List.mem_singleton.mp late]

theorem silenceCloses (env : Env) (before silent : List Event) (f : String) (i : Nat) (T D : Rat)
    (clock : (before ++ silent).Pairwise (fun a b => a.loop ≤ b.loop))
    (active : ¬ (after env before).Gone f)
    (watches : ∃ watch, (after env before).graces[i]? = some ⟨f,.watching watch⟩)
    (quiet : Trace.Meets (fun since e => Quiet env f (after env (before ++ since)) e) silent)
    (bound : 0 ≤ D) (polled : Polled i T D silent) :
    ∃ since, since <+: silent ∧
      Met env f i (T + 2 * D + exitGracePeriodSeconds) before since := by
  have positive : (0 : Rat) < exitGracePeriodSeconds := by decide
  obtain ⟨first,mem,checks,begins,soon⟩ := polled T (le_refl T) (by linarith)
  obtain ⟨second,mem',again,far,soon'⟩ := polled (first.loop + exitGracePeriodSeconds)
    (by linarith) (by linarith)
  obtain ⟨-,sorted,-⟩ := List.pairwise_append.mp clock
  obtain ⟨front,back,split⟩ := List.append_of_mem mem
  obtain ⟨between,rest,split'⟩ := List.append_of_mem
    (laterAfter sorted split mem' (by linarith))
  have whole : silent = (front ++ [first] ++ between ++ [second]) ++ rest := by
    simp [split,split']
  have within : front ++ [first] ++ between ++ [second] <+: silent := ⟨rest,whole.symm⟩
  have calm : Trace.Meets (fun since e => Quiet env f (after env (before ++ front ++ [first] ++ since)) e)
      between := by
    have upto := Trace.meetsPrefix quiet ((List.prefix_append ..).trans within)
    simpa [List.append_assoc] using (Trace.meetsAppend.mp upto).2
  obtain ⟨watch,found⟩ := watches
  have begun := runBegun ⟨_,found,by simp⟩ front
  have finished := twoChecks begun (clock.sublist ?_) checks again far calm
  · refine ⟨front ++ [first] ++ between ++ [second],within,?_,?_,?_⟩
    · intro e inside
      have last := boundedBy (sorted.sublist within.sublist) e inside
      linarith
    · simpa [List.append_assoc] using finished
    · refine overLeft active ⟨_,found,rfl,trivial⟩ ?_
      simpa [List.append_assoc] using finished
  · rw [List.append_assoc]
    exact (List.Sublist.refl before).append
      (((List.prefix_append (front ++ [first]) _).trans (List.prefix_append _ _)).trans within).sublist

def parting : List Event :=
  [(Action.registerSession registration).at 8 18 0 0,
    (Action.exitRequest (.obj [("flight_session_id",.str "flight-A")])).at 8 18 10 0,
    (Action.graceStarts 0).at 8 18 10 0]

def patience : List Event :=
  [(Action.graceChecks 0).at 8 18 12 30,(Action.graceChecks 0).at 8 18 15 0,
    (Action.graceChecks 0).at 8 18 17 30]

theorem patiencePolled : Polled 0 756600 150 patience := by
  intro t begins ends
  rw [show exitGracePeriodSeconds = 300 from rfl] at ends
  by_cases first : t ≤ 756750
  · exact ⟨_,.head _,rfl,first,by change (756750 : Rat) ≤ t + 150; linarith⟩
  · by_cases second : t ≤ 756900
    · exact ⟨_,.tail _ (.head _),rfl,second,by change (756900 : Rat) ≤ t + 150; linarith⟩
    · exact ⟨_,.tail _ (.tail _ (.head _)),rfl,by change t ≤ (757050 : Rat); linarith,
        by change (757050 : Rat) ≤ t + 150; linarith⟩

theorem patienceQuiet : Trace.Meets
    (fun since e => Quiet deployment "flight-A" (after deployment (parting ++ since)) e) patience := by
  intro since e within state made
  have mem : e ∈ patience := within.subset (List.mem_append_right _ (List.mem_singleton_self e))
  simp only [patience,List.mem_cons,List.not_mem_nil,or_false] at mem
  rcases mem with rfl | rfl | rfl <;> cases made

theorem partingCloses : ∃ since, since <+: patience ∧
    Met deployment "flight-A" 0 (756600 + 2 * 150 + exitGracePeriodSeconds) parting since :=
  silenceCloses deployment parting patience "flight-A" 0 756600 150 (by decide +kernel)
    (by rw [State.Gone]; decide +kernel) ⟨⟨756600,none,none⟩,by rfl⟩ patienceQuiet (by decide)
    patiencePolled

end FlightMonitor.Deadline
