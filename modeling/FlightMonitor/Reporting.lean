import FlightMonitor.SessionMachine

/-! Reports per registration: how often a session enters the registry against how often a
report is posted for it, over all interleavings of the three finalizers. -/
namespace FlightMonitor.Reporting
open PyValue IsoTime

def entries (env : Env) (f : String) (events : List Event) : Nat :=
  Trace.count (step env) {} (Enters env f) events

def reports (env : Env) (f : String) (events : List Event) : Nat :=
  (after env events).posts.countP (fun payload => payload.flightSessionId == f)

def Posts (env : Env) (f : String) (s : State) (e : Event) : Prop :=
  (∃ payload, stubReporting s e = some payload ∧ payload.flightSessionId = f) ∨
  f ∈ finalizing env s e ∧
    ((s.registry.getByFlightSessionId f).isSome ∨ (s.tracker.get f).isSome)

def Owed (f : String) (s : State) : Prop :=
  (s.registry.getByFlightSessionId f).isSome ∧ ∀ task ∈ s.stubs, task.unreleased f = false

def owes (v : SessionView) : Bool := v.record.isSome && v.unreleased == 0

structure Balanced (v : SessionView) (entered : Nat) : Prop where
  single : v.unreleased ≤ 1
  kept : v.unreleased = 1 → v.record.isSome
  paid : entered = v.reports.length + (owes v).toNat

theorem reportsView (env : Env) (f : String) (events : List Event) :
    reports env f events = ((after env events).view f).reports.length := by
  rw [reports,List.countP_eq_length_filter]
  rfl

theorem owedView {f : String} {s : State} : Owed f s ↔ owes (s.view f) = true := by
  simp [Owed,owes,State.view,List.countP_eq_zero]

theorem finalReportLength (live : Option DroneState) (record : Option ActiveFlightSession)
    (now : UtcTime) : (finalReport live record now).toList.length =
      if record.isSome ∨ live.isSome then 1 else 0 := by
  cases live <;> cases record <;> rfl

theorem releasingUnreleased {s : State} {e : Event} {f : String}
    (made : stubReleasing s e = some f) : 0 < (s.view f).unreleased := by
  obtain ⟨now,loop,action⟩ := e
  cases action with
  | stubPosted i outcome =>
    obtain ⟨stubs,⟨none,-⟩ | ⟨g,some,-,less⟩⟩ := stubPostedCases s i outcome now loop
    · rw [none] at made; cases made
    · cases some.symm.trans made
      have left := less f
      simp only [if_true] at left
      change 0 < s.stubs.countP (StubTask.unreleased f)
      omega
  | _ => simp [stubReleasing] at made

theorem finalizedBalanced {v : SessionView} {entered : Nat} (balanced : Balanced v entered)
    (guarded : v.record.isSome ∨ v.live.isSome → owes v = true)
    {record : Option ActiveFlightSession} (same : record.isSome = v.record.isSome) (now : UtcTime) :
    Balanced ⟨none,none,v.reports ++ (finalReport v.live record now).toList,v.unreleased⟩
      entered := by
  obtain ⟨single,kept,paid⟩ := balanced
  have length := finalReportLength v.live record now
  rw [same] at length
  by_cases found : v.record.isSome ∨ v.live.isSome
  · have owed := guarded found
    rw [if_pos found] at length
    rw [owed] at paid
    simp only [owes,Bool.and_eq_true,beq_iff_eq] at owed
    exact ⟨single,by simp [owed.2],by simp [length,paid,owes]⟩
  · rw [if_neg found] at length
    simp only [not_or,Bool.not_eq_true] at found
    exact ⟨single,fun one => absurd (kept one) (by simp [found.1]),
      by simpa [length,owes,found.1] using paid⟩

theorem registeredBalanced {v : SessionView} {entered : Nat} (balanced : Balanced v entered)
    (session : ActiveFlightSession) : Balanced { v with record := some session }
      (if v.record = none then entered + 1 else entered) := by
  obtain ⟨single,kept,paid⟩ := balanced
  cases present : v.record with
  | some old => exact ⟨single,by simp,by simpa [present,owes] using paid⟩
  | none =>
    have released : v.unreleased = 0 := by
      by_contra one
      have some := kept (by omega)
      rw [present] at some; cases some
    exact ⟨single,by simp,by simpa [present,released,owes] using paid⟩

theorem stepBalanced {env : Env} {f : String} {s : State} {e : Event} {entered entered' : Nat}
    (balanced : Balanced (s.view f) entered) (guarded : Posts env f s e → Owed f s)
    (fresh : Enters env f s e → entered' = entered + 1)
    (again : ¬ Enters env f s e → entered' = entered) :
    Balanced ((step env s e).view f) entered' := by
  have posts : Posts env f s e ↔
      (∃ payload, stubReporting s e = some payload ∧ payload.flightSessionId = f) ∨
      f ∈ finalizing env s e ∧ ((s.view f).record.isSome ∨ (s.view f).live.isSome) := Iff.rfl
  have releasing := releasingUnreleased (s := s) (e := e) (f := f)
  have moved := stepMoved env s e f
  rw [posts,owedView] at guarded
  rw [entersView,stepView] at fresh again
  rw [stepView]
  generalize s.view f = v at balanced guarded fresh again moved releasing ⊢
  generalize moves env s e f = ms at moved fresh again ⊢
  have claimed := balanced
  obtain ⟨single,kept,paid⟩ := balanced
  cases moved with
  | idle =>
    rw [again (fun h => h.2 h.1)]
    exact ⟨single,kept,paid⟩
  | @registered session made own =>
    have stored := registeredBalanced claimed session
    by_cases absent : v.record = none
    · rw [fresh ⟨absent,by simp [Move.apply]⟩]
      rwa [if_pos absent] at stored
    · rw [again (fun h => absent h.1)]
      rwa [if_neg absent] at stored
  | exitAccepted made own active =>
    rw [again (fun h => h.2 (by simp [Move.apply,h.1]))]
    exact ⟨single,by simpa [Move.apply] using kept,by simpa [Move.apply,owes] using paid⟩
  | observed made own active at_ why =>
    rw [again (fun h => h.2 h.1)]
    exact ⟨single,kept,paid⟩
  | @stubReported payload made own =>
    have owed := guarded (.inl ⟨payload,made,own⟩)
    rw [owed] at paid
    simp only [owes,Bool.and_eq_true,beq_iff_eq] at owed
    rw [again (fun h => h.2 h.1)]
    exact ⟨by simp [Move.apply,owed.2],fun _ => owed.1,by simp [Move.apply,paid,owes]⟩
  | stubReleased made =>
    have one : v.unreleased = 1 := by
      have := releasing made
      omega
    rw [again (by simp [Move.apply])]
    exact ⟨by simp [Move.apply,one],by simp [Move.apply,one],
      by simpa [Move.apply,owes,one] using paid⟩
  | scanned made spared =>
    rw [again (fun h => h.2 (by simp [Move.apply,h.1]))]
    exact ⟨single,by simpa [Move.apply] using kept,by simpa [Move.apply,owes] using paid⟩
  | @scannedFinalized t made taken =>
    rw [again (by simp [Move.apply])]
    exact finalizedBalanced claimed (fun found => guarded (.inr ⟨taken,found⟩))
      (by simp [Move.apply]) _
  | finalized calm taken =>
    rw [again (by simp [Move.apply])]
    exact finalizedBalanced claimed (fun found => guarded (.inr ⟨taken,found⟩)) rfl _

theorem postsReport {env : Env} {f : String} {s : State} {e : Event} (posts : Posts env f s e) :
    ((step env s e).view f).reports.length = (s.view f).reports.length + 1 := by
  rw [stepView]
  rcases posts with ⟨payload,made,rfl⟩ | ⟨taken,found⟩
  · rw [stubReportingMoves env made]
    simp [Move.apply]
  · have length : ∀ record : Option ActiveFlightSession,
        record.isSome = (s.view f).record.isSome → ∀ now,
        (finalReport (s.view f).live record now).toList.length = 1 := by
      intro record same now
      rw [finalReportLength,same]
      exact if_pos found
    rw [finalizingMoves taken]
    cases scanning s e with
    | none => simp [Move.apply,length]
    | some t => simp [Move.apply,Move.about,length]

theorem postsNotEnters {env : Env} {f : String} {s : State} {e : Event} (posts : Posts env f s e) :
    ¬ Enters env f s e := by
  rw [entersView,stepView]
  rcases posts with ⟨payload,made,rfl⟩ | ⟨taken,-⟩
  · rw [stubReportingMoves env made]
    exact fun h => h.2 h.1
  · rw [finalizingMoves taken]
    cases scanning s e with
    | none => simp [Move.apply]
    | some t => simp [Move.apply,Move.about]

theorem stepOverspends {env : Env} {f : String} {s : State} {e : Event} {entered : Nat}
    (balanced : Balanced (s.view f) entered) (posts : Posts env f s e) (owed : ¬ Owed f s) :
    ¬ Enters env f s e ∧ entered < ((step env s e).view f).reports.length := by
  have settled : owes (s.view f) = false := Bool.eq_false_iff.mpr (mt owedView.mpr owed)
  have paid : entered = (s.view f).reports.length := by simpa [settled] using balanced.paid
  have more := postsReport posts
  exact ⟨postsNotEnters posts,by omega⟩

theorem reportsWithinEntriesIffOwed (env : Env) (f : String) (events : List Event) :
    Trace.Throughout (fun before => reports env f before ≤ entries env f before) events ↔
      Trace.Meets (fun before e => Posts env f (after env before) e → Owed f (after env before))
        events := by
  refine Trace.goodIffGuarded
    (fun before => Balanced ((after env before).view f) (entries env f before))
    ?_ ?_ ?_ ?_ events
  · exact ⟨by simp [State.view],by simp [State.view],by simp [State.view,entries,owes]⟩
  · intro before balanced
    rw [reportsView,balanced.paid]
    exact Nat.le_add_right ..
  · intro before e balanced guarded
    rw [afterConcat]
    refine stepBalanced balanced guarded ?_ ?_
    · intro enters
      rw [entries,Trace.countConcat]
      exact if_pos enters
    · intro stays
      rw [entries,Trace.countConcat]
      exact if_neg stays
  · intro before e balanced unguarded
    simp only [Classical.not_imp] at unguarded
    obtain ⟨stays,more⟩ := stepOverspends balanced unguarded.1 unguarded.2
    rw [reportsView,afterConcat,Nat.not_le]
    rw [entries,Trace.countConcat]
    exact (if_neg stays).trans_lt more

def redelivered : List Event :=
  let body : Json := .obj [("flight_session_id",.str "flight-A"),("test_overrides",.obj [])]
  [(Action.registerSession body).at 8 18 0 0,(Action.registerSession body).at 8 18 0 1,
    (Action.stubFires 0).at 8 18 0 5,(Action.stubFires 1).at 8 18 0 6]

theorem redeliveryReportsTwice :
    ¬ reports deployment "flight-A" redelivered ≤ entries deployment "flight-A" redelivered := by
  decide

end FlightMonitor.Reporting
