import FlightMonitor.Arrivals
import FlightMonitor.Backstop
import FlightMonitor.Chronicle
import FlightMonitor.UtcZ

/-! The time windows of the reports of the canonical finalize sequence. Message times come in
order, so the segments flown do too; the report of a session without telemetry runs from its
planned entry time to the time of its finalization, whichever comes first. -/
namespace FlightMonitor.TimeWindows
open PyValue IsoTime FlownIntervals UtcZ Chronicle
open Backstop (Forward forwardFirst)

def NotLater (a b : String) : Prop :=
  ∃ i j, denoted a = some i ∧ denoted b = some j ∧ i ≤ j

def windowsOf (payload : FinalizationPayload) : List (String × String) :=
  payload.events.filterMap eventWindow

structure WindowsValid (payload : FinalizationPayload) : Prop where
  forward : ∀ w ∈ windowsOf payload, NotLater w.1 w.2
  apart : (windowsOf payload).Pairwise (fun a b => NotLater a.2 b.1)

-- The reports a step posts, without that of a stub task.
def finalizerPosts (env : Env) (s : State) (e : Event) : List FinalizationPayload :=
  match e.action with
  | .stubFires _ => []
  | _ => (step env s e).posts.drop s.posts.length

def UtcStamp (text : String) : Prop :=
  text = "" ∨ ∃ t, fromisoformat text = some t ∧ t.val.utcoffset.getD 0 = 0

def UtcEntries (events : List Event) : Prop :=
  ∀ e ∈ events, ∀ body p, e.action = .registerSession body → decodeRegisterSession body = .ok p →
    ∀ text, p.requestedEntryTime = some text → UtcStamp text

def EntersBy (now : UtcTime) (record : ActiveFlightSession) : Prop :=
  ∀ text t, record.requestedEntryTime = some text → fromisoformat text = some t →
    truncated (instant t) ≤ truncated now.instant

def EntryPassed (env : Env) (s : State) (e : Event) : Prop :=
  ∀ f ∈ finalizing env s e, s.tracker.get f = none →
    ∀ record, s.registry.getByFlightSessionId f = some record → EntersBy e.finalizeClock record

theorem afterClosing {ms : List Mark} {stop : String} (ends : closing ms = some stop) :
    ∃ front back, ms = front ++ (stop,false) :: back ∧ armedRuns true ms = armedRuns false back := by
  induction ms with
  | nil => cases ends
  | cons head later ih =>
    obtain ⟨stamp,armed⟩ := head
    cases armed with
    | false =>
      cases ends
      exact ⟨[],later,rfl,rfl⟩
    | true =>
      obtain ⟨front,back,rfl,same⟩ := ih (by simpa [closing] using ends)
      exact ⟨(stamp,true) :: front,back,rfl,same⟩

theorem runStarts {flying : Bool} {ms : List Mark} {run : String × Option String}
    (mem : run ∈ armedRuns flying ms) : run.1 ∈ ms.map Prod.fst := by
  induction ms generalizing flying with
  | nil => cases flying <;> cases mem
  | cons head later ih =>
    obtain ⟨stamp,armed⟩ := head
    cases armed <;> cases flying <;> simp only [armedRuns] at mem
    case true.false =>
      rcases List.mem_cons.mp mem with rfl | mem
      · exact List.mem_cons_self ..
      · exact List.mem_cons_of_mem _ (ih mem)
    all_goals exact List.mem_cons_of_mem _ (ih mem)

theorem runsOrdered {R : String → String → Prop} {last : String} (flying : Bool) {ms : List Mark}
    (sorted : (ms.map Prod.fst).Pairwise R) (ends : ∀ m ∈ ms, R m.1 last) :
    (∀ run ∈ armedRuns flying ms, R run.1 (run.2.getD last)) ∧
      (armedRuns flying ms).Pairwise (fun a b => R (a.2.getD last) b.1) := by
  induction ms generalizing flying with
  | nil => cases flying <;> exact ⟨by simp [armedRuns],.nil⟩
  | cons head later ih =>
    obtain ⟨stamp,armed⟩ := head
    obtain ⟨first,rest⟩ := List.pairwise_cons.mp sorted
    have onward := fun flying => ih flying rest (fun m mem => ends m (List.mem_cons_of_mem _ mem))
    cases armed <;> cases flying <;> simp only [armedRuns]
    case true.false =>
      obtain ⟨forward,apart⟩ := onward true
      cases ending : closing later with
      | none =>
        rw [(neverDisarmed ending).1]
        refine ⟨fun run mem => ?_,.cons (by simp) .nil⟩
        cases List.mem_singleton.mp mem
        exact ends _ (List.mem_cons_self ..)
      | some stop =>
        refine ⟨List.forall_mem_cons.mpr ⟨first stop (closingStamp ending),forward⟩,
          .cons (fun run mem => ?_) apart⟩
        obtain ⟨front,back,rfl,same⟩ := afterClosing ending
        rw [same] at mem
        rw [List.map_append,List.map_cons,List.pairwise_append] at rest
        exact (List.pairwise_cons.mp rest.2.1).1 run.1 (runStarts mem)
    all_goals exact onward _

theorem marksSublist (history : List Observation) :
    ((marks history).map Prod.fst).Sublist (history.map Prod.fst) := by
  induction history with
  | nil => exact List.Sublist.refl _
  | cons o history ih =>
    obtain ⟨stamp,_ | armed⟩ := o
    · exact ih.cons _
    · exact ih.cons_cons _

theorem flownOrdered {R : String → String → Prop} {history : List Observation}
    {first last : String} (sorted : (history.map Prod.fst).Pairwise R)
    (same : ∀ stamp ∈ history.map Prod.fst, R stamp stamp)
    (start : (history.map Prod.fst).head? = some first)
    (stop : (history.map Prod.fst).getLast? = some last) :
    (∀ w ∈ flownIntervals first last history, R w.1 w.2) ∧
      (flownIntervals first last history).Pairwise (fun a b => R a.2 b.1) := by
  have ends : ∀ stamp ∈ history.map Prod.fst, R stamp last := by
    obtain ⟨front,shape⟩ := List.getLast?_eq_some_iff.mp stop
    rw [shape] at sorted same ⊢
    intro stamp mem
    rcases List.mem_append.mp mem with before | final
    · exact (List.pairwise_append.mp sorted).2.2 stamp before last (List.mem_singleton_self _)
    · cases List.mem_singleton.mp final
      exact same last mem
  unfold flownIntervals
  split
  · refine ⟨fun w mem => ?_,List.pairwise_singleton ..⟩
    cases List.mem_singleton.mp mem
    exact ends first (List.mem_of_mem_head? start)
  · obtain ⟨forward,apart⟩ := runsOrdered (R := R) false (sorted.sublist (marksSublist history))
      (fun m mem => ends m.1 (marksStamps mem))
    refine ⟨fun w mem => ?_,?_⟩
    · obtain ⟨run,inside,rfl⟩ := List.mem_map.mp mem
      exact forward run inside
    · exact List.pairwise_map.mpr apart

theorem utcDenoted {text : String} {t : DateTime} (read : fromisoformat text = some t)
    (utc : t.val.utcoffset.getD 0 = 0) (now : UtcTime) :
    denoted (toUtcZ now (some text)) = some (truncated (instant t)) := by
  have small : (t.val.microsecond : Int) < secondMicros := by
    unfold secondMicros
    exact_mod_cast t.property.microsecond
  have within : WithinSecond t := by
    rw [WithinSecond,utc]
    omega
  rw [toUtcZRead now read,strftimeDenotes,(wholeUtcTruncated t).mpr within]

theorem stampDenoted (t now : UtcTime) :
    denoted (toUtcZ now (some (isoformat t.val))) = some (truncated t.instant) :=
  utcDenoted (fromisoformatIsoformat t.val) (by rw [t.property]; rfl) now

theorem stampsOrdered {a b : UtcTime} (le : a.instant ≤ b.instant) (now : UtcTime) :
    NotLater (toUtcZ now (some (isoformat a.val))) (toUtcZ now (some (isoformat b.val))) :=
  ⟨_,_,stampDenoted a now,stampDenoted b now,truncatedMono le⟩

structure Dated (history : List Observation) (times : List UtcTime) : Prop where
  stamps : history.map Prod.fst = times.map (fun t => isoformat t.val)
  sorted : times.Pairwise (fun a b => a.instant ≤ b.instant)

theorem datedValid {state : DroneState} {history : List Observation} {times : List UtcTime}
    (summary : Summarises state history) (dated : Dated history times) (now : UtcTime) :
    WindowsValid (buildFinalizationPayload state now) := by
  have named : ∀ stamp ∈ history.map Prod.fst, stamp ≠ "" := by
    rw [dated.stamps]
    intro stamp mem
    obtain ⟨t,-,rfl⟩ := List.mem_map.mp mem
    exact isoformatNonempty t.val
  have windows := payloadWindows summary named now
  obtain ⟨forward,apart⟩ := flownOrdered
    (R := fun a b => NotLater (toUtcZ now (some a)) (toUtcZ now (some b)))
    (by
      rw [dated.stamps,List.pairwise_map]
      exact dated.sorted.imp (fun le => stampsOrdered le now))
    (by
      rw [dated.stamps]
      intro stamp mem
      obtain ⟨t,-,rfl⟩ := List.mem_map.mp mem
      exact stampsOrdered (le_refl _) now)
    summary.first summary.last
  constructor
  · rw [windowsOf,windows]
    exact List.forall_mem_map.mpr forward
  · rw [windowsOf,windows]
    exact List.pairwise_map.mpr apart

theorem syntheticWindows (record : ActiveFlightSession) (now : UtcTime) :
    windowsOf (buildFinalizationPayload (syntheticState record now) now) =
      [(toUtcZ now (some (syntheticState record now).firstSeen),
        toUtcZ now (some (isoformat now.val)))] := by
  simp [windowsOf,buildFinalizationPayload,segmentEvents,exitEvents,syntheticState,eventWindow]

theorem syntheticOrdered (record : ActiveFlightSession) (now : UtcTime) :
    WindowsValid (buildFinalizationPayload (syntheticState record now) now) ↔
      NotLater (toUtcZ now (some (syntheticState record now).firstSeen))
        (toUtcZ now (some (isoformat now.val))) := by
  constructor
  · intro valid
    have forward := valid.forward
    rw [syntheticWindows] at forward
    simpa only [List.mem_singleton,forall_eq] using forward
  · intro ordered
    constructor <;> rw [syntheticWindows]
    · simpa only [List.mem_singleton,forall_eq] using ordered
    · exact List.pairwise_singleton ..

theorem syntheticValidIff {record : ActiveFlightSession}
    (utc : ∀ text, record.requestedEntryTime = some text → UtcStamp text) (now : UtcTime) :
    WindowsValid (buildFinalizationPayload (syntheticState record now) now) ↔ EntersBy now record := by
  rw [syntheticOrdered]
  have finalized := stampsOrdered (le_refl now.instant) now
  cases planned : record.requestedEntryTime with
  | none =>
    have seen : (syntheticState record now).firstSeen = isoformat now.val := by
      simp [syntheticState,planned]
    rw [seen]
    refine iff_of_true finalized (fun text t same _ => ?_)
    cases planned.symm.trans same
  | some text =>
    rcases utc text planned with rfl | ⟨t,read,zero⟩
    · have seen : (syntheticState record now).firstSeen = isoformat now.val := by
        simp [syntheticState,planned]
      rw [seen]
      refine iff_of_true finalized (fun text t same read => ?_)
      cases planned.symm.trans same
      exact absurd rfl (readNonempty read)
    · have seen : (syntheticState record now).firstSeen = text := by
        simp [syntheticState,planned,readNonempty read]
      rw [seen]
      constructor
      · intro ordered text' t' same read'
        cases planned.symm.trans same
        cases read.symm.trans read'
        obtain ⟨i,j,first,last,le⟩ := ordered
        cases first.symm.trans (utcDenoted read zero now)
        cases last.symm.trans (stampDenoted now now)
        exact le
      · intro enters
        exact ⟨_,_,utcDenoted read zero now,stampDenoted now now,enters text t planned read⟩

theorem finalReportScan (live : Option DroneState) (record : Option ActiveFlightSession)
    (t : UtcTime × UtcTime) (now : UtcTime) :
    finalReport live (record.map (ActiveFlightSession.scan live t.1 t.2)) now =
      finalReport live record now := by
  cases live with
  | some state => rfl
  | none =>
    cases record with
    | none => rfl
    | some record =>
      obtain ⟨breached,stranded,same⟩ := scanFlags none t.1 t.2 record
      simp only [Option.map_some,same]
      rfl

theorem finalizerReports (env : Env) (s : State) (e : Event) (f : String) :
    (finalizerPosts env s e).filter (fun payload => payload.flightSessionId == f) =
      if f ∈ finalizing env s e then
        (finalReport (s.view f).live (s.view f).record e.finalizeClock).toList else [] := by
  unfold finalizerPosts
  split
  · rename_i i stub
    simp [finalizing,stub]
  · rename_i other
    have canonical : stubReporting s e = none := by
      unfold stubReporting
      split
      · exact absurd (by assumption) (other _)
      · rfl
    obtain ⟨more,grown⟩ := (stepFrame env s e).posts
    rw [grown,List.drop_left]
    have added : ((step env s e).view f).reports = (s.view f).reports ++
        more.filter (fun payload => payload.flightSessionId == f) := by
      simp only [State.view,grown,List.filter_append]
    have moved := stepMoved env s e f
    rw [stepView] at added
    by_cases taken : f ∈ finalizing env s e
    · rw [finalizingMoves taken] at added
      rw [if_pos taken]
      refine (List.append_cancel_left (added.symm.trans ?_))
      cases scans : scanning s e with
      | none => rfl
      | some t => simp [Move.about,Move.apply,finalReportScan]
    · rw [if_neg taken]
      refine (List.append_cancel_left (added.symm.trans ?_))
      rw [List.append_nil]
      generalize moves env s e f = ms at moved ⊢
      cases moved with
      | stubReported made => rw [canonical] at made; cases made
      | scannedFinalized made held => exact absurd held taken
      | finalized calm held => exact absurd held taken
      | _ => rfl

theorem finalizerPostsMem {env : Env} {s : State} {e : Event} {payload : FinalizationPayload} :
    payload ∈ finalizerPosts env s e ↔ ∃ f ∈ finalizing env s e,
      finalReport (s.tracker.get f) (s.registry.getByFlightSessionId f) e.finalizeClock =
        some payload := by
  constructor
  · intro mem
    have mine : payload ∈ (finalizerPosts env s e).filter
        (fun p => p.flightSessionId == payload.flightSessionId) :=
      List.mem_filter.mpr ⟨mem,beq_self_eq_true _⟩
    rw [finalizerReports] at mine
    split at mine
    · exact ⟨_,by assumption,Option.mem_toList.mp mine⟩
    · cases mine
  · intro posted
    obtain ⟨f,taken,built⟩ := posted
    have reports := finalizerReports env s e f
    rw [if_pos taken,show finalReport (s.view f).live (s.view f).record _ = _ from built] at reports
    have mine : payload ∈ [payload] := List.mem_singleton_self _
    rw [← Option.toList_some,← reports] at mine
    exact (List.mem_filter.mp mine).1

theorem wallFinalize {events : List Event} {e : Event} (forward : Forward events)
    (mem : e ∈ events) : e.wall.instant ≤ e.finalizeClock.instant := by
  unfold Event.finalizeClock
  split
  · rename_i strandedNow forceCloseNow acts
    obtain ⟨first,second⟩ := forward.within e mem _ _ acts
    exact first.trans second
  · exact le_refl _

theorem forwardWalls {events : List Event} (forward : Forward events) :
    events.Pairwise (fun a b => a.wall.instant ≤ b.wall.instant) :=
  forward.between.imp_of_mem (fun first _ le => (wallFinalize forward first).trans le)

theorem waitingSorted (env : Env) {events : List Event} (forward : Forward events) :
    (receptions env events).waiting.Pairwise (fun a b => a.2.wall.instant ≤ b.2.wall.instant) := by
  have noted := (forwardWalls forward).sublist (receptionsOrdered env events)
  rwa [List.pairwise_map] at noted

theorem updateCallStamp {env : Env} {reg : ActiveSessionRegistry} {message : Members}
    {now : UtcTime} {f : String} {u : Telemetry}
    (call : updateCall env reg message now = .ok (f,u)) :
    u.lastSeen = some (messageStamp message now) := by
  unfold updateCall at call
  repeat' split at call
  all_goals cases call
  rfl

theorem sightingStamp {env : Env} {events : List Event} {e : Event} {o : String × Observation}
    (seen : sighting env (after env events) e = some o) : ∃ r rest,
      (receptions env events).queue = r :: rest ∧ o.2.1 = isoformat r.2.wall.val ∧
      r.2 ∈ events ∧ ∃ written, e.action = .worker written := by
  unfold sighting at seen
  split at seen
  · rename_i written message queue acts waiting
    obtain ⟨r,rest,noted,rfl,received⟩ := queueReceived waiting
    refine ⟨r,rest,noted,?_,?_,written,acts⟩
    · split at seen
      · cases seen
      · rename_i f u call
        split at seen
        · cases seen
        · cases seen
          obtain ⟨topic,payload,arrived⟩ := received.message
          have stamp : messageStamp (envelope r.2) e.wall = isoformat r.2.wall.val := by
            simp [messageStamp,envelope,arrived,Json.member,Dict.lookup]
          simp only [folded,Telemetry.observedAt,updateCallStamp call,stamp,
            if_neg (isoformatNonempty r.2.wall.val)]
    · obtain ⟨before,within,-⟩ := received.reached
      exact within.subset (List.mem_append_right _ (List.mem_singleton_self _))
  · cases seen

structure Timely (env : Env) (events : List Event) (history : List Observation)
    (times : List UtcTime) : Prop where
  dated : Dated history times
  past : ∀ t ∈ times, ∃ e ∈ events, e.wall = t
  ahead : ∀ t ∈ times, ∀ r ∈ (receptions env events).waiting, t.instant ≤ r.2.wall.instant

theorem timelyQuiet {env : Env} {events : List Event} {e : Event} {history : List Observation}
    {times : List UtcTime} (forward : Forward (events ++ [e]))
    (timely : Timely env events history times) : Timely env (events ++ [e]) history times := by
  have earlier : ∀ t ∈ times, t.instant ≤ e.wall.instant := by
    intro t mem
    obtain ⟨a,inside,rfl⟩ := timely.past t mem
    exact (List.pairwise_append.mp (forwardWalls forward)).2.2 a inside e (List.mem_singleton_self _)
  refine ⟨timely.dated,fun t mem => ?_,fun t mem r waits => ?_⟩
  · obtain ⟨a,inside,same⟩ := timely.past t mem
    exact ⟨a,List.mem_append_left _ inside,same⟩
  · rw [receptionsConcat] at waits
    rcases List.mem_append.mp ((Backlog.waitingRun ..).subset waits) with before | here
    · exact timely.ahead t mem r before
    · cases List.mem_singleton.mp here
      exact earlier t mem

theorem timelySighted {env : Env} {events : List Event} {e : Event} {history : List Observation}
    {times : List UtcTime} {o : String × Observation} (forward : Forward (events ++ [e]))
    (timely : Timely env events history times) (seen : sighting env (after env events) e = some o) :
    ∃ times, Timely env (events ++ [e]) (history ++ [o.2]) times := by
  obtain ⟨r,rest,noted,stamp,inside,written,acts⟩ := sightingStamp seen
  have sorted := waitingSorted env (forwardFirst forward)
  have waits : (receptions env events).waiting = r :: (rest ++ (receptions env events).scheduled) := by
    simp [Backlog.Lane.waiting,noted]
  have left : (receptions env (events ++ [e])).waiting =
      rest ++ (receptions env events).scheduled := by
    simp [receptionsConcat,laneOp,acts,Backlog.Op.run,Backlog.Lane.waiting,noted]
  rw [waits] at sorted
  have head : ∀ t ∈ times, t.instant ≤ r.2.wall.instant := fun t mem =>
    timely.ahead t mem r (by simp [waits])
  refine ⟨times ++ [r.2.wall],⟨?_,?_⟩,fun t mem => ?_,fun t mem next later => ?_⟩
  · rw [List.map_append,timely.dated.stamps]
    simp [stamp]
  · rw [List.pairwise_append]
    refine ⟨timely.dated.sorted,List.pairwise_singleton ..,fun t mem last same => ?_⟩
    cases List.mem_singleton.mp same
    exact head t mem
  · rcases List.mem_append.mp mem with before | here
    · obtain ⟨a,within,same⟩ := timely.past t before
      exact ⟨a,List.mem_append_left _ within,same⟩
    · cases List.mem_singleton.mp here
      exact ⟨r.2,List.mem_append_left _ inside,rfl⟩
  · rw [left] at later
    rcases List.mem_append.mp mem with before | here
    · exact (head t before).trans ((List.pairwise_cons.mp sorted).1 next later)
    · cases List.mem_singleton.mp here
      exact (List.pairwise_cons.mp sorted).1 next later

theorem timelyConcat {env : Env} {events : List Event} {e : Event} {f : String}
    {times : List UtcTime} (forward : Forward (events ++ [e]))
    (timely : Timely env events (chronicle env f events) times) :
    ∃ times, Timely env (events ++ [e]) (chronicle env f (events ++ [e])) times := by
  have next : chronicle env f (events ++ [e]) =
      note env f (chronicle env f events) (after env events) e := Trace.historyConcat ..
  rw [next,note]
  split
  · cases seen : (sighting env (after env events) e).filter (fun o => o.1 == f) with
    | none => exact ⟨times,by simpa using timelyQuiet forward timely⟩
    | some o => exact timelySighted forward timely (Option.filter_eq_some_iff.mp seen).1
  · exact ⟨[],⟨rfl,.nil⟩,by simp,by simp⟩

theorem chronicleTimely (env : Env) {events : List Event} (forward : Forward events) (f : String) :
    ∃ times, Timely env events (chronicle env f events) times := by
  induction events using List.reverseRecOn with
  | nil => exact ⟨[],⟨rfl,.nil⟩,by simp,by simp⟩
  | append_singleton events e ih =>
    obtain ⟨times,timely⟩ := ih (forwardFirst forward)
    exact timelyConcat forward timely

theorem stepUtcRecord {env : Env} {s : State} {e : Event} {f : String} (utc : UtcEntries [e])
    (before : ∀ record, (s.view f).record = some record → ∀ text,
      record.requestedEntryTime = some text → UtcStamp text) :
    ∀ record, ((step env s e).view f).record = some record → ∀ text,
      record.requestedEntryTime = some text → UtcStamp text := by
  intro record active
  have moved := stepMoved env s e f
  rw [stepView] at active
  generalize moves env s e f = ms at moved active
  cases moved with
  | idle | observed | stubReported => exact before record active
  | registered made own =>
    cases Option.some.inj active
    obtain ⟨body,p,acts,decoded,rfl⟩ := registeringDecoded made
    exact utc e (List.mem_singleton_self _) body p acts decoded
  | exitAccepted =>
    obtain ⟨old,found,rfl⟩ := Option.map_eq_some_iff.mp active
    obtain ⟨at_,same⟩ := recordStamped _ old
    rw [same]
    exact before old found
  | @scanned t =>
    obtain ⟨old,found,rfl⟩ := Option.map_eq_some_iff.mp active
    obtain ⟨breached,stranded,same⟩ := scanFlags (s.view f).live t.1 t.2 old
    rw [same]
    exact before old found
  | stubReleased | scannedFinalized | finalized => cases active

theorem utcRecords {env : Env} {events : List Event} (utc : UtcEntries events) (f : String) :
    ∀ record, ((after env events).view f).record = some record → ∀ text,
      record.requestedEntryTime = some text → UtcStamp text := by
  induction events using List.reverseRecOn with
  | nil => intro record active; cases active
  | append_singleton events e ih =>
    rw [afterConcat]
    refine stepUtcRecord (fun a mem => utc a (List.mem_append_right _ mem)) (ih ?_)
    exact fun a mem => utc a (List.mem_append_left _ mem)

theorem finalizationsValidIff {env : Env} {events : List Event} (forward : Forward events)
    (utc : UtcEntries events) (e : Event) :
    (∀ payload ∈ finalizerPosts env (after env events) e, WindowsValid payload) ↔
      EntryPassed env (after env events) e := by
  constructor
  · intro valid f taken silent record active
    have posted := valid _ (finalizerPostsMem.mpr ⟨f,taken,by rw [silent,active]; rfl⟩)
    exact (syntheticValidIff (utcRecords utc f record active) e.finalizeClock).mp posted
  · intro passed payload mem
    obtain ⟨f,taken,built⟩ := finalizerPostsMem.mp mem
    cases live : (after env events).tracker.get f with
    | some state =>
      rw [live] at built
      cases built
      obtain ⟨times,timely⟩ := chronicleTimely env forward f
      exact datedValid ((chronicleKnown env f events).summary state live) timely.dated _
    | none =>
      cases active : (after env events).registry.getByFlightSessionId f with
      | none => rw [live,active] at built; cases built
      | some record =>
        rw [live,active] at built
        cases built
        exact (syntheticValidIff (utcRecords utc f record active) e.finalizeClock).mpr
          (passed f taken live record active)

theorem windowsValidIff (env : Env) (events : List Event) (forward : Forward events)
    (utc : UtcEntries events) :
    Trace.Meets (fun before e =>
      ∀ payload ∈ finalizerPosts env (after env before) e, WindowsValid payload) events ↔
    Trace.Meets (fun before e => EntryPassed env (after env before) e) events := by
  have each : ∀ before e, before ++ [e] <+: events →
      ((∀ payload ∈ finalizerPosts env (after env before) e, WindowsValid payload) ↔
        EntryPassed env (after env before) e) := by
    intro before e within
    obtain ⟨rest,rfl⟩ := within
    refine finalizationsValidIff (forwardFirst (forwardFirst forward)) (fun a mem => utc a ?_) e
    exact List.mem_append_left _ (List.mem_append_left _ mem)
  constructor
  · exact fun valid before e within => (each before e within).mp (valid before e within)
  · exact fun passed before e within => (each before e within).mpr (passed before e within)

def plannedLater : Json :=
  .obj [("flight_session_id",.str "flight-A"),("requested_entry_time",.str "2026-03-09T20:00:00Z")]

def earlyExit : List Event :=
  [(Action.registerSession plannedLater).at 8 18 0 0,
    (Action.exitRequest (.obj [("flight_session_id",.str "flight-A")])).at 8 18 0 10,
    (Action.graceStarts 0).at 8 18 0 10]

def elapsed : Event := (Action.graceChecks 0).at 8 18 5 10

theorem earlyExitForward : Forward (earlyExit ++ [elapsed]) where
  within := by
    intro e mem strandedNow forceCloseNow acts
    simp only [earlyExit,elapsed,List.cons_append,List.nil_append,List.mem_cons,
      List.not_mem_nil,or_false] at mem
    rcases mem with rfl | rfl | rfl | rfl <;> cases acts
  between := by decide +kernel

theorem earlyExitUtc : UtcEntries (earlyExit ++ [elapsed]) := by
  intro e mem body p acts decoded text planned
  simp only [earlyExit,elapsed,List.cons_append,List.nil_append,List.mem_cons,
    List.not_mem_nil,or_false] at mem
  rcases mem with rfl | rfl | rfl | rfl <;> cases acts
  cases decoded
  cases planned
  exact .inr ⟨(march 8 20 0 0).val,by decide +kernel,rfl⟩

theorem earlyExitWindows :
    Trace.Meets (fun before e => ∀ payload ∈ finalizerPosts deployment (after deployment before) e,
      WindowsValid payload) (earlyExit ++ [elapsed]) ↔
    Trace.Meets (fun before e => EntryPassed deployment (after deployment before) e)
      (earlyExit ++ [elapsed]) :=
  windowsValidIff deployment (earlyExit ++ [elapsed]) earlyExitForward earlyExitUtc

theorem plannedEntryReversed : Forward (earlyExit ++ [elapsed]) ∧
    UtcEntries (earlyExit ++ [elapsed]) ∧
    ¬ Trace.Meets (fun before e =>
      ∀ payload ∈ finalizerPosts deployment (after deployment before) e, WindowsValid payload)
        (earlyExit ++ [elapsed]) := by
  refine ⟨earlyExitForward,earlyExitUtc,fun valid => ?_⟩
  have passed := (finalizationsValidIff (forwardFirst earlyExitForward)
    (fun e mem => earlyExitUtc e (List.mem_append_left _ mem)) elapsed).mp
    (valid earlyExit elapsed (List.prefix_refl _))
  have enters := passed "flight-A" (by decide +kernel)
    (Option.isNone_iff_eq_none.mp (by decide +kernel)) _ rfl "2026-03-09T20:00:00Z"
    (march 8 20 0 0).val rfl (by decide +kernel)
  exact absurd enters (by decide +kernel)

end FlightMonitor.TimeWindows
