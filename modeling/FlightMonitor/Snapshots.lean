import FlightMonitor.Chronicle
import FlightMonitor.SadeCentral

/-! The two snapshots of one state. The dashboard and SADE Central build their entries apart
and derive the armed fields through different guards; in every state of a run they agree with
each other, with the counters of the registry and with what was folded in last. -/
namespace FlightMonitor.Snapshots
open PyValue IsoTime FlownIntervals Chronicle

def lastFolded (env : Env) (f : String) (events : List Event) : Option Bool :=
  ((chronicle env f events).filterMap Prod.snd).getLast?

structure ListsOnce (reg : ActiveSessionRegistry) (ids : List String) : Prop where
  once : ids.Nodup
  active : ∀ f, f ∈ ids ↔ (reg.getByFlightSessionId f).isSome

structure ZonesPartition (reg : ActiveSessionRegistry) (zones : List Zone) : Prop where
  increasing : zones.Pairwise (fun a b => a.sadeZoneId < b.sadeZoneId)
  inhabited : ∀ zone ∈ zones, zone.sessions ≠ []
  own : ∀ zone ∈ zones, ∀ entry ∈ zone.sessions, ∃ session,
    reg.getByFlightSessionId entry.flightSessionId = some session ∧
      session.zoneKey = zone.sadeZoneId

def armed (drone : DroneEntry) : Prop := drone.live.bind LiveBlock.currentlyArmed = some true

def segmentOpen (session : SessionEntry) : Prop :=
  session.live.map DashboardLive.currentSegmentOpen = some true

structure EntriesAgree (folded : Option Bool) (drone : DroneEntry) (session : SessionEntry) :
    Prop where
  status : drone.status = session.status
  flags : drone.flags = session.flags
  exit : drone.sessionWindow.exitRequestedAt = session.exitRequestedAt
  flying : session.exitRequestedAt = none →
    (drone.status = .flying ↔ armed drone) ∧ (armed drone ↔ segmentOpen session) ∧
      (segmentOpen session ↔ folded = some true)

structure SnapshotsAgree (env : Env) (events : List Event) (central : DroneSnapshot)
    (board : DashboardSnapshot) : Prop where
  drones : ListsOnce (after env events).registry (central.drones.map DroneEntry.flightSessionId)
  sessions : ListsOnce (after env events).registry
    (board.entries.map SessionEntry.flightSessionId)
  zones : ZonesPartition (after env events).registry board.zones
  entries : ∀ drone ∈ central.drones, ∀ session ∈ board.entries,
    drone.flightSessionId = session.flightSessionId →
      EntriesAgree (lastFolded env drone.flightSessionId events) drone session
  statuses : central.byStatus.values.sum = central.activeDrones
  actives : central.activeDrones = board.activeSessions
  count : board.activeSessions = (after env events).registry.count
  pastDeadline : central.byFlag.get .pastDeadline = some board.sessionsPastDeadline ∧
    board.sessionsPastDeadline = (after env events).registry.countPastDeadline
  stranded : central.byFlag.get .stranded = some board.sessionsStranded ∧
    board.sessionsStranded = (after env events).registry.countStranded

theorem snapshotKeys (reg : ActiveSessionRegistry) :
    reg.snapshot.values.map ActiveFlightSession.flightSessionId =
      reg.snapshot.entries.map Prod.fst := by
  rw [Dict.values,List.map_map]
  refine List.map_congr_left (fun entry mem => ?_)
  exact reg.filed entry.1 entry.2 (Dict.memEntries.mp mem)

theorem listsSnapshot (reg : ActiveSessionRegistry) :
    ListsOnce reg (reg.snapshot.values.map ActiveFlightSession.flightSessionId) where
  once := by
    rw [snapshotKeys]
    exact reg.snapshot.unique
  active := by
    intro f
    rw [List.mem_map]
    constructor
    · intro listed
      obtain ⟨session,mem,rfl⟩ := listed
      rw [ActiveSessionRegistry.memSnapshot.mp mem]
      rfl
    · intro active
      obtain ⟨session,found⟩ := Option.isSome_iff_exists.mp active
      have filed := ActiveSessionRegistry.recordFiled found
      exact ⟨session,ActiveSessionRegistry.memSnapshot.mpr (by rw [filed]; exact found),filed⟩

theorem listsPerm {reg : ActiveSessionRegistry} {ids ids' : List String} (same : ids.Perm ids')
    (lists : ListsOnce reg ids') : ListsOnce reg ids :=
  ⟨same.nodup_iff.mpr lists.once,fun f => same.mem_iff.trans (lists.active f)⟩

theorem zonesPartition (reg : ActiveSessionRegistry) (tracker : DroneStateTracker)
    (now : UtcTime) : ZonesPartition reg (buildDashboardSnapshot reg tracker now).zones where
  increasing := zonesStrict reg tracker now
  inhabited := fun _ => zonesInhabited
  own := by
    intro zone mem entry inside
    have placed : (zone.sadeZoneId,entry) ∈ zonedEntries reg tracker now :=
      (dashboardPartition reg tracker now).subset
        (List.mem_flatMap.mpr ⟨zone,mem,List.mem_map.mpr ⟨entry,inside,rfl⟩⟩)
    obtain ⟨session,active,same⟩ := List.mem_map.mp placed
    obtain ⟨key,rfl⟩ := Prod.mk.inj same
    exact ⟨session,ActiveSessionRegistry.memSnapshot.mp active,key⟩

theorem lastClosed (stamp : String) (runs : List (String × Option String)) :
    ∀ run, (closeLast stamp runs).getLast? = some run → run.2 ≠ none := by
  induction runs with
  | nil => intro run last; cases last
  | cons head rest ih =>
    cases rest with
    | nil =>
      intro run last
      cases last
      simp
    | cons next rest =>
      intro run last
      refine ih run ?_
      rwa [closeLast,List.getLast?_cons_of_ne_nil] at last
      cases rest <;> simp [closeLast]

theorem lastRunOpen (ms : List Mark) :
    (∃ run, (armedRuns false ms).getLast? = some run ∧ run.2 = none) ↔
      flyingAfter false ms = true := by
  induction ms using List.reverseRecOn with
  | nil => simp [armedRuns,flyingAfter]
  | append_singleton ms m ih =>
    obtain ⟨stamp,armed⟩ := m
    rw [flyingConcat]
    cases armed with
    | true =>
      rw [armedRunsConcatArmed]
      by_cases flying : flyingAfter false ms = true
      · simpa [flying] using ih.mpr flying
      · simp [flying]
    | false =>
      rw [armedRunsConcatDisarmed]
      by_cases flying : flyingAfter false ms = true
      · rw [if_pos flying]
        refine iff_of_false (fun last => ?_) (by simp)
        obtain ⟨run,last,unclosed⟩ := last
        exact lastClosed stamp _ run last unclosed
      · rw [if_neg flying]
        exact iff_of_false (fun last => flying (ih.mp last)) (by simp)

theorem flyingMarks (flying : Bool) (ms : List Mark) :
    flyingAfter flying ms = ((ms.map Prod.snd).getLast?).getD flying := by
  induction ms using List.reverseRecOn with
  | nil => rfl
  | append_singleton ms m ih => simp [flyingConcat]

theorem marksArmed (history : List Observation) :
    (marks history).map Prod.snd = history.filterMap Prod.snd := by
  rw [marks,List.map_filterMap]
  refine List.filterMap_congr (fun o _ => ?_)
  cases o.2 <;> rfl

theorem openIff {state : DroneState} {history : List Observation}
    (summary : Summarises state history) : state.openSegment.isSome = true ↔
      (history.filterMap Prod.snd).getLast? = some true := by
  have ends : (armedRuns false (marks history)).getLast? =
      state.segments.getLast?.map (fun s => (s.timeInUtc,s.timeOutUtc)) := by
    rw [← summary.detects.segments,windows,List.getLast?_map]
  have flown := flyingMarks false (marks history)
  rw [marksArmed] at flown
  calc state.openSegment.isSome = true
      ↔ ∃ run, (armedRuns false (marks history)).getLast? = some run ∧ run.2 = none := by
        rw [ends,DroneState.openSegment]
        cases state.segments.getLast? with
        | none => simp
        | some segment => cases unclosed : segment.timeOutUtc <;> simp [Option.filter,unclosed]
    _ ↔ flyingAfter false (marks history) = true := lastRunOpen _
    _ ↔ (history.filterMap Prod.snd).getLast? = some true := by
        rw [flown]
        cases (history.filterMap Prod.snd).getLast? with
        | none => simp
        | some armed => simp

theorem openSeen {state : DroneState} {history : List Observation}
    (summary : Summarises state history) (unclosed : state.openSegment.isSome = true) :
    state.armedFieldSeen = true := by
  refine summary.detects.seen.mpr (fun none => ?_)
  have last := (openIff summary).mp unclosed
  rw [← marksArmed,none] at last
  cases last

theorem entriesAgree {session : ActiveFlightSession} {live : Option DroneState}
    {history : List Observation} (known : Known live history) (now now' : UtcTime) :
    EntriesAgree (history.filterMap Prod.snd).getLast? (buildDroneEntry session live now)
      (buildSessionEntry session live now') where
  status := rfl
  flags := rfl
  exit := rfl
  flying := by
    intro unasked
    change session.exitRequestedAt = none at unasked
    cases live with
    | none =>
      cases known.blank rfl
      simp [buildDroneEntry,buildSessionEntry,classifySessionStatus,unasked,armed,segmentOpen]
    | some state =>
      have summary := known.summary state rfl
      rw [← openIff summary]
      have guarded := openSeen summary
      simp only [buildDroneEntry,buildSessionEntry,classifySessionStatus,unasked,armed,
        segmentOpen,buildLiveBlock,buildDashboardLive,Option.map_some,Option.bind_some]
      generalize state.openSegment.isSome = unclosed at guarded ⊢
      generalize state.armedFieldSeen = seen at guarded ⊢
      cases unclosed with
      | true => simp [guarded rfl]
      | false => cases seen <;> simp

theorem snapshotsAgree (env : Env) (events : List Event) (now now' : UtcTime) :
    SnapshotsAgree env events
      (buildDroneSnapshot (after env events).registry (after env events).tracker now)
      (buildDashboardSnapshot (after env events).registry (after env events).tracker now') := by
  have central := dronesEntries (after env events).registry (after env events).tracker now
  have board := dashboardEntries (after env events).registry (after env events).tracker now'
  have lists := listsSnapshot (after env events).registry
  have active : ∀ session ∈ (after env events).registry.snapshot.values,
      (after env events).registry.getByFlightSessionId session.flightSessionId = some session :=
    fun session mem => ActiveSessionRegistry.memSnapshot.mp mem
  refine ⟨?_,?_,zonesPartition ..,?_,?_,?_,rfl,⟨(flagTotal ..).1,rfl⟩,⟨(flagTotal ..).2,rfl⟩⟩
  · rw [central,droneEntries,List.map_map]
    exact lists
  · refine listsPerm (board.map _) ?_
    rw [List.map_map]
    exact lists
  · intro drone mem entry inside same
    rw [central] at mem
    obtain ⟨session,first,rfl⟩ := List.mem_map.mp mem
    obtain ⟨session',second,rfl⟩ := List.mem_map.mp (board.subset inside)
    have same : session.flightSessionId = session'.flightSessionId := same
    have one := active session first
    rw [same,active session' second] at one
    cases one
    exact entriesAgree (chronicleKnown env session.flightSessionId events) now now'
  · rw [statusTotal]
    simp only [buildDroneSnapshot,dronePassAdds,droneEntriesLength]
  · simp only [buildDroneSnapshot,dronePassAdds,droneEntriesLength]
    rfl

end FlightMonitor.Snapshots
