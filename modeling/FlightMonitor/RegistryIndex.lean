import FlightMonitor.Registry
import FlightMonitor.Trace

/-! Agreement of the two dictionaries of the registry over runs of its operations. The
drone index says who flies a drone; the records say it too, and a re-registration of
an active id can make them part. -/
namespace FlightMonitor.RegistryIndex
open ActiveSessionRegistry

inductive Operation where
  | register (session : ActiveFlightSession)
  | ensureLocalSession (drone flightUuid evalUuid registeredAt : String)
  | complete (f : String)

def apply (reg : ActiveSessionRegistry) : Operation → ActiveSessionRegistry
  | .register session =>
    match reg.register session with
    | .ok reg => reg
    | .error _ => reg
  | .ensureLocalSession drone flightUuid evalUuid registeredAt =>
    match reg.ensureLocalSession drone flightUuid evalUuid registeredAt with
    | .ok (reg,_) => reg
    | .error _ => reg
  | .complete f => reg.complete f

def registryAfter (ops : List Operation) : ActiveSessionRegistry := Trace.final apply empty ops

def Carries (reg : ActiveSessionRegistry) (f drone : String) : Prop :=
  ∃ s, reg.getByFlightSessionId f = some s ∧ s.droneId = some drone

def Agree (reg : ActiveSessionRegistry) : Prop :=
  ∀ drone f, drone ≠ "" → (reg.indexed drone = some f ↔ Carries reg f drone)

structure Consistent (reg : ActiveSessionRegistry) : Prop where
  agree : Agree reg
  single : ∀ drone f g, drone ≠ "" → Carries reg f drone → Carries reg g drone → f = g
  honest : ∀ session, reg.getByFlightSessionId session.flightSessionId = none →
    (∃ e, reg.register session = .error e) →
    ∃ drone g, session.droneId = some drone ∧ g ≠ session.flightSessionId ∧ Carries reg g drone

theorem consistentOfAgree {reg : ActiveSessionRegistry} (agree : Agree reg) : Consistent reg where
  agree := agree
  single := by
    intro drone f g named left right
    have first := (agree drone f named).mpr left
    have second := (agree drone g named).mpr right
    exact Option.some.inj (first.symm.trans second)
  honest := by
    intro session _ raises
    obtain ⟨e,refused⟩ := raises
    rcases registerCases reg session with done | ⟨-,-,drone,active,key,own,other⟩
    · rw [done] at refused; cases refused
    · obtain ⟨carried,named⟩ := Option.filter_eq_some_iff.mp key
      exact ⟨drone,active,carried,other,(agree drone active (by simpa using named)).mp own⟩

/-- What a registration of an active id has to respect: the drone of the record it
replaces stays, or a record without one gets a drone that no other record carries. -/
def KeepsDrone (reg : ActiveSessionRegistry) (session : ActiveFlightSession) : Prop :=
  ∀ old, reg.getByFlightSessionId session.flightSessionId = some old →
    session.droneKey = old.droneKey ∨
    old.droneKey = none ∧ ∀ drone g, session.droneKey = some drone → Carries reg g drone →
      g = session.flightSessionId

def Respects (reg : ActiveSessionRegistry) : Operation → Prop
  | .register session => KeepsDrone reg session
  | .ensureLocalSession drone flightUuid evalUuid registeredAt =>
    reg.getByDroneId drone = none →
      KeepsDrone reg (syntheticSession drone flightUuid evalUuid registeredAt)
  | .complete _ => True

theorem keyOf {s : ActiveFlightSession} {drone : String} :
    s.droneKey = some drone ↔ s.droneId = some drone ∧ drone ≠ "" := by
  simp [ActiveFlightSession.droneKey,Option.filter_eq_some_iff]

theorem carriesStore {reg : ActiveSessionRegistry} {session : ActiveFlightSession}
    {g drone : String} : Carries (reg.store session) g drone ↔
      if session.flightSessionId = g then session.droneId = some drone else Carries reg g drone := by
  simp only [Carries,getStore]
  split <;> simp

theorem carriesOwn {reg : ActiveSessionRegistry} {session : ActiveFlightSession} {drone : String} :
    Carries (reg.store session) session.flightSessionId drone ↔ session.droneId = some drone := by
  simp [carriesStore]

theorem carriesOther {reg : ActiveSessionRegistry} {session : ActiveFlightSession}
    {g drone : String} (other : g ≠ session.flightSessionId) :
    Carries (reg.store session) g drone ↔ Carries reg g drone := by
  simp [carriesStore,Ne.symm other]

theorem indexedStoreOther {reg : ActiveSessionRegistry} {session : ActiveFlightSession}
    {g drone : String} (other : session.flightSessionId ≠ g) :
    (reg.store session).indexed drone = some g ↔
      session.droneKey ≠ some drone ∧ reg.indexed drone = some g := by
  rw [indexedStore]
  by_cases key : session.droneKey = some drone <;> simp [key,other]

theorem carriesComplete {reg : ActiveSessionRegistry} {f g drone : String} :
    Carries (reg.complete f) g drone ↔ f ≠ g ∧ Carries reg g drone := by
  simp only [Carries,getComplete]
  by_cases here : f = g <;> simp [here]

theorem completeKeepsAgreement {reg : ActiveSessionRegistry} (agree : Agree reg) (f : String) :
    Agree (reg.complete f) := by
  intro drone g named
  have before := agree drone g named
  rw [indexedComplete,carriesComplete]
  by_cases here : f = g
  · subst g
    constructor
    · intro found
      split at found
      · cases found
      · rename_i keep
        exact absurd ⟨found,before.mp found⟩ keep
    · intro other
      exact absurd rfl other.1
  · rw [← before]
    split
    · rename_i gone
      rw [gone.1]
      simp [here]
    · simp [here]

theorem storeKeepsAgreement {reg : ActiveSessionRegistry} {session : ActiveFlightSession}
    (agree : Agree reg)
    (own : ∀ drone g, session.droneKey = some drone → reg.indexed drone = some g →
      g = session.flightSessionId)
    (kept : ∀ drone, drone ≠ "" → Carries reg session.flightSessionId drone →
      session.droneKey = some drone) : Agree (reg.store session) := by
  intro drone g named
  have before := agree drone g named
  rw [indexedStore]
  by_cases key : session.droneKey = some drone
  · have carried := (keyOf.mp key).1
    rw [if_pos key]
    by_cases here : g = session.flightSessionId
    · subst g
      simp [carriesOwn,carried]
    · rw [carriesOther here,← before]
      constructor
      · intro same; exact absurd (Option.some.inj same).symm here
      · intro found; exact absurd (own drone g key found) here
  · rw [if_neg key]
    by_cases here : g = session.flightSessionId
    · subst g
      rw [carriesOwn,before]
      constructor
      · intro carried; exact absurd (kept drone named carried) key
      · intro carried; exact absurd (keyOf.mpr ⟨carried,named⟩) key
    · rw [carriesOther here,before]

theorem registerKeepsAgreement {reg reg' : ActiveSessionRegistry} {session : ActiveFlightSession}
    (agree : Agree reg) (keeps : KeepsDrone reg session) (done : reg.register session = .ok reg') :
    Agree reg' := by
  have written : reg' = reg.store session ∧ ∀ drone g, session.droneKey = some drone →
      reg.indexed drone = some g → reg.getByFlightSessionId session.flightSessionId = none →
      g = session.flightSessionId := by
    rcases registerCases reg session with stored | ⟨⟨text,refused⟩,-⟩
    · refine ⟨Except.ok.inj (done.symm.trans stored),?_⟩
      intro drone g key found fresh
      by_contra other
      simp [register,fresh,key,found,other] at stored
    · rw [refused] at done; cases done
  obtain ⟨rfl,free⟩ := written
  cases active : reg.getByFlightSessionId session.flightSessionId with
  | none =>
    refine storeKeepsAgreement agree (fun drone g key found => free drone g key found active) ?_
    intro drone _ carried
    obtain ⟨s,found,-⟩ := carried
    rw [active] at found; cases found
  | some old =>
    have oldCarries : ∀ drone, drone ≠ "" →
        (Carries reg session.flightSessionId drone ↔ old.droneKey = some drone) := by
      intro drone named
      simp [Carries,active,keyOf,named]
    rcases keeps old active with same | ⟨bare,unclaimed⟩
    · refine storeKeepsAgreement agree ?_ ?_
      · intro drone g key found
        have named := (keyOf.mp key).2
        have mine := (agree drone _ named).mpr ((oldCarries drone named).mpr (same ▸ key))
        exact Option.some.inj (found.symm.trans mine)
      · intro drone named carried
        rw [same]; exact (oldCarries drone named).mp carried
    · refine storeKeepsAgreement agree ?_ ?_
      · intro drone g key found
        exact unclaimed drone g key ((agree drone g (keyOf.mp key).2).mp found)
      · intro drone named carried
        rw [(oldCarries drone named).mp carried] at bare; cases bare

theorem registerBreaksAgreement {reg : ActiveSessionRegistry} {session : ActiveFlightSession}
    (agree : Agree reg) (breaks : ¬ KeepsDrone reg session) :
    ∃ reg', reg.register session = .ok reg' ∧ ¬ Agree reg' := by
  unfold KeepsDrone at breaks
  push Not at breaks
  obtain ⟨old,active,differ,claimed⟩ := breaks
  refine ⟨reg.store session,by simp [register,active],?_⟩
  intro after
  cases key : old.droneKey with
  | some drone =>
    -- The entry of the replaced record's drone is still there.
    obtain ⟨carried,named⟩ := keyOf.mp key
    have stale := (agree drone _ named).mpr ⟨old,active,carried⟩
    have changed : session.droneKey ≠ some drone := fun same => differ (same.trans key.symm)
    have entry := (after drone session.flightSessionId named).mp
      (by rw [indexedStore,if_neg changed]; exact stale)
    exact changed (keyOf.mpr ⟨carriesOwn.mp entry,named⟩)
  | none =>
    obtain ⟨drone,g,newKey,other,away⟩ := claimed key
    have named := (keyOf.mp newKey).2
    have entry := (after drone g named).mpr ((carriesOther away).mpr other)
    rw [indexedStore,if_pos newKey] at entry
    exact away (Option.some.inj entry).symm

theorem stepKeepsAgreement {reg : ActiveSessionRegistry} {op : Operation} (agree : Agree reg)
    (respects : Respects reg op) : Agree (apply reg op) := by
  cases op with
  | register session =>
    simp only [apply]
    split
    · exact registerKeepsAgreement agree respects (by assumption)
    · exact agree
  | complete f => exact completeKeepsAgreement agree f
  | ensureLocalSession drone flightUuid evalUuid registeredAt =>
    simp only [apply,ensureLocalSession]
    cases known : reg.getByDroneId drone with
    | some existing => exact agree
    | none =>
      simp only [bind,Except.bind]
      cases done : reg.register (syntheticSession drone flightUuid evalUuid registeredAt) with
      | error e => exact agree
      | ok reg' => exact registerKeepsAgreement agree (respects known) done

theorem stepBreaksAgreement {reg : ActiveSessionRegistry} {op : Operation} (agree : Agree reg)
    (breaks : ¬ Respects reg op) : ¬ Agree (apply reg op) := by
  cases op with
  | register session =>
    obtain ⟨reg',done,apart⟩ := registerBreaksAgreement agree breaks
    simpa only [apply,done] using apart
  | complete f => exact absurd trivial breaks
  | ensureLocalSession drone flightUuid evalUuid registeredAt =>
    simp only [Respects,Classical.not_imp] at breaks
    obtain ⟨known,breaks⟩ := breaks
    obtain ⟨reg',done,apart⟩ := registerBreaksAgreement agree breaks
    simpa only [apply,ensureLocalSession,known,done,bind,Except.bind] using apart

theorem agreementIffDronesRespected (ops : List Operation) :
    Trace.Throughout (fun before => Consistent (registryAfter before)) ops ↔
      Trace.Meets (fun before op => Respects (registryAfter before) op) ops := by
  refine Trace.goodIffGuarded (fun before => Agree (registryAfter before)) ?_ ?_ ?_ ?_ ops
  · intro drone f _
    simp [registryAfter,Carries]
  · intro before agree
    exact consistentOfAgree agree
  · intro before op agree respects
    rw [registryAfter,Trace.finalConcat]
    exact stepKeepsAgreement agree respects
  · intro before op agree breaks holds
    rw [registryAfter,Trace.finalConcat] at holds
    exact stepBreaksAgreement agree breaks holds.agree

def flying (f : String) (drone : String) : ActiveFlightSession :=
  { flightSessionId := f, droneId := some drone, registeredAt := "2026-03-09T18:00:00+00:00" }

theorem reRegistrationLeavesStaleEntry : ¬ Consistent (registryAfter
    [.register (flying "flight-A" "drone-1"),.register (flying "flight-A" "drone-2")]) := by
  intro consistent
  obtain ⟨s,found,carried⟩ := (consistent.agree "drone-1" "flight-A" (by decide)).mp (by decide)
  have record : s = flying "flight-A" "drone-2" := Option.some.inj (found.symm.trans rfl)
  subst record
  exact absurd carried (by decide)

end FlightMonitor.RegistryIndex
