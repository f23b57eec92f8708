import FlightMonitor.Service

/-! The timestamps of a report. `_to_utc_z` parses a timestamp, writes its fields as they
stand and puts a `Z` behind them, so the text denotes the instant that was sent, cut off to
the second, for the timestamps whose fields are those of UTC. -/
namespace FlightMonitor.UtcZ
open PyValue IsoTime

def Digits (width : Nat) (text : List Char) : Prop :=
  text.length = width ∧ ∀ c ∈ text, (digitValue c).isSome

-- `YYYY-MM-DDTHH:MM:SSZ`
def ZForm (text : String) : Prop :=
  ∃ year month day hour minute second, Digits 4 year ∧ Digits 2 month ∧ Digits 2 day ∧
    Digits 2 hour ∧ Digits 2 minute ∧ Digits 2 second ∧
    text.toList = year ++ '-' :: month ++ '-' :: day ++ 'T' :: hour ++ ':' :: minute ++
      ':' :: second ++ ['Z']

def denoted (text : String) : Option Int := (fromisoformat text).map instant

def truncated (i : Int) : Int := i / secondMicros * secondMicros

structure Truncates (text : String) (i : Int) : Prop where
  form : ZForm text
  instant : denoted text = some (truncated i)

/-- What a report says about a timestamp `s` that stands for `t`, alone, beside another one
that is kept, as the time of an exit request and as a planned entry time. -/
structure KeepsInstant (now : UtcTime) (s : String) (t : DateTime) : Prop where
  text : Truncates (toUtcZ now (some s)) (instant t)
  order : ∀ other u, fromisoformat other = some u →
    Truncates (toUtcZ now (some other)) (instant u) →
      ∀ i j, denoted (toUtcZ now (some s)) = some i → denoted (toUtcZ now (some other)) = some j →
        (instant t ≤ instant u → i ≤ j) ∧ (instant u ≤ instant t → j ≤ i)
  exitTime : ∀ state : DroneState, state.exitRequestedAt = some s → ∀ timeUtc reason,
    .exitRequest timeUtc reason ∈ (buildFinalizationPayload state now).events →
      Truncates timeUtc (instant t)
  entryTime : ∀ session : ActiveFlightSession, session.requestedEntryTime = some s →
    ∀ timeIn timeOut batteryIn batteryOut, .flightSegment timeIn timeOut batteryIn batteryOut ∈
      (buildFinalizationPayload (syntheticState session now) now).events →
        Truncates timeIn (instant t)

def WithinSecond (t : DateTime) : Prop :=
  0 ≤ (t.val.microsecond : Int) - t.val.utcoffset.getD 0 ∧
    (t.val.microsecond : Int) - t.val.utcoffset.getD 0 < secondMicros

theorem digitsDecimal (width n : Nat) : Digits width (decimal width n) := by
  refine ⟨decimalLength width n,fun c mem => ?_⟩
  have table : ['0','1','2','3','4','5','6','7','8','9'].all
      (fun c => (digitValue c).isSome) = true := by decide
  exact List.all_eq_true.mp table c (decimalDigits mem)

theorem strftimeForm (t : DateTime) : ZForm (strftimeZ t) := by
  refine ⟨decimal 4 t.val.year,decimal 2 t.val.month,decimal 2 t.val.day,decimal 2 t.val.hour,
    decimal 2 t.val.minute,decimal 2 t.val.second,digitsDecimal ..,digitsDecimal ..,
    digitsDecimal ..,digitsDecimal ..,digitsDecimal ..,digitsDecimal ..,?_⟩
  simp [strftimeZ,dateText,clockText,fractionText]

theorem strftimeDenotes (t : DateTime) : denoted (strftimeZ t) = some (instant (wholeUtc t)) := by
  rw [denoted,fromisoformatStrftimeZ]
  rfl

theorem readNonempty {s : String} {t : DateTime} (read : fromisoformat s = some t) : s ≠ "" := by
  intro empty
  subst s
  cases read

theorem toUtcZRead (now : UtcTime) {s : String} {t : DateTime} (read : fromisoformat s = some t) :
    toUtcZ now (some s) = strftimeZ t := by
  simp only [toUtcZ,if_neg (readNonempty read),read]

theorem truncatedMono {i j : Int} (le : i ≤ j) : truncated i ≤ truncated j :=
  Int.mul_le_mul_of_nonneg_right (Int.ediv_le_ediv (by decide) le) (by decide)

theorem wholeUtcTruncated (t : DateTime) :
    instant (wholeUtc t) = truncated (instant t) ↔ WithinSecond t := by
  have whole := instantWholeUtc t
  obtain ⟨k,seconds⟩ := wholeUtcSeconds t
  simp only [truncated,WithinSecond,secondMicros] at seconds ⊢
  omega

theorem strftimeTruncates {t : DateTime} :
    Truncates (strftimeZ t) (instant t) ↔ WithinSecond t := by
  rw [← wholeUtcTruncated]
  constructor
  · intro kept
    have same := kept.instant
    rw [strftimeDenotes] at same
    exact Option.some.inj same
  · intro same
    exact ⟨strftimeForm t,by rw [strftimeDenotes,same]⟩

theorem exitEventText {state : DroneState} {now : UtcTime} {s timeUtc reason : String}
    (stamped : state.exitRequestedAt = some s)
    (mem : .exitRequest timeUtc reason ∈ (buildFinalizationPayload state now).events) :
    timeUtc = toUtcZ now (some s) := by
  rcases List.mem_append.mp mem with segment | exit_
  · unfold segmentEvents at segment
    split at segment
    · obtain ⟨_,-,same⟩ := List.mem_map.mp segment
      cases same
    · cases List.mem_singleton.mp segment
  · rw [exitEvents,stamped] at exit_
    cases List.mem_singleton.mp exit_
    rfl

theorem entryEventText {session : ActiveFlightSession} {now : UtcTime} {s timeIn timeOut : String}
    {batteryIn batteryOut : BatteryState} (named : s ≠ "")
    (planned : session.requestedEntryTime = some s)
    (mem : .flightSegment timeIn timeOut batteryIn batteryOut ∈
      (buildFinalizationPayload (syntheticState session now) now).events) :
    timeIn = toUtcZ now (some s) := by
  simp [buildFinalizationPayload,segmentEvents,exitEvents,syntheticState,planned,named] at mem
  exact mem.1

theorem keepsInstantIff (now : UtcTime) (s : String) (t : DateTime)
    (read : fromisoformat s = some t) : KeepsInstant now s t ↔ WithinSecond t := by
  have written := toUtcZRead now read
  constructor
  · intro kept
    have text := kept.text
    rw [written] at text
    exact strftimeTruncates.mp text
  · intro within
    have text : Truncates (toUtcZ now (some s)) (instant t) := by
      rw [written]
      exact strftimeTruncates.mpr within
    refine ⟨text,?_,?_,?_⟩
    · intro other u _ kept i j first second
      cases first.symm.trans text.instant
      cases second.symm.trans kept.instant
      exact ⟨truncatedMono,truncatedMono⟩
    · intro state stamped timeUtc reason mem
      rw [exitEventText stamped mem]
      exact text
    · intro session planned timeIn timeOut batteryIn batteryOut mem
      rw [entryEventText (readNonempty read) planned mem]
      exact text

def exitStamp : DateTime := ⟨⟨2026,3,9,20,0,0,0,some 7200000000⟩,by decide⟩

theorem utcStampKept : KeepsInstant (march 8 18 0 0) (isoformat (march 8 18 0 0).val)
    (march 8 18 0 0).val :=
  (keepsInstantIff (march 8 18 0 0) (isoformat (march 8 18 0 0).val) (march 8 18 0 0).val
    (fromisoformatIsoformat _)).mpr ⟨by decide,by decide⟩

theorem offsetDropped : ¬ KeepsInstant (march 8 18 0 0) (isoformat exitStamp) exitStamp := by
  intro kept
  exact absurd kept.text.instant (by decide +kernel)

end FlightMonitor.UtcZ
