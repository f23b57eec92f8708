import Mathlib.Data.Nat.Digits.Defs
import Mathlib.Tactic.Ring

/-! Calendar date-times and their ISO 8601 text, after the `datetime` class of the
Python 3.12 standard library: `isoformat`, `strftime` with the one format used here,
`fromisoformat`, and the instant a date-time denotes. Instants count microseconds
from 0001-01-01T00:00:00 UTC. -/
namespace IsoTime

def isLeap (year : Nat) : Bool := year % 4 == 0 && (year % 100 != 0 || year % 400 == 0)

def daysInMonth (year : Nat) : Nat → Nat
  | 2 => if isLeap year then 29 else 28
  | 4 | 6 | 9 | 11 => 30
  | _ => 31

def daysBeforeYear (year : Nat) : Nat :=
  let y := year - 1
  y * 365 + y / 4 - y / 100 + y / 400

def daysBeforeMonth (year : Nat) : Nat → Nat
  | 0 | 1 => 0
  | month+1 => daysBeforeMonth year month + daysInMonth year month

def ymd2ord (year month day : Nat) : Nat :=
  daysBeforeYear year + daysBeforeMonth year month + day

structure Fields where
  year : Nat
  month : Nat
  day : Nat
  hour : Nat
  minute : Nat
  second : Nat
  microsecond : Nat
  -- Microseconds east of UTC; `none` for a naive date-time.
  utcoffset : Option Int
  deriving DecidableEq, Repr

def dayMicros : Nat := 86400000000

def OffsetValid : Option Int → Prop
  | none => True
  | some o => o.natAbs < dayMicros
instance (o) : Decidable (OffsetValid o) := by cases o <;> unfold OffsetValid <;> infer_instance

structure Fields.Valid (f : Fields) : Prop where
  year : 1 ≤ f.year ∧ f.year ≤ 9999
  month : 1 ≤ f.month ∧ f.month ≤ 12
  day : 1 ≤ f.day ∧ f.day ≤ daysInMonth f.year f.month
  hour : f.hour < 24
  minute : f.minute < 60
  second : f.second < 60
  microsecond : f.microsecond < 1000000
  utcoffset : OffsetValid f.utcoffset

instance (f : Fields) : Decidable f.Valid :=
  decidable_of_iff ((1 ≤ f.year ∧ f.year ≤ 9999) ∧ (1 ≤ f.month ∧ f.month ≤ 12) ∧
      (1 ≤ f.day ∧ f.day ≤ daysInMonth f.year f.month) ∧ f.hour < 24 ∧ f.minute < 60 ∧
      f.second < 60 ∧ f.microsecond < 1000000 ∧ OffsetValid f.utcoffset)
    ⟨fun ⟨a,b,c,d,e,g,h,i⟩ => ⟨a,b,c,d,e,g,h,i⟩,fun ⟨a,b,c,d,e,g,h,i⟩ => ⟨a,b,c,d,e,g,h,i⟩⟩

abbrev DateTime := {f : Fields // f.Valid}

abbrev UtcTime := {t : DateTime // t.val.utcoffset = some 0}

def secondMicros : Int := 1000000

-- Two date-times compare and subtract by their instants, a naive one read as UTC.
def instant (t : DateTime) : Int :=
  ((((ymd2ord t.val.year t.val.month t.val.day - 1 : Nat) * 24 + t.val.hour : Nat) * 60 +
    t.val.minute : Nat) * 60 + t.val.second : Nat) * secondMicros + t.val.microsecond -
    t.val.utcoffset.getD 0

def UtcTime.instant (t : UtcTime) : Int := IsoTime.instant t.val

def digit (d : Nat) : Char := Char.ofNat (48 + d)

def digitValue (c : Char) : Option Nat :=
  if 48 ≤ c.toNat ∧ c.toNat ≤ 57 then some (c.toNat - 48) else none

def decimal : Nat → Nat → List Char
  | 0,_ => []
  | width+1,n => digit (n / 10^width % 10) :: decimal width n

def number : Nat → Nat → List Char → Option (Nat × List Char)
  | 0,sofar,text => some (sofar,text)
  | width+1,sofar,c :: text => do
      let d ← digitValue c
      number width (sofar * 10 + d) text
  | _+1,_,[] => none

theorem digitRead {d : Nat} (small : d < 10) : digitValue (digit d) = some d := by
  have table : ∀ d < 10, digitValue (digit d) = some d := by decide
  exact table d small

theorem numberDecimal (width n sofar : Nat) (text : List Char) :
    number width sofar (decimal width n ++ text) = some (sofar * 10^width + n % 10^width,text) := by
  induction width generalizing sofar with
  | zero => simp [number,decimal,Nat.mod_one]
  | succ width ih =>
    have top : n / 10^width % 10 < 10 := Nat.mod_lt _ (by omega)
    have split : n % 10^(width+1) = 10^width * (n / 10^width % 10) + n % 10^width := by
      rw [Nat.pow_succ,Nat.mod_mul]; ring
    simp only [decimal,List.cons_append,number,digitRead top,bind,Option.bind,ih]
    rw [split]
    congr 2
    ring

theorem decimalRead (width : Nat) {n : Nat} (small : n < 10^width) (text : List Char) :
    number width 0 (decimal width n ++ text) = some (n,text) := by
  simp [numberDecimal,Nat.mod_eq_of_lt small]

theorem decimalLength (width n : Nat) : (decimal width n).length = width := by
  induction width with
  | zero => rfl
  | succ width ih => simp [decimal,ih]

theorem digitCases {d : Nat} (small : d < 10) :
    digit d ∈ ['0','1','2','3','4','5','6','7','8','9'] := by
  have table : ∀ d < 10, digit d ∈ ['0','1','2','3','4','5','6','7','8','9'] := by decide
  exact table d small

theorem decimalDigits {width n : Nat} {c : Char} (mem : c ∈ decimal width n) :
    c ∈ ['0','1','2','3','4','5','6','7','8','9'] := by
  induction width with
  | zero => simp [decimal] at mem
  | succ width ih =>
    rcases List.mem_cons.mp mem with rfl | rest
    · exact digitCases (Nat.mod_lt _ (by omega))
    · exact ih rest

def dateText (t : Fields) : List Char :=
  decimal 4 t.year ++ '-' :: decimal 2 t.month ++ '-' :: decimal 2 t.day

def fractionText (micros : Nat) : List Char :=
  if micros = 0 then [] else '.' :: decimal 6 micros

def clockText (hour minute second micros : Nat) : List Char :=
  decimal 2 hour ++ ':' :: decimal 2 minute ++ ':' :: decimal 2 second ++ fractionText micros

def offsetBody (n : Nat) : List Char :=
  let seconds := n / 1000000
  if seconds % 60 = 0 ∧ n % 1000000 = 0 then
    decimal 2 (seconds / 3600) ++ ':' :: decimal 2 (seconds / 60 % 60)
  else clockText (seconds / 3600) (seconds / 60 % 60) (seconds % 60) (n % 1000000)

def offsetText : Option Int → List Char
  | none => []
  | some o => (if o < 0 then '-' else '+') :: offsetBody o.natAbs

def isoChars (t : Fields) : List Char :=
  dateText t ++ 'T' :: clockText t.hour t.minute t.second t.microsecond ++ offsetText t.utcoffset

def isoformat (t : DateTime) : String := String.ofList (isoChars t.val)

def strftimeZ (t : DateTime) : String :=
  String.ofList (dateText t.val ++ 'T' ::
    clockText t.val.hour t.val.minute t.val.second 0 ++ ['Z'])

/-! Reading, as the library documents it. Digits are ASCII digits, dates are `YYYY-MM-DD`,
`YYYYMMDD` or an ISO week form, and any one character may separate the date from the time. An
offset below a second is kept, where the C parser drops it. -/

def construct (f : Fields) : Option DateTime := if valid : f.Valid then some ⟨f,valid⟩ else none

def monthOfDay (year : Nat) : Nat → Nat → Nat → Nat × Nat
  | 0,month,n => (month,n+1)
  | fuel+1,month,n =>
    if n < daysInMonth year month then (month,n+1)
    else monthOfDay year fuel (month+1) (n - daysInMonth year month)

def ord2ymd (ordinal : Nat) : Nat × Nat × Nat :=
  let n := ordinal - 1
  let n400 := n / 146097
  let n := n % 146097
  let n100 := n / 36524
  let n := n % 36524
  let n4 := n / 1461
  let n := n % 1461
  let n1 := n / 365
  let n := n % 365
  let year := n400 * 400 + 1 + n100 * 100 + n4 * 4 + n1
  if n1 = 4 ∨ n100 = 4 then (year - 1,12,31) else (year,monthOfDay year 11 1 n)

def isoweekToGregorian (year week day : Nat) : Option (Nat × Nat × Nat) :=
  let firstday := ymd2ord year 1 1
  let long := firstday % 7 = 4 ∨ firstday % 7 = 3 ∧ isLeap year
  let weekday := (firstday + 6) % 7
  let monday : Int := firstday - weekday + (if 3 < weekday then 7 else 0)
  if (1 ≤ year ∧ year ≤ 9999) ∧ (0 < week ∧ week < 53 ∨ week = 53 ∧ long) ∧ 0 < day ∧ day < 8 then
    let ordinal := monday + (((week - 1) * 7 + (day - 1) : Nat) : Int)
    if 0 < ordinal then some (ord2ymd ordinal.toNat) else none
  else none

def parseWeek (year : Nat) (dashed : Bool) (text : List Char) : Option (Nat × Nat × Nat) := do
  let (week,rest) ← number 2 0 text
  if rest = [] then isoweekToGregorian year week 1
  else if (rest.head? == some '-') = dashed then do
    let (day,rest) ← number 1 0 (if dashed then rest.tail else rest)
    if rest = [] then isoweekToGregorian year week day else none
  else none

def parseDate (text : List Char) : Option (Nat × Nat × Nat) := do
  let (year,rest) ← number 4 0 text
  let dashed := rest.head? == some '-'
  let rest := if dashed then rest.tail else rest
  if rest.head? = some 'W' then parseWeek year dashed rest.tail
  else do
    let (month,rest) ← number 2 0 rest
    if (rest.head? == some '-') = dashed then do
      let (day,rest) ← number 2 0 (if dashed then rest.tail else rest)
      if rest = [] then some (year,month,day) else none
    else none

def parseFraction (text : List Char) : Option (Nat × List Char) := do
  let width := min 6 text.length
  let (n,rest) ← number width 0 text
  some (n * 10^(6 - width),rest.dropWhile (fun c => (digitValue c).isSome))

inductive Follow where
  | stop (whole : Bool)
  | field (rest : List Char)
  | fraction (rest : List Char)
  | malformed
  deriving DecidableEq, Repr

/-- What comes after a two-digit field. One last character of any kind only marks the
text as not used up, which the caller accepts in front of a zone. -/
def follow (colons : Bool) : List Char → Follow
  | [] => .stop true
  | [_] => .stop false
  | c :: rest =>
    if colons ∧ c = ':' then .field rest
    else if c = '.' ∨ c = ',' then .fraction rest
    else if colons then .malformed else .field (c :: rest)

structure Clock where
  hour : Nat
  minute : Nat
  second : Nat
  micros : Nat
  whole : Bool
  deriving DecidableEq, Repr

def parseFractionOf (hour minute second : Nat) (text : List Char) : Option Clock := do
  let (micros,rest) ← parseFraction text
  some ⟨hour,minute,second,micros,rest.isEmpty⟩

def parseSecond (hour minute : Nat) (colons : Bool) (text : List Char) : Option Clock := do
  let (second,rest) ← number 2 0 text
  match follow colons rest with
  | .stop whole => some ⟨hour,minute,second,0,whole⟩
  | .field rest => parseFractionOf hour minute second rest
  | .fraction rest => parseFractionOf hour minute second rest
  | .malformed => none

def parseMinute (hour : Nat) (colons : Bool) (text : List Char) : Option Clock := do
  let (minute,rest) ← number 2 0 text
  match follow colons rest with
  | .stop whole => some ⟨hour,minute,0,0,whole⟩
  | .field rest => parseSecond hour minute colons rest
  | .fraction rest => parseFractionOf hour minute 0 rest
  | .malformed => none

def parseClock (text : List Char) : Option Clock := do
  let (hour,rest) ← number 2 0 text
  let colons := rest.head? == some ':'
  match follow colons rest with
  | .stop whole => some ⟨hour,0,0,0,whole⟩
  | .field rest => parseMinute hour colons rest
  | .fraction rest => parseFractionOf hour 0 0 rest
  | .malformed => none

def zoneMark (c : Char) : Bool := c == '+' || c == '-' || c == 'Z'

def parseZone (mark : Char) (text : List Char) : Option Int :=
  if mark = 'Z' then (if text = [] then some 0 else none) else do
    let c ← parseClock text
    let offset : Int := (((c.hour * 60 + c.minute) * 60 + c.second) * 1000000 + c.micros : Nat)
    if c.whole then some (if mark = '-' then -offset else offset) else none

def parseTime (text : List Char) : Option (Clock × Option Int) := do
  let c ← parseClock (text.takeWhile (fun c => !zoneMark c))
  match text.dropWhile (fun c => !zoneMark c) with
  | [] => if c.whole then some (c,none) else none
  | mark :: zone => do
      let offset ← parseZone mark zone
      some (c,some offset)

def digitRun (text : List Char) : Nat := (text.takeWhile (fun c => (digitValue c).isSome)).length

def separatorLocation (text : List Char) : Option Nat :=
  if text.length = 7 then some 7
  else if text[4]? = some '-' then
    if text[5]? = some 'W' then
      if text[8]? = some '-' then
        if text.length = 9 then none
        else if 0 < digitRun (text.drop 10) then some 8 else some 10
      else some 8
    else some 10
  else if text[4]? = some 'W' then
    let idx := 7 + digitRun (text.drop 7)
    if idx < 9 then some idx else if idx % 2 = 0 then some 7 else some 8
  else some 8

def parseIso (text : List Char) : Option DateTime :=
  if text.length < 7 then none else do
    let location ← separatorLocation text
    let (year,month,day) ← parseDate (text.take location)
    match text.drop location with
    | [] => construct ⟨year,month,day,0,0,0,0,none⟩
    | _ :: time => do
        let (c,zone) ← parseTime time
        construct ⟨year,month,day,c.hour,c.minute,c.second,c.micros,zone⟩

def fromisoformat (text : String) : Option DateTime := parseIso text.toList

theorem decimalNonempty (width n : Nat) (text : List Char) : decimal (width+1) n ++ text ≠ [] := by
  simp [decimal]

theorem decimalHead {width n : Nat} {text : List Char} {c : Char}
    (other : c ∉ ['0','1','2','3','4','5','6','7','8','9']) :
    (decimal (width+1) n ++ text).head? ≠ some c := by
  intro same
  simp only [decimal,List.cons_append,List.head?_cons,Option.some.injEq] at same
  exact other (same ▸ digitCases (Nat.mod_lt _ (by omega)))

theorem followColon {rest : List Char} (more : rest ≠ []) : follow true (':' :: rest) = .field rest := by
  cases rest with
  | nil => exact absurd rfl more
  | cons c rest => simp [follow]

theorem followDot {rest : List Char} (more : rest ≠ []) : follow true ('.' :: rest) = .fraction rest := by
  cases rest with
  | nil => exact absurd rfl more
  | cons c rest => simp [follow]

theorem fractionRead {micros : Nat} (small : micros < 1000000) :
    parseFraction (decimal 6 micros) = some (micros,[]) := by
  have read := decimalRead 6 (by simpa using small) []
  rw [List.append_nil] at read
  simp [parseFraction,decimalLength,read]

theorem secondRead {hour minute second micros : Nat} (s : second < 100) (f : micros < 1000000) :
    parseSecond hour minute true (decimal 2 second ++ fractionText micros) =
      some ⟨hour,minute,second,micros,true⟩ := by
  simp only [parseSecond,decimalRead 2 s,bind,Option.bind,fractionText]
  by_cases zero : micros = 0
  · simp [zero,follow]
  · rw [if_neg zero,followDot (by simpa using decimalNonempty 5 micros [])]
    simp [parseFractionOf,fractionRead f]

theorem clockRead {hour minute second micros : Nat} (h : hour < 100) (m : minute < 100)
    (s : second < 100) (f : micros < 1000000) :
    parseClock (clockText hour minute second micros) = some ⟨hour,minute,second,micros,true⟩ := by
  simp only [clockText,parseClock,List.append_assoc,List.cons_append,
    decimalRead 2 h,bind,Option.bind,List.head?_cons,beq_self_eq_true]
  rw [followColon (decimalNonempty 1 minute _)]
  simp only [parseMinute,decimalRead 2 m,bind,Option.bind]
  rw [followColon (decimalNonempty 1 second _)]
  exact secondRead s f

theorem shortClockRead {hour minute : Nat} (h : hour < 100) (m : minute < 100) :
    parseClock (decimal 2 hour ++ ':' :: decimal 2 minute) = some ⟨hour,minute,0,0,true⟩ := by
  have last := decimalRead 2 m []
  rw [List.append_nil] at last
  simp only [parseClock,decimalRead 2 h,bind,Option.bind,List.head?_cons,beq_self_eq_true]
  rw [followColon (by simpa using decimalNonempty 1 minute [])]
  simp [parseMinute,last,follow]

theorem offsetBodyRead {n : Nat} (bound : n < dayMicros) :
    ∃ c, parseClock (offsetBody n) = some c ∧ c.whole = true ∧
      ((c.hour * 60 + c.minute) * 60 + c.second) * 1000000 + c.micros = n := by
  unfold dayMicros at bound
  simp only [offsetBody]
  split
  · exact ⟨_,shortClockRead (by omega) (by omega),rfl,by dsimp only; omega⟩
  · exact ⟨_,clockRead (by omega) (by omega) (by omega) (by omega),rfl,by dsimp only; omega⟩

theorem zoneRead {o : Int} (bound : o.natAbs < dayMicros) :
    ∃ mark text, offsetText (some o) = mark :: text ∧ zoneMark mark = true ∧
      parseZone mark text = some o := by
  obtain ⟨c,read,whole,value⟩ := offsetBodyRead bound
  by_cases negative : o < 0
  · refine ⟨'-',offsetBody o.natAbs,by simp [offsetText,negative],rfl,?_⟩
    simp [parseZone,read,whole]
    omega
  · refine ⟨'+',offsetBody o.natAbs,by simp [offsetText,negative],rfl,?_⟩
    simp [parseZone,read,whole]
    omega

theorem clockChars {hour minute second micros : Nat} {c : Char}
    (mem : c ∈ clockText hour minute second micros) :
    c ∈ ['0','1','2','3','4','5','6','7','8','9',':','.'] := by
  have widen : ∀ c ∈ ['0','1','2','3','4','5','6','7','8','9'],
      c ∈ ['0','1','2','3','4','5','6','7','8','9',':','.'] :=
    fun _ digit => List.mem_append_left [':','.'] digit
  simp only [clockText,fractionText,List.mem_append,List.mem_cons] at mem
  rcases mem with ((h | rfl | h) | rfl | h) | h
  · exact widen _ (decimalDigits h)
  · decide
  · exact widen _ (decimalDigits h)
  · decide
  · exact widen _ (decimalDigits h)
  · split at h
    · simp at h
    · rcases List.mem_cons.mp h with rfl | h
      · decide
      · exact widen _ (decimalDigits h)

theorem clockUnmarked {hour minute second micros : Nat} :
    ∀ c ∈ clockText hour minute second micros, (!zoneMark c) = true := by
  intro c mem
  have table : ['0','1','2','3','4','5','6','7','8','9',':','.'].all (fun c => !zoneMark c) = true := by
    decide
  exact List.all_eq_true.mp table c (clockChars mem)

theorem timeRead {hour minute second micros : Nat} {zone : Option Int} (h : hour < 100)
    (m : minute < 100) (s : second < 100) (f : micros < 1000000) (z : OffsetValid zone) :
    parseTime (clockText hour minute second micros ++ offsetText zone) =
      some (⟨hour,minute,second,micros,true⟩,zone) := by
  unfold parseTime
  rw [List.takeWhile_append_of_pos clockUnmarked,List.dropWhile_append_of_pos clockUnmarked]
  cases zone with
  | none => simp [offsetText,clockRead h m s f]
  | some o =>
    obtain ⟨mark,text,shape,marked,read⟩ := zoneRead z
    rw [shape]
    simp [marked,clockRead h m s f,read]

theorem dateRead {t : Fields} (y : t.year < 10000) (m : t.month < 100) (d : t.day < 100) :
    parseDate (dateText t) = some (t.year,t.month,t.day) := by
  have last := decimalRead 2 d []
  rw [List.append_nil] at last
  have notWeek : (decimal 2 t.month ++ '-' :: decimal 2 t.day).head? ≠ some 'W' :=
    decimalHead (by decide)
  simp only [dateText,List.append_assoc,List.cons_append,parseDate,decimalRead 4 y,
    bind,Option.bind,List.head?_cons,beq_self_eq_true,if_true,List.tail_cons,if_neg notWeek,
    decimalRead 2 m,last]

theorem dateLength (t : Fields) : (dateText t).length = 10 := by
  simp [dateText,decimalLength]

theorem dateSeparator (t : Fields) (rest : List Char) :
    separatorLocation (dateText t ++ rest) = some 10 := by
  have digitDay : digit (t.month / 10 % 10) ≠ 'W' := by
    intro same
    have mem := digitCases (d := t.month / 10 % 10) (Nat.mod_lt _ (by omega))
    rw [same] at mem
    exact absurd mem (by decide)
  have size : (dateText t ++ rest).length ≠ 7 := by simp [dateLength]; omega
  rw [separatorLocation,if_neg size]
  simp [dateText,decimal,digitDay]

theorem zuluRead {hour minute second micros : Nat} (h : hour < 100) (m : minute < 100)
    (s : second < 100) (f : micros < 1000000) :
    parseTime (clockText hour minute second micros ++ ['Z']) =
      some (⟨hour,minute,second,micros,true⟩,some 0) := by
  unfold parseTime
  rw [List.takeWhile_append_of_pos clockUnmarked,List.dropWhile_append_of_pos clockUnmarked]
  simp [zoneMark,clockRead h m s f,parseZone]

theorem dateTimeRead {f : Fields} (valid : f.Valid) {time : List Char} {c : Clock}
    {zone : Option Int} (read : parseTime time = some (c,zone)) :
    parseIso (dateText f ++ 'T' :: time) =
      construct ⟨f.year,f.month,f.day,c.hour,c.minute,c.second,c.micros,zone⟩ := by
  have month := valid.month
  have day := valid.day
  have bound : daysInMonth f.year f.month ≤ 31 := by
    unfold daysInMonth; split <;> (try split) <;> omega
  have size : ¬ (dateText f ++ 'T' :: time).length < 7 := by simp [dateLength]; omega
  have early : (dateText f ++ 'T' :: time).take 10 = dateText f := by
    rw [← dateLength f,List.take_left]
  have late : (dateText f ++ 'T' :: time).drop 10 = 'T' :: time := by
    rw [← dateLength f,List.drop_left]
  rw [parseIso,if_neg size,dateSeparator]
  simp only [bind,Option.bind,early,late,read,
    dateRead (by have := valid.year; omega) (by omega) (by omega : f.day < 100)]

theorem isoRead {f : Fields} (valid : f.Valid) : parseIso (isoChars f) = some ⟨f,valid⟩ := by
  have hour := valid.hour
  have minute := valid.minute
  have second := valid.second
  rw [isoChars,List.append_assoc,List.cons_append,dateTimeRead valid
    (timeRead (by omega) (by omega) (by omega) valid.microsecond valid.utcoffset)]
  exact dif_pos valid

theorem fromisoformatIsoformat (t : DateTime) : fromisoformat (isoformat t) = some t := by
  rw [fromisoformat,isoformat,String.toList_ofList]
  exact isoRead t.property

theorem isoformatNonempty (t : DateTime) : isoformat t ≠ "" := by
  intro same
  have read := fromisoformatIsoformat t
  rw [same] at read
  cases read

/-! What `strftime` writes is a whole second, read as UTC. -/

def wholeUtc (t : DateTime) : DateTime :=
  ⟨{ t.val with microsecond := 0, utcoffset := some 0 },
    { t.property with
      microsecond := by simp
      utcoffset := (by decide : OffsetValid (some 0)) }⟩

theorem instantWholeUtc (t : DateTime) :
    instant (wholeUtc t) = instant t + t.val.utcoffset.getD 0 - t.val.microsecond := by
  simp only [instant,wholeUtc,Option.getD_some]
  ring

theorem wholeUtcSeconds (t : DateTime) : secondMicros ∣ instant (wholeUtc t) := by
  simp only [instant,wholeUtc,Option.getD_some]
  exact ⟨_,by ring⟩

theorem fromisoformatStrftimeZ (t : DateTime) : fromisoformat (strftimeZ t) = some (wholeUtc t) := by
  have hour := t.property.hour
  have minute := t.property.minute
  have second := t.property.second
  rw [fromisoformat,strftimeZ,String.toList_ofList,List.append_assoc,List.cons_append,
    dateTimeRead t.property (zuluRead (by omega) (by omega) (by omega) (by decide))]
  exact dif_pos (wholeUtc t).property

end IsoTime
