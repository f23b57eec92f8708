import Mathlib.Data.List.Basic

/-! Delimited text as Python's `csv` module writes and reads it: minimal quoting, doubled quotes,
records that end in CR LF, and the reader's state machine over the lines of a file opened with
`newline=""`. What the writer wrote, the reader reads back. -/
namespace Csv

abbrev Field := List Char
abbrev Record := List Field

def isNewline (c : Char) : Bool := c = '\n' || c = '\r'

structure Dialect where
  delimiter : Char
  quotechar : Char
  apart : delimiter ≠ quotechar
  delimits : isNewline delimiter = false
  quotes : isNewline quotechar = false

def excel : Dialect := ⟨',','\x22',by decide,by decide,by decide⟩

namespace Dialect
variable (d : Dialect)

def special (c : Char) : Bool := c = d.delimiter || c = d.quotechar || isNewline c

def escape : Field → List Char
  | [] => []
  | c :: rest => if c = d.quotechar then c :: c :: escape rest else c :: escape rest

def quoted (f : Field) : List Char := d.quotechar :: d.escape f ++ [d.quotechar]

def writeField (f : Field) : List Char := if f.any d.special then d.quoted f else f

def joinFields : Record → List Char
  | [] => []
  | [f] => d.writeField f
  | f :: g :: rest => d.writeField f ++ d.delimiter :: joinFields (g :: rest)

-- A lone empty field is quoted, or its record would read as an empty one.
def writeRecord : Record → List Char
  | [[]] => d.quoted [] ++ ['\r','\n']
  | record => d.joinFields record ++ ['\r','\n']

theorem recordContent (record : Record) : d.writeRecord record ≠ [] := by
  unfold writeRecord
  split <;> simp

def writeRecords (records : List Record) : List Char := records.flatMap d.writeRecord

end Dialect

/-! The reader. A character is `none` at the end of a line. -/

inductive Mode where
  | startRecord
  | startField
  | inField
  | inQuotedField
  | quoteInQuotedField
  | eatCrnl
  deriving DecidableEq

structure Reader where
  mode : Mode := .startRecord
  field : Field := []
  fields : Record := []
  records : List Record := []

namespace Reader

def saveField (r : Reader) (mode : Mode) : Reader :=
  { r with mode := mode, field := [], fields := r.fields ++ [r.field] }

def addChar (limit : Nat) (r : Reader) (mode : Mode) (c : Char) : Option Reader :=
  if r.field.length < limit then some { r with mode := mode, field := r.field ++ [c] } else none

variable (d : Dialect) (limit : Nat)

def parseStartField (r : Reader) : Option Char → Option Reader
  | none => some (r.saveField .startRecord)
  | some c =>
    if isNewline c then some (r.saveField .eatCrnl)
    else if c = d.quotechar then some { r with mode := .inQuotedField }
    else if c = d.delimiter then some (r.saveField .startField)
    else r.addChar limit .inField c

def parseProcessChar (r : Reader) (c : Option Char) : Option Reader :=
  match r.mode,c with
  | .startRecord,none => some r
  | .startRecord,some c =>
    if isNewline c then some { r with mode := .eatCrnl } else parseStartField d limit r (some c)
  | .startField,c => parseStartField d limit r c
  | .inField,none => some (r.saveField .startRecord)
  | .inField,some c =>
    if isNewline c then some (r.saveField .eatCrnl)
    else if c = d.delimiter then some (r.saveField .startField)
    else r.addChar limit .inField c
  | .inQuotedField,none => some r
  | .inQuotedField,some c =>
    if c = d.quotechar then some { r with mode := .quoteInQuotedField }
    else r.addChar limit .inQuotedField c
  | .quoteInQuotedField,none => some (r.saveField .startRecord)
  | .quoteInQuotedField,some c =>
    if c = d.quotechar then r.addChar limit .inQuotedField c
    else if c = d.delimiter then some (r.saveField .startField)
    else if isNewline c then some (r.saveField .eatCrnl)
    else r.addChar limit .inField c
  | .eatCrnl,none => some { r with mode := .startRecord }
  | .eatCrnl,some c => if isNewline c then some r else none

def endLine (r : Reader) : Option Reader :=
  (parseProcessChar d limit r none).map (fun r =>
    if r.mode = .startRecord then { r with fields := [], records := r.records ++ [r.fields] } else r)

def endsLine (c : Char) (rest : List Char) : Bool :=
  c = '\n' || (c = '\r' && rest.head? ≠ some '\n') || rest = []

def feed : Reader → List Char → Option Reader
  | r,[] => some r
  | r,c :: rest => do
    let r ← parseProcessChar d limit r (some c)
    let r ← if endsLine c rest then endLine d limit r else some r
    feed r rest

def finish (r : Reader) : List Record :=
  if r.field ≠ [] ∨ r.mode = .inQuotedField then (r.saveField .startRecord).records ++
    [(r.saveField .startRecord).fields]
  else r.records

end Reader

/-- `csv.reader` over a text, `none` where it raises; `limit` is `csv.field_size_limit()`. -/
def read (d : Dialect) (limit : Nat) (text : List Char) : Option (List Record) :=
  (Reader.feed d limit {} text).map Reader.finish

open Reader
variable {d : Dialect} {limit : Nat} {f : Field} {acc : Field} {fields : Record}
  {records : List Record} {rest : List Char}

theorem feedWithin {r r' : Reader} {c : Char}
    (process : parseProcessChar d limit r (some c) = some r') (plain : isNewline c = false)
    (more : rest ≠ []) : feed d limit r (c :: rest) = feed d limit r' rest := by
  have within : endsLine c rest = false := by
    simp only [isNewline,Bool.or_eq_false_iff,decide_eq_false_iff_not] at plain
    simp [endsLine,plain.1,plain.2,more]
  simp [feed,process,within]

theorem feedPlain (plain : ∀ c ∈ f, d.special c = false) (fits : (acc ++ f).length ≤ limit)
    (more : rest ≠ []) :
    feed d limit ⟨.inField,acc,fields,records⟩ (f ++ rest) =
      feed d limit ⟨.inField,acc ++ f,fields,records⟩ rest := by
  induction f generalizing acc with
  | nil => simp
  | cons c f ih =>
    have ordinary := plain c (List.mem_cons_self ..)
    simp only [Dialect.special,Bool.or_eq_false_iff,decide_eq_false_iff_not] at ordinary
    obtain ⟨⟨delimiter,-⟩,line⟩ := ordinary
    have room : acc.length < limit := by simp at fits; omega
    have process : parseProcessChar d limit ⟨.inField,acc,fields,records⟩ (some c) =
        some ⟨.inField,acc ++ [c],fields,records⟩ := by
      simp [parseProcessChar,line,delimiter,addChar,room]
    rw [List.cons_append,feedWithin process line (by simp [more]),
      ih (fun x mem => plain x (List.mem_cons_of_mem _ mem)) (by simpa using fits)]
    simp

theorem endLineQuoted (r : Reader) (quoted : r.mode = .inQuotedField) :
    endLine d limit r = some r := by
  obtain ⟨mode,field,fields,records⟩ := r
  subst quoted
  rfl

-- Inside quotes the line ends of the text are characters of the field.
theorem feedQuotedChar {c : Char} {r' : Reader}
    (process : parseProcessChar d limit ⟨.inQuotedField,acc,fields,records⟩ (some c) = some r')
    (stays : r'.mode = .inQuotedField) :
    feed d limit ⟨.inQuotedField,acc,fields,records⟩ (c :: rest) = feed d limit r' rest := by
  simp only [feed,process,bind,Option.bind]
  split
  · simp [endLineQuoted r' stays]
  · rfl

theorem feedQuoted (fits : (acc ++ f).length ≤ limit) (more : rest ≠ []) :
    feed d limit ⟨.inQuotedField,acc,fields,records⟩ (d.escape f ++ d.quotechar :: rest) =
      feed d limit ⟨.quoteInQuotedField,acc ++ f,fields,records⟩ rest := by
  induction f generalizing acc with
  | nil =>
    have process : parseProcessChar d limit ⟨.inQuotedField,acc,fields,records⟩ (some d.quotechar) =
        some ⟨.quoteInQuotedField,acc,fields,records⟩ := by simp [parseProcessChar]
    rw [Dialect.escape,List.nil_append,feedWithin process d.quotes more,List.append_nil]
  | cons c f ih =>
    have room : acc.length < limit := by simp at fits; omega
    have onward := @ih (acc ++ [c]) (by simpa using fits)
    rw [List.append_assoc,List.singleton_append] at onward
    rw [Dialect.escape]
    by_cases quote : c = d.quotechar
    · subst quote
      have opens : parseProcessChar d limit ⟨.inQuotedField,acc,fields,records⟩ (some d.quotechar) =
          some ⟨.quoteInQuotedField,acc,fields,records⟩ := by simp [parseProcessChar]
      have doubled : parseProcessChar d limit ⟨.quoteInQuotedField,acc,fields,records⟩
          (some d.quotechar) = some ⟨.inQuotedField,acc ++ [d.quotechar],fields,records⟩ := by
        simp [parseProcessChar,addChar,room]
      rw [if_pos rfl,List.cons_append,List.cons_append,feedWithin opens d.quotes (by simp),
        feedWithin doubled d.quotes (by simp),onward]
    · have process : parseProcessChar d limit ⟨.inQuotedField,acc,fields,records⟩ (some c) =
          some ⟨.inQuotedField,acc ++ [c],fields,records⟩ := by
        simp [parseProcessChar,quote,addChar,room]
      rw [if_neg quote,List.cons_append,feedQuotedChar process rfl,onward]

def FieldRead (begun : Mode) (f : Field) (mode : Mode) : Prop :=
  mode = begun ∧ f = [] ∨ mode = .inField ∨ mode = .quoteInQuotedField

def Begins (mode : Mode) : Prop := mode = .startRecord ∨ mode = .startField

theorem beginsProcess {mode : Mode} (begins : Begins mode) (acc : Field) {c : Char}
    (plain : isNewline c = false) :
    parseProcessChar d limit ⟨mode,acc,fields,records⟩ (some c) =
      parseStartField d limit ⟨mode,acc,fields,records⟩ (some c) := by
  rcases begins with rfl | rfl
  · simp [parseProcessChar,plain]
  · rfl

theorem feedField {mode : Mode} (begins : Begins mode) (fits : f.length ≤ limit) (more : rest ≠ []) :
    ∃ read, FieldRead mode f read ∧
      feed d limit ⟨mode,[],fields,records⟩ (d.writeField f ++ rest) =
        feed d limit ⟨read,f,fields,records⟩ rest := by
  unfold Dialect.writeField
  by_cases quoted : f.any d.special = true
  · refine ⟨.quoteInQuotedField,.inr (.inr rfl),?_⟩
    have opens : parseStartField d limit ⟨mode,[],fields,records⟩ (some d.quotechar) =
        some ⟨.inQuotedField,[],fields,records⟩ := by simp [parseStartField,d.quotes]
    rw [← beginsProcess begins [] d.quotes] at opens
    rw [if_pos quoted,Dialect.quoted,List.cons_append,List.cons_append,List.append_assoc,
      List.singleton_append,feedWithin opens d.quotes (by simp),feedQuoted (by simpa using fits) more,
      List.nil_append]
  · have plain : ∀ c ∈ f, d.special c = false := by simpa using quoted
    rw [if_neg quoted]
    cases f with
    | nil => exact ⟨mode,.inl ⟨rfl,rfl⟩,rfl⟩
    | cons c f =>
      refine ⟨.inField,.inr (.inl rfl),?_⟩
      have ordinary := plain c (List.mem_cons_self ..)
      simp only [Dialect.special,Bool.or_eq_false_iff,decide_eq_false_iff_not] at ordinary
      obtain ⟨⟨delimiter,quote⟩,line⟩ := ordinary
      have room : 0 < limit := by simp at fits; omega
      have process : parseStartField d limit ⟨mode,[],fields,records⟩ (some c) =
          some ⟨.inField,[c],fields,records⟩ := by
        simp [parseStartField,line,quote,delimiter,addChar,room]
      rw [← beginsProcess begins [] line] at process
      rw [List.cons_append,feedWithin process line (by simp [more]),
        feedPlain (fun x mem => plain x (List.mem_cons_of_mem _ mem)) (by simpa using fits) more]
      rfl

theorem feedDelimiter {begun mode : Mode} (begins : Begins begun) (read : FieldRead begun f mode)
    (more : rest ≠ []) :
    feed d limit ⟨mode,f,fields,records⟩ (d.delimiter :: rest) =
      feed d limit ⟨.startField,[],fields ++ [f],records⟩ rest := by
  have process : parseProcessChar d limit ⟨mode,f,fields,records⟩ (some d.delimiter) =
      some ⟨.startField,[],fields ++ [f],records⟩ := by
    rcases read with ⟨rfl,rfl⟩ | rfl | rfl
    · rw [beginsProcess begins [] d.delimits]
      simp [parseStartField,d.delimits,d.apart,saveField]
    · simp [parseProcessChar,d.delimits,saveField]
    · simp [parseProcessChar,d.apart,saveField]
  exact feedWithin process d.delimits more

theorem feedEnd {begun mode : Mode} (begins : Begins begun) (read : FieldRead begun f mode)
    (started : mode ≠ .startRecord) :
    feed d limit ⟨mode,f,fields,records⟩ ('\r' :: '\n' :: rest) =
      feed d limit ⟨.startRecord,[],[],records ++ [fields ++ [f]]⟩ rest := by
  have differs : ∀ {c : Char}, isNewline c = true → c ≠ d.quotechar ∧ c ≠ d.delimiter := by
    intro c line
    refine ⟨?_,?_⟩ <;> rintro rfl
    · rw [d.quotes] at line; cases line
    · rw [d.delimits] at line; cases line
  have process : parseProcessChar d limit ⟨mode,f,fields,records⟩ (some '\r') =
      some ⟨.eatCrnl,[],fields ++ [f],records⟩ := by
    have line : isNewline '\r' = true := rfl
    obtain ⟨quote,delimiter⟩ := differs line
    rcases read with ⟨rfl,rfl⟩ | rfl | rfl
    · rcases begins with rfl | rfl
      · exact absurd rfl started
      · simp [parseProcessChar,parseStartField,line,saveField]
    · simp [parseProcessChar,line,saveField]
    · simp [parseProcessChar,line,quote,delimiter,saveField]
  have eaten : parseProcessChar d limit ⟨.eatCrnl,[],fields ++ [f],records⟩ (some '\n') =
      some ⟨.eatCrnl,[],fields ++ [f],records⟩ := rfl
  have first : endsLine '\r' ('\n' :: rest) = false := by simp [endsLine]
  have last : endsLine '\n' rest = true := by simp [endsLine]
  simp only [feed,process,eaten,first,last,bind,Option.bind]
  rfl

theorem feedFields {mode : Mode} (begins : Begins mode) {g : Field} {record : Record}
    (fits : ∀ h ∈ f :: g :: record, h.length ≤ limit) :
    feed d limit ⟨mode,[],fields,records⟩
        (d.joinFields (f :: g :: record) ++ '\r' :: '\n' :: rest) =
      feed d limit ⟨.startRecord,[],[],records ++ [fields ++ f :: g :: record]⟩ rest := by
  induction record generalizing mode f g fields with
  | nil =>
    obtain ⟨first,read,toFirst⟩ := @feedField d limit f fields records
      (d.delimiter :: (d.writeField g ++ '\r' :: '\n' :: rest)) mode begins
      (fits f (by simp)) (by simp)
    obtain ⟨second,read',toSecond⟩ := @feedField d limit g (fields ++ [f]) records
      ('\r' :: '\n' :: rest) .startField (.inr rfl) (fits g (by simp)) (by simp)
    have started : second ≠ .startRecord := by
      rcases read' with ⟨rfl,-⟩ | rfl | rfl <;> simp
    simp only [Dialect.joinFields,List.append_assoc,List.cons_append]
    rw [toFirst,feedDelimiter begins read (by simp),toSecond,feedEnd (.inr rfl) read' started]
    simp
  | cons h record ih =>
    obtain ⟨first,read,toFirst⟩ := @feedField d limit f fields records
      (d.delimiter :: (d.joinFields (g :: h :: record) ++ '\r' :: '\n' :: rest)) mode begins
      (fits f (by simp)) (by simp)
    have onward := @ih g (fields ++ [f]) .startField (.inr rfl) h
      (fun x mem => fits x (List.mem_cons_of_mem _ mem))
    simp only [Dialect.joinFields,List.append_assoc,List.cons_append] at toFirst onward ⊢
    rw [toFirst,feedDelimiter begins read (by simp),onward]
    simp

theorem feedRecord {record : Record} (fits : ∀ f ∈ record, f.length ≤ limit) :
    feed d limit ⟨.startRecord,[],[],records⟩ (d.writeRecord record ++ rest) =
      feed d limit ⟨.startRecord,[],[],records ++ [record]⟩ rest := by
  match record,fits with
  | [],_ =>
    have first : endsLine '\r' ('\n' :: rest) = false := by simp [endsLine]
    have last : endsLine '\n' rest = true := by simp [endsLine]
    simp only [Dialect.writeRecord,Dialect.joinFields,List.nil_append,List.cons_append,feed,first,
      last,bind,Option.bind]
    rfl
  | [[]],_ =>
    have quote := @feedQuoted d limit [] [] [] records ('\r' :: '\n' :: rest) (by simp) (by simp)
    have opens : parseProcessChar d limit ⟨.startRecord,[],[],records⟩ (some d.quotechar) =
        some ⟨.inQuotedField,[],[],records⟩ := by simp [parseProcessChar,parseStartField,d.quotes]
    simp only [Dialect.writeRecord,Dialect.quoted,Dialect.escape,List.nil_append,List.cons_append]
      at quote ⊢
    rw [feedWithin opens d.quotes (by simp),quote,
      feedEnd (.inl rfl) (.inr (.inr rfl)) (by simp),List.nil_append]
  | [c :: f],fits =>
    obtain ⟨mode,read,toEnd⟩ := @feedField d limit (c :: f) [] records
      ('\r' :: '\n' :: rest) .startRecord (.inl rfl) (fits _ (by simp)) (by simp)
    have started : mode ≠ .startRecord := by
      rcases read with ⟨-,empty⟩ | rfl | rfl
      · cases empty
      · simp
      · simp
    simp only [Dialect.writeRecord,Dialect.joinFields,List.append_assoc,List.cons_append,
      List.nil_append]
    rw [toEnd,feedEnd (.inl rfl) read started,List.nil_append]
  | f :: g :: record,fits =>
    have written := @feedFields d limit f [] records rest .startRecord (.inl rfl) g record fits
    simp only [Dialect.writeRecord,List.append_assoc,List.cons_append,List.nil_append] at written ⊢
    exact written

def Closed (d : Dialect) (limit : Nat) (text : List Char) (records : List Record) : Prop :=
  ∀ rest, feed d limit {} (text ++ rest) = feed d limit ⟨.startRecord,[],[],records⟩ rest

theorem closedNil : Closed d limit [] [] := fun _ => rfl

theorem closedRecord {text : List Char} (closed : Closed d limit text records) {record : Record}
    (fits : ∀ f ∈ record, f.length ≤ limit) :
    Closed d limit (text ++ d.writeRecord record) (records ++ [record]) := by
  intro rest
  rw [List.append_assoc,closed,feedRecord fits]

theorem closedRecords {text : List Char} (closed : Closed d limit text records)
    {more : List Record} (fits : ∀ record ∈ more, ∀ f ∈ record, f.length ≤ limit) :
    Closed d limit (text ++ d.writeRecords more) (records ++ more) := by
  induction more generalizing text records with
  | nil => simpa [Dialect.writeRecords] using closed
  | cons record more ih =>
    have one := closedRecord closed (fits record (List.mem_cons_self ..))
    have all := ih one (fun x mem => fits x (List.mem_cons_of_mem _ mem))
    simpa [Dialect.writeRecords] using all

theorem closedRead {text : List Char} (closed : Closed d limit text records) :
    read d limit text = some records := by
  have fed := closed []
  rw [List.append_nil] at fed
  rw [read,fed]
  rfl

end Csv
