import FlightMonitor.Accounting
import FlightMonitor.Csv

/-! The mission rows on disk (`app/common/mission_row_writer.py` with the columns of
`app/monitoring/mission_row_schema.py`). One file serves all runs of the process: a writer adds
the header to a missing or empty file only, and each row is appended. -/
namespace FlightMonitor.MissionCsv
open PyValue IsoTime

def profileColumns : List String :=
  ["encoding","session_id","record_type","pilot_id","uav_id","zone_id","wind_steady_kt",
    "wind_gusts_kt","precipitation","visibility_nm","max_temperature_f","min_temperature_f",
    "time_in","time_out","flight.max_alt_asl_m","flight.distance_flown_mi",
    "payload.total_weight_kg","payload.camera","payload.other","battery.voltage_in",
    "battery.voltage_out","battery.recharge_in_zone","battery.types","incidents",
    "entry_decision","entry_conditions"]

def extColumns : List String :=
  ["flight.start_lat","flight.start_lon","flight.start_alt_m","flight.end_lat","flight.end_lon",
    "flight.end_alt_m"]

def allColumns : List String := profileColumns ++ extColumns

def setDefault (row : Members) (key : String) : Members :=
  match Dict.lookup key row with
  | some _ => row
  | none => Dict.put key .null row

def makeDefaultMissionRow : Members :=
  allColumns.foldl setDefault
    [("encoding",.str "01"),("session_id",.str ""),("record_type",.str "001"),("pilot_id",.str ""),
      ("uav_id",.str ""),("zone_id",.str ""),("wind_steady_kt",.int 0),("wind_gusts_kt",.int 0),
      ("precipitation",.str "000"),("visibility_nm",.int 0),("max_temperature_f",.int 0),
      ("min_temperature_f",.int 0),("time_in",.str ""),("time_out",.str ""),
      ("flight.max_alt_asl_m",.int 0),("flight.distance_flown_mi",.float .zero),
      ("payload.total_weight_kg",.float .zero),("payload.camera",.str "00"),
      ("payload.other",.str "000"),("battery.voltage_in",.obj []),("battery.voltage_out",.obj []),
      ("battery.recharge_in_zone",.bool false),("battery.types",.str ""),("incidents",.arr []),
      ("entry_decision",.str ""),("entry_conditions",.str ""),("flight.start_lat",.null),
      ("flight.start_lon",.null),("flight.start_alt_m",.null),("flight.end_lat",.null),
      ("flight.end_lon",.null),("flight.end_alt_m",.null)]

/-- `str` and `json.dumps` are the platform's. -/
structure Rendering where
  str : Json → String
  dumps : Json → String

def setVoltage (key : String) (voltage : Option PyFloat) (row : Members) : Members :=
  match voltage with
  | some x => Dict.put key (.obj [("A",.float x)]) row
  | none => row

def rowDict (py : Rendering) (row : MissionRow) : Members :=
  let dict := Dict.put "uav_id" (match row.uavId with
    | some id => .str id
    | none => .null) makeDefaultMissionRow
  let dict := Dict.put "session_id" (.str row.sessionId) dict
  let dict := Dict.put "time_in" (.str row.timeIn) dict
  let dict := Dict.put "time_out" (.str row.timeOut) dict
  let dict := Dict.put "flight.max_alt_asl_m" (.int row.maxAltAslM) dict
  let dict := Dict.put "flight.distance_flown_mi" (.float row.distanceFlownMi) dict
  let dict := Dict.put "flight.start_lat" row.startLat dict
  let dict := Dict.put "flight.start_lon" row.startLon dict
  let dict := Dict.put "flight.start_alt_m" row.startAltM dict
  let dict := Dict.put "flight.end_lat" row.endLat dict
  let dict := Dict.put "flight.end_lon" row.endLon dict
  let dict := Dict.put "flight.end_alt_m" row.endAltM dict
  let dict := setVoltage "battery.voltage_in" row.voltageIn dict
  let dict := setVoltage "battery.voltage_out" row.voltageOut dict
  let dict := Dict.put "entry_decision" (.str (py.str row.entryDecision)) dict
  Dict.put "entry_conditions" (.str (py.str row.entryConditions)) dict

/-! The writer. A file is `none` while it does not exist. -/

structure MissionCsvWriter where
  outPath : String
  py : Rendering

abbrev File := Option (List Char)

def cellText (py : Rendering) : Json → Csv.Field
  | .null => []
  | .str text => text.toList
  | value => (py.str value).toList

def serialize (py : Rendering) (row : Members) (key : String) : Members :=
  match Dict.lookup key row with
  | some (.obj members) => Dict.put key (.str (py.dumps (.obj members))) row
  | some (.arr items) => Dict.put key (.str (py.dumps (.arr items))) row
  | _ => row

def dictToList (fieldnames : List String) (row : Members) : Except PyError (List Json) :=
  if row.all (fun entry => entry.1 ∈ fieldnames) then
    .ok (fieldnames.map (fun key => Json.member row key .null))
  else .error (.valueError "dict contains fields not in fieldnames")

def header : Csv.Record := allColumns.map String.toList

namespace MissionCsvWriter

def ensureCsvHeader (file : File) : File :=
  match file with
  | some (c :: text) => some (c :: text)
  | some [] | none => some (Csv.excel.writeRecord header)

def start (w : MissionCsvWriter) (file : File) : File :=
  if w.outPath = "" then file else ensureCsvHeader file

def rowToWrite (py : Rendering) (row : Members) : Members :=
  ["battery.voltage_in","battery.voltage_out","incidents"].foldl (serialize py)
    (allColumns.foldl setDefault row)

def writeRow (w : MissionCsvWriter) (file : File) (row : Members) : Except PyError File :=
  if w.outPath = "" then .ok file else do
    let cells ← dictToList allColumns (rowToWrite w.py row)
    .ok (some (file.getD [] ++ Csv.excel.writeRecord (cells.map (cellText w.py))))

end MissionCsvWriter

def append (w : MissionCsvWriter) (file : File) (row : MissionRow) : File :=
  match w.writeRow file (rowDict w.py row) with
  | .ok file => file
  | .error _ => file

-- A row is in the list of the turn when its write has returned. A write that fails is taken to
-- leave the file unchanged, though on a full disk a part of the record can stay behind.
def fileStep (env : Env) (w : MissionCsvWriter) (file : File) (s : State) (e : Event) : File :=
  match e.action,s.queue with
  | .worker written,message :: _ =>
    (telemetryWorker env written s.registry s.tracker message e.wall).2.1.foldl (append w) file
  | _,_ => file

def fileAfter (env : Env) (w : MissionCsvWriter) (file : File) (events : List Event) : File :=
  Trace.history (step env) {} (fileStep env w) (w.start file) events

def restarted (env : Env) (w : MissionCsvWriter) (file : File) (runs : List (List Event)) : File :=
  runs.foldl (fileAfter env w) file

def cellsOf (py : Rendering) (row : Members) : Csv.Record :=
  allColumns.map (fun key => cellText py (Json.member row key .null))

def rowCells (py : Rendering) (row : MissionRow) : Csv.Record :=
  cellsOf py (MissionCsvWriter.rowToWrite py (rowDict py row))

-- What `csv.field_size_limit()` returns unless it is set.
def fieldSizeLimit : Nat := 131072

def readFile (file : File) : Option (List Csv.Record) :=
  Csv.read Csv.excel fieldSizeLimit (file.getD [])

def Fits (py : Rendering) (row : MissionRow) : Prop :=
  ∀ cell ∈ rowCells py row, cell.length ≤ fieldSizeLimit

/-! A row has the columns of the schema and no others, so it is always written. -/

def Within (row : Members) : Prop := ∀ entry ∈ row, entry.1 ∈ allColumns

theorem putWithin {key : String} (known : key ∈ allColumns) (value : Json) {row : Members}
    (within : Within row) : Within (Dict.put key value row) := by
  intro entry mem
  have present : entry.1 ∈ (Dict.put key value row).map Prod.fst := List.mem_map_of_mem mem
  rcases (Dict.keysPut key entry.1 value row).mp present with here | early
  · exact here ▸ known
  · obtain ⟨entry',mem',same⟩ := List.mem_map.mp early
    exact same ▸ within entry' mem'

theorem setDefaultsWithin {keys : List String} (known : ∀ key ∈ keys, key ∈ allColumns)
    {row : Members} (within : Within row) : Within (keys.foldl setDefault row) := by
  induction keys generalizing row with
  | nil => exact within
  | cons key keys ih =>
    refine ih (fun x mem => known x (List.mem_cons_of_mem _ mem)) ?_
    unfold setDefault
    split
    · exact within
    · exact putWithin (known key (List.mem_cons_self ..)) _ within

theorem serializeWithin (py : Rendering) {keys : List String} (known : ∀ key ∈ keys, key ∈ allColumns)
    {row : Members} (within : Within row) : Within (keys.foldl (serialize py) row) := by
  induction keys generalizing row with
  | nil => exact within
  | cons key keys ih =>
    refine ih (fun x mem => known x (List.mem_cons_of_mem _ mem)) ?_
    have here := known key (List.mem_cons_self ..)
    unfold serialize
    split
    · exact putWithin here _ within
    · exact putWithin here _ within
    · exact within

theorem setVoltageWithin {key : String} (known : key ∈ allColumns) (voltage : Option PyFloat)
    {row : Members} (within : Within row) : Within (setVoltage key voltage row) := by
  cases voltage with
  | none => exact within
  | some x => exact putWithin known _ within

theorem defaultWithin : Within makeDefaultMissionRow :=
  setDefaultsWithin (fun _ mem => mem) (by unfold Within; decide)

theorem rowWithin (py : Rendering) (row : MissionRow) : Within (rowDict py row) := by
  unfold rowDict
  dsimp only
  refine putWithin (by decide) _ (putWithin (by decide) _ (setVoltageWithin (by decide) _
    (setVoltageWithin (by decide) _ ?_)))
  refine putWithin (by decide) _ (putWithin (by decide) _ (putWithin (by decide) _
    (putWithin (by decide) _ (putWithin (by decide) _ (putWithin (by decide) _ ?_)))))
  exact putWithin (by decide) _ (putWithin (by decide) _ (putWithin (by decide) _
    (putWithin (by decide) _ (putWithin (by decide) _ (putWithin (by decide) _ defaultWithin)))))

theorem writeRowWithin {w : MissionCsvWriter} (named : w.outPath ≠ "") (file : File) {row : Members}
    (within : Within (MissionCsvWriter.rowToWrite w.py row)) :
    w.writeRow file row = .ok (some (file.getD [] ++
      Csv.excel.writeRecord (cellsOf w.py (MissionCsvWriter.rowToWrite w.py row)))) := by
  unfold MissionCsvWriter.writeRow
  generalize MissionCsvWriter.rowToWrite w.py row = dict at within
  have known : dict.all (fun entry => entry.1 ∈ allColumns) = true :=
    List.all_eq_true.mpr (fun entry mem => decide_eq_true (within entry mem))
  simp only [if_neg named,dictToList,if_pos known,bind,Except.bind,cellsOf,List.map_map,
    Function.comp_def]

theorem rowWritten {w : MissionCsvWriter} (named : w.outPath ≠ "") (file : File) (row : MissionRow) :
    append w file row = some (file.getD [] ++ Csv.excel.writeRecord (rowCells w.py row)) := by
  have within : Within (MissionCsvWriter.rowToWrite w.py (rowDict w.py row)) :=
    serializeWithin w.py (by decide) (setDefaultsWithin (fun _ mem => mem) (rowWithin w.py row))
  rw [append,writeRowWithin named file within,rowCells]

theorem rowsWritten {w : MissionCsvWriter} (named : w.outPath ≠ "") (file : File)
    {rows : List MissionRow} (some_ : file ≠ none ∨ rows ≠ []) :
    rows.foldl (append w) file =
      some (file.getD [] ++ Csv.excel.writeRecords (rows.map (rowCells w.py))) := by
  induction rows generalizing file with
  | nil =>
    obtain ⟨text,rfl⟩ := Option.ne_none_iff_exists'.mp (some_.resolve_right (fun h => h rfl))
    simp [Csv.Dialect.writeRecords]
  | cons row rows ih =>
    rw [List.foldl_cons,rowWritten named,ih _ (.inl (by simp))]
    simp [Csv.Dialect.writeRecords]

theorem rowsStep (env : Env) {w : MissionCsvWriter} (named : w.outPath ≠ "") (text : List Char)
    (s : State) (e : Event) : ∃ rows, (step env s e).rows = s.rows ++ rows ∧
      fileStep env w (some text) s e =
        some (text ++ Csv.excel.writeRecords (rows.map (rowCells w.py))) := by
  have rested : (step env s e).rows = s.rows → fileStep env w (some text) s e = some text →
      ∃ rows, (step env s e).rows = s.rows ++ rows ∧ fileStep env w (some text) s e =
        some (text ++ Csv.excel.writeRecords (rows.map (rowCells w.py))) := by
    intro same kept
    exact ⟨[],by simp [same],by simp [kept,Csv.Dialect.writeRecords]⟩
  obtain ⟨now,loop,action⟩ := e
  cases action with
  | onMessage topic payload => exact rested rfl rfl
  | enqueueMessage =>
    refine rested ?_ rfl
    simp only [step,enqueueMessage]
    split
    · rfl
    · split <;> rfl
  | worker written =>
    cases waiting : s.queue with
    | nil => exact rested (by simp only [step,worker,waiting]) (by simp only [fileStep,waiting])
    | cons message queue =>
      refine ⟨(telemetryWorker env written s.registry s.tracker message now).2.1,?_,?_⟩
      · simp only [step,worker,waiting]
      · simp only [fileStep,waiting]
        exact rowsWritten named _ (.inl (by simp))
  | _ => exact rested (Accounting.restedRows env s rfl) rfl

theorem fileGrows {env : Env} {w : MissionCsvWriter} (named : w.outPath ≠ "") {file : File}
    {text : List Char} (opened : w.start file = some text) (events : List Event) :
    fileAfter env w file events = some (text ++
      Csv.excel.writeRecords ((after env events).rows.map (rowCells w.py))) := by
  induction events using List.reverseRecOn with
  | nil => simp [fileAfter,opened,Csv.Dialect.writeRecords]
  | append_singleton events e ih =>
    have step_ : fileAfter env w file (events ++ [e]) =
        fileStep env w (fileAfter env w file events) (after env events) e := Trace.historyConcat ..
    obtain ⟨rows,grown,written⟩ := rowsStep env named
      (text ++ Csv.excel.writeRecords ((after env events).rows.map (rowCells w.py)))
      (after env events) e
    rw [step_,ih,written,afterConcat,grown]
    simp [Csv.Dialect.writeRecords]

theorem headerFits : ∀ cell ∈ header, cell.length ≤ fieldSizeLimit := by decide +kernel

theorem headerClosed : Csv.Closed Csv.excel fieldSizeLimit (Csv.excel.writeRecord header) [header] := by
  have closed := Csv.closedRecord (d := Csv.excel) Csv.closedNil headerFits
  rwa [List.nil_append,List.nil_append] at closed

def Holds (file : File) (records : List Csv.Record) : Prop :=
  ∃ text, file = some text ∧ text ≠ [] ∧ Csv.Closed Csv.excel fieldSizeLimit text records

theorem startHolds {w : MissionCsvWriter} (named : w.outPath ≠ "") {file : File}
    (fresh : file = none ∨ file = some []) : Holds (w.start file) [header] := by
  refine ⟨Csv.excel.writeRecord header,?_,Csv.excel.recordContent header,headerClosed⟩
  rcases fresh with rfl | rfl <;> simp [MissionCsvWriter.start,named,MissionCsvWriter.ensureCsvHeader]

theorem startKeeps {w : MissionCsvWriter} {file : File} {records : List Csv.Record}
    (holds : Holds file records) : w.start file = file := by
  obtain ⟨text,rfl,content,-⟩ := holds
  unfold MissionCsvWriter.start
  split
  · rfl
  · cases text with
    | nil => exact absurd rfl content
    | cons c text => rfl

theorem runHolds {env : Env} {w : MissionCsvWriter} (named : w.outPath ≠ "") {file : File}
    {records : List Csv.Record} (holds : Holds (w.start file) records) {events : List Event}
    (fits : ∀ row ∈ (after env events).rows, Fits w.py row) :
    Holds (fileAfter env w file events)
      (records ++ (after env events).rows.map (rowCells w.py)) := by
  obtain ⟨text,opened,content,closed⟩ := holds
  refine ⟨_,fileGrows named opened events,by simp [content],Csv.closedRecords closed ?_⟩
  intro record mem cell inside
  obtain ⟨row,mem',rfl⟩ := List.mem_map.mp mem
  exact fits row mem' cell inside

theorem runsHold {env : Env} {w : MissionCsvWriter} (named : w.outPath ≠ "") {file : File}
    {records : List Csv.Record} (holds : Holds file records) {runs : List (List Event)}
    (fits : ∀ events ∈ runs, ∀ row ∈ (after env events).rows, Fits w.py row) :
    Holds (restarted env w file runs)
      (records ++ (runs.flatMap (fun events => (after env events).rows)).map (rowCells w.py)) := by
  induction runs generalizing file records with
  | nil => simpa [restarted] using holds
  | cons events runs ih =>
    have opened : Holds (w.start file) records := by rw [startKeeps holds]; exact holds
    have next := runHolds named opened (fits events (List.mem_cons_self ..))
    have all := ih next (fun x mem => fits x (List.mem_cons_of_mem _ mem))
    simpa [restarted] using all

theorem holdsRead {file : File} {records : List Csv.Record} (holds : Holds file records) :
    readFile file = some records := by
  obtain ⟨text,rfl,-,closed⟩ := holds
  exact Csv.closedRead closed

theorem fileReadsBack (env : Env) {w : MissionCsvWriter} (named : w.outPath ≠ "") {file : File}
    (fresh : file = none ∨ file = some []) (events : List Event) (runs : List (List Event))
    (fits : ∀ run ∈ events :: runs, ∀ row ∈ (after env run).rows, Fits w.py row) :
    readFile (restarted env w file (events :: runs)) =
      some (header :: ((events :: runs).flatMap (fun run => (after env run).rows)).map
        (rowCells w.py)) := by
  have first := runHolds named (startHolds named fresh) (fits events (List.mem_cons_self ..))
  have all := runsHold named first (fun x mem => fits x (List.mem_cons_of_mem _ mem))
  have read := holdsRead all
  simpa [restarted] using read

/-! A completed mission, and a restart after it. -/

def completedMessage : Json :=
  .obj [("drone_id",.str "drone-1"),("mission_status",.str "completed")]

def completing : Env := { deployment with jsonLoads := fun _ => .ok completedMessage }

def plainText : Rendering where
  str
    | .str text => text
    | .bool b => if b then "True" else "False"
    | .int n => toString n
    | _ => "0.0"
  dumps
    | .arr _ => "[]"
    | _ => "\x7b\x7d"

def mission : List Event :=
  [(Action.registerSession (.obj [("flight_session_id",.str "flight-1"),
      ("drone_id",.str "drone-1")])).at 0 9 0 0,
    (Action.onMessage "status_message" "").at 0 9 0 5,
    Action.enqueueMessage.at 0 9 0 5,
    (Action.worker (.ok ())).at 0 9 0 6]

theorem missionReadsBack :
    (∃ row, (after completing mission).rows = [row]) ∧
    readFile (restarted completing ⟨"mission_rows.csv",plainText⟩ none [mission,mission]) =
      some (header :: ([mission,mission].flatMap (fun run => (after completing run).rows)).map
        (rowCells plainText)) := by
  have fits : ∀ row ∈ (after completing mission).rows, Fits plainText row := by
    unfold Fits
    decide +kernel
  refine ⟨⟨_,rfl⟩,fileReadsBack completing (by decide) (.inl rfl) mission [mission] ?_⟩
  intro run mem
  simp only [List.mem_cons,List.not_mem_nil,or_false,or_self] at mem
  exact mem ▸ fits

end FlightMonitor.MissionCsv
