import FlightMonitor.Delimited
import FlightMonitor.Startup

/-! The topics of the MQTT client: parsed from one setting (`_parse_topics` in `app/main.py`), and
subscribed to at each connection the broker accepts (`app/ingestion/mqtt_client.py`). -/
namespace FlightMonitor.Topics
open PyValue Startup

def joinTopics (topics : List String) : String := String.intercalate "," topics

def defaultTelemetryTopics : List String := ["status_message","update_drone"]

/-- What paho reports for a connection: nothing, a number, or an object `int` refuses. -/
inductive ReasonCode where
  | missing
  | number (value : Int)
  | named (text : String)
  deriving DecidableEq, Repr

def reasonCodeToInt : ReasonCode → Int
  | .missing => 0
  | .number value => value
  | .named text => if text = "Success" then 0 else 1

abbrev Packet := List (String × Nat)

structure TelemetryMqttIngestionClient where
  topics : List String
  subscribed : List Packet := []

namespace TelemetryMqttIngestionClient

def ofTopics (topics : List String) : TelemetryMqttIngestionClient where
  topics := if topics = [] then defaultTelemetryTopics else topics.filter (· ≠ "")

def onConnect (client : TelemetryMqttIngestionClient) (reasonCode : ReasonCode) :
    TelemetryMqttIngestionClient :=
  if reasonCodeToInt reasonCode ≠ 0 then client
  else { client with subscribed := client.subscribed ++ [client.topics.map (·,0)] }

end TelemetryMqttIngestionClient

def connected (setting : String) (connections : List ReasonCode) : TelemetryMqttIngestionClient :=
  Trace.final TelemetryMqttIngestionClient.onConnect (.ofTopics (parseTopics setting)) connections

def Clean (topic : String) : Prop := Delimited.Clean ',' isSpace topic.toList

structure Subscribes (setting : String) (connections : List ReasonCode) : Prop where
  clean : ∀ topic ∈ parseTopics setting, Clean topic
  refused : ∀ host s, s.topic = setting → checkFinalization host s = .ok () →
    ((∀ connected, startPipeline host s (.ok ()) connected = .error topicsMissing) ↔
      parseTopics setting = [])
  packets : parseTopics setting ≠ [] → (connected setting connections).subscribed =
    List.replicate (connections.countP (fun code => reasonCodeToInt code = 0))
      ((parseTopics setting).map (·,0))
  logged : parseTopics (joinTopics (parseTopics setting)) = parseTopics setting

theorem parseFields (value : String) :
    parseTopics value = (Delimited.fields ',' isSpace value.toList).map String.ofList := rfl

theorem parseJoined {topics : List String} (clean : ∀ topic ∈ topics, Clean topic) :
    parseTopics (joinTopics topics) = topics := by
  have joined : (joinTopics topics).toList = Delimited.joined ',' (topics.map String.toList) := by
    rw [joinTopics,String.toList_intercalate]
    rfl
  rw [parseFields,joined,Delimited.fieldsJoined]
  · simp [Function.comp_def]
  · intro item mem
    obtain ⟨topic,inside,rfl⟩ := List.mem_map.mp mem
    exact clean topic inside

theorem parseClean (setting : String) : ∀ topic ∈ parseTopics setting, Clean topic := by
  intro topic mem
  rw [parseFields] at mem
  obtain ⟨item,inside,rfl⟩ := List.mem_map.mp mem
  rw [Clean,String.toList_ofList]
  exact Delimited.fieldsClean setting.toList item inside

theorem clientKeeps {topics : List String} (some : topics ≠ [])
    (clean : ∀ topic ∈ topics, Clean topic) :
    (TelemetryMqttIngestionClient.ofTopics topics).topics = topics := by
  have filled : ∀ topic ∈ topics, topic ≠ "" := by
    rintro topic mem rfl
    exact (clean "" mem).filled rfl
  simpa [TelemetryMqttIngestionClient.ofTopics,some] using filled

theorem connectedTopics (client : TelemetryMqttIngestionClient) (connections : List ReasonCode) :
    Trace.final TelemetryMqttIngestionClient.onConnect client connections = { client with
      subscribed := client.subscribed ++ List.replicate
        (connections.countP (fun code => reasonCodeToInt code = 0)) (client.topics.map (·,0)) } := by
  induction connections using List.reverseRecOn with
  | nil => simp
  | append_singleton connections code ih =>
    rw [Trace.finalConcat,ih,TelemetryMqttIngestionClient.onConnect]
    by_cases accepted : reasonCodeToInt code = 0
    · simp [accepted,List.replicate_succ']
    · simp [accepted]

theorem tlsNotTopics (s : Settings) : configureTls s ≠ .error topicsMissing := by
  have apart : ∀ rest, "MQTT mTLS configuration is incomplete. " ++ rest ≠
      "MQTT_TOPIC is empty.  Set at least one topic name (comma-separated for multiple)." := by
    intro rest same
    have fifth := congrArg (fun text : String => text.toList[4]?) same
    simp only [String.toList_append] at fifth
    rw [List.getElem?_append_left (by decide)] at fifth
    exact absurd fifth (by decide)
  unfold configureTls
  dsimp only
  split
  · exact fun same => by cases same
  · split
    · exact fun same => by cases same
    · split
      · exact fun same => by cases same
      · simp only [topicsMissing,String.append_assoc,ne_eq,Except.error.injEq,
          PyError.runtimeError.injEq]
        exact apart _

theorem refusedIff {host : Host} {s : Settings} (checked : checkFinalization host s = .ok ()) :
    (∀ connected, startPipeline host s (.ok ()) connected = .error topicsMissing) ↔
      parseTopics s.topic = [] := by
  unfold startPipeline
  simp only [checked,bind,Except.bind]
  constructor
  · intro refused
    by_contra named
    have reached := refused (.ok ())
    simp only [startClient,if_neg named,bind,Except.bind] at reached
    cases transport : configureTls s with
    | error e =>
      rw [transport] at reached
      exact tlsNotTopics s (transport.trans reached)
    | ok t =>
      rw [transport] at reached
      cases reached
  · intro none connected
    rw [startClient,if_pos none]

theorem topicsKept : (∀ setting connections, Subscribes setting connections) ∧
    ∀ topics, (∀ topic ∈ topics, Clean topic) → parseTopics (joinTopics topics) = topics := by
  refine ⟨fun setting connections => ⟨parseClean setting,?_,?_,parseJoined (parseClean setting)⟩,
    fun topics => parseJoined⟩
  · rintro host s rfl checked
    exact refusedIff checked
  · intro some
    rw [connected,connectedTopics,clientKeeps some (parseClean setting)]
    rfl

end FlightMonitor.Topics
