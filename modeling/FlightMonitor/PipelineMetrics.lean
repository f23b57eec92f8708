import FlightMonitor.Arrivals
import FlightMonitor.Summary

/-! The counters of the telemetry pipeline (`app/monitoring/pipeline_metrics.py`) beside a run of
the service: what `_enqueue_message` and the workers record. Durations are exact here. -/
namespace FlightMonitor
open PyValue IsoTime

structure PipelineMetrics where
  enqueuedMessages : Nat := 0
  droppedMessages : Nat := 0
  processedMessages : Nat := 0
  failedMessages : Nat := 0
  finalRowsWritten : Nat := 0
  maxQueueDepth : Nat := 0
  queueLatency : Summary Rat := .blank
  processing : Summary Rat := .blank

structure PipelineMetricsSnapshot where
  enqueuedMessages : Nat
  droppedMessages : Nat
  processedMessages : Nat
  failedMessages : Nat
  finalRowsWritten : Nat
  currentQueueDepth : Nat
  maxQueueDepth : Nat
  averageQueueLatencyMs : Rat
  maxQueueLatencyMs : Rat
  averageProcessingMs : Rat
  maxProcessingMs : Rat

namespace PipelineMetrics

def recordEnqueue (m : PipelineMetrics) (queueDepth : Nat) : PipelineMetrics :=
  { m with
    enqueuedMessages := m.enqueuedMessages + 1
    maxQueueDepth := max m.maxQueueDepth queueDepth }

def recordDrop (m : PipelineMetrics) (queueDepth : Nat) : PipelineMetrics :=
  { m with
    droppedMessages := m.droppedMessages + 1
    maxQueueDepth := max m.maxQueueDepth queueDepth }

def observeQueueLatency (m : PipelineMetrics) (latencySeconds : Rat) (queueDepth : Nat) :
    PipelineMetrics :=
  { m with
    queueLatency := m.queueLatency.observe (max 0 latencySeconds)
    maxQueueDepth := max m.maxQueueDepth queueDepth }

def observeProcessed (m : PipelineMetrics) (processingSeconds : Rat) : PipelineMetrics :=
  { m with
    processedMessages := m.processedMessages + 1
    processing := m.processing.observe (max 0 processingSeconds) }

def observeFailure (m : PipelineMetrics) (processingSeconds : Rat) : PipelineMetrics :=
  { m with
    failedMessages := m.failedMessages + 1
    processing := m.processing.observe (max 0 processingSeconds) }

def observeFinalRowWritten (m : PipelineMetrics) : PipelineMetrics :=
  { m with finalRowsWritten := m.finalRowsWritten + 1 }

def snapshot (m : PipelineMetrics) (currentQueueDepth : Nat) : PipelineMetricsSnapshot where
  enqueuedMessages := m.enqueuedMessages
  droppedMessages := m.droppedMessages
  processedMessages := m.processedMessages
  failedMessages := m.failedMessages
  finalRowsWritten := m.finalRowsWritten
  currentQueueDepth := currentQueueDepth
  maxQueueDepth := m.maxQueueDepth
  averageQueueLatencyMs := m.queueLatency.average * 1000
  maxQueueLatencyMs := m.queueLatency.highest * 1000
  averageProcessingMs := m.processing.average * 1000
  maxProcessingMs := m.processing.highest * 1000

end PipelineMetrics

structure Timed where
  event : Event
  finished : Rat

-- The reading that `on_message` writes; a worker skips the observation for any other value.
def enqueuedMonotonic (message : Members) : Option Rat :=
  match Json.member message "enqueued_monotonic" .null with
  | .float (.finite reading) => some reading
  | _ => none

def observeWait (m : PipelineMetrics) (message : Members) (started : Rat) (queueDepth : Nat) :
    PipelineMetrics :=
  match enqueuedMonotonic message with
  | some enqueued => m.observeQueueLatency (started - enqueued) queueDepth
  | none => m

def observeOutcome (m : PipelineMetrics) (seconds : Rat) : WorkerOutcome → PipelineMetrics
  | .failed _ => m.observeFailure seconds
  | .missingDroneId | .noActiveSession => m
  | .processed => m.observeProcessed seconds

def observeRows (m : PipelineMetrics) (rows : List MissionRow) : PipelineMetrics :=
  if rows.isEmpty then m else m.observeFinalRowWritten

def measureEnqueue (env : Env) (m : PipelineMetrics) (s : State) : PipelineMetrics :=
  match s.scheduled with
  | [] => m
  | _ :: _ =>
    if env.queueSize = 0 ∨ s.queue.length < env.queueSize then m.recordEnqueue (s.queue.length + 1)
    else m.recordDrop s.queue.length

def measureWorker (env : Env) (m : PipelineMetrics) (s : State) (written : Except PyError Unit)
    (t : Timed) : PipelineMetrics :=
  match s.queue with
  | [] => m
  | message :: queue =>
    let m := observeWait m message t.event.loop queue.length
    match telemetryWorker env written s.registry s.tracker message t.event.wall with
    | (_,rows,outcome) => observeOutcome (observeRows m rows) (t.finished - t.event.loop) outcome

def measure (env : Env) (m : PipelineMetrics) (s : State) (t : Timed) : PipelineMetrics :=
  match t.event.action with
  | .enqueueMessage => measureEnqueue env m s
  | .worker written => measureWorker env m s written t
  | _ => m

def timedStep (env : Env) (s : State) (t : Timed) : State := step env s t.event

def metricsAfter (env : Env) (run : List Timed) : PipelineMetrics :=
  Trace.history (timedStep env) {} (measure env) {} run

theorem timedFinal (env : Env) (run : List Timed) :
    Trace.final (timedStep env) {} run = after env (run.map Timed.event) := by
  simp only [after,Trace.final,List.foldl_map]
  rfl

@[simp] theorem metricsNil (env : Env) : metricsAfter env [] = {} := rfl

@[simp] theorem metricsConcat (env : Env) (run : List Timed) (t : Timed) :
    metricsAfter env (run ++ [t]) =
      measure env (metricsAfter env run) (after env (run.map Timed.event)) t := by
  simp only [metricsAfter,Trace.historyConcat,timedFinal]

end FlightMonitor
