import MonoidKernel.Library.OrderedDict
import MonoidKernel.Loop.SessionFacade
import MonoidKernel.Checkpoint.Payload

set_option autoImplicit false

-- Translated from StatusJsonSink in recorder.py.
namespace MonoidKernel.StatusProjection

open Library CheckpointCodec
open AgentLoop (interruptionCauseValue)
open Lifecycle (SessionState)

variable {F : Type}

abbrev Dict (F : Type) := OrderedDict String (Json F)

section Python

structure Python (F : Type) where
  isZero : F → Bool
  spell : Json F → String
  spell_str : ∀ text, spell (.str text) = String.ofList text

def Python.truthy (python : Python F) : Json F → Bool
  | .null => false
  | .bool value => value
  | .int value => decide (value ≠ 0)
  | .float value => !python.isZero value
  | .str text => !text.isEmpty
  | .list items => !items.isEmpty
  | .dict entries => !entries.isEmpty

def Python.either (python : Python F) (value : Option (Json F)) (other : Json F) : Json F :=
  match value with
  | some value => if python.truthy value then value else other
  | none => other

def getOr (dict : Dict F) (key : String) (default : Json F) : Json F := (dict.get? key).getD default

def update (dict : Dict F) (items : List (String × Json F)) : Dict F :=
  items.foldl (fun dict item => dict.set item.1 item.2) dict

def pop (dict : Dict F) (keys : List String) : Dict F := keys.foldl OrderedDict.erase dict

def whole (dict : Dict F) : Json F := .dict (dict.entries.map fun item => (item.1.toList, item.2))

end Python

section Events

inductive EventType where
  | runStarted | runFinished | runFailed | runWaiting | runResumed | runAwaitingInput
  | sessionStateChanged | agentConfigUpdated | modelTurnStarted | turnSettled | turnFailed
  | turnInterrupted | turnPaused | toolCallStarted | toolCallFinished | toolCallFailed
  | planUpdated | metricsUpdated | workspaceProposalUpdated | proposalPackageExported
  | proposalApproved | proposalRejected | proposalApplied | proposalConflict
  | job (name : String)
  | other (name : String)
deriving DecidableEq

def EventType.wire : EventType → String
  | .runStarted => "run.started"
  | .runFinished => "run.finished"
  | .runFailed => "run.failed"
  | .runWaiting => "run.waiting"
  | .runResumed => "run.resumed"
  | .runAwaitingInput => "run.awaiting_input"
  | .sessionStateChanged => "session.state.changed"
  | .agentConfigUpdated => "agent.config.updated"
  | .modelTurnStarted => "model.turn.started"
  | .turnSettled => "turn.settled"
  | .turnFailed => "turn.failed"
  | .turnInterrupted => "turn.interrupted"
  | .turnPaused => "turn.paused"
  | .toolCallStarted => "tool.call.started"
  | .toolCallFinished => "tool.call.finished"
  | .toolCallFailed => "tool.call.failed"
  | .planUpdated => "plan.updated"
  | .metricsUpdated => "metrics.updated"
  | .workspaceProposalUpdated => "workspace.proposal.updated"
  | .proposalPackageExported => "proposal.package.exported"
  | .proposalApproved => "proposal.approved"
  | .proposalRejected => "proposal.rejected"
  | .proposalApplied => "proposal.applied"
  | .proposalConflict => "proposal.conflict"
  | .job name => "job." ++ name
  | .other name => name

structure AgentEvent (F : Type) where
  seq : Nat
  runId : String
  timestamp : String
  turnId : Option String
  type : EventType
  data : Dict F

def stateValue : SessionState → String
  | .created => "created"
  | .idle => "idle"
  | .running => "running"
  | .awaitingInput => "awaiting_input"
  | .awaitingTasks => "awaiting_tasks"
  | .paused => "paused"
  | .interrupted => "interrupted"
  | .turnFailed => "turn_failed"
  | .limited => "limited"
  | .cancelled => "cancelled"
  | .failed => "failed"
  | .completed => "completed"

def stateJson (state : SessionState) : Json F := str (stateValue state)

def statusStringToState : List (String × SessionState) :=
  [("queued", .created), ("created", .created), ("idle", .idle), ("running", .running),
    ("awaiting_input", .awaitingInput), ("awaiting_tasks", .awaitingTasks),
    ("waiting_for_background_jobs", .awaitingTasks), ("paused", .paused),
    ("interrupted", .interrupted), ("turn_failed", .turnFailed), ("completed", .completed),
    ("failed", .failed), ("limited", .limited), ("cancelled", .cancelled)]

def sessionStateFromRunStatus (status errorCode : String) : SessionState :=
  if errorCode = "cancelled" ∧ (status = "limited" ∨ status = "failed") then .cancelled
  else (statusStringToState.lookup status).getD .created

def isParked (state : Json F) : Bool :=
  match textOf state with
  | some text => [SessionState.awaitingInput, .awaitingTasks, .paused].any (stateValue · == text)
  | none => false

def parseCause (value : Option (Json F)) : Option InterruptionCause :=
  (value.bind textOf).bind parseInterruptionCause

def causeJson (cause : InterruptionCause) : Json F := str (interruptionCauseValue cause)

end Events

section Sink

variable (python : Python F)

def failureClassificationKeys : List String :=
  ["provider_error_code", "http_status", "retryable", "config_recoverable", "provider_retried"]

def withCause (state : Dict F) (data : Dict F) : Dict F :=
  match parseCause (data.get? "interruption_cause") with
  | some cause => state.set "interruption_cause" (causeJson cause)
  | none => pop state ["interruption_cause"]

def runStatus (data : Dict F) : SessionState :=
  sessionStateFromRunStatus
    (python.spell (python.either (some (getOr data "status" (str "completed"))) (str "completed")))
    (python.spell (python.either (data.get? "error_code") (str "")))

def agentConfig (data : Dict F) : Json F :=
  .dict [("definition_id".toList, getOr data "definition_id" .null),
    ("config_version".toList, getOr data "config_version" .null),
    ("config_hash".toList, getOr data "config_hash" .null)]

def planTruncated (state data : Dict F) : Dict F :=
  let known := match data.get? "truncated_items" with
    | some (.int count) => if 0 < count then some (.int count) else none
    -- A Python boolean is an integer, and `True` is positive.
    | some (.bool true) => some (.bool true)
    | _ => none
  match known with
  | some count => state.set "plan_truncated_items" count
  | none => pop state ["plan_truncated_items"]

def withJob (state data : Dict F) : Dict F :=
  let state := match state.get? "jobs" with
    | some _ => state
    | none => state.set "jobs" (.dict [])
  match state.get? "jobs", data.get? "job_id" with
  | some (.dict jobs), some (.str jobId) =>
    if jobId.isEmpty then state
    else state.set "jobs" (.dict (OrderedDict.put jobId (whole data) jobs))
  | _, _ => state

def unpark (state : Dict F) : Dict F :=
  if isParked (getOr state "state" .null) then
    pop (update state [("state", stateJson .running), ("terminal", .bool false),
      ("waiting_for_background_jobs", .bool false)]) ["awaiting_input"]
  else state

def emitBranch (state : Dict F) (event : AgentEvent F) : Dict F :=
  let data := event.data
  match event.type with
  | .runStarted =>
    update state [("run_id", str event.runId), ("state", stateJson .running),
      ("terminal", .bool false), ("started_at", str event.timestamp),
      ("workspace", getOr data "workspace" .null),
      ("workspace_backend", getOr data "workspace_backend" .null),
      ("workspace_base_path", getOr data "workspace_base_path" .null),
      ("manifest_path", getOr data "manifest_path" .null), ("mode", getOr data "mode" .null),
      ("model", getOr data "model" .null),
      ("reasoning_effort", getOr data "reasoning_effort" .null)]
  | .runFinished =>
    let finished := withCause (update state [("state", stateJson (runStatus python data)),
      ("terminal", .bool true), ("finished_at", str event.timestamp),
      ("error", getOr data "error" (str "")),
      ("error_code", getOr data "error_code" (str ""))]) data
    -- A failed terminal keeps the classification of the `run.failed` before it.
    if runStatus python data = .failed then finished else pop finished failureClassificationKeys
  | .runFailed =>
    pop (update state [("state", stateJson .failed), ("terminal", .bool true),
      ("error", getOr data "error" (str "")), ("error_code", getOr data "error_code" (str "")),
      ("error_type", getOr data "type" (str "")),
      ("provider_error_code", getOr data "provider_error_code" (str "")),
      ("http_status", getOr data "http_status" .null),
      ("retryable", getOr data "retryable" (.bool false)),
      ("config_recoverable", getOr data "config_recoverable" (.bool false))])
      ["provider_retried", "interruption_cause"]
  | .turnPaused => pop state ["interruption_cause"]
  | .turnSettled => withCause state data
  | .turnInterrupted => withCause state data
  | .runWaiting =>
    pop (update state [("state", stateJson .awaitingTasks), ("terminal", .bool false),
      ("waiting_for_background_jobs", .bool true),
      ("waiting_jobs", getOr data "jobs" (.list []))]) ["interruption_cause"]
  | .runResumed =>
    update state [("state", stateJson .running), ("terminal", .bool false),
      ("waiting_for_background_jobs", .bool false),
      ("resumed_jobs", getOr data "job_ids" (.list []))]
  | .runAwaitingInput =>
    pop (update state [("state", stateJson .awaitingInput), ("terminal", .bool false),
      ("awaiting_input", .dict [("reason".toList, getOr data "reason" .null),
        ("task_ids".toList, getOr data "task_ids" (.list [])),
        ("prompt".toList, getOr data "prompt" .null)])]) ["interruption_cause"]
  | .agentConfigUpdated => state.set "agent_config" (agentConfig data)
  | .modelTurnStarted =>
    pop (unpark (update state [("current_turn_id", (event.turnId.map str).getD .null),
      ("current_step", getOr data "step" .null)]))
      (["interruption_cause", "error", "error_code"] ++ failureClassificationKeys)
  | .turnFailed =>
    update state [("error", getOr data "error" (str "")),
      ("error_code", getOr data "error_code" (str "")),
      ("provider_error_code", getOr data "provider_error_code" (str "")),
      ("http_status", getOr data "http_status" .null),
      ("retryable", getOr data "retryable" (.bool false)),
      ("config_recoverable", getOr data "config_recoverable" (.bool false)),
      ("provider_retried", getOr data "provider_retried" (.bool false))]
  | .sessionStateChanged =>
    if (data.get? "state").bind textOf = some (stateValue .paused) then
      update state [("state", stateJson .paused), ("terminal", .bool false)]
    else state
  | .toolCallStarted =>
    update state [("current_tool", getOr data "tool" .null),
      ("current_tool_call_id", getOr data "call_id" .null)]
  | .toolCallFinished => pop state ["current_tool", "current_tool_call_id"]
  | .toolCallFailed => pop state ["current_tool", "current_tool_call_id"]
  | .planUpdated => planTruncated (state.set "plan" (getOr data "items" (.list []))) data
  | .metricsUpdated => state.set "metrics" (whole data)
  | .workspaceProposalUpdated => state.set "proposal" (whole data)
  | .job _ => withJob state data
  | _ => state

def emit (state : Dict F) (event : AgentEvent F) : Dict F :=
  update (emitBranch python state event) [("last_event_seq", .int event.seq),
    ("last_event_type", str event.type.wire), ("updated_at", str event.timestamp)]

-- `StatusJsonSink`: what it holds and the last status file that it could write.
structure StatusJsonSink (F : Type) where
  state : Dict F
  file : Dict F

def StatusJsonSink.emit (sink : StatusJsonSink F) (event : AgentEvent F) (written : Bool) :
    StatusJsonSink F :=
  let state := StatusProjection.emit python sink.state event
  ⟨state, if written then state else sink.file⟩

def StatusJsonSink.run (events : List (AgentEvent F × Bool)) : StatusJsonSink F :=
  events.foldl (fun sink item => sink.emit python item.1 item.2) ⟨.empty, .empty⟩

end Sink

section Replay

variable (python : Python F)

abbrev Read (A : Type) := Except String A

def eventText (data : Dict F) (key : String) : Json F :=
  match data.get? key with
  | some (.str text) => .str text
  | _ => str ""

def eventFlag (data : Dict F) (key : String) : Json F :=
  match data.get? key with
  | some (.bool value) => .bool value
  | _ => .bool false

def eventHttpStatus (data : Dict F) : Json F :=
  match data.get? "http_status" with
  | some (.int value) => .int value
  | _ => .null

def eventInterruptionCause (data : Dict F) : Json F :=
  match parseCause (data.get? "interruption_cause") with
  | some cause => causeJson cause
  | none => .null

def assignFailureClassification (projection data : Dict F) : Dict F :=
  update projection [("provider_error_code", eventText data "provider_error_code"),
    ("http_status", eventHttpStatus data), ("retryable", eventFlag data "retryable"),
    ("config_recoverable", eventFlag data "config_recoverable"),
    ("provider_retried", eventFlag data "provider_retried")]

def clearFailureClassification (projection : Dict F) : Dict F :=
  update projection [("provider_error_code", str ""), ("http_status", .null),
    ("retryable", .bool false), ("config_recoverable", .bool false),
    ("provider_retried", .bool false)]

def optionalText (value : Option (Json F)) (fieldName : String) : Read (Option String) :=
  match value with
  | none => .ok none
  | some .null => .ok none
  | some (.str text) => .ok (some (String.ofList text))
  | some _ => .error (fieldName ++ " must be a string")

def firstPresentText (candidates : List (Option (Json F))) (fieldName : String) :
    Read (Option String) :=
  match candidates with
  | [] => .ok none
  | candidate :: rest => do
    let value ← optionalText candidate fieldName
    match value with
    | some text => if text.isEmpty then firstPresentText rest fieldName else .ok (some text)
    | none => firstPresentText rest fieldName

def payloadBool (payload : Dict F) (key : String) : Read Bool :=
  match payload.get? key with
  | none => .ok false
  | some (.bool value) => .ok value
  | some _ => .error (key ++ " must be a boolean")

def payloadNonnegativeInt (payload : Dict F) (key : String) : Read Int :=
  match payload.get? key with
  | none => .ok 0
  | some (.int value) =>
    if value < 0 then .error (key ++ " must be a non-negative integer") else .ok value
  | some _ => .error (key ++ " must be a non-negative integer")

structure RunDir (F : Type) where
  name : String
  status : Dict F
  metrics : Dict F
  proposal : Dict F
  manifest : Dict F
  package : Dict F
  approval : Dict F
  applyResult : Dict F
  -- `_public_paths` under the permission policy of the run.
  publicPaths : Json F → Json F

def payloadState (status metrics : Dict F) : Read SessionState := do
  let raw ← firstPresentText
    [status.get? "state", status.get? "status", metrics.get? "state", metrics.get? "status"]
    "run state"
  match raw with
  | none => .ok .created
  | some raw =>
    let errorCode ← firstPresentText [status.get? "error_code", metrics.get? "error_code"]
      "run error_code"
    let _ ← payloadBool status "terminal"
    .ok (sessionStateFromRunStatus raw (errorCode.getD ""))

def payloadTerminal (status : Dict F) (state : SessionState) : Read Bool :=
  match status.get? "terminal" with
  | some _ => payloadBool status "terminal"
  | none => do
    let raw ← firstPresentText [status.get? "state", status.get? "status"] "run state"
    let text := raw.getD (stateValue state)
    .ok (["completed", "failed", "limited", "cancelled"].contains text || state.isTerminal)

def firstString (values : List (Option (Json F))) : Json F :=
  match values with
  | [] => str ""
  | some (.str text) :: rest => if text.isEmpty then firstString rest else .str text
  | _ :: rest => firstString rest

def failureQuarantineMarkers : List String := ["given_up_by_recovery", "recorded_by_run_failure"]

def statusArtifactFailureQuarantined (payload : Dict F) : Bool :=
  failureQuarantineMarkers.any fun key =>
    match payload.get? key with
    | some (.bool true) => true
    | _ => false

def seed (dir : RunDir F) : Read (Dict F) := do
  let status := dir.status
  let metrics := dir.metrics
  let state ← payloadState status metrics
  let terminal ← payloadTerminal status state
  let waiting ← payloadBool status "waiting_for_background_jobs"
  let lastSeq ← payloadNonnegativeInt status "last_event_seq"
  .ok (update .empty [
    ("run_id", firstString [status.get? "run_id", metrics.get? "run_id",
      dir.proposal.get? "run_id", some (str dir.name)]),
    ("state", stateJson state), ("terminal", .bool terminal),
    ("error_code", python.either (status.get? "error_code")
      (python.either (metrics.get? "error_code") (str ""))),
    ("error", python.either (status.get? "error") (python.either (metrics.get? "error") (str ""))),
    ("provider_error_code", eventText status "provider_error_code"),
    ("http_status", eventHttpStatus status), ("retryable", eventFlag status "retryable"),
    ("config_recoverable", eventFlag status "config_recoverable"),
    ("provider_retried", eventFlag status "provider_retried"),
    ("interruption_cause", python.either (some (eventInterruptionCause status))
      (eventInterruptionCause metrics)),
    ("workspace_backend", python.either (status.get? "workspace_backend")
      (python.either (metrics.get? "workspace_backend")
        (python.either (dir.manifest.get? "workspace_backend") (str "")))),
    ("waiting_for_background_jobs", .bool waiting),
    ("current_step", getOr status "current_step" .null),
    ("current_tool", getOr status "current_tool" .null),
    ("agent_config", python.either (status.get? "agent_config")
      (python.either (dir.manifest.get? "agent_config") (.dict []))),
    ("changed_paths",
      dir.publicPaths (python.either (dir.proposal.get? "changed_paths") (.list []))),
    ("proposal_hash", getOr dir.proposal "proposal_hash" .null),
    ("diff_sha256", getOr dir.proposal "diff_sha256" .null),
    ("package_hash", getOr dir.package "package_hash" .null),
    ("approval_status", python.either (dir.approval.get? "decision") (str "")),
    ("approval_hash", getOr dir.approval "approval_hash" .null),
    ("apply_status", python.either (dir.applyResult.get? "status") (str "")),
    ("apply_hash", getOr dir.applyResult "apply_hash" .null), ("last_event_seq", .int lastSeq),
    ("last_event_type", python.either (status.get? "last_event_type") (str "")),
    ("event_log_error", str "")])

def keep (projection data : Dict F) (key : String) : Json F :=
  python.either (data.get? key) (getOr projection key .null)

def lastEvent (projection : Dict F) (event : AgentEvent F) : Dict F :=
  let newer := match projection.get? "last_event_seq" with
    | some (.int held) => decide (held ≤ event.seq)
    | _ => false
  if newer then
    update projection [("last_event_seq", .int event.seq), ("last_event_type", str event.type.wire)]
  else projection

def applyBranch (publicPaths : Json F → Json F) (projection : Dict F) (event : AgentEvent F) :
    Read (Dict F) :=
  let data := event.data
  match event.type with
  | .runStarted =>
    .ok (update projection [("state", stateJson .running), ("terminal", .bool false),
      ("workspace_backend", keep python projection data "workspace_backend")])
  | .runFinished => do
    let status ← optionalText (data.get? "status") "run.finished status"
    let errorCode ← optionalText (data.get? "error_code") "run.finished error_code"
    let held := ((projection.get? "state").bind textOf).getD ""
    let known := (status.filter fun text => !text.isEmpty).getD held
    let state := sessionStateFromRunStatus known (errorCode.getD "")
    let finished := update projection [("state", stateJson state), ("terminal", .bool true),
      ("error", eventText data "error"), ("error_code", eventText data "error_code"),
      ("interruption_cause", eventInterruptionCause data)]
    .ok (if state = .failed then finished else clearFailureClassification finished)
  | .runFailed =>
    .ok ((assignFailureClassification (update projection [("state", stateJson .failed),
      ("terminal", .bool true), ("error", eventText data "error"),
      ("error_code", eventText data "error_code")]) data).set "interruption_cause" .null)
  | .runWaiting =>
    .ok (update projection [("state", stateJson .awaitingTasks), ("terminal", .bool false),
      ("waiting_for_background_jobs", .bool true), ("interruption_cause", .null)])
  | .runAwaitingInput =>
    .ok (update projection [("state", stateJson .awaitingInput), ("terminal", .bool false),
      ("interruption_cause", .null)])
  | .runResumed =>
    .ok (update projection [("state", stateJson .running), ("terminal", .bool false),
      ("waiting_for_background_jobs", .bool false)])
  | .turnFailed =>
    .ok (assignFailureClassification (update projection [("error", eventText data "error"),
      ("error_code", eventText data "error_code")]) data)
  | .turnPaused => .ok (projection.set "interruption_cause" .null)
  | .turnSettled => .ok (projection.set "interruption_cause" (eventInterruptionCause data))
  | .turnInterrupted => .ok (projection.set "interruption_cause" (eventInterruptionCause data))
  | .sessionStateChanged =>
    .ok (if (data.get? "state").bind textOf = some (stateValue .paused) then
      update projection [("state", stateJson .paused), ("terminal", .bool false)]
    else projection)
  | .agentConfigUpdated => .ok (projection.set "agent_config" (agentConfig data))
  | .modelTurnStarted =>
    let stepped := projection.set "current_step" (getOr data "step" .null)
    let unparked := if isParked (getOr stepped "state" .null) then
        update stepped [("state", stateJson .running), ("terminal", .bool false),
          ("waiting_for_background_jobs", .bool false)]
      else stepped
    .ok ((clearFailureClassification (update unparked [("error", str ""),
      ("error_code", str "")])).set "interruption_cause" .null)
  | .toolCallStarted => .ok (projection.set "current_tool" (getOr data "tool" .null))
  | .toolCallFinished => .ok (projection.set "current_tool" .null)
  | .toolCallFailed => .ok (projection.set "current_tool" .null)
  | .workspaceProposalUpdated =>
    .ok (update projection [
      ("changed_paths", publicPaths (keep python projection data "changed_paths")),
      ("proposal_hash", keep python projection data "proposal_hash"),
      ("diff_sha256", keep python projection data "diff_sha256")])
  | .proposalPackageExported =>
    .ok (projection.set "package_hash" (keep python projection data "package_hash"))
  | .proposalApproved =>
    .ok (update projection [("approval_status", str "approved"),
      ("approval_hash", keep python projection data "approval_hash")])
  | .proposalRejected =>
    .ok (update projection [("approval_status", str "rejected"),
      ("approval_hash", keep python projection data "approval_hash")])
  | .proposalApplied =>
    .ok (projection.set "apply_status" (python.either (data.get? "status") (str "applied")))
  | .proposalConflict =>
    .ok (projection.set "apply_status" (python.either (data.get? "status") (str "conflict")))
  | _ => .ok projection

def applyEvent (publicPaths : Json F → Json F) (projection : Dict F) (event : AgentEvent F) :
    Read (Dict F) :=
  applyBranch python publicPaths (lastEvent projection event) event

def applyQuarantine (dir : RunDir F) (projection : Dict F) : Read (Dict F) := do
  let status := dir.status
  let state ← payloadState status dir.metrics
  let terminal ← payloadTerminal status state
  .ok (update projection [("state", stateJson state), ("terminal", .bool terminal),
    ("error", python.either (status.get? "error") (str "")),
    ("error_code", python.either (status.get? "error_code") (str "")),
    ("provider_error_code", eventText status "provider_error_code"),
    ("http_status", eventHttpStatus status), ("retryable", eventFlag status "retryable"),
    ("config_recoverable", eventFlag status "config_recoverable"),
    ("provider_retried", eventFlag status "provider_retried"), ("interruption_cause", .null)])

def projectRunStatus (dir : RunDir F) (events : List (AgentEvent F)) : Read (Dict F) := do
  let seeded ← seed python dir
  let projection ← events.foldlM (applyEvent python dir.publicPaths) seeded
  if statusArtifactFailureQuarantined dir.status then applyQuarantine python dir projection
  else .ok projection

end Replay

end MonoidKernel.StatusProjection
