import MonoidKernel.Library.JsonText
import MonoidKernel.Loop.State
import Mathlib.Algebra.Ring.Nat

set_option autoImplicit false

namespace MonoidKernel.CheckpointCodec

open Library AgentLoop

section Values

variable {F : Type}

structure Floats (F : Type) where
  zero : F
  isFinite : F → Bool
  isNegative : F → Bool
  zeroFinite : isFinite zero = true
  zeroNonnegative : isNegative zero = false

def pythonWhitespace : List Nat :=
  [0x9, 0xA, 0xB, 0xC, 0xD, 0x1C, 0x1D, 0x1E, 0x1F, 0x20, 0x85, 0xA0, 0x1680, 0x2000, 0x2001,
    0x2002, 0x2003, 0x2004, 0x2005, 0x2006, 0x2007, 0x2008, 0x2009, 0x200A, 0x2028, 0x2029,
    0x202F, 0x205F, 0x3000]

def isWhitespace (character : Char) : Bool := pythonWhitespace.contains character.toNat

def isStr : Json F → Bool
  | .str _ => true
  | _ => false

def isBool : Json F → Bool
  | .bool _ => true
  | _ => false

def isNull : Json F → Bool
  | .null => true
  | _ => false

def isDict : Json F → Bool
  | .dict _ => true
  | _ => false

def isListOf (item : Json F → Bool) : Json F → Bool
  | .list items => items.all item
  | _ => false

def isNonnegativeInt : Json F → Bool
  | .int value => decide (0 ≤ value)
  | _ => false

def isNonemptyString : Json F → Bool
  | .str text => text.any fun character => !isWhitespace character
  | _ => false

def floatOverflow : Nat := 2 ^ 1024 - 2 ^ 970

def isFiniteJsonNumber (floats : Floats F) : Json F → Bool
  | .int value => decide (value.natAbs < floatOverflow)
  | .float value => floats.isFinite value
  | _ => false

def isNegative (floats : Floats F) : Json F → Bool
  | .int value => decide (value < 0)
  | .float value => floats.isNegative value
  | _ => false

def maxJsonIntegerDigits : Nat := 4300

def isPortableJsonInteger : Json F → Bool
  | .int value => decide (value.natAbs < 10 ^ maxJsonIntegerDigits)
  | _ => false

def textOf : Json F → Option String
  | .str text => some (String.ofList text)
  | _ => none

def str (text : String) : Json F := .str text.toList

@[simp] theorem textOf_str (text : String) : textOf (str text : Json F) = some text := by
  simp [textOf, str]

def entry (entries : List (List Char × Json F)) (name : String) : Option (Json F) :=
  entries.lookup name.toList

def interruptionCauses : List InterruptionCause :=
  [.userCancel, .gracefulDrain, .leaseLost, .deadline, .hostShutdown, .providerFailure,
    .validationFailure, .unknown]

def parseInterruptionCause (text : String) : Option InterruptionCause :=
  interruptionCauses.find? fun cause => interruptionCauseValue cause == text

end Values

section Fields

-- The fields of `RunCheckpoint` other than `last_model_invocation`.
inductive CheckpointField where
  | runId | schemaVersion | seq | status | error | errorCode | providerErrorCode
  | providerHttpStatus | finalText | previousTurnHandle | pendingUserInput | pendingObservations
  | pendingBindingLoads | toolCallCounts | previousRuntimeConfig | totalToolCalls
  | outputRetries | totalUsage | messages | sessionStep | submitLocalStep | terminal
  | hostedTasks | reentryQueue | deliveredReentryJobs | workspaceDelta | workspaceBase
  | capabilityLeases | pendingCapabilityReplays | pendingToolApprovalReplays | revokedLeaseIds
  | revokedCapabilities | revokedBefore | revokedAll | remainingDurationS
  | cancellationRequested | queuedMessages | inboxSeenIds | outboxRequests | lastSuspension
  | appliedInputIds | activeInput | appliedInputReceipts | outputFailureHistory | subagentCount
  | subagentUsage | skillActivationCount | skillsActivated | interruptionCause | plan
  | pendingFinish | pendingToolLoads
deriving DecidableEq

def CheckpointField.name : CheckpointField → String
  | .runId => "run_id"
  | .schemaVersion => "schema_version"
  | .seq => "seq"
  | .status => "status"
  | .error => "error"
  | .errorCode => "error_code"
  | .providerErrorCode => "provider_error_code"
  | .providerHttpStatus => "provider_http_status"
  | .finalText => "final_text"
  | .previousTurnHandle => "previous_turn_handle"
  | .pendingUserInput => "pending_user_input"
  | .pendingObservations => "pending_observations"
  | .pendingBindingLoads => "pending_binding_loads"
  | .toolCallCounts => "tool_call_counts"
  | .previousRuntimeConfig => "previous_runtime_config"
  | .totalToolCalls => "total_tool_calls"
  | .outputRetries => "output_retries"
  | .totalUsage => "total_usage"
  | .messages => "messages"
  | .sessionStep => "session_step"
  | .submitLocalStep => "submit_local_step"
  | .terminal => "terminal"
  | .hostedTasks => "hosted_tasks"
  | .reentryQueue => "reentry_queue"
  | .deliveredReentryJobs => "delivered_reentry_jobs"
  | .workspaceDelta => "workspace_delta"
  | .workspaceBase => "workspace_base"
  | .capabilityLeases => "capability_leases"
  | .pendingCapabilityReplays => "pending_capability_replays"
  | .pendingToolApprovalReplays => "pending_tool_approval_replays"
  | .revokedLeaseIds => "revoked_lease_ids"
  | .revokedCapabilities => "revoked_capabilities"
  | .revokedBefore => "revoked_before"
  | .revokedAll => "revoked_all"
  | .remainingDurationS => "remaining_duration_s"
  | .cancellationRequested => "cancellation_requested"
  | .queuedMessages => "queued_messages"
  | .inboxSeenIds => "inbox_seen_ids"
  | .outboxRequests => "outbox_requests"
  | .lastSuspension => "last_suspension"
  | .appliedInputIds => "applied_input_ids"
  | .activeInput => "active_input"
  | .appliedInputReceipts => "applied_input_receipts"
  | .outputFailureHistory => "output_failure_history"
  | .subagentCount => "subagent_count"
  | .subagentUsage => "subagent_usage"
  | .skillActivationCount => "skill_activation_count"
  | .skillsActivated => "skills_activated"
  | .interruptionCause => "interruption_cause"
  | .plan => "plan"
  | .pendingFinish => "pending_finish"
  | .pendingToolLoads => "pending_tool_loads"

def CheckpointField.all : List CheckpointField :=
  [.runId, .schemaVersion, .seq, .status, .error, .errorCode, .providerErrorCode,
    .providerHttpStatus, .finalText, .previousTurnHandle, .pendingUserInput, .pendingObservations,
    .pendingBindingLoads, .toolCallCounts, .previousRuntimeConfig, .totalToolCalls,
    .outputRetries, .totalUsage, .messages, .sessionStep, .submitLocalStep, .terminal,
    .hostedTasks, .reentryQueue, .deliveredReentryJobs, .workspaceDelta, .workspaceBase,
    .capabilityLeases, .pendingCapabilityReplays, .pendingToolApprovalReplays, .revokedLeaseIds,
    .revokedCapabilities, .revokedBefore, .revokedAll, .remainingDurationS,
    .cancellationRequested, .queuedMessages, .inboxSeenIds, .outboxRequests, .lastSuspension,
    .appliedInputIds, .activeInput, .appliedInputReceipts, .outputFailureHistory, .subagentCount,
    .subagentUsage, .skillActivationCount, .skillsActivated, .interruptionCause, .plan,
    .pendingFinish, .pendingToolLoads]

variable {F : Type}

def schemaVersion : String := "monoid.checkpoint.v1"

def CheckpointField.default (zero : F) : CheckpointField → Json F
  | .schemaVersion => str CheckpointCodec.schemaVersion
  | .status => str "completed"
  | .runId | .error | .errorCode | .providerErrorCode | .finalText | .interruptionCause => str ""
  | .seq | .totalToolCalls | .outputRetries | .sessionStep | .submitLocalStep | .subagentCount
  | .skillActivationCount => .int 0
  | .revokedBefore => .float zero
  | .terminal | .revokedAll | .cancellationRequested => .bool false
  | .toolCallCounts | .totalUsage | .subagentUsage | .appliedInputReceipts => .dict []
  | .providerHttpStatus | .previousTurnHandle | .pendingUserInput | .previousRuntimeConfig
  | .workspaceBase | .remainingDurationS | .lastSuspension | .activeInput | .pendingFinish => .null
  | _ => .list []

def checkpointStringFields : List CheckpointField :=
  [.status, .error, .errorCode, .providerErrorCode, .finalText]

def checkpointOptionalStringFields : List CheckpointField := [.previousTurnHandle]

def checkpointNonnegativeIntFields : List CheckpointField :=
  [.seq, .providerHttpStatus, .totalToolCalls, .outputRetries, .sessionStep, .submitLocalStep,
    .subagentCount, .skillActivationCount]

def checkpointBoolFields : List CheckpointField := [.terminal, .revokedAll, .cancellationRequested]

def checkpointListOfDictFields : List CheckpointField :=
  [.pendingObservations, .messages, .hostedTasks, .workspaceDelta, .capabilityLeases,
    .pendingCapabilityReplays, .pendingToolApprovalReplays, .outboxRequests, .outputFailureHistory,
    .plan]

def checkpointListOfStringFields : List CheckpointField :=
  [.pendingBindingLoads, .reentryQueue, .deliveredReentryJobs, .revokedLeaseIds,
    .revokedCapabilities, .inboxSeenIds, .appliedInputIds, .skillsActivated, .pendingToolLoads]

-- What a payload holds under `last_model_invocation`; what has no shape that a record is written in
-- is malformed.
inductive InvocationSection (Facts Digest : Type) where
  | null
  | object (payload : InvocationPayload Facts Digest)
  | malformed (isDict : Bool)
deriving DecidableEq

-- A checkpoint's JSON object; entries under other names are `unknown`.
structure CheckpointPayload (F Facts Digest : Type) where
  field : CheckpointField → Option (Json F)
  lastModelInvocation : Option (InvocationSection Facts Digest)
  unknown : List (List Char × Json F)

end Fields

section Checks

variable {F : Type}

inductive Refusal where
  | valueError (message : String)
  | typeError (message : String)
deriving DecidableEq

abbrev Checked := Except Refusal Unit

def require (holds : Bool) (message : String) : Checked :=
  if holds then .ok () else .error (.valueError message)

def requireNonemptyString (value : Option (Json F)) (fieldName : String) : Checked :=
  require (value.any isNonemptyString) s!"checkpoint {fieldName} must be a non-empty string"

def requireNonnegativeInt (value : Option (Json F)) (fieldName : String) : Checked :=
  require (value.any isNonnegativeInt) s!"checkpoint {fieldName} must be a non-negative integer"

def requireFiniteNonnegativeNumber (floats : Floats F) (value : Json F) (fieldName : String) :
    Checked :=
  require (isFiniteJsonNumber floats value && !isNegative floats value)
    s!"checkpoint {fieldName} must be a finite non-negative number"

def requireListOf (item : Json F → Bool) (value : Json F) (fieldName : String) : Checked :=
  require (isListOf item value) s!"checkpoint {fieldName} has an invalid list shape"

def requireWord (value : Option (Json F)) (words : List String) (message : String) : Checked :=
  match value with
  | some (.list _) => .error (.typeError "unhashable type: 'list'")
  | some (.dict _) => .error (.typeError "unhashable type: 'dict'")
  | some (.str text) => require (words.contains (String.ofList text)) message
  | _ => .error (.valueError message)

def whenPresent (value : Option (Json F)) (check : Json F → Checked) : Checked :=
  match value with
  | none => .ok ()
  | some value => check value

def unlessNull (check : Json F → Checked) (value : Json F) : Checked :=
  if isNull value then .ok () else check value

def validateCounterMapping (value : Json F) (fieldName : String) : Checked :=
  match value with
  | .dict entries => entries.forM fun (key, count) =>
      requireNonnegativeInt (some count) s!"{fieldName}.{String.ofList key}"
  | _ => .error (.valueError s!"checkpoint {fieldName} must be an object")

def suspensionReasons : List String :=
  ["settled", "awaiting_tasks", "limited", "terminal", "turn_failed", "interrupted", "paused"]

def suspensionCheckpointStatuses : List String := ["completed", "failed", "limited"]

def suspensionStringFields : List String :=
  ["final_text", "error", "error_code", "provider_error_code", "interruption_cause"]

def suspensionBoolFields : List String :=
  ["has_external", "retryable", "config_recoverable", "provider_retried",
    "model_tool_calls_pending"]

def validateSuspensionPayload (value : Json F) (fieldName : String) : Checked :=
  match value with
  | .null => .ok ()
  | .dict entries => do
    requireWord (entry entries "reason") suspensionReasons
      s!"checkpoint {fieldName}.reason is outside the park vocabulary"
    requireWord (entry entries "status") suspensionCheckpointStatuses
      s!"checkpoint {fieldName}.status is outside the durable vocabulary"
    suspensionStringFields.forM fun name => whenPresent (entry entries name) fun text =>
      require (isStr text) s!"checkpoint {fieldName}.{name} must be a string"
    whenPresent (entry entries "interruption_cause") fun cause =>
      require ((textOf cause).all fun text => text.isEmpty || (parseInterruptionCause text).isSome)
        s!"checkpoint {fieldName}.interruption_cause is outside the portable vocabulary"
    suspensionBoolFields.forM fun name => whenPresent (entry entries name) fun flag =>
      require (isBool flag) s!"checkpoint {fieldName}.{name} must be boolean"
    whenPresent (entry entries "http_status") (unlessNull fun status =>
      requireNonnegativeInt (some status) s!"{fieldName}.http_status")
    whenPresent (entry entries "awaiting_task_ids") fun ids =>
      requireListOf isStr ids s!"{fieldName}.awaiting_task_ids"
  | _ => .error (.valueError s!"checkpoint {fieldName} must be an object or null")

def validateActiveInput (value : Json F) : Checked :=
  match value with
  | .null => .ok ()
  | .dict entries => do
    requireNonemptyString (entry entries "input_id") "active_input.input_id"
    requireWord (entry entries "phase") ["running", "completed"]
      "checkpoint active_input.phase must be running or completed"
    requireNonnegativeInt (entry entries "source_seq") "active_input.source_seq"
  | _ => .error (.valueError "checkpoint active_input must be an object or null")

def pendingFinishKeys : List (List Char) :=
  ["summary".toList, "outputs".toList, "notes".toList]

def validatePendingFinish (value : Json F) : Checked :=
  match value with
  | .null => .ok ()
  | .dict entries => do
    require (entries.all (fun item => pendingFinishKeys.contains item.1) &&
        pendingFinishKeys.all fun key => (entries.lookup key).isSome)
      "checkpoint pending_finish has an invalid object shape"
    require ((entry entries "summary").any isStr)
      "checkpoint pending_finish.summary must be a string"
    requireListOf isStr ((entry entries "outputs").getD .null) "pending_finish.outputs"
    require ((entry entries "notes").all fun notes => isNull notes || isStr notes)
      "checkpoint pending_finish.notes must be a string or null"
  | _ => .error (.valueError "checkpoint pending_finish must be an object or null")

def activationMarker (identity : String) : String := "monoid.activation/" ++ identity

def requiredActivationFields : List String :=
  ["checkpoint_seq", "checkpoint_sha256", "state", "terminal", "suspension", "event_cursor",
    "stream_cursor", "outcome_kind", "retry_eligibility", "error_code", "provider_error_code",
    "interruption_cause", "terminal_outcome_ref"]

def sessionStates : List String :=
  ["created", "idle", "running", "awaiting_input", "awaiting_tasks", "paused", "interrupted",
    "turn_failed", "limited", "cancelled", "failed", "completed"]

def terminalOutcomeKinds : List String :=
  ["completed", "paused", "limited", "cancelled", "interrupted", "failed_retryable",
    "failed_config", "failed_terminal", "dispatch_unknown", "evidence_uncommitted"]

def retryEligibilities : List String :=
  ["not_applicable", "safe", "after_configuration", "after_reconciliation", "forbidden"]

def validateActivationReceipt (identity : Json F) (inputId : String)
    (receipt : List (List Char × Json F)) : Checked := do
  let fieldPrefix := s!"applied_input_receipts.{inputId}"
  require ((textOf identity).any isRecordedDigest)
    s!"checkpoint {fieldPrefix}.command_identity_sha256 must be a SHA-256 digest"
  require ((textOf identity).all fun digest => inputId == activationMarker digest)
    s!"checkpoint {fieldPrefix} activation identity is inconsistent"
  require (requiredActivationFields.all fun name => (entry receipt name).isSome)
    s!"checkpoint {fieldPrefix} activation receipt is incomplete"
  require (((entry receipt "checkpoint_sha256").bind textOf).any isRecordedDigest)
    s!"checkpoint {fieldPrefix}.checkpoint_sha256 is invalid"
  require (((entry receipt "state").bind textOf).any fun state => sessionStates.contains state)
    s!"checkpoint {fieldPrefix}.state is invalid"
  ["event_cursor", "stream_cursor"].forM fun cursorName =>
    require ((entry receipt cursorName).any fun cursor =>
        isPortableJsonInteger cursor && isNonnegativeInt cursor)
      s!"checkpoint {fieldPrefix}.{cursorName} must be a non-negative portable integer"
  require (((entry receipt "outcome_kind").bind textOf).any fun kind =>
      terminalOutcomeKinds.contains kind) s!"checkpoint {fieldPrefix}.outcome_kind is invalid"
  require (((entry receipt "retry_eligibility").bind textOf).any fun retry =>
      retryEligibilities.contains retry) s!"checkpoint {fieldPrefix}.retry_eligibility is invalid"
  ["error_code", "provider_error_code"].forM fun codeName =>
    require (((entry receipt codeName).bind textOf).any emptyOrCode)
      s!"checkpoint {fieldPrefix}.{codeName} is invalid"
  require ((entry receipt "interruption_cause").any isStr)
    s!"checkpoint {fieldPrefix}.interruption_cause must be a string"
  require (((entry receipt "interruption_cause").bind textOf).any fun cause =>
      cause.isEmpty || (parseInterruptionCause cause).isSome)
    s!"checkpoint {fieldPrefix}.interruption_cause is invalid"
  require (((entry receipt "terminal_outcome_ref").bind textOf).any emptyOrAddress)
    s!"checkpoint {fieldPrefix}.terminal_outcome_ref is invalid"
  match (entry receipt "terminal_outcome_ref").bind textOf, entry receipt "terminal" with
  | some terminalRef, some (.bool terminal) =>
    require ((!terminalRef.isEmpty) == terminal)
      s!"checkpoint {fieldPrefix}.terminal_outcome_ref disagrees with terminal"
  | _, _ =>
    .error (.valueError s!"checkpoint {fieldPrefix}.terminal_outcome_ref disagrees with terminal")

def validateReceipt (inputId : String) (receipt : Json F) : Checked := do
  requireNonemptyString (some (str inputId : Json F)) "applied_input_receipts key"
  match receipt with
  | .dict entries => do
    whenPresent (entry entries "checkpoint_seq") fun seq =>
      requireNonnegativeInt (some seq) s!"applied_input_receipts.{inputId}.checkpoint_seq"
    whenPresent (entry entries "terminal") fun terminal => require (isBool terminal)
      s!"checkpoint applied_input_receipts.{inputId}.terminal must be boolean"
    whenPresent (entry entries "suspension") fun suspension =>
      validateSuspensionPayload suspension s!"applied_input_receipts.{inputId}.suspension"
    ["checkpoint_sha256", "state", "error", "error_code"].forM fun fieldName =>
      whenPresent (entry entries fieldName) fun text => require (isStr text)
        s!"checkpoint applied_input_receipts.{inputId}.{fieldName} must be a string"
    match entry entries "command_identity_sha256" with
    | none => .ok ()
    | some .null => .ok ()
    | some identity => validateActivationReceipt identity inputId entries
  | _ => .error (.valueError "checkpoint applied_input_receipts values must be objects")

def validateReceipts (value : Json F) : Checked :=
  match value with
  | .dict entries => entries.forM fun (inputId, receipt) =>
      validateReceipt (String.ofList inputId) receipt
  | _ => .error (.valueError "checkpoint applied_input_receipts must be an object")

def isQueuedMessage : Json F → Bool
  | .str _ => true
  | .dict _ => true
  | .list parts => parts.all isDict
  | _ => false

def validateQueuedMessages (value : Json F) : Checked :=
  match value with
  | .list messages => require (messages.all isQueuedMessage)
      "checkpoint queued_messages entries must be strings, envelopes, or content lists"
  | _ => .error (.valueError "checkpoint queued_messages must be a list")

end Checks

end MonoidKernel.CheckpointCodec
