import MonoidKernel.Core.ModelInvocation
import MonoidKernel.Core.Outcome
import MonoidKernel.Library.Counts

set_option autoImplicit false

namespace MonoidKernel.AgentLoop

open Library

section Conversation

abbrev Usage := Counts String

structure ToolCall where
  id : String
  name : String
  arguments : String
deriving DecidableEq, Repr

structure ModelTurn where
  responseId : String
  finalText : String
  toolCalls : List ToolCall
  stopReason : String
  reasoning : List String
deriving DecidableEq, Repr

structure ToolObservation where
  callId : String
  toolName : String
  output : String
  isBackground : Bool
deriving DecidableEq, Repr

inductive Message where
  | user (content : String)
  | assistant (content : String) (toolCalls : List ToolCall) (reasoning : List String)
  | tool (callId : String) (content : String)
deriving DecidableEq, Repr

-- The content parts of an input. `malformed` parts are refused by their normalizer.
structure UserInput where
  text : String
  multimodal : Bool
  malformed : Bool
deriving DecidableEq, Repr

def userMessageFromParts (input : UserInput) : Option Message :=
  if input.multimodal || !input.text.isEmpty then some (.user input.text) else none

structure Replay where
  callId : String
  callName : String
deriving DecidableEq, Repr

end Conversation

section Outcomes

inductive RunStatus where
  | completed | failed | limited
deriving DecidableEq, Repr

inductive SuspensionReason where
  | settled | awaitingTasks | limited | terminal | turnFailed | interrupted | paused
deriving DecidableEq, Repr

structure Suspension where
  reason : SuspensionReason
  status : RunStatus
  finalText : String := ""
  error : String := ""
  errorCode : String := ""
  awaitingTaskIds : List String := []
  hasExternal : Bool := false
  retryable : Bool := false
  httpStatus : Option Nat := none
  configRecoverable : Bool := false
  providerErrorCode : String := ""
  providerRetried : Bool := false
  modelToolCallsPending : Bool := false
  interruptionCause : Option InterruptionCause := none
deriving DecidableEq

def interruptionCauseValue : InterruptionCause → String
  | .userCancel => "user_cancel"
  | .gracefulDrain => "graceful_drain"
  | .leaseLost => "lease_lost"
  | .deadline => "deadline"
  | .hostShutdown => "host_shutdown"
  | .providerFailure => "provider_failure"
  | .validationFailure => "validation_failure"
  | .unknown => "unknown"

def isOperationalCancellationCause : InterruptionCause → Bool
  | .userCancel | .gracefulDrain | .deadline | .hostShutdown => true
  | _ => false

structure AdapterError where
  message : String
  errorCode : String := "model_error"
  providerErrorCode : String := ""
  retryable : Bool := false
  httpStatus : Option Nat := none
  configRecoverable : Bool := false
  providerRetried : Bool := false
deriving DecidableEq, Repr

def modelEvidenceUncommitted : AdapterError where
  message := "required model evidence was not committed"
  errorCode := "evidence_uncommitted"
  retryable := true

-- `_recoverable_turn_error`.
def AdapterError.recoverable (error : AdapterError) : Bool :=
  error.retryable || error.configRecoverable ||
    error.httpStatus.any fun status => decide (400 ≤ status) && decide (status < 500)

inductive Raised where
  | checkpointPersist
  | runCancelled (cause : InterruptionCause)
  | runTimeout
  | modelAdapter (error : AdapterError)
  | turnInterrupted
  | turnPaused
  | other (message errorCode : String)
  -- Outside `Exception`: the cancellation of the task, an interrupt of the interpreter.
  | control
  -- No exception: the process is gone.
  | lost
deriving DecidableEq

end Outcomes

section Durable

structure LogicalCallId where
  runId : String
  step : Nat
deriving DecidableEq, Repr

def logicalModelCallId (runId : String) (step : Nat) : LogicalCallId := ⟨runId, step⟩

structure Invocation where
  logicalCallId : LogicalCallId
  dispatchState : DispatchState
  receiptUsage : Option Usage
deriving DecidableEq

inductive CallOutcome where
  | turn (turn : ModelTurn)
  | refused (error : AdapterError)
deriving DecidableEq

structure SettledCall where
  outcome : CallOutcome
  usage : Usage
deriving DecidableEq

end Durable

section Records

def initialUsage : Usage where
  entries := [("input_tokens", 0), ("output_tokens", 0), ("total_tokens", 0)]
  distinct := by decide

structure RunState where
  status : RunStatus := .completed
  error : String := ""
  errorCode : String := ""
  providerErrorCode : String := ""
  providerHttpStatus : Option Nat := none
  retryable : Bool := false
  configRecoverable : Bool := false
  interruptionCause : Option InterruptionCause := none
  finalText : String := ""
  outputRetries : Nat := 0
  previousTurnHandle : String := ""
  pendingUserInput : Option UserInput := none
  pendingObservations : List ToolObservation := []
  pendingCapabilityReplays : List Replay := []
  pendingToolApprovalReplays : List Replay := []
  toolCallCounts : Counts String := Counts.empty
  totalToolCalls : Nat := 0
  totalUsage : Usage := initialUsage
  messages : List Message := []
deriving DecidableEq

structure Session where
  sessionStep : Nat := 0
  submitLocalStep : Nat := 0
  terminal : Bool := false
  checkpointSeq : Nat := 0
  lastSuspension : Option Suspension := none
  unrecoveredTurnFailure : Option (String × String) := none
  midturnPark : Option SuspensionReason := none
  lastModelInvocation : Option Invocation := none
  modelToolCallsPending : Bool := false
  resumeCheckpointedModelStep : Bool := false
deriving DecidableEq

-- The fields of a `RunCheckpoint` that the loop writes and reads back. The classification of a
-- failure and the cause of an interruption are not part of its `state`: the park observation and
-- the fields of their own carry them.
structure RunCheckpoint where
  seq : Nat
  state : RunState
  pendingFinish : Option String
  sessionStep : Nat
  submitLocalStep : Nat
  terminal : Bool
  lastSuspension : Option Suspension
  lastModelInvocation : Option Invocation
  cancellationRequested : Bool
  interruptionCause : Option InterruptionCause
deriving DecidableEq

-- What outlives a process. The last two fields are history: each entry of the provider and each
-- execution of a tool call.
structure Durable where
  checkpoints : List RunCheckpoint := []
  settledCalls : List (LogicalCallId × SettledCall) := []
  providerEntries : List LogicalCallId := []
  executedCalls : List (Nat × String) := []
deriving DecidableEq

structure Activation where
  state : RunState := {}
  session : Session := {}
  pendingFinish : Option String := none
  -- The cancellation token: the cause of the first request.
  cancellation : Option InterruptionCause := none
  interruptRequested : Bool := false
  pauseRequested : Bool := false
  durable : Durable := {}
deriving DecidableEq

structure RunLimits where
  maxSteps : Nat
  maxToolCalls : Nat
  maxMessages : Nat
  maxMessageLogBytes : Nat
  maxInputTokens : Option Nat
  maxOutputTokens : Option Nat
  maxTotalTokens : Option Nat
  maxOutputRetries : Nat

structure LoopSpec where
  runId : String
  limits : RunLimits
  lifecycleHook : Bool
  providerNamed : Bool
  messageSize : Message → Nat
  asyncResultText : String → String

end Records

end MonoidKernel.AgentLoop
