import MonoidKernel.Loop.Pump
import Mathlib.Data.List.Infix

set_option autoImplicit false

namespace MonoidKernel.AgentLoop

open Library

variable (spec : LoopSpec)

section Admission

def admitEntry (input : Option UserInput) (loop : Activation) :
    Except Raised (Option EvidenceRecovery) :=
  if loop.session.terminal then
    .error (.other "run reached a terminal state and cannot accept more input" "run_terminal")
  else
    match evidenceRecovery spec loop, input with
    | some recovery, some _ =>
      if recovery.blocksNewInput || recovery.outcomeProjected then
        .error (.other "durable model recovery must complete before accepting new input"
          "evidence_recovery_requires_resume")
      else .ok none
    | recovery, _ => .ok recovery

def abandonRecovery (input : Option UserInput) (loop : Activation) : Activation :=
  if (evidenceRecovery spec loop).isSome && input.isSome then
    { dropObservations loop with session.modelToolCallsPending := false }
  else loop

def leavePark (loop : Activation) : Activation :=
  { loop with
    session.lastSuspension := none
    session.unrecoveredTurnFailure := none
    session.midturnPark := none
    state.interruptionCause := none }

def resetSubmit (loop : Activation) : Activation :=
  { loop with
    state.status := .completed
    state.error := ""
    state.errorCode := ""
    state.providerErrorCode := ""
    state.providerHttpStatus := none
    state.retryable := false
    state.configRecoverable := false
    state.finalText := ""
    state.outputRetries := 0
    pendingFinish := none
    interruptRequested := false
    pauseRequested := false }

def acceptInput (input : Option UserInput) : Phase Unit :=
  match input with
  | none => pure ()
  | some input => do
    Piece.update resetSubmit
    if input.malformed then
      Piece.leave (.other "content part is malformed" "internal_error")
    else
      Piece.update fun loop =>
        { loop with
          state.pendingUserInput := some input
          session.submitLocalStep := 0 }

end Admission

section Recovery

def recoverEvidenceDispatch (recovery : EvidenceRecovery) (answer : RecoveryAnswer) :
    Phase SettledCall := do
  let loop ← Piece.state
  if !spec.lifecycleHook then
    Piece.leave (.other "required model evidence recovery has no durable lifecycle hook"
      "durable_invocation_recovery_unavailable")
  else match answer with
    | .evidenceUncommitted => Piece.leave (.modelAdapter modelEvidenceUncommitted)
    | .failed raised => Piece.leave raised
    | .found =>
      match loop.settledCall recovery.invocation.logicalCallId with
      | some call => pure call
      | none =>
        Piece.leave (.other "settled model evidence recovery returned no stored outcome"
          "durable_invocation_recovery_missing")

def toolProgressAgrees (toolCalls : List ToolCall) (observations : List ToolObservation) : Bool :=
  decide (toolCalls.map (·.id)).Nodup && decide (observations.map (·.callId)).Nodup &&
    observations.all fun observation =>
      toolCalls.any fun call => call.id = observation.callId && call.name = observation.toolName

def recoveryConflict (message : String) : Raised :=
  .other message "durable_invocation_recovery_conflict"

def applyRecoveredModelOutcome (recovery : EvidenceRecovery) (call : SettledCall)
    (script : RecoveredScript) : Phase (Option RecoveredTurn × Option Suspension) := do
  accountModelUsage call.usage (accountedEvidenceUsage recovery)
  checkRunBoundary script.billed
  match call.outcome with
  | .refused error =>
    if recovery.outcomeProjected then
      Piece.leave (recoveryConflict "projected model outcome recovery restored a failure")
    else do
      accountModelUsage call.usage (accountedEvidenceUsage recovery)
      Piece.leave (.modelAdapter error)
  | .turn turn =>
    if script.corrupt then
      Piece.leave (.other "durable model result conflicts with its receipt"
        "durable_invocation_result_corrupt")
    else if recovery.outcomeProjected then
      if turn.toolCalls = [] then
        Piece.leave (recoveryConflict "projected model outcome recovery has no pending tool calls")
      else do
        let loop ← Piece.state
        if toolProgressAgrees turn.toolCalls loop.state.pendingObservations then
          Piece.update fun loop => { loop with session.modelToolCallsPending := true }
          pure (some ⟨recovery.step, turn⟩, none)
        else
          let message := "projected model tool progress conflicts with its stored result"
          Piece.leave (recoveryConflict message)
    else do
      Piece.update (projectSuccessfulModelTurn spec turn true)
      if turn.toolCalls = [] then
        let suspension ← settleTurn spec turn script.tasks script.settle
        pure (none, suspension)
      else
        Piece.update fun loop =>
          { dropObservations loop with session.modelToolCallsPending := true }
        pure (some ⟨recovery.step, turn⟩, none)

def pumpActivation (recovery : Option EvidenceRecovery) (script : EntryScript) :
    Phase Suspension := do
  match recovery with
  | none => apumpTurn spec none script.steps
  | some recovery =>
    let call ← recoverEvidenceDispatch spec recovery script.recovered.recovery
    let (recovered, suspension) ← applyRecoveredModelOutcome spec recovery call script.recovered
    match suspension with
    | some suspension => pure suspension
    | none => apumpTurn spec recovered script.steps

end Recovery

section Exits

def publicErrorMessage (error : String) : String :=
  if "PRIVATE KEY".toList <:+: error.toUpper.toList then "[redacted-sensitive-error]" else error

def errorCodeOr (errorCode default : String) : String :=
  if errorCode.isEmpty then default else errorCode

def failureOf : Raised → AdapterError
  | .modelAdapter error => { error with errorCode := errorCodeOr error.errorCode "internal_error" }
  | .other message errorCode =>
    { message := message
      errorCode := errorCodeOr errorCode "internal_error" }
  | _ => { message := "" }

def recordFailure (error : AdapterError) (loop : Activation) : Activation :=
  { loop with
    state.status := .failed
    state.error := error.message
    state.errorCode := error.errorCode
    state.interruptionCause := none
    state.providerErrorCode := error.providerErrorCode
    state.providerHttpStatus := error.httpStatus
    state.retryable := error.retryable
    state.configRecoverable := error.configRecoverable
    state.finalText := "" }

def recordPromotedFailure (message errorCode : String) (loop : Activation) : Activation :=
  { loop with
    state.status := .failed
    state.error := message
    state.errorCode := errorCodeOr errorCode "internal_error"
    state.interruptionCause := none
    state.finalText := "" }

def becomeTerminal (loop : Activation) : Activation := { loop with session.terminal := true }

def failedSuspension (loop : Activation) : Suspension where
  reason := .terminal
  status := .failed
  error := loop.state.error
  errorCode := loop.state.errorCode
  retryable := loop.state.retryable
  httpStatus := loop.state.providerHttpStatus
  configRecoverable := loop.state.configRecoverable
  providerErrorCode := loop.state.providerErrorCode

def terminalLimited (loop : Activation) : Suspension where
  reason := .terminal
  status := .limited
  finalText := loop.state.finalText
  error := loop.state.error
  errorCode := loop.state.errorCode
  interruptionCause := loop.state.interruptionCause

def park (suspension : Activation → Suspension) (commit : CommitAnswer) : Phase Suspension := do
  let loop ← Piece.state
  persistCheckpoint (some (suspension loop)) commit
  pure (suspension loop)

def expire (loop : Activation) : Activation :=
  becomeTerminal { loop with
    state.status := .limited
    state.error := "run exceeded max duration"
    state.errorCode := "run_timeout"
    state.interruptionCause := some .deadline
    state.finalText := "Stopped after reaching max duration." }

def settleDeadline (projection : Option Raised) (commit : CommitAnswer) : Phase Suspension := do
  Piece.update expire
  Piece.leaveIf projection
  park terminalLimited commit

def cancelledCode (cause : InterruptionCause) : String :=
  if cause = .userCancel then "cancelled" else interruptionCauseValue cause

def isDraining (cause : InterruptionCause) : Bool := cause = .gracefulDrain || cause = .hostShutdown

def interruptedSuspension (loop : Activation) : Suspension where
  reason := .interrupted
  status := .completed
  errorCode := loop.state.errorCode
  modelToolCallsPending := loop.session.modelToolCallsPending
  interruptionCause := loop.state.interruptionCause

def stoppedSuspension (loop : Activation) : Suspension where
  reason := .interrupted
  status := .completed
  modelToolCallsPending := loop.session.modelToolCallsPending
  interruptionCause := some .userCancel

def drainTurn (cause : InterruptionCause) (loop : Activation) : Activation :=
  { loop with
    state.interruptionCause := some cause
    state.error := ""
    state.errorCode := interruptionCauseValue cause
    session.midturnPark := some .interrupted }

def cancelRun (cause : InterruptionCause) (loop : Activation) : Activation :=
  becomeTerminal { loop with
    state.interruptionCause := some cause
    state.status := .limited
    state.error := "run cancelled"
    state.errorCode := cancelledCode cause
    state.finalText := "Stopped because the run was cancelled." }

def exitCancelled (cause : InterruptionCause) (script : EntryScript) : Phase Suspension := do
  if isDraining cause then
    Piece.update (drainTurn cause)
    Piece.leaveIf script.projection
    park interruptedSuspension script.commit
  else if cause = .deadline then settleDeadline script.projection script.commit
  else do
    Piece.update (cancelRun cause)
    Piece.leaveIf script.projection
    park terminalLimited script.commit

def exitFailed (error : AdapterError) (script : EntryScript) : Phase Suspension := do
  Piece.update (recordFailure error)
  Piece.leaveIf script.projection
  Piece.update becomeTerminal
  park failedSuspension script.commit

def turnFailedSuspension (error : AdapterError) : Suspension where
  reason := .turnFailed
  status := .failed
  error := publicErrorMessage error.message
  errorCode := error.errorCode
  retryable := error.retryable
  httpStatus := error.httpStatus
  configRecoverable := error.configRecoverable
  providerErrorCode := error.providerErrorCode
  providerRetried := error.providerRetried

def classify (error : AdapterError) (loop : Activation) : Activation :=
  { loop with
    state.providerErrorCode := error.providerErrorCode
    state.providerHttpStatus := error.httpStatus
    state.retryable := error.retryable
    state.configRecoverable := error.configRecoverable }

def failTurn (error : AdapterError) (loop : Activation) : Activation :=
  { loop with
    state.pendingObservations :=
      if error.errorCode = "evidence_uncommitted" then loop.state.pendingObservations else []
    session.unrecoveredTurnFailure := some (publicErrorMessage error.message, error.errorCode) }

def exitTurnFailed (error : AdapterError) (script : EntryScript) : Phase Suspension := do
  Piece.update (classify error)
  Piece.leaveIf script.projection
  Piece.update (failTurn error)
  park (fun _ => turnFailedSuspension error) script.commit

def clearStop (loop : Activation) : Activation := { loop with interruptRequested := false }

def stopTurn (loop : Activation) : Activation :=
  { loop with
    state.pendingObservations :=
      if (unappliedSettledInvocation spec loop).isNone then [] else loop.state.pendingObservations
    state.interruptionCause := some .userCancel
    session.midturnPark := some .interrupted }

def exitInterrupted (script : EntryScript) : Phase Suspension := do
  Piece.update clearStop
  Piece.leaveIf script.projection
  Piece.update (stopTurn spec)
  park stoppedSuspension script.commit

def pausedSuspension : Suspension where
  reason := .paused
  status := .completed

def clearPause (loop : Activation) : Activation := { loop with pauseRequested := false }

def pauseTurn (loop : Activation) : Activation := { loop with session.midturnPark := some .paused }

def exitPaused (script : EntryScript) : Phase Suspension := do
  Piece.update clearPause
  Piece.leaveIf script.projection
  Piece.update pauseTurn
  park (fun _ => pausedSuspension) script.commit

def exitRaised (script : EntryScript) (raised : Raised) : Phase Suspension :=
  match raised with
  | .checkpointPersist => Piece.leave .checkpointPersist
  | .runCancelled cause => exitCancelled cause script
  | .runTimeout => settleDeadline script.projection script.commit
  | .modelAdapter error =>
    if error.recoverable then exitTurnFailed error script
    else exitFailed (failureOf (.modelAdapter error)) script
  | .turnInterrupted => exitInterrupted spec script
  | .turnPaused => exitPaused script
  | .other message errorCode => exitFailed (failureOf (.other message errorCode)) script
  | .control => Piece.leave .control
  | .lost => Piece.leave .lost

def endSpentSession (loop : Activation) : Activation :=
  if loop.state.errorCode = "max_tool_calls_exceeded" then becomeTerminal loop else loop

def conclude (script : EntryScript) (suspension : Suspension) : Phase Suspension := do
  if suspension.reason = .awaitingTasks then
    if suspension.hasExternal then
      Piece.leaveIf script.projection
    park (fun _ => suspension) script.commit
  else
    Piece.update endSpentSession
    Piece.leaveIf script.projection
    park (fun _ => suspension) script.commit

def enterPump (recovery : Option EvidenceRecovery) (script : EntryScript) : Phase Suspension := do
  Piece.update fun loop => leavePark (abandonRecovery spec script.input loop)
  acceptInput script.input
  let pumped ← Piece.handle
    (do
      let suspension ← pumpActivation spec recovery script
      pure (Sum.inl suspension))
    (fun raised => do
      let suspension ← exitRaised spec script raised
      pure (Sum.inr suspension))
  -- The arms of the exceptions do not guard what follows a pump that returned.
  match pumped with
  | .inl suspension => conclude script suspension
  | .inr suspension => pure suspension

def arunUntilSuspended (script : EntryScript) : Phase Suspension := do
  let loop ← Piece.state
  match admitEntry spec script.input loop with
  | .error refusal => Piece.leave refusal
  | .ok recovery => enterPump spec recovery script

end Exits

end MonoidKernel.AgentLoop
