import MonoidKernel.Library.Machine
import MonoidKernel.Loop.Entry

set_option autoImplicit false

namespace MonoidKernel.AgentLoop

open Library

variable (spec : LoopSpec)

section Closing

def drainedText (cause : InterruptionCause) : String :=
  if cause = .userCancel then "Stopped because the run was cancelled."
  else "Stopped while the host was draining the run."

def cancelParked (cause : InterruptionCause) (loop : Activation) : Activation :=
  becomeTerminal { loop with
    state.status := .limited
    state.error := "run cancelled"
    state.errorCode := cancelledCode cause
    state.interruptionCause := some cause
    state.finalText :=
      if loop.state.finalText.isEmpty then drainedText cause else loop.state.finalText }

def promotePendingCancel (commit : CommitAnswer) : Phase Unit := do
  let loop ← Piece.state
  match loop.cancellation with
  | none => pure ()
  | some cause =>
    if loop.session.terminal then pure ()
    else if cause = .deadline then
      let _ ← settleDeadline none commit
      pure ()
    else
      Piece.update (cancelParked cause)
      let _ ← park terminalLimited commit
      pure ()

def failRecoverable (message errorCode : String) (commit : CommitAnswer) : Phase Unit := do
  Piece.update (recordPromotedFailure message errorCode)
  Piece.update becomeTerminal
  let _ ← park failedSuspension commit
  pure ()

def promoteTurnFailure (commit : CommitAnswer) : Phase Unit := do
  let loop ← Piece.state
  match loop.session.unrecoveredTurnFailure with
  | none => pure ()
  | some (error, errorCode) =>
    if loop.session.terminal then pure ()
    else
      failRecoverable (errorCodeOr error "turn failed") (errorCodeOr errorCode "model_error") commit

def midturnName : SuspensionReason → String
  | .paused => "paused"
  | _ => "interrupted"

def closeUnsettled (reason : SuspensionReason) (loop : Activation) : Activation :=
  becomeTerminal { loop with
    state.status := .limited
    state.error := "run closed while its turn was " ++ midturnName reason ++
      "; the turn never settled"
    state.errorCode := "closed_unsettled"
    state.interruptionCause := none }

def promoteUnsettledClose (commit : CommitAnswer) : Phase Unit := do
  let loop ← Piece.state
  match loop.session.midturnPark with
  | none => pure ()
  | some reason =>
    if loop.session.terminal then pure ()
    else
      Piece.update (closeUnsettled reason)
      let _ ← park terminalLimited commit
      pure ()

structure RunRecord where
  status : RunStatus
  error : String
  errorCode : String
  providerErrorCode : String
  httpStatus : Option Nat
  retryable : Bool
  configRecoverable : Bool
  finalText : String
  interruptionCause : Option InterruptionCause
deriving DecidableEq

def recordOf (loop : Activation) : RunRecord where
  status := loop.state.status
  error := loop.state.error
  errorCode := loop.state.errorCode
  providerErrorCode := loop.state.providerErrorCode
  httpStatus := loop.state.providerHttpStatus
  retryable := loop.state.retryable
  configRecoverable := loop.state.configRecoverable
  finalText := loop.state.finalText
  interruptionCause := loop.state.interruptionCause

def dropCheckpoints (loop : Activation) : Activation :=
  if loop.state.status = .completed then { loop with durable.checkpoints := [] } else loop

def close (commit : CommitAnswer) (finalize : Option Raised) : Phase RunRecord := do
  promotePendingCancel commit
  promoteTurnFailure commit
  promoteUnsettledClose commit
  Piece.leaveIf finalize
  Piece.update dropCheckpoints
  let loop ← Piece.state
  pure (recordOf loop)

end Closing

section Runs

-- Where an entry leaves that does not return: its input is refused, no arm handles what its pump
-- raised, the park of a pump that returned fails, or an arm leaves at its emission or at its
-- commit.
inductive Escape where
  | malformed
  | unguarded
  | concluding (suspension : Suspension)
  | arm (raised : Raised) (projected : Bool)
deriving DecidableEq

-- How the last entry that was let in has ended, as far as the session or the checkpoint that it was
-- restored from can tell.
inductive LastEntry where
  | none
  | escaped (escape : Escape)
  | unreturned
  | parked (suspension : Suspension)
deriving DecidableEq

inductive RunLife where
  | opened (loop : Activation) (last : LastEntry)
  | away (durable : Durable)
  | closed (record : RunRecord) (durable : Durable)
deriving DecidableEq

inductive RunLabel where
  | enter (script : EntryScript)
  | signal (arrivals : Arrivals)
  | report (commit : CommitAnswer)
  | leave
  -- A driver may take the cancellation out of the checkpoint that it restores.
  | restore (which : Nat) (crashed : List ToolObservation) (uncancelled : Bool)
  | close (commit : CommitAnswer) (finalize : Option Raised)

def lastEntryOf (checkpoint : RunCheckpoint) : LastEntry :=
  match checkpoint.lastSuspension with
  | some suspension => .parked suspension
  -- The durable mark of an entry that has not returned.
  | none => .unreturned

def escapeOf (recovery : Option EvidenceRecovery) (script : EntryScript) (loop : Activation) :
    Escape :=
  match acceptInput script.input (leavePark (abandonRecovery spec script.input loop)) with
  | (.error _, _) => .malformed
  | (.ok _, ready) =>
    match (pumpActivation spec recovery script ready).1 with
    | .ok suspension => .concluding suspension
    | .error .checkpointPersist | .error .control | .error .lost => .unguarded
    | .error raised => .arm raised script.projection.isSome

def enterRun (script : EntryScript) (loop : Activation) (last : LastEntry) : RunLife :=
  match admitEntry spec script.input loop with
  | .error _ => .opened loop last
  | .ok recovery =>
    match enterPump spec recovery script loop with
    | (.ok suspension, after) => .opened after (.parked suspension)
    | (.error .lost, after) => .away after.durable
    | (.error _, after) => .opened after (.escaped (escapeOf spec recovery script loop))

def closeRun (commit : CommitAnswer) (finalize : Option Raised) (loop : Activation) : RunLife :=
  match close commit finalize loop with
  | (.ok record, after) => .closed record after.durable
  | (.error _, after) => .away after.durable

def restoreRun (which : Nat) (crashed : List ToolObservation) (uncancelled : Bool)
    (durable : Durable) : RunLife :=
  match durable.checkpoints[which]? with
  | none => .away durable
  | some checkpoint =>
    let taken :=
      if uncancelled then { checkpoint with cancellationRequested := false } else checkpoint
    match restore spec durable taken crashed with
    | none => .away durable
    | some loop => .opened loop (lastEntryOf checkpoint)

def nextRun : RunLife → RunLabel → RunLife
  | .opened loop last, .enter script => enterRun spec script loop last
  | .opened loop last, .signal arrivals => .opened (loop.receive arrivals) last
  | .opened loop last, .report commit => .opened (persistCheckpoint none commit loop).2 last
  | .opened loop _, .leave => .away loop.durable
  | .opened loop _, .close commit finalize => closeRun commit finalize loop
  | .away durable, .restore which crashed uncancelled =>
      restoreRun spec which crashed uncancelled durable
  | life, _ => life

def run : Machine RunLife RunLabel Unit :=
  ⟨.opened {} .none, fun life label => (nextRun spec life label, ())⟩

end Runs

end MonoidKernel.AgentLoop
