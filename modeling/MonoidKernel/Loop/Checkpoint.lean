import MonoidKernel.Library.Leaving
import MonoidKernel.Loop.State

set_option autoImplicit false

namespace MonoidKernel.AgentLoop

open Library

abbrev Phase (A : Type) : Type := Piece Activation Raised A

section Recovery

def unrecoveredTurnFailure (lastSuspension : Option Suspension) : Option (String × String) :=
  lastSuspension.bind fun suspension =>
    if suspension.reason = .turnFailed then some (suspension.error, suspension.errorCode) else none

def midturnPark (lastSuspension : Option Suspension) : Option SuspensionReason :=
  lastSuspension.bind fun suspension =>
    if suspension.reason = .paused ∨ suspension.reason = .interrupted then some suspension.reason
    else none

def parkClassification (lastSuspension : Option Suspension) : Bool × Bool :=
  match lastSuspension with
  | some suspension => (suspension.retryable, suspension.configRecoverable)
  | none => (false, false)

def lastIsAssistant (messages : List Message) : Bool :=
  match messages.getLast? with
  | some (.assistant ..) => true
  | _ => false

def projectedToolTurn (loop : Activation) : Bool :=
  match loop.state.messages.getLast? with
  | some (.assistant _ toolCalls _) => loop.session.modelToolCallsPending && !toolCalls.isEmpty
  | _ => false

def unappliedSettledInvocation (spec : LoopSpec) (loop : Activation) : Option (Nat × Invocation) :=
  loop.session.lastModelInvocation.bind fun invocation =>
    if loop.session.sessionStep < 1 ∨ invocation.dispatchState ≠ .settled ∨
        (lastIsAssistant loop.state.messages = true ∧ projectedToolTurn loop = false) ∨
        invocation.logicalCallId ≠ logicalModelCallId spec.runId loop.session.sessionStep then none
    else some (loop.session.sessionStep, invocation)

structure EvidenceRecovery where
  step : Nat
  invocation : Invocation
  blocksNewInput : Bool
  outcomeProjected : Bool
deriving DecidableEq

def evidenceRecovery (spec : LoopSpec) (loop : Activation) : Option EvidenceRecovery :=
  loop.session.lastSuspension.bind fun suspension =>
    if suspension.errorCode = "evidence_uncommitted" ∨ suspension.reason = .interrupted then
      (unappliedSettledInvocation spec loop).map fun unapplied =>
        { step := unapplied.1
          invocation := unapplied.2
          blocksNewInput := decide (suspension.errorCode = "evidence_uncommitted")
          outcomeProjected := suspension.modelToolCallsPending }
    else none

end Recovery

section Checkpoints

-- What `snapshot` says of a cancellation: whether one is pending, and under which cause.
def snapshotCancellation (loop : Activation) : Bool × Option InterruptionCause :=
  if loop.session.terminal then
    -- A terminal verdict stands against a request that comes after it.
    (loop.cancellation.isSome && decide (loop.cancellation = loop.state.interruptionCause),
      loop.state.interruptionCause)
  else (loop.cancellation.isSome, loop.cancellation <|> loop.state.interruptionCause)

def snapshot (loop : Activation) : RunCheckpoint where
  seq := loop.session.checkpointSeq
  state := { loop.state with
    retryable := false
    configRecoverable := false
    interruptionCause := none }
  pendingFinish := loop.pendingFinish
  sessionStep := loop.session.sessionStep
  submitLocalStep := loop.session.submitLocalStep
  terminal := loop.session.terminal
  lastSuspension := loop.session.lastSuspension
  lastModelInvocation := loop.session.lastModelInvocation
  cancellationRequested := (snapshotCancellation loop).1
  interruptionCause := (snapshotCancellation loop).2

-- What becomes of a checkpoint. `refused` is a snapshot that is unsafe because a local job still
-- runs; a store may keep a checkpoint and fail all the same.
inductive CommitAnswer where
  | refused
  | committed
  | declined
  | failed (kept : Bool)
deriving DecidableEq, Repr

def observed (suspension : Option Suspension) (loop : Activation) : Activation :=
  match suspension with
  | some suspension => { loop with session.lastSuspension := some suspension }
  | none => loop

def numbered (loop : Activation) : Activation :=
  { loop with session.checkpointSeq := loop.session.checkpointSeq + 1 }

def stored (loop : Activation) : Activation :=
  { loop with durable.checkpoints := loop.durable.checkpoints ++ [snapshot loop] }

def persistCheckpoint (suspension : Option Suspension) (answer : CommitAnswer) : Phase Unit := do
  let before ← Piece.state
  match answer with
  | .refused => pure ()
  | .committed => Piece.update fun loop => stored (numbered (observed suspension loop))
  | .declined => Piece.update fun loop => numbered (observed suspension loop)
  | .failed kept =>
    Piece.update fun loop =>
      let tried := numbered (observed suspension loop)
      { (if kept then stored tried else tried) with
        session.lastSuspension := before.session.lastSuspension }
    Piece.leave .checkpointPersist

-- `_rehydrate`: `crashed` are the observations of local jobs that died with their process. A
-- checkpoint whose cancellation has no operational cause does not restore.
def restore (spec : LoopSpec) (durable : Durable) (checkpoint : RunCheckpoint)
    (crashed : List ToolObservation) : Option Activation :=
  let cause := checkpoint.interruptionCause.getD .userCancel
  if checkpoint.cancellationRequested ∧ isOperationalCancellationCause cause = false then none
  else some
    { state := { checkpoint.state with
        retryable := (parkClassification checkpoint.lastSuspension).1
        configRecoverable := (parkClassification checkpoint.lastSuspension).2
        interruptionCause := checkpoint.interruptionCause
        pendingObservations := checkpoint.state.pendingObservations ++ crashed
        totalUsage := if checkpoint.state.totalUsage.entries = [] then initialUsage
          else checkpoint.state.totalUsage }
      session :=
        { sessionStep := checkpoint.sessionStep
          submitLocalStep := checkpoint.submitLocalStep
          terminal := checkpoint.terminal
          checkpointSeq := checkpoint.seq
          lastSuspension := checkpoint.lastSuspension
          unrecoveredTurnFailure := unrecoveredTurnFailure checkpoint.lastSuspension
          midturnPark := midturnPark checkpoint.lastSuspension
          lastModelInvocation := checkpoint.lastModelInvocation
          modelToolCallsPending := checkpoint.lastSuspension.any (·.modelToolCallsPending)
          resumeCheckpointedModelStep := spec.lifecycleHook &&
            decide (0 < checkpoint.sessionStep) && checkpoint.lastSuspension.isNone }
      pendingFinish := checkpoint.pendingFinish
      cancellation := if checkpoint.cancellationRequested then some cause else none
      durable := durable }

end Checkpoints

end MonoidKernel.AgentLoop
