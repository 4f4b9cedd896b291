import MonoidKernel.Hosting.ModelCalls

set_option autoImplicit false

namespace MonoidKernel

-- What one run of a model call is started with: the identity that this activation computed, a fresh
-- idempotency key, and its kernel retry plan.
structure ModelCallPlan where
  lifecycle : ModelCallLifecycle
  logicalCallId : OpaqueId
  requestDigest : String
  idempotencyKey : String
  maxAttempts : Option Nat
  requireEvidence : Bool

structure RunnerCodec (Facts Digest : Type) where
  sha256 : Bytes → Digest
  modelDispatchId : OpaqueId → Nat → OpaqueId
  -- The constructor checks of the private receipt that recovery rebuilds.
  receiptRestorable : InvocationReceipt Facts → Bool
  -- `durable_model_turn` followed by `_recovered_result_matches_evidence`.
  resultReadable : Bytes → InvocationReceipt Facts → Bool

inductive CallOutcome (Facts : Type) where
  | recovered (dispatch : RecoveredModelDispatch Facts)
  | completed (reservation : ModelDispatchReservation) (receipt : InvocationReceipt Facts)
      (resultBlob : Bytes)

namespace ModelCalls

open Library

variable {Facts Digest : Type} [DecidableEq Digest]
variable (codec : RunnerCodec Facts Digest)

def recoverModelDispatch (plan : ModelCallPlan) :
    CallAction Facts Digest (Option (RecoveredModelDispatch Facts)) := do
  let query : ModelDispatchRecoveryQuery :=
    ⟨plan.logicalCallId, plan.requestDigest, .v1, plan.requireEvidence⟩
  match ← recover codec.sha256 plan.lifecycle query with
  | none => pure none
  | some recovered =>
      let reservation := recovered.reservation
      if reservation.logicalCallId ≠ query.logicalCallId ∨
          reservation.requestDigest ≠ query.requestDigest ∨
          reservation.digestGeneration ≠ query.digestGeneration then
        Action.raise (.durable "durable_invocation_recovery_conflict")
      else pure (some recovered)

-- `reserve_model_dispatch`: only the stored key may replace what was proposed.
def reserveModelDispatch (plan : ModelCallPlan) (dispatchAttempt : Nat) (idempotencyKey : String) :
    CallAction Facts Digest ModelDispatchReservation := do
  let proposed : ModelDispatchReservation :=
    ⟨plan.logicalCallId, dispatchAttempt,
      codec.modelDispatchId plan.logicalCallId dispatchAttempt, plan.requestDigest, .v1,
      idempotencyKey⟩
  let effective ← reserve plan.lifecycle proposed
  if effective = { proposed with idempotencyKey := effective.idempotencyKey } then pure effective
  else Action.raise (.durable "durable_invocation_reservation_conflict")

def safeFailureCode (value default : String) : String :=
  if isSafeTaxonomyCode value then value else default

-- `raise_model_dispatch_unknown`: whether or not the transition commits, the call stops here.
def raiseModelDispatchUnknown {A : Type} (plan : ModelCallPlan)
    (reservation : ModelDispatchReservation) (failureCode : String) : CallAction Facts Digest A :=
  Action.andThen
    ((unknown plan.lifecycle reservation (safeFailureCode failureCode "dispatch_unknown")).handle
      fun _ => Action.raise (.durable "dispatch_unknown"))
    fun _ => Action.raise (.durable "dispatch_unknown")

def settleModelDispatch (plan : ModelCallPlan) (settlement : ModelDispatchSettlement Facts) :
    CallAction Facts Digest Unit :=
  (settled codec.sha256 plan.lifecycle settlement).handle fun
    | .evidenceUncommitted => Action.raise .evidenceUncommitted
    | _ => raiseModelDispatchUnknown plan settlement.reservation "settlement_uncommitted"

-- `prepare_durable_stream_settlement`: the hook that flushes the stream before a settlement.
def prepareDurableStreamSettlement (plan : ModelCallPlan)
    (reservation : ModelDispatchReservation) : CallAction Facts Digest Unit := do
  if ← askBoundary then do
    assertActive
    raiseModelDispatchUnknown plan reservation "stream_settlement_uncommitted"
  else assertActive

def beginDispatch (plan : ModelCallPlan) (attempt : Nat) (idempotencyKey : String) :
    CallAction Facts Digest ModelDispatchReservation := do
  let reservation ← reserveModelDispatch codec plan attempt idempotencyKey
  assertActive
  -- `before_dispatch`, then the cancellation and deadline check.
  checkBoundary
  assertActive
  checkBoundary
  dispatchStarted plan.lifecycle reservation
  assertActive
  pure reservation

def completeDispatch (plan : ModelCallPlan) (reservation : ModelDispatchReservation)
    (receipt : InvocationReceipt Facts) (result : Except String Bytes) :
    CallAction Facts Digest (CallOutcome Facts) := do
  prepareDurableStreamSettlement plan reservation
  match result with
  | .error errorCode => raiseModelDispatchUnknown plan reservation errorCode
  | .ok resultBlob => do
      settleModelDispatch codec plan ⟨reservation, receipt, some resultBlob, ""⟩
      assertActive
      pure (.completed reservation receipt resultBlob)

def refuseDispatch (plan : ModelCallPlan) (reservation : ModelDispatchReservation)
    (receipt : InvocationReceipt Facts) (errorCode : String) : CallAction Facts Digest Unit := do
  prepareDurableStreamSettlement plan reservation
  settleModelDispatch codec plan
    ⟨reservation, receipt, none, safeFailureCode errorCode "model_error"⟩
  assertActive

-- The attempt loop. `budget` bounds its passes by the attempts the retry plan has left.
def attemptLoop (plan : ModelCallPlan) : Nat → Nat → String →
    CallAction Facts Digest (CallOutcome Facts)
  | 0, _, _ => Action.raise .stopped
  | budget + 1, attemptsMade, idempotencyKey => do
      let attempt := attemptsMade + 1
      let reservation ← beginDispatch codec plan attempt idempotencyKey
      match ← askProvider reservation with
      | .completed receipt result =>
          completeDispatch codec plan reservation { receipt with attempts := some attempt } result
      | .stopped => do
          assertActive
          Action.raise .stopped
      | .ambiguous errorCode => do
          assertActive
          raiseModelDispatchUnknown plan reservation errorCode
      | .refused receipt errorCode kernelRetryable delivered => do
          assertActive
          refuseDispatch codec plan reservation
            { receipt with attempts := some attempt, streamCommitted := some delivered } errorCode
          if plan.maxAttempts.all (fun most => decide (most ≤ attempt)) || delivered ||
              !kernelRetryable then
            Action.raise (.refused errorCode)
          else do
            checkBoundary
            attemptLoop plan budget attempt reservation.idempotencyKey

def recoveredFailureCanRetry (plan : ModelCallPlan) (receipt : InvocationReceipt Facts) : Bool :=
  plan.maxAttempts.any
      (fun most => receipt.attempts.any fun attempts => decide (attempts < most)) &&
    receipt.retryable.getD false && !receipt.configRecoverable.getD false &&
    decide (receipt.streamCommitted = some false)

def attemptFrom (plan : ModelCallPlan) (attemptsMade : Nat) (idempotencyKey : String) :
    CallAction Facts Digest (CallOutcome Facts) := do
  checkBoundary
  attemptLoop codec plan (plan.maxAttempts.getD 1 - attemptsMade + 1) attemptsMade idempotencyKey

def acallOwned (plan : ModelCallPlan) : CallAction Facts Digest (CallOutcome Facts) := do
  assertActive
  match ← recoverModelDispatch codec { plan with requireEvidence := false } with
  | none => attemptFrom codec plan 0 plan.idempotencyKey
  | some recovered => do
      checkBoundary
      let key := recovered.reservation.idempotencyKey
      match recovered.receipt.attempts, codec.receiptRestorable recovered.receipt with
      | some attempts, true =>
          if !recovered.failureCode.isEmpty then
            if recoveredFailureCanRetry plan recovered.receipt then do
              checkBoundary
              attemptFrom codec plan attempts key
            else Action.raise (.refused recovered.failureCode)
          else
            match recovered.resultBlob with
            | some resultBlob =>
                if codec.resultReadable resultBlob recovered.receipt then
                  pure (.recovered recovered)
                else Action.raise (.durable "durable_invocation_result_corrupt")
            | none => Action.raise (.durable "durable_invocation_result_corrupt")
      | _, _ => Action.raise (.durable "durable_invocation_receipt_corrupt")

def recoverEvidenceDispatch (plan : ModelCallPlan) :
    CallAction Facts Digest (CallOutcome Facts) := do
  match ← recoverModelDispatch codec plan with
  | none => Action.raise (.durable "durable_invocation_recovery_missing")
  | some recovered => pure (.recovered recovered)

end ModelCalls

end MonoidKernel
