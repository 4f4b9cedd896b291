import MonoidKernel.Core.SafeEvidence

set_option autoImplicit false

namespace MonoidKernel

inductive TerminalOutcomeKind where
  | completed | paused | limited | cancelled | interrupted | failedRetryable | failedConfig
  | failedTerminal | dispatchUnknown | evidenceUncommitted
deriving DecidableEq

inductive RetryEligibility where
  | notApplicable | safe | afterConfiguration | afterReconciliation | forbidden
deriving DecidableEq

inductive InterruptionCause where
  | userCancel | gracefulDrain | leaseLost | deadline | hostShutdown | providerFailure
  | validationFailure | unknown
deriving DecidableEq

-- The canonical payload of a terminal outcome: `to_json` writes the current schema version
-- whichever accepted spelling the value carries.
structure TerminalPayload where
  runId : OpaqueId
  kind : TerminalOutcomeKind
  retryEligibility : RetryEligibility
  interruptionCause : Option InterruptionCause
  checkpointSeq : Option Nat
  finalOutputRef : String
  partialOutputRef : String
  lastEvidenceRef : String
  errorCode : String
  providerErrorCode : String
  httpStatus : Option Nat
deriving DecidableEq

def emptyOrAddress (value : String) : Bool := value.isEmpty || isSafeOpaqueAddress value

def emptyOrCode (value : String) : Bool := value.isEmpty || isSafeTaxonomyCode value

def TerminalPayload.wellFormed (payload : TerminalPayload) : Bool :=
  (payload.kind != .dispatchUnknown || payload.retryEligibility == .afterReconciliation ||
      payload.retryEligibility == .forbidden) &&
    (payload.kind != .limited || payload.retryEligibility == .forbidden) &&
    (match payload.httpStatus with
      | none => true
      | some status => decide (100 ≤ status) && decide (status ≤ 599)) &&
    emptyOrAddress payload.finalOutputRef && emptyOrAddress payload.partialOutputRef &&
    emptyOrAddress payload.lastEvidenceRef && emptyOrCode payload.errorCode &&
    emptyOrCode payload.providerErrorCode

structure TerminalOutcome where
  legacySchema : Bool
  payload : TerminalPayload
  wellFormed : payload.wellFormed = true
deriving DecidableEq

end MonoidKernel
