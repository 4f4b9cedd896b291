import MonoidKernel.Library.Program
import MonoidKernel.Postgres.InvocationJournal

set_option autoImplicit false

namespace MonoidKernel

structure ModelDispatchReservation where
  logicalCallId : OpaqueId
  dispatchAttempt : Nat
  dispatchId : OpaqueId
  requestDigest : String
  digestGeneration : DigestGeneration
  idempotencyKey : String
deriving DecidableEq

structure ModelDispatchRecoveryQuery where
  logicalCallId : OpaqueId
  requestDigest : String
  digestGeneration : DigestGeneration
  requireEvidence : Bool
deriving DecidableEq

structure RecoveredModelDispatch (Facts : Type) where
  reservation : ModelDispatchReservation
  receipt : InvocationReceipt Facts
  resultBlob : Option Bytes
  failureCode : String
deriving DecidableEq

structure ModelDispatchSettlement (Facts : Type) where
  reservation : ModelDispatchReservation
  receipt : InvocationReceipt Facts
  resultBlob : Option Bytes
  failureCode : String
deriving DecidableEq

inductive CallError where
  | authorityRevoked
  | durable (errorCode : String)
  | evidenceUncommitted
  | refused (errorCode : String)
  | stopped
  -- `ValueError` from the checks of a value object.
  | invalidValue
  -- Whatever else a sink or store call raises.
  | external
deriving DecidableEq

-- How the adapter ended one dispatch. `result` is the encoded private result of a completed turn,
-- or the code under which it could not be encoded.
inductive ProviderOutcome (Facts : Type) where
  | completed (receipt : InvocationReceipt Facts) (result : Except String Bytes)
  | refused (receipt : InvocationReceipt Facts) (errorCode : String)
      (kernelRetryable delivered : Bool)
  | ambiguous (errorCode : String)
  | stopped

inductive LoadReply (Facts Digest : Type) [DecidableEq Digest] where
  | missing
  | unreadable
  | loaded (invocation : DurableModelInvocation Facts Digest)
  | raised

inductive CallRequest (Facts Digest : Type) [DecidableEq Digest] where
  | writeAuthority
  | boundary
  | loadInvocation (logicalCallId : OpaqueId)
  | readBlob (sha256 : Digest)
  | commitInvocation (invocation : DurableModelInvocation Facts Digest)
      (blobs : List (Digest × Bytes)) (stageEvidence : Bool)
  | reconcileInvocation (invocation : DurableModelInvocation Facts Digest)
      (blobs : List (Digest × Bytes)) (stageEvidence : Bool)
  | commitModelEvidence (invocation : DurableModelInvocation Facts Digest)
  | reconcileEvidence (invocation : DurableModelInvocation Facts Digest)
  | provider (reservation : ModelDispatchReservation)

abbrev CallReply {Facts Digest : Type} [DecidableEq Digest] : CallRequest Facts Digest → Type
  | .writeAuthority => Bool
  | .boundary => Bool
  | .loadInvocation _ => LoadReply Facts Digest
  | .readBlob _ => Option Bytes
  | .commitInvocation _ _ _ => Reply Digest
  | .reconcileInvocation _ _ _ => Option (CommitResult Digest)
  | .commitModelEvidence _ => Reply Digest
  | .reconcileEvidence _ => Option (CommitResult Digest)
  | .provider _ => ProviderOutcome Facts

abbrev CallAction (Facts Digest : Type) [DecidableEq Digest] (A : Type) :=
  Library.Action (CallRequest Facts Digest) CallReply CallError A

structure ModelCallLifecycle where
  writerToken : WriterToken
  evidencePolicy : ModelEvidencePolicy
  transactionalOutbox : Bool

namespace ModelCalls

open Library

variable {Facts Digest : Type} [DecidableEq Digest]

def checkedInvocation (fields : InvocationFields Facts Digest) :
    CallAction Facts Digest (DurableModelInvocation Facts Digest) :=
  if checked : fields.checked = true then
    pure ⟨fields, checked, none, fun _ absent => nomatch absent⟩
  else Action.raise .invalidValue

section Requests

variable (invocation : DurableModelInvocation Facts Digest)

def askWriteAuthority : CallAction Facts Digest Bool := Action.ask CallRequest.writeAuthority

def askBoundary : CallAction Facts Digest Bool := Action.ask CallRequest.boundary

def askLoadInvocation (logicalCallId : OpaqueId) :
    CallAction Facts Digest (LoadReply Facts Digest) :=
  Action.ask (CallRequest.loadInvocation logicalCallId)

def askReadBlob (sha256 : Digest) : CallAction Facts Digest (Option Bytes) :=
  Action.ask (CallRequest.readBlob sha256)

def askCommitInvocation (blobs : List (Digest × Bytes)) (stageEvidence : Bool) :
    CallAction Facts Digest (Reply Digest) :=
  Action.ask (CallRequest.commitInvocation invocation blobs stageEvidence)

def askReconcileInvocation (blobs : List (Digest × Bytes)) (stageEvidence : Bool) :
    CallAction Facts Digest (Option (CommitResult Digest)) :=
  Action.ask (CallRequest.reconcileInvocation invocation blobs stageEvidence)

def askCommitModelEvidence : CallAction Facts Digest (Reply Digest) :=
  Action.ask (CallRequest.commitModelEvidence invocation)

def askReconcileEvidence : CallAction Facts Digest (Option (CommitResult Digest)) :=
  Action.ask (CallRequest.reconcileEvidence invocation)

def askProvider (reservation : ModelDispatchReservation) :
    CallAction Facts Digest (ProviderOutcome Facts) := Action.ask (CallRequest.provider reservation)

end Requests

section Authority

variable {A : Type}

def assertActive : CallAction Facts Digest Unit := do
  let revoked ← askWriteAuthority
  if revoked then Action.raise .authorityRevoked else pure ()

def guardExternalCall (operation : CallAction Facts Digest A) : CallAction Facts Digest A := do
  assertActive
  operation.ensure assertActive

-- `except WriteAuthorityRevoked: raise`, then `except Exception` with `error`.
def unlessRevoked (operation : CallAction Facts Digest A) (error : CallError) :
    CallAction Facts Digest A :=
  operation.handle fun
    | .authorityRevoked => Action.raise .authorityRevoked
    | _ => Action.raise error

def checkBoundary : CallAction Facts Digest Unit := do
  let stops ← askBoundary
  if stops then Action.raise .stopped else pure ()

end Authority

def sinkCommitInvocation (invocation : DurableModelInvocation Facts Digest)
    (blobs : List (Digest × Bytes)) (stageEvidence : Bool) :
    CallAction Facts Digest (CommitResult Digest) := do
  match ← askCommitInvocation invocation blobs stageEvidence with
  | .answered result => pure result
  | .raised => Action.raise .external
  | .ambiguous =>
      match ← askReconcileInvocation invocation blobs stageEvidence with
      | some result => pure result
      | none => Action.raise .external

def sinkCommitModelEvidence (invocation : DurableModelInvocation Facts Digest) :
    CallAction Facts Digest (CommitResult Digest) := do
  match ← askCommitModelEvidence invocation with
  | .answered result => pure result
  | .raised => Action.raise .external
  | .ambiguous =>
      match ← askReconcileEvidence invocation with
      | some result => pure result
      | none => Action.raise .external

def acceptFencedCommitResult (result : CommitResult Digest) :
    CallAction Facts Digest CommitStatus :=
  match result.status with
  | .fenced => Action.raise .authorityRevoked
  | status => pure status

def sameDispatch (invocation : DurableModelInvocation Facts Digest)
    (reservation : ModelDispatchReservation) : Bool :=
  let fields := invocation.fields
  decide (fields.logicalCallId = reservation.logicalCallId) &&
    decide (fields.dispatchAttempt = reservation.dispatchAttempt) &&
    decide (fields.dispatchId = reservation.dispatchId) &&
    decide (fields.requestDigest = reservation.requestDigest) &&
    decide (fields.digestGeneration = reservation.digestGeneration) &&
    decide (fields.idempotencyKey = reservation.idempotencyKey)

def reservationOf (invocation : DurableModelInvocation Facts Digest) : ModelDispatchReservation :=
  let fields := invocation.fields
  ⟨fields.logicalCallId, fields.dispatchAttempt, fields.dispatchId, fields.requestDigest,
    fields.digestGeneration, fields.idempotencyKey⟩

variable (sha256 : Bytes → Digest) (lifecycle : ModelCallLifecycle)

def load (logicalCallId : OpaqueId) :
    CallAction Facts Digest (Option (DurableModelInvocation Facts Digest)) := do
  let reply ← unlessRevoked (guardExternalCall do
    match ← askLoadInvocation logicalCallId with
    | .raised => Action.raise .external
    | reply => pure reply) (.durable "durable_invocation_load_failed")
  match reply with
  | .missing => pure none
  | .loaded invocation =>
      if invocation.fields.runId ≠ lifecycle.writerToken.runId ∨
          invocation.fields.logicalCallId ≠ logicalCallId then
        Action.raise (.durable "durable_invocation_corrupt")
      else pure (some invocation)
  | .unreadable | .raised => Action.raise (.durable "durable_invocation_corrupt")

def commit (invocation : DurableModelInvocation Facts Digest) (blobs : List (Digest × Bytes))
    (stageEvidence : Bool) : CallAction Facts Digest Unit := do
  let result ← unlessRevoked
    (guardExternalCall (sinkCommitInvocation invocation blobs stageEvidence))
    (.durable "durable_invocation_commit_failed")
  let status ← acceptFencedCommitResult result
  if status = .conflict then Action.raise (.durable "durable_invocation_conflict") else pure ()

def commitEvidence (invocation : DurableModelInvocation Facts Digest) :
    CallAction Facts Digest Unit :=
  unlessRevoked (do
    let result ← guardExternalCall (sinkCommitModelEvidence invocation)
    let status ← acceptFencedCommitResult result
    if status = .conflict then Action.raise .external else pure ()) .evidenceUncommitted

def rejectEvidencePolicyChange {A : Type} (invocation : DurableModelInvocation Facts Digest)
    (blobs : List (Digest × Bytes)) (proveOwnership : Bool) : CallAction Facts Digest A := do
  if proveOwnership then commit invocation blobs false else pure ()
  Action.raise (.durable "durable_invocation_evidence_policy_conflict")

def requireOutboxCapability (invocation : Option (DurableModelInvocation Facts Digest)) :
    CallAction Facts Digest Unit :=
  if lifecycle.transactionalOutbox then pure ()
  else do
    match invocation with
    | some invocation => commit invocation [] false
    | none => pure ()
    Action.raise (.durable "durable_invocation_evidence_policy_conflict")

def effectiveEvidencePolicy (invocation : DurableModelInvocation Facts Digest)
    (requireEvidence : Bool) (blobs : List (Digest × Bytes)) (proveOwnership : Bool) :
    CallAction Facts Digest ModelEvidencePolicy :=
  let stored := invocation.fields.evidencePolicy
  if requireEvidence = true ∧ stored ≠ .required then
    rejectEvidencePolicyChange invocation blobs proveOwnership
  else if lifecycle.evidencePolicy ≠ .passive ∧ lifecycle.evidencePolicy ≠ stored then
    rejectEvidencePolicyChange invocation blobs proveOwnership
  else if stored = .outbox then do
    requireOutboxCapability lifecycle (if proveOwnership then some invocation else none)
    pure stored
  else pure stored

def commitSettled (invocation : DurableModelInvocation Facts Digest)
    (blobs : List (Digest × Bytes)) (requireEvidence evidenceCommitted authoritative : Bool) :
    CallAction Facts Digest Unit := do
  let evidencePolicy ←
    effectiveEvidencePolicy lifecycle invocation requireEvidence blobs authoritative
  commit invocation blobs (decide (evidencePolicy = .outbox))
  if evidencePolicy = .required ∧ evidenceCommitted = false then commitEvidence invocation
  else pure ()

def advanced (invocation : DurableModelInvocation Facts Digest) (state : DispatchState) :
    InvocationFields Facts Digest :=
  { invocation.fields with
    schemaVersion := .v2
    revision := invocation.fields.revision + 1
    dispatchState := state }

def unknownStarted {A : Type} (invocation : DurableModelInvocation Facts Digest) :
    CallAction Facts Digest A := do
  let unknown ← checkedInvocation
    { advanced invocation .unknown with failureCode := "dispatch_unknown" }
  commit unknown [] false
  Action.raise (.durable "dispatch_unknown")

def recoverSettled (query : ModelDispatchRecoveryQuery)
    (invocation : DurableModelInvocation Facts Digest) (receipt : InvocationReceipt Facts)
    (evidenceCommitted : Bool) : CallAction Facts Digest (RecoveredModelDispatch Facts) := do
  let fields := invocation.fields
  if !fields.failureCode.isEmpty then do
    -- The exact idempotent mutation proves that this writer is still current.
    commitSettled lifecycle invocation [] query.requireEvidence evidenceCommitted true
    pure ⟨reservationOf invocation, receipt, none, fields.failureCode⟩
  else
    match fields.resultRef with
    | .blob address =>
        match ← askReadBlob address with
        | some resultBlob =>
            if sha256 resultBlob = address then do
              commitSettled lifecycle invocation [(address, resultBlob)] query.requireEvidence
                evidenceCommitted true
              pure ⟨reservationOf invocation, receipt, some resultBlob, ""⟩
            else Action.raise (.durable "durable_invocation_result_corrupt")
        | none => Action.raise (.durable "durable_invocation_result_corrupt")
    | .empty | .address _ _ => Action.raise (.durable "durable_invocation_result_corrupt")

def recoverLoaded (query : ModelDispatchRecoveryQuery)
    (invocation : DurableModelInvocation Facts Digest) (evidenceCommitted : Bool) :
    CallAction Facts Digest (Option (RecoveredModelDispatch Facts)) :=
  let fields := invocation.fields
  if fields.requestDigest ≠ query.requestDigest ∨
      fields.digestGeneration ≠ query.digestGeneration then
    Action.raise (.durable "durable_invocation_request_conflict")
  else
    match fields.dispatchState with
    | .reserved => pure none
    | .dispatchStarted => unknownStarted invocation
    | .unknown => Action.raise (.durable "dispatch_unknown")
    | .settled =>
        match fields.receipt with
        | none => Action.raise (.durable "durable_invocation_corrupt")
        | some receipt => do
            let recovered ←
              recoverSettled sha256 lifecycle query invocation receipt evidenceCommitted
            pure (some recovered)

def recover (query : ModelDispatchRecoveryQuery) :
    CallAction Facts Digest (Option (RecoveredModelDispatch Facts)) := do
  match ← load lifecycle query.logicalCallId with
  | none => pure none
  | some invocation =>
      let fields := invocation.fields
      let evidenceCommitted := decide (fields.dispatchState = .settled) &&
        decide (fields.evidencePolicy = .required)
      if evidenceCommitted then commitEvidence invocation else pure ()
      recoverLoaded sha256 lifecycle query invocation evidenceCommitted

def reservedFields (reservation : ModelDispatchReservation) (revision : Nat)
    (evidencePolicy : ModelEvidencePolicy) : InvocationFields Facts Digest where
  schemaVersion := .v2
  runId := lifecycle.writerToken.runId
  logicalCallId := reservation.logicalCallId
  revision := revision
  dispatchId := reservation.dispatchId
  dispatchAttempt := reservation.dispatchAttempt
  idempotencyKey := reservation.idempotencyKey
  dispatchState := .reserved
  requestDigest := reservation.requestDigest
  digestGeneration := reservation.digestGeneration
  evidencePolicy := evidencePolicy
  receipt := none
  resultRef := .empty
  failureCode := ""

def commitReservation (reservation : ModelDispatchReservation) (revision : Nat)
    (evidencePolicy : ModelEvidencePolicy) : CallAction Facts Digest ModelDispatchReservation := do
  let reserved ← checkedInvocation (reservedFields lifecycle reservation revision evidencePolicy)
  commit reserved [] false
  pure reservation

def reserve (proposed : ModelDispatchReservation) :
    CallAction Facts Digest ModelDispatchReservation := do
  match ← load lifecycle proposed.logicalCallId with
  | none => do
      if lifecycle.evidencePolicy = .outbox then requireOutboxCapability lifecycle none else pure ()
      commitReservation lifecycle proposed 1 lifecycle.evidencePolicy
  | some invocation =>
      let fields := invocation.fields
      let effective := { proposed with idempotencyKey := fields.idempotencyKey }
      match fields.dispatchState with
      | .reserved => do
          let _ ← effectiveEvidencePolicy lifecycle invocation false [] true
          if sameDispatch invocation effective then pure effective
          else Action.raise (.durable "durable_invocation_request_conflict")
      | .dispatchStarted => unknownStarted invocation
      | .unknown => Action.raise (.durable "dispatch_unknown")
      | .settled => do
          let evidencePolicy ← effectiveEvidencePolicy lifecycle invocation false [] true
          if InvocationJournal.retryableFailure fields = false then
            Action.raise (.durable "durable_invocation_already_settled")
          else if effective.dispatchAttempt ≠ fields.dispatchAttempt + 1 ∨
              effective.requestDigest ≠ fields.requestDigest ∨
              effective.digestGeneration ≠ fields.digestGeneration then
            Action.raise (.durable "durable_invocation_request_conflict")
          else commitReservation lifecycle effective (fields.revision + 1) evidencePolicy

def loadDispatch (reservation : ModelDispatchReservation) (state : DispatchState) :
    CallAction Facts Digest (DurableModelInvocation Facts Digest) := do
  match ← load lifecycle reservation.logicalCallId with
  | none => Action.raise (.durable "durable_invocation_conflict")
  | some invocation =>
      if invocation.fields.dispatchState ≠ state then
        Action.raise (.durable "durable_invocation_conflict")
      else if sameDispatch invocation reservation then pure invocation
      else Action.raise (.durable "durable_invocation_request_conflict")

def dispatchStarted (reservation : ModelDispatchReservation) : CallAction Facts Digest Unit := do
  let invocation ← loadDispatch lifecycle reservation .reserved
  let started ← checkedInvocation (advanced invocation .dispatchStarted)
  commit started [] false

def settled (settlement : ModelDispatchSettlement Facts) : CallAction Facts Digest Unit := do
  let invocation ← loadDispatch lifecycle settlement.reservation .dispatchStarted
  let blobs := (settlement.resultBlob.map fun blob => (sha256 blob, blob)).toList
  let resultRef := match settlement.resultBlob with
    | some blob => .blob (sha256 blob)
    | none => .empty
  let record ← checkedInvocation { advanced invocation .settled with
    receipt := some settlement.receipt
    resultRef := resultRef
    failureCode := settlement.failureCode }
  commitSettled lifecycle record blobs false false false

def unknown (reservation : ModelDispatchReservation) (failureCode : String) :
    CallAction Facts Digest Unit := do
  let invocation ← loadDispatch lifecycle reservation .dispatchStarted
  let record ← checkedInvocation { advanced invocation .unknown with failureCode := failureCode }
  commit record [] false

end ModelCalls

end MonoidKernel
