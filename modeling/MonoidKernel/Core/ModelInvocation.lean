import MonoidKernel.Core.SafeEvidence

set_option autoImplicit false

namespace MonoidKernel

inductive DispatchState where
  | reserved | dispatchStarted | settled | unknown
deriving DecidableEq

inductive ModelEvidencePolicy where
  | passive | required | outbox
deriving DecidableEq

-- The accepted schema spellings; `v1Legacy` carries the pre-rename namespace.
inductive InvocationSchema where
  | v1 | v1Legacy | v2
deriving DecidableEq

inductive DigestGeneration where
  | v1 | v1Legacy
deriving DecidableEq

def isValidIdempotencyKey (value : String) : Bool :=
  match value.toList with
  | [] => false
  | first :: rest =>
      first.isAlphanum &&
        rest.all (fun character =>
          character.isAlphanum || ['.', '_', '+', '-'].contains character) &&
        decide (rest.length ≤ 127)

def isRecordedDigest (value : String) : Bool :=
  decide (value.toList.length = 64) &&
    value.toList.all fun character =>
      character.isDigit || ['a', 'b', 'c', 'd', 'e', 'f'].contains character

-- A normalized receipt. `facts` holds the evidence that no transition rule reads.
structure InvocationReceipt (Facts : Type) where
  attempts : Option Nat
  configRecoverable : Option Bool
  retryable : Option Bool
  streamCommitted : Option Bool
  requestDigest : Option String
  facts : Facts
deriving DecidableEq

def blobScheme : List Char := "blob:".toList

-- A `result_ref`: empty, the address of a stored blob, or an address under another scheme.
inductive ResultRef (Digest : Type) where
  | empty
  | blob (sha256 : Digest)
  | address (text : String)
      (safe : isSafeOpaqueAddress text = true ∧ ¬ blobScheme <+: text.toList)
deriving DecidableEq

structure InvocationFields (Facts Digest : Type) where
  schemaVersion : InvocationSchema
  runId : OpaqueId
  logicalCallId : OpaqueId
  revision : Nat
  dispatchId : OpaqueId
  dispatchAttempt : Nat
  idempotencyKey : String
  dispatchState : DispatchState
  requestDigest : String
  digestGeneration : DigestGeneration
  evidencePolicy : ModelEvidencePolicy
  receipt : Option (InvocationReceipt Facts)
  resultRef : ResultRef Digest
  failureCode : String
deriving DecidableEq

-- The JSON object that a record is written as. A retained record keeps the spelling it was
-- submitted with: its namespaces, the policy flag before it became an enum, and absent defaults.
structure InvocationPayload (Facts Digest : Type) where
  schemaVersion : InvocationSchema
  runId : OpaqueId
  logicalCallId : OpaqueId
  revision : Nat
  dispatchId : OpaqueId
  dispatchAttempt : Nat
  idempotencyKey : String
  dispatchState : DispatchState
  requestDigest : String
  digestGeneration : DigestGeneration
  evidencePolicy : Option ModelEvidencePolicy
  requiresEvidence : Option Bool
  receipt : Option (InvocationReceipt Facts)
  resultRef : Option (ResultRef Digest)
  failureCode : Option String
deriving DecidableEq

namespace InvocationFields

variable {Facts Digest : Type} [DecidableEq Digest]

def stateCarries (fields : InvocationFields Facts Digest) : Bool :=
  match fields.dispatchState with
  | .reserved | .dispatchStarted =>
      fields.receipt.isNone && decide (fields.resultRef = .empty) && fields.failureCode.isEmpty
  | .unknown => fields.receipt.isNone && decide (fields.resultRef = .empty)
  | .settled =>
      fields.receipt.isSome &&
        if fields.failureCode.isEmpty then decide (fields.resultRef ≠ .empty)
        else decide (fields.resultRef = .empty)

def checked (fields : InvocationFields Facts Digest) : Bool :=
  isValidIdempotencyKey fields.idempotencyKey && isRecordedDigest fields.requestDigest &&
    decide (1 ≤ fields.revision) && decide (1 ≤ fields.dispatchAttempt) &&
    (fields.failureCode.isEmpty || isSafeTaxonomyCode fields.failureCode) &&
    fields.receipt.all (fun receipt =>
      decide (receipt.requestDigest.getD fields.requestDigest = fields.requestDigest)) &&
    fields.stateCarries

def toJson (fields : InvocationFields Facts Digest) : InvocationPayload Facts Digest where
  schemaVersion := if fields.schemaVersion = .v2 then .v2 else .v1
  runId := fields.runId
  logicalCallId := fields.logicalCallId
  revision := fields.revision
  dispatchId := fields.dispatchId
  dispatchAttempt := fields.dispatchAttempt
  idempotencyKey := fields.idempotencyKey
  dispatchState := fields.dispatchState
  requestDigest := fields.requestDigest
  digestGeneration := .v1
  evidencePolicy := some fields.evidencePolicy
  requiresEvidence := none
  receipt := fields.receipt
  resultRef := some fields.resultRef
  failureCode := some fields.failureCode

end InvocationFields

namespace InvocationPayload

variable {Facts Digest : Type} [DecidableEq Digest]

def modelEvidencePolicy (payload : InvocationPayload Facts Digest) : Option ModelEvidencePolicy :=
  match payload.evidencePolicy, payload.requiresEvidence with
  | some policy, none => some policy
  | some policy, some legacyRequired =>
      if legacyRequired = decide (policy = .required) then some policy else none
  | none, flag => some (if flag.getD false then .required else .passive)

-- `_model_invocation_from_payload`; `none` is a refused payload.
def decode (payload : InvocationPayload Facts Digest) : Option (InvocationFields Facts Digest) :=
  payload.modelEvidencePolicy.bind fun policy =>
    let fields : InvocationFields Facts Digest := {
      schemaVersion := payload.schemaVersion
      runId := payload.runId
      logicalCallId := payload.logicalCallId
      revision := payload.revision
      dispatchId := payload.dispatchId
      dispatchAttempt := payload.dispatchAttempt
      idempotencyKey := payload.idempotencyKey
      dispatchState := payload.dispatchState
      requestDigest := payload.requestDigest
      -- The reader replaces either accepted spelling by the current one.
      digestGeneration := .v1
      evidencePolicy := policy
      receipt := payload.receipt
      resultRef := payload.resultRef.getD .empty
      failureCode := payload.failureCode.getD "" }
    if fields.checked then some fields else none

end InvocationPayload

structure SourceEnvelope (Facts Digest : Type) where
  payload : InvocationPayload Facts Digest
  canonical : Digest
deriving DecidableEq

structure DurableModelInvocation (Facts Digest : Type) [DecidableEq Digest] where
  fields : InvocationFields Facts Digest
  checked : fields.checked = true
  source : Option (SourceEnvelope Facts Digest)
  loaded : ∀ envelope, source = some envelope → envelope.payload.decode = some fields

section

variable {Facts Digest : Type} [DecidableEq Digest]

theorem InvocationPayload.decode_some {payload : InvocationPayload Facts Digest}
    {fields : InvocationFields Facts Digest} (decoded : payload.decode = some fields) :
    payload.modelEvidencePolicy = some fields.evidencePolicy ∧ fields.checked = true ∧
      fields = {
        schemaVersion := payload.schemaVersion
        runId := payload.runId
        logicalCallId := payload.logicalCallId
        revision := payload.revision
        dispatchId := payload.dispatchId
        dispatchAttempt := payload.dispatchAttempt
        idempotencyKey := payload.idempotencyKey
        dispatchState := payload.dispatchState
        requestDigest := payload.requestDigest
        digestGeneration := .v1
        evidencePolicy := fields.evidencePolicy
        receipt := payload.receipt
        resultRef := payload.resultRef.getD .empty
        failureCode := payload.failureCode.getD "" } := by
  obtain ⟨policy, known, rest⟩ := Option.bind_eq_some_iff.mp decoded
  dsimp only at rest
  split at rest
  next valid =>
    cases rest
    exact ⟨known, valid, rfl⟩
  · cases rest

theorem InvocationFields.decode_toJson {fields : InvocationFields Facts Digest}
    (checked : fields.checked = true) :
    fields.toJson.decode = some { fields with
      schemaVersion := if fields.schemaVersion = .v2 then .v2 else .v1
      digestGeneration := .v1 } := by
  have valid : InvocationFields.checked { fields with
      schemaVersion := if fields.schemaVersion = .v2 then .v2 else .v1
      digestGeneration := .v1 } = true := checked
  simp only [InvocationPayload.decode, InvocationPayload.modelEvidencePolicy,
    InvocationFields.toJson, Option.bind_some, Option.getD_some]
  exact if_pos valid

variable (canonicalSha256 : InvocationPayload Facts Digest → Digest)

-- `model_invocation_payload_for_write`; `none` is the refusal of a record changed after loading.
def modelInvocationPayloadForWrite (invocation : DurableModelInvocation Facts Digest) :
    Option (InvocationPayload Facts Digest) :=
  match invocation.source with
  | none => some invocation.fields.toJson
  | some envelope =>
      if canonicalSha256 invocation.fields.toJson = envelope.canonical then some envelope.payload
      else none

def decodeModelInvocation (payload : InvocationPayload Facts Digest) :
    Option (DurableModelInvocation Facts Digest) :=
  match decoded : payload.decode with
  | none => none
  | some fields => some {
      fields
      checked := (InvocationPayload.decode_some decoded).2.1
      source := some ⟨payload, canonicalSha256 fields.toJson⟩
      loaded := by
        intro envelope same
        cases same
        exact decoded }

theorem modelInvocationPayloadForWrite_spec {invocation : DurableModelInvocation Facts Digest}
    {payload : InvocationPayload Facts Digest}
    (written : modelInvocationPayloadForWrite canonicalSha256 invocation = some payload) :
    ∃ fields, payload.decode = some fields ∧
      fields.toJson = invocation.fields.toJson := by
  unfold modelInvocationPayloadForWrite at written
  split at written
  · cases written
    refine ⟨_, InvocationFields.decode_toJson invocation.checked, ?_⟩
    by_cases current : invocation.fields.schemaVersion = .v2 <;>
      simp [InvocationFields.toJson, current]
  next envelope loaded =>
    split at written
    · cases written
      exact ⟨invocation.fields, invocation.loaded envelope loaded, rfl⟩
    · cases written

end

end MonoidKernel
