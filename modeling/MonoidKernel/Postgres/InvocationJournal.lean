import MonoidKernel.Core.ModelInvocation
import MonoidKernel.Library.Machine
import MonoidKernel.Postgres.Commit

set_option autoImplicit false

namespace MonoidKernel

structure InvocationCodec (Facts Digest : Type) where
  sha256 : Bytes → Digest
  canonicalSha256 : InvocationPayload Facts Digest → Digest
  recordDigest : InvocationPayload Facts Digest → Finset Digest → Digest
  maxBlobBytes : Nat

structure InvocationTyped (Digest : Type) where
  runId : OpaqueId
  logicalCallId : OpaqueId
  revision : Nat
  schemaVersion : InvocationSchema
  dispatchId : OpaqueId
  dispatchAttempt : Nat
  dispatchState : DispatchState
  idempotencyKey : String
  requestDigest : String
  digestGeneration : DigestGeneration
  evidencePolicy : ModelEvidencePolicy
  resultRef : ResultRef Digest
  failureCode : String
deriving DecidableEq

structure EvidenceTyped where
  runId : OpaqueId
  logicalCallId : OpaqueId
  revision : Nat
  schemaVersion : InvocationSchema
  evidencePolicy : ModelEvidencePolicy
deriving DecidableEq

section

variable {Facts Digest : Type}

-- `_invocation_typed_payload`: the defaults of a retained reader, projected onto the columns.
def invocationTypedPayload (payload : InvocationPayload Facts Digest) : InvocationTyped Digest where
  runId := payload.runId
  logicalCallId := payload.logicalCallId
  revision := payload.revision
  schemaVersion := payload.schemaVersion
  dispatchId := payload.dispatchId
  dispatchAttempt := payload.dispatchAttempt
  dispatchState := payload.dispatchState
  idempotencyKey := payload.idempotencyKey
  requestDigest := payload.requestDigest
  digestGeneration := payload.digestGeneration
  evidencePolicy := payload.evidencePolicy.getD
    (if payload.requiresEvidence.getD false then .required else .passive)
  resultRef := payload.resultRef.getD .empty
  failureCode := payload.failureCode.getD ""

def evidenceTypedPayload (payload : InvocationPayload Facts Digest) : EvidenceTyped :=
  let typed := invocationTypedPayload payload
  ⟨typed.runId, typed.logicalCallId, typed.revision, typed.schemaVersion, typed.evidencePolicy⟩

def insertedColumns (fields : InvocationFields Facts Digest)
    (payload : InvocationPayload Facts Digest) : InvocationTyped Digest where
  runId := fields.runId
  logicalCallId := fields.logicalCallId
  revision := fields.revision
  schemaVersion := payload.schemaVersion
  dispatchId := fields.dispatchId
  dispatchAttempt := fields.dispatchAttempt
  dispatchState := fields.dispatchState
  idempotencyKey := fields.idempotencyKey
  requestDigest := fields.requestDigest
  digestGeneration := payload.digestGeneration
  evidencePolicy := fields.evidencePolicy
  resultRef := fields.resultRef
  failureCode := fields.failureCode

def insertedEvidenceColumns (fields : InvocationFields Facts Digest)
    (payload : InvocationPayload Facts Digest) : EvidenceTyped :=
  ⟨fields.runId, fields.logicalCallId, fields.revision, payload.schemaVersion,
    fields.evidencePolicy⟩

abbrev InvocationRow (Facts Digest : Type) :=
  StoredRow (InvocationPayload Facts Digest) (InvocationTyped Digest) Digest

abbrev EvidenceRow (Facts Digest : Type) :=
  StoredRow (InvocationPayload Facts Digest) EvidenceTyped Digest

structure CallJournal (Facts Digest : Type) where
  records : List (InvocationRow Facts Digest)
  head : Option Nat
  evidence : List (EvidenceRow Facts Digest)
  outbox : List (EvidenceRow Facts Digest)
deriving DecidableEq

def CallJournal.empty (Facts Digest : Type) : CallJournal Facts Digest := ⟨[], none, [], []⟩

end

namespace InvocationJournal

variable {Facts Digest : Type} [DecidableEq Digest]
variable (codec : InvocationCodec Facts Digest)

def recordAt (journal : CallJournal Facts Digest) (revision : Nat) :
    Option (InvocationRow Facts Digest) :=
  journal.records.find? fun row => row.typed.revision == revision

def invocationCoordinate (journal : CallJournal Facts Digest)
    (invocation : DurableModelInvocation Facts Digest) (payload : InvocationPayload Facts Digest)
    (contentDigest : Digest) : Option (CommitResult Digest) :=
  storedResult codec.recordDigest invocationTypedPayload
    (recordAt journal invocation.fields.revision) contentDigest (some invocation.fields.revision)
    (invocationTypedPayload payload)

def evidenceCoordinate (rows : List (EvidenceRow Facts Digest))
    (invocation : DurableModelInvocation Facts Digest) (payload : InvocationPayload Facts Digest)
    (contentDigest : Digest) : Option (CommitResult Digest) :=
  storedResult codec.recordDigest evidenceTypedPayload
    (rows.find? fun row => row.typed.revision == invocation.fields.revision) contentDigest
    (some invocation.fields.revision) (evidenceTypedPayload payload)

def checkedRecord (row : InvocationRow Facts Digest) : Option (InvocationFields Facts Digest) :=
  if checkedStoredDigest codec.recordDigest row = true ∧
      invocationTypedPayload row.payload = row.typed then row.payload.decode
  else none

def checkedInvocationHead (journal : CallJournal Facts Digest) (runId logicalCallId : OpaqueId) :
    Option (InvocationFields Facts Digest × Digest) :=
  match journal.head.bind (recordAt journal) with
  | none => none
  | some row =>
      match checkedRecord codec row with
      | none => none
      | some fields =>
          if fields.runId = runId ∧ fields.logicalCallId = logicalCallId ∧
              fields.revision = row.typed.revision then
            some (fields, codec.recordDigest row.payload ∅)
          else none

def commitEvidenceLocked (outbox : Bool) (journal : CallJournal Facts Digest)
    (invocation : DurableModelInvocation Facts Digest) :
    CallJournal Facts Digest × CommitResult Digest :=
  let fields := invocation.fields
  if fields.dispatchState ≠ .settled ∨ fields.receipt.isNone = true ∨
      outbox = true ∧ fields.evidencePolicy ≠ .outbox then
    (journal, { status := .conflict, sequence := some fields.revision })
  else
    match modelInvocationPayloadForWrite codec.canonicalSha256 invocation with
    | none => (journal, { status := .conflict, sequence := some fields.revision })
    | some payload =>
        let contentDigest := codec.recordDigest payload ∅
        let authoritative := checkedInvocationHead codec journal fields.runId fields.logicalCallId
        if authoritative.all fun head => decide (head.2 ≠ contentDigest) then
          (journal, ⟨.conflict, some fields.revision, some contentDigest, none⟩)
        else
          match evidenceCoordinate codec (if outbox then journal.outbox else journal.evidence)
              invocation payload contentDigest with
          | some stored => (journal, stored)
          | none =>
              let row : EvidenceRow Facts Digest :=
                ⟨payload, ∅, contentDigest, insertedEvidenceColumns fields payload⟩
              (if outbox then { journal with outbox := journal.outbox ++ [row] }
                else { journal with evidence := journal.evidence ++ [row] },
                ⟨.committed, some fields.revision, some contentDigest, none⟩)

def stableFields (fields : InvocationFields Facts Digest) :
    OpaqueId × String × String × DigestGeneration × Option ModelEvidencePolicy :=
  let payload := fields.toJson
  (payload.logicalCallId, payload.idempotencyKey, payload.requestDigest, payload.digestGeneration,
    payload.evidencePolicy)

def retryableFailure (fields : InvocationFields Facts Digest) : Bool :=
  decide (fields.dispatchState = .settled) && !fields.failureCode.isEmpty &&
    fields.receipt.any fun receipt => decide (receipt.retryable = some true)

def allowedNext : DispatchState → List DispatchState
  | .reserved => [.dispatchStarted]
  | .dispatchStarted => [.settled, .unknown]
  | .settled | .unknown => []

def dispatchIdWasUsed (journal : CallJournal Facts Digest)
    (invocation : DurableModelInvocation Facts Digest) : Bool :=
  journal.records.any fun row =>
    match checkedRecord codec row with
    | none => true
    | some fields => decide (fields.dispatchId = invocation.fields.dispatchId)

def mayFollow (journal : CallJournal Facts Digest) (previous : InvocationFields Facts Digest)
    (invocation : DurableModelInvocation Facts Digest) : Bool :=
  let next := invocation.fields
  decide (next.revision = previous.revision + 1) &&
    decide (stableFields next = stableFields previous) &&
    if previous.dispatchState = .settled ∨ previous.dispatchState = .unknown then
      retryableFailure previous && decide (next.dispatchState = .reserved) &&
        decide (next.dispatchAttempt = previous.dispatchAttempt + 1) &&
        !dispatchIdWasUsed codec journal invocation
    else
      decide (next.dispatchAttempt = previous.dispatchAttempt) &&
        decide (next.dispatchId = previous.dispatchId) &&
        (allowedNext previous.dispatchState).contains next.dispatchState

-- `none` accepts the transition; a winner without a digest is the empty string of the source.
def invocationTransitionWinner (journal : CallJournal Facts Digest)
    (invocation : DurableModelInvocation Facts Digest) : Option (Option Digest) :=
  let next := invocation.fields
  match journal.head with
  | none =>
      if next.revision = 1 ∧ next.dispatchAttempt = 1 ∧ next.dispatchState = .reserved then none
      else some none
  | some revision =>
      match recordAt journal revision with
      | none => some none
      | some row =>
          match checkedRecord codec row with
          | none => some (some row.contentDigest)
          | some previous =>
              if previous.runId = next.runId ∧ previous.logicalCallId = next.logicalCallId ∧
                  previous.revision = row.typed.revision ∧
                  mayFollow codec journal previous invocation = true then none
              else some (some row.contentDigest)

def resultReferences : ResultRef Digest → List Digest
  | .blob sha256 => [sha256]
  | .empty | .address _ _ => []

def commitInvocationLocked (journal : CallJournal Facts Digest) (store : BlobStore Digest)
    (invocation : DurableModelInvocation Facts Digest) (blobs : List (Digest × Bytes))
    (stageEvidence : Bool) : CallJournal Facts Digest × BlobStore Digest × CommitResult Digest :=
  let fields := invocation.fields
  let refused : CommitResult Digest := { status := .conflict, sequence := some fields.revision }
  if postgresBigintMax < fields.revision ∨ postgresBigintMax < fields.dispatchAttempt then
    (journal, store, refused)
  else if stageEvidence = true ∧ ¬ (fields.evidencePolicy = .outbox ∧
        fields.dispatchState = .settled ∧ fields.receipt.isSome = true) ∨
      stageEvidence = false ∧ fields.evidencePolicy = .outbox ∧ fields.dispatchState = .settled then
    (journal, store, refused)
  else if BlobStore.validatedBlobs codec.sha256 codec.maxBlobBytes blobs = false then
    (journal, store, refused)
  else
    match modelInvocationPayloadForWrite codec.canonicalSha256 invocation with
    | none => (journal, store, refused)
    | some payload =>
        if BlobStore.submittedBlobsPreserveBacking store blobs = false then
          (journal, store, refused)
        else if BlobStore.referencesResolve codec.sha256 store fields.runId
            (resultReferences fields.resultRef) blobs = false then
          (journal, store, refused)
        else
          let projection := BlobStore.blobProjection blobs
          let contentDigest := codec.recordDigest payload projection
          let conflict : CommitResult Digest :=
            ⟨.conflict, some fields.revision, some contentDigest, none⟩
          match invocationCoordinate codec journal invocation payload contentDigest with
          | some stored =>
              let staged := evidenceCoordinate codec journal.outbox invocation payload
                (codec.recordDigest payload ∅)
              if stageEvidence = true ∧ stored.status = .alreadyCommitted ∧
                  staged.all (fun result => decide (result.status ≠ .alreadyCommitted)) = true then
                (journal, store, conflict)
              else (journal, store, stored)
          | none =>
              match invocationTransitionWinner codec journal invocation with
              | some winner => (journal, store, { conflict with winnerDigest := winner })
              | none =>
                  match BlobStore.persistBlobs store fields.runId blobs with
                  | none => (journal, store, refused)
                  | some persisted =>
                      let inserted := { journal with
                        records := journal.records ++
                          [⟨payload, projection, contentDigest, insertedColumns fields payload⟩]
                        head := some fields.revision }
                      let staged :=
                        if stageEvidence then commitEvidenceLocked codec true inserted invocation
                        else (inserted, { conflict with status := .committed })
                      -- `_EvidenceStageConflict` rolls the whole transaction back.
                      if staged.2.status = .committed then
                        (staged.1, persisted, { conflict with status := .committed })
                      else (journal, store, refused)

-- The read that follows an ambiguous error; `none` re-raises that error.
def reconcileInvocation (journal : CallJournal Facts Digest)
    (invocation : DurableModelInvocation Facts Digest) (contentDigest : Digest)
    (stageEvidence : Bool) : Option (CommitResult Digest) :=
  match modelInvocationPayloadForWrite codec.canonicalSha256 invocation with
  | none => none
  | some payload =>
      match invocationCoordinate codec journal invocation payload contentDigest with
      | none => none
      | some result =>
          let staged := evidenceCoordinate codec journal.outbox invocation payload
            (codec.recordDigest payload ∅)
          if stageEvidence = true ∧ result.status = .alreadyCommitted ∧
              staged.all (fun found => decide (found.status ≠ .alreadyCommitted)) = true then
            some ⟨.conflict, some invocation.fields.revision, some contentDigest, none⟩
          else some result

def reconcileEvidence (journal : CallJournal Facts Digest)
    (invocation : DurableModelInvocation Facts Digest) : Option (CommitResult Digest) :=
  let fields := invocation.fields
  match modelInvocationPayloadForWrite codec.canonicalSha256 invocation with
  | none => none
  | some payload =>
      let contentDigest := codec.recordDigest payload ∅
      let authoritative := checkedInvocationHead codec journal fields.runId fields.logicalCallId
      if authoritative.all fun head => decide (head.2 ≠ contentDigest) then
        some ⟨.conflict, some fields.revision, some contentDigest, none⟩
      else evidenceCoordinate codec journal.evidence invocation payload contentDigest

inductive LoadedHead (Facts Digest : Type) [DecidableEq Digest] where
  | missing
  | unreadable
  | loaded (invocation : DurableModelInvocation Facts Digest)

def loadInvocation (journal : CallJournal Facts Digest) (runId logicalCallId : OpaqueId) :
    LoadedHead Facts Digest :=
  match journal.head with
  | none => .missing
  | some revision =>
      match recordAt journal revision with
      | none => .unreadable
      | some row =>
          if checkedStoredDigest codec.recordDigest row = true ∧
              invocationTypedPayload row.payload = row.typed ∧ row.typed.runId = runId ∧
              row.typed.logicalCallId = logicalCallId then
            match decodeModelInvocation codec.canonicalSha256 row.payload with
            | none => .unreadable
            | some invocation =>
                if invocation.fields.runId = runId ∧
                    invocation.fields.logicalCallId = logicalCallId ∧
                    invocation.fields.revision = revision then .loaded invocation
                else .unreadable
          else .unreadable

structure State (Facts Digest : Type) where
  authority : Authority.State
  calls : OpaqueId → OpaqueId → CallJournal Facts Digest
  blobs : BlobStore Digest

-- `wait` is how far the database clock moves before the transaction holds the authority row.
inductive Label (Facts Digest : Type) [DecidableEq Digest] where
  | authority (label : Authority.Label)
  | commitInvocation (writerToken : WriterToken) (invocation : DurableModelInvocation Facts Digest)
      (blobs : List (Digest × Bytes)) (stageEvidence : Bool) (wait : Nat) (fault : Fault)
  | reconcileInvocation (writerToken : WriterToken)
      (invocation : DurableModelInvocation Facts Digest) (contentDigest : Digest)
      (stageEvidence : Bool) (wait : Nat)
  | commitModelEvidence (writerToken : WriterToken)
      (invocation : DurableModelInvocation Facts Digest) (wait : Nat) (fault : Fault)

inductive Answer (Digest : Type) where
  | authority (answer : Authority.Answer)
  | replied (reply : Reply Digest)
  | reread (result : Option (CommitResult Digest))
deriving DecidableEq

def State.wait (s : State Facts Digest) (ticks : Nat) : State Facts Digest :=
  { s with authority := { s.authority with clock := s.authority.clock + ticks } }

def State.setCall (s : State Facts Digest) (runId logicalCallId : OpaqueId)
    (journal : CallJournal Facts Digest) : State Facts Digest :=
  let calls := Function.update (s.calls runId) logicalCallId journal
  { s with calls := Function.update s.calls runId calls }

def State.current (s : State Facts Digest) (writerToken : WriterToken) : Bool :=
  currentWriterLocked s.authority.table writerToken s.authority.clock

def commitInvocation (s : State Facts Digest) (writerToken : WriterToken)
    (invocation : DurableModelInvocation Facts Digest) (blobs : List (Digest × Bytes))
    (stageEvidence : Bool) (fault : Fault) : State Facts Digest × Reply Digest :=
  let fields := invocation.fields
  if fields.runId ≠ writerToken.runId then (s, .answered { status := .fenced })
  else if s.current writerToken then
    let result := commitInvocationLocked codec (s.calls fields.runId fields.logicalCallId) s.blobs
      invocation blobs stageEvidence
    (if fault.keeps then
        { s.setCall fields.runId fields.logicalCallId result.1 with blobs := result.2.1 }
      else s, .under fault result.2.2)
  else (s, .under fault { status := .fenced })

def commitModelEvidence (s : State Facts Digest) (writerToken : WriterToken)
    (invocation : DurableModelInvocation Facts Digest) (fault : Fault) :
    State Facts Digest × Reply Digest :=
  let fields := invocation.fields
  let fenced : CommitResult Digest := { status := .fenced, sequence := some fields.revision }
  if fields.runId ≠ writerToken.runId then (s, .answered fenced)
  else if s.current writerToken then
    let result := commitEvidenceLocked codec false (s.calls fields.runId fields.logicalCallId)
      invocation
    (if fault.keeps then s.setCall fields.runId fields.logicalCallId result.1 else s,
      .under fault result.2)
  else (s, .under fault fenced)

def step (s : State Facts Digest) : Label Facts Digest → State Facts Digest × Answer Digest
  | .authority label =>
      let moved := Authority.step s.authority label
      ({ s with authority := moved.1 }, .authority moved.2)
  | .commitInvocation writerToken invocation blobs stageEvidence wait fault =>
      let committed := commitInvocation codec (s.wait wait) writerToken invocation blobs
        stageEvidence fault
      (committed.1, .replied committed.2)
  | .reconcileInvocation writerToken invocation contentDigest stageEvidence wait =>
      let waited := s.wait wait
      (waited, .reread (if waited.current writerToken then
          reconcileInvocation codec
            (s.calls invocation.fields.runId invocation.fields.logicalCallId) invocation
            contentDigest stageEvidence
        else some { status := .fenced }))
  | .commitModelEvidence writerToken invocation wait fault =>
      let committed := commitModelEvidence codec (s.wait wait) writerToken invocation fault
      (committed.1, .replied committed.2)

def machine : Library.Machine (State Facts Digest) (Label Facts Digest) (Answer Digest) :=
  ⟨⟨Authority.machine.init, fun _ _ => .empty Facts Digest, ⟨fun _ => none, fun _ _ => false⟩⟩,
    step codec⟩

end InvocationJournal

end MonoidKernel
