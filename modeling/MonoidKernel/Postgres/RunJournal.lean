import MonoidKernel.Core.Events
import MonoidKernel.Core.Outcome
import MonoidKernel.Library.NumberedLog
import MonoidKernel.Postgres.Commit

set_option autoImplicit false

namespace MonoidKernel

structure RunCheckpoint (Content : Type) where
  runId : OpaqueId
  seq : Nat
  content : Content
deriving DecidableEq

-- The parts of the journal that only transport opaque data: hashing, the JSON normalizer, the
-- timestamp parser and the checkpoint encoder.
structure JournalCodec (Data Content Digest : Type) where
  sha256 : Bytes → Digest
  eventDigest : AgentEvent Data → Finset Digest → Digest
  terminalDigest : TerminalPayload → Finset Digest → Digest
  checkpointDigest : RunCheckpoint Content → Finset Digest → Digest
  normalizeData : Data → Option Data
  parseTimestamp : String → Option Nat
  checkpointContentForWrite : Content → Option Content
  checkpointBlobReferences : Content → List Digest
  maxBlobBytes : Nat

def CollisionFree {Payload Digest : Type}
    (recordDigest : Payload → Finset Digest → Digest) : Prop :=
  ∀ a b blobs others, recordDigest a blobs = recordDigest b others → a = b ∧ blobs = others

structure EventTyped where
  runId : OpaqueId
  seq : Nat
  eventId : String
  schemaVersion : String
  eventType : String
  level : String
deriving DecidableEq

structure TerminalTyped where
  runId : OpaqueId
  kind : TerminalOutcomeKind
  retryEligibility : RetryEligibility
  checkpointSeq : Option Nat
  errorCode : String
deriving DecidableEq

structure CheckpointTyped where
  runId : OpaqueId
  seq : Nat
deriving DecidableEq

def eventTyped {Data : Type} (event : AgentEvent Data) : EventTyped :=
  ⟨event.runId, event.seq, event.eventId, event.schemaVersion, event.eventType, event.level⟩

def terminalTyped (payload : TerminalPayload) : TerminalTyped :=
  ⟨payload.runId, payload.kind, payload.retryEligibility, payload.checkpointSeq, payload.errorCode⟩

def checkpointTyped {Content : Type} (checkpoint : RunCheckpoint Content) : CheckpointTyped :=
  ⟨checkpoint.runId, checkpoint.seq⟩

structure EventRow (Data Digest : Type) where
  stored : StoredRow (AgentEvent Data) EventTyped Digest
  timestamp : Option Nat
deriving DecidableEq

structure Journal (Data Content Digest : Type) where
  events : List (EventRow Data Digest)
  eventHead : Option Nat
  terminal : Option (StoredRow TerminalPayload TerminalTyped Digest)
  checkpoints : List (StoredRow (RunCheckpoint Content) CheckpointTyped Digest)
  checkpointHead : Option Nat
deriving DecidableEq

def Journal.empty (Data Content Digest : Type) : Journal Data Content Digest :=
  ⟨[], none, none, [], none⟩

def advanceHead (head : Option Nat) (sequence : Nat) : Option Nat :=
  match head with
  | none => some sequence
  | some current => if current < sequence then some sequence else some current

namespace RunJournal

variable {Data Content Digest : Type} [DecidableEq Digest]
variable (codec : JournalCodec Data Content Digest)

def eventPayload (event : AgentEvent Data) : Option (AgentEvent Data) :=
  if event.schemaVersion = eventSchemaVersion ∧ isSafeOpaqueId event.eventId = true ∧
      1 ≤ event.seq ∧ event.seq ≤ postgresBigintMax ∧
      (codec.parseTimestamp event.timestamp).isSome = true ∧
      event.eventType ∈ agentEventTypes ∧ event.level ∈ agentEventLevels ∧
      event.turnId.all isSafeOpaqueId = true ∧ event.parentId.all isSafeOpaqueId = true then
    (codec.normalizeData event.data).map fun data => { event with data }
  else none

def eventCoordinate (journal : Journal Data Content Digest) (payload : AgentEvent Data)
    (contentDigest : Digest) : Option (CommitResult Digest) :=
  match journal.events.find? fun row => row.stored.typed.seq == payload.seq with
  | none => none
  | some row =>
      if row.timestamp ≠ codec.parseTimestamp payload.timestamp then
        some ⟨.conflict, some payload.seq, some contentDigest, some row.stored.contentDigest⟩
      else
        storedResult codec.eventDigest eventTyped (some row.stored) contentDigest
          (some payload.seq) (eventTyped payload)

def eventIdWinner (journal : Journal Data Content Digest) (event : AgentEvent Data)
    (contentDigest : Digest) : Option (CommitResult Digest) :=
  (journal.events.find? fun row => row.stored.typed.eventId == event.eventId).map fun row =>
    ⟨.conflict, some event.seq, some contentDigest, some row.stored.contentDigest⟩

def commitEventLocked (journal : Journal Data Content Digest) (event : AgentEvent Data) :
    Journal Data Content Digest × CommitResult Digest :=
  match eventPayload codec event with
  | none => (journal, { status := .conflict, sequence := some event.seq })
  | some payload =>
      let contentDigest := codec.eventDigest payload ∅
      match eventCoordinate codec journal payload contentDigest with
      | some stored => (journal, stored)
      | none =>
          match eventIdWinner journal event contentDigest with
          | some duplicate => (journal, duplicate)
          | none =>
              if journal.terminal.isSome then
                (journal, ⟨.conflict, some event.seq, some contentDigest, none⟩)
              else
                let row : EventRow Data Digest :=
                  ⟨⟨payload, ∅, contentDigest, eventTyped payload⟩,
                    codec.parseTimestamp event.timestamp⟩
                ({ journal with
                    events := journal.events ++ [row]
                    eventHead := advanceHead journal.eventHead event.seq },
                  ⟨.committed, some event.seq, some contentDigest, none⟩)

-- The read that follows an ambiguous error. `none` re-raises that error.
def reconcileEvent (journal : Journal Data Content Digest) (event : AgentEvent Data) :
    Option (CommitResult Digest) :=
  match eventPayload codec event with
  | none => none
  | some payload =>
      let contentDigest := codec.eventDigest payload ∅
      match eventCoordinate codec journal payload contentDigest with
      | some stored => some stored
      | none =>
          if journal.terminal.isSome then
            some ⟨.conflict, some event.seq, some contentDigest, none⟩
          else none

def terminalCoordinate (journal : Journal Data Content Digest) (payload : TerminalPayload)
    (contentDigest : Digest) : Option (CommitResult Digest) :=
  storedResult codec.terminalDigest terminalTyped journal.terminal contentDigest none
    (terminalTyped payload)

def commitTerminalLocked (journal : Journal Data Content Digest) (outcome : TerminalOutcome) :
    Journal Data Content Digest × CommitResult Digest :=
  let payload := outcome.payload
  if payload.checkpointSeq.any fun sequence => decide (postgresBigintMax < sequence) then
    (journal, { status := .conflict })
  else
    let contentDigest := codec.terminalDigest payload ∅
    match terminalCoordinate codec journal payload contentDigest with
    | some stored => (journal, stored)
    | none =>
        ({ journal with
            terminal := some ⟨payload, ∅, contentDigest, terminalTyped payload⟩ },
          ⟨.committed, none, some contentDigest, none⟩)

def reconcileTerminal (journal : Journal Data Content Digest) (outcome : TerminalOutcome) :
    Option (CommitResult Digest) :=
  terminalCoordinate codec journal outcome.payload (codec.terminalDigest outcome.payload ∅)

def checkpointCoordinate (journal : Journal Data Content Digest) (runId : OpaqueId)
    (sequence : Nat) (contentDigest : Digest) : Option (CommitResult Digest) :=
  storedResult codec.checkpointDigest checkpointTyped
    (journal.checkpoints.find? fun row => row.typed.seq == sequence) contentDigest (some sequence)
    ⟨runId, sequence⟩

def checkpointPayloadForWrite (checkpoint : RunCheckpoint Content) :
    Option (RunCheckpoint Content) :=
  (codec.checkpointContentForWrite checkpoint.content).map fun content =>
  { checkpoint with content }

def commitCheckpointLocked (journal : Journal Data Content Digest) (store : BlobStore Digest)
    (checkpoint : RunCheckpoint Content) (blobs : List (Digest × Bytes)) :
    Journal Data Content Digest × BlobStore Digest × CommitResult Digest :=
  let refused : CommitResult Digest := { status := .conflict, sequence := some checkpoint.seq }
  if postgresBigintMax < checkpoint.seq then (journal, store, refused)
  else if BlobStore.validatedBlobs codec.sha256 codec.maxBlobBytes blobs = false then
    (journal, store, refused)
  else
    match checkpointPayloadForWrite codec checkpoint with
    | none => (journal, store, refused)
    | some payload =>
        if BlobStore.submittedBlobsPreserveBacking store blobs = false then
          (journal, store, refused)
        else if BlobStore.referencesResolve codec.sha256 store checkpoint.runId
            (codec.checkpointBlobReferences checkpoint.content) blobs = false then
          (journal, store, refused)
        else
          let projection := BlobStore.blobProjection blobs
          let contentDigest := codec.checkpointDigest payload projection
          match checkpointCoordinate codec journal checkpoint.runId checkpoint.seq
            contentDigest with
          | some stored => (journal, store, stored)
          | none =>
              match BlobStore.persistBlobs store checkpoint.runId blobs with
              -- `_BlobRaceConflict` leaves before the content digest is assigned.
              | none => (journal, store, refused)
              | some persisted =>
                  ({ journal with
                      checkpoints := journal.checkpoints ++
                        [⟨payload, projection, contentDigest, checkpointTyped payload⟩]
                      checkpointHead := advanceHead journal.checkpointHead checkpoint.seq },
                    persisted, ⟨.committed, some checkpoint.seq, some contentDigest, none⟩)

def reconcileCheckpoint (journal : Journal Data Content Digest) (checkpoint : RunCheckpoint Content)
    (blobs : List (Digest × Bytes)) : Option (CommitResult Digest) :=
  match checkpointPayloadForWrite codec checkpoint with
  | none => none
  | some payload =>
      checkpointCoordinate codec journal checkpoint.runId checkpoint.seq
        (codec.checkpointDigest payload (BlobStore.blobProjection blobs))

-- `none` is the exception for a head whose record is missing.
def latestEventSequence (journal : Journal Data Content Digest) : Option Nat :=
  match journal.eventHead with
  | none => some 0
  | some sequence =>
      if journal.events.any fun row => row.stored.typed.seq == sequence then some sequence else none

end RunJournal

end MonoidKernel
