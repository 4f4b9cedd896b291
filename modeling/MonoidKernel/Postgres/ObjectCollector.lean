import Mathlib.Data.List.Sort
import Mathlib.Data.String.Basic
import MonoidKernel.Core.ModelInvocation
import MonoidKernel.Library.Program
import MonoidKernel.Postgres.Commit
import MonoidKernel.Postgres.ObjectBlobs

set_option autoImplicit false

namespace MonoidKernel.ObjectCollector

open Library

inductive Coordinate where
  | checkpoint (sequence : Nat)
  | invocation (logicalCallId : OpaqueId) (revision : Nat)
deriving DecidableEq

-- What `commit_checkpoint` and `commit_invocation` are given. `encodes` is whether the record
-- passes the checks that only look at the record itself.
structure BlobCommit where
  runId : OpaqueId
  coordinate : Coordinate
  encodes : Bool
  contentDigest : String
  references : List String
  blobs : List (String × Bytes)
deriving DecidableEq

def BlobCommit.keys (commit : BlobCommit) : List String := commit.blobs.map Prod.fst

structure ObjectInventoryEntry where
  sha256 : String
  sizeBytes : Nat
  locator : String
  lastModified : Int
  deleteToken : String
deriving DecidableEq

structure ObjectGcCandidate extends ObjectInventoryEntry where
  generation : Nat
deriving DecidableEq

structure ObjectGcPlan where
  planId : String
  createdAt : Int
  graceBefore : Int
  candidates : List ObjectGcCandidate
  nextToken : Option String
deriving DecidableEq

inductive DeleteStatus where
  | deleted | alreadyMissing | preconditionFailed
deriving DecidableEq

inductive GcStatus where
  | deleted | alreadyMissing | skippedAssociated | skippedGeneration | preconditionFailed
deriving DecidableEq

def DeleteStatus.toGc : DeleteStatus → GcStatus
  | .deleted => .deleted
  | .alreadyMissing => .alreadyMissing
  | .preconditionFailed => .preconditionFailed

structure ObjectGcReceipt where
  planId : String
  sha256 : String
  candidateGeneration : Nat
  observedGeneration : Nat
  status : GcStatus
  recordedAt : Int
deriving DecidableEq

structure Version where
  deleteToken : String
  lastModified : Int
deriving DecidableEq

structure Hosted where
  objects : Objects String
  -- Of the physical object at a key, where there is one.
  versions : String → Version
  inline : BlobStore String
  receipts : List ObjectGcReceipt
  -- The rows of `checkpoint_record` and `invocation_record`, as the calls that wrote them.
  committed : List BlobCommit
  locks : List (String × Nat)
  crashed : List Nat
  submitted : List Bytes

namespace Hosted

def empty : Hosted where
  objects := Objects.empty String
  versions := fun _ => ⟨"", 0⟩
  inline := ⟨fun _ => none, fun _ _ => false⟩
  receipts := []
  committed := []
  locks := []
  crashed := []
  submitted := []

def release (s : Hosted) (id : Nat) : Hosted :=
  { s with locks := s.locks.filter fun lock => decide (lock.2 ≠ id) }

def crash (s : Hosted) (id : Nat) : Hosted :=
  { s.release id with crashed := id :: s.crashed }

def free (s : Hosted) (id : Nat) (sha256 : String) : Bool :=
  s.locks.all fun lock => decide (lock.1 ≠ sha256 ∨ lock.2 = id)

def associatedObject (s : Hosted) (runId : OpaqueId) (sha256 : String) : Option ObjectRow :=
  if (runId, sha256) ∈ s.objects.associated then s.objects.recorded sha256 else none

def inlineAssociated (s : Hosted) (runId : OpaqueId) (sha256 : String) : Option Bytes :=
  if s.inline.associated runId sha256 then s.inline.content sha256 else none

def anyAssociation (s : Hosted) (sha256 : String) : Bool :=
  s.objects.associated.any fun association => decide (association.2 = sha256)

def storedReceipt (s : Hosted) (planId sha256 : String) : Option ObjectGcReceipt :=
  s.receipts.find? fun receipt => decide (receipt.planId = planId ∧ receipt.sha256 = sha256)

def recordAt (s : Hosted) (commit : BlobCommit) : Option BlobCommit :=
  s.committed.find? fun other =>
    decide (other.runId = commit.runId ∧ other.coordinate = commit.coordinate)

def inventoryEntry (s : Hosted) (sha256 : String) : Option ObjectInventoryEntry :=
  (s.objects.physical sha256).map fun object =>
    ⟨sha256, object.bytes.length, object.locator, (s.versions sha256).lastModified,
      (s.versions sha256).deleteToken⟩

end Hosted

inductive Writes where
  | nothing
  | blobs (commit : BlobCommit) (stats : List (BlobStat String))
  | inline (commit : BlobCommit)
  | receipt (receipt : ObjectGcReceipt)
  | deletion (candidate : ObjectGcCandidate) (metadata : Option ObjectRow)
      (receipt : ObjectGcReceipt)

-- `raceConflict` is the exception for inline bytes that disagree with stored ones, `violated` any
-- other exception that rolls the transaction back.
inductive CommitAnswer where
  | applied | raceConflict | violated
deriving DecidableEq, Inhabited

def persistObject (objects : Objects String) (runId : OpaqueId) (stat : BlobStat String) :
    Option (Objects String) :=
  match objects.recorded stat.sha256 with
  | none =>
    some ((objects.setRow stat.sha256 ⟨stat.sizeBytes, stat.locator, 1, true⟩).associate runId
      stat.sha256)
  | some row =>
    if row.available = false then
      some ((objects.setRow stat.sha256
        ⟨stat.sizeBytes, stat.locator, row.generation + 1, true⟩).associate runId stat.sha256)
    else if row.sizeBytes = stat.sizeBytes ∧ row.locator = stat.locator then
      some (objects.associate runId stat.sha256)
    else none

def persistObjects (objects : Objects String) (runId : OpaqueId) :
    List (BlobStat String) → Option (Objects String)
  | [] => some objects
  | stat :: rest =>
    (persistObject objects runId stat).bind fun next => persistObjects next runId rest

def insertRecord (s : Hosted) (commit : BlobCommit) : Except CommitAnswer Hosted :=
  if (s.recordAt commit).isSome then .error .violated
  else .ok { s with committed := s.committed ++ [commit] }

def insertReceipt (s : Hosted) (receipt : ObjectGcReceipt) : Except CommitAnswer Hosted :=
  if (s.storedReceipt receipt.planId receipt.sha256).isSome then .error .violated
  else .ok { s with receipts := s.receipts ++ [receipt] }

def markDeleted (objects : Objects String) (candidate : ObjectGcCandidate)
    (metadata : Option ObjectRow) : Option (Objects String) :=
  match metadata, objects.recorded candidate.sha256 with
  | none, none =>
    some (objects.setRow candidate.sha256 ⟨candidate.sizeBytes, candidate.locator, 1, false⟩)
  | none, some _ => none
  | some _, none => some objects
  | some _, some row =>
    some (objects.setRow candidate.sha256
      { row with generation := row.generation + 1, available := false })

def Writes.apply (s : Hosted) : Writes → Except CommitAnswer Hosted
  | .nothing => .ok s
  | .blobs commit stats =>
    match persistObjects s.objects commit.runId stats with
    | none => .error .violated
    | some objects => insertRecord { s with objects } commit
  | .inline commit =>
    match s.inline.persistBlobs commit.runId commit.blobs with
    | none => .error .raceConflict
    | some stored =>
      let submitted := s.submitted ++ commit.blobs.map Prod.snd
      insertRecord { s with inline := stored, submitted } commit
  | .receipt recorded => insertReceipt s recorded
  | .deletion candidate metadata recorded =>
    match markDeleted s.objects candidate metadata with
    | none => .error .violated
    | some objects => insertReceipt { s with objects } recorded

inductive Request where
  | putIfAbsent (sha256 : String) (data : Bytes)
  | stat (sha256 : String)
  | getChecked (sha256 : String)
  | deleteIfMatch (sha256 deleteToken : String)
  | inventoryPage (continuationToken : Option String) (limit : Nat)
  | clock
  | currentWriter
  | lockDigest (sha256 : String)
  | objectMetadata (sha256 : String)
  | hasObjectAssociation (runId : OpaqueId) (sha256 : String)
  | associatedObject (runId : OpaqueId) (sha256 : String)
  | anyAssociation (sha256 : String)
  | candidateRow (sha256 : String)
  | inlineContent (sha256 : String)
  | inlineAssociated (runId : OpaqueId) (sha256 : String)
  | recordCoordinate (commit : BlobCommit)
  | storedReceipt (planId sha256 : String)
  | commit (writes : Writes)
  | rollback

@[reducible] def Answer : Request → Type
  -- `none` is `BlobTooLarge`.
  | .putIfAbsent _ _ | .stat _ => Option (BlobStat String)
  | .getChecked _ | .inlineContent _ | .inlineAssociated _ _ => Option Bytes
  | .deleteIfMatch _ _ => DeleteStatus
  | .inventoryPage _ _ => List ObjectInventoryEntry × Option String
  | .clock => Int
  -- `false` from a lock is its timeout.
  | .currentWriter | .lockDigest _ | .hasObjectAssociation _ _ | .anyAssociation _ => Bool
  | .objectMetadata _ | .associatedObject _ _ => Option ObjectRow
  | .candidateRow _ => Option (ObjectRow × Bool)
  | .recordCoordinate _ => Option CommitStatus
  | .storedReceipt _ _ => Option ObjectGcReceipt
  | .commit _ => CommitAnswer
  | .rollback => Unit

structure Choice where
  tooLarge : Bool := false
  locator : String := "object"
  deleteToken : String := "token"
  now : Int := 0
  current : Bool := true
  -- The transition rules of an invocation and its evidence row refuse the record.
  refused : Bool := false
  -- A conditional delete that does not match finds the version it was asked for gone.
  versionGone : Bool := false
  listed : List String := []
  nextToken : Option String := none

def unanswered : (request : Request) → Answer request
  | .putIfAbsent _ _ | .stat _ | .getChecked _ | .inlineContent _ | .inlineAssociated _ _
  | .objectMetadata _ | .associatedObject _ _ | .candidateRow _ | .recordCoordinate _
  | .storedReceipt _ _ => none
  | .deleteIfMatch _ _ => .preconditionFailed
  | .inventoryPage _ _ => ([], none)
  | .clock => 0
  | .currentWriter | .lockDigest _ | .hasObjectAssociation _ _ | .anyAssociation _ => false
  | .commit _ => .violated
  | .rollback => ()

variable (sha256 : Bytes → String)

def putIfAbsent (s : Hosted) (key : String) (data : Bytes) (choice : Choice) :
    Hosted × Option (BlobStat String) :=
  if choice.tooLarge then (s, none)
  else
    let objects := s.objects.putIfAbsent key data choice.locator
    let versions := if (s.objects.physical key).isSome then s.versions
      else Function.update s.versions key ⟨choice.deleteToken, choice.now⟩
    ({ s with objects, versions, submitted := s.submitted ++ [data] }, objects.stat key)

def deleteIfMatch (s : Hosted) (key deleteToken : String) (choice : Choice) :
    Hosted × DeleteStatus :=
  match s.objects.physical key with
  | none => (s, .alreadyMissing)
  | some _ =>
    if (s.versions key).deleteToken = deleteToken then
      ({ s with objects :=
          { s.objects with physical := Function.update s.objects.physical key none } }, .deleted)
    else (s, if choice.versionGone then .alreadyMissing else .preconditionFailed)

def commitWrites (s : Hosted) (id : Nat) (writes : Writes) : Hosted × CommitAnswer :=
  match writes.apply s with
  | .ok written => (written.release id, .applied)
  | .error answer => (s.release id, answer)

def serveRunning (id : Nat) (s : Hosted) (choice : Choice) :
    (request : Request) → Hosted × Answer request
  | .putIfAbsent key data => putIfAbsent s key data choice
  | .stat key => (s, s.objects.stat key)
  | .getChecked key => (s, s.objects.getChecked sha256 key)
  | .deleteIfMatch key deleteToken => deleteIfMatch s key deleteToken choice
  | .inventoryPage _ limit =>
    (s, (choice.listed.filterMap s.inventoryEntry).take limit, choice.nextToken)
  | .clock => (s, choice.now)
  | .currentWriter => (s, choice.current)
  | .lockDigest key => if s.free id key then ({ s with locks := (key, id) :: s.locks }, true)
    else (s, false)
  | .objectMetadata key => (s, s.objects.recorded key)
  | .hasObjectAssociation runId key => (s, decide ((runId, key) ∈ s.objects.associated))
  | .associatedObject runId key => (s, s.associatedObject runId key)
  | .anyAssociation key => (s, s.anyAssociation key)
  | .candidateRow key => (s, (s.objects.recorded key).map fun row => (row, s.anyAssociation key))
  | .inlineContent key => (s, s.inline.content key)
  | .inlineAssociated runId key => (s, s.inlineAssociated runId key)
  | .recordCoordinate commit => (s, match s.recordAt commit with
    | some stored =>
      if stored.contentDigest = commit.contentDigest then some .alreadyCommitted else some .conflict
    | none => if choice.refused then some .conflict else none)
  | .storedReceipt planId key => (s, s.storedReceipt planId key)
  | .commit writes => commitWrites s id writes
  | .rollback => (s.release id, ())

def serve (id : Nat) (s : Hosted) (request : Request) (choice : Choice) :
    Hosted × Answer request :=
  if id ∈ s.crashed then (s, unanswered request) else serveRunning sha256 id s choice request

inductive Raised where
  | blobCorrupt | blobNotFound | associationCorrupt | unknownKey | lockTimeout | database
  | invalidGracePeriod | invalidPlan
deriving DecidableEq

abbrev Act (A : Type) := Action Request Answer Raised A

def ask (request : Request) : Act (Answer request) := Action.ask request

def fail {A : Type} (error : Raised) : Act A := Action.raise error

def transaction {A : Type} (body : Act (A × Writes)) : Act (A × CommitAnswer) :=
  Action.handle
    (do
      let (value, writes) ← body
      let answer ← ask (.commit writes)
      if answer = .violated then fail .database else pure (value, answer))
    (fun error => do
      let _ ← ask .rollback
      fail error)

def lockDigest (key : String) : Act Unit := do
  if ← ask (.lockDigest key) then pure () else fail .lockTimeout

def lockDigests : List String → Act Unit
  | [] => pure ()
  | key :: rest => do
    lockDigest key
    lockDigests rest

section Sink

variable (maxByteaBlobBytes : Nat)

inductive Prepared where
  | objects (stats : List (BlobStat String))
  | inline

def validateExternalBlobs (blobs : List (String × Bytes)) : Bool :=
  decide ((blobs.map Prod.fst).Nodup) && blobs.all fun (key, value) =>
    isRecordedDigest key && decide (sha256 value = key)

def sortedBlobs (blobs : List (String × Bytes)) : List (String × Bytes) :=
  blobs.insertionSort fun first second => first.1 ≤ second.1

-- `none` is `BlobTooLarge`.
def putBlobs : List (String × Bytes) → Act (Option (List (BlobStat String)))
  | [] => pure (some [])
  | (key, data) :: rest => do
    match ← ask (.putIfAbsent key data) with
    | none => pure none
    | some stat =>
      if stat.sha256 = key ∧ stat.sizeBytes = data.length ∧ stat.locator ≠ "" then
        return (← putBlobs rest).map (stat :: ·)
      else fail .blobCorrupt

def prepareBlobs (blobs : List (String × Bytes)) : Act (Option Prepared) :=
  if validateExternalBlobs sha256 blobs then do
    match ← putBlobs (sortedBlobs blobs) with
    | some stats => pure (some (.objects stats))
    | none =>
      pure (if BlobStore.validatedBlobs sha256 maxByteaBlobBytes blobs then some .inline else none)
  else pure none

def inlinePreserved : List (String × Bytes) → Act Bool
  | [] => pure true
  | (key, value) :: rest => do
    match ← ask (.inlineContent key) with
    | none => inlinePreserved rest
    | some stored => if stored = value then inlinePreserved rest else pure false

def submittedBlobsPreserveBacking (commit : BlobCommit) : Prepared → Act Bool
  | .objects _ => pure true
  | .inline => inlinePreserved (sortedBlobs commit.blobs)

def statMatches (stat : Option (BlobStat String)) (expected : BlobStat String) : Bool :=
  decide (stat = some expected)

def associatedObjectIsValid (runId : OpaqueId) (key : String) : Act Bool :=
  if isRecordedDigest key then do
    match ← ask (.associatedObject runId key) with
    | none => pure false
    | some row =>
      if row.available then
        return statMatches (← ask (.stat key)) ⟨key, row.sizeBytes, row.locator⟩
      else pure false
  else pure false

def inlineBlobIsValid (runId : OpaqueId) (key : String) : Act Bool :=
  if isRecordedDigest key then
    return (← ask (.inlineAssociated runId key)).any fun value => decide (sha256 value = key)
  else pure false

def referenceIsValid (runId : OpaqueId) (key : String) : Act Bool := do
  if ← ask (.hasObjectAssociation runId key) then associatedObjectIsValid runId key
  else inlineBlobIsValid sha256 runId key

def referencesAreValid (commit : BlobCommit) : List String → Act Bool
  | [] => pure true
  | key :: rest =>
    if key ∈ commit.keys then referencesAreValid commit rest
    else do
      if ← referenceIsValid sha256 commit.runId key then referencesAreValid commit rest
      else pure false

def lockOrder (commit : BlobCommit) : List String :=
  (commit.references ++ commit.keys).dedup.insertionSort (· ≤ ·)

def preparedAreCurrent : List (BlobStat String) → Act Bool
  | [] => pure true
  | prepared :: rest => do
    if statMatches (← ask (.stat prepared.sha256)) prepared then
      let metadata ← ask (.objectMetadata prepared.sha256)
      if metadata.any fun row => row.available &&
          decide (row.sizeBytes ≠ prepared.sizeBytes ∨ row.locator ≠ prepared.locator) then
        pure false
      else preparedAreCurrent rest
    else pure false

def referencesResolve (commit : BlobCommit) : Prepared → Act Bool
  | .inline => referencesAreValid sha256 commit commit.references
  | .objects stats => do
    lockDigests (lockOrder commit)
    if ← preparedAreCurrent stats then referencesAreValid sha256 commit commit.references
    else pure false

def writesOf (commit : BlobCommit) : Prepared → Writes
  | .objects stats => .blobs commit stats
  | .inline => .inline commit

-- `_commit_checkpoint_locked` and `_commit_invocation_locked`, under the check of the writer.
def commitLocked (commit : BlobCommit) (prepared : Option Prepared) :
    Act (CommitStatus × Writes) := do
  if ← ask .currentWriter then
    match prepared with
    | none => pure (.conflict, .nothing)
    | some prepared =>
      if commit.encodes then
        if ← submittedBlobsPreserveBacking commit prepared then
          if ← referencesResolve sha256 commit prepared then
            match ← ask (.recordCoordinate commit) with
            | some status => pure (status, .nothing)
            | none => pure (.committed, writesOf commit prepared)
          else pure (.conflict, .nothing)
        else pure (.conflict, .nothing)
      else pure (.conflict, .nothing)
  else pure (.fenced, .nothing)

def commitBlobs (commit : BlobCommit) : Act CommitStatus := do
  let prepared ← prepareBlobs sha256 maxByteaBlobBytes commit.blobs
  let (status, answer) ← transaction (commitLocked sha256 commit prepared)
  pure (if answer = .raceConflict then .conflict else status)

def inlineReadBlob (runId : OpaqueId) (key : String) : Act Bytes := do
  match ← ask (.inlineAssociated runId key) with
  | none => fail .unknownKey
  | some value => if sha256 value = key then pure value else fail .blobCorrupt

def readBlob (runId : OpaqueId) (key : String) : Act Bytes :=
  if isRecordedDigest key then do
    match ← ask (.associatedObject runId key) with
    | none => inlineReadBlob sha256 runId key
    | some row =>
      if row.available then
        match ← ask (.stat key) with
        | none => fail .blobNotFound
        | some current =>
          if statMatches (some current) ⟨key, row.sizeBytes, row.locator⟩ then
            match ← ask (.getChecked key) with
            | none => fail .blobCorrupt
            | some data =>
              if data.length = row.sizeBytes then pure data else fail .associationCorrupt
          else fail .associationCorrupt
      else fail .associationCorrupt
  else fail .unknownKey

end Sink

section Collector

variable (planIdentity : Int → Int → List ObjectGcCandidate → Option String → String)

def planCandidates (graceBefore : Int) : List ObjectInventoryEntry → Act (List ObjectGcCandidate)
  | [] => pure []
  | entry :: rest =>
    if entry.lastModified > graceBefore then planCandidates graceBefore rest
    else do
      match ← ask (.candidateRow entry.sha256) with
      | none => return ⟨entry, 0⟩ :: (← planCandidates graceBefore rest)
      | some (row, associated) =>
        if associated then planCandidates graceBefore rest
        else if row.available = true ∧
            (row.sizeBytes ≠ entry.sizeBytes ∨ row.locator ≠ entry.locator) then
          fail .associationCorrupt
        else return ⟨entry, row.generation⟩ :: (← planCandidates graceBefore rest)

def maximumGracePeriod : Int := 3650 * 24 * 60 * 60 * 1000000

def plan (gracePeriod : Int) (continuationToken : Option String) (limit : Nat) :
    Act ObjectGcPlan :=
  if 0 ≤ gracePeriod ∧ gracePeriod ≤ maximumGracePeriod then do
    let createdAt ← ask .clock
    let graceBefore := createdAt - gracePeriod
    let (entries, nextToken) ← ask (.inventoryPage continuationToken limit)
    let candidates ← planCandidates graceBefore
      (entries.insertionSort fun first second => first.sha256 ≤ second.sha256)
    return ⟨planIdentity createdAt graceBefore candidates nextToken, createdAt, graceBefore,
      candidates, nextToken⟩
  else fail .invalidGracePeriod

def ObjectGcPlan.accepted (plan : ObjectGcPlan) : Bool :=
  decide ((plan.candidates.map fun candidate => candidate.sha256).Pairwise (· ≤ ·)) &&
    decide ((plan.candidates.map fun candidate => candidate.sha256).Nodup) &&
    plan.candidates.all (fun candidate => decide (candidate.lastModified ≤ plan.graceBefore)) &&
    decide (planIdentity plan.createdAt plan.graceBefore plan.candidates plan.nextToken =
      plan.planId)

def candidateReceipt (plan : ObjectGcPlan) (candidate : ObjectGcCandidate) (observed : Nat)
    (status : GcStatus) (recordedAt : Int) : ObjectGcReceipt :=
  ⟨plan.planId, candidate.sha256, candidate.generation, observed, status, recordedAt⟩

def skip (plan : ObjectGcPlan) (candidate : ObjectGcCandidate) (observed : Nat)
    (status : GcStatus) : Act (ObjectGcReceipt × Writes) := do
  let receipt := candidateReceipt plan candidate observed status (← ask .clock)
  pure (receipt, .receipt receipt)

def applyLocked (plan : ObjectGcPlan) (candidate : ObjectGcCandidate) :
    Act (ObjectGcReceipt × Writes) := do
  lockDigest candidate.sha256
  match ← ask (.storedReceipt plan.planId candidate.sha256) with
  | some stored => pure (stored, .nothing)
  | none =>
    let metadata ← ask (.objectMetadata candidate.sha256)
    let observed := (metadata.map ObjectRow.generation).getD 0
    if ← ask (.anyAssociation candidate.sha256) then
      skip plan candidate observed .skippedAssociated
    else if observed = candidate.generation then
      let status ← ask (.deleteIfMatch candidate.sha256 candidate.deleteToken)
      let receipt := candidateReceipt plan candidate observed status.toGc (← ask .clock)
      pure (receipt, if status = .preconditionFailed then .receipt receipt
        else .deletion candidate metadata receipt)
    else skip plan candidate observed .skippedGeneration

def applyCandidates (plan : ObjectGcPlan) : List ObjectGcCandidate → Act (List ObjectGcReceipt)
  | [] => pure []
  | candidate :: rest => do
    let (receipt, _) ← transaction (applyLocked plan candidate)
    return receipt :: (← applyCandidates plan rest)

def apply (plan : ObjectGcPlan) : Act (List ObjectGcReceipt) :=
  if ObjectGcPlan.accepted planIdentity plan then applyCandidates plan plan.candidates
  else fail .invalidPlan

end Collector

end MonoidKernel.ObjectCollector
