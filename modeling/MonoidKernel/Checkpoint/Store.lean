import MonoidKernel.Checkpoint.Sections
import MonoidKernel.Library.Machine

set_option autoImplicit false

namespace MonoidKernel.CheckpointStore

open Library CheckpointCodec

variable {F Facts Digest B : Type}

section Files

inductive Content (A : Type) where
  | whole (value : A)
  | torn
deriving DecidableEq

def Content.read {A : Type} : Content A → Option A
  | .whole value => some value
  | .torn => none

structure Put (F Facts Digest B : Type) where
  checkpoint : RunCheckpoint F Facts Digest
  blobs : List (String × B)

structure Files (F Facts Digest B : Type) where
  blob : String → Option (Content B)
  blobTmp : String → Option (Content B)
  manifest : Nat → Option (Content (CheckpointPayload F Facts Digest))
  manifestTmp : Nat → Option (Content (CheckpointPayload F Facts Digest))
  latest : Option (Content Nat)
  latestTmp : Option (Content Nat)

def noFiles : Files F Facts Digest B where
  blob _ := none
  blobTmp _ := none
  manifest _ := none
  manifestTmp _ := none
  latest := none
  latestTmp := none

-- `_read_latest_seq`, with `none` for `-1`.
def Files.readLatestSeq (files : Files F Facts Digest B) : Option Nat :=
  files.latest.bind Content.read

inductive Phase (F Facts Digest B : Type) where
  | collectTmp
  | blobs (rest : List (String × B))
  | replaceBlob (sha256 : String) (data : B) (rest : List (String × B))
  | manifest
  | replaceManifest (seq : Nat) (payload : CheckpointPayload F Facts Digest)
  | pointer (seq : Nat)
  | replacePointer (seq : Nat)

inductive Placed (F Facts Digest B : Type) where
  | blob (put : Put F Facts Digest B) (sha256 : String) (data : B)
  | manifest (put : Put F Facts Digest B) (seq : Nat) (payload : CheckpointPayload F Facts Digest)
  | pointer (seq : Nat)

structure StoreState (F Facts Digest B : Type) where
  files : Files F Facts Digest B
  active : Option (Put F Facts Digest B × Phase F Facts Digest B)
  journal : List (Placed F Facts Digest B)

end Files

section Steps

variable [DecidableEq Digest]

structure StorePlatform (F Facts Digest : Type) where
  codec : Platform F Facts Digest
  -- `json.dumps` spells the payload: its numbers are finite and the stack is deep enough.
  spells : CheckpointPayload F Facts Digest → Bool

variable (platform : StorePlatform F Facts Digest)

-- `write_json_atomic` up to its temporary file; `none` is a payload that is refused.
def manifestText (checkpoint : RunCheckpoint F Facts Digest) :
    Option (CheckpointPayload F Facts Digest) :=
  match checkpointPayloadForWrite platform.codec checkpoint with
  | .error _ => none
  | .ok payload => if platform.spells payload then some payload else none

namespace StoreState

def unlocked (state : StoreState F Facts Digest B) : StoreState F Facts Digest B :=
  { state with active := none }

def doing (state : StoreState F Facts Digest B) (put : Put F Facts Digest B)
    (phase : Phase F Facts Digest B) : StoreState F Facts Digest B :=
  { state with active := some (put, phase) }

def withFiles (state : StoreState F Facts Digest B) (files : Files F Facts Digest B) :
    StoreState F Facts Digest B :=
  { state with files := files }

def placed (state : StoreState F Facts Digest B) (entry : Placed F Facts Digest B) :
    StoreState F Facts Digest B :=
  { state with journal := state.journal ++ [entry] }

variable (state : StoreState F Facts Digest B) (put : Put F Facts Digest B)
  (phase : Phase F Facts Digest B) (files : Files F Facts Digest B)
  (entry : Placed F Facts Digest B)

omit [DecidableEq Digest]

@[simp] theorem unlocked_files : state.unlocked.files = state.files := rfl

@[simp] theorem unlocked_journal : state.unlocked.journal = state.journal := rfl

@[simp] theorem doing_files : (state.doing put phase).files = state.files := rfl

@[simp] theorem doing_journal : (state.doing put phase).journal = state.journal := rfl

@[simp] theorem withFiles_files : (state.withFiles files).files = files := rfl

@[simp] theorem withFiles_journal : (state.withFiles files).journal = state.journal := rfl

@[simp] theorem placed_files : (state.placed entry).files = state.files := rfl

@[simp] theorem placed_journal : (state.placed entry).journal = state.journal ++ [entry] := rfl

end StoreState

def advancePhase (state : StoreState F Facts Digest B) (put : Put F Facts Digest B) :
    Phase F Facts Digest B → StoreState F Facts Digest B
  | .collectTmp => state.doing put (.blobs put.blobs)
  | .blobs [] => state.doing put .manifest
  | .blobs ((sha256, data) :: rest) =>
    if (state.files.blob sha256).isSome then state.doing put (.blobs rest)
    else
      (state.withFiles { state.files with
        blobTmp := Function.update state.files.blobTmp sha256 (some (.whole data)) }).doing put
          (.replaceBlob sha256 data rest)
  | .replaceBlob sha256 data rest =>
    ((state.withFiles { state.files with
      blob := Function.update state.files.blob sha256 (state.files.blobTmp sha256)
      blobTmp := Function.update state.files.blobTmp sha256 none }).placed
        (.blob put sha256 data)).doing put (.blobs rest)
  | .manifest =>
    -- A sequence that is no number ends in a `TypeError` before the pointer is touched.
    match nonnegativeOf (put.checkpoint.field .seq), manifestText platform put.checkpoint with
    | some seq, some payload =>
      (state.withFiles { state.files with
        manifestTmp := Function.update state.files.manifestTmp seq (some (.whole payload)) }).doing
          put (.replaceManifest seq payload)
    | _, _ => state.unlocked
  | .replaceManifest seq payload =>
    ((state.withFiles { state.files with
      manifest := Function.update state.files.manifest seq (state.files.manifestTmp seq)
      manifestTmp := Function.update state.files.manifestTmp seq none }).placed
        (.manifest put seq payload)).doing put (.pointer seq)
  | .pointer seq =>
    if state.files.readLatestSeq.all (· < seq) then
      (state.withFiles { state.files with latestTmp := some (.whole seq) }).doing put
        (.replacePointer seq)
    else state.unlocked
  | .replacePointer seq =>
    ((state.withFiles { state.files with
      latest := state.files.latestTmp
      latestTmp := none }).placed (.pointer seq)).unlocked

def crashPhase (state : StoreState F Facts Digest B) (put : Put F Facts Digest B) :
    Phase F Facts Digest B → StoreState F Facts Digest B
  | .blobs ((sha256, _) :: _) =>
    if (state.files.blob sha256).isSome then state.unlocked
    else
      (state.withFiles { state.files with
        blobTmp := Function.update state.files.blobTmp sha256 (some .torn) }).unlocked
  | .manifest =>
    match nonnegativeOf (put.checkpoint.field .seq), manifestText platform put.checkpoint with
    | some seq, some _ =>
      (state.withFiles { state.files with
        manifestTmp := Function.update state.files.manifestTmp seq (some .torn) }).unlocked
    | _, _ => state.unlocked
  | .pointer seq =>
    if state.files.readLatestSeq.all (· < seq) then
      (state.withFiles { state.files with latestTmp := some .torn }).unlocked
    else state.unlocked
  | _ => state.unlocked

inductive StoreLabel (F Facts Digest B : Type) where
  -- A put takes the lock of its run's directory, when nobody holds it.
  | put (request : Put F Facts Digest B)
  | unlink (sha256 : String)
  | advance
  | crash (during : Bool)

def nextStore (runId : String) (state : StoreState F Facts Digest B) :
    StoreLabel F Facts Digest B → StoreState F Facts Digest B
  | .put request =>
    if state.active.isNone ∧ textOf (request.checkpoint.field .runId) = some runId then
      state.doing request .collectTmp
    else state
  | .unlink sha256 =>
    match state.active with
    | some (_, .collectTmp) => state.withFiles { state.files with
        blobTmp := Function.update state.files.blobTmp sha256 none }
    | _ => state
  | .advance =>
    match state.active with
    | some (put, phase) => advancePhase platform state put phase
    | none => state
  | .crash during =>
    match state.active with
    | some (put, phase) => if during then crashPhase platform state put phase else state.unlocked
    | none => state

def store (runId : String) :
    Machine (StoreState F Facts Digest B) (StoreLabel F Facts Digest B) Unit where
  init := ⟨noFiles, none, []⟩
  step state label := (nextStore platform runId state label, ())

def maxJsonNesting : Nat := 512

def loadsManifest (payload : CheckpointPayload F Facts Digest) :
    Option (CheckpointPayload F Facts Digest) :=
  if payload.nesting platform.codec ≤ maxJsonNesting then some payload else none

inductive LatestRead (F Facts Digest : Type) where
  | missing
  | corrupt (message : String) (sequence : Option Nat)
  | unsupportedVersion (sequence : Nat)
  | loaded (seq : Nat) (checkpoint : RunCheckpoint F Facts Digest)

def bindRecord (runId : String) (seq : Nat) (checkpoint : RunCheckpoint F Facts Digest) :
    LatestRead F Facts Digest :=
  if textOf (checkpoint.field .runId) ≠ some runId then
    .corrupt "checkpoint manifest run_id does not match the requested run" (some seq)
  else if nonnegativeOf (checkpoint.field .seq) ≠ some seq then
    .corrupt "checkpoint manifest sequence does not match the committed sequence" (some seq)
  else .loaded seq checkpoint

def unreadableMessage : String := "checkpoint latest pointer or manifest could not be read"

def latestChecked (runId : String) (files : Files F Facts Digest B) :
    LatestRead F Facts Digest :=
  match files.latest with
  | none => .missing
  | some .torn => .corrupt unreadableMessage none
  | some (.whole seq) =>
    match ((files.manifest seq).bind Content.read).bind (loadsManifest platform) with
    | none => .corrupt unreadableMessage (some seq)
    | some payload =>
      match decodeCheckpoint platform.codec payload with
      | .corrupt message => .corrupt message (some seq)
      | .unsupportedVersion => .unsupportedVersion seq
      | .loaded checkpoint => bindRecord runId seq checkpoint

def readBlob (files : Files F Facts Digest B) (sha256 : String) : Option B :=
  (files.blob sha256).bind Content.read

end Steps

end MonoidKernel.CheckpointStore
