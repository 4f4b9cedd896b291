import Mathlib.Data.Finset.Insert
import MonoidKernel.Postgres.RunJournal

set_option autoImplicit false

namespace MonoidKernel.Activation

inductive CommandKind where
  | input | control
deriving DecidableEq

-- One retry-stable reference to an admitted command and the checkpoint it starts from.
@[ext] structure ActivationCommand (Digest : Type) where
  runId : OpaqueId
  commandId : OpaqueId
  commandSequence : Nat
  kind : CommandKind
  sourceCheckpointSeq : Nat
  sourceCheckpointSha256 : Digest
  requestDigest : Digest
  payloadRef : String
  sequenced : 1 ≤ commandSequence
  addressed : isSafeOpaqueAddress payloadRef = true

instance {Digest : Type} [DecidableEq Digest] : DecidableEq (ActivationCommand Digest) :=
  fun _ _ => decidable_of_iff _ ActivationCommand.ext_iff.symm

-- `SUSPENSION_REASONS`, as far as a receipt tells them apart.
inductive BoundaryReason where
  | terminal | limited | other
deriving DecidableEq

inductive ActivePhase where
  | running | completed
deriving DecidableEq

structure ActiveInput (Digest : Type) where
  inputId : Digest
  sourceSeq : Nat
  phase : ActivePhase
deriving DecidableEq

-- One entry of `applied_input_receipts`. Its digest is empty while it is being computed.
structure BoundaryReceipt (Digest Suspension Outcome : Type) where
  checkpointSeq : Nat
  checkpointSha256 : Option Digest
  terminal : Bool
  suspension : Suspension
  commandIdentitySha256 : Digest
  eventCursor : Nat
  outcome : Outcome

structure Ledger (Digest Suspension Outcome Body : Type) where
  terminal : Bool
  lastSuspension : Option Suspension
  activeInput : Option (ActiveInput Digest)
  appliedInputIds : Finset Digest
  appliedInputReceipts : Digest → Option (BoundaryReceipt Digest Suspension Outcome)
  body : Body

abbrev Checkpoint (Digest Suspension Outcome Body : Type) :=
  RunCheckpoint (Ledger Digest Suspension Outcome Body)

-- The canonical hashes, and what a suspension says. The marker and the input reference of a command
-- are its identity behind a fixed text, so the identity stands for both.
structure Codec (Digest Suspension Outcome Body : Type) where
  identity : ActivationCommand Digest → Digest
  checkpointDigest : Checkpoint Digest Suspension Outcome Body → Digest
  reason : Suspension → BoundaryReason
  outcome : Suspension → OpaqueId → Nat → Outcome

structure ActivationReceipt (Digest Suspension Outcome : Type) where
  runId : OpaqueId
  commandId : OpaqueId
  commandSequence : Nat
  commandIdentitySha256 : Digest
  checkpointSeq : Nat
  checkpointSha256 : Digest
  checkpointRef : String
  boundary : Suspension
  terminal : Bool
  terminalRef : String
  appliedInputRef : Digest
  eventCursor : Nat
  outcome : Outcome

inductive ReceiptError where
  | missingActivationMarker
  | missingActivationReceipt
  | invalidActivationReceipt
  | terminalReceiptMismatch
  -- `ActivationReceipt.__post_init__` refuses an address of more than 256 characters.
  | invalidAddress
deriving DecidableEq

inductive DriveError where
  | checkpointMissing
  | checkpointRunMismatch
  | priorActivationIncomplete
  | activationIdentityMismatch
  | staleActivationSource
  | activationSourceMismatch
  | runTerminal
deriving DecidableEq

def checkpointRef (runId : OpaqueId) (seq : Nat) : String := s!"checkpoint:{runId.text}/{seq}"

def terminalRef (runId : OpaqueId) (terminal : Bool) : String :=
  if terminal then s!"terminal:{runId.text}" else ""

def safeAddresses (runId : OpaqueId) (seq : Nat) (terminal : Bool) : Bool :=
  isSafeOpaqueAddress (checkpointRef runId seq) &&
    (!terminal || isSafeOpaqueAddress (terminalRef runId terminal))

section

variable {Digest Suspension Outcome Body : Type} [DecidableEq Digest] [DecidableEq Outcome]
variable (codec : Codec Digest Suspension Outcome Body)

-- `_checkpoint_receipt_digest` of a checkpoint whose entry for `marker` is `raw`.
def receiptDigest (checkpoint : Checkpoint Digest Suspension Outcome Body) (marker : Digest)
    (raw : BoundaryReceipt Digest Suspension Outcome) : Digest :=
  codec.checkpointDigest { checkpoint with content :=
    { checkpoint.content with
      appliedInputReceipts := Function.update checkpoint.content.appliedInputReceipts marker
        (some { raw with checkpointSha256 := none }) } }

-- The checks that `from_checkpoint` makes of a stored receipt; the receipt that it then builds
-- checks its own addresses.
def Accepts (command : ActivationCommand Digest)
    (checkpoint : Checkpoint Digest Suspension Outcome Body)
    (raw : BoundaryReceipt Digest Suspension Outcome) : Prop :=
  raw.checkpointSeq ≤ checkpoint.seq ∧ command.sourceCheckpointSeq < raw.checkpointSeq ∧
    raw.checkpointSha256.isSome = true ∧
    (codec.reason raw.suspension = .terminal → raw.terminal = true) ∧
    (raw.terminal = true → codec.reason raw.suspension ≠ .other) ∧
    raw.commandIdentitySha256 = codec.identity command ∧
    (raw.checkpointSeq = checkpoint.seq → checkpoint.content.terminal = raw.terminal ∧
      raw.checkpointSha256 = some (receiptDigest codec checkpoint (codec.identity command) raw)) ∧
    raw.outcome = codec.outcome raw.suspension command.runId raw.checkpointSeq

instance (command : ActivationCommand Digest)
    (checkpoint : Checkpoint Digest Suspension Outcome Body)
    (raw : BoundaryReceipt Digest Suspension Outcome) :
    Decidable (Accepts codec command checkpoint raw) :=
  inferInstanceAs (Decidable (_ ∧ _))

-- What `commit_checkpoint` leaves of a receipt whatever the loop parks on: all of the checks but
-- those that compare the terminal flags.
def Sealed (command : ActivationCommand Digest)
    (checkpoint : Checkpoint Digest Suspension Outcome Body)
    (raw : BoundaryReceipt Digest Suspension Outcome) : Prop :=
  raw.checkpointSeq ≤ checkpoint.seq ∧ command.sourceCheckpointSeq < raw.checkpointSeq ∧
    raw.checkpointSha256.isSome = true ∧
    (codec.reason raw.suspension = .terminal → raw.terminal = true) ∧
    raw.commandIdentitySha256 = codec.identity command ∧
    (raw.checkpointSeq = checkpoint.seq →
      raw.checkpointSha256 = some (receiptDigest codec checkpoint (codec.identity command) raw)) ∧
    raw.outcome = codec.outcome raw.suspension command.runId raw.checkpointSeq

def Agrees (checkpoint : Checkpoint Digest Suspension Outcome Body)
    (raw : BoundaryReceipt Digest Suspension Outcome) : Prop :=
  (raw.terminal = true → codec.reason raw.suspension ≠ .other) ∧
    (raw.checkpointSeq = checkpoint.seq → checkpoint.content.terminal = raw.terminal)

instance (checkpoint : Checkpoint Digest Suspension Outcome Body)
    (raw : BoundaryReceipt Digest Suspension Outcome) : Decidable (Agrees codec checkpoint raw) :=
  inferInstanceAs (Decidable (_ ∧ _))

def projected (command : ActivationCommand Digest) (raw : BoundaryReceipt Digest Suspension Outcome)
    (digest : Digest) (terminalOutcome : Option Outcome) :
    Except ReceiptError (ActivationReceipt Digest Suspension Outcome) :=
  if terminalOutcome.isSome = true ∧ raw.terminal = false then .error .terminalReceiptMismatch
  else if safeAddresses command.runId raw.checkpointSeq raw.terminal then
    .ok {
      runId := command.runId
      commandId := command.commandId
      commandSequence := command.commandSequence
      commandIdentitySha256 := codec.identity command
      checkpointSeq := raw.checkpointSeq
      checkpointSha256 := digest
      checkpointRef := checkpointRef command.runId raw.checkpointSeq
      boundary := raw.suspension
      terminal := raw.terminal
      terminalRef := terminalRef command.runId raw.terminal
      appliedInputRef := codec.identity command
      eventCursor := raw.eventCursor
      outcome := terminalOutcome.getD raw.outcome }
  else .error .invalidAddress

def fromCheckpoint (command : ActivationCommand Digest)
    (checkpoint : Checkpoint Digest Suspension Outcome Body) (terminalOutcome : Option Outcome) :
    Except ReceiptError (ActivationReceipt Digest Suspension Outcome) :=
  if codec.identity command ∉ checkpoint.content.appliedInputIds then
    .error .missingActivationMarker
  else
    match checkpoint.content.appliedInputReceipts (codec.identity command) with
    | none => .error .missingActivationReceipt
    | some raw =>
      match raw.checkpointSha256 with
      | none => .error .invalidActivationReceipt
      | some digest =>
        if Accepts codec command checkpoint raw then
          projected codec command raw digest terminalOutcome
        else .error .invalidActivationReceipt

-- `_ActivationRunSink.commit_checkpoint`, up to the commit of the inner sink.
def marked (command : ActivationCommand Digest) (eventCursor : Nat)
    (checkpoint : Checkpoint Digest Suspension Outcome Body) :
    Checkpoint Digest Suspension Outcome Body :=
  let marker := codec.identity command
  let active phase := some (ActiveInput.mk marker command.sourceCheckpointSeq phase)
  match checkpoint.content.lastSuspension with
  | none =>
    { checkpoint with content := { checkpoint.content with activeInput := active .running } }
  | some suspension =>
    let blank : BoundaryReceipt Digest Suspension Outcome := {
      checkpointSeq := checkpoint.seq
      checkpointSha256 := none
      terminal := checkpoint.content.terminal || codec.reason suspension = .terminal
      suspension
      commandIdentitySha256 := marker
      eventCursor
      outcome := codec.outcome suspension command.runId checkpoint.seq }
    let receipts := Function.update checkpoint.content.appliedInputReceipts marker
    let unsealed : Checkpoint Digest Suspension Outcome Body :=
      { checkpoint with content := { checkpoint.content with
        activeInput := active .completed
        appliedInputIds := insert marker checkpoint.content.appliedInputIds
        appliedInputReceipts := receipts (some blank) } }
    let digest := receiptDigest codec unsealed marker blank
    { unsealed with content := { unsealed.content with
      appliedInputReceipts := receipts (some { blank with checkpointSha256 := some digest }) } }

def validateNewOrRunningCommand (command : ActivationCommand Digest)
    (checkpoint : Checkpoint Digest Suspension Outcome Body) : Except DriveError Bool :=
  let fresh : Except DriveError Bool :=
    if checkpoint.seq ≠ command.sourceCheckpointSeq then .error .staleActivationSource
    else if codec.checkpointDigest checkpoint ≠ command.sourceCheckpointSha256 then
      .error .activationSourceMismatch
    else if checkpoint.content.terminal then .error .runTerminal
    else .ok false
  match checkpoint.content.activeInput with
  | none => fresh
  | some active =>
    match active.phase with
    | .completed => fresh
    | .running =>
      if active.inputId ≠ codec.identity command then .error .priorActivationIncomplete
      else if active.sourceSeq ≠ command.sourceCheckpointSeq then .error .activationIdentityMismatch
      else .ok true

end

section

variable {Digest Suspension Outcome Body : Type} [DecidableEq Digest]
variable {codec : Codec Digest Suspension Outcome Body} {command : ActivationCommand Digest}
variable {checkpoint : Checkpoint Digest Suspension Outcome Body}

variable {raw : BoundaryReceipt Digest Suspension Outcome}

theorem Sealed.later (receipt : Sealed codec command checkpoint raw)
    {next : Checkpoint Digest Suspension Outcome Body} (rising : checkpoint.seq < next.seq) :
    Sealed codec command next raw := by
  obtain ⟨within, after, digest, ends, identity, -, outcome⟩ := receipt
  have older : raw.checkpointSeq < next.seq := Nat.lt_of_le_of_lt within rising
  exact ⟨older.le, after, digest, ends, identity, fun same => absurd same older.ne, outcome⟩

theorem Sealed.accepts_iff (receipt : Sealed codec command checkpoint raw) :
    Accepts codec command checkpoint raw ↔ Agrees codec checkpoint raw := by
  obtain ⟨within, after, digest, ends, identity, seals, outcome⟩ := receipt
  constructor
  · rintro ⟨-, -, -, -, ending, -, same, -⟩
    exact ⟨ending, fun here => (same here).1⟩
  · rintro ⟨ending, same⟩
    exact ⟨within, after, digest, ends, ending, identity, fun here => ⟨same here, seals here⟩,
      outcome⟩

theorem fromCheckpoint_sealed [DecidableEq Outcome]
    (applied : codec.identity command ∈ checkpoint.content.appliedInputIds)
    (stored : checkpoint.content.appliedInputReceipts (codec.identity command) = some raw)
    (receipt : Sealed codec command checkpoint raw) {digest : Digest}
    (found : raw.checkpointSha256 = some digest) (terminalOutcome : Option Outcome) :
    fromCheckpoint codec command checkpoint terminalOutcome =
      if Agrees codec checkpoint raw then projected codec command raw digest terminalOutcome
      else .error .invalidActivationReceipt := by
  simp only [fromCheckpoint, applied, not_true_eq_false, if_false, stored, found,
    receipt.accepts_iff]

@[simp] theorem marked_seq (eventCursor : Nat) :
    (marked codec command eventCursor checkpoint).seq = checkpoint.seq := by
  unfold marked
  split <;> rfl

theorem marked_internal (internal : checkpoint.content.lastSuspension = none) (eventCursor : Nat) :
    let active := ActiveInput.mk (codec.identity command) command.sourceCheckpointSeq .running
    marked codec command eventCursor checkpoint =
      { checkpoint with content := { checkpoint.content with activeInput := some active } } := by
  unfold marked
  rw [internal]

-- A boundary checkpoint says of its command what `from_checkpoint` reads, and of the others what
-- the checkpoint before said.
structure Completes (codec : Codec Digest Suspension Outcome Body)
    (command : ActivationCommand Digest)
    (before after : Checkpoint Digest Suspension Outcome Body) : Prop where
  active : after.content.activeInput =
    some ⟨codec.identity command, command.sourceCheckpointSeq, .completed⟩
  applied : after.content.appliedInputIds =
    insert (codec.identity command) before.content.appliedInputIds
  own : ∃ raw, after.content.appliedInputReceipts (codec.identity command) = some raw ∧
    Sealed codec command after raw
  others : ∀ marker, marker ≠ codec.identity command →
    after.content.appliedInputReceipts marker = before.content.appliedInputReceipts marker

theorem marked_completes {suspension : Suspension}
    (boundary : checkpoint.content.lastSuspension = some suspension)
    (after : command.sourceCheckpointSeq < checkpoint.seq) (eventCursor : Nat) :
    Completes codec command checkpoint (marked codec command eventCursor checkpoint) := by
  unfold marked
  rw [boundary]
  refine ⟨rfl, rfl, ⟨_, Function.update_self .., ?_⟩, ?_⟩
  · refine ⟨Nat.le_refl _, after, rfl, fun ends => by simp [ends], rfl, ?_, rfl⟩
    intro _
    simp only [receiptDigest, Function.update_idem]
  · intro marker other
    exact Function.update_of_ne other _ _

end

end MonoidKernel.Activation
