import Mathlib.Algebra.Ring.Nat
import MonoidKernel.Hosting.Activation
import MonoidKernel.Library.Machine
import MonoidKernel.Library.Texts

set_option autoImplicit false

namespace MonoidKernel.Admission

open MonoidKernel.Activation

-- A caller's identity and opaque payload evidence for one durable command.
@[ext] structure AdmissionRequest (Digest : Type) where
  runId : OpaqueId
  commandId : OpaqueId
  kind : CommandKind
  requestDigest : Digest
  payloadRef : String
  addressed : isSafeOpaqueAddress payloadRef = true

instance {Digest : Type} [DecidableEq Digest] : DecidableEq (AdmissionRequest Digest) :=
  fun _ _ => decidable_of_iff _ AdmissionRequest.ext_iff.symm

@[ext] structure AdmittedCommand (Digest : Type) where
  request : AdmissionRequest Digest
  commandSequence : Nat
  sequenced : 1 ≤ commandSequence

instance {Digest : Type} [DecidableEq Digest] : DecidableEq (AdmittedCommand Digest) :=
  fun _ _ => decidable_of_iff _ AdmittedCommand.ext_iff.symm

inductive DeliveryState where
  | pending | leased | delivered | runTerminal | deadLetter
deriving DecidableEq

structure Dispatch where
  deliveryState : DeliveryState
  attemptCount : Nat
  availableAt : Nat
  claimOwner : Option OpaqueId
  claimId : Option OpaqueId
  claimGeneration : Nat
  leasedUntil : Option Nat
  dispatchRef : String
  deliveredAt : Option Nat
  lastErrorCode : String
  retryDelayMicroseconds : Nat
deriving DecidableEq

def Dispatch.admitted (now : Nat) : Dispatch where
  deliveryState := .pending
  attemptCount := 0
  availableAt := now
  claimOwner := none
  claimId := none
  claimGeneration := 0
  leasedUntil := none
  dispatchRef := ""
  deliveredAt := none
  lastErrorCode := ""
  retryDelayMicroseconds := 0

def Dispatch.leaseActive (dispatch : Dispatch) (now : Nat) : Bool :=
  dispatch.leasedUntil.any (now < ·)

def Dispatch.lease (dispatch : Dispatch) (ownerId claimId : OpaqueId) (leasedUntil : Nat) :
    Dispatch :=
  { dispatch with
    deliveryState := .leased
    attemptCount := dispatch.attemptCount + 1
    claimOwner := some ownerId
    claimId := some claimId
    claimGeneration := dispatch.claimGeneration + 1
    leasedUntil := some leasedUntil
    lastErrorCode := ""
    retryDelayMicroseconds := 0 }

def Dispatch.close (dispatch : Dispatch) : Dispatch :=
  { dispatch with
    deliveryState := .runTerminal
    leasedUntil := none
    dispatchRef := ""
    deliveredAt := none
    lastErrorCode := "run_terminal"
    retryDelayMicroseconds := 0 }

def Dispatch.fail (dispatch : Dispatch) (deliveryState : DeliveryState) (errorCode : String)
    (delay now : Nat) : Dispatch :=
  { dispatch with
    deliveryState
    leasedUntil := none
    availableAt := now + delay
    dispatchRef := ""
    deliveredAt := none
    lastErrorCode := errorCode
    retryDelayMicroseconds := delay }

inductive Settlement where
  | acknowledge (dispatchRef : String)
  | retry (errorCode : String) (delay : Nat)
  | reject (errorCode : String)
deriving DecidableEq

-- `MAX_COMMAND_DISPATCH_LEASE_S` and `MAX_COMMAND_RETRY_DELAY_S`, in microseconds.
def maxDuration : Nat := 86400 * 1000000

namespace Settlement

def valid : Settlement → Bool
  | acknowledge dispatchRef => isSafeOpaqueAddress dispatchRef
  | retry errorCode delay => isSafeTaxonomyCode errorCode && decide (delay ≤ maxDuration)
  | reject errorCode => isSafeTaxonomyCode errorCode

def apply (now : Nat) (dispatch : Dispatch) : Settlement → Dispatch
  | acknowledge dispatchRef =>
    { dispatch with
      deliveryState := .delivered
      leasedUntil := none
      dispatchRef
      deliveredAt := some now
      lastErrorCode := ""
      retryDelayMicroseconds := 0 }
  | retry errorCode delay => dispatch.fail .pending errorCode delay now
  | reject errorCode => dispatch.fail .deadLetter errorCode 0 now

def tookEffect (dispatch : Dispatch) : Settlement → Bool
  | acknowledge dispatchRef =>
    dispatch.deliveryState = .delivered && dispatch.dispatchRef = dispatchRef
  | retry errorCode delay =>
    dispatch.deliveryState = .pending && dispatch.lastErrorCode = errorCode &&
      dispatch.retryDelayMicroseconds = delay
  | reject errorCode =>
    dispatch.deliveryState = .deadLetter && dispatch.lastErrorCode = errorCode &&
      dispatch.retryDelayMicroseconds = 0

end Settlement

structure DispatchToken where
  runId : OpaqueId
  commandId : OpaqueId
  ownerId : OpaqueId
  claimId : OpaqueId
  generation : Nat
  positive : 1 ≤ generation

structure DispatchClaim (Digest : Type) where
  token : DispatchToken
  command : AdmittedCommand Digest
  attempt : Nat
  belongs : token.runId = command.request.runId ∧ token.commandId = command.request.commandId

structure Row (Digest : Type) where
  command : AdmittedCommand Digest
  activation : Option (ActivationCommand Digest)
  dispatch : Dispatch

abbrev Key := OpaqueId × OpaqueId

def AdmissionRequest.key {Digest : Type} (request : AdmissionRequest Digest) : Key :=
  (request.runId, request.commandId)

def DispatchToken.key (token : DispatchToken) : Key := (token.runId, token.commandId)

namespace Row

variable {Digest : Type}

def key (row : Row Digest) : Key := row.command.request.key

def runId (row : Row Digest) : OpaqueId := row.command.request.runId

def sequence (row : Row Digest) : Nat := row.command.commandSequence

def tokenMatches (row : Row Digest) (token : DispatchToken) : Bool :=
  row.key = token.key && row.dispatch.claimOwner = some token.ownerId &&
    row.dispatch.claimId = some token.claimId &&
    row.dispatch.claimGeneration = token.generation

-- `_dispatch_claim`; `none` is `DispatchClaimLost`.
def dispatchClaim (row : Row Digest) (runTerminal : Bool) (ownerId claimId : OpaqueId)
    (now : Nat) : Option (DispatchClaim Digest) :=
  if held : row.dispatch.deliveryState = .leased ∧ row.dispatch.leaseActive now = true ∧
      runTerminal = false ∧ row.dispatch.claimOwner = some ownerId ∧
      row.dispatch.claimId = some claimId ∧ 1 ≤ row.dispatch.claimGeneration ∧
      1 ≤ row.dispatch.attemptCount then
    some {
      token := ⟨row.command.request.runId, row.command.request.commandId, ownerId, claimId,
        row.dispatch.claimGeneration, held.2.2.2.2.2.1⟩
      command := row.command
      attempt := row.dispatch.attemptCount
      belongs := ⟨rfl, rfl⟩ }
  else none

def activationFrom {Suspension Outcome Body : Type} (row : Row Digest)
    (codec : Codec Digest Suspension Outcome Body)
    (checkpoint : Checkpoint Digest Suspension Outcome Body) : ActivationCommand Digest where
  runId := row.command.request.runId
  commandId := row.command.request.commandId
  commandSequence := row.command.commandSequence
  kind := row.command.request.kind
  sourceCheckpointSeq := checkpoint.seq
  sourceCheckpointSha256 := codec.checkpointDigest checkpoint
  requestDigest := row.command.request.requestDigest
  payloadRef := row.command.request.payloadRef
  sequenced := row.command.sequenced
  addressed := row.command.request.addressed

end Row

-- The tables of one schema. `rows` is in the order of insertion, `checkpoint` the record that the
-- checkpoint head names.
structure Store (Digest Suspension Outcome Body : Type) where
  authority : Authority.State
  terminal : OpaqueId → Option Outcome
  checkpoint : OpaqueId → Option (Checkpoint Digest Suspension Outcome Body)
  head : OpaqueId → Option Nat
  rows : List (Row Digest)

-- The answer of one transaction. `admitted` and `settled` are its commits; the receipt that the
-- method returns is read after them.
inductive Answer (Digest : Type) where
  | authority (answer : Authority.Answer)
  | admitted
  | runUnavailable
  | runTerminal
  | admissionConflict
  | sequenceExhausted
  | invalid
  | noClaim
  | claimed (claim : DispatchClaim Digest)
  | claimLost
  | settled
  | writerFenced
  | bindingConflict
  | corrupt
  | bound (activation : ActivationCommand Digest)
  | committed

section

variable {Digest Suspension Outcome Body : Type}

namespace Store

def find (s : Store Digest Suspension Outcome Body) (key : Key) : Option (Row Digest) :=
  s.rows.find? fun row => row.key = key

def update (s : Store Digest Suspension Outcome Body) (key : Key)
    (set : Row Digest → Row Digest) : Store Digest Suspension Outcome Body :=
  { s with rows := s.rows.map fun row => if row.key = key then set row else row }

def rowsOf (s : Store Digest Suspension Outcome Body) (runId : OpaqueId) : List (Row Digest) :=
  s.rows.filter fun row => row.runId = runId

def reconcilable (s : Store Digest Suspension Outcome Body) (row : Row Digest) : Bool :=
  (row.dispatch.deliveryState = .pending || row.dispatch.deliveryState = .leased ||
      row.dispatch.deliveryState = .delivered) &&
    row.activation.isNone && (s.terminal row.runId).isSome

-- `picked` is the row that the skipping locks leave, if they leave one.
def reconcile (s : Store Digest Suspension Outcome Body) (picked : Option Key) :
    Store Digest Suspension Outcome Body :=
  match picked with
  | none => s
  | some key => s.update key fun row =>
      if s.reconcilable row then { row with dispatch := row.dispatch.close } else row

def claimable (s : Store Digest Suspension Outcome Body) (row : Row Digest) (now : Nat) : Bool :=
  (s.authority.table row.runId).isSome &&
    (row.dispatch.deliveryState = .pending && decide (row.dispatch.availableAt ≤ now) ||
      row.dispatch.deliveryState = .leased && row.dispatch.leasedUntil.any (· ≤ now)) &&
    (s.terminal row.runId).isNone &&
    s.rows.all fun prior => prior.runId ≠ row.runId || row.sequence ≤ prior.sequence ||
      prior.dispatch.deliveryState = .delivered

end Store

variable [DecidableEq Digest]

def admitRequest (requestIdentity : AdmissionRequest Digest → Digest)
    (s : Store Digest Suspension Outcome Body) (request : AdmissionRequest Digest) (now : Nat) :
    Store Digest Suspension Outcome Body × Answer Digest :=
  match s.authority.table request.runId with
  | none => (s, .runUnavailable)
  | some _ =>
    match s.find request.key with
    | some existing =>
      if requestIdentity existing.command.request ≠ requestIdentity request then
        (s, .admissionConflict)
      else (s, .admitted)
    | none =>
      if (s.terminal request.runId).isSome then (s, .runTerminal)
      else
        let sequence := (s.head request.runId).getD 0 + 1
        if sequence ≤ postgresBigintMax then
          let command : AdmittedCommand Digest := ⟨request, sequence, Nat.le_add_left 1 _⟩
          ({ s with
              head := Function.update s.head request.runId (some sequence)
              rows := s.rows ++ [⟨command, none, .admitted now⟩] }, .admitted)
        else (s, .sequenceExhausted)

def claimDispatch (s : Store Digest Suspension Outcome Body) (ownerId claimId : OpaqueId)
    (lease : Nat) (reconciled candidate : Option Key) (selectedAt leasedAt readAt : Nat) :
    Store Digest Suspension Outcome Body × Answer Digest :=
  if lease = 0 ∨ maxDuration < lease then (s, .invalid)
  else
    match s.rows.find? fun row => row.dispatch.claimId = some claimId with
    | some existing =>
      -- A repeated claim, whose first answer may have been lost.
      if (s.authority.table existing.runId).isNone then (s, .noClaim)
      else if (s.terminal existing.runId).isSome then (s.reconcile (some existing.key), .noClaim)
      else if existing.dispatch.claimOwner ≠ some ownerId then (s, .admissionConflict)
      else
        match existing.dispatchClaim false ownerId claimId readAt with
        | some claim => (s, .claimed claim)
        | none => (s, .claimLost)
    | none =>
      let closed := s.reconcile reconciled
      match candidate.bind closed.find with
      | none => (closed, .noClaim)
      | some row =>
        if closed.claimable row selectedAt then
          let leased := fun row : Row Digest =>
            { row with dispatch := row.dispatch.lease ownerId claimId (leasedAt + lease) }
          match (leased row).dispatchClaim false ownerId claimId readAt with
          | some claim => (closed.update row.key leased, .claimed claim)
          | none => (s, .claimLost)
        else (closed, .noClaim)

def settleDispatch (s : Store Digest Suspension Outcome Body) (token : DispatchToken)
    (settlement : Settlement) (readAt updatedAt : Nat) :
    Store Digest Suspension Outcome Body × Answer Digest :=
  if settlement.valid = false then (s, .invalid)
  else if (s.authority.table token.runId).isNone then (s, .claimLost)
  else
    match s.find token.key with
    | none => (s, .claimLost)
    | some row =>
      if row.tokenMatches token = true ∧
        settlement.tookEffect row.dispatch = true then (s, .settled)
      else if row.tokenMatches token = true ∧ row.dispatch.deliveryState = .leased ∧
          row.dispatch.leaseActive readAt = true ∧ (s.terminal token.runId).isNone = true then
        (s.update token.key fun row =>
          { row with dispatch := settlement.apply updatedAt row.dispatch }, .settled)
      else (s, .claimLost)

section

variable [DecidableEq Outcome] (codec : Codec Digest Suspension Outcome Body)

-- What `_require_prior_activations_completed` raises.
def priorError (s : Store Digest Suspension Outcome Body) (command : AdmittedCommand Digest)
    (checkpoint : Checkpoint Digest Suspension Outcome Body) : Option (Answer Digest) :=
  if command.commandSequence = 1 then none
  else
    match s.rows.find? fun row => row.runId = command.request.runId &&
        row.sequence = command.commandSequence - 1 with
    | none => some .corrupt
    | some prior =>
      match prior.activation with
      | none => some .bindingConflict
      | some activation =>
        if codec.identity activation ∉ checkpoint.content.appliedInputIds then
          some .bindingConflict
        else
          match fromCheckpoint codec activation checkpoint none with
          | .error .invalidAddress => some .invalid
          | .error _ => some .corrupt
          | .ok _ => none

def bindActivation (s : Store Digest Suspension Outcome Body) (command : AdmittedCommand Digest)
    (writerToken : WriterToken) (now : Nat) :
    Store Digest Suspension Outcome Body × Answer Digest :=
  if command.request.runId ≠ writerToken.runId then (s, .bindingConflict)
  else if currentWriterLocked s.authority.table writerToken now = false then (s, .writerFenced)
  else
    match s.find command.request.key with
    | none => (s, .admissionConflict)
    | some row =>
      if row.command ≠ command then (s, .admissionConflict)
      else if row.dispatch.deliveryState ≠ .delivered then (s, .bindingConflict)
      else
        match row.activation with
        | some activation => (s, .bound activation)
        | none =>
          if (s.terminal command.request.runId).isSome then (s, .runTerminal)
          else
            match s.checkpoint command.request.runId with
            | none => (s, .runUnavailable)
            | some checkpoint =>
              if checkpoint.content.terminal then (s, .runTerminal)
              else
                match priorError codec s command checkpoint with
                | some error => (s, error)
                | none =>
                  let activation := row.activationFrom codec checkpoint
                  (s.update row.key fun row => { row with activation := some activation },
                    .bound activation)

end

-- The checkpoint head names the record with the highest sequence.
def commitCheckpoint (s : Store Digest Suspension Outcome Body) (writerToken : WriterToken)
    (checkpoint : Checkpoint Digest Suspension Outcome Body) (now : Nat) :
    Store Digest Suspension Outcome Body × Answer Digest :=
  if checkpoint.runId = writerToken.runId ∧
      currentWriterLocked s.authority.table writerToken now = true then
    if (s.checkpoint writerToken.runId).any (checkpoint.seq ≤ ·.seq) then (s, .committed)
    else
      let latest := Function.update s.checkpoint writerToken.runId (some checkpoint)
      ({ s with checkpoint := latest }, .committed)
  else (s, .writerFenced)

-- The first terminal outcome of a run stays.
def settleTerminal (s : Store Digest Suspension Outcome Body) (writerToken : WriterToken)
    (outcome : Outcome) (now : Nat) : Store Digest Suspension Outcome Body × Answer Digest :=
  if currentWriterLocked s.authority.table writerToken now then
    let stored := (s.terminal writerToken.runId).getD outcome
    ({ s with terminal := Function.update s.terminal writerToken.runId (some stored) }, .committed)
  else (s, .writerFenced)

-- One transaction of any dispatcher, activation or writer. Its readings of the clock may be any
-- instants. Of the rows that a statement may select, the label names the one that the locks of the
-- others leave.
inductive Label (Digest Suspension Outcome Body : Type) where
  | authority (label : Authority.Label)
  | admitRequest (request : AdmissionRequest Digest) (now : Nat)
  | claimDispatch (ownerId claimId : OpaqueId) (lease : Nat) (reconciled candidate : Option Key)
      (selectedAt leasedAt readAt : Nat)
  | settleDispatch (token : DispatchToken) (settlement : Settlement) (readAt updatedAt : Nat)
  | bindActivation (command : AdmittedCommand Digest) (writerToken : WriterToken) (now : Nat)
  | commitCheckpoint (writerToken : WriterToken)
      (checkpoint : Checkpoint Digest Suspension Outcome Body) (now : Nat)
  | settleTerminal (writerToken : WriterToken) (outcome : Outcome) (now : Nat)

def Label.commits : Label Digest Suspension Outcome Body → Bool
  | .commitCheckpoint .. => true
  | _ => false

variable [DecidableEq Outcome] (requestIdentity : AdmissionRequest Digest → Digest)
variable (codec : Codec Digest Suspension Outcome Body)

def step (s : Store Digest Suspension Outcome Body) :
    Label Digest Suspension Outcome Body → Store Digest Suspension Outcome Body × Answer Digest
  | .authority label =>
    let result := Authority.step s.authority label
    ({ s with authority := result.1 }, .authority result.2)
  | .admitRequest request now => admitRequest requestIdentity s request now
  | .claimDispatch ownerId claimId lease reconciled candidate selectedAt leasedAt readAt =>
    claimDispatch s ownerId claimId lease reconciled candidate selectedAt leasedAt readAt
  | .settleDispatch token settlement readAt updatedAt =>
    settleDispatch s token settlement readAt updatedAt
  | .bindActivation command writerToken now => bindActivation codec s command writerToken now
  | .commitCheckpoint writerToken checkpoint now => commitCheckpoint s writerToken checkpoint now
  | .settleTerminal writerToken outcome now => settleTerminal s writerToken outcome now

def machine : Library.Machine (Store Digest Suspension Outcome Body)
    (Label Digest Suspension Outcome Body) (Answer Digest) :=
  ⟨⟨Authority.machine.init, fun _ => none, fun _ => none, fun _ => none, []⟩,
    step requestIdentity codec⟩

end

section Receipts

inductive AdmissionState where
  | prepared | dispatched | activationClaimed | completed | runTerminal | deadLetter
deriving DecidableEq

structure AdmissionReceipt (Digest Suspension Outcome : Type) where
  command : AdmittedCommand Digest
  state : AdmissionState
  attemptCount : Nat
  dispatchRef : String
  errorCode : String
  activationCommand : Option (ActivationCommand Digest)
  activationReceipt : Option (ActivationReceipt Digest Suspension Outcome)

-- `PostgresAdmissionCorrupt`, or the `ValueError` of an address that is too long.
inductive ReceiptFault where
  | corrupt | invalid
deriving DecidableEq

def ReceiptFault.of : ReceiptError → ReceiptFault
  | .invalidAddress => .invalid
  | _ => .corrupt

inductive Reply (Digest Suspension Outcome : Type) where
  | refused (answer : Answer Digest)
  | receipt (receipt : AdmissionReceipt Digest Suspension Outcome)
  | fault (fault : ReceiptFault)

variable {Digest Suspension Outcome Body : Type} [DecidableEq Digest] [DecidableEq Outcome]
variable (codec : Codec Digest Suspension Outcome Body)

-- `_completion`, over the checkpoint and the terminal record that it reads.
def completion (activation : ActivationCommand Digest)
    (checkpoint : Option (Checkpoint Digest Suspension Outcome Body)) (terminal : Option Outcome) :
    Except ReceiptFault (Option (ActivationReceipt Digest Suspension Outcome)) :=
  match checkpoint with
  | none => .ok none
  | some checkpoint =>
    if codec.identity activation ∉ checkpoint.content.appliedInputIds then .ok none
    else
      match fromCheckpoint codec activation checkpoint none with
      | .error error => .error (.of error)
      | .ok projected =>
        if projected.terminal = false then .ok (some projected)
        else
          match terminal with
          | none => .ok none
          | some outcome =>
            match fromCheckpoint codec activation checkpoint (some outcome) with
            | .error error => .error (.of error)
            | .ok receipt => .ok (some receipt)

def receiptFromStored (row : Row Digest) (runTerminal : Bool)
    (checkpoint : Option (Checkpoint Digest Suspension Outcome Body)) (terminal : Option Outcome) :
    Except ReceiptFault (AdmissionReceipt Digest Suspension Outcome) :=
  let plain (state : AdmissionState) (dispatchRef errorCode : String) :
      AdmissionReceipt Digest Suspension Outcome :=
    ⟨row.command, state, row.dispatch.attemptCount, dispatchRef, errorCode, none, none⟩
  if row.dispatch.deliveryState = .deadLetter then
    .ok (plain .deadLetter "" row.dispatch.lastErrorCode)
  else if row.dispatch.deliveryState = .runTerminal ∨
      runTerminal = true ∧ row.activation.isNone = true then
    .ok (plain .runTerminal "" "run_terminal")
  else if row.dispatch.deliveryState ≠ .delivered then
    if row.activation.isSome then .error .corrupt
    else .ok (plain .prepared "" row.dispatch.lastErrorCode)
  else
    match row.activation with
    | none => .ok (plain .dispatched row.dispatch.dispatchRef "")
    | some activation =>
      match completion codec activation checkpoint terminal with
      | .error fault => .error fault
      | .ok receipt => .ok {
          command := row.command
          state := if receipt.isSome then .completed else .activationClaimed
          attemptCount := row.dispatch.attemptCount
          dispatchRef := row.dispatch.dispatchRef
          errorCode := ""
          activationCommand := some activation
          activationReceipt := receipt }

-- `_require_receipt`, whose three reads see the tables at three moments.
def requireReceipt (key : Key) (stored read settled : Store Digest Suspension Outcome Body) :
    Except ReceiptFault (AdmissionReceipt Digest Suspension Outcome) :=
  match stored.find key with
  | none => .error .corrupt
  | some row =>
    receiptFromStored codec row (stored.terminal row.runId).isSome (read.checkpoint row.runId)
      (settled.terminal row.runId)

def replied (key : Key) (stored read settled : Store Digest Suspension Outcome Body) :
    Answer Digest → Reply Digest Suspension Outcome
  | .admitted | .settled =>
    match requireReceipt codec key stored read settled with
    | .ok receipt => .receipt receipt
    | .error fault => .fault fault
  | answer => .refused answer

variable (requestIdentity : AdmissionRequest Digest → Digest)

-- `admit`: its transaction in `s`, and then the reads.
def admitReply (s : Store Digest Suspension Outcome Body) (request : AdmissionRequest Digest)
    (now : Nat) (stored read settled : Store Digest Suspension Outcome Body) :
    Reply Digest Suspension Outcome :=
  replied codec request.key stored read settled (admitRequest requestIdentity s request now).2

-- `acknowledge_dispatch`, `retry_dispatch` and `reject_dispatch`.
def settle (s : Store Digest Suspension Outcome Body) (token : DispatchToken)
    (settlement : Settlement) (readAt updatedAt : Nat)
    (stored read settled : Store Digest Suspension Outcome Body) :
    Reply Digest Suspension Outcome :=
  replied codec token.key stored read settled
    (settleDispatch s token settlement readAt updatedAt).2

end Receipts

end MonoidKernel.Admission
