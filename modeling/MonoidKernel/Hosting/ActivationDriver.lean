import MonoidKernel.Postgres.AdmissionRuns

set_option autoImplicit false

namespace MonoidKernel.Driver

open MonoidKernel.Activation
open MonoidKernel.Admission

structure Driving (Digest Suspension Outcome Body : Type) where
  command : ActivationCommand Digest
  memory : Checkpoint Digest Suspension Outcome Body

structure State (Digest Suspension Outcome Body : Type) where
  store : Store Digest Suspension Outcome Body
  loops : WriterToken → Option (Driving Digest Suspension Outcome Body)

structure Park (Suspension Body : Type) where
  seq : Nat
  terminal : Bool
  suspension : Option Suspension
  body : Body
  eventCursor : Nat

inductive Label (Digest Suspension Outcome Body : Type) where
  | store (label : Admission.Label Digest Suspension Outcome Body)
  | seed (token : WriterToken) (checkpoint : Checkpoint Digest Suspension Outcome Body) (now : Nat)
  | drive (token : WriterToken) (command : ActivationCommand Digest) (now : Nat)
  | commit (token : WriterToken) (park : Park Suspension Body) (now : Nat)
  | stop (token : WriterToken)

inductive Answer (Digest Suspension Outcome : Type) where
  | store (answer : Admission.Answer Digest)
  | failed (error : DriveError)
  | driving (continuing : Bool)
  | completed (result : Except ReceiptError (ActivationReceipt Digest Suspension Outcome))
  | idle

section

variable {Digest Suspension Outcome Body : Type} [DecidableEq Digest] [DecidableEq Outcome]

def granted (table : Authority.Table) (token : WriterToken) : Bool :=
  match table token.runId with
  | none => false
  | some row => row.token token.runId = token || token.generation < row.generation

def bound (s : Store Digest Suspension Outcome Body) (command : ActivationCommand Digest) : Bool :=
  s.rows.any fun row => row.activation = some command

abbrev Step (Digest Suspension Outcome Body : Type) :=
  State Digest Suspension Outcome Body × Answer Digest Suspension Outcome

variable (codec : Codec Digest Suspension Outcome Body)

-- `_completed_receipt`. A terminal receipt is answered with the outcome that the run settled.
def completedReceipt (s : State Digest Suspension Outcome Body) (token : WriterToken)
    (command : ActivationCommand Digest) (checkpoint : Checkpoint Digest Suspension Outcome Body)
    (now : Nat) : Step Digest Suspension Outcome Body :=
  match fromCheckpoint codec command checkpoint none with
  | .error error => (s, .completed (.error error))
  | .ok receipt =>
    if receipt.terminal then
      let proposed := codec.outcome receipt.boundary command.runId checkpoint.seq
      let settled := settleTerminal s.store token proposed now
      match settled.2 with
      | .committed => ({ s with store := settled.1 },
          .completed (fromCheckpoint codec command checkpoint (settled.1.terminal token.runId)))
      | refused => (s, .store refused)
    else (s, .completed (.ok receipt))

def drive (s : State Digest Suspension Outcome Body) (token : WriterToken)
    (command : ActivationCommand Digest) (now : Nat) : Step Digest Suspension Outcome Body :=
  if command.runId ≠ token.runId then (s, .idle)
  else
    match s.store.checkpoint token.runId with
    | none => (s, .failed .checkpointMissing)
    | some checkpoint =>
      if checkpoint.runId ≠ command.runId then (s, .failed .checkpointRunMismatch)
      else if codec.identity command ∈ checkpoint.content.appliedInputIds then
        completedReceipt codec s token command checkpoint now
      else
        match validateNewOrRunningCommand codec command checkpoint with
        | .error error => (s, .failed error)
        | .ok continuing =>
          if (s.store.terminal token.runId).isSome then (s, .failed .runTerminal)
          else
            ({ s with loops := Function.update s.loops token (some ⟨command, checkpoint⟩) },
              .driving continuing)

def Driving.parked (driving : Driving Digest Suspension Outcome Body)
    (park : Park Suspension Body) : Checkpoint Digest Suspension Outcome Body :=
  { driving.memory with
    seq := park.seq
    content := { driving.memory.content with
      terminal := park.terminal, lastSuspension := park.suspension, body := park.body } }

def commit (s : State Digest Suspension Outcome Body) (token : WriterToken)
    (driving : Driving Digest Suspension Outcome Body) (park : Park Suspension Body) (now : Nat) :
    Step Digest Suspension Outcome Body :=
  let next := marked codec driving.command park.eventCursor (driving.parked park)
  let result := commitCheckpoint s.store token next now
  match result.2 with
  | .committed =>
    let loop := if park.suspension.isSome then none else some ⟨driving.command, next⟩
    ({ store := result.1, loops := Function.update s.loops token loop }, .store .committed)
  | refused => ({ s with loops := Function.update s.loops token none }, .store refused)

variable (requestIdentity : AdmissionRequest Digest → Digest)

def step (s : State Digest Suspension Outcome Body) :
    Label Digest Suspension Outcome Body → Step Digest Suspension Outcome Body
  | .store label =>
    let result := Admission.step requestIdentity codec s.store label
    ({ s with store := result.1 }, .store result.2)
  | .seed token checkpoint now =>
    let result := commitCheckpoint s.store token checkpoint now
    ({ s with store := result.1 }, .store result.2)
  | .drive token command now => drive codec s token command now
  | .commit token park now =>
    match s.loops token with
    | none => (s, .idle)
    | some driving => commit codec s token driving park now
  | .stop token => ({ s with loops := Function.update s.loops token none }, .idle)

-- What those promise who take the step: checkpoints are committed through the driven loops, after
-- the one that a run starts with; a driver has a token that was handed out, a command that was
-- bound and no other loop under its token; and the commits of a loop are numbered upwards.
def promised (s : State Digest Suspension Outcome Body) :
    Label Digest Suspension Outcome Body → Bool
  | .store label => !label.commits
  | .seed token checkpoint _ =>
    (s.store.checkpoint token.runId).isNone && checkpoint.content.activeInput.isNone &&
      decide (checkpoint.content.appliedInputIds = ∅)
  | .drive token command _ =>
    (s.loops token).isNone && granted s.store.authority.table token && bound s.store command
  | .commit token park _ => (s.loops token).all fun driving => driving.memory.seq < park.seq
  | .stop _ => true

def machine : Library.Machine (State Digest Suspension Outcome Body)
    (Label Digest Suspension Outcome Body) (Answer Digest Suspension Outcome) :=
  ⟨⟨(Admission.machine requestIdentity codec).init, fun _ => none⟩, step codec requestIdentity⟩

def Promised (s : State Digest Suspension Outcome Body)
    (labels : List (Label Digest Suspension Outcome Body)) : Prop :=
  (machine codec requestIdentity).Along (fun s label => promised s label = true) s labels

instance (s : State Digest Suspension Outcome Body)
    (labels : List (Label Digest Suspension Outcome Body)) :
    Decidable (Promised codec requestIdentity s labels) :=
  inferInstanceAs (Decidable ((machine codec requestIdentity).Along _ s labels))

end

end MonoidKernel.Driver
