import MonoidKernel.Checkpoint.Payload

set_option autoImplicit false

namespace MonoidKernel.CheckpointCodec

open Library AgentLoop

variable {F Facts Digest : Type} [DecidableEq Digest]

section Codec

-- A `RunCheckpoint`: Python checks no field's type until it is written.
structure RunCheckpoint (F Facts Digest : Type) where
  field : CheckpointField → Json F
  lastModelInvocation : InvocationSection Facts Digest

structure Platform (F Facts Digest : Type) where
  floats : Floats F
  canonicalSha256 : InvocationPayload Facts Digest → Digest
  recordNesting : InvocationPayload Facts Digest → Nat
  -- The container levels that `copy.deepcopy` descends before the stack is exhausted.
  copyDepth : Nat

variable (platform : Platform F Facts Digest)

def RunCheckpoint.toJson (checkpoint : RunCheckpoint F Facts Digest) :
    CheckpointPayload F Facts Digest where
  field name := some (checkpoint.field name)
  lastModelInvocation := some checkpoint.lastModelInvocation
  unknown := []

def validateInvocationShape : InvocationSection Facts Digest → Checked
  | .malformed isDict =>
    require isDict "checkpoint last_model_invocation must be an object or null"
  | _ => .ok ()

def validateInvocation (runId : Option (Json F)) : InvocationSection Facts Digest → Checked
  | .null => .ok ()
  | .malformed _ => .error (.valueError "checkpoint last_model_invocation is invalid")
  | .object payload =>
    match decodeModelInvocation platform.canonicalSha256 payload with
    | none => .error (.valueError "checkpoint last_model_invocation is invalid")
    | some invocation => require (runId.bind textOf == some invocation.fields.runId.text)
        "checkpoint last_model_invocation run_id must match checkpoint run_id"

def validateInterruptionCause (cause : Json F) : Checked :=
  require ((textOf cause).any fun text => text.isEmpty || (parseInterruptionCause text).isSome)
    "checkpoint interruption_cause is outside the portable vocabulary"

def isForeignCause (cause : InterruptionCause) : Bool :=
  cause != .leaseLost && !isOperationalCancellationCause cause

def validateCancellation (requested cause : Option (Json F)) : Checked :=
  match requested, (cause.bind textOf).bind parseInterruptionCause with
  | some (.bool true), some parsed => require (!isForeignCause parsed)
      "checkpoint cancellation_requested requires an operational interruption cause"
  | _, _ => .ok ()

def validateCheckpointPayload (payload : CheckpointPayload F Facts Digest) : Checked := do
  requireNonemptyString (payload.field .runId) "run_id"
  checkpointStringFields.forM fun name => whenPresent (payload.field name) fun value =>
    require (isStr value) s!"checkpoint {name.name} must be a string"
  checkpointOptionalStringFields.forM fun name => whenPresent (payload.field name) fun value =>
    require (isNull value || isStr value) s!"checkpoint {name.name} must be a string or null"
  checkpointNonnegativeIntFields.forM fun name => whenPresent (payload.field name)
    (unlessNull fun value => requireNonnegativeInt (some value) name.name)
  checkpointBoolFields.forM fun name => whenPresent (payload.field name) fun value =>
    require (isBool value) s!"checkpoint {name.name} must be boolean"
  checkpointListOfDictFields.forM fun name => whenPresent (payload.field name) fun value =>
    requireListOf isDict value name.name
  checkpointListOfStringFields.forM fun name => whenPresent (payload.field name) fun value =>
    requireListOf isStr value name.name
  whenPresent (payload.field .pendingUserInput)
    (unlessNull fun value => requireListOf isDict value "pending_user_input")
  [CheckpointField.previousRuntimeConfig, .workspaceBase].forM fun name =>
    whenPresent (payload.field name) fun value =>
      require (isNull value || isDict value) s!"checkpoint {name.name} must be an object or null"
  payload.lastModelInvocation.elim (.ok ()) validateInvocationShape
  whenPresent (payload.field .lastSuspension) fun value =>
    validateSuspensionPayload value "last_suspension"
  whenPresent (payload.field .pendingFinish) validatePendingFinish
  payload.lastModelInvocation.elim (.ok ())
    (validateInvocation platform (payload.field .runId))
  whenPresent (payload.field .interruptionCause) validateInterruptionCause
  validateCancellation (payload.field .cancellationRequested) (payload.field .interruptionCause)
  [CheckpointField.toolCallCounts, .totalUsage, .subagentUsage].forM fun name =>
    whenPresent (payload.field name) fun value => validateCounterMapping value name.name
  [CheckpointField.revokedBefore, .remainingDurationS].forM fun name =>
    whenPresent (payload.field name) (unlessNull fun value =>
      requireFiniteNonnegativeNumber platform.floats value name.name)
  whenPresent (payload.field .queuedMessages) validateQueuedMessages
  whenPresent (payload.field .activeInput) validateActiveInput
  whenPresent (payload.field .appliedInputReceipts) validateReceipts

def loadFields (payload : CheckpointPayload F Facts Digest) : RunCheckpoint F Facts Digest where
  field name := (payload.field name).getD (name.default platform.floats.zero)
  lastModelInvocation := payload.lastModelInvocation.getD .null

def checkpointFromPayload (payload : CheckpointPayload F Facts Digest) :
    Except Refusal (RunCheckpoint F Facts Digest) := do
  validateCheckpointPayload platform payload
  return loadFields platform payload

def rewriteInvocation : InvocationSection Facts Digest →
    Except Refusal (InvocationSection Facts Digest)
  | .null => .ok .null
  | .malformed _ => .error (.valueError "checkpoint last_model_invocation is invalid")
  | .object payload =>
    match decodeModelInvocation platform.canonicalSha256 payload with
    | none => .error (.valueError "checkpoint last_model_invocation is invalid")
    | some invocation =>
      match modelInvocationPayloadForWrite platform.canonicalSha256 invocation with
      | none =>
        .error (.valueError "loaded model invocation was mutated; create a new revision")
      | some written => .ok (.object written)

def RunCheckpoint.current (checkpoint : RunCheckpoint F Facts Digest) :
    RunCheckpoint F Facts Digest :=
  { checkpoint with
    field := Function.update checkpoint.field .schemaVersion (str schemaVersion) }

def checkpointPayloadForWrite (checkpoint : RunCheckpoint F Facts Digest) :
    Except Refusal (CheckpointPayload F Facts Digest) := do
  let invocation ← rewriteInvocation platform checkpoint.lastModelInvocation
  let payload := { checkpoint.current with lastModelInvocation := invocation }.toJson
  validateCheckpointPayload platform payload
  return payload

structure ArtifactVersion where
  namespaceName : List Char
  family : List Char
  version : Nat
deriving DecidableEq

def maxArtifactVersionDigits : Nat := 9

def splitLastDot (text : List Char) : Option (List Char × List Char) :=
  let behind := text.reverse.takeWhile (· != '.')
  match text.reverse.dropWhile (· != '.') with
  | [] => none
  | _ :: before => some (before.reverse, behind.reverse)

def digitsValue (digits : List Char) : Nat :=
  digits.foldl (fun value digit => value * 10 + (digit.toNat - '0'.toNat)) 0

def parseArtifactVersion (value : Option (Json F)) : Option ArtifactVersion :=
  match value with
  | some (.str text) =>
    (splitLastDot text).bind fun (before, token) =>
      (splitLastDot before).bind fun (namespaceName, family) =>
        match token with
        | 'v' :: digits =>
          if namespaceName.isEmpty || family.isEmpty || digits.isEmpty ||
              decide (maxArtifactVersionDigits < digits.length) || !digits.all Char.isDigit ||
              decide (digitsValue digits < 1) then none
          else some ⟨namespaceName, family, digitsValue digits⟩
        | _ => none
  | _ => none

def acceptedNamespaces : List (List Char) := ["monoid".toList, "native-agent-runner".toList]

def CheckpointPayload.nesting (payload : CheckpointPayload F Facts Digest) : Nat :=
  let fields := CheckpointField.all.map fun name => ((payload.field name).elim 0 JsonText.nesting)
  let invocation := match payload.lastModelInvocation with
    | some (.object record) => platform.recordNesting record
    | some (.malformed true) => 1
    | _ => 0
  fields.foldl max (max invocation (JsonText.nestingEntries payload.unknown)) + 1

inductive CheckpointLoad (F Facts Digest : Type) where
  | loaded (checkpoint : RunCheckpoint F Facts Digest)
  | corrupt (message : String)
  | unsupportedVersion

def Refusal.typeName : Refusal → String
  | .valueError _ => "ValueError"
  | .typeError _ => "TypeError"

def decodeCheckpoint (payload : CheckpointPayload F Facts Digest) :
    CheckpointLoad F Facts Digest :=
  if platform.copyDepth < payload.nesting platform then
    .corrupt "checkpoint payload defensive copy failed (RecursionError)"
  else
    match parseArtifactVersion (payload.field .schemaVersion) with
    | none => .corrupt "checkpoint schema_version is missing or malformed"
    | some version =>
      if version.family ≠ "checkpoint".toList then
        .corrupt s!"expected checkpoint artifact, found {String.ofList version.family}"
      else if !acceptedNamespaces.contains version.namespaceName ||
          decide (1 < version.version) then
        .unsupportedVersion
      else
        match checkpointFromPayload platform payload with
        | .error refusal =>
          .corrupt s!"checkpoint payload validation failed ({refusal.typeName})"
        | .ok checkpoint => .loaded checkpoint

end Codec

end MonoidKernel.CheckpointCodec
