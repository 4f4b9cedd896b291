import MonoidKernel.Library.ClaimLane
import MonoidKernel.Reference.ControlTransport

set_option autoImplicit false

-- Translated from reference/command_inbox.py.
namespace MonoidKernel.CommandInbox

open Library Scopes

structure StoredCommand where
  runId : String
  commandId : String
  type : String
  args : Fields
  principal : CommandPrincipal
  tokenSha256 : String
  reason : String
  createdAt : Rat
  status : CommandStatus
  claimedBy : String
  claimedAt : Rat

def StoredCommand.key (command : StoredCommand) : String × String :=
  (command.runId, command.commandId)

structure ControlResult where
  runId : String
  type : String
  status : String
  state : Option String
  data : Fields
  error : String
  errorCode : String

inductive Fault where
  | valueError (message : String)
  | keyError (key : String × String)
  | runtimeError (message : String)
  | commandConflict (message : String)
  | commandQueueFull (message : String)

def commandTypes : List String :=
  ["pause", "resume", "cancel", "approve", "deny", "interrupt", "inspect", "health", "send_message",
    "runtime_config", "replace_runtime_config", "create_task", "report_task_result", "status",
    "revoke_capability"]

def resultStatuses : List String := ["ok", "not_implemented", "unsupported", "error"]

def commandEnvelopeVersion : String := "monoid.command-inbox.v1"

def controlProtocolVersion : String := "monoid.control-command.v1"

def acceptedControlProtocolVersions : List String :=
  [controlProtocolVersion, "native-agent-runner.control-command.v1"]

section Normalize

def CommandPrincipal.toJson (principal : CommandPrincipal) : Fields where
  entries := [("issuer", .text principal.issuer), ("tenant_id", .text principal.tenantId),
    ("user_id", .text principal.userId)]
  ordered := inKeyOrder_object.2
    ⟨(by decide : ["issuer", "tenant_id", "user_id"].Pairwise (· < ·)), by simp [inKeyOrder]⟩

def stateJson : Option String → Value
  | some state => .text state
  | none => .null

def ControlResult.toJson (result : ControlResult) : Fields where
  entries := [("data", .object result.data.entries), ("error", .text result.error),
    ("error_code", .text result.errorCode), ("protocol", .text controlProtocolVersion),
    ("run_id", .text result.runId), ("state", stateJson result.state),
    ("status", .text result.status), ("type", .text result.type)]
  ordered := inKeyOrder_object.2
    ⟨(by decide : ["data", "error", "error_code", "protocol", "run_id", "state", "status",
      "type"].Pairwise (· < ·)), by
      cases result.state <;> simpa [inKeyOrder, stateJson] using result.data.ordered⟩

variable (runtime : TextRuntime)

def sanitizeFields (fields : Fields) : Fields where
  entries := sanitizeEntries runtime fields.entries
  ordered := by
    have kept := sanitizeCommandData_ordered runtime "" (.object fields.entries) fields.ordered
    simpa [sanitizeCommandData, isSensitive] using kept

def sanitizeArgs (type : String) (args : Fields) : Fields where
  entries := sanitizeCommandArgs runtime type args.entries
  ordered := sanitizeCommandArgs_ordered runtime args.ordered

def normalizeStoredCommand (command : StoredCommand) : Except Fault StoredCommand :=
  if command.type ∉ commandTypes then .error (.valueError "command type is invalid")
  else .ok { command with args := sanitizeArgs runtime command.type command.args }

def normalizeResultPayload (result : ControlResult) : Except Fault Fields :=
  if result.type ∉ commandTypes then .error (.valueError "command result type is invalid")
  else if result.status ∉ resultStatuses then
    .error (.valueError "command result status is invalid")
  else .ok (sanitizeFields runtime result.toJson)

def requiredText (value : Option JsonValue) (fieldName : String) : Except Fault String :=
  match value with
  | some ⟨.text text, _⟩ => .ok text
  | _ => .error (.valueError s!"{fieldName} must be a string")

def requiredObject (value : Option JsonValue) (fieldName : String) : Except Fault Fields :=
  match value with
  | some ⟨.object entries, ordered⟩ => .ok ⟨entries, ordered⟩
  | _ => .error (.valueError s!"{fieldName} must be an object")

def optionalText (value : Option JsonValue) (fieldName : String) : Except Fault (Option String) :=
  match value with
  | none => .ok none
  | some ⟨.null, _⟩ => .ok none
  | found => (requiredText found fieldName).map some

def emptyText : JsonValue := ⟨.text "", rfl⟩

def emptyObject : JsonValue := ⟨.object [], rfl⟩

def normalizeRetainedResultPayload (value : JsonValue) : Except Fault Fields := do
  let payload ← requiredObject (some value) "command result"
  let protocol ← requiredText ((payload.get? "protocol").or (some emptyText))
    "command result protocol"
  if protocol ≠ "" ∧ protocol ∉ acceptedControlProtocolVersions then
    .error (.valueError "command result protocol is invalid")
  else do
    let state ← optionalText (payload.get? "state") "command result state"
    let runId ← requiredText (payload.get? "run_id") "command result run_id"
    let type ← requiredText (payload.get? "type") "command result type"
    let status ← requiredText (payload.get? "status") "command result status"
    let data ← requiredObject ((payload.get? "data").or (some emptyObject)) "command result data"
    let error ← requiredText ((payload.get? "error").or (some emptyText)) "command result error"
    let errorCode ← requiredText ((payload.get? "error_code").or (some emptyText))
      "command result error_code"
    normalizeResultPayload runtime ⟨runId, type, status, state, data, error, errorCode⟩

def sameCommandIdentity (existing submitted : StoredCommand) : Bool :=
  existing.type = submitted.type &&
    (Value.object existing.args.entries).plain = (Value.object submitted.args.entries).plain &&
    existing.principal = submitted.principal && existing.reason = submitted.reason

def duplicateConflict (commandId : String) : Fault :=
  .commandConflict s!"command_id {runtime.repr commandId} already belongs to a different command"

def laneIsBusy (commandId : String) : Fault :=
  .commandQueueFull s!"command lane is busy for immediate command {commandId}"

def queueIsFull (runId : String) : Fault :=
  .commandQueueFull s!"command queue is full for run {runId}"

def badMaxPending : Fault := .valueError "max_pending must be a positive integer"

def notClaimed : Fault := .runtimeError "command is not claimed by this worker"

def acknowledgedStatus (result : ControlResult) : CommandStatus :=
  if result.status = "ok" then .completed else .failed

end Normalize

section Memory

structure InMemoryCommandStore where
  commands : OrderedDict (String × String) StoredCommand
  results : OrderedDict (String × String) Fields

namespace InMemoryCommandStore

variable (runtime : TextRuntime) (store : InMemoryCommandStore)

def empty : InMemoryCommandStore := ⟨.empty, .empty⟩

def waits (runId : String) (command : StoredCommand) : Bool :=
  command.runId = runId && command.status.isOpen

def pending (runId : String) : Nat := store.commands.values.countP (waits runId)

def receiptOf (command : StoredCommand) : CommandReceipt where
  runId := command.runId
  commandId := command.commandId
  status := command.status
  result := store.results.get? command.key
  createdAt := command.createdAt
  updatedAt := if command.claimedAt ≠ 0 then command.claimedAt else command.createdAt

def append (command : StoredCommand) (maxPending : Int) (requireEmpty : Bool) :
    InMemoryCommandStore × Except Fault CommandReceipt :=
  match normalizeStoredCommand runtime command with
  | .error fault => (store, .error fault)
  | .ok command =>
    if maxPending < 1 then (store, .error badMaxPending)
    else
      match store.commands.get? command.key with
      | some existing =>
        if sameCommandIdentity existing command then (store, .ok (store.receiptOf existing))
        else (store, .error (duplicateConflict runtime command.commandId))
      | none =>
        if requireEmpty && store.pending command.runId ≠ 0 then
          (store, .error (laneIsBusy command.commandId))
        else if maxPending ≤ store.pending command.runId then
          (store, .error (queueIsFull command.runId))
        else
          ({ store with commands := store.commands.set command.key command },
            .ok (store.receiptOf command))

def readCommand (runId commandId : String) : Option StoredCommand :=
  store.commands.get? (runId, commandId)

def claim (runId workerId : String) (claimTtl now : Rat) :
    InMemoryCommandStore × Option StoredCommand :=
  match store.commands.values.find? (waits runId) with
  | none => (store, none)
  | some selected =>
    if selected.status = .claimed ∧
        (selected.claimedBy = workerId ∨ now - selected.claimedAt ≤ claimTtl) then (store, none)
    else
      ({ store with
          commands := store.commands.set (runId, selected.commandId)
            { selected with status := .claimed, claimedBy := workerId, claimedAt := now } },
        some { selected with status := .claimed, claimedBy := workerId, claimedAt := now })

def acknowledge (runId commandId workerId : String) (result : ControlResult) :
    InMemoryCommandStore × Except Fault CommandReceipt :=
  match normalizeResultPayload runtime result with
  | .error fault => (store, .error fault)
  | .ok payload =>
    match store.commands.get? (runId, commandId) with
    | none => (store, .error (.keyError (runId, commandId)))
    | some command =>
      if command.status ≠ .claimed ∨ command.claimedBy ≠ workerId then (store, .error notClaimed)
      else
        (⟨store.commands.set (runId, commandId)
            { command with status := acknowledgedStatus result },
          store.results.set (runId, commandId) payload⟩,
          .ok (receiptOf ⟨store.commands, store.results.set (runId, commandId) payload⟩
            { command with status := acknowledgedStatus result }))

def receipt (runId commandId : String) : Option CommandReceipt :=
  (store.commands.get? (runId, commandId)).map store.receiptOf

end InMemoryCommandStore

end Memory

section Sqlite

structure Row where
  runId : String
  commandId : String
  commandType : String
  args : String
  principal : String
  reason : String
  createdAt : Rat
  status : CommandStatus
  claimedBy : String
  claimedAt : Rat
  result : Option String
  updatedAt : Rat
  schemaVersion : String
  tokenSha256 : String

structure SqliteCommandStore where
  rows : OrderedDict (String × String) Row

namespace SqliteCommandStore

variable (runtime : TextRuntime) (codec : JsonCodec) (store : SqliteCommandStore)

def empty : SqliteCommandStore := ⟨.empty⟩

def waits (runId : String) (row : Row) : Bool := row.runId = runId && row.status.isOpen

def pending (runId : String) : Nat := store.rows.values.countP (waits runId)

def dumps (fields : Fields) : Except Fault String :=
  (codec.dumps fields.json).mapError .valueError

def loads (text : String) : Except Fault JsonValue := (codec.loads text).mapError .valueError

def commandFromRow (row : Row) : Except Fault StoredCommand :=
  if row.schemaVersion ≠ commandEnvelopeVersion then
    .error (.valueError s!"unsupported command inbox schema: {row.schemaVersion}")
  else do
    let args ← requiredObject (some (← loads codec row.args)) "command args"
    let principal ← requiredObject (some (← loads codec row.principal)) "command principal"
    let tenantId ← requiredText (principal.get? "tenant_id") "command principal tenant_id"
    let userId ← requiredText (principal.get? "user_id") "command principal user_id"
    let issuer ← requiredText ((principal.get? "issuer").or (some emptyText))
      "command principal issuer"
    normalizeStoredCommand runtime
      { runId := row.runId
        commandId := row.commandId
        type := row.commandType
        args := args
        principal := ⟨tenantId, userId, issuer⟩
        tokenSha256 := row.tokenSha256
        reason := row.reason
        createdAt := row.createdAt
        status := row.status
        claimedBy := row.claimedBy
        claimedAt := row.claimedAt }

def resultFromRow (row : Row) : Except Fault (Option Fields) :=
  match row.result with
  | none => .ok none
  | some text => do
    let payload ← normalizeRetainedResultPayload runtime (← loads codec text)
    .ok (some payload)

def receiptFromRow (row : Row) : Except Fault CommandReceipt := do
  let result ← resultFromRow runtime codec row
  .ok
    { runId := row.runId
      commandId := row.commandId
      status := row.status
      result := result
      createdAt := row.createdAt
      updatedAt := row.updatedAt }

def inserted (command : StoredCommand) (args principal : String) : Row where
  runId := command.runId
  commandId := command.commandId
  commandType := command.type
  args := args
  principal := principal
  reason := command.reason
  createdAt := command.createdAt
  status := .pending
  claimedBy := ""
  claimedAt := 0
  result := none
  updatedAt := command.createdAt
  schemaVersion := commandEnvelopeVersion
  tokenSha256 := command.tokenSha256

def insert (command : StoredCommand) : SqliteCommandStore × Except Fault CommandReceipt :=
  match dumps codec command.args, dumps codec command.principal.toJson with
  | .ok args, .ok principal =>
    (⟨store.rows.set command.key (inserted command args principal)⟩,
      receiptFromRow runtime codec (inserted command args principal))
  | .error fault, _ => (store, .error fault)
  | .ok _, .error fault => (store, .error fault)

def append (command : StoredCommand) (maxPending : Int) (requireEmpty : Bool) :
    SqliteCommandStore × Except Fault CommandReceipt :=
  match normalizeStoredCommand runtime command with
  | .error fault => (store, .error fault)
  | .ok command =>
    if maxPending < 1 then (store, .error badMaxPending)
    else
      match store.rows.get? command.key with
      | some row =>
        match commandFromRow runtime codec row with
        | .error fault => (store, .error fault)
        | .ok existing =>
          if sameCommandIdentity existing command then (store, receiptFromRow runtime codec row)
          else (store, .error (duplicateConflict runtime command.commandId))
      | none =>
        if requireEmpty && store.pending command.runId ≠ 0 then
          (store, .error (laneIsBusy command.commandId))
        else if maxPending ≤ store.pending command.runId then
          (store, .error (queueIsFull command.runId))
        else insert runtime codec store command

def readCommand (runId commandId : String) : Except Fault (Option StoredCommand) :=
  match store.rows.get? (runId, commandId) with
  | some row => (commandFromRow runtime codec row).map some
  | none => .ok none

-- The update is committed before the row is read as a command.
def claim (runId workerId : String) (claimTtl now : Rat) :
    SqliteCommandStore × Except Fault (Option StoredCommand) :=
  match store.rows.values.find? (waits runId) with
  | none => (store, .ok none)
  | some row =>
    if row.status = .claimed ∧ (row.claimedBy = workerId ∨ now - row.claimedAt ≤ claimTtl) then
      (store, .ok none)
    else
      (⟨store.rows.set (row.runId, row.commandId)
          { row with
            status := .claimed, claimedBy := workerId, claimedAt := now, updatedAt := now }⟩,
        (commandFromRow runtime codec
          { row with
            status := .claimed, claimedBy := workerId, claimedAt := now, updatedAt := now }).map
          some)

def acknowledge (runId commandId workerId : String) (result : ControlResult) (now : Rat) :
    SqliteCommandStore × Except Fault CommandReceipt :=
  match normalizeResultPayload runtime result with
  | .error fault => (store, .error fault)
  | .ok payload =>
    match dumps codec payload with
    | .error fault => (store, .error fault)
    | .ok text =>
      match store.rows.get? (runId, commandId) with
      | none => (store, .error notClaimed)
      | some row =>
        if row.status ≠ .claimed ∨ row.claimedBy ≠ workerId then (store, .error notClaimed)
        else
          (⟨store.rows.set (runId, commandId)
              { row with
                status := acknowledgedStatus result, result := some text, updatedAt := now }⟩,
            receiptFromRow runtime codec
              { row with
                status := acknowledgedStatus result, result := some text, updatedAt := now })

def receipt (runId commandId : String) : Except Fault (Option CommandReceipt) :=
  match store.rows.get? (runId, commandId) with
  | some row => (receiptFromRow runtime codec row).map some
  | none => .ok none

end SqliteCommandStore

end Sqlite

section Calls

inductive Call where
  | append (command : StoredCommand) (maxPending : Int) (requireEmpty : Bool)
  | readCommand (runId commandId : String)
  | claim (runId workerId : String) (claimTtl now : Rat)
  | acknowledge (runId commandId workerId : String) (result : ControlResult) (now : Rat)
  | receipt (runId commandId : String)

inductive Answer where
  | command (found : Option StoredCommand)
  | receipt (found : Option CommandReceipt)
  | raised (fault : Fault)

def Answer.ofReceipt : Except Fault CommandReceipt → Answer
  | .ok found => .receipt (some found)
  | .error fault => .raised fault

def Answer.ofReceipt? : Except Fault (Option CommandReceipt) → Answer
  | .ok found => .receipt found
  | .error fault => .raised fault

def Answer.ofCommand? : Except Fault (Option StoredCommand) → Answer
  | .ok found => .command found
  | .error fault => .raised fault

variable (runtime : TextRuntime) (codec : JsonCodec)

def InMemoryCommandStore.call (store : InMemoryCommandStore) :
    Call → InMemoryCommandStore × Answer
  | .append command maxPending requireEmpty =>
    ((store.append runtime command maxPending requireEmpty).1,
      .ofReceipt (store.append runtime command maxPending requireEmpty).2)
  | .readCommand runId commandId => (store, .command (store.readCommand runId commandId))
  | .claim runId workerId claimTtl now =>
    ((store.claim runId workerId claimTtl now).1,
      .command (store.claim runId workerId claimTtl now).2)
  | .acknowledge runId commandId workerId result _ =>
    ((store.acknowledge runtime runId commandId workerId result).1,
      .ofReceipt (store.acknowledge runtime runId commandId workerId result).2)
  | .receipt runId commandId => (store, .receipt (store.receipt runId commandId))

def SqliteCommandStore.call (store : SqliteCommandStore) : Call → SqliteCommandStore × Answer
  | .append command maxPending requireEmpty =>
    ((store.append runtime codec command maxPending requireEmpty).1,
      .ofReceipt (store.append runtime codec command maxPending requireEmpty).2)
  | .readCommand runId commandId =>
    (store, .ofCommand? (store.readCommand runtime codec runId commandId))
  | .claim runId workerId claimTtl now =>
    ((store.claim runtime codec runId workerId claimTtl now).1,
      .ofCommand? (store.claim runtime codec runId workerId claimTtl now).2)
  | .acknowledge runId commandId workerId result now =>
    ((store.acknowledge runtime codec runId commandId workerId result now).1,
      .ofReceipt (store.acknowledge runtime codec runId commandId workerId result now).2)
  | .receipt runId commandId =>
    (store, .ofReceipt? (store.receipt runtime codec runId commandId))

end Calls

end MonoidKernel.CommandInbox
