import MonoidKernel.Reference.CommandInboxLanes
import Mathlib.Data.List.Forall2

set_option autoImplicit false

namespace MonoidKernel.CommandInbox

open Library Library.ClaimLane Scopes

variable (runtime : TextRuntime) (codec : JsonCodec)

section Payloads

theorem Fields.ext_entries {left right : Fields} (same : left.entries = right.entries) :
    left = right := by
  cases left
  cases right
  cases same
  rfl

@[simp] theorem requiredObject_json (fields : Fields) (fieldName : String) :
    requiredObject (some fields.json) fieldName = .ok fields := rfl

theorem sanitizeFields_toJson (answer : ControlResult) :
    sanitizeFields runtime answer.toJson =
      ControlResult.toJson { answer with data := sanitizeFields runtime answer.data } := by
  have shown := isSensitive_shown runtime
  simp only [List.mem_cons, List.not_mem_nil, or_false, forall_eq_or_imp, forall_eq] at shown
  obtain ⟨-, -, data, error, errorCode, protocol, runId, state, status, type⟩ := shown
  apply Fields.ext_entries
  cases here : answer.state <;>
    simp [here, sanitizeFields, ControlResult.toJson, sanitizeEntries,
      sanitizeCommandData, stateJson,
      data, error, errorCode, protocol, runId, state, status, type]

theorem normalizeResultPayload_ok {answer : ControlResult} {payload : Fields}
    (normal : normalizeResultPayload runtime answer = .ok payload) :
    answer.type ∈ commandTypes ∧ answer.status ∈ resultStatuses ∧
      payload = ControlResult.toJson
        { answer with data := sanitizeFields runtime answer.data } := by
  unfold normalizeResultPayload at normal
  split at normal
  · cases normal
  next known =>
    split at normal
    · cases normal
    next listed =>
      cases normal
      exact ⟨not_not.1 known, not_not.1 listed, sanitizeFields_toJson runtime answer⟩

theorem sanitizeFields_twice (fields : Fields) :
    sanitizeFields runtime (sanitizeFields runtime fields) = sanitizeFields runtime fields :=
  Fields.ext_entries (sanitizeEntries_twice runtime fields.entries)

theorem normalizeRetainedResultPayload_spec {answer : ControlResult} {payload : Fields}
    (normal : normalizeResultPayload runtime answer = .ok payload) :
    normalizeRetainedResultPayload runtime payload.json = .ok payload := by
  obtain ⟨known, listed, rfl⟩ := normalizeResultPayload_ok runtime normal
  generalize same : sanitizeFields runtime answer.data = data
  have kept : sanitizeFields runtime data = data := by rw [← same, sanitizeFields_twice]
  obtain ⟨runId, type, status, state, _, error, errorCode⟩ := answer
  have again : normalizeResultPayload runtime ⟨runId, type, status, state, data, error, errorCode⟩ =
      .ok (ControlResult.toJson ⟨runId, type, status, state, data, error, errorCode⟩) := by
    unfold normalizeResultPayload
    rw [if_neg (not_not.2 known), if_neg (not_not.2 listed), sanitizeFields_toJson]
    simp only [kept]
  have read (key : String) (value : JsonValue)
      (found : (ControlResult.toJson ⟨runId, type, status, state, data, error,
        errorCode⟩).entries.lookup key = some value.value) := Fields.get?_eq _ found
  have protocolRead := read "protocol" ⟨.text controlProtocolVersion, rfl⟩ rfl
  have stateRead := read "state" ⟨stateJson state, by cases state <;> rfl⟩ rfl
  have runIdRead := read "run_id" ⟨.text runId, rfl⟩ rfl
  have typeRead := read "type" ⟨.text type, rfl⟩ rfl
  have statusRead := read "status" ⟨.text status, rfl⟩ rfl
  have dataRead := read "data" data.json rfl
  have errorRead := read "error" ⟨.text error, rfl⟩ rfl
  have errorCodeRead := read "error_code" ⟨.text errorCode, rfl⟩ rfl
  have accepted : ¬ (controlProtocolVersion ≠ "" ∧
      controlProtocolVersion ∉ acceptedControlProtocolVersions) := by
    simp [acceptedControlProtocolVersions]
  simp only [normalizeRetainedResultPayload, requiredObject, Fields.json, bind, Except.bind] at *
  simp only [protocolRead, stateRead, runIdRead, typeRead, statusRead, dataRead, errorRead,
    errorCodeRead, Option.or, requiredText, accepted, if_false]
  cases state <;> exact again

end Payloads

section Rows

def Writable (fields : Fields) : Prop := ∃ text, codec.dumps fields.json = .ok text

def Legible (fields : Fields) : Prop :=
  ∃ text found, codec.dumps fields.json = .ok text ∧ codec.loads text = .ok found

def LegibleCommand (command : StoredCommand) : Prop :=
  Legible codec command.args ∧ Legible codec command.principal.toJson

structure ClaimOf (command : StoredCommand) (row : Row) : Prop where
  pending : command.status = .pending → row.claimedBy = "" ∧ row.claimedAt = 0
  taken : command.status ≠ .pending →
    row.claimedBy = command.claimedBy ∧ row.claimedAt = command.claimedAt

inductive ResultOf : Option Fields → Option String → Prop where
  | none : ResultOf none none
  | some {answer : ControlResult} {payload : Fields} {text : String}
    (normal : normalizeResultPayload runtime answer = .ok payload)
    (written : codec.dumps payload.json = .ok text) : ResultOf (some payload) (some text)

structure RowOf (result : Option Fields) (command : StoredCommand) (row : Row) : Prop where
  columns : row.runId = command.runId ∧ row.commandId = command.commandId ∧
    row.commandType = command.type ∧ row.reason = command.reason ∧
    row.createdAt = command.createdAt ∧ row.status = command.status ∧
    row.tokenSha256 = command.tokenSha256 ∧ row.schemaVersion = commandEnvelopeVersion
  args : codec.dumps command.args.json = .ok row.args
  principal : codec.dumps command.principal.toJson.json = .ok row.principal
  claim : ClaimOf command row
  normal : normalizeStoredCommand runtime command = .ok command
  result : ResultOf runtime codec result row.result

variable {runtime codec} {result : Option Fields} {command : StoredCommand} {row : Row}

theorem RowOf.unheld (rowOf : RowOf runtime codec result command row) {workerId : String}
    (held : ¬ (command.status = .claimed ∧ command.claimedBy = workerId)) :
    (command.status ≠ .claimed ∨ command.claimedBy ≠ workerId) ∧
      (command.status ≠ .claimed ∨ row.claimedBy ≠ workerId) := by
  refine ⟨not_and_or.mp held, not_and_or.mp ?_⟩
  rintro ⟨claimed, holder⟩
  rw [(rowOf.claim.taken (by rw [claimed]; simp)).1] at holder
  exact held ⟨claimed, holder⟩

theorem normalizeStoredCommand_twice {submitted : StoredCommand}
    (normal : normalizeStoredCommand runtime command = .ok submitted) :
    normalizeStoredCommand runtime submitted = .ok submitted := by
  obtain ⟨known, rfl⟩ := normalizeStoredCommand_ok runtime normal
  have args : sanitizeArgs runtime command.type (sanitizeArgs runtime command.type command.args) =
      sanitizeArgs runtime command.type command.args :=
    Fields.ext_entries (sanitizeCommandArgs_twice runtime command.type command.args.entries)
  unfold normalizeStoredCommand
  rw [if_neg (not_not.2 known)]
  simp only [args]

theorem normalizeStoredCommand_claim {other : StoredCommand} (status : CommandStatus)
    (claimedBy : String) (claimedAt : Rat)
    (normal : normalizeStoredCommand runtime other = .ok other) :
    normalizeStoredCommand runtime
        { other with status := status, claimedBy := claimedBy, claimedAt := claimedAt } =
      .ok { other with status := status, claimedBy := claimedBy, claimedAt := claimedAt } := by
  obtain ⟨known, same⟩ := normalizeStoredCommand_ok runtime normal
  have args : other.args = sanitizeArgs runtime other.type other.args :=
    congrArg StoredCommand.args same
  unfold normalizeStoredCommand
  rw [if_neg (not_not.2 known)]
  simp only [← args]

theorem legible_iff {fields : Fields} {text : String}
    (written : codec.dumps fields.json = .ok text) :
    Legible codec fields ↔ codec.loads text = .ok fields.json := by
  constructor
  · rintro ⟨other, found, wrote, read⟩
    rw [written, Except.ok.injEq] at wrote
    subst wrote
    rw [read, codec.loads_dumps _ _ _ written read]
  · exact fun read => ⟨text, fields.json, written, read⟩

theorem refused_of_illegible {fields : Fields} {text : String}
    (written : codec.dumps fields.json = .ok text) (illegible : ¬ Legible codec fields) :
    ∃ message, codec.loads text = .error message := by
  cases read : codec.loads text with
  | error message => exact ⟨message, rfl⟩
  | ok found => exact absurd ⟨text, found, written, read⟩ illegible

theorem commandFromRow_spec (rowOf : RowOf runtime codec result command row) :
    (LegibleCommand codec command ∧ SqliteCommandStore.commandFromRow runtime codec row =
      .ok { command with claimedBy := row.claimedBy, claimedAt := row.claimedAt }) ∨
    (¬ LegibleCommand codec command ∧
      ∃ fault, SqliteCommandStore.commandFromRow runtime codec row = .error fault) := by
  obtain ⟨runId, commandId, type, reason, createdAt, status, token, schema⟩ := rowOf.columns
  simp only [SqliteCommandStore.commandFromRow, SqliteCommandStore.loads, schema, ne_eq,
    not_true_eq_false, if_false, bind, Except.bind]
  by_cases args : Legible codec command.args
  · simp only [(legible_iff rowOf.args).1 args, Except.mapError, requiredObject_json]
    by_cases principal : Legible codec command.principal.toJson
    · refine .inl ⟨⟨args, principal⟩, ?_⟩
      have again :=
        normalizeStoredCommand_claim command.status row.claimedBy row.claimedAt rowOf.normal
      have reads (key : String) (value : JsonValue)
          (held : command.principal.toJson.entries.lookup key = some value.value) :=
        Fields.get?_eq _ held
      have tenantRead := reads "tenant_id" ⟨.text command.principal.tenantId, rfl⟩ rfl
      have userRead := reads "user_id" ⟨.text command.principal.userId, rfl⟩ rfl
      have issuerRead := reads "issuer" ⟨.text command.principal.issuer, rfl⟩ rfl
      simp only [(legible_iff rowOf.principal).1 principal, requiredObject_json, tenantRead,
        userRead, issuerRead, requiredText, Option.or, runId, commandId, type, reason, createdAt,
        status, token]
      exact again
    · obtain ⟨message, refused⟩ := refused_of_illegible rowOf.principal principal
      exact .inr ⟨fun legible => principal legible.2, .valueError message, by simp only [refused]⟩
  · obtain ⟨message, refused⟩ := refused_of_illegible rowOf.args args
    exact .inr ⟨fun legible => args legible.1, .valueError message, by
      simp only [refused, Except.mapError]⟩

theorem resultFromRow_spec {text : Option String} (kept : ResultOf runtime codec result text)
    (same : row.result = text)
    (legible : ∀ payload, result = some payload → Legible codec payload) :
    SqliteCommandStore.resultFromRow runtime codec row = .ok result := by
  unfold SqliteCommandStore.resultFromRow
  cases kept with
  | none => rw [same]
  | @some answer payload text normal written =>
    have read := (legible_iff written).1 (legible payload rfl)
    simp only [same, SqliteCommandStore.loads, read, bind, Except.bind, Except.mapError,
      normalizeRetainedResultPayload_spec runtime normal]

theorem resultFromRow_refused {text : Option String} (kept : ResultOf runtime codec result text)
    (same : row.result = text) {payload : Fields} (there : result = some payload)
    (illegible : ¬ Legible codec payload) :
    ∃ fault, SqliteCommandStore.resultFromRow runtime codec row = .error fault := by
  unfold SqliteCommandStore.resultFromRow
  cases kept with
  | none => cases there
  | @some answer other text normal written =>
    cases there
    obtain ⟨message, refused⟩ := refused_of_illegible written illegible
    refine ⟨.valueError message, ?_⟩
    simp only [same, SqliteCommandStore.loads, refused, bind, Except.bind, Except.mapError]

end Rows

section Sides

-- What a caller sees of an answer: which call raised, and otherwise all but `updated_at`.
def Answer.shown : Answer → Option Answer
  | .raised _ => none
  | .receipt found => some (.receipt (found.map fun receipt => { receipt with updatedAt := 0 }))
  | .command found => some (.command found)

structure Twin (memory : InMemoryCommandStore) (sqlite : SqliteCommandStore) : Prop where
  keyed : memory.Keyed
  keys : sqlite.rows.keys = memory.commands.keys
  rows : ∀ key command, memory.commands.get? key = some command → ∃ row,
    sqlite.rows.get? key = some row ∧ RowOf runtime codec (memory.results.get? key) command row
  fresh : ∀ key, memory.commands.get? key = none → memory.results.get? key = none

variable {runtime codec} {memory : InMemoryCommandStore} {sqlite : SqliteCommandStore}

theorem Twin.absent (twin : Twin runtime codec memory sqlite) {key : String × String}
    (absent : memory.commands.get? key = none) : sqlite.rows.get? key = none := by
  rw [OrderedDict.get?_eq_none_iff] at absent ⊢
  rwa [twin.keys]

theorem Twin.values (twin : Twin runtime codec memory sqlite) :
    List.Forall₂ (fun command row => RowOf runtime codec (memory.results.get? command.key) command
      row ∧ sqlite.rows.get? command.key = some row)
      memory.commands.values sqlite.rows.values := by
  have each : List.Forall₂ (fun (held : (String × String) × StoredCommand) row =>
      RowOf runtime codec (memory.results.get? held.2.key) held.2 row.2 ∧
        sqlite.rows.get? held.2.key = some row.2)
      memory.commands.entries sqlite.rows.entries := by
    rw [List.forall₂_iff_get]
    have length : memory.commands.entries.length = sqlite.rows.entries.length := by
      have counted := congrArg List.length twin.keys
      simpa [OrderedDict.keys] using counted.symm
    refine ⟨length, fun index here there => ?_⟩
    have member := List.get_mem memory.commands.entries ⟨index, here⟩
    have found := memory.commands.get?_eq_some_iff.2 member
    have own := twin.keyed _ _ found
    obtain ⟨row, rowFound, rowOf⟩ := twin.rows _ _ found
    have named : (sqlite.rows.entries.get ⟨index, there⟩).1 =
        (memory.commands.entries.get ⟨index, here⟩).1 := by
      have same := congrArg (fun keys => keys[index]?) twin.keys
      simpa [OrderedDict.keys, here, there] using same
    have other := sqlite.rows.get?_eq_some_iff.2 (List.get_mem sqlite.rows.entries ⟨index, there⟩)
    rw [named, rowFound, Option.some.injEq] at other
    rw [← own, ← other]
    exact ⟨rowOf, rowFound⟩
  unfold OrderedDict.values
  rw [List.forall₂_map_left_iff, List.forall₂_map_right_iff]
  exact each

theorem RowOf.waits {result : Option Fields} {command : StoredCommand} {row : Row}
    (rowOf : RowOf runtime codec result command row) (runId : String) :
    SqliteCommandStore.waits runId row = InMemoryCommandStore.waits runId command := by
  obtain ⟨own, -, -, -, -, status, -, -⟩ := rowOf.columns
  simp only [SqliteCommandStore.waits, InMemoryCommandStore.waits, own, status]

theorem Twin.pending (twin : Twin runtime codec memory sqlite) (runId : String) :
    sqlite.pending runId = memory.pending runId := by
  have both := twin.values
  unfold SqliteCommandStore.pending InMemoryCommandStore.pending
  generalize memory.commands.values = commands, sqlite.rows.values = rows at both
  induction both with
  | nil => rfl
  | cons here _ ih => rw [List.countP_cons, List.countP_cons, ih, here.1.waits]

theorem Twin.selected (twin : Twin runtime codec memory sqlite) (runId : String) :
    (memory.commands.values.find? (InMemoryCommandStore.waits runId) = none ∧
      sqlite.rows.values.find? (SqliteCommandStore.waits runId) = none) ∨
    ∃ command row, memory.commands.values.find? (InMemoryCommandStore.waits runId) = some command ∧
      sqlite.rows.values.find? (SqliteCommandStore.waits runId) = some row ∧
      RowOf runtime codec (memory.results.get? command.key) command row ∧
      sqlite.rows.get? command.key = some row := by
  have both := twin.values
  generalize memory.commands.values = commands, sqlite.rows.values = rows at both
  induction both with
  | nil => exact .inl ⟨rfl, rfl⟩
  | @cons command row _ _ here _ ih =>
    have same := here.1.waits runId
    cases waiting : InMemoryCommandStore.waits runId command with
    | true =>
      rw [waiting] at same
      refine .inr ⟨command, row, ?_, ?_, here⟩
      · simp [waiting]
      · simp [same]
    | false =>
      rw [waiting] at same
      simpa only [List.find?_cons, waiting, same] using ih

theorem Twin.set (twin : Twin runtime codec memory sqlite) {key : String × String}
    {command : StoredCommand} {row : Row} {results : OrderedDict (String × String) Fields}
    (own : key = command.key) (rowOf : RowOf runtime codec (results.get? key) command row)
    (others : ∀ other, other ≠ key → results.get? other = memory.results.get? other) :
    Twin runtime codec ⟨memory.commands.set key command, results⟩ ⟨sqlite.rows.set key row⟩ := by
  constructor
  case keyed => exact InMemoryCommandStore.keyed_set twin.keyed own results
  case keys =>
    change (sqlite.rows.set key row).keys = (memory.commands.set key command).keys
    rw [OrderedDict.keys_set, OrderedDict.keys_set, twin.keys]
  case rows =>
    intro other held found
    change (memory.commands.set key command).get? other = some held at found
    change ∃ there, (sqlite.rows.set key row).get? other = some there ∧
      RowOf runtime codec (results.get? other) held there
    rw [OrderedDict.get?_set] at found ⊢
    by_cases here : other = key
    · rw [if_pos here, Option.some.injEq] at found
      rw [if_pos here, ← found, here]
      exact ⟨row, rfl, rowOf⟩
    · rw [if_neg here] at found ⊢
      rw [others other here]
      exact twin.rows other held found
  case fresh =>
    intro other absent
    change (memory.commands.set key command).get? other = none at absent
    change results.get? other = none
    rw [OrderedDict.get?_set] at absent
    by_cases here : other = key
    · rw [if_pos here] at absent; cases absent
    · rw [if_neg here] at absent
      rw [others other here]
      exact twin.fresh other absent

end Sides

section Answers

variable {runtime codec} {memory : InMemoryCommandStore} {sqlite : SqliteCommandStore}
  {command : StoredCommand} {row : Row} {result : Option Fields}

def ResultLegible (codec : JsonCodec) (result : Option Fields) : Prop :=
  ∀ payload, result = some payload → Legible codec payload

def receiptShown (command : StoredCommand) (result : Option Fields) : CommandReceipt where
  runId := command.runId
  commandId := command.commandId
  status := command.status
  result := result
  createdAt := command.createdAt
  updatedAt := 0

theorem receiptFromRow_shown (rowOf : RowOf runtime codec result command row) :
    (ResultLegible codec result ∧ ∃ receipt,
      SqliteCommandStore.receiptFromRow runtime codec row = .ok receipt ∧
        { receipt with updatedAt := 0 } = receiptShown command result) ∨
    (¬ ResultLegible codec result ∧ ∃ fault,
      SqliteCommandStore.receiptFromRow runtime codec row = .error fault) := by
  obtain ⟨runId, commandId, -, -, createdAt, status, -, -⟩ := rowOf.columns
  by_cases legible : ResultLegible codec result
  · refine .inl ⟨legible, ⟨row.runId, row.commandId, row.status, result, row.createdAt,
      row.updatedAt⟩, ?_, ?_⟩
    · unfold SqliteCommandStore.receiptFromRow
      rw [resultFromRow_spec rowOf.result rfl legible]
      rfl
    · simp only [runId, commandId, createdAt, status, receiptShown]
  · have some : ∃ payload, result = some payload ∧ ¬ Legible codec payload := by
      simpa [ResultLegible] using legible
    obtain ⟨payload, there, illegible⟩ := some
    obtain ⟨fault, raised⟩ := resultFromRow_refused rowOf.result rfl there illegible
    refine .inr ⟨legible, fault, ?_⟩
    unfold SqliteCommandStore.receiptFromRow
    rw [raised]
    rfl

theorem receipt_agree (rowOf : RowOf runtime codec result command row) :
    some (Answer.receipt (some (receiptShown command result))) =
        (Answer.ofReceipt (SqliteCommandStore.receiptFromRow runtime codec row)).shown ↔
      ResultLegible codec result := by
  obtain ⟨legible, receipt, given, shown⟩ | ⟨illegible, fault, raised⟩ :=
    receiptFromRow_shown rowOf
  · rw [given]
    simp only [Answer.ofReceipt, Answer.shown, Option.map_some, shown, legible]
  · rw [raised]
    simp only [Answer.ofReceipt, Answer.shown, illegible, iff_false]
    exact Option.some_ne_none _

def Fits (runtime : TextRuntime) (codec : JsonCodec) (store : InMemoryCommandStore) : Call → Prop
  | .append command maxPending requireEmpty =>
    ∀ submitted, normalizeStoredCommand runtime command = .ok submitted → 1 ≤ maxPending →
      (∀ existing, store.commands.get? submitted.key = some existing →
        sameCommandIdentity existing submitted = true →
        LegibleCommand codec existing ∧ ResultLegible codec (store.results.get? submitted.key)) ∧
      (store.commands.get? submitted.key = none →
        (requireEmpty = true → store.pending submitted.runId = 0) →
        store.pending submitted.runId < maxPending →
        Writable codec submitted.args ∧ Writable codec submitted.principal.toJson)
  | .readCommand runId commandId =>
    ∀ command, store.commands.get? (runId, commandId) = some command →
      LegibleCommand codec command ∧
        (command.status = .pending → command.claimedBy = "" ∧ command.claimedAt = 0)
  | .claim runId workerId claimTtl now =>
    ∀ command, store.commands.values.find? (InMemoryCommandStore.waits runId) = some command →
      ¬ (command.status = .claimed ∧
        (command.claimedBy = workerId ∨ now - command.claimedAt ≤ claimTtl)) →
      LegibleCommand codec command
  | .acknowledge runId commandId workerId result _ =>
    ∀ payload, normalizeResultPayload runtime result = .ok payload →
      ∀ command, store.commands.get? (runId, commandId) = some command →
      command.status = .claimed → command.claimedBy = workerId → Legible codec payload
  | .receipt runId commandId => ResultLegible codec (store.results.get? (runId, commandId))

theorem readCommand_agree (twin : Twin runtime codec memory sqlite) (runId commandId : String) :
    (Answer.command (memory.readCommand runId commandId)).shown =
        (Answer.ofCommand? (sqlite.readCommand runtime codec runId commandId)).shown ↔
      Fits runtime codec memory (.readCommand runId commandId) := by
  unfold InMemoryCommandStore.readCommand SqliteCommandStore.readCommand Fits
  cases found : memory.commands.get? (runId, commandId) with
  | none => simp [found, twin.absent found, Answer.shown, Answer.ofCommand?]
  | some command =>
    obtain ⟨row, there, rowOf⟩ := twin.rows _ _ found
    simp only [found, there, Option.some.injEq, forall_eq']
    obtain ⟨legible, read⟩ | ⟨illegible, fault, raised⟩ := commandFromRow_spec rowOf
    · rw [read]
      simp only [Except.map, Answer.shown, Answer.ofCommand?, Option.some.injEq,
        Answer.command.injEq, legible, true_and]
      by_cases pending : command.status = .pending
      · obtain ⟨by_, at_⟩ := rowOf.claim.pending pending
        rw [by_, at_]
        constructor
        · intro same _
          exact ⟨congrArg StoredCommand.claimedBy same, congrArg StoredCommand.claimedAt same⟩
        · intro unclaimed
          obtain ⟨nobody, never⟩ := unclaimed pending
          rw [← nobody, ← never]
      · obtain ⟨by_, at_⟩ := rowOf.claim.taken pending
        simp [by_, at_, pending]
    · simp [raised, illegible, Except.map, Answer.shown, Answer.ofCommand?]

theorem receipt_call_agree (twin : Twin runtime codec memory sqlite) (runId commandId : String) :
    (Answer.receipt (memory.receipt runId commandId)).shown =
        (Answer.ofReceipt? (sqlite.receipt runtime codec runId commandId)).shown ↔
      Fits runtime codec memory (.receipt runId commandId) := by
  simp only [Fits, InMemoryCommandStore.receipt, SqliteCommandStore.receipt]
  cases found : memory.commands.get? (runId, commandId) with
  | none =>
    rw [twin.absent found, twin.fresh _ found]
    simp [Answer.shown, Answer.ofReceipt?, ResultLegible]
  | some command =>
    obtain ⟨row, there, rowOf⟩ := twin.rows _ _ found
    rw [← receipt_agree rowOf]
    have own : command.key = (runId, commandId) := (twin.keyed _ _ found).symm
    simp only [there, Option.map_some, InMemoryCommandStore.receiptOf, own]
    cases SqliteCommandStore.receiptFromRow runtime codec row <;> rfl

theorem existing_agree {existing submitted : StoredCommand} (refused : Fault)
    (rowOf : RowOf runtime codec result existing row) :
    (if sameCommandIdentity existing submitted then
        some (Answer.receipt (some (receiptShown existing result))) else none) =
      (match SqliteCommandStore.commandFromRow runtime codec row with
        | .error _ => none
        | .ok found =>
          if sameCommandIdentity found submitted then
            (Answer.ofReceipt (SqliteCommandStore.receiptFromRow runtime codec row)).shown
          else (Answer.raised refused).shown) ↔
      (sameCommandIdentity existing submitted = true →
        LegibleCommand codec existing ∧ ResultLegible codec result) := by
  obtain ⟨legible, read⟩ | ⟨illegible, fault, raised⟩ := commandFromRow_spec rowOf
  · have identity : sameCommandIdentity
        { existing with claimedBy := row.claimedBy, claimedAt := row.claimedAt } submitted =
          sameCommandIdentity existing submitted := rfl
    rw [read]
    simp only [identity]
    cases same : sameCommandIdentity existing submitted with
    | false => simp [Answer.shown]
    | true =>
      simp only [if_true, legible, true_and, true_implies]
      exact receipt_agree rowOf
  · rw [raised]
    cases same : sameCommandIdentity existing submitted <;> simp [illegible]

theorem inserted_agree (runtime : TextRuntime) (codec : JsonCodec) (sqlite : SqliteCommandStore)
    (command : StoredCommand) :
    some (Answer.receipt (some (receiptShown { command with status := .pending } none))) =
        (Answer.ofReceipt (SqliteCommandStore.insert runtime codec sqlite command).2).shown ↔
      Writable codec command.args ∧ Writable codec command.principal.toJson := by
  unfold SqliteCommandStore.insert SqliteCommandStore.dumps Writable
  cases codec.dumps command.args.json with
  | error message => simp [Except.mapError, Answer.ofReceipt, Answer.shown]
  | ok text =>
    cases codec.dumps command.principal.toJson.json with
    | error message => simp [Except.mapError, Answer.ofReceipt, Answer.shown]
    | ok principal =>
      simp only [Except.mapError, Except.ok.injEq, exists_eq', and_self, iff_true]
      rfl

theorem append_agree (twin : Twin runtime codec memory sqlite) {command : StoredCommand}
    {maxPending : Int} {requireEmpty : Bool} (submits : command.status = .pending) :
    (Answer.ofReceipt (memory.append runtime command maxPending requireEmpty).2).shown =
        (Answer.ofReceipt (sqlite.append runtime codec command maxPending requireEmpty).2).shown ↔
      Fits runtime codec memory (.append command maxPending requireEmpty) := by
  simp only [Fits, InMemoryCommandStore.append, SqliteCommandStore.append]
  cases normal : normalizeStoredCommand runtime command with
  | error fault => simp
  | ok submitted =>
    simp only [Except.ok.injEq, forall_eq']
    by_cases low : maxPending < 1
    · have refused : ¬ 1 ≤ maxPending := not_le.2 low
      simp only [if_pos low, refused, false_implies]
    · have bounded : 1 ≤ maxPending := not_lt.1 low
      simp only [if_neg low, bounded, true_implies]
      cases found : memory.commands.get? submitted.key with
      | some existing =>
        obtain ⟨row, there, rowOf⟩ := twin.rows _ _ found
        have own : submitted.key = existing.key := twin.keyed _ _ found
        simp only [there, Option.some.injEq, forall_eq', reduceCtorEq, false_implies, and_true]
        rw [← existing_agree (duplicateConflict runtime submitted.commandId) rowOf]
        rw [own]
        cases sameCommandIdentity existing submitted <;>
          cases SqliteCommandStore.commandFromRow runtime codec row with
          | error fault => rfl
          | ok other =>
            dsimp only
            cases sameCommandIdentity other submitted <;> rfl
      | none =>
        simp only [twin.absent found, twin.pending, reduceCtorEq, false_implies, implies_true,
          true_and, true_implies]
        by_cases busy : requireEmpty = true ∧ memory.pending submitted.runId ≠ 0
        · have taken : (requireEmpty && memory.pending submitted.runId ≠ 0) = true := by
            simpa using busy
          have vacuous : ¬ (requireEmpty = true → memory.pending submitted.runId = 0) :=
            fun idle => busy.2 (idle busy.1)
          simp only [taken, if_true, vacuous, false_implies]
        · have free : ¬ (requireEmpty && memory.pending submitted.runId ≠ 0) = true := by
            simpa using busy
          have idle : requireEmpty = true → memory.pending submitted.runId = 0 := by
            intro alone
            by_contra waiting
            exact busy ⟨alone, waiting⟩
          rw [if_neg free, if_neg free]
          refine Iff.trans ?_ (forall_prop_of_true idle).symm
          by_cases full : maxPending ≤ memory.pending submitted.runId
          · simp only [if_pos full, not_lt.2 full, false_implies]
          · have room : (memory.pending submitted.runId : Int) < maxPending := not_le.1 full
            simp only [if_neg full, room, true_implies]
            have waiting : submitted.status = .pending := by
              rw [(normalizeStoredCommand_ok runtime normal).2]
              exact submits
            have same : { submitted with status := .pending } = submitted := by rw [← waiting]
            have given : (Answer.ofReceipt (.ok (memory.receiptOf submitted))).shown =
                some (.receipt (some (receiptShown submitted none))) := by
              rw [← twin.fresh _ found]
              rfl
            have agree := inserted_agree runtime codec sqlite submitted
            rw [same, ← given] at agree
            exact agree

theorem claimed_row (workerId : String) (now : Rat)
    (rowOf : RowOf runtime codec result command row) :
    RowOf runtime codec result
      { command with status := .claimed, claimedBy := workerId, claimedAt := now }
      { row with
        status := .claimed, claimedBy := workerId, claimedAt := now, updatedAt := now } := by
  obtain ⟨runId, commandId, type, reason, createdAt, -, token, schema⟩ := rowOf.columns
  exact
    { columns := ⟨runId, commandId, type, reason, createdAt, rfl, token, schema⟩
      args := rowOf.args
      principal := rowOf.principal
      claim := ⟨fun pending => (by cases pending), fun _ => ⟨rfl, rfl⟩⟩
      normal := normalizeStoredCommand_claim .claimed workerId now rowOf.normal
      result := rowOf.result }

theorem claim_same (rowOf : RowOf runtime codec result command row) (workerId : String)
    (claimTtl now : Rat) :
    (row.status = .claimed ∧ (row.claimedBy = workerId ∨ now - row.claimedAt ≤ claimTtl)) ↔
      (command.status = .claimed ∧
        (command.claimedBy = workerId ∨ now - command.claimedAt ≤ claimTtl)) := by
  rw [rowOf.columns.2.2.2.2.2.1]
  by_cases pending : command.status = .pending
  · simp [pending]
  · obtain ⟨holder, since⟩ := rowOf.claim.taken pending
    rw [holder, since]

theorem claim_agree (twin : Twin runtime codec memory sqlite) (runId workerId : String)
    (claimTtl now : Rat) :
    (Answer.command (memory.claim runId workerId claimTtl now).2).shown =
        (Answer.ofCommand? (sqlite.claim runtime codec runId workerId claimTtl now).2).shown ↔
      Fits runtime codec memory (.claim runId workerId claimTtl now) := by
  simp only [Fits, InMemoryCommandStore.claim, SqliteCommandStore.claim]
  obtain ⟨none, empty⟩ | ⟨command, row, selected, there, rowOf, -⟩ := twin.selected runId
  · simp [none, empty, Answer.ofCommand?, Answer.shown]
  · simp only [selected, there, Option.some.injEq, forall_eq', claim_same rowOf]
    split
    next held => exact ⟨fun _ free => absurd held free, fun _ => rfl⟩
    next free =>
      refine Iff.trans ?_ (forall_prop_of_true free).symm
      have same : LegibleCommand codec
          { command with status := .claimed, claimedBy := workerId, claimedAt := now } ↔
          LegibleCommand codec command := Iff.rfl
      obtain ⟨legible, read⟩ | ⟨illegible, fault, raised⟩ :=
        commandFromRow_spec (claimed_row workerId now rowOf)
      · simp [read, same.1 legible, Except.map, Answer.ofCommand?]
      · have hidden : ¬ LegibleCommand codec command := fun legible => illegible (same.2 legible)
        simp [raised, hidden, Except.map, Answer.ofCommand?, Answer.shown]

theorem acknowledgedStatus_done (answer : ControlResult) :
    acknowledgedStatus answer ≠ .pending := by
  unfold acknowledgedStatus
  split <;> simp

theorem acknowledged_row {answer : ControlResult} {payload : Fields} {text : String} (now : Rat)
    (rowOf : RowOf runtime codec result command row) (claimed : command.status = .claimed)
    (normal : normalizeResultPayload runtime answer = .ok payload)
    (written : codec.dumps payload.json = .ok text) :
    RowOf runtime codec (some payload) { command with status := acknowledgedStatus answer }
      { row with
        status := acknowledgedStatus answer, result := some text, updatedAt := now } := by
  obtain ⟨runId, commandId, type, reason, createdAt, -, token, schema⟩ := rowOf.columns
  have taken := rowOf.claim.taken (by rw [claimed]; simp)
  exact
    { columns := ⟨runId, commandId, type, reason, createdAt, rfl, token, schema⟩
      args := rowOf.args
      principal := rowOf.principal
      claim := ⟨fun pending => absurd pending (acknowledgedStatus_done answer), fun _ => taken⟩
      normal := normalizeStoredCommand_claim _ _ _ rowOf.normal
      result := .some normal written }

theorem acknowledge_agree (twin : Twin runtime codec memory sqlite)
    (runId commandId workerId : String) (answer : ControlResult) (now : Rat) :
    (Answer.ofReceipt (memory.acknowledge runtime runId commandId workerId answer).2).shown =
        (Answer.ofReceipt
          (sqlite.acknowledge runtime codec runId commandId workerId answer now).2).shown ↔
      Fits runtime codec memory (.acknowledge runId commandId workerId answer now) := by
  simp only [Fits, InMemoryCommandStore.acknowledge, SqliteCommandStore.acknowledge]
  cases normal : normalizeResultPayload runtime answer with
  | error fault => simp
  | ok payload =>
    simp only [Except.ok.injEq, forall_eq']
    cases found : memory.commands.get? (runId, commandId) with
    | none =>
      cases written : SqliteCommandStore.dumps codec payload with
      | error fault => simp [Answer.ofReceipt, Answer.shown]
      | ok text => simp [twin.absent found, Answer.ofReceipt, Answer.shown]
    | some command =>
      obtain ⟨row, there, rowOf⟩ := twin.rows _ _ found
      have status : row.status = command.status := rowOf.columns.2.2.2.2.2.1
      simp only [there, Option.some.injEq, forall_eq', status]
      by_cases held : command.status = .claimed ∧ command.claimedBy = workerId
      · obtain ⟨claimed, holder⟩ := held
        have taken := rowOf.claim.taken (by rw [claimed]; simp)
        simp only [claimed, holder, taken.1, ne_eq, not_true_eq_false, or_self, if_false,
          true_implies]
        have own : (runId, commandId) = command.key := twin.keyed _ _ found
        have given : (Answer.ofReceipt (.ok (InMemoryCommandStore.receiptOf
            ⟨memory.commands, memory.results.set (runId, commandId) payload⟩
            { command with status := acknowledgedStatus answer }))).shown =
            some (.receipt (some (receiptShown
              { command with status := acknowledgedStatus answer } (some payload)))) := by
          have mine := memory.results.get?_set_self (runId, commandId) payload
          rw [← mine, own]
          rfl
        unfold SqliteCommandStore.dumps
        cases written : codec.dumps payload.json with
        | error message =>
          have illegible : ¬ Legible codec payload := by
            rintro ⟨text, -, wrote, -⟩
            rw [written] at wrote
            cases wrote
          simp only [illegible, iff_false]
          intro same
          exact absurd (given.symm.trans same) (Option.some_ne_none _)
        | ok text =>
          have agree := receipt_agree (acknowledged_row now rowOf claimed normal written)
          rw [← given] at agree
          refine Iff.trans agree ?_
          simp [ResultLegible]
      · obtain ⟨free, other⟩ := rowOf.unheld held
        simp only [if_pos free, if_pos other]
        constructor
        · exact fun _ claimed holder => absurd ⟨claimed, holder⟩ held
        · intro _
          cases SqliteCommandStore.dumps codec payload <;> rfl

end Answers

section Steps

variable {runtime codec} {memory : InMemoryCommandStore} {sqlite : SqliteCommandStore}

theorem inserted_row {command : StoredCommand} {args principal : String}
    (pending : command.status = .pending)
    (normal : normalizeStoredCommand runtime command = .ok command)
    (args_written : codec.dumps command.args.json = .ok args)
    (principal_written : codec.dumps command.principal.toJson.json = .ok principal) :
    RowOf runtime codec none command (SqliteCommandStore.inserted command args principal) where
  columns := ⟨rfl, rfl, rfl, rfl, rfl, pending.symm, rfl, rfl⟩
  args := args_written
  principal := principal_written
  claim := ⟨fun _ => ⟨rfl, rfl⟩, fun taken => absurd pending taken⟩
  normal := normal
  result := .none

theorem append_twin (twin : Twin runtime codec memory sqlite) {command : StoredCommand}
    {maxPending : Int} {requireEmpty : Bool} (submits : command.status = .pending)
    (fits : Fits runtime codec memory (.append command maxPending requireEmpty)) :
    Twin runtime codec (memory.append runtime command maxPending requireEmpty).1
      (sqlite.append runtime codec command maxPending requireEmpty).1 := by
  simp only [Fits] at fits
  simp only [InMemoryCommandStore.append, SqliteCommandStore.append]
  cases normal : normalizeStoredCommand runtime command with
  | error fault => exact twin
  | ok submitted =>
    by_cases low : maxPending < 1
    · simpa only [if_pos low] using twin
    · simp only [if_neg low]
      cases found : memory.commands.get? submitted.key with
      | some existing =>
        obtain ⟨row, there, -⟩ := twin.rows _ _ found
        simp only [there]
        have kept : (if sameCommandIdentity existing submitted = true then
            (memory, Except.ok (memory.receiptOf existing))
            else (memory, .error (duplicateConflict runtime submitted.commandId))).1 = memory := by
          split <;> rfl
        rw [kept]
        split
        · exact twin
        · split <;> exact twin
      | none =>
        simp only [twin.absent found, twin.pending]
        by_cases busy : (requireEmpty && decide (memory.pending submitted.runId ≠ 0)) = true
        · simpa only [if_pos busy] using twin
        · by_cases full : maxPending ≤ memory.pending submitted.runId
          · simpa only [if_neg busy, if_pos full] using twin
          · simp only [if_neg busy, if_neg full]
            have idle : requireEmpty = true → memory.pending submitted.runId = 0 := by
              intro alone
              by_contra waiting
              exact busy (by simp [alone, waiting])
            obtain ⟨⟨args, written⟩, principal, principalWritten⟩ :=
              (fits submitted normal (not_lt.1 low)).2 found idle (not_le.1 full)
            have waiting : submitted.status = .pending := by
              rw [(normalizeStoredCommand_ok runtime normal).2]
              exact submits
            have inserted : (SqliteCommandStore.insert runtime codec sqlite submitted).1 =
                ⟨sqlite.rows.set submitted.key
                  (SqliteCommandStore.inserted submitted args principal)⟩ := by
              simp only [SqliteCommandStore.insert, SqliteCommandStore.dumps, written,
                principalWritten, Except.mapError]
            rw [inserted]
            refine twin.set rfl ?_ fun _ _ => rfl
            rw [twin.fresh _ found]
            exact inserted_row waiting (normalizeStoredCommand_twice normal) written
              principalWritten

theorem claim_twin (twin : Twin runtime codec memory sqlite) (runId workerId : String)
    (claimTtl now : Rat) :
    Twin runtime codec (memory.claim runId workerId claimTtl now).1
      (sqlite.claim runtime codec runId workerId claimTtl now).1 := by
  simp only [InMemoryCommandStore.claim, SqliteCommandStore.claim]
  obtain ⟨none, empty⟩ | ⟨command, row, selected, there, rowOf, -⟩ := twin.selected runId
  · simpa only [none, empty] using twin
  · simp only [selected, there, claim_same rowOf]
    split
    · exact twin
    · have waiting := List.find?_some selected
      simp only [InMemoryCommandStore.waits, Bool.and_eq_true, decide_eq_true_eq] at waiting
      have own : (runId, command.commandId) = command.key := by rw [← waiting.1]; rfl
      have same : (row.runId, row.commandId) = command.key := by
        rw [rowOf.columns.1, rowOf.columns.2.1]
        rfl
      rw [same, own]
      refine twin.set ?_ ?_ fun _ _ => rfl
      · rfl
      · exact claimed_row workerId now rowOf

theorem acknowledge_twin (twin : Twin runtime codec memory sqlite)
    {runId commandId workerId : String} {answer : ControlResult} {now : Rat}
    (fits : Fits runtime codec memory (.acknowledge runId commandId workerId answer now)) :
    Twin runtime codec (memory.acknowledge runtime runId commandId workerId answer).1
      (sqlite.acknowledge runtime codec runId commandId workerId answer now).1 := by
  simp only [Fits] at fits
  simp only [InMemoryCommandStore.acknowledge, SqliteCommandStore.acknowledge]
  cases normal : normalizeResultPayload runtime answer with
  | error fault => exact twin
  | ok payload =>
    cases found : memory.commands.get? (runId, commandId) with
    | none =>
      simp only [twin.absent found]
      split <;> exact twin
    | some command =>
      obtain ⟨row, there, rowOf⟩ := twin.rows _ _ found
      simp only [there, rowOf.columns.2.2.2.2.2.1]
      by_cases held : command.status = .claimed ∧ command.claimedBy = workerId
      · obtain ⟨claimed, holder⟩ := held
        obtain ⟨text, -, written, -⟩ := fits payload normal command found claimed holder
        have taken := rowOf.claim.taken (by rw [claimed]; simp)
        have mine : ¬ (command.status ≠ .claimed ∨ command.claimedBy ≠ workerId) := by
          simp [claimed, holder]
        have also : ¬ (command.status ≠ .claimed ∨ row.claimedBy ≠ workerId) := by
          rw [taken.1]
          exact mine
        simp only [if_neg mine, if_neg also, SqliteCommandStore.dumps, written, Except.mapError]
        have own := twin.keyed _ _ found
        refine twin.set ?_ ?_ fun other apart => OrderedDict.get?_set_ne _ _ apart
        · exact own
        · rw [OrderedDict.get?_set_self]
          exact acknowledged_row now rowOf claimed normal written
      · obtain ⟨free, other⟩ := rowOf.unheld held
        simp only [if_pos free, if_pos other]
        split <;> exact twin

def bothMachine (runtime : TextRuntime) (codec : JsonCodec) :
    Machine (InMemoryCommandStore × SqliteCommandStore) Call (Answer × Answer) where
  init := (.empty, .empty)
  step := fun stores call =>
    (((stores.1.call runtime call).1, (stores.2.call runtime codec call).1),
      ((stores.1.call runtime call).2, (stores.2.call runtime codec call).2))

-- Both raise, or both give the same command or receipt apart from `updated_at`.
def SameAnswers (runtime : TextRuntime) (codec : JsonCodec)
    (stores : InMemoryCommandStore × SqliteCommandStore) (call : Call) : Prop :=
  ((bothMachine runtime codec).answer stores call).1.shown =
    ((bothMachine runtime codec).answer stores call).2.shown

theorem sameAnswers_iff (twin : Twin runtime codec memory sqlite) {call : Call}
    (submits : call.Submits) :
    SameAnswers runtime codec (memory, sqlite) call ↔ Fits runtime codec memory call := by
  cases call with
  | append command maxPending requireEmpty => exact append_agree twin submits
  | readCommand runId commandId => exact readCommand_agree twin runId commandId
  | claim runId workerId claimTtl now => exact claim_agree twin runId workerId claimTtl now
  | acknowledge runId commandId workerId answer now =>
    exact acknowledge_agree twin runId commandId workerId answer now
  | receipt runId commandId => exact receipt_call_agree twin runId commandId

theorem call_twin (twin : Twin runtime codec memory sqlite) {call : Call}
    (submits : call.Submits) (fits : Fits runtime codec memory call) :
    Twin runtime codec (memory.call runtime call).1 (sqlite.call runtime codec call).1 := by
  cases call with
  | append command maxPending requireEmpty => exact append_twin twin submits fits
  | readCommand runId commandId => exact twin
  | claim runId workerId claimTtl now => exact claim_twin twin runId workerId claimTtl now
  | acknowledge runId commandId workerId answer now => exact acknowledge_twin twin fits
  | receipt runId commandId => exact twin

theorem empty_twin : Twin runtime codec .empty .empty where
  keyed := fun key command found => by cases found
  keys := rfl
  rows := fun key command found => by cases found
  fresh := fun _ _ => rfl

end Steps

theorem inboxes_agree (runtime : TextRuntime) (codec : JsonCodec) (calls : List Call)
    (submits : ∀ call ∈ calls, call.Submits) :
    ((bothMachine runtime codec).Along (SameAnswers runtime codec)
        (bothMachine runtime codec).init calls ↔
      (bothMachine runtime codec).Along (fun stores => Fits runtime codec stores.1)
        (bothMachine runtime codec).init calls) ∧
    Kept (memoryMachine runtime) InMemoryCommandStore.board
      (Call.deed (InMemoryCommandStore.keep runtime)) .empty calls ∧
    Kept (sqliteMachine runtime codec) SqliteCommandStore.board
      (Call.deed (SqliteCommandStore.keep runtime codec)) .empty calls := by
  refine ⟨?_, memory_kept runtime calls submits, sqlite_kept runtime codec calls⟩
  have along (stores : InMemoryCommandStore × SqliteCommandStore) :
      (bothMachine runtime codec).Along (fun _ call => call.Submits) stores calls := by
    induction calls generalizing stores with
    | nil => trivial
    | cons call rest ih =>
      exact ⟨submits call List.mem_cons_self,
        ih (fun later member => submits later (List.mem_cons_of_mem _ member)) _⟩
  have start : Twin runtime codec (bothMachine runtime codec).init.1
      (bothMachine runtime codec).init.2 := empty_twin
  exact Machine.along_congr_within (fun stores => Twin runtime codec stores.1 stores.2)
    (fun _ _ twin submits fits => call_twin twin submits fits)
    (fun _ _ twin submits => sameAnswers_iff twin submits) start (along _)

section Example

def operator : CommandPrincipal := ⟨"tenant", "user", ""⟩

def noFields : Fields := ⟨[], emptyObject.ordered⟩

def operatorText : String :=
  "\x7b\"issuer\": \"\", \"tenant_id\": \"tenant\", \"user_id\": \"user\"\x7d"

def plainCodec : JsonCodec where
  dumps := fun value =>
    if value.value = noFields.json.value then .ok "\x7b\x7d"
    else if value.value = operator.toJson.json.value then .ok operatorText
    else .error "not written here"
  loads := fun text =>
    if text = "\x7b\x7d" then .ok noFields.json
    else if text = operatorText then .ok operator.toJson.json
    else .error "not read here"
  loads_dumps := by
    intro value text found written read
    have same : found.value = value.value := by
      split at written
      next empty =>
        cases written
        rw [if_pos rfl] at read
        cases read
        exact empty.symm
      · split at written
        next principal =>
          cases written
          rw [if_neg (by decide), if_pos rfl] at read
          cases read
          exact principal.symm
        · cases written
    cases found
    cases value
    cases same
    rfl

def statusCommand (claimedBy : String) (claimedAt : Rat) : StoredCommand where
  runId := "run_1"
  commandId := "cmd_1"
  type := "status"
  args := noFields
  principal := operator
  tokenSha256 := ""
  reason := ""
  createdAt := 1
  status := .pending
  claimedBy := claimedBy
  claimedAt := claimedAt

theorem inboxes_agree_turn :
    (bothMachine asciiRuntime plainCodec).Along
      (fun stores => Fits asciiRuntime plainCodec stores.1)
      (bothMachine asciiRuntime plainCodec).init
      [.append (statusCommand "" 0) 1 false, .readCommand "run_1" "cmd_1",
        .claim "run_1" "worker" 30 2] :=
  (inboxes_agree asciiRuntime plainCodec
    [.append (statusCommand "" 0) 1 false, .readCommand "run_1" "cmd_1",
      .claim "run_1" "worker" 30 2] (by
      intro call member
      simp only [List.mem_cons, List.not_mem_nil, or_false] at member
      rcases member with rfl | rfl | rfl <;> simp [Call.Submits, statusCommand])).1.1
    ⟨rfl, rfl, rfl, trivial⟩

def claimant : Option Answer → String
  | some (.command (some command)) => command.claimedBy
  | _ => ""

theorem inboxes_part : ¬ ∀ (runtime : TextRuntime) (codec : JsonCodec) (calls : List Call),
    (∀ call ∈ calls, call.Submits) →
      (bothMachine runtime codec).Along (SameAnswers runtime codec)
        (bothMachine runtime codec).init calls := by
  intro every
  have along := every asciiRuntime plainCodec
    [.append (statusCommand "worker" 5) 1 false, .readCommand "run_1" "cmd_1"] (by
      intro call member
      simp only [List.mem_cons, List.not_mem_nil, or_false] at member
      rcases member with rfl | rfl <;> simp [Call.Submits, statusCommand])
  have same := congrArg claimant along.2.1
  revert same
  decide +kernel

end Example

end MonoidKernel.CommandInbox
