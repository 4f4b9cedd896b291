import MonoidKernel.Checkpoint.RoundTrip

set_option autoImplicit false

namespace MonoidKernel.CheckpointCodec

open Library AgentLoop

variable {F : Type}

section Suspensions

def reasonValue : SuspensionReason → String
  | .settled => "settled"
  | .awaitingTasks => "awaiting_tasks"
  | .limited => "limited"
  | .terminal => "terminal"
  | .turnFailed => "turn_failed"
  | .interrupted => "interrupted"
  | .paused => "paused"

def statusValue : RunStatus → String
  | .completed => "completed"
  | .failed => "failed"
  | .limited => "limited"

def optionalInt : Option Nat → Json F
  | none => .null
  | some value => .int value

def causeText (cause : Option InterruptionCause) : String :=
  cause.elim "" interruptionCauseValue

def suspensionEntries (suspension : Suspension) : List (List Char × Json F) :=
  [("reason".toList, str (reasonValue suspension.reason)),
    ("status".toList, str (statusValue suspension.status)),
    ("final_text".toList, str suspension.finalText),
    ("error".toList, str suspension.error),
    ("error_code".toList, str suspension.errorCode),
    ("awaiting_task_ids".toList, .list (suspension.awaitingTaskIds.map str)),
    ("has_external".toList, .bool suspension.hasExternal),
    ("retryable".toList, .bool suspension.retryable),
    ("http_status".toList, optionalInt suspension.httpStatus),
    ("config_recoverable".toList, .bool suspension.configRecoverable),
    ("provider_error_code".toList, str suspension.providerErrorCode),
    ("provider_retried".toList, .bool suspension.providerRetried),
    ("model_tool_calls_pending".toList, .bool suspension.modelToolCallsPending),
    ("interruption_cause".toList, str (causeText suspension.interruptionCause))]

def suspensionCheckpointPayload (suspension : Suspension) : Json F :=
  .dict (suspensionEntries suspension)

theorem parse_causeText (cause : Option InterruptionCause) :
    (causeText cause).isEmpty = true ∨
      (parseInterruptionCause (causeText cause)).isSome = true := by
  cases cause with
  | none => exact .inl rfl
  | some cause =>
    right
    cases cause <;> decide

theorem isListOf_texts (texts : List String) :
    isListOf isStr (.list (texts.map str) : Json F) = true := by
  simp [isListOf, isStr, str]

theorem suspension_accepted (suspension : Suspension) (fieldName : String) :
    validateSuspensionPayload (suspensionCheckpointPayload suspension : Json F) fieldName =
      .ok () := by
  have reason : suspensionReasons.contains (reasonValue suspension.reason) = true := by
    cases suspension.reason <;> decide
  have status : suspensionCheckpointStatuses.contains (statusValue suspension.status) = true := by
    cases suspension.status <;> decide
  have cause := parse_causeText suspension.interruptionCause
  simp only [validateSuspensionPayload, suspensionCheckpointPayload, both_ok]
  refine ⟨?_, ?_, ?_, ?_, ?_, ?_, ?_⟩
  · rw [show entry (suspensionEntries suspension) "reason" =
      some (str (reasonValue suspension.reason) : Json F) from rfl]
    simpa [requireWord, str] using reason
  · rw [show entry (suspensionEntries suspension) "status" =
      some (str (statusValue suspension.status) : Json F) from rfl]
    simpa [requireWord, str] using status
  · rw [forM_ok]
    intro name listed
    simp only [suspensionStringFields, List.mem_cons, List.not_mem_nil, or_false] at listed
    rcases listed with rfl | rfl | rfl | rfl | rfl <;> rfl
  · rw [show entry (suspensionEntries suspension) "interruption_cause" =
      some (str (causeText suspension.interruptionCause) : Json F) from rfl]
    simpa [whenPresent] using cause
  · rw [forM_ok]
    intro name listed
    simp only [suspensionBoolFields, List.mem_cons, List.not_mem_nil, or_false] at listed
    rcases listed with rfl | rfl | rfl | rfl | rfl <;> rfl
  · rw [show entry (suspensionEntries suspension) "http_status" =
      some (optionalInt suspension.httpStatus : Json F) from rfl]
    cases suspension.httpStatus with
    | none => rfl
    | some status => simp [whenPresent, unlessNull, isNull, optionalInt, requireNonnegativeInt,
        isNonnegativeInt]
  · rw [show entry (suspensionEntries suspension) "awaiting_task_ids" =
      some (.list (suspension.awaitingTaskIds.map str) : Json F) from rfl]
    simp [whenPresent, requireListOf, isListOf_texts]

end Suspensions

section Reading

def allReasons : List SuspensionReason :=
  [.settled, .awaitingTasks, .limited, .terminal, .turnFailed, .interrupted, .paused]

def allStatuses : List RunStatus := [.completed, .failed, .limited]

def parseStr (entries : List (List Char × Json F)) (key : String) : Option String :=
  match entry entries key with
  | none => some ""
  | some value => textOf value

def parseBool (entries : List (List Char × Json F)) (key : String) : Option Bool :=
  match entry entries key with
  | none => some false
  | some (.bool value) => some value
  | _ => none

def optionalTexts (entries : List (List Char × Json F)) (key : String) : Option (List String) :=
  match entry entries key with
  | none => some []
  | some (.list items) => items.mapM textOf
  | _ => none

def parseHttpStatus (entries : List (List Char × Json F)) : Option (Option Nat) :=
  match entry entries "http_status" with
  | none => some none
  | some .null => some none
  | some (.int value) => if 0 ≤ value then some (some value.toNat) else none
  | _ => none

def parseCause (text : String) : Option (Option InterruptionCause) :=
  if text.isEmpty then some none else (parseInterruptionCause text).map some

def suspensionFromEntries (entries : List (List Char × Json F)) : Option Suspension := do
  let reason ← parseStr entries "reason"
  let status ← parseStr entries "status"
  let reason ← allReasons.find? fun known => reasonValue known == reason
  let status ← allStatuses.find? fun known => statusValue known == status
  let awaitingTaskIds ← optionalTexts entries "awaiting_task_ids"
  let httpStatus ← parseHttpStatus entries
  let cause ← parseStr entries "interruption_cause"
  let finalText ← parseStr entries "final_text"
  let error ← parseStr entries "error"
  let errorCode ← parseStr entries "error_code"
  let hasExternal ← parseBool entries "has_external"
  let retryable ← parseBool entries "retryable"
  let configRecoverable ← parseBool entries "config_recoverable"
  let providerErrorCode ← parseStr entries "provider_error_code"
  let providerRetried ← parseBool entries "provider_retried"
  let modelToolCallsPending ← parseBool entries "model_tool_calls_pending"
  let interruptionCause ← parseCause cause
  return {
    reason, status, finalText, error, errorCode, awaitingTaskIds, hasExternal, retryable
    httpStatus, configRecoverable, providerErrorCode, providerRetried, modelToolCallsPending
    interruptionCause }

def suspensionFromCheckpointPayload : Json F → Option Suspension
  | .dict entries => suspensionFromEntries entries
  | _ => none

theorem mapM_textOf (texts : List String) :
    (texts.map (str : String → Json F)).mapM textOf = some texts := by
  induction texts with
  | nil => rfl
  | cons text rest ih => simp [ih]

theorem find_reason (reason : SuspensionReason) :
    (allReasons.find? fun known => reasonValue known == reasonValue reason) = some reason := by
  cases reason <;> decide

theorem find_status (status : RunStatus) :
    (allStatuses.find? fun known => statusValue known == statusValue status) = some status := by
  cases status <;> decide

theorem parseCause_causeText (cause : Option InterruptionCause) :
    parseCause (causeText cause) = some cause := by
  cases cause with
  | none => rfl
  | some cause => cases cause <;> decide

theorem suspension_restored (suspension : Suspension) :
    suspensionFromCheckpointPayload (suspensionCheckpointPayload suspension : Json F) =
      some suspension := by
  have texts (key : String) (text : String)
      (found : entry (suspensionEntries suspension) key = some (str text : Json F)) :
      parseStr (suspensionEntries suspension : List (List Char × Json F)) key = some text := by
    simp [parseStr, found]
  have flags (key : String) (flag : Bool)
      (found : entry (suspensionEntries suspension) key = some (.bool flag : Json F)) :
      parseBool (suspensionEntries suspension : List (List Char × Json F)) key = some flag := by
    simp [parseBool, found]
  have ids : optionalTexts (suspensionEntries suspension : List (List Char × Json F))
      "awaiting_task_ids" = some suspension.awaitingTaskIds := by
    rw [optionalTexts, show entry (suspensionEntries suspension) "awaiting_task_ids" =
      some (.list (suspension.awaitingTaskIds.map str) : Json F) from rfl]
    exact mapM_textOf _
  have http : parseHttpStatus (suspensionEntries suspension : List (List Char × Json F)) =
      some suspension.httpStatus := by
    rw [parseHttpStatus, show entry (suspensionEntries suspension) "http_status" =
      some (optionalInt suspension.httpStatus : Json F) from rfl]
    cases suspension.httpStatus <;> simp [optionalInt]
  simp only [suspensionFromCheckpointPayload, suspensionCheckpointPayload, suspensionFromEntries]
  rw [texts "reason" _ rfl, texts "status" _ rfl, ids, http, texts "interruption_cause" _ rfl,
    texts "final_text" _ rfl, texts "error" _ rfl, texts "error_code" _ rfl,
    flags "has_external" _ rfl, flags "retryable" _ rfl, flags "config_recoverable" _ rfl,
    texts "provider_error_code" _ rfl, flags "provider_retried" _ rfl,
    flags "model_tool_calls_pending" _ rfl]
  simp only [Option.bind_eq_bind, Option.bind_some, find_reason, find_status, parseCause_causeText]
  rfl

end Reading

section Activations

def sessionStateOf (suspension : Suspension) : String :=
  match suspension.reason with
  | .terminal =>
    if suspension.errorCode = "cancelled" then "cancelled"
    else if suspension.status = .limited then "limited"
    else "failed"
  | .settled => "awaiting_input"
  | .awaitingTasks => "awaiting_tasks"
  | .limited => "limited"
  | .paused => "paused"
  | .interrupted => "interrupted"
  | .turnFailed => "turn_failed"

def isSafeInterruption (cause : Option InterruptionCause) : Bool :=
  [some InterruptionCause.gracefulDrain, some .hostShutdown, some .leaseLost].contains cause

def outcomeOf (suspension : Suspension) :
    TerminalOutcomeKind × RetryEligibility × Option InterruptionCause :=
  let cause := suspension.interruptionCause
  if suspension.errorCode = "evidence_uncommitted" then (.evidenceUncommitted, .safe, none)
  else if suspension.errorCode = "dispatch_unknown" then
    (.dispatchUnknown, .afterReconciliation, none)
  else if suspension.reason = .interrupted then (.interrupted, .safe, cause)
  else if suspension.errorCode = "cancelled" ∨ cause = some .userCancel then
    (.cancelled, .forbidden, cause)
  else if suspension.errorCode = "run_timeout" ∨ cause = some .deadline then
    (.cancelled, .forbidden, cause)
  else if isSafeInterruption cause then (.interrupted, .safe, cause)
  else if suspension.reason = .settled then (.completed, .notApplicable, cause)
  else if suspension.reason = .paused ∨ suspension.reason = .awaitingTasks then
    (.paused, .notApplicable, cause)
  else if suspension.reason = .limited then (.limited, .forbidden, cause)
  else if suspension.configRecoverable then (.failedConfig, .afterConfiguration, cause)
  else if suspension.retryable then (.failedRetryable, .safe, cause)
  else (.failedTerminal, .forbidden, cause)

-- `terminal_outcome_from_suspension`; `none` is an outcome that cannot be built.
def terminalOutcomeFromSuspension (suspension : Suspension) (runId : OpaqueId)
    (checkpointSeq : Option Nat) : Option TerminalPayload :=
  let outcome := outcomeOf suspension
  let payload : TerminalPayload := {
    runId
    kind := outcome.1
    retryEligibility := outcome.2.1
    interruptionCause := outcome.2.2
    checkpointSeq
    finalOutputRef := ""
    partialOutputRef := ""
    lastEvidenceRef := ""
    errorCode := suspension.errorCode
    providerErrorCode := suspension.providerErrorCode
    httpStatus := suspension.httpStatus }
  if payload.wellFormed then some payload else none

def outcomeKindValue : TerminalOutcomeKind → String
  | .completed => "completed"
  | .paused => "paused"
  | .limited => "limited"
  | .cancelled => "cancelled"
  | .interrupted => "interrupted"
  | .failedRetryable => "failed_retryable"
  | .failedConfig => "failed_config"
  | .failedTerminal => "failed_terminal"
  | .dispatchUnknown => "dispatch_unknown"
  | .evidenceUncommitted => "evidence_uncommitted"

def retryEligibilityValue : RetryEligibility → String
  | .notApplicable => "not_applicable"
  | .safe => "safe"
  | .afterConfiguration => "after_configuration"
  | .afterReconciliation => "after_reconciliation"
  | .forbidden => "forbidden"

structure RecordedDigest where
  text : String
  recorded : isRecordedDigest text = true

structure ActivationCommand where
  runId : OpaqueId
  sourceCheckpointSeq : Nat
  identitySha256 : RecordedDigest

def ActivationCommand.checkpointMarker (command : ActivationCommand) : String :=
  activationMarker command.identitySha256.text

structure EventCursor where
  lastSequence : Nat
  portable : lastSequence < 10 ^ maxJsonIntegerDigits

def terminalRef (command : ActivationCommand) (terminal : Bool) : String :=
  if terminal then "terminal:" ++ command.runId.text else ""

def receiptEntries (command : ActivationCommand) (cursor : EventCursor) (checkpointSeq : Nat)
    (checkpointSha256 : String) (terminal : Bool) (suspension : Suspension)
    (outcome : TerminalPayload) : List (List Char × Json F) :=
  [("checkpoint_seq".toList, .int checkpointSeq),
    ("checkpoint_sha256".toList, str checkpointSha256),
    ("state".toList, str (sessionStateOf suspension)),
    ("terminal".toList, .bool terminal),
    ("suspension".toList, suspensionCheckpointPayload suspension),
    ("command_identity_sha256".toList, str command.identitySha256.text),
    ("event_cursor".toList, .int cursor.lastSequence),
    ("stream_cursor".toList, .int 0),
    ("outcome_kind".toList, str (outcomeKindValue outcome.kind)),
    ("retry_eligibility".toList, str (retryEligibilityValue outcome.retryEligibility)),
    ("error_code".toList, str outcome.errorCode),
    ("provider_error_code".toList, str outcome.providerErrorCode),
    ("interruption_cause".toList, str (causeText outcome.interruptionCause)),
    ("terminal_outcome_ref".toList, str (terminalRef command terminal))]

def setEntry (entries : List (List Char × Json F)) (key : List Char) (value : Json F) :
    List (List Char × Json F) :=
  if entries.any (·.1 == key) then
    entries.map fun item => if item.1 == key then (key, value) else item
  else entries ++ [(key, value)]

theorem forall_setEntry {entries : List (List Char × Json F)} {key : List Char} {value : Json F}
    {holds : List Char × Json F → Prop} (before : ∀ item ∈ entries, holds item)
    (added : holds (key, value)) : ∀ item ∈ setEntry entries key value, holds item := by
  unfold setEntry
  split
  · intro item listed
    obtain ⟨old, found, rfl⟩ := List.mem_map.mp listed
    split
    · exact added
    · exact before old found
  · intro item listed
    rcases List.mem_append.mp listed with found | found
    · exact before item found
    · rw [List.mem_singleton.mp found]; exact added

variable {Facts Digest : Type}

def activeInputEntries (command : ActivationCommand) (phase : String) :
    List (List Char × Json F) :=
  [("input_id".toList, str command.checkpointMarker),
    ("source_seq".toList, .int command.sourceCheckpointSeq),
    ("phase".toList, str phase)]

def markApplied (texts : List String) (marker : String) : List String :=
  (marker :: texts).dedup.mergeSort (decide <| · ≤ ·)

def withReceipt (checkpoint : RunCheckpoint F Facts Digest) (command : ActivationCommand)
    (applied : List String) (receipts : List (List Char × Json F))
    (receipt : List (List Char × Json F)) : RunCheckpoint F Facts Digest :=
  let field := Function.update checkpoint.field .activeInput
    (.dict (activeInputEntries command "completed"))
  let field := Function.update field .appliedInputIds
    (.list ((markApplied applied command.checkpointMarker).map str))
  { checkpoint with
    field := Function.update field .appliedInputReceipts
      (.dict (setEntry receipts command.checkpointMarker.toList (.dict receipt))) }

def nonnegativeOf : Json F → Option Nat
  | .int value => if 0 ≤ value then some value.toNat else none
  | _ => none

def boolOf : Json F → Option Bool
  | .bool value => some value
  | _ => none

def textsOf : Json F → Option (List String)
  | .list items => items.mapM textOf
  | _ => none

def entriesOf : Json F → Option (List (List Char × Json F))
  | .dict entries => some entries
  | _ => none

def endsRun (terminal : Bool) (suspension : Suspension) : Bool :=
  terminal || suspension.reason == .terminal

-- What `commit_checkpoint` of the activation's sink hands on; `none` is a boundary it refuses.
def activationCheckpoint (receiptDigest : RunCheckpoint F Facts Digest → RecordedDigest)
    (command : ActivationCommand) (cursor : EventCursor)
    (checkpoint : RunCheckpoint F Facts Digest) : Option (RunCheckpoint F Facts Digest) :=
  if textOf (checkpoint.field .runId) ≠ some command.runId.text then none
  else if isNull (checkpoint.field .lastSuspension) then
    some { checkpoint with
      field := Function.update checkpoint.field .activeInput
        (.dict (activeInputEntries command "running")) }
  else do
    let suspension ← suspensionFromCheckpointPayload (checkpoint.field .lastSuspension)
    let checkpointSeq ← nonnegativeOf (checkpoint.field .seq)
    let outcome ← terminalOutcomeFromSuspension suspension command.runId (some checkpointSeq)
    let terminal ← boolOf (checkpoint.field .terminal)
    let applied ← textsOf (checkpoint.field .appliedInputIds)
    let receipts ← entriesOf (checkpoint.field .appliedInputReceipts)
    let receipt (sha256 : String) := receiptEntries command cursor checkpointSeq sha256
      (endsRun terminal suspension) suspension outcome
    let digest := receiptDigest (withReceipt checkpoint command applied receipts (receipt ""))
    return withReceipt checkpoint command applied receipts (receipt digest.text)

def Addressable (runId : OpaqueId) : Prop := runId.text.toList.length ≤ 247

theorem terminalRef_safe_iff (runId : OpaqueId) :
    isSafeOpaqueAddress ("terminal:" ++ runId.text) = true ↔ Addressable runId := by
  have spelled : ("terminal:" ++ runId.text).toList =
      ['t', 'e', 'r', 'm', 'i', 'n', 'a', 'l', ':'] ++ runId.text.toList := String.toList_append
  have safe := runId.safe
  unfold isSafeOpaqueAddress Addressable
  unfold isSafeOpaqueId at safe
  rw [spelled]
  cases characters : runId.text.toList with
  | nil => simp [characters] at safe
  | cons first rest =>
    simp only [characters, Bool.and_eq_true] at safe
    have scheme : List.takeWhile (· != ':')
        (['t', 'e', 'r', 'm', 'i', 'n', 'a', 'l', ':'] ++ first :: rest) =
          ['t', 'e', 'r', 'm', 'i', 'n', 'a', 'l'] := rfl
    have locator : (List.dropWhile (· != ':')
        (['t', 'e', 'r', 'm', 'i', 'n', 'a', 'l', ':'] ++ first :: rest)).drop 1 =
          first :: rest := rfl
    have terminal : ('t'.isLower && ['e', 'r', 'm', 'i', 'n', 'a', 'l'].all isSchemeCharacter &&
        decide (['e', 'r', 'm', 'i', 'n', 'a', 'l'].length ≤ 31)) = true := by decide
    simp only [scheme, locator, terminal, safe.1.1, safe.1.2, Bool.and_true, Bool.and_self]
    simp only [List.length_append, List.length_cons, List.length_nil, decide_eq_true_eq]
    omega

theorem wellFormed_codes {payload : TerminalPayload} (wellFormed : payload.wellFormed = true) :
    emptyOrCode payload.errorCode = true ∧ emptyOrCode payload.providerErrorCode = true := by
  simp only [TerminalPayload.wellFormed, Bool.and_eq_true] at wellFormed
  exact ⟨wellFormed.1.2, wellFormed.2⟩

theorem sessionStateOf_known (suspension : Suspension) :
    sessionStates.contains (sessionStateOf suspension) = true := by
  unfold sessionStateOf
  cases suspension.reason with
  | terminal =>
    dsimp only
    split
    · decide
    · split <;> decide
  | settled => rfl
  | awaitingTasks => rfl
  | limited => rfl
  | turnFailed => rfl
  | interrupted => rfl
  | paused => rfl

theorem text_entry (entries : List (List Char × Json F)) (name text : String)
    (found : entry entries name = some (str text)) :
    (entry entries name).bind textOf = some text := by
  rw [found, Option.bind_some, textOf_str]

theorem causeText_known (cause : Option InterruptionCause) :
    ((causeText cause).isEmpty || (parseInterruptionCause (causeText cause)).isSome) = true := by
  rw [Bool.or_eq_true]
  exact parse_causeText cause

variable (command : ActivationCommand)

theorem activationReceipt_accepted (cursor : EventCursor) (checkpointSeq : Nat)
    (sha256 : RecordedDigest) (terminal : Bool) (suspension : Suspension)
    {outcome : TerminalPayload} (wellFormed : outcome.wellFormed = true)
    (addressable : terminal = true → Addressable command.runId) :
    validateActivationReceipt (str command.identitySha256.text : Json F) command.checkpointMarker
      (receiptEntries command cursor checkpointSeq sha256.text terminal suspension outcome) =
        .ok () := by
  obtain ⟨errorCode, providerErrorCode⟩ := wellFormed_codes wellFormed
  have kind : terminalOutcomeKinds.contains (outcomeKindValue outcome.kind) = true := by
    cases outcome.kind <;> decide
  have retry : retryEligibilities.contains (retryEligibilityValue outcome.retryEligibility) =
      true := by
    cases outcome.retryEligibility <;> decide
  have reads (name text : String)
      (found : entry (receiptEntries command cursor checkpointSeq sha256.text terminal suspension
        outcome) name = some (str text : Json F)) :=
    text_entry _ name text found
  simp only [validateActivationReceipt, both_ok]
  refine ⟨?_, ?_, ?_, ?_, ?_, ?_, ?_, ?_, ?_, ?_, ?_, ?_, ?_⟩
  · simpa using command.identitySha256.recorded
  · simp [ActivationCommand.checkpointMarker]
  · rfl
  · simpa [reads "checkpoint_sha256" sha256.text rfl] using sha256.recorded
  · simpa [reads "state" (sessionStateOf suspension) rfl] using
      sessionStateOf_known suspension
  · rw [forM_ok]
    intro name listed
    simp only [List.mem_cons, List.not_mem_nil, or_false] at listed
    rcases listed with rfl | rfl
    · rw [show entry (receiptEntries command cursor checkpointSeq sha256.text terminal suspension
        outcome) "event_cursor" = some (.int cursor.lastSequence : Json F) from rfl]
      simpa [isPortableJsonInteger, isNonnegativeInt] using cursor.portable
    · rw [show entry (receiptEntries command cursor checkpointSeq sha256.text terminal suspension
        outcome) "stream_cursor" = some (.int 0 : Json F) from rfl]
      have short : (0 : Int).natAbs < 10 ^ maxJsonIntegerDigits := Nat.pow_pos (by decide)
      simp only [Option.any, isPortableJsonInteger, isNonnegativeInt, short]
      rfl
  · simpa [reads "outcome_kind" (outcomeKindValue outcome.kind) rfl] using kind
  · simpa [reads "retry_eligibility" (retryEligibilityValue outcome.retryEligibility) rfl]
      using retry
  · rw [forM_ok]
    intro name listed
    simp only [List.mem_cons, List.not_mem_nil, or_false] at listed
    rcases listed with rfl | rfl
    · simpa [reads "error_code" outcome.errorCode rfl] using errorCode
    · simpa [reads "provider_error_code" outcome.providerErrorCode rfl] using
        providerErrorCode
  · rfl
  · simpa [reads "interruption_cause" (causeText outcome.interruptionCause) rfl] using
      causeText_known outcome.interruptionCause
  · rw [reads "terminal_outcome_ref" (terminalRef command terminal) rfl]
    cases terminal with
    | false => rfl
    | true =>
      have safe := (terminalRef_safe_iff command.runId).mpr (addressable rfl)
      simp [terminalRef, emptyOrAddress, safe]
  · rw [reads "terminal_outcome_ref" (terminalRef command terminal) rfl,
      show entry (receiptEntries command cursor checkpointSeq sha256.text terminal suspension
        outcome) "terminal" = some (.bool terminal : Json F) from rfl]
    cases terminal with
    | false => rfl
    | true =>
      have long : (terminalRef command true).isEmpty = false := by
        rw [Bool.eq_false_iff, Ne, String.isEmpty_iff]
        intro empty
        have spelled : ("terminal:" ++ command.runId.text).toList = "".toList := by
          rw [← empty]
          rfl
        rw [String.toList_append] at spelled
        cases spelled
      simp [long]

theorem marker_nonempty :
    isNonemptyString (str command.checkpointMarker : Json F) = true := by
  have spelled : command.checkpointMarker.toList =
      "monoid.activation/".toList ++ command.identitySha256.text.toList := String.toList_append
  simp only [isNonemptyString, str, spelled, List.any_append, Bool.or_eq_true]
  exact .inl (by decide)

theorem receipt_accepted (cursor : EventCursor) (checkpointSeq : Nat) (sha256 : RecordedDigest)
    (terminal : Bool) (suspension : Suspension) {outcome : TerminalPayload}
    (wellFormed : outcome.wellFormed = true)
    (addressable : terminal = true → Addressable command.runId) :
    validateReceipt command.checkpointMarker (.dict (receiptEntries command cursor checkpointSeq
      sha256.text terminal suspension outcome) : Json F) = .ok () := by
  have activation := activationReceipt_accepted (F := F) command cursor checkpointSeq sha256
    terminal suspension wellFormed addressable
  simp only [validateReceipt, both_ok]
  refine ⟨?_, ?_, ?_, ?_, ?_, ?_⟩
  · simp [requireNonemptyString, marker_nonempty]
  · rw [show entry (receiptEntries command cursor checkpointSeq sha256.text terminal suspension
      outcome) "checkpoint_seq" = some (.int checkpointSeq : Json F) from rfl]
    simp [whenPresent, requireNonnegativeInt, isNonnegativeInt]
  · rfl
  · exact suspension_accepted suspension _
  · rw [forM_ok]
    intro name listed
    simp only [List.mem_cons, List.not_mem_nil, or_false] at listed
    rcases listed with rfl | rfl | rfl | rfl <;> rfl
  · exact activation

theorem activeInput_accepted {phase : String} (known : phase = "running" ∨ phase = "completed") :
    validateActiveInput (.dict (activeInputEntries command phase) : Json F) = .ok () := by
  simp only [validateActiveInput, both_ok]
  refine ⟨?_, ?_, ?_⟩
  · rw [show entry (activeInputEntries command phase) "input_id" =
      some (str command.checkpointMarker : Json F) from rfl]
    simp [requireNonemptyString, marker_nonempty]
  · rw [show entry (activeInputEntries command phase) "phase" =
      some (str phase : Json F) from rfl]
    simpa [requireWord, str] using known
  · rw [show entry (activeInputEntries command phase) "source_seq" =
      some (.int command.sourceCheckpointSeq : Json F) from rfl]
    simp [requireNonnegativeInt, isNonnegativeInt]

theorem receipts_accepted {receipts : List (List Char × Json F)} {marker : String}
    {receipt : Json F} (before : validateReceipts (.dict receipts) = .ok ())
    (added : validateReceipt marker receipt = .ok ()) :
    validateReceipts (.dict (setEntry receipts marker.toList receipt)) = .ok () := by
  unfold validateReceipts at before ⊢
  dsimp only at before ⊢
  rw [forM_ok] at before ⊢
  exact forall_setEntry before (by rwa [String.ofList_toList])

structure ActivationAccepted (checkpoint : RunCheckpoint F Facts Digest) : Prop where
  activeInput : validateActiveInput (checkpoint.field .activeInput) = .ok ()
  appliedInputIds : isListOf isStr (checkpoint.field .appliedInputIds) = true
  receipts : validateReceipts (checkpoint.field .appliedInputReceipts) = .ok ()

def EndsRun (checkpoint : RunCheckpoint F Facts Digest) : Prop :=
  boolOf (checkpoint.field .terminal) = some true ∨
    ∃ suspension,
      suspensionFromCheckpointPayload (checkpoint.field .lastSuspension) = some suspension ∧
        suspension.reason = .terminal

theorem withReceipt_accepted (checkpoint : RunCheckpoint F Facts Digest) (applied : List String)
    {receipts : List (List Char × Json F)} {receipt : List (List Char × Json F)}
    (before : validateReceipts (.dict receipts) = .ok ())
    (added : validateReceipt command.checkpointMarker (.dict receipt) = .ok ()) :
    ActivationAccepted (withReceipt checkpoint command applied receipts receipt) := by
  refine ⟨?_, ?_, ?_⟩
  · simpa [withReceipt] using activeInput_accepted command (.inr rfl)
  · simpa [withReceipt] using isListOf_texts _
  · simpa [withReceipt] using receipts_accepted before added

theorem activation_accepted (receiptDigest : RunCheckpoint F Facts Digest → RecordedDigest)
    (command : ActivationCommand) (cursor : EventCursor)
    {checkpoint committed : RunCheckpoint F Facts Digest}
    (handed : activationCheckpoint receiptDigest command cursor checkpoint = some committed)
    (ids : isListOf isStr (checkpoint.field .appliedInputIds) = true)
    (before : validateReceipts (checkpoint.field .appliedInputReceipts) = .ok ())
    (addressable : EndsRun checkpoint → Addressable command.runId) :
    ActivationAccepted committed := by
  unfold activationCheckpoint at handed
  split at handed
  · cases handed
  · split at handed
    · cases handed
      refine ⟨?_, by simpa using ids, by simpa using before⟩
      simpa using activeInput_accepted command (.inl rfl)
    · obtain ⟨suspension, parked, handed⟩ := Option.bind_eq_some_iff.mp handed
      obtain ⟨checkpointSeq, -, handed⟩ := Option.bind_eq_some_iff.mp handed
      obtain ⟨outcome, projected, handed⟩ := Option.bind_eq_some_iff.mp handed
      obtain ⟨terminal, flag, handed⟩ := Option.bind_eq_some_iff.mp handed
      obtain ⟨applied, -, handed⟩ := Option.bind_eq_some_iff.mp handed
      obtain ⟨receipts, listed, handed⟩ := Option.bind_eq_some_iff.mp handed
      cases handed
      have wellFormed : outcome.wellFormed = true := by
        unfold terminalOutcomeFromSuspension at projected
        dsimp only at projected
        split at projected
        next wellFormed => cases projected; exact wellFormed
        · cases projected
      have ends : endsRun terminal suspension = true → Addressable command.runId := by
        intro ends
        refine addressable ?_
        rcases Bool.or_eq_true_iff.mp ends with terminal | reason
        · exact .inl (by rw [flag, terminal])
        · exact .inr ⟨suspension, parked, by simpa using reason⟩
      have earlier : validateReceipts (.dict receipts) = .ok () := by
        cases same : checkpoint.field .appliedInputReceipts with
        | dict entries =>
          rw [same] at listed before
          cases listed
          exact before
        | null => simp [same, entriesOf] at listed
        | bool value => simp [same, entriesOf] at listed
        | int value => simp [same, entriesOf] at listed
        | float value => simp [same, entriesOf] at listed
        | str text => simp [same, entriesOf] at listed
        | list items => simp [same, entriesOf] at listed
      exact withReceipt_accepted command checkpoint applied earlier
        (receipt_accepted command cursor checkpointSeq _ _ suspension wellFormed ends)

end Activations

section Capabilities

structure RevocationState (F : Type) where
  leaseIds : List String
  capabilities : List String
  before : F
  allRevoked : Bool

def exportedCapabilities (state : RevocationState F) : List String :=
  let capabilities := state.capabilities.dedup.mergeSort (decide <| · ≤ ·)
  if state.allRevoked && !capabilities.contains "*" then "*" :: capabilities else capabilities

variable {Facts Digest : Type}

def withCapabilities (checkpoint : RunCheckpoint F Facts Digest)
    (leases : List (List (List Char × Json F))) (state : RevocationState F) :
    RunCheckpoint F Facts Digest :=
  let field := Function.update checkpoint.field .capabilityLeases (.list (leases.map .dict))
  let field := Function.update field .revokedLeaseIds
    (.list ((state.leaseIds.dedup.mergeSort (decide <| · ≤ ·)).map str))
  let field := Function.update field .revokedCapabilities
    (.list ((exportedCapabilities state).map str))
  let field := Function.update field .revokedBefore (.float state.before)
  { checkpoint with field := Function.update field .revokedAll (.bool state.allRevoked) }

structure CapabilitiesAccepted (floats : Floats F) (checkpoint : RunCheckpoint F Facts Digest) :
    Prop where
  leases : isListOf isDict (checkpoint.field .capabilityLeases) = true
  leaseIds : isListOf isStr (checkpoint.field .revokedLeaseIds) = true
  capabilities : isListOf isStr (checkpoint.field .revokedCapabilities) = true
  before : ∀ name,
    requireFiniteNonnegativeNumber floats (checkpoint.field .revokedBefore) name = .ok ()
  all : isBool (checkpoint.field .revokedAll) = true

theorem capabilities_accepted_iff (floats : Floats F) (checkpoint : RunCheckpoint F Facts Digest)
    (leases : List (List (List Char × Json F))) (state : RevocationState F) :
    CapabilitiesAccepted floats (withCapabilities checkpoint leases state) ↔
      floats.isFinite state.before = true ∧ floats.isNegative state.before = false := by
  constructor
  · intro accepted
    simpa [withCapabilities, requireFiniteNonnegativeNumber, isFiniteJsonNumber, isNegative] using
      accepted.before "revoked_before"
  · rintro ⟨finite, nonnegative⟩
    refine ⟨?_, ?_, ?_, fun name => ?_, rfl⟩
    · simp [withCapabilities, isListOf, isDict]
    · simpa [withCapabilities] using isListOf_texts _
    · simpa [withCapabilities] using isListOf_texts _
    · simp [withCapabilities, requireFiniteNonnegativeNumber, isFiniteJsonNumber, isNegative,
        finite, nonnegative]

end Capabilities

section Faithful

variable {Facts Digest : Type} [DecidableEq Digest]

-- What is written is read again, what was read is written again, and the kernel's own sections are
-- accepted.
structure CodecFaithful (platform : Platform F Facts Digest)
    (receiptDigest : RunCheckpoint F Facts Digest → RecordedDigest) : Prop where
  written : ∀ checkpoint payload, checkpointPayloadForWrite platform checkpoint = .ok payload →
    payload.nesting platform ≤ platform.copyDepth →
    decodeCheckpoint platform payload = .loaded checkpoint.current
  read : ∀ payload checkpoint, decodeCheckpoint platform payload = .loaded checkpoint →
    checkpointPayloadForWrite platform checkpoint = .ok checkpoint.current.toJson ∧
      (checkpoint.current.toJson.nesting platform ≤ platform.copyDepth →
        decodeCheckpoint platform checkpoint.current.toJson = .loaded checkpoint.current) ∧
      (checkpoint.current = checkpoint ↔
        checkpoint.field .schemaVersion = str schemaVersion)
  suspension : ∀ (suspension : Suspension) (fieldName : String),
    validateSuspensionPayload (suspensionCheckpointPayload suspension : Json F) fieldName =
        .ok () ∧
      suspensionFromCheckpointPayload (suspensionCheckpointPayload suspension : Json F) =
        some suspension
  activation : ∀ command cursor checkpoint committed,
    activationCheckpoint receiptDigest command cursor checkpoint = some committed →
    isListOf isStr (checkpoint.field .appliedInputIds) = true →
    validateReceipts (checkpoint.field .appliedInputReceipts) = .ok () →
    (EndsRun checkpoint → Addressable command.runId) → ActivationAccepted committed
  capabilities : ∀ (checkpoint : RunCheckpoint F Facts Digest) leases state,
    platform.floats.isFinite state.before = true →
    platform.floats.isNegative state.before = false →
    CapabilitiesAccepted platform.floats (withCapabilities checkpoint leases state)

theorem codec_faithful (platform : Platform F Facts Digest)
    (receiptDigest : RunCheckpoint F Facts Digest → RecordedDigest) :
    CodecFaithful platform receiptDigest where
  written checkpoint payload := decode_written platform
  read payload checkpoint loaded := by
    have written := write_decoded platform loaded
    exact ⟨written, decode_written platform written, current_eq_iff checkpoint⟩
  suspension suspension fieldName :=
    ⟨suspension_accepted suspension fieldName, suspension_restored suspension⟩
  activation command cursor checkpoint committed handed ids before addressable :=
    activation_accepted receiptDigest command cursor handed ids before addressable
  capabilities checkpoint leases state finite nonnegative :=
    (capabilities_accepted_iff platform.floats checkpoint leases state).mpr ⟨finite, nonnegative⟩

def plainPlatform : Platform Unit Unit Unit where
  floats := {
    zero := ()
    isFinite := fun _ => true
    isNegative := fun _ => false
    zeroFinite := rfl
    zeroNonnegative := rfl }
  canonicalSha256 _ := ()
  recordNesting _ := 0
  copyDepth := 1000

def legacyPayload : CheckpointPayload Unit Unit Unit where
  field
    | .runId => some (str "run")
    | .schemaVersion => some (str "native-agent-runner.checkpoint.v1")
    | _ => none
  lastModelInvocation := none
  unknown := []

def boundaryCheckpoint : RunCheckpoint Unit Unit Unit where
  field
    | .runId => str "boundary"
    | .lastSuspension => suspensionCheckpointPayload ⟨.settled, .completed, "", "", "", [], false,
        false, none, false, "", false, false, none⟩
    | name => name.default ()
  lastModelInvocation := .null

def zeroDigest : RecordedDigest := ⟨"".pushn '0' 64, by decide +kernel⟩

def boundaryCommand : ActivationCommand := ⟨⟨"boundary", by decide⟩, 0, zeroDigest⟩

theorem codec_faithful_boundary :
    (∃ checkpoint, decodeCheckpoint plainPlatform legacyPayload = .loaded checkpoint ∧
      decodeCheckpoint plainPlatform checkpoint.current.toJson = .loaded checkpoint.current) ∧
      ∃ committed, activationCheckpoint (fun _ => zeroDigest) boundaryCommand
          ⟨0, Nat.pow_pos (by decide)⟩ boundaryCheckpoint = some committed ∧
        ActivationAccepted committed ∧
        CapabilitiesAccepted plainPlatform.floats
          (withCapabilities committed [] ⟨[], [], (), true⟩) := by
  have faithful := codec_faithful plainPlatform fun _ => zeroDigest
  have loaded : decodeCheckpoint plainPlatform legacyPayload =
      .loaded (loadFields plainPlatform legacyPayload) :=
    decodeCheckpoint_accepted plainPlatform (by decide +kernel)
      (show parseArtifactVersion (legacyPayload.field .schemaVersion) =
        some ⟨"native-agent-runner".toList, "checkpoint".toList, 1⟩ from rfl)
      rfl (by decide +kernel) (Nat.le_refl 1) rfl
  have handed : (activationCheckpoint (fun _ => zeroDigest) boundaryCommand
      ⟨0, Nat.pow_pos (by decide)⟩ boundaryCheckpoint).isSome = true := by decide +kernel
  obtain ⟨committed, handed⟩ := Option.isSome_iff_exists.mp handed
  refine ⟨⟨_, loaded, (faithful.read _ _ loaded).2.1 (by decide +kernel)⟩, committed, handed, ?_,
    faithful.capabilities committed [] _ rfl rfl⟩
  have short : Addressable boundaryCommand.runId := by
    unfold Addressable
    decide +kernel
  exact faithful.activation _ _ _ _ handed rfl rfl fun _ => short

theorem legacy_schema_rewritten :
    ¬ ∀ payload checkpoint, decodeCheckpoint plainPlatform payload = .loaded checkpoint →
      ∃ written, checkpointPayloadForWrite plainPlatform checkpoint = .ok written ∧
        decodeCheckpoint plainPlatform written = .loaded checkpoint := by
  intro equal
  have valid : validateCheckpointPayload plainPlatform legacyPayload = .ok () := rfl
  have loaded := decodeCheckpoint_accepted plainPlatform (by decide +kernel)
    (show parseArtifactVersion (legacyPayload.field .schemaVersion) =
      some ⟨"native-agent-runner".toList, "checkpoint".toList, 1⟩ from rfl)
    rfl (by decide +kernel) (Nat.le_refl 1) valid
  obtain ⟨written, wrote, again⟩ := equal _ _ loaded
  obtain ⟨rfl, -⟩ := (checkpointPayloadForWrite_spec plainPlatform).mp wrote
  have same := (decodeCheckpoint_loaded plainPlatform again).2
  rw [loadFields_toJson] at same
  have spelled := congrArg textOf ((current_eq_iff _).mp same.symm)
  revert spelled
  decide +kernel

def nestedContent : Nat → Json Unit
  | 0 => .null
  | levels + 1 => .list [nestedContent levels]

def nestedCheckpoint (levels : Nat) : RunCheckpoint Unit Unit Unit where
  field
    | .runId => str "run"
    | .queuedMessages => .list [.dict [("content".toList, nestedContent levels)]]
    | name => name.default ()
  lastModelInvocation := .null

theorem deep_payload_corrupt :
    ¬ ∀ checkpoint payload, checkpointPayloadForWrite plainPlatform checkpoint = .ok payload →
      decodeCheckpoint plainPlatform payload = .loaded checkpoint.current := by
  intro reads
  have written : checkpointPayloadForWrite plainPlatform (nestedCheckpoint 1000) =
      .ok (nestedCheckpoint 1000).current.toJson := rfl
  have deep : plainPlatform.copyDepth <
      (nestedCheckpoint 1000).current.toJson.nesting plainPlatform := by decide +kernel
  have loaded := reads _ _ written
  rw [decodeCheckpoint, if_pos deep] at loaded
  cases loaded

end Faithful

end MonoidKernel.CheckpointCodec
