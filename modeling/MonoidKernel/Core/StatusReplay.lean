import MonoidKernel.Library.Replay
import MonoidKernel.Core.StatusProjection

set_option autoImplicit false

namespace MonoidKernel.StatusProjection

open Library CheckpointCodec
open AgentLoop (interruptionCauseValue)
open Lifecycle (SessionState)

variable {F : Type}

section Dictionaries

variable (dict : Dict F) (key : String)

@[simp] theorem get?_update (items : List (String × Json F)) :
    (update dict items).get? key =
      items.foldl (fun held item => if key = item.1 then some item.2 else held)
        (dict.get? key) := by
  induction items generalizing dict with
  | nil => rfl
  | cons item rest ih =>
    rw [List.foldl_cons, ← OrderedDict.get?_set, ← ih]
    rfl

@[simp] theorem get?_pop (keys : List String) :
    (pop dict keys).get? key = if key ∈ keys then none else dict.get? key := by
  induction keys generalizing dict with
  | nil => rfl
  | cons gone rest ih =>
    have unrolled : pop dict (gone :: rest) = pop (dict.erase gone) rest := rfl
    rw [unrolled, ih, OrderedDict.get?_erase]
    by_cases here : key = gone
    · simp [here]
    · simp [here]

end Dictionaries

section Fields

inductive StatusField where
  | state | terminal | error | errorCode | providerErrorCode | httpStatus | retryable
  | configRecoverable | providerRetried | interruptionCause | waitingForBackgroundJobs
  | currentStep | currentTool
deriving DecidableEq

def StatusField.key : StatusField → String
  | .state => "state"
  | .terminal => "terminal"
  | .error => "error"
  | .errorCode => "error_code"
  | .providerErrorCode => "provider_error_code"
  | .httpStatus => "http_status"
  | .retryable => "retryable"
  | .configRecoverable => "config_recoverable"
  | .providerRetried => "provider_retried"
  | .interruptionCause => "interruption_cause"
  | .waitingForBackgroundJobs => "waiting_for_background_jobs"
  | .currentStep => "current_step"
  | .currentTool => "current_tool"

def StatusField.default : StatusField → Json F
  | .state => stateJson .created
  | .terminal => .bool false
  | .error => str ""
  | .errorCode => str ""
  | .providerErrorCode => str ""
  | .httpStatus => .null
  | .retryable => .bool false
  | .configRecoverable => .bool false
  | .providerRetried => .bool false
  | .interruptionCause => .null
  | .waitingForBackgroundJobs => .bool false
  | .currentStep => .null
  | .currentTool => .null

def readField (dict : Dict F) (field : StatusField) : Json F := getOr dict field.key field.default

def isIntOrNull : Json F → Bool
  | .int _ => true
  | .null => true
  | _ => false

def eventDataSchema : EventType → List (String × (Json F → Bool))
  | .runFinished => [("status", isStr), ("error", isStr), ("error_code", isStr)]
  | .runFailed =>
    [("error", isStr), ("error_code", isStr), ("provider_error_code", isStr),
      ("http_status", isIntOrNull), ("retryable", isBool), ("config_recoverable", isBool)]
  | .turnFailed =>
    [("error", isStr), ("error_code", isStr), ("provider_error_code", isStr),
      ("http_status", isIntOrNull), ("retryable", isBool), ("config_recoverable", isBool),
      ("provider_retried", isBool)]
  | _ => []

def dataText (data : Dict F) (key : String) : String := ((data.get? key).bind textOf).getD ""

structure AsEmitted (event : AgentEvent F) : Prop where
  typed : ∀ item ∈ eventDataSchema event.type, (event.data.get? item.1).all item.2 = true
  closed : event.type = .runFailed → event.data.get? "provider_retried" = none
  named : event.type = .runFinished → dataText event.data "status" ≠ ""

def finishedState (data : Dict F) : SessionState :=
  sessionStateFromRunStatus (dataText data "status") (dataText data "error_code")

def failureClassification : List (StatusField × Json F) :=
  [StatusField.providerErrorCode, .httpStatus, .retryable, .configRecoverable,
    .providerRetried].map fun field => (field, field.default)

def decisions (parked : Bool) (event : AgentEvent F) : List (StatusField × Json F) :=
  let data := event.data
  match event.type with
  | .runStarted => [(.state, stateJson .running), (.terminal, .bool false)]
  | .runFinished =>
    [(.state, stateJson (finishedState data)), (.terminal, .bool true),
      (.error, eventText data "error"), (.errorCode, eventText data "error_code"),
      (.interruptionCause, eventInterruptionCause data)] ++
        if finishedState data = .failed then [] else failureClassification
  | .runFailed =>
    [(.state, stateJson .failed), (.terminal, .bool true), (.error, eventText data "error"),
      (.errorCode, eventText data "error_code"),
      (.providerErrorCode, eventText data "provider_error_code"),
      (.httpStatus, eventHttpStatus data), (.retryable, eventFlag data "retryable"),
      (.configRecoverable, eventFlag data "config_recoverable"), (.providerRetried, .bool false),
      (.interruptionCause, .null)]
  | .turnFailed =>
    [(.error, eventText data "error"), (.errorCode, eventText data "error_code"),
      (.providerErrorCode, eventText data "provider_error_code"),
      (.httpStatus, eventHttpStatus data), (.retryable, eventFlag data "retryable"),
      (.configRecoverable, eventFlag data "config_recoverable"),
      (.providerRetried, eventFlag data "provider_retried")]
  | .turnPaused => [(.interruptionCause, .null)]
  | .turnSettled => [(.interruptionCause, eventInterruptionCause data)]
  | .turnInterrupted => [(.interruptionCause, eventInterruptionCause data)]
  | .runWaiting =>
    [(.state, stateJson .awaitingTasks), (.terminal, .bool false),
      (.waitingForBackgroundJobs, .bool true), (.interruptionCause, .null)]
  | .runResumed =>
    [(.state, stateJson .running), (.terminal, .bool false),
      (.waitingForBackgroundJobs, .bool false)]
  | .runAwaitingInput =>
    [(.state, stateJson .awaitingInput), (.terminal, .bool false), (.interruptionCause, .null)]
  | .modelTurnStarted =>
    [(.currentStep, getOr data "step" .null), (.error, str ""), (.errorCode, str ""),
      (.interruptionCause, .null)] ++ failureClassification ++
        if parked then [(.state, stateJson .running), (.terminal, .bool false),
          (.waitingForBackgroundJobs, .bool false)] else []
  | .sessionStateChanged =>
    if (data.get? "state").bind textOf = some (stateValue .paused) then
      [(.state, stateJson .paused), (.terminal, .bool false)]
    else []
  | .toolCallStarted => [(.currentTool, getOr data "tool" .null)]
  | .toolCallFinished => [(.currentTool, .null)]
  | .toolCallFailed => [(.currentTool, .null)]
  | _ => []

def decides (parked : Bool) (event : AgentEvent F) (field : StatusField) : Option (Json F) :=
  (decisions parked event).lookup field

def parkedAt (held : StatusField → Json F) : Bool := isParked (held .state)

end Fields

section Typed

variable {data : Dict F} {key : String}

theorem getOr_text (typed : (data.get? key).all isStr = true) :
    getOr data key (str "") = eventText data key := by
  simp only [getOr, eventText]
  cases found : data.get? key with
  | none => rfl
  | some value =>
    rw [found] at typed
    cases value with
    | str text => rfl
    | _ => cases typed

theorem getOr_flag (typed : (data.get? key).all isBool = true) :
    getOr data key (.bool false) = eventFlag data key := by
  simp only [getOr, eventFlag]
  cases found : data.get? key with
  | none => rfl
  | some value =>
    rw [found] at typed
    cases value with
    | bool flag => rfl
    | _ => cases typed

theorem getOr_httpStatus (typed : (data.get? "http_status").all isIntOrNull = true) :
    getOr data "http_status" .null = eventHttpStatus data := by
  simp only [getOr, eventHttpStatus]
  cases found : data.get? "http_status" with
  | none => rfl
  | some value =>
    rw [found] at typed
    cases value with
    | int status => rfl
    | null => rfl
    | _ => cases typed

end Typed

section Sink

variable (python : Python F)

variable (state : Dict F)

theorem readField_emit (event : AgentEvent F) (field : StatusField) :
    readField (emit python state event) field =
      readField (emitBranch python state event) field := by
  cases field <;> simp [readField, getOr, emit, StatusField.key]

theorem isParked_read :
    isParked (getOr state "state" .null) = parkedAt (readField state) := by
  simp only [parkedAt, readField, getOr, StatusField.key]
  cases state.get? "state" with
  | none =>
    have created : isParked (StatusField.state.default : Json F) = false := by
      simp [StatusField.default, stateJson, isParked, stateValue]
    exact created.symm
  | some value => rfl

theorem getOr_status {data : Dict F} (typed : (data.get? "status").all isStr = true)
    (named : dataText data "status" ≠ "") :
    python.spell (python.either (some (getOr data "status" (str "completed"))) (str "completed")) =
      dataText data "status" := by
  simp only [dataText, getOr] at named ⊢
  cases found : data.get? "status" with
  | none =>
    rw [found] at named
    exact absurd rfl named
  | some value =>
    rw [found] at typed named
    cases value with
    | str text =>
      have held : text ≠ [] := by
        intro empty
        rw [empty] at named
        exact named rfl
      simp [Python.either, Python.truthy, held, python.spell_str, textOf]
    | _ => cases typed

theorem either_errorCode {data : Dict F} (typed : (data.get? "error_code").all isStr = true) :
    python.spell (python.either (data.get? "error_code") (str "")) =
      dataText data "error_code" := by
  simp only [dataText]
  cases found : data.get? "error_code" with
  | none => simp [Python.either, str, python.spell_str]
  | some value =>
    rw [found] at typed
    cases value with
    | str text =>
      cases text with
      | nil => simp [Python.either, Python.truthy, str, python.spell_str, textOf]
      | cons head rest => simp [Python.either, Python.truthy, python.spell_str, textOf]
    | _ => cases typed

theorem runStatus_eq {event : AgentEvent F} (emitted : AsEmitted event)
    (finished : event.type = .runFinished) :
    runStatus python event.data = finishedState event.data := by
  have typed := emitted.typed
  rw [finished] at typed
  have status := typed ("status", isStr) (by simp [eventDataSchema])
  have errorCode := typed ("error_code", isStr) (by simp [eventDataSchema])
  simp only [runStatus, finishedState]
  rw [getOr_status python status (emitted.named finished), either_errorCode python errorCode]

theorem readField_set_ne {key : String} (value : Json F) {field : StatusField}
    (apart : field.key ≠ key) : readField (state.set key value) field = readField state field := by
  simp only [readField, getOr, OrderedDict.get?_set_ne state value apart]

variable (data : Dict F)

theorem readField_withCause (field : StatusField) :
    readField (withCause state data) field =
      if field = .interruptionCause then
        eventInterruptionCause data else readField state field := by
  simp only [withCause, eventInterruptionCause]
  cases parseCause (data.get? "interruption_cause") with
  | none => cases field <;> simp [readField, getOr, StatusField.key, StatusField.default]
  | some cause => cases field <;> simp [readField, getOr, StatusField.key, OrderedDict.get?_set]

theorem readField_planTruncated (field : StatusField) :
    readField (planTruncated state data) field = readField state field := by
  have apart : field.key ≠ "plan_truncated_items" := by cases field <;> simp [StatusField.key]
  simp only [planTruncated]
  split
  · exact readField_set_ne state _ apart
  · simp [readField, getOr, apart]

theorem get?_jobsOpened (held : Option (Json F)) {key : String} (apart : key ≠ "jobs") :
    (match held with
      | some _ => state
      | none => state.set "jobs" (.dict [])).get? key = state.get? key := by
  cases held with
  | some value => rfl
  | none => exact OrderedDict.get?_set_ne _ _ apart

theorem readField_withJob (field : StatusField) :
    readField (withJob state data) field = readField state field := by
  have apart : field.key ≠ "jobs" := by cases field <;> simp [StatusField.key]
  have opened := congrArg (fun held : Option (Json F) => held.getD field.default)
    (get?_jobsOpened state (state.get? "jobs") apart)
  simp only [withJob]
  split
  · split
    · exact opened
    · exact (readField_set_ne _ _ apart).trans opened
  · exact opened

theorem readField_unpark (field : StatusField) :
    readField (unpark state) field =
      ((if parkedAt (readField state) then [(StatusField.state, stateJson .running),
        (.terminal, .bool false), (.waitingForBackgroundJobs, .bool false)] else []).lookup
          field).getD (readField state field) := by
  simp only [unpark, ← isParked_read]
  split
  · cases field <;> simp [readField, getOr, StatusField.key, OrderedDict.lookup_cons_ite]
  · rfl

theorem emit_field {event : AgentEvent F} (emitted : AsEmitted event) (field : StatusField) :
    readField (emit python state event) field =
      Replay.step parkedAt decides (readField state) event field := by
  rw [readField_emit, Replay.step]
  have typed := emitted.typed
  have finished := runStatus_eq python emitted
  obtain ⟨seq, runId, timestamp, turnId, type, data⟩ := event
  cases type with
  | runFinished =>
    have error := getOr_text (typed ("error", isStr) (by simp [eventDataSchema]))
    have errorCode := getOr_text (typed ("error_code", isStr) (by simp [eventDataSchema]))
    simp only [emitBranch, decides, decisions, finished rfl, error, errorCode]
    by_cases failed : finishedState data = .failed
    · rw [if_pos failed, if_pos failed, readField_withCause]
      cases field <;>
        simp [readField, getOr, StatusField.key, StatusField.default, OrderedDict.lookup_cons_ite]
    · have popped (held : Dict F) : readField (pop held failureClassificationKeys) field =
          ((failureClassification.lookup field).getD (readField held field)) := by
        cases field <;> simp [readField, getOr, StatusField.key, failureClassificationKeys,
          failureClassification, OrderedDict.lookup_cons_ite]
      rw [if_neg failed, if_neg failed, popped, readField_withCause]
      cases field <;>
        simp [readField, getOr, StatusField.key, StatusField.default, OrderedDict.lookup_cons_ite,
          failureClassification]
  | runFailed =>
    have error := getOr_text (typed ("error", isStr) (by simp [eventDataSchema]))
    have errorCode := getOr_text (typed ("error_code", isStr) (by simp [eventDataSchema]))
    have provider := getOr_text (typed ("provider_error_code", isStr) (by simp [eventDataSchema]))
    have status := getOr_httpStatus (typed ("http_status", isIntOrNull) (by simp [eventDataSchema]))
    have retryable := getOr_flag (typed ("retryable", isBool) (by simp [eventDataSchema]))
    have config := getOr_flag (typed ("config_recoverable", isBool) (by simp [eventDataSchema]))
    simp only [emitBranch, decides, decisions, error, errorCode, provider, status,
      retryable, config]
    cases field <;>
      simp [readField, getOr, StatusField.key, StatusField.default, OrderedDict.lookup_cons_ite]
  | turnFailed =>
    have error := getOr_text (typed ("error", isStr) (by simp [eventDataSchema]))
    have errorCode := getOr_text (typed ("error_code", isStr) (by simp [eventDataSchema]))
    have provider := getOr_text (typed ("provider_error_code", isStr) (by simp [eventDataSchema]))
    have status := getOr_httpStatus (typed ("http_status", isIntOrNull) (by simp [eventDataSchema]))
    have retryable := getOr_flag (typed ("retryable", isBool) (by simp [eventDataSchema]))
    have config := getOr_flag (typed ("config_recoverable", isBool) (by simp [eventDataSchema]))
    have retried := getOr_flag (typed ("provider_retried", isBool) (by simp [eventDataSchema]))
    simp only [emitBranch, decides, decisions, error, errorCode, provider, status,
      retryable, config,
      retried]
    cases field <;>
      simp [readField, getOr, StatusField.key, OrderedDict.lookup_cons_ite]
  | turnSettled =>
    simp only [emitBranch, decides, decisions, readField_withCause]
    cases field <;> simp [OrderedDict.lookup_cons_ite]
  | turnInterrupted =>
    simp only [emitBranch, decides, decisions, readField_withCause]
    cases field <;> simp [OrderedDict.lookup_cons_ite]
  | modelTurnStarted =>
    have cleared (held : Dict F) : readField (pop held
        (["interruption_cause", "error", "error_code"] ++ failureClassificationKeys)) field =
          (([(StatusField.error, str ""), (.errorCode, str ""), (.interruptionCause, .null)] ++
            failureClassification).lookup field).getD (readField held field) := by
      cases field <;> simp [readField, getOr, StatusField.key, StatusField.default,
        failureClassificationKeys, failureClassification, OrderedDict.lookup_cons_ite]
    have stepped : parkedAt (readField (update state
        [("current_turn_id", (turnId.map str).getD .null),
          ("current_step", getOr data "step" .null)])) = parkedAt (readField state) := by
      simp [parkedAt, readField, getOr, StatusField.key]
    simp only [emitBranch, decides, decisions]
    rw [cleared, readField_unpark, stepped]
    cases parkedAt (readField state) <;> cases field <;>
      simp [readField, getOr, StatusField.key, StatusField.default, OrderedDict.lookup_cons_ite,
        failureClassification]
  | sessionStateChanged =>
    simp only [emitBranch, decides, decisions]
    split
    · cases field <;> simp [readField, getOr, StatusField.key, OrderedDict.lookup_cons_ite]
    · rfl
  | planUpdated =>
    have apart : field.key ≠ "plan" := by cases field <;> simp [StatusField.key]
    simp only [emitBranch, readField_planTruncated]
    exact readField_set_ne state _ apart
  | job name => exact readField_withJob state data field
  | _ =>
    cases field <;>
      simp [readField, getOr, emitBranch, decides, decisions, StatusField.key, StatusField.default,
        OrderedDict.lookup_cons_ite, OrderedDict.get?_set]

end Sink

section Projection

variable (python : Python F)

theorem readField_lastEvent (projection : Dict F) (event : AgentEvent F) (field : StatusField) :
    readField (lastEvent projection event) field = readField projection field := by
  have updated : readField (update projection [("last_event_seq", .int event.seq),
      ("last_event_type", str event.type.wire)]) field = readField projection field := by
    cases field <;> simp [readField, getOr, StatusField.key]
  simp only [lastEvent]
  split
  next held _ =>
    by_cases newer : held ≤ event.seq
    · simp only [newer, decide_true, if_true]
      exact updated
    · simp [newer]
  · rfl

variable {key : String}

theorem optionalText_dataText {data : Dict F} (label : String)
    (typed : (data.get? key).all isStr = true) :
    ∃ text, optionalText (data.get? key) label = .ok text ∧ text.getD "" = dataText data key := by
  simp only [dataText]
  cases found : data.get? key with
  | none => exact ⟨none, rfl, rfl⟩
  | some value =>
    rw [found] at typed
    cases value with
    | str text => exact ⟨some (String.ofList text), rfl, rfl⟩
    | _ => cases typed

variable {event : AgentEvent F}

theorem applyBranch_finished (publicPaths : Json F → Json F) (projection : Dict F)
    (emitted : AsEmitted event) (finished : event.type = .runFinished) :
    applyBranch python publicPaths projection event = .ok
      (let ended := update projection [("state", stateJson (finishedState event.data)),
        ("terminal", .bool true), ("error", eventText event.data "error"),
        ("error_code", eventText event.data "error_code"),
        ("interruption_cause", eventInterruptionCause event.data)]
      if finishedState event.data = .failed then ended else clearFailureClassification ended) := by
  have typed := emitted.typed
  have named := emitted.named finished
  rw [finished] at typed
  obtain ⟨status, statusRead, statusText⟩ :=
    optionalText_dataText "run.finished status"
      (typed ("status", isStr) (by simp [eventDataSchema]))
  obtain ⟨code, codeRead, codeText⟩ := optionalText_dataText "run.finished error_code"
    (typed ("error_code", isStr) (by simp [eventDataSchema]))
  have known : (status.filter fun text => !text.isEmpty).getD
      (((projection.get? "state").bind textOf).getD "") = dataText event.data "status" := by
    cases status with
    | none => exact absurd statusText.symm named
    | some text =>
      have held : text = dataText event.data "status" := statusText
      rw [← held] at named ⊢
      simp [Option.filter, named]
  simp only [applyBranch, finished, statusRead, codeRead, bind, Except.bind, known, codeText,
    finishedState]
  rfl

theorem applyEvent_field (publicPaths : Json F → Json F) (projection : Dict F)
    (emitted : AsEmitted event) :
    ∃ next, applyEvent python publicPaths projection event = .ok next ∧ ∀ field,
      readField next field = Replay.step parkedAt decides (readField projection) event field := by
  have same : readField (lastEvent projection event) = readField projection :=
    funext (readField_lastEvent projection event)
  rw [← same]
  simp only [applyEvent]
  generalize lastEvent projection event = projection
  have finished := applyBranch_finished python publicPaths projection emitted
  have closed := emitted.closed
  obtain ⟨seq, runId, timestamp, turnId, type, data⟩ := event
  cases type with
  | runFinished =>
    refine ⟨_, finished rfl, fun field => ?_⟩
    simp only [Replay.step, decides, decisions]
    by_cases failed : finishedState data = .failed
    · rw [if_pos failed, if_pos failed]
      cases field <;> simp [readField, getOr, StatusField.key, OrderedDict.lookup_cons_ite]
    · rw [if_neg failed, if_neg failed]
      cases field <;> simp [readField, getOr, StatusField.key, StatusField.default,
        clearFailureClassification, failureClassification, OrderedDict.lookup_cons_ite]
  | runFailed =>
    have retried : eventFlag data "provider_retried" = .bool false := by
      simp only [eventFlag, closed rfl]
    refine ⟨_, rfl, fun field => ?_⟩
    simp only [Replay.step, decides, decisions]
    cases field <;> simp [readField, getOr, StatusField.key, assignFailureClassification, retried,
      OrderedDict.get?_set, OrderedDict.lookup_cons_ite]
  | modelTurnStarted =>
    refine ⟨_, rfl, fun field => ?_⟩
    have stepped : parkedAt (readField (projection.set "current_step" (getOr data "step" .null))) =
        parkedAt (readField projection) := by
      simp [parkedAt, readField, getOr, StatusField.key, OrderedDict.get?_set]
    simp only [isParked_read, stepped, Replay.step, decides, decisions]
    cases parkedAt (readField projection) <;> cases field <;>
      simp [readField, getOr, StatusField.key, StatusField.default, clearFailureClassification,
        failureClassification, OrderedDict.get?_set, OrderedDict.lookup_cons_ite]
  | sessionStateChanged =>
    refine ⟨_, rfl, fun field => ?_⟩
    simp only [Replay.step, decides, decisions]
    split
    · cases field <;> simp [readField, getOr, StatusField.key, OrderedDict.lookup_cons_ite]
    · rfl
  | _ =>
    refine ⟨_, rfl, fun field => ?_⟩
    cases field <;> simp [readField, getOr, Replay.step, decides, decisions, StatusField.key,
      assignFailureClassification, OrderedDict.lookup_cons_ite, OrderedDict.get?_set]

theorem update_present {dict : Dict F} (items : List (String × Json F))
    (present : (dict.get? key).isSome) : ((update dict items).get? key).isSome := by
  rw [get?_update]
  induction items generalizing dict with
  | nil => exact present
  | cons item rest ih =>
    rw [List.foldl_cons, ← OrderedDict.get?_set]
    apply ih
    rw [OrderedDict.get?_set]
    split
    · rfl
    · exact present

theorem set_present {dict : Dict F} (other : String) (value : Json F)
    (present : (dict.get? key).isSome) : ((dict.set other value).get? key).isSome :=
  update_present [(other, value)] present

theorem applyBranch_present {publicPaths : Json F → Json F} {projection next : Dict F}
    (present : (projection.get? key).isSome)
    (applied : applyBranch python publicPaths projection event = .ok next) :
    (next.get? key).isSome := by
  obtain ⟨seq, runId, timestamp, turnId, type, data⟩ := event
  cases type with
  | runFinished =>
    simp only [applyBranch, bind, Except.bind] at applied
    split at applied
    · cases applied
    · split at applied
      · cases applied
      · cases applied
        split
        · exact update_present _ present
        · exact update_present _ (update_present _ present)
  | modelTurnStarted =>
    cases applied
    apply set_present
    apply update_present
    apply update_present
    split
    · exact update_present _ (set_present _ _ present)
    · exact set_present _ _ present
  | sessionStateChanged =>
    cases applied
    split
    · exact update_present _ present
    · exact present
  | runFailed =>
    cases applied
    exact set_present _ _ (update_present _ (update_present _ present))
  | turnFailed =>
    cases applied
    exact update_present _ (update_present _ present)
  | _ =>
    cases applied
    first
    | exact present
    | exact update_present _ present
    | exact set_present _ _ present

theorem applyEvent_present {publicPaths : Json F → Json F} {projection next : Dict F}
    (present : (projection.get? key).isSome)
    (applied : applyEvent python publicPaths projection event = .ok next) :
    (next.get? key).isSome := by
  apply applyBranch_present python _ applied
  simp only [lastEvent]
  split
  · split
    · exact update_present _ present
    · exact present
  · exact present

end Projection

end MonoidKernel.StatusProjection
