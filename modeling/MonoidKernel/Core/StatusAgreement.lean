import MonoidKernel.Core.StatusReplay

set_option autoImplicit false

namespace MonoidKernel.StatusProjection

open Library CheckpointCodec
open AgentLoop (interruptionCauseValue)
open Lifecycle (SessionState)

variable {F : Type}

section Values

def isCause : Json F → Bool
  | .null => true
  | value => (parseCause (some value)).isSome

def StatusField.accepts : StatusField → Json F → Bool
  | .state | .error | .errorCode | .providerErrorCode => isStr
  | .terminal | .retryable | .configRecoverable | .providerRetried | .waitingForBackgroundJobs =>
    isBool
  | .httpStatus => isIntOrNull
  | .interruptionCause => isCause
  | .currentStep | .currentTool => fun _ => true

@[simp] theorem isStr_str (text : String) : isStr (str text : Json F) = true := rfl

@[simp] theorem isBool_bool (value : Bool) : isBool (.bool value : Json F) = true := rfl

@[simp] theorem isCause_null : isCause (.null : Json F) = true := rfl

variable (data : Dict F) (key : String)

theorem isStr_eventText : isStr (eventText data key) = true := by
  simp only [eventText]
  split <;> rfl

theorem isBool_eventFlag : isBool (eventFlag data key) = true := by
  simp only [eventFlag]
  split <;> rfl

theorem isIntOrNull_eventHttpStatus : isIntOrNull (eventHttpStatus data) = true := by
  simp only [eventHttpStatus]
  split <;> rfl

theorem parseCause_causeJson (cause : InterruptionCause) :
    parseCause (some (causeJson cause : Json F)) = some cause := by
  simp only [parseCause, causeJson, Option.bind_some, textOf_str]
  cases cause <;> decide

variable {value : Json F}

theorem causeJson_of_parseCause {cause : InterruptionCause}
    (parsed : parseCause (some value) = some cause) : value = causeJson cause := by
  cases value with
  | str text =>
    have found : interruptionCauses.find?
        (fun cause => interruptionCauseValue cause == String.ofList text) = some cause := parsed
    have matched : (interruptionCauseValue cause == String.ofList text) = true :=
      List.find?_some (p := fun cause => interruptionCauseValue cause == String.ofList text) found
    have same := eq_of_beq matched
    simp [causeJson, str, same]
  | _ => cases parsed

theorem isCause_spec (accepted : isCause value = true) :
    value = .null ∨ ∃ cause, value = causeJson cause := by
  cases value with
  | null => exact .inl rfl
  | str text =>
    have named : (parseCause (some (.str text : Json F))).isSome = true := accepted
    obtain ⟨cause, parsed⟩ := Option.isSome_iff_exists.mp named
    exact .inr ⟨cause, causeJson_of_parseCause parsed⟩
  | _ => cases accepted

theorem isCause_eventInterruptionCause : isCause (eventInterruptionCause data) = true := by
  simp only [eventInterruptionCause]
  split
  next cause _ =>
    have named : isCause (causeJson cause : Json F) =
      (parseCause (some (causeJson cause : Json F))).isSome := rfl
    rw [named, parseCause_causeJson]
    rfl
  · rfl

theorem default_accepted (field : StatusField) : field.accepts (field.default : Json F) = true := by
  cases field <;> rfl

theorem decisions_accepted (parked : Bool) (event : AgentEvent F) :
    ∀ item ∈ decisions parked event, item.1.accepts item.2 = true := by
  have classification : ∀ item ∈ (failureClassification : List (StatusField × Json F)),
      item.1.accepts item.2 = true := by
    intro item member
    obtain ⟨field, _, rfl⟩ := List.mem_map.mp member
    exact default_accepted field
  have text := isStr_eventText event.data
  have flag := isBool_eventFlag event.data
  have status := isIntOrNull_eventHttpStatus event.data
  have cause := isCause_eventInterruptionCause event.data
  obtain ⟨seq, runId, timestamp, turnId, type, data⟩ := event
  cases type with
  | runFinished =>
    simp only [decisions]
    rw [List.forall_mem_append]
    constructor
    · simp [StatusField.accepts, text, cause, stateJson]
    · split
      · simp
      · exact classification
  | modelTurnStarted =>
    simp only [decisions]
    rw [List.forall_mem_append, List.forall_mem_append]
    constructor
    · exact ⟨by simp [StatusField.accepts], classification⟩
    · split
      · simp [StatusField.accepts, stateJson]
      · simp
  | sessionStateChanged =>
    simp only [decisions]
    split
    · simp [StatusField.accepts, stateJson]
    · simp
  | _ =>
    simp [decisions, StatusField.accepts, text, flag, status, cause, stateJson]

theorem decides_accepted {parked : Bool} {event : AgentEvent F} {field : StatusField}
    (decided : decides parked event field = some value) :
    field.accepts value = true := by
  obtain ⟨before, after, listed, _⟩ := List.lookup_eq_some_iff.mp decided
  apply decisions_accepted parked event (field, value)
  rw [listed]
  exact List.mem_append_right _ List.mem_cons_self

end Values

section Written

variable (python : Python F)

def sinkKeys : List String :=
  ["run_id", "state", "terminal", "started_at", "workspace", "workspace_backend",
    "workspace_base_path", "manifest_path", "mode", "model", "reasoning_effort", "finished_at",
    "error", "error_code", "error_type", "provider_error_code", "http_status", "retryable",
    "config_recoverable", "provider_retried", "interruption_cause", "waiting_for_background_jobs",
    "waiting_jobs", "resumed_jobs", "awaiting_input", "agent_config", "current_turn_id",
    "current_step", "current_tool", "current_tool_call_id", "plan", "plan_truncated_items",
    "metrics", "proposal", "jobs", "last_event_seq", "last_event_type", "updated_at"]

theorem get?_emit_foreign (state : Dict F) (event : AgentEvent F) {key : String}
    (foreign : key ∉ sinkKeys) : (emit python state event).get? key = state.get? key := by
  simp only [sinkKeys, List.mem_cons, List.not_mem_nil, or_false, not_or] at foreign
  have caused (held data : Dict F) : (withCause held data).get? key = held.get? key := by
    simp only [withCause]
    split <;> simp [OrderedDict.get?_set, foreign]
  have cleared (held : Dict F) :
      (pop held failureClassificationKeys).get? key = held.get? key := by
    simp [failureClassificationKeys, foreign]
  have branch : (emitBranch python state event).get? key = state.get? key := by
    obtain ⟨seq, runId, timestamp, turnId, type, data⟩ := event
    cases type with
    | runFinished =>
      simp only [emitBranch]
      split
      · simp [caused, foreign]
      · simp [caused, cleared, foreign]
    | modelTurnStarted =>
      simp only [emitBranch, unpark]
      split <;> simp [failureClassificationKeys, foreign]
    | sessionStateChanged =>
      simp only [emitBranch]
      split <;> simp [foreign]
    | planUpdated =>
      simp only [emitBranch, planTruncated]
      split <;> simp [OrderedDict.get?_set, foreign]
    | job name =>
      have apart : key ≠ "jobs" := by simp [foreign]
      have opened := get?_jobsOpened state (state.get? "jobs") apart
      simp only [emitBranch, withJob]
      split
      · split
        · exact opened
        · exact (OrderedDict.get?_set_ne _ _ apart).trans opened
      · exact opened
    | _ => simp [emitBranch, caused, OrderedDict.get?_set, foreign]
  rw [← branch]
  simp [emit, foreign]

theorem emit_lastSeq (state : Dict F) (event : AgentEvent F) :
    (emit python state event).get? "last_event_seq" = some (.int event.seq) := by
  simp [emit]

structure Written (status : Dict F) : Prop where
  accepted : ∀ field : StatusField, field.accepts (readField status field) = true
  numbered : (status.get? "last_event_seq").all isNonnegativeInt = true
  unnamed : status.get? "status" = none
  live : ∀ key ∈ failureQuarantineMarkers, status.get? key = none

theorem written_empty : Written (.empty : Dict F) where
  accepted := default_accepted
  numbered := rfl
  unnamed := rfl
  live := fun _ _ => rfl

theorem written_emit {state : Dict F} {event : AgentEvent F} (emitted : AsEmitted event)
    (held : Written state) : Written (emit python state event) where
  accepted := by
    intro field
    rw [emit_field python state emitted, Replay.step]
    cases decided : decides (parkedAt (readField state)) event field with
    | none => exact held.accepted field
    | some value => exact decides_accepted decided
  numbered := by
    rw [emit_lastSeq]
    exact decide_eq_true (Int.natCast_nonneg event.seq)
  unnamed := by
    rw [get?_emit_foreign python state event (by simp [sinkKeys])]
    exact held.unnamed
  live := by
    intro key marker
    have foreign : key ∉ sinkKeys := by
      simp only [failureQuarantineMarkers, List.mem_cons, List.not_mem_nil, or_false] at marker
      rcases marker with rfl | rfl <;> simp [sinkKeys]
    rw [get?_emit_foreign python state event foreign]
    exact held.live key marker

theorem written_run {events : List (AgentEvent F)} (emitted : ∀ event ∈ events, AsEmitted event)
    {state : Dict F} (held : Written state) :
    Written (events.foldl (emit python) state) := by
  induction events generalizing state with
  | nil => exact held
  | cons event rest ih =>
    apply ih fun other member => emitted other (List.mem_cons_of_mem _ member)
    exact written_emit python (emitted event List.mem_cons_self) held

theorem readField_run {events : List (AgentEvent F)} (emitted : ∀ event ∈ events, AsEmitted event)
    (state : Dict F) :
    readField (events.foldl (emit python) state) =
      Replay.replay parkedAt decides (readField state) events := by
  induction events generalizing state with
  | nil => rfl
  | cons event rest ih =>
    have stepped : readField (emit python state event) =
        Replay.step parkedAt decides (readField state) event :=
      funext (emit_field python state (emitted event List.mem_cons_self))
    rw [List.foldl_cons, ih fun other member => emitted other (List.mem_cons_of_mem _ member),
      stepped]
    rfl

theorem run_state (events : List (AgentEvent F × Bool)) (sink : StatusJsonSink F) :
    (events.foldl (fun sink item => sink.emit python item.1 item.2) sink).state =
      (events.map Prod.fst).foldl (emit python) sink.state := by
  induction events generalizing sink with
  | nil => rfl
  | cons item rest ih => exact ih _

theorem run_file (events : List (AgentEvent F × Bool)) :
    ∃ early, early <+: events.map Prod.fst ∧
      (StatusJsonSink.run python events).file = early.foldl (emit python) .empty := by
  induction events using List.reverseRecOn with
  | nil => exact ⟨[], List.prefix_refl _, rfl⟩
  | append_singleton events item ih =>
    obtain ⟨event, written⟩ := item
    have last : StatusJsonSink.run python (events ++ [(event, written)]) =
        (StatusJsonSink.run python events).emit python event written := by
      simp only [StatusJsonSink.run, List.foldl_append, List.foldl_cons, List.foldl_nil]
    rw [last, List.map_append]
    cases written with
    | true =>
      refine ⟨_, List.prefix_refl _, ?_⟩
      have held : (StatusJsonSink.run python events).state =
        (events.map Prod.fst).foldl (emit python) .empty := run_state python events ⟨.empty, .empty⟩
      rw [List.foldl_append, ← held]
      rfl
    | false =>
      obtain ⟨early, inside, file⟩ := ih
      exact ⟨early, inside.trans (List.prefix_append _ _), file⟩

end Written

section Seed

variable (python : Python F)

theorem optionalText_ok {value : Option (Json F)} (label : String)
    (typed : value.all isStr = true) : ∃ text, optionalText value label = .ok text := by
  cases value with
  | none => exact ⟨none, rfl⟩
  | some value =>
    cases value with
    | str text => exact ⟨some (String.ofList text), rfl⟩
    | _ => cases typed

theorem firstPresentText_ok (candidates : List (Option (Json F))) (label : String)
    (typed : ∀ candidate ∈ candidates, candidate.all isStr = true) :
    ∃ text, firstPresentText candidates label = .ok text := by
  induction candidates with
  | nil => exact ⟨none, rfl⟩
  | cons candidate rest ih =>
    obtain ⟨text, read⟩ := optionalText_ok label (typed candidate List.mem_cons_self)
    have later := ih fun other member => typed other (List.mem_cons_of_mem _ member)
    simp only [firstPresentText, read, bind, Except.bind]
    cases text with
    | none => exact later
    | some text =>
      simp only
      split
      · exact later
      · exact ⟨_, rfl⟩

theorem payloadBool_ok {payload : Dict F} {key : String}
    (typed : (payload.get? key).all isBool = true) :
    ∃ value, payloadBool payload key = .ok value ∧
      (.bool value : Json F) = getOr payload key (.bool false) := by
  simp only [payloadBool, getOr]
  cases found : payload.get? key with
  | none => exact ⟨false, rfl, rfl⟩
  | some value =>
    rw [found] at typed
    cases value with
    | bool value => exact ⟨value, rfl, rfl⟩
    | _ => cases typed

theorem payloadNonnegativeInt_ok {payload : Dict F} {key : String}
    (typed : (payload.get? key).all isNonnegativeInt = true) :
    ∃ value, payloadNonnegativeInt payload key = .ok value := by
  simp only [payloadNonnegativeInt]
  cases found : payload.get? key with
  | none => exact ⟨0, rfl⟩
  | some value =>
    rw [found] at typed
    cases value with
    | int value =>
      have positive : ¬ value < 0 := by
        have held : 0 ≤ value := of_decide_eq_true typed
        omega
      exact ⟨value, by simp only [positive, if_false]⟩
    | _ => cases typed

theorem either_text {value : Option (Json F)} (typed : value.all isStr = true) :
    python.either value (str "") = value.getD (str "") := by
  cases value with
  | none => rfl
  | some value =>
    cases value with
    | str text =>
      cases text with
      | nil => rfl
      | cons head rest => rfl
    | _ => cases typed

variable {status : Dict F}

theorem all_of_accepted {field : StatusField} {check : Json F → Bool}
    (accepted : check (readField status field) = true) :
    (status.get? field.key).all check = true := by
  simp only [readField, getOr] at accepted
  cases found : status.get? field.key with
  | none => rfl
  | some value =>
    rw [found] at accepted
    exact accepted

theorem eventInterruptionCause_accepted
    (accepted : isCause (readField status .interruptionCause) = true) :
    eventInterruptionCause status = readField status .interruptionCause := by
  simp only [readField, getOr, StatusField.key, eventInterruptionCause] at accepted ⊢
  cases found : status.get? "interruption_cause" with
  | none => rfl
  | some value =>
    rw [found, Option.getD_some] at accepted
    rcases isCause_spec accepted with rfl | ⟨cause, rfl⟩
    · rfl
    · rw [parseCause_causeJson, Option.getD_some]

theorem either_cause {value : Json F} (accepted : isCause value = true) :
    python.either (some value) .null = value := by
  rcases isCause_spec accepted with rfl | ⟨cause, rfl⟩
  · rfl
  · cases cause <;> rfl

theorem payloadState_ok (written : Written status) :
    ∃ state, payloadState status .empty = .ok state := by
  have stateText := all_of_accepted (written.accepted .state)
  have codeText := all_of_accepted (written.accepted .errorCode)
  obtain ⟨terminal, terminalRead, _⟩ :=
    payloadBool_ok (all_of_accepted (written.accepted .terminal))
  obtain ⟨raw, rawRead⟩ := firstPresentText_ok
    [status.get? "state", status.get? "status", none, none] "run state" (by
      simp only [List.mem_cons, List.not_mem_nil, or_false, written.unnamed]
      rintro candidate (rfl | rfl | rfl | rfl) <;> first | exact stateText | rfl)
  obtain ⟨code, codeRead⟩ := firstPresentText_ok [status.get? "error_code", none]
    "run error_code" (by
      simp only [List.mem_cons, List.not_mem_nil, or_false]
      rintro candidate (rfl | rfl) <;> first | exact codeText | rfl)
  simp only [payloadState, OrderedDict.get?_empty, rawRead, bind, Except.bind]
  cases raw with
  | none => exact ⟨_, rfl⟩
  | some raw =>
    simp only [codeRead]
    have read : payloadBool status "terminal" = .ok terminal := terminalRead
    simp only [read]
    exact ⟨_, rfl⟩

theorem payloadTerminal_ok (written : Written status) (state : SessionState) :
    ∃ terminal, payloadTerminal status state = .ok terminal := by
  have stateText := all_of_accepted (written.accepted .state)
  simp only [payloadTerminal]
  split
  · obtain ⟨terminal, read, _⟩ := payloadBool_ok (all_of_accepted (written.accepted .terminal))
    exact ⟨terminal, read⟩
  · obtain ⟨raw, read⟩ := firstPresentText_ok
      [status.get? "state", status.get? "status"] "run state" (by
        simp only [List.mem_cons, List.not_mem_nil, or_false, written.unnamed]
        rintro candidate (rfl | rfl) <;> first | exact stateText | rfl)
    simp only [read, bind, Except.bind]
    exact ⟨_, rfl⟩

theorem seed_written {dir : RunDir F} (written : Written dir.status)
    (unmeasured : dir.metrics = .empty) :
    ∃ seeded, seed python dir = .ok seeded ∧
      (∀ field : StatusField, (seeded.get? field.key).isSome) ∧
      ∀ field, field ≠ .state → field ≠ .terminal →
        readField seeded field = readField dir.status field := by
  obtain ⟨state, stateRead⟩ := payloadState_ok written
  obtain ⟨terminal, terminalRead⟩ := payloadTerminal_ok written state
  obtain ⟨waiting, waitingRead, waitingHeld⟩ :=
    payloadBool_ok (all_of_accepted (written.accepted .waitingForBackgroundJobs))
  obtain ⟨seq, seqRead⟩ := payloadNonnegativeInt_ok written.numbered
  have waitingNamed : payloadBool dir.status "waiting_for_background_jobs" = .ok waiting :=
    waitingRead
  simp only [seed, unmeasured, stateRead, terminalRead, waitingNamed, seqRead, bind, Except.bind]
  refine ⟨_, rfl, ?_, ?_⟩
  · intro field; cases field <;> simp [StatusField.key]
  · intro field notState notTerminal
    have error := either_text python (all_of_accepted (written.accepted .error))
    have code := either_text python (all_of_accepted (written.accepted .errorCode))
    have provider := getOr_text (all_of_accepted (written.accepted .providerErrorCode))
    have http := getOr_httpStatus (all_of_accepted (written.accepted .httpStatus))
    have retryable := getOr_flag (all_of_accepted (written.accepted .retryable))
    have config := getOr_flag (all_of_accepted (written.accepted .configRecoverable))
    have retried := getOr_flag (all_of_accepted (written.accepted .providerRetried))
    have cause := eventInterruptionCause_accepted (written.accepted .interruptionCause)
    have causeHeld := either_cause python (written.accepted .interruptionCause)
    cases field with
    | state => exact absurd rfl notState
    | terminal => exact absurd rfl notTerminal
    | error =>
      simpa [readField, getOr, StatusField.key, StatusField.default, Python.either] using error
    | errorCode =>
      simpa [readField, getOr, StatusField.key, StatusField.default, Python.either] using code
    | providerErrorCode =>
      simpa [readField, getOr, StatusField.key, StatusField.default] using provider.symm
    | httpStatus => simpa [readField, getOr, StatusField.key, StatusField.default] using http.symm
    | retryable =>
      simpa [readField, getOr, StatusField.key, StatusField.default] using retryable.symm
    | configRecoverable =>
      simpa [readField, getOr, StatusField.key, StatusField.default] using config.symm
    | providerRetried =>
      simpa [readField, getOr, StatusField.key, StatusField.default] using retried.symm
    | interruptionCause =>
      have unmeasuredCause : eventInterruptionCause (.empty : Dict F) = .null := rfl
      rw [← causeHeld, ← cause]
      simp [readField, getOr, StatusField.key, unmeasuredCause]
    | waitingForBackgroundJobs =>
      simpa [readField, getOr, StatusField.key, StatusField.default] using waitingHeld
    | currentStep => simp [readField, getOr, StatusField.key, StatusField.default]
    | currentTool => simp [readField, getOr, StatusField.key, StatusField.default]

end Seed

section Runs

variable (python : Python F)

theorem foldlM_fields (publicPaths : Json F → Json F) {events : List (AgentEvent F)}
    (emitted : ∀ event ∈ events, AsEmitted event) {projection : Dict F}
    (present : ∀ field : StatusField, (projection.get? field.key).isSome) :
    ∃ final, events.foldlM (applyEvent python publicPaths) projection = .ok final ∧
      (∀ field : StatusField, (final.get? field.key).isSome) ∧
      readField final = Replay.replay parkedAt decides (readField projection) events := by
  induction events generalizing projection with
  | nil => exact ⟨projection, rfl, present, rfl⟩
  | cons event rest ih =>
    obtain ⟨next, applied, fields⟩ :=
      applyEvent_field python publicPaths projection (emitted event List.mem_cons_self)
    obtain ⟨final, folded, held, read⟩ :=
      ih (fun other member => emitted other (List.mem_cons_of_mem _ member))
        (fun field => applyEvent_present python (present field) applied)
    refine ⟨final, ?_, held, ?_⟩
    · rw [List.foldlM_cons, applied]
      exact folded
    · have stepped : readField next =
        Replay.step parkedAt decides (readField projection) event := funext fields
      rw [read, stepped]
      rfl

theorem started_resets {first : AgentEvent F} (begins : first.type = .runStarted) :
    Replay.Resets parkedAt decides (fun field => field = .state ∨ field = .terminal) first where
  congruent := by
    intro held other same
    simp only [parkedAt, same .state (.inl rfl)]
  unguarded := by
    intro parked other
    funext field
    simp only [decides, decisions, begins]
  decided := by
    intro parked field lead
    rcases lead with rfl | rfl <;>
      simp [decides, decisions, begins, OrderedDict.lookup_cons_ite]

theorem unquarantined {status : Dict F} (written : Written status) :
    statusArtifactFailureQuarantined status = false := by
  apply List.any_eq_false.mpr
  intro key marker
  rw [written.live key marker]
  exact Bool.false_ne_true

theorem replayed_status (dir : RunDir F) {events shown : List (AgentEvent F × Bool)}
    {first : AgentEvent F} {rest : List (AgentEvent F)}
    (starts : events.map Prod.fst = first :: rest) (begins : first.type = .runStarted)
    (emitted : ∀ item ∈ events, AsEmitted item.1) (inside : shown <+: events)
    (file : dir.status = (StatusJsonSink.run python shown).file)
    (unmeasured : dir.metrics = .empty) :
    ∃ projection, projectRunStatus python dir (events.map Prod.fst) = .ok projection ∧
      ∀ field : StatusField, projection.get? field.key =
        some (readField (StatusJsonSink.run python events).state field) := by
  have named : ∀ event ∈ events.map Prod.fst, AsEmitted event := by
    intro event member
    obtain ⟨item, listed, rfl⟩ := List.mem_map.mp member
    exact emitted item listed
  obtain ⟨early, shownEarly, held⟩ := run_file python shown
  have earlier : early <+: events.map Prod.fst := shownEarly.trans (inside.map Prod.fst)
  have earlyEmitted : ∀ event ∈ early, AsEmitted event :=
    fun event member => named event (earlier.subset member)
  have status : dir.status = early.foldl (emit python) .empty := file.trans held
  have written : Written dir.status := by
    rw [status]
    exact written_run python earlyEmitted written_empty
  obtain ⟨seeded, seedRead, present, fields⟩ := seed_written python written unmeasured
  obtain ⟨projection, folded, kept, read⟩ := foldlM_fields python dir.publicPaths named present
  have live : readField (StatusJsonSink.run python events).state =
      Replay.replay parkedAt decides (readField (.empty : Dict F)) (first :: rest) := by
    have state := run_state python events ⟨.empty, .empty⟩
    rw [← starts, ← readField_run python named]
    exact congrArg readField state
  have agree : readField projection = readField (StatusJsonSink.run python events).state := by
    rw [read, live, starts]
    rw [starts] at earlier
    apply Replay.replay_snapshot (started_resets begins) earlier
    intro field follower
    rw [fields field (fun same => follower (.inl same)) fun same => follower (.inr same), status,
      readField_run python earlyEmitted]
  refine ⟨projection, ?_, ?_⟩
  · simp only [projectRunStatus, seedRead, folded, bind, Except.bind, unquarantined written]
    rfl
  · intro field
    obtain ⟨value, found⟩ := Option.isSome_iff_exists.mp (kept field)
    rw [← agree, readField, getOr, found]
    rfl

def plainPython : Python Empty where
  isZero value := value.elim
  spell
    | .str text => String.ofList text
    | _ => ""
  spell_str _ := rfl

def plainEvent (seq : Nat) (type : EventType) (items : List (String × Json Empty)) :
    AgentEvent Empty where
  seq := seq
  runId := "run"
  timestamp := "now"
  turnId := none
  type := type
  data := update .empty items

def waitingRun : List (AgentEvent Empty × Bool) :=
  [(plainEvent 1 .runStarted [], true), (plainEvent 2 .runWaiting [], true),
    (plainEvent 3 .runFinished [("status", str "completed"), ("error", str "")], false)]

def waitingDir : RunDir Empty where
  name := "run"
  status := (StatusJsonSink.run plainPython (waitingRun.take 2)).file
  metrics := .empty
  proposal := .empty
  manifest := .empty
  package := .empty
  approval := .empty
  applyResult := .empty
  publicPaths := id

theorem replayed_status_waiting :
    ∃ projection, projectRunStatus plainPython waitingDir (waitingRun.map Prod.fst) =
      .ok projection ∧ ∀ field : StatusField, projection.get? field.key =
        some (readField (StatusJsonSink.run plainPython waitingRun).state field) := by
  have emitted : ∀ item ∈ waitingRun, AsEmitted item.1 := by
    simp only [waitingRun, List.forall_mem_cons, List.not_mem_nil, false_implies, implies_true,
      and_true]
    refine ⟨⟨?_, ?_, ?_⟩, ⟨?_, ?_, ?_⟩, ⟨?_, ?_, ?_⟩⟩ <;>
      simp [plainEvent, eventDataSchema, dataText]
  exact replayed_status plainPython waitingDir rfl rfl emitted
    (List.take_prefix 2 waitingRun) rfl rfl

end Runs

end MonoidKernel.StatusProjection
