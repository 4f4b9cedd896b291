import MonoidKernel.Core.ModelReceipt

set_option autoImplicit false

namespace MonoidKernel.CallReceipt

open Library

section Scripts

structure AnsweredTurn where
  stopReason : String
  report : UsageReport

-- A turn that the normalizer refuses: the error carries what the turn reported, as far as the
-- observation agrees with the counts.
structure RefusedTurn where
  errorCode : String
  retryable : Bool
  configRecoverable : Bool
  usage : Usage
  observation : Option UsageObservation
  agrees : ∀ reported ∈ observation, reported.Agrees usage

def RefusedTurn.failure (turn : RefusedTurn) : CallFailure where
  kind := .adapter
  errorCode := turn.errorCode
  retryable := turn.retryable
  configRecoverable := turn.configRecoverable
  usage := turn.usage
  observation := turn.observation

inductive AttemptEnding where
  | answered (turn : AnsweredTurn)
  | malformed (turn : RefusedTurn)
  | raised (failure : CallFailure)

inductive SettlementAnswer where
  | committed
  | evidenceUncommitted
  | uncommitted
deriving DecidableEq, Repr

structure AttemptScript where
  -- The first of reservation, `before_dispatch`, boundary check and `dispatch_started` to fail.
  before : Option CallFailure
  reports : List UsageReport
  delivered : Bool
  ending : AttemptEnding
  prepared : Bool
  recordable : Bool
  settlement : SettlementAnswer
  -- The backoff: whether it would reach the deadline, what interrupts it, how long it took.
  pastDeadline : Bool
  interrupted : Option CallFailure
  backoffMs : Nat

structure CallPlan where
  durable : Bool
  maxAttempts : Option Nat
  refused : Option CallFailure
  script : Nat → AttemptScript

end Scripts

section Loop

structure CallState where
  attemptsMade : Nat
  spentUsage : Usage
  spentAttempts : Nat
  observations : List UsageEvidenceAttempt
  attemptLog : List ModelCallAttempt
  lastAttemptEntry : Option ModelCallAttempt
  pendingBackoffMs : Nat
  durableOutcome : Option ModelCallReceipt
  dispatches : List AttemptScript

def CallState.initial : CallState where
  attemptsMade := 0
  spentUsage := Counts.empty
  spentAttempts := 0
  observations := []
  attemptLog := []
  lastAttemptEntry := none
  pendingBackoffMs := 0
  durableOutcome := none
  dispatches := []

inductive CallEnding where
  | returned
  | raised (failure : CallFailure)

structure CallResult where
  published : List ModelCallReceipt
  dispatches : List AttemptScript
  ending : CallEnding
  unbuilt : Bool

def constructorError : CallFailure where
  kind := .other
  errorCode := "ValueError"
  retryable := false
  configRecoverable := false
  usage := Counts.empty
  observation := none

-- `raise_model_dispatch_unknown`, whether or not the journal takes the transition.
def dispatchUnknown (usage : Usage) : CallFailure where
  kind := .other
  errorCode := "dispatch_unknown"
  retryable := false
  configRecoverable := false
  usage := usage
  observation := none

def evidenceError (usage : Usage) : CallFailure where
  kind := .evidenceUncommitted
  errorCode := "evidence_uncommitted"
  retryable := true
  configRecoverable := false
  usage := usage
  observation := none

variable (plan : CallPlan)

def mergedUsage (spent usage : Usage) : Usage := usage.plus spent

def CallState.terminalEntry (state : CallState) : Option ModelCallAttempt :=
  state.lastAttemptEntry.filter (·.index = state.attemptsMade)

def CallState.terminalUsage (state : CallState) (failed : ModelCallReceipt) : Usage :=
  if state.spentAttempts < state.attemptsMade then
    (state.terminalEntry.map (·.usage)).getD failed.usage
  else Counts.empty

def CallState.terminalObservations (state : CallState) (failure : CallFailure) :
    List UsageEvidenceAttempt :=
  if state.observations.length < state.attemptsMade then
    state.observations ++
      [⟨state.attemptsMade, failure.observation.getD UsageObservation.legacy⟩]
  else state.observations

def CallState.terminalLog (state : CallState) (failed : ModelCallReceipt)
    (observations : List UsageEvidenceAttempt) : Option (List ModelCallAttempt) :=
  if state.attemptLog.length < state.attemptsMade then
    match state.terminalEntry with
    | some entry => some (state.attemptLog ++ [entry])
    | none =>
      -- The failure came between the return of the dispatch and the settlement.
      (ModelCallAttempt.build
        { index := state.attemptsMade
          errorCode := failed.errorCode
          retryable := failed.retryable
          configRecoverable := failed.configRecoverable
          usage := failed.usage
          streamCommitted := (state.dispatches.getLast?.map (·.delivered)).getD false
          backoffMs := some state.pendingBackoffMs
          usageEvidence := observations.getLast?.map (·.observation) }).map
        fun entry => state.attemptLog ++ [entry]
  else some state.attemptLog

def failedReceipt (state : CallState) (failure : CallFailure) : Option ModelCallReceipt := do
  let marked ← (ModelCallReceipt.initial.withError failure).build
  let failed ← { marked with attempts := state.attemptsMade }.build
  let observations := state.terminalObservations failure
  let attemptLog ← state.terminalLog failed observations
  let evidence ← UsageEvidence.build observations
  { failed with
    attemptLog := attemptLog
    usage := mergedUsage state.spentUsage (state.terminalUsage failed)
    usageEvidence := some evidence }.build

def settleFailure (state : CallState) (failure : CallFailure) : CallResult :=
  if failure.kind = .evidenceUncommitted then
    match state.durableOutcome with
    | some outcome =>
      ⟨[outcome], state.dispatches, .raised (failure.marked outcome.usage), false⟩
    | none => ⟨[], state.dispatches, .raised failure, false⟩
  else match failedReceipt state failure with
    | some failed => ⟨[failed], state.dispatches, .raised (failure.marked failed.usage), false⟩
    | none => ⟨[], state.dispatches, .raised constructorError, true⟩

def CallResult.afterConstructor (result : CallResult) : CallResult :=
  { result with unbuilt := true }

-- The hook's part of a failed dispatch: only a proven refusal is settled, everything else is
-- unknown.
def settleRefusal (state : CallState) (attempt : AttemptScript) (entry : ModelCallAttempt)
    (failure : CallFailure) : Except (CallResult) CallState :=
  match UsageEvidence.build state.observations with
  | none => .error (settleFailure state constructorError).afterConstructor
  | some evidence =>
    let usage := if state.spentUsage.entries = [] then entry.usage
      else mergedUsage state.spentUsage entry.usage
    if failure.kind ≠ .refused then .error (settleFailure state (dispatchUnknown usage))
    else
      let receipt := { ModelCallReceipt.initial.withError failure with
        attempts := state.attemptsMade
        attemptLog := state.attemptLog ++ [entry]
        usage := usage
        usageEvidence := some evidence }
      match receipt.build with
      | none => .error (settleFailure state constructorError).afterConstructor
      | some outcome =>
        if ¬attempt.prepared then .error (settleFailure state (dispatchUnknown outcome.usage))
        else
          let state := { state with durableOutcome := some outcome }
          match attempt.settlement with
          | .committed => .ok state
          | .evidenceUncommitted => .error (settleFailure state (evidenceError outcome.usage))
          | .uncommitted => .error (settleFailure state (dispatchUnknown outcome.usage))

def CallFailure.kernelRetryable (failure : CallFailure) : Bool :=
  (failure.kind == .adapter || failure.kind == .refused || failure.kind == .evidenceUncommitted)
    && failure.retryable && !failure.configRecoverable

def CallPlan.exhausted (attemptsMade : Nat) : Bool :=
  match plan.maxAttempts with
  | none => true
  | some most => most ≤ attemptsMade

def AttemptScript.final (attempt : AttemptScript) (attemptsMade : Nat) (failure : CallFailure) :
    Bool :=
  plan.exhausted attemptsMade || attempt.delivered || !failure.kernelRetryable
    || attempt.pastDeadline

def absorbAttempt (state : CallState) (attempt : AttemptScript) (entry : ModelCallAttempt)
    (failure : CallFailure) : Except CallResult CallState :=
  if attempt.final plan state.attemptsMade failure then .error (settleFailure state failure)
  else
    let state := { state with
      spentUsage := mergedUsage state.spentUsage entry.usage
      spentAttempts := state.attemptsMade
      attemptLog := state.attemptLog ++ [entry] }
    match attempt.interrupted with
    | some boundary => .error (settleFailure state boundary)
    | none => .ok { state with pendingBackoffMs := attempt.backoffMs }

def dispatchFailed (state : CallState) (attempt : AttemptScript) (failure : CallFailure) :
    Except CallResult CallState :=
  let observation := failure.observation.getD UsageObservation.legacy
  let state := { state with
    observations := state.observations ++ [⟨state.attemptsMade, observation⟩] }
  let built := ModelCallAttempt.build
    { index := state.attemptsMade
      errorCode := failure.errorCode
      retryable := failure.retryable
      configRecoverable := failure.configRecoverable
      usage := failure.usage
      streamCommitted := attempt.delivered
      backoffMs := some state.pendingBackoffMs
      usageEvidence := some observation }
  match built with
  | none => .error (settleFailure state constructorError).afterConstructor
  | some entry =>
    let state := { state with lastAttemptEntry := some entry }
    let settled :=
      if plan.durable ∧ failure.kind ≠ .callerCancelled then
        settleRefusal state attempt entry failure
      else .ok state
    match settled with
    | .error result => .error result
    | .ok state => absorbAttempt plan state attempt entry failure

def completedReceipt (state : CallState) (attempt : AttemptScript) (turn : AnsweredTurn) :
    Option ModelCallReceipt := do
  let marked ← { ModelCallReceipt.initial with
    stopReason := turn.stopReason, usage := turn.report.usage }.build
  let completed ← { marked with attempts := state.attemptsMade }.build
  let entry ← ModelCallAttempt.build
    { index := state.attemptsMade
      errorCode := ""
      retryable := false
      configRecoverable := false
      usage := completed.usage
      streamCommitted := attempt.delivered
      backoffMs := some state.pendingBackoffMs
      usageEvidence := some turn.report.observation }
  let evidence ← UsageEvidence.build
    (state.observations ++ [⟨state.attemptsMade, turn.report.observation⟩])
  { completed with
    attemptLog := state.attemptLog ++ [entry]
    usage := if state.spentUsage.entries = [] then completed.usage
      else mergedUsage state.spentUsage completed.usage
    usageEvidence := some evidence }.build

def settleAnswer (state : CallState) (attempt : AttemptScript) (turn : AnsweredTurn) :
    CallResult :=
  match completedReceipt state attempt turn with
  | none => ⟨[], state.dispatches, .raised constructorError, true⟩
  | some completed =>
    if ¬plan.durable then ⟨[completed], state.dispatches, .returned, false⟩
    else if ¬attempt.prepared ∨ ¬attempt.recordable then
      ⟨[], state.dispatches, .raised (dispatchUnknown completed.usage), false⟩
    else match attempt.settlement with
    | .committed => ⟨[completed], state.dispatches, .returned, false⟩
    | .evidenceUncommitted =>
      ⟨[completed], state.dispatches, .raised (evidenceError completed.usage), false⟩
    | .uncommitted =>
      ⟨[], state.dispatches, .raised (dispatchUnknown completed.usage), false⟩

def attemptOnce (state : CallState) : Except CallResult CallState :=
  let attempt := plan.script state.attemptsMade
  match attempt.before with
  | some failure => .error (settleFailure state failure)
  | none =>
    let state := { state with
      attemptsMade := state.attemptsMade + 1
      durableOutcome := none
      dispatches := state.dispatches ++ [attempt] }
    match attempt.ending with
    | .answered turn => .error (settleAnswer plan state attempt turn)
    | .malformed turn =>
      -- A durable call classifies a malformed turn inside the started dispatch.
      if plan.durable then dispatchFailed plan state attempt turn.failure
      else .error (settleFailure state turn.failure)
    | .raised failure => dispatchFailed plan state attempt (failure.dispatched attempt.reports)

def attemptLoop : Nat → CallState → Option CallResult
  | 0, _ => none
  | passes + 1, state =>
    match attemptOnce plan state with
    | .error result => some result
    | .ok state => attemptLoop passes state

-- `_acall_owned`, for a call of which the lifecycle hook has nothing recorded.
def acallOwned : Option CallResult :=
  match plan.refused with
  | some failure => some (settleFailure CallState.initial failure)
  | none => attemptLoop plan (max 1 (plan.maxAttempts.getD 1)) CallState.initial

end Loop

end MonoidKernel.CallReceipt
