import MonoidKernel.Loop.Script
import Mathlib.Algebra.Ring.Nat

set_option autoImplicit false

namespace MonoidKernel.AgentLoop

open Library

variable (spec : LoopSpec)

section Boundaries

def Activation.receive (loop : Activation) (arrivals : Arrivals) : Activation :=
  { loop with
    cancellation := loop.cancellation <|> arrivals.cancel.filter isOperationalCancellationCause
    interruptRequested := loop.interruptRequested || arrivals.stop
    pauseRequested := loop.pauseRequested || arrivals.pause }

def checkCancelOrDeadline (arrivals : Arrivals) : Phase Unit := do
  Piece.update fun loop => loop.receive arrivals
  let loop ← Piece.state
  match loop.cancellation with
  | some cause => Piece.leave (.runCancelled cause)
  | none => if arrivals.deadlinePassed then Piece.leave .runTimeout else pure ()

def checkRunBoundary (arrivals : Arrivals) : Phase Unit := do
  checkCancelOrDeadline arrivals
  let loop ← Piece.state
  if loop.interruptRequested then Piece.leave .turnInterrupted else pure ()

end Boundaries

section Accounting

-- `_usage_delta`: a count that went down is refused. A key that is new is kept with its count, also
-- with the count zero.
def usageDelta (aggregate already : Usage) : Option (List (String × Nat)) :=
  if already.entries.all fun entry => decide (entry.2 ≤ aggregate.count entry.1) then
    some ((aggregate.entries.filter fun entry =>
      (already.get? entry.1).isNone || decide (already.count entry.1 < entry.2)).map
        fun entry => (entry.1, entry.2 - already.count entry.1))
  else none

def accumulateUsage (total : Usage) (usage : List (String × Nat)) : Usage :=
  usage.foldl (fun total entry => total.add entry.1 entry.2) total

def accountModelUsage (usage already : Usage) : Phase Unit :=
  match usageDelta usage already with
  | none => Piece.leave
      (.other "durable model usage regressed across evidence recovery"
        "durable_invocation_usage_regressed")
  | some billed => Piece.update fun loop =>
      { loop with state.totalUsage := accumulateUsage loop.state.totalUsage billed }

def accountedEvidenceUsage (recovery : EvidenceRecovery) : Usage :=
  recovery.invocation.receiptUsage.getD Counts.empty

end Accounting

section Messages

def observationMessage (observation : ToolObservation) : Message :=
  if observation.isBackground then .user (spec.asyncResultText observation.output)
  else .tool observation.callId observation.output

def appendMessages (messages : List Message) (loop : Activation) : Activation :=
  { loop with state.messages := loop.state.messages ++ messages }

def queueObservations (observations : List ToolObservation) (loop : Activation) : Activation :=
  { loop with state.pendingObservations := loop.state.pendingObservations ++ observations }

def dropObservations (loop : Activation) : Activation :=
  { loop with state.pendingObservations := [] }

-- `_project_successful_model_turn`. A recovered turn leaves its reasoning behind.
def projectSuccessfulModelTurn (turn : ModelTurn) (replayed : Bool) (loop : Activation) :
    Activation :=
  { loop with
    state.previousTurnHandle :=
      if turn.responseId.isEmpty then loop.state.previousTurnHandle else turn.responseId
    state.messages := loop.state.messages ++
      [.assistant turn.finalText turn.toolCalls
        (if spec.providerNamed && !replayed then turn.reasoning else [])] }

def countCall (binding : Option String) (loop : Activation) : Activation :=
  match binding with
  | some binding =>
    { loop with state.toolCallCounts := loop.state.toolCallCounts.add binding 1 }
  | none => loop

end Messages

section Limits

def limitedSuspension (loop : Activation) : Suspension where
  reason := .limited
  status := loop.state.status
  finalText := loop.state.finalText
  errorCode := loop.state.errorCode

def limit (code text : String) (loop : Activation) : Activation :=
  { loop with
    state.status := .limited
    state.finalText := text
    state.errorCode := code }

def messageLogLimitExceeded (loop : Activation) : Option String :=
  if spec.limits.maxMessages < loop.state.messages.length then some "message_count_exceeded"
  else if spec.limits.maxMessageLogBytes < (loop.state.messages.map spec.messageSize).sum then
    some "message_log_bytes_exceeded"
  else none

def exceeds (bound : Option Nat) (count : Nat) : Bool := bound.any fun bound =>
    decide (bound < count)

def tokenBudgetExceeded (loop : Activation) : Option String :=
  let usage := loop.state.totalUsage
  if exceeds spec.limits.maxInputTokens (usage.count "input_tokens") then
    some "input_tokens_exceeded"
  else if exceeds spec.limits.maxOutputTokens (usage.count "output_tokens") then
    some "output_tokens_exceeded"
  else if exceeds spec.limits.maxTotalTokens (usage.count "total_tokens") then
    some "total_tokens_exceeded"
  else none

def stopAtLimit (code : Option String) (text : String) : Phase (Option Suspension) :=
  match code with
  | none => pure none
  | some code => do
    Piece.update fun loop => dropObservations (limit code text loop)
    let loop ← Piece.state
    pure (some (limitedSuspension loop))

end Limits

section Settling

inductive SettleDecision where
  | accept
  | refused
  | truncated
  | exhausted
  | reprompt (feedback : String)
  | defect (message : String)
deriving DecidableEq

def decideSettle (stopReason : String) (script : SettleScript) : Phase SettleDecision := do
  let loop ← Piece.state
  let decision :=
    if stopReason = "refusal" then .refused
    else if stopReason = "length" then .truncated
    else match script.verdict with
      | .satisfied => .accept
      | .defect message => .defect message
      | .unsatisfied feedback =>
        if spec.limits.maxOutputRetries ≤ loop.state.outputRetries then .exhausted
        else .reprompt feedback
  checkRunBoundary script.decided
  pure decision

def outputContractStopped : String :=
  "Stopped: the final response did not satisfy the output contract."

def recordDecision (decision : SettleDecision) (fromFinish : Bool) (loop : Activation) :
    Activation :=
  match decision with
  | .refused =>
    { loop with
      state.status := .failed
      state.errorCode := "output_refused" }
  | .truncated =>
    { loop with
      state.status := .limited
      state.errorCode := "output_truncated" }
  | .exhausted =>
    { loop with
      state.status := .limited
      state.errorCode := "output_validator_unsatisfied"
      state.finalText := if loop.state.finalText.isEmpty
        then outputContractStopped else loop.state.finalText
      pendingFinish := if fromFinish then none else loop.pendingFinish }
  | .reprompt _ =>
    { loop with
      state.outputRetries := loop.state.outputRetries + 1
      state.finalText := if fromFinish then "" else loop.state.finalText
      pendingFinish := if fromFinish then none else loop.pendingFinish }
  | _ => loop

def logFinishObservations (loop : Activation) : Activation :=
  dropObservations
    (appendMessages (loop.state.pendingObservations.map (observationMessage spec)) loop)

def applySettle (decision : SettleDecision) (fromFinish : Bool) : Phase (Option Suspension) := do
  match decision with
  | .defect message =>
    Piece.leave (.other ("output validator raised: " ++ message) "output_validator_error")
  | decision => do
    Piece.update fun loop =>
      let recorded := recordDecision decision fromFinish loop
      if fromFinish then logFinishObservations spec recorded else recorded
    let loop ← Piece.state
    match decision with
    | .reprompt feedback =>
      Piece.update fun loop => appendMessages [.user feedback] (dropObservations loop)
      pure none
    | .accept =>
      pure (some
        { reason := .settled
          status := loop.state.status
          finalText := loop.state.finalText })
    | .refused =>
      pure (some
        { reason := .settled
          status := loop.state.status
          finalText := loop.state.finalText
          errorCode := loop.state.errorCode })
    | _ => pure (some (limitedSuspension loop))

def applyModelFinalText (turn : ModelTurn) (loop : Activation) : Activation :=
  dropObservations { loop with state.finalText := turn.finalText }

def awaitingTasks (tasks : TaskScript) (loop : Activation) : Suspension where
  reason := .awaitingTasks
  status := loop.state.status
  awaitingTaskIds := tasks.externalTaskIds
  hasExternal := !tasks.externalTaskIds.isEmpty

def settleTurn (turn : ModelTurn) (tasks : TaskScript) (settle : SettleScript) :
    Phase (Option Suspension) := do
  if tasks.resumeJobs then
    Piece.update dropObservations
    let loop ← Piece.state
    pure (some (awaitingTasks tasks loop))
  else if !turn.finalText.isEmpty || turn.stopReason = "refusal" || turn.stopReason = "length" then
    Piece.update (applyModelFinalText turn)
    let decision ← decideSettle spec turn.stopReason settle
    applySettle spec decision false
  else Piece.leave (.modelAdapter { message := "model returned neither final text nor tool calls" })

end Settling

section Calls

def leaveBilled {A : Type} (raised : Raised) (billed : Usage) : Phase A := do
  Piece.update fun loop =>
    match raised with
    | .modelAdapter error =>
      { loop with
        state.providerErrorCode := error.providerErrorCode
        state.providerHttpStatus := error.httpStatus }
    | _ => loop
  accountModelUsage billed Counts.empty
  Piece.leave raised

def noteInvocation (callId : LogicalCallId) (dispatchState : DispatchState)
    (receiptUsage : Option Usage) (loop : Activation) : Activation :=
  if spec.lifecycleHook then
    { loop with session.lastModelInvocation := some ⟨callId, dispatchState, receiptUsage⟩ }
  else loop

def keepSettled (callId : LogicalCallId) (call : SettledCall) (loop : Activation) : Activation :=
  if spec.lifecycleHook then
    { loop with durable.settledCalls := (callId, call) ::
        loop.durable.settledCalls.filter fun held => held.1 ≠ callId }
  else loop

def Activation.settledCall (loop : Activation) (callId : LogicalCallId) : Option SettledCall :=
  loop.durable.settledCalls.lookup callId

def dispatch (callId : LogicalCallId) (spent : Usage) (answer : ProviderAnswer) :
    Phase (ModelTurn × Usage) := do
  Piece.update fun loop =>
    { loop with durable.providerEntries := loop.durable.providerEntries ++ [callId] }
  match answer with
  | .lost settled =>
    Piece.update fun loop =>
      match settled with
      | some call => keepSettled spec callId { call with usage := call.usage.plus spent } loop
      | none => loop
    Piece.leave .lost
  | .failed raised billed unsettled =>
    Piece.update fun loop =>
      match unsettled with
      | some dispatchState => noteInvocation spec callId dispatchState none loop
      | none => loop
    leaveBilled raised (billed.plus spent)
  | .settled call evidenceCommitted =>
    let usage := call.usage.plus spent
    Piece.update fun loop =>
      noteInvocation spec callId .settled (some usage)
        (keepSettled spec callId { call with usage := usage } loop)
    if spec.lifecycleHook && !evidenceCommitted then
      leaveBilled (.modelAdapter modelEvidenceUncommitted) usage
    else match call.outcome with
      | .turn turn => pure (turn, usage)
      | .refused error => leaveBilled (.modelAdapter error) usage

def acallModel (callId : LogicalCallId) (resuming : Bool) (script : CallScript) :
    Phase (ModelTurn × Usage) := do
  let loop ← Piece.state
  match if spec.lifecycleHook then loop.settledCall callId else none with
  | some call =>
    Piece.update (noteInvocation spec callId .settled (some call.usage))
    match script.recovery with
    | .evidenceUncommitted => leaveBilled (.modelAdapter modelEvidenceUncommitted) call.usage
    | .failed raised => Piece.leave raised
    | .found =>
      -- The exception of this boundary carries nothing of the recovered receipt.
      checkCancelOrDeadline script.probed
      match call.outcome with
      | .turn turn => pure (turn, call.usage)
      | .refused error =>
        if script.retriesRefusal then dispatch spec callId call.usage script.provider
        else leaveBilled (.modelAdapter error) call.usage
  | none =>
    checkCancelOrDeadline script.probed
    let loop ← Piece.state
    if resuming && loop.interruptRequested then Piece.leave .turnInterrupted
    else dispatch spec callId Counts.empty script.provider

end Calls

section Tools

def runTools (step : Nat) (completed : List String) :
    List ToolCall → List ToolAnswer → Phase Unit
  | [], _ => pure ()
  | call :: calls, answers =>
    if call.id ∈ completed then runTools step completed calls answers
    else match answers with
    | [] => Piece.leave .lost
    | answer :: rest => do
      checkRunBoundary answer.before
      Piece.update fun loop =>
        { loop with state.totalToolCalls := loop.state.totalToolCalls + 1 }
      let loop ← Piece.state
      if spec.limits.maxToolCalls < loop.state.totalToolCalls then
        Piece.update (limit "max_tool_calls_exceeded" "Stopped after reaching max tool calls.")
      else do
        Piece.update fun loop =>
          countCall answer.counted
            { loop with durable.executedCalls := loop.durable.executedCalls ++ [(step, call.id)] }
        match answer.outcome with
        | .error raised => Piece.leave raised
        | .ok output =>
          Piece.update fun loop =>
            queueObservations [⟨call.id, call.name, output, false⟩]
              { loop with pendingFinish := answer.finish <|> loop.pendingFinish }
          checkRunBoundary answer.after
          runTools step completed calls rest

def runToolTurn (step : Nat) (turn : ModelTurn) (script : StepScript) :
    Phase (Option Suspension) := do
  let loop ← Piece.state
  runTools spec step (loop.state.pendingObservations.map (·.callId)) turn.toolCalls script.tools
  Piece.update fun loop => { loop with session.modelToolCallsPending := false }
  let loop ← Piece.state
  match loop.pendingFinish with
  | some summary =>
    Piece.update fun loop => { loop with state.finalText := summary }
    let decision ← decideSettle spec turn.stopReason script.settle
    applySettle spec decision true
  | none =>
    if loop.state.status = .limited then pure (some (limitedSuspension loop)) else pure none

end Tools

section Steps

structure RecoveredTurn where
  step : Nat
  turn : ModelTurn
deriving DecidableEq

def allocateStep (start : Arrivals) : Phase (Nat × Bool) := do
  let loop ← Piece.state
  if loop.session.resumeCheckpointedModelStep then
    Piece.update fun loop => { loop with session.resumeCheckpointedModelStep := false }
    pure (loop.session.sessionStep, true)
  else
    checkRunBoundary start
    let loop ← Piece.state
    if loop.pauseRequested then Piece.leave .turnPaused
    else
      Piece.update fun loop =>
        { loop with
          session.submitLocalStep := loop.session.submitLocalStep + 1
          session.sessionStep := loop.session.sessionStep + 1 }
      pure (loop.session.sessionStep + 1, false)

def replayObservation (tag : String) (replay : Replay) (output : String) : ToolObservation :=
  ⟨tag ++ ":" ++ replay.callId, replay.callName, output, true⟩

def runReplay (tag : String) (replay : Replay) (answer : ReplayAnswer) :
    Phase (List ToolObservation) := do
  Piece.update (countCall answer.counted)
  match answer.outcome with
  | .error raised => Piece.leave raised
  | .ok none => pure []
  | .ok (some output) => pure [replayObservation tag replay output]

def runCapabilityReplays : List Replay → List ReplayAnswer → Phase (List ToolObservation)
  | [], _ => pure []
  | _ :: _, [] => Piece.leave .lost
  | replay :: replays, answer :: answers => do
    let first ← runReplay "capability_replay" replay answer
    let others ← runCapabilityReplays replays answers
    pure (first ++ others)

def runApprovalReplays : List Replay → List (CommitAnswer × ReplayAnswer) → Phase Unit
  | [], _ => pure ()
  | _ :: _, [] => Piece.leave .lost
  | replay :: replays, (commit, answer) :: answers => do
    Piece.update fun loop => { loop with state.pendingToolApprovalReplays := replays }
    persistCheckpoint none commit
    let observations ← runReplay "tool_approval_replay" replay answer
    Piece.update (queueObservations observations)
    runApprovalReplays replays answers

def popBackground (script : StepScript) (loop : Activation) : Activation :=
  queueObservations script.background
    { loop with
      state.pendingCapabilityReplays := loop.state.pendingCapabilityReplays ++ script.granted
      state.pendingToolApprovalReplays := loop.state.pendingToolApprovalReplays ++ script.approved }

def prepareTurn (script : StepScript) : Phase Unit := do
  Piece.leaveIf script.surface
  let loop ← Piece.state
  Piece.update fun loop => { loop with state.pendingCapabilityReplays := [] }
  let observations ← runCapabilityReplays loop.state.pendingCapabilityReplays
    script.capabilityReplays
  Piece.update (queueObservations observations)
  let loop ← Piece.state
  runApprovalReplays loop.state.pendingToolApprovalReplays script.approvalReplays
  Piece.leaveIf script.context

def logUserInput (loop : Activation) : Activation :=
  match loop.state.pendingUserInput with
  | some input =>
    appendMessages (userMessageFromParts input).toList
      { loop with state.pendingUserInput := none }
  | none => loop

def logObservations (loop : Activation) : Activation :=
  appendMessages (loop.state.pendingObservations.map (observationMessage spec)) loop

def checkLimits (script : StepScript) : Phase (Option Suspension) := do
  let loop ← Piece.state
  match messageLogLimitExceeded spec loop with
  | some code => stopAtLimit (some code) "Stopped after reaching the conversation size limit."
  | none =>
    match tokenBudgetExceeded spec loop with
    | some code => stopAtLimit (some code) "Stopped after reaching the token budget."
    | none =>
      match script.deltaLimit with
      | some code =>
        stopAtLimit (some code) "Stopped after reaching the workspace change size limit."
      | none => do
        Piece.leaveIf script.resolver
        stopAtLimit script.wireLimit "Stopped after reaching the model request size limit."

def applyTurn (step : Nat) (turn : ModelTurn) (script : StepScript) :
    Phase (Option Suspension) := do
  checkRunBoundary script.called
  Piece.update (projectSuccessfulModelTurn spec turn false)
  if turn.toolCalls = [] then settleTurn spec turn script.tasks script.settle
  else do
    Piece.update fun loop =>
      { dropObservations loop with
        session.modelToolCallsPending :=
          spec.lifecycleHook || loop.session.modelToolCallsPending }
    runToolTurn spec step turn script

def modelStep (script : StepScript) : Phase (Option Suspension) := do
  let (step, resuming) ← allocateStep script.start
  Piece.update (popBackground script)
  prepareTurn script
  Piece.update fun loop => logObservations spec (logUserInput loop)
  let limited ← checkLimits spec script
  match limited with
  | some suspension => pure (some suspension)
  | none => do
    let (turn, usage) ← acallModel spec (logicalModelCallId spec.runId step) resuming script.call
    accountModelUsage usage Counts.empty
    applyTurn spec step turn script

def recoveredStep (recovered : RecoveredTurn) (script : StepScript) :
    Phase (Option Suspension) := do
  prepareTurn script
  Piece.update logUserInput
  checkRunBoundary script.called
  Piece.update fun loop => { loop with session.modelToolCallsPending := true }
  runToolTurn spec recovered.step recovered.turn script

def stepsExhausted : Phase Suspension := do
  Piece.update (limit "max_steps_exceeded" "Stopped after reaching max steps.")
  let loop ← Piece.state
  pure (limitedSuspension loop)

def stepsLeft (loop : Activation) : Bool :=
  loop.session.resumeCheckpointedModelStep ||
    decide (loop.session.submitLocalStep < spec.limits.maxSteps)

def pumpSteps : List StepScript → Phase Suspension
  | [] => do
    let loop ← Piece.state
    if stepsLeft spec loop then Piece.leave .lost else stepsExhausted
  | script :: rest => do
    let loop ← Piece.state
    if stepsLeft spec loop then
      let outcome ← modelStep spec script
      match outcome with
      | some suspension => pure suspension
      | none => pumpSteps rest
    else stepsExhausted

def apumpTurn (recovered : Option RecoveredTurn) (scripts : List StepScript) : Phase Suspension :=
  match recovered with
  | none => pumpSteps spec scripts
  | some recovered =>
    match scripts with
    | [] => Piece.leave .lost
    | script :: rest => do
      let outcome ← recoveredStep spec recovered script
      match outcome with
      | some suspension => pure suspension
      | none => pumpSteps spec rest

end Steps

end MonoidKernel.AgentLoop
