import MonoidKernel.Loop.Close

set_option autoImplicit false

namespace MonoidKernel.AgentLoop

open Library
open Library.Piece (Ends Keeps)

section Agreement

def Agrees (state : RunState) (terminal : Bool) (suspension : Suspension) : Prop :=
  match suspension.reason with
  | .settled => state.status = suspension.status
  | .limited => state.status = .limited
  | .awaitingTasks => True
  | .terminal => terminal = true
  | .turnFailed => terminal = false ∧ state.providerErrorCode = suspension.providerErrorCode ∧
      state.providerHttpStatus = suspension.httpStatus
  | .interrupted | .paused => terminal = false

-- A terminal run has not completed, nor has one that spent its tool calls; and the state agrees
-- with the park that is on record.
structure Honest (state : RunState) (terminal : Bool) (last : Option Suspension) : Prop where
  verdict : terminal = true → state.status ≠ .completed
  budget : state.errorCode = "max_tool_calls_exceeded" → state.status ≠ .completed
  agrees : ∀ suspension, last = some suspension → Agrees state terminal suspension

def RunCheckpoint.Honest (checkpoint : RunCheckpoint) : Prop :=
  AgentLoop.Honest checkpoint.state checkpoint.terminal checkpoint.lastSuspension

def HonestStore (checkpoints : List RunCheckpoint) : Prop :=
  ∀ checkpoint ∈ checkpoints, checkpoint.Honest

def Activation.Honest (loop : Activation) : Prop :=
  AgentLoop.Honest loop.state loop.session.terminal loop.session.lastSuspension ∧
    HonestStore loop.durable.checkpoints

structure InPump (status : RunStatus) (errorCode : String) (terminal : Bool)
    (failure : Option (String × String)) (midturn : Option SuspensionReason)
    (last : Option Suspension) (checkpoints : List RunCheckpoint) : Prop where
  alive : terminal = false
  noFailure : failure = none
  noMidturn : midturn = none
  unparked : last = none
  budget : errorCode = "max_tool_calls_exceeded" → status ≠ .completed
  stored : HonestStore checkpoints

def Pumping (loop : Activation) : Prop :=
  InPump loop.state.status loop.state.errorCode loop.session.terminal
    loop.session.unrecoveredTurnFailure loop.session.midturnPark loop.session.lastSuspension
    loop.durable.checkpoints

theorem snapshot_honest {loop : Activation}
    (honest : AgentLoop.Honest loop.state loop.session.terminal loop.session.lastSuspension) :
    (snapshot loop).Honest :=
  ⟨honest.verdict, honest.budget, honest.agrees⟩

theorem HonestStore.append {checkpoints : List RunCheckpoint} {checkpoint : RunCheckpoint}
    (stored : HonestStore checkpoints) (honest : checkpoint.Honest) :
    HonestStore (checkpoints ++ [checkpoint]) := by
  intro held member
  rcases List.mem_append.mp member with earlier | last
  · exact stored held earlier
  · exact List.mem_singleton.mp last ▸ honest

theorem Pumping.honest {loop : Activation} (pumping : Pumping loop) : loop.Honest := by
  refine ⟨⟨?_, pumping.budget, ?_⟩, pumping.stored⟩
  · intro ended
    rw [pumping.alive] at ended
    cases ended
  · intro suspension parked
    rw [pumping.unparked] at parked
    cases parked

end Agreement

section Keeping

variable (spec : LoopSpec)

variable {loop : Activation}

theorem Pumping.stopped (pumping : Pumping loop) {after : Activation}
    (status : after.state.status ≠ .completed) (session : after.session = loop.session)
    (durable : after.durable = loop.durable) : Pumping after := by
  obtain ⟨alive, noFailure, noMidturn, unparked, -, stored⟩ := pumping
  rw [← session] at alive noFailure noMidturn unparked
  rw [← durable] at stored
  exact ⟨alive, noFailure, noMidturn, unparked, fun _ => status, stored⟩

theorem checkCancelOrDeadline_keeps (arrivals : Arrivals) :
    (checkCancelOrDeadline arrivals).Keeps Pumping := by
  refine Keeps.change (fun _ held => held) (Keeps.read fun loop => ?_)
  cases loop.cancellation with
  | some cause => exact Keeps.leave
  | none => exact Keeps.ite Keeps.leave Keeps.pure

theorem checkRunBoundary_keeps (arrivals : Arrivals) :
    (checkRunBoundary arrivals).Keeps Pumping :=
  Keeps.bind (checkCancelOrDeadline_keeps arrivals) fun _ =>
    Keeps.read fun _ => Keeps.ite Keeps.leave Keeps.pure

theorem accountModelUsage_keeps (usage already : Usage) :
    (accountModelUsage usage already).Keeps Pumping := by
  unfold accountModelUsage
  cases usageDelta usage already with
  | none => exact Keeps.leave
  | some billed => exact Keeps.update fun _ held => held

theorem stopAtLimit_keeps (code : Option String) (text : String) :
    (stopAtLimit code text).Keeps Pumping := by
  cases code with
  | none => exact Keeps.pure
  | some code =>
    exact Keeps.change (fun _ held => held.stopped nofun rfl rfl)
      (Keeps.read fun _ => Keeps.pure)

theorem decideSettle_keeps (stopReason : String) (script : SettleScript) :
    (decideSettle spec stopReason script).Keeps Pumping :=
  Keeps.read fun _ =>
    Keeps.bind (checkRunBoundary_keeps script.decided) fun _ => Keeps.pure

theorem recordDecision_pumping (pumping : Pumping loop) (decision : SettleDecision)
    (fromFinish : Bool) :
    Pumping (recordDecision decision fromFinish loop) := by
  cases decision with
  | accept => exact pumping
  | defect => exact pumping
  | reprompt => exact pumping
  | refused => exact pumping.stopped nofun rfl rfl
  | truncated => exact pumping.stopped nofun rfl rfl
  | exhausted => exact pumping.stopped nofun rfl rfl

theorem applySettle_keeps (decision : SettleDecision) (fromFinish : Bool) :
    (applySettle spec decision fromFinish).Keeps Pumping := by
  have recorded : ∀ loop, Pumping loop →
      Pumping (let recorded := recordDecision decision fromFinish loop
        if fromFinish then logFinishObservations spec recorded else recorded) := by
    intro loop held
    have after := recordDecision_pumping held decision fromFinish
    dsimp only
    split <;> exact after
  cases decision with
  | defect message => exact Keeps.leave
  | reprompt feedback =>
    exact Keeps.change recorded
      (Keeps.read fun _ => Keeps.change (fun _ held => held) Keeps.pure)
  | accept => exact Keeps.change recorded (Keeps.read fun _ => Keeps.pure)
  | refused => exact Keeps.change recorded (Keeps.read fun _ => Keeps.pure)
  | truncated => exact Keeps.change recorded (Keeps.read fun _ => Keeps.pure)
  | exhausted => exact Keeps.change recorded (Keeps.read fun _ => Keeps.pure)

theorem settleTurn_keeps (turn : ModelTurn) (tasks : TaskScript) (settle : SettleScript) :
    (settleTurn spec turn tasks settle).Keeps Pumping := by
  refine Keeps.ite ?_ (Keeps.ite ?_ Keeps.leave)
  · exact Keeps.change (fun _ held => held) (Keeps.read fun _ => Keeps.pure)
  · exact Keeps.change (fun _ held => held)
      (Keeps.bind (decideSettle_keeps spec _ settle) fun decision =>
        applySettle_keeps spec decision false)

theorem leaveBilled_keeps {A : Type} (raised : Raised) (billed : Usage) :
    (leaveBilled raised billed : Phase A).Keeps Pumping := by
  refine Keeps.change (fun loop held => ?_)
    (Keeps.bind (accountModelUsage_keeps billed Counts.empty) fun _ => Keeps.leave)
  cases raised <;> exact held

theorem noteInvocation_pumping (pumping : Pumping loop) (callId : LogicalCallId)
    (dispatchState : DispatchState) (usage : Option Usage) :
    Pumping (noteInvocation spec callId dispatchState usage loop) := by
  unfold noteInvocation
  split <;> exact pumping

theorem keepSettled_pumping (pumping : Pumping loop) (callId : LogicalCallId) (call : SettledCall) :
    Pumping (keepSettled spec callId call loop) := by
  unfold keepSettled
  split <;> exact pumping

theorem dispatch_keeps (callId : LogicalCallId) (spent : Usage) (answer : ProviderAnswer) :
    (dispatch spec callId spent answer).Keeps Pumping := by
  refine Keeps.change (fun _ held => held) ?_
  cases answer with
  | lost settled =>
    refine Keeps.change (fun loop held => ?_) Keeps.leave
    cases settled with
    | none => exact held
    | some call => exact keepSettled_pumping spec held callId _
  | failed raised billed unsettled =>
    refine Keeps.change (fun loop held => ?_) (leaveBilled_keeps raised _)
    cases unsettled with
    | none => exact held
    | some dispatchState => exact noteInvocation_pumping spec held callId dispatchState none
  | settled call evidenceCommitted =>
    refine Keeps.change (fun loop held =>
      noteInvocation_pumping spec (keepSettled_pumping spec held callId _) callId .settled _)
      (Keeps.ite (leaveBilled_keeps _ _) ?_)
    cases call.outcome with
    | turn turn => exact Keeps.pure
    | refused error => exact leaveBilled_keeps _ _

theorem acallModel_keeps (callId : LogicalCallId) (resuming : Bool) (script : CallScript) :
    (acallModel spec callId resuming script).Keeps Pumping := by
  refine Keeps.read fun loop => ?_
  cases if spec.lifecycleHook = true then loop.settledCall callId else none with
  | none =>
    exact Keeps.bind (checkCancelOrDeadline_keeps script.probed) fun _ =>
      Keeps.read fun _ => Keeps.ite Keeps.leave (dispatch_keeps spec _ _ _)
  | some call =>
    refine Keeps.change (fun _ held =>
      noteInvocation_pumping spec held callId .settled _) ?_
    cases script.recovery with
    | evidenceUncommitted => exact leaveBilled_keeps _ _
    | failed raised => exact Keeps.leave
    | found =>
      refine Keeps.bind (checkCancelOrDeadline_keeps script.probed) fun _ => ?_
      cases call.outcome with
      | turn turn => exact Keeps.pure
      | refused error =>
        exact Keeps.ite (dispatch_keeps spec _ _ _) (leaveBilled_keeps _ _)

theorem countCall_pumping (pumping : Pumping loop) (binding : Option String) :
    Pumping (countCall binding loop) := by
  cases binding <;> exact pumping

theorem runTools_keeps (step : Nat) (completed : List String) (toolCalls : List ToolCall)
    (answers : List ToolAnswer) :
    (runTools spec step completed toolCalls answers).Keeps Pumping := by
  induction toolCalls generalizing answers with
  | nil => exact Keeps.pure
  | cons call calls ih =>
    refine Keeps.ite (ih answers) ?_
    cases answers with
    | nil => exact Keeps.leave
    | cons answer rest =>
      refine Keeps.bind (checkRunBoundary_keeps answer.before) fun _ =>
        Keeps.change (fun _ held => held) (Keeps.read fun _ => Keeps.ite ?_ ?_)
      · exact Keeps.update fun _ held => held.stopped nofun rfl rfl
      · refine Keeps.change (fun _ held => ?_) ?_
        · exact countCall_pumping (by exact held) answer.counted
        cases answer.outcome with
        | error raised => exact Keeps.leave
        | ok output =>
          exact Keeps.change (fun _ held => held)
            (Keeps.bind (checkRunBoundary_keeps answer.after) fun _ => ih rest)

theorem runToolTurn_keeps (step : Nat) (turn : ModelTurn) (script : StepScript) :
    (runToolTurn spec step turn script).Keeps Pumping := by
  refine Keeps.read fun loop =>
    Keeps.bind (runTools_keeps spec step _ turn.toolCalls script.tools) fun _ =>
      Keeps.change (fun _ held => held) (Keeps.read fun after => ?_)
  cases after.pendingFinish with
  | none => exact Keeps.ite Keeps.pure Keeps.pure
  | some summary =>
    exact Keeps.change (fun _ held => held)
      (Keeps.bind (decideSettle_keeps spec _ script.settle) fun decision =>
        applySettle_keeps spec decision true)

theorem allocateStep_keeps (start : Arrivals) : (allocateStep start).Keeps Pumping := by
  refine Keeps.read fun loop => Keeps.ite ?_ ?_
  · exact Keeps.change (fun _ held => held) Keeps.pure
  · exact Keeps.bind (checkRunBoundary_keeps start) fun _ => Keeps.read fun _ =>
      Keeps.ite Keeps.leave (Keeps.change (fun _ held => held) Keeps.pure)

theorem runReplay_keeps (tag : String) (replay : Replay) (answer : ReplayAnswer) :
    (runReplay tag replay answer).Keeps Pumping := by
  refine Keeps.change (fun _ held => countCall_pumping held answer.counted) ?_
  split
  · exact Keeps.leave
  · exact Keeps.pure
  · exact Keeps.pure

theorem runCapabilityReplays_keeps (replays : List Replay) (answers : List ReplayAnswer) :
    (runCapabilityReplays replays answers).Keeps Pumping := by
  induction replays generalizing answers with
  | nil => exact Keeps.pure
  | cons replay replays ih =>
    cases answers with
    | nil => exact Keeps.leave
    | cons answer answers =>
      exact Keeps.bind (runReplay_keeps _ replay answer) fun _ =>
        Keeps.bind (ih answers) fun _ => Keeps.pure

theorem persistCheckpoint_keeps (answer : CommitAnswer) :
    (persistCheckpoint none answer).Keeps Pumping := by
  have kept : ∀ loop, Pumping loop → Pumping (stored (numbered loop)) := by
    intro loop held
    have honest : (snapshot (numbered loop)).Honest := snapshot_honest held.honest.1
    exact ⟨held.alive, held.noFailure, held.noMidturn, held.unparked, held.budget,
      HonestStore.append held.stored honest⟩
  intro loop held
  refine Ends.bind ?_
  cases answer with
  | refused => exact held
  | committed => exact kept loop held
  | declined => exact held
  | failed keeps =>
    have unparked : loop.session.lastSuspension = none := held.unparked
    cases keeps with
    | false => exact held
    | true => exact kept loop held

theorem runApprovalReplays_keeps (replays : List Replay)
    (answers : List (CommitAnswer × ReplayAnswer)) :
    (runApprovalReplays replays answers).Keeps Pumping := by
  induction replays generalizing answers with
  | nil => exact Keeps.pure
  | cons replay replays ih =>
    cases answers with
    | nil => exact Keeps.leave
    | cons answer answers =>
      exact Keeps.change (fun _ held => held)
        (Keeps.bind (persistCheckpoint_keeps answer.1) fun _ =>
          Keeps.bind (runReplay_keeps _ replay answer.2) fun _ =>
            Keeps.change (fun _ held => held) (ih answers))

theorem prepareTurn_keeps (script : StepScript) : (prepareTurn script).Keeps Pumping :=
  Keeps.bind Keeps.leaveIf fun _ => Keeps.read fun _ =>
    Keeps.change (fun _ held => held)
      (Keeps.bind (runCapabilityReplays_keeps _ _) fun _ =>
        Keeps.change (fun _ held => held) (Keeps.read fun _ =>
          Keeps.bind (runApprovalReplays_keeps _ _) fun _ => Keeps.leaveIf))

theorem logUserInput_pumping (pumping : Pumping loop) :
    Pumping (logUserInput loop) := by
  unfold logUserInput
  split <;> exact pumping

theorem checkLimits_keeps (script : StepScript) : (checkLimits spec script).Keeps Pumping := by
  refine Keeps.read fun loop => ?_
  split
  · exact stopAtLimit_keeps _ _
  · split
    · exact stopAtLimit_keeps _ _
    · split
      · exact stopAtLimit_keeps _ _
      · exact Keeps.bind Keeps.leaveIf fun _ => stopAtLimit_keeps _ _

theorem applyTurn_keeps (step : Nat) (turn : ModelTurn) (script : StepScript) :
    (applyTurn spec step turn script).Keeps Pumping :=
  Keeps.bind (checkRunBoundary_keeps script.called) fun _ =>
    Keeps.change (fun _ held => held)
      (Keeps.ite (settleTurn_keeps spec turn script.tasks script.settle)
        (Keeps.change (fun _ held => held) (runToolTurn_keeps spec step turn script)))

theorem modelStep_keeps (script : StepScript) : (modelStep spec script).Keeps Pumping := by
  refine Keeps.bind (allocateStep_keeps script.start) fun allocated =>
    Keeps.change (fun _ held => held)
      (Keeps.bind (prepareTurn_keeps script) fun _ =>
        Keeps.change (fun _ held => logUserInput_pumping held)
          (Keeps.bind (checkLimits_keeps spec script) fun limited => ?_))
  cases limited with
  | some suspension => exact Keeps.pure
  | none =>
    exact Keeps.bind (acallModel_keeps spec _ _ script.call) fun answered =>
      Keeps.bind (accountModelUsage_keeps answered.2 Counts.empty) fun _ =>
        applyTurn_keeps spec _ answered.1 script

theorem recoveredStep_keeps (recovered : RecoveredTurn) (script : StepScript) :
    (recoveredStep spec recovered script).Keeps Pumping :=
  Keeps.bind (prepareTurn_keeps script) fun _ =>
    Keeps.change (fun _ held => logUserInput_pumping held)
      (Keeps.bind (checkRunBoundary_keeps script.called) fun _ =>
        Keeps.change (fun _ held => held)
          (runToolTurn_keeps spec recovered.step recovered.turn script))

theorem stepsExhausted_keeps : stepsExhausted.Keeps Pumping :=
  Keeps.change (fun _ held => held.stopped nofun rfl rfl)
    (Keeps.read fun _ => Keeps.pure)

theorem pumpSteps_keeps (scripts : List StepScript) : (pumpSteps spec scripts).Keeps Pumping := by
  induction scripts with
  | nil => exact Keeps.read fun _ => Keeps.ite Keeps.leave stepsExhausted_keeps
  | cons script rest ih =>
    refine Keeps.read fun _ => Keeps.ite ?_ stepsExhausted_keeps
    refine Keeps.bind (modelStep_keeps spec script) fun outcome => ?_
    cases outcome with
    | some suspension => exact Keeps.pure
    | none => exact ih

theorem apumpTurn_keeps (recovered : Option RecoveredTurn) (scripts : List StepScript) :
    (apumpTurn spec recovered scripts).Keeps Pumping := by
  cases recovered with
  | none => exact pumpSteps_keeps spec scripts
  | some recovered =>
    cases scripts with
    | nil => exact Keeps.leave
    | cons script rest =>
      refine Keeps.bind (recoveredStep_keeps spec recovered script) fun outcome => ?_
      cases outcome with
      | some suspension => exact Keeps.pure
      | none => exact pumpSteps_keeps spec rest

theorem recoverEvidenceDispatch_keeps (recovery : EvidenceRecovery) (answer : RecoveryAnswer) :
    (recoverEvidenceDispatch spec recovery answer).Keeps Pumping := by
  refine Keeps.read fun loop => Keeps.ite Keeps.leave ?_
  cases answer with
  | evidenceUncommitted => exact Keeps.leave
  | failed raised => exact Keeps.leave
  | found =>
    dsimp only
    split
    · exact Keeps.pure
    · exact Keeps.leave

theorem applyRecoveredModelOutcome_keeps (recovery : EvidenceRecovery) (call : SettledCall)
    (script : RecoveredScript) :
    (applyRecoveredModelOutcome spec recovery call script).Keeps Pumping := by
  refine Keeps.bind (accountModelUsage_keeps _ _) fun _ =>
    Keeps.bind (checkRunBoundary_keeps script.billed) fun _ => ?_
  cases call.outcome with
  | refused error =>
    exact Keeps.ite Keeps.leave
      (Keeps.bind (accountModelUsage_keeps _ _) fun _ => Keeps.leave)
  | turn turn =>
    refine Keeps.ite Keeps.leave (Keeps.ite (Keeps.ite Keeps.leave ?_)
      (Keeps.change (fun _ held => held) (Keeps.ite ?_ ?_)))
    · exact Keeps.read fun _ => Keeps.ite
        (Keeps.change (fun _ held => held) Keeps.pure) Keeps.leave
    · exact Keeps.bind (settleTurn_keeps spec turn script.tasks script.settle) fun _ =>
        Keeps.pure
    · exact Keeps.change (fun _ held => held) Keeps.pure

theorem pumpActivation_keeps (recovery : Option EvidenceRecovery) (script : EntryScript) :
    (pumpActivation spec recovery script).Keeps Pumping := by
  cases recovery with
  | none => exact apumpTurn_keeps spec none script.steps
  | some recovery =>
    refine Keeps.bind (recoverEvidenceDispatch_keeps spec recovery _) fun call =>
      Keeps.bind (applyRecoveredModelOutcome_keeps spec recovery call _) fun applied => ?_
    dsimp only
    split
    · exact Keeps.pure
    · exact apumpTurn_keeps spec _ script.steps

end Keeping

end MonoidKernel.AgentLoop
