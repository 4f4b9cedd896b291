import MonoidKernel.Loop.Verdicts

set_option autoImplicit false

namespace MonoidKernel.AgentLoop

open Library
open Library.Piece (Ends Keeps Yields)

variable (spec : LoopSpec)

section Returns

def Returned (outcome : Option Suspension) (loop : Activation) : Prop :=
  ∀ suspension, outcome = some suspension →
    (suspension.reason = .settled ∧ loop.state.status = suspension.status) ∨
    (suspension.reason = .limited ∧ loop.state.status = .limited) ∨
    suspension.reason = .awaitingTasks

theorem returned_none (loop : Activation) : Returned none loop := by
  intro suspension same
  cases same

theorem returned_limited {loop : Activation} (limited : loop.state.status = .limited) :
    Returned (some (limitedSuspension loop)) loop := by
  rintro suspension ⟨⟩
  exact Or.inr (Or.inl ⟨rfl, limited⟩)

theorem stopAtLimit_returns (code : Option String) (text : String) :
    (stopAtLimit code text).Yields Returned := by
  cases code with
  | none => exact Yields.pure returned_none
  | some code => exact fun loop => returned_limited rfl

theorem applySettle_returns (decision : SettleDecision) (fromFinish : Bool) :
    (applySettle spec decision fromFinish).Yields Returned := by
  have limited : ∀ loop, (recordDecision decision fromFinish loop).state.status = .limited →
      (let recorded := recordDecision decision fromFinish loop
        if fromFinish then logFinishObservations spec recorded else recorded).state.status =
          .limited := by
    intro loop recorded
    dsimp only
    split <;> exact recorded
  cases decision with
  | defect message => exact Yields.leave
  | reprompt feedback => exact fun loop => returned_none _
  | accept => exact fun loop suspension same => Or.inl (by cases same; exact ⟨rfl, rfl⟩)
  | refused => exact fun loop suspension same => Or.inl (by cases same; exact ⟨rfl, rfl⟩)
  | truncated => exact fun loop => returned_limited (limited loop rfl)
  | exhausted => exact fun loop => returned_limited (limited loop rfl)

theorem settleTurn_returns (turn : ModelTurn) (tasks : TaskScript) (settle : SettleScript) :
    (settleTurn spec turn tasks settle).Yields Returned := by
  refine Yields.ite ?_ (Yields.ite ?_ Yields.leave)
  · exact fun loop suspension same => Or.inr (Or.inr (by cases same; rfl))
  · exact Yields.bind fun _ => Yields.bind fun decision =>
      applySettle_returns spec decision false

theorem runToolTurn_returns (step : Nat) (turn : ModelTurn) (script : StepScript) :
    (runToolTurn spec step turn script).Yields Returned := by
  refine Yields.bind fun loop => Yields.bind fun _ => Yields.bind fun _ => ?_
  intro after
  refine Ends.read ?_
  split
  · exact Yields.bind (fun _ => Yields.bind fun decision =>
    applySettle_returns spec decision true) after
  · split
    next limited => exact returned_limited limited
    · exact returned_none after

theorem applyTurn_returns (step : Nat) (turn : ModelTurn) (script : StepScript) :
    (applyTurn spec step turn script).Yields Returned :=
  Yields.bind fun _ => Yields.bind fun _ =>
    Yields.ite (settleTurn_returns spec turn script.tasks script.settle)
      (Yields.bind fun _ => runToolTurn_returns spec step turn script)

theorem checkLimits_returns (script : StepScript) : (checkLimits spec script).Yields Returned := by
  refine Yields.bind fun loop => ?_
  split
  · exact stopAtLimit_returns _ _
  · split
    · exact stopAtLimit_returns _ _
    · split
      · exact stopAtLimit_returns _ _
      · exact Yields.bind fun _ => stopAtLimit_returns _ _

theorem modelStep_returns (script : StepScript) : (modelStep spec script).Yields Returned := by
  refine Yields.bind fun allocated => Yields.bind fun _ => Yields.bind fun _ =>
    Yields.bind fun _ => ?_
  intro loop
  refine Ends.then (checkLimits_returns spec script loop) fun limited after returned => ?_
  cases limited with
  | some suspension => exact returned
  | none =>
    exact Yields.bind (A := ModelTurn × Usage) (fun answered => Yields.bind fun _ =>
      applyTurn_returns spec _ answered.1 script) after

theorem recoveredStep_returns (recovered : RecoveredTurn) (script : StepScript) :
    (recoveredStep spec recovered script).Yields Returned :=
  Yields.bind fun _ => Yields.bind fun _ => Yields.bind fun _ =>
    Yields.bind fun _ => runToolTurn_returns spec recovered.step recovered.turn script

def ReturnedBy (suspension : Suspension) (loop : Activation) : Prop :=
    Returned (some suspension) loop

theorem stepsExhausted_returns : stepsExhausted.Yields ReturnedBy := fun _ => returned_limited rfl

theorem pumpSteps_returns (scripts : List StepScript) :
    (pumpSteps spec scripts).Yields ReturnedBy := by
  induction scripts with
  | nil =>
    exact Yields.bind fun _ => Yields.ite Yields.leave stepsExhausted_returns
  | cons script rest ih =>
    refine Yields.bind fun _ => Yields.ite ?_ stepsExhausted_returns
    intro loop
    refine Ends.then (modelStep_returns spec script loop) fun outcome after returned => ?_
    cases outcome with
    | some suspension => exact returned
    | none => exact ih after

theorem apumpTurn_returns (recovered : Option RecoveredTurn) (scripts : List StepScript) :
    (apumpTurn spec recovered scripts).Yields ReturnedBy := by
  cases recovered with
  | none => exact pumpSteps_returns spec scripts
  | some recovered =>
    cases scripts with
    | nil => exact Yields.leave
    | cons script rest =>
      intro loop
      refine Ends.then (recoveredStep_returns spec recovered script loop)
        fun outcome after returned => ?_
      cases outcome with
      | some suspension => exact returned
      | none => exact pumpSteps_returns spec rest after

theorem applyRecoveredModelOutcome_returns (recovery : EvidenceRecovery) (call : SettledCall)
    (script : RecoveredScript) :
    (applyRecoveredModelOutcome spec recovery call script).Yields
      fun applied loop => Returned applied.2 loop := by
  refine Yields.bind fun _ => Yields.bind fun _ => ?_
  cases call.outcome with
  | refused error =>
    exact Yields.ite Yields.leave (Yields.bind fun _ => Yields.leave)
  | turn turn =>
    refine Yields.ite Yields.leave (Yields.ite
      (Yields.ite Yields.leave ?_) (Yields.bind fun _ => Yields.ite ?_ ?_))
    · exact Yields.bind fun _ => Yields.ite
        (Yields.bind fun _ => Yields.pure fun loop => returned_none loop)
        Yields.leave
    · intro loop
      exact Ends.then (settleTurn_returns spec turn script.tasks script.settle loop)
        fun outcome after returned => returned
    · exact Yields.bind fun _ => Yields.pure fun loop => returned_none loop

theorem pumpActivation_returns (recovery : Option EvidenceRecovery) (script : EntryScript) :
    (pumpActivation spec recovery script).Yields ReturnedBy := by
  cases recovery with
  | none => exact apumpTurn_returns spec none script.steps
  | some recovery =>
    refine Yields.bind fun call => ?_
    intro loop
    refine Ends.then
      (applyRecoveredModelOutcome_returns spec recovery call script.recovered loop)
      fun applied after returned => ?_
    obtain ⟨recovered, outcome⟩ := applied
    cases outcome with
    | some suspension => exact returned
    | none => exact apumpTurn_returns spec recovered script.steps after

end Returns

section Parks

structure Stands (loop : Activation) (suspension : Suspension) : Prop where
  agrees : Agrees loop.state loop.session.terminal suspension
  failure : suspension.reason = .turnFailed →
    loop.session.unrecoveredTurnFailure = some (suspension.error, suspension.errorCode) ∧
      loop.state.retryable = suspension.retryable ∧
      loop.state.configRecoverable = suspension.configRecoverable
  midturn : suspension.reason = .interrupted ∨ suspension.reason = .paused →
    loop.session.midturnPark = some suspension.reason ∧
      loop.session.unrecoveredTurnFailure = none

structure SameVerdict (loop after : Activation) : Prop where
  state : after.state = loop.state
  terminal : after.session.terminal = loop.session.terminal
  failure : after.session.unrecoveredTurnFailure = loop.session.unrecoveredTurnFailure
  midturn : after.session.midturnPark = loop.session.midturnPark

variable {loop : Activation}

variable {suspension : Suspension}

theorem SameVerdict.stands {after : Activation} (same : SameVerdict loop after)
    (stands : Stands loop suspension) : Stands after suspension := by
  refine ⟨?_, ?_, ?_⟩
  · rw [same.state, same.terminal]; exact stands.agrees
  · rw [same.state, same.failure]; exact stands.failure
  · rw [same.midturn, same.failure]; exact stands.midturn

theorem observed_honest (honest : loop.Honest)
    (agrees : Agrees loop.state loop.session.terminal suspension) :
    (numbered (observed (some suspension) loop)).Honest := by
  refine ⟨⟨honest.1.verdict, honest.1.budget, ?_⟩, honest.2⟩
  rintro held ⟨⟩
  exact agrees

theorem stored_honest (honest : loop.Honest) : (stored loop).Honest :=
  ⟨⟨honest.1.verdict, honest.1.budget, honest.1.agrees⟩,
    HonestStore.append honest.2 (snapshot_honest honest.1)⟩

theorem persistCheckpoint_honest (honest : loop.Honest)
    (agrees : Agrees loop.state loop.session.terminal suspension) (commit : CommitAnswer) :
    (persistCheckpoint (some suspension) commit).Ends loop
      (fun _ after => after.Honest ∧ SameVerdict loop after) (fun _ after => after.Honest) := by
  have tried := observed_honest honest agrees
  refine Ends.read ?_
  cases commit with
  | refused => exact ⟨honest, rfl, rfl, rfl, rfl⟩
  | committed => exact ⟨stored_honest tried, rfl, rfl, rfl, rfl⟩
  | declined => exact ⟨tried, rfl, rfl, rfl, rfl⟩
  | failed kept =>
    -- The observation before comes back, and the state has not moved since.
    have before := honest.1
    cases kept with
    | false => exact ⟨⟨before.verdict, before.budget, before.agrees⟩, tried.2⟩
    | true => exact ⟨⟨before.verdict, before.budget, before.agrees⟩, (stored_honest tried).2⟩

theorem persistCheckpoint_report (honest : loop.Honest) (commit : CommitAnswer) :
    (persistCheckpoint none commit loop).2.Honest ∧
      SameVerdict loop (persistCheckpoint none commit loop).2 ∧
      (persistCheckpoint none commit loop).2.cancellation = loop.cancellation := by
  have before := honest.1
  have numberedHonest : (numbered loop).Honest :=
    ⟨⟨before.verdict, before.budget, before.agrees⟩, honest.2⟩
  cases commit with
  | refused => exact ⟨honest, ⟨rfl, rfl, rfl, rfl⟩, rfl⟩
  | committed => exact ⟨stored_honest numberedHonest, ⟨rfl, rfl, rfl, rfl⟩, rfl⟩
  | declined => exact ⟨numberedHonest, ⟨rfl, rfl, rfl, rfl⟩, rfl⟩
  | failed kept =>
    cases kept with
    | false =>
      exact ⟨⟨⟨before.verdict, before.budget, before.agrees⟩, honest.2⟩, ⟨rfl, rfl, rfl, rfl⟩, rfl⟩
    | true =>
      exact ⟨⟨⟨before.verdict, before.budget, before.agrees⟩, (stored_honest numberedHonest).2⟩,
        ⟨rfl, rfl, rfl, rfl⟩, rfl⟩

def Parks (suspension : Suspension) (after : Activation) : Prop :=
  after.Honest ∧ Stands after suspension

def Escapes (_ : Raised) (after : Activation) : Prop := after.Honest

theorem park_spec (honest : loop.Honest) (suspension : Activation → Suspension)
    (stands : Stands loop (suspension loop)) (commit : CommitAnswer) :
    (park suspension commit).Ends loop Parks Escapes := by
  refine Ends.read (Ends.then
    (persistCheckpoint_honest honest stands.agrees commit) fun _ after held => ?_)
  exact ⟨held.1, held.2.stands stands⟩

end Parks

section Exits

variable {loop : Activation}

theorem Pumping.stops (pumping : Pumping loop) (after : Activation)
    (status : after.state.status ≠ .completed)
    (unparked : after.session.lastSuspension = loop.session.lastSuspension)
    (durable : after.durable = loop.durable) : after.Honest := by
  refine ⟨⟨fun _ => status, fun _ => status, ?_⟩, durable ▸ pumping.stored⟩
  intro suspension parked
  rw [unparked, pumping.unparked] at parked
  cases parked

theorem Pumping.goesOn (pumping : Pumping loop) (after : Activation)
    (status : after.state.status = loop.state.status)
    (errorCode : after.state.errorCode = "max_tool_calls_exceeded" →
      loop.state.errorCode = "max_tool_calls_exceeded")
    (terminal : after.session.terminal = loop.session.terminal)
    (unparked : after.session.lastSuspension = loop.session.lastSuspension)
    (durable : after.durable = loop.durable) : after.Honest := by
  refine ⟨⟨?_, ?_, ?_⟩, durable ▸ pumping.stored⟩
  · intro ended
    rw [terminal, pumping.alive] at ended
    cases ended
  · intro spent
    rw [status]
    exact pumping.budget (errorCode spent)
  · intro suspension parked
    rw [unparked, pumping.unparked] at parked
    cases parked

variable {suspension : Suspension}

theorem terminal_stands (terminal : loop.session.terminal = true)
    (reason : suspension.reason = .terminal) :
    Stands loop suspension := by
  refine ⟨?_, ?_, ?_⟩
  · simpa only [Agrees, reason] using terminal
  · rw [reason]; exact nofun
  · rw [reason]; exact nofun

theorem midturn_stands (pumping : Pumping loop) (after : Activation) (suspension : Suspension)
    (midturn : after.session.midturnPark = some suspension.reason)
    (terminal : after.session.terminal = loop.session.terminal)
    (failure : after.session.unrecoveredTurnFailure = loop.session.unrecoveredTurnFailure)
    (kind : suspension.reason = .interrupted ∨ suspension.reason = .paused) :
    Stands after suspension := by
  have alive := terminal.trans pumping.alive
  refine ⟨?_, ?_, fun _ => ⟨midturn, failure.trans pumping.noFailure⟩⟩
  · rcases kind with reason | reason <;> simpa only [Agrees, reason] using alive
  · rcases kind with reason | reason <;> rw [reason] <;> exact nofun

theorem leaveIf_exits (honest : loop.Honest) (projection : Option Raised)
    {rest : Unit → Phase Suspension} (ends : (rest ()).Ends loop Parks Escapes) :
    (Piece.leaveIf projection >>= rest).Ends loop Parks Escapes :=
  Ends.bind (Ends.leaveIf ends fun _ _ => honest)

theorem terminal_exits (pumping : Pumping loop) (after : Activation)
    (status : after.state.status ≠ .completed)
    (unparked : after.session.lastSuspension = loop.session.lastSuspension)
    (durable : after.durable = loop.durable) (terminal : after.session.terminal = true)
    (suspension : Activation → Suspension) (reason : (suspension after).reason = .terminal)
    (projection : Option Raised) (commit : CommitAnswer) :
    (do
      Piece.leaveIf projection
      park suspension commit : Phase Suspension).Ends after Parks Escapes := by
  have honest := pumping.stops after status unparked durable
  exact leaveIf_exits honest projection
    (park_spec honest suspension (terminal_stands terminal reason) commit)

theorem settleDeadline_exits (pumping : Pumping loop) (projection : Option Raised)
    (commit : CommitAnswer) :
    (settleDeadline projection commit).Ends loop Parks Escapes :=
  Ends.change (terminal_exits pumping (expire loop) nofun rfl rfl rfl terminalLimited rfl
    projection commit)

theorem operational_code (cause : InterruptionCause) :
    interruptionCauseValue cause ≠ "max_tool_calls_exceeded" := by
  cases cause <;> decide

theorem exitCancelled_exits (pumping : Pumping loop) (cause : InterruptionCause)
    (script : EntryScript) :
    (exitCancelled cause script).Ends loop Parks Escapes := by
  unfold exitCancelled
  split
  · refine Ends.change ?_
    have honest := pumping.goesOn (drainTurn cause loop) rfl
      (fun spent => absurd spent (operational_code cause)) rfl rfl rfl
    have stands : Stands (drainTurn cause loop) (interruptedSuspension (drainTurn cause loop)) :=
      midturn_stands pumping _ _ rfl rfl rfl (Or.inl rfl)
    exact leaveIf_exits honest script.projection (park_spec honest _ stands script.commit)
  · split
    · exact settleDeadline_exits pumping script.projection script.commit
    · exact Ends.change (terminal_exits pumping (cancelRun cause loop) nofun rfl rfl rfl
        terminalLimited rfl script.projection script.commit)

theorem exitFailed_exits (pumping : Pumping loop) (error : AdapterError) (script : EntryScript) :
    (exitFailed error script).Ends loop Parks Escapes := by
  have failed := pumping.stops (recordFailure error loop) nofun rfl rfl
  have ended := pumping.stops (becomeTerminal (recordFailure error loop)) nofun rfl rfl
  refine Ends.change (leaveIf_exits failed script.projection (Ends.change ?_))
  exact park_spec ended failedSuspension (terminal_stands rfl rfl) script.commit

theorem exitTurnFailed_exits (pumping : Pumping loop) (error : AdapterError)
    (script : EntryScript) : (exitTurnFailed error script).Ends loop Parks Escapes := by
  have classified := pumping.goesOn (classify error loop) rfl id rfl rfl rfl
  have failed := pumping.goesOn (failTurn error (classify error loop)) rfl id rfl rfl rfl
  have stands : Stands (failTurn error (classify error loop)) (turnFailedSuspension error) :=
    ⟨⟨pumping.alive, rfl, rfl⟩, fun _ => ⟨rfl, rfl, rfl⟩,
      by rintro (reason | reason) <;> cases reason⟩
  exact Ends.change (leaveIf_exits classified script.projection
    (Ends.change (park_spec failed _ stands script.commit)))

theorem exitInterrupted_exits (pumping : Pumping loop) (script : EntryScript) :
    (exitInterrupted spec script).Ends loop Parks Escapes := by
  let stopped := stopTurn spec (clearStop loop)
  have cleared := pumping.goesOn (clearStop loop) rfl id rfl rfl rfl
  have honest := pumping.goesOn stopped rfl id rfl rfl rfl
  have stands : Stands stopped (stoppedSuspension stopped) :=
    midturn_stands pumping _ _ rfl rfl rfl (Or.inl rfl)
  exact Ends.change (leaveIf_exits cleared script.projection
    (Ends.change (park_spec honest _ stands script.commit)))

theorem exitPaused_exits (pumping : Pumping loop) (script : EntryScript) :
    (exitPaused script).Ends loop Parks Escapes := by
  have cleared := pumping.goesOn (clearPause loop) rfl id rfl rfl rfl
  have paused := pumping.goesOn (pauseTurn (clearPause loop)) rfl id rfl rfl rfl
  have stands : Stands (pauseTurn (clearPause loop)) pausedSuspension :=
    midturn_stands pumping _ _ rfl rfl rfl (Or.inr rfl)
  exact Ends.change (leaveIf_exits cleared script.projection
    (Ends.change (park_spec paused _ stands script.commit)))

theorem exitRaised_exits (pumping : Pumping loop) (script : EntryScript) (raised : Raised) :
    (exitRaised spec script raised).Ends loop Parks Escapes := by
  cases raised with
  | checkpointPersist => exact pumping.honest
  | runCancelled cause => exact exitCancelled_exits pumping cause script
  | runTimeout => exact settleDeadline_exits pumping script.projection script.commit
  | modelAdapter error =>
    simp only [exitRaised]
    split
    · exact exitTurnFailed_exits pumping error script
    · exact exitFailed_exits pumping _ script
  | turnInterrupted => exact exitInterrupted_exits spec pumping script
  | turnPaused => exact exitPaused_exits pumping script
  | other message errorCode => exact exitFailed_exits pumping _ script
  | control => exact pumping.honest
  | lost => exact pumping.honest

theorem returned_stands {after : Activation} (returned : ReturnedBy suspension loop)
    (state : after.state = loop.state) :
    Stands after suspension := by
  rcases returned suspension rfl with ⟨reason, status⟩ | ⟨reason, status⟩ | reason
  · exact ⟨by simpa only [Agrees, reason, state] using status, by rw [reason]; exact nofun,
      by rw [reason]; exact nofun⟩
  · exact ⟨by simpa only [Agrees, reason, state] using status, by rw [reason]; exact nofun,
      by rw [reason]; exact nofun⟩
  · exact ⟨by simp only [Agrees, reason], by rw [reason]; exact nofun, by rw [reason]; exact nofun⟩

theorem conclude_exits (pumping : Pumping loop) (returned : ReturnedBy suspension loop)
    (script : EntryScript) :
    (conclude script suspension).Ends loop Parks Escapes := by
  have honest := pumping.honest
  have parks := park_spec honest (fun _ => suspension) (returned_stands returned rfl) script.commit
  unfold conclude
  split
  · split
    · exact leaveIf_exits honest script.projection parks
    · exact parks
  · refine Ends.change ?_
    have ended : (endSpentSession loop).Honest ∧ (endSpentSession loop).state = loop.state := by
      unfold endSpentSession
      split
      next spent => exact ⟨pumping.stops _ (pumping.budget spent) rfl rfl, rfl⟩
      · exact ⟨honest, rfl⟩
    exact leaveIf_exits ended.1 script.projection
      (park_spec ended.1 _ (returned_stands returned ended.2) script.commit)

end Exits

section Entries

theorem leavePark_pumping {loop : Activation} (honest : loop.Honest)
    (alive : loop.session.terminal = false) (input : Option UserInput) :
    Pumping (leavePark (abandonRecovery spec input loop)) := by
  unfold abandonRecovery
  split <;> exact ⟨alive, rfl, rfl, rfl, honest.1.budget, honest.2⟩

theorem acceptInput_keeps (input : Option UserInput) : (acceptInput input).Keeps Pumping := by
  cases input with
  | none => exact Keeps.pure
  | some input =>
    refine Keeps.change (fun loop held => ?_)
      (Keeps.ite Keeps.leave (Keeps.update fun _ held => held))
    have fresh : (resetSubmit loop).state.errorCode = "max_tool_calls_exceeded" → False := by
      simp [resetSubmit]
    exact ⟨held.alive, held.noFailure, held.noMidturn, held.unparked,
      fun spent => (fresh spent).elim, held.stored⟩

theorem enterPump_exits {loop : Activation} (honest : loop.Honest)
    (alive : loop.session.terminal = false) (recovery : Option EvidenceRecovery)
    (script : EntryScript) : (enterPump spec recovery script).Ends loop Parks Escapes := by
  refine Ends.change (Ends.then
    ((acceptInput_keeps script.input _ (leavePark_pumping spec honest alive script.input)).weaken
      (fun _ _ held => held) fun _ _ held => Pumping.honest held) fun _ ready pumping => ?_)
  have pumped := (pumpActivation_keeps spec recovery script ready pumping).and
    (pumpActivation_returns spec recovery script ready)
  refine Ends.bind (Ends.handle (Ends.bind (pumped.weaken ?_ ?_)))
  · exact fun suspension after held => conclude_exits held.1 held.2 script
  · intro raised after held
    refine Ends.bind ((exitRaised_exits spec held.1 script raised).weaken ?_ ?_)
    · exact fun _ _ parked => parked
    · exact fun _ _ escaped => escaped

end Entries

section Escapes

theorem park_same (suspension : Activation → Suspension) (commit : CommitAnswer)
    (loop : Activation) :
    (park suspension commit).Ends loop (fun _ after => SameVerdict loop after)
      (fun _ after => SameVerdict loop after) := by
  refine Ends.read (Ends.bind (Ends.read ?_))
  cases commit with
  | refused => exact ⟨rfl, rfl, rfl, rfl⟩
  | committed => exact ⟨rfl, rfl, rfl, rfl⟩
  | declined => exact ⟨rfl, rfl, rfl, rfl⟩
  | failed kept => cases kept <;> exact ⟨rfl, rfl, rfl, rfl⟩

structure MarksFailure (error : AdapterError) (after : Activation) : Prop where
  alive : after.session.terminal = false
  marked : after.session.unrecoveredTurnFailure =
    some (publicErrorMessage error.message, error.errorCode)
  retryable : after.state.retryable = error.retryable
  configRecoverable : after.state.configRecoverable = error.configRecoverable
  providerErrorCode : after.state.providerErrorCode = error.providerErrorCode
  httpStatus : after.state.providerHttpStatus = error.httpStatus

structure MarksMidturn (after : Activation) : Prop where
  alive : after.session.terminal = false
  unmarked : after.session.unrecoveredTurnFailure = none
  midturn : after.session.midturnPark.isSome = true

-- What an arm leaves behind when it does not return. Three of them mark the session only behind
-- their emission.
def ArmRecords (raised : Raised) (projected : Bool) (after : Activation) : Prop :=
  match raised with
  | .modelAdapter error =>
    if error.recoverable then projected = false → MarksFailure error after
    else after.state.status = .failed
  | .turnInterrupted | .turnPaused => projected = false → MarksMidturn after
  | .runCancelled cause =>
    if isDraining cause then MarksMidturn after else after.state.status = .limited
  | .runTimeout => after.state.status = .limited
  | .other _ _ => after.state.status = .failed
  | _ => True

def Guarded : Raised → Prop
  | .checkpointPersist | .control | .lost => False
  | _ => True

def Escaped : Escape → Activation → Prop
  | .malformed, _ => True
  | .unguarded, _ => True
  | .concluding suspension, after => ReturnedBy suspension after
  | .arm raised projected, after => Guarded raised ∧ ArmRecords raised projected after

variable {loop : Activation}

variable {after : Activation}

theorem SameVerdict.marksFailure (same : SameVerdict loop after) {error : AdapterError}
    (marks : MarksFailure error loop) : MarksFailure error after := by
  obtain ⟨state, terminal, failure, -⟩ := same
  exact ⟨terminal.trans marks.alive, failure.trans marks.marked, state ▸ marks.retryable,
    state ▸ marks.configRecoverable, state ▸ marks.providerErrorCode, state ▸ marks.httpStatus⟩

theorem SameVerdict.marksMidturn (same : SameVerdict loop after) (marks : MarksMidturn loop) :
    MarksMidturn after :=
  ⟨same.terminal.trans marks.alive, same.failure.trans marks.unmarked, same.midturn ▸ marks.midturn⟩

theorem SameVerdict.records (same : SameVerdict loop after) {raised : Raised} {projected : Bool}
    (records : ArmRecords raised projected loop) :
    ArmRecords raised projected after := by
  cases raised with
  | modelAdapter error =>
    simp only [ArmRecords, same.state] at records ⊢
    by_cases recoverable : error.recoverable = true
    · rw [if_pos recoverable] at records ⊢
      exact fun quiet => same.marksFailure (records quiet)
    · rw [if_neg recoverable] at records ⊢
      exact records
  | turnInterrupted => exact fun quiet => same.marksMidturn (records quiet)
  | turnPaused => exact fun quiet => same.marksMidturn (records quiet)
  | runCancelled cause =>
    simp only [ArmRecords, same.state] at records ⊢
    by_cases draining : isDraining cause = true
    · rw [if_pos draining] at records ⊢
      exact same.marksMidturn records
    · rw [if_neg draining] at records ⊢
      exact records
  | runTimeout => simpa only [ArmRecords, same.state] using records
  | other message errorCode => simpa only [ArmRecords, same.state] using records
  | checkpointPersist => trivial
  | control => trivial
  | lost => trivial

theorem SameVerdict.escaped (same : SameVerdict loop after) {escape : Escape}
    (escaped : Escaped escape loop) : Escaped escape after := by
  cases escape with
  | malformed => trivial
  | unguarded => trivial
  | concluding suspension =>
    intro held returned
    have returns := escaped held returned
    rwa [← same.state] at returns
  | arm raised projected => exact ⟨escaped.1, same.records escaped.2⟩

-- An arm that parks leaves what stands before its emission, or before its commit.
theorem park_leaves {post : Activation → Prop}
    (carries : ∀ {first after : Activation}, SameVerdict first after → post first → post after)
    (projection : Option Raised) (change : Activation → Activation)
    (early : projection.isSome = true → post loop)
    (late : projection.isSome = false → post (change loop)) (suspension : Activation → Suspension)
    (commit : CommitAnswer) :
    (do
      Piece.leaveIf projection
      Piece.update change
      park suspension commit : Phase Suspension).Ends loop (fun _ _ => True)
        (fun _ after => post after) := by
  cases projection with
  | some raised => exact early rfl
  | none =>
    refine Ends.bind (Ends.change ((park_same suspension commit _).weaken ?_ ?_))
    · exact fun _ _ _ => trivial
    · exact fun _ after same => carries same (late rfl)

theorem exitRaised_records (pumping : Pumping loop) (script : EntryScript) (raised : Raised) :
    (exitRaised spec script raised).Ends loop (fun _ _ => True)
      (fun _ after => ArmRecords raised script.projection.isSome after) := by
  have carries : ∀ {first after : Activation}, SameVerdict first after →
      ArmRecords raised script.projection.isSome first →
        ArmRecords raised script.projection.isSome after :=
    fun same records => same.records records
  -- an arm that has nothing to change behind its emission
  have parks : ∀ (first : Activation) (suspension : Activation → Suspension),
      ArmRecords raised script.projection.isSome first →
        (do
          Piece.leaveIf script.projection
          park suspension script.commit : Phase Suspension).Ends first (fun _ _ => True)
            (fun _ after => ArmRecords raised script.projection.isSome after) := by
    intro first suspension records
    refine Ends.bind (Ends.leaveIf ?_ fun _ _ => records)
    exact (park_same suspension script.commit first).weaken (fun _ _ _ => trivial)
      fun _ _ same => carries same records
  have failed : ∀ error, (∀ after : Activation, after.state.status = .failed →
      ArmRecords raised script.projection.isSome after) →
        (exitFailed error script).Ends loop (fun _ _ => True)
          (fun _ after => ArmRecords raised script.projection.isSome after) := by
    intro error records
    exact Ends.change (park_leaves carries script.projection becomeTerminal
      (fun _ => records _ rfl) (fun _ => records _ rfl) failedSuspension script.commit)
  cases raised with
  | checkpointPersist => trivial
  | runCancelled cause =>
    simp only [exitRaised, exitCancelled]
    by_cases draining : isDraining cause = true
    · rw [if_pos draining]
      refine Ends.change (parks _ _ ?_)
      simp only [ArmRecords, draining, if_true]
      exact ⟨pumping.alive, pumping.noFailure, rfl⟩
    · have records : ∀ after : Activation, after.state.status = .limited →
          ArmRecords (.runCancelled cause) script.projection.isSome after := by
        intro after limited
        simp only [ArmRecords]
        rw [if_neg draining]
        exact limited
      rw [if_neg draining]
      split
      · exact Ends.change (parks _ _ (records _ rfl))
      · exact Ends.change (parks _ _ (records _ rfl))
  | runTimeout => exact Ends.change (parks _ _ rfl)
  | modelAdapter error =>
    simp only [exitRaised]
    by_cases recoverable : error.recoverable = true
    · rw [if_pos recoverable]
      refine Ends.change (park_leaves carries script.projection (failTurn error) ?_ ?_ _
        script.commit)
      · intro projected
        simp only [ArmRecords, recoverable, if_true, projected]
        exact nofun
      · intro _
        simp only [ArmRecords, recoverable, if_true]
        exact fun _ => ⟨pumping.alive, rfl, rfl, rfl, rfl, rfl⟩
    · rw [if_neg recoverable]
      refine failed _ fun after status => ?_
      simp only [ArmRecords]
      rw [if_neg recoverable]
      exact status
  | turnInterrupted =>
    refine Ends.change (park_leaves carries script.projection (stopTurn spec) ?_ ?_ _
      script.commit)
    · intro projected quiet
      rw [projected] at quiet
      cases quiet
    · exact fun _ _ => ⟨pumping.alive, pumping.noFailure, rfl⟩
  | turnPaused =>
    refine Ends.change (park_leaves carries script.projection pauseTurn ?_ ?_ _
      script.commit)
    · intro projected quiet
      rw [projected] at quiet
      cases quiet
    · exact fun _ _ => ⟨pumping.alive, pumping.noFailure, rfl⟩
  | other message errorCode => exact failed _ fun after status => status
  | control => trivial
  | lost => trivial

theorem conclude_returns {suspension : Suspension} (returned : ReturnedBy suspension loop)
    (script : EntryScript) :
    (conclude script suspension).Ends loop (fun _ _ => True)
      (fun _ after => ReturnedBy suspension after) := by
  have stays : ∀ {after : Activation}, after.state = loop.state → ReturnedBy suspension after := by
    intro after same held parked
    have returns := returned held parked
    rwa [← same] at returns
  have parks : ∀ first : Activation, first.state = loop.state →
      (park (fun _ => suspension) script.commit).Ends first (fun _ _ => True)
        (fun _ after => ReturnedBy suspension after) := fun first same =>
    (park_same _ script.commit first).weaken (fun _ _ _ => trivial)
      fun _ _ held => stays (held.state.trans same)
  unfold conclude
  split
  · split
    · exact Ends.bind (Ends.leaveIf (parks loop rfl) fun _ _ => returned)
    · exact parks loop rfl
  · have same : (endSpentSession loop).state = loop.state := by
      unfold endSpentSession
      split <;> rfl
    exact Ends.change (Ends.bind (Ends.leaveIf (parks _ same)
      fun _ _ => stays same))

theorem enterPump_escaped (honest : loop.Honest) (alive : loop.session.terminal = false)
    (recovery : Option EvidenceRecovery) (script : EntryScript) :
    (enterPump spec recovery script).Ends loop (fun _ _ => True)
      (fun _ after => Escaped (escapeOf spec recovery script loop) after) := by
  have accepts := (acceptInput_keeps script.input _
    (leavePark_pumping spec honest alive script.input)).and Ends.run
  refine Ends.change (Ends.bind (accepts.weaken ?_ ?_))
  · rintro _ ready ⟨pumping, accepted⟩
    have pumps := ((pumpActivation_keeps spec recovery script ready pumping).and
      (pumpActivation_returns spec recovery script ready)).and Ends.run
    refine Ends.bind (Ends.handle (Ends.bind (pumps.weaken ?_ ?_)))
    · rintro suspension after ⟨⟨-, returned⟩, pumped⟩
      have escape : escapeOf spec recovery script loop = .concluding suspension := by
        simp only [escapeOf, accepted, pumped]
      rw [escape]
      exact conclude_returns returned script
    · rintro raised after ⟨⟨held, -⟩, pumped⟩
      refine Ends.bind ((exitRaised_records spec held script raised).weaken
        (fun _ _ _ => trivial) ?_)
      intro _ last records
      have escape : Escaped (escapeOf spec recovery script loop) last := by
        simp only [escapeOf, accepted, pumped]
        cases raised with
        | checkpointPersist | control | lost => trivial
        | _ => exact ⟨trivial, records⟩
      exact escape
  · rintro refusal after ⟨-, refused⟩
    have escape : escapeOf spec recovery script loop = .malformed := by
      simp only [escapeOf, refused]
    rw [escape]
    trivial

end Escapes

end MonoidKernel.AgentLoop
