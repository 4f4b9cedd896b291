import MonoidKernel.Loop.Closing

set_option autoImplicit false

namespace MonoidKernel.AgentLoop

open Library
open Library.Piece (Ends)

variable (spec : LoopSpec)

section Promotions

def KeepsStore (_ : Raised) (after : Activation) : Prop := HonestStore after.durable.checkpoints

theorem park_closes (loop : Activation) (stored : HonestStore loop.durable.checkpoints)
    (status : loop.state.status ≠ .completed) (terminal : loop.session.terminal = true)
    (suspension : Activation → Suspension) (reason : (suspension loop).reason = .terminal)
    (commit : CommitAnswer) :
    (park suspension commit).Ends loop
      (fun _ after => SameVerdict loop after ∧ HonestStore after.durable.checkpoints)
      KeepsStore := by
  have kept : HonestStore (AgentLoop.stored
      (numbered (observed (some (suspension loop)) loop))).durable.checkpoints := by
    refine HonestStore.append stored ⟨fun _ => status, fun _ => status, ?_⟩
    rintro held ⟨⟩
    have ended : Agrees loop.state loop.session.terminal (suspension loop) := by
      simpa only [Agrees, reason] using terminal
    exact ended
  refine Ends.read (Ends.bind (Ends.read ?_))
  cases commit with
  | refused => exact ⟨⟨rfl, rfl, rfl, rfl⟩, stored⟩
  | committed => exact ⟨⟨rfl, rfl, rfl, rfl⟩, kept⟩
  | declined => exact ⟨⟨rfl, rfl, rfl, rfl⟩, stored⟩
  | failed keeps =>
    cases keeps with
    | false => exact stored
    | true => exact kept

inductive Promoted (loop : Activation) (idle : Prop) (verdict : Activation → Prop) :
    Activation → Prop where
  | idle (unchanged : loop.session.terminal = true ∨ idle) : Promoted loop idle verdict loop
  | ended {after : Activation} (alive : loop.session.terminal = false) (called : ¬ idle)
      (terminal : after.session.terminal = true) (written : verdict after)
      (stored : HonestStore after.durable.checkpoints) : Promoted loop idle verdict after

variable {loop : Activation}

variable {verdict : Activation → Prop}

theorem Promoted.stored {after : Activation} {idle : Prop}
    (promoted : Promoted loop idle verdict after) (before : HonestStore loop.durable.checkpoints) :
    HonestStore after.durable.checkpoints := by
  cases promoted with
  | idle => exact before
  | ended _ _ _ _ stored => exact stored

theorem Promoted.unchanged {after : Activation} {idle : Prop}
    (promoted : Promoted loop idle verdict after) (ended : loop.session.terminal = true) :
    after = loop := by
  cases promoted with
  | idle => rfl
  | ended alive => rw [ended] at alive; cases alive

theorem Promoted.park {idle : Prop} (alive : loop.session.terminal = false) (called : ¬ idle)
    (after : Activation) (stored : HonestStore after.durable.checkpoints)
    (status : after.state.status ≠ .completed) (terminal : after.session.terminal = true)
    (written : ∀ last, SameVerdict after last → verdict last) (suspension : Activation → Suspension)
    (reason : (suspension after).reason = .terminal) (commit : CommitAnswer) :
    (park suspension commit).Ends after (fun _ => Promoted loop idle verdict) KeepsStore := by
  refine (park_closes after stored status terminal suspension reason commit).weaken ?_ ?_
  · intro _ last held
    exact Promoted.ended alive called (held.1.terminal.trans terminal) (written last held.1) held.2
  · exact fun _ _ held => held

theorem promotePendingCancel_spec (stored : HonestStore loop.durable.checkpoints)
    (commit : CommitAnswer) :
    (promotePendingCancel commit).Ends loop
      (fun _ => Promoted loop (loop.cancellation = none) fun after => after.state.status = .limited)
      KeepsStore := by
  refine Ends.read ?_
  split
  next quiet => exact Promoted.idle (Or.inr quiet)
  next cause requested =>
    by_cases ended : loop.session.terminal = true
    · rw [if_pos ended]
      exact Promoted.idle (Or.inl ended)
    · have alive : loop.session.terminal = false := by simpa using ended
      have called : ¬ loop.cancellation = none := by simp [requested]
      rw [if_neg ended]
      split
      · refine Ends.bind (Ends.change (Ends.bind (Ends.leaveIf ?_ nofun)))
        exact Promoted.park alive called (expire loop) stored nofun rfl
          (fun _ same => by rw [same.state]; rfl) terminalLimited rfl commit
      · refine Ends.change (Ends.bind ?_)
        exact Promoted.park alive called (cancelParked cause loop) stored nofun rfl
          (fun _ same => by rw [same.state]; rfl) terminalLimited rfl commit

structure FailedAs (loop : Activation) (error errorCode : String) (after : Activation) : Prop where
  status : after.state.status = .failed
  error : after.state.error = errorCodeOr error "turn failed"
  errorCode : after.state.errorCode = errorCodeOr errorCode "model_error"
  retryable : after.state.retryable = loop.state.retryable
  configRecoverable : after.state.configRecoverable = loop.state.configRecoverable
  providerErrorCode : after.state.providerErrorCode = loop.state.providerErrorCode
  httpStatus : after.state.providerHttpStatus = loop.state.providerHttpStatus

theorem errorCodeOr_twice (errorCode default : String) (named : default.isEmpty = false) :
    errorCodeOr (errorCodeOr errorCode default) "internal_error" =
      errorCodeOr errorCode default := by
  unfold errorCodeOr
  by_cases empty : errorCode.isEmpty
  · simp [empty, named]
  · simp [empty]

theorem promoteTurnFailure_spec (stored : HonestStore loop.durable.checkpoints)
    (commit : CommitAnswer) :
    (promoteTurnFailure commit).Ends loop
      (fun _ => Promoted loop (loop.session.unrecoveredTurnFailure = none) fun after =>
        ∃ error errorCode, loop.session.unrecoveredTurnFailure = some (error, errorCode) ∧
          FailedAs loop error errorCode after)
      KeepsStore := by
  refine Ends.read ?_
  split
  next quiet => exact Promoted.idle (Or.inr quiet)
  next error errorCode marked =>
    by_cases ended : loop.session.terminal = true
    · rw [if_pos ended]
      exact Promoted.idle (Or.inl ended)
    · have alive : loop.session.terminal = false := by simpa using ended
      have called : ¬ loop.session.unrecoveredTurnFailure = none := by simp [marked]
      rw [if_neg ended]
      refine Ends.change (Ends.change (Ends.bind ?_))
      refine Promoted.park alive called
        (becomeTerminal (recordPromotedFailure (errorCodeOr error "turn failed")
          (errorCodeOr errorCode "model_error") loop)) stored nofun rfl ?_
          failedSuspension rfl commit
      intro last same
      have code := errorCodeOr_twice errorCode "model_error" (by decide)
      refine ⟨error, errorCode, marked, ⟨?_, ?_, ?_, ?_, ?_, ?_, ?_⟩⟩ <;> rw [same.state]
      all_goals first | exact code | rfl

theorem promoteUnsettledClose_spec (stored : HonestStore loop.durable.checkpoints)
    (commit : CommitAnswer) :
    (promoteUnsettledClose commit).Ends loop
      (fun _ => Promoted loop (loop.session.midturnPark = none) fun after =>
        after.state.status = .limited)
      KeepsStore := by
  refine Ends.read ?_
  split
  next quiet => exact Promoted.idle (Or.inr quiet)
  next reason marked =>
    by_cases ended : loop.session.terminal = true
    · rw [if_pos ended]
      exact Promoted.idle (Or.inl ended)
    · have alive : loop.session.terminal = false := by simpa using ended
      have called : ¬ loop.session.midturnPark = none := by simp [marked]
      rw [if_neg ended]
      refine Ends.change (Ends.bind ?_)
      exact Promoted.park alive called (closeUnsettled reason loop) stored nofun rfl
        (fun _ same => by rw [same.state]; rfl) terminalLimited rfl commit

end Promotions

section Verdicts

inductive ClosedAs (loop after : Activation) : Prop where
  | ended (terminal : loop.session.terminal = true) (same : after.state = loop.state)
  | cancelled (alive : loop.session.terminal = false) (requested : loop.cancellation.isSome = true)
      (status : after.state.status = .limited)
  | failed (alive : loop.session.terminal = false) (quiet : loop.cancellation = none)
      (error errorCode : String)
      (marked : loop.session.unrecoveredTurnFailure = some (error, errorCode))
      (written : FailedAs loop error errorCode after)
  | unsettled (quiet : loop.cancellation = none)
      (noFailure : loop.session.unrecoveredTurnFailure = none)
      (midturn : loop.session.midturnPark.isSome = true) (status : after.state.status = .limited)
  | finished (quiet : loop.cancellation = none)
      (noFailure : loop.session.unrecoveredTurnFailure = none)
      (noMidturn : loop.session.midturnPark = none) (same : after.state = loop.state)

variable {loop : Activation}

theorem promotions_spec {A : Type} (honest : loop.Honest) (commit : CommitAnswer)
    {rest : Unit → Phase A} {further : A → Activation → Prop}
    (carries : ∀ after, ClosedAs loop after → HonestStore after.durable.checkpoints →
      (rest ()).Ends after further KeepsStore) :
    (promotePendingCancel commit >>= fun _ => promoteTurnFailure commit >>= fun _ =>
      promoteUnsettledClose commit >>= rest).Ends loop further KeepsStore := by
  refine Ends.then (promotePendingCancel_spec honest.2 commit) fun _ first cancelled => ?_
  have firstStored := cancelled.stored honest.2
  refine Ends.then (promoteTurnFailure_spec firstStored commit) fun _ second failed => ?_
  have secondStored := failed.stored firstStored
  refine Ends.then (promoteUnsettledClose_spec secondStored commit)
    fun _ third unsettled => ?_
  refine carries third ?_ (unsettled.stored secondStored)
  cases cancelled with
  | ended alive called terminal written stored =>
    obtain rfl := failed.unchanged terminal
    obtain rfl := unsettled.unchanged terminal
    exact ClosedAs.cancelled alive (Option.isSome_iff_ne_none.mpr called) written
  | idle standing =>
    cases failed with
    | ended alive called terminal written stored =>
      obtain rfl := unsettled.unchanged terminal
      obtain ⟨error, errorCode, marked, recorded⟩ := written
      have quiet := standing.resolve_left (by simp [alive])
      exact ClosedAs.failed alive quiet error errorCode marked recorded
    | idle unmarked =>
      cases unsettled with
      | ended alive called terminal written stored =>
        have quiet := standing.resolve_left (by simp [alive])
        have noFailure := unmarked.resolve_left (by simp [alive])
        exact ClosedAs.unsettled quiet noFailure (Option.isSome_iff_ne_none.mpr called) written
      | idle noMidturn =>
        by_cases ended : loop.session.terminal = true
        · exact ClosedAs.ended ended rfl
        · exact ClosedAs.finished (standing.resolve_left ended) (unmarked.resolve_left ended)
            (noMidturn.resolve_left ended) rfl

theorem HonestStore.nil : HonestStore [] := by
  intro checkpoint member
  cases member

theorem dropCheckpoints_spec (stored : HonestStore loop.durable.checkpoints) :
    (dropCheckpoints loop).state = loop.state ∧
      HonestStore (dropCheckpoints loop).durable.checkpoints := by
  unfold dropCheckpoints
  split
  · exact ⟨rfl, HonestStore.nil⟩
  · exact ⟨rfl, stored⟩

theorem close_spec (honest : loop.Honest) (commit : CommitAnswer) (finalize : Option Raised) :
    (close commit finalize).Ends loop
      (fun record after => HonestStore after.durable.checkpoints ∧
        ∃ promoted, ClosedAs loop promoted ∧ record = recordOf promoted)
      KeepsStore := by
  refine promotions_spec honest commit fun promoted closed stored => ?_
  refine Ends.bind (Ends.leaveIf ?_ fun _ _ => stored)
  obtain ⟨same, kept⟩ := dropCheckpoints_spec stored
  refine Ends.change (Ends.read (Ends.pure ⟨kept, promoted, closed, ?_⟩))
  simp only [recordOf, same]

end Verdicts

section Runs

def Faithful : RunLife → Prop
  | .opened loop last => loop.Honest ∧
      (∀ suspension, last = .parked suspension → Stands loop suspension) ∧
      ∀ escape, last = .escaped escape → Escaped escape loop
  | .away durable => HonestStore durable.checkpoints
  | .closed _ durable => HonestStore durable.checkpoints

theorem init_faithful : Faithful (run spec).init := by
  refine ⟨⟨⟨?_, ?_, ?_⟩, HonestStore.nil⟩, ?_, ?_⟩
  · intro ended; cases ended
  · intro spent; exact absurd spent (by decide)
  · intro suspension parked; cases parked
  · intro suspension parked; cases parked
  · intro escape escaped; cases escaped

variable {loop : Activation}

theorem admitEntry_alive {input : Option UserInput} {recovery : Option EvidenceRecovery}
    (accepted : admitEntry spec input loop = .ok recovery) :
    loop.session.terminal = false := by
  unfold admitEntry at accepted
  split at accepted
  · cases accepted
  next alive => simpa using alive

theorem enterRun_faithful {last : LastEntry} (faithful : Faithful (.opened loop last))
    (script : EntryScript) :
    Faithful (enterRun spec script loop last) := by
  unfold enterRun
  split
  · exact faithful
  next recovery accepted =>
    have alive := admitEntry_alive spec accepted
    have exits := (enterPump_exits spec faithful.1 alive recovery script).and
      (enterPump_escaped spec faithful.1 alive recovery script)
    unfold Piece.Ends at exits
    generalize escapeOf spec recovery script loop = escape at exits ⊢
    cases outcome : enterPump spec recovery script loop with
    | mk result after =>
      rw [outcome] at exits
      cases result with
      | ok suspension =>
        obtain ⟨⟨honest, stands⟩, -⟩ : Parks suspension after ∧ True := exits
        refine ⟨honest, fun same parked => ?_, fun escape escaped => LastEntry.noConfusion escaped⟩
        cases parked
        exact stands
      | error raised =>
        obtain ⟨honest, escaped⟩ : Escapes raised after ∧ Escaped escape after := exits
        have opened : Faithful (.opened after (.escaped escape)) := by
          refine ⟨honest, fun suspension parked => LastEntry.noConfusion parked, ?_⟩
          intro same left
          cases left
          exact escaped
        cases raised with
        | lost => exact honest.2
        | _ => exact opened

theorem closeRun_faithful (honest : loop.Honest) (commit : CommitAnswer)
    (finalize : Option Raised) : Faithful (closeRun commit finalize loop) := by
  have closed := close_spec honest commit finalize
  unfold Piece.Ends at closed
  unfold closeRun
  cases outcome : close commit finalize loop with
  | mk result after =>
    rw [outcome] at closed
    cases result with
    | ok record => exact closed.1
    | error raised => exact closed

variable {durable : Durable}

theorem restore_stands {checkpoint : RunCheckpoint} {crashed : List ToolObservation}
    (honest : checkpoint.Honest) (restored : restore spec durable checkpoint crashed = some loop)
    (stored : HonestStore durable.checkpoints) :
    loop.Honest ∧ ∀ suspension, checkpoint.lastSuspension = some suspension →
      Stands loop suspension := by
  unfold restore at restored
  dsimp only at restored
  by_cases refused : checkpoint.cancellationRequested = true ∧
      isOperationalCancellationCause (checkpoint.interruptionCause.getD .userCancel) = false
  · rw [if_pos refused] at restored
    cases restored
  · rw [if_neg refused] at restored
    obtain rfl := Option.some.inj restored
    refine ⟨⟨⟨honest.verdict, honest.budget, honest.agrees⟩, stored⟩, ?_⟩
    intro suspension parked
    refine ⟨honest.agrees suspension parked, ?_, ?_⟩
    · intro reason
      simp [unrecoveredTurnFailure, parkClassification, parked, reason]
    · rintro (reason | reason) <;> simp [unrecoveredTurnFailure, midturnPark, parked, reason]

theorem restoreRun_faithful (stored : HonestStore durable.checkpoints) (which : Nat)
    (crashed : List ToolObservation) (uncancelled : Bool) :
    Faithful (restoreRun spec which crashed uncancelled durable) := by
  unfold restoreRun
  split
  · exact stored
  next checkpoint found =>
    have honest : checkpoint.Honest := stored checkpoint (List.mem_of_getElem? found)
    dsimp only
    split
    · exact stored
    next loop restored =>
      have stands := restore_stands spec (by split <;> exact honest) restored stored
      refine ⟨stands.1, fun suspension parked => stands.2 suspension ?_, fun escape escaped => ?_⟩
      · unfold lastEntryOf at parked
        split at parked
        next held found =>
          cases parked
          split <;> exact found
        · cases parked
      · unfold lastEntryOf at escaped
        split at escaped <;> cases escaped

theorem nextRun_faithful (life : RunLife) (label : RunLabel) (faithful : Faithful life) :
    Faithful ((run spec).next life label) := by
  cases life with
  | opened loop last =>
    cases label with
    | enter script => exact enterRun_faithful spec faithful script
    | signal arrivals =>
      have same : SameVerdict loop (loop.receive arrivals) := ⟨rfl, rfl, rfl, rfl⟩
      exact ⟨⟨faithful.1.1, faithful.1.2⟩,
        fun suspension parked => same.stands (faithful.2.1 suspension parked),
        fun escape escaped => same.escaped (faithful.2.2 escape escaped)⟩
    | report commit =>
      obtain ⟨honest, same, -⟩ := persistCheckpoint_report faithful.1 commit
      exact ⟨honest, fun suspension parked => same.stands (faithful.2.1 suspension parked),
        fun escape escaped => same.escaped (faithful.2.2 escape escaped)⟩
    | leave => exact faithful.1.2
    | restore => exact faithful
    | close commit finalize => exact closeRun_faithful faithful.1 commit finalize
  | away durable =>
    cases label with
    | restore which crashed uncancelled =>
      exact restoreRun_faithful spec faithful which crashed uncancelled
    | _ => exact faithful
  | closed record durable => cases label <;> exact faithful

theorem reachable_faithful {life : RunLife} (reachable : (run spec).Reachable life) :
    Faithful life :=
  reachable.invariant Faithful (init_faithful spec) (nextRun_faithful spec)

def FinishedBy (suspension : Suspension) : Prop :=
  (suspension.reason = .settled ∧ suspension.status = .completed) ∨
    suspension.reason = .awaitingTasks

structure Unmarked (loop : Activation) : Prop where
  alive : loop.session.terminal = false
  noFailure : loop.session.unrecoveredTurnFailure = none
  noMidturn : loop.session.midturnPark = none
  completed : loop.state.status = .completed

-- The arms that mark the session only behind their emission.
def MarksLate : Raised → Prop
  | .modelAdapter error => error.recoverable = true
  | .turnInterrupted | .turnPaused => True
  | _ => False

def LastEntry.Finished (loop : Activation) : LastEntry → Prop
  | .none => True
  | .escaped escape => Unmarked loop ∧ match escape with
    | .malformed | .unguarded => True
    | .concluding suspension => FinishedBy suspension
    | .arm raised projected => projected = true ∧ MarksLate raised
  | .unreturned => Unmarked loop
  | .parked suspension => FinishedBy suspension

variable {suspension : Suspension}

theorem returned_finished (returned : ReturnedBy suspension loop)
    (completed : loop.state.status = .completed) :
    FinishedBy suspension := by
  rcases returned suspension rfl with ⟨reason, status⟩ | ⟨-, status⟩ | reason
  · exact .inl ⟨reason, status ▸ completed⟩
  · rw [status] at completed; cases completed
  · exact .inr reason

theorem records_late (unmarked : Unmarked loop) {raised : Raised} {projected : Bool}
    (records : ArmRecords raised projected loop) (guarded : Guarded raised) :
    projected = true ∧ MarksLate raised := by
  obtain ⟨alive, noFailure, noMidturn, completed⟩ := unmarked
  have midturn : ¬ MarksMidturn loop := fun marks => by
    simpa [noMidturn] using marks.midturn
  cases raised with
  | modelAdapter error =>
    simp only [ArmRecords] at records
    split at records
    next recoverable =>
      refine ⟨?_, recoverable⟩
      by_contra quiet
      have marked := (records (by simpa using quiet)).marked
      rw [noFailure] at marked
      cases marked
    · rw [completed] at records; cases records
  | turnInterrupted =>
    refine ⟨?_, trivial⟩
    by_contra quiet
    exact midturn (records (by simpa using quiet))
  | turnPaused =>
    refine ⟨?_, trivial⟩
    by_contra quiet
    exact midturn (records (by simpa using quiet))
  | runCancelled cause =>
    simp only [ArmRecords] at records
    split at records
    · exact absurd records midturn
    · rw [completed] at records; cases records
  | runTimeout =>
    rw [ArmRecords, completed] at records
    cases records
  | other message errorCode =>
    rw [ArmRecords, completed] at records
    cases records
  | checkpointPersist => exact guarded.elim
  | control => exact guarded.elim
  | lost => exact guarded.elim

variable {promoted : Activation}

theorem completed_finished {last : LastEntry} (faithful : Faithful (.opened loop last))
    (closed : ClosedAs loop promoted) (completed : promoted.state.status = .completed) :
    loop.cancellation = none ∧ last.Finished loop := by
  cases closed with
  | ended terminal same =>
    rw [same] at completed
    exact absurd completed (faithful.1.1.verdict terminal)
  | cancelled _ _ status => rw [status] at completed; cases completed
  | failed _ _ _ _ _ written => rw [written.status] at completed; cases completed
  | unsettled _ _ _ status => rw [status] at completed; cases completed
  | finished quiet noFailure noMidturn same =>
    refine ⟨quiet, ?_⟩
    rw [same] at completed
    have unmarked : Unmarked loop := by
      refine ⟨?_, noFailure, noMidturn, completed⟩
      by_contra ended
      exact faithful.1.1.verdict (by simpa using ended) completed
    cases last with
    | none => trivial
    | unreturned => exact unmarked
    | escaped escape =>
      have left := faithful.2.2 escape rfl
      refine ⟨unmarked, ?_⟩
      cases escape with
      | malformed => trivial
      | unguarded => trivial
      | concluding suspension => exact returned_finished left completed
      | arm raised projected => exact records_late unmarked left.2 left.1
    | parked suspension =>
      have stands := faithful.2.1 suspension rfl
      have agrees := stands.agrees
      cases reason : suspension.reason <;> simp only [Agrees, reason] at agrees
      case settled => exact Or.inl ⟨reason, agrees ▸ completed⟩
      case awaitingTasks => exact Or.inr reason
      case limited => rw [agrees] at completed; cases completed
      case terminal => exact absurd completed (faithful.1.1.verdict agrees)
      case turnFailed =>
        have marked := (stands.failure reason).1
        rw [noFailure] at marked
        cases marked
      case interrupted =>
        have marked := (stands.midturn (Or.inl reason)).1
        rw [noMidturn] at marked
        cases marked
      case paused =>
        have marked := (stands.midturn (Or.inr reason)).1
        rw [noMidturn] at marked
        cases marked

-- The record of a run that is closed over a failed turn: the error and the classification of the
-- park, under the code of the park or under `model_error`.
structure RecordsFailure (suspension : Suspension) (record : RunRecord) : Prop where
  status : record.status = .failed
  error : record.error = errorCodeOr suspension.error "turn failed"
  errorCode : record.errorCode = errorCodeOr suspension.errorCode "model_error"
  retryable : record.retryable = suspension.retryable
  configRecoverable : record.configRecoverable = suspension.configRecoverable
  providerErrorCode : record.providerErrorCode = suspension.providerErrorCode
  httpStatus : record.httpStatus = suspension.httpStatus

theorem turnFailed_recorded (stands : Stands loop suspension) (closed : ClosedAs loop promoted)
    (reason : suspension.reason = .turnFailed) :
    if loop.cancellation = none then RecordsFailure suspension (recordOf promoted)
    else (recordOf promoted).status = .limited := by
  have agrees := stands.agrees
  simp only [Agrees, reason] at agrees
  obtain ⟨alive, provider, http⟩ := agrees
  obtain ⟨marked, retryable, configRecoverable⟩ := stands.failure reason
  cases closed with
  | ended terminal => rw [alive] at terminal; cases terminal
  | cancelled _ requested status =>
    rw [if_neg (Option.isSome_iff_ne_none.mp requested)]
    exact status
  | failed _ quiet error errorCode same written =>
    rw [if_pos quiet]
    rw [marked] at same
    cases same
    exact ⟨written.status, written.error, written.errorCode, written.retryable.trans retryable,
      written.configRecoverable.trans configRecoverable, written.providerErrorCode.trans provider,
      written.httpStatus.trans http⟩
  | unsettled _ noFailure => rw [noFailure] at marked; cases marked
  | finished _ noFailure => rw [noFailure] at marked; cases marked

theorem MarksFailure.stands {error : AdapterError} (marks : MarksFailure error loop) :
    Stands loop (turnFailedSuspension error) :=
  ⟨⟨marks.alive, marks.providerErrorCode, marks.httpStatus⟩,
    fun _ => ⟨marks.marked, marks.retryable, marks.configRecoverable⟩,
    by rintro (reason | reason) <;> cases reason⟩

theorem Stands.marksMidturn (stands : Stands loop suspension)
    (reason : suspension.reason = .interrupted ∨ suspension.reason = .paused) :
    MarksMidturn loop := by
  obtain ⟨marked, unmarked⟩ := stands.midturn reason
  refine ⟨?_, unmarked, by simp [marked]⟩
  have agrees := stands.agrees
  rcases reason with reason | reason <;> simpa only [Agrees, reason] using agrees

theorem midturn_recorded (marks : MarksMidturn loop) (closed : ClosedAs loop promoted) :
    (recordOf promoted).status = .limited := by
  obtain ⟨alive, unmarked, midturn⟩ := marks
  cases closed with
  | ended terminal => rw [alive] at terminal; cases terminal
  | cancelled _ _ status => exact status
  | failed _ _ _ _ same => rw [unmarked] at same; cases same
  | unsettled _ _ _ status => exact status
  | finished _ _ noMidturn => rw [noMidturn] at midturn; cases midturn

theorem closeRun_closed (honest : loop.Honest) {commit : CommitAnswer} {finalize : Option Raised}
    {record : RunRecord} (closed : closeRun commit finalize loop = .closed record durable) :
    ∃ promoted, ClosedAs loop promoted ∧ record = recordOf promoted := by
  have ends := close_spec honest commit finalize
  unfold Piece.Ends at ends
  unfold closeRun at closed
  cases outcome : close commit finalize loop with
  | mk result after =>
    rw [outcome] at ends closed
    cases result with
    | ok recorded =>
      cases closed
      exact ends.2
    | error raised => cases closed

def ParksMidturn : Raised → Prop
  | .turnInterrupted | .turnPaused => True
  | .runCancelled cause => isDraining cause = true
  | _ => False

-- What close records, also where the park of the last entry could not be committed.
structure ClosesFaithfully (loop : Activation) (last : LastEntry) (record : RunRecord) : Prop where
  completed : record.status = .completed → loop.cancellation = none ∧ last.Finished loop
  turnFailed : ∀ suspension, last = .parked suspension → suspension.reason = .turnFailed →
    if loop.cancellation = none then RecordsFailure suspension record
    else record.status = .limited
  midturn : ∀ suspension, last = .parked suspension →
    suspension.reason = .interrupted ∨ suspension.reason = .paused → record.status = .limited
  failedUnparked : ∀ error, last = .escaped (.arm (.modelAdapter error) false) →
    error.recoverable = true →
      if loop.cancellation = none then RecordsFailure (turnFailedSuspension error) record
      else record.status = .limited
  midturnUnparked : ∀ raised, last = .escaped (.arm raised false) → ParksMidturn raised →
    record.status = .limited

theorem escaped_midturn {raised : Raised} (escaped : Escaped (.arm raised false) loop)
    (parks : ParksMidturn raised) :
    MarksMidturn loop := by
  have records := escaped.2
  cases raised with
  | turnInterrupted => exact records rfl
  | turnPaused => exact records rfl
  | runCancelled cause =>
    have draining : isDraining cause = true := parks
    simp only [ArmRecords] at records
    rwa [if_pos draining] at records
  | _ => exact parks.elim

theorem escaped_failure {error : AdapterError}
    (escaped : Escaped (.arm (.modelAdapter error) false) loop)
    (recoverable : error.recoverable = true) : MarksFailure error loop := by
  have records := escaped.2
  simp only [ArmRecords] at records
  rw [if_pos recoverable] at records
  exact records trivial

theorem close_faithful (labels : List RunLabel) (loop : Activation) (last : LastEntry)
    (commit : CommitAnswer) (finalize : Option Raised) (record : RunRecord) (durable : Durable)
    (opened : (run spec).exec (run spec).init labels = .opened loop last)
    (closed : (run spec).next (.opened loop last) (.close commit finalize) =
      .closed record durable) :
    ClosesFaithfully loop last record := by
  have faithful : Faithful (.opened loop last) := reachable_faithful spec ⟨labels, opened⟩
  obtain ⟨promoted, verdict, rfl⟩ := closeRun_closed faithful.1 closed
  refine ⟨completed_finished faithful verdict, ?_, ?_, ?_, ?_⟩
  · exact fun suspension parked => turnFailed_recorded (faithful.2.1 suspension parked) verdict
  · intro suspension parked reason
    exact midturn_recorded ((faithful.2.1 suspension parked).marksMidturn reason) verdict
  · intro error escaped recoverable
    have marks := escaped_failure (faithful.2.2 _ escaped) recoverable
    exact turnFailed_recorded marks.stands verdict rfl
  · intro raised escaped parks
    exact midturn_recorded (escaped_midturn (faithful.2.2 _ escaped) parks) verdict

def plainSpec : LoopSpec where
  runId := "run"
  limits := ⟨8, 8, 100, 10000, none, none, none, 1⟩
  lifecycleHook := false
  providerNamed := false
  messageSize := fun _ => 1
  asyncResultText := id

def overloaded : AdapterError where
  message := "overloaded"
  errorCode := "rate_limited"
  retryable := true
  httpStatus := some 429

def failingEntry : EntryScript where
  input := some ⟨"hello", false, false⟩
  steps := [{ call := { provider := .failed (.modelAdapter overloaded) initialUsage none } }]

theorem close_faithful_overloaded :
    ∃ loop suspension record, ClosesFaithfully loop (.parked suspension) record ∧
      suspension.reason = .turnFailed ∧ record.errorCode = "rate_limited" :=
  ⟨_, _, _, close_faithful plainSpec [.enter failingEntry] _ _ .committed none _ _ rfl rfl,
    rfl, rfl⟩

theorem cancelled_failure_closes_limited :
    ∃ loop suspension record durable,
      (run plainSpec).exec (run plainSpec).init
          [.enter failingEntry, .signal { cancel := some .userCancel }] =
        .opened loop (.parked suspension) ∧
      suspension.reason = .turnFailed ∧
      (run plainSpec).next (.opened loop (.parked suspension)) (.close .committed none) =
        .closed record durable ∧
      record.status = .limited ∧ record.errorCode = "cancelled" :=
  ⟨_, _, _, _, rfl, rfl, rfl, rfl, rfl⟩

end Runs

section Refusals

theorem acceptInput_malformed {input : UserInput} (malformed : input.malformed = true)
    (loop : Activation) :
    acceptInput (some input) loop =
      (.error (.other "content part is malformed" "internal_error"), resetSubmit loop) := by
  simp only [acceptInput, malformed, if_true]
  rfl

def pausingEntry : EntryScript where
  input := some ⟨"hello", false, false⟩
  steps := [{
    start := { pause := true }
    call := { provider := .failed (.modelAdapter overloaded) initialUsage none } }]

def refusedEntry : EntryScript where
  input := some ⟨"broken", false, true⟩

-- A malformed input takes the marker of the paused turn away before it is refused.
theorem refused_input_completes :
    ∃ paused loop record durable,
      (run plainSpec).exec (run plainSpec).init [.enter pausingEntry] =
        .opened paused (.parked pausedSuspension) ∧
      (run plainSpec).next (.opened paused (.parked pausedSuspension)) (.enter refusedEntry) =
        .opened loop (.escaped .malformed) ∧
      (run plainSpec).next (.opened loop (.escaped .malformed)) (.close .committed none) =
        .closed record durable ∧
      record.status = .completed ∧ durable.checkpoints = [] :=
  ⟨_, _, _, _, rfl, rfl, rfl, rfl, rfl⟩

end Refusals

end MonoidKernel.AgentLoop
