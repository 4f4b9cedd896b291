import MonoidKernel.Loop.SessionFacade

set_option autoImplicit false

namespace MonoidKernel.Lifecycle

open AgentLoop (RunStatus SuspensionReason)

section Steps

variable {facade : LoopSession}

namespace LoopSession

structure Steady (facade : LoopSession) : Prop where
  created : facade.state = .created → facade.loop.session = none
  ended : facade.state.isTerminal = true → ∀ live, facade.loop.session = some live →
    live.terminal = true ∧ live.status ≠ .completed ∧
      (live.outcome = facade.state ∨ facade.state = .failed ∧ live.status = .failed)

theorem setState_legal {dst : SessionState} (legal : canTransition facade.state dst = true) :
    facade.setState dst = ({ facade with state := dst }, .ok ()) := by
  unfold setState
  rw [if_pos legal]

theorem setState_raises (facade : LoopSession) (dst : SessionState) :
    (∀ src other, (facade.setState dst).2 ≠ .error (.illegalSessionTransition src other)) ↔
      canTransition facade.state dst = true := by
  unfold setState
  split
  next legal => simp [legal]
  next illegal => simp [illegal]

theorem requirePumpable_iff :
    facade.requirePumpable = .ok () ↔
      ∃ live, facade.loop.session = some live ∧ live.terminal = false := by
  unfold requirePumpable
  cases facade.loop.session with
  | none => simp
  | some live => cases terminal : live.terminal <;> simp [terminal]

theorem Steady.pumpable (steady : facade.Steady) (ready : facade.requirePumpable = .ok ()) :
    facade.setState .running = ({ facade with state := .running }, .ok ()) := by
  obtain ⟨live, found, going⟩ := requirePumpable_iff.1 ready
  have opened : facade.state ≠ .created := by
    intro created
    rw [steady.created created] at found
    cases found
  have alive : facade.state.isTerminal = false := by
    by_contra finished
    have ended := (steady.ended (by simpa using finished) live found).1
    rw [going] at ended
    cases ended
  exact setState_legal (canTransition_running alive opened)

variable {answer : LoopAnswer Suspension} {suspension : Suspension}

theorem runUntilSuspended_answered (steady : facade.Steady)
    (ready : facade.requirePumpable = .ok ()) (answered : answer.result = .ok suspension) :
    facade.runUntilSuspended answer =
      (⟨answer.after, stateFromSuspension suspension, some suspension⟩, .ok ()) := by
  simp only [runUntilSuspended, ready, steady.pumpable ready, answered, park]
  exact setState_legal (canTransition_suspension suspension)

theorem runUntilSuspended_raised (steady : facade.Steady) (ready : facade.requirePumpable = .ok ())
    {errorCode : String} (raised : answer.result = .error errorCode) :
    facade.runUntilSuspended answer =
      ({ facade with loop := answer.after, state := .running }, .error (.loop errorCode)) := by
  simp only [runUntilSuspended, ready, steady.pumpable ready, raised]

variable {turn : AgentTurnResult}

theorem deriveAfterSettle_dead (dead : facade.loop.session.any (·.terminal) = true) :
    facade.deriveAfterSettle turn = terminalOutcomeState turn.status turn.errorCode := by
  unfold deriveAfterSettle
  rw [if_pos dead]

theorem deriveAfterSettle_going (going : facade.loop.session.any (·.terminal) = false) :
    facade.deriveAfterSettle turn =
      if turn.status = .limited then .limited else .awaitingInput := by
  unfold deriveAfterSettle
  rw [if_neg (by rw [going]; nofun)]

theorem deriveAfterSettle_legal (facade : LoopSession) (turn : AgentTurnResult) :
    canTransition .running (facade.deriveAfterSettle turn) = true := by
  unfold deriveAfterSettle
  split
  · exact canTransition_finalize rfl (terminalOutcomeState_mem _ _)
  · split <;> rfl

theorem submit_settled (steady : facade.Steady) (ready : facade.requirePumpable = .ok ())
    (answered : answer.result = .ok suspension) (settled : suspension.turn = some turn) :
    facade.submit answer =
      ({ facade with
          loop := answer.after,
          state := deriveAfterSettle { facade with loop := answer.after } turn }, .ok ()) := by
  simp only [submit, ready, steady.pumpable ready, answered, settled]
  exact setState_legal (deriveAfterSettle_legal _ turn)

theorem submit_parked (steady : facade.Steady) (ready : facade.requirePumpable = .ok ())
    (answered : answer.result = .ok suspension) (unsettled : suspension.turn = none) :
    facade.submit answer =
      (⟨answer.after, stateFromSuspension suspension, some suspension⟩,
        .error (.turnNotSettled suspension)) := by
  simp only [submit, ready, steady.pumpable ready, answered, unsettled, park]
  rw [setState_legal (canTransition_suspension suspension)]

theorem submit_raised (steady : facade.Steady) (ready : facade.requirePumpable = .ok ())
    {errorCode : String} (raised : answer.result = .error errorCode) :
    facade.submit answer =
      ({ facade with loop := answer.after, state := .running }, .error (.loop errorCode)) := by
  simp only [submit, ready, steady.pumpable ready, raised]

variable {reason : Raised}

theorem submit_refused (refused : facade.requirePumpable = .error reason)
    (answer : LoopAnswer Suspension) : facade.submit answer = (facade, .error reason) := by
  simp only [submit, refused]

theorem runUntilSuspended_refused (refused : facade.requirePumpable = .error reason)
    (answer : LoopAnswer Suspension) :
    facade.runUntilSuspended answer = (facade, .error reason) := by
  simp only [runUntilSuspended, refused]

theorem requirePumpable_legal (refused : facade.requirePumpable = .error reason)
    (src dst : SessionState) :
    reason ≠ .illegalSessionTransition src dst := by
  unfold requirePumpable at refused
  split at refused
  · cases refused
    nofun
  next live found =>
    cases terminal : live.terminal with
    | false => simp [terminal] at refused
    | true =>
      simp only [terminal, if_true, Except.error.injEq] at refused
      rw [← refused]
      nofun

theorem Steady.parked {after : Activation} {last : Option Suspension}
    (suspends : Suspends suspension after) :
    Steady ⟨after, stateFromSuspension suspension, last⟩ := by
  constructor
  case created =>
    intro created
    have moved := canTransition_suspension suspension
    rw [show stateFromSuspension suspension = .created from created] at moved
    cases moved
  case ended =>
    intro finished live found
    cases reason : suspension.reason with
    | terminal =>
      obtain ⟨failed, other, same, terminal, status, errorCode⟩ := suspends.terminal reason
      cases same.symm.trans found
      refine ⟨terminal, status ▸ failed, .inl ?_⟩
      simp only [LiveSession.outcome, stateFromSuspension, reason, status, errorCode]
    | _ => simp [stateFromSuspension, reason, SessionState.isTerminal] at finished

theorem Steady.settled {after : Activation} {last : Option Suspension}
    (suspends : Suspends suspension after) (carried : suspension.turn = some turn)
    (state : SessionState) :
    Steady ⟨after, deriveAfterSettle ⟨after, state, last⟩ turn, last⟩ := by
  constructor
  case created =>
    intro created
    have moved := deriveAfterSettle_legal ⟨after, state, last⟩ turn
    rw [show deriveAfterSettle ⟨after, state, last⟩ turn = .created from created] at moved
    cases moved
  case ended =>
    intro finished live found
    have live_session : after.session = some live := found
    cases terminal : live.terminal with
    | false =>
      have going : after.session.any (·.terminal) = false := by
        rw [live_session, Option.any_some, terminal]
      rw [deriveAfterSettle_going going] at finished
      split at finished <;> cases finished
    | true =>
      have dead : after.session.any (·.terminal) = true := by
        rw [live_session, Option.any_some, terminal]
      rw [deriveAfterSettle_dead dead] at finished ⊢
      by_cases reason : suspension.reason = .terminal
      · obtain ⟨failed, other, same, _, status, errorCode⟩ := suspends.terminal reason
        cases same.symm.trans live_session
        obtain ⟨turnStatus, turnCode⟩ := suspends.turn turn carried
        have code : turn.errorCode = live.errorCode := by
          rw [turnCode (by rw [reason]; nofun), errorCode]
        refine ⟨rfl, status ▸ failed, .inl ?_⟩
        rw [LiveSession.outcome, turnStatus, code, status]
      · obtain ⟨limited, spent⟩ := suspends.spent turn carried reason dead
        rw [limited, spent] at finished
        cases finished

end LoopSession

open LoopSession

theorem steady_wrap {loop : Activation} (sound : loop.Sound) : (LoopSession.wrap loop).Steady := by
  unfold LoopSession.wrap
  cases found : loop.session with
  | none => exact ⟨fun _ => found, fun finished => by simp [SessionState.isTerminal] at finished⟩
  | some live =>
    cases terminal : live.terminal with
    | true =>
      simp only [terminal, if_true]
      constructor
      case created =>
        intro created
        have final := terminalOutcomeState_mem live.status live.errorCode
        rw [show terminalOutcomeState live.status live.errorCode = .created from created] at final
        simp [liveFinalize] at final
      case ended =>
        intro _ other same
        cases found.symm.trans same
        exact ⟨terminal, sound.terminal live found terminal, .inl rfl⟩
    | false =>
      simp only [terminal, Bool.false_eq_true, if_false]
      cases park : live.lastSuspension with
      | none =>
        have fresh : Steady { loop, state := .idle } :=
          ⟨fun created => (by cases created), fun finished => (by cases finished)⟩
        exact fresh
      | some suspension =>
        have going := sound.parked live found terminal suspension park
        constructor
        case created =>
          intro created
          have moved := canTransition_suspension suspension
          rw [show stateFromSuspension suspension = .created from created] at moved
          cases moved
        case ended =>
          intro finished
          cases reason : suspension.reason with
          | terminal => exact absurd reason going
          | _ => simp [stateFromSuspension, reason, SessionState.isTerminal] at finished

theorem openRun_error {answer : LoopAnswer Unit} {errorCode : String}
    (raised : answer.result = .error errorCode) :
    facade.openRun answer = ({ facade with loop := answer.after }, .error (.loop errorCode)) := by
  simp only [openRun, raised]

variable {live : LiveSession}

theorem openRun_ok {answer : LoopAnswer Unit} (opened : answer.result = .ok ())
    (found : answer.after.session = some live) :
    facade.openRun answer =
      setState { facade with loop := answer.after } (if live.terminal then .failed else .idle) := by
  simp only [openRun, opened, found, Option.any_some]

variable {state : SessionState}

theorem openRun_fits :
    canTransition state (if live.terminal then .failed else .idle) = true ↔
      if live.terminal then state ≠ .cancelled ∧ state ≠ .completed
      else state = .created ∨ state = .idle := by
  split
  · cases state <;> decide
  · cases state <;> decide

theorem openRun_steady (steady : facade.Steady) {answer : LoopAnswer Unit}
    (opens : Opens facade.loop answer) (fits : Fits facade (.openRun answer)) :
    (facade.openRun answer).1.Steady := by
  cases result : answer.result with
  | error errorCode =>
    rw [openRun_error result]
    cases opens.refused errorCode result with
    | inl same =>
      exact ⟨fun created => same.trans (steady.created created),
        fun finished live found => steady.ended finished live (same.symm.trans found)⟩
    | inr gone =>
      exact ⟨fun _ => gone, fun _ live found => by cases gone.symm.trans found⟩
  | ok =>
    obtain ⟨_, live, found, failed⟩ := opens.opened result
    have legal : canTransition ({ facade with loop := answer.after } : LoopSession).state
        (if live.terminal then .failed else .idle) = true :=
      openRun_fits.2 (fits result live found)
    rw [openRun_ok result found, setState_legal legal]
    cases terminal : live.terminal with
    | true =>
      refine ⟨fun created => by simp at created, fun _ other same => ?_⟩
      cases found.symm.trans same
      have status := failed terminal
      exact ⟨terminal, by rw [status]; nofun, .inr ⟨rfl, status⟩⟩
    | false =>
      exact ⟨fun created => by simp at created,
        fun finished => by simp [SessionState.isTerminal] at finished⟩

variable {answer : LoopAnswer AgentTurnResult}

theorem close_ok {result : AgentTurnResult} (closed : answer.result = .ok result) :
    facade.close answer = setState { facade with loop := answer.after }
      (sessionStateFromRunStatus result.status result.errorCode) := by
  simp only [close, closed]

theorem close_steady (closes : Closes facade.loop answer) :
    (facade.close answer).1.Steady := by
  have gone : (facade.close answer).1.loop.session = none := by
    cases result : answer.result with
    | error errorCode =>
      simp only [close, result]
      split <;> exact closes.nulls
    | ok closed =>
      rw [close_ok result]
      unfold setState
      split <;> exact closes.nulls
  exact ⟨fun _ => gone, fun _ live found => by cases gone.symm.trans found⟩

theorem pump_steady (steady : facade.Steady) {answer : LoopAnswer Suspension}
    (suspends : facade.requirePumpable = .ok () →
      ∀ suspension, answer.result = .ok suspension → Suspends suspension answer.after) :
    (facade.submit answer).1.Steady ∧ (facade.runUntilSuspended answer).1.Steady := by
  cases ready : facade.requirePumpable with
  | error reason =>
    rw [submit_refused ready, runUntilSuspended_refused ready]
    exact ⟨steady, steady⟩
  | ok =>
    cases result : answer.result with
    | error errorCode =>
      rw [submit_raised steady ready result, runUntilSuspended_raised steady ready result]
      have running : Steady { facade with loop := answer.after, state := .running } :=
        ⟨fun created => (by cases created), fun finished => (by cases finished)⟩
      exact ⟨running, running⟩
    | ok suspension =>
      have obeyed := suspends ready suspension result
      rw [runUntilSuspended_answered steady ready result]
      refine ⟨?_, .parked obeyed⟩
      cases settled : suspension.turn with
      | none =>
        rw [submit_parked steady ready result settled]
        exact .parked obeyed
      | some turn =>
        rw [submit_settled steady ready result settled]
        exact .settled obeyed settled _

theorem step_steady (steady : facade.Steady) {call : Call} (obeys : Obeys facade call)
    (fits : Fits facade call) : (facade.step call).1.Steady := by
  cases call with
  | openRun answer => exact openRun_steady steady obeys fits
  | submit answer => exact (pump_steady steady obeys).1
  | runUntilSuspended answer => exact (pump_steady steady obeys).2
  | close answer => exact close_steady obeys

theorem openRun_legal {answer : LoopAnswer Unit} (opens : Opens facade.loop answer) :
    (∀ src dst, (facade.openRun answer).2 ≠ .error (.illegalSessionTransition src dst)) ↔
      Fits facade (.openRun answer) := by
  cases result : answer.result with
  | error errorCode =>
    rw [openRun_error result]
    simp [Fits, result]
  | ok =>
    obtain ⟨_, live, found, _⟩ := opens.opened result
    rw [openRun_ok result found]
    refine (setState_raises _ _).trans (openRun_fits.trans ?_)
    simp [Fits, result, found]

theorem ended_closes (said : live.outcome = state ∨ state = .failed ∧ live.status = .failed) :
    canTransition state (terminalOutcomeState live.status live.errorCode) = true ↔
      (state = .failed → ∀ other, some live = some other → other.errorCode ≠ "cancelled") := by
  by_cases cancelled : live.errorCode = "cancelled"
  · have outcome : terminalOutcomeState live.status live.errorCode = .cancelled := by
      simp [terminalOutcomeState, cancelled]
    rw [outcome]
    cases said with
    | inl same =>
      have final : state = .cancelled := same.symm.trans outcome
      simp [final, canTransition]
    | inr failed =>
      simp [failed.1, cancelled, canTransition, legalTransitions]
  · have same : live.outcome = state := by
      cases said with
      | inl same => exact same
      | inr failed =>
        simp [LiveSession.outcome, terminalOutcomeState, cancelled, failed.1, failed.2]
    rw [show terminalOutcomeState live.status live.errorCode = state from same]
    simp [canTransition, cancelled]

theorem close_legal (steady : facade.Steady) (closes : Closes facade.loop answer) :
    (∀ src dst, (facade.close answer).2 ≠ .error (.illegalSessionTransition src dst)) ↔
      Fits facade (.close answer) := by
  cases result : answer.result with
  | error errorCode =>
    have fine : ∀ src dst,
        (facade.close answer).2 ≠ .error (.illegalSessionTransition src dst) := by
      simp only [close, result]
      split <;> simp
    simp [Fits, result, fine]
  | ok closed =>
    rw [close_ok result]
    refine (setState_raises _ _).trans ?_
    have fits : Fits facade (.close answer) ↔ (facade.state = .failed →
        ∀ live, facade.loop.session = some live → live.errorCode ≠ "cancelled") := by
      simp [Fits, result]
    rw [fits]
    cases finished : facade.state.isTerminal with
    | false =>
      have legal := canTransition_finalize finished
        (sessionStateFromRunStatus_mem closed.status closed.errorCode)
      have going : facade.state ≠ .failed := by
        intro failed
        rw [failed] at finished
        cases finished
      simp [legal, going]
    | true =>
      cases found : facade.loop.session with
      | none =>
        obtain ⟨errorCode, raised⟩ := closes.unopened found
        rw [result] at raised
        cases raised
      | some live =>
        obtain ⟨terminal, ended, said⟩ := steady.ended finished live found
        obtain ⟨status, errorCode⟩ := closes.recorded live found terminal closed result
        rw [status, errorCode, sessionStateFromRunStatus_outcome _ ended]
        exact ended_closes said

theorem pump_legal (steady : facade.Steady) (answer : LoopAnswer Suspension)
    (src dst : SessionState) :
    (facade.submit answer).2 ≠ .error (.illegalSessionTransition src dst) ∧
      (facade.runUntilSuspended answer).2 ≠ .error (.illegalSessionTransition src dst) := by
  cases ready : facade.requirePumpable with
  | error reason =>
    rw [submit_refused ready, runUntilSuspended_refused ready]
    have other := requirePumpable_legal ready src dst
    simp [other]
  | ok =>
    cases result : answer.result with
    | error errorCode =>
      rw [submit_raised steady ready result, runUntilSuspended_raised steady ready result]
      simp
    | ok suspension =>
      rw [runUntilSuspended_answered steady ready result]
      refine ⟨?_, nofun⟩
      cases settled : suspension.turn with
      | none =>
        rw [submit_parked steady ready result settled]
        simp
      | some turn =>
        rw [submit_settled steady ready result settled]
        nofun

theorem deriveAfterSettle_iff {suspension : Suspension} {turn : AgentTurnResult}
    {after : Activation} {last : Option Suspension} (suspends : Suspends suspension after)
    (carried : suspension.turn = some turn) :
    deriveAfterSettle ⟨after, state, last⟩ turn = stateFromSuspension suspension ↔
      (suspension.reason = .settled → turn.status ≠ .limited) := by
  obtain ⟨turnStatus, turnCode⟩ := suspends.turn turn carried
  cases suspends.settles (by rw [carried]; rfl) with
  | inl settled =>
    have pump : stateFromSuspension suspension = .awaitingInput := by
      simp only [stateFromSuspension, settled]
    rw [pump]
    cases dead : after.session.any (·.terminal) with
    | true =>
      obtain ⟨limited, spent⟩ := suspends.spent turn carried (by rw [settled]; nofun) dead
      rw [deriveAfterSettle_dead dead]
      simp [limited, spent, settled, terminalOutcomeState]
    | false =>
      rw [deriveAfterSettle_going dead]
      by_cases limited : turn.status = .limited <;> simp [limited, settled]
  | inr later =>
    have unsettled : suspension.reason ≠ .settled := by
      cases later with
      | inl limited => rw [limited]; nofun
      | inr terminal => rw [terminal]; nofun
    refine iff_of_true ?_ fun settled => absurd settled unsettled
    cases later with
    | inl limited =>
      have status : turn.status = .limited := turnStatus.trans (suspends.limited limited)
      have pump : stateFromSuspension suspension = .limited := by
        simp only [stateFromSuspension, limited]
      rw [pump]
      cases dead : after.session.any (·.terminal) with
      | true =>
        obtain ⟨_, spent⟩ := suspends.spent turn carried (by rw [limited]; nofun) dead
        rw [deriveAfterSettle_dead dead, status, spent]
        rfl
      | false =>
        rw [deriveAfterSettle_going dead, if_pos status]
    | inr terminal =>
      obtain ⟨_, live, found, ended, _, _⟩ := suspends.terminal terminal
      have dead : after.session.any (·.terminal) = true := by
        rw [found, Option.any_some, ended]
      rw [deriveAfterSettle_dead dead, turnStatus, turnCode unsettled]
      simp only [stateFromSuspension, terminal]

theorem pump_twins (steady : facade.Steady) {answer : LoopAnswer Suspension}
    (suspends : facade.requirePumpable = .ok () →
      ∀ suspension, answer.result = .ok suspension → Suspends suspension answer.after) :
    (∀ suspension, answer.result = .ok suspension → suspension.turn.isSome = true →
      (facade.submit answer).1.state = (facade.runUntilSuspended answer).1.state) ↔
      (facade.requirePumpable = .ok () → ∀ suspension, answer.result = .ok suspension →
        suspension.reason = .settled → ∀ turn, suspension.turn = some turn →
          turn.status ≠ .limited) := by
  cases ready : facade.requirePumpable with
  | error reason =>
    rw [submit_refused ready, runUntilSuspended_refused ready]
    simp
  | ok =>
    have each : ∀ suspension, answer.result = .ok suspension → ∀ turn,
        suspension.turn = some turn →
        ((facade.submit answer).1.state = (facade.runUntilSuspended answer).1.state ↔
          (suspension.reason = .settled → turn.status ≠ .limited)) := by
      intro suspension result turn carried
      rw [submit_settled steady ready result carried,
        runUntilSuspended_answered steady ready result]
      exact deriveAfterSettle_iff (suspends ready suspension result) carried
    constructor
    · intro same _ suspension result settled turn carried
      exact (each suspension result turn carried).1
        (same suspension result (by rw [carried]; rfl)) settled
    · intro fits suspension result present
      obtain ⟨turn, carried⟩ := Option.isSome_iff_exists.1 present
      exact (each suspension result turn carried).2 fun settled =>
        fits rfl suspension result settled turn carried

theorem health_accepts (facade : LoopSession) (pending : Bool)
    (accepts : (facade.health pending).acceptsInput = true) :
    (facade.health pending).alive = true := by
  simp only [health, Bool.and_eq_true] at accepts ⊢
  exact accepts.1

theorem kept_iff (steady : facade.Steady) {call : Call} (obeys : Obeys facade call) :
    Kept facade call ↔ Fits facade call := by
  constructor
  · intro kept
    cases call with
    | openRun answer => exact (openRun_legal obeys).1 kept.legal
    | submit answer => exact (pump_twins steady obeys).1 (kept.twins answer (.inl rfl))
    | runUntilSuspended answer => exact (pump_twins steady obeys).1 (kept.twins answer (.inr rfl))
    | close answer => exact (close_legal steady obeys).1 kept.legal
  · intro fits
    constructor
    case legal =>
      cases call with
      | openRun answer => exact (openRun_legal obeys).2 fits
      | submit answer => exact fun src dst => (pump_legal steady answer src dst).1
      | runUntilSuspended answer => exact fun src dst => (pump_legal steady answer src dst).2
      | close answer => exact (close_legal steady obeys).2 fits
    case twins =>
      intro answer pumped
      cases pumped with
      | inl same =>
        subst same
        exact (pump_twins steady obeys).2 fits
      | inr same =>
        subst same
        exact (pump_twins steady obeys).2 fits
    case healthy => exact fun pending => health_accepts _ pending
    case refused =>
      intro reason refused answer pumped
      cases pumped with
      | inl same =>
        subst same
        exact submit_refused refused answer
      | inr same =>
        subst same
        exact runUntilSuspended_refused refused answer

end Steps

section Runs

theorem facade_kept (loop : Activation) (sound : loop.Sound) (calls : List Call)
    (obeys : (machine loop).Along Obeys (machine loop).init calls) :
    (machine loop).Along Kept (machine loop).init calls ↔
      (machine loop).Along Fits (machine loop).init calls := by
  have preserved : ∀ facade call, facade.Steady → Obeys facade call → Fits facade call →
      ((machine loop).next facade call).Steady :=
    fun _ _ steady obeyed fits => step_steady steady obeyed fits
  exact Library.Machine.along_congr_within LoopSession.Steady preserved
    (fun _ _ steady obeyed => kept_iff steady obeyed) (steady_wrap sound) obeys

def freshLoop : Activation := ⟨none, false⟩

def liveLoop : Activation := ⟨some ⟨false, .completed, "", none⟩, false⟩

def openedCall : Call := .openRun ⟨.ok (), liveLoop⟩

def spentSuspension : Suspension where
  reason := .settled
  status := .limited
  finalText := "done"
  turn := some ⟨.limited, "max_tool_calls_exceeded"⟩

def spentLoop : Activation := ⟨some ⟨true, .limited, "max_tool_calls_exceeded", none⟩, false⟩

def spentAnswer : LoopAnswer Suspension := ⟨.ok spentSuspension, spentLoop⟩

def cancelledLoop : Activation := ⟨some ⟨true, .failed, "cancelled", none⟩, false⟩

def cancelledCalls : List Call :=
  [.openRun ⟨.ok (), cancelledLoop⟩, .close ⟨.ok ⟨.failed, "cancelled"⟩, ⟨none, true⟩⟩]

def settledCalls : List Call :=
  [openedCall,
    .submit ⟨.ok { reason := .settled, status := .completed, turn := some ⟨.completed, ""⟩ },
      liveLoop⟩,
    .close ⟨.ok ⟨.completed, ""⟩, ⟨none, true⟩⟩]

theorem fresh_sound : freshLoop.Sound where
  terminal := fun live found => by cases found
  parked := fun live found => by cases found

theorem opened_obeys {facade : LoopSession} (unopened : facade.loop.session = none)
    {live : LiveSession} (failed : live.terminal = true → live.status = .failed) :
    Obeys facade (.openRun ⟨.ok (), ⟨some live, false⟩⟩) where
  opened := fun _ => ⟨unopened, live, rfl, failed⟩
  refused := fun errorCode raised => by cases raised

theorem spent_suspends : Suspends spentSuspension spentLoop where
  terminal := by decide
  limited := by decide
  turn := fun turn carried => by
    cases carried
    exact ⟨rfl, by decide⟩
  settles := fun _ => .inl rfl
  spent := fun turn carried _ _ => by
    cases carried
    exact ⟨rfl, rfl⟩

theorem closed_obeys {facade : LoopSession} {live : LiveSession}
    (found : facade.loop.session = some live) {result : AgentTurnResult}
    (recorded : live.terminal = true →
      result.status = live.status ∧ result.errorCode = live.errorCode) :
    Obeys facade (.close ⟨.ok result, ⟨none, true⟩⟩) where
  nulls := rfl
  unopened := fun gone => by cases gone.symm.trans found
  finalized := fun _ => rfl
  recorded := fun other same terminal closed returned => by
    cases found.symm.trans same
    cases returned
    exact recorded terminal

theorem facade_kept_settled :
    (machine freshLoop).Along Kept (machine freshLoop).init settledCalls := by
  have submitted : ∀ suspension : Suspension,
      (.ok { reason := .settled, status := .completed, turn := some ⟨.completed, ""⟩ } :
        Except String Suspension) = .ok suspension → Suspends suspension liveLoop := by
    intro suspension answered
    cases answered
    constructor
    case terminal => decide
    case limited => decide
    case turn =>
      intro turn carried
      cases carried
      exact ⟨rfl, by decide⟩
    case settles => decide
    case spent => intro turn carried _ dead; cases dead
  refine (facade_kept freshLoop fresh_sound settledCalls
    ⟨opened_obeys rfl (by decide), fun _ => submitted, closed_obeys rfl (by decide), trivial⟩).2 ?_
  refine ⟨?_, ?_, ?_, trivial⟩
  · intro _ live found
    cases found
    exact .inl rfl
  · intro _ suspension answered _ turn carried
    cases answered
    cases carried
    decide
  · intro result _ failed
    cases failed

theorem facade_parts :
    freshLoop.Sound ∧
    (machine freshLoop).Along Obeys (machine freshLoop).init
      [openedCall, .runUntilSuspended spentAnswer] ∧
    ¬ (machine freshLoop).Along Kept (machine freshLoop).init
      [openedCall, .runUntilSuspended spentAnswer] ∧
    (machine freshLoop).Along Obeys (machine freshLoop).init cancelledCalls ∧
    ¬ (machine freshLoop).Along Kept (machine freshLoop).init cancelledCalls := by
  refine ⟨fresh_sound, ⟨opened_obeys rfl (by decide), ?_, trivial⟩, ?_,
    ⟨opened_obeys rfl fun _ => rfl, closed_obeys rfl fun _ => ⟨rfl, rfl⟩, trivial⟩, ?_⟩
  · intro _ suspension answered
    cases answered
    exact spent_suspends
  · intro along
    have same := along.2.1.twins spentAnswer (.inr rfl) spentSuspension rfl rfl
    revert same
    decide
  · intro along
    exact along.2.1.legal .failed .cancelled (by decide)

end Runs

end MonoidKernel.Lifecycle
