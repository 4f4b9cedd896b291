import MonoidKernel.Library.Machine
import MonoidKernel.Loop.State

set_option autoImplicit false

namespace MonoidKernel.Lifecycle

open AgentLoop (RunStatus SuspensionReason)

section States

inductive SessionState where
  | created | idle | running | awaitingInput | awaitingTasks | paused | interrupted | turnFailed
  | limited | cancelled | failed | completed
deriving DecidableEq, Repr

structure AgentTurnResult where
  status : RunStatus
  errorCode : String
deriving DecidableEq, Repr

structure Suspension extends AgentLoop.Suspension where
  turn : Option AgentTurnResult := none
deriving DecidableEq

def terminalOutcomeState (status : RunStatus) (errorCode : String) : SessionState :=
  if errorCode = "cancelled" then .cancelled
  else if status = .limited then .limited
  else .failed

def stateFromSuspension (suspension : Suspension) : SessionState :=
  match suspension.reason with
  | .terminal => terminalOutcomeState suspension.status suspension.errorCode
  | .settled => .awaitingInput
  | .awaitingTasks => .awaitingTasks
  | .limited => .limited
  | .paused => .paused
  | .interrupted => .interrupted
  | .turnFailed => .turnFailed

-- `session_state_from_run_status`, of the three statuses that the result of a run has.
def sessionStateFromRunStatus (status : RunStatus) (errorCode : String) : SessionState :=
  if errorCode = "cancelled" ∧ (status = .limited ∨ status = .failed) then .cancelled
  else
    match status with
    | .completed => .completed
    | .failed => .failed
    | .limited => .limited

def liveFinalize : List SessionState := [.completed, .failed, .cancelled, .limited]

def legalTransitions : SessionState → List SessionState
  | .created => .idle :: liveFinalize
  | .idle => .running :: liveFinalize
  | .running =>
    [.awaitingInput, .awaitingTasks, .paused, .interrupted, .turnFailed, .limited] ++ liveFinalize
  | .awaitingInput => .running :: liveFinalize
  | .awaitingTasks => .running :: liveFinalize
  | .paused => .running :: liveFinalize
  | .interrupted => .running :: .awaitingInput :: liveFinalize
  | .turnFailed => .running :: liveFinalize
  | .limited => .running :: liveFinalize
  | .cancelled => []
  | .failed => []
  | .completed => []

def canTransition (src dst : SessionState) : Bool :=
  src == dst || (legalTransitions src).contains dst

def SessionState.isTerminal : SessionState → Bool
  | .cancelled | .failed | .completed => true
  | _ => false

def canAcceptInput : SessionState → Bool
  | .idle | .awaitingInput | .interrupted | .turnFailed | .limited | .paused => true
  | _ => false

theorem canTransition_finalize {src dst : SessionState} (live : src.isTerminal = false)
    (final : dst ∈ liveFinalize) : canTransition src dst = true := by
  cases src <;> cases dst <;>
    first | rfl | simp [SessionState.isTerminal, liveFinalize] at live final

theorem canTransition_running {src : SessionState} (live : src.isTerminal = false)
    (opened : src ≠ .created) : canTransition src .running = true := by
  cases src <;> first | rfl | simp [SessionState.isTerminal] at live opened

theorem terminalOutcomeState_mem (status : RunStatus) (errorCode : String) :
    terminalOutcomeState status errorCode ∈ liveFinalize := by
  unfold terminalOutcomeState
  split
  · decide
  · split <;> decide

theorem sessionStateFromRunStatus_mem (status : RunStatus) (errorCode : String) :
    sessionStateFromRunStatus status errorCode ∈ liveFinalize := by
  unfold sessionStateFromRunStatus
  split
  · decide
  · cases status <;> decide

theorem sessionStateFromRunStatus_outcome {status : RunStatus} (errorCode : String)
    (ended : status ≠ .completed) :
    sessionStateFromRunStatus status errorCode = terminalOutcomeState status errorCode := by
  unfold sessionStateFromRunStatus terminalOutcomeState
  by_cases cancel : errorCode = "cancelled"
  · cases status <;> simp_all
  · cases status <;> simp_all

theorem canTransition_suspension (suspension : Suspension) :
    canTransition .running (stateFromSuspension suspension) = true := by
  unfold stateFromSuspension
  split
  · exact canTransition_finalize rfl (terminalOutcomeState_mem _ _)
  all_goals rfl

end States

section Facade

structure LiveSession where
  terminal : Bool
  status : RunStatus
  errorCode : String
  lastSuspension : Option Suspension := none
deriving DecidableEq

structure Activation where
  session : Option LiveSession
  finalized : Bool
deriving DecidableEq

def LiveSession.outcome (live : LiveSession) : SessionState :=
  terminalOutcomeState live.status live.errorCode

structure LoopSession where
  loop : Activation
  state : SessionState := .created
  lastSuspension : Option Suspension := none
deriving DecidableEq

structure LoopAnswer (α : Type) where
  result : Except String α
  after : Activation
deriving DecidableEq

inductive Raised where
  | loop (errorCode : String)
  | runNotOpen
  | runTerminal
  | turnNotSettled (suspension : Suspension)
  | illegalSessionTransition (src dst : SessionState)
deriving DecidableEq

namespace LoopSession

def wrap (loop : Activation) : LoopSession :=
  match loop.session with
  | none => { loop }
  | some live =>
    if live.terminal then { loop, state := live.outcome }
    else
      match live.lastSuspension with
      | some suspension =>
        { loop, state := stateFromSuspension suspension, lastSuspension := some suspension }
      | none => { loop, state := .idle }

def setState (facade : LoopSession) (dst : SessionState) : LoopSession × Except Raised Unit :=
  if canTransition facade.state dst then ({ facade with state := dst }, .ok ())
  else (facade, .error (.illegalSessionTransition facade.state dst))

def deriveAfterSettle (facade : LoopSession) (turn : AgentTurnResult) : SessionState :=
  if facade.loop.session.any (·.terminal) then terminalOutcomeState turn.status turn.errorCode
  else if turn.status = .limited then .limited
  else .awaitingInput

def loopIsDead (facade : LoopSession) : Bool :=
  match facade.loop.session with
  | none => facade.loop.finalized
  | some live => live.terminal

def requirePumpable (facade : LoopSession) : Except Raised Unit :=
  match facade.loop.session with
  | none => .error .runNotOpen
  | some live => if live.terminal then .error .runTerminal else .ok ()

def openRun (facade : LoopSession) (answer : LoopAnswer Unit) : LoopSession × Except Raised Unit :=
  let facade := { facade with loop := answer.after }
  match answer.result with
  | .error errorCode => (facade, .error (.loop errorCode))
  | .ok () => facade.setState (if facade.loop.session.any (·.terminal) then .failed else .idle)

def park (facade : LoopSession) (suspension : Suspension) : LoopSession × Except Raised Unit :=
  { facade with lastSuspension := some suspension }.setState (stateFromSuspension suspension)

def submit (facade : LoopSession) (answer : LoopAnswer Suspension) :
    LoopSession × Except Raised Unit :=
  match facade.requirePumpable with
  | .error refused => (facade, .error refused)
  | .ok () =>
    match facade.setState .running with
    | (facade, .error illegal) => (facade, .error illegal)
    | (facade, .ok ()) =>
      let facade := { facade with loop := answer.after }
      match answer.result with
      | .error errorCode => (facade, .error (.loop errorCode))
      | .ok suspension =>
        match suspension.turn with
        | some turn => facade.setState (facade.deriveAfterSettle turn)
        | none =>
          match facade.park suspension with
          | (facade, .error illegal) => (facade, .error illegal)
          | (facade, .ok ()) => (facade, .error (.turnNotSettled suspension))

def runUntilSuspended (facade : LoopSession) (answer : LoopAnswer Suspension) :
    LoopSession × Except Raised Unit :=
  match facade.requirePumpable with
  | .error refused => (facade, .error refused)
  | .ok () =>
    match facade.setState .running with
    | (facade, .error illegal) => (facade, .error illegal)
    | (facade, .ok ()) =>
      let facade := { facade with loop := answer.after }
      match answer.result with
      | .error errorCode => (facade, .error (.loop errorCode))
      | .ok suspension => facade.park suspension

def close (facade : LoopSession) (answer : LoopAnswer AgentTurnResult) :
    LoopSession × Except Raised Unit :=
  let facade := { facade with loop := answer.after }
  match answer.result with
  | .error errorCode =>
    if facade.loopIsDead && canTransition facade.state .failed then
      ({ facade with state := .failed }, .error (.loop errorCode))
    else (facade, .error (.loop errorCode))
  | .ok result => facade.setState (sessionStateFromRunStatus result.status result.errorCode)

structure SessionHealth where
  state : SessionState
  alive : Bool
  acceptsInput : Bool
  hasPendingTasks : Bool
deriving DecidableEq, Repr

def health (facade : LoopSession) (pendingTasks : Bool) : SessionHealth where
  state := facade.state
  alive := !facade.loopIsDead
  acceptsInput := !facade.loopIsDead && canAcceptInput facade.state
  hasPendingTasks := facade.loop.session.isSome && pendingTasks

end LoopSession

inductive Call where
  | openRun (answer : LoopAnswer Unit)
  | submit (answer : LoopAnswer Suspension)
  | runUntilSuspended (answer : LoopAnswer Suspension)
  | close (answer : LoopAnswer AgentTurnResult)
deriving DecidableEq

def LoopSession.step (facade : LoopSession) : Call → LoopSession × Except Raised Unit
  | .openRun answer => facade.openRun answer
  | .submit answer => facade.submit answer
  | .runUntilSuspended answer => facade.runUntilSuspended answer
  | .close answer => facade.close answer

open Library in
def machine (loop : Activation) : Machine LoopSession Call (Except Raised Unit) where
  init := .wrap loop
  step := LoopSession.step

end Facade

section Contract

-- A loop that a facade can be put over: a terminal run did not complete, and the last park of a run
-- that goes on was not a terminal one.
structure Activation.Sound (loop : Activation) : Prop where
  terminal : ∀ live, loop.session = some live → live.terminal = true → live.status ≠ .completed
  parked : ∀ live, loop.session = some live → live.terminal = false →
    ∀ suspension, live.lastSuspension = some suspension → suspension.reason ≠ .terminal

structure Opens (before : Activation) (answer : LoopAnswer Unit) : Prop where
  opened : answer.result = .ok () → before.session = none ∧
    ∃ live, answer.after.session = some live ∧ (live.terminal = true → live.status = .failed)
  refused : ∀ errorCode, answer.result = .error errorCode →
    answer.after.session = before.session ∨ answer.after.session = none

structure Suspends (suspension : Suspension) (after : Activation) : Prop where
  terminal : suspension.reason = .terminal → suspension.status ≠ .completed ∧
    ∃ live, after.session = some live ∧ live.terminal = true ∧
      live.status = suspension.status ∧ live.errorCode = suspension.errorCode
  limited : suspension.reason = .limited → suspension.status = .limited
  -- The turn is read off the same run state as the suspension that carries it.
  turn : ∀ turn, suspension.turn = some turn → turn.status = suspension.status ∧
    (suspension.reason ≠ .settled → turn.errorCode = suspension.errorCode)
  settles : suspension.turn.isSome = true →
    suspension.reason = .settled ∨ suspension.reason = .limited ∨ suspension.reason = .terminal
  -- The budget of tool calls is the one limit that ends a run without a terminal park.
  spent : ∀ turn, suspension.turn = some turn → suspension.reason ≠ .terminal →
    after.session.any (·.terminal) = true →
    turn.status = .limited ∧ turn.errorCode = "max_tool_calls_exceeded"

structure Closes (before : Activation) (answer : LoopAnswer AgentTurnResult) : Prop where
  nulls : answer.after.session = none
  unopened : before.session = none → ∃ errorCode, answer.result = .error errorCode
  finalized : before.session ≠ none → answer.after.finalized = true
  recorded : ∀ live, before.session = some live → live.terminal = true →
    ∀ result, answer.result = .ok result →
      result.status = live.status ∧ result.errorCode = live.errorCode

-- The loop is asked only where the facade lets the call through. Submit and resume may raise and
-- leave anything.
def Obeys (facade : LoopSession) : Call → Prop
  | .openRun answer => Opens facade.loop answer
  | .submit answer | .runUntilSuspended answer =>
    facade.requirePumpable = .ok () →
      ∀ suspension, answer.result = .ok suspension → Suspends suspension answer.after
  | .close answer => Closes facade.loop answer

structure Kept (facade : LoopSession) (call : Call) : Prop where
  legal : ∀ src dst, (facade.step call).2 ≠ .error (.illegalSessionTransition src dst)
  twins : ∀ answer, call = .submit answer ∨ call = .runUntilSuspended answer →
    ∀ suspension, answer.result = .ok suspension → suspension.turn.isSome = true →
      (facade.submit answer).1.state = (facade.runUntilSuspended answer).1.state
  healthy : ∀ pending, ((facade.step call).1.health pending).acceptsInput = true →
    ((facade.step call).1.health pending).alive = true
  refused : ∀ reason, facade.requirePumpable = .error reason →
    ∀ answer, call = .submit answer ∨ call = .runUntilSuspended answer →
      facade.step call = (facade, .error reason)

-- No loop is opened under a facade that has left its first states, no run that opened as failed
-- under the code of a cancellation is closed, and no limited turn comes under the reason "settled".
def Fits (facade : LoopSession) : Call → Prop
  | .openRun answer => answer.result = .ok () → ∀ live, answer.after.session = some live →
    if live.terminal then facade.state ≠ .cancelled ∧ facade.state ≠ .completed
    else facade.state = .created ∨ facade.state = .idle
  | .submit answer | .runUntilSuspended answer => facade.requirePumpable = .ok () →
    ∀ suspension, answer.result = .ok suspension → suspension.reason = .settled →
      ∀ turn, suspension.turn = some turn → turn.status ≠ .limited
  | .close answer => ∀ result, answer.result = .ok result → facade.state = .failed →
    ∀ live, facade.loop.session = some live → live.errorCode ≠ "cancelled"

end Contract

end MonoidKernel.Lifecycle
