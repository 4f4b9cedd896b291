import MonoidKernel.Core.Outcome
import MonoidKernel.Library.Machine

set_option autoImplicit false

namespace MonoidKernel.SyncBridge

open Library

variable {V E : Type}

inductive Outcome (V E : Type) where
  -- `None` is the value that is not handed back.
  | value (produced : Option V)
  | raised (error : E)
  | cancelled
deriving DecidableEq

inductive Exit (V E : Type) where
  | returned (produced : Option V)
  | failed (error : E)
  | calleeCancelled
  | boundary (error : E)
  | runCancelled (interruptionCause : InterruptionCause)
  | runTimeout
  | refused (error : E)
  | callerCancelled
deriving DecidableEq

inductive CallKind where
  | native | worker
deriving DecidableEq

structure Call (E : Type) where
  kind : CallKind
  hooked : Bool
  hasToken : Bool
  hasDeadline : Bool
  -- A future holds a `RuntimeError` in place of `StopIteration`.
  settable : E → E

inductive Awaiter (V E : Type) where
  | entering
  | waiting
  | cleaning (exit : Exit V E)
  | finished (exit : Exit V E)
deriving DecidableEq

structure Bridge (V E : Type) where
  awaiter : Awaiter V E := .entering
  -- The outcome that the future awaited holds.
  task : Option (Outcome V E) := none
  retrieved : Bool := false
  outcome : Option (Outcome V E) := none
  settled : Bool := false
  -- `cancelled`, resolved with the cause that the token holds.
  cancelled : Option (Option InterruptionCause) := none
  -- A cancellation of the awaiting task that its next step throws.
  cancelRequested : Bool := false
  callerCancellations : Nat := 0
  -- `detach_unfinished_call` left its callback on the future.
  doneCallback : Bool := false
  handedBack : List V := []
  -- The boundary that was observable when the wait ended.
  observed : Option E := none
deriving DecidableEq

def handBackDiscarded (call : Call E) (produced : Option V) (bridge : Bridge V E) : Bridge V E :=
  match produced with
  | none => bridge
  | some value =>
    if call.hooked then { bridge with handedBack := bridge.handedBack ++ [value] } else bridge

def Outcome.produced : Outcome V E → Option V
  | .value produced => produced
  | .raised _ => none
  | .cancelled => none

def discards (call : Call E) (outcome : Outcome V E) : List V :=
  if call.hooked then outcome.produced.toList else []

@[simp] theorem handBackDiscarded_spec (call : Call E) (outcome : Outcome V E)
    (bridge : Bridge V E) :
    handBackDiscarded call outcome.produced bridge =
      { bridge with handedBack := bridge.handedBack ++ discards call outcome } := by
  unfold handBackDiscarded discards
  cases outcome.produced with
  | none => simp
  | some value => cases call.hooked <;> simp

def consumeAndHandBack (call : Call E) (outcome : Outcome V E) (bridge : Bridge V E) :
    Bridge V E :=
  handBackDiscarded call outcome.produced { bridge with retrieved := true }

def Outcome.settable (call : Call E) : Outcome V E → Outcome V E
  | .raised error => .raised (call.settable error)
  | outcome => outcome

def deliver (call : Call E) (outcome : Outcome V E) (bridge : Bridge V E) : Bridge V E :=
  let settled := { bridge with settled := true }
  if bridge.task.isSome then handBackDiscarded call outcome.produced settled
  else { settled with task := some (outcome.settable call) }

-- `detach_unfinished_call` up to its wait: the future of a worker is cancelled at once.
def detachUnfinishedCall (call : Call E) (exit : Exit V E) (bridge : Bridge V E) : Bridge V E :=
  match call.kind with
  | .native => { bridge with awaiter := .cleaning exit }
  | .worker => { bridge with awaiter := .cleaning exit, task := some .cancelled }

def detached (call : Call E) (exit : Exit V E) (bridge : Bridge V E) : Bridge V E :=
  if bridge.cancelRequested then
    { bridge with
      awaiter := .finished .callerCancelled
      cancelRequested := false
      callerCancellations := bridge.callerCancellations + 1 }
  else
    let finished := { bridge with awaiter := .finished exit }
    match bridge.task with
    | some outcome => consumeAndHandBack call outcome finished
    | none => { finished with doneCallback := true }

def cleanup (call : Call E) (exit : Exit V E) (outcomeConsumed : Bool) (bridge : Bridge V E) :
    Bridge V E :=
  match bridge.task with
  | none => detachUnfinishedCall call exit bridge
  | some outcome =>
    let finished := { bridge with awaiter := .finished exit }
    if outcomeConsumed then finished else consumeAndHandBack call outcome finished

def enter (call : Call E) (failure : Option E) (bridge : Bridge V E) : Bridge V E :=
  match failure with
  | some error => cleanup call (.refused error) false bridge
  | none => { bridge with awaiter := .waiting }

def answerOf : Outcome V E → Exit V E
  | .value produced => .returned produced
  | .raised error => .failed error
  | .cancelled => .calleeCancelled

-- `await_abandonable_call` from its wait on, where `boundary` is what `check_boundary` raises.
def waited (call : Call E) (boundary : Option E) (bridge : Bridge V E) : Bridge V E :=
  let bridge := { bridge with observed := boundary }
  if bridge.cancelRequested then
    cleanup call .callerCancelled false { bridge with
      cancelRequested := false
      callerCancellations := bridge.callerCancellations + 1 }
  else
    match boundary, bridge.task with
    | some error, some outcome =>
      if call.hooked then
        cleanup call (.boundary error) true (consumeAndHandBack call outcome bridge)
      else cleanup call (.boundary error) false bridge
    | some error, none => cleanup call (.boundary error) false bridge
    | none, some outcome =>
      cleanup call (answerOf outcome) true { bridge with retrieved := true }
    | none, none =>
      match bridge.cancelled with
      | some cause => cleanup call (.runCancelled (cause.getD .userCancel)) false bridge
      | none => cleanup call .runTimeout false bridge

def watchedDone (call : Call E) (bridge : Bridge V E) : Bool :=
  match call.kind with
  | .native => bridge.task.isSome
  | .worker => bridge.settled

def awake (call : Call E) (timedOut : Bool) (boundary : Option E) (bridge : Bridge V E) :
    Bridge V E :=
  match bridge.awaiter with
  | .waiting =>
    if bridge.cancelRequested || bridge.task.isSome || bridge.cancelled.isSome ||
        (call.hasDeadline && timedOut) then waited call boundary bridge
    else bridge
  | .cleaning exit =>
    if bridge.cancelRequested || watchedDone call bridge || timedOut then detached call exit bridge
    else bridge
  | _ => bridge

inductive BridgeLabel (V E : Type) where
  | enter (failure : Option E)
  | awake (timedOut : Bool) (boundary : Option E)
  | settle (outcome : Outcome V E)
  | workerEnds (outcome : Outcome V E)
  | deliver
  | cancelToken (cause : Option InterruptionCause)
  | cancelAwaiter
  | doneCallback
deriving DecidableEq

def nextBridge (call : Call E) (bridge : Bridge V E) : BridgeLabel V E → Bridge V E
  | .enter failure =>
    match bridge.awaiter with
    | .entering => enter call failure bridge
    | _ => bridge
  | .awake timedOut boundary => awake call timedOut boundary bridge
  | .settle outcome =>
    match call.kind, bridge.task with
    | .native, none => { bridge with task := some outcome }
    | _, _ => bridge
  | .workerEnds outcome =>
    match call.kind, bridge.outcome with
    | .worker, none => { bridge with outcome := some outcome }
    | _, _ => bridge
  | .deliver =>
    match bridge.outcome with
    | some outcome => if bridge.settled then bridge else deliver call outcome bridge
    | none => bridge
  | .cancelToken cause =>
    if call.hasToken && bridge.cancelled.isNone then { bridge with cancelled := some cause }
    else bridge
  | .cancelAwaiter =>
    match bridge.awaiter with
    | .finished _ => bridge
    | _ => { bridge with cancelRequested := true }
  | .doneCallback =>
    match bridge.task with
    | some outcome =>
      if bridge.doneCallback then
        consumeAndHandBack call outcome { bridge with doneCallback := false }
      else bridge
    | none => bridge

def awaitAbandonableCall (call : Call E) : Machine (Bridge V E) (BridgeLabel V E) Unit where
  init := {}
  step bridge label := (nextBridge call bridge label, ())

end MonoidKernel.SyncBridge
