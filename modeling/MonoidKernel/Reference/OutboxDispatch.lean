import MonoidKernel.Core.Outbox
import MonoidKernel.Library.Machine

set_option autoImplicit false

namespace MonoidKernel.Outgoing

open Library

variable {T P : Type}

section Loop

structure OutboxReceipt where
  ok : Bool
  reference : String := ""
  error : String := ""
  retryable : Bool := false
deriving DecidableEq

inductive OutboxEvent where
  | requested (requestId destination capability traceparent : String)
  | dispatched (requestId destination reference : String) (attempts : Nat) (traceparent : String)
  | failed (requestId destination reason : String) (attempts : Nat) (traceparent : String)
deriving DecidableEq

def OutboxEvent.settlement : OutboxEvent → Option (String × OutboxStatus)
  | .requested .. => none
  | .dispatched requestId .. => some (requestId, .dispatched)
  | .failed requestId .. => some (requestId, .failed)

structure OutboxLoop (T P : Type) where
  outbox : Outbox T P
  sessionOpen : Bool
  events : List OutboxEvent

def OutboxLoop.emit (loop : OutboxLoop T P) (event : OutboxEvent) : List OutboxEvent :=
  if loop.sessionOpen then loop.events ++ [event] else loop.events

def settles (request : OutboxRequest T P) (receipt : OutboxReceipt) (maxAttempts : Int) : Bool :=
  receipt.ok || !(receipt.retryable && decide ((request.attempts + 1 : Nat) < maxAttempts))

def OutboxLoop.recordOutboxResult (loop : OutboxLoop T P) (requestId : String)
    (receipt : OutboxReceipt) (maxAttempts : Int) (nextAttemptAt : Option T) :
    Option OutboxStatus × OutboxLoop T P :=
  match loop.outbox.get requestId with
  | none => (none, loop)
  | some request =>
    let attempts := request.attempts + 1
    if receipt.ok then
      (some .dispatched, { loop with
        outbox := loop.outbox.mark requestId {
          status := .dispatched
          attempts := some attempts
          reference := receipt.reference }
        events := loop.emit (.dispatched requestId request.destination receipt.reference attempts
          request.traceparent) })
    else if receipt.retryable ∧ (attempts : Int) < maxAttempts then
      (some .pending, { loop with
        outbox := loop.outbox.mark requestId {
          status := .pending
          attempts := some attempts
          nextAttemptAt
          error := receipt.error } })
    else
      (some .failed, { loop with
        outbox := loop.outbox.mark requestId {
          status := .failed
          attempts := some attempts
          error := receipt.error }
        events := loop.emit (.failed requestId request.destination receipt.error attempts
          request.traceparent) })

structure Emission (T P : Type) where
  destination : String
  payload : P
  capability : String
  tokenRef : String
  runId : String
  idempotencyKey : String
  expectAck : Bool
  replyTo : String
  traceparent : String
  createdAt : T
  -- Twelve hexadecimal digits of a new UUID.
  drawn : String

def Emission.request [Zero T] (emission : Emission T P) : OutboxRequest T P where
  destination := emission.destination
  payload := emission.payload
  capability := emission.capability
  tokenRef := emission.tokenRef
  runId := emission.runId
  id := "outbox_" ++ emission.drawn
  idempotencyKey := emission.idempotencyKey
  correlationId := ""
  causationId := ""
  expectAck := emission.expectAck
  replyTo := emission.replyTo
  traceparent := emission.traceparent
  tracestate := ""
  createdAt := emission.createdAt
  status := .pending
  attempts := 0
  nextAttemptAt := 0
  reference := ""
  error := ""

def OutboxLoop.emitOutbox [Zero T] (loop : OutboxLoop T P) (emission : Emission T P) :
    OutboxLoop T P :=
  let request := emission.request
  { loop with
    outbox := loop.outbox.append request
    events := loop.emit (.requested request.id request.destination request.capability
      request.traceparent) }

def OutboxLoop.stampTrace (loop : OutboxLoop T P) (requestId traceparent : String) :
    OutboxLoop T P :=
  { loop with
    outbox := loop.outbox.modify requestId (fun request =>
      { request with traceparent := orElse request.traceparent traceparent }) fun _ => rfl }

end Loop

section Service

structure AckMessage where
  id : String
  runId : String
  correlationId : String
  causationId : String
  traceparent : String
  tracestate : String
deriving DecidableEq

inductive InboxEntry where
  | ack (message : AckMessage)
  | other (id : String)
deriving DecidableEq

def InboxEntry.id : InboxEntry → String
  | .ack message => message.id
  | .other id => id

inductive Happening (T : Type) where
  | staged (requestId : String)
  | selected (now : T) (requestIds : List String)
  | recorded (requestId : String) (before after : OutboxStatus) (maxAttempts : Int)
      (nextAttemptAt : Option T)
  | acked (requestId : String)
deriving DecidableEq

structure DispatchState (T P : Type) where
  loop : OutboxLoop T P
  -- The drains under way, each with the requests that it has still to send.
  drains : List (List String)
  queue : List InboxEntry
  seenInboxIds : List String
  recordTerminal : Bool
  log : List (Happening T)

def DispatchState.record (state : DispatchState T P) (requestId : String)
    (receipt : OutboxReceipt) (maxAttempts : Int) (nextAttemptAt : Option T) :
    Option OutboxStatus × DispatchState T P :=
  let recorded := state.loop.recordOutboxResult requestId receipt maxAttempts nextAttemptAt
  let log := match state.loop.outbox.get requestId, recorded.1 with
    | some request, some after =>
      state.log ++ [.recorded requestId request.status after maxAttempts nextAttemptAt]
    | _, _ => state.log
  (recorded.1, { state with
    loop := recorded.2
    log })

def DispatchState.stageOutboxAck (state : DispatchState T P) (maxMessageQueueDepth : Nat)
    (request : OutboxRequest T P) : DispatchState T P :=
  let ackId := "ack_" ++ request.id
  if state.recordTerminal then state
  else if ackId ∈ state.seenInboxIds ∨ maxMessageQueueDepth ≤ state.queue.length then state
  else
    { state with
      queue := state.queue ++ [.ack {
        id := ackId
        runId := request.runId
        correlationId := orElse request.correlationId request.id
        causationId := request.id
        traceparent := request.traceparent
        tracestate := request.tracestate }]
      log := state.log ++ [.acked request.id] }

def DispatchState.concludeSend (state : DispatchState T P) (maxMessageQueueDepth : Nat)
    (requestId : String) (receipt : OutboxReceipt) (maxAttempts : Int) (nextAttemptAt : T) :
    DispatchState T P :=
  let (status, recorded) := state.record requestId receipt maxAttempts (some nextAttemptAt)
  match recorded.loop.outbox.get requestId with
  | none => recorded
  | some request =>
    if request.expectAck ∧ (status = some .dispatched ∨ status = some .failed) then
      recorded.stageOutboxAck maxMessageQueueDepth request
    else recorded

def DispatchState.sendNext (state : DispatchState T P) (maxMessageQueueDepth drain : Nat)
    (receipt : OutboxReceipt) (maxAttempts : Int) (nextAttemptAt : T) (traceparent : String) :
    DispatchState T P :=
  match state.drains[drain]? with
  | some (requestId :: rest) =>
    { state with
      drains := state.drains.set drain rest
      loop := state.loop.stampTrace requestId traceparent }.concludeSend maxMessageQueueDepth
        requestId receipt maxAttempts nextAttemptAt
  | _ => state

inductive DispatchLabel (T P : Type) where
  | stage (emission : Emission T P)
  | select (now : T)
  -- A sender that raises is a retryable failure; the schedule is `now` and the backoff.
  | send (drain : Nat) (receipt : OutboxReceipt) (maxAttempts : Int) (nextAttemptAt : T)
      (traceparent : String)
  -- The lease is lost during a drain.
  | abandon (drain : Nat)
  | record (requestId : String) (receipt : OutboxReceipt) (maxAttempts : Int)
      (nextAttemptAt : Option T)
  | restore (draw : Nat → String)
  | arrive (id : String)
  | take
  | terminate
  | closeSession

variable [LinearOrder T] [Zero T] [Inhabited P]

def DispatchState.restore (state : DispatchState T P) (draw : Nat → String) :
    DispatchState T P :=
  match Outbox.empty.importAll draw state.loop.outbox.export with
  | .error _ => state
  | .ok outbox =>
    { state with
      loop := { state.loop with
        outbox
        sessionOpen := true }
      drains := [] }

def nextDispatch (maxMessageQueueDepth : Nat) (state : DispatchState T P) :
    DispatchLabel T P → DispatchState T P
  | .stage emission =>
    -- A UUID is not drawn twice.
    if (state.loop.outbox.get emission.request.id).isSome then state
    else
      { state with
        loop := state.loop.emitOutbox emission
        log := state.log ++ [.staged emission.request.id] }
  | .select now =>
    let due := (state.loop.outbox.due now).map (·.id)
    { state with
      drains := state.drains ++ [due]
      log := state.log ++ [.selected now due] }
  | .send drain receipt maxAttempts nextAttemptAt traceparent =>
    state.sendNext maxMessageQueueDepth drain receipt maxAttempts nextAttemptAt traceparent
  | .abandon drain => { state with drains := state.drains.set drain [] }
  | .record requestId receipt maxAttempts nextAttemptAt =>
    (state.record requestId receipt maxAttempts nextAttemptAt).2
  | .restore draw => state.restore draw
  | .arrive id => { state with queue := state.queue ++ [.other id] }
  | .take =>
    match state.queue with
    | [] => state
    | entry :: rest =>
      { state with
        queue := rest
        seenInboxIds := state.seenInboxIds ++ [entry.id] }
  | .terminate => { state with recordTerminal := true }
  | .closeSession => { state with loop := { state.loop with sessionOpen := false } }

def dispatch (maxMessageQueueDepth : Nat) :
    Machine (DispatchState T P) (DispatchLabel T P) Unit where
  init :=
    { loop := ⟨Outbox.empty, true, []⟩
      drains := []
      queue := []
      seenInboxIds := []
      recordTerminal := false
      log := [] }
  step state label := (nextDispatch maxMessageQueueDepth state label, ())

end Service

end MonoidKernel.Outgoing
