import MonoidKernel.Loop.Close

set_option autoImplicit false

namespace MonoidKernel.SessionDrive

open Library AgentLoop

section Data

structure InboxMessage where
  id : String
  content : UserInput
deriving DecidableEq

inductive Item where
  | message (message : InboxMessage)
  | resumeSignal
  | closeSignal
deriving DecidableEq

def queuedMessage : Item → Option InboxMessage
  | .message message => some message
  | .resumeSignal | .closeSignal => none

def queuedMessageSnapshot (queue : List Item) : List InboxMessage := queue.filterMap queuedMessage

inductive Wait where
  | slot (suspension : Suspension)
  | pump
  | tasks (suspension : Suspension)
  | signal
  | backoff
  | message
  | close
  | ended (status : RunStatus)
deriving DecidableEq

def Wait.isEnded : Wait → Bool
  | .ended _ => true
  | _ => false

structure Story where
  enqueued : List InboxMessage
  -- Out of the queue for good: submitted, or dropped as delivered before.
  taken : List InboxMessage
  submitted : List InboxMessage
deriving DecidableEq

structure Session where
  loop : Activation
  hosted : List String
  -- A local job that the run waits for cannot cross a process boundary.
  localJob : Bool
  queue : List Item
  seenInboxIds : List String
  wait : Wait
  consecutiveTurnFailures : Nat
  turns : Nat
  -- What the restored checkpoint said of its park, until the pump has parked again.
  found : Option (Option Suspension)
  story : Story

structure Saved where
  checkpoint : AgentLoop.RunCheckpoint
  hosted : List String
  queuedMessages : List InboxMessage
  inboxSeenIds : List String
  story : Story

structure Directory where
  closed : Bool := false
  failureBundle : Bool := false
  recoverAttempts : Nat := 0
deriving DecidableEq

structure Backend where
  session : Option Session
  saved : Option Saved := none
  directory : Directory := {}
  -- Answered with `queued` while the session is open, in this process or an earlier one.
  owed : List InboxMessage := []
  -- Accepted since the last commit, while the loop refused its snapshot.
  unsaved : List InboxMessage := []
  -- Whether an attempt has returned `CLOSED`, and how many have returned `RESUMED`.
  refused : Bool := false
  resumed : Nat := 0

structure DriveSpec where
  loop : LoopSpec
  multiTurn : Bool
  maxTurns : Nat
  maxConsecutiveTurnFailures : Nat
  maxMessageQueueDepth : Nat
  maxRecoverAttempts : Nat

end Data

section Commits

inductive StoreAnswer where
  | committed
  | failed (kept : Bool)
deriving DecidableEq

def Session.saved (session : Session) (checkpoint : AgentLoop.RunCheckpoint) : Saved where
  checkpoint := checkpoint
  hosted := session.hosted
  queuedMessages := queuedMessageSnapshot session.queue
  inboxSeenIds := session.seenInboxIds
  story := session.story

def Backend.commit (backend : Backend) (saved : Saved) : Backend :=
  { backend with saved := some saved, unsaved := [] }

def Backend.hold (backend : Backend) (session : Session) : Backend :=
  { backend with session := some session }

def Backend.persist (backend : Backend) (session : Session) (store : StoreAnswer) :
    Backend × Bool :=
  if session.localJob then (backend, true)
  else
    match store with
    | .committed => (backend.commit (session.saved (snapshot session.loop)), true)
    | .failed true => (backend.commit (session.saved (snapshot session.loop)), false)
    | .failed false => (backend, false)

def Session.commitAnswer (session : Session) (store : StoreAnswer) : CommitAnswer :=
  if session.localJob then .refused
  else
    match store with
    | .committed => .committed
    | .failed kept => .failed kept

-- A checkpoint that the loop has committed on its way to `after` carries the queue.
def Backend.adopt (backend : Backend) (session : Session) (after : Activation) : Backend :=
  match (after.durable.checkpoints.drop session.loop.durable.checkpoints.length).getLast? with
  | some checkpoint => backend.commit (session.saved checkpoint)
  | none => backend

def Backend.fail (backend : Backend) (session : Session) : Backend :=
  { backend with
    session := some { session with wait := .ended .failed }
    directory := { backend.directory with closed := false, failureBundle := true }
    owed := []
    unsaved := [] }

def Backend.crash (backend : Backend) : Backend := { backend with session := none }

end Commits

section Driving

variable (spec : DriveSpec)

structure DriveScript where
  late : Bool := false
  store : StoreAnswer := .committed
  giveUp : StoreAnswer := .committed
deriving DecidableEq

def sessionShouldStop (session : Session) (script : DriveScript) : Bool :=
  session.loop.cancellation.isSome || script.late || decide (spec.maxTurns ≤ session.turns)

def enter (backend : Backend) (session : Session) (input : Option UserInput) : Backend :=
  match admitEntry spec.loop input session.loop with
  | .error _ => backend.fail session
  | .ok _ =>
    match acceptInput input (leavePark (abandonRecovery spec.loop input session.loop)) with
    | (.error _, after) => backend.fail { session with loop := after }
    | (.ok (), after) => backend.hold { session with loop := after, wait := .pump }

def closing (backend : Backend) (session : Session) : Backend :=
  backend.hold { session with wait := .close }

def parkAt (backend : Backend) (session : Session) (wait : Wait) (store : StoreAnswer) : Backend :=
  match backend.persist session store with
  | (after, true) => after.hold { session with wait := wait }
  | (after, false) => after.fail session

def giveUp (backend : Backend) (session : Session) (suspension : Suspension) (message : String)
    (store : StoreAnswer) : Backend :=
  match failRecoverable (errorCodeOr suspension.error message)
      (errorCodeOr suspension.errorCode "model_error")
      (session.commitAnswer store) session.loop with
  | (.error _, after) => (backend.adopt session after).fail { session with loop := after }
  | (.ok (), after) => closing (backend.adopt session after) { session with loop := after }

def drive (backend : Backend) (session : Session) (suspension : Suspension)
    (script : DriveScript) : Backend :=
  match suspension.reason with
  | .terminal | .limited => closing backend session
  | .awaitingTasks => parkAt backend session (.tasks suspension) script.store
  | .paused =>
    if sessionShouldStop spec session script then closing backend session
    else parkAt backend session .signal script.store
  | .turnFailed =>
    let session :=
      { session with consecutiveTurnFailures := session.consecutiveTurnFailures + 1 }
    if spec.maxConsecutiveTurnFailures ≤ session.consecutiveTurnFailures ∨
        sessionShouldStop spec session script = true then
      giveUp backend session suspension "model turn failed repeatedly" script.giveUp
    else if suspension.retryable then parkAt backend session .backoff script.store
    else if !spec.multiTurn then
      giveUp backend session suspension "model turn failed" script.giveUp
    else parkAt backend session .message script.store
  | .interrupted =>
    if !spec.multiTurn || sessionShouldStop spec session script then closing backend session
    else parkAt backend session .message script.store
  | .settled =>
    let session := { session with consecutiveTurnFailures := 0 }
    if !spec.multiTurn || sessionShouldStop spec session script then closing backend session
    else parkAt backend session .message script.store

def hasPendingTasks (session : Session) : Bool := session.localJob || !session.hosted.isEmpty

def submit (backend : Backend) (session : Session) (message : InboxMessage) (rest : List Item) :
    Backend :=
  enter spec backend
    { session with
      queue := rest
      seenInboxIds :=
        if message.id.isEmpty then session.seenInboxIds else message.id :: session.seenInboxIds
      turns := session.turns + 1
      story := { session.story with
        taken := session.story.taken ++ [message]
        submitted := session.story.submitted ++ [message] } }
    (some message.content)

def isRedelivery (session : Session) (message : InboxMessage) : Bool :=
  !message.id.isEmpty && decide (message.id ∈ session.seenInboxIds)

def takeMessage (backend : Backend) (session : Session) : Item → List Item → Backend
  | .closeSignal, rest => closing backend { session with queue := rest }
  | .resumeSignal, rest => backend.hold { session with queue := rest }
  | .message message, rest =>
    if isRedelivery session message then
      backend.hold { session with
        queue := rest
        story := { session.story with taken := session.story.taken ++ [message] } }
    else submit spec backend session message rest

def takeSignal (backend : Backend) (session : Session) : Item → List Item → Backend
  | .closeSignal, rest => closing backend { session with queue := rest }
  | .resumeSignal, rest => enter spec backend { session with queue := rest } none
  | .message message, rest =>
    enter spec backend { session with queue := rest ++ [.message message] } none

def take (backend : Backend) (session : Session) : Backend :=
  match session.wait, session.queue with
  | .message, item :: rest => takeMessage spec backend session item rest
  | .signal, item :: rest => takeSignal spec backend session item rest
  | _, _ => backend

def idle (backend : Backend) (session : Session) : Backend :=
  match session.wait with
  | .message | .signal => closing backend session
  | _ => backend

def wake (backend : Backend) (session : Session) (ready : Bool) (script : DriveScript) : Backend :=
  match session.wait with
  | .tasks suspension =>
    if sessionShouldStop spec session script then closing backend session
    else if ready || !hasPendingTasks session then enter spec backend session none
    else drive spec backend session suspension script
  | .backoff =>
    if sessionShouldStop spec session script then closing backend session
    else enter spec backend session none
  | _ => backend

end Driving

section Pumping

variable (spec : DriveSpec)

-- What a turn does between two of its waits, as far as the driver or a checkpoint can tell.
inductive PumpEvent where
  | logInput
  | logObservations
  | observe (observations : List ToolObservation)
  | reply (messages : List Message)
  | drop
  | limit (code text : String)
  | tasks (hosted : List String) (localJob : Bool)
  | checkpoint (store : StoreAnswer)

def pumpEvent (backend : Backend) (session : Session) : PumpEvent → Backend
  | .logInput => backend.hold { session with loop := logUserInput session.loop }
  | .logObservations => backend.hold { session with loop := logObservations spec.loop session.loop }
  | .observe observations =>
    backend.hold { session with loop := queueObservations observations session.loop }
  | .reply messages => backend.hold { session with loop := appendMessages messages session.loop }
  | .drop => backend.hold { session with loop := dropObservations session.loop }
  | .limit code text => backend.hold { session with loop := AgentLoop.limit code text session.loop }
  | .tasks hosted localJob =>
    backend.hold { session with hosted := hosted, localJob := localJob }
  | .checkpoint store =>
    match persistCheckpoint none (session.commitAnswer store) session.loop with
    | (.error _, after) => (backend.adopt session after).fail { session with loop := after }
    | (.ok (), after) => (backend.adopt session after).hold { session with loop := after }

inductive PumpEnd where
  | returned (suspension : Suspension)
  | raised (raised : Raised)

def endPump (way : PumpEnd) (script : EntryScript) : Phase Suspension :=
  match way with
  | .returned suspension => conclude script suspension
  | .raised raised => exitRaised spec.loop script raised

def park (backend : Backend) (session : Session) (way : PumpEnd) (projection : Option Raised)
    (store : StoreAnswer) (script : DriveScript) : Backend :=
  match endPump spec way
      { projection := projection, commit := session.commitAnswer store } session.loop with
  | (.error _, after) => (backend.adopt session after).fail { session with loop := after }
  | (.ok suspension, after) =>
    drive spec (backend.adopt session after) { session with loop := after, found := none }
      suspension script

def finish (backend : Backend) (session : Session) (store : StoreAnswer)
    (finalize : Option Raised) : Backend :=
  match close (session.commitAnswer store) finalize session.loop with
  | (.error _, after) => (backend.adopt session after).fail { session with loop := after }
  | (.ok record, after) =>
    let kept := backend.adopt session after
    { kept with
      session := some { session with loop := after, wait := .ended record.status }
      saved := if record.status = .completed then none else kept.saved
      directory := { kept.directory with closed := true }
      owed := []
      unsaved := [] }

end Pumping

section Senders

variable (spec : DriveSpec)

def enqueue (session : Session) (message : InboxMessage) : Session :=
  { session with
    queue := session.queue ++ [.message message]
    story := { session.story with enqueued := session.story.enqueued ++ [message] } }

inductive SendAnswer where
  | unknownRun
  | refused
  | duplicate
  | queued
  -- The message is on the queue, and its sender is told of a failure.
  | failed
deriving DecidableEq

-- `send_message`: the message is on the queue and in a checkpoint before the answer.
def sendMessage (backend : Backend) (message : InboxMessage) (store : StoreAnswer) :
    Backend × SendAnswer :=
  match backend.session with
  | none => (backend, .unknownRun)
  | some session =>
    if isRedelivery session message then (backend, .duplicate)
    else if session.wait.isEnded || decide (spec.maxMessageQueueDepth ≤ session.queue.length) then
      (backend, .refused)
    else
      let session := enqueue session message
      match backend.persist session store with
      | (after, true) =>
        ({ after.hold session with
            owed := after.owed ++ [message]
            unsaved := if session.localJob then after.unsaved ++ [message] else after.unsaved },
          .queued)
      | (after, false) => (after.hold session, .failed)

def stageOutboxAck (session : Session) (message : InboxMessage) : Session :=
  if isRedelivery session message ∨ spec.maxMessageQueueDepth ≤ session.queue.length then session
  else enqueue session message

def drainOutbox (backend : Backend) (session : Session) (receipts : List InboxMessage)
    (store : StoreAnswer) : Backend :=
  let session := receipts.foldl (stageOutboxAck spec) session
  (backend.persist session store).1.hold session

def atQuiescentPark (loop : Activation) : Bool :=
  !loop.session.terminal && loop.session.lastSuspension.isSome

def Wait.isPark : Wait → Bool
  | .tasks _ | .signal | .backoff | .message | .close => true
  | .slot _ | .pump | .ended _ => false

def signalled (backend : Backend) (session : Session) (signal : Item) : Backend :=
  backend.hold { session with queue := session.queue ++ [signal] }

def cancelRun (backend : Backend) (session : Session) (store : StoreAnswer) : Backend :=
  if session.loop.cancellation.isSome then backend
  else
    let session := { session with loop := session.loop.receive { cancel := some .userCancel } }
    if session.wait.isPark && atQuiescentPark session.loop then
      match backend.persist session store with
      | (after, true) => signalled after session .closeSignal
      | (after, false) => after.hold session
    else signalled backend session .closeSignal

end Senders

section Recovery

variable (spec : DriveSpec)

inductive ResumeOutcome where
  | resumed
  | closed
  | alreadyLive
  | failed
deriving DecidableEq

inductive DurableRead where
  | deferred
  | missing
  | invalid
  | readable
deriving DecidableEq

inductive ResumeScript where
  | raised
  -- The record is claimed by somebody else, or admission is quiesced.
  | unclaimed
  | built (crashed : List ToolObservation)
deriving DecidableEq

structure AttemptScript where
  checkpointRead : DurableRead := .readable
  metadataRead : DurableRead := .readable
  resume : ResumeScript := .built []
deriving DecidableEq

def Backend.quarantine (backend : Backend) : Backend :=
  { backend with directory := { backend.directory with failureBundle := true } }

def loadFailed (backend : Backend) (read : DurableRead) : Backend :=
  if read = .invalid then backend.quarantine else backend

def resumeRaised (backend : Backend) : Backend :=
  let attempts := backend.directory.recoverAttempts + 1
  let counted :=
    { backend with directory := { backend.directory with recoverAttempts := attempts } }
  if spec.maxRecoverAttempts ≤ attempts then counted.quarantine else counted

def restoredSuspension (checkpoint : AgentLoop.RunCheckpoint) : Suspension :=
  checkpoint.lastSuspension.getD { reason := .settled, status := .completed }

def restoredSession (saved : Saved) (loop : Activation) : Session where
  loop := loop
  hosted := saved.hosted
  localJob := false
  queue := saved.queuedMessages.map .message
  seenInboxIds := saved.inboxSeenIds
  wait := .slot (restoredSuspension saved.checkpoint)
  consecutiveTurnFailures := 0
  turns := 1
  found := some saved.checkpoint.lastSuspension
  story := saved.story

-- `resume_from_checkpoint`. The journal of the model calls is read inside the pump only.
def resumeFromCheckpoint (backend : Backend) (saved : Saved) (script : ResumeScript) :
    Backend × ResumeOutcome :=
  match script with
  | .raised => (resumeRaised spec backend, .failed)
  | .unclaimed => (backend, .alreadyLive)
  | .built crashed =>
    match restore spec.loop {} saved.checkpoint crashed with
    | none => (resumeRaised spec backend, .failed)
    | some loop =>
      ({ backend with
          session := some (restoredSession saved loop)
          directory := { backend.directory with recoverAttempts := 0 }
          resumed := backend.resumed + 1 },
        .resumed)

def attemptResume (backend : Backend) (script : AttemptScript) : Backend × ResumeOutcome :=
  if backend.directory.closed then ({ backend with refused := true }, .closed)
  else
    match backend.saved, script.checkpointRead with
    | some saved, .readable =>
      if saved.checkpoint.terminal then ({ backend with refused := true }, .closed)
      else if script.metadataRead = .readable then
        resumeFromCheckpoint spec backend saved script.resume
      else (loadFailed backend script.metadataRead, .failed)
    | _, read => (loadFailed backend read, .failed)

def mayAttempt (backend : Backend) : Bool :=
  backend.session.isNone && !backend.directory.failureBundle

def runRecovered (backend : Backend) (session : Session) (suspension : Suspension)
    (script : DriveScript) : Backend :=
  drive spec backend session
    (if hasPendingTasks session then
      { reason := .awaitingTasks, status := .completed, hasExternal := true }
    else suspension) script

end Recovery

section Runs

variable (spec : DriveSpec)

inductive Label where
  | send (message : InboxMessage) (store : StoreAnswer)
  | drainOutbox (receipts : List InboxMessage) (store : StoreAnswer)
  -- A task report, or any other party that commits a checkpoint of the session.
  | persist (store : StoreAnswer)
  | createTask (taskId : String)
  | localJobEnds
  -- A stop or a pause of the turn; also the cancellation by a draining host.
  | arrive (arrivals : Arrivals)
  | signal (signal : Item)
  | cancel (store : StoreAnswer)
  | pump (event : PumpEvent)
  | park (way : PumpEnd) (projection : Option Raised) (store : StoreAnswer) (script : DriveScript)
  | take
  | idle
  | wake (ready : Bool) (script : DriveScript)
  | start (script : DriveScript)
  | finish (store : StoreAnswer) (finalize : Option Raised)
  | raise
  | crash
  | recover (script : AttemptScript)

inductive Answer where
  | sent (answer : SendAnswer)
  | attempted (outcome : ResumeOutcome)
  | silent
deriving DecidableEq

def sessionStep (backend : Backend) (session : Session) : Label → Backend
  | .drainOutbox receipts store => drainOutbox spec backend session receipts store
  | .persist store => (backend.persist session store).1
  | .createTask taskId => backend.hold { session with hosted := session.hosted ++ [taskId] }
  | .localJobEnds => backend.hold { session with localJob := false }
  | .arrive arrivals => backend.hold { session with loop := session.loop.receive arrivals }
  | .signal signal =>
    if (queuedMessage signal).isNone then signalled backend session signal else backend
  | .cancel store => cancelRun backend session store
  | .pump event => if session.wait = .pump then pumpEvent spec backend session event else backend
  | .park way projection store script =>
    if session.wait = .pump then park spec backend session way projection store script else backend
  | .take => take spec backend session
  | .idle => idle backend session
  | .wake ready script => wake spec backend session ready script
  | .start script =>
    match session.wait with
    | .slot suspension => runRecovered spec backend session suspension script
    | _ => backend
  | .finish store finalize =>
    if session.wait = .close then finish backend session store finalize else backend
  | .raise => backend.fail session
  | _ => backend

def next (backend : Backend) (label : Label) : Backend × Answer :=
  match label with
  | .send message store =>
    let (after, answer) := sendMessage spec backend message store
    (after, .sent answer)
  | .crash => (backend.crash, .silent)
  | .recover script =>
    if mayAttempt backend then
      let (after, outcome) := attemptResume spec backend script
      (after, .attempted outcome)
    else (backend, .silent)
  | label =>
    match backend.session with
    | some session =>
      if session.wait.isEnded then (backend, .silent)
      else (sessionStep spec backend session label, .silent)
    | none => (backend, .silent)

def openedSession (instruction : UserInput) : Session where
  loop := { state.pendingUserInput := some instruction }
  hosted := []
  localJob := false
  queue := []
  seenInboxIds := []
  wait := .pump
  consecutiveTurnFailures := 0
  turns := 1
  found := none
  story :=
    let first := ⟨"", instruction⟩
    { enqueued := [first], taken := [first], submitted := [first] }

def session (instruction : UserInput) : Machine Backend Label Answer where
  init := { session := some (openedSession instruction) }
  step := next spec

end Runs

end MonoidKernel.SessionDrive
