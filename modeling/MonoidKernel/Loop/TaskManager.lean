import MonoidKernel.Library.Machine
import MonoidKernel.Library.OrderedDict

set_option autoImplicit false

-- Translated from TaskManager and its executors in tasks.py.
namespace MonoidKernel.Tasks

open Library

variable {R : Type}

section Tasks

inductive Executor where
  | hosted | subagent | shell
deriving DecidableEq

def Executor.inProcess : Executor → Bool
  | .hosted => false
  | .subagent => true
  | .shell => true

structure Task (R : Type) where
  executor : Executor
  status : String
  resumeOnExit : Bool
  finishedAt : Option Nat
  result : Option R
  readyForReentry : Bool
deriving DecidableEq

def Task.finished (task : Task R) : Bool := task.finishedAt.isSome

structure Wording (R : Type) where
  cancelled : Executor → String → R
  failed : String → R

variable (wording : Wording R)

def Task.applyResult (task : Task R) (now : Nat) (status : String) (result : R) : Task R :=
  { task with status := status, finishedAt := some now, result := some result }

def Task.setCancelledResult (task : Task R) (id : String) : Task R :=
  { task with
    status := if task.status = "running" then "cancelled" else task.status
    result := task.result.or (some (wording.cancelled task.executor id)) }

def Task.cancel (task : Task R) (id : String) (live : Bool) (now : Nat) : Task R :=
  if task.status = "running" then
    match task.executor with
    | .hosted =>
      { task with
        status := "cancelled"
        finishedAt := some now
        result := some (wording.cancelled .hosted id) }
    | .shell => if live then { task with status := "cancelled" } else task
    -- A live coroutine is only told to stop, and ends as cancelled on its own.
    | .subagent =>
      if live then task else { task.setCancelledResult wording id with finishedAt := some now }
  else task

inductive Completion (R : Type) where
  | returned (result : R) (failed : Bool)
  | cancelled
  | raised
  | exited (status : String)
  | stopped (status : String)
  -- An exception while a shell job is monitored.
  | crashed

def Task.complete (task : Task R) (id : String) (now : Nat) : Completion R → Task R
  | .returned result failed =>
    { task with
      status := if failed then "failed" else if task.status = "running" then
        "answered" else task.status
      finishedAt := some now
      result := some result }
  | .cancelled => { task.setCancelledResult wording id with finishedAt := some now }
  | .raised =>
    { task with
      status := "failed"
      finishedAt := some now
      result := task.result.or (some (wording.failed id)) }
  | .exited status =>
    { task with
      status := if task.status = "running" then status else task.status
      finishedAt := task.finishedAt.or (some now) }
  | .stopped status =>
    { task with status := status, finishedAt := task.finishedAt.or (some now) }
  | .crashed => { task with status := "failed", finishedAt := some now }

def Completion.fits : Completion R → Executor → Bool
  | .returned _ _, .subagent | .cancelled, .subagent | .raised, .subagent => true
  | .exited _, .shell | .stopped _, .shell | .crashed, .shell => true
  | _, _ => false

end Tasks

section Manager

structure Observation (R : Type) where
  jobId : String
  status : String
  result : Option R
deriving DecidableEq

structure TaskManager (R : Type) where
  jobs : OrderedDict String (Task R)
  reentryQueue : List String
  deliveredReentryJobs : List String

def TaskManager.fresh : TaskManager R := ⟨.empty, [], []⟩

def alreadyReported (task : Task R) : Bool := task.readyForReentry || task.finishedAt.isSome

def TaskManager.markReady (manager : TaskManager R) (id : String) : TaskManager R :=
  match manager.jobs.get? id with
  | none => manager
  | some job =>
    if job.readyForReentry then manager
    else
      { manager with
        jobs := manager.jobs.set id { job with readyForReentry := true }
        reentryQueue :=
          if job.resumeOnExit then manager.reentryQueue ++ [id] else manager.reentryQueue }

def shouldMarkReady (job : Task R) : Bool :=
  !job.executor.inProcess && job.status != "running" && job.finishedAt.isSome &&
    !job.readyForReentry

def TaskManager.unqueued (manager : TaskManager R) : List String :=
  (manager.jobs.entries.filter fun entry =>
    entry.2.resumeOnExit && entry.2.readyForReentry &&
      !manager.deliveredReentryJobs.contains entry.1 &&
      !manager.reentryQueue.contains entry.1).map (·.1)

def TaskManager.reentryIds (manager : TaskManager R) : List String :=
  (manager.reentryQueue ++ manager.unqueued).eraseDups

def observation (id : String) (job : Task R) : Observation R := ⟨id, job.status, job.result⟩

def TaskManager.popReentryObservations (manager : TaskManager R) :
    TaskManager R × List (Observation R) :=
  let known := manager.reentryIds.filter fun id => (manager.jobs.get? id).isSome
  ({ manager with
      reentryQueue := []
      deliveredReentryJobs := manager.deliveredReentryJobs ++ known },
    manager.reentryIds.filterMap fun id => (manager.jobs.get? id).map (observation id))

end Manager

section Checkpoints

structure HostedTaskCheckpoint (R : Type) where
  taskId : String
  executor : Executor
  status : String
  finishedAt : Option Nat
  resumeOnExit : Bool
  result : Option R
  readyForReentry : Bool

def checkpointJson (id : String) (task : Task R) : HostedTaskCheckpoint R where
  taskId := id
  executor := task.executor
  status := task.status
  finishedAt := task.finishedAt
  resumeOnExit := task.resumeOnExit
  result := task.result
  readyForReentry := task.readyForReentry

def fromCheckpoint (payload : HostedTaskCheckpoint R) : Task R where
  executor := payload.executor
  status := payload.status
  resumeOnExit := payload.resumeOnExit
  finishedAt := payload.finishedAt
  result := payload.result
  readyForReentry := payload.readyForReentry

structure CheckpointPayload (R : Type) where
  hostedTasks : List (HostedTaskCheckpoint R)
  reentryQueue : List String
  deliveredReentryJobs : List String

def TaskManager.checkpointPayload (manager : TaskManager R) : CheckpointPayload R where
  hostedTasks :=
    (manager.jobs.entries.filter fun entry => entry.2.executor ≠ .shell).map fun entry =>
      checkpointJson entry.1 entry.2
  reentryQueue := manager.reentryQueue
  deliveredReentryJobs := manager.deliveredReentryJobs

def restoreState (payload : CheckpointPayload R) : TaskManager R where
  jobs := payload.hostedTasks.foldl
    (fun jobs task => jobs.set task.taskId (fromCheckpoint task)) .empty
  reentryQueue := payload.reentryQueue
  deliveredReentryJobs := payload.deliveredReentryJobs

end Checkpoints

section System

inductive Call (R : Type) where
  | reporting (id status : String) (result : R)
  | cancelling (id : String)
  | cancelled (id : String)
  | publishing (id : String)

structure Accepted (R : Type) where
  observation : Observation R
  resume : Bool
deriving DecidableEq

def Accepted.id (accepted : Accepted R) : String := accepted.observation.jobId

-- The manager with the history of its run: the ends that were accepted and the observations that
-- were popped.
structure Core (R : Type) where
  manager : TaskManager R
  accepted : List (Accepted R)
  popped : List (Observation R)

-- A process with the calls under way in it, the tasks whose coroutines live in it, and the
-- checkpoints that were committed.
structure System (R : Type) where
  core : Core R
  calls : List (Call R)
  live : List String
  saved : List (Core R)

inductive Label (R : Type) where
  | start (id : String) (executor : Executor) (resume : Bool)
  | report (id status : String) (result : R)
  | cancel (id : String)
  | advance (index now : Nat)
  | complete (id : String) (now : Nat) (completion : Completion R)
  | pop
  | checkpoint
  | restore (index : Nat)

inductive Answer (R : Type) where
  | none
  | duplicate (status : String)
  | observations (popped : List (Observation R))

def Core.write (core : Core R) (id : String) (job written : Task R) : Core R :=
  { core with
    manager := { core.manager with jobs := core.manager.jobs.set id written }
    accepted :=
      if written.finished && !job.finished then
        core.accepted ++ [⟨observation id written, written.resumeOnExit⟩]
      else core.accepted }

def newTask (executor : Executor) (resume : Bool) : Task R :=
  ⟨executor, "running", resume, none, none, false⟩

def Core.unused (core : Core R) (id : String) : Bool :=
  (core.manager.jobs.get? id).isNone && !core.manager.reentryQueue.contains id &&
    !core.manager.deliveredReentryJobs.contains id && !(core.accepted.map Accepted.id).contains id

def System.start (s : System R) (id : String) (executor : Executor) (resume : Bool) : System R :=
  if s.core.unused id then
    { s with
      core := s.core.write id (newTask executor resume) (newTask executor resume)
      live := if executor.inProcess then id :: s.live else s.live }
  else s

def System.report (s : System R) (id status : String) (result : R) : System R × Answer R :=
  match s.core.manager.jobs.get? id with
  | none => (s, .none)
  | some job =>
    if alreadyReported job then (s, .duplicate job.status)
    else ({ s with calls := s.calls ++ [.reporting id status result] }, .none)

def System.cancel (s : System R) (id : String) : System R :=
  match s.core.manager.jobs.get? id with
  | none => s
  | some _ => { s with calls := s.calls ++ [.cancelling id] }

variable (wording : Wording R)

def System.nextSection (s : System R) (call : Call R) (now : Nat) : Core R × Option (Call R) :=
  match call with
  | .reporting id status result =>
    match s.core.manager.jobs.get? id with
    | none => (s.core, none)
    | some job => (s.core.write id job (job.applyResult now status result), some (.publishing id))
  | .cancelling id =>
    match s.core.manager.jobs.get? id with
    | none => (s.core, none)
    | some job =>
      let live := s.live.contains id
      let cancelled := job.cancel wording id live now
      -- A child run without a coroutine is published by its executor.
      let next := if job.executor = .subagent ∧ job.status = "running" ∧ live = false then
        Call.publishing id else .cancelled id
      (s.core.write id job cancelled, some next)
  | .cancelled id =>
    match s.core.manager.jobs.get? id with
    | none => (s.core, none)
    | some job => (s.core, if shouldMarkReady job then some (.publishing id) else none)
  | .publishing id => ({ s.core with manager := s.core.manager.markReady id }, none)

def System.advance (s : System R) (index now : Nat) : System R :=
  match s.calls[index]? with
  | none => s
  | some call =>
    let (core, left) := s.nextSection wording call now
    { s with core := core, calls := s.calls.eraseIdx index ++ left.toList }

def System.complete (s : System R) (id : String) (now : Nat) (completion : Completion R) :
    System R :=
  match s.core.manager.jobs.get? id with
  | none => s
  | some job =>
    if s.live.contains id && completion.fits job.executor then
      { s with
        core := s.core.write id job (job.complete wording id now completion)
        calls := s.calls ++ [.publishing id]
        live := s.live.filter (· ≠ id) }
    else s

def Core.pop (core : Core R) : Core R × List (Observation R) :=
  let (manager, observations) := core.manager.popReentryObservations
  ({ core with manager := manager, popped := core.popped ++ observations }, observations)

def System.restore (s : System R) (index : Nat) : System R :=
  match s.saved[index]? with
  | none => s
  | some core =>
    { s with
      core := { core with manager := restoreState core.manager.checkpointPayload }
      calls := []
      live := [] }

def taskSystem : Machine (System R) (Label R) (Answer R) where
  init := ⟨⟨.fresh, [], []⟩, [], [], []⟩
  step s
    | .start id executor resume => (s.start id executor resume, .none)
    | .report id status result => s.report id status result
    | .cancel id => (s.cancel id, .none)
    | .advance index now => (s.advance wording index now, .none)
    | .complete id now completion => (s.complete wording id now completion, .none)
    | .pop =>
      let (core, observations) := s.core.pop
      ({ s with core := core }, .observations observations)
    | .checkpoint => ({ s with saved := s.saved ++ [s.core] }, .none)
    | .restore index => (s.restore index, .none)

end System

end MonoidKernel.Tasks
