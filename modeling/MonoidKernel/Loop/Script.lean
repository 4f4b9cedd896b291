import MonoidKernel.Loop.Checkpoint

set_option autoImplicit false

namespace MonoidKernel.AgentLoop

structure Arrivals where
  cancel : Option InterruptionCause := none
  stop : Bool := false
  pause : Bool := false
  deadlinePassed : Bool := false
deriving DecidableEq

inductive RecoveryAnswer where
  | found
  | evidenceUncommitted
  | failed (raised : Raised)
deriving DecidableEq

inductive ProviderAnswer where
  -- Settled, with its required evidence committed or not.
  | settled (call : SettledCall) (evidenceCommitted : Bool)
  | failed (raised : Raised) (billed : Usage) (unsettled : Option DispatchState)
  | lost (settled : Option SettledCall)
deriving DecidableEq

structure CallScript where
  recovery : RecoveryAnswer := .found
  -- Signals between the probe of the journal and the dispatch.
  probed : Arrivals := {}
  -- Whether a recovered refusal is within the kernel's retry plan.
  retriesRefusal : Bool := false
  provider : ProviderAnswer
deriving DecidableEq

structure ToolAnswer where
  before : Arrivals := {}
  -- The binding whose quota the call counts against.
  counted : Option String := none
  finish : Option String := none
  outcome : Except Raised String
  after : Arrivals := {}

structure ReplayAnswer where
  counted : Option String := none
  outcome : Except Raised (Option String)

inductive Verdict where
  | satisfied
  | unsatisfied (feedback : String)
  | defect (message : String)
deriving DecidableEq

structure SettleScript where
  verdict : Verdict := .satisfied
  decided : Arrivals := {}
deriving DecidableEq

structure TaskScript where
  resumeJobs : Bool := false
  externalTaskIds : List String := []
deriving DecidableEq

structure StepScript where
  start : Arrivals := {}
  background : List ToolObservation := []
  granted : List Replay := []
  approved : List Replay := []
  -- What the catalog and the surface, the context providers, and the media resolver raise.
  surface : Option Raised := none
  capabilityReplays : List ReplayAnswer := []
  approvalReplays : List (CommitAnswer × ReplayAnswer) := []
  context : Option Raised := none
  deltaLimit : Option String := none
  resolver : Option Raised := none
  wireLimit : Option String := none
  call : CallScript
  called : Arrivals := {}
  tools : List ToolAnswer := []
  tasks : TaskScript := {}
  settle : SettleScript := {}

structure RecoveredScript where
  recovery : RecoveryAnswer := .found
  billed : Arrivals := {}
  -- Whether the private result fails its checks.
  corrupt : Bool := false
  tasks : TaskScript := {}
  settle : SettleScript := {}

structure EntryScript where
  input : Option UserInput := none
  recovered : RecoveredScript := {}
  steps : List StepScript := []
  projection : Option Raised := none
  commit : CommitAnswer := .committed

end MonoidKernel.AgentLoop
