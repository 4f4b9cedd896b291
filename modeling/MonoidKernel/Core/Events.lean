import MonoidKernel.Core.SafeEvidence

set_option autoImplicit false

namespace MonoidKernel

def eventSchemaVersion : String := "monoid.event.v1"

def agentEventTypes : List String := [
  "run.started", "run.finished", "run.failed", "run.waiting", "run.resumed", "run.awaiting_input",
  "session.state.changed", "turn.settled", "checkpoint.committed", "agent.config.updated",
  "model.turn.started", "model.output.delta", "model.reasoning.delta", "model.turn.finished",
  "turn.failed", "turn.interrupted", "turn.paused", "model.input.degraded",
  "tool.call.started", "tool.call.finished", "tool.call.failed", "tool.surface.updated",
  "tool.approval.requested", "tool.approval.approved", "tool.approval.denied",
  "shell.exec.started", "shell.exec.finished", "shell.exec.failed",
  "job.started", "job.output.updated", "job.finished", "job.timed_out", "job.cancelled",
  "job.output_limited", "job.failed",
  "task.started", "task.finished", "task.cancelled", "task.timed_out", "task.failed",
  "subagent.started", "subagent.finished", "subagent.failed", "skill.activated",
  "web.search.started", "web.search.finished", "web.search.failed",
  "web.fetch.started", "web.fetch.finished", "web.fetch.failed",
  "web.context.started", "web.context.finished", "web.context.failed",
  "permission.denied", "capability.requested", "capability.granted", "capability.denied",
  "capability.revoked", "capability.rotated",
  "control.command.received", "control.command.completed", "control.command.failed",
  "outbox.requested", "outbox.dispatched", "outbox.failed",
  "workspace.file.read", "workspace.file.changed", "workspace.diff.updated",
  "workspace.proposal.updated", "proposal.ready", "proposal.package.exported",
  "proposal.approved", "proposal.rejected", "proposal.applied", "proposal.conflict",
  "proposal.stale", "artifact.emitted", "plan.updated", "metrics.updated",
  "output.validator.satisfied", "output.validation.failed", "output.validator.skipped",
  "output.validator.error", "output.validator.exhausted"]

def agentEventLevels : List String := ["debug", "info", "warning", "error"]

def privateDeltaEvents : List String := ["model.output.delta", "model.reasoning.delta"]

structure AgentEvent (Data : Type) where
  schemaVersion : String
  eventId : String
  seq : Nat
  runId : OpaqueId
  timestamp : String
  eventType : String
  level : String
  data : Data
  turnId : Option String
  parentId : Option String
deriving DecidableEq

end MonoidKernel
