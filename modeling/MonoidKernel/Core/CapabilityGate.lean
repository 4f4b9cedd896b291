import MonoidKernel.Core.Capability
import MonoidKernel.Library.Machine

set_option autoImplicit false

-- Translated from AgentLoop._ensure_capability_lease.
namespace MonoidKernel.Capability

open Library
open MonoidKernel.Scopes

section Revocation

structure Revocation where
  capability : Option String
  leaseId : Option String
  before : Option Rat

structure RevocationSummary where
  capabilities : List String
  leaseId : String
  revokedBefore : Rat

def applyCapabilityRevocation (state : RevocationState) (revocation : Revocation) :
    RevocationState × RevocationSummary :=
  let (revokedCaps, state) : List String × RevocationState :=
    match revocation.capability with
    | none | some "" => ([], state)
    | some "*" => (["*"], { state with allRevoked := true })
    | some capability =>
      ([capability], { state with capabilities := state.capabilities.insert capability })
  let state : RevocationState :=
    match revocation.leaseId with
    | none | some "" => state
    | some leaseId => { state with leaseIds := state.leaseIds.insert leaseId }
  let state : RevocationState :=
    match revocation.before with
    | none => state
    | some before => { state with before := max state.before before }
  (state, ⟨revokedCaps, revocation.leaseId.getD "", state.before⟩)

def isCapabilityRevoked (state : RevocationState) (capability : String) : Bool :=
  state.allRevoked || state.capabilities.contains capability

structure ExportedRevocations where
  revokedLeaseIds : List String
  revokedCapabilities : List String
  revokedBefore : Rat
  revokedAll : Bool

def exportRevocationState (state : RevocationState) : ExportedRevocations :=
  let capabilities := state.capabilities.insertionSort (· ≤ ·)
  { revokedLeaseIds := state.leaseIds.insertionSort (· ≤ ·)
    revokedCapabilities :=
      if state.allRevoked ∧ "*" ∉ capabilities then "*" :: capabilities else capabilities
    revokedBefore := state.before
    revokedAll := state.allRevoked }

def importRevocationState (state : RevocationState) (exported : ExportedRevocations) :
    RevocationState :=
  let everything := exported.revokedAll || exported.revokedCapabilities.contains "*"
  let imported := exported.revokedCapabilities.filter (· ≠ "*")
  { leaseIds := state.leaseIds ∪ exported.revokedLeaseIds
    capabilities := state.capabilities ∪ imported
    before := max state.before exported.revokedBefore
    allRevoked := state.allRevoked || everything }

end Revocation

section Vault

def CapabilityVault.empty : CapabilityVault := ⟨∅, ⟨[], [], 0, false⟩⟩

def revoke (vault : CapabilityVault) (revocation : Revocation) : CapabilityVault :=
  { vault with revocations := (applyCapabilityRevocation vault.revocations revocation).1 }

def install (vault : CapabilityVault) (lease : CapabilityLease) : CapabilityVault :=
  { vault with leases := vault.leases.insert lease.capability lease }

def importRevocations (vault : CapabilityVault) (exported : ExportedRevocations) :
    CapabilityVault :=
  { vault with revocations := importRevocationState vault.revocations exported }

def exportDurable (vault : CapabilityVault) : List CapabilityLease :=
  (vault.leases.entries.map (·.2)).filter (·.durable)

def restoreVault (durable : List CapabilityLease) (exported : ExportedRevocations) :
    CapabilityVault :=
  importRevocations (durable.foldl install .empty) exported

def tokenFor (vault : CapabilityVault) (capability : String) (now : Rat) : Option String :=
  match vault.leases.lookup capability with
  | none => none
  | some lease =>
    if !lease.isValid now || isLeaseRevoked vault.revocations lease then none
    else some lease.tokenRef

def CapabilityLease.canRotate (lease : CapabilityLease) (now skew : Rat) : Bool :=
  if !lease.isValid now || now < lease.expiresAt - skew then false
  else
    match lease.maxExpiresAt with
    | none => true
    | some ceiling => now < ceiling

end Vault

section Tool

-- What the gate reads of a bound tool: `binding.scope.to_json()` and `binding.runtime` are JSON
-- objects, and a capability that the tool does not declare is empty.
structure BoundTool where
  bindingId : String
  capability : String
  scope : Scope
  runtime : Scope

inductive GateFault where
  -- `int(value)` on something that is no integer.
  | notAnInteger (value : Value)
  | scope (fault : ScopeFault)
  | broker (text : String)

def truthy : Value → Bool
  | .null => false
  | .bool value => value
  | .number value => decide (value ≠ 0)
  | .text text => decide (text ≠ "")
  | .array items => !items.isEmpty
  | .object entries => !entries.isEmpty

def toInt (parseInt : String → Option Int) : Value → Except GateFault Int
  | .bool value => .ok (if value then 1 else 0)
  | .number value => .ok (value.num.tdiv value.den)
  | .text text =>
    match parseInt text with
    | some number => .ok number
    | none => .error (.notAnInteger (.text text))
  | value => .error (.notAnInteger value)

def declared (scope : Scope) : Scope where
  entries := scope.entries.filter fun entry => truthy entry.2
  nodupKeys := scope.nodupKeys.sublist List.filter_sublist

def setDefault (scope : Scope) (key : String) (value : Value) : Scope :=
  if fresh : key ∈ scope then scope
  else
    { entries := scope.entries ++ [⟨key, value⟩]
      nodupKeys := by
        let added : Sigma fun _ : String => Value := ⟨key, value⟩
        have apart : ([added] ++ scope.entries).NodupKeys :=
          List.nodupKeys_cons.mpr ⟨fresh, scope.nodupKeys⟩
        exact (List.perm_nodupKeys List.perm_append_comm).mp apart }

def webRuntime (runtime : Scope) (key : String) : Option Value :=
  match runtime.lookup "web" with
  | none => runtime.lookup key
  | some (.object entries) => entries.lookup key
  | some _ => none

-- The first of two keys that the runtime carries, as an integer that is at least `least`.
def webCap (parseInt : String → Option Int) (runtime : Scope) (key other : String)
    (default least : Int) : Except GateFault Value := do
  let value := ((webRuntime runtime key).or (webRuntime runtime other)).getD
    (.number (default : Rat))
  let number ← toInt parseInt value
  .ok (.number (max least number : Int))

def capabilityScopeForTool (parseInt : String → Option Int) (tool : BoundTool) :
    Except GateFault Scope := do
  let scope := declared tool.scope
  let cap := webCap parseInt tool.runtime
  match tool.capability with
  | "web.search" =>
    let scope := setDefault scope "binding_id" (.text tool.bindingId)
    let scope := setDefault scope "max_calls" (← cap "max_calls" "max_search_calls" 20 0)
    .ok (setDefault scope "max_results" (← cap "max_results" "max_results" 10 1))
  | "web.fetch" =>
    let scope := setDefault scope "binding_id" (.text tool.bindingId)
    let scope := setDefault scope "max_calls" (← cap "max_calls" "max_fetch_calls" 50 0)
    let scope := setDefault scope "max_bytes" (← cap "max_response_bytes" "max_bytes" 1000000 1)
    .ok (setDefault scope "timeout_s" (← cap "max_timeout_s" "timeout_s" 60 1))
  | "web.context" =>
    let scope := setDefault scope "binding_id" (.text tool.bindingId)
    let scope := setDefault scope "max_calls" (← cap "max_calls" "max_context_calls" 10 0)
    let scope :=
      setDefault scope "max_tokens" (← cap "max_context_tokens" "max_tokens" 32768 1)
    let scope := setDefault scope "max_urls" (← cap "max_context_urls" "max_urls" 20 1)
    .ok (setDefault scope "max_snippets" (← cap "max_context_snippets" "max_snippets" 256 1))
  | _ => .ok scope

end Tool

section Broker

inductive CapabilityGrant where
  | lease (lease : CapabilityLease)
  | denial (reason : String) (retryable : Bool)
  | pending (prompt : String)

inductive BrokerAnswer where
  | grant (grant : CapabilityGrant)
  | raised (text : String)

-- An answer of the broker, with the revocations that another thread files while the broker decides.
structure BrokerReply where
  answer : BrokerAnswer
  meanwhile : List Revocation

def BrokerReply.after (reply : BrokerReply) (vault : CapabilityVault) : CapabilityVault :=
  reply.meanwhile.foldl revoke vault

abbrev CapabilityBroker := CapabilityRequest → BrokerReply

end Broker

section Gate

structure GateEvent where
  kind : String
  level : String
  data : List (String × Value)

def GateEvent.warning (kind : String) (data : List (String × Value)) : GateEvent :=
  ⟨kind, "warning", data⟩

def GateEvent.info (kind : String) (data : List (String × Value)) : GateEvent :=
  ⟨kind, "info", data⟩

def scopeValue (scope : Scope) : Value :=
  .object (scope.entries.map fun entry => (entry.1, entry.2))

structure GatedCall where
  callName : String
  callId : String
  arguments : List (String × Value)
  approvedToolApproval : Option (List (String × Value))

structure CapabilityTask where
  taskId : String
  request : CapabilityRequest
  prompt : String
  replay : GatedCall

structure CapabilityReplay where
  call : GatedCall
  bindingId : String
  capability : String
  taskId : String

structure GateState where
  vault : CapabilityVault
  tasks : List CapabilityTask
  pendingCapabilityReplays : List CapabilityReplay
  events : List GateEvent

structure GateConfig where
  runId : String
  capabilityRotateSkewSeconds : Rat
  capabilityAutoRedispatch : Bool

inductive GateOutcome where
  | proceed
  | pending (content : List (String × Value))
  | denied (message errorCode : String)
  | raised (fault : GateFault)

structure GateReading where
  now : Rat
  requestId : String
  taskId : String
  named : requestId ≠ ""

def GateState.emit (s : GateState) (event : GateEvent) : GateState :=
  { s with events := s.events ++ [event] }

@[simp] theorem GateState.emit_vault (s : GateState) (event : GateEvent) :
    (s.emit event).vault = s.vault := rfl

variable (rules : TextRules) (parseInt : String → Option Int) (config : GateConfig)

def gateRequest (capability : String) (named : capability ≠ "") (scope : Scope)
    (bindingId reason : String) (reading : GateReading) : CapabilityRequest where
  capability := capability
  scope := scope
  runId := config.runId
  bindingId := bindingId
  ttlSeconds := 600
  reason := reason
  requestId := reading.requestId
  named := ⟨named, reading.named⟩
  timed := defaultTtl_pos

@[simp] theorem gateRequest_capability (capability : String) (named : capability ≠ "")
    (scope : Scope) (bindingId reason : String) (reading : GateReading) :
    (gateRequest config capability named scope bindingId reason reading).capability = capability :=
  rfl

@[simp] theorem gateRequest_scope (capability : String) (named : capability ≠ "") (scope : Scope)
    (bindingId reason : String) (reading : GateReading) :
    (gateRequest config capability named scope bindingId reason reading).scope = scope := rfl

def gateReason (tool : BoundTool) : String :=
  let reason := (tool.runtime.lookup "capability_reason").getD .null
  if truthy reason then String.ofList (rules.str reason) else ""

-- The lease that a rotation stores: what the current lease says of its durability and its ceiling
-- is kept.
def rotatedLease (current grant : CapabilityLease) : CapabilityLease :=
  { grant with
    durable := current.durable
    maxExpiresAt := current.maxExpiresAt
    expiresAt :=
      match current.maxExpiresAt with
      | none => grant.expiresAt
      | some ceiling => min grant.expiresAt ceiling }

def rotateCapabilityLease (broker : CapabilityBroker) (current : CapabilityLease)
    (request : CapabilityRequest) (s : GateState) : GateOutcome × GateState :=
  let reply := broker request
  let s := { s with vault := reply.after s.vault }
  match reply.answer with
  | .raised text => (.raised (.broker text), s)
  | .grant (.lease grant) =>
    let rotated := rotatedLease current grant
    match admitLease rules s.vault request rotated with
    | .error (.scope fault) => (.raised (.scope fault), s)
    | .error (.refused _ _) => (.proceed, s)
    | .ok (vault, _) =>
      (.proceed, { s with vault := vault }.emit (.info "capability.rotated"
        [("capability", .text request.capability), ("old_lease_id", .text current.leaseId),
          ("new_lease_id", .text rotated.leaseId), ("expires_at", .number rotated.expiresAt)]))
  | .grant _ => (.proceed, s)

def pendingContent (request : CapabilityRequest) (taskId : String) : List (String × Value) :=
  let tail :=
    if config.capabilityAutoRedispatch then
      "Once it is granted it will run automatically; you do not need to retry."
    else "Do not repeat other work for it; once it is granted, retry this tool."
  [("status", .text "pending_capability"), ("capability", .text request.capability),
    ("request_id", .text request.requestId), ("task_id", .text taskId),
    ("message", .text ("Access to '" ++ request.capability ++ "' is pending approval (task " ++
      taskId ++ "). " ++ tail))]

def requestCapabilityLease (broker : CapabilityBroker) (request : CapabilityRequest)
    (call : GatedCall) (reading : GateReading) (s : GateState) : GateOutcome × GateState :=
  let s := s.emit (.info "capability.requested"
    [("capability", .text request.capability), ("binding_id", .text request.bindingId),
      ("request_id", .text request.requestId), ("scope", scopeValue request.scope),
      ("reason", .text request.reason)])
  let reply := broker request
  let s := { s with vault := reply.after s.vault }
  match reply.answer with
  | .raised text => (.raised (.broker text), s)
  | .grant (.denial reason retryable) =>
    (.denied ("capability denied: " ++ request.capability ++ ": " ++ reason) "capability_denied",
      s.emit (.warning "capability.denied"
        [("capability", .text request.capability), ("binding_id", .text request.bindingId),
          ("reason", .text reason), ("retryable", .bool retryable)]))
  | .grant (.pending prompt) =>
    (.pending (pendingContent config request reading.taskId),
      { s with tasks := s.tasks ++ [⟨reading.taskId, request, prompt, call⟩] })
  | .grant (.lease lease) =>
    match admitLease rules s.vault request lease with
    | .error (.scope fault) => (.raised (.scope fault), s)
    | .error (.refused _ detail) =>
      (.denied ("capability grant rejected: " ++ detail) "capability_scope_widened",
        s.emit (.warning "capability.denied"
          [("capability", .text request.capability), ("binding_id", .text request.bindingId),
            ("reason", .text detail)]))
    | .ok (vault, lease) =>
      (.proceed, { s with vault := vault }.emit (.info "capability.granted"
        [("capability", .text request.capability), ("binding_id", .text request.bindingId),
          ("lease_id", .text lease.leaseId), ("expires_at", .number lease.expiresAt),
          ("scope", scopeValue lease.scope)]))

def ensureCapabilityLease (tool : BoundTool) (broker : Option CapabilityBroker) (call : GatedCall)
    (reading : GateReading) (s : GateState) : GateOutcome × GateState :=
  let leaseRequirement := (tool.runtime.lookup "requires_lease").getD .null
  if !truthy leaseRequirement then (.proceed, s)
  else if named : tool.capability = "" then
    (.denied ("tool binding " ++ rules.repr tool.bindingId ++ " requires a capability lease, " ++
      "but its tool declares no capability") "capability_required", s)
  else
    match broker with
    | none =>
      if leaseRequirement = .text "optional" then (.proceed, s)
      else
        (.denied ("capability broker required for " ++ tool.capability)
            "capability_broker_required",
          s.emit (.warning "capability.denied"
            [("capability", .text tool.capability), ("binding_id", .text tool.bindingId),
              ("reason", .text "capability broker required"), ("retryable", .bool false)]))
    | some broker =>
      match capabilityScopeForTool parseInt tool with
      | .error fault => (.raised fault, s)
      | .ok scope =>
        if isCapabilityRevoked s.vault.revocations tool.capability then
          (.denied ("capability revoked: " ++ tool.capability) "capability_revoked",
            s.emit (.warning "capability.revoked"
              [("capability", .text tool.capability), ("scope", scopeValue scope),
                ("reason", .text "revoked")]))
        else
          match getValid rules s.vault tool.capability scope reading.now with
          | .error fault => (.raised (.scope fault), s)
          | .ok (some cached) =>
            let skew := config.capabilityRotateSkewSeconds
            if 0 < skew ∧ cached.canRotate reading.now skew then
              rotateCapabilityLease rules broker cached
                (gateRequest config tool.capability named scope tool.bindingId "" reading) s
            else (.proceed, s)
          | .ok none =>
            requestCapabilityLease rules config broker
              (gateRequest config tool.capability named scope tool.bindingId
                (gateReason rules tool) reading) call reading s

-- A result is reported for a task: the lease that it carries, if any, is decoded and admitted for
-- the request of the task.
def admitCapabilityGrant (task : CapabilityTask) (lease : Option CapabilityLease)
    (requestId : String) (named : requestId ≠ "") (s : GateState) : Except ScopeFault GateState :=
  match lease with
  | none => .ok s
  | some lease =>
    let request : CapabilityRequest :=
      { task.request with
        runId := config.runId, ttlSeconds := 600, reason := "", requestId := requestId
        named := ⟨task.request.named.1, named⟩, timed := defaultTtl_pos }
    match admitLease rules s.vault request { lease with durable := true } with
    | .error (.scope fault) => .error fault
    | .error (.refused _ detail) =>
      .ok (s.emit (.warning "capability.denied"
        [("capability", .text request.capability), ("binding_id", .text request.bindingId),
          ("reason", .text detail)]))
    | .ok (vault, lease) =>
      let s := { s with vault := vault }.emit (.info "capability.granted"
        [("capability", .text request.capability), ("binding_id", .text request.bindingId),
          ("lease_id", .text lease.leaseId), ("expires_at", .number lease.expiresAt),
          ("scope", scopeValue lease.scope)])
      if config.capabilityAutoRedispatch ∧ task.replay.callName ≠ "" then
        .ok { s with pendingCapabilityReplays := s.pendingCapabilityReplays ++
          [⟨task.replay, request.bindingId, request.capability, task.taskId⟩] }
      else .ok s

def executeCapabilityReplay (replay : CapabilityReplay) (checked : Rat) (tool : BoundTool)
    (broker : Option CapabilityBroker) (reading : GateReading) (s : GateState) :
    Option GateOutcome × GateState :=
  if replay.capability = "" ∨ tokenFor s.vault replay.capability checked = none then (none, s)
  else
    let (outcome, s) := ensureCapabilityLease rules parseInt config tool broker
      replay.call reading s
    (some outcome, s)

end Gate

end MonoidKernel.Capability
