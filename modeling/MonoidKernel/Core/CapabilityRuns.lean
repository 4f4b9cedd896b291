import MonoidKernel.Core.CapabilityGate

set_option autoImplicit false

namespace MonoidKernel.Capability

open Library
open MonoidKernel.Scopes

section Session

variable (rules : TextRules) (parseInt : String → Option Int) (config : GateConfig)

structure GateEntry where
  tool : BoundTool
  broker : Option CapabilityBroker
  reading : GateReading

inductive SessionStep where
  | call (entry : GateEntry) (call : GatedCall)
  | replay (entry : GateEntry) (checked : Rat)
  | report (taskId : String) (lease : Option CapabilityLease) (requestId : String)
      (named : requestId ≠ "")
  | revoke (revocation : Revocation)
  | install (lease : CapabilityLease)
  | importRevocations (exported : ExportedRevocations)
  -- The process is lost, and what a checkpoint holds of the vault is restored.
  | restart

def runStep (s : GateState) : SessionStep → GateState × Option (GateEntry × GateOutcome)
  | .call entry call =>
    let (outcome, s) :=
      ensureCapabilityLease rules parseInt config entry.tool entry.broker call entry.reading s
    (s, some (entry, outcome))
  | .replay entry checked =>
    match s.pendingCapabilityReplays with
    | [] => (s, none)
    | replay :: rest =>
      let s := { s with pendingCapabilityReplays := rest }
      match executeCapabilityReplay rules parseInt config replay checked entry.tool entry.broker
          entry.reading s with
      | (none, s) => (s, none)
      | (some outcome, s) => (s, some (entry, outcome))
  | .report taskId lease requestId named =>
    match s.tasks.find? (·.taskId = taskId) with
    | none => (s, none)
    | some task =>
      match admitCapabilityGrant rules config task lease requestId named s with
      | .error _ => (s, none)
      | .ok s => (s, none)
  | .revoke revocation => ({ s with vault := revoke s.vault revocation }, none)
  | .install lease => ({ s with vault := install s.vault lease }, none)
  | .importRevocations exported =>
    ({ s with vault := importRevocations s.vault exported }, none)
  | .restart =>
    ({ s with
        vault := restoreVault (exportDurable s.vault)
          (exportRevocationState s.vault.revocations) }, none)

def session : Machine GateState SessionStep (Option (GateEntry × GateOutcome)) where
  init := ⟨.empty, [], [], []⟩
  step := runStep rules parseInt config

def Keyed (vault : CapabilityVault) : Prop :=
  ∀ capability lease, vault.leases.lookup capability = some lease → lease.capability = capability

-- At `now` the vault holds a lease for the capability that is unexpired, not revoked and covers the
-- scope.
def Holds (vault : CapabilityVault) (capability : String) (scope : Scope) (now : Rat) : Prop :=
  ∃ lease, getValid rules vault capability scope now = .ok (some lease) ∧
    lease.capability = capability ∧ now < lease.expiresAt ∧
    isLeaseRevoked vault.revocations lease = false ∧ scopeWithin rules scope lease.scope = .ok true

def BoundTool.Requires (tool : BoundTool) : Prop :=
  truthy ((tool.runtime.lookup "requires_lease").getD .null) = true

def Sound (s : GateState) (step : SessionStep) : Prop :=
  ∀ entry, (session rules parseInt config).answer s step = some (entry, .proceed) →
    entry.tool.Requires → entry.broker.isSome →
    ∃ scope, capabilityScopeForTool parseInt entry.tool = .ok scope ∧
      Holds rules ((session rules parseInt config).next s step).vault entry.tool.capability scope
        entry.reading.now

def Usable (revocations : RevocationState) (scope : Scope) (now : Rat) (lease : CapabilityLease) :
    Prop :=
  lease.isValid now ∧ isLeaseRevoked revocations lease = false ∧
    scopeWithin rules scope lease.scope = .ok true

def RenewsWell (reply : BrokerReply) (current : CapabilityLease) (request : CapabilityRequest)
    (now : Rat) (vault : CapabilityVault) : Prop :=
  match reply.answer with
  | .raised _ => True
  | .grant (.lease grant) =>
    match admitLease rules (reply.after vault) request (rotatedLease current grant) with
    | .ok _ => Usable rules (reply.after vault).revocations request.scope now
        (rotatedLease current grant)
    | .error (.scope _) => True
    | .error (.refused _ _) => isLeaseRevoked (reply.after vault).revocations current = false
  | .grant _ => isLeaseRevoked (reply.after vault).revocations current = false

def GrantsWell (reply : BrokerReply) (request : CapabilityRequest) (now : Rat)
    (vault : CapabilityVault) : Prop :=
  ∀ lease, reply.answer = .grant (.lease lease) →
    (∃ admitted, admitLease rules (reply.after vault) request lease = .ok admitted) →
      Usable rules (reply.after vault).revocations request.scope now lease

def AnswersWell (vault : CapabilityVault) (entry : GateEntry) : Prop :=
  ∀ broker scope (named : entry.tool.capability ≠ ""), entry.tool.Requires →
    entry.broker = some broker → capabilityScopeForTool parseInt entry.tool = .ok scope →
    isCapabilityRevoked vault.revocations entry.tool.capability = false →
    let request := gateRequest config entry.tool.capability named scope entry.tool.bindingId
    match getValid rules vault entry.tool.capability scope entry.reading.now with
    | .error _ => True
    | .ok (some current) =>
      0 < config.capabilityRotateSkewSeconds →
        current.canRotate entry.reading.now config.capabilityRotateSkewSeconds →
        RenewsWell rules (broker (request "" entry.reading)) current (request "" entry.reading)
          entry.reading.now vault
    | .ok none =>
      let asked := request (gateReason rules entry.tool) entry.reading
      GrantsWell rules (broker asked) asked entry.reading.now vault

def StepAnswersWell (s : GateState) : SessionStep → Prop
  | .call entry _ => AnswersWell rules parseInt config s.vault entry
  | .replay entry checked =>
    ∀ replay rest, s.pendingCapabilityReplays = replay :: rest → replay.capability ≠ "" →
      tokenFor s.vault replay.capability checked ≠ none →
      AnswersWell rules parseInt config s.vault entry
  | _ => True

end Session

section Vault

variable (rules : TextRules)

theorem revoked_leases (vault : CapabilityVault) (revocations : List Revocation) :
    (revocations.foldl revoke vault).leases = vault.leases := by
  induction revocations generalizing vault with
  | nil => rfl
  | cons revocation rest ih => exact ih (revoke vault revocation)

@[simp] theorem after_leases (reply : BrokerReply) (vault : CapabilityVault) :
    (reply.after vault).leases = vault.leases :=
  revoked_leases vault reply.meanwhile

variable {vault : CapabilityVault}

theorem Keyed.of_leases {other : CapabilityVault} (keyed : Keyed vault)
    (same : other.leases = vault.leases) : Keyed other := by
  intro capability lease found
  rw [same] at found
  exact keyed capability lease found

theorem Keyed.install (keyed : Keyed vault) (lease : CapabilityLease) :
    Keyed (install vault lease) := by
  intro capability other found
  by_cases same : capability = lease.capability
  · subst same
    have stored : lease = other := by simpa [Capability.install] using found
    rw [← stored]
  · refine keyed capability other ?_
    rwa [Capability.install, AList.lookup_insert_ne same] at found

theorem admitLease_stores {stored : CapabilityVault} {request : CapabilityRequest}
    {lease given : CapabilityLease}
    (admitted : admitLease rules vault request lease = .ok (stored, given)) :
    stored = install vault lease ∧ given = lease ∧ lease.capability = request.capability := by
  have same := ((admit_spec rules vault request lease).mp ⟨_, admitted⟩).1
  unfold admitLease at admitted
  cases checked : validateLeaseAdmission rules request.capability request.scope lease.capability
      lease.scope with
  | error fault => rw [checked] at admitted; cases admitted
  | ok done =>
    rw [checked] at admitted
    cases admitted
    exact ⟨rfl, rfl, same⟩

theorem holds_iff {capability : String} {lease : CapabilityLease}
    (found : vault.leases.lookup capability = some lease) (keyed : lease.capability = capability)
    (scope : Scope) (now : Rat) :
    Holds rules vault capability scope now ↔ Usable rules vault.revocations scope now lease := by
  constructor
  · intro ⟨other, returned, _, _, unrevoked, within⟩
    obtain ⟨⟨stored, valid, _⟩, _⟩ := (getValid_spec rules vault capability scope now other).mp
      returned
    cases found.symm.trans stored
    exact ⟨valid, unrevoked, within⟩
  · intro ⟨valid, unrevoked, within⟩
    refine ⟨lease, ?_, keyed, of_decide_eq_true valid, unrevoked, within⟩
    exact (getValid_spec rules vault capability scope now lease).mpr
      ⟨⟨found, valid, unrevoked⟩, within⟩

theorem install_holds_iff (vault : CapabilityVault) (lease : CapabilityLease) (scope : Scope)
    (now : Rat) :
    Holds rules (install vault lease) lease.capability scope now ↔
      Usable rules vault.revocations scope now lease :=
  holds_iff rules (AList.lookup_insert _) rfl scope now

end Vault

section Gate

variable (rules : TextRules) (parseInt : String → Option Int) (config : GateConfig)

variable (broker : CapabilityBroker)

theorem rotateCapabilityLease_spec (current : CapabilityLease) (request : CapabilityRequest)
    (now : Rat) (s : GateState) (keyed : Keyed s.vault)
    (cached : getValid rules s.vault request.capability request.scope now = .ok (some current)) :
    ((rotateCapabilityLease rules broker current request s).1 = .proceed →
      Holds rules (rotateCapabilityLease rules broker current request s).2.vault
        request.capability request.scope now) ↔
    RenewsWell rules (broker request) current request now s.vault := by
  obtain ⟨⟨found, valid, _⟩, within⟩ := (getValid_spec rules _ _ _ _ _).mp cached
  have kept : Holds rules ((broker request).after s.vault) request.capability request.scope now ↔
      isLeaseRevoked ((broker request).after s.vault).revocations current = false := by
    rw [holds_iff rules (by rwa [after_leases]) (keyed _ _ found)]
    exact ⟨fun usable => usable.2.1, fun unrevoked => ⟨valid, unrevoked, within⟩⟩
  unfold rotateCapabilityLease RenewsWell
  dsimp only
  cases answer : (broker request).answer with
  | raised text => simp
  | grant grant =>
    cases grant with
    | denial reason retryable => simpa using kept
    | pending prompt => simpa using kept
    | lease grant =>
      cases admitted : admitLease rules ((broker request).after s.vault) request
          (rotatedLease current grant) with
      | error fault =>
        cases fault with
        | scope fault => simp [admitted]
        | refused reason detail => simpa [admitted] using kept
      | ok stored =>
        obtain ⟨vault, lease⟩ := stored
        obtain ⟨rfl, rfl, same⟩ := admitLease_stores rules admitted
        have := install_holds_iff rules ((broker request).after s.vault)
          (rotatedLease current grant) request.scope now
        rw [same] at this
        simpa [admitted] using this

theorem requestCapabilityLease_spec (request : CapabilityRequest) (call : GatedCall)
    (reading : GateReading) (s : GateState) :
    ((requestCapabilityLease rules config broker request call reading s).1 = .proceed →
      Holds rules (requestCapabilityLease rules config broker request call reading s).2.vault
        request.capability request.scope reading.now) ↔
    GrantsWell rules (broker request) request reading.now s.vault := by
  unfold requestCapabilityLease GrantsWell
  dsimp only
  cases answer : (broker request).answer with
  | raised text => simp
  | grant grant =>
    cases grant with
    | denial reason retryable => simp
    | pending prompt => simp
    | lease given =>
      cases admitted : admitLease rules ((broker request).after s.vault) request given with
      | error fault =>
        cases fault with
        | scope fault => simp [admitted]
        | refused reason detail => simp [admitted]
      | ok stored =>
        obtain ⟨vault, lease⟩ := stored
        obtain ⟨rfl, rfl, same⟩ := admitLease_stores rules admitted
        have := install_holds_iff rules ((broker request).after s.vault) lease request.scope
          reading.now
        rw [same] at this
        simpa [admitted] using this

theorem ensureCapabilityLease_spec (entry : GateEntry) (call : GatedCall) (s : GateState)
    (keyed : Keyed s.vault) :
    ((ensureCapabilityLease rules parseInt config entry.tool entry.broker call entry.reading s).1 =
        .proceed → entry.tool.Requires → entry.broker.isSome →
      ∃ scope, capabilityScopeForTool parseInt entry.tool = .ok scope ∧
        Holds rules (ensureCapabilityLease rules parseInt config entry.tool entry.broker call
          entry.reading s).2.vault entry.tool.capability scope entry.reading.now) ↔
    AnswersWell rules parseInt config s.vault entry := by
  obtain ⟨tool, broker, reading⟩ := entry
  unfold ensureCapabilityLease AnswersWell
  dsimp only
  by_cases requires : tool.Requires
  · have declares : truthy ((tool.runtime.lookup "requires_lease").getD .null) = true := requires
    cases broker with
    | none => simp
    | some broker =>
      by_cases named : tool.capability = ""
      · simp [declares, requires, named]
      · cases needed : capabilityScopeForTool parseInt tool with
        | error fault => simp [declares, requires, named]
        | ok scope =>
          cases stopped : isCapabilityRevoked s.vault.revocations tool.capability with
          | true => simp [declares, requires, named]
          | false =>
            have asked := requestCapabilityLease_spec rules config broker
              (gateRequest config tool.capability named scope tool.bindingId
                (gateReason rules tool) reading) call reading s
            have renewed := fun current => rotateCapabilityLease_spec rules broker current
              (gateRequest config tool.capability named scope tool.bindingId "" reading)
              reading.now s keyed
            cases found : getValid rules s.vault tool.capability scope reading.now with
            | error fault => simp [declares, requires, named, found]
            | ok cached =>
              cases cached with
              | none => simpa [declares, requires, named, stopped, found] using asked
              | some current =>
                have renewed := renewed current found
                have usable := (getValid_spec rules s.vault tool.capability scope reading.now
                  current).mp found
                have held : Holds rules s.vault tool.capability scope reading.now :=
                  (holds_iff rules usable.1.1 (keyed _ _ usable.1.1) scope reading.now).mpr
                    ⟨usable.1.2.1, usable.1.2.2, usable.2⟩
                by_cases due : 0 < config.capabilityRotateSkewSeconds ∧
                    current.canRotate reading.now config.capabilityRotateSkewSeconds = true
                · simpa [declares, requires, named, stopped, found, due] using renewed
                · have kept := not_and.mp due
                  simpa [declares, requires, named, found, due, held] using
                    fun skewed rotates => absurd rotates (kept skewed)
  · have lacks : truthy ((tool.runtime.lookup "requires_lease").getD .null) = false := by
      simpa [BoundTool.Requires] using requires
    simp [BoundTool.Requires, lacks]

theorem rotateCapabilityLease_keyed (current : CapabilityLease) (request : CapabilityRequest)
    (s : GateState) (keyed : Keyed s.vault) :
    Keyed (rotateCapabilityLease rules broker current request s).2.vault := by
  have asked : Keyed ((broker request).after s.vault) := keyed.of_leases (after_leases _ _)
  unfold rotateCapabilityLease
  dsimp only
  split
  · exact asked
  next grant _ =>
    split
    · exact asked
    · exact asked
    next vault lease admitted =>
      obtain ⟨rfl, _, _⟩ := admitLease_stores rules admitted
      exact asked.install _
  · exact asked

theorem requestCapabilityLease_keyed (request : CapabilityRequest) (call : GatedCall)
    (reading : GateReading) (s : GateState) (keyed : Keyed s.vault) :
    Keyed (requestCapabilityLease rules config broker request call reading s).2.vault := by
  have asked : Keyed ((broker request).after s.vault) := keyed.of_leases (after_leases _ _)
  unfold requestCapabilityLease
  dsimp only
  split
  · exact asked
  · exact asked
  · exact asked
  next grant _ =>
    split
    · exact asked
    · exact asked
    next vault lease admitted =>
      obtain ⟨rfl, _, _⟩ := admitLease_stores rules admitted
      exact asked.install _

theorem ensureCapabilityLease_keyed (tool : BoundTool) (broker : Option CapabilityBroker)
    (call : GatedCall) (reading : GateReading) (s : GateState) (keyed : Keyed s.vault) :
    Keyed (ensureCapabilityLease rules parseInt config tool broker call reading s).2.vault := by
  unfold ensureCapabilityLease
  dsimp only
  split
  · exact keyed
  split
  · exact keyed
  split
  · split
    · exact keyed
    · exact keyed
  split
  · exact keyed
  split
  · exact keyed
  split
  · exact keyed
  · split
    · exact rotateCapabilityLease_keyed rules _ _ _ s keyed
    · exact keyed
  · exact requestCapabilityLease_keyed rules config _ _ call reading s keyed

end Gate

section Session

variable (rules : TextRules) (parseInt : String → Option Int) (config : GateConfig)

theorem restoreVault_keyed (durable : List CapabilityLease) (exported : ExportedRevocations) :
    Keyed (restoreVault durable exported) := by
  have installed : ∀ vault : CapabilityVault, Keyed vault →
      Keyed (durable.foldl install vault) := by
    induction durable with
    | nil => exact fun vault keyed => keyed
    | cons lease rest ih => exact fun vault keyed => ih _ (keyed.install lease)
  have nothing : Keyed .empty := fun capability lease found => nomatch found
  exact (installed .empty nothing).of_leases rfl

theorem admitCapabilityGrant_keyed {task : CapabilityTask} {lease : Option CapabilityLease}
    {requestId : String} {named : requestId ≠ ""} {s s' : GateState} (keyed : Keyed s.vault)
    (done : admitCapabilityGrant rules config task lease requestId named s = .ok s') :
    Keyed s'.vault := by
  unfold admitCapabilityGrant at done
  split at done
  · cases done; exact keyed
  next lease =>
    dsimp only at done
    split at done
    · cases done
    · cases done; exact keyed
    next vault given admitted =>
      obtain ⟨rfl, _, _⟩ := admitLease_stores rules admitted
      split at done
      · cases done; exact keyed.install _
      · cases done; exact keyed.install _

theorem executeCapabilityReplay_cases (replay : CapabilityReplay) (checked : Rat)
    (entry : GateEntry) (s : GateState) :
    ((replay.capability = "" ∨ tokenFor s.vault replay.capability checked = none) ∧
      executeCapabilityReplay rules parseInt config replay checked entry.tool entry.broker
        entry.reading s = (none, s)) ∨
    ((replay.capability ≠ "" ∧ tokenFor s.vault replay.capability checked ≠ none) ∧
      executeCapabilityReplay rules parseInt config replay checked entry.tool entry.broker
        entry.reading s =
      (some (ensureCapabilityLease rules parseInt config entry.tool entry.broker replay.call
          entry.reading s).1,
        (ensureCapabilityLease rules parseInt config entry.tool entry.broker replay.call
          entry.reading s).2)) := by
  unfold executeCapabilityReplay
  by_cases skipped : replay.capability = "" ∨ tokenFor s.vault replay.capability checked = none
  · exact .inl ⟨skipped, if_pos skipped⟩
  · exact .inr ⟨not_or.mp skipped, if_neg skipped⟩

theorem runStep_keyed (s : GateState) (step : SessionStep) (keyed : Keyed s.vault) :
    Keyed ((session rules parseInt config).next s step).vault := by
  unfold Machine.next session
  cases step with
  | call entry call => exact ensureCapabilityLease_keyed rules parseInt config _ _ call _ s keyed
  | replay entry checked =>
    dsimp only [runStep]
    split
    · exact keyed
    next replay rest _ =>
      have kept : Keyed { s with pendingCapabilityReplays := rest }.vault := keyed
      rcases executeCapabilityReplay_cases rules parseInt config replay checked entry
          { s with pendingCapabilityReplays := rest } with ⟨_, skipped⟩ | ⟨_, ran⟩
      · rwa [skipped]
      · rw [ran]
        exact ensureCapabilityLease_keyed rules parseInt config _ _ _ _ _ kept
  | report taskId lease requestId named =>
    dsimp only [runStep]
    split
    · exact keyed
    next task _ =>
      split
      · exact keyed
      next after done => exact admitCapabilityGrant_keyed rules config keyed done
  | revoke revocation => exact keyed.of_leases rfl
  | install lease => exact keyed.install lease
  | importRevocations exported => exact keyed.of_leases rfl
  | restart => exact restoreVault_keyed _ _

theorem sound_iff (s : GateState) (step : SessionStep) (keyed : Keyed s.vault) :
    Sound rules parseInt config s step ↔ StepAnswersWell rules parseInt config s step := by
  unfold Sound Machine.answer Machine.next session
  cases step with
  | call entry call =>
    have gate := ensureCapabilityLease_spec rules parseInt config entry call s keyed
    simpa [runStep, StepAnswersWell] using gate
  | replay entry checked =>
    cases queued : s.pendingCapabilityReplays with
    | nil => simp [runStep, StepAnswersWell, queued]
    | cons replay rest =>
      rcases executeCapabilityReplay_cases rules parseInt config replay checked entry
          { s with pendingCapabilityReplays := rest } with ⟨missing, skipped⟩ | ⟨present, ran⟩
      · have unasked : ¬ (replay.capability ≠ "" ∧
            tokenFor s.vault replay.capability checked ≠ none) := by
          rwa [not_and_or, not_not, not_not]
        simpa [runStep, StepAnswersWell, queued, skipped] using
          fun named found => absurd ⟨named, found⟩ unasked
      · have gate := ensureCapabilityLease_spec rules parseInt config entry replay.call
          { s with pendingCapabilityReplays := rest } keyed
        simpa [runStep, StepAnswersWell, queued, ran, present.1, present.2] using gate
  | report taskId lease requestId named =>
    have silent : (runStep rules parseInt config s (.report taskId lease requestId named)).2 =
        none := by
      dsimp only [runStep]
      split
      · rfl
      next task _ => split <;> rfl
    simp [silent, StepAnswersWell]
  | revoke revocation => simp [runStep, StepAnswersWell]
  | install lease => simp [runStep, StepAnswersWell]
  | importRevocations exported => simp [runStep, StepAnswersWell]
  | restart => simp [runStep, StepAnswersWell]

theorem gate_sound (steps : List SessionStep) :
    (session rules parseInt config).Along (Sound rules parseInt config)
        (session rules parseInt config).init steps ↔
      (session rules parseInt config).Along (StepAnswersWell rules parseInt config)
        (session rules parseInt config).init steps := by
  have start : Keyed (session rules parseInt config).init.vault :=
    fun capability lease found => nomatch found
  exact Machine.along_congr (fun s => Keyed s.vault) (runStep_keyed rules parseInt config)
    (sound_iff rules parseInt config) start steps

end Session

section Careless

def pairScope : Scope :=
  AList.singleton "allowed_domains" (.array [.text "a.edu", .text "b.edu"])

def mailTool : BoundTool :=
  ⟨"mail", "mail.send", pairScope, AList.singleton "requires_lease" (.bool true)⟩

def mailLease (scope : Scope) (expiresAt : Rat) : CapabilityLease :=
  ⟨"mail.send", "secret-ref://mail", expiresAt, scope, "lease_1", false, 10, none, by decide⟩

def mailCall (lease : CapabilityLease) : SessionStep :=
  .call ⟨mailTool, some fun _ => ⟨.grant (.lease lease), []⟩, ⟨100, "cap_req_1", "", by decide⟩⟩
    ⟨"mail", "", [], none⟩

def mailSession : Machine GateState SessionStep (Option (GateEntry × GateOutcome)) :=
  session asciiRules (fun _ => none) ⟨"run", 0, true⟩

def MailSound : GateState → SessionStep → Prop :=
  Sound asciiRules (fun _ => none) ⟨"run", 0, true⟩

theorem gate_lets_through :
    ¬ mailSession.Along MailSound mailSession.init [mailCall (mailLease pairScope 50)] ∧
    ¬ mailSession.Along MailSound mailSession.init [mailCall (mailLease searchScope 200)] ∧
    ¬ mailSession.Along MailSound mailSession.init
      [mailCall (mailLease pairScope 200), .revoke ⟨none, some "lease_1", none⟩,
        mailCall (mailLease pairScope 200)] := by
  refine ⟨?_, ?_, ?_⟩
  · intro ⟨sound, _⟩
    obtain ⟨scope, needed, lease, found, _⟩ := sound _ rfl rfl rfl
    cases needed
    have missing : (.ok none : Except ScopeFault (Option CapabilityLease)) = .ok (some lease) :=
      found
    cases missing
  · intro ⟨sound, _⟩
    obtain ⟨scope, needed, lease, found, _⟩ := sound _ rfl rfl rfl
    cases needed
    have missing : (.ok none : Except ScopeFault (Option CapabilityLease)) = .ok (some lease) :=
      found
    cases missing
  · intro ⟨_, _, sound, _⟩
    obtain ⟨scope, needed, lease, found, _⟩ := sound _ rfl rfl rfl
    cases needed
    have missing : (.ok none : Except ScopeFault (Option CapabilityLease)) = .ok (some lease) :=
      found
    cases missing

end Careless

end MonoidKernel.Capability
