import MonoidKernel.Core.CapabilityRuns

set_option autoImplicit false

namespace MonoidKernel.Capability

open Library
open MonoidKernel.Scopes

structure Rotation where
  scope : Scope
  bindingId : String
  skew : Rat
  reading : GateReading
  broker : CapabilityBroker

structure Chain where
  state : GateState
  carried : List Rat

section Steps

variable (rules : TextRules) (config : GateConfig) {capability : String} (named : capability ≠ "")

def Rotation.request (rotation : Rotation) : CapabilityRequest :=
  gateRequest config capability named rotation.scope rotation.bindingId "" rotation.reading

def due (rotation : Rotation) (vault : CapabilityVault) : Option CapabilityLease :=
  match getValid rules vault capability rotation.scope rotation.reading.now with
  | .ok (some current) =>
    if current.canRotate rotation.reading.now rotation.skew then some current else none
  | _ => none

def rotate (rotation : Rotation) (s : GateState) : GateState :=
  match @due rules capability rotation s.vault with
  | some current =>
    (rotateCapabilityLease rules rotation.broker current (rotation.request config named) s).2
  | none => s

def taken (rotation : Rotation) (s : GateState) : Option (CapabilityLease × CapabilityLease) :=
  match @due rules capability rotation s.vault with
  | none => none
  | some current =>
    let request := rotation.request config named
    match (rotation.broker request).answer with
    | .grant (.lease grant) =>
      match admitLease rules ((rotation.broker request).after s.vault) request
          (rotatedLease current grant) with
      | .ok _ => some (current, grant)
      | .error _ => none
    | _ => none

def Chain.next (chain : Chain) (rotation : Rotation) : Chain where
  state := rotate rules config named rotation chain.state
  carried := chain.carried ++
    ((taken rules config named rotation chain.state).bind (·.2.maxExpiresAt)).toList

def Chain.opened (s : GateState) (stored : CapabilityVault) (grant : CapabilityLease) : Chain :=
  ⟨{ s with vault := stored }, grant.maxExpiresAt.toList⟩

def chains (opened : Chain) : Machine Chain Rotation Unit where
  init := opened
  step chain rotation := (chain.next rules config named rotation, ())

end Steps

section Bounds

variable (rules : TextRules) (capability : String)

def Chain.lease (chain : Chain) : Option CapabilityLease :=
  chain.state.vault.leases.lookup capability

def Chain.Bounded (chain : Chain) : Prop :=
  ∀ lease, chain.lease capability = some lease →
    ∀ ceiling ∈ chain.carried, lease.expiresAt ≤ ceiling

def Chain.Scoped (request : CapabilityRequest) (chain : Chain) : Prop :=
  ∀ lease, chain.lease capability = some lease →
    ∀ call, Permits rules lease.scope call → Permits rules request.scope call

def Chain.Kept (first : CapabilityLease) (chain : Chain) : Prop :=
  ∃ lease, chain.lease capability = some lease ∧ lease.maxExpiresAt = first.maxExpiresAt ∧
    lease.durable = first.durable

variable (config : GateConfig) {capability} (named : capability ≠ "")

-- What a stored grant says of its end: no later than each ceiling so far and its own, unless the
-- ceiling of the lease that it replaces cuts it there.
def EndsInTime (chain : Chain) (rotation : Rotation) : Prop :=
  ∀ current grant, taken rules config named rotation chain.state = some (current, grant) →
    ∀ ceiling ∈ chain.carried ++ grant.maxExpiresAt.toList, grant.expiresAt ≤ ceiling ∨
      ∃ kept, current.maxExpiresAt = some kept ∧ kept ≤ ceiling

-- The comparisons of scopes at a rotation are among those that `scope_within` decides well.
def ComparesWell (chain : Chain) (rotation : Rotation) : Prop :=
  ∀ current grant, taken rules config named rotation chain.state = some (current, grant) →
    Scopes.Sound rules rotation.scope current.scope ∧ Scopes.Sound rules grant.scope rotation.scope

end Bounds

section Rotations

variable {rules : TextRules} {config : GateConfig} {capability : String}
  {named : capability ≠ ""}

variable {rotation : Rotation}

theorem due_some {vault : CapabilityVault} {current : CapabilityLease}
    (found : @due rules capability rotation vault = some current) :
    vault.leases.lookup capability = some current ∧
      scopeWithin rules rotation.scope current.scope = .ok true := by
  unfold due at found
  split at found
  next returned =>
    split at found
    · cases found
      obtain ⟨⟨stored, _⟩, within⟩ := (getValid_spec rules _ _ _ _ _).mp returned
      exact ⟨stored, within⟩
    · cases found
  · cases found

theorem rotate_taken {s : GateState} {current grant : CapabilityLease}
    (took : taken rules config named rotation s = some (current, grant)) :
    s.vault.leases.lookup capability = some current ∧
      scopeWithin rules rotation.scope current.scope = .ok true ∧
      scopeWithin rules grant.scope rotation.scope = .ok true ∧
      (rotate rules config named rotation s).vault.leases.lookup capability =
        some (rotatedLease current grant) := by
  unfold taken at took
  unfold rotate
  split at took
  · cases took
  next lease found =>
    rw [found]
    dsimp only at took ⊢
    unfold rotateCapabilityLease
    dsimp only
    split at took
    next given answer =>
      rw [answer]
      dsimp only
      cases admitted : admitLease rules
          ((rotation.broker (rotation.request config named)).after s.vault)
          (rotation.request config named) (rotatedLease lease given) with
      | error fault => rw [admitted] at took; cases took
      | ok stored =>
        rw [admitted] at took
        cases took
        obtain ⟨vault, admittedLease⟩ := stored
        obtain ⟨rfl, _, same⟩ := admitLease_stores rules admitted
        have within := ((admit_spec rules _ _ _).mp ⟨_, admitted⟩).2
        obtain ⟨slot, covered⟩ := due_some found
        refine ⟨slot, covered, within, ?_⟩
        have keyed : (rotatedLease current grant).capability = capability := same
        change AList.lookup capability
          (AList.insert (rotatedLease current grant).capability _ _) = _
        rw [keyed, AList.lookup_insert]
    · cases took

theorem rotate_refused {s : GateState} (refused : taken rules config named rotation s = none) :
    (rotate rules config named rotation s).vault.leases = s.vault.leases := by
  unfold taken at refused
  unfold rotate
  cases found : @due rules capability rotation s.vault with
  | none => rfl
  | some current =>
    rw [found] at refused
    dsimp only at refused ⊢
    unfold rotateCapabilityLease
    dsimp only
    cases answer : (rotation.broker (rotation.request config named)).answer with
    | raised text => exact after_leases _ _
    | grant grant =>
      cases grant with
      | denial reason retryable => exact after_leases _ _
      | pending prompt => exact after_leases _ _
      | lease grant =>
        rw [answer] at refused
        dsimp only at refused ⊢
        cases admitted : admitLease rules
            ((rotation.broker (rotation.request config named)).after s.vault)
            (rotation.request config named) (rotatedLease current grant) with
        | error fault =>
          cases fault with
          | scope fault => exact after_leases _ _
          | refused reason detail => exact after_leases _ _
        | ok stored => rw [admitted] at refused; cases refused

theorem rotatedLease_expiresAt (current grant : CapabilityLease) (ceiling : Rat) :
    (rotatedLease current grant).expiresAt ≤ ceiling ↔ grant.expiresAt ≤ ceiling ∨
      ∃ kept, current.maxExpiresAt = some kept ∧ kept ≤ ceiling := by
  unfold rotatedLease
  cases current.maxExpiresAt with
  | none => simp
  | some kept => simp

variable (rules config named)

variable {chain : Chain}

theorem next_taken {current grant : CapabilityLease}
    (took : taken rules config named rotation chain.state = some (current, grant)) :
    chain.lease capability = some current ∧
      (chain.next rules config named rotation).lease capability =
        some (rotatedLease current grant) ∧
      (chain.next rules config named rotation).carried =
        chain.carried ++ grant.maxExpiresAt.toList := by
  obtain ⟨slot, _, _, stored⟩ := rotate_taken took
  refine ⟨slot, stored, ?_⟩
  simp [Chain.next, took]

theorem next_refused (refused : taken rules config named rotation chain.state = none) :
    (chain.next rules config named rotation).lease capability = chain.lease capability ∧
      (chain.next rules config named rotation).carried = chain.carried := by
  constructor
  · exact congrArg (AList.lookup capability) (rotate_refused refused)
  · simp [Chain.next, refused]

theorem next_kept {first : CapabilityLease} (kept : chain.Kept capability first)
    (rotation : Rotation) : (chain.next rules config named rotation).Kept capability first := by
  obtain ⟨lease, stored, ceiling, durable⟩ := kept
  cases took : taken rules config named rotation chain.state with
  | none => exact ⟨lease, (next_refused rules config named took).1.trans stored, ceiling, durable⟩
  | some pair =>
    obtain ⟨current, grant⟩ := pair
    obtain ⟨slot, after, _⟩ := next_taken rules config named took
    cases stored.symm.trans slot
    exact ⟨_, after, ceiling, durable⟩

theorem next_bounded (bounded : chain.Bounded capability) (rotation : Rotation) :
    (chain.next rules config named rotation).Bounded capability ↔
      EndsInTime rules config named chain rotation := by
  cases took : taken rules config named rotation chain.state with
  | none =>
    obtain ⟨slot, carried⟩ := next_refused rules config named took
    constructor
    · intro _ current grant other
      rw [took] at other
      cases other
    · intro _ lease stored ceiling member
      rw [slot] at stored
      rw [carried] at member
      exact bounded lease stored ceiling member
  | some pair =>
    obtain ⟨current, grant⟩ := pair
    obtain ⟨_, after, carried⟩ := next_taken rules config named took
    constructor
    · intro within old new same ceiling member
      rw [took] at same
      cases same
      rw [← rotatedLease_expiresAt]
      exact within _ after ceiling (carried ▸ member)
    · intro inTime lease stored ceiling member
      rw [after] at stored
      cases stored
      rw [rotatedLease_expiresAt]
      exact inTime current grant took ceiling (carried ▸ member)

theorem next_scoped {request : CapabilityRequest} (narrow : chain.Scoped rules capability request)
    (compares : ComparesWell rules config named chain rotation) :
    (chain.next rules config named rotation).Scoped rules capability request := by
  intro lease stored call permitted
  cases took : taken rules config named rotation chain.state with
  | none =>
    rw [(next_refused rules config named took).1] at stored
    exact narrow lease stored call permitted
  | some pair =>
    obtain ⟨current, grant⟩ := pair
    obtain ⟨slot, covered, within, after⟩ := rotate_taken took
    have same : some (rotatedLease current grant) = some lease := after.symm.trans stored
    cases same
    obtain ⟨outer, inner⟩ := compares current grant took
    have needed := (scopeWithin_sound_iff rules _ _).mpr inner within call permitted
    have held := (scopeWithin_sound_iff rules _ _).mpr outer covered call needed
    exact narrow current slot call held

end Rotations

section Chains

variable (rules : TextRules) (config : GateConfig) {capability : String}
  (named : capability ≠ "")

theorem chains_any (opened chain : Chain) (rotations : List Rotation) :
    (chains rules config named opened).Along (fun _ _ => True) chain rotations := by
  induction rotations generalizing chain with
  | nil => trivial
  | cons rotation rest ih => exact ⟨trivial, ih _⟩

theorem rotation_chain_bounded (s : GateState) (request : CapabilityRequest)
    (first given : CapabilityLease) (stored : CapabilityVault)
    (asked : request.capability = capability)
    (admitted : admitLease rules s.vault request first = .ok (stored, given))
    (rotations : List Rotation) :
    let opened := Chain.opened s stored first
    let chain := chains rules config named opened
    (chain.exec opened rotations).Kept capability first ∧
    (∀ rotation : Rotation,
      (∀ grant, (rotation.broker (rotation.request config named)).answer = .grant (.lease grant) →
        scopeWithin rules grant.scope rotation.scope ≠ .ok true) →
      (chain.next (chain.exec opened rotations) rotation).lease capability =
        (chain.exec opened rotations).lease capability) ∧
    (opened.Bounded capability ∧
        chain.Along (fun before rotation => (chain.next before rotation).Bounded capability)
          opened rotations ↔
      (∀ ceiling, first.maxExpiresAt = some ceiling → first.expiresAt ≤ ceiling) ∧
        chain.Along (EndsInTime rules config named) opened rotations) ∧
    (Scopes.Sound rules first.scope request.scope →
      chain.Along (ComparesWell rules config named) opened rotations →
      (chain.exec opened rotations).Scoped rules capability request) := by
  intro opened chain
  obtain ⟨installed, _, same⟩ := admitLease_stores rules admitted
  have within := ((admit_spec rules s.vault request first).mp ⟨_, admitted⟩).2
  have slot : opened.lease capability = some first := by
    change AList.lookup capability stored.leases = _
    rw [installed, ← asked, ← same]
    exact AList.lookup_insert _
  have kept : opened.Kept capability first := ⟨first, slot, rfl, rfl⟩
  have start : opened.Bounded capability ↔
      ∀ ceiling, first.maxExpiresAt = some ceiling → first.expiresAt ≤ ceiling := by
    unfold Chain.Bounded
    simp only [slot, Option.some.injEq, forall_eq']
    exact forall_congr' fun ceiling => by simp [opened, Chain.opened]
  refine ⟨?_, ?_, ?_, ?_⟩
  · exact chain.exec_invariant (fun held => held.Kept capability first)
      (fun _ rotation held => next_kept rules config named held rotation) opened kept rotations
  · intro rotation wide
    refine (next_refused rules config named ?_).1
    cases took : taken rules config named rotation (chain.exec opened rotations).state with
    | none => rfl
    | some pair =>
      obtain ⟨current, grant⟩ := pair
      have answered : (rotation.broker (rotation.request config named)).answer =
          .grant (.lease grant) := by
        unfold taken at took
        split at took
        · cases took
        · dsimp only at took
          split at took
          next answer =>
            split at took
            · cases took; exact answer
            · cases took
          · cases took
      exact absurd (rotate_taken took).2.2.1 (wide grant answered)
  · rw [start]
    refine and_congr_right fun early => ?_
    exact (Machine.along_congr_within (fun held => held.Bounded capability)
      (fun _ _ _ _ after => after) (fun _ rotation held _ =>
        (next_bounded rules config named held rotation).symm) (start.mpr early)
      (chains_any rules config named opened opened rotations)).symm
  · intro opens compares
    have narrow : opened.Scoped rules capability request := by
      intro lease held
      rw [slot] at held
      cases held
      exact (scopeWithin_sound_iff rules _ _).mpr opens within
    exact Machine.Along.exec (fun chain => chain.Scoped rules capability request)
      (fun _ _ held fits => next_scoped rules config named held fits) narrow compares

end Chains

section Example

def storageRequest : CapabilityRequest :=
  ⟨"storage.write", ∅, "run", "storage", 600, "", "cap_req_1", by decide, defaultTtl_pos⟩

def storageLease (expiresAt : Rat) (maxExpiresAt : Option Rat) : CapabilityLease :=
  ⟨"storage.write", "secret-ref://storage", expiresAt, ∅, "lease_1", true, 0,
    maxExpiresAt, by decide⟩

def storageConfig : GateConfig := ⟨"run", 10, true⟩

def storageState : GateState := ⟨.empty, [], [], []⟩

def storageRotation (grant : CapabilityLease) : Rotation where
  scope := ∅
  bindingId := "storage"
  skew := 10
  reading := ⟨95, "cap_req_2", "task_1", by decide⟩
  broker _ := ⟨.grant (.lease grant), []⟩

def storageChain (first : CapabilityLease) : Chain :=
  .opened storageState (install .empty first) first

theorem storage_taken (expiresAt : Rat) (maxExpiresAt : Option Rat) :
    taken asciiRules storageConfig (show "storage.write" ≠ "" by decide)
      (storageRotation (storageLease expiresAt maxExpiresAt))
      (storageChain (storageLease 100 none)).state =
      some (storageLease 100 none, storageLease expiresAt maxExpiresAt) := by
  have live : Live (storageChain (storageLease 100 none)).state.vault "storage.write" 95
      (storageLease 100 none) := ⟨rfl, by decide, by decide⟩
  have held := (getValid_spec asciiRules _ _ ∅ _ _).mpr ⟨live, rfl⟩
  have rotates : (storageLease 100 none).canRotate 95 10 = true := by
    norm_num [CapabilityLease.canRotate, CapabilityLease.isValid, storageLease]
  have ready : @due asciiRules "storage.write"
    (storageRotation (storageLease expiresAt maxExpiresAt))
      (storageChain (storageLease 100 none)).state.vault = some (storageLease 100 none) := by
    simp [due, storageRotation, held, rotates]
  unfold taken
  rw [ready]
  rfl

theorem rotation_drops_ceiling :
    ¬ ∀ rotation, ((storageChain (storageLease 100 none)).next asciiRules storageConfig
      (show "storage.write" ≠ "" by decide) rotation).Bounded "storage.write" := by
  intro bounded
  obtain ⟨_, after, carried⟩ := next_taken asciiRules storageConfig _ (storage_taken 200 (some 150))
  have member : (150 : Rat) ∈ (storageChain (storageLease 100 none)).carried ++
      (storageLease 200 (some 150)).maxExpiresAt.toList := List.mem_cons_self ..
  have held := bounded (storageRotation (storageLease 200 (some 150))) _ after 150
    (carried ▸ member)
  exact absurd held (by decide)

theorem rotation_chain_bounded_once :
    ((storageChain (storageLease 100 none)).next asciiRules storageConfig
      (show "storage.write" ≠ "" by decide)
      (storageRotation (storageLease 140 (some 150)))).Bounded "storage.write" := by
  have chain := (rotation_chain_bounded asciiRules storageConfig
    (show "storage.write" ≠ "" by decide) storageState storageRequest (storageLease 100 none)
    (storageLease 100 none) (install .empty (storageLease 100 none)) rfl rfl
    [storageRotation (storageLease 140 (some 150))]).2.2.1.mpr
  refine (chain ⟨nofun, ?_, trivial⟩).2.1
  intro current grant took ceiling member
  cases (storage_taken 140 (some 150)).symm.trans took
  refine Or.inl ?_
  rw [List.mem_singleton.mp member]
  decide

end Example

end MonoidKernel.Capability
