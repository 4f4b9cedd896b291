import MonoidKernel.Core.CapabilityGate
import MonoidKernel.Library.Machine

set_option autoImplicit false

namespace MonoidKernel.Capability

open Library
open MonoidKernel.Scopes

section Covered

def Revocation.Covers (revocation : Revocation) (lease : CapabilityLease) : Prop :=
  revocation.capability = some "*" ∨
    (revocation.capability = some lease.capability) ∨
    (revocation.leaseId = some lease.leaseId) ∨
    ∃ before, revocation.before = some before ∧ lease.issuedAt < before

def RevocationState.Extends (later earlier : RevocationState) : Prop :=
  ∀ lease, isLeaseRevoked earlier lease = true → isLeaseRevoked later lease = true

theorem isLeaseRevoked_iff (state : RevocationState) (lease : CapabilityLease) :
    isLeaseRevoked state lease = true ↔ state.allRevoked = true ∨ lease.leaseId ∈ state.leaseIds ∨
      lease.capability ∈ state.capabilities ∨ lease.issuedAt < state.before := by
  simp [isLeaseRevoked, or_assoc]

theorem RevocationState.Extends.refl (state : RevocationState) : state.Extends state :=
  fun _ revoked => revoked

theorem RevocationState.Extends.trans {first second third : RevocationState}
    (later : third.Extends second) (earlier : second.Extends first) : third.Extends first :=
  fun lease revoked => later lease (earlier lease revoked)

theorem extends_of_parts {later earlier : RevocationState}
    (all : earlier.allRevoked = true → later.allRevoked = true)
    (ids : ∀ name ∈ earlier.leaseIds, name ∈ later.leaseIds)
    (capabilities : ∀ name ∈ earlier.capabilities, name ∈ later.capabilities)
    (before : earlier.before ≤ later.before) : later.Extends earlier := by
  intro lease revoked
  rw [isLeaseRevoked_iff] at revoked ⊢
  rcases revoked with every | named | capable | old
  · exact .inl (all every)
  · exact .inr (.inl (ids _ named))
  · exact .inr (.inr (.inl (capabilities _ capable)))
  · exact .inr (.inr (.inr (lt_of_lt_of_le old before)))

theorem applyCapabilityRevocation_extends (state : RevocationState) (revocation : Revocation) :
    (applyCapabilityRevocation state revocation).1.Extends state := by
  obtain ⟨capability, leaseId, before⟩ := revocation
  apply extends_of_parts
  all_goals
    unfold applyCapabilityRevocation
    dsimp only
    repeat' split
    all_goals simp_all

theorem applyCapabilityRevocation_covers (state : RevocationState) (revocation : Revocation)
    (lease : CapabilityLease) (covered : revocation.Covers lease) :
    isLeaseRevoked (applyCapabilityRevocation state revocation).1 lease = true := by
  obtain ⟨capability, leaseId, before⟩ := revocation
  obtain ⟨capable, _, identified⟩ := lease.named
  rw [isLeaseRevoked_iff]
  rcases covered with every | named | same | ⟨limit, watermark, old⟩
  · left
    unfold applyCapabilityRevocation
    dsimp only at every ⊢
    subst every
    repeat' split
    all_goals simp_all
  · dsimp only at named
    subst named
    by_cases star : lease.capability = "*"
    · left
      unfold applyCapabilityRevocation
      dsimp only
      rw [star]
      repeat' split
      all_goals simp_all
    · right; right; left
      unfold applyCapabilityRevocation
      dsimp only
      repeat' split
      all_goals simp_all
  · dsimp only at same
    subst same
    right; left
    unfold applyCapabilityRevocation
    dsimp only
    repeat' split
    all_goals simp_all
  · dsimp only at watermark
    subst watermark
    right; right; right
    unfold applyCapabilityRevocation
    dsimp only
    exact lt_of_lt_of_le old (le_max_right _ _)

theorem importRevocationState_extends (state : RevocationState) (exported : ExportedRevocations) :
    (importRevocationState state exported).Extends state := by
  apply extends_of_parts
  all_goals
    unfold importRevocationState
    simp_all

end Covered

section Export

def RevocationState.empty : RevocationState := ⟨[], [], 0, false⟩

theorem import_export_parts (state : RevocationState) :
    let imported := importRevocationState .empty (exportRevocationState state)
    (imported.allRevoked = true ↔ state.allRevoked = true ∨ "*" ∈ state.capabilities) ∧
    (∀ name, name ∈ imported.leaseIds ↔ name ∈ state.leaseIds) ∧
    (∀ name, name ∈ imported.capabilities ↔ name ∈ state.capabilities ∧ name ≠ "*") ∧
    imported.before = max 0 state.before := by
  unfold importRevocationState exportRevocationState
  dsimp only [RevocationState.empty]
  refine ⟨?_, by simp, fun name => ?_, rfl⟩
  · by_cases all : state.allRevoked = true
    · simp [all]
    · simp [all]
  · by_cases added : state.allRevoked = true ∧ "*" ∉ state.capabilities.insertionSort (· ≤ ·)
    · rw [if_pos added]
      simp
    · rw [if_neg added]
      simp

theorem import_export_extends (state : RevocationState) :
    (importRevocationState .empty (exportRevocationState state)).Extends state := by
  obtain ⟨all, ids, capabilities, before⟩ := import_export_parts state
  intro lease revoked
  rw [isLeaseRevoked_iff] at revoked ⊢
  rw [all, ids, capabilities, before]
  rcases revoked with every | named | capable | old
  · exact .inl (.inl every)
  · exact .inr (.inl named)
  · by_cases star : lease.capability = "*"
    · exact .inl (.inr (star ▸ capable))
    · exact .inr (.inr (.inl ⟨capable, star⟩))
  · exact .inr (.inr (.inr (lt_of_lt_of_le old (le_max_right _ _))))

-- The sets that an export keeps as they are: `*` is no name of a capability, and time starts at 0.
def RevocationState.Plain (state : RevocationState) : Prop :=
  state.allRevoked = true ∨ "*" ∉ state.capabilities ∧ 0 ≤ state.before

theorem exists_unnamed (names : List String) : ∃ name, name ∉ names ∧ name ≠ "" := by
  obtain ⟨name, fresh⟩ := Infinite.exists_notMem_finset (insert "" names.toFinset)
  rw [Finset.mem_insert, not_or, List.mem_toFinset] at fresh
  exact ⟨name, fresh.2, fresh.1⟩

theorem exists_uncovered {state : RevocationState} (open_ : state.allRevoked = false)
    {issuedAt : Rat} (late : state.before ≤ issuedAt) :
    ∃ lease : CapabilityLease, lease.issuedAt = issuedAt ∧ isLeaseRevoked state lease = false := by
  obtain ⟨capability, unlisted, named⟩ := exists_unnamed state.capabilities
  obtain ⟨leaseId, unknown, identified⟩ := exists_unnamed state.leaseIds
  refine ⟨⟨capability, "token", 0, ∅, leaseId, false, issuedAt, none, named, by decide, identified⟩,
    rfl, ?_⟩
  rw [Bool.eq_false_iff, ne_eq, isLeaseRevoked_iff]
  simp [open_, unlisted, unknown, late]

theorem import_export_iff (state : RevocationState) :
    (∀ lease, isLeaseRevoked (importRevocationState .empty (exportRevocationState state)) lease =
      isLeaseRevoked state lease) ↔ state.Plain := by
  obtain ⟨all, ids, capabilities, before⟩ := import_export_parts state
  constructor
  · intro same
    by_contra mixed
    rw [RevocationState.Plain, not_or, Bool.not_eq_true, not_and_or, not_not, not_le] at mixed
    obtain ⟨open_, starred | early⟩ := mixed
    · obtain ⟨lease, _, uncovered⟩ := exists_uncovered open_ (le_refl state.before)
      have covered := same lease
      rw [uncovered, Bool.eq_false_iff] at covered
      exact covered ((isLeaseRevoked_iff _ _).mpr (.inl (all.mpr (.inr starred))))
    · obtain ⟨lease, issued, uncovered⟩ := exists_uncovered open_ (le_refl state.before)
      have covered := same lease
      rw [uncovered, Bool.eq_false_iff] at covered
      refine covered ((isLeaseRevoked_iff _ _).mpr (.inr (.inr (.inr ?_))))
      rw [before, issued]
      exact lt_of_lt_of_le early (le_max_left _ _)
  · intro plain lease
    rw [Bool.eq_iff_iff]
    refine ⟨fun covered => ?_, import_export_extends state lease⟩
    rw [isLeaseRevoked_iff, all, ids, capabilities, before] at covered
    rw [isLeaseRevoked_iff]
    rcases plain with every | ⟨unstarred, started⟩
    · exact .inl every
    · rw [max_eq_right started] at covered
      rcases covered with (every | starred) | named | ⟨capable, _⟩ | old
      · exact .inl every
      · exact absurd starred unstarred
      · exact .inr (.inl named)
      · exact .inr (.inr (.inl capable))
      · exact .inr (.inr (.inr old))

end Export

section Process

structure SharedVault where
  leases : AList fun _ : String => CapabilityLease
  revocations : Nat

structure Vaults where
  vaults : List SharedVault
  revocations : Nat → RevocationState

inductive VaultOperation where
  | create
  | admitLease (vault : Nat) (request : CapabilityRequest) (lease : CapabilityLease)
  | install (vault : Nat) (lease : CapabilityLease)
  | revoke (vault : Nat) (revocation : Revocation)
  | importRevocations (vault : Nat) (exported : ExportedRevocations)
  | forkForChild (vault : Nat)
  -- A fresh vault takes some leases and imports what the vault exports.
  | restore (vault : Nat) (durable : List CapabilityLease)

variable (rules : TextRules)

namespace Vaults

def vault (world : Vaults) (index : Nat) : Option CapabilityVault :=
  (world.vaults[index]?).map fun shared => ⟨shared.leases, world.revocations shared.revocations⟩

def write (world : Vaults) (index : Nat) (vault : CapabilityVault) : Vaults :=
  match world.vaults[index]? with
  | none => world
  | some shared =>
    { vaults := world.vaults.set index { shared with leases := vault.leases }
      revocations := Function.update world.revocations shared.revocations vault.revocations }

def add (world : Vaults) (vault : CapabilityVault) : Vaults where
  vaults := world.vaults ++ [⟨vault.leases, world.vaults.length⟩]
  revocations := Function.update world.revocations world.vaults.length vault.revocations

def forkForChild (world : Vaults) (index : Nat) : Vaults :=
  match world.vaults[index]?, world.vault index with
  | some shared, some vault =>
    let child := (exportDurable vault).foldl Capability.install .empty
    { world with vaults := world.vaults ++ [⟨child.leases, shared.revocations⟩] }
  | _, _ => world

def step (world : Vaults) : VaultOperation → Vaults
  | .create => world.add .empty
  | .admitLease index request lease =>
    match world.vault index with
    | none => world
    | some vault =>
      match admitLease rules vault request lease with
      | .error _ => world
      | .ok (vault, _) => world.write index vault
  | .install index lease =>
    match world.vault index with
    | none => world
    | some vault => world.write index (Capability.install vault lease)
  | .revoke index revocation =>
    match world.vault index with
    | none => world
    | some vault => world.write index (Capability.revoke vault revocation)
  | .importRevocations index exported =>
    match world.vault index with
    | none => world
    | some vault => world.write index (Capability.importRevocations vault exported)
  | .forkForChild index => world.forkForChild index
  | .restore index durable =>
    match world.vault index with
    | none => world
    | some vault => world.add (restoreVault durable (exportRevocationState vault.revocations))

def machine : Machine Vaults VaultOperation Unit where
  init := ⟨[], fun _ => .empty⟩
  step world operation := (world.step rules operation, ())

def grow (world : Vaults) (family : List Nat) : VaultOperation → List Nat
  | .forkForChild index | .restore index _ =>
    if index ∈ family ∧ index < world.vaults.length then world.vaults.length :: family else family
  | _ => family

def descendants : Vaults → List Nat → List VaultOperation → List Nat
  | _, family, [] => family
  | world, family, operation :: rest =>
    descendants (world.step rules operation) (world.grow family operation) rest

def Allocated (world : Vaults) : Prop :=
  ∀ shared ∈ world.vaults, shared.revocations < world.vaults.length

end Vaults

end Process

section Runs

variable {rules : TextRules} {world : Vaults}

namespace Vaults

theorem vault_iff {index : Nat} {vault : CapabilityVault} :
    world.vault index = some vault ↔ ∃ shared, world.vaults[index]? = some shared ∧
      vault = ⟨shared.leases, world.revocations shared.revocations⟩ := by
  simp [Vaults.vault, eq_comm]

theorem vault_lt {index : Nat} {vault : CapabilityVault} (found : world.vault index = some vault) :
    index < world.vaults.length := by
  obtain ⟨shared, listed, _⟩ := vault_iff.mp found
  exact (List.getElem?_eq_some_iff.mp listed).1

theorem Allocated.lt (allocated : world.Allocated) {index : Nat} {shared : SharedVault}
    (listed : world.vaults[index]? = some shared) : shared.revocations < world.vaults.length :=
  allocated shared (List.mem_of_getElem? listed)

structure Grows (operation : VaultOperation) (before after : Vaults) : Prop where
  allocated : after.Allocated
  kept : ∀ index vault, before.vault index = some vault →
    ∃ later, after.vault index = some later ∧ later.revocations.Extends vault.revocations
  added : ∀ index vault, before.vault index = some vault →
    (operation = .forkForChild index ∨ ∃ durable, operation = .restore index durable) →
    ∃ child, after.vault before.vaults.length = some child ∧
      child.revocations.Extends vault.revocations

theorem write_grows {operation : VaultOperation} (allocated : world.Allocated) {index : Nat}
    {vault next : CapabilityVault} (found : world.vault index = some vault)
    (extends_ : next.revocations.Extends vault.revocations)
    (inPlace : ∀ index, operation ≠ .forkForChild index ∧
      ∀ durable, operation ≠ .restore index durable) :
    Grows operation world (world.write index next) := by
  obtain ⟨shared, listed, rfl⟩ := vault_iff.mp found
  have inside := vault_lt found
  have written : world.write index next =
      { vaults := world.vaults.set index { shared with leases := next.leases }
        revocations := Function.update world.revocations shared.revocations next.revocations } := by
    unfold write
    rw [listed]
  rw [written]
  constructor
  · intro other member
    simp only [List.length_set]
    cases List.mem_or_eq_of_mem_set member with
    | inl earlier => exact allocated other earlier
    | inr same =>
      have address := allocated.lt listed
      rw [same]
      exact address
  · intro other vault foundOther
    obtain ⟨otherShared, otherListed, rfl⟩ := vault_iff.mp foundOther
    have address : ∃ leases, (world.vaults.set index
        { shared with leases := next.leases })[other]? =
        some ⟨leases, otherShared.revocations⟩ := by
      by_cases same : index = other
      · subst same
        rw [listed, Option.some.injEq] at otherListed
        exact ⟨next.leases, by rw [List.getElem?_set_self inside, otherListed]⟩
      · exact ⟨otherShared.leases, by rw [List.getElem?_set_ne same, otherListed]⟩
    obtain ⟨leases, address⟩ := address
    refine ⟨_, vault_iff.mpr ⟨_, address, rfl⟩, ?_⟩
    by_cases sharing : otherShared.revocations = shared.revocations
    · simpa [sharing] using extends_
    · simpa [Function.update_of_ne sharing] using RevocationState.Extends.refl _
  · intro other _ _ kind
    rcases kind with forked | ⟨durable, restored⟩
    · exact absurd forked (inPlace other).1
    · exact absurd restored ((inPlace other).2 durable)

theorem add_grows {operation : VaultOperation} (allocated : world.Allocated)
    {next : CapabilityVault}
    (carries : ∀ index vault, world.vault index = some vault →
      (operation = .forkForChild index ∨ ∃ durable, operation = .restore index durable) →
      next.revocations.Extends vault.revocations) :
    Grows operation world (world.add next) := by
  constructor
  · intro shared member
    simp only [add, List.length_append, List.length_singleton]
    rcases List.mem_append.mp member with earlier | last
    · exact Nat.lt_succ_of_lt (allocated shared earlier)
    · rw [List.mem_singleton] at last
      rw [last]
      exact Nat.lt_succ_self _
  · intro index vault found
    obtain ⟨shared, listed, rfl⟩ := vault_iff.mp found
    have apart := allocated.lt listed
    refine ⟨_, vault_iff.mpr ⟨shared, ?_, rfl⟩, ?_⟩
    · simp only [add]; rw [List.getElem?_append_left (vault_lt found), listed]
    · simpa [add, Function.update_of_ne (Nat.ne_of_lt apart)] using
      RevocationState.Extends.refl _
  · intro index vault found kind
    refine ⟨_, vault_iff.mpr ⟨⟨next.leases, world.vaults.length⟩, by simp [add], rfl⟩, ?_⟩
    simpa [add] using carries index vault found kind

theorem forkForChild_grows (allocated : world.Allocated) (index : Nat) :
    Grows (.forkForChild index) world (world.forkForChild index) := by
  unfold forkForChild
  split
  next shared vault listed found =>
    constructor
    · intro other member
      simp only [List.length_append, List.length_singleton]
      rcases List.mem_append.mp member with earlier | last
      · exact Nat.lt_succ_of_lt (allocated other earlier)
      · rw [List.mem_singleton] at last
        have address := allocated.lt listed
        rw [last]
        exact Nat.lt_succ_of_lt address
    · intro other vault foundOther
      obtain ⟨otherShared, otherListed, rfl⟩ := vault_iff.mp foundOther
      refine ⟨_, vault_iff.mpr ⟨otherShared, ?_, rfl⟩, RevocationState.Extends.refl _⟩
      simp only
      rw [List.getElem?_append_left (vault_lt foundOther), otherListed]
    · intro other vault foundOther kind
      have same : index = other := by
        rcases kind with forked | ⟨durable, restored⟩
        · exact VaultOperation.forkForChild.inj forked
        · cases restored
      subst same
      obtain ⟨otherShared, otherListed, rfl⟩ := vault_iff.mp foundOther
      rw [listed, Option.some.injEq] at otherListed
      let child := (exportDurable vault).foldl Capability.install .empty
      refine ⟨_, vault_iff.mpr ⟨⟨child.leases, shared.revocations⟩, by simp [child], rfl⟩, ?_⟩
      rw [← otherListed]
      exact RevocationState.Extends.refl _
  next none =>
    refine ⟨allocated, fun _ vault found =>
      ⟨vault, found, .refl _⟩, fun other vault found kind => ?_⟩
    rcases kind with forked | ⟨durable, restored⟩
    · rw [VaultOperation.forkForChild.inj forked] at none
      obtain ⟨shared, listed, _⟩ := vault_iff.mp found
      exact absurd found (none shared vault listed)
    · cases restored

theorem same_grows {operation : VaultOperation} (allocated : world.Allocated)
    (inPlace : ∀ index vault, world.vault index = some vault →
      operation ≠ .forkForChild index ∧ ∀ durable, operation ≠ .restore index durable) :
    Grows operation world world where
  allocated := allocated
  kept _ vault found := ⟨vault, found, .refl _⟩
  added index vault found kind := by
    rcases kind with forked | ⟨durable, restored⟩
    · exact absurd forked (inPlace index vault found).1
    · exact absurd restored ((inPlace index vault found).2 durable)

theorem restoreVault_revocations (durable : List CapabilityLease) (exported : ExportedRevocations) :
    (restoreVault durable exported).revocations = importRevocationState .empty exported := by
  have installed : ∀ vault : CapabilityVault,
      (durable.foldl Capability.install vault).revocations = vault.revocations := by
    induction durable with
    | nil => exact fun _ => rfl
    | cons lease rest ih => exact fun vault => ih _
  unfold restoreVault Capability.importRevocations
  simp only [installed]
  rfl

theorem admitLease_revocations {vault after : CapabilityVault} {request : CapabilityRequest}
    {lease granted : CapabilityLease}
    (done : admitLease rules vault request lease = .ok (after, granted)) :
    after.revocations = vault.revocations := by
  unfold admitLease at done
  cases admitted : validateLeaseAdmission rules request.capability request.scope
    lease.capability lease.scope with
  | error => simp [admitted, bind, Except.bind] at done
  | ok =>
    simp only [admitted, bind, Except.bind, Except.ok.injEq, Prod.mk.injEq] at done
    rw [← done.1]

theorem step_grows (allocated : world.Allocated) (operation : VaultOperation) :
    Grows operation world (world.step rules operation) := by
  cases operation with
  | create =>
    refine add_grows allocated fun index vault _ kind => ?_
    rcases kind with forked | ⟨durable, restored⟩
    · cases forked
    · cases restored
  | admitLease index request lease =>
    simp only [step]
    split
    · exact same_grows allocated (by simp)
    next vault found =>
      split
      · exact same_grows allocated (by simp)
      next after granted done =>
        refine write_grows allocated found ?_ (by simp)
        have kept : after.revocations = vault.revocations := admitLease_revocations done
        exact kept ▸ RevocationState.Extends.refl _
  | install index lease =>
    simp only [step]
    split
    · exact same_grows allocated (by simp)
    next vault found => exact write_grows allocated found (RevocationState.Extends.refl _) (by simp)
  | revoke index revocation =>
    simp only [step]
    split
    · exact same_grows allocated (by simp)
    next vault found =>
      exact write_grows allocated found (applyCapabilityRevocation_extends _ _) (by simp)
  | importRevocations index exported =>
    simp only [step]
    split
    · exact same_grows allocated (by simp)
    next vault found =>
      exact write_grows allocated found (importRevocationState_extends _ _) (by simp)
  | forkForChild index => exact forkForChild_grows allocated index
  | restore index durable =>
    simp only [step]
    split
    next none =>
      refine same_grows allocated fun other vault found => ⟨by simp, fun others restored => ?_⟩
      cases restored
      rw [none] at found
      cases found
    next vault found =>
      refine add_grows allocated fun other otherVault foundOther kind => ?_
      have same : index = other := by
        rcases kind with forked | ⟨others, restored⟩
        · cases forked
        · exact (VaultOperation.restore.inj restored).1
      subst same
      rw [found, Option.some.injEq] at foundOther
      rw [restoreVault_revocations, ← foundOther]
      exact import_export_extends _

def Refuses (covered : CapabilityLease → Prop) (world : Vaults) (family : List Nat) : Prop :=
  world.Allocated ∧ ∀ index ∈ family, ∃ vault, world.vault index = some vault ∧
    ∀ lease, covered lease → isLeaseRevoked vault.revocations lease = true

theorem step_refuses {covered : CapabilityLease → Prop} {family : List Nat}
    (refuses : Refuses covered world family) (operation : VaultOperation) :
    Refuses covered (world.step rules operation) (world.grow family operation) := by
  obtain ⟨allocated, every⟩ := refuses
  have grows : Grows operation world (world.step rules operation) := step_grows allocated operation
  have older : ∀ index ∈ family, ∃ vault, (world.step rules operation).vault index = some vault ∧
      ∀ lease, covered lease → isLeaseRevoked vault.revocations lease = true := by
    intro index member
    obtain ⟨vault, found, refused⟩ := every index member
    obtain ⟨later, there, extends_⟩ := grows.kept index vault found
    exact ⟨later, there, fun lease about => extends_ lease (refused lease about)⟩
  have newer : ∀ index ∈ family,
      (operation = .forkForChild index ∨ ∃ durable, operation = .restore index durable) →
      ∃ vault, (world.step rules operation).vault world.vaults.length = some vault ∧
        ∀ lease, covered lease → isLeaseRevoked vault.revocations lease = true := by
    intro index member kind
    obtain ⟨vault, found, refused⟩ := every index member
    obtain ⟨child, there, extends_⟩ := grows.added index vault found kind
    exact ⟨child, there, fun lease about => extends_ lease (refused lease about)⟩
  refine ⟨grows.allocated, fun index member => ?_⟩
  unfold grow at member
  split at member
  next source =>
    split at member
    next inside =>
      rcases List.mem_cons.mp member with rfl | earlier
      · exact newer source inside.1 (.inl rfl)
      · exact older index earlier
    · exact older index member
  next source durable =>
    split at member
    next inside =>
      rcases List.mem_cons.mp member with rfl | earlier
      · exact newer source inside.1 (.inr ⟨durable, rfl⟩)
      · exact older index earlier
    · exact older index member
  · exact older index member

theorem run_refuses {covered : CapabilityLease → Prop} {family : List Nat}
    (refuses : Refuses covered world family) (operations : List VaultOperation) :
    Refuses covered ((machine rules).exec world operations)
      (descendants rules world family operations) := by
  induction operations generalizing world family with
  | nil => exact refuses
  | cons operation rest ih => exact ih (step_refuses refuses operation)

theorem run_allocated (allocated : world.Allocated) (operations : List VaultOperation) :
    ((machine rules).exec world operations).Allocated :=
  (machine rules).exec_invariant Allocated
    (fun _ operation held => (step_grows held operation).allocated) world allocated operations

theorem init_allocated : (machine rules).init.Allocated :=
  fun _ absent => nomatch absent

theorem run_extends (allocated : world.Allocated) (operations : List VaultOperation) {index : Nat}
    {vault : CapabilityVault} (found : world.vault index = some vault) :
    ∃ later, ((machine rules).exec world operations).vault index = some later ∧
      later.revocations.Extends vault.revocations := by
  induction operations generalizing world vault with
  | nil => exact ⟨vault, found, .refl _⟩
  | cons operation rest ih =>
    have grows : Grows operation world (world.step rules operation) :=
      step_grows allocated operation
    obtain ⟨middle, there, first⟩ := grows.kept index vault found
    obtain ⟨later, last, second⟩ := ih grows.allocated there
    exact ⟨later, last, second.trans first⟩

theorem applyCapabilityRevocation_plain {state : RevocationState}
    (plain : "*" ∉ state.capabilities ∧ 0 ≤ state.before) (revocation : Revocation) :
    "*" ∉ (applyCapabilityRevocation state revocation).1.capabilities ∧
      0 ≤ (applyCapabilityRevocation state revocation).1.before := by
  obtain ⟨capability, leaseId, before⟩ := revocation
  unfold applyCapabilityRevocation
  dsimp only
  constructor
  · have named : ∀ name : String, name ≠ "*" → "*" ∉ state.capabilities.insert name := by
      intro name other member
      rw [List.mem_insert_iff] at member
      exact member.elim (fun same => other same.symm) plain.1
    repeat' split
    all_goals first
      | exact plain.1
      | exact named _ fun same => by simp_all
  · repeat' split
    all_goals simp [plain.2]

theorem importRevocationState_plain {state : RevocationState}
    (plain : "*" ∉ state.capabilities ∧ 0 ≤ state.before) (exported : ExportedRevocations) :
    "*" ∉ (importRevocationState state exported).capabilities ∧
      0 ≤ (importRevocationState state exported).before := by
  unfold importRevocationState
  simp [plain]

def AllPlain (world : Vaults) : Prop :=
  ∀ address, "*" ∉ (world.revocations address).capabilities ∧
    0 ≤ (world.revocations address).before

theorem update_plain (plain : world.AllPlain) {address : Nat} {state : RevocationState}
    (next : "*" ∉ state.capabilities ∧ 0 ≤ state.before) (other : Nat) :
    "*" ∉ (Function.update world.revocations address state other).capabilities ∧
      0 ≤ (Function.update world.revocations address state other).before := by
  by_cases same : other = address
  · subst same
    simpa using next
  · simpa [Function.update_of_ne same] using plain other

theorem write_plain (plain : world.AllPlain) {index : Nat} {vault : CapabilityVault}
    (next : "*" ∉ vault.revocations.capabilities ∧ 0 ≤ vault.revocations.before) :
    (world.write index vault).AllPlain := by
  unfold write
  split
  · exact plain
  · exact fun other => update_plain plain next other

theorem vault_plain (plain : world.AllPlain) {index : Nat} {vault : CapabilityVault}
    (found : world.vault index = some vault) :
    "*" ∉ vault.revocations.capabilities ∧ 0 ≤ vault.revocations.before := by
  obtain ⟨shared, _, rfl⟩ := vault_iff.mp found
  exact plain shared.revocations

theorem empty_plain : "*" ∉ RevocationState.empty.capabilities ∧ 0 ≤ RevocationState.empty.before :=
  ⟨by decide, le_refl _⟩

theorem step_plain (plain : world.AllPlain) (operation : VaultOperation) :
    (world.step rules operation).AllPlain := by
  cases operation with
  | create => exact fun other => update_plain plain empty_plain other
  | admitLease index request lease =>
    simp only [step]
    split
    · exact plain
    next vault found =>
      split
      · exact plain
      next after granted done =>
        refine write_plain plain ?_
        have kept : after.revocations = vault.revocations := admitLease_revocations done
        exact kept ▸ vault_plain plain found
  | install index lease =>
    simp only [step]
    split
    · exact plain
    next vault found =>
      have kept := vault_plain plain found
      exact write_plain plain kept
  | revoke index revocation =>
    simp only [step]
    split
    · exact plain
    next vault found =>
      exact write_plain plain (applyCapabilityRevocation_plain (vault_plain plain found) revocation)
  | importRevocations index exported =>
    simp only [step]
    split
    · exact plain
    next vault found =>
      exact write_plain plain (importRevocationState_plain (vault_plain plain found) exported)
  | forkForChild index =>
    simp only [step, forkForChild]
    split
    · exact plain
    · exact plain
  | restore index durable =>
    simp only [step]
    split
    · exact plain
    next vault found =>
      intro other
      refine update_plain plain ?_ other
      rw [restoreVault_revocations]
      exact importRevocationState_plain empty_plain _

def sharers (world : Vaults) (index : Nat) : List Nat :=
  (List.range world.vaults.length).filter fun other =>
    (world.vaults[other]?).map (·.revocations) = (world.vaults[index]?).map (·.revocations)

theorem revoke_refuses (allocated : world.Allocated) {index : Nat} {vault : CapabilityVault}
    (found : world.vault index = some vault) (revocation : Revocation) :
    Refuses revocation.Covers (world.step rules (.revoke index revocation))
      (world.sharers index) := by
  refine ⟨(step_grows allocated _).allocated, fun other member => ?_⟩
  obtain ⟨shared, listed, rfl⟩ := vault_iff.mp found
  simp only [sharers, List.mem_filter, List.mem_range, decide_eq_true_eq] at member
  obtain ⟨inside, sharing⟩ := member
  have otherListed : world.vaults[other]? = some world.vaults[other] :=
    List.getElem?_eq_getElem inside
  rw [listed, otherListed, Option.map_some, Option.map_some, Option.some.injEq] at sharing
  have address : ∃ leases, (world.step rules (.revoke index revocation)).vaults[other]? =
      some ⟨leases, shared.revocations⟩ := by
    simp only [step, found, write, listed]
    by_cases same : index = other
    · subst same
      exact ⟨shared.leases, by rw [List.getElem?_set_self inside]; rfl⟩
    · exact ⟨world.vaults[other].leases, by rw [List.getElem?_set_ne same, otherListed, ← sharing]⟩
  obtain ⟨leases, address⟩ := address
  refine ⟨_, vault_iff.mpr ⟨_, address, rfl⟩, fun lease covered => ?_⟩
  have revoked : (world.step rules (.revoke index revocation)).revocations shared.revocations =
      (applyCapabilityRevocation (world.revocations shared.revocations) revocation).1 := by
    simp only [step, found, write, listed, Function.update_self]
    rfl
  dsimp only
  rw [revoked]
  exact applyCapabilityRevocation_covers _ _ _ covered

end Vaults

theorem revoked_withheld {vault : CapabilityVault} {lease : CapabilityLease}
    (revoked : isLeaseRevoked vault.revocations lease = true) (capability : String) (now : Rat) :
    (∀ scope, getValid rules vault capability scope now ≠ .ok (some lease)) ∧
      (vault.leases.lookup capability = some lease → tokenFor vault capability now = none) := by
  constructor
  · intro scope answer
    have live := ((getValid_spec rules _ _ _ _ _).mp answer).1
    rw [live.2.2] at revoked
    cases revoked
  · intro stored
    simp [tokenFor, stored, revoked]

theorem revocation_survives (rules : TextRules) :
    (∀ earlier index vault revocation,
      ((Vaults.machine rules).exec (Vaults.machine rules).init earlier).vault index = some vault →
      let world := (Vaults.machine rules).exec (Vaults.machine rules).init earlier
      let revoked := (Vaults.machine rules).next world (.revoke index revocation)
      ∀ later, ∀ other ∈ Vaults.descendants rules revoked (world.sharers index) later,
        ∃ heir, ((Vaults.machine rules).exec revoked later).vault other = some heir ∧
          ∀ lease, revocation.Covers lease → ∀ capability now,
            (∀ scope, getValid rules heir capability scope now ≠ .ok (some lease)) ∧
            (heir.leases.lookup capability = some lease → tokenFor heir capability now = none)) ∧
    (∀ earlier index vault,
      ((Vaults.machine rules).exec (Vaults.machine rules).init earlier).vault index = some vault →
      vault.revocations.Plain ∧
      ∀ later, ∃ same, ((Vaults.machine rules).exec
          ((Vaults.machine rules).exec (Vaults.machine rules).init earlier) later).vault index =
          some same ∧
        same.revocations.Extends vault.revocations) ∧
    ∀ state : RevocationState,
      (∀ lease, isLeaseRevoked (importRevocationState .empty (exportRevocationState state)) lease =
        isLeaseRevoked state lease) ↔ state.Plain := by
  have plain (earlier : List VaultOperation) :
      ((Vaults.machine rules).exec (Vaults.machine rules).init earlier).AllPlain :=
    (Vaults.machine rules).exec_invariant Vaults.AllPlain
      (fun _ operation held => Vaults.step_plain held operation) _
      (fun _ => Vaults.empty_plain) earlier
  have allocated (earlier : List VaultOperation) :
      ((Vaults.machine rules).exec (Vaults.machine rules).init earlier).Allocated :=
    Vaults.run_allocated Vaults.init_allocated earlier
  refine ⟨?_, ?_, import_export_iff⟩
  · intro earlier index vault revocation found world revoked later other member
    have first : Vaults.Refuses revocation.Covers revoked (world.sharers index) :=
      @Vaults.revoke_refuses rules _ (allocated earlier) _ _ found revocation
    have refuses : Vaults.Refuses revocation.Covers ((Vaults.machine rules).exec revoked later)
        (Vaults.descendants rules revoked (world.sharers index) later) :=
      Vaults.run_refuses first later
    obtain ⟨heir, there, withheld⟩ := refuses.2 other member
    exact ⟨heir, there, fun lease covered capability now =>
      revoked_withheld (withheld lease covered) capability now⟩
  · intro earlier index vault found
    refine ⟨.inr (Vaults.vault_plain (plain earlier) found), fun later => ?_⟩
    exact Vaults.run_extends (allocated earlier) later found

def starredState : RevocationState := ⟨[], ["*"], 0, false⟩

def starMailLease : CapabilityLease :=
  ⟨"mail.send", "secret-ref://mail", 2000, ∅, "lease_mail", false, 10, none, by decide⟩

theorem starred_export_widens :
    isLeaseRevoked starredState starMailLease = false ∧
      isLeaseRevoked (importRevocationState .empty (exportRevocationState starredState))
        starMailLease = true := by
  decide

end Runs

end MonoidKernel.Capability
