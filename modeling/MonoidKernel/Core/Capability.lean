import MonoidKernel.Core.ScopeNarrowing

set_option autoImplicit false

-- Translated from core/capability.py.
namespace MonoidKernel.Capability

open MonoidKernel.Scopes

structure CapabilityRequest where
  capability : String
  scope : Scope
  runId : String
  bindingId : String
  ttlSeconds : Nat
  reason : String
  requestId : String
  named : capability ≠ "" ∧ requestId ≠ ""
  timed : 0 < ttlSeconds

theorem defaultTtl_pos : 0 < 600 := by decide

-- A lease after `_validate_lease_fields`. Instants are epoch seconds.
structure CapabilityLease where
  capability : String
  tokenRef : String
  expiresAt : Rat
  scope : Scope
  leaseId : String
  durable : Bool
  issuedAt : Rat
  maxExpiresAt : Option Rat
  named : capability ≠ "" ∧ tokenRef ≠ "" ∧ leaseId ≠ ""

def CapabilityLease.isValid (lease : CapabilityLease) (now : Rat) : Bool :=
  now < lease.expiresAt

structure RevocationState where
  leaseIds : List String
  capabilities : List String
  before : Rat
  allRevoked : Bool

def isLeaseRevoked (state : RevocationState) (lease : CapabilityLease) : Bool :=
  state.allRevoked || state.leaseIds.contains lease.leaseId ||
    state.capabilities.contains lease.capability || lease.issuedAt < state.before

structure CapabilityVault where
  leases : AList fun _ : String => CapabilityLease
  revocations : RevocationState

inductive AdmissionFault where
  | refused (reason detail : String)
  | scope (fault : ScopeFault)
deriving DecidableEq

section Vault

variable (rules : TextRules)

def validateLeaseAdmission (requestCapability : String) (requestScope : Scope)
    (leaseCapability : String) (leaseScope : Scope) : Except AdmissionFault Unit :=
  if leaseCapability ≠ requestCapability then
    .error (.refused "capability_mismatch"
      ("broker granted capability " ++ rules.repr leaseCapability ++ " for request " ++
        rules.repr requestCapability))
  else
    match scopeWithin rules leaseScope requestScope with
    | .error fault => .error (.scope fault)
    | .ok true => .ok ()
    | .ok false =>
      .error (.refused "scope_widened"
        ("broker granted a wider scope than requested for " ++ rules.repr requestCapability))

def admitLease (vault : CapabilityVault) (request : CapabilityRequest) (lease : CapabilityLease) :
    Except AdmissionFault (CapabilityVault × CapabilityLease) := do
  validateLeaseAdmission rules request.capability request.scope lease.capability lease.scope
  .ok ({ vault with leases := vault.leases.insert lease.capability lease }, lease)

def getValid (vault : CapabilityVault) (capability : String) (scope : Scope) (now : Rat) :
    Except ScopeFault (Option CapabilityLease) :=
  match vault.leases.lookup capability with
  | none => .ok none
  | some lease =>
    if !lease.isValid now || isLeaseRevoked vault.revocations lease then .ok none
    else
      match scopeWithin rules scope lease.scope with
      | .error fault => .error fault
      | .ok false => .ok none
      | .ok true => .ok (some lease)

def Live (vault : CapabilityVault) (capability : String) (now : Rat) (lease : CapabilityLease) :
    Prop :=
  vault.leases.lookup capability = some lease ∧ lease.isValid now = true ∧
    isLeaseRevoked vault.revocations lease = false

theorem admit_spec (vault : CapabilityVault) (request : CapabilityRequest)
    (lease : CapabilityLease) :
    (∃ result, admitLease rules vault request lease = .ok result) ↔
      lease.capability = request.capability ∧
        scopeWithin rules lease.scope request.scope = .ok true := by
  unfold admitLease validateLeaseAdmission
  by_cases same : lease.capability = request.capability
  · rw [if_neg (not_not.mpr same)]
    cases within : scopeWithin rules lease.scope request.scope with
    | error fault => simp [bind, Except.bind]
    | ok accepted => cases accepted <;> simp [bind, Except.bind, same]
  · rw [if_pos same]
    simp [bind, Except.bind, same]

theorem getValid_spec (vault : CapabilityVault) (capability : String) (scope : Scope) (now : Rat)
    (lease : CapabilityLease) :
    getValid rules vault capability scope now = .ok (some lease) ↔
      Live vault capability now lease ∧ scopeWithin rules scope lease.scope = .ok true := by
  unfold getValid Live
  cases found : vault.leases.lookup capability with
  | none => simp
  | some other =>
    dsimp only
    constructor
    · intro answer
      split at answer
      · cases answer
      next usable =>
        split at answer
        · cases answer
        · cases answer
        next within =>
          cases answer
          simp at usable
          exact ⟨⟨rfl, usable⟩, within⟩
    · intro ⟨⟨same, valid, unrevoked⟩, within⟩
      cases same
      simp [valid, unrevoked, within]

theorem lease_scope_relation :
    (∀ (vault : CapabilityVault) (request : CapabilityRequest) (lease : CapabilityLease),
      ((∃ result, admitLease rules vault request lease = .ok result) →
        ∀ call, Permits rules lease.scope call → Permits rules request.scope call) ↔
      lease.capability ≠ request.capability ∨ Sound rules lease.scope request.scope) ∧
    (∀ (vault : CapabilityVault) (capability : String) (needed : Scope) (now : Rat)
      (lease : CapabilityLease),
      (getValid rules vault capability needed now = .ok (some lease) →
        ∀ call, Permits rules needed call → Permits rules lease.scope call) ↔
      ¬ Live vault capability now lease ∨ Sound rules needed lease.scope) := by
  constructor
  · intro vault request lease
    rw [admit_spec, ← scopeWithin_sound_iff]
    by_cases same : lease.capability = request.capability
    · simp [same]
    · simp [same]
  · intro vault capability needed now lease
    rw [getValid_spec, ← scopeWithin_sound_iff]
    by_cases live : Live vault capability now lease
    · simp [live]
    · simp [live]

end Vault

section Ascii

def asciiLower (symbol : Char) : Char :=
  if 65 ≤ symbol.toNat ∧ symbol.toNat ≤ 90 then Char.ofNat (symbol.toNat + 32) else symbol

theorem asciiLower_toNat (symbol : Char) : (asciiLower symbol).toNat =
    if 65 ≤ symbol.toNat ∧ symbol.toNat ≤ 90 then symbol.toNat + 32 else symbol.toNat := by
  unfold asciiLower
  split
  next upper =>
    have valid : (symbol.toNat + 32).isValidChar := by
      unfold Nat.isValidChar
      omega
    unfold Char.ofNat
    rw [dif_pos valid]
    rfl
  · rfl

theorem asciiLower_again (symbol : Char) : asciiLower (asciiLower symbol) = asciiLower symbol := by
  have kept : ¬ (65 ≤ (asciiLower symbol).toNat ∧ (asciiLower symbol).toNat ≤ 90) := by
    rw [asciiLower_toNat]
    split <;> omega
  exact if_neg kept

theorem isSpace_asciiLower (symbol : Char) : isSpace (asciiLower symbol) = isSpace symbol := by
  unfold isSpace
  rw [asciiLower_toNat]
  split
  next upper =>
    have letters : ∀ code : Nat, code < 123 → 65 ≤ code →
        [0x09, 0x0A, 0x0B, 0x0C, 0x0D, 0x1C, 0x1D, 0x1E, 0x1F, 0x20, 0x85, 0xA0, 0x1680, 0x2000,
          0x2001, 0x2002, 0x2003, 0x2004, 0x2005, 0x2006, 0x2007, 0x2008, 0x2009, 0x200A, 0x2028,
          0x2029, 0x202F, 0x205F, 0x3000].contains code = false := by
      decide
    rw [letters _ (by omega) (by omega), letters _ (by omega) (by omega)]
  · rfl

theorem trim_map_asciiLower (text : List Char) :
    (trim text).map asciiLower = trim (text.map asciiLower) := by
  have kept : isSpace ∘ asciiLower = isSpace := funext isSpace_asciiLower
  unfold trim strip List.rdropWhile
  rw [List.dropWhile_map, kept, ← List.map_reverse, List.dropWhile_map, kept, List.map_reverse]

def asciiStr : Value → List Char
  | .null => "None".toList
  | .bool true => "True".toList
  | .bool false => "False".toList
  | .number value => (toString value).toList
  | .text text => text.toList
  | .array _ => "[...]".toList
  | .object _ => "\x7b...\x7d".toList

def asciiRules : TextRules where
  lower := List.map asciiLower
  str := asciiStr
  repr text := "'" ++ text ++ "'"
  lower_lower text := by simp [asciiLower_again]
  lower_trim := trim_map_asciiLower
  lower_fixed text := by
    induction text with
    | nil => simp
    | cons first rest ih => simpa using fun _ => ih
  lower_letter := by decide
  lower_dot := by decide
  str_text _ := rfl

def searchScope : Scope :=
  AList.singleton "allowed_domains" (.array [.text "a.edu"])

def searchRequest : CapabilityRequest :=
  ⟨"web.search", searchScope, "", "", 600, "", "cap_req_1", by decide, defaultTtl_pos⟩

def unscopedLease : CapabilityLease :=
  ⟨"web.search", "secret-ref://lease", 2000, ∅, "lease_1", false, 0, none, by decide⟩

def scopedLease : CapabilityLease :=
  ⟨"web.search", "secret-ref://lease", 2000, searchScope, "lease_1", false, 0, none, by decide⟩

def elsewhere : Call asciiRules where
  domain := ⟨"evil.com".toList, by decide, by decide, by decide⟩
  argument _ := .null

def scopedVault : CapabilityVault where
  leases := AList.singleton "web.search" scopedLease
  revocations := ⟨[], [], 0, false⟩

theorem empty_permits : Permits asciiRules ∅ elsewhere := by
  intro entry member
  cases member

theorem search_refuses : ¬ Permits asciiRules searchScope elsewhere := by
  intro permitted
  have := (permitted ⟨"allowed_domains", .array [.text "a.edu"]⟩ (by decide)).1
  revert this
  simp [constraint, Constraint.AdmitsDomain, asciiRules, asciiStr]
  decide

theorem lease_scope_widened :
    ¬ ((∃ result, admitLease asciiRules ⟨∅, ⟨[], [], 0, false⟩⟩ searchRequest unscopedLease =
        .ok result) →
      ∀ call, Permits asciiRules unscopedLease.scope call →
        Permits asciiRules searchRequest.scope call) ∧
    ¬ (getValid asciiRules scopedVault "web.search" ∅ 1999 = .ok (some scopedLease) →
      ∀ call, Permits asciiRules ∅ call → Permits asciiRules scopedLease.scope call) := by
  constructor
  · intro narrows
    exact search_refuses (narrows ⟨_, rfl⟩ elsewhere empty_permits)
  · intro covers
    exact search_refuses (covers rfl elsewhere empty_permits)

end Ascii

end MonoidKernel.Capability
