import MonoidKernel.Core.CapabilityGate
import MonoidKernel.Core.ScopeMeaning

set_option autoImplicit false

-- Translated from effective_signed_scope of core/scope.py and _domain_tuple of the web gateway.
namespace MonoidKernel.Scopes

open MonoidKernel.Capability (truthy)

structure ScopePolicyError where
  key : String
  reason : String
  detail : String
  deriving DecidableEq, Repr

structure CaseRules extends TextRules where
  lower_nonempty : ∀ text, lower text = [] → text = []

section Read

variable (rules : TextRules)

def orEmpty : Option Value → Value
  | none => .array []
  | some value => if truthy value then value else .array []

def listedDomains (items : List Value) : List (List Char) :=
  domainTuple rules (items.map rules.str)

def domainArray : Value → Except ScopePolicyError (List (List Char))
  | .array items => .ok (listedDomains rules items)
  | _ => .error ⟨"domains", "invalid", "domain filters must be arrays"⟩

def domainFilters (scope : Scope) (key : String) : List (List Char) :=
  match domainArray rules (orEmpty (scope.lookup key)) with
  | .ok domains => domains
  | .error _ => []

def domainList (domains : List (List Char)) : Value :=
  .array (domains.map fun domain => .text (String.ofList domain))

def bindingText (scope : Scope) : List Char :=
  match scope.lookup "binding_id" with
  | none => []
  | some value => if truthy value then trim (rules.str value) else []

-- `_positive_number`; what is no finite float raises as what is not positive.
def positiveNumber (value : Value) (key reason : String) : Except ScopePolicyError Rat :=
  let refused := ScopePolicyError.mk key reason (key ++ " must be positive")
  match value with
  | .number amount =>
    match toFloat amount with
    | some number => if number ≤ 0 then .error refused else .ok number
    | none => .error refused
  | _ => .error refused

end Read

section Apply

variable (rules : TextRules) (scope : Scope)

def applyBindingId (payload : Scope) : Except ScopePolicyError Scope :=
  let signed := bindingText rules scope
  if signed = [] then .ok payload
  else
    let requested := bindingText rules payload
    if requested ≠ [] ∧ requested ≠ signed then
      .error ⟨"binding_id", "exceeds", "binding_id exceeds signed scope"⟩
    else .ok (payload.insert "binding_id" (.text (String.ofList signed)))

def applyAllowedDomains (payload : Scope) : Except ScopePolicyError Scope :=
  match scope.lookup "allowed_domains" with
  | none => .ok payload
  | some value =>
    match domainArray rules (orEmpty (some value)),
        domainArray rules (orEmpty (payload.lookup "allowed_domains")) with
    | .error error, _ => .error error
    | .ok _, .error error => .error error
    | .ok signed, .ok requested =>
      if signed ≠ [] ∧ requested ≠ [] ∧ domainPatternsWithin rules requested signed = false then
        .error ⟨"allowed_domains", "exceeds", "allowed_domains exceeds signed scope"⟩
      else if signed = [] then .ok payload
      else .ok (payload.insert "allowed_domains"
        (domainList (if requested = [] then signed else requested)))

def applyBlockedDomains (payload : Scope) : Except ScopePolicyError Scope :=
  match scope.lookup "blocked_domains" with
  | none => .ok payload
  | some value =>
    match domainArray rules (orEmpty (some value)),
        domainArray rules (orEmpty (payload.lookup "blocked_domains")) with
    | .error error, _ => .error error
    | .ok _, .error error => .error error
    | .ok signed, .ok requested =>
      .ok (payload.insert "blocked_domains" (domainList (signed ++ requested).eraseDups))

def isNone : Option Value → Bool
  | none => true
  | some .null => true
  | some _ => false

def applyNumericCap (payload : Scope) (key : String) : Except ScopePolicyError Scope :=
  match scope.lookup key with
  | none | some .null => .ok payload
  | some value =>
    match positiveNumber value key "signed_not_positive" with
    | .error error => .error error
    | .ok signed =>
      match payload.lookup key with
      -- `_json_number` makes an integer of the float, which is the same number
      | none | some .null => .ok (payload.insert key (.number signed))
      | some raw =>
        match positiveNumber raw key "request_not_positive" with
        | .error error => .error error
        | .ok requested =>
          if signed < requested then
            .error ⟨key, "exceeds", key ++ " exceeds signed scope"⟩
          else .ok payload

def applyNumericCaps : Scope → List String → Except ScopePolicyError Scope
  | payload, [] => .ok payload
  | payload, key :: rest =>
    match applyNumericCap scope payload key with
    | .error error => .error error
    | .ok next => applyNumericCaps next rest

def effectiveSignedScope (payload : Scope) : Except ScopePolicyError Scope :=
  match applyBindingId rules scope payload with
  | .error error => .error error
  | .ok bound =>
    match applyAllowedDomains rules scope bound with
    | .error error => .error error
    | .ok allowed =>
      match applyBlockedDomains rules scope allowed with
      | .error error => .error error
      | .ok blocked => applyNumericCaps scope blocked defaultNumericScopeCapKeys

end Apply

section Settled

variable (rules : TextRules) (scope : Scope)

def BindingSettled (requested effective : Option Value) : Prop :=
  if bindingText rules scope = [] then effective = requested
  else effective = some (.text (String.ofList (bindingText rules scope)))

def AllowedSettled (payload : Scope) (effective : Option Value) : Prop :=
  (domainFilters rules scope "allowed_domains" = [] ∧
    effective = payload.lookup "allowed_domains") ∨
  (domainFilters rules scope "allowed_domains" ≠ [] ∧
    (∃ requested, domainArray rules (orEmpty (payload.lookup "allowed_domains")) = .ok requested) ∧
    (domainFilters rules payload "allowed_domains" = [] ∧
        effective = some (domainList (domainFilters rules scope "allowed_domains")) ∨
      domainFilters rules payload "allowed_domains" ≠ [] ∧
        effective = some (domainList (domainFilters rules payload "allowed_domains")) ∧
        domainPatternsWithin rules (domainFilters rules payload "allowed_domains")
          (domainFilters rules scope "allowed_domains") = true))

def BlockedSettled (payload : Scope) (effective : Option Value) : Prop :=
  if scope.lookup "blocked_domains" = none then
    effective = payload.lookup "blocked_domains"
  else effective = some (domainList (domainFilters rules scope "blocked_domains" ++
    domainFilters rules payload "blocked_domains").eraseDups)

inductive CapSettled (signed requested effective : Option Value) : Prop where
  | unsigned (absent : isNone signed = true) (kept : effective = requested)
  | filled {amount number : Rat} (set : signed = some (.number amount))
      (read : toFloat amount = some number) (positive : 0 < number)
      (absent : isNone requested = true) (filled : effective = some (.number number))
  | kept {amount number asked asking : Rat} (set : signed = some (.number amount))
      (read : toFloat amount = some number) (positive : 0 < number)
      (given : requested = some (.number asked)) (reads : toFloat asked = some asking)
      (above : 0 < asking) (within : asking ≤ number) (kept : effective = requested)

structure Settled (payload effective : Scope) : Prop where
  binding : BindingSettled rules scope (payload.lookup "binding_id") (effective.lookup "binding_id")
  allowed : AllowedSettled rules scope payload (effective.lookup "allowed_domains")
  blocked : BlockedSettled rules scope payload (effective.lookup "blocked_domains")
  capped : ∀ key ∈ defaultNumericScopeCapKeys,
    CapSettled (scope.lookup key) (payload.lookup key) (effective.lookup key)
  other : ∀ key, key ∉ defaultNumericScopeCapKeys → key ≠ "binding_id" →
    key ≠ "allowed_domains" → key ≠ "blocked_domains" →
    effective.lookup key = payload.lookup key

def SameBeside (key : String) (before after : Scope) : Prop :=
  ∀ other, other ≠ key → after.lookup other = before.lookup other

theorem sameBeside_insert (key : String) (value : Value) (before : Scope) :
    SameBeside key before (before.insert key value) :=
  fun _ differs => AList.lookup_insert_ne differs

variable {rules scope} {payload next : Scope}

variable {key : String}

theorem positiveNumber_spec {value : Value} {reason : String} {number : Rat}
    (read : positiveNumber value key reason = .ok number) :
    ∃ amount, value = .number amount ∧ toFloat amount = some number ∧ 0 < number := by
  unfold positiveNumber at read
  cases value with
  | number amount =>
    dsimp only at read
    cases converted : toFloat amount with
    | none => simp [converted] at read
    | some found =>
      simp only [converted] at read
      split at read
      · cases read
      next positive =>
        cases read
        exact ⟨amount, rfl, converted, not_le.mp positive⟩
  | null => cases read
  | bool => cases read
  | text => cases read
  | array => cases read
  | object => cases read

theorem positiveNumber_reads {amount number : Rat} (key reason : String)
    (read : toFloat amount = some number) (positive : 0 < number) :
    positiveNumber (.number amount) key reason = .ok number := by
  simp [positiveNumber, read, not_le.mpr positive]

theorem applyBindingId_spec (done : applyBindingId rules scope payload = .ok next) :
    SameBeside "binding_id" payload next ∧
      BindingSettled rules scope (payload.lookup "binding_id") (next.lookup "binding_id") := by
  simp only [applyBindingId] at done
  unfold BindingSettled
  split at done
  next blank =>
    cases done
    exact ⟨fun _ _ => rfl, by rw [if_pos blank]⟩
  next signed =>
    split at done
    · cases done
    · cases done
      exact ⟨sameBeside_insert _ _ _, by rw [if_neg signed, AList.lookup_insert]⟩

theorem domainFilters_of_array {domains : List (List Char)}
    (read : domainArray rules (orEmpty (scope.lookup key)) = .ok domains) :
    domainFilters rules scope key = domains := by
  simp [domainFilters, read]

theorem domainFilters_absent (absent : scope.lookup key = none) :
    domainFilters rules scope key = [] := by
  simp [domainFilters, absent, orEmpty, domainArray, listedDomains, domainTuple]

theorem applyAllowedDomains_spec (done : applyAllowedDomains rules scope payload = .ok next) :
    SameBeside "allowed_domains" payload next ∧
      AllowedSettled rules scope payload (next.lookup "allowed_domains") := by
  unfold applyAllowedDomains at done
  split at done
  next absent =>
    cases done
    exact ⟨fun _ _ => rfl, .inl ⟨domainFilters_absent absent, rfl⟩⟩
  next value carried =>
    split at done
    · cases done
    · cases done
    next signed requested signedRead requestedRead =>
      rw [← carried] at signedRead
      have signedIs := domainFilters_of_array signedRead
      have requestedIs := domainFilters_of_array requestedRead
      split at done
      · cases done
      next within =>
        split at done
        next open_ =>
          cases done
          exact ⟨fun _ _ => rfl, .inl ⟨signedIs.trans open_, rfl⟩⟩
        next limited =>
          cases done
          refine ⟨sameBeside_insert _ _ _, .inr ⟨signedIs ▸ limited, ⟨_, requestedRead⟩, ?_⟩⟩
          rw [AList.lookup_insert, signedIs, requestedIs]
          by_cases absent : requested = []
          · exact .inl ⟨absent, by rw [if_pos absent]⟩
          · refine .inr ⟨absent, by rw [if_neg absent], ?_⟩
            by_contra refused
            exact within ⟨limited, absent, by simpa using refused⟩

theorem applyBlockedDomains_spec (done : applyBlockedDomains rules scope payload = .ok next) :
    SameBeside "blocked_domains" payload next ∧
      BlockedSettled rules scope payload (next.lookup "blocked_domains") := by
  unfold applyBlockedDomains at done
  unfold BlockedSettled
  split at done
  next absent =>
    cases done
    exact ⟨fun _ _ => rfl, by rw [if_pos absent]⟩
  next value carried =>
    split at done
    · cases done
    · cases done
    next signed requested signedRead requestedRead =>
      cases done
      rw [← carried] at signedRead
      refine ⟨sameBeside_insert _ _ _, ?_⟩
      rw [if_neg (by simp [carried]), AList.lookup_insert, domainFilters_of_array signedRead,
        domainFilters_of_array requestedRead]

theorem applyNumericCap_spec (done : applyNumericCap scope payload key = .ok next) :
    SameBeside key payload next ∧
      CapSettled (scope.lookup key) (payload.lookup key) (next.lookup key) := by
  unfold applyNumericCap at done
  split at done
  next absent =>
    cases done
    exact ⟨fun _ _ => rfl, .unsigned (by rw [absent]; rfl) rfl⟩
  next null =>
    cases done
    exact ⟨fun _ _ => rfl, .unsigned (by rw [null]; rfl) rfl⟩
  next value notNull carried =>
    split at done
    · cases done
    next signed read =>
      obtain ⟨amount, rfl, converted, positive⟩ := positiveNumber_spec read
      split at done
      next absent =>
        cases done
        exact ⟨sameBeside_insert _ _ _,
          .filled carried converted positive (by rw [absent]; rfl) (AList.lookup_insert _)⟩
      next null =>
        cases done
        exact ⟨sameBeside_insert _ _ _,
          .filled carried converted positive (by rw [null]; rfl) (AList.lookup_insert _)⟩
      next raw rawNotNull given =>
        split at done
        · cases done
        next requested asked =>
          obtain ⟨asking, rfl, reads, above⟩ := positiveNumber_spec asked
          split at done
          · cases done
          next within =>
            cases done
            exact ⟨fun _ _ => rfl,
              .kept carried converted positive given reads above (not_lt.mp within) rfl⟩

theorem applyNumericCaps_spec {keys : List String} (distinct : keys.Nodup)
    (done : applyNumericCaps scope payload keys = .ok next) :
    (∀ key, key ∉ keys → next.lookup key = payload.lookup key) ∧
      ∀ key ∈ keys, CapSettled (scope.lookup key) (payload.lookup key) (next.lookup key) := by
  induction keys generalizing payload with
  | nil =>
    cases done
    simp
  | cons first rest ih =>
    rw [List.nodup_cons] at distinct
    unfold applyNumericCaps at done
    cases capped : applyNumericCap scope payload first with
    | error => simp [capped] at done
    | ok middle =>
      rw [capped] at done
      obtain ⟨apart, settled⟩ := applyNumericCap_spec capped
      obtain ⟨elsewhere, here⟩ := ih distinct.2 done
      constructor
      · intro key absent
        rw [List.mem_cons, not_or] at absent
        rw [elsewhere key absent.2, apart key absent.1]
      · intro key member
        by_cases same : key = first
        · rwa [same, elsewhere first distinct.1]
        · rw [← apart key same]
          exact here key ((List.mem_cons.mp member).resolve_left same)

theorem defaultNumericScopeCapKeys_nodup : defaultNumericScopeCapKeys.Nodup := by decide

theorem domainFilters_congr {first second : Scope} (same : first.lookup key = second.lookup key) :
    domainFilters rules first key = domainFilters rules second key := by
  unfold domainFilters
  rw [same]

theorem effectiveSignedScope_spec {effective : Scope}
    (derived : effectiveSignedScope rules scope payload = .ok effective) :
    Settled rules scope payload effective := by
  unfold effectiveSignedScope at derived
  split at derived
  · cases derived
  next bound first =>
    split at derived
    · cases derived
    next allowed second =>
      split at derived
      · cases derived
      next blocked third =>
        obtain ⟨apartFirst, binding⟩ := applyBindingId_spec first
        obtain ⟨apartSecond, listed⟩ := applyAllowedDomains_spec second
        obtain ⟨apartThird, shut⟩ := applyBlockedDomains_spec third
        obtain ⟨apartLast, capped⟩ := applyNumericCaps_spec defaultNumericScopeCapKeys_nodup derived
        have boundAllowed := apartFirst "allowed_domains" (by decide)
        have allowedBlocked := (apartSecond "blocked_domains" (by decide)).trans
          (apartFirst "blocked_domains" (by decide))
        have kept (key : String) (notBinding : key ≠ "binding_id")
            (notAllowed : key ≠ "allowed_domains") (notBlocked : key ≠ "blocked_domains") :
            blocked.lookup key = payload.lookup key :=
          ((apartThird key notBlocked).trans (apartSecond key notAllowed)).trans
            (apartFirst key notBinding)
        constructor
        · rwa [apartLast _ (by decide), apartThird _ (by decide), apartSecond _ (by decide)]
        · rw [apartLast _ (by decide), apartThird _ (by decide)]
          unfold AllowedSettled at listed ⊢
          rwa [← boundAllowed, domainFilters_congr boundAllowed.symm]
        · rw [apartLast _ (by decide)]
          unfold BlockedSettled at shut ⊢
          rwa [← allowedBlocked, domainFilters_congr allowedBlocked.symm]
        · intro key member
          rw [← kept key (by rintro rfl; revert member; decide)
            (by rintro rfl; revert member; decide) (by rintro rfl; revert member; decide)]
          exact capped key member
        · intro key uncapped notBinding notAllowed notBlocked
          exact (apartLast key uncapped).trans (kept key notBinding notAllowed notBlocked)

end Settled

end MonoidKernel.Scopes
