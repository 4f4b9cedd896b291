import Mathlib.Data.Rat.Lemmas
import MonoidKernel.Core.SignedScope

set_option autoImplicit false

namespace MonoidKernel.Scopes

open Library (IsName)
open MonoidKernel.Capability (truthy)

section Rounding

theorem nearestDouble_of_dvd {n : Nat} (even : 2 ^ (n.size - 53) ∣ n) : nearestDouble n = n := by
  have exact_ : n % 2 ^ (n.size - 53) = 0 := Nat.mod_eq_zero_of_dvd even
  have positive : 0 < 2 ^ (n.size - 53) := Nat.two_pow_pos _
  unfold nearestDouble
  dsimp only
  rw [exact_, if_neg (by omega)]
  exact Nat.div_mul_cancel even

theorem nearestDouble_dvd (n : Nat) :
    2 ^ ((nearestDouble n).size - 53) ∣ nearestDouble n := by
  obtain ⟨excess, width⟩ : ∃ excess, n.size - 53 = excess := ⟨_, rfl⟩
  have short : n / 2 ^ excess < 2 ^ 53 := by
    rw [Nat.div_lt_iff_lt_mul (Nat.two_pow_pos _), ← pow_add]
    exact Nat.lt_of_lt_of_le (Nat.lt_size_self n) (Nat.pow_le_pow_right (by decide) (by omega))
  have rounded : ∃ quotient ≤ 2 ^ 53, nearestDouble n = quotient * 2 ^ excess := by
    unfold nearestDouble
    dsimp only
    rw [width]
    split
    · exact ⟨_, short, rfl⟩
    · exact ⟨_, short.le, rfl⟩
  obtain ⟨quotient, bound, same⟩ := rounded
  rw [same]
  by_cases top : quotient = 2 ^ 53
  · rw [top, ← pow_add, Nat.size_pow]
    exact pow_dvd_pow 2 (by omega)
  · have below : quotient * 2 ^ excess < 2 ^ (53 + excess) := by
      rw [pow_add]
      exact (Nat.mul_lt_mul_right (Nat.two_pow_pos _)).mpr (by omega)
    have narrow := Nat.size_le.mpr below
    exact (pow_dvd_pow 2 (by omega)).trans (Nat.dvd_mul_left _ _)

theorem toFloat_again {amount number : Rat} (read : toFloat amount = some number) :
    toFloat number = some number := by
  unfold toFloat at read
  split at read
  next whole =>
    dsimp only at read
    split at read
    next small =>
      have fixed := nearestDouble_of_dvd (nearestDouble_dvd amount.num.natAbs)
      have read := Option.some.inj read
      generalize nearestDouble amount.num.natAbs = magnitude at *
      unfold toFloat
      split at read
      · subst read
        have den : (-(magnitude : Rat)).den = 1 := by simp
        have num : (-(magnitude : Rat)).num.natAbs = magnitude := by simp
        rw [if_pos den, num]
        dsimp only
        rw [fixed, if_pos small]
        split
        · rfl
        next notNegative =>
          have : magnitude = 0 := by
            by_contra positive
            exact notNegative (by simpa using Nat.pos_of_ne_zero positive)
          simp [this]
      · subst read
        have notNegative : ¬ ((magnitude : Rat) < 0) := by simp
        rw [if_pos (by simp), show (magnitude : Rat).num.natAbs = magnitude by simp]
        dsimp only
        rw [fixed, if_pos small, if_neg notNegative]
    · cases read
  next fraction =>
    cases read
    unfold toFloat
    rw [if_neg fraction]

end Rounding

section Lists

variable (rules : CaseRules)

def Normal (domain : List Char) : Prop :=
  domain ≠ [] ∧ trim domain = domain ∧ rules.lower domain = domain

theorem listedDomains_normal {items : List Value} {domain : List Char}
    (member : domain ∈ listedDomains rules.toTextRules items) : Normal rules domain := by
  simp only [listedDomains, domainTuple, List.mem_map, List.mem_filter] at member
  obtain ⟨text, ⟨_, kept⟩, rfl⟩ := member
  refine ⟨fun empty => ?_, ?_, rules.lower_lower _⟩
  · exact absurd (rules.lower_nonempty _ empty) (by simpa using kept)
  · rw [← rules.lower_trim, trim_trim]

theorem domainFilters_normal {scope : Scope} {key : String} {domain : List Char}
    (member : domain ∈ domainFilters rules.toTextRules scope key) : Normal rules domain := by
  unfold domainFilters at member
  split at member
  next domains read =>
    unfold domainArray at read
    split at read
    · cases read
      exact listedDomains_normal rules member
    · cases read
  · cases member

variable {domains : List (List Char)}

theorem domainTuple_normal (normal : ∀ domain ∈ domains, Normal rules domain) :
    domainTuple rules.toTextRules domains = domains := by
  induction domains with
  | nil => rfl
  | cons first rest ih =>
    have later := ih fun domain member => normal domain (List.mem_cons_of_mem _ member)
    obtain ⟨nonempty, trimmed, lowered⟩ := normal first List.mem_cons_self
    unfold domainTuple at later ⊢
    rw [List.filter_cons_of_pos (by simpa [trimmed] using nonempty), List.map_cons, later, trimmed,
      lowered]

theorem texts_str (domains : List (List Char)) :
    (domains.map fun domain => Value.text (String.ofList domain)).map rules.str = domains := by
  induction domains with
  | nil => rfl
  | cons first rest ih => simp [rules.str_text, ih]

theorem listedDomains_list (normal : ∀ domain ∈ domains, Normal rules domain) :
    listedDomains rules.toTextRules
      (domains.map fun domain => .text (String.ofList domain)) = domains := by
  rw [listedDomains, texts_str, domainTuple_normal rules normal]

theorem domainArray_list (normal : ∀ domain ∈ domains, Normal rules domain) :
    domainArray rules.toTextRules (orEmpty (some (domainList domains))) = .ok domains := by
  cases domains with
  | nil => simp [domainList, orEmpty, truthy, domainArray, listedDomains, domainTuple]
  | cons first rest =>
    have same := listedDomains_list rules normal
    simpa [domainList, orEmpty, truthy, domainArray] using same

theorem domainFilters_list {scope : Scope} {key : String}
    (normal : ∀ domain ∈ domains, Normal rules domain)
    (written : scope.lookup key = some (domainList domains)) :
    domainFilters rules.toTextRules scope key = domains :=
  domainFilters_of_array (written ▸ domainArray_list rules normal)

theorem stringTuple_list (normal : ∀ domain ∈ domains, Normal rules domain) :
    stringTuple rules.toTextRules (domains.map fun domain => .text (String.ofList domain)) =
      domains := by
  induction domains with
  | nil => rfl
  | cons first rest ih =>
    have later := ih fun domain member => normal domain (List.mem_cons_of_mem _ member)
    obtain ⟨nonempty, trimmed, _⟩ := normal first List.mem_cons_self
    unfold stringTuple at later ⊢
    simp only [List.map_cons, rules.str_text, String.toList_ofList, trimmed]
    rw [List.filter_cons_of_pos (by simpa using nonempty), later]

theorem domainTuple_stringTuple (items : List Value) :
    domainTuple rules.toTextRules (stringTuple rules.toTextRules items) =
      listedDomains rules.toTextRules items := by
  induction items with
  | nil => rfl
  | cons first rest ih =>
    unfold listedDomains domainTuple stringTuple at ih ⊢
    by_cases blank : trim (rules.str first) = []
    · simpa [blank, List.filter_cons] using ih
    · simpa [blank, List.filter_cons, trim_trim] using ih

theorem domainPatternsWithin_congr {requested first second : List (List Char)}
    (same : domainTuple rules.toTextRules first = domainTuple rules.toTextRules second) :
    domainPatternsWithin rules.toTextRules requested first =
      domainPatternsWithin rules.toTextRules requested second := by
  unfold domainPatternsWithin
  rw [same]

theorem domainPatternWithin_refl (text : List Char) :
    domainPatternWithin rules.toTextRules text text = true := by
  unfold domainPatternWithin
  dsimp only
  split
  · rfl
  · simp

theorem domainPatternsWithin_refl (domains : List (List Char)) :
    domainPatternsWithin rules.toTextRules domains domains = true := by
  unfold domainPatternsWithin
  dsimp only
  split
  · rfl
  · rw [List.all_eq_true]
    intro domain member
    rw [List.any_eq_true]
    exact ⟨domain, member, domainPatternWithin_refl rules domain⟩

end Lists

section Domains

variable (rules : CaseRules)

def Admits (scope : Scope) (host : List Char) : Prop :=
  domainAllowed rules.toTextRules host (domainFilters rules.toTextRules scope "allowed_domains")
    (domainFilters rules.toTextRules scope "blocked_domains") = true

variable {host : List Char}

theorem domainAllowed_narrows {allowed blocked wider fewer : List (List Char)}
    (shut : fewer ⊆ blocked)
    (listed : ∀ name, IsName '.' (LowerCase rules.toTextRules) name → wider ≠ [] →
      allowed ≠ [] ∧ ((∃ pattern ∈ allowed, domainMatches rules.toTextRules name pattern = true) →
        ∃ pattern ∈ wider, domainMatches rules.toTextRules name pattern = true))
    (admitted : domainAllowed rules.toTextRules host allowed blocked = true) :
    domainAllowed rules.toTextRules host wider fewer = true := by
  unfold domainAllowed at admitted ⊢
  dsimp only at admitted ⊢
  split at admitted
  · cases admitted
  next nonempty =>
    rw [if_neg nonempty]
    have isName := (Domain.ofHost rules.toTextRules host nonempty).isName
    split at admitted
    · cases admitted
    next unblocked =>
      split at admitted
      · cases admitted
      next selected =>
        have unblockedStill : ¬ fewer.any
            (domainMatches rules.toTextRules (strip (· == '.') (rules.lower host))) = true := by
          intro blockedNow
          rw [List.any_eq_true] at blockedNow unblocked
          obtain ⟨pattern, member, found⟩ := blockedNow
          exact unblocked ⟨pattern, shut member, found⟩
        have selectedStill : ¬ (wider ≠ [] ∧ ¬ wider.any
            (domainMatches rules.toTextRules (strip (· == '.') (rules.lower host))) = true) := by
          intro ⟨some_, none_⟩
          obtain ⟨limited, widens⟩ := listed _ isName some_
          have inside : ∃ pattern ∈ allowed,
              domainMatches rules.toTextRules (strip (· == '.') (rules.lower host)) pattern := by
            by_contra outside
            refine selected ⟨limited, ?_⟩
            rw [List.any_eq_true]
            exact outside
          refine none_ ?_
          rw [List.any_eq_true]
          exact widens inside
        rw [if_neg unblockedStill, if_neg selectedStill]

theorem within_matches {requested signed : List (List Char)}
    (normal : ∀ domain ∈ requested, Normal rules domain)
    (signedNormal : ∀ domain ∈ signed, Normal rules domain)
    (within : domainPatternsWithin rules.toTextRules requested signed = true) {name : List Char}
    (isName : IsName '.' (LowerCase rules.toTextRules) name)
    (selected : ∃ pattern ∈ requested, domainMatches rules.toTextRules name pattern = true) :
    ∃ pattern ∈ signed, domainMatches rules.toTextRules name pattern = true := by
  obtain ⟨text, member, found⟩ := selected
  rw [← stringTuple_list rules normal, ← stringTuple_list rules signedNormal] at within
  rw [domainMatches_spec] at found
  have item : Value.text (String.ofList text) ∈
      requested.map fun domain => .text (String.ofList domain) :=
    List.mem_map_of_mem member
  obtain ⟨other, present, reached⟩ := domainPatternsWithin_sound rules.toTextRules within isName
    item (by simpa [rules.str_text] using found)
  obtain ⟨domain, signedMember, rfl⟩ := List.mem_map.mp present
  refine ⟨domain, signedMember, ?_⟩
  rw [domainMatches_spec]
  simpa [rules.str_text] using reached

variable {rules} {scope payload effective : Scope}

theorem Settled.allowed_cases (settled : Settled rules.toTextRules scope payload effective) :
    domainFilters rules.toTextRules scope "allowed_domains" = [] ∧
      domainFilters rules.toTextRules effective "allowed_domains" =
        domainFilters rules.toTextRules payload "allowed_domains" ∨
    domainFilters rules.toTextRules payload "allowed_domains" = [] ∧
      domainFilters rules.toTextRules effective "allowed_domains" =
        domainFilters rules.toTextRules scope "allowed_domains" ∨
    domainFilters rules.toTextRules payload "allowed_domains" ≠ [] ∧
      domainFilters rules.toTextRules effective "allowed_domains" =
        domainFilters rules.toTextRules payload "allowed_domains" ∧
      domainPatternsWithin rules.toTextRules
        (domainFilters rules.toTextRules payload "allowed_domains")
        (domainFilters rules.toTextRules scope "allowed_domains") = true := by
  rcases settled.allowed with ⟨open_, kept⟩ | ⟨_, _, ⟨absent, filled⟩ | ⟨given, kept, within⟩⟩
  · exact .inl ⟨open_, domainFilters_congr kept⟩
  · exact .inr (.inl ⟨absent,
      domainFilters_list rules (fun _ member => domainFilters_normal rules member) filled⟩)
  · exact .inr (.inr ⟨given,
      domainFilters_list rules (fun _ member => domainFilters_normal rules member) kept, within⟩)

theorem Settled.blocked_both (settled : Settled rules.toTextRules scope payload effective) :
    domainFilters rules.toTextRules scope "blocked_domains" ⊆
        domainFilters rules.toTextRules effective "blocked_domains" ∧
      domainFilters rules.toTextRules payload "blocked_domains" ⊆
        domainFilters rules.toTextRules effective "blocked_domains" := by
  have settled := settled.blocked
  unfold BlockedSettled at settled
  split at settled
  next absent =>
    rw [domainFilters_absent absent, domainFilters_congr settled]
    exact ⟨List.nil_subset _, List.Subset.refl _⟩
  · have normal : ∀ domain ∈ (domainFilters rules.toTextRules scope "blocked_domains" ++
        domainFilters rules.toTextRules payload "blocked_domains").eraseDups,
        Normal rules domain := by
      intro domain member
      rw [List.mem_eraseDups, List.mem_append] at member
      exact member.elim (domainFilters_normal rules) (domainFilters_normal rules)
    rw [domainFilters_list rules normal settled]
    constructor
    · exact fun domain member => List.mem_eraseDups.mpr (List.mem_append_left _ member)
    · exact fun domain member => List.mem_eraseDups.mpr (List.mem_append_right _ member)

theorem Settled.admits_signed (settled : Settled rules.toTextRules scope payload effective)
    (admitted : Admits rules effective host) : Admits rules scope host := by
  refine domainAllowed_narrows rules settled.blocked_both.1 (fun name isName limited => ?_) admitted
  rcases settled.allowed_cases with ⟨open_, _⟩ | ⟨_, same⟩ | ⟨given, same, within⟩
  · exact absurd open_ limited
  · exact ⟨same ▸ limited, fun found => same ▸ found⟩
  · refine ⟨same ▸ given, fun found => ?_⟩
    rw [same] at found
    exact within_matches rules (fun _ member => domainFilters_normal rules member)
      (fun _ member => domainFilters_normal rules member) within isName found

theorem Settled.admits_requested (settled : Settled rules.toTextRules scope payload effective)
    (admitted : Admits rules effective host) : Admits rules payload host := by
  refine domainAllowed_narrows rules settled.blocked_both.2 (fun name _ limited => ?_) admitted
  rcases settled.allowed_cases with ⟨_, same⟩ | ⟨absent, _⟩ | ⟨_, same, _⟩
  · exact ⟨same ▸ limited, fun found => same ▸ found⟩
  · exact absurd absent limited
  · exact ⟨same ▸ limited, fun found => same ▸ found⟩

end Domains

section Within

variable (rules : CaseRules) (scope payload : Scope)

def Ungoverned (key : String) (signed : Value) : Prop :=
  (key = "binding_id" → bindingText rules.toTextRules scope = []) ∧
  (key = "allowed_domains" → domainFilters rules.toTextRules scope key = []) ∧
  key ≠ "blocked_domains" ∧ (key ∈ defaultNumericScopeCapKeys → signed = .null)

-- What a signed entry and the payload have to agree on for the relation to hold afterwards: a
-- signed binding id is a trimmed text, every domain either side blocks is an item of the signed
-- block-list, and an entry that the derivation leaves alone is within the signed one.
structure KeyAgrees (key : String) (signed : Value) : Prop where
  binding : key = "binding_id" → bindingText rules.toTextRules scope ≠ [] →
    signed = .text (String.ofList (bindingText rules.toTextRules scope))
  blocked : key = "blocked_domains" → ∃ items, signed = .array items ∧
    (∀ item ∈ items, item.hashable = true) ∧
    ∀ domain, domain ∈ domainFilters rules.toTextRules scope key ∨
      domain ∈ domainFilters rules.toTextRules payload key →
      Value.text (String.ofList domain) ∈ items
  ungoverned : Ungoverned rules scope key signed →
    ∀ requested, payload.lookup key = some requested →
      keyWithin rules.toTextRules key requested signed = .ok true

def Agrees : Prop :=
  ∀ key signed, scope.lookup key = some signed → KeyAgrees rules scope payload key signed

variable {rules scope payload} {effective : Scope}

variable {value : Value}

theorem plain_text {text : String} :
    (Value.text text).plain = value.plain ↔ value = .text text := by
  cases value <;> simp [Value.plain, eq_comm]

theorem keyWithin_text (key text : String) (value : Value) :
    keyWithin rules.toTextRules key (.text text) value = .ok true ↔ value = .text text := by
  have noCap : numericCapWithin (.text text) value = false := by cases value <;> rfl
  cases value <;> simp [keyWithin, noCap, plain_text]

theorem keyWithin_blocked {domains : List (List Char)} :
    keyWithin rules.toTextRules "blocked_domains" (domainList domains) value = .ok true ↔
      ∃ items, value = .array items ∧ (∀ item ∈ items, item.hashable = true) ∧
        ∀ domain ∈ domains, Value.text (String.ofList domain) ∈ items := by
  cases value with
  | array items =>
    have texts : (domains.map fun domain => Value.text (String.ofList domain)).all
        Value.hashable = true := by
      simp [Value.hashable]
    simp only [keyWithin, domainList, texts, Bool.true_and]
    rw [if_neg (by decide)]
    by_cases hashable : items.all Value.hashable = true
    · rw [if_pos hashable]
      simp only [Except.ok.injEq, List.all_map, List.all_eq_true, Function.comp_apply,
        List.any_eq_true, decide_eq_true_eq, plain_text]
      constructor
      · intro every
        refine ⟨items, rfl, by simpa using hashable, fun domain member => ?_⟩
        obtain ⟨item, present, rfl⟩ := every domain member
        exact present
      · rintro ⟨others, same, _, every⟩ domain member
        cases same
        exact ⟨_, every domain member, rfl⟩
    · rw [if_neg hashable]
      constructor
      · intro impossible
        cases impossible
      · rintro ⟨others, same, every, _⟩
        cases same
        exact absurd (by simpa using every) hashable
  | null => simp [keyWithin, domainList, numericCapWithin, Value.plain]
  | bool => simp [keyWithin, domainList, numericCapWithin, Value.plain]
  | number => simp [keyWithin, domainList, numericCapWithin, Value.plain]
  | text => simp [keyWithin, domainList, numericCapWithin, Value.plain]
  | object => simp [keyWithin, domainList, numericCapWithin, Value.plain]

variable {signed : Value}

theorem keyWithin_allowed {domains : List (List Char)}
    (carried : scope.lookup "allowed_domains" = some signed)
    (limited : domainFilters rules.toTextRules scope "allowed_domains" ≠ [])
    (normal : ∀ domain ∈ domains, Normal rules domain)
    (within : domainPatternsWithin rules.toTextRules domains
      (domainFilters rules.toTextRules scope "allowed_domains") = true) :
    keyWithin rules.toTextRules "allowed_domains" (domainList domains) signed = .ok true := by
  obtain ⟨items, rfl, listed⟩ : ∃ items, signed = .array items ∧
      domainFilters rules.toTextRules scope "allowed_domains" =
        listedDomains rules.toTextRules items := by
    unfold domainFilters orEmpty at limited ⊢
    rw [carried] at limited ⊢
    dsimp only at limited ⊢
    by_cases kept : truthy signed = true
    · rw [if_pos kept] at limited ⊢
      cases signed with
      | array items => exact ⟨items, rfl, rfl⟩
      | null => exact absurd rfl limited
      | bool => exact absurd rfl limited
      | number => exact absurd rfl limited
      | text => exact absurd rfl limited
      | object => exact absurd rfl limited
    · rw [if_neg kept] at limited
      exact absurd rfl limited
  have tuple : domainTuple rules.toTextRules (stringTuple rules.toTextRules items) =
      domainTuple rules.toTextRules (domainFilters rules.toTextRules scope "allowed_domains") := by
    rw [domainTuple_normal rules fun _ member => domainFilters_normal rules member,
      domainTuple_stringTuple, listed]
  simp only [keyWithin, domainList, if_true, stringTuple_list rules normal,
    domainPatternsWithin_congr rules tuple, within]

theorem keyWithin_cap {key : String} (member : key ∈ defaultNumericScopeCapKeys)
    {inner outer narrow wide : Rat} (innerRead : toFloat inner = some narrow)
    (outerRead : toFloat outer = some wide) (within : narrow ≤ wide) :
    keyWithin rules.toTextRules key (.number inner) (.number outer) = .ok true := by
  have capped : numericCapWithin (.number inner) (.number outer) = true := by
    simp [numericCapWithin, innerRead, outerRead, within]
  simp [keyWithin, member, capped]

theorem isNone_iff {value : Option Value} : isNone value = true ↔
    value = none ∨ value = some .null := by
  unfold isNone
  split <;> simp_all

theorem Settled.within_of_agrees (settled : Settled rules.toTextRules scope payload effective)
    {key : String} (carried : scope.lookup key = some signed)
    (agrees : KeyAgrees rules scope payload key signed)
    (derived : effective.lookup key = some value) :
    keyWithin rules.toTextRules key value signed = .ok true := by
  by_cases isBinding : key = "binding_id"
  · subst isBinding
    have settled := settled.binding
    unfold BindingSettled at settled
    split at settled
    next blank =>
      exact agrees.ungoverned ⟨fun _ => blank, fun same => absurd same (by decide), by decide,
        fun capped => absurd capped (by decide)⟩ value (settled ▸ derived)
    next nonempty =>
      rw [settled, Option.some.injEq] at derived
      exact derived ▸ (keyWithin_text _ _ _).mpr (agrees.binding rfl nonempty)
  by_cases isAllowed : key = "allowed_domains"
  · subst isAllowed
    rcases settled.allowed with ⟨open_, kept⟩ | ⟨limited, _, ⟨_, filled⟩ | ⟨_, kept, within⟩⟩
    · exact agrees.ungoverned ⟨fun same => absurd same (by decide), fun _ => open_, by decide,
        fun capped => absurd capped (by decide)⟩ value (kept ▸ derived)
    · rw [filled, Option.some.injEq] at derived
      exact derived ▸ keyWithin_allowed carried limited
        (fun _ member => domainFilters_normal rules member) (domainPatternsWithin_refl rules _)
    · rw [kept, Option.some.injEq] at derived
      exact derived ▸ keyWithin_allowed carried limited
        (fun _ member => domainFilters_normal rules member) within
  by_cases isBlocked : key = "blocked_domains"
  · subst isBlocked
    have settled := settled.blocked
    unfold BlockedSettled at settled
    rw [if_neg (by simp [carried]), derived, Option.some.injEq] at settled
    obtain ⟨items, same, hashable, every⟩ := agrees.blocked rfl
    rw [settled, keyWithin_blocked]
    exact ⟨items, same, hashable, fun domain member =>
      every domain (by simpa [List.mem_eraseDups] using member)⟩
  by_cases isCap : key ∈ defaultNumericScopeCapKeys
  · cases settled.capped key isCap with
    | unsigned absent kept =>
      have null : signed = .null := by
        rw [carried, isNone_iff] at absent
        simpa using absent
      exact agrees.ungoverned ⟨fun same => absurd same isBinding, fun same => absurd same isAllowed,
        isBlocked, fun _ => null⟩ value (kept ▸ derived)
    | filled set read positive absent filled =>
      rw [carried, Option.some.injEq] at set
      rw [derived, Option.some.injEq] at filled
      exact set ▸ filled ▸ keyWithin_cap isCap (toFloat_again read) read le_rfl
    | kept set read positive given reads above within kept =>
      rw [carried, Option.some.injEq] at set
      rw [kept, given, Option.some.injEq] at derived
      exact set ▸ derived ▸ keyWithin_cap isCap reads read within
  · have kept := settled.other key isCap isBinding isAllowed isBlocked
    exact agrees.ungoverned ⟨fun same => absurd same isBinding, fun same => absurd same isAllowed,
      isBlocked, fun capped => absurd capped isCap⟩ value (kept ▸ derived)

theorem Settled.agrees_of_within (settled : Settled rules.toTextRules scope payload effective)
    {key : String} (carried : scope.lookup key = some signed)
    (within : ∀ value, effective.lookup key = some value →
      keyWithin rules.toTextRules key value signed = .ok true) :
    KeyAgrees rules scope payload key signed := by
  constructor
  · rintro rfl nonempty
    have settled := settled.binding
    unfold BindingSettled at settled
    rw [if_neg nonempty] at settled
    exact (keyWithin_text _ _ _).mp (within _ settled)
  · rintro rfl
    have settled := settled.blocked
    unfold BlockedSettled at settled
    rw [if_neg (by simp [carried])] at settled
    obtain ⟨items, same, hashable, every⟩ := keyWithin_blocked.mp (within _ settled)
    exact ⟨items, same, hashable, fun domain member =>
      every domain (by simpa [List.mem_eraseDups] using member)⟩
  · intro ⟨blank, open_, notBlocked, null⟩ requested asked
    apply within
    rw [← asked]
    by_cases isBinding : key = "binding_id"
    · subst isBinding
      have settled := settled.binding
      unfold BindingSettled at settled
      rwa [if_pos (blank rfl)] at settled
    by_cases isAllowed : key = "allowed_domains"
    · subst isAllowed
      rcases settled.allowed with ⟨_, kept⟩ | ⟨limited, _⟩
      · exact kept
      · exact absurd (open_ rfl) limited
    by_cases isCap : key ∈ defaultNumericScopeCapKeys
    · have null := null isCap
      cases settled.capped key isCap with
      | unsigned absent kept => exact kept
      | filled set => simp [carried, null] at set
      | kept set => simp [carried, null] at set
    · exact settled.other key isCap isBinding isAllowed notBlocked

theorem Settled.scopeWithin_iff (settled : Settled rules.toTextRules scope payload effective) :
    scopeWithin rules.toTextRules effective scope = .ok true ↔ Agrees rules scope payload := by
  rw [scopeWithin_spec]
  constructor
  · intro accepted key signed carried
    refine settled.agrees_of_within carried fun value derived => ?_
    by_contra refused
    exact accepted ⟨key, value, signed, derived, carried, refused⟩
  · intro agrees ⟨key, value, signed, derived, carried, refused⟩
    exact refused (settled.within_of_agrees carried (agrees key signed carried) derived)

end Within

section Again

variable {rules : CaseRules} {scope payload next again : Scope}

def SameEntries (first second : Scope) : Prop :=
  ∀ key, first.lookup key = second.lookup key

theorem sameEntries_insert {key : String} {value : Value}
    (present : again.lookup key = some value) :
    SameEntries (again.insert key value) again := by
  intro other
  by_cases same : other = key
  · rw [same, AList.lookup_insert, present]
  · exact AList.lookup_insert_ne same

theorem bindingText_trimmed (scope : Scope) :
    trim (bindingText rules.toTextRules scope) = bindingText rules.toTextRules scope := by
  unfold bindingText
  repeat' split
  all_goals first | rfl | exact trim_trim _

theorem bindingText_written {text : List Char} (nonempty : text ≠ []) (trimmed : trim text = text)
    (written : scope.lookup "binding_id" = some (.text (String.ofList text))) :
    bindingText rules.toTextRules scope = text := by
  simp [bindingText, written, truthy, rules.str_text, nonempty, trimmed]

theorem applyBindingId_again (done : applyBindingId rules.toTextRules scope payload = .ok next)
    (same : again.lookup "binding_id" = next.lookup "binding_id") :
    ∃ last, applyBindingId rules.toTextRules scope again = .ok last ∧ SameEntries last again := by
  have settled := (applyBindingId_spec done).2
  unfold BindingSettled at settled
  simp only [applyBindingId]
  split at settled
  next blank =>
    rw [if_pos blank]
    exact ⟨again, rfl, fun _ => rfl⟩
  next signed =>
    rw [if_neg signed]
    rw [← same] at settled
    have read : bindingText rules.toTextRules again = bindingText rules.toTextRules scope :=
      bindingText_written signed (bindingText_trimmed scope) settled
    rw [if_neg (by rw [read]; simp)]
    exact ⟨_, rfl, sameEntries_insert settled⟩

theorem applyAllowedDomains_again
    (done : applyAllowedDomains rules.toTextRules scope payload = .ok next)
    (same : again.lookup "allowed_domains" = next.lookup "allowed_domains") :
    ∃ last, applyAllowedDomains rules.toTextRules scope again = .ok last ∧
      SameEntries last again := by
  have settled := (applyAllowedDomains_spec done).2
  rw [← same] at settled
  unfold applyAllowedDomains at done ⊢
  split at done
  next absent => exact ⟨again, rfl, fun _ => rfl⟩
  next value carried =>
    split at done
    · cases done
    · cases done
    next signed requested signedRead requestedRead =>
      have signedIs := domainFilters_of_array (carried ▸ signedRead)
      have requestedIs := domainFilters_of_array requestedRead
      rcases settled with ⟨open_, kept⟩ | ⟨limited, _, ⟨absent, filled⟩ | ⟨given, kept, within⟩⟩
      · rw [kept, signedRead, requestedRead, ← signedIs, open_]
        simp only [ne_eq, not_true_eq_false, false_and, if_false, if_true]
        exact ⟨again, rfl, fun _ => rfl⟩
      · rw [signedRead, filled, domainArray_list rules
          (fun _ member => domainFilters_normal rules member), ← signedIs]
        dsimp only
        rw [if_neg (by simp [domainPatternsWithin_refl]), if_neg limited, if_neg limited]
        exact ⟨_, rfl, sameEntries_insert filled⟩
      · rw [signedRead, kept, domainArray_list rules
          (fun _ member => domainFilters_normal rules member), ← signedIs]
        dsimp only
        rw [if_neg (by simp [within]), if_neg limited, if_neg given]
        exact ⟨_, rfl, sameEntries_insert kept⟩

theorem eraseDups_eraseDups : ∀ domains : List (List Char),
    domains.eraseDups.eraseDups = domains.eraseDups
  | [] => rfl
  | first :: rest => by
    rw [List.eraseDups_cons, List.eraseDups_cons]
    have apart : ((rest.filter fun domain => !domain == first).eraseDups).filter
        (fun domain => !domain == first) =
        (rest.filter fun domain => !domain == first).eraseDups := by
      rw [List.filter_eq_self]
      intro domain member
      rw [List.mem_eraseDups, List.mem_filter] at member
      exact member.2
    rw [apart, eraseDups_eraseDups]
termination_by domains => domains.length
decreasing_by exact Nat.lt_succ_of_le (List.length_filter_le _ _)

theorem eraseDups_again (signed requested : List (List Char)) :
    (signed ++ (signed ++ requested).eraseDups).eraseDups = (signed ++ requested).eraseDups := by
  have fresh : (signed ++ requested).eraseDups.removeAll signed =
      (requested.removeAll signed).eraseDups := by
    rw [List.eraseDups_append]
    unfold List.removeAll
    rw [List.filter_append]
    have none : signed.eraseDups.filter (fun domain => !signed.elem domain) = [] := by
      rw [List.filter_eq_nil_iff]
      intro domain member
      simpa [List.mem_eraseDups] using member
    have all : ((requested.filter fun domain => !signed.elem domain).eraseDups).filter
        (fun domain => !signed.elem domain) =
        (requested.filter fun domain => !signed.elem domain).eraseDups := by
      rw [List.filter_eq_self]
      intro domain member
      rw [List.mem_eraseDups, List.mem_filter] at member
      exact member.2
    rw [none, all, List.nil_append]
  rw [List.eraseDups_append, fresh, eraseDups_eraseDups, ← List.eraseDups_append]

theorem applyBlockedDomains_again
    (done : applyBlockedDomains rules.toTextRules scope payload = .ok next)
    (same : again.lookup "blocked_domains" = next.lookup "blocked_domains") :
    ∃ last, applyBlockedDomains rules.toTextRules scope again = .ok last ∧
      SameEntries last again := by
  have settled := (applyBlockedDomains_spec done).2
  unfold BlockedSettled at settled
  rw [← same] at settled
  unfold applyBlockedDomains at done ⊢
  split at done
  next absent => exact ⟨again, rfl, fun _ => rfl⟩
  next value carried =>
    rw [if_neg (by simp [carried])] at settled
    split at done
    · cases done
    · cases done
    next signed requested signedRead requestedRead =>
      have signedIs := domainFilters_of_array (carried ▸ signedRead)
      have requestedIs := domainFilters_of_array requestedRead
      rw [signedIs, requestedIs] at settled
      have normal : ∀ domain ∈ (signed ++ requested).eraseDups, Normal rules domain := by
        intro domain member
        rw [List.mem_eraseDups, List.mem_append, ← signedIs, ← requestedIs] at member
        exact member.elim (domainFilters_normal rules) (domainFilters_normal rules)
      rw [signedRead, settled, domainArray_list rules normal]
      dsimp only
      rw [eraseDups_again]
      exact ⟨_, rfl, sameEntries_insert settled⟩

theorem applyNumericCap_again {key : String} (done : applyNumericCap scope payload key = .ok next)
    (same : again.lookup key = next.lookup key) :
    applyNumericCap scope again key = .ok again := by
  have settled := (applyNumericCap_spec done).2
  rw [← same] at settled
  unfold applyNumericCap
  cases settled with
  | unsigned absent kept =>
    rcases isNone_iff.mp absent with none | null
    · simp only [none]
    · simp only [null]
  | filled set read positive absent filled =>
    simp only [set, filled, positiveNumber_reads _ _ read positive,
      positiveNumber_reads _ _ (toFloat_again read) positive, lt_irrefl, if_false]
  | kept set read positive given reads above within kept =>
    rw [given] at kept
    simp only [set, kept, positiveNumber_reads _ _ read positive,
      positiveNumber_reads _ _ reads above, not_lt.mpr within, if_false]

theorem applyNumericCaps_again {keys : List String} (distinct : keys.Nodup)
    (done : applyNumericCaps scope payload keys = .ok next)
    (same : ∀ key ∈ keys, again.lookup key = next.lookup key) :
    applyNumericCaps scope again keys = .ok again := by
  induction keys generalizing payload with
  | nil => rfl
  | cons first rest ih =>
    rw [List.nodup_cons] at distinct
    unfold applyNumericCaps at done ⊢
    cases capped : applyNumericCap scope payload first with
    | error => simp [capped] at done
    | ok middle =>
      rw [capped] at done
      have here : again.lookup first = middle.lookup first := by
        rw [same first List.mem_cons_self,
          (applyNumericCaps_spec distinct.2 done).1 first distinct.1]
      rw [applyNumericCap_again capped here]
      exact ih distinct.2 done fun key member => same key (List.mem_cons_of_mem _ member)

theorem effectiveSignedScope_again {effective : Scope}
    (derived : effectiveSignedScope rules.toTextRules scope payload = .ok effective) :
    ∃ last, effectiveSignedScope rules.toTextRules scope effective = .ok last ∧
      SameEntries last effective := by
  unfold effectiveSignedScope at derived
  split at derived
  · cases derived
  next bound first =>
    split at derived
    · cases derived
    next allowed second =>
      split at derived
      · cases derived
      next blocked third =>
        have apartSecond := (applyAllowedDomains_spec second).1
        have apartThird := (applyBlockedDomains_spec third).1
        have apartLast := (applyNumericCaps_spec defaultNumericScopeCapKeys_nodup derived).1
        have keptBinding : effective.lookup "binding_id" = bound.lookup "binding_id" := by
          rw [apartLast _ (by decide), apartThird _ (by decide), apartSecond _ (by decide)]
        obtain ⟨firstAgain, firstDone, firstSame⟩ := applyBindingId_again first keptBinding
        have keptAllowed :
            firstAgain.lookup "allowed_domains" = allowed.lookup "allowed_domains" := by
          rw [firstSame, apartLast _ (by decide), apartThird _ (by decide)]
        obtain ⟨secondAgain, secondDone, secondSame⟩ :=
          applyAllowedDomains_again second keptAllowed
        have keptBlocked :
            secondAgain.lookup "blocked_domains" = blocked.lookup "blocked_domains" := by
          rw [secondSame, firstSame, apartLast _ (by decide)]
        obtain ⟨thirdAgain, thirdDone, thirdSame⟩ := applyBlockedDomains_again third keptBlocked
        refine ⟨thirdAgain, ?_, fun key => by rw [thirdSame, secondSame, firstSame]⟩
        unfold effectiveSignedScope
        simp only [firstDone, secondDone, thirdDone]
        exact applyNumericCaps_again defaultNumericScopeCapKeys_nodup derived fun key _ => by
          rw [thirdSame, secondSame, firstSame]

end Again

section Ceiling

-- Each cap that is signed is exactly at least the one asked for, or the one filled in.
def CapsExact (scope payload : Scope) : Prop :=
  ∀ key ∈ defaultNumericScopeCapKeys, ∀ limit, scope.lookup key = some (.number limit) →
    (isNone (payload.lookup key) = true → ∀ wide, toFloat limit = some wide → wide ≤ limit) ∧
    ∀ asked, payload.lookup key = some (.number asked) → asked ≤ limit

structure Narrows (rules : CaseRules) (scope payload effective : Scope) : Prop where
  domains : ∀ host, Admits rules effective host → Admits rules scope host ∧
    Admits rules payload host
  caps : ∀ key ∈ defaultNumericScopeCapKeys, ∀ limit, scope.lookup key = some (.number limit) →
    ∃ cap, effective.lookup key = some (.number cap) ∧ cap ≤ limit
  binding : bindingText rules.toTextRules scope ≠ [] → effective.lookup "binding_id" =
    some (.text (String.ofList (bindingText rules.toTextRules scope)))
  within : scopeWithin rules.toTextRules effective scope = .ok true
  again : ∃ again, effectiveSignedScope rules.toTextRules scope effective = .ok again ∧
    SameEntries again effective

theorem Settled.caps_iff {rules : CaseRules} {scope payload effective : Scope}
    (settled : Settled rules.toTextRules scope payload effective) :
    (∀ key ∈ defaultNumericScopeCapKeys, ∀ limit, scope.lookup key = some (.number limit) →
      ∃ cap, effective.lookup key = some (.number cap) ∧ cap ≤ limit) ↔
        CapsExact scope payload := by
  unfold CapsExact
  refine forall₂_congr fun key member => forall₂_congr fun limit carried => ?_
  cases settled.capped key member with
  | unsigned absent =>
    rw [carried] at absent
    cases absent
  | filled set read positive absent filled =>
    rw [carried, Option.some.injEq, Value.number.injEq] at set
    subst set
    constructor
    · rintro ⟨cap, given, below⟩
      rw [filled, Option.some.injEq, Value.number.injEq] at given
      subst given
      refine ⟨fun _ wide wideRead => ?_, fun asked given => ?_⟩
      · rw [read, Option.some.injEq] at wideRead
        exact wideRead ▸ below
      · rw [given] at absent
        cases absent
    · exact fun exact_ => ⟨_, filled, exact_.1 absent _ read⟩
  | kept set read positive asked reads above within kept =>
    rw [carried, Option.some.injEq, Value.number.injEq] at set
    subst set
    constructor
    · rintro ⟨cap, given, below⟩
      rw [kept, asked, Option.some.injEq, Value.number.injEq] at given
      subst given
      refine ⟨fun absent => ?_, fun other given => ?_⟩
      · rw [asked] at absent
        cases absent
      · rw [asked, Option.some.injEq, Value.number.injEq] at given
        exact given ▸ below
    · exact fun exact_ => ⟨_, kept.trans asked, exact_.2 _ asked⟩

theorem effective_narrows_iff (rules : CaseRules) {scope payload effective : Scope}
    (derived : effectiveSignedScope rules.toTextRules scope payload = .ok effective) :
    Narrows rules scope payload effective ↔
      Agrees rules scope payload ∧ CapsExact scope payload := by
  have settled := effectiveSignedScope_spec derived
  rw [← settled.scopeWithin_iff, ← settled.caps_iff]
  constructor
  · exact fun narrows => ⟨narrows.within, narrows.caps⟩
  · rintro ⟨within, caps⟩
    refine ⟨fun host admitted => ?_, caps, fun nonempty => ?_, within,
      effectiveSignedScope_again derived⟩
    · exact ⟨settled.admits_signed admitted, settled.admits_requested admitted⟩
    · have binding := settled.binding
      unfold BindingSettled at binding
      rwa [if_neg nonempty] at binding

def asciiCase : CaseRules where
  toTextRules := Capability.asciiRules
  lower_nonempty := by simp [Capability.asciiRules]

def signedSearch : Scope :=
  ([⟨"binding_id", .text "docs"⟩, ⟨"allowed_domains", .array [.text "*.example.test"]⟩,
    ⟨"max_results", .number 5⟩] : List (Sigma fun _ : String => Value)).toAList

def narrowerSearch : Scope :=
  ([⟨"allowed_domains", .array [.text "Docs.example.test"]⟩, ⟨"max_results", .number 2⟩] :
    List (Sigma fun _ : String => Value)).toAList

theorem narrowerSearch_accepted :
    ∃ effective, effectiveSignedScope asciiCase.toTextRules signedSearch narrowerSearch =
      .ok effective ∧ scopeWithin asciiCase.toTextRules effective signedSearch = .ok true := by
  have accepted : (effectiveSignedScope asciiCase.toTextRules signedSearch
      narrowerSearch).toOption.map (scopeWithin asciiCase.toTextRules · signedSearch) =
      some (.ok true) := by
    decide +kernel
  cases derived : effectiveSignedScope asciiCase.toTextRules signedSearch narrowerSearch with
  | ok effective =>
    rw [derived] at accepted
    exact ⟨effective, rfl, Option.some.inj accepted⟩
  | error => simp [derived, Except.toOption] at accepted

theorem narrowerSearch_exact : CapsExact signedSearch narrowerSearch := by
  have unsigned : ∀ key ∈ defaultNumericScopeCapKeys, key ≠ "max_results" →
      signedSearch.lookup key = none := by
    decide +kernel
  intro key member limit carried
  by_cases results : key = "max_results"
  · subst results
    have signed : signedSearch.lookup "max_results" = some (.number 5) := by decide +kernel
    have asked : narrowerSearch.lookup "max_results" = some (.number 2) := by decide +kernel
    rw [signed, Option.some.injEq, Value.number.injEq] at carried
    subst carried
    rw [asked]
    refine ⟨nofun, fun other given => ?_⟩
    rw [Option.some.injEq, Value.number.injEq] at given
    exact given ▸ by norm_num
  · rw [unsigned key member results] at carried
    cases carried

theorem effective_narrows_search :
    ∃ effective, effectiveSignedScope asciiCase.toTextRules signedSearch narrowerSearch =
        .ok effective ∧ Narrows asciiCase signedSearch narrowerSearch effective := by
  obtain ⟨effective, derived, within⟩ := narrowerSearch_accepted
  have agrees := (effectiveSignedScope_spec derived).scopeWithin_iff.mp within
  exact ⟨effective, derived,
    (effective_narrows_iff asciiCase derived).mpr ⟨agrees, narrowerSearch_exact⟩⟩

def signedCaps : Scope :=
  ([⟨"max_calls", .number (2 ^ 53)⟩, ⟨"max_bytes", .number (2 ^ 53 + 3)⟩,
    ⟨"blocked_domains", .array [.text "a.test"]⟩] : List (Sigma fun _ : String => Value)).toAList

def requestedCaps : Scope :=
  ([⟨"max_calls", .number (2 ^ 53 + 1)⟩, ⟨"blocked_domains", .array [.text "b.test"]⟩] :
    List (Sigma fun _ : String => Value)).toAList

theorem effective_exceeds :
    let effective := (effectiveSignedScope asciiCase.toTextRules signedCaps requestedCaps).toOption
    signedCaps.lookup "max_calls" = some (.number (2 ^ 53)) ∧
    effective.bind (·.lookup "max_calls") = some (.number (2 ^ 53 + 1)) ∧
    signedCaps.lookup "max_bytes" = some (.number (2 ^ 53 + 3)) ∧
    effective.bind (·.lookup "max_bytes") = some (.number (2 ^ 53 + 4)) ∧
    effective.map (fun scope => scopeWithin asciiCase.toTextRules scope signedCaps) =
      some (.ok false) := by
  decide +kernel

end Ceiling

end MonoidKernel.Scopes
