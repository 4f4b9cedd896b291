import Mathlib.Algebra.CharZero.Infinite
import Mathlib.Algebra.Order.Ring.Rat
import Mathlib.Tactic.Linarith
import MonoidKernel.Core.ScopeMeaning

set_option autoImplicit false

namespace MonoidKernel.Scopes

open Library (NamePattern IsName)

variable (rules : TextRules) {inner outer : Scope}

def Constraint.Binding : Constraint → Prop
  | cap _ => True
  | members _ => True
  | exactly _ => True
  | _ => False

-- The scope leaves no call, read off its entries: its allow-list is blocked throughout, or some
-- other list is empty.
def Closed (scope : Scope) : Prop :=
  (∀ allowed ∈ allowPatterns rules scope,
    ¬ allowed.Leaves '.' (LowerCase rules) (blockPatterns rules scope)) ∨
  ∃ key, constraint key (.array []) = .members [] ∧ scope.lookup key = some (.array [])

-- What `scope_within` leaves unchecked: a key that only the outer scope carries, a cap that differs
-- below the precision of a double or from a bool, a list of domains on one side only, and a domain
-- that the outer scope blocks.
structure Narrowed (inner outer : Scope) : Prop where
  carried : ∀ key value, outer.lookup key = some value → (constraint key value).Binding →
    (inner.lookup key).isSome
  capped : ∀ key amount value, constraint key (.number amount) = .cap amount →
    inner.lookup key = some (.number amount) → outer.lookup key = some value →
    ∃ limit, value = .number limit ∧ amount ≤ limit
  listed : .every ∈ allowPatterns rules inner → .every ∈ allowPatterns rules outer
  blocked : ∀ allowed ∈ allowPatterns rules inner, ∀ other ∈ blockPatterns rules outer,
    (allowed.Within '.' other →
      ¬ allowed.Leaves '.' (LowerCase rules) (blockPatterns rules inner)) ∧
    (other.Within '.' allowed →
      ¬ other.Leaves '.' (LowerCase rules) (blockPatterns rules inner))

-- The inputs on which `scope_within` is right about `inner` being no broader than `outer`.
def Sound (inner outer : Scope) : Prop :=
  Refused rules inner outer ∨ Closed rules inner ∨ Narrowed rules inner outer

section Domains

theorem leaves_iff (blocked : List (NamePattern Char)) (allowed : NamePattern Char) :
    allowed.Leaves '.' (LowerCase rules) blocked ↔
      ∃ domain : Domain rules, allowed.Matches '.' domain.text ∧
        ∀ other ∈ blocked, ¬ other.Matches '.' domain.text := by
  rw [NamePattern.leaves_spec (show 'a' ≠ '.' by decide) rules.lower_letter rules.lower_dot]
  constructor
  · exact fun ⟨_, isName, found⟩ => ⟨domainOf rules isName, found⟩
  · exact fun ⟨domain, found⟩ => ⟨domain.text, domain.isName, found⟩

theorem domains_empty (scope : Scope) :
    domains rules scope = ∅ ↔ ∀ allowed ∈ allowPatterns rules scope,
      ¬ allowed.Leaves '.' (LowerCase rules) (blockPatterns rules scope) := by
  rw [Set.eq_empty_iff_forall_notMem]
  constructor
  · intro none allowed member leaves
    obtain ⟨domain, selected, unblocked⟩ := (leaves_iff rules _ _).mp leaves
    exact none domain ⟨⟨allowed, member, selected⟩, unblocked⟩
  · intro shut domain ⟨⟨allowed, member, selected⟩, unblocked⟩
    exact shut allowed member ((leaves_iff rules _ _).mpr ⟨domain, selected, unblocked⟩)

theorem allowPatterns_items {scope : Scope} (limited : .every ∉ allowPatterns rules scope) :
    ∃ items, scope.lookup "allowed_domains" = some (.array items) ∧
      allowPatterns rules scope = items.map fun item => pattern rules (rules.str item) := by
  unfold allowPatterns at limited ⊢
  split
  next items found =>
    rw [found] at limited
    by_cases empty : items = []
    · simp [empty] at limited
    · exact ⟨items, found, if_neg empty⟩
  next other => split at limited <;> simp_all

theorem allowed_within (accepted : ¬ Refused rules inner outer)
    (limited : .every ∉ allowPatterns rules inner) {domain : Domain rules}
    {allowed : NamePattern Char} (member : allowed ∈ allowPatterns rules inner)
    (selected : allowed.Matches '.' domain.text) :
    ∃ other ∈ allowPatterns rules outer, other.Matches '.' domain.text := by
  obtain ⟨items, innerHas, listed⟩ := allowPatterns_items rules limited
  rw [listed, List.mem_map] at member
  obtain ⟨item, present, rfl⟩ := member
  by_cases open_ : .every ∈ allowPatterns rules outer
  · exact ⟨_, open_, trivial⟩
  · obtain ⟨others, outerHas, outerListed⟩ := allowPatterns_items rules open_
    have within : keyWithin rules "allowed_domains" (.array items) (.array others) = .ok true := by
      by_contra refused
      exact accepted ⟨_, _, _, innerHas, outerHas, refused⟩
    rw [keyWithin, if_pos rfl, Except.ok.injEq] at within
    obtain ⟨other, found, reached⟩ := domainPatternsWithin_sound rules within domain.isName
      present selected
    exact ⟨_, outerListed ▸ List.mem_map_of_mem found, reached⟩

theorem domains_included (accepted : ¬ Refused rules inner outer)
    (inhabited : domains rules inner ≠ ∅) :
    domains rules inner ⊆ domains rules outer ↔
      (.every ∈ allowPatterns rules inner → .every ∈ allowPatterns rules outer) ∧
      ∀ allowed ∈ allowPatterns rules inner, ∀ other ∈ blockPatterns rules outer,
        (allowed.Within '.' other →
          ¬ allowed.Leaves '.' (LowerCase rules) (blockPatterns rules inner)) ∧
        (other.Within '.' allowed →
          ¬ other.Leaves '.' (LowerCase rules) (blockPatterns rules inner)) := by
  constructor
  · intro included
    constructor
    · intro unlimited
      -- every domain is blocked inside or listed outside, and one pattern has to do it all
      have covered : ∀ name, IsName '.' (LowerCase rules) name →
          (NamePattern.every).Matches '.' name →
          ∃ other ∈ allowPatterns rules outer ++ blockPatterns rules inner,
            other.Matches '.' name := by
        intro name isName _
        by_cases blocked : ∃ other ∈ blockPatterns rules inner, other.Matches '.' name
        · obtain ⟨other, member, selected⟩ := blocked
          exact ⟨other, List.mem_append_right _ member, selected⟩
        · have inside : domainOf rules isName ∈ domains rules inner :=
            ⟨⟨.every, unlimited, trivial⟩, fun other member selected =>
              blocked ⟨other, member, selected⟩⟩
          obtain ⟨⟨other, member, selected⟩, _⟩ := included inside
          exact ⟨other, List.mem_append_left _ member, selected⟩
      have every : (NamePattern.every).Inhabited '.' (LowerCase rules) := trivial
      obtain ⟨cover, member, within⟩ := NamePattern.covered_by_one (show 'a' ≠ '.' by decide)
        rules.lower_letter rules.lower_dot every covered
      cases cover with
      | exact _ => exact within.elim
      | under _ => exact within.elim
      | every =>
        rcases List.mem_append.mp member with outside | inside
        · exact outside
        · exfalso
          apply inhabited
          rw [Set.eq_empty_iff_forall_notMem]
          exact fun domain found => found.2 .every inside trivial
    · intro allowed member other blocked
      constructor
      · intro within leaves
        obtain ⟨domain, selected, unblocked⟩ := (leaves_iff rules _ _).mp leaves
        have := included ⟨⟨allowed, member, selected⟩, unblocked⟩
        exact this.2 other blocked (NamePattern.within_matches within selected)
      · intro within leaves
        obtain ⟨domain, selected, unblocked⟩ := (leaves_iff rules _ _).mp leaves
        have := included ⟨⟨allowed, member, NamePattern.within_matches within selected⟩, unblocked⟩
        exact this.2 other blocked selected
  · intro ⟨listed, apart⟩ domain ⟨⟨allowed, member, selected⟩, unblocked⟩
    constructor
    · by_cases unlimited : .every ∈ allowPatterns rules inner
      · exact ⟨.every, listed unlimited, trivial⟩
      · exact allowed_within rules accepted unlimited member selected
    · intro other blocked reached
      have both := apart allowed member other blocked
      rcases NamePattern.nested selected reached with inward | outward
      · exact both.1 inward ((leaves_iff rules _ _).mpr ⟨domain, selected, unblocked⟩)
      · exact both.2 outward ((leaves_iff rules _ _).mpr ⟨domain, reached, unblocked⟩)

end Domains

section Arguments

def Value.amount : Value → Option Rat
  | .number amount => some amount
  | _ => none

theorem exists_unlisted (items : List Value) :
    ∃ argument : Value, ∀ item ∈ items, argument.plain ≠ item.plain := by
  let numbers := items.filterMap fun item => item.plain.amount
  obtain ⟨fresh, absent⟩ := Infinite.exists_notMem_finset numbers.toFinset
  refine ⟨.number fresh, ?_⟩
  intro item member same
  apply absent
  rw [List.mem_toFinset, List.mem_filterMap]
  exact ⟨item, member, by simp [← same, Value.plain, Value.amount]⟩

theorem binding_refuses {limit : Constraint} (binding : limit.Binding) :
    ∃ argument, ¬ limit.Admits argument := by
  cases limit with
  | free => exact binding.elim
  | allows _ => exact binding.elim
  | blocks _ => exact binding.elim
  | cap limit => exact ⟨.null, by simp [Constraint.Admits, Value.plain]⟩
  | members items =>
    obtain ⟨argument, unlisted⟩ := exists_unlisted items
    exact ⟨argument, fun ⟨item, member, same⟩ => unlisted item member same⟩
  | exactly value =>
    obtain ⟨argument, unlisted⟩ := exists_unlisted [value]
    exact ⟨argument, unlisted value (by simp)⟩

theorem constraint_members {key : String} {value : Value} {items : List Value}
    (isMembers : constraint key value = .members items) : value = .array items := by
  unfold constraint at isMembers
  split at isMembers
  · cases isMembers
  · cases value with
    | array others =>
      dsimp only at isMembers
      split at isMembers
      · cases isMembers
      · split at isMembers
        · cases isMembers
        · exact congrArg _ (Constraint.members.inj isMembers)
    | number amount =>
      dsimp only at isMembers
      split at isMembers <;> cases isMembers
    | null => cases isMembers
    | bool _ => cases isMembers
    | text _ => cases isMembers
    | object _ => cases isMembers

theorem arguments_empty (scope : Scope) (key : String) :
    arguments scope key = ∅ ↔
      constraint key (.array []) = .members [] ∧ scope.lookup key = some (.array []) := by
  rw [Set.eq_empty_iff_forall_notMem]
  constructor
  · intro none
    cases found : scope.lookup key with
    | none => exact absurd (fun value other => by simp [found] at other) (none .null)
    | some value =>
      have refuses : ∀ argument, ¬ (constraint key value).Admits argument := by
        intro argument admits
        apply none argument
        intro other present
        rw [found, Option.some.injEq] at present
        exact present ▸ admits
      cases limit : constraint key value with
      | free => exact absurd (by rw [limit]; trivial) (refuses .null)
      | allows _ => exact absurd (by rw [limit]; trivial) (refuses .null)
      | blocks _ => exact absurd (by rw [limit]; trivial) (refuses .null)
      | cap amount =>
        exact absurd (by rw [limit]; exact ⟨amount, rfl, le_refl _⟩) (refuses (.number amount))
      | exactly other => exact absurd (by rw [limit]; rfl) (refuses other)
      | members items =>
        cases items with
        | cons item rest =>
          exact absurd (by rw [limit]; exact ⟨item, List.mem_cons_self .., rfl⟩) (refuses item)
        | nil =>
          cases constraint_members limit
          exact ⟨limit, rfl⟩
  · intro ⟨limit, found⟩ argument admitted
    have := admitted _ found
    rw [limit] at this
    obtain ⟨_, member, _⟩ := this
    cases member

theorem admits_of_within {key : String} {value other argument : Value}
    (within : keyWithin rules key value other = .ok true)
    (binding : (constraint key other).Binding)
    (capped : ∀ amount, constraint key (.number amount) = .cap amount → value = .number amount →
      ∃ limit, other = .number limit ∧ amount ≤ limit)
    (admitted : (constraint key value).Admits argument) :
    (constraint key other).Admits argument := by
  have marker : key ≠ "path_pattern_encoding" := by
    intro same
    simp [constraint, same, Constraint.Binding] at binding
  by_cases isCap : ∃ amount, value = .number amount ∧ key ∈ defaultNumericScopeCapKeys
  · obtain ⟨amount, rfl, isKey⟩ := isCap
    have limited : ∀ limit, constraint key (.number limit) = .cap limit := by
      intro limit
      simp [constraint, marker, isKey]
    obtain ⟨limit, rfl, less⟩ := capped amount (limited amount) rfl
    rw [limited] at admitted ⊢
    obtain ⟨carried, same, small⟩ := admitted
    exact ⟨carried, same, small.trans less⟩
  next =>
    -- without a cap inside, values that pass are equal or a list inside a list
    have noCap : key ∈ defaultNumericScopeCapKeys → numericCapWithin value other = false := by
      intro isKey
      cases value with
      | number amount => exact absurd ⟨amount, rfl, isKey⟩ isCap
      | null => rfl
      | bool _ => rfl
      | text _ => rfl
      | array _ => rfl
      | object _ => rfl
    have equal : (∀ items others, value = .array items → other ≠ .array others) →
        value.plain = other.plain := by
      intro apart
      unfold keyWithin at within
      split at within
      next items others => exact absurd rfl (apart items others rfl)
      · split at within
        next both => simp [noCap both.1] at both
        · simpa using within
    cases other with
    | array others =>
      cases value with
      | array items =>
        by_cases isAllow : key = "allowed_domains"
        · simp [constraint, isAllow, Constraint.Binding] at binding
        by_cases isBlock : key = "blocked_domains"
        · simp [constraint, isBlock, Constraint.Binding] at binding
        have listed : ∀ items, constraint key (.array items) = .members items := by
          intro items
          simp [constraint, marker, isAllow, isBlock]
        rw [listed] at admitted ⊢
        obtain ⟨item, member, same⟩ := admitted
        rw [keyWithin, if_neg isAllow] at within
        split at within
        · simp only [Except.ok.injEq, List.all_eq_true, List.any_eq_true,
            decide_eq_true_eq] at within
          obtain ⟨reached, present, matching⟩ := within item member
          exact ⟨reached, present, same.trans matching⟩
        · cases within
      | null => exact absurd (equal (by simp)) (by simp [Value.plain])
      | bool _ => exact absurd (equal (by simp)) (by simp [Value.plain])
      | number _ => exact absurd (equal (by simp)) (by simp [Value.plain])
      | text _ => exact absurd (equal (by simp)) (by simp [Value.plain])
      | object _ => exact absurd (equal (by simp)) (by simp [Value.plain])
    | null =>
      have same := equal (by simp)
      have : value = .null := by cases value <;> simp_all [Value.plain]
      rwa [this] at admitted
    | text text =>
      have same := equal (by simp)
      have : value = .text text := by cases value <;> simp_all [Value.plain]
      rwa [this] at admitted
    | object entries =>
      have same := equal (by simp)
      cases value with
      | object others =>
        simp only [constraint, if_neg marker, Constraint.Admits] at admitted ⊢
        exact admitted.trans same
      | _ => simp [Value.plain] at same
    | bool flag =>
      have same := equal (by simp)
      cases value with
      | bool other =>
        simp only [constraint, if_neg marker, Constraint.Admits] at admitted ⊢
        exact admitted.trans same
      | number amount =>
        have notKey : key ∉ defaultNumericScopeCapKeys := fun isKey => isCap ⟨amount, rfl, isKey⟩
        simp only [constraint, if_neg marker, if_neg notKey, Constraint.Admits] at admitted ⊢
        exact admitted.trans same
      | _ => simp [Value.plain] at same
    | number limit =>
      have same := equal (by simp)
      have reached : argument.plain = .number limit := by
        cases value with
        | bool other =>
          simp only [constraint, if_neg marker, Constraint.Admits] at admitted
          exact admitted.trans same
        | number amount =>
          have notKey : key ∉ defaultNumericScopeCapKeys := fun isKey => isCap ⟨amount, rfl, isKey⟩
          simp only [constraint, if_neg marker, if_neg notKey, Constraint.Admits] at admitted
          exact admitted.trans same
        | _ => simp [Value.plain] at same
      by_cases isKey : key ∈ defaultNumericScopeCapKeys
      · simp only [constraint, if_neg marker, if_pos isKey, Constraint.Admits]
        exact ⟨limit, reached, le_refl _⟩
      · simp only [constraint, if_neg marker, if_neg isKey, Constraint.Admits]
        exact reached

theorem admits_free {limit : Constraint} (free : ¬ limit.Binding) (argument : Value) :
    limit.Admits argument := by
  cases limit with
  | cap _ => exact absurd trivial free
  | members _ => exact absurd trivial free
  | exactly _ => exact absurd trivial free
  | free => trivial
  | allows _ => trivial
  | blocks _ => trivial

theorem constraint_cap {key : String} {amount : Rat}
    (isCap : constraint key (.number amount) = .cap amount) :
    key ≠ "path_pattern_encoding" ∧ key ∈ defaultNumericScopeCapKeys := by
  unfold constraint at isCap
  split at isCap
  · cases isCap
  next marker =>
    dsimp only at isCap
    split at isCap
    next isKey => exact ⟨marker, isKey⟩
    · cases isCap

theorem arguments_included (accepted : ¬ Refused rules inner outer) :
    (∀ key, arguments inner key ⊆ arguments outer key) ↔
      (∀ key value, outer.lookup key = some value → (constraint key value).Binding →
        (inner.lookup key).isSome) ∧
      (∀ key amount value, constraint key (.number amount) = .cap amount →
        inner.lookup key = some (.number amount) → outer.lookup key = some value →
        ∃ limit, value = .number limit ∧ amount ≤ limit) := by
  constructor
  · intro included
    constructor
    · intro key value outerHas binding
      by_contra missing
      rw [Option.not_isSome_iff_eq_none] at missing
      obtain ⟨argument, refused⟩ := binding_refuses binding
      have inside : argument ∈ arguments inner key := fun other found => by simp [missing] at found
      exact refused (included key inside value outerHas)
    · intro key amount value isCap innerHas outerHas
      obtain ⟨marker, isKey⟩ := constraint_cap isCap
      -- both the bound itself and a smaller number pass inside
      have passes : ∀ lower, lower ≤ amount → (constraint key value).Admits (.number lower) := by
        intro lower less
        apply included key (a := .number lower) _ value outerHas
        intro other found
        rw [innerHas, Option.some.injEq] at found
        rw [← found, isCap]
        exact ⟨lower, rfl, less⟩
      have within : keyWithin rules key (.number amount) value = .ok true := by
        by_contra refused
        exact accepted ⟨_, _, _, innerHas, outerHas, refused⟩
      cases value with
      | number limit =>
        refine ⟨limit, rfl, ?_⟩
        have := passes amount (le_refl _)
        simp only [constraint, if_neg marker, if_pos isKey, Constraint.Admits] at this
        obtain ⟨carried, same, small⟩ := this
        simp only [Value.plain, Value.number.injEq] at same
        rwa [same]
      | bool flag =>
        have top := passes amount (le_refl _)
        have below := passes (amount - 1) (by linarith)
        simp only [constraint, if_neg marker, Constraint.Admits, Value.plain,
          Value.number.injEq] at top below
        linarith
      | null => simp [keyWithin, numericCapWithin, Value.plain] at within
      | text _ => simp [keyWithin, numericCapWithin, Value.plain] at within
      | array _ => simp [keyWithin, numericCapWithin, Value.plain] at within
      | object _ => simp [keyWithin, numericCapWithin, Value.plain] at within
  · intro ⟨carried, capped⟩ key argument inside value outerHas
    by_cases binding : (constraint key value).Binding
    · obtain ⟨own, innerHas⟩ := Option.isSome_iff_exists.mp (carried key value outerHas binding)
      have within : keyWithin rules key own value = .ok true := by
        by_contra refused
        exact accepted ⟨_, _, _, innerHas, outerHas, refused⟩
      apply admits_of_within rules within binding
      · intro amount isCap same
        exact capped key amount value isCap (same ▸ innerHas) outerHas
      · exact inside own innerHas
    · exact admits_free binding argument

end Arguments

theorem scopeWithin_sound_iff (inner outer : Scope) :
    (scopeWithin rules inner outer = .ok true →
      ∀ call, Permits rules inner call → Permits rules outer call) ↔ Sound rules inner outer := by
  rw [scopeWithin_spec]
  by_cases refused : Refused rules inner outer
  · exact ⟨fun _ => .inl refused, fun _ accepted => absurd refused accepted⟩
  have closed : (domains rules inner = ∅ ∨ ∃ key, arguments inner key = ∅) ↔
      Closed rules inner := by
    rw [domains_empty]
    simp only [arguments_empty]
    rfl
  have reading : Sound rules inner outer ↔ Closed rules inner ∨ Narrowed rules inner outer :=
    or_iff_right refused
  rw [permits_included, closed, reading]
  by_cases shut : Closed rules inner
  · exact ⟨fun _ => .inl shut, fun _ _ => .inl shut⟩
  have inhabited : domains rules inner ≠ ∅ := fun empty => shut (closed.mp (.inl empty))
  rw [domains_included rules refused inhabited, arguments_included rules refused]
  constructor
  · intro accepted
    obtain ⟨⟨listed, blocked⟩, carried, capped⟩ := (accepted refused).resolve_left shut
    exact .inr ⟨carried, capped, listed, blocked⟩
  · intro sound _
    obtain ⟨carried, capped, listed, blocked⟩ := sound.resolve_left shut
    exact .inr ⟨⟨listed, blocked⟩, carried, capped⟩

end MonoidKernel.Scopes
