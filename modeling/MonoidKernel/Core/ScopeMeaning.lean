import Mathlib.Data.Set.Prod
import MonoidKernel.Core.Scope
import MonoidKernel.Library.NamePattern
import MonoidKernel.Library.Trim

set_option autoImplicit false

namespace MonoidKernel.Scopes

open Library (NamePattern IsName)

variable (rules : TextRules)

-- A host name in the form `domain_allowed` gives it before it matches patterns.
structure Domain where
  text : List Char
  lowered : rules.lower text = text
  stripped : strip (· == '.') text = text
  nonempty : text ≠ []

structure Call where
  domain : Domain rules
  argument : String → Value

inductive Constraint where
  | free
  | allows (items : List Value)
  | blocks (items : List Value)
  | cap (limit : Rat)
  | members (items : List Value)
  | exactly (value : Value)

def constraint (key : String) (value : Value) : Constraint :=
  if key = "path_pattern_encoding" then .free
  else match value with
    | .array items =>
      if key = "allowed_domains" then .allows items
      else if key = "blocked_domains" then .blocks items
      else .members items
    | .number limit =>
      if key ∈ defaultNumericScopeCapKeys then .cap limit else .exactly (.number limit)
    | value => .exactly value

def Constraint.Admits : Constraint → Value → Prop
  | cap limit, argument => ∃ amount, argument.plain = .number amount ∧ amount ≤ limit
  | members items, argument => ∃ item ∈ items, argument.plain = item.plain
  | exactly value, argument => argument.plain = value.plain
  | _, _ => True

def Constraint.AdmitsDomain : Constraint → Domain rules → Prop
  | allows items, domain =>
    items = [] ∨ ∃ item ∈ items, domainMatches rules domain.text (rules.str item) = true
  | blocks items, domain =>
    ∀ item ∈ items, domainMatches rules domain.text (rules.str item) = false
  | _, _ => True

def Permits (scope : Scope) (call : Call rules) : Prop :=
  ∀ entry ∈ scope.entries,
    (constraint entry.1 entry.2).AdmitsDomain rules call.domain ∧
      (constraint entry.1 entry.2).Admits (call.argument entry.1)

section Patterns

def pattern (text : List Char) : NamePattern Char :=
  let normalized := trim (rules.lower text)
  if normalized = ['*'] then .every
  else if ['*', '.'].isPrefixOf normalized then .under (normalized.drop 2)
  else .exact normalized

def LowerCase (symbol : Char) : Prop :=
  rules.lower [symbol] = [symbol]

theorem domainMatches_spec (domain text : List Char) :
    domainMatches rules domain text = true ↔ (pattern rules text).Matches '.' domain := by
  unfold domainMatches pattern
  dsimp only
  split
  · simp [NamePattern.Matches]
  · split
    · simp [NamePattern.Matches]
    · simp [NamePattern.Matches]

variable {text : List Char}

theorem dropWhile_dot (starts : text.head? ≠ some '.') :
    text.dropWhile (· == '.') = text := by
  cases text with
  | nil => rfl
  | cons first rest => simp_all

theorem stripped_ends (stripped : strip (· == '.') text = text) :
    text.head? ≠ some '.' ∧ text.getLast? ≠ some '.' := by
  have ends : text.rdropWhile (· == '.') = text := by
    rw [← stripped, strip, List.rdropWhile_idempotent]
  constructor
  · intro starts
    cases text with
    | nil => cases starts
    | cons first rest =>
      cases starts
      have shorter : (strip (· == '.') ('.' :: rest)).length ≤ rest.length := by
        unfold strip
        rw [List.dropWhile_cons_of_pos (by simp)]
        exact (List.rdropWhile_prefix ..).length_le.trans (List.dropWhile_suffix _).length_le
      rw [stripped, List.length_cons] at shorter
      omega
  · intro last
    have nonempty : text ≠ [] := by
      intro empty
      rw [empty] at last
      cases last
    have := List.rdropWhile_eq_self_iff.mp ends nonempty
    rw [List.getLast?_eq_some_getLast nonempty] at last
    simp [Option.some.inj last] at this

theorem stripped_of_ends (starts : text.head? ≠ some '.') (ends : text.getLast? ≠ some '.') :
    strip (· == '.') text = text := by
  unfold strip
  rw [dropWhile_dot starts, List.rdropWhile_eq_self_iff]
  intro nonempty last
  rw [List.getLast?_eq_some_getLast nonempty] at ends
  exact ends (congrArg some (by simpa using last))

theorem Domain.isName (domain : Domain rules) : IsName '.' (LowerCase rules) domain.text :=
  have ends := stripped_ends domain.stripped
  ⟨domain.nonempty, ends.1, ends.2, (rules.lower_fixed _).mp domain.lowered⟩

def domainOf (isName : IsName '.' (LowerCase rules) text) : Domain rules where
  text := text
  lowered := (rules.lower_fixed _).mpr isName.letters
  stripped := stripped_of_ends isName.starts isName.ends
  nonempty := isName.nonempty

theorem strip_strip (drop : Char → Bool) (text : List Char) :
    strip drop (strip drop text) = strip drop text :=
  Library.trim_trim drop text

theorem trim_trim (text : List Char) : trim (trim text) = trim text :=
  strip_strip isSpace text

theorem normalized_again (text : List Char) :
    trim (rules.lower (trim (rules.lower text))) = trim (rules.lower text) := by
  rw [rules.lower_trim, rules.lower_lower, trim_trim]

theorem normalized_listed (text : List Char) :
    trim (rules.lower (rules.lower (trim (trim text)))) = trim (rules.lower text) := by
  rw [rules.lower_lower, trim_trim, rules.lower_trim, trim_trim]

theorem pattern_congr {first second : List Char}
    (same : trim (rules.lower first) = trim (rules.lower second)) :
    pattern rules first = pattern rules second := by
  unfold pattern
  rw [same]

theorem dotted_dropWhile (text : List Char) :
    '.' :: text.dropWhile (· == '.') <:+ '.' :: text := by
  induction text with
  | nil => exact List.suffix_rfl
  | cons first rest ih =>
    by_cases dot : first = '.'
    · rw [dot, List.dropWhile_cons_of_pos (by simp)]
      exact ih.trans (List.suffix_cons _ _)
    · rw [List.dropWhile_cons_of_neg (by simpa using dot)]

theorem under_stripped {suffix outer name : List Char} (isName : IsName '.' (LowerCase rules) name)
    (kept : strip (· == '.') suffix ≠ [])
    (inside : (NamePattern.under outer).Matches '.' (strip (· == '.') suffix))
    (selected : (NamePattern.under suffix).Matches '.' name) :
    (NamePattern.under outer).Matches '.' name := by
  have ends := (selected.inhabited isName).2.1
  have front : strip (· == '.') suffix = suffix.dropWhile (· == '.') := by
    unfold strip
    rw [List.rdropWhile_eq_self_iff]
    intro nonempty last
    have shared := (List.dropWhile_suffix (· == '.') (l := suffix)).getLast nonempty
    apply ends
    rw [List.getLast?_eq_some_getLast (fun empty => nonempty (by rw [empty]; rfl))]
    rw [← shared]
    simpa using last
  rw [front] at inside
  rcases selected with rfl | below
  · rwa [dropWhile_dot isName.starts] at inside
  · have reached := (dotted_dropWhile suffix).trans below
    rcases inside with same | deeper
    · exact .inr (same ▸ reached)
    · exact .inr (deeper.trans ((List.suffix_cons _ _).trans reached))

theorem domainPatternWithin_sound {inner outer name : List Char}
    (within : domainPatternWithin rules inner outer = true)
    (isName : IsName '.' (LowerCase rules) name)
    (selected : (pattern rules inner).Matches '.' name) :
    (pattern rules outer).Matches '.' name := by
  unfold domainPatternWithin at within
  dsimp only at within
  have signed : pattern rules (trim (rules.lower outer)) = pattern rules outer :=
    pattern_congr rules (normalized_again rules outer)
  split at within
  next every =>
    unfold pattern
    rw [if_pos every]
    trivial
  next outer_some =>
    split at within
    · cases within
    next inner_some =>
      split at within
      next same => rwa [pattern_congr rules same] at selected
      · split at within
        next wild =>
          simp only [Bool.and_eq_true, decide_eq_true_eq] at within
          obtain ⟨⟨kept, outer_wild⟩, matched⟩ := within
          rw [domainMatches_spec, signed] at matched
          unfold pattern at selected matched ⊢
          rw [if_neg inner_some, if_pos wild] at selected
          rw [if_neg outer_some, if_pos outer_wild] at matched ⊢
          exact under_stripped rules isName kept matched selected
        next exact_name =>
          rw [domainMatches_spec, signed] at within
          unfold pattern at selected
          rw [if_neg inner_some, if_neg exact_name] at selected
          cases selected
          exact within

theorem pattern_blank (blank : trim text = []) {name : List Char}
    (selected : (pattern rules text).Matches '.' name) : name = [] := by
  have : trim (rules.lower text) = [] := by
    rw [← rules.lower_trim, blank, rules.lower_fixed]
    exact fun _ member => nomatch member
  simpa [pattern, this, NamePattern.Matches] using selected

theorem domainPatternsWithin_sound {inner outer : List Value}
    (within : domainPatternsWithin rules (stringTuple rules inner) (stringTuple rules outer) = true)
    {name : List Char} (isName : IsName '.' (LowerCase rules) name) {item : Value}
    (member : item ∈ inner) (selected : (pattern rules (rules.str item)).Matches '.' name) :
    ∃ other ∈ outer, (pattern rules (rules.str other)).Matches '.' name := by
  have listed : ∀ {items : List Value} {text : List Char},
      text ∈ domainTuple rules (stringTuple rules items) →
      ∃ item ∈ items, text = rules.lower (trim (trim (rules.str item))) := by
    intro items text found
    simp only [domainTuple, stringTuple, List.mem_map, List.mem_filter] at found
    obtain ⟨_, ⟨⟨⟨item, member, rfl⟩, _⟩, _⟩, rfl⟩ := found
    exact ⟨item, member, rfl⟩
  unfold domainPatternsWithin at within
  dsimp only at within
  split at within
  next every =>
    obtain ⟨other, member, same⟩ := listed every
    refine ⟨other, member, ?_⟩
    have : trim (rules.lower (rules.str other)) = ['*'] := by
      rw [← rules.lower_trim, ← trim_trim, same]
    unfold pattern
    rw [if_pos this]
    trivial
  · by_cases blank : trim (rules.str item) = []
    · exact absurd (pattern_blank rules blank selected) isName.nonempty
    · rw [List.all_eq_true] at within
      have := within (rules.lower (trim (trim (rules.str item)))) (by
        simp only [domainTuple, stringTuple, List.mem_map, List.mem_filter]
        exact ⟨_, ⟨⟨⟨item, member, rfl⟩, by simpa using blank⟩, by simpa [trim_trim] using blank⟩,
          rfl⟩)
      rw [List.any_eq_true] at this
      obtain ⟨signed, found, accepted⟩ := this
      obtain ⟨other, present, rfl⟩ := listed found
      refine ⟨other, present, ?_⟩
      rw [← pattern_congr rules (normalized_listed rules (rules.str other))]
      apply domainPatternWithin_sound rules accepted isName
      rwa [pattern_congr rules (normalized_listed rules (rules.str item))]

end Patterns

section Filter

theorem strip_subset (drop : Char → Bool) (text : List Char) : strip drop text ⊆ text :=
  List.Subset.trans (List.rdropWhile_prefix ..).subset (List.dropWhile_suffix _).subset

def Domain.ofHost (host : List Char) (nonempty : strip (· == '.') (rules.lower host) ≠ []) :
    Domain rules where
  text := strip (· == '.') (rules.lower host)
  lowered := by
    have each := (rules.lower_fixed _).mp (rules.lower_lower host)
    exact (rules.lower_fixed _).mpr fun symbol member => each symbol (strip_subset _ _ member)
  stripped := strip_strip _ _
  nonempty := nonempty

theorem domainAllowed_spec (host : List Char) (allowed blocked : List Value) :
    domainAllowed rules host (allowed.map rules.str) (blocked.map rules.str) = true ↔
      ∃ nonempty, (Constraint.allows allowed).AdmitsDomain rules (.ofHost rules host nonempty) ∧
        (Constraint.blocks blocked).AdmitsDomain rules (.ofHost rules host nonempty) := by
  unfold domainAllowed Constraint.AdmitsDomain Domain.ofHost
  dsimp only
  by_cases empty : strip (· == '.') (rules.lower host) = []
  · simp [empty]
  · rw [if_neg empty]
    by_cases isBlocked : (blocked.map rules.str).any
        (domainMatches rules (strip (· == '.') (rules.lower host))) = true
    · rw [if_pos isBlocked]
      simp only [List.any_map, List.any_eq_true, Function.comp_apply] at isBlocked
      obtain ⟨item, member, found⟩ := isBlocked
      constructor
      · exact fun impossible => nomatch impossible
      · intro ⟨_, _, unblocked⟩
        exact absurd found (by simp [unblocked item member])
    · rw [if_neg isBlocked]
      have unblocked : ∀ item ∈ blocked,
          domainMatches rules (strip (· == '.') (rules.lower host)) (rules.str item) = false := by
        simpa using isBlocked
      by_cases unlisted : allowed = []
      · simpa [unlisted, empty] using unblocked
      · simpa [unlisted, empty] using fun _ _ _ => unblocked

end Filter

section Meaning

def allowPatterns (scope : Scope) : List (NamePattern Char) :=
  match scope.lookup "allowed_domains" with
  | some (.array items) =>
    if items = [] then [.every] else items.map fun item => pattern rules (rules.str item)
  | _ => [.every]

def blockPatterns (scope : Scope) : List (NamePattern Char) :=
  match scope.lookup "blocked_domains" with
  | some (.array items) => items.map fun item => pattern rules (rules.str item)
  | _ => []

def domains (scope : Scope) : Set (Domain rules) :=
  {domain | (∃ allowed ∈ allowPatterns rules scope, allowed.Matches '.' domain.text) ∧
    ∀ blocked ∈ blockPatterns rules scope, ¬ blocked.Matches '.' domain.text}

def arguments (scope : Scope) (key : String) : Set Value :=
  {argument | ∀ value, scope.lookup key = some value → (constraint key value).Admits argument}

theorem forall_entries (scope : Scope) (holds : String → Value → Prop) :
    (∀ entry ∈ scope.entries, holds entry.1 entry.2) ↔
      ∀ key value, scope.lookup key = some value → holds key value := by
  constructor
  · exact fun every key value found => every ⟨key, value⟩ (AList.mem_lookup_iff.mp found)
  · exact fun every entry member => every _ _ (AList.mem_lookup_iff.mpr member)

theorem allows_spec (items : List Value) (domain : Domain rules) :
    (Constraint.allows items).AdmitsDomain rules domain ↔
      ∃ allowed ∈ (if items = [] then [NamePattern.every]
          else items.map fun item => pattern rules (rules.str item)),
        allowed.Matches '.' domain.text := by
  unfold Constraint.AdmitsDomain
  by_cases empty : items = []
  · simp [empty, NamePattern.Matches]
  · simp [empty, domainMatches_spec]

theorem blocks_spec (items : List Value) (domain : Domain rules) :
    (Constraint.blocks items).AdmitsDomain rules domain ↔
      ∀ blocked ∈ items.map fun item => pattern rules (rules.str item),
        ¬ blocked.Matches '.' domain.text := by
  unfold Constraint.AdmitsDomain
  simp [← domainMatches_spec]

theorem domains_spec (scope : Scope) (domain : Domain rules) :
    (∀ key value, scope.lookup key = some value →
    (constraint key value).AdmitsDomain rules domain) ↔
      domain ∈ domains rules scope := by
  constructor
  · intro every
    constructor
    · unfold allowPatterns
      split
      next items found =>
        have := every _ _ found
        exact (allows_spec rules items domain).mp this
      · exact ⟨.every, by simp, trivial⟩
    · unfold blockPatterns
      split
      next items found =>
        have := every _ _ found
        exact (blocks_spec rules items domain).mp this
      · exact fun _ member => nomatch member
  · intro ⟨allowed, unblocked⟩ key value found
    unfold constraint
    split
    · trivial
    · split
      next items =>
        split
        next isAllow =>
          cases isAllow
          rw [allowPatterns, found] at allowed
          exact (allows_spec rules items domain).mpr allowed
        · split
          next isBlock =>
            cases isBlock
            rw [blockPatterns, found] at unblocked
            exact (blocks_spec rules items domain).mpr unblocked
          · trivial
      · split <;> trivial
      · trivial

theorem permits_spec (scope : Scope) (call : Call rules) :
    Permits rules scope call ↔
      call.domain ∈ domains rules scope ∧ ∀ key, call.argument key ∈ arguments scope key := by
  unfold Permits
  rw [forall_entries scope fun key value => (constraint key value).AdmitsDomain rules call.domain ∧
    (constraint key value).Admits (call.argument key), ← domains_spec]
  constructor
  · intro every
    exact ⟨fun key value found => (every key value found).1,
      fun key value found => (every key value found).2⟩
  · exact fun ⟨first, second⟩ key value found => ⟨first key value found, second key value found⟩

theorem permits_included (inner outer : Scope) :
    (∀ call, Permits rules inner call → Permits rules outer call) ↔
      (domains rules inner = ∅ ∨ ∃ key, arguments inner key = ∅) ∨
        (domains rules inner ⊆ domains rules outer ∧
          ∀ key, arguments inner key ⊆ arguments outer key) := by
  have product : (∀ call, Permits rules inner call → Permits rules outer call) ↔
      domains rules inner ×ˢ Set.univ.pi (arguments inner) ⊆
        domains rules outer ×ˢ Set.univ.pi (arguments outer) := by
    constructor
    · intro included pair ⟨domain, values⟩
      have := (permits_spec rules outer ⟨pair.1, pair.2⟩).mp
        (included _ ((permits_spec rules inner ⟨pair.1, pair.2⟩).mpr
          ⟨domain, fun key => values key trivial⟩))
      exact ⟨this.1, fun key _ => this.2 key⟩
    · intro included call permitted
      have admitted := (permits_spec rules inner call).mp permitted
      have := included (a := (call.domain, call.argument)) ⟨admitted.1, fun key _ => admitted.2 key⟩
      exact (permits_spec rules outer call).mpr ⟨this.1, fun key => this.2 key trivial⟩
  rw [product, Set.prod_subset_prod_iff, Set.univ_pi_subset_univ_pi_iff, Set.univ_pi_eq_empty_iff]
  tauto

end Meaning

end MonoidKernel.Scopes
