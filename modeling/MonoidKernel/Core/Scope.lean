import MonoidKernel.Library.Texts
import Mathlib.Data.List.AList
import Mathlib.Data.List.DropRight
import Mathlib.Data.List.Sort
import Mathlib.Data.Nat.Size
import Mathlib.Data.Rat.Defs
import Mathlib.Algebra.Order.Ring.Unbundled.Rat
import Mathlib.Algebra.Ring.Nat

set_option autoImplicit false

-- Translated from core/scope.py and the domain filters of web.py.
namespace MonoidKernel.Scopes

inductive Value where
  | null
  | bool (value : Bool)
  | number (value : Rat)
  | text (value : String)
  | array (items : List Value)
  | object (entries : List (String × Value))

mutual

def Value.beq : Value → Value → Bool
  | .null, .null => true
  | .bool left, .bool right => left == right
  | .number left, .number right => left == right
  | .text left, .text right => left == right
  | .array left, .array right => itemsBeq left right
  | .object left, .object right => entriesBeq left right
  | _, _ => false

def itemsBeq : List Value → List Value → Bool
  | [], [] => true
  | left :: lefts, right :: rights => left.beq right && itemsBeq lefts rights
  | _, _ => false

def entriesBeq : List (String × Value) → List (String × Value) → Bool
  | [], [] => true
  | (key, left) :: lefts, (other, right) :: rights =>
    key == other && left.beq right && entriesBeq lefts rights
  | _, _ => false

end

mutual

theorem Value.beq_iff : ∀ left right : Value, left.beq right = true ↔ left = right
  | .null, right => by cases right <;> simp [Value.beq]
  | .bool _, right => by cases right <;> simp [Value.beq]
  | .number _, right => by cases right <;> simp [Value.beq]
  | .text _, right => by cases right <;> simp [Value.beq]
  | .array items, right => by cases right <;> simp [Value.beq, itemsBeq_iff items]
  | .object entries, right => by cases right <;> simp [Value.beq, entriesBeq_iff entries]

theorem itemsBeq_iff : ∀ lefts rights : List Value, itemsBeq lefts rights = true ↔ lefts = rights
  | [], rights => by cases rights <;> simp [itemsBeq]
  | left :: lefts, rights => by
    cases rights <;> simp [itemsBeq, Value.beq_iff left, itemsBeq_iff lefts]

theorem entriesBeq_iff : ∀ lefts rights : List (String × Value),
    entriesBeq lefts rights = true ↔ lefts = rights
  | [], rights => by cases rights <;> simp [entriesBeq]
  | (key, left) :: lefts, rights => by
    cases rights <;>
      simp [entriesBeq, Value.beq_iff left, entriesBeq_iff lefts, Prod.ext_iff]

end

instance : DecidableEq Value := fun left right => decidable_of_iff _ (Value.beq_iff left right)

-- Python compares a bool as the number 0 or 1 and a dict without the order of its entries: two
-- values are equal there when their plain forms are.
mutual

def Value.plain : Value → Value
  | .bool value => .number (if value then 1 else 0)
  | .array items => .array (plainItems items)
  | .object entries => .object ((plainEntries entries).insertionSort fun a b => a.1 ≤ b.1)
  | value => value

def plainItems : List Value → List Value
  | [] => []
  | item :: rest => item.plain :: plainItems rest

def plainEntries : List (String × Value) → List (String × Value)
  | [] => []
  | (key, value) :: rest => (key, value.plain) :: plainEntries rest

end

def Value.hashable : Value → Bool
  | .array _ => false
  | .object _ => false
  | _ => true

def isSpace (symbol : Char) : Bool :=
  [0x09, 0x0A, 0x0B, 0x0C, 0x0D, 0x1C, 0x1D, 0x1E, 0x1F, 0x20, 0x85, 0xA0, 0x1680, 0x2000, 0x2001,
    0x2002, 0x2003, 0x2004, 0x2005, 0x2006, 0x2007, 0x2008, 0x2009, 0x200A, 0x2028, 0x2029, 0x202F,
    0x205F, 0x3000].contains symbol.toNat

def strip (drop : Char → Bool) (text : List Char) : List Char :=
  (text.dropWhile drop).rdropWhile drop

def trim (text : List Char) : List Char :=
  strip isSpace text

-- `str.lower`, `str` and `repr` of the Python runtime, with what the scope relation needs of them.
-- A text is its own lower case exactly when each character is; case never makes or removes white
-- space.
structure TextRules where
  lower : List Char → List Char
  str : Value → List Char
  repr : String → String
  lower_lower : ∀ text, lower (lower text) = lower text
  lower_trim : ∀ text, lower (trim text) = trim (lower text)
  lower_fixed : ∀ text, lower text = text ↔ ∀ symbol ∈ text, lower [symbol] = [symbol]
  lower_letter : lower ['a'] = ['a']
  lower_dot : lower ['.'] = ['.']
  str_text : ∀ text, str (.text text) = text.toList

section Web

variable (rules : TextRules)

def domainMatches (domain pattern : List Char) : Bool :=
  let normalized := trim (rules.lower pattern)
  if normalized = ['*'] then true
  else if ['*', '.'].isPrefixOf normalized then
    let suffix := normalized.drop 2
    domain == suffix || ('.' :: suffix).isSuffixOf domain
  else domain == normalized

def domainAllowed (domain : List Char) (allowedDomains blockedDomains : List (List Char)) : Bool :=
  let normalized := strip (· == '.') (rules.lower domain)
  if normalized = [] then false
  else if blockedDomains.any (domainMatches rules normalized) then false
  else if allowedDomains ≠ [] ∧ ¬ allowedDomains.any (domainMatches rules normalized) then false
  else true

end Web

def defaultNumericScopeCapKeys : List String :=
  ["max_calls", "max_results", "max_bytes", "timeout_s", "max_tokens", "max_urls", "max_snippets"]

-- `n` as a double: 53 significant bits, the half-way cases to an even last bit.
def nearestDouble (n : Nat) : Nat :=
  let unit := 2 ^ (n.size - 53)
  let quotient := n / unit
  let remainder := n % unit
  if unit < 2 * remainder ∨ (2 * remainder = unit ∧ quotient % 2 = 1) then (quotient + 1) * unit
  else quotient * unit

-- `float(value)`, or `none` for its `OverflowError`; only integers round, a float is exact.
def toFloat (value : Rat) : Option Rat :=
  if value.den = 1 then
    let magnitude := nearestDouble value.num.natAbs
    if magnitude < 2 ^ 1024 then
      some (if value < 0 then -(magnitude : Rat) else (magnitude : Rat))
    else none
  else some value

def numericCapWithin : Value → Value → Bool
  | .number inner, .number outer =>
    match toFloat inner, toFloat outer with
    | some innerNumber, some outerNumber => decide (innerNumber ≤ outerNumber)
    | _, _ => false
  -- a bool is no number here, although Python counts it as an `int`
  | _, _ => false

section Relation

variable (rules : TextRules)

def stringTuple (items : List Value) : List (List Char) :=
  (items.map fun item => trim (rules.str item)).filter (· ≠ [])

def domainTuple (items : List (List Char)) : List (List Char) :=
  (items.filter (trim · ≠ [])).map fun item => rules.lower (trim item)

def domainPatternWithin (pattern signedPattern : List Char) : Bool :=
  let pattern := trim (rules.lower pattern)
  let signedPattern := trim (rules.lower signedPattern)
  if signedPattern = ['*'] then true
  else if pattern = ['*'] then false
  else if pattern = signedPattern then true
  else if ['*', '.'].isPrefixOf pattern then
    let suffix := strip (· == '.') (pattern.drop 2)
    suffix ≠ [] && ['*', '.'].isPrefixOf signedPattern && domainMatches rules suffix signedPattern
  else domainMatches rules pattern signedPattern

def domainPatternsWithin (requested signed : List (List Char)) : Bool :=
  let signedPatterns := domainTuple rules signed
  if ['*'] ∈ signedPatterns then true
  else (domainTuple rules requested).all fun pattern =>
    signedPatterns.any (domainPatternWithin rules pattern)

abbrev Scope := AList fun _ : String => Value

inductive ScopeFault where
  -- `TypeError: unhashable type`, from building a set of list items.
  | unhashable
deriving DecidableEq

def keyWithin (key : String) (innerValue outerValue : Value) : Except ScopeFault Bool :=
  match innerValue, outerValue with
  | .array inner, .array outer =>
    if key = "allowed_domains" then
      .ok (domainPatternsWithin rules (stringTuple rules inner) (stringTuple rules outer))
    else if inner.all Value.hashable && outer.all Value.hashable then
      .ok (inner.all fun item => outer.any fun other => item.plain = other.plain)
    else .error .unhashable
  | inner, outer =>
    if key ∈ defaultNumericScopeCapKeys ∧ numericCapWithin inner outer then .ok true
    else .ok (inner.plain = outer.plain)

def scopeWithinEntries (outer : Scope) : List (Sigma fun _ : String => Value) →
    Except ScopeFault Bool
  | [] => .ok true
  | ⟨key, innerValue⟩ :: rest =>
    match outer.lookup key with
    | none => scopeWithinEntries outer rest
    | some outerValue =>
      match keyWithin rules key innerValue outerValue with
      | .ok true => scopeWithinEntries outer rest
      | refused => refused

def scopeWithin (inner outer : Scope) : Except ScopeFault Bool :=
  scopeWithinEntries rules outer inner.entries

def Refused (inner outer : Scope) : Prop :=
  ∃ key innerValue outerValue, inner.lookup key = some innerValue ∧
    outer.lookup key = some outerValue ∧ keyWithin rules key innerValue outerValue ≠ .ok true

theorem scopeWithinEntries_spec (outer : Scope) (entries : List (Sigma fun _ : String => Value)) :
    scopeWithinEntries rules outer entries = .ok true ↔
      ∀ entry ∈ entries, ∀ outerValue, outer.lookup entry.1 = some outerValue →
        keyWithin rules entry.1 entry.2 outerValue = .ok true := by
  induction entries with
  | nil => simp [scopeWithinEntries]
  | cons entry rest ih =>
    obtain ⟨key, innerValue⟩ := entry
    unfold scopeWithinEntries
    cases found : outer.lookup key with
    | none => simp [ih, found]
    | some outerValue =>
      by_cases accepted : keyWithin rules key innerValue outerValue = .ok true
      · simp [ih, found, accepted]
      · have stopped : ∀ answer, keyWithin rules key innerValue outerValue = answer →
            answer ≠ .ok true →
            (match answer with
              | .ok true => scopeWithinEntries rules outer rest
              | refused => refused) ≠ .ok true := by
          intro answer _ other
          split
          · exact absurd rfl other
          · exact other
        have := stopped _ rfl accepted
        constructor
        · exact fun result => absurd result this
        · intro every
          exact absurd (every _ (List.mem_cons_self ..) outerValue found) accepted

theorem scopeWithin_spec (inner outer : Scope) :
    scopeWithin rules inner outer = .ok true ↔ ¬ Refused rules inner outer := by
  unfold scopeWithin Refused
  rw [scopeWithinEntries_spec]
  constructor
  · intro every ⟨key, innerValue, outerValue, innerHas, outerHas, refused⟩
    exact refused (every ⟨key, innerValue⟩ (AList.mem_lookup_iff.mp innerHas) outerValue outerHas)
  · intro none entry member outerValue outerHas
    by_contra refused
    exact none ⟨entry.1, entry.2, outerValue, AList.mem_lookup_iff.mpr member, outerHas, refused⟩

end Relation

end MonoidKernel.Scopes
