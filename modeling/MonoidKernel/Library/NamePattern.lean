import Mathlib.Algebra.Order.BigOperators.Group.List
import Mathlib.Algebra.Order.Ring.Nat
import Mathlib.Data.List.Infix

set_option autoImplicit false

namespace Library

universe u

variable {A : Type u} {separator letter : A} {allowed : A → Prop}

inductive NamePattern (A : Type u) where
  | every
  | exact (name : List A)
  | under (suffix : List A)
deriving DecidableEq

-- A name has letters only and neither starts nor ends with the separator.
structure IsName (separator : A) (allowed : A → Prop) (name : List A) : Prop where
  nonempty : name ≠ []
  starts : name.head? ≠ some separator
  ends : name.getLast? ≠ some separator
  letters : ∀ symbol ∈ name, allowed symbol

namespace NamePattern

variable {wide narrow : NamePattern A} {name : List A}

def Matches (separator : A) : NamePattern A → List A → Prop
  | every, _ => True
  | exact target, name => name = target
  | under suffix, name => name = suffix ∨ separator :: suffix <:+ name

instance [DecidableEq A] (pattern : NamePattern A) (name : List A) :
    Decidable (pattern.Matches separator name) := by
  cases pattern <;> unfold Matches <;> infer_instance

-- `narrow` selects no name that `wide` does not select, read off the patterns.
def Within (separator : A) (narrow wide : NamePattern A) : Prop :=
  match narrow, wide with
  | _, every => True
  | exact target, wide => wide.Matches separator target
  | under suffix, under outer => suffix = outer ∨ separator :: outer <:+ suffix
  | _, _ => False

instance [DecidableEq A] (narrow wide : NamePattern A) :
    Decidable (narrow.Within separator wide) := by
  cases narrow <;> cases wide <;> unfold Within <;> infer_instance

def Inhabited (separator : A) (allowed : A → Prop) : NamePattern A → Prop
  | every => True
  | exact target => IsName separator allowed target
  | under suffix =>
    suffix ≠ [] ∧ suffix.getLast? ≠ some separator ∧ ∀ symbol ∈ suffix, allowed symbol

theorem within_matches (within : narrow.Within separator wide)
    (selected : narrow.Matches separator name) : wide.Matches separator name := by
  cases wide with
  | every => trivial
  | exact target =>
    cases narrow with
    | exact inner => exact selected.trans within
    | every => exact within.elim
    | under inner => exact within.elim
  | under outer =>
    cases narrow with
    | every => exact within.elim
    | exact inner =>
      cases selected
      exact within
    | under inner =>
      unfold Within at within
      unfold Matches at selected ⊢
      rcases within with rfl | deeper
      · exact selected
      · rcases selected with rfl | below
        · exact .inr deeper
        · exact .inr (deeper.trans ((List.suffix_cons _ _).trans below))

theorem nested (first : narrow.Matches separator name) (second : wide.Matches separator name) :
    narrow.Within separator wide ∨ wide.Within separator narrow := by
  cases narrow with
  | every => cases wide <;> exact .inr trivial
  | exact target =>
    cases first
    cases wide with
    | every => exact .inl trivial
    | exact other => exact .inl second
    | under suffix => exact .inl second
  | under suffix =>
    cases wide with
    | every => exact .inl trivial
    | exact target =>
      cases second
      exact .inr first
    | under other =>
      -- both suffixes end the same name, so the shorter one ends the longer one
      have least : ∀ {tail : List A}, name = tail ∨ separator :: tail <:+ name → tail <:+ name := by
        intro tail selected
        rcases selected with rfl | below
        · exact List.suffix_rfl
        · exact (List.suffix_cons _ _).trans below
      have strict : ∀ {short long : List A}, short <:+ long →
          (name = short ∨ separator :: short <:+ name) →
          (name = long ∨ separator :: long <:+ name) →
          long = short ∨ separator :: short <:+ long := by
        intro short long shorter selected other
        rcases Nat.lt_or_ge short.length long.length with less | same
        · right
          rcases selected with rfl | below
          · exact absurd (least other).length_le (by omega)
          · exact List.suffix_of_suffix_length_le below (least other)
              (by simpa using Nat.succ_le_of_lt less)
        · exact .inl (shorter.eq_of_length_le same).symm
      rcases List.suffix_or_suffix_of_suffix (least first) (least second) with before | after
      · exact .inr (strict before first second)
      · exact .inl (strict after second first)

theorem Matches.inhabited (selected : narrow.Matches separator name)
    (isName : IsName separator allowed name) : narrow.Inhabited separator allowed := by
  cases narrow with
  | every => trivial
  | exact target =>
    cases selected
    exact isName
  | under suffix =>
    rcases selected with rfl | below
    · exact ⟨isName.nonempty, isName.ends, isName.letters⟩
    · obtain ⟨before, rfl⟩ := below
      have ends := isName.ends
      cases suffix with
      | nil => simp at ends
      | cons first rest =>
        refine ⟨by simp, ?_, fun symbol member => isName.letters symbol (by simp_all)⟩
        rw [List.getLast?_append, List.getLast?_cons_cons] at ends
        simpa [List.getLast?_cons] using ends

section Fresh

variable (fresh : letter ≠ separator) (usable : allowed letter) (dot : allowed separator)

def witness (separator letter : A) (size : Nat) : NamePattern A → List A
  | every => List.replicate (size + 1) letter
  | exact target => target
  | under suffix => List.replicate (size + 1) letter ++ separator :: suffix

theorem witness_matches (size : Nat) :
    narrow.Matches separator (narrow.witness separator letter size) := by
  cases narrow with
  | every => trivial
  | exact target => rfl
  | under suffix => exact .inr (List.suffix_append _ _)

include fresh usable dot in
theorem witness_isName (size : Nat) (inhabited : narrow.Inhabited separator allowed) :
    IsName separator allowed (narrow.witness separator letter size) := by
  cases narrow with
  | every =>
    refine ⟨by simp [witness], by simp [witness, List.replicate_succ, fresh], ?_, ?_⟩
    · rw [witness, List.getLast?_replicate]
      simp [fresh]
    · intro symbol member
      cases List.eq_of_mem_replicate member
      exact usable
  | exact target => exact inhabited
  | under suffix =>
    obtain ⟨nonempty, ends, letters⟩ := inhabited
    refine ⟨by simp [witness], by simp [witness, List.replicate_succ, fresh], ?_, ?_⟩
    · cases suffix with
      | nil => exact absurd rfl nonempty
      | cons first rest =>
        rw [witness, List.getLast?_append, List.getLast?_cons_cons]
        simpa [List.getLast?_cons] using ends
    · intro symbol member
      rw [witness, List.mem_append, List.mem_cons] at member
      rcases member with padding | rfl | inside
      · cases List.eq_of_mem_replicate padding
        exact usable
      · exact dot
      · exact letters symbol inside

def size : NamePattern A → Nat
  | every => 0
  | exact target => target.length
  | under suffix => suffix.length

include fresh in
theorem within_of_witness {bound : Nat} (small : wide.size ≤ bound)
    (selected : wide.Matches separator (narrow.witness separator letter bound)) :
    narrow.Within separator wide := by
  cases wide with
  | every => cases narrow <;> trivial
  | exact target =>
    cases narrow with
    | exact other => exact selected
    | every =>
      have := congrArg List.length selected
      simp [witness, size] at this small
      omega
    | under suffix =>
      have := congrArg List.length selected
      simp [witness, size] at this small
      omega
  | under outer =>
    cases narrow with
    | exact target => exact selected
    | every =>
      exfalso
      rcases selected with same | below
      · have := congrArg List.length same
        simp [witness, size] at this small
        omega
      · exact fresh (List.eq_of_mem_replicate (below.mem (by simp))).symm
    | under suffix =>
      rcases selected with same | below
      · have := congrArg List.length same
        simp [witness, size] at this small
        omega
      next =>
        -- the separator cannot stand among the padding letters
        rcases Nat.lt_or_ge suffix.length outer.length with less | more
        · obtain ⟨before, shape⟩ := below
          exfalso
          have position := congrArg (fun text => text[before.length]?) shape
          have lengths := congrArg List.length shape
          simp [witness] at lengths
          simp only [witness, List.getElem?_append_right (Nat.le_refl _), Nat.sub_self] at position
          rw [List.getElem?_append_left (by simp; omega)] at position
          simp only [List.getElem?_cons_zero, List.getElem?_replicate] at position
          split at position
          · exact fresh (Option.some.inj position).symm
          · cases position
        · have inner := List.suffix_of_suffix_length_le below (List.suffix_append _ _)
            (by simpa using more)
          rcases List.suffix_cons_iff.mp inner with same | deeper
          · exact .inl (List.cons.inj same).2.symm
          · exact .inr deeper

include fresh usable dot in
theorem covered_by_one (inhabited : narrow.Inhabited separator allowed)
    {patterns : List (NamePattern A)}
    (covered : ∀ name, IsName separator allowed name → narrow.Matches separator name →
      ∃ pattern ∈ patterns, pattern.Matches separator name) :
    ∃ pattern ∈ patterns, narrow.Within separator pattern := by
  let bound := (patterns.map size).sum
  obtain ⟨pattern, member, selected⟩ := covered (narrow.witness separator letter bound)
    (witness_isName fresh usable dot bound inhabited) (witness_matches bound)
  exact ⟨pattern, member, within_of_witness fresh
    (List.single_le_sum (fun _ _ => Nat.zero_le _) _ (List.mem_map_of_mem member)) selected⟩

def Leaves (separator : A) (allowed : A → Prop) (blocked : List (NamePattern A))
    (pattern : NamePattern A) : Prop :=
  pattern.Inhabited separator allowed ∧ ∀ other ∈ blocked, ¬ pattern.Within separator other

include fresh usable dot in
theorem leaves_spec {blocked : List (NamePattern A)} :
    narrow.Leaves separator allowed blocked ↔
      ∃ name, IsName separator allowed name ∧ narrow.Matches separator name ∧
        ∀ other ∈ blocked, ¬ other.Matches separator name := by
  constructor
  · intro ⟨inhabited, uncovered⟩
    by_contra none
    have covered : ∀ name, IsName separator allowed name → narrow.Matches separator name →
        ∃ other ∈ blocked, other.Matches separator name := by
      intro name isName selected
      by_contra missing
      exact none ⟨name, isName, selected, fun other member found =>
        missing ⟨other, member, found⟩⟩
    obtain ⟨other, member, within⟩ := covered_by_one fresh usable dot inhabited covered
    exact uncovered other member within
  · intro ⟨name, isName, selected, free⟩
    exact ⟨selected.inhabited isName, fun other member within =>
      free other member (within_matches within selected)⟩

end Fresh

end NamePattern

end Library
