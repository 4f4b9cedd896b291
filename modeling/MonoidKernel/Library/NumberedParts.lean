import Mathlib.Data.List.Basic

set_option autoImplicit false

namespace Library

universe u

variable {A : Type u}

def gapless : Nat → List (Nat × A) → List A
  | _, [] => []
  | expected, part :: rest =>
    if part.1 = expected then part.2 :: gapless (expected + 1) rest else []

-- `parts` are, in order, some of the elements of `all`, each with its position from `first` on.
structure PartsOf (first : Nat) (all : List A) (parts : List (Nat × A)) : Prop where
  increasing : parts.Pairwise fun earlier later => earlier.1 < later.1
  from_first : ∀ part ∈ parts, first ≤ part.1
  faithful : ∀ part ∈ parts, all[part.1 - first]? = some part.2

theorem PartsOf.nil (first : Nat) (all : List A) : PartsOf first all [] where
  increasing := List.Pairwise.nil
  from_first := by simp
  faithful := by simp

variable {all : List A}

variable {first : Nat}

theorem PartsOf.tail {a : A} {part : Nat × A} {rest : List (Nat × A)}
    (parts : PartsOf first (a :: all) (part :: rest)) (here : part.1 = first) :
    PartsOf (first + 1) all rest := by
  have later := List.pairwise_cons.mp parts.increasing
  constructor
  · exact later.2
  · intro other member
    have above := later.1 other member
    omega
  · intro other member
    have above := later.1 other member
    have found := parts.faithful other (List.mem_cons_of_mem _ member)
    have shift : other.1 - first = other.1 - (first + 1) + 1 := by omega
    rw [shift, List.getElem?_cons_succ] at found
    exact found

variable {parts : List (Nat × A)}

theorem gapless_prefix (partsOf : PartsOf first all parts) :
    gapless first parts <+: all := by
  induction parts generalizing first all with
  | nil => exact List.nil_prefix
  | cons part rest ih =>
    unfold gapless
    split
    next here =>
      have found := partsOf.faithful part List.mem_cons_self
      rw [here, Nat.sub_self] at found
      cases all with
      | nil => simp at found
      | cons a others =>
        rw [List.getElem?_cons_zero, Option.some.injEq] at found
        rw [← found]
        exact List.prefix_cons_inj a |>.mpr (ih (partsOf.tail here))
    · exact List.nil_prefix

theorem increasing_length (first stop : Nat)
    (increasing : parts.Pairwise fun earlier later => earlier.1 < later.1)
    (within : ∀ part ∈ parts, first ≤ part.1 ∧ part.1 < stop) : parts.length ≤ stop - first := by
  induction parts generalizing first with
  | nil => simp
  | cons part rest ih =>
    have later := List.pairwise_cons.mp increasing
    have here := within part List.mem_cons_self
    have others := ih (part.1 + 1) later.2 (by
      intro other member
      have above := later.1 other member
      have bounded := within other (List.mem_cons_of_mem _ member)
      omega)
    rw [List.length_cons]
    omega

theorem PartsOf.within (partsOf : PartsOf first all parts) :
    ∀ part ∈ parts, first ≤ part.1 ∧ part.1 < first + all.length := by
  intro part member
  have lower := partsOf.from_first part member
  have found := partsOf.faithful part member
  have upper := (List.getElem?_eq_some_iff.mp found).1
  omega

theorem gapless_complete (partsOf : PartsOf first all parts)
    (complete : parts.length = all.length) :
    gapless first parts = all := by
  induction parts generalizing first all with
  | nil =>
    have none : all = [] := List.eq_nil_of_length_eq_zero complete.symm
    rw [none, gapless]
  | cons part rest ih =>
    cases all with
    | nil => simp at complete
    | cons a others =>
      have later := List.pairwise_cons.mp partsOf.increasing
      have within := partsOf.within
      have bounded := within part List.mem_cons_self
      -- A gap here leaves too few numbers for the rest.
      have room := increasing_length (part.1 + 1) (first + (a :: others).length) later.2 (by
          intro other member
          have above := later.1 other member
          have inside := within other (List.mem_cons_of_mem _ member)
          omega)
      rw [List.length_cons] at room complete bounded
      rw [List.length_cons] at complete
      have here : part.1 = first := by omega
      have found := partsOf.faithful part List.mem_cons_self
      rw [here, Nat.sub_self, List.getElem?_cons_zero, Option.some.injEq] at found
      rw [gapless, if_pos here, ih (partsOf.tail here) (by omega), found]

theorem PartsOf.grow (partsOf : PartsOf 0 all parts) (a : A) : PartsOf 0 (all ++ [a]) parts where
  increasing := partsOf.increasing
  from_first := partsOf.from_first
  faithful := by
    intro part member
    have bounded := partsOf.within part member
    rw [List.getElem?_append_left (by omega)]
    exact partsOf.faithful part member

theorem PartsOf.concat (partsOf : PartsOf 0 all parts) (a : A) :
    PartsOf 0 (all ++ [a]) (parts ++ [(all.length, a)]) where
  increasing := by
    rw [List.pairwise_append]
    constructor
    · exact partsOf.increasing
    · constructor
      · exact List.pairwise_singleton _ _
      · intro earlier member later last
        have bounded := partsOf.within earlier member
        rw [List.mem_singleton] at last
        rw [last]
        omega
  from_first := by simp
  faithful := by
    intro part member
    cases List.mem_append.mp member with
    | inl before => exact (partsOf.grow a).faithful part before
    | inr last =>
      rw [List.mem_singleton] at last
      simp [last]

theorem PartsOf.fresh (partsOf : PartsOf 0 all parts) :
    all.length ∉ parts.map Prod.fst := by
  intro member
  obtain ⟨part, inside, here⟩ := List.mem_map.mp member
  have bounded := partsOf.within part inside
  omega

end Library
