import Mathlib.Algebra.BigOperators.Group.Finset.Piecewise

set_option autoImplicit false

namespace Library

universe u

variable {R : Type u} [DecidableEq R]

def highest : List (R × Nat) → R → Nat
  | [], _ => 0
  | (name, value) :: rest, asked =>
    if name = asked then max value (highest rest asked) else highest rest asked

theorem highest_append (earlier later : List (R × Nat)) (name : R) :
    highest (earlier ++ later) name = max (highest earlier name) (highest later name) := by
  induction earlier with
  | nil => simp [highest]
  | cons reading rest ih =>
    simp only [List.cons_append, highest, ih]
    split
    · rw [max_assoc]
    · rfl

@[simp] theorem highest_last (earlier : List (R × Nat)) (name : R) (value : Nat) :
    highest (earlier ++ [(name, value)]) name = max (highest earlier name) value := by
  rw [highest_append]
  simp [highest]

theorem highest_other (earlier : List (R × Nat)) {name other : R} (distinct : name ≠ other)
    (value : Nat) : highest (earlier ++ [(name, value)]) other = highest earlier other := by
  rw [highest_append]
  simp [highest, distinct]

theorem highest_unread {readings : List (R × Nat)} {name : R}
    (unread : ∀ value, (name, value) ∉ readings) : highest readings name = 0 := by
  induction readings with
  | nil => rfl
  | cons reading rest ih =>
    obtain ⟨other, value⟩ := reading
    have distinct : other ≠ name := by
      rintro rfl
      exact unread value (List.mem_cons_self ..)
    rw [highest, if_neg distinct]
    exact ih fun value listed => unread value (List.mem_cons_of_mem _ listed)

theorem sum_highest_last (names : Finset R) (readings : List (R × Nat)) (name : R) (value : Nat)
    (fresh : name ∉ names → highest readings name = 0) :
    ∑ held ∈ insert name names, highest (readings ++ [(name, value)]) held =
      ∑ held ∈ names, highest readings held + (value - highest readings name) := by
  have others : ∑ held ∈ names.erase name, highest (readings ++ [(name, value)]) held =
      ∑ held ∈ names.erase name, highest readings held := by
    refine Finset.sum_congr rfl fun held member => ?_
    exact highest_other readings (Finset.ne_of_mem_erase member).symm value
  have before : ∑ held ∈ names, highest readings held =
      highest readings name + ∑ held ∈ names.erase name, highest readings held := by
    by_cases member : name ∈ names
    · exact (Finset.add_sum_erase names _ member).symm
    · rw [fresh member, Nat.zero_add, Finset.erase_eq_of_notMem member]
  rw [← Finset.insert_erase (Finset.mem_insert_self name names), Finset.erase_insert_eq_erase,
    Finset.sum_insert (Finset.notMem_erase name names), others, before, highest_last]
  omega

end Library
