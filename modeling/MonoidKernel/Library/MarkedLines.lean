import Mathlib.Data.List.Basic

set_option autoImplicit false

namespace Library

universe u

variable {A : Type u} [DecidableEq A] (mark : A)

def firstLine : List A → List A
  | [] => []
  | a :: rest => if a = mark then [a] else a :: firstLine rest

def lastMark : List A → Option Nat
  | [] => none
  | a :: rest =>
    match lastMark rest with
    | some index => some (index + 1)
    | none => if a = mark then some 0 else none

variable {mark}

theorem firstLine_length_le (list : List A) : (firstLine mark list).length ≤ list.length := by
  induction list with
  | nil => exact Nat.le_refl 0
  | cons a rest ih =>
    unfold firstLine
    split <;> simp [ih]

theorem firstLine_unmarked {list : List A} (free : mark ∉ list) : firstLine mark list = list := by
  induction list with
  | nil => rfl
  | cons a rest ih =>
    rw [List.mem_cons, not_or] at free
    rw [firstLine, if_neg (Ne.symm free.1), ih free.2]

theorem firstLine_marked {line : List A} (free : mark ∉ line) (rest : List A) :
    firstLine mark (line ++ mark :: rest) = line ++ [mark] := by
  induction line with
  | nil => simp [firstLine]
  | cons a others ih =>
    rw [List.mem_cons, not_or] at free
    rw [List.cons_append, firstLine, if_neg (Ne.symm free.1), ih free.2, List.cons_append]

theorem lastMark_none {list : List A} : lastMark mark list = none ↔ mark ∉ list := by
  induction list with
  | nil => simp [lastMark]
  | cons a rest ih =>
    unfold lastMark
    cases last : lastMark mark rest with
    | some index =>
      have present : mark ∈ rest := by
        by_contra free
        rw [ih.mpr free] at last
        cases last
      simp [present]
    | none =>
      have free := ih.mp last
      simp [free, eq_comm]

theorem lastMark_some {list : List A} {index : Nat} (last : lastMark mark list = some index) :
    index < list.length ∧ list = list.take index ++ mark :: list.drop (index + 1) ∧
      mark ∉ list.drop (index + 1) := by
  induction list generalizing index with
  | nil => cases last
  | cons a rest ih =>
    unfold lastMark at last
    cases inner : lastMark mark rest with
    | some before =>
      rw [inner] at last
      cases last
      obtain ⟨inside, cut, free⟩ := ih inner
      refine ⟨by simpa using inside, ?_, by simpa using free⟩
      simpa using cut
    | none =>
      rw [inner] at last
      dsimp only at last
      split at last
      next same =>
        cases last
        exact ⟨by simp, by simp [same], by simpa using lastMark_none.mp inner⟩
      · cases last

theorem lastMark_append_eq (list rest : List A) :
    lastMark mark (list ++ rest) =
      match lastMark mark rest with
      | some index => some (list.length + index)
      | none => lastMark mark list := by
  induction list with
  | nil => cases last : lastMark mark rest <;> simp [last, lastMark]
  | cons a others ih =>
    rw [List.cons_append, lastMark, ih]
    cases lastMark mark rest with
    | some index =>
      simp only [List.length_cons, Option.some.injEq]
      omega
    | none => rfl

theorem marked_cases (mark : A) (list : List A) :
    mark ∉ list ∨ ∃ line rest, list = line ++ mark :: rest ∧ mark ∉ line := by
  by_cases present : mark ∈ list
  · right
    exact List.eq_append_cons_of_mem present
  · exact .inl present

end Library
