import Mathlib.Data.List.Basic

set_option autoImplicit false

namespace Library

universe u

variable {A : Type u}

def dropSelected (goes : A → Bool) : Nat → List A → List A
  | _, [] => []
  | 0, a :: rest => a :: rest
  | number + 1, a :: rest =>
    if goes a then dropSelected goes number rest else a :: dropSelected goes (number + 1) rest

def selected (goes : A → Bool) (number : Nat) (list : List A) : List A :=
  (list.filter goes).take number

variable {goes : A → Bool}

@[simp] theorem dropSelected_zero (list : List A) : dropSelected goes 0 list = list := by
  cases list <;> rfl

theorem dropSelected_goes {a : A} (gone : goes a = true) (number : Nat) (rest : List A) :
    dropSelected goes (number + 1) (a :: rest) = dropSelected goes number rest := by
  simp [dropSelected, gone]

theorem dropSelected_stays {a : A} (stays : goes a = false) (number : Nat) (rest : List A) :
    dropSelected goes number (a :: rest) = a :: dropSelected goes number rest := by
  cases number with
  | zero => simp
  | succ number => simp [dropSelected, stays]

theorem dropSelected_countP (holds : A → Bool) (number : Nat) (list : List A) :
    (dropSelected goes number list).countP holds + (selected goes number list).countP holds =
      list.countP holds := by
  induction list generalizing number with
  | nil => simp [dropSelected, selected]
  | cons a rest ih =>
    cases gone : goes a with
    | false =>
      have again := ih number
      simp only [selected] at again
      simp only [dropSelected_stays gone, selected, List.filter_cons, gone, List.countP_cons,
        Bool.false_eq_true, if_false]
      omega
    | true =>
      cases number with
      | zero => simp [selected]
      | succ number =>
        have again := ih number
        simp only [selected] at again
        simp only [dropSelected_goes gone, selected, List.filter_cons, gone, if_true,
          List.take_succ_cons, List.countP_cons]
        omega

variable (number : Nat)

theorem selected_countP (list : List A) :
    (selected goes number list).countP goes = min number (list.countP goes) := by
  have every : ∀ a ∈ selected goes number list, goes a = true := by
    intro a member
    exact (List.mem_filter.mp (List.mem_of_mem_take member)).2
  rw [List.countP_eq_length.mpr every, selected, List.length_take, List.countP_eq_length_filter]

theorem dropSelected_sublist (list : List A) :
    (dropSelected goes number list).Sublist list := by
  induction list generalizing number with
  | nil => simp [dropSelected]
  | cons a rest ih =>
    cases gone : goes a with
    | false =>
      rw [dropSelected_stays gone]
      exact (ih number).cons_cons a
    | true =>
      cases number with
      | zero => simp
      | succ number =>
        rw [dropSelected_goes gone]
        exact (ih number).cons a

theorem dropSelected_others (list : List A) :
    (dropSelected goes number list).filter (fun a => !goes a) =
      list.filter fun a => !goes a := by
  induction list generalizing number with
  | nil => simp [dropSelected]
  | cons a rest ih =>
    cases gone : goes a with
    | false => simp [dropSelected_stays gone, gone, ih]
    | true =>
      cases number with
      | zero => simp
      | succ number => simp [dropSelected_goes gone, gone, ih]

variable {list : List A}

theorem dropSelected_congr {number other : Nat}
    (same : min number (list.countP goes) = min other (list.countP goes)) :
    dropSelected goes number list = dropSelected goes other list := by
  induction list generalizing number other with
  | nil => simp [dropSelected]
  | cons a rest ih =>
    cases gone : goes a with
    | false =>
      simp only [List.countP_cons, gone, Bool.false_eq_true, if_false, Nat.add_zero] at same
      rw [dropSelected_stays gone, dropSelected_stays gone, ih same]
    | true =>
      simp only [List.countP_cons, gone, if_true] at same
      cases number with
      | zero =>
        have none : other = 0 := by omega
        rw [none]
      | succ number =>
        cases other with
        | zero => omega
        | succ other =>
          rw [dropSelected_goes gone, dropSelected_goes gone]
          exact ih (by omega)

theorem selected_append (first second : List A) :
    selected goes number (first ++ second) =
      selected goes number first ++ selected goes (number - first.countP goes) second := by
  rw [selected, List.filter_append, List.take_append, ← List.countP_eq_length_filter]
  rfl

theorem dropSelected_append (first second : List A) :
    dropSelected goes number (first ++ second) =
      dropSelected goes number first ++
        dropSelected goes (number - first.countP goes) second := by
  induction first generalizing number with
  | nil => simp [dropSelected]
  | cons a rest ih =>
    cases gone : goes a with
    | false => simp [dropSelected_stays gone, ih, gone]
    | true =>
      cases number with
      | zero => simp
      | succ number =>
        have left : number + 1 - (rest.countP goes + 1) = number - rest.countP goes := by omega
        rw [List.cons_append, dropSelected_goes gone, dropSelected_goes gone, ih, List.countP_cons]
        simp only [gone, if_true, left]

theorem narrow_left {narrow : A → Bool} (within : ∀ a, narrow a = true → goes a = true)
    {number : Nat} (every : ∀ a ∈ selected goes number list, narrow a = true) :
    number - list.countP goes = number - list.countP narrow := by
  have parts := @dropSelected_countP A goes narrow number list
  have all : (selected goes number list).countP narrow = (selected goes number list).countP goes :=
    List.countP_congr fun a member => by
      have known := every a member
      simp [known, within a known]
  have fewer : list.countP narrow ≤ list.countP goes :=
    List.countP_mono_left fun a _ known => within a known
  rw [all, selected_countP] at parts
  omega

theorem dropSelected_narrow {narrow : A → Bool} (within : ∀ a, narrow a = true → goes a = true)
    {number : Nat} (every : ∀ a ∈ selected goes number list, narrow a = true) :
    dropSelected goes number list = dropSelected narrow number list := by
  induction list generalizing number with
  | nil => simp [dropSelected]
  | cons a rest ih =>
    cases gone : goes a with
    | false =>
      have kept : narrow a = false := by
        cases known : narrow a with
        | false => rfl
        | true => exact absurd (within a known) (by simp [gone])
      have others : ∀ b ∈ selected goes number rest, narrow b = true := by
        simpa only [selected, List.filter_cons, gone, Bool.false_eq_true, if_false] using every
      rw [dropSelected_stays gone, dropSelected_stays kept, ih others]
    | true =>
      cases number with
      | zero => simp
      | succ number =>
        simp only [selected, List.filter_cons, gone, if_true, List.take_succ_cons,
          List.forall_mem_cons] at every
        rw [dropSelected_goes gone, dropSelected_goes every.1, ih every.2]

end Library
