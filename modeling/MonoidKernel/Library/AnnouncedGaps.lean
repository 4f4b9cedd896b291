import Mathlib.Data.List.Basic
import Mathlib.Data.List.Nodup

set_option autoImplicit false

namespace Library

universe u

inductive Heard (A : Type u) where
  | item (entry : A)
  | gap

namespace Heard

variable {A : Type u}

def item? : Heard A → Option A
  | .item entry => some entry
  | .gap => none

-- What was heard accounts for the first items of the log, as many as the number says.
inductive Accounts (log : List A) : List (Heard A) → Nat → Prop
  | nothing : Accounts log [] 0
  | item {heard : List (Heard A)} {n : Nat} {item : A} (before : Accounts log heard n)
      (turn : log[n]? = some item) : Accounts log (heard ++ [.item item]) (n + 1)
  | gap {heard : List (Heard A)} {n m : Nat} (before : Accounts log heard n) (forward : n ≤ m)
      (inside : m ≤ log.length) : Accounts log (heard ++ [.gap]) m

-- Where items are missing between two that are heard, or before the first, a gap is announced
-- between these two, or before the first.
structure GapsAnnounced (log : List A) (heard : List (Heard A)) : Prop where
  inOrder : (heard.filterMap item?).Sublist log
  first : ∀ silent item rest missed later, heard = silent ++ .item item :: rest →
    silent.filterMap item? = [] → log = missed ++ item :: later → missed ≠ [] → .gap ∈ silent
  between : ∀ start item silent other rest earlier missed later,
    heard = start ++ .item item :: silent ++ .item other :: rest → silent.filterMap item? = [] →
    log = earlier ++ item :: missed ++ other :: later → missed ≠ [] → .gap ∈ silent

-- Nothing is left of the log after the last item, unless a gap is announced after it.
structure EndAnnounced (log : List A) (heard : List (Heard A)) : Prop where
  nothing : heard.filterMap item? = [] → log ≠ [] → .gap ∈ heard
  last : ∀ start item silent earlier missed, heard = start ++ .item item :: silent →
    silent.filterMap item? = [] → log = earlier ++ item :: missed → missed ≠ [] → .gap ∈ silent

variable {log : List A} {heard : List (Heard A)} {n : Nat}

theorem Accounts.le_length (accounts : Accounts log heard n) : n ≤ log.length := by
  induction accounts with
  | nothing => exact Nat.zero_le _
  | item before turn ih => exact (List.getElem?_eq_some_iff.mp turn).1
  | gap before forward inside ih => exact inside

theorem Accounts.grown (accounts : Accounts log heard n) (more : List A) :
    Accounts (log ++ more) heard n := by
  induction accounts with
  | nothing => exact .nothing
  | item before turn ih =>
    refine .item ih ?_
    rw [List.getElem?_append_left (List.getElem?_eq_some_iff.mp turn).1]
    exact turn
  | gap before forward inside ih =>
    exact .gap ih forward (by rw [List.length_append]; omega)

theorem Accounts.inOrder (accounts : Accounts log heard n) :
    (heard.filterMap item?).Sublist (log.take n) := by
  induction accounts with
  | nothing => simp
  | @item heard n item before turn ih =>
    rw [List.filterMap_append, List.take_add_one, turn]
    exact ih.append (List.Sublist.refl _)
  | @gap heard n m before forward inside ih =>
    have none : [Heard.gap].filterMap item? = ([] : List A) := rfl
    rw [List.filterMap_append, none, List.append_nil]
    exact ih.trans (List.take_sublist_take_left forward)

theorem Accounts.silent (accounts : Accounts log heard n) :
    (∀ silent, heard = silent → silent.filterMap item? = [] → .gap ∉ silent → n = 0) ∧
    (∀ start item silent, heard = start ++ .item item :: silent → silent.filterMap item? = [] →
      .gap ∉ silent → ∃ k, n = k + 1 ∧ log[k]? = some item) := by
  have empty : ∀ silent : List (Heard A), silent.filterMap item? = [] → .gap ∉ silent →
      silent = [] := by
    intro silent quiet unannounced
    cases silent with
    | nil => rfl
    | cons head rest =>
      cases head with
      | item item => simp [item?] at quiet
      | gap => simp at unannounced
  constructor
  · intro silent same quiet unannounced
    rw [same, empty silent quiet unannounced] at accounts
    generalize none : ([] : List (Heard A)) = heard at accounts
    cases accounts with
    | nothing => rfl
    | item before turn => simp at none
    | gap before forward inside => simp at none
  · intro start item silent same quiet unannounced
    rw [same, empty silent quiet unannounced] at accounts
    generalize ending : start ++ [Heard.item item] = heard at accounts
    cases accounts with
    | nothing => simp at ending
    | @item heard k other before turn =>
      have last := List.append_inj_right' ending rfl
      cases last
      exact ⟨k, rfl, turn⟩
    | gap before forward inside =>
      have last := List.append_inj_right' ending rfl
      cases last

theorem Accounts.split (accounts : Accounts log heard n) :
    ∀ start item rest, heard = start ++ .item item :: rest →
      ∃ k, Accounts log start k ∧ log[k]? = some item := by
  induction accounts with
  | nothing => intro start item rest same; simp at same
  | @item heard k last before turn ih =>
    intro start item rest same
    rcases List.eq_nil_or_concat rest with none | ⟨front, final, more⟩
    · subst none
      obtain ⟨rfl, ending⟩ := List.append_inj' same rfl
      cases ending
      exact ⟨k, before, turn⟩
    · subst more
      rw [List.concat_eq_append, ← List.cons_append, ← List.append_assoc] at same
      exact ih start item front (List.append_inj' same rfl).1
  | @gap heard k m before forward inside ih =>
    intro start item rest same
    rcases List.eq_nil_or_concat rest with none | ⟨front, final, more⟩
    · subst none
      obtain ⟨_, ending⟩ := List.append_inj' same rfl
      cases ending
    · subst more
      rw [List.concat_eq_append, ← List.cons_append, ← List.append_assoc] at same
      exact ih start item front (List.append_inj' same rfl).1

theorem place_of_nodup {earlier later : List A} {item : A} {k : Nat}
    (nodup : (earlier ++ item :: later).Nodup)
    (turn : (earlier ++ item :: later)[k]? = some item) : k = earlier.length := by
  have here : (earlier ++ item :: later)[earlier.length]? = some item := by simp
  have inside := (List.getElem?_eq_some_iff.mp turn).1
  exact (List.getElem?_inj inside nodup).mp (turn.trans here.symm)

theorem Accounts.gapsAnnounced (accounts : Accounts log heard n) (nodup : log.Nodup) :
    GapsAnnounced log heard := by
  refine ⟨accounts.inOrder.trans (List.take_sublist _ _), ?_, ?_⟩
  · intro silent item rest missed later same quiet found some
    by_contra unannounced
    obtain ⟨k, before, turn⟩ := accounts.split silent item rest same
    have start := before.silent.1 silent rfl quiet unannounced
    subst found
    have place := place_of_nodup nodup turn
    exact some (List.eq_nil_of_length_eq_zero (by omega))
  · intro start item silent other rest earlier missed later same quiet found some
    by_contra unannounced
    obtain ⟨k, before, turn⟩ := accounts.split _ other rest same
    obtain ⟨j, next, turn'⟩ := before.silent.2 start item silent rfl quiet unannounced
    subst found
    have place : k = (earlier ++ item :: missed).length := place_of_nodup nodup turn
    have place' : j = earlier.length := by
      rw [List.append_assoc, List.cons_append] at nodup turn'
      exact place_of_nodup nodup turn'
    rw [List.length_append, List.length_cons] at place
    exact some (List.eq_nil_of_length_eq_zero (by omega))

theorem Accounts.endAnnounced (accounts : Accounts log heard log.length) (nodup : log.Nodup) :
    EndAnnounced log heard := by
  constructor
  · intro quiet some
    by_contra unannounced
    have none := accounts.silent.1 heard rfl quiet unannounced
    exact some (List.eq_nil_of_length_eq_zero none)
  · intro start item silent earlier missed same quiet found some
    by_contra unannounced
    obtain ⟨k, all, turn⟩ := accounts.silent.2 start item silent same quiet unannounced
    subst found
    have place := place_of_nodup nodup turn
    rw [List.length_append, List.length_cons] at all
    exact some (List.eq_nil_of_length_eq_zero (by omega))

end Heard

end Library
