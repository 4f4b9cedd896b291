import Mathlib.Data.List.Nodup

set_option autoImplicit false

namespace Library

universe u

structure Counts (K : Type u) where
  entries : List (K × Nat)
  distinct : (entries.map Prod.fst).Nodup
deriving DecidableEq, Repr

namespace Counts

variable {K : Type u} [DecidableEq K]

def empty : Counts K := ⟨[], List.nodup_nil⟩

def get? (counts : Counts K) (key : K) : Option Nat := counts.entries.lookup key

def count (counts : Counts K) (key : K) : Nat := (counts.get? key).getD 0

def addTo (key : K) (count : Nat) : List (K × Nat) → List (K × Nat)
  | [] => [(key, count)]
  | entry :: rest =>
    if entry.1 = key then (key, entry.2 + count) :: rest else entry :: addTo key count rest

theorem addTo_keys (key : K) (count : Nat) (entries : List (K × Nat)) :
    (addTo key count entries).map Prod.fst =
      if key ∈ entries.map Prod.fst then entries.map Prod.fst
      else entries.map Prod.fst ++ [key] := by
  induction entries with
  | nil => rfl
  | cons entry rest ih =>
    unfold addTo
    by_cases same : entry.1 = key
    · simp [same]
    · have other : key ≠ entry.1 := Ne.symm same
      rw [if_neg same, List.map_cons, ih, List.map_cons]
      by_cases present : key ∈ rest.map Prod.fst
      · rw [if_pos present, if_pos (List.mem_cons_of_mem _ present)]
      · rw [if_neg present, if_neg (by simp_all), List.cons_append]

theorem addTo_lookup (key : K) (count : Nat) (entries : List (K × Nat)) (other : K) :
    (addTo key count entries).lookup other =
      if other = key then some ((entries.lookup key).getD 0 + count)
      else entries.lookup other := by
  induction entries with
  | nil =>
    by_cases same : other = key
    · simp [addTo, same]
    · have unequal : (other == key) = false := by simpa using same
      simp [addTo, List.lookup_cons, same, unequal]
  | cons entry rest ih =>
    obtain ⟨name, held⟩ := entry
    unfold addTo
    by_cases here : name = key
    · rw [if_pos here, here]
      by_cases same : other = key
      · simp [same]
      · have unequal : (other == key) = false := by simpa using same
        simp [List.lookup_cons, same, unequal]
    · rw [if_neg here, List.lookup_cons, ih]
      by_cases same : other = key
      · have unequal : (key == name) = false := by simpa using Ne.symm here
        simp [List.lookup_cons, same, unequal]
      · simp [List.lookup_cons, same]

def add (counts : Counts K) (key : K) (count : Nat) : Counts K where
  entries := addTo key count counts.entries
  distinct := by
    rw [addTo_keys]
    split
    · exact counts.distinct
    next absent =>
      refine List.nodup_append.mpr ⟨counts.distinct, List.nodup_singleton key, ?_⟩
      intro name listed last only same
      rw [List.mem_singleton] at only
      exact absent (only ▸ same ▸ listed)

def plus (counts added : Counts K) : Counts K :=
  added.entries.foldl (fun sum entry => sum.add entry.1 entry.2) counts

def sum (terms : List (Counts K)) : Counts K := terms.foldl plus empty

def Same (counts other : Counts K) : Prop := ∀ key, counts.get? key = other.get? key

variable {counts other third : Counts K}

@[simp] theorem get?_empty (key : K) : (empty : Counts K).get? key = none := rfl

theorem get?_add (counts : Counts K) (key : K) (count : Nat) (name : K) :
    (counts.add key count).get? name =
      if name = key then some ((counts.get? key).getD 0 + count) else counts.get? name :=
  addTo_lookup key count counts.entries name

theorem get?_plus (counts added : Counts K) (key : K) :
    (counts.plus added).get? key = Option.merge (· + ·) (counts.get? key) (added.get? key) := by
  obtain ⟨entries, distinct⟩ := added
  unfold plus
  dsimp only
  induction entries generalizing counts with
  | nil =>
    rw [List.foldl_nil, show (Counts.mk [] distinct).get? key = none from rfl]
    cases counts.get? key <;> rfl
  | cons entry rest ih =>
    obtain ⟨name, count⟩ := entry
    rw [List.map_cons, List.nodup_cons] at distinct
    rw [List.foldl_cons, ih _ distinct.2, get?_add]
    by_cases same : key = name
    · have absent : rest.lookup name = none := List.lookup_eq_none_iff.mpr (by
        intro entry member
        have := distinct.1
        simp only [List.mem_map, not_exists, not_and] at this
        simpa using Ne.symm (this entry member))
      subst same
      cases held : counts.get? key <;> simp [get?, absent]
    · have unequal : (key == name) = false := by simpa using same
      simp [get?, List.lookup_cons, same, unequal]

theorem count_plus (counts added : Counts K) (key : K) :
    (counts.plus added).count key = counts.count key + added.count key := by
  unfold count
  rw [get?_plus]
  cases counts.get? key <;> cases added.get? key <;> simp

theorem sum_append (terms : List (Counts K)) (last : Counts K) :
    sum (terms ++ [last]) = (sum terms).plus last := by
  simp [sum]

theorem Same.refl (counts : Counts K) : counts.Same counts := fun _ => rfl

theorem Same.symm (same : counts.Same other) : other.Same counts := fun key => (same key).symm

theorem Same.trans (first : counts.Same other) (second : other.Same third) : counts.Same third :=
  fun key => (first key).trans (second key)

theorem Same.count (same : counts.Same other) (key : K) : counts.count key = other.count key := by
  unfold Counts.count
  rw [same key]

theorem Same.plus {added also : Counts K} (same : counts.Same other) (second : added.Same also) :
    (counts.plus added).Same (other.plus also) := by
  intro key
  rw [get?_plus, get?_plus, same key, second key]

theorem plus_comm (counts added : Counts K) : (counts.plus added).Same (added.plus counts) := by
  intro key
  rw [get?_plus, get?_plus]
  cases counts.get? key <;> cases added.get? key <;> simp [Nat.add_comm]

theorem empty_plus (counts : Counts K) : (empty.plus counts).Same counts := by
  intro key
  rw [get?_plus]
  cases counts.get? key <;> simp

theorem entries_eq_nil : counts.entries = [] ↔ counts.Same empty := by
  constructor
  · intro nothing key; rw [get?, nothing, get?_empty, List.lookup_nil]
  · intro same
    cases held : counts.entries with
    | nil => rfl
    | cons entry rest =>
      have found := same entry.1
      rw [get?, held, get?_empty] at found
      simp at found

theorem get?_of_mem {entry : K × Nat} (member : entry ∈ counts.entries) :
    counts.get? entry.1 = some entry.2 := by
  obtain ⟨entries, distinct⟩ := counts
  unfold get?
  dsimp only at member ⊢
  induction entries with
  | nil => simp at member
  | cons first rest ih =>
    rw [List.map_cons, List.nodup_cons] at distinct
    rcases List.mem_cons.mp member with same | later
    · rw [same, List.lookup_cons, beq_self_eq_true]
    · have other : entry.1 ≠ first.1 :=
        fun same => distinct.1 (same ▸ List.mem_map_of_mem later)
      have unequal : (entry.1 == first.1) = false := by simpa using other
      rw [List.lookup_cons, unequal]
      exact ih distinct.2 later

theorem mem_of_get? {key : K} {held : Nat} (found : counts.get? key = some held) :
    (key, held) ∈ counts.entries := by
  obtain ⟨earlier, later, split, _⟩ := List.lookup_eq_some_iff.mp found
  rw [split]
  simp

instance (counts other : Counts K) : Decidable (counts.Same other) :=
  decidable_of_iff (∀ entry ∈ counts.entries ++ other.entries,
      counts.get? entry.1 = other.get? entry.1) (by
    constructor
    · intro agree key
      cases left : counts.get? key with
      | some held =>
        rw [← left]
        exact agree _ (List.mem_append_left _ (mem_of_get? left))
      | none =>
        cases right : other.get? key with
        | none => rfl
        | some held =>
          have same := agree _ (List.mem_append_right _ (mem_of_get? right))
          dsimp only at same
          rw [left, right] at same
          cases same
    · exact fun same entry _ => same entry.1)

end Counts

end Library
