import Mathlib.Data.List.Nodup
import Mathlib.Data.List.Range

set_option autoImplicit false

namespace Library

universe u

variable {A : Type u} {number : A → Nat} {log : List A}

def Numbered (number : A → Nat) (log : List A) : Prop :=
  log.map number = List.range' 1 log.length

namespace Numbered

theorem nil (number : A → Nat) : Numbered number [] := rfl

variable {entry : A}

theorem append (numbered : Numbered number log) (next : number entry = log.length + 1) :
    Numbered number (log ++ [entry]) := by
  unfold Numbered at numbered ⊢
  rw [List.map_append, numbered, List.length_append, List.length_singleton, List.range'_concat]
  simp [next, Nat.add_comm]

theorem number_le (numbered : Numbered number log) (member : entry ∈ log) :
    1 ≤ number entry ∧ number entry ≤ log.length := by
  have listed : number entry ∈ List.range' 1 log.length := by
    rw [← numbered]
    exact List.mem_map_of_mem member
  rw [List.mem_range'_1] at listed
  omega

theorem getElem?_number (numbered : Numbered number log) (member : entry ∈ log) :
    log[number entry - 1]? = some entry := by
  obtain ⟨i, inside, same⟩ := List.mem_iff_getElem.mp member
  have place : (log.map number)[i]? = some (1 + i) := by
    rw [numbered, List.getElem?_range' inside]
    simp
  have counted : number entry = 1 + i := by simpa [same, inside] using place
  rw [counted, Nat.add_sub_cancel_left, List.getElem?_eq_getElem inside, same]

theorem exists_number (numbered : Numbered number log) {k : Nat} (low : 1 ≤ k)
    (high : k ≤ log.length) : ∃ entry ∈ log, number entry = k := by
  have listed : k ∈ log.map number := by
    rw [numbered, List.mem_range'_1]
    omega
  simpa using listed

theorem number_inj (numbered : Numbered number log) {a b : A} (first : a ∈ log)
    (second : b ∈ log) (same : number a = number b) : a = b := by
  have distinct : (log.map number).Nodup := by
    rw [numbered]
    exact List.nodup_range'
  exact List.inj_on_of_nodup_map distinct first second same

theorem find_eq_none (numbered : Numbered number log) {k : Nat} (low : 1 ≤ k)
    (absent : log.find? (fun entry => number entry == k) = none) : log.length < k := by
  by_contra within
  obtain ⟨entry, member, same⟩ := numbered.exists_number low (by omega)
  have missing := List.find?_eq_none.mp absent entry member
  simp [same] at missing

theorem find_beyond (numbered : Numbered number log) {k : Nat} (beyond : log.length < k) :
    log.find? (fun entry => number entry == k) = none := by
  rw [List.find?_eq_none]
  intro entry member
  have bound := (numbered.number_le member).2
  simp only [beq_iff_eq]
  omega

theorem find_number (numbered : Numbered number log) (member : entry ∈ log) :
    log.find? (fun other => number other == number entry) = some entry := by
  cases found : log.find? (fun other => number other == number entry) with
  | none =>
    have missing := List.find?_eq_none.mp found entry member
    simp at missing
  | some other =>
    have same : number other = number entry := by simpa using List.find?_some found
    rw [numbered.number_inj (List.mem_of_find?_eq_some found) member same]

theorem find_filterMap (numbered : Numbered number log) {B : Type u} {image : A → Option B}
    {mark : B → Nat}
    (marked : ∀ entry ∈ log, ∀ out, image entry = some out → mark out = number entry)
    (member : entry ∈ log) :
    (log.filterMap image).find? (fun out => mark out == number entry) = image entry := by
  cases found : (log.filterMap image).find? (fun out => mark out == number entry) with
  | none =>
    cases here : image entry with
    | none => rfl
    | some out =>
      have listed : out ∈ log.filterMap image := List.mem_filterMap.mpr ⟨entry, member, here⟩
      have missing := List.find?_eq_none.mp found out listed
      simp [marked entry member out here] at missing
  | some out =>
    obtain ⟨other, held, there⟩ := List.mem_filterMap.mp (List.mem_of_find?_eq_some found)
    have same : mark out = number entry := by simpa using List.find?_some found
    rw [marked other held out there] at same
    rw [← there, numbered.number_inj held member same]

end Numbered

theorem find_number_some {k : Nat} {entry : A}
    (found : log.find? (fun entry => number entry == k) = some entry) :
    entry ∈ log ∧ number entry = k :=
  ⟨List.mem_of_find?_eq_some found, by simpa using List.find?_some found⟩

end Library
