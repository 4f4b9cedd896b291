import Mathlib.Data.List.DropRight

set_option autoImplicit false

namespace Library

universe u

variable {A : Type u} (drop : A → Bool)

theorem trim_front (items : List A) :
    ((items.dropWhile drop).rdropWhile drop).dropWhile drop =
      (items.dropWhile drop).rdropWhile drop := by
  rw [List.dropWhile_eq_self_iff]
  intro nonempty
  have kept : items.dropWhile drop ≠ [] := by
    intro empty
    simp [empty] at nonempty
  have same := (List.rdropWhile_prefix drop (items.dropWhile drop)).getElem nonempty
  rw [same]
  exact List.dropWhile_get_zero_not drop items (List.length_pos_iff.mpr kept)

theorem trim_trim (items : List A) :
    (((items.dropWhile drop).rdropWhile drop).dropWhile drop).rdropWhile drop =
      (items.dropWhile drop).rdropWhile drop := by
  rw [trim_front, List.rdropWhile_idempotent]

theorem trim_sublist (items : List A) :
    List.Sublist ((items.dropWhile drop).rdropWhile drop) items :=
  (List.rdropWhile_prefix drop _).sublist.trans (List.dropWhile_suffix drop).sublist

end Library
