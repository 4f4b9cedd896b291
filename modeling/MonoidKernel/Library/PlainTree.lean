import MonoidKernel.Library.FileTree

set_option autoImplicit false

namespace Library

namespace PlainTree

open FileTree

universe u v

variable {Name : Type u} {Bytes : Type v} [DecidableEq Name]

def write (view : View Name Bytes) (path : Path Name) (bytes : Bytes) : View Name Bytes :=
  fun query =>
    if query = path then some (.file bytes) else if Above query path then some .dir else view query

def makeDir (view : View Name Bytes) (path : Path Name) : View Name Bytes :=
  fun query => if query <+: path then some .dir else view query

def erase (view : View Name Bytes) (path : Path Name) : View Name Bytes :=
  fun query => if query = path then none else view query

def remove (view : View Name Bytes) (path : Path Name) : View Name Bytes :=
  fun query => if path <+: query then none else view query

def merge (view source : View Name Bytes) (root dest : Path Name) : View Name Bytes :=
  fun query =>
    if Above query dest then some .dir
    else if dest <+: query then (source (root ++ query.drop dest.length)).or (view query)
    else view query

def Clear (view : View Name Bytes) (path : Path Name) : Prop :=
  ∀ upper, Above upper path → view upper = none ∨ view upper = some .dir

variable {view : View Name Bytes} {path : Path Name}

omit [DecidableEq Name] in
theorem Clear.of_there (rooted : Rooted view) (there : view path ≠ none) : Clear view path :=
  fun upper above => .inr (rooted.above upper path above there)

omit [DecidableEq Name] in
theorem Clear.of_parent (rooted : Rooted view) (parent : view path.dropLast = some .dir) :
    Clear view path := by
  intro upper above
  by_cases same : upper = path.dropLast
  · rw [same]; exact .inr parent
  · exact .inr (rooted.above upper path.dropLast ⟨above.dropLast, same⟩ (by rw [parent]; simp))

theorem write_rooted (rooted : Rooted view) (leaf : view path ≠ some .dir) (bytes : Bytes) :
    Rooted (write view path bytes) := by
  have proper : path ≠ [] := by
    intro root
    rw [root] at leaf
    exact leaf rooted.root
  constructor
  · unfold write
    rw [if_neg (Ne.symm proper), if_pos ⟨List.nil_prefix, Ne.symm proper⟩]
  · intro upper lower above there
    unfold write at there ⊢
    have notPath : upper ≠ path → ¬ Above upper path → view lower ≠ none →
        (if upper = path then some (.file bytes) else if Above upper path then some .dir
          else view upper) = some .dir := by
      intro other elsewhere under
      rw [if_neg other, if_neg elsewhere]
      exact rooted.above upper lower above under
    by_cases same : upper = path
    next =>
      -- Nothing is below the file.
      rw [same] at above
      rw [if_neg (Ne.symm above.2), if_neg] at there
      · exact absurd (rooted.below above leaf) there
      · intro under
        exact above_irrefl path (Above.of_within above.1 under)
    · by_cases under : Above upper path
      · rw [if_neg same, if_pos under]
      · apply notPath same under
        split at there
        next here =>
          rw [here] at above
          exact absurd above under
        · split at there
          next between => exact absurd (Above.of_within above.1 between) under
          · exact there

theorem makeDir_rooted (rooted : Rooted view) : Rooted (makeDir view path) := by
  constructor
  · unfold makeDir
    rw [if_pos List.nil_prefix]
  · intro upper lower above there
    unfold makeDir at there ⊢
    by_cases under : upper <+: path
    · rw [if_pos under]
    · rw [if_neg under]
      rw [if_neg fun within => under (above.1.trans within)] at there
      exact rooted.above upper lower above there

theorem erase_absent (absent : view path = none) : erase view path = view := by
  funext query
  unfold erase
  split
  next same => rw [same, absent]
  · rfl

theorem erase_rooted (rooted : Rooted view) (proper : path ≠ [])
    (empty : ∀ lower, Above path lower → view lower = none) : Rooted (erase view path) := by
  constructor
  · unfold erase
    rw [if_neg (Ne.symm proper)]
    exact rooted.root
  · intro upper lower above there
    unfold erase at there ⊢
    split at there
    · exact absurd rfl there
    · rw [if_neg]
      · exact rooted.above upper lower above there
      · intro same
        rw [same] at above
        exact there (empty lower above)

end PlainTree

end Library
