import MonoidKernel.Workspace.LocalView

set_option autoImplicit false

namespace MonoidKernel.Workspace

open Library (FileTree Node)
open Library.FileTree (Above View Rooted)
open Library.PlainTree (Clear write makeDir erase)

section Entries

inductive EntryKind where
  | file
  | dir
  | missing
deriving DecidableEq

inductive ChangeKind where
  | created
  | modified
  | deleted
  | directory
deriving DecidableEq

structure ChangedEntry where
  path : Rel
  kind : EntryKind
  size : Nat
  sha256 : Option Text
  content : Option Bytes
  baseSha256 : Option Text
  proposedSha256 : Option Text
  changeKind : ChangeKind
deriving DecidableEq

variable (setting : Setting)

def proposedFile (rel : Rel) (before : Option Bytes) (data : Bytes) : Option ChangedEntry :=
  if before = some data then none
  else some ⟨rel, .file, data.length, some (setting.sha256 data), some data,
    before.map setting.sha256, some (setting.sha256 data),
    if before = none then .created else .modified⟩

def deletedFile (rel : Rel) (before : Bytes) : ChangedEntry :=
  ⟨rel, .missing, 0, none, none, some (setting.sha256 before), none, .deleted⟩

def deletedDir (rel : Rel) : ChangedEntry := ⟨rel, .dir, 0, none, none, none, none, .deleted⟩

def madeDirectory (rel : Rel) : ChangedEntry := ⟨rel, .dir, 0, none, none, none, none, .directory⟩

def State.changedEntry (state : State) (rel : Rel) (before : Option Bytes) : Option ChangedEntry :=
  if rel ∈ state.deletedFiles then before.map (deletedFile setting rel)
  else if rel ∈ state.deletedDirs then some (deletedDir rel)
  else
    match state.overlay.lookup rel with
    | some data => proposedFile setting rel before data
    | none =>
      if rel ∈ state.overlayDirs then
        if before = none ∧ setting.base.node rel = none then some (madeDirectory rel) else none
      else
        match setting.base.node rel, before with
        | some (.file data), _ => proposedFile setting rel before data
        | some .dir, none => some (madeDirectory rel)
        | _, some data => some (deletedFile setting rel data)
        | none, none => none

def State.changedEntries (state : State) : List ChangedEntry :=
  (sortedItems state.originals).filterMap fun item => state.changedEntry setting item.1 item.2

-- `snapshot_current_as_new_baseline`; what is in the overlay and deleted stays as it is.
def State.snapshotCurrentAsNewBaseline (state : State) : State := { state with originals := ∅ }

end Entries

section Applying

def putEntry (view : View Text Bytes) (entry : ChangedEntry) : Option (View Text Bytes) :=
  if entry.path.dropLast.inits.all fun upper =>
      decide (view upper = none ∨ view upper = some .dir) then
    match entry.content with
    | some data => some (write view entry.path data)
    | none => some (makeDir view entry.path)
  else none

def applyEntries (view : View Text Bytes) (entries : List ChangedEntry) :
    Option (View Text Bytes) :=
  (entries.filter fun entry => decide (entry.changeKind ≠ .deleted)).foldlM putEntry
    ((entries.filter fun entry => decide (entry.changeKind = .deleted)).foldl
      (fun view entry => erase view entry.path) view)

-- The entries make of the baseline what is in view, and none of them is about a path that is as it
-- was.
structure Exact (setting : Setting) (state : State) (baseline : View Text Bytes) : Prop where
  applied : applyEntries baseline (state.changedEntries setting) = some (state.view setting)
  needed : ∀ entry ∈ state.changedEntries setting,
    baseline entry.path ≠ state.view setting entry.path

def ChangedEntry.node (entry : ChangedEntry) : Node Bytes :=
  match entry.content with
  | some data => .file data
  | none => .dir

theorem erase_all (entries : List ChangedEntry) (view : View Text Bytes) (rel : Rel) :
    entries.foldl (fun view entry => erase view entry.path) view rel =
      if rel ∈ entries.map (·.path) then none else view rel := by
  induction entries generalizing view with
  | nil => rfl
  | cons entry rest ih =>
    rw [List.foldl_cons, ih]
    by_cases later : rel ∈ rest.map (·.path)
    · simp [later]
    · by_cases same : rel = entry.path
      · simp [same, erase]
      · simp [later, same, erase]

theorem putEntries_spec (entries : List ChangedEntry) {before after : View Text Bytes}
    (proper : ∀ entry ∈ entries, entry.path ≠ [])
    (once : (entries.map (·.path)).Nodup)
    (has : ∀ entry ∈ entries, after entry.path = some entry.node)
    (parents : ∀ entry ∈ entries, ∀ upper, Above upper entry.path → after upper = some .dir)
    (clear : ∀ entry ∈ entries, ∀ upper, Above upper entry.path →
      before upper = none ∨ before upper = some .dir)
    (others : ∀ rel, rel ∉ entries.map (·.path) →
      (∀ entry ∈ entries, ¬ Above rel entry.path) → after rel = before rel) :
    entries.foldlM putEntry before = some after := by
  induction entries generalizing before with
  | nil =>
    have same : before = after := by
      funext rel
      exact (others rel (by simp) (by simp)).symm
    rw [same]
    rfl
  | cons entry rest ih =>
    rw [List.map_cons, List.nodup_cons] at once
    have here := proper entry List.mem_cons_self
    have put : ∃ between, putEntry before entry = some between ∧ ∀ rel, between rel =
        if rel = entry.path then some entry.node
        else if Above rel entry.path then some .dir else before rel := by
      unfold putEntry
      rw [if_pos]
      · unfold ChangedEntry.node
        cases entry.content with
        | some data => exact ⟨_, rfl, fun rel => rfl⟩
        | none =>
          refine ⟨_, rfl, ?_⟩
          intro rel
          unfold makeDir
          by_cases same : rel = entry.path
          · simp [same]
          · by_cases above : Above rel entry.path
            · simp [same, above, above.1]
            · have outside : ¬ rel <+: entry.path := fun within => above ⟨within, same⟩
              simp [same, above, outside]
      · rw [List.all_eq_true]
        intro upper member
        rw [List.mem_inits] at member
        rw [decide_eq_true_eq]
        exact clear entry List.mem_cons_self upper ((Library.FileTree.above_iff here).mpr member)
    obtain ⟨between, done, is⟩ := put
    rw [List.foldlM_cons, done, Option.bind_eq_bind, Option.bind_some]
    apply ih (fun later member => proper later (List.mem_cons_of_mem _ member)) once.2
      (fun later member => has later (List.mem_cons_of_mem _ member))
      (fun later member => parents later (List.mem_cons_of_mem _ member))
    · intro later member upper above
      have dir := parents later (List.mem_cons_of_mem _ member) upper above
      rw [is]
      split
      next same =>
        -- What is above a later entry is a directory in the end, so this entry makes one.
        rw [same, has entry List.mem_cons_self] at dir
        exact .inr dir
      · split
        · exact .inr rfl
        · exact clear later (List.mem_cons_of_mem _ member) upper above
    · intro rel absent notAbove
      rw [is]
      split
      next same => rw [same]; exact has entry List.mem_cons_self
      next other =>
        split
        next above => exact parents entry List.mem_cons_self rel above
        next outside =>
          apply others rel
          · simp [other, absent]
          · intro later member
            cases List.mem_cons.mp member with
            | inl isHead => rw [isHead]; exact outside
            | inr inside => exact notAbove later inside

end Applying

end MonoidKernel.Workspace
