import MonoidKernel.Workspace.Local
import MonoidKernel.Library.PlainTree

set_option autoImplicit false

namespace MonoidKernel.Workspace

open Library (FileTree Node PlainTree.Clear)
open Library.FileTree (Above View Rooted)

variable (setting : Setting)

section Views

def State.view (state : State) : View Text Bytes := fun rel =>
  match state.effectiveKind setting rel with
  | none => none
  | some .dir => some .dir
  | some .file => (state.readOptionalBytes setting rel).map .file

def State.marked (state : State) : View Text Bytes := fun rel =>
  match state.overlay.lookup rel with
  | some data => some (.file data)
  | none =>
    if rel ∈ state.overlayDirs then some .dir
    else if rel ∈ state.deletedFiles ∨ rel ∈ state.deletedDirs then none
    else setting.base.node rel

structure Inv (state : State) : Prop where
  rooted : Rooted (state.marked setting)
  apart : ∀ rel ∈ state.overlayDirs, rel ∉ state.overlay
  -- What is in the base below a deleted directory is there again, or has a mark of its own.
  hidden : ∀ rel, setting.base.node rel ≠ none →
    (∃ deleted ∈ state.deletedDirs, Above deleted rel) →
      rel ∈ state.overlay ∨ rel ∈ state.overlayDirs ∨ rel ∈ state.deletedFiles ∨
        rel ∈ state.deletedDirs

theorem lookup_none {state : State} {rel : Rel} :
    state.overlay.lookup rel = none ↔ rel ∉ state.overlay := by
  rw [AList.lookup_eq_none]

theorem mem_of_lookup {state : State} {rel : Rel} {data : Bytes}
    (found : state.overlay.lookup rel = some data) : rel ∈ state.overlay := by
  rw [← AList.lookup_isSome, found]
  rfl

variable {setting} {state : State}

theorem Inv.view_eq (inv : Inv setting state) : state.view setting = state.marked setting := by
  funext rel
  unfold State.view State.marked State.effectiveKind State.readOptionalBytes
  cases found : state.overlay.lookup rel with
  | some data => simp [mem_of_lookup found]
  | none =>
    have absent := lookup_none.mp found
    rw [if_neg absent]
    by_cases dir : rel ∈ state.overlayDirs
    · simp [dir]
    · rw [if_neg dir]
      have deleted : state.isEffectivelyDeleted rel = true ↔
          (rel ∈ state.deletedFiles ∨ rel ∈ state.deletedDirs) ∨
            ∃ deleted ∈ state.deletedDirs, Above deleted rel := by
        unfold State.isEffectivelyDeleted
        rw [if_neg (by simp [absent, dir])]
        split
        next mark => simp [mark]
        next noMark => simp [noMark]
      by_cases mark : rel ∈ state.deletedFiles ∨ rel ∈ state.deletedDirs
      · simp [deleted.mpr (.inl mark), mark, dir]
      · by_cases above : ∃ deleted ∈ state.deletedDirs, Above deleted rel
        · have nothing : setting.base.node rel = none := by
            by_contra there
            have known := inv.hidden rel there above
            simp only [absent, dir, false_or] at known
            exact mark known
          simp [deleted.mpr (.inr above), mark, dir, nothing]
        · have free : state.isEffectivelyDeleted rel = false := by
            rw [← Bool.not_eq_true, deleted, not_or]
            exact ⟨mark, above⟩
          simp only [free, mark, dir, if_false, Bool.false_eq_true]
          cases there : setting.base.node rel with
          | none => rfl
          | some node =>
            cases node with
            | file data => simp [kindOf, diskBytes, there]
            | dir => simp [kindOf]

variable (state : State)

theorem kind_view (rel : Rel) :
    (state.effectiveKind setting rel = none ↔ state.view setting rel = none) ∧
      (state.effectiveKind setting rel = some .dir ↔ state.view setting rel = some .dir) := by
  have file : state.effectiveKind setting rel = some .file →
      state.readOptionalBytes setting rel ≠ none := by
    unfold State.effectiveKind State.readOptionalBytes
    cases found : state.overlay.lookup rel with
    | some data => simp
    | none =>
      rw [if_neg (lookup_none.mp found)]
      split
      · simp
      · split
        · simp
        · intro isFile
          obtain ⟨node, there, kind⟩ := Option.map_eq_some_iff.mp isFile
          cases node with
          | file data => simp [diskBytes, there]
          | dir => cases kind
  unfold State.view
  cases kind : state.effectiveKind setting rel with
  | none => simp
  | some kind' =>
    cases kind' with
    | dir => simp
    | file =>
      have there := file kind
      simp [there]

theorem effectiveKind_eq (rel : Rel) :
    state.effectiveKind setting rel = (state.view setting rel).map kindOf := by
  cases there : state.view setting rel with
  | none => exact (kind_view state rel).1.mpr there
  | some node =>
    cases node with
    | dir => exact (kind_view state rel).2.mpr there
    | file data =>
      unfold State.view at there
      split at there
      · cases there
      · cases there
      next kind => exact kind

theorem bytes_view (rel : Rel) (noDir : state.view setting rel ≠ some .dir) :
    (state.readOptionalBytes setting rel).map .file = state.view setting rel := by
  cases kind : state.effectiveKind setting rel with
  | none =>
    rw [(kind_view state rel).1.mp kind]
    unfold State.effectiveKind at kind
    unfold State.readOptionalBytes
    split at kind
    · cases kind
    next absent =>
      rw [lookup_none.mpr absent]
      split at kind
      · cases kind
      · split at kind
        next deleted => simp [deleted]
        next free =>
          have nothing := Option.map_eq_none_iff.mp kind
          simp [free, diskBytes, nothing]
  | some kind' =>
    cases kind' with
    | dir => exact absurd ((kind_view state rel).2.mp kind) noDir
    | file =>
      unfold State.view
      rw [kind]

end Views

section Fields

variable {set : List Rel}

@[simp] theorem mem_add {rel member : Rel} :
    member ∈ add rel set ↔ member = rel ∨ member ∈ set := by
  unfold add
  split
  next inside =>
    constructor
    · exact .inr
    · rintro (rfl | there)
      · exact inside
      · exact there
  · exact List.mem_cons

@[simp] theorem mem_discard {rel member : Rel} :
    member ∈ discard rel set ↔ member ∈ set ∧ member ≠ rel := by
  simp [discard]

@[simp] theorem mem_addAll {member : Rel} {more : List Rel} :
    member ∈ more.foldr add set ↔ member ∈ more ∨ member ∈ set := by
  induction more with
  | nil => simp
  | cons rel rest ih => simp [ih, or_assoc]

@[simp] theorem mem_ancestors {upper rel : Rel} :
    upper ∈ ancestors rel ↔ Above upper rel ∧ upper ≠ [] := by
  unfold ancestors Above
  rw [List.mem_filter, List.mem_inits, decide_eq_true_eq]
  exact ⟨fun ⟨within, proper, other⟩ => ⟨⟨within, other⟩, proper⟩,
    fun ⟨⟨within, other⟩, proper⟩ => ⟨within, proper, other⟩⟩

variable (state : State) (rel : Rel) (current : Option Bytes)

@[simp] theorem recordOriginal_overlay :
    (state.recordOriginal rel current).overlay = state.overlay := by
  unfold State.recordOriginal; split <;> rfl

@[simp] theorem recordOriginal_overlayDirs :
    (state.recordOriginal rel current).overlayDirs = state.overlayDirs := by
  unfold State.recordOriginal; split <;> rfl

@[simp] theorem recordOriginal_createdDirs :
    (state.recordOriginal rel current).createdDirs = state.createdDirs := by
  unfold State.recordOriginal; split <;> rfl

@[simp] theorem recordOriginal_deletedFiles :
    (state.recordOriginal rel current).deletedFiles = state.deletedFiles := by
  unfold State.recordOriginal; split <;> rfl

@[simp] theorem recordOriginal_deletedDirs :
    (state.recordOriginal rel current).deletedDirs = state.deletedDirs := by
  unfold State.recordOriginal; split <;> rfl

theorem recordOriginal_other {other : Rel} (elsewhere : other ≠ rel) :
    (state.recordOriginal rel current).originals.lookup other = state.originals.lookup other := by
  unfold State.recordOriginal
  split
  · rfl
  · exact AList.lookup_insert_ne elsewhere

end Fields

section Steps

variable {state : State}

structure SameRecord (before after : State) (rel : Rel) : Prop where
  original : after.originals.lookup rel = before.originals.lookup rel
  created : rel ∈ after.createdDirs ↔ rel ∈ before.createdDirs
  deleted : rel ∈ after.deletedFiles ↔ rel ∈ before.deletedFiles

def KeepsRecords (before after : State) (rel : Rel) : Prop :=
  ∀ other, other ≠ rel → SameRecord before after other

structure Becomes (before after : State) (rel : Rel) (view : View Text Bytes) : Prop where
  inv : Inv setting after
  view : after.view setting = view
  records : KeepsRecords before after rel

variable {setting}

variable {rel : Rel}

theorem Becomes.of_marked {before after : State} {view : View Text Bytes} (rooted : Rooted view)
    (marked : after.marked setting = view) (apart : ∀ rel ∈ after.overlayDirs, rel ∉ after.overlay)
    (hidden : ∀ rel, setting.base.node rel ≠ none →
      (∃ deleted ∈ after.deletedDirs, Above deleted rel) →
        rel ∈ after.overlay ∨ rel ∈ after.overlayDirs ∨ rel ∈ after.deletedFiles ∨
          rel ∈ after.deletedDirs) (records : KeepsRecords before after rel) :
    Becomes setting before after rel view := by
  have inv : Inv setting after := ⟨by rw [marked]; exact rooted, apart, hidden⟩
  exact ⟨inv, by rw [inv.view_eq, marked], records⟩

theorem Inv.overlay_view (inv : Inv setting state) (inside : rel ∈ state.overlay) :
    ∃ data, state.view setting rel = some (.file data) := by
  obtain ⟨data, found⟩ := Option.isSome_iff_exists.mp (AList.lookup_isSome.mpr inside)
  rw [inv.view_eq]
  exact ⟨data, by simp [State.marked, found]⟩

theorem Inv.overlayDirs_view (inv : Inv setting state) (inside : rel ∈ state.overlayDirs) :
    state.view setting rel = some .dir := by
  rw [inv.view_eq]
  unfold State.marked
  rw [lookup_none.mpr (inv.apart rel inside)]
  simp [inside]

theorem Inv.view_base (inv : Inv setting state) (noFile : rel ∉ state.overlay)
    (noDir : rel ∉ state.overlayDirs) :
    state.view setting rel =
      if rel ∈ state.deletedFiles ∨ rel ∈ state.deletedDirs then none
      else setting.base.node rel := by
  rw [inv.view_eq]
  unfold State.marked
  rw [lookup_none.mpr noFile]
  simp [noDir]

theorem Inv.rooted_view (inv : Inv setting state) : Rooted (state.view setting) := by
  rw [inv.view_eq]
  exact inv.rooted

theorem written_becomes (inv : Inv setting state) (data : Bytes) (current : Option Bytes)
    (clear : Library.PlainTree.Clear (state.view setting) rel)
    (leaf : state.view setting rel ≠ some .dir) :
    Becomes setting state
      ({ (state.recordOriginal rel current).clearDeleteMarkerFor rel with
          overlay := ((state.recordOriginal rel current).clearDeleteMarkerFor rel).overlay.insert
            rel data }.ensureOverlayParentDirs rel)
      rel (Library.PlainTree.write (state.view setting) rel data) := by
  have noFileAbove : ∀ upper, Above upper rel → upper ∉ state.overlay := by
    intro upper above inside
    obtain ⟨data, there⟩ := inv.overlay_view inside
    cases clear upper above with
    | inl missing => rw [missing] at there; cases there
    | inr dir => rw [dir] at there; cases there
  have notDir : rel ∉ state.overlayDirs := fun inside => leaf (inv.overlayDirs_view inside)
  have root : Above ([] : Rel) rel := by
    refine ⟨List.nil_prefix, ?_⟩
    intro same
    rw [← same] at leaf
    exact leaf inv.rooted_view.root
  apply Becomes.of_marked (Library.PlainTree.write_rooted inv.rooted_view leaf data)
  · funext query
    unfold State.marked State.ensureOverlayParentDirs State.clearDeleteMarkerFor
      Library.PlainTree.write
    dsimp only
    simp only [recordOriginal_overlay, recordOriginal_overlayDirs, recordOriginal_deletedFiles,
      recordOriginal_deletedDirs]
    by_cases same : query = rel
    · rw [same, AList.lookup_insert]; simp
    · rw [AList.lookup_insert_ne same, if_neg same]
      by_cases above : Above query rel
      · rw [if_pos above, lookup_none.mpr (noFileAbove query above)]
        dsimp only
        by_cases top : query = []
        next =>
          -- The root has no marks to lose.
          have isRoot := inv.rooted.root
          unfold State.marked at isRoot
          rw [lookup_none.mpr (noFileAbove [] root)] at isRoot
          rw [top]
          simpa [root.2] using isRoot
        · simp [above, top]
      · rw [if_neg above, inv.view_eq]
        unfold State.marked
        simp [above, same]
  · intro query inside
    simp only [State.ensureOverlayParentDirs, State.clearDeleteMarkerFor, recordOriginal_overlay,
      recordOriginal_overlayDirs, mem_addAll, mem_ancestors, AList.mem_insert, not_or] at inside ⊢
    cases inside with
    | inl above => exact ⟨above.1.2, noFileAbove query above.1⟩
    | inr old =>
      refine ⟨?_, inv.apart query old⟩
      intro same
      rw [same] at old
      exact notDir old
  · intro query there
    rintro ⟨deleted, inside, above⟩
    simp only [State.ensureOverlayParentDirs, State.clearDeleteMarkerFor, recordOriginal_overlay,
      recordOriginal_overlayDirs, recordOriginal_deletedFiles, recordOriginal_deletedDirs,
      mem_addAll, mem_ancestors, AList.mem_insert, mem_discard, List.mem_filter,
      decide_eq_true_eq] at inside ⊢
    have known := inv.hidden query there ⟨deleted, inside.1.1, above⟩
    by_cases same : query = rel
    · exact .inl (.inl same)
    · by_cases parent : Above query rel ∧ query ≠ []
      · exact .inr (.inl (.inl parent))
      · simp only [same, parent, ne_eq, not_false_eq_true, and_true, false_or]
        exact known
  · intro other elsewhere
    constructor
    · exact recordOriginal_other state rel current elsewhere
    · simp [State.ensureOverlayParentDirs, State.clearDeleteMarkerFor]
    · simp [State.ensureOverlayParentDirs, State.clearDeleteMarkerFor, elsewhere]

section Making

variable (setting) (state) {rel : Rel}

theorem within_proper (proper : rel ≠ []) (query : Rel) :
    query <+: rel ∧ query ≠ [] ↔ query = rel ∨ Above query rel ∧ query ≠ [] := by
  by_cases same : query = rel
  · simp [same, proper]
  · simp [Above, same]

theorem mkdirForTree_overlay (rel : Rel) :
    (state.mkdirForTree setting rel).overlay = state.overlay := by
  unfold State.mkdirForTree State.ensureOverlayParentDirs State.clearDeleteMarkerFor
  dsimp only
  split <;> simp

theorem mkdirForTree_overlayDirs (proper : rel ≠ []) (query : Rel) :
    query ∈ (state.mkdirForTree setting rel).overlayDirs ↔
      query ∈ state.overlayDirs ∨ query <+: rel ∧ query ≠ [] := by
  have within := within_proper proper query
  unfold State.mkdirForTree State.ensureOverlayParentDirs State.clearDeleteMarkerFor
  dsimp only
  split <;> simp [within] <;> tauto

theorem mkdirForTree_deletedFiles (rel query : Rel) :
    query ∈ (state.mkdirForTree setting rel).deletedFiles ↔
      query ∈ state.deletedFiles ∧ query ≠ rel := by
  unfold State.mkdirForTree State.ensureOverlayParentDirs State.clearDeleteMarkerFor
  dsimp only
  split <;> simp

theorem mkdirForTree_deletedDirs (proper : rel ≠ []) (query : Rel) :
    query ∈ (state.mkdirForTree setting rel).deletedDirs ↔
      query ∈ state.deletedDirs ∧ ¬ (query <+: rel ∧ query ≠ []) := by
  have within := within_proper proper query
  unfold State.mkdirForTree State.ensureOverlayParentDirs State.clearDeleteMarkerFor
  dsimp only
  split <;> simp [within] <;> tauto

theorem mkdirForTree_originals (rel : Rel) :
    (state.mkdirForTree setting rel).originals = (state.recordOriginal rel none).originals := by
  unfold State.mkdirForTree State.ensureOverlayParentDirs State.clearDeleteMarkerFor
  dsimp only
  split <;> rfl

end Making

theorem mkdirForTree_becomes (inv : Inv setting state) {rel : Rel} (proper : rel ≠ [])
    (clear : Library.PlainTree.Clear (state.view setting) rel)
    (noFile : state.view setting rel = none ∨ state.view setting rel = some .dir) :
    Becomes setting state (state.mkdirForTree setting rel) rel
      (Library.PlainTree.makeDir (state.view setting) rel) := by
  have noFileAt : ∀ upper, upper <+: rel → upper ∉ state.overlay := by
    intro upper within inside
    obtain ⟨data, there⟩ := inv.overlay_view inside
    have free : state.view setting upper = none ∨ state.view setting upper = some .dir := by
      by_cases same : upper = rel
      · rw [same]; exact noFile
      · exact clear upper ⟨within, same⟩
    cases free with
    | inl missing => rw [missing] at there; cases there
    | inr dir => rw [dir] at there; cases there
  have dirs := mkdirForTree_overlayDirs setting state proper
  have overlay := mkdirForTree_overlay setting state rel
  have files := mkdirForTree_deletedFiles setting state rel
  have deleted := mkdirForTree_deletedDirs setting state proper
  apply Becomes.of_marked (Library.PlainTree.makeDir_rooted inv.rooted_view)
  · funext query
    unfold State.marked Library.PlainTree.makeDir
    rw [overlay]
    simp only [dirs, files, deleted]
    by_cases within : query <+: rel
    · rw [if_pos within, lookup_none.mpr (noFileAt query within)]
      dsimp only
      by_cases top : query = []
      · have isRoot := inv.rooted.root
        unfold State.marked at isRoot
        rw [lookup_none.mpr (noFileAt [] List.nil_prefix)] at isRoot
        rw [top]
        simpa [Ne.symm proper] using isRoot
      · simp [within, top]
    · have other : query ≠ rel := by
        intro same
        rw [same] at within
        exact within (List.prefix_refl _)
      rw [if_neg within, inv.view_eq]
      unfold State.marked
      simp [within, other]
  · intro query inside
    rw [dirs] at inside
    rw [overlay]
    cases inside with
    | inl old => exact inv.apart query old
    | inr within => exact noFileAt query within.1
  · intro query there
    rintro ⟨upper, inside, above⟩
    rw [deleted] at inside
    have known := inv.hidden query there ⟨upper, inside.1, above⟩
    rw [overlay, dirs, files, deleted]
    by_cases within : query <+: rel ∧ query ≠ []
    · exact .inr (.inl (.inr within))
    · have other : query ≠ rel := by
        intro same
        rw [same] at within
        exact within ⟨List.prefix_refl _, proper⟩
      simp only [within, other, not_false_eq_true, and_true, or_false, ne_eq]
      exact known
  · intro other elsewhere
    constructor
    · rw [mkdirForTree_originals]
      exact recordOriginal_other state rel none elsewhere
    · unfold State.mkdirForTree State.ensureOverlayParentDirs State.clearDeleteMarkerFor
      dsimp only
      split <;> simp [elsewhere]
    · rw [files]
      exact ⟨And.left, fun inside => ⟨inside, elsewhere⟩⟩

def Erasable (setting : Setting) (state : State) (rel : Rel) : Prop :=
  setting.base.node rel ≠ none →
    match state.view setting rel with
    | none => True
    | some (.file _) => state.originals.lookup rel ≠ some none
    | some .dir => rel ∉ state.createdDirs

theorem deleteFile_unmade (inv : Inv setting state) {rel : Rel} (current : Bytes)
    (leaf : state.view setting rel ≠ some .dir)
    (rooted : Rooted (Library.PlainTree.erase (state.view setting) rel))
    (unmade : state.originals.lookup rel ≠ some none) :
    Becomes setting state (state.deleteFile rel current) rel
      (Library.PlainTree.erase (state.view setting) rel) := by
  have notDir : rel ∉ state.overlayDirs := fun inside => leaf (inv.overlayDirs_view inside)
  unfold State.deleteFile
  rw [if_neg unmade]
  apply Becomes.of_marked rooted
  · funext query
    unfold State.marked Library.PlainTree.erase
    simp only [recordOriginal_overlay, recordOriginal_overlayDirs, recordOriginal_deletedFiles,
      recordOriginal_deletedDirs]
    by_cases same : query = rel
    · rw [same, AList.lookup_erase]
      simp [notDir]
    · rw [AList.lookup_erase_ne same, if_neg same, inv.view_eq]
      unfold State.marked
      simp [same]
  · intro query inside
    simp only [recordOriginal_overlay, recordOriginal_overlayDirs, AList.mem_erase] at inside ⊢
    exact fun both => inv.apart query inside both.2
  · intro query there above
    simp only [recordOriginal_overlay, recordOriginal_overlayDirs, recordOriginal_deletedFiles,
      recordOriginal_deletedDirs, AList.mem_erase, mem_add] at above ⊢
    have known := inv.hidden query there above
    by_cases same : query = rel
    · exact .inr (.inr (.inl (.inl same)))
    · simpa [same] using known
  · intro other elsewhere
    exact ⟨recordOriginal_other state rel (some current) elsewhere, by simp, by simp [elsewhere]⟩

theorem deleteFile_becomes (inv : Inv setting state) {rel : Rel} {data : Bytes} (current : Bytes)
    (file : state.view setting rel = some (.file data)) (erasable : Erasable setting state rel) :
    Becomes setting state (state.deleteFile rel current) rel
      (Library.PlainTree.erase (state.view setting) rel) := by
  have leaf : state.view setting rel ≠ some .dir := by rw [file]; simp
  have proper : rel ≠ [] := by
    intro root
    rw [root] at leaf
    exact leaf inv.rooted_view.root
  have notDir : rel ∉ state.overlayDirs := fun inside => leaf (inv.overlayDirs_view inside)
  have rooted := Library.PlainTree.erase_rooted inv.rooted_view proper
    fun lower above => inv.rooted_view.below above leaf
  unfold Erasable at erasable
  rw [file] at erasable
  by_cases created : state.originals.lookup rel = some none
  · have nothing : setting.base.node rel = none := by
      by_contra there
      exact erasable there created
    unfold State.deleteFile
    rw [if_pos created]
    apply Becomes.of_marked rooted
    · funext query
      unfold State.marked Library.PlainTree.erase
      dsimp only
      by_cases same : query = rel
      · rw [same, AList.lookup_erase]
        simp [notDir, nothing]
      · rw [AList.lookup_erase_ne same, if_neg same, inv.view_eq]
        unfold State.marked
        simp [same]
    · intro query inside
      dsimp only at inside ⊢
      rw [AList.mem_erase]
      exact fun both => inv.apart query inside both.2
    · intro query there
      dsimp only
      rw [AList.mem_erase, mem_discard]
      intro above
      have known := inv.hidden query there above
      have other : query ≠ rel := by
        intro same
        rw [same] at there
        exact there nothing
      simpa [other] using known
    · intro other elsewhere
      exact ⟨AList.lookup_erase_ne elsewhere, Iff.rfl, by simp [elsewhere]⟩
  · exact deleteFile_unmade inv current leaf rooted created

theorem eraseAll_lookup (items : List Rel) (overlay : Dict Bytes) (rel : Rel) :
    (items.foldl (fun overlay item => overlay.erase item) overlay).lookup rel =
      if rel ∈ items then none else overlay.lookup rel := by
  induction items generalizing overlay with
  | nil => rfl
  | cons item rest ih =>
    rw [List.foldl_cons, ih]
    by_cases later : rel ∈ rest
    · simp [later]
    · by_cases same : rel = item
      · rw [← same, AList.lookup_erase]; simp
      · simp [later, same, AList.lookup_erase_ne same]

theorem deleteDir_unmade (inv : Inv setting state) {rel : Rel}
    (bare : ∀ data, state.view setting rel ≠ some (.file data))
    (empty : ∀ lower, Above rel lower → state.view setting lower = none)
    (rooted : Rooted (Library.PlainTree.erase (state.view setting) rel))
    (unmade : rel ∉ state.createdDirs) :
    Becomes setting state (state.deleteDir rel) rel
      (Library.PlainTree.erase (state.view setting) rel) := by
  have noFile : rel ∉ state.overlay := by
    intro inside
    obtain ⟨data, there⟩ := inv.overlay_view inside
    exact bare data there
  have noFiles : ∀ lower, Above rel lower → lower ∉ state.overlay := by
    intro lower above inside
    obtain ⟨data, there⟩ := inv.overlay_view inside
    rw [empty lower above] at there
    cases there
  have noDirs : ∀ lower, Above rel lower → lower ∉ state.overlayDirs := by
    intro lower above inside
    have there := inv.overlayDirs_view inside
    rw [empty lower above] at there
    cases there
  unfold State.deleteDir
  rw [if_neg unmade]
  have overlay : ∀ query, ((state.overlay.keys.filter fun item => decide (Above rel item)).foldl
      (fun overlay item => overlay.erase item) state.overlay).lookup query =
        state.overlay.lookup query := by
    intro query
    rw [eraseAll_lookup, if_neg]
    intro inside
    rw [List.mem_filter, decide_eq_true_eq, ← AList.mem_keys] at inside
    exact noFiles query inside.2 inside.1
  have sameFiles : ∀ query, query ∈ (state.overlay.keys.filter fun item =>
      decide (Above rel item)).foldl (fun overlay item => overlay.erase item) state.overlay ↔
        query ∈ state.overlay := by
    intro query
    rw [← AList.lookup_isSome, overlay, AList.lookup_isSome]
  have sameDirs : ∀ query, query ∈ (state.overlayDirs.filter fun item =>
      decide (¬ rel <+: item)) ↔ query ∈ state.overlayDirs ∧ query ≠ rel := by
    intro query
    rw [List.mem_filter, decide_eq_true_eq]
    constructor
    · rintro ⟨inside, outside⟩
      refine ⟨inside, ?_⟩
      intro same
      rw [same] at outside
      exact outside (List.prefix_refl _)
    · rintro ⟨inside, other⟩
      exact ⟨inside, fun within => noDirs query ⟨within, Ne.symm other⟩ inside⟩
  apply Becomes.of_marked rooted
  · funext query
    unfold State.marked Library.PlainTree.erase
    simp only [recordOriginal_overlay, recordOriginal_overlayDirs, recordOriginal_deletedFiles,
      recordOriginal_deletedDirs, overlay, sameDirs, mem_add]
    by_cases same : query = rel
    · rw [same, lookup_none.mpr noFile]
      simp
    · rw [if_neg same, inv.view_eq]
      unfold State.marked
      simp [same]
  · intro query inside
    simp only [recordOriginal_overlay, recordOriginal_overlayDirs, sameDirs, sameFiles]
      at inside ⊢
    exact inv.apart query inside.1
  · intro query there
    simp only [recordOriginal_overlay, recordOriginal_overlayDirs, recordOriginal_deletedFiles,
      recordOriginal_deletedDirs, sameDirs, sameFiles, mem_add]
    rintro ⟨deleted, inside, above⟩
    by_cases same : query = rel
    · exact .inr (.inr (.inr (.inl same)))
    · cases inside with
      | inl here =>
        -- Whatever is in the base below the directory is out of view, so it has a mark.
        rw [here] at above
        have hidden := empty query above
        rw [inv.view_base (noFiles query above) (noDirs query above)] at hidden
        split at hidden
        next mark =>
          cases mark with
          | inl file => exact .inr (.inr (.inl file))
          | inr dir => exact .inr (.inr (.inr (.inr dir)))
        · exact absurd hidden there
      | inr old =>
        have known := inv.hidden query there ⟨deleted, old, above⟩
        simpa [same] using known
  · intro other elsewhere
    exact ⟨recordOriginal_other state rel none elsewhere, by simp, by simp⟩

theorem deleteDir_becomes (inv : Inv setting state) {rel : Rel} (proper : rel ≠ [])
    (dir : state.view setting rel = some .dir)
    (empty : ∀ lower, Above rel lower → state.view setting lower = none)
    (erasable : Erasable setting state rel) :
    Becomes setting state (state.deleteDir rel) rel
      (Library.PlainTree.erase (state.view setting) rel) := by
  have noFile : rel ∉ state.overlay := by
    intro inside
    obtain ⟨data, there⟩ := inv.overlay_view inside
    rw [dir] at there
    cases there
  have rooted := Library.PlainTree.erase_rooted inv.rooted_view proper empty
  unfold Erasable at erasable
  rw [dir] at erasable
  by_cases created : rel ∈ state.createdDirs
  · have nothing : setting.base.node rel = none := by
      by_contra there
      exact erasable there created
    unfold State.deleteDir
    rw [if_pos created]
    apply Becomes.of_marked rooted
    · funext query
      unfold State.marked Library.PlainTree.erase
      dsimp only
      by_cases same : query = rel
      · rw [same, lookup_none.mpr noFile]
        simp [nothing]
      · rw [if_neg same, inv.view_eq]
        unfold State.marked
        simp [same]
    · intro query inside
      exact inv.apart query (mem_discard.mp inside).1
    · intro query there
      dsimp only
      simp only [mem_discard]
      rintro ⟨deleted, inside, above⟩
      have known := inv.hidden query there ⟨deleted, inside.1, above⟩
      have other : query ≠ rel := by
        intro same
        rw [same] at there
        exact there nothing
      simpa [other] using known
    · intro other elsewhere
      exact ⟨AList.lookup_erase_ne elsewhere, by simp [elsewhere], Iff.rfl⟩
  · exact deleteDir_unmade inv (by simp [dir]) empty rooted created

end Steps

end MonoidKernel.Workspace
