import MonoidKernel.Workspace.LocalMerge

set_option autoImplicit false

namespace MonoidKernel.Workspace

open Library (FileTree Node)
open Library.FileTree (Above View Rooted)
open Library.PlainTree (Clear write makeDir erase remove merge)

variable {setting : Setting} {state : State}

section Plain

def cleared (options : CopyOptions) (view : View Text Bytes) (dest : Rel) : View Text Bytes :=
  if options.replaces = true ∧ view dest = some .dir then remove view dest else view

def SameKinds (source view : View Text Bytes) (root dest : Rel) : Prop :=
  ∀ item node other, root <+: item → source item = some node →
    view (mapped root dest item) = some other → kindOf node = kindOf other

def PlainCopy (options : CopyOptions) (before : View Text Bytes) (root dest : Rel)
    (after : View Text Bytes) : Prop :=
  match before root with
  | none => False
  | some (.file data) =>
    MayWrite before dest options.createDirs options.overwrite ∧ after = write before dest data
  | some .dir =>
    MayMerge (cleared options before dest) dest options.createDirs options.overwrite ∧
      SameKinds before (cleared options before dest) root dest ∧
      after = merge (cleared options before dest) before root dest

variable {options : CopyOptions} {before after : View Text Bytes} {root dest : Rel}

theorem PlainCopy.at_mapped (copied : PlainCopy options before root dest after)
    (rooted : Rooted before) {item : Rel} (within : root <+: item) (there : before item ≠ none) :
    after (mapped root dest item) = before item := by
  unfold PlainCopy at copied
  split at copied
  · exact absurd copied id
  next data isFile =>
    have same : item = root := by
      by_contra other
      exact there (rooted.below ⟨within, Ne.symm other⟩ (by rw [isFile]; simp))
    rw [copied.2, same, isFile]
    simp [write, mapped]
  · obtain ⟨suffix, rfl⟩ := within
    have notAbove : ¬ Above (dest ++ suffix) dest := by
      intro above
      have length := above.length
      rw [List.length_append] at length
      omega
    rw [copied.2.2, mapped_append]
    unfold merge
    rw [if_neg notAbove, if_pos (List.prefix_append dest suffix), List.drop_left]
    obtain ⟨node, is⟩ := Option.ne_none_iff_exists'.mp there
    rw [is]
    rfl

def Touches (options : CopyOptions) (before : View Text Bytes) (root dest rel : Rel) : Prop :=
  MergedInto before root dest rel ∨
    options.replaces = true ∧ before dest = some .dir ∧ dest <+: rel

theorem PlainCopy.elsewhere (copied : PlainCopy options before root dest after) {rel : Rel}
    (outside : ¬ Touches options before root dest rel) (notAbove : ¬ Above rel dest) :
    after rel = before rel := by
  unfold Touches at outside
  rw [not_or] at outside
  unfold PlainCopy at copied
  split at copied
  · exact absurd copied id
  next data isFile =>
    rw [copied.2]
    unfold write
    rw [if_neg, if_neg notAbove]
    intro same
    refine outside.1 ⟨root, List.prefix_refl _, by rw [isFile]; simp, ?_⟩
    simp [same, mapped]
  · have kept : cleared options before dest rel = before rel := by
      unfold cleared
      split
      next replaced =>
        unfold remove
        rw [if_neg fun within => outside.2 ⟨replaced.1, replaced.2, within⟩]
      · rfl
    rw [copied.2.2]
    unfold merge
    rw [if_neg notAbove]
    split
    next below =>
      obtain ⟨suffix, rfl⟩ := below
      have nothing : before (root ++ suffix) = none := by
        by_contra there
        refine outside.1 ⟨root ++ suffix, List.prefix_append _ _, there, ?_⟩
        rw [mapped_append]
      rw [List.drop_left, nothing, Option.none_or]
      exact kept
    · exact kept

theorem PlainCopy.replaced (copied : PlainCopy options before root dest after)
    (replaces : options.replaces = true) (dir : before dest = some .dir) {rel : Rel}
    (within : dest <+: rel) (notMerged : ¬ MergedInto before root dest rel) :
    after rel = none := by
  unfold PlainCopy at copied
  split at copied
  · exact absurd copied id
  · exact absurd dir copied.1.leaf
  · obtain ⟨suffix, rfl⟩ := within
    have notAbove : ¬ Above (dest ++ suffix) dest := by
      intro above
      have length := above.length
      rw [List.length_append] at length
      omega
    have nothing : before (root ++ suffix) = none := by
      by_contra there
      refine notMerged ⟨root ++ suffix, List.prefix_append _ _, there, ?_⟩
      rw [mapped_append]
    rw [copied.2.2]
    unfold merge
    rw [if_neg notAbove, if_pos (List.prefix_append _ _), List.drop_left, nothing,
      Option.none_or]
    unfold cleared remove
    rw [if_pos ⟨replaces, dir⟩, if_pos (List.prefix_append _ _)]

end Plain

section Gone

variable {rel : Rel}

structure Spent (state : State) (files dirs : List Rel) : Prop where
  files : ∀ rel ∈ files, state.originals.lookup rel ≠ some none
  dirs : ∀ rel ∈ dirs, rel ∉ state.createdDirs

theorem deleteFile_spends (state : State) (rel : Rel) (current : Bytes) :
    (state.deleteFile rel current).originals.lookup rel ≠ some none := by
  unfold State.deleteFile
  split
  · rw [AList.lookup_erase]; simp
  next recorded =>
    unfold State.recordOriginal
    split
    · exact recorded
    · simp

theorem deleteDir_spends (state : State) (rel : Rel) :
    rel ∉ (state.deleteDir rel).createdDirs := by
  unfold State.deleteDir
  split
  · simp
  next other => simpa using other

theorem deleteFile_records (state : State) (rel : Rel) (current : Bytes) :
    (∀ other, other ≠ rel → (state.deleteFile rel current).originals.lookup other =
      state.originals.lookup other) ∧
      (state.deleteFile rel current).createdDirs = state.createdDirs := by
  unfold State.deleteFile
  split
  · exact ⟨fun other elsewhere => AList.lookup_erase_ne elsewhere, rfl⟩
  · exact ⟨fun other elsewhere => recordOriginal_other state rel (some current) elsewhere,
      by simp⟩

theorem deleteDir_records (state : State) (rel : Rel) :
    KeepsRecords state (state.deleteDir rel) rel := by
  intro other elsewhere
  unfold State.deleteDir
  split
  · exact ⟨AList.lookup_erase_ne elsewhere, by simp [elsewhere], Iff.rfl⟩
  · exact ⟨recordOriginal_other state rel none elsewhere, by simp, by simp⟩

theorem deleteFiles_spend (items : List (Rel × Bytes)) (state : State) :
    (∀ rel, rel ∈ items.map (·.1) ∨ state.originals.lookup rel ≠ some none →
      (items.foldl (fun state file => state.deleteFile file.1 file.2) state).originals.lookup rel ≠
        some none) := by
  induction items generalizing state with
  | nil =>
    intro rel either
    cases either with
    | inl member => cases member
    | inr spent => exact spent
  | cons item rest ih =>
    intro rel either
    rw [List.foldl_cons]
    apply ih
    by_cases same : rel = item.1
    · rw [same]
      exact .inr (deleteFile_spends state item.1 item.2)
    · rw [List.map_cons, List.mem_cons] at either
      simp only [same, false_or] at either
      rw [(deleteFile_records state item.1 item.2).1 rel same]
      exact either

theorem deleteFiles_created (items : List (Rel × Bytes)) (state : State) :
    (items.foldl (fun state file => state.deleteFile file.1 file.2) state).createdDirs =
      state.createdDirs := by
  induction items generalizing state with
  | nil => rfl
  | cons item rest ih => rw [List.foldl_cons, ih, (deleteFile_records state item.1 item.2).2]

theorem deleteDirs_spend (items : List Rel) (state : State) :
    (∀ rel, rel ∈ items ∨ rel ∉ state.createdDirs →
      rel ∉ (items.foldl State.deleteDir state).createdDirs) ∧
      ∀ rel, rel ∉ items →
        (items.foldl State.deleteDir state).originals.lookup rel = state.originals.lookup rel := by
  induction items generalizing state with
  | nil => simp
  | cons item rest ih =>
    obtain ⟨created, originals⟩ := ih (state.deleteDir item)
    rw [List.foldl_cons]
    constructor
    · intro rel either
      apply created
      by_cases same : rel = item
      · rw [same]
        exact .inr (deleteDir_spends state item)
      · rw [List.mem_cons] at either
        simp only [same, false_or] at either
        rw [(deleteDir_records state item rel same).2]
        exact either
    · intro rel outside
      rw [List.mem_cons, not_or] at outside
      rw [originals rel outside.2]
      exact (deleteDir_records state item rel outside.1).1

theorem deleteSnapshot_spends {view : View Text Bytes} {snapshot : Snapshot}
    (of : snapshot.Of view) (state : State) :
    Spent (state.deleteSnapshot snapshot) (snapshot.files.map (·.1)) snapshot.dirs := by
  have files : ((sortedFiles snapshot.files).reverse).Perm snapshot.files :=
    (List.reverse_perm _).trans (List.perm_insertionSort _ _)
  have dirs : (deepestFirst snapshot.dirs).Perm snapshot.dirs := List.perm_insertionSort _ _
  unfold State.deleteSnapshot
  dsimp only
  constructor
  · intro rel member
    have notDir : rel ∉ deepestFirst snapshot.dirs := by
      intro inside
      obtain ⟨file, isFile, rfl⟩ := List.mem_map.mp member
      have one := ((of.files file.1 file.2).mp isFile).2
      have two := ((of.dirs file.1).mp (dirs.mem_iff.mp inside)).2
      rw [one] at two
      cases two
    rw [(deleteDirs_spend _ _).2 rel notDir]
    apply deleteFiles_spend
    exact .inl ((files.map _).mem_iff.mpr member)
  · intro rel member
    exact (deleteDirs_spend _ _).1 rel (.inl (dirs.mem_iff.mpr member))

theorem deleteFile_absent (inv : Inv setting state) (current : Bytes)
    (absent : state.view setting rel = none) (spent : state.originals.lookup rel ≠ some none) :
    Becomes setting state (state.deleteFile rel current) rel (state.view setting) := by
  have same := Library.PlainTree.erase_absent absent
  have gone := deleteFile_unmade inv current (by rw [absent]; simp)
    (by rw [same]; exact inv.rooted_view) spent
  rwa [same] at gone

theorem deleteDir_absent (inv : Inv setting state)
    (absent : ∀ lower, rel <+: lower → state.view setting lower = none)
    (spent : rel ∉ state.createdDirs) :
    Becomes setting state (state.deleteDir rel) rel (state.view setting) := by
  have none := absent rel (List.prefix_refl _)
  have same := Library.PlainTree.erase_absent none
  have gone := deleteDir_unmade inv (by rw [none]; simp)
    (fun lower above => absent lower above.1) (by rw [same]; exact inv.rooted_view) spent
  rwa [same] at gone

theorem absent_arrives {A : Type} (act : State → A → State) (place : A → Rel)
    (unmade : State → A → Prop) (root : Rel) (items : List A) (inv : Inv setting state)
    (becomes : ∀ {state : State} {item : A}, Inv setting state → root <+: place item →
      (∀ rel, root <+: rel → state.view setting rel = none) → unmade state item →
      Becomes setting state (act state item) (place item) (state.view setting))
    (stays : ∀ state item later, unmade state later → unmade (act state item) later)
    (within : ∀ item ∈ items, root <+: place item)
    (absent : ∀ rel, root <+: rel → state.view setting rel = none)
    (spent : ∀ item ∈ items, unmade state item) :
    Arrives setting state (items.foldl act state) (root <+: ·) (state.view setting) := by
  induction items generalizing state with
  | nil => exact ⟨inv, rfl, SameRecords.refl state _⟩
  | cons item rest ih =>
    rw [List.forall_mem_cons] at within spent
    have step := becomes inv within.1 absent spent.1
    have further := ih step.inv within.2 (by rw [step.view]; exact absent)
      (fun later member => stays state item later (spent.2 later member))
    rw [List.foldl_cons]
    refine ⟨further.inv, further.view.trans step.view, ?_⟩
    apply (step.arrives.records.trans further.records).mono
    rintro rel (rfl | inside)
    · exact within.1
    · exact inside

theorem deleteSnapshot_absent {view : View Text Bytes} {snapshot : Snapshot}
    (inv : Inv setting state) (of : snapshot.Of view)
    (absent : ∀ rel, snapshot.root <+: rel → state.view setting rel = none)
    (spent : Spent state (snapshot.files.map (·.1)) snapshot.dirs) :
    Arrives setting state (state.deleteSnapshot snapshot) (snapshot.root <+: ·)
      (state.view setting) := by
  have files : ((sortedFiles snapshot.files).reverse).Perm snapshot.files :=
    (List.reverse_perm _).trans (List.perm_insertionSort _ _)
  have dirs : (deepestFirst snapshot.dirs).Perm snapshot.dirs := List.perm_insertionSort _ _
  have first := absent_arrives (fun state file => state.deleteFile file.1 file.2) (·.1)
    (fun state file => state.originals.lookup file.1 ≠ some none) snapshot.root
    (sortedFiles snapshot.files).reverse inv
    (fun inv within absent unmade => deleteFile_absent inv _ (absent _ within) unmade)
    (fun state file later unmade => deleteFiles_spend [file] state later.1 (.inr unmade))
    (fun file member => ((of.files file.1 file.2).mp (files.mem_iff.mp member)).1) absent
    (fun file member =>
      spent.files file.1 (List.mem_map.mpr ⟨file, files.mem_iff.mp member, rfl⟩))
  have second := absent_arrives State.deleteDir id (fun state dir => dir ∉ state.createdDirs)
    snapshot.root (deepestFirst snapshot.dirs) first.inv
    (fun inv within absent unmade =>
      deleteDir_absent inv (fun lower below => absent lower (within.trans below)) unmade)
    (fun state dir later unmade => (deleteDirs_spend [dir] state).1 later (.inr unmade))
    (fun dir member => ((of.dirs dir).mp (dirs.mem_iff.mp member)).1)
    (by rw [first.view]; exact absent)
    (fun dir member => by
      rw [deleteFiles_created]
      exact spent.dirs dir (dirs.mem_iff.mp member))
  refine ⟨second.inv, second.view.trans first.view, ?_⟩
  apply (first.records.trans second.records).mono
  intro rel either
  exact either.elim id id

end Gone

section Copy

variable {snapshot : Snapshot} {dest : Rel} {options : CopyOptions}

def CopyAccepted (setting : Setting) (state : State) (snapshot : Snapshot) (dest : Rel)
    (options : CopyOptions) : Prop :=
  match snapshot.kind with
  | .file => True
  | .dir =>
    (∀ text, options.directoryMode ≠ .other text) ∧
      if options.replaces = true ∧ state.view setting dest = some .dir then
        ∃ old, state.collectRel setting dest { options.limits with recursive := true } = .ok old
      else state.preflightTreeDestination setting snapshot dest options = .ok ()

def CopyFits (setting : Setting) (state : State) (snapshot : Snapshot) (dest : Rel)
    (options : CopyOptions) : Prop :=
  match snapshot.kind with
  | .file => options.createDirs = true → Clear (state.view setting) dest
  | .dir =>
    if options.replaces = true ∧ state.view setting dest = some .dir then
      ∀ rel, dest <+: rel → Erasable setting state rel
    else
      (options.createDirs = true → Clear (state.view setting) dest) ∧
        ∀ item, snapshot.root <+: item → state.view setting item = some .dir →
          ∀ data, state.view setting (mapped snapshot.root dest item) ≠ some (.file data)

theorem replaced_preflight (options : CopyOptions) {before : State}
    (rooted : Rooted (before.view setting))
    (proper : dest ≠ []) (dir : before.view setting dest = some .dir)
    (view : state.view setting = remove (before.view setting) dest)
    (filesBelow : ∀ file ∈ snapshot.files, Above dest (mapped snapshot.root dest file.1)) :
    state.preflightTreeDestination setting snapshot dest options = .ok () := by
  have nothing : ∀ rel, dest <+: rel → state.effectiveKind setting rel = none := by
    intro rel within
    rw [(kind_view state rel).1, view]
    unfold remove
    rw [if_pos within]
  have parent : state.parentExists setting dest = true := by
    unfold State.parentExists
    rw [decide_eq_true_eq, (kind_view state _).2, view]
    apply Or.inr
    unfold remove
    rw [if_neg]
    · exact rooted.above _ dest (Library.FileTree.above_dropLast proper) (by rw [dir]; simp)
    · intro within
      exact (Library.FileTree.above_dropLast proper).2
        ((List.dropLast_prefix dest).eq_of_length_le within.length_le)
  have noDirs : snapshot.files.find? (fun file => decide
      (state.effectiveKind setting (mapped snapshot.root dest file.1) = some .dir)) = none := by
    rw [List.find?_eq_none]
    intro file member
    rw [nothing _ (filesBelow file member).1]
    simp
  unfold State.preflightTreeDestination
  dsimp only
  rw [nothing dest (List.prefix_refl _), noDirs]
  simp [parent]

def Forgets (options : CopyOptions) (before : View Text Bytes) (root dest : Rel) (after : State) :
    Prop :=
  options.replaces = true → before dest = some .dir → ∀ rel, dest <+: rel →
    ¬ MergedInto before root dest rel →
      (∀ data, before rel = some (.file data) → after.originals.lookup rel ≠ some none) ∧
        (before rel = some .dir → rel ∉ after.createdDirs)

theorem copyTree_arrives (inv : Inv setting state) (of : snapshot.Of (state.view setting))
    (proper : dest ≠ []) (fits : CopyAccepted setting state snapshot dest options →
      CopyFits setting state snapshot dest options) :
    (∃ error, state.copyTree setting snapshot dest options = (.error error, state)) ∨
      ∃ counts after view, state.copyTree setting snapshot dest options = (.ok counts, after) ∧
        CopyAccepted setting state snapshot dest options ∧
        PlainCopy options (state.view setting) snapshot.root dest view ∧
        Arrives setting state after
          (Touches options (state.view setting) snapshot.root dest) view ∧
        Forgets options (state.view setting) snapshot.root dest after := by
  have kind := of.kind
  unfold State.copyTree
  unfold CopyAccepted CopyFits at fits
  unfold CopyAccepted PlainCopy
  cases isKind : snapshot.kind with
  | file =>
    rw [isKind] at kind fits
    obtain ⟨data, there, files⟩ := kind
    rw [files, there]
    dsimp only
    cases writeFile_arrives inv dest data options.createDirs options.overwrite (fits trivial) with
    | inl failed =>
      obtain ⟨error, failed⟩ := failed
      rw [failed]
      exact .inl ⟨error, rfl⟩
    | inr written =>
      obtain ⟨after, done, may, arrives⟩ := written
      rw [done]
      refine .inr ⟨_, after, _, rfl, trivial, ⟨may, rfl⟩, ⟨arrives.inv, arrives.view, ?_⟩, ?_⟩
      · apply arrives.records.mono
        intro rel same
        exact .inl
          ⟨snapshot.root, List.prefix_refl _, by rw [there]; simp, by simp [same, mapped]⟩
      · intro _ dir
        exact absurd dir may.leaf
  | dir =>
    rw [isKind] at kind fits
    dsimp only at kind fits ⊢
    rw [kind]
    dsimp only
    have below := filesBelow_of of kind dest
    have same : options.replaces = true ∧ state.effectiveKind setting dest = some .dir ↔
        options.replaces = true ∧ state.view setting dest = some .dir := by
      rw [(kind_view state dest).2]
    split
    · exact .inl ⟨_, rfl⟩
    next known =>
      simp only [same]
      by_cases replaced : options.replaces = true ∧ state.view setting dest = some .dir
      · simp only [if_pos replaced] at fits ⊢
        unfold State.deleteCollected
        cases collected : state.collectRel setting dest
            { options.limits with recursive := true } with
        | error error => exact .inl ⟨error, rfl⟩
        | ok old =>
          obtain ⟨isDest, oldOf⟩ := collectRel_spec inv proper _ collected
          have deleted := deleteSnapshot_arrives inv oldOf
            (by rw [isDest]; exact fits ⟨known, old, collected⟩)
          have spent := deleteSnapshot_spends oldOf state
          rw [isDest] at deleted
          dsimp only
          generalize state.deleteSnapshot old = between at deleted spent ⊢
          have passed := replaced_preflight options inv.rooted_view proper replaced.2
            deleted.view below
          have gone : ∀ rel, dest <+: rel → between.view setting rel = none := by
            intro rel within
            rw [deleted.view]
            exact if_pos within
          obtain ⟨counts, after, done, may, arrives⟩ := mergeTree_arrives deleted.inv
            inv.rooted_view of kind proper options
            (fun _ upper above => by
              apply Or.inr
              rw [deleted.view]
              unfold remove
              rw [if_neg]
              · exact inv.rooted_view.above upper dest above (by rw [replaced.2]; simp)
              · intro within
                have length := above.length
                have shorter := within.length_le
                omega)
            (fun item within _ data => by
              obtain ⟨suffix, rfl⟩ := within
              rw [mapped_append, gone _ (List.prefix_append _ _)]
              simp)
            passed
          have start : cleared options (state.view setting) dest = between.view setting := by
            unfold cleared
            rw [if_pos replaced, deleted.view]
          rw [done, start]
          refine .inr
            ⟨counts, after, _, rfl, ⟨known, old, rfl⟩, ⟨may, ?_, rfl⟩,
              ⟨arrives.inv, arrives.view, ?_⟩, ?_⟩
          · intro item node other within _ found
            obtain ⟨suffix, rfl⟩ := within
            rw [mapped_append, gone _ (List.prefix_append _ _)] at found
            cases found
          · refine (deleted.records.trans arrives.records).mono ?_
            intro rel either
            cases either with
            | inl within => exact .inr ⟨replaced.1, replaced.2, within⟩
            | inr merged => exact .inl merged
          · intro _ _ rel within notMerged
            have same := arrives.records rel notMerged
            constructor
            · intro data isFile
              rw [same.1]
              apply spent.files
              refine List.mem_map.mpr ⟨(rel, data), (oldOf.files rel data).mpr ⟨?_, isFile⟩, rfl⟩
              rw [isDest]
              exact within
            · intro isDir
              rw [same.2]
              refine spent.dirs rel ((oldOf.dirs rel).mpr ⟨?_, isDir⟩)
              rw [isDest]
              exact within
      · simp only [if_neg replaced] at fits ⊢
        cases passed : state.preflightTreeDestination setting snapshot dest options with
        | error error =>
          unfold State.mergeTree
          rw [passed]
          exact .inl ⟨error, rfl⟩
        | ok nothing =>
          obtain ⟨clear, noFile⟩ := fits ⟨known, passed⟩
          obtain ⟨counts, after, done, may, arrives⟩ := mergeTree_arrives inv inv.rooted_view of
            kind proper options clear noFile passed
          have leaves := (preflightTree_spec inv below clear passed).2
          have start : cleared options (state.view setting) dest = state.view setting := by
            unfold cleared
            rw [if_neg replaced]
          rw [done, start]
          refine .inr
            ⟨counts, after, _, rfl, ⟨known, rfl⟩, ⟨may, ?_, rfl⟩,
              ⟨arrives.inv, arrives.view, ?_⟩, ?_⟩
          · intro item node other within is found
            cases node with
            | dir =>
              cases other with
              | dir => rfl
              | file data => exact absurd found (noFile item within is data)
            | file data =>
              cases other with
              | file _ => rfl
              | dir =>
                have member := (of.files item data).mpr ⟨within, is⟩
                exact absurd found (leaves _ member)
          · exact arrives.records.mono fun _ merged => .inl merged
          · intro replaces dir
            exact absurd ⟨replaces, dir⟩ replaced

end Copy

section Move

variable {snapshot : Snapshot} {dest : Rel} {options : CopyOptions}

def MoveFits (setting : Setting) (state : State) (snapshot : Snapshot) (dest : Rel)
    (options : CopyOptions) : Prop :=
  CopyFits setting state snapshot dest options ∧
    (∀ rel, snapshot.root <+: rel → Erasable setting state rel) ∧
    ∀ item, snapshot.root <+: item → state.view setting item ≠ none →
      ¬ snapshot.root <+: mapped snapshot.root dest item

theorem Snapshot.Of.of_same {before after : View Text Bytes} (of : snapshot.Of before)
    (same : ∀ rel, snapshot.root <+: rel → after rel = before rel) : snapshot.Of after := by
  refine ⟨of.proper, ?_, ?_, of.filesOnce, of.dirsOnce, ?_⟩
  · intro rel data
    rw [of.files]
    constructor
    · rintro ⟨within, there⟩
      exact ⟨within, by rw [same rel within]; exact there⟩
    · rintro ⟨within, there⟩
      exact ⟨within, by rw [← same rel within]; exact there⟩
  · intro rel
    rw [of.dirs]
    constructor
    · rintro ⟨within, there⟩
      exact ⟨within, by rw [same rel within]; exact there⟩
    · rintro ⟨within, there⟩
      exact ⟨within, by rw [← same rel within]; exact there⟩
  · rw [same _ (List.prefix_refl _)]
    exact of.kind

variable {view : View Text Bytes}

theorem source_untouched {root : Rel} (outside : ¬ root <+: dest)
    (apart : ∀ item, root <+: item → view item ≠ none → ¬ root <+: mapped root dest item)
    (alone : ¬ ((options.replaces = true ∧ view dest = some .dir) ∧ dest <+: root)) :
    ∀ rel, root <+: rel → ¬ Touches options view root dest rel ∧ ¬ Above rel dest := by
  intro rel within
  constructor
  · rintro (merged | ⟨replaces, dir, below⟩)
    · obtain ⟨item, inside, there, rfl⟩ := merged
      exact apart item inside there within
    · cases List.prefix_or_prefix_of_prefix below within with
      | inl higher => exact alone ⟨⟨replaces, dir⟩, higher⟩
      | inr under => exact outside under
  · exact fun above => outside (within.trans above.1)

theorem deleteCopied_arrives (of : snapshot.Of (state.view setting))
    (outside : ¬ snapshot.root <+: dest) (fits : MoveFits setting state snapshot dest options)
    (alone : ¬ ((options.replaces = true ∧ state.view setting dest = some .dir) ∧
      dest <+: snapshot.root)) {between : State}
    (copied : PlainCopy options (state.view setting) snapshot.root dest view)
    (arrives : Arrives setting state between
      (Touches options (state.view setting) snapshot.root dest) view) :
    (∀ rel, snapshot.root <+: rel → between.view setting rel = state.view setting rel ∧
      SameRecord state between rel) ∧ snapshot.Of (between.view setting) ∧
      Arrives setting between (between.deleteSnapshot snapshot) (snapshot.root <+: ·)
        (remove (between.view setting) snapshot.root) := by
  obtain ⟨_, erasable, apart⟩ := fits
  have untouched := source_untouched outside apart alone
  have same : ∀ rel, snapshot.root <+: rel → between.view setting rel = state.view setting rel ∧
      SameRecord state between rel := by
    intro rel within
    rw [arrives.view]
    exact ⟨copied.elsewhere (untouched rel within).1 (untouched rel within).2,
      arrives.records rel (untouched rel within).1⟩
  have ofBetween := of.of_same fun rel within => (same rel within).1
  exact ⟨same, ofBetween, deleteSnapshot_arrives arrives.inv ofBetween
    fun rel within => (erasable rel within).of_record (same rel within).1 (same rel within).2⟩

theorem moved_arrives (of : snapshot.Of (state.view setting)) (outside : ¬ snapshot.root <+: dest)
    (fits : MoveFits setting state snapshot dest options) {between : State}
    (copied : PlainCopy options (state.view setting) snapshot.root dest view)
    (arrives : Arrives setting state between
      (Touches options (state.view setting) snapshot.root dest) view)
    (forgets : Forgets options (state.view setting) snapshot.root dest between) :
    Inv setting (between.deleteSnapshot snapshot) ∧
      (between.deleteSnapshot snapshot).view setting = remove view snapshot.root := by
  by_cases replaced : (options.replaces = true ∧ state.view setting dest = some .dir) ∧
      dest <+: snapshot.root
  next =>
    -- The source went with what it was below.
    obtain ⟨⟨replaces, dir⟩, higher⟩ := replaced
    have notMerged : ∀ rel, snapshot.root <+: rel →
        ¬ MergedInto (state.view setting) snapshot.root dest rel := by
      rintro rel within ⟨item, inside, there, rfl⟩
      exact fits.2.2 item inside there within
    have absent : ∀ rel, snapshot.root <+: rel → between.view setting rel = none := by
      intro rel within
      rw [arrives.view]
      exact copied.replaced replaces dir (higher.trans within) (notMerged rel within)
    have spent : Spent between (snapshot.files.map (·.1)) snapshot.dirs := by
      constructor
      · intro rel member
        obtain ⟨file, isFile, rfl⟩ := List.mem_map.mp member
        obtain ⟨within, there⟩ := (of.files file.1 file.2).mp isFile
        exact (forgets replaces dir file.1 (higher.trans within) (notMerged _ within)).1 _ there
      · intro rel member
        obtain ⟨within, there⟩ := (of.dirs rel).mp member
        exact (forgets replaces dir rel (higher.trans within) (notMerged _ within)).2 there
    have deleted := deleteSnapshot_absent arrives.inv of absent spent
    refine ⟨deleted.inv, ?_⟩
    rw [deleted.view, ← arrives.view]
    funext query
    unfold remove
    split
    next within => exact absent query within
    · rfl
  · obtain ⟨_, _, deleted⟩ := deleteCopied_arrives of outside fits replaced copied arrives
    exact ⟨deleted.inv, by rw [deleted.view, arrives.view]⟩

end Move

end MonoidKernel.Workspace
