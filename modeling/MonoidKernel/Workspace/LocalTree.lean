import MonoidKernel.Workspace.LocalView

set_option autoImplicit false

namespace MonoidKernel.Workspace

open Library (FileTree Node)
open Library.FileTree (Above View Rooted)
open Library.PlainTree (Clear write makeDir erase remove merge)

variable {setting : Setting} {state : State}

section Collect

theorem assignAll_lookup {A : Type} (value : Rel → A) (items : List (Rel × A)) (dict : Dict A)
    (values : ∀ item ∈ items, item.2 = value item.1) (rel : Rel) :
    (assignAll dict items).lookup rel =
      if rel ∈ items.map (·.1) then some (value rel) else dict.lookup rel := by
  induction items generalizing dict with
  | nil => rfl
  | cons item rest ih =>
    rw [List.forall_mem_cons] at values
    unfold assignAll at ih ⊢
    rw [List.foldl_cons, ih _ values.2]
    by_cases later : rel ∈ rest.map (·.1)
    · rw [if_pos later, List.map_cons, if_pos (List.mem_cons_of_mem _ later)]
    · rw [if_neg later, List.map_cons]
      by_cases same : rel = item.1
      · rw [same, AList.lookup_insert, if_pos List.mem_cons_self, values.1]
      · rw [AList.lookup_insert_ne same, if_neg]
        simp only [List.mem_cons, same, later, or_self, not_false_eq_true]

theorem map_kind (rels : List Rel) (kind : Kind) :
    ∀ item ∈ rels.map fun rel => (rel, kind), item.2 = kind := by
  intro item member
  obtain ⟨_, _, rfl⟩ := List.mem_map.mp member
  rfl

theorem diskDescendants_kind (state : State) (rel : Rel) (recursive : Bool) :
    ∀ item ∈ state.diskDescendants setting rel recursive,
      item.2 = ((setting.base.node item.1).map kindOf).getD .file := by
  intro item member
  unfold State.diskDescendants at member
  split at member
  · obtain ⟨path, _, is⟩ := List.mem_filterMap.mp member
    obtain ⟨node, there, rfl⟩ := Option.map_eq_some_iff.mp is
    simp [there]
  · cases member

variable {rel : Rel}

theorem mem_diskDescendants (state : State) (recursive : Bool) (item : Rel)
    (kept : state.isEffectivelyDeleted rel = false) :
    item ∈ (state.diskDescendants setting rel recursive).map (·.1) ↔
      listed recursive rel item = true ∧ state.diskHidden item = false ∧
        setting.base.node item ≠ none := by
  unfold State.diskDescendants
  constructor
  · intro member
    obtain ⟨found, inside, rfl⟩ := List.mem_map.mp member
    split at inside
    · obtain ⟨path, shows, is⟩ := List.mem_filterMap.mp inside
      obtain ⟨node, there, rfl⟩ := Option.map_eq_some_iff.mp is
      rw [List.mem_filter, Bool.and_eq_true, Bool.not_eq_true'] at shows
      exact ⟨shows.2.1, shows.2.2, by simp [there]⟩
    · cases inside
  · rintro ⟨isListed, visible, there⟩
    have above : Above rel item := by
      unfold listed at isListed
      rw [Bool.and_eq_true, decide_eq_true_eq] at isListed
      exact isListed.1
    obtain ⟨node, is⟩ := Option.ne_none_iff_exists'.mp there
    rw [if_pos ⟨setting.base.rooted.above rel item above there, kept⟩, List.mem_map]
    refine ⟨(item, kindOf node), List.mem_filterMap.mpr ⟨item, ?_, by simp [is]⟩, rfl⟩
    rw [List.mem_filter, FileTree.mem_below, isListed, visible]
    exact ⟨⟨above, there⟩, rfl⟩

theorem overlay_kept (state : State) (there : rel ∈ state.overlay ∨ rel ∈ state.overlayDirs) :
    state.isEffectivelyDeleted rel = false := by
  unfold State.isEffectivelyDeleted
  rw [if_pos there]

theorem there_kept (state : State) (there : state.view setting rel ≠ none) :
    state.isEffectivelyDeleted rel = false := by
  have kind := mt (kind_view state rel).1.mp there
  unfold State.effectiveKind at kind
  by_cases inOverlay : rel ∈ state.overlay ∨ rel ∈ state.overlayDirs
  · exact overlay_kept state inOverlay
  · rw [not_or] at inOverlay
    rw [if_neg inOverlay.1, if_neg inOverlay.2] at kind
    by_contra deleted
    rw [Bool.not_eq_false] at deleted
    rw [if_pos deleted] at kind
    exact kind rfl

theorem treeDescendants_lookup (inv : Inv setting state) (dir : state.view setting rel = some .dir)
    (recursive : Bool) (item : Rel) :
    (state.treeDescendants setting rel recursive).lookup item =
      if listed recursive rel item then (state.view setting item).map kindOf else none := by
  have there : state.view setting rel ≠ none := by rw [dir]; simp
  have kept := there_kept state there
  unfold State.treeDescendants
  dsimp only
  rw [assignAll_lookup (fun _ => .file) _ _ (map_kind _ _),
    assignAll_lookup (fun _ => .dir) _ _ (map_kind _ _),
    assignAll_lookup (fun item => ((setting.base.node item).map kindOf).getD .file) _ _
      (diskDescendants_kind state rel recursive)]
  have files : item ∈ ((state.overlay.keys.filter fun item =>
      listed recursive rel item && !state.isEffectivelyDeleted item).map fun item =>
        (item, Kind.file)).map (·.1) ↔
      item ∈ state.overlay ∧ listed recursive rel item = true := by
    have undeleted : item ∈ state.overlay → state.isEffectivelyDeleted item = false :=
      fun inside => overlay_kept state (.inl inside)
    simp only [List.map_map, Function.comp_def, List.map_id', List.mem_filter, ← AList.mem_keys,
      Bool.and_eq_true, Bool.not_eq_true']
    exact ⟨fun both => ⟨both.1, both.2.1⟩, fun both => ⟨both.1, both.2, undeleted both.1⟩⟩
  have dirs : item ∈ ((state.overlayDirs.filter fun item =>
      listed recursive rel item && !state.isEffectivelyDeleted item).map fun item =>
        (item, Kind.dir)).map (·.1) ↔
      item ∈ state.overlayDirs ∧ listed recursive rel item = true := by
    have undeleted : item ∈ state.overlayDirs → state.isEffectivelyDeleted item = false :=
      fun inside => overlay_kept state (.inr inside)
    simp only [List.map_map, Function.comp_def, List.map_id', List.mem_filter,
      Bool.and_eq_true, Bool.not_eq_true']
    exact ⟨fun both => ⟨both.1, both.2.1⟩, fun both => ⟨both.1, both.2, undeleted both.1⟩⟩
  simp only [files, dirs, mem_diskDescendants state recursive item kept]
  by_cases isListed : listed recursive rel item = true
  · by_cases file : item ∈ state.overlay
    · obtain ⟨data, there⟩ := inv.overlay_view file
      simp [isListed, file, there, kindOf]
    · by_cases inDirs : item ∈ state.overlayDirs
      · simp [isListed, file, inDirs, inv.overlayDirs_view inDirs, kindOf]
      · have hidden : state.diskHidden item = state.isEffectivelyDeleted item := by
          simp [State.diskHidden, file]
        rw [← effectiveKind_eq]
        unfold State.effectiveKind
        simp only [isListed, file, inDirs, hidden, false_and, if_false, true_and, if_true]
        by_cases deleted : state.isEffectivelyDeleted item = true
        · simp [deleted]
        · cases node : setting.base.node item with
          | none => simp [deleted]
          | some node => simp [deleted]
  · simp [isListed]

theorem mem_sortedItems {A : Type} (dict : Dict A) (item : Rel × A) :
    item ∈ sortedItems dict ↔ dict.lookup item.1 = some item.2 := by
  unfold sortedItems
  rw [List.mem_insertionSort, List.mem_map]
  constructor
  · rintro ⟨entry, member, rfl⟩
    exact AList.mem_lookup_iff.mpr member
  · intro found
    exact ⟨⟨item.1, item.2⟩, AList.mem_lookup_iff.mp found, rfl⟩

theorem sortedItems_once {A : Type} (dict : Dict A) : ((sortedItems dict).map (·.1)).Nodup := by
  have same := (List.perm_insertionSort
    (fun first second : Rel × A => spell first.1 ≤ spell second.1)
    (dict.entries.map fun entry => (entry.1, entry.2))).map (·.1)
  unfold sortedItems
  rw [same.nodup_iff, List.map_map]
  exact dict.nodupKeys

structure Snapshot.Of (view : View Text Bytes) (snapshot : Snapshot) : Prop where
  proper : snapshot.root ≠ []
  files : ∀ rel data, (rel, data) ∈ snapshot.files ↔
    snapshot.root <+: rel ∧ view rel = some (.file data)
  dirs : ∀ rel, rel ∈ snapshot.dirs ↔ snapshot.root <+: rel ∧ view rel = some .dir
  filesOnce : (snapshot.files.map (·.1)).Nodup
  dirsOnce : snapshot.dirs.Nodup
  kind : match snapshot.kind with
    | .file =>
      ∃ data, view snapshot.root = some (.file data) ∧ snapshot.files = [(snapshot.root, data)]
    | .dir => view snapshot.root = some .dir

theorem readBytes_spec {maxBytes : Nat} {data : Bytes}
    (read : state.readBytes setting rel maxBytes = .ok data) :
    state.readOptionalBytes setting rel = some data := by
  unfold State.readBytes at read
  generalize (if maxBytes = 0 then setting.maxBytesRead else maxBytes) = limit at read
  cases found : state.readOptionalBytes setting rel with
  | none =>
    rw [found] at read
    cases read
  | some bytes =>
    rw [found] at read
    dsimp only at read
    split at read
    · cases read
    · cases read
      rfl

theorem collectItems_spec (maxBytes : Nat) (items : List (Rel × Kind)) (snapshot : Snapshot)
    {result : Snapshot} (collected :
    state.collectItems setting maxBytes items snapshot = .ok result) :
    result.root = snapshot.root ∧ result.kind = snapshot.kind ∧
      result.dirs = snapshot.dirs ++ (items.filter fun item => decide (item.2 = .dir)).map (·.1) ∧
      result.files.map (·.1) = snapshot.files.map (·.1) ++
        (items.filter fun item => decide (item.2 = .file)).map (·.1) ∧
      ∀ file, file ∈ result.files ↔ file ∈ snapshot.files ∨
        (file.1, Kind.file) ∈ items ∧ state.readOptionalBytes setting file.1 = some file.2 := by
  induction items generalizing snapshot with
  | nil =>
    cases collected
    simp
  | cons item rest ih =>
    obtain ⟨path, kind⟩ := item
    cases kind with
    | dir =>
      obtain ⟨root, kind, dirs, keys, files⟩ := ih _ collected
      refine ⟨root, kind, ?_, ?_, ?_⟩
      · rw [dirs]; simp
      · rw [keys]; simp
      · intro file; rw [files]; simp
    | file =>
      unfold State.collectItems at collected
      split at collected
      · cases collected
      next data read =>
        split at collected
        · cases collected
        · obtain ⟨root, kind, dirs, keys, files⟩ := ih _ collected
          have bytes := readBytes_spec read
          refine ⟨root, kind, ?_, ?_, ?_⟩
          · rw [dirs]; simp
          · rw [keys]; simp
          · intro file
            rw [files]
            simp only [List.mem_append, List.mem_cons, List.not_mem_nil, or_false, Prod.mk.injEq,
              and_true]
            constructor
            · rintro ((old | rfl) | new)
              · exact .inl old
              · exact .inr ⟨.inl rfl, bytes⟩
              · exact .inr ⟨.inr new.1, new.2⟩
            · rintro (old | ⟨here | later, there⟩)
              · exact .inl (.inl old)
              · rw [here, bytes] at there
                cases there
                exact .inl (.inr (Prod.ext here rfl))
              · exact .inr ⟨later, there⟩

theorem nothing_listed (rooted : Rooted (state.view setting))
    (nothing : ∀ item, listed false rel item = true → state.view setting item = none) :
    ∀ lower, Above rel lower → state.view setting lower = none := by
  intro lower above
  by_contra there
  have length := above.length
  have within : lower.take (rel.length + 1) <+: lower := List.take_prefix _ _
  have size : (lower.take (rel.length + 1)).length = rel.length + 1 := by
    rw [List.length_take]
    omega
  have child : Above rel (lower.take (rel.length + 1)) := by
    constructor
    · apply List.prefix_of_prefix_length_le above.1 within
      omega
    · intro same
      rw [← same] at size
      omega
  have isListed : listed false rel (lower.take (rel.length + 1)) = true := by
    simp [listed, child, size]
  have missing := nothing _ isListed
  by_cases same : lower.take (rel.length + 1) = lower
  · rw [same] at missing
    exact there missing
  · rw [rooted.above _ lower ⟨within, same⟩ there] at missing
    cases missing

theorem descendants_spec (inv : Inv setting state) (dir : state.view setting rel = some .dir)
    {recursive : Bool}
    (listing : ¬ (sortedItems (state.treeDescendants setting rel recursive) ≠ [] ∧
      recursive = false)) (item : Rel × Kind) :
    item ∈ sortedItems (state.treeDescendants setting rel recursive) ↔
      Above rel item.1 ∧ (state.view setting item.1).map kindOf = some item.2 := by
  rw [mem_sortedItems, treeDescendants_lookup inv dir]
  cases recursive with
  | true =>
    unfold listed
    by_cases above : Above rel item.1 <;> simp [above]
  | false =>
    have empty : sortedItems (state.treeDescendants setting rel false) = [] := by
      by_contra some
      exact listing ⟨some, rfl⟩
    have nothing : ∀ item, listed false rel item = true → state.view setting item = none := by
      intro item isListed
      by_contra there
      obtain ⟨node, is⟩ := Option.ne_none_iff_exists'.mp there
      have inside : (item, kindOf node) ∈
          sortedItems (state.treeDescendants setting rel false) := by
        rw [mem_sortedItems, treeDescendants_lookup inv dir, if_pos isListed, is]
        rfl
      rw [empty] at inside
      cases inside
    have below := nothing_listed inv.rooted_view nothing
    constructor
    · intro found
      split at found
      next isListed =>
        rw [nothing item.1 isListed] at found
        cases found
      · cases found
    · rintro ⟨above, there⟩
      rw [below item.1 above] at there
      cases there

theorem collectRel_spec (inv : Inv setting state) (proper : rel ≠ []) (limits : Limits)
    {snapshot : Snapshot} (collected : state.collectRel setting rel limits = .ok snapshot) :
    snapshot.root = rel ∧ snapshot.Of (state.view setting) := by
  unfold State.collectRel at collected
  rw [effectiveKind_eq] at collected
  cases there : state.view setting rel with
  | none =>
    rw [there] at collected
    cases collected
  | some node =>
    rw [there] at collected
    cases node with
    | file data =>
      dsimp only [Option.map_some, kindOf] at collected
      split at collected
      · cases collected
      next bytes read =>
        cases collected
        have leaf : state.view setting rel ≠ some .dir := by rw [there]; simp
        have same : bytes = data := by
          have known := bytes_view state rel leaf
          rw [readBytes_spec read, there] at known
          simpa using known
        have below : ∀ lower, rel <+: lower → state.view setting lower ≠ none → lower = rel := by
          intro lower within inView
          by_contra other
          exact inView (inv.rooted_view.below ⟨within, Ne.symm other⟩ leaf)
        refine ⟨rfl, proper, ?_, ?_, by simp, by simp, ?_⟩
        · intro lower bytes'
          rw [List.mem_singleton, Prod.mk.injEq, same]
          constructor
          · rintro ⟨rfl, rfl⟩
            exact ⟨List.prefix_refl _, there⟩
          · rintro ⟨within, is⟩
            have here := below lower within (by rw [is]; simp)
            rw [here, there] at is
            cases is
            exact ⟨here, rfl⟩
        · intro lower
          constructor
          · intro member; cases member
          · rintro ⟨within, is⟩
            rw [below lower within (by rw [is]; simp)] at is
            exact absurd is leaf
        · exact ⟨data, there, by rw [same]⟩
    | dir =>
      dsimp only [Option.map_some, kindOf] at collected
      split at collected
      · cases collected
      next listing =>
        split at collected
        · cases collected
        next result items =>
          split at collected
          · cases collected
          · cases collected
            obtain ⟨root, kind, dirs, keys, files⟩ := collectItems_spec _ _ _ items
            have member := descendants_spec inv there listing
            have once := sortedItems_once
              (state.treeDescendants setting rel limits.recursive)
            refine ⟨root, by rw [root]; exact proper, ?_, ?_, ?_, ?_, ?_⟩
            · intro lower data
              rw [files, root, member]
              simp only [List.not_mem_nil, false_or]
              constructor
              · rintro ⟨⟨above, isFile⟩, bytes⟩
                have leaf : state.view setting lower ≠ some .dir := by
                  intro isDir
                  rw [isDir] at isFile
                  cases isFile
                refine ⟨above.1, ?_⟩
                rw [← bytes_view state lower leaf, bytes]
                rfl
              · rintro ⟨within, is⟩
                have other : rel ≠ lower := by
                  intro same
                  rw [← same, there] at is
                  cases is
                have leaf : state.view setting lower ≠ some .dir := by rw [is]; simp
                refine ⟨⟨⟨within, other⟩, by rw [is]; rfl⟩, ?_⟩
                have bytes := bytes_view state lower leaf
                rw [is] at bytes
                simpa using bytes
            · intro lower
              rw [dirs, root]
              simp only [List.mem_append, List.mem_singleton, List.mem_map, List.mem_filter,
                decide_eq_true_eq, Prod.exists, exists_and_right, exists_eq_right, member]
              constructor
              · rintro (rfl | ⟨above, isKind⟩)
                · exact ⟨List.prefix_refl _, there⟩
                · refine ⟨above.1, ?_⟩
                  obtain ⟨node, is, isDir⟩ := Option.map_eq_some_iff.mp isKind
                  cases node with
                  | file data => cases isDir
                  | dir => exact is
              · rintro ⟨within, is⟩
                by_cases same : lower = rel
                · exact .inl same
                · exact .inr ⟨⟨within, Ne.symm same⟩, by rw [is]; rfl⟩
            · rw [keys]
              simp only [List.map_nil, List.nil_append]
              exact once.sublist (List.filter_sublist.map _)
            · rw [dirs, List.singleton_append, List.nodup_cons]
              constructor
              · intro inside
                obtain ⟨item, filtered, isRoot⟩ := List.mem_map.mp inside
                have above := ((member item).mp (List.mem_filter.mp filtered).1).1
                rw [isRoot] at above
                exact Library.FileTree.above_irrefl rel above
              · exact once.sublist (List.filter_sublist.map _)
            · rw [kind, root]
              exact there

end Collect

section Delete

def SameRecords (before after : State) (changed : Rel → Prop) : Prop :=
  ∀ other, ¬ changed other → SameRecord before after other

theorem SameRecords.refl (state : State) (changed : Rel → Prop) :
    SameRecords state state changed := fun _ _ => ⟨rfl, Iff.rfl, Iff.rfl⟩

variable {before after : State}

variable {changed : Rel → Prop}

theorem SameRecords.trans {between : State} {changed' : Rel → Prop}
    (first : SameRecords before between changed) (second : SameRecords between after changed') :
    SameRecords before after fun rel => changed rel ∨ changed' rel := by
  intro other outside
  rw [not_or] at outside
  have one := first other outside.1
  have two := second other outside.2
  exact ⟨two.original.trans one.original, two.created.trans one.created,
    two.deleted.trans one.deleted⟩

theorem SameRecords.mono {more : Rel → Prop} (same : SameRecords before after changed)
    (further : ∀ rel, changed rel → more rel) :
    SameRecords before after more :=
  fun other outside => same other fun inside => outside (further other inside)

theorem Erasable.of_record {rel : Rel} (erasable : Erasable setting before rel)
    (view : after.view setting rel = before.view setting rel) (same : SameRecord before after rel) :
    Erasable setting after rel := by
  unfold Erasable at erasable ⊢
  rw [view, same.original, same.created]
  exact erasable

theorem Erasable.of_same {rel : Rel} (erasable : Erasable setting before rel)
    (view : after.view setting rel = before.view setting rel)
    (records : SameRecords before after changed) (outside : ¬ changed rel) :
    Erasable setting after rel := erasable.of_record view (records rel outside)

structure Arrives (setting : Setting) (before after : State) (changed : Rel → Prop)
    (view : View Text Bytes) : Prop where
  inv : Inv setting after
  view : after.view setting = view
  records : SameRecords before after changed

variable {view : View Text Bytes}

theorem Becomes.arrives {rel : Rel} (becomes : Becomes setting before after rel view) :
    Arrives setting before after (· = rel) view :=
  ⟨becomes.inv, becomes.view, becomes.records⟩

def eraseAll (view : View Text Bytes) (rels : List Rel) : View Text Bytes :=
  fun query => if query ∈ rels then none else view query

theorem eraseAll_cons (view : View Text Bytes) (rel : Rel) (rest : List Rel) :
    eraseAll (erase view rel) rest = eraseAll view (rel :: rest) := by
  funext query
  unfold eraseAll erase
  by_cases same : query = rel <;> by_cases later : query ∈ rest <;> simp [same, later]

theorem deleteFiles_arrives (files : List (Rel × Bytes)) (inv : Inv setting state)
    (once : (files.map (·.1)).Nodup)
    (are : ∀ file ∈ files, ∃ data, state.view setting file.1 = some (.file data))
    (erasable : ∀ file ∈ files, Erasable setting state file.1) :
    Arrives setting state
      (files.foldl (fun state file => state.deleteFile file.1 file.2) state)
      (· ∈ files.map (·.1)) (eraseAll (state.view setting) (files.map (·.1))) := by
  induction files generalizing state with
  | nil => exact ⟨inv, by funext query; simp [eraseAll], SameRecords.refl state _⟩
  | cons file rest ih =>
    rw [List.map_cons, List.nodup_cons] at once
    obtain ⟨data, is⟩ := are file List.mem_cons_self
    have step := deleteFile_becomes inv file.2 is (erasable file List.mem_cons_self)
    have other : ∀ later ∈ rest, later.1 ≠ file.1 := by
      intro later member same
      exact once.1 (List.mem_map.mpr ⟨later, member, same⟩)
    have same : ∀ later ∈ rest, (state.deleteFile file.1 file.2).view setting later.1 =
        state.view setting later.1 := by
      intro later member
      rw [step.view]
      exact if_neg (other later member)
    have further := ih step.inv once.2
      (fun later member => by
        rw [same later member]
        exact are later (List.mem_cons_of_mem _ member))
      (fun later member => (erasable later (List.mem_cons_of_mem _ member)).of_same
        (same later member) step.arrives.records (other later member))
    rw [List.foldl_cons, List.map_cons]
    refine ⟨further.inv, ?_, ?_⟩
    · rw [further.view, step.view, eraseAll_cons]
    · refine (step.arrives.records.trans further.records).mono ?_
      intro rel either
      rw [List.mem_cons]
      exact either

theorem nothing_deeper {dir : Rel} {rest : List Rel}
    (deepest : ∀ later ∈ rest, later.length ≤ dir.length)
    (below : ∀ lower, Above dir lower → view lower ≠ none → lower ∈ dir :: rest) :
    ∀ lower, Above dir lower → view lower = none := by
  intro lower above
  by_contra there
  have longer := above.length
  cases List.mem_cons.mp (below lower above there) with
  | inl same => exact above.2 same.symm
  | inr later =>
    have shorter := deepest lower later
    omega

variable (dirs : List Rel)

theorem deleteDirs_arrives (inv : Inv setting state) (once : dirs.Nodup) (proper : [] ∉ dirs)
    (deepest : dirs.Pairwise fun first second => second.length ≤ first.length)
    (are : ∀ dir ∈ dirs, state.view setting dir = some .dir)
    (below : ∀ dir ∈ dirs, ∀ lower, Above dir lower → state.view setting lower ≠ none →
      lower ∈ dirs) (erasable : ∀ dir ∈ dirs, Erasable setting state dir) :
    Arrives setting state (dirs.foldl State.deleteDir state) (· ∈ dirs)
      (eraseAll (state.view setting) dirs) := by
  induction dirs generalizing state with
  | nil => exact ⟨inv, by funext query; simp [eraseAll], SameRecords.refl state _⟩
  | cons dir rest ih =>
    rw [List.nodup_cons] at once
    rw [List.pairwise_cons] at deepest
    have empty := nothing_deeper deepest.1 (below dir List.mem_cons_self)
    have step := deleteDir_becomes inv
      (fun root => proper (by rw [← root]; exact List.mem_cons_self))
      (are dir List.mem_cons_self) empty (erasable dir List.mem_cons_self)
    have other : ∀ later ∈ rest, later ≠ dir := by
      intro later member same
      rw [same] at member
      exact once.1 member
    have same : ∀ later ∈ rest, (state.deleteDir dir).view setting later =
        state.view setting later := by
      intro later member
      rw [step.view]
      exact if_neg (other later member)
    have further := ih step.inv once.2 (fun root => proper (List.mem_cons_of_mem _ root)) deepest.2
      (fun later member => by
        rw [same later member]
        exact are later (List.mem_cons_of_mem _ member))
      (fun later member lower above there => by
        rw [step.view] at there
        unfold erase at there
        split at there
        · exact absurd rfl there
        next notDir =>
          cases List.mem_cons.mp
            (below later (List.mem_cons_of_mem _ member) lower above there) with
          | inl here => exact absurd here notDir
          | inr inside => exact inside)
      (fun later member => (erasable later (List.mem_cons_of_mem _ member)).of_same
        (same later member) step.arrives.records (other later member))
    rw [List.foldl_cons]
    refine ⟨further.inv, ?_, ?_⟩
    · rw [further.view, step.view, eraseAll_cons]
    · refine (step.arrives.records.trans further.records).mono ?_
      intro rel either
      rw [List.mem_cons]
      exact either

theorem deepestFirst_pairwise :
    (deepestFirst dirs).Pairwise fun first second => second.length ≤ first.length := by
  have total : Std.Total fun first second : Rel => second.length ≤ first.length :=
    ⟨fun first second => Nat.le_total second.length first.length⟩
  have trans : IsTrans Rel fun first second => second.length ≤ first.length :=
    ⟨fun _ _ _ one two => Nat.le_trans two one⟩
  exact List.pairwise_insertionSort _ dirs

variable {snapshot : Snapshot}

theorem mem_deletedFiles_order (snapshot : Snapshot) (file : Rel × Bytes) :
    file ∈ (sortedFiles snapshot.files).reverse ↔ file ∈ snapshot.files := by
  rw [List.mem_reverse, sortedFiles, List.mem_insertionSort]

theorem mem_deepestFirst (dir : Rel) : dir ∈ deepestFirst dirs ↔ dir ∈ dirs := by
  rw [deepestFirst, List.mem_insertionSort]

theorem Snapshot.Of.ordered_files (of : snapshot.Of view) :
    (((sortedFiles snapshot.files).reverse).map (·.1)).Nodup ∧
      ∀ file ∈ (sortedFiles snapshot.files).reverse,
        snapshot.root <+: file.1 ∧ view file.1 = some (.file file.2) := by
  have files : ((sortedFiles snapshot.files).reverse).Perm snapshot.files :=
    (List.reverse_perm _).trans (List.perm_insertionSort _ _)
  exact ⟨(files.map (·.1)).nodup_iff.mpr of.filesOnce,
    fun file member => (of.files file.1 file.2).mp (files.mem_iff.mp member)⟩

theorem Snapshot.Of.ordered_dirs (of : snapshot.Of view) :
    (deepestFirst snapshot.dirs).Nodup ∧ [] ∉ deepestFirst snapshot.dirs ∧
      ∀ dir ∈ deepestFirst snapshot.dirs, snapshot.root <+: dir ∧ view dir = some .dir := by
  have dirs : (deepestFirst snapshot.dirs).Perm snapshot.dirs := List.perm_insertionSort _ _
  have are : ∀ dir ∈ deepestFirst snapshot.dirs, snapshot.root <+: dir ∧ view dir = some .dir :=
    fun dir member => (of.dirs dir).mp (dirs.mem_iff.mp member)
  exact ⟨dirs.nodup_iff.mpr of.dirsOnce,
    fun root => of.proper (List.prefix_nil.mp (are [] root).1), are⟩

theorem files_deleted {between : State} (of : snapshot.Of view)
    (first : Arrives setting state between
      (· ∈ (sortedFiles snapshot.files).reverse.map (·.1))
      (eraseAll view ((sortedFiles snapshot.files).reverse.map (·.1)))) :
    ∀ dir ∈ deepestFirst snapshot.dirs, between.view setting dir = some .dir ∧
      SameRecord state between dir ∧
      ∀ lower, Above dir lower → between.view setting lower ≠ none →
        lower ∈ deepestFirst snapshot.dirs := by
  intro dir member
  obtain ⟨within, isDir⟩ := of.ordered_dirs.2.2 dir member
  have notFile : dir ∉ (sortedFiles snapshot.files).reverse.map (·.1) := by
    intro inside
    obtain ⟨file, isFile, same⟩ := List.mem_map.mp inside
    have other := (of.ordered_files.2 file isFile).2
    rw [same, isDir] at other
    cases other
  refine ⟨?_, first.records dir notFile, ?_⟩
  · rw [first.view, ← isDir]
    exact if_neg notFile
  · intro lower above there
    rw [first.view] at there
    unfold eraseAll at there
    split at there
    · exact absurd rfl there
    next notDeleted =>
      have below := within.trans above.1
      rw [mem_deepestFirst, of.dirs]
      refine ⟨below, ?_⟩
      obtain ⟨node, is⟩ := Option.ne_none_iff_exists'.mp there
      cases node with
      | dir => exact is
      | file data =>
        have inside := (mem_deletedFiles_order snapshot (lower, data)).mpr
          ((of.files lower data).mpr ⟨below, is⟩)
        exact absurd (List.mem_map.mpr ⟨(lower, data), inside, rfl⟩) notDeleted

theorem deleteSnapshot_arrives (inv : Inv setting state)
    (of : snapshot.Of (state.view setting))
    (erasable : ∀ rel, snapshot.root <+: rel → Erasable setting state rel) :
    Arrives setting state (state.deleteSnapshot snapshot) (snapshot.root <+: ·)
      (remove (state.view setting) snapshot.root) := by
  obtain ⟨filesOnce, isFile⟩ := of.ordered_files
  obtain ⟨dirsOnce, noRoot, isDir⟩ := of.ordered_dirs
  have first := deleteFiles_arrives (sortedFiles snapshot.files).reverse inv filesOnce
    (fun file member => ⟨file.2, (isFile file member).2⟩)
    (fun file member => erasable file.1 (isFile file member).1)
  have left := files_deleted of first
  unfold State.deleteSnapshot
  dsimp only
  generalize (sortedFiles snapshot.files).reverse.foldl
    (fun state file => state.deleteFile file.1 file.2) state = between at first left ⊢
  have second := deleteDirs_arrives (deepestFirst snapshot.dirs) first.inv dirsOnce noRoot
    (deepestFirst_pairwise snapshot.dirs) (fun dir member => (left dir member).1)
    (fun dir member => (left dir member).2.2)
    (fun dir member => (erasable dir (isDir dir member).1).of_record
      ((left dir member).1.trans (isDir dir member).2.symm) (left dir member).2.1)
  refine ⟨second.inv, ?_, ?_⟩
  · rw [second.view, first.view]
    funext query
    unfold eraseAll remove
    by_cases within : snapshot.root <+: query
    · rw [if_pos within]
      split
      · rfl
      next noDir =>
        split
        · rfl
        next noFile =>
          by_contra there
          obtain ⟨node, is⟩ := Option.ne_none_iff_exists'.mp there
          cases node with
          | dir =>
            exact noDir ((mem_deepestFirst _ _).mpr ((of.dirs query).mpr ⟨within, is⟩))
          | file data =>
            have inside := (mem_deletedFiles_order snapshot (query, data)).mpr
              ((of.files query data).mpr ⟨within, is⟩)
            exact noFile (List.mem_map.mpr ⟨(query, data), inside, rfl⟩)
    · rw [if_neg within, if_neg fun member => within (isDir query member).1, if_neg]
      intro member
      obtain ⟨file, inside, rfl⟩ := List.mem_map.mp member
      exact within (isFile file inside).1
  · refine (first.records.trans second.records).mono ?_
    rintro rel (file | dir)
    · obtain ⟨found, inside, rfl⟩ := List.mem_map.mp file
      exact (isFile found inside).1
    · exact (isDir rel dir).1

end Delete

end MonoidKernel.Workspace
