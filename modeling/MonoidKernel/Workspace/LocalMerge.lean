import MonoidKernel.Workspace.LocalTree

set_option autoImplicit false

namespace MonoidKernel.Workspace

open Library (FileTree Node)
open Library.FileTree (Above View Rooted)
open Library.PlainTree (Clear write makeDir erase remove merge)

variable {setting : Setting} {state : State}

section Write

theorem parentExists_view (inv : Inv setting state) {rel : Rel}
    (there : state.parentExists setting rel = true) :
    state.view setting rel.dropLast = some .dir := by
  unfold State.parentExists at there
  rw [decide_eq_true_eq] at there
  cases there with
  | inl root =>
    rw [root]
    exact inv.rooted_view.root
  | inr dir => exact (kind_view state _).2.mp dir

structure MayWrite (view : View Text Bytes) (rel : Rel) (createDirs overwrite : Bool) : Prop where
  leaf : view rel ≠ some .dir
  clear : Clear view rel
  parent : createDirs = false → view rel = none → view rel.dropLast = some .dir
  fresh : overwrite = false → view rel = none

theorem writeFile_arrives (inv : Inv setting state) (rel : Rel) (data : Bytes)
    (createDirs overwrite : Bool)
    (clear : createDirs = true → Clear (state.view setting) rel) :
    (∃ error, state.writeFile setting rel data createDirs overwrite = (.error error, state)) ∨
      ∃ after, state.writeFile setting rel data createDirs overwrite = (.ok (), after) ∧
        MayWrite (state.view setting) rel createDirs overwrite ∧
        Arrives setting state after (· = rel) (write (state.view setting) rel data) := by
  unfold State.writeFile
  split
  · exact .inl ⟨_, rfl⟩
  next noDir =>
    have leaf : state.view setting rel ≠ some .dir := mt (kind_view state rel).2.mpr noDir
    have bytes := bytes_view state rel leaf
    dsimp only
    split
    · exact .inl ⟨_, rfl⟩
    next noClash =>
      split
      · exact .inl ⟨_, rfl⟩
      next parent =>
        have missing : state.view setting rel = none ↔
            state.readOptionalBytes setting rel = none := by
          rw [← bytes, Option.map_eq_none_iff]
        have inDir : createDirs = false → state.view setting rel = none →
            state.view setting rel.dropLast = some .dir := by
          intro create nothing
          apply parentExists_view inv
          by_contra other
          rw [Bool.not_eq_true] at other
          exact parent ⟨missing.mp nothing, create, other⟩
        have above : Clear (state.view setting) rel := by
          by_cases nothing : state.view setting rel = none
          · cases createDirs with
            | true => exact clear rfl
            | false => exact Clear.of_parent inv.rooted_view (inDir rfl nothing)
          · exact Clear.of_there inv.rooted_view nothing
        have fresh : overwrite = false → state.view setting rel = none := by
          intro keep
          by_contra there
          exact noClash ⟨mt missing.mpr there, keep⟩
        exact .inr ⟨_, rfl, ⟨leaf, above, inDir, fresh⟩,
          (written_becomes inv data _ above leaf).arrives⟩

theorem writeFile_succeeds (inv : Inv setting state) {rel : Rel} (data : Bytes)
    (leaf : state.view setting rel ≠ some .dir) (clear : Clear (state.view setting) rel) :
    ∃ after, state.writeFile setting rel data true true = (.ok (), after) ∧
      Arrives setting state after (· = rel) (write (state.view setting) rel data) := by
  cases writeFile_arrives inv rel data true true (fun _ => clear) with
  | inl failed =>
    obtain ⟨error, failed⟩ := failed
    unfold State.writeFile at failed
    rw [if_neg (mt (kind_view state rel).2.mp leaf)] at failed
    simp at failed
  | inr written =>
    obtain ⟨after, done, _, arrives⟩ := written
    exact ⟨after, done, arrives⟩

end Write

section Merge

def madeDirs (view : View Text Bytes) (targets : List Rel) : View Text Bytes :=
  fun query => if ∃ target ∈ targets, query <+: target then some .dir else view query

theorem madeDirs_cons (view : View Text Bytes) (target : Rel) (rest : List Rel) :
    madeDirs (makeDir view target) rest = madeDirs view (target :: rest) := by
  funext query
  unfold madeDirs makeDir
  by_cases later : ∃ target ∈ rest, query <+: target
  · simp [later]
  · simp [later]

theorem mkdirs_arrives (targets : List Rel) (inv : Inv setting state)
    (proper : ∀ target ∈ targets, target ≠ [])
    (free : ∀ target ∈ targets, ∀ query, query <+: target →
      state.view setting query = none ∨ state.view setting query = some .dir) :
    Arrives setting state (targets.foldl (fun state rel => state.mkdirForTree setting rel) state)
      (· ∈ targets) (madeDirs (state.view setting) targets) := by
  induction targets generalizing state with
  | nil => exact ⟨inv, by funext query; simp [madeDirs], SameRecords.refl state _⟩
  | cons target rest ih =>
    have here := free target List.mem_cons_self
    have step := (mkdirForTree_becomes inv (proper target List.mem_cons_self)
      (fun upper above => here upper above.1) (here target (List.prefix_refl _))).arrives
    have further := ih step.inv (fun later member => proper later (List.mem_cons_of_mem _ member))
      (fun later member query within => by
        rw [step.view]
        unfold makeDir
        split
        · exact .inr rfl
        · exact free later (List.mem_cons_of_mem _ member) query within)
    rw [List.foldl_cons]
    refine ⟨further.inv, ?_, ?_⟩
    · rw [further.view, step.view, madeDirs_cons]
    · refine (step.records.trans further.records).mono ?_
      intro rel either
      rw [List.mem_cons]
      exact either

def filled (view : View Text Bytes) (targets : List (Rel × Bytes)) : View Text Bytes :=
  fun query =>
    match targets.find? fun target => decide (target.1 = query) with
    | some target => some (.file target.2)
    | none => view query

theorem written_elsewhere {after : State} {rel : Rel} {data : Bytes}
    (parents : ∀ upper, Above upper rel → state.view setting upper = some .dir)
    (view : after.view setting = write (state.view setting) rel data) :
    ∀ query, query ≠ rel → after.view setting query = state.view setting query := by
  intro query other
  rw [view]
  unfold write
  rw [if_neg other]
  split
  next above => exact (parents query above).symm
  · rfl

theorem writeFiles_arrives (root dest : Rel) (files : List (Rel × Bytes)) (inv : Inv setting state)
    (once : (files.map fun file => mapped root dest file.1).Nodup)
    (leaf : ∀ file ∈ files, state.view setting (mapped root dest file.1) ≠ some .dir)
    (parents : ∀ file ∈ files, ∀ upper, Above upper (mapped root dest file.1) →
      state.view setting upper = some .dir) :
    ∃ after, state.writeFiles setting root dest files = (.ok (), after) ∧
      Arrives setting state after (· ∈ files.map fun file => mapped root dest file.1)
        (filled (state.view setting)
        (files.map fun file => (mapped root dest file.1, file.2))) := by
  induction files generalizing state with
  | nil => exact ⟨state, rfl, inv, by funext query; simp [filled], SameRecords.refl state _⟩
  | cons file rest ih =>
    rw [List.map_cons, List.nodup_cons] at once
    have here := parents file List.mem_cons_self
    have isLeaf := leaf file List.mem_cons_self
    obtain ⟨next, written, step⟩ := writeFile_succeeds inv file.2 isLeaf
      (fun upper above => .inr (here upper above))
    have same := written_elsewhere (fun upper above => here upper above) step.view
    have other : ∀ later ∈ rest, mapped root dest later.1 ≠ mapped root dest file.1 := by
      intro later member equal
      exact once.1 (List.mem_map.mpr ⟨later, member, equal⟩)
    obtain ⟨after, others, further⟩ := ih step.inv once.2
      (fun later member => by
        rw [same _ (other later member)]
        exact leaf later (List.mem_cons_of_mem _ member))
      (fun later member upper above => by
        have dir := parents later (List.mem_cons_of_mem _ member) upper above
        rw [same upper ?_]
        · exact dir
        · intro equal
          rw [equal] at dir
          exact isLeaf dir)
    refine ⟨after, ?_, further.inv, ?_, ?_⟩
    · simp only [State.writeFiles, written, others]
    · rw [further.view]
      funext query
      unfold filled
      rw [List.map_cons, List.find?_cons]
      by_cases equal : mapped root dest file.1 = query
      · have missing : (rest.map fun file => (mapped root dest file.1, file.2)).find?
            (fun target => decide (target.1 = query)) = none := by
          rw [List.find?_eq_none]
          intro target member
          obtain ⟨later, inside, rfl⟩ := List.mem_map.mp member
          rw [← equal]
          simpa using other later inside
        rw [missing, step.view]
        simp [write, equal]
      · rw [same query (Ne.symm equal)]
        simp [equal]
    · refine (step.records.trans further.records).mono ?_
      intro rel either
      rw [List.map_cons, List.mem_cons]
      exact either

@[simp] theorem mapped_append (root dest suffix : Rel) :
    mapped root dest (root ++ suffix) = dest ++ suffix := by
  simp [mapped]

theorem prefix_append_cases {query dest suffix : Rel} (within : query <+: dest ++ suffix) :
    query <+: dest ∨ ∃ upper, upper <+: suffix ∧ query = dest ++ upper := by
  cases List.prefix_or_prefix_of_prefix within (List.prefix_append dest suffix) with
  | inl above => exact .inl above
  | inr below =>
    obtain ⟨upper, rfl⟩ := below
    exact .inr ⟨upper, (List.prefix_append_right_inj dest).mp within, rfl⟩

structure MayMerge (view : View Text Bytes) (dest : Rel) (createDirs overwrite : Bool) : Prop where
  free : ∀ query, query <+: dest → view query = none ∨ view query = some .dir
  parent : createDirs = false → view dest = none → view dest.dropLast = some .dir
  fresh : overwrite = false → view dest = none

theorem preflightTree_spec (inv : Inv setting state) {snapshot : Snapshot} {dest : Rel}
    {options : CopyOptions} (filesBelow : ∀ file ∈ snapshot.files,
      Above dest (mapped snapshot.root dest file.1))
    (clear : options.createDirs = true → Clear (state.view setting) dest)
    (passed : state.preflightTreeDestination setting snapshot dest options = .ok ()) :
    MayMerge (state.view setting) dest options.createDirs options.overwrite ∧
      ∀ file ∈ snapshot.files,
        state.view setting (mapped snapshot.root dest file.1) ≠ some .dir := by
  unfold State.preflightTreeDestination at passed
  rw [effectiveKind_eq] at passed
  dsimp only at passed
  split at passed
  · cases passed
  next noFile =>
    split at passed
    · cases passed
    next noClash =>
      split at passed
      · cases passed
      next parent =>
        have here : state.view setting dest = none ∨ state.view setting dest = some .dir := by
          cases there : state.view setting dest with
          | none => exact .inl rfl
          | some node =>
            cases node with
            | dir => exact .inr rfl
            | file data =>
              rw [there] at noFile
              exact absurd rfl noFile
        have inDir : options.createDirs = false → state.view setting dest = none →
            state.view setting dest.dropLast = some .dir := by
          intro create missing
          apply parentExists_view inv
          by_contra other
          rw [Bool.not_eq_true] at other
          exact parent ⟨by rw [missing]; rfl, create, other⟩
        have above : Clear (state.view setting) dest := by
          cases here with
          | inr dir => exact Clear.of_there inv.rooted_view (by rw [dir]; simp)
          | inl missing =>
            cases create : options.createDirs with
            | true => exact clear create
            | false => exact Clear.of_parent inv.rooted_view (inDir create missing)
        have fresh : options.overwrite = false → state.view setting dest = none := by
          intro keep
          by_contra there
          exact noClash ⟨by simpa using there, keep⟩
        refine ⟨⟨?_, inDir, fresh⟩, ?_⟩
        · intro query within
          by_cases same : query = dest
          · rw [same]; exact here
          · exact above query ⟨within, same⟩
        · intro file member
          split at passed
          next keep =>
            -- Without overwriting there was nothing at the destination, so nothing below it.
            have missing := fresh keep
            rw [inv.rooted_view.below (filesBelow file member) (by rw [missing]; simp)]
            simp
          · split at passed
            · cases passed
            next found =>
              rw [List.find?_eq_none] at found
              have other := found file member
              rw [decide_eq_true_eq] at other
              exact mt (kind_view state _).2.mpr other

variable {source : View Text Bytes} {snapshot : Snapshot} {dest : Rel}

def MergedInto (source : View Text Bytes) (root dest rel : Rel) : Prop :=
  ∃ item, root <+: item ∧ source item ≠ none ∧ rel = mapped root dest item

structure Lists (source : View Text Bytes) (root : Rel) (dirs : List Rel)
    (files : List (Rel × Bytes)) : Prop where
  top : source root = some .dir
  hasDirs : ∀ rel, rel ∈ dirs ↔ root <+: rel ∧ source rel = some .dir
  hasFiles : ∀ file, file ∈ files ↔ root <+: file.1 ∧ source file.1 = some (.file file.2)
  once : (files.map (·.1)).Nodup

variable {root : Rel} {dirs : List Rel} {files : List (Rel × Bytes)}

theorem Lists.upper (root : Rel) (rooted : Rooted source) {upper suffix : Rel}
    (shorter : upper <+: suffix)
    (there : source (root ++ suffix) ≠ none) :
    upper = suffix ∨ source (root ++ upper) = some .dir := by
  by_cases same : upper = suffix
  · exact .inl same
  · apply Or.inr
    apply rooted.above _ (root ++ suffix) _ there
    exact ⟨(List.prefix_append_right_inj _).mpr shorter, by simpa using same⟩

theorem Lists.reach (lists : Lists source root dirs files) (rooted : Rooted source)
    (dest query : Rel) :
    (∃ target ∈ dirs.map (mapped root dest), query <+: target) ↔
      Above query dest ∨ ∃ suffix, query = dest ++ suffix ∧
        source (root ++ suffix) = some .dir := by
  constructor
  · rintro ⟨target, member, within⟩
    obtain ⟨rel, inside, rfl⟩ := List.mem_map.mp member
    obtain ⟨⟨suffix, rfl⟩, there⟩ := (lists.hasDirs rel).mp inside
    rw [mapped_append] at within
    by_cases below : dest <+: query
    · obtain ⟨upper, rfl⟩ := below
      refine .inr ⟨upper, rfl, ?_⟩
      cases Lists.upper root rooted ((List.prefix_append_right_inj dest).mp within)
        (by rw [there]; simp) with
      | inl same => rw [same]; exact there
      | inr dir => exact dir
    · cases prefix_append_cases within with
      | inl above => exact .inl ⟨above, fun same => below (by rw [same])⟩
      | inr inside =>
        obtain ⟨upper, _, rfl⟩ := inside
        exact absurd (List.prefix_append dest upper) below
  · rintro (above | ⟨suffix, rfl, there⟩)
    · refine ⟨dest, List.mem_map.mpr ⟨root, ?_, by simp [mapped]⟩, above.1⟩
      exact (lists.hasDirs _).mpr ⟨List.prefix_refl _, lists.top⟩
    · refine ⟨dest ++ suffix, List.mem_map.mpr ⟨root ++ suffix, ?_, mapped_append _ _ _⟩,
        List.prefix_refl _⟩
      exact (lists.hasDirs _).mpr ⟨List.prefix_append _ _, there⟩

theorem filled_merge (lists : Lists source root dirs files) (rooted : Rooted source)
    (view : View Text Bytes) :
    filled (madeDirs view (dirs.map (mapped root dest)))
      (files.map fun file => (mapped root dest file.1, file.2)) = merge view source root dest := by
  have made := lists.reach rooted dest
  funext query
  unfold filled
  cases found : (files.map fun file => (mapped root dest file.1, file.2)).find? fun target =>
      decide (target.1 = query) with
  | some target =>
    have same : target.1 = query := by simpa using List.find?_some found
    obtain ⟨file, inside, rfl⟩ := List.mem_map.mp (List.mem_of_find?_eq_some found)
    obtain ⟨⟨suffix, isSuffix⟩, there⟩ := (lists.hasFiles file).mp inside
    rw [← isSuffix, mapped_append] at same
    rw [← isSuffix] at there
    have notAbove : ¬ Above query dest := by
      intro above
      rw [← same] at above
      have length := above.length
      rw [List.length_append] at length
      omega
    unfold merge
    rw [if_neg notAbove, if_pos (by rw [← same]; exact List.prefix_append _ _), ← same,
      List.drop_left, there]
    rfl
  | none =>
    rw [List.find?_eq_none] at found
    have noFile : ∀ suffix data, query = dest ++ suffix →
        source (root ++ suffix) ≠ some (.file data) := by
      intro suffix data same there
      have member := (lists.hasFiles (root ++ suffix, data)).mpr
        ⟨List.prefix_append _ _, there⟩
      have other := found _ (List.mem_map.mpr ⟨_, member, rfl⟩)
      simp [same] at other
    unfold madeDirs merge
    by_cases above : Above query dest
    · rw [if_pos ((made query).mpr (.inl above)), if_pos above]
    · rw [if_neg above]
      by_cases below : dest <+: query
      · obtain ⟨suffix, rfl⟩ := below
        rw [if_pos (List.prefix_append dest suffix), List.drop_left]
        cases there : source (root ++ suffix) with
        | none =>
          rw [if_neg, Option.none_or]
          intro target
          cases (made _).mp target with
          | inl higher => exact above higher
          | inr inside =>
            obtain ⟨other, same, isDir⟩ := inside
            rw [← List.append_cancel_left same, there] at isDir
            cases isDir
        | some node =>
          cases node with
          | dir => rw [if_pos ((made _).mpr (.inr ⟨suffix, rfl, there⟩)), Option.some_or]
          | file data => exact absurd there (noFile suffix data rfl)
      · rw [if_neg below, if_neg]
        intro target
        cases (made _).mp target with
        | inl higher => exact above higher
        | inr inside =>
          obtain ⟨suffix, rfl, _⟩ := inside
          exact below (List.prefix_append dest suffix)

theorem mapped_injective (root dest : Rel) {first second : Rel} (one : root <+: first)
    (two : root <+: second) (same : mapped root dest first = mapped root dest second) :
    first = second := by
  obtain ⟨suffix, rfl⟩ := one
  obtain ⟨other, rfl⟩ := two
  rw [mapped_append, mapped_append] at same
  rw [List.append_cancel_left same]

theorem Snapshot.Of.lists (of : snapshot.Of source) (dir : source snapshot.root = some .dir) :
    Lists source snapshot.root
      (snapshot.dirs.insertionSort fun first second => spell first ≤ spell second)
      (sortedFiles snapshot.files) := by
  refine ⟨dir, ?_, ?_, ?_⟩
  · intro rel
    rw [List.mem_insertionSort]
    exact of.dirs rel
  · intro file
    rw [sortedFiles, List.mem_insertionSort]
    exact of.files file.1 file.2
  · have same := (List.perm_insertionSort
      (fun first second : Rel × Bytes => spell first.1 ≤ spell second.1) snapshot.files).map (·.1)
    exact same.nodup_iff.mpr of.filesOnce

theorem merge_free {view : View Text Bytes} (rooted : Rooted source)
    (lists : Lists source root dirs files)
    (free : ∀ query, query <+: dest → view query = none ∨ view query = some .dir)
    (noFile : ∀ item, root <+: item → source item = some .dir →
      ∀ data, view (mapped root dest item) ≠ some (.file data)) :
    ∀ target ∈ dirs.map (mapped root dest), ∀ query, query <+: target →
      view query = none ∨ view query = some .dir := by
  intro target member query within
  have reached := (lists.reach rooted dest query).mp ⟨target, member, within⟩
  cases reached with
  | inl above => exact free query above.1
  | inr below =>
    obtain ⟨suffix, rfl, isDir⟩ := below
    have other := noFile _ (List.prefix_append _ _) isDir
    rw [mapped_append] at other
    cases is : view (dest ++ suffix) with
    | none => exact .inl rfl
    | some node =>
      cases node with
      | dir => exact .inr rfl
      | file data => exact absurd is (other data)

structure FilesReady (view : View Text Bytes) (root dest : Rel) (files : List (Rel × Bytes)) :
    Prop where
  once : (files.map fun file => mapped root dest file.1).Nodup
  leaf : ∀ file ∈ files, view (mapped root dest file.1) ≠ some .dir
  parents : ∀ file ∈ files, ∀ upper, Above upper (mapped root dest file.1) →
    view upper = some .dir

theorem merge_ready {view : View Text Bytes} (rooted : Rooted source)
    (lists : Lists source root dirs files)
    (leaves : ∀ file ∈ files, view (mapped root dest file.1) ≠ some .dir) :
    FilesReady (madeDirs view (dirs.map (mapped root dest))) root dest files := by
  constructor
  · rw [← Function.comp_def (mapped root dest), ← List.map_map]
    apply lists.once.map_on
    intro first one second two same
    obtain ⟨file, inside, rfl⟩ := List.mem_map.mp one
    obtain ⟨other, within, rfl⟩ := List.mem_map.mp two
    exact mapped_injective root dest ((lists.hasFiles file).mp inside).1
      ((lists.hasFiles other).mp within).1 same
  · intro file member
    obtain ⟨⟨suffix, isSuffix⟩, there⟩ := (lists.hasFiles file).mp member
    unfold madeDirs
    rw [if_neg]
    · exact leaves file member
    · intro target
      rw [← isSuffix, mapped_append] at target
      rw [← isSuffix] at there
      cases (lists.reach rooted _ _).mp target with
      | inl above =>
        have length := above.length
        rw [List.length_append] at length
        omega
      | inr below =>
        obtain ⟨other, same, isDir⟩ := below
        rw [← List.append_cancel_left same, there] at isDir
        cases isDir
  · intro file member upper above
    obtain ⟨⟨suffix, isSuffix⟩, there⟩ := (lists.hasFiles file).mp member
    rw [← isSuffix, mapped_append] at above
    rw [← isSuffix] at there
    unfold madeDirs
    rw [if_pos]
    rw [lists.reach rooted]
    by_cases below : dest <+: upper
    · obtain ⟨middle, rfl⟩ := below
      refine .inr ⟨middle, rfl, ?_⟩
      cases Lists.upper root rooted
        ((List.prefix_append_right_inj dest).mp above.1) (by rw [there]; simp) with
      | inl same => exact absurd (by rw [same]) above.2
      | inr isDir => exact isDir
    · cases prefix_append_cases above.1 with
      | inl higher => exact .inl ⟨higher, fun same => below (by rw [same])⟩
      | inr inside =>
        obtain ⟨middle, _, rfl⟩ := inside
        exact absurd (List.prefix_append dest middle) below

theorem targets_proper (proper : dest ≠ []) : ∀ target ∈ dirs.map (mapped root dest),
    target ≠ [] := by
  intro target member
  obtain ⟨item, _, rfl⟩ := List.mem_map.mp member
  intro empty
  exact proper (List.append_eq_nil_iff.mp empty).1

theorem loops_arrive (inv : Inv setting state) (rooted : Rooted source)
    (lists : Lists source root dirs files) (proper : dest ≠ [])
    (free : ∀ query, query <+: dest →
      state.view setting query = none ∨ state.view setting query = some .dir)
    (noFile : ∀ item, root <+: item → source item = some .dir →
      ∀ data, state.view setting (mapped root dest item) ≠ some (.file data))
    (leaves : ∀ file ∈ files, state.view setting (mapped root dest file.1) ≠ some .dir) :
    ∃ after, (dirs.foldl (fun state dir => state.mkdirForTree setting (mapped root dest dir))
        state).writeFiles setting root dest files = (.ok (), after) ∧
      Arrives setting state after (MergedInto source root dest)
        (merge (state.view setting) source root dest) := by
  have made := mkdirs_arrives (dirs.map (mapped root dest)) inv (targets_proper proper)
    (merge_free rooted lists free noFile)
  have ready := merge_ready rooted lists leaves
  rw [List.foldl_map] at made
  generalize dirs.foldl (fun state dir => state.mkdirForTree setting (mapped root dest dir))
    state = between at made ⊢
  rw [← made.view] at ready
  obtain ⟨after, written, filledIn⟩ := writeFiles_arrives root dest files made.inv ready.once
    ready.leaf ready.parents
  refine ⟨after, written, filledIn.inv, ?_, ?_⟩
  · rw [filledIn.view, made.view, filled_merge lists rooted]
  · refine (made.records.trans filledIn.records).mono ?_
    rintro rel (dir | file)
    · obtain ⟨item, inside, rfl⟩ := List.mem_map.mp dir
      obtain ⟨within, there⟩ := (lists.hasDirs item).mp inside
      exact ⟨item, within, by rw [there]; simp, rfl⟩
    · obtain ⟨item, inside, rfl⟩ := List.mem_map.mp file
      obtain ⟨within, there⟩ := (lists.hasFiles item).mp inside
      exact ⟨item.1, within, by rw [there]; simp, rfl⟩

theorem filesBelow_of (of : snapshot.Of source) (dir : source snapshot.root = some .dir)
    (dest : Rel) :
    ∀ file ∈ snapshot.files, Above dest (mapped snapshot.root dest file.1) := by
  intro file member
  obtain ⟨⟨suffix, isSuffix⟩, there⟩ := (of.files file.1 file.2).mp member
  rw [← isSuffix, mapped_append]
  refine ⟨List.prefix_append _ _, ?_⟩
  intro same
  have empty : suffix = [] := by simpa using same.symm
  rw [← isSuffix, empty, List.append_nil, dir] at there
  cases there

theorem mergeTree_arrives (inv : Inv setting state) (rooted : Rooted source)
    (of : snapshot.Of source) (dir : source snapshot.root = some .dir) (proper : dest ≠ [])
    (options : CopyOptions) (clear : options.createDirs = true → Clear (state.view setting) dest)
    (noFile : ∀ item, snapshot.root <+: item → source item = some .dir →
      ∀ data, state.view setting (mapped snapshot.root dest item) ≠ some (.file data))
    (passed : state.preflightTreeDestination setting snapshot dest options = .ok ()) :
    ∃ counts after, state.mergeTree setting snapshot dest options = (.ok counts, after) ∧
      MayMerge (state.view setting) dest options.createDirs options.overwrite ∧
      Arrives setting state after (MergedInto source snapshot.root dest)
        (merge (state.view setting) source snapshot.root dest) := by
  have lists := of.lists dir
  obtain ⟨may, leaves⟩ := preflightTree_spec inv (filesBelow_of of dir dest) clear passed
  obtain ⟨after, done, arrives⟩ := loops_arrive inv rooted lists proper may.free noFile
    (fun file member => leaves file ((List.mem_insertionSort _).mp member))
  unfold State.mergeTree
  rw [passed]
  dsimp only
  rw [done]
  exact ⟨_, after, rfl, may, arrives⟩

end Merge

end MonoidKernel.Workspace
