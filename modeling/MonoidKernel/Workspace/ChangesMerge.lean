import MonoidKernel.Workspace.ChangesSteps
import MonoidKernel.Workspace.LocalCopy

set_option autoImplicit false

namespace MonoidKernel.Workspace

open Library (FileTree Node)
open Library.FileTree (Above View Rooted)
open Library.PlainTree (Clear write makeDir erase remove merge)

variable {setting : Setting} {state : State} {baseline : View Text Bytes}

section Loops

def Noted (state : State) (rel : Rel) : Prop :=
  state.originals.lookup rel ≠ none ∧ rel ∉ state.deletedFiles

variable {after : State}

theorem Noted.of_same {before : State} {rel : Rel} (noted : Noted before rel)
    (record : SameRecord before after rel) : Noted after rel := by
  unfold Noted
  rw [record.original, record.deleted]
  exact noted

theorem mkdirs_tracks (targets : List Rel) (tracks : Tracks setting state baseline)
    (proper : ∀ target ∈ targets, target ≠ [])
    (free : ∀ target ∈ targets, ∀ query, query <+: target →
      state.view setting query = none ∨ state.view setting query = some .dir)
    (makeable : ∀ target ∈ targets, Makeable setting baseline target)
    (parents : ∀ target ∈ targets, ParentsKept setting state baseline target) :
    Tracks setting (targets.foldl (fun state rel => state.mkdirForTree setting rel) state)
        baseline ∧
      ∀ target ∈ targets, Noted
        (targets.foldl (fun state rel => state.mkdirForTree setting rel) state) target := by
  induction targets generalizing state with
  | nil => exact ⟨tracks, by simp⟩
  | cons target rest ih =>
    have here := free target List.mem_cons_self
    have notRoot := proper target List.mem_cons_self
    have clear : Clear (state.view setting) target := fun upper above => here upper above.1
    have becomes := mkdirForTree_becomes tracks.inv notRoot clear (here target (List.prefix_refl _))
    have step := mkdirForTree_tracks tracks notRoot clear (here target (List.prefix_refl _))
      (makeable target List.mem_cons_self) (parents target List.mem_cons_self)
    have laterProper : ∀ later ∈ rest, later ≠ [] :=
      fun later member => proper later (List.mem_cons_of_mem _ member)
    have laterFree : ∀ later ∈ rest, ∀ query, query <+: later →
        (state.mkdirForTree setting target).view setting query = none ∨
          (state.mkdirForTree setting target).view setting query = some .dir := by
      intro later member query within
      rw [becomes.view]
      unfold makeDir
      split
      · exact .inr rfl
      · exact free later (List.mem_cons_of_mem _ member) query within
    have further := ih step.1 laterProper laterFree
      (fun later member => makeable later (List.mem_cons_of_mem _ member))
      (fun later member upper above nothing => by
        apply parents later (List.mem_cons_of_mem _ member) upper above
        rw [becomes.view] at nothing
        unfold makeDir at nothing
        split at nothing
        · cases nothing
        · exact nothing)
    have arrives := mkdirs_arrives rest step.1.inv laterProper laterFree
    rw [List.foldl_cons]
    refine ⟨further.1, ?_⟩
    intro made member
    by_cases later : made ∈ rest
    · exact further.2 made later
    · have same : made = target := (List.mem_cons.mp member).resolve_right later
      rw [same] at later ⊢
      exact Noted.of_same step.2 (arrives.records target later)

theorem writeFiles_tracks (root dest : Rel) (files : List (Rel × Bytes))
    (tracks : Tracks setting state baseline)
    (once : (files.map fun file => mapped root dest file.1).Nodup)
    (leaf : ∀ file ∈ files, state.view setting (mapped root dest file.1) ≠ some .dir)
    (parents : ∀ file ∈ files, ∀ upper, Above upper (mapped root dest file.1) →
      state.view setting upper = some .dir)
    (done : state.writeFiles setting root dest files = (.ok (), after)) :
    Tracks setting after baseline := by
  induction files generalizing state with
  | nil =>
    cases done
    exact tracks
  | cons file rest ih =>
    rw [List.map_cons, List.nodup_cons] at once
    have here := parents file List.mem_cons_self
    have isLeaf := leaf file List.mem_cons_self
    have clear : Clear (state.view setting) (mapped root dest file.1) :=
      fun upper above => .inr (here upper above)
    obtain ⟨next, written, step⟩ := writeFile_succeeds tracks.inv file.2 isLeaf clear
    have isNext := writeFile_written written
    have nextTracks := written_tracks tracks file.2 clear isLeaf (by
      intro upper above nothing
      rw [here upper above] at nothing
      cases nothing)
    rw [← isNext] at nextTracks
    have same := written_elsewhere (fun upper above => here upper above) step.view
    have other : ∀ later ∈ rest, mapped root dest later.1 ≠ mapped root dest file.1 := by
      intro later member equal
      exact once.1 (List.mem_map.mpr ⟨later, member, equal⟩)
    unfold State.writeFiles at done
    rw [written] at done
    apply ih nextTracks once.2 _ _ done
    · intro later member
      rw [same _ (other later member)]
      exact leaf later (List.mem_cons_of_mem _ member)
    · intro later member upper above
      have dir := parents later (List.mem_cons_of_mem _ member) upper above
      rw [same upper ?_]
      · exact dir
      · intro equal
        rw [equal] at dir
        exact isLeaf dir

variable {source : View Text Bytes} {root dest : Rel} {dirs : List Rel} {files : List (Rel × Bytes)}

theorem loops_track (tracks : Tracks setting state baseline) (rooted : Rooted source)
    (lists : Lists source root dirs files) (proper : dest ≠ []) (free : ∀ query, query <+: dest →
      state.view setting query = none ∨ state.view setting query = some .dir)
    (noFile : ∀ item, root <+: item → source item = some .dir →
      ∀ data, state.view setting (mapped root dest item) ≠ some (.file data))
    (leaves : ∀ file ∈ files, state.view setting (mapped root dest file.1) ≠ some .dir)
    (makeable : ∀ item, root <+: item → source item = some .dir →
      Makeable setting baseline (mapped root dest item))
    (parents : ParentsKept setting state baseline dest)
    (done : (dirs.foldl (fun state dir => state.mkdirForTree setting (mapped root dest dir))
      state).writeFiles setting root dest files = (.ok (), after)) :
    Tracks setting after baseline ∧ ∀ item, root <+: item → source item = some .dir →
      Noted after (mapped root dest item) := by
  have isFree := merge_free rooted lists free noFile
  have made := mkdirs_arrives (dirs.map (mapped root dest)) tracks.inv (targets_proper proper)
    isFree
  have ready := merge_ready rooted lists leaves
  have noted := mkdirs_tracks (dirs.map (mapped root dest)) tracks (targets_proper proper) isFree
    (fun target member => by
      obtain ⟨item, inside, rfl⟩ := List.mem_map.mp member
      obtain ⟨within, there⟩ := (lists.hasDirs item).mp inside
      exact makeable item within there)
    (fun target member upper above nothing => by
      -- A parent is above the destination, or a directory of the source as well.
      cases (lists.reach rooted dest upper).mp ⟨target, member, above.1⟩ with
      | inl higher => exact parents upper higher nothing
      | inr below =>
        obtain ⟨suffix, rfl, isDir⟩ := below
        have known := (makeable _ (List.prefix_append _ _) isDir).2
        rw [mapped_append] at known
        exact known)
  rw [List.foldl_map] at made noted
  generalize dirs.foldl (fun state dir => state.mkdirForTree setting (mapped root dest dir))
    state = between at made noted done
  rw [← made.view] at ready
  obtain ⟨last, written, filledIn⟩ := writeFiles_arrives root dest files made.inv ready.once
    ready.leaf ready.parents
  have same : after = last := by
    rw [done] at written
    cases written
    rfl
  refine ⟨writeFiles_tracks root dest files noted.1 ready.once ready.leaf ready.parents done, ?_⟩
  intro item within there
  have member := (lists.hasDirs item).mpr ⟨within, there⟩
  rw [same]
  apply (noted.2 _ (List.mem_map.mpr ⟨item, member, rfl⟩)).of_same
  apply filledIn.records
  intro isFile
  obtain ⟨file, inside, equal⟩ := List.mem_map.mp isFile
  obtain ⟨fileWithin, isFile⟩ := (lists.hasFiles file).mp inside
  rw [mapped_injective root dest fileWithin within equal, there] at isFile
  cases isFile

end Loops

section Supports

variable {after : State}

theorem Support.of_same {before : State} {rel : Rel} (support : Support setting before rel)
    (view : after.view setting rel = before.view setting rel)
    (record : SameRecord before after rel) : Support setting after rel := by
  unfold Support Made at support ⊢
  rw [view, record.original, record.deleted]
  exact support

theorem Made.of_dir {before : State} {rel : Rel} (made : Made setting before rel)
    (view : after.view setting rel = some .dir) (record : SameRecord before after rel) :
    Made setting after rel := by
  obtain ⟨_, original, kept, nothing⟩ := made
  exact ⟨view, by rw [record.original]; exact original, by rw [record.deleted]; exact kept,
    nothing⟩

theorem Tracks.made_of_noted (tracks : Tracks setting state baseline) {rel : Rel}
    (view : state.view setting rel = some .dir) (noted : Noted state rel)
    (makeable : Makeable setting baseline rel) (nothing : setting.base.node rel = none) :
    Made setting state rel := by
  obtain ⟨before, record⟩ := Option.ne_none_iff_exists'.mp noted.1
  have known := (tracks.records rel).recorded before record
  rw [makeable.1] at known
  rw [known] at record
  exact ⟨view, record, noted.2, nothing⟩

-- Above what goes, each directory that the baseline does not have keeps something else below it
-- that is reported, or is reported itself.
def LeftSupported (setting : Setting) (state : State) (baseline : View Text Bytes) (root : Rel) :
    Prop :=
  ∀ upper, Above upper root → baseline upper ≠ some .dir →
    ∃ lower, upper <+: lower ∧ ¬ root <+: lower ∧ Support setting state lower

theorem supported_removed {root : Rel} (supported : Supported setting state baseline)
    (arrives : Arrives setting state after (root <+: ·) (remove (state.view setting) root))
    (left : LeftSupported setting state baseline root) : Supported setting after baseline := by
  have outside : ∀ rel, ¬ root <+: rel → after.view setting rel = state.view setting rel := by
    intro rel notWithin
    rw [arrives.view]
    exact if_neg notWithin
  have kept : ∀ lower, ¬ root <+: lower → Support setting state lower →
      Support setting after lower :=
    fun lower notWithin support => support.of_same (outside lower notWithin)
      (arrives.records lower notWithin)
  intro rel dir other
  have notWithin : ¬ root <+: rel := by
    intro within
    rw [arrives.view] at dir
    unfold remove at dir
    rw [if_pos within] at dir
    cases dir
  rw [outside rel notWithin] at dir
  obtain ⟨lower, below, support⟩ := supported rel dir other
  by_cases gone : root <+: lower
  · cases List.prefix_or_prefix_of_prefix below gone with
    | inr under => exact absurd under notWithin
    | inl above =>
      have notRoot : rel ≠ root := by
        intro same
        rw [same] at notWithin
        exact notWithin (List.prefix_refl _)
      obtain ⟨another, under, apart, supports⟩ := left rel ⟨above, notRoot⟩ other
      exact ⟨another, under, kept another apart supports⟩
  · exact ⟨lower, below, kept lower gone support⟩

end Supports

section Copy

variable {root dest : Rel} {options : CopyOptions} {view : View Text Bytes}

def Reports (setting : Setting) (view : View Text Bytes) (root dest item : Rel) : Prop :=
  (∃ data, view item = some (.file data)) ∨
    view item = some .dir ∧ setting.base.node (mapped root dest item) = none

def CopyReports (setting : Setting) (baseline view : View Text Bytes) (root dest : Rel)
    (options : CopyOptions) : Prop :=
  ∀ item, root <+: item → view item ≠ none →
    cleared options view dest (mapped root dest item) = none →
    baseline (mapped root dest item) ≠ some .dir →
      ∃ lower, item <+: lower ∧ Reports setting view root dest lower

structure CopyTracks (setting : Setting) (state after : State) (baseline : View Text Bytes)
    (root dest : Rel) : Prop where
  tracks : Tracks setting after baseline
  makeable : ∀ item, root <+: item → state.view setting item = some .dir →
    Makeable setting baseline (mapped root dest item)
  noted : ∀ item, root <+: item → state.view setting item = some .dir →
    Noted after (mapped root dest item)

variable {after : State}

theorem mapped_within {item lower : Rel} (within : root <+: item) (below : item <+: lower) :
    mapped root dest item <+: mapped root dest lower := by
  obtain ⟨suffix, rfl⟩ := within
  obtain ⟨more, rfl⟩ := below
  rw [mapped_append, List.append_assoc, mapped_append, ← List.append_assoc]
  exact List.prefix_append _ _

theorem dest_mapped (root dest item : Rel) : dest <+: mapped root dest item :=
  List.prefix_append _ _

theorem Reports.support (copyTracks : CopyTracks setting state after baseline root dest)
    (rooted : Rooted (state.view setting))
    (copied : PlainCopy options (state.view setting) root dest (after.view setting)) {item : Rel}
    (within : root <+: item) (reports : Reports setting (state.view setting) root dest item) :
    Support setting after (mapped root dest item) := by
  cases reports with
  | inl file =>
    obtain ⟨data, isFile⟩ := file
    have there := copied.at_mapped rooted within (by rw [isFile]; simp)
    exact .inl ⟨data, by rw [there, isFile]⟩
  | inr made =>
    have there := copied.at_mapped rooted within (by rw [made.1]; simp)
    exact .inr (copyTracks.tracks.made_of_noted (by rw [there, made.1])
      (copyTracks.noted item within made.1) (copyTracks.makeable item within made.1) made.2)

theorem PlainCopy.above (copied : PlainCopy options view root dest (after.view setting))
    {upper : Rel} (above : Above upper dest) : after.view setting upper = some .dir := by
  unfold PlainCopy at copied
  split at copied
  · exact absurd copied id
  · rw [copied.2]
    unfold write
    rw [if_neg above.2, if_pos above]
  · rw [copied.2.2]
    unfold merge
    rw [if_pos above]

theorem cleared_outside {rel : Rel} (outside : ¬ dest <+: rel) :
    cleared options view dest rel = view rel := by
  unfold cleared
  split
  · exact if_neg outside
  · rfl

theorem above_outside {upper : Rel} (above : Above upper dest) : ¬ dest <+: upper := by
  intro within
  have length := above.length
  have shorter := within.length_le
  omega

variable {copy : View Text Bytes}

theorem PlainCopy.clear (copied : PlainCopy options view root dest copy) :
    Clear view dest := by
  unfold PlainCopy at copied
  split at copied
  · exact absurd copied id
  · exact copied.1.clear
  · intro upper above
    have free := copied.1.free upper above.1
    rw [cleared_outside (above_outside above)] at free
    exact free

theorem PlainCopy.kinds (copied : PlainCopy options view root dest copy) (rooted : Rooted view) :
    SameKinds view (cleared options view dest) root dest := by
  unfold PlainCopy at copied
  split at copied
  · exact absurd copied id
  next data isFile =>
    intro item node other within is found
    have same : item = root := by
      by_contra deeper
      rw [rooted.below ⟨within, Ne.symm deeper⟩ (by rw [isFile]; simp)] at is
      cases is
    rw [same, isFile] at is
    cases is
    have target : mapped root dest item = dest := by simp [same, mapped]
    have keeps : cleared options view dest = view := by
      unfold cleared
      rw [if_neg fun replaced => copied.1.leaf replaced.2]
    rw [target, keeps] at found
    cases other with
    | file bytes => rfl
    | dir => exact absurd found copied.1.leaf
  · exact copied.2.1

theorem PlainCopy.start (copied : PlainCopy options view root dest copy) {rel : Rel}
    (notMerged : ¬ MergedInto view root dest rel) (notAbove : ¬ Above rel dest) :
    copy rel = cleared options view dest rel := by
  by_cases replaced : options.replaces = true ∧ view dest = some .dir ∧ dest <+: rel
  · rw [copied.replaced replaced.1 replaced.2.1 replaced.2.2 notMerged]
    unfold cleared
    rw [if_pos ⟨replaced.1, replaced.2.1⟩]
    exact (if_pos replaced.2.2).symm
  · have untouched : ¬ Touches options view root dest rel := by
      rintro (inside | gone)
      · exact notMerged inside
      · exact replaced gone
    rw [copied.elsewhere untouched notAbove]
    unfold cleared
    split
    next clear =>
      unfold remove
      rw [if_neg fun within => replaced ⟨clear.1, clear.2, within⟩]
    · rfl

theorem support_kept (copyTracks : CopyTracks setting state after baseline root dest)
    (rooted : Rooted (state.view setting))
    (copied : PlainCopy options (state.view setting) root dest (after.view setting))
    (records : SameRecords state after (Touches options (state.view setting) root dest))
    {lower : Rel} (support : Support setting state lower)
    (kept : ¬ (options.replaces = true ∧ state.view setting dest = some .dir ∧ dest <+: lower)) :
    Support setting after lower := by
  by_cases merged : MergedInto (state.view setting) root dest lower
  · obtain ⟨item, within, there, rfl⟩ := merged
    apply Reports.support copyTracks rooted copied within
    obtain ⟨node, is⟩ := Option.ne_none_iff_exists'.mp there
    cases node with
    | file data => exact .inl ⟨data, is⟩
    | dir =>
      refine .inr ⟨is, ?_⟩
      cases support with
      | inr made => exact made.2.2.2
      | inl file =>
        -- A directory does not come to a file.
        obtain ⟨data, isFile⟩ := file
        have same : cleared options (state.view setting) dest = state.view setting := by
          unfold cleared
          rw [if_neg fun replaced => kept ⟨replaced.1, replaced.2, dest_mapped root dest item⟩]
        have kinds := copied.kinds rooted item .dir (.file data) within is (by rw [same, isFile])
        cases kinds
  · have untouched : ¬ Touches options (state.view setting) root dest lower := by
      rintro (inside | replaced)
      · exact merged inside
      · exact kept replaced
    have record := records lower untouched
    by_cases above : Above lower dest
    · cases support with
      | inr made => exact .inr (made.of_dir (copied.above above) record)
      | inl file =>
        obtain ⟨data, isFile⟩ := file
        have free := copied.clear lower above
        rw [isFile] at free
        simp at free
    · exact support.of_same (copied.elsewhere untouched above) record

theorem supported_copied (supported : Supported setting state baseline)
    (copyTracks : CopyTracks setting state after baseline root dest)
    (rooted : Rooted (state.view setting)) (baseRooted : Rooted baseline)
    (there : state.view setting root ≠ none)
    (copied : PlainCopy options (state.view setting) root dest (after.view setting))
    (records : SameRecords state after (Touches options (state.view setting) root dest))
    (reports : CopyReports setting baseline (state.view setting) root dest options) :
    Supported setting after baseline := by
  have made : ∀ item, root <+: item → state.view setting item ≠ none →
      cleared options (state.view setting) dest (mapped root dest item) = none →
      baseline (mapped root dest item) ≠ some .dir →
        ∃ lower, mapped root dest item <+: lower ∧ Support setting after lower := by
    intro item within is new other
    obtain ⟨lower, below, reported⟩ := reports item within is new other
    exact ⟨_, mapped_within within below,
      reported.support copyTracks rooted copied (within.trans below)⟩
  have target : mapped root dest root = dest := by simp [mapped]
  intro rel dir other
  -- Where the tree that the copy starts from has the directory, what reports it is kept.
  have old : cleared options (state.view setting) dest rel = some .dir →
      ∃ lower, rel <+: lower ∧ Support setting after lower := by
    intro start
    have before : state.view setting rel = some .dir := by
      unfold cleared at start
      split at start
      · unfold remove at start
        split at start
        · cases start
        · exact start
      · exact start
    obtain ⟨lower, below, support⟩ := supported rel before other
    by_cases gone : options.replaces = true ∧ state.view setting dest = some .dir ∧ dest <+: lower
    · have nothing : cleared options (state.view setting) dest dest = none := by
        unfold cleared
        rw [if_pos ⟨gone.1, gone.2.1⟩]
        exact if_pos (List.prefix_refl _)
      have above : rel <+: dest := by
        cases List.prefix_or_prefix_of_prefix below gone.2.2 with
        | inl above => exact above
        | inr inside =>
          unfold cleared at start
          rw [if_pos ⟨gone.1, gone.2.1⟩] at start
          unfold remove at start
          rw [if_pos inside] at start
          cases start
      have destNew : baseline dest ≠ some .dir := by
        intro was
        by_cases same : rel = dest
        · rw [same] at other
          exact other was
        · exact other (baseRooted.above rel dest ⟨above, same⟩ (by rw [was]; simp))
      have found := made root (List.prefix_refl _) there (by rw [target]; exact nothing)
        (by rw [target]; exact destNew)
      rw [target] at found
      obtain ⟨lower, under, supports⟩ := found
      exact ⟨lower, above.trans under, supports⟩
    · exact ⟨lower, below, support_kept copyTracks rooted copied records support gone⟩
  cases start : cleared options (state.view setting) dest rel with
  | some node =>
    cases node with
    | dir => exact old start
    | file data =>
      by_cases above : Above rel dest
      · have free := copied.clear rel above
        have same : cleared options (state.view setting) dest rel = state.view setting rel :=
          cleared_outside (above_outside above)
        rw [← same, start] at free
        simp at free
      · by_cases merged : MergedInto (state.view setting) root dest rel
        · obtain ⟨item, within, is, rfl⟩ := merged
          rw [copied.at_mapped rooted within is] at dir
          have kinds := copied.kinds rooted item .dir (.file data) within dir start
          cases kinds
        · rw [copied.start merged above, start] at dir
          cases dir
  | none =>
    by_cases above : Above rel dest
    next =>
      -- The destination is new, as what is above it is.
      have missing : state.view setting rel = none := by
        rw [← start]
        exact (cleared_outside (above_outside above)).symm
      have nothing : state.view setting dest = none :=
        rooted.below above (by rw [missing]; simp)
      have destNew : baseline dest ≠ some .dir := by
        intro was
        exact other (baseRooted.above rel dest above (by rw [was]; simp))
      have same : cleared options (state.view setting) dest dest = none := by
        unfold cleared
        rw [if_neg fun replaced => by rw [nothing] at replaced; cases replaced.2]
        exact nothing
      have found := made root (List.prefix_refl _) there (by rw [target]; exact same)
        (by rw [target]; exact destNew)
      rw [target] at found
      obtain ⟨lower, under, supports⟩ := found
      exact ⟨lower, above.1.trans under, supports⟩
    · by_cases merged : MergedInto (state.view setting) root dest rel
      · obtain ⟨item, within, is, rfl⟩ := merged
        exact made item within is start other
      · rw [copied.start merged above, start] at dir
        cases dir

def CopyKept (setting : Setting) (state : State) (baseline : View Text Bytes)
    (snapshot : Snapshot) (dest : Rel) (options : CopyOptions) : Prop :=
  match snapshot.kind with
  | .file => ParentsKept setting state baseline dest
  | .dir =>
    (∀ item, snapshot.root <+: item → state.view setting item = some .dir →
      Makeable setting baseline (mapped snapshot.root dest item)) ∧
      if options.replaces = true ∧ state.view setting dest = some .dir then
        ∀ rel, dest <+: rel → Forgettable setting state baseline rel
      else ParentsKept setting state baseline dest

variable {snapshot : Snapshot}

theorem mergeTree_tracks {source : View Text Bytes} (tracks : Tracks setting state baseline)
    (rooted : Rooted source) (of : snapshot.Of source) (dir : source snapshot.root = some .dir)
    (proper : dest ≠ [])
    (clear : options.createDirs = true → Clear (state.view setting) dest)
    (noFile : ∀ item, snapshot.root <+: item → source item = some .dir →
      ∀ data, state.view setting (mapped snapshot.root dest item) ≠ some (.file data))
    (makeable : ∀ item, snapshot.root <+: item → source item = some .dir →
      Makeable setting baseline (mapped snapshot.root dest item))
    (parents : ParentsKept setting state baseline dest) {counts : Counts}
    (done : state.mergeTree setting snapshot dest options = (.ok counts, after)) :
    Tracks setting after baseline ∧ ∀ item, snapshot.root <+: item → source item = some .dir →
      Noted after (mapped snapshot.root dest item) := by
  unfold State.mergeTree at done
  cases passed : state.preflightTreeDestination setting snapshot dest options with
  | error error =>
    rw [passed] at done
    cases done
  | ok nothing =>
    rw [passed] at done
    dsimp only at done
    obtain ⟨may, leaves⟩ := preflightTree_spec tracks.inv (filesBelow_of of dir dest) clear passed
    have isLeaf : ∀ file ∈ sortedFiles snapshot.files,
        state.view setting (mapped snapshot.root dest file.1) ≠ some .dir :=
      fun file member => leaves file ((List.mem_insertionSort _).mp member)
    obtain ⟨last, written, _⟩ := loops_arrive tracks.inv rooted (of.lists dir) proper may.free
      noFile isLeaf
    have kept := loops_track tracks rooted (of.lists dir) proper may.free noFile isLeaf makeable
      parents written
    rw [written] at done
    cases done
    exact kept

theorem copyTree_tracks (tracks : Tracks setting state baseline)
    (of : snapshot.Of (state.view setting)) (proper : dest ≠ [])
    (fits : CopyAccepted setting state snapshot dest options →
      CopyFits setting state snapshot dest options)
    (kept : CopyKept setting state baseline snapshot dest options) {counts : Counts}
    (done : state.copyTree setting snapshot dest options = (.ok counts, after)) :
    CopyTracks setting state after baseline snapshot.root dest := by
  have kind := of.kind
  unfold State.copyTree at done
  unfold CopyAccepted CopyFits at fits
  unfold CopyKept at kept
  cases isKind : snapshot.kind with
  | file =>
    rw [isKind] at kind fits kept
    obtain ⟨data, there, files⟩ := kind
    rw [isKind, files] at done
    dsimp only at done
    have noDir : ∀ item, snapshot.root <+: item → state.view setting item ≠ some .dir := by
      intro item within isDir
      by_cases same : item = snapshot.root
      · rw [same, there] at isDir
        cases isDir
      · rw [tracks.inv.rooted_view.below ⟨within, Ne.symm same⟩ (by rw [there]; simp)] at isDir
        cases isDir
    cases writeFile_arrives tracks.inv dest data options.createDirs options.overwrite
        (fits trivial) with
    | inl failed =>
      obtain ⟨error, failed⟩ := failed
      rw [failed] at done
      cases done
    | inr written =>
      obtain ⟨next, wrote, may, _⟩ := written
      rw [wrote] at done
      cases done
      have isAfter := writeFile_written wrote
      rw [isAfter]
      exact ⟨written_tracks tracks data may.clear may.leaf kept,
        fun item within isDir => absurd isDir (noDir item within),
        fun item within isDir => absurd isDir (noDir item within)⟩
  | dir =>
    rw [isKind] at kind fits kept done
    dsimp only at kind fits kept done
    obtain ⟨makeable, kept⟩ := kept
    have same : options.replaces = true ∧ state.effectiveKind setting dest = some .dir ↔
        options.replaces = true ∧ state.view setting dest = some .dir := by
      rw [(kind_view state dest).2]
    split at done
    · cases done
    next known =>
      simp only [same] at done
      by_cases replaced : options.replaces = true ∧ state.view setting dest = some .dir
      · simp only [if_pos replaced] at fits kept done
        unfold State.deleteCollected at done
        cases collected : state.collectRel setting dest
            { options.limits with recursive := true } with
        | error error =>
          rw [collected] at done
          cases done
        | ok old =>
          obtain ⟨isDest, oldOf⟩ := collectRel_spec tracks.inv proper _ collected
          have fit := fits ⟨known, old, collected⟩
          have deleted := deleteSnapshot_arrives tracks.inv oldOf (by rw [isDest]; exact fit)
          have between := deleteSnapshot_tracks tracks oldOf (by rw [isDest]; exact fit)
            (by rw [isDest]; exact kept)
          rw [isDest] at deleted
          rw [collected] at done
          dsimp only at done
          generalize state.deleteSnapshot old = middle at deleted between done
          have dirs : ∀ upper, Above upper dest → middle.view setting upper = some .dir := by
            intro upper above
            rw [deleted.view]
            unfold remove
            rw [if_neg (above_outside above)]
            exact tracks.inv.rooted_view.above upper dest above (by rw [replaced.2]; simp)
          have merged := mergeTree_tracks between tracks.inv.rooted_view of kind proper
            (fun _ upper above => .inr (dirs upper above))
            (fun item within _ data => by
              rw [deleted.view]
              unfold remove
              rw [if_pos (dest_mapped _ _ _)]
              simp)
            makeable
            (fun upper above nothing => by
              rw [dirs upper above] at nothing
              cases nothing)
            done
          exact ⟨merged.1, makeable, merged.2⟩
      · simp only [if_neg replaced] at fits kept done
        cases passed : state.preflightTreeDestination setting snapshot dest options with
        | error error =>
          unfold State.mergeTree at done
          rw [passed] at done
          cases done
        | ok nothing =>
          obtain ⟨clear, noFile⟩ := fits ⟨known, passed⟩
          have merged := mergeTree_tracks tracks tracks.inv.rooted_view of kind proper clear noFile
            makeable kept done
          exact ⟨merged.1, makeable, merged.2⟩

end Copy

end MonoidKernel.Workspace
