import MonoidKernel.Workspace.ChangesExact

set_option autoImplicit false

namespace MonoidKernel.Workspace

open Library (FileTree Node)
open Library.FileTree (Above View Rooted)
open Library.PlainTree (Clear write makeDir erase)

variable {setting : Setting} {state : State} {baseline : View Text Bytes} {rel : Rel}

section Records

theorem recordOriginal_here (state : State) (rel : Rel) (current : Option Bytes) :
    ∃ before, (state.recordOriginal rel current).originals.lookup rel = some before ∧
      (state.originals.lookup rel = some before ∨
        state.originals.lookup rel = none ∧ before = current) := by
  unfold State.recordOriginal
  split
  next inside =>
    obtain ⟨before, found⟩ := Option.isSome_iff_exists.mp (AList.lookup_isSome.mpr inside)
    exact ⟨before, found, .inl found⟩
  next outside =>
    exact ⟨current, by simp, .inr ⟨AList.lookup_eq_none.mpr outside, rfl⟩⟩

structure SameMarks (before after : State) (rel : Rel) : Prop where
  overlay : rel ∈ after.overlay ↔ rel ∈ before.overlay
  overlayDirs : rel ∈ after.overlayDirs ↔ rel ∈ before.overlayDirs
  deletedDirs : rel ∈ after.deletedDirs ↔ rel ∈ before.deletedDirs

theorem TracksAt.of_same {before after : State} (at_ : TracksAt setting before baseline rel)
    (view : after.view setting rel = before.view setting rel) (marks : SameMarks before after rel)
    (records : SameRecord before after rel) : TracksAt setting after baseline rel := by
  obtain ⟨original, _, deleted⟩ := records
  obtain ⟨overlay, overlayDirs, deletedDirs⟩ := marks
  constructor
  · rw [overlay, deleted, deletedDirs]; exact at_.overlayKept
  · rw [overlayDirs, deletedDirs]; exact at_.dirsKept
  · rw [original, overlay, overlayDirs, deleted, deletedDirs]; exact at_.marked
  · rw [original]; exact at_.recorded
  · rw [original, view]; exact at_.untouched
  · rw [view, deleted]; exact at_.replacedFile
  · rw [view, original, deleted]; exact at_.sameDir
  · rw [view, original, deleted]; exact at_.gone

theorem TracksAt.implied {before after : State} (at_ : TracksAt setting before baseline rel)
    (free : before.view setting rel = none ∨ before.view setting rel = some .dir)
    (dir : after.view setting rel = some .dir)
    (known : before.view setting rel = none → baseline rel = some .dir →
      setting.base.node rel ≠ none)
    (noFile : rel ∉ after.overlay) (overlayDirs : rel ∈ after.overlayDirs)
    (deletedDirs : rel ∉ after.deletedDirs) (records : SameRecord before after rel) :
    TracksAt setting after baseline rel := by
  obtain ⟨original, _, deleted⟩ := records
  constructor
  · exact fun inside => absurd inside noFile
  · exact fun _ => deletedDirs
  · exact fun _ => .inr (.inl overlayDirs)
  · rw [original]; exact at_.recorded
  · rw [original, dir]
    intro record
    cases at_.untouched record with
    | inr implied => exact .inr ⟨rfl, implied.2⟩
    | inl same =>
      rw [← same]
      cases free with
      | inl nothing => exact .inr ⟨rfl, nothing⟩
      | inr there => exact .inl there.symm
  · intro _ file
    rw [deleted]
    cases free with
    | inr there => exact at_.replacedFile there file
    | inl nothing =>
      have record : before.originals.lookup rel ≠ none := by
        intro absent
        cases at_.untouched absent with
        | inl same =>
          rw [← same, nothing] at file
          exact file rfl
        | inr implied =>
          rw [implied.2] at file
          exact file rfl
      rw [at_.gone nothing record]
      intro wasDir
      rw [wasDir] at file
      exact file rfl
  · intro _ wasDir record
    rw [deleted]
    rw [original] at record
    cases free with
    | inl nothing => exact .inr (known nothing wasDir)
    | inr there => exact at_.sameDir there wasDir record
  · intro nothing
    rw [dir] at nothing
    cases nothing

end Records

section Write

def ParentsKept (setting : Setting) (state : State) (baseline : View Text Bytes) (rel : Rel) :
    Prop :=
  ∀ upper, Above upper rel → state.view setting upper = none → baseline upper = some .dir →
    setting.base.node upper ≠ none

def State.written (state : State) (rel : Rel) (data : Bytes) (current : Option Bytes) : State :=
  { (state.recordOriginal rel current).clearDeleteMarkerFor rel with
      overlay := ((state.recordOriginal rel current).clearDeleteMarkerFor rel).overlay.insert
        rel data }.ensureOverlayParentDirs rel

theorem writeFile_written {data : Bytes} {createDirs overwrite : Bool} {after : State}
    (done : state.writeFile setting rel data createDirs overwrite = (.ok (), after)) :
    after = state.written rel data (state.readOptionalBytes setting rel) := by
  unfold State.writeFile at done
  split at done
  · cases done
  · dsimp only at done
    split at done
    · cases done
    · split at done
      · cases done
      · cases done
        rfl

theorem written_tracks (tracks : Tracks setting state baseline) (data : Bytes)
    (clear : Clear (state.view setting) rel) (leaf : state.view setting rel ≠ some .dir)
    (parents : ParentsKept setting state baseline rel) :
    Tracks setting (state.written rel data (state.readOptionalBytes setting rel)) baseline := by
  have becomes := written_becomes tracks.inv data (state.readOptionalBytes setting rel) clear leaf
  have here := recordOriginal_here state rel (state.readOptionalBytes setting rel)
  change Becomes setting state (state.written rel data (state.readOptionalBytes setting rel)) rel
    _ at becomes
  generalize isAfter : state.written rel data (state.readOptionalBytes setting rel) = after
    at becomes ⊢
  have overlay : ∀ query, query ∈ after.overlay ↔ query = rel ∨ query ∈ state.overlay := by
    intro query
    rw [← isAfter]
    simp [State.written, State.ensureOverlayParentDirs, State.clearDeleteMarkerFor]
  have overlayDirs : ∀ query, query ∈ after.overlayDirs ↔
      (Above query rel ∧ query ≠ []) ∨ query ∈ state.overlayDirs := by
    intro query
    rw [← isAfter]
    simp [State.written, State.ensureOverlayParentDirs, State.clearDeleteMarkerFor]
  have deletedDirs : ∀ query, query ∈ after.deletedDirs ↔
      query ∈ state.deletedDirs ∧ query ≠ rel ∧ ¬ (Above query rel ∧ query ≠ []) := by
    intro query
    rw [← isAfter]
    simp [State.written, State.ensureOverlayParentDirs, State.clearDeleteMarkerFor]
    tauto
  have originals : after.originals.lookup rel =
      (state.recordOriginal rel (state.readOptionalBytes setting rel)).originals.lookup rel := by
    rw [← isAfter]
    rfl
  have deletedHere : rel ∉ after.deletedFiles := by
    rw [← isAfter]
    simp [State.written, State.ensureOverlayParentDirs, State.clearDeleteMarkerFor]
  have view : ∀ query, after.view setting query = if query = rel then some (.file data)
      else if Above query rel then some .dir else state.view setting query := by
    intro query
    rw [becomes.view]
    rfl
  have at_ := tracks.records rel
  refine ⟨becomes.inv, tracks.rooted, ?_⟩
  intro query
  by_cases same : query = rel
  · have isFile : after.view setting rel = some (.file data) := by rw [view, if_pos rfl]
    rw [same]
    constructor
    · intro _
      refine ⟨deletedHere, ?_⟩
      rw [deletedDirs]
      exact fun inside => inside.2.1 rfl
    · intro _ inside
      exact ((deletedDirs rel).mp inside).2.1 rfl
    · exact fun _ => .inl ((overlay rel).mpr (.inl rfl))
    · intro before record
      obtain ⟨was, found, either⟩ := here
      rw [originals, found, Option.some.injEq] at record
      rw [← record]
      cases either with
      | inl old => exact at_.recorded was old
      | inr new =>
        have bytes := bytes_view state rel leaf
        have unchanged := (at_.untouched new.1).resolve_right fun dir => leaf dir.1
        rw [new.2, ← unchanged, ← bytes]
        cases state.readOptionalBytes setting rel with
        | none => rfl
        | some data => rfl
    · obtain ⟨was, found, _⟩ := here
      intro absent
      rw [originals, found] at absent
      cases absent
    · intro dir; rw [isFile] at dir; cases dir
    · intro dir; rw [isFile] at dir; cases dir
    · intro nothing; rw [isFile] at nothing; cases nothing
  · have record := becomes.records query same
    by_cases above : Above query rel ∧ query ≠ []
    · have free := clear query above.1
      apply (tracks.records query).implied free
      · rw [view, if_neg same, if_pos above.1]
      · exact parents query above.1
      · rw [overlay]
        rintro (isRel | inside)
        · exact same isRel
        · obtain ⟨bytes, there⟩ := tracks.inv.overlay_view inside
          rw [there] at free
          simp at free
      · exact (overlayDirs query).mpr (.inl above)
      · exact fun inside => ((deletedDirs query).mp inside).2.2 above
      · exact record
    · apply (tracks.records query).of_same
      · rw [view, if_neg same]
        split
        next isAbove =>
          have root : query = [] := by
            by_contra proper
            exact above ⟨isAbove, proper⟩
          rw [root]
          exact tracks.inv.rooted_view.root.symm
        · rfl
      · refine ⟨?_, ?_, ?_⟩
        · rw [overlay]; simp [same]
        · rw [overlayDirs]; simp [above]
        · rw [deletedDirs]; simp [above, same]
      · exact record

end Write

section Make

-- A directory may be made where the baseline has no file, and where it has a directory only when
-- the base has something there.
def Makeable (setting : Setting) (baseline : View Text Bytes) (rel : Rel) : Prop :=
  bytesOf (baseline rel) = none ∧ (baseline rel = some .dir → setting.base.node rel ≠ none)

theorem mkdirForTree_tracks (tracks : Tracks setting state baseline) (proper : rel ≠ [])
    (clear : Clear (state.view setting) rel)
    (free : state.view setting rel = none ∨ state.view setting rel = some .dir)
    (makeable : Makeable setting baseline rel) (parents : ParentsKept setting state baseline rel) :
    Tracks setting (state.mkdirForTree setting rel) baseline ∧
      (state.mkdirForTree setting rel).originals.lookup rel ≠ none ∧
      rel ∉ (state.mkdirForTree setting rel).deletedFiles := by
  have becomes := mkdirForTree_becomes tracks.inv proper clear free
  have here := recordOriginal_here state rel none
  have overlay := mkdirForTree_overlay setting state rel
  have overlayDirs := mkdirForTree_overlayDirs setting state proper
  have deletedDirs := mkdirForTree_deletedDirs setting state proper
  have originals := congrArg (AList.lookup rel) (mkdirForTree_originals setting state rel)
  have deletedHere : rel ∉ (state.mkdirForTree setting rel).deletedFiles := by
    rw [mkdirForTree_deletedFiles]
    exact fun inside => inside.2 rfl
  generalize state.mkdirForTree setting rel = after
    at becomes overlay overlayDirs deletedDirs originals deletedHere ⊢
  have view : ∀ query, after.view setting query =
      if query <+: rel then some .dir else state.view setting query := by
    intro query
    rw [becomes.view]
    rfl
  have noFileAt : ∀ query, query <+: rel → query ∉ after.overlay := by
    intro query within inside
    rw [overlay] at inside
    obtain ⟨data, there⟩ := tracks.inv.overlay_view inside
    by_cases same : query = rel
    · rw [same] at there
      rw [there] at free
      simp at free
    · have dir := clear query ⟨within, same⟩
      rw [there] at dir
      simp at dir
  have at_ := tracks.records rel
  obtain ⟨was, found, either⟩ := here
  rw [found] at originals
  refine ⟨⟨becomes.inv, tracks.rooted, ?_⟩, by rw [originals]; simp, deletedHere⟩
  intro query
  by_cases same : query = rel
  · have isDir : after.view setting rel = some .dir := by rw [view, if_pos (List.prefix_refl _)]
    have inDirs := (overlayDirs rel).mpr (.inr ⟨List.prefix_refl _, proper⟩)
    have notDeleted : rel ∉ after.deletedDirs :=
      fun inside => ((deletedDirs rel).mp inside).2 ⟨List.prefix_refl _, proper⟩
    rw [same]
    constructor
    · exact fun inside => absurd inside (noFileAt rel (List.prefix_refl _))
    · exact fun _ => notDeleted
    · exact fun _ => .inr (.inl inDirs)
    · intro before record
      rw [originals, Option.some.injEq] at record
      rw [← record]
      cases either with
      | inl old => exact at_.recorded was old
      | inr new => rw [new.2, makeable.1]
    · intro absent
      rw [originals] at absent
      cases absent
    · exact fun _ file => absurd makeable.1 file
    · exact fun _ dir _ => .inr (makeable.2 dir)
    · intro nothing; rw [isDir] at nothing; cases nothing
  · have record := becomes.records query same
    by_cases above : query <+: rel ∧ query ≠ []
    · have isAbove : Above query rel := ⟨above.1, same⟩
      apply (tracks.records query).implied (clear query isAbove)
      · rw [view, if_pos above.1]
      · exact parents query isAbove
      · exact noFileAt query above.1
      · exact (overlayDirs query).mpr (.inr above)
      · exact fun inside => ((deletedDirs query).mp inside).2 above
      · exact record
    · apply (tracks.records query).of_same
      · rw [view]
        split
        next within =>
          have root : query = [] := by
            by_contra other
            exact above ⟨within, other⟩
          rw [root]
          exact tracks.inv.rooted_view.root.symm
        · rfl
      · refine ⟨?_, ?_, ?_⟩
        · rw [overlay]
        · rw [overlayDirs]; simp [above]
        · rw [deletedDirs]; simp [above]
      · exact record

end Make

section Delete

-- What is recorded as made in this run is not in the baseline, and of a directory that is not, the
-- baseline has a directory or is known to have had none.
def Forgettable (setting : Setting) (state : State) (baseline : View Text Bytes) (rel : Rel) :
    Prop :=
  match state.view setting rel with
  | none => True
  | some (.file _) => state.originals.lookup rel = some none → baseline rel = none
  | some .dir =>
    if rel ∈ state.createdDirs then baseline rel = none
    else rel ∈ state.deletedFiles ↔ baseline rel ≠ some .dir

theorem deleteFile_tracks (tracks : Tracks setting state baseline) {data : Bytes}
    (file : state.view setting rel = some (.file data)) (erasable : Erasable setting state rel)
    (forgettable : Forgettable setting state baseline rel) :
    Tracks setting (state.deleteFile rel data) baseline := by
  have becomes := deleteFile_becomes tracks.inv data file erasable
  have at_ := tracks.records rel
  have leaf : state.view setting rel ≠ some .dir := by rw [file]; simp
  have notDir : rel ∉ state.overlayDirs := fun inside => leaf (tracks.inv.overlayDirs_view inside)
  have gone : (state.deleteFile rel data).view setting rel = none := by
    rw [becomes.view]
    exact if_pos rfl
  unfold Forgettable at forgettable
  rw [file] at forgettable
  refine ⟨becomes.inv, tracks.rooted, ?_⟩
  intro query
  by_cases same : query = rel
  · rw [same]
    unfold State.deleteFile at gone ⊢
    split at gone
    next created =>
      have was := forgettable created
      rw [if_pos created]
      constructor
      · intro inside; exact absurd rfl (AList.mem_erase.mp inside).1
      · exact fun inside => absurd inside notDir
      · intro record; simp at record
      · intro before record; simp at record
      · exact fun _ => .inl (by rw [gone, was])
      · intro dir; rw [gone] at dir; cases dir
      · intro dir; rw [gone] at dir; cases dir
      · intro _ record; simp at record
    next recorded =>
      rw [if_neg recorded]
      obtain ⟨was, found, either⟩ := recordOriginal_here state rel (some data)
      have isFile : baseline rel = some (.file data) ∨
          ∃ bytes, baseline rel = some (.file bytes) := by
        cases either with
        | inl old =>
          have known := at_.recorded was old
          cases was with
          | none => exact absurd old recorded
          | some bytes => exact .inr ⟨bytes, bytesOf_file.mp known.symm⟩
        | inr new =>
          have unchanged := (at_.untouched new.1).resolve_right fun dir => leaf dir.1
          rw [file] at unchanged
          exact .inl unchanged.symm
      constructor
      · intro inside; exact absurd rfl (AList.mem_erase.mp inside).1
      · intro inside
        rw [recordOriginal_overlayDirs] at inside
        exact absurd inside notDir
      · exact fun _ => .inr (.inr (.inl (by simp)))
      · intro before record
        dsimp only at record
        rw [found, Option.some.injEq] at record
        rw [← record]
        cases either with
        | inl old => exact at_.recorded was old
        | inr new =>
          have unchanged := (at_.untouched new.1).resolve_right fun dir => leaf dir.1
          rw [new.2, ← unchanged, file]
          rfl
      · intro absent
        dsimp only at absent
        rw [found] at absent
        cases absent
      · intro dir; rw [gone] at dir; cases dir
      · intro dir; rw [gone] at dir; cases dir
      · intro _ _
        have noDir : baseline rel ≠ some .dir := by
          cases isFile with
          | inl same => rw [same]; simp
          | inr other =>
            obtain ⟨bytes, isBytes⟩ := other
            rw [isBytes]
            simp
        simp [noDir]
  · apply (tracks.records query).of_same _ _ (becomes.records query same)
    · rw [becomes.view]
      exact if_neg same
    · unfold State.deleteFile
      split
      · exact ⟨by simp [same], Iff.rfl, Iff.rfl⟩
      · exact ⟨by simp [same], by simp, by simp⟩

theorem deleteDir_tracks (tracks : Tracks setting state baseline) (proper : rel ≠ [])
    (dir : state.view setting rel = some .dir)
    (empty : ∀ lower, Above rel lower → state.view setting lower = none)
    (erasable : Erasable setting state rel) (forgettable : Forgettable setting state baseline rel) :
    Tracks setting (state.deleteDir rel) baseline := by
  have becomes := deleteDir_becomes tracks.inv proper dir empty erasable
  have at_ := tracks.records rel
  have noFile : rel ∉ state.overlay := by
    intro inside
    obtain ⟨data, there⟩ := tracks.inv.overlay_view inside
    rw [dir] at there
    cases there
  have gone : (state.deleteDir rel).view setting rel = none := by
    rw [becomes.view]
    exact if_pos rfl
  have lower : ∀ query, rel <+: query → query ≠ rel →
      query ∉ state.overlay ∧ query ∉ state.overlayDirs := by
    intro query within other
    have nothing := empty query ⟨within, Ne.symm other⟩
    constructor
    · intro inside
      obtain ⟨data, there⟩ := tracks.inv.overlay_view inside
      rw [nothing] at there
      cases there
    · intro inside
      rw [tracks.inv.overlayDirs_view inside] at nothing
      cases nothing
  unfold Forgettable at forgettable
  rw [dir] at forgettable
  dsimp only at forgettable
  refine ⟨becomes.inv, tracks.rooted, ?_⟩
  intro query
  by_cases same : query = rel
  · rw [same]
    unfold State.deleteDir at gone ⊢
    split at gone
    next created =>
      rw [if_pos created] at forgettable
      rw [if_pos created]
      constructor
      · exact fun inside => absurd inside noFile
      · intro inside; exact absurd rfl (mem_discard.mp inside).2
      · intro record; simp at record
      · intro before record; simp at record
      · exact fun _ => .inl (by rw [gone, forgettable])
      · intro isDir; rw [gone] at isDir; cases isDir
      · intro isDir; rw [gone] at isDir; cases isDir
      · intro _ record; simp at record
    next kept =>
      rw [if_neg kept] at forgettable
      rw [if_neg kept]
      obtain ⟨was, found, either⟩ := recordOriginal_here state rel none
      constructor
      · intro inside
        have outside : rel ∉ ((state.recordOriginal rel none).overlay.keys.filter fun item =>
            decide (Above rel item)).foldl (fun overlay item => overlay.erase item)
              (state.recordOriginal rel none).overlay := by
          rw [← AList.lookup_isSome, eraseAll_lookup, recordOriginal_overlay,
            lookup_none.mpr noFile]
          simp
        exact absurd inside outside
      · intro inside
        rw [List.mem_filter] at inside
        simp at inside
      · exact fun _ => .inr (.inr (.inr (by simp)))
      · intro before record
        dsimp only at record
        rw [found, Option.some.injEq] at record
        rw [← record]
        cases either with
        | inl old => exact at_.recorded was old
        | inr new =>
          rw [new.2]
          cases at_.untouched new.1 with
          | inl unchanged =>
            rw [← unchanged, dir]
            rfl
          | inr implied =>
            rw [implied.2]
            rfl
      · intro absent
        dsimp only at absent
        rw [found] at absent
        cases absent
      · intro isDir; rw [gone] at isDir; cases isDir
      · intro isDir; rw [gone] at isDir; cases isDir
      · intro _ _
        rw [recordOriginal_deletedFiles]
        exact forgettable
  · apply (tracks.records query).of_same _ _ (becomes.records query same)
    · rw [becomes.view]
      exact if_neg same
    · unfold State.deleteDir
      split
      · exact ⟨Iff.rfl, by simp [same], by simp [same]⟩
      · dsimp only
        refine ⟨?_, ?_, by simp [same]⟩
        · rw [← AList.lookup_isSome, eraseAll_lookup, recordOriginal_overlay]
          split
          next inside =>
            rw [List.mem_filter, decide_eq_true_eq] at inside
            have outside := (lower query inside.2.1 same).1
            simp [outside]
          · rw [AList.lookup_isSome]
        · rw [recordOriginal_overlayDirs, List.mem_filter, decide_eq_true_eq]
          constructor
          · exact And.left
          · intro inside
            exact ⟨inside, fun within => (lower query within same).2 inside⟩

theorem Forgettable.of_same {before after : State}
    (forgettable : Forgettable setting before baseline rel)
    (view : after.view setting rel = before.view setting rel)
    (record : SameRecord before after rel) : Forgettable setting after baseline rel := by
  unfold Forgettable at forgettable ⊢
  simp only [view, record.original, record.created, record.deleted]
  exact forgettable

theorem deleteFiles_tracks (files : List (Rel × Bytes)) (tracks : Tracks setting state baseline)
    (once : (files.map (·.1)).Nodup)
    (are : ∀ file ∈ files, state.view setting file.1 = some (.file file.2))
    (erasable : ∀ file ∈ files, Erasable setting state file.1)
    (forgettable : ∀ file ∈ files, Forgettable setting state baseline file.1) :
    Tracks setting (files.foldl (fun state file => state.deleteFile file.1 file.2) state)
      baseline := by
  induction files generalizing state with
  | nil => exact tracks
  | cons file rest ih =>
    rw [List.map_cons, List.nodup_cons] at once
    have is := are file List.mem_cons_self
    have step := (deleteFile_becomes tracks.inv file.2 is (erasable file List.mem_cons_self))
    have other : ∀ later ∈ rest, later.1 ≠ file.1 := by
      intro later member same
      exact once.1 (List.mem_map.mpr ⟨later, member, same⟩)
    have same : ∀ later ∈ rest, (state.deleteFile file.1 file.2).view setting later.1 =
        state.view setting later.1 := by
      intro later member
      rw [step.view]
      exact if_neg (other later member)
    rw [List.foldl_cons]
    apply ih (deleteFile_tracks tracks is (erasable file List.mem_cons_self)
      (forgettable file List.mem_cons_self)) once.2
    · intro later member
      rw [same later member]
      exact are later (List.mem_cons_of_mem _ member)
    · intro later member
      exact (erasable later (List.mem_cons_of_mem _ member)).of_same (same later member)
        step.arrives.records (other later member)
    · intro later member
      exact (forgettable later (List.mem_cons_of_mem _ member)).of_same (same later member)
        (step.records later.1 (other later member))

theorem deleteDirs_tracks (dirs : List Rel) (tracks : Tracks setting state baseline)
    (once : dirs.Nodup) (proper : [] ∉ dirs)
    (deepest : dirs.Pairwise fun first second => second.length ≤ first.length)
    (are : ∀ dir ∈ dirs, state.view setting dir = some .dir)
    (below : ∀ dir ∈ dirs, ∀ lower, Above dir lower → state.view setting lower ≠ none →
      lower ∈ dirs)
    (erasable : ∀ dir ∈ dirs, Erasable setting state dir)
    (forgettable : ∀ dir ∈ dirs, Forgettable setting state baseline dir) :
    Tracks setting (dirs.foldl State.deleteDir state) baseline := by
  induction dirs generalizing state with
  | nil => exact tracks
  | cons dir rest ih =>
    rw [List.nodup_cons] at once
    rw [List.pairwise_cons] at deepest
    have notRoot : dir ≠ [] := fun root => proper (by rw [← root]; exact List.mem_cons_self)
    have empty := nothing_deeper deepest.1 (below dir List.mem_cons_self)
    have is := are dir List.mem_cons_self
    have step := deleteDir_becomes tracks.inv notRoot is empty (erasable dir List.mem_cons_self)
    have other : ∀ later ∈ rest, later ≠ dir := by
      intro later member same
      rw [same] at member
      exact once.1 member
    have same : ∀ later ∈ rest, (state.deleteDir dir).view setting later =
        state.view setting later := by
      intro later member
      rw [step.view]
      exact if_neg (other later member)
    rw [List.foldl_cons]
    apply ih (deleteDir_tracks tracks notRoot is empty (erasable dir List.mem_cons_self)
      (forgettable dir List.mem_cons_self)) once.2
      (fun root => proper (List.mem_cons_of_mem _ root)) deepest.2
    · intro later member
      rw [same later member]
      exact are later (List.mem_cons_of_mem _ member)
    · intro later member lower above there
      rw [step.view] at there
      unfold erase at there
      split at there
      · exact absurd rfl there
      next notDir =>
        cases List.mem_cons.mp (below later (List.mem_cons_of_mem _ member) lower above there) with
        | inl here => exact absurd here notDir
        | inr inside => exact inside
    · intro later member
      exact (erasable later (List.mem_cons_of_mem _ member)).of_same (same later member)
        step.arrives.records (other later member)
    · intro later member
      exact (forgettable later (List.mem_cons_of_mem _ member)).of_same (same later member)
        (step.records later (other later member))

theorem deleteSnapshot_tracks (tracks : Tracks setting state baseline) {snapshot : Snapshot}
    (of : snapshot.Of (state.view setting))
    (erasable : ∀ rel, snapshot.root <+: rel → Erasable setting state rel)
    (forgettable : ∀ rel, snapshot.root <+: rel → Forgettable setting state baseline rel) :
    Tracks setting (state.deleteSnapshot snapshot) baseline := by
  obtain ⟨filesOnce, isFile⟩ := of.ordered_files
  obtain ⟨dirsOnce, noRoot, isDir⟩ := of.ordered_dirs
  have first := deleteFiles_arrives (sortedFiles snapshot.files).reverse tracks.inv filesOnce
    (fun file member => ⟨file.2, (isFile file member).2⟩)
    (fun file member => erasable file.1 (isFile file member).1)
  have middle := deleteFiles_tracks (sortedFiles snapshot.files).reverse tracks filesOnce
    (fun file member => (isFile file member).2)
    (fun file member => erasable file.1 (isFile file member).1)
    (fun file member => forgettable file.1 (isFile file member).1)
  have left := files_deleted of first
  unfold State.deleteSnapshot
  dsimp only
  generalize (sortedFiles snapshot.files).reverse.foldl
    (fun state file => state.deleteFile file.1 file.2) state = between at first middle left ⊢
  have same : ∀ dir ∈ deepestFirst snapshot.dirs,
      between.view setting dir = state.view setting dir :=
    fun dir member => (left dir member).1.trans (isDir dir member).2.symm
  exact deleteDirs_tracks (deepestFirst snapshot.dirs) middle dirsOnce noRoot
    (deepestFirst_pairwise snapshot.dirs) (fun dir member => (left dir member).1)
    (fun dir member => (left dir member).2.2)
    (fun dir member => (erasable dir (isDir dir member).1).of_record (same dir member)
      (left dir member).2.1)
    (fun dir member => (forgettable dir (isDir dir member).1).of_same (same dir member)
      (left dir member).2.1)

end Delete

end MonoidKernel.Workspace
