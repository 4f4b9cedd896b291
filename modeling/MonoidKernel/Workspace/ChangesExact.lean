import MonoidKernel.Workspace.Changes
import MonoidKernel.Workspace.LocalTree

set_option autoImplicit false

namespace MonoidKernel.Workspace

open Library (FileTree Node)
open Library.FileTree (Above View Rooted)
open Library.PlainTree (Clear write makeDir erase)

def bytesOf : Option (Node Bytes) → Option Bytes
  | some (.file data) => some data
  | _ => none

theorem bytesOf_file {node : Option (Node Bytes)} {data : Bytes} :
    bytesOf node = some data ↔ node = some (.file data) := by
  unfold bytesOf
  split
  · simp
  next other =>
    constructor
    · intro impossible; cases impossible
    · intro isFile; exact absurd isFile (other data)

structure TracksAt (setting : Setting) (state : State) (baseline : View Text Bytes) (rel : Rel) :
    Prop where
  overlayKept : rel ∈ state.overlay → rel ∉ state.deletedFiles ∧ rel ∉ state.deletedDirs
  dirsKept : rel ∈ state.overlayDirs → rel ∉ state.deletedDirs
  marked : state.originals.lookup rel ≠ none → rel ∈ state.overlay ∨
    rel ∈ state.overlayDirs ∨ rel ∈ state.deletedFiles ∨ rel ∈ state.deletedDirs
  recorded : ∀ before, state.originals.lookup rel = some before → before = bytesOf (baseline rel)
  -- Without a record a path is as it was, or a directory that something needs.
  untouched : state.originals.lookup rel = none → state.view setting rel = baseline rel ∨
    state.view setting rel = some .dir ∧ baseline rel = none
  replacedFile : state.view setting rel = some .dir → bytesOf (baseline rel) ≠ none →
    rel ∈ state.deletedFiles
  sameDir : state.view setting rel = some .dir → baseline rel = some .dir →
    state.originals.lookup rel = some none →
      rel ∈ state.deletedFiles ∨ setting.base.node rel ≠ none
  gone : state.view setting rel = none → state.originals.lookup rel ≠ none →
    (rel ∈ state.deletedFiles ↔ baseline rel ≠ some .dir)

structure Tracks (setting : Setting) (state : State) (baseline : View Text Bytes) : Prop where
  inv : Inv setting state
  rooted : Rooted baseline
  records : ∀ rel, TracksAt setting state baseline rel

def Made (setting : Setting) (state : State) (rel : Rel) : Prop :=
  state.view setting rel = some .dir ∧ state.originals.lookup rel = some none ∧
    rel ∉ state.deletedFiles ∧ setting.base.node rel = none

def Support (setting : Setting) (state : State) (rel : Rel) : Prop :=
  (∃ data, state.view setting rel = some (.file data)) ∨ Made setting state rel

def Supported (setting : Setting) (state : State) (baseline : View Text Bytes) : Prop :=
  ∀ rel, state.view setting rel = some .dir → baseline rel ≠ some .dir →
    ∃ lower, rel <+: lower ∧ Support setting state lower

variable {setting : Setting} {state : State} {baseline : View Text Bytes}

variable {rel : Rel} {before : Option Bytes}

theorem Tracks.changedEntry_spec (tracks : Tracks setting state baseline)
    (record : state.originals.lookup rel = some before) :
    state.changedEntry setting rel before =
      match state.view setting rel with
      | some (.file data) => proposedFile setting rel before data
      | some .dir =>
        if rel ∈ state.deletedFiles then before.map (deletedFile setting rel)
        else if before = none ∧ setting.base.node rel = none then some (madeDirectory rel)
        else none
      | none =>
        if rel ∈ state.deletedFiles then before.map (deletedFile setting rel)
        else some (deletedDir rel) := by
  have mark := (tracks.records rel).marked (by rw [record]; simp)
  unfold State.changedEntry
  by_cases file : rel ∈ state.overlay
  · obtain ⟨data, found⟩ := Option.isSome_iff_exists.mp (AList.lookup_isSome.mpr file)
    have view : state.view setting rel = some (.file data) := by
      rw [tracks.inv.view_eq]
      simp [State.marked, found]
    have kept := (tracks.records rel).overlayKept file
    rw [view, if_neg kept.1, if_neg kept.2, found]
  · by_cases dir : rel ∈ state.overlayDirs
    · rw [tracks.inv.overlayDirs_view dir, lookup_none.mpr file]
      simp only [(tracks.records rel).dirsKept dir, dir, if_true, if_false]
    · have deleted : rel ∈ state.deletedFiles ∨ rel ∈ state.deletedDirs := by
        simpa [file, dir] using mark
      rw [tracks.inv.view_base file dir, if_pos deleted]
      dsimp only
      by_cases isFile : rel ∈ state.deletedFiles
      · rw [if_pos isFile, if_pos isFile]
      · rw [if_neg isFile, if_neg isFile, if_pos]
        exact deleted.resolve_left isFile

theorem mem_changedEntries (entry : ChangedEntry) :
    entry ∈ state.changedEntries setting ↔ ∃ rel before,
      state.originals.lookup rel = some before ∧
        state.changedEntry setting rel before = some entry := by
  unfold State.changedEntries
  rw [List.mem_filterMap]
  constructor
  · rintro ⟨item, member, is⟩
    exact ⟨item.1, item.2, (mem_sortedItems _ item).mp member, is⟩
  · rintro ⟨rel, before, record, is⟩
    exact ⟨(rel, before), (mem_sortedItems _ (rel, before)).mpr record, is⟩

def Means (setting : Setting) (state : State) (baseline : View Text Bytes)
    (entry : ChangedEntry) : Prop :=
  if entry.changeKind = .deleted then
    state.view setting entry.path = none ∧ baseline entry.path ≠ none ∨
      state.view setting entry.path = some .dir ∧ bytesOf (baseline entry.path) ≠ none
  else
    state.view setting entry.path = some entry.node ∧
      baseline entry.path ≠ some entry.node

variable {entry : ChangedEntry}

theorem Means.of_deleted (kind : entry.changeKind = .deleted)
    (either : state.view setting entry.path = none ∧ baseline entry.path ≠ none ∨
      state.view setting entry.path = some .dir ∧ bytesOf (baseline entry.path) ≠ none) :
    Means setting state baseline entry := by
  unfold Means
  rw [if_pos kind]
  exact either

theorem Means.of_put (kind : entry.changeKind ≠ .deleted)
    (there : state.view setting entry.path = some entry.node)
    (other : baseline entry.path ≠ some entry.node) : Means setting state baseline entry := by
  unfold Means
  rw [if_neg kind]
  exact ⟨there, other⟩

theorem proposedFile_spec {data : Bytes}
    (proposed : proposedFile setting rel before data = some entry) :
    entry.path = rel ∧ entry.changeKind ≠ .deleted ∧ entry.node = .file data ∧
      before ≠ some data := by
  unfold proposedFile at proposed
  split at proposed
  · cases proposed
  next other =>
    cases proposed
    refine ⟨rfl, ?_, rfl, other⟩
    dsimp only
    split <;> simp

theorem Tracks.entry_means (tracks : Tracks setting state baseline)
    (record : state.originals.lookup rel = some before)
    (is : state.changedEntry setting rel before = some entry) :
    entry.path = rel ∧ Means setting state baseline entry := by
  rw [tracks.changedEntry_spec record] at is
  have known := (tracks.records rel).recorded before record
  cases view : state.view setting rel with
  | none =>
    rw [view] at is
    have gone := (tracks.records rel).gone view (by rw [record]; simp)
    dsimp only at is
    split at is
    next inside =>
      obtain ⟨data, isBefore, rfl⟩ := Option.map_eq_some_iff.mp is
      refine ⟨rfl, .of_deleted rfl (.inl ⟨view, ?_⟩)⟩
      intro nothing
      change baseline rel = none at nothing
      rw [nothing, isBefore] at known
      cases known
    next outside =>
      cases is
      refine ⟨rfl, .of_deleted rfl (.inl ⟨view, ?_⟩)⟩
      intro nothing
      change baseline rel = none at nothing
      exact outside (gone.mpr (by rw [nothing]; simp))
  | some node =>
    rw [view] at is
    cases node with
    | file data =>
      obtain ⟨path, kind, isNode, other⟩ := proposedFile_spec is
      refine ⟨path, .of_put kind (by rw [path, isNode]; exact view) ?_⟩
      rw [path, isNode]
      intro same
      rw [same] at known
      exact other known
    | dir =>
      dsimp only at is
      split at is
      next inside =>
        obtain ⟨data, isBefore, rfl⟩ := Option.map_eq_some_iff.mp is
        refine ⟨rfl, .of_deleted rfl (.inr ⟨view, ?_⟩)⟩
        change bytesOf (baseline rel) ≠ none
        rw [← known, isBefore]
        simp
      next outside =>
        split at is
        next made =>
          cases is
          refine ⟨rfl, .of_put (by simp [madeDirectory]) view ?_⟩
          intro same
          change baseline rel = some .dir at same
          rw [made.1] at record
          cases (tracks.records rel).sameDir view same record with
          | inl inside => exact outside inside
          | inr there => exact there made.2
        · cases is

theorem Tracks.file_reported (tracks : Tracks setting state baseline) {data : Bytes}
    (view : state.view setting rel = some (.file data)) (other : baseline rel ≠ some (.file data)) :
    ∃ entry ∈ state.changedEntries setting, entry.path = rel ∧ entry.changeKind ≠ .deleted := by
  cases record : state.originals.lookup rel with
  | none =>
    cases (tracks.records rel).untouched record with
    | inl same =>
      rw [← same] at other
      exact absurd view other
    | inr dir =>
      rw [view] at dir
      cases dir.1
  | some before =>
    have spec := tracks.changedEntry_spec record
    have known := (tracks.records rel).recorded before record
    rw [view] at spec
    dsimp only at spec
    unfold proposedFile at spec
    rw [if_neg] at spec
    · refine ⟨_, (mem_changedEntries _).mpr ⟨rel, before, record, spec⟩, rfl, ?_⟩
      dsimp only
      split <;> simp
    · intro same
      rw [same] at known
      exact other (bytesOf_file.mp known.symm)

theorem Tracks.made_reported (tracks : Tracks setting state baseline)
    (made : Made setting state rel) :
    ∃ entry ∈ state.changedEntries setting, entry.path = rel ∧ entry.changeKind ≠ .deleted := by
  obtain ⟨view, record, outside, nothing⟩ := made
  have spec := tracks.changedEntry_spec record
  rw [view] at spec
  dsimp only at spec
  rw [if_neg outside, if_pos ⟨rfl, nothing⟩] at spec
  exact ⟨_, (mem_changedEntries _).mpr ⟨rel, none, record, spec⟩, rfl, by simp [madeDirectory]⟩

theorem Tracks.deleted_reported (tracks : Tracks setting state baseline)
    (either : state.view setting rel = none ∧ baseline rel ≠ none ∨
      state.view setting rel = some .dir ∧ bytesOf (baseline rel) ≠ none) :
    ∃ entry ∈ state.changedEntries setting, entry.path = rel ∧ entry.changeKind = .deleted := by
  cases record : state.originals.lookup rel with
  | none =>
    cases (tracks.records rel).untouched record with
    | inl same =>
      cases either with
      | inl gone =>
        rw [same] at gone
        exact absurd gone.1 gone.2
      | inr dir =>
        rw [← same, dir.1] at dir
        exact absurd rfl dir.2
    | inr implied =>
      cases either with
      | inl gone => exact absurd implied.2 gone.2
      | inr dir =>
        rw [implied.2] at dir
        exact absurd rfl dir.2
  | some before =>
    have spec := tracks.changedEntry_spec record
    have known := (tracks.records rel).recorded before record
    have asFile : ∀ data, before = some data → rel ∈ state.deletedFiles →
        (state.view setting rel = none ∨ state.view setting rel = some .dir) →
        ∃ entry ∈ state.changedEntries setting,
          entry.path = rel ∧ entry.changeKind = .deleted := by
      intro data isBefore inside free
      refine ⟨deletedFile setting rel data,
        (mem_changedEntries _).mpr ⟨rel, before, record, ?_⟩, rfl, rfl⟩
      rw [spec]
      cases free with
      | inl nothing => rw [nothing]; simp [inside, isBefore]
      | inr dir => rw [dir]; simp [inside, isBefore]
    cases either with
    | inl gone =>
      have mark := (tracks.records rel).gone gone.1 (by rw [record]; simp)
      by_cases inside : rel ∈ state.deletedFiles
      · have noDir := mark.mp inside
        cases was : baseline rel with
        | none => exact absurd was gone.2
        | some node =>
          cases node with
          | dir => exact absurd was noDir
          | file data =>
            rw [was] at known
            exact asFile data known inside (.inl gone.1)
      · refine ⟨deletedDir rel, (mem_changedEntries _).mpr ⟨rel, before, record, ?_⟩, rfl, rfl⟩
        rw [spec, gone.1]
        exact if_neg inside
    | inr dir =>
      obtain ⟨data, was⟩ := Option.ne_none_iff_exists'.mp dir.2
      rw [was] at known
      exact asFile data known ((tracks.records rel).replacedFile dir.1 dir.2) (.inr dir.1)

theorem changedEntries_once (tracks : Tracks setting state baseline) :
    ((state.changedEntries setting).map (·.path)).Nodup := by
  have once := sortedItems_once state.originals
  unfold State.changedEntries
  have items : ∀ item ∈ sortedItems state.originals,
      state.originals.lookup item.1 = some item.2 :=
    fun item member => (mem_sortedItems _ item).mp member
  generalize sortedItems state.originals = list at once items
  induction list with
  | nil => simp
  | cons item rest ih =>
    rw [List.map_cons, List.nodup_cons] at once
    have later := ih once.2 fun item member => items item (List.mem_cons_of_mem _ member)
    rw [List.filterMap_cons]
    split
    · exact later
    next entry is =>
      rw [List.map_cons, List.nodup_cons]
      refine ⟨?_, later⟩
      have path := (tracks.entry_means (items item List.mem_cons_self) is).1
      rw [path]
      intro inside
      obtain ⟨other, member, same⟩ := List.mem_map.mp inside
      obtain ⟨source, isSource, isOther⟩ := List.mem_filterMap.mp member
      have samePath :=
        (tracks.entry_means (items source (List.mem_cons_of_mem _ isSource)) isOther).1
      apply once.1
      rw [← same, samePath]
      exact List.mem_map.mpr ⟨source, isSource, rfl⟩

theorem Tracks.exact (tracks : Tracks setting state baseline)
    (supported : Supported setting state baseline) : Exact setting state baseline := by
  have meaning : ∀ entry ∈ state.changedEntries setting, Means setting state baseline entry := by
    intro entry member
    obtain ⟨rel, before, record, is⟩ := (mem_changedEntries entry).mp member
    exact (tracks.entry_means record is).2
  have rooted := tracks.inv.rooted_view
  have put : ∀ entry ∈ (state.changedEntries setting).filter fun entry =>
      decide (entry.changeKind ≠ .deleted), entry ∈ state.changedEntries setting ∧
        state.view setting entry.path = some entry.node ∧
        baseline entry.path ≠ some entry.node := by
    intro entry member
    rw [List.mem_filter, decide_eq_true_eq] at member
    have said := meaning entry member.1
    unfold Means at said
    rw [if_neg member.2] at said
    exact ⟨member.1, said⟩
  have inPut : ∀ {rel}, (∃ entry ∈ state.changedEntries setting, entry.path = rel ∧
      entry.changeKind ≠ .deleted) → ∃ entry ∈ (state.changedEntries setting).filter fun entry =>
        decide (entry.changeKind ≠ .deleted), entry.path = rel := by
    rintro rel ⟨entry, member, path, kind⟩
    exact ⟨entry, List.mem_filter.mpr ⟨member, by simpa using kind⟩, path⟩
  have taken : ∀ rel, rel ∈ ((state.changedEntries setting).filter fun entry =>
      decide (entry.changeKind = .deleted)).map (·.path) ↔
        state.view setting rel = none ∧ baseline rel ≠ none ∨
          state.view setting rel = some .dir ∧ bytesOf (baseline rel) ≠ none := by
    intro rel
    constructor
    · intro member
      obtain ⟨entry, inside, rfl⟩ := List.mem_map.mp member
      rw [List.mem_filter, decide_eq_true_eq] at inside
      have said := meaning entry inside.1
      unfold Means at said
      rw [if_pos inside.2] at said
      exact said
    · intro either
      obtain ⟨entry, member, path, kind⟩ := tracks.deleted_reported either
      exact List.mem_map.mpr ⟨entry, List.mem_filter.mpr ⟨member, by simpa using kind⟩, path⟩
  constructor
  · unfold applyEntries
    apply putEntries_spec
    · intro entry member root
      obtain ⟨_, there, other⟩ := put entry member
      rw [root] at there other
      rw [rooted.root] at there
      rw [tracks.rooted.root] at other
      exact other there
    · exact (changedEntries_once tracks).sublist (List.filter_sublist.map _)
    · exact fun entry member => (put entry member).2.1
    · intro entry member upper above
      exact rooted.above upper entry.path above (by rw [(put entry member).2.1]; simp)
    · intro entry member upper above
      have dir := rooted.above upper entry.path above (by rw [(put entry member).2.1]; simp)
      rw [erase_all]
      split
      · exact .inl rfl
      next kept =>
        rw [taken, not_or] at kept
        cases was : baseline upper with
        | none => exact .inl rfl
        | some node =>
          cases node with
          | dir => exact .inr rfl
          | file data => exact absurd ⟨dir, by rw [was]; simp [bytesOf]⟩ kept.2
    · intro rel absent notAbove
      rw [erase_all]
      simp only [taken]
      cases view : state.view setting rel with
      | none =>
        by_cases was : baseline rel = none
        · simp [was]
        · simp [was]
      | some node =>
        cases node with
        | file data =>
          by_cases same : baseline rel = some (.file data)
          · simp [same]
          · obtain ⟨entry, member, path⟩ := inPut (tracks.file_reported view same)
            exact absurd (List.mem_map.mpr ⟨entry, member, path⟩) absent
        | dir =>
          by_cases same : baseline rel = some .dir
          · simp [same, bytesOf]
          next =>
            -- The directory or something below it is reported.
            obtain ⟨lower, within, support⟩ := supported rel view same
            have reported : ∃ entry ∈ state.changedEntries setting, entry.path = lower ∧
                entry.changeKind ≠ .deleted := by
              cases support with
              | inr made => exact tracks.made_reported made
              | inl file =>
                obtain ⟨data, isFile⟩ := file
                apply tracks.file_reported isFile
                intro old
                have other : rel ≠ lower := by
                  intro equal
                  rw [equal, isFile] at view
                  cases view
                rw [tracks.rooted.below ⟨within, other⟩ same] at old
                cases old
            obtain ⟨entry, member, path⟩ := inPut reported
            by_cases equal : rel = lower
            · rw [equal] at absent
              exact absurd (List.mem_map.mpr ⟨entry, member, path⟩) absent
            · rw [← path] at within equal
              exact absurd ⟨within, equal⟩ (notAbove entry member)
  · intro entry member same
    have said := meaning entry member
    unfold Means at said
    rw [same] at said
    split at said
    · cases said with
      | inl gone => exact gone.2 gone.1
      | inr dir =>
        rw [dir.1] at dir
        exact dir.2 rfl
    · exact said.2 said.1

end MonoidKernel.Workspace
