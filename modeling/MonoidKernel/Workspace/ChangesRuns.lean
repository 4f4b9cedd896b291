import MonoidKernel.Workspace.ChangesMerge
import MonoidKernel.Workspace.LocalRuns

set_option autoImplicit false

namespace MonoidKernel.Workspace

open Library (FileTree Node Machine)
open Library.FileTree (Above View Rooted)
open Library.PlainTree (Clear write makeDir erase remove merge)

section Conditions

variable (setting : Setting) (state : State) (baseline : View Text Bytes)

-- Each step of the operation keeps the records about the baseline, and each directory that the
-- baseline does not have stays reported, or has something below it that is.
def Op.Reported : Op → Prop
  | .writeBytes path _ _ _ _ =>
    ∀ rel, normalizeWorkspacePath path = some rel → ParentsKept setting state baseline rel
  | .mkdir path =>
    ∀ rel, normalizeWorkspacePath path = some rel →
      Makeable setting baseline rel ∧ ParentsKept setting state baseline rel ∧
        (state.view setting rel = none → baseline rel ≠ some .dir →
          setting.base.node rel = none)
  | .copyPath source destination options =>
    ∀ snapshot dest, state.collectTree setting source options.limits = .ok snapshot →
      destinationOf snapshot destination = .ok dest →
      CopyKept setting state baseline snapshot dest options ∧
        CopyReports setting baseline (state.view setting) snapshot.root dest options
  | .movePath source destination options =>
    ∀ snapshot dest, state.collectTree setting source options.limits = .ok snapshot →
      destinationOf snapshot destination = .ok dest →
      CopyKept setting state baseline snapshot dest options ∧
        CopyReports setting baseline (state.view setting) snapshot.root dest options ∧
        -- The source is not deleted twice.
        ¬ ((options.replaces = true ∧ state.view setting dest = some .dir) ∧
          dest <+: snapshot.root) ∧
        (∀ rel, snapshot.root <+: rel → Forgettable setting state baseline rel) ∧
        ∀ upper, Above upper snapshot.root → baseline upper ≠ some .dir →
          ∃ lower, upper <+: lower ∧ ¬ snapshot.root <+: lower ∧
            (Support setting state lower ∧ ¬ (options.replaces = true ∧
                state.view setting dest = some .dir ∧ dest <+: lower) ∨
              ∃ item, snapshot.root <+: item ∧ lower = mapped snapshot.root dest item ∧
                Reports setting (state.view setting) snapshot.root dest item)
  | .deletePath path limits =>
    ∀ snapshot, state.collectTree setting path limits = .ok snapshot →
      (∀ rel, snapshot.root <+: rel → Forgettable setting state baseline rel) ∧
        LeftSupported setting state baseline snapshot.root

end Conditions

section Steps

variable {setting : Setting} {state : State} {baseline : View Text Bytes}

structure Reporting (setting : Setting) (state : State) (baseline : View Text Bytes) : Prop where
  tracks : Tracks setting state baseline
  supported : Supported setting state baseline

variable {after : State}

theorem Supported.grown (supported : Supported setting state baseline)
    (kept : ∀ lower, Support setting state lower → Support setting after lower)
    (new : ∀ rel, after.view setting rel = some .dir → baseline rel ≠ some .dir →
      state.view setting rel ≠ some .dir → ∃ lower, rel <+: lower ∧ Support setting after lower) :
    Supported setting after baseline := by
  intro rel dir other
  by_cases before : state.view setting rel = some .dir
  · obtain ⟨lower, below, support⟩ := supported rel before other
    exact ⟨lower, below, kept lower support⟩
  · exact new rel dir other before

theorem writeFile_reporting (reporting : Reporting setting state baseline) {rel : Rel}
    {data : Bytes} {createDirs overwrite : Bool}
    (clear : createDirs = true → Clear (state.view setting) rel)
    (parents : ParentsKept setting state baseline rel)
    (done : state.writeFile setting rel data createDirs overwrite = (.ok (), after)) :
    Reporting setting after baseline := by
  have tracks := reporting.tracks
  cases writeFile_arrives tracks.inv rel data createDirs overwrite clear with
  | inl failed =>
    obtain ⟨error, failed⟩ := failed
    rw [failed] at done
    cases done
  | inr written =>
    obtain ⟨last, wrote, may, arrives⟩ := written
    have same : last = after := by
      rw [wrote] at done
      cases done
      rfl
    rw [same] at arrives
    have kept := written_tracks tracks data may.clear may.leaf parents
    rw [← writeFile_written done] at kept
    have view : ∀ query, after.view setting query = if query = rel then some (.file data)
        else if Above query rel then some .dir else state.view setting query := by
      intro query
      rw [arrives.view]
      rfl
    have isFile : Support setting after rel := .inl ⟨data, by rw [view, if_pos rfl]⟩
    refine ⟨kept, reporting.supported.grown ?_ ?_⟩
    · intro lower support
      by_cases here : lower = rel
      · rw [here]; exact isFile
      · have record := arrives.records lower here
        by_cases above : Above lower rel
        · cases support with
          | inr made =>
            exact .inr (made.of_dir (by rw [view, if_neg here, if_pos above]) record)
          | inl file =>
            obtain ⟨bytes, there⟩ := file
            have free := may.clear lower above
            rw [there] at free
            simp at free
        · exact support.of_same (by rw [view, if_neg here, if_neg above]) record
    · intro query dir _ new
      rw [view] at dir
      split at dir
      · cases dir
      · split at dir
        next above => exact ⟨rel, above.1, isFile⟩
        · exact absurd dir new

theorem settled_ok {A : Type} {attempt : Attempt A} (done : (settled attempt).2 = .ok ()) :
    ∃ answer, attempt = (.ok answer, (settled attempt).1) := by
  obtain ⟨result, after⟩ := attempt
  cases result with
  | error error => cases done
  | ok answer => exact ⟨answer, rfl⟩

theorem writeBytes_reporting (reporting : Reporting setting state baseline) {path : Text}
    {data : Bytes} {createDirs overwrite : Bool} {expectedSha256 : Option Text}
    (fits : (Op.writeBytes path data createDirs overwrite expectedSha256).Fits setting state)
    (reported : (Op.writeBytes path data createDirs overwrite expectedSha256).Reported setting state
      baseline) {answer : Text}
    (done : state.writeBytes setting path data createDirs overwrite expectedSha256 =
      (.ok answer, after)) : Reporting setting after baseline := by
  unfold State.writeBytes at done
  split at done
  · cases done
  · cases done
  next rel proper isRel =>
    dsimp only at done
    split at done
    · cases done
    next unexpected =>
      have clear := fits_clear reporting.tracks.inv fits isRel unexpected
      split at done
      · cases done
      next wrote =>
        cases done
        exact writeFile_reporting reporting clear (reported rel isRel) wrote

theorem mkdirForTree_reporting (reporting : Reporting setting state baseline) {rel : Rel}
    (proper : rel ≠ []) (clear : Clear (state.view setting) rel)
    (free : state.view setting rel = none ∨ state.view setting rel = some .dir)
    (makeable : Makeable setting baseline rel) (parents : ParentsKept setting state baseline rel)
    (new : state.view setting rel = none → baseline rel ≠ some .dir →
      setting.base.node rel = none) :
    Reporting setting (state.mkdirForTree setting rel) baseline := by
  have tracks := reporting.tracks
  have made := mkdirForTree_becomes tracks.inv proper clear free
  have kept := mkdirForTree_tracks tracks proper clear free makeable parents
  generalize state.mkdirForTree setting rel = after at made kept ⊢
  have view : ∀ query, after.view setting query =
      if query <+: rel then some .dir else state.view setting query := by
    intro query
    rw [made.view]
    rfl
  have isDir : after.view setting rel = some .dir := by rw [view, if_pos (List.prefix_refl _)]
  refine ⟨kept.1, reporting.supported.grown ?_ ?_⟩
  · intro lower support
    by_cases here : lower = rel
    · rw [here] at support ⊢
      cases support with
      | inl file =>
        obtain ⟨data, isFile⟩ := file
        rw [isFile] at free
        simp at free
      | inr was => exact .inr (kept.1.made_of_noted isDir kept.2 makeable was.2.2.2)
    · have record := made.records lower here
      by_cases within : lower <+: rel
      · cases support with
        | inr was => exact .inr (was.of_dir (by rw [view, if_pos within]) record)
        | inl file =>
          obtain ⟨data, isFile⟩ := file
          have above := clear lower ⟨within, here⟩
          rw [isFile] at above
          simp at above
      · exact support.of_same (by rw [view, if_neg within]) record
  · intro query dir other before
    rw [view] at dir
    split at dir
    next within =>
      -- What is above a new directory that the baseline does not have is not in it either.
      have missing : state.view setting rel = none := by
        cases free with
        | inl nothing => exact nothing
        | inr there =>
          by_cases same : query = rel
          · rw [same] at before
            exact absurd there before
          · have above := tracks.inv.rooted_view.above query rel ⟨within, same⟩
              (by rw [there]; simp)
            exact absurd above before
      have notDir : baseline rel ≠ some .dir := by
        intro was
        by_cases same : query = rel
        · rw [same] at other
          exact other was
        · exact other (tracks.rooted.above query rel ⟨within, same⟩ (by rw [was]; simp))
      exact ⟨rel, within,
        .inr (kept.1.made_of_noted isDir kept.2 makeable (new missing notDir))⟩
    · exact absurd dir before

theorem mkdir_reporting (reporting : Reporting setting state baseline) {path : Text}
    (fits : (Op.mkdir path).Fits setting state)
    (reported : (Op.mkdir path).Reported setting state baseline) {answer : Rel}
    (done : state.mkdir setting path = (.ok answer, after)) :
    Reporting setting after baseline := by
  unfold State.mkdir at done
  split at done
  · cases done
  · cases done
  next rel proper isRel =>
    rw [effectiveKind_eq] at done
    split at done
    · cases done
    next noFile =>
      have free := no_file noFile
      obtain ⟨makeable, parents, new⟩ := reported rel isRel
      have made := mkdirForTree_reporting reporting proper (fits rel isRel) free makeable parents
        new
      cases done
      exact made

variable {answer : Counts}

theorem deletePath_reporting (reporting : Reporting setting state baseline) {path : Text}
    {limits : Limits} (fits : (Op.deletePath path limits).Fits setting state)
    (reported : (Op.deletePath path limits).Reported setting state baseline)
    (done : state.deletePath setting path limits = (.ok answer, after)) :
    Reporting setting after baseline := by
  have tracks := reporting.tracks
  unfold State.deletePath State.deleteCollected at done
  split at done
  · cases done
  next snapshot collected =>
    cases done
    obtain ⟨_, of⟩ := collectTree_spec tracks.inv collected
    have erasable := fits snapshot collected
    obtain ⟨forgettable, left⟩ := reported snapshot collected
    exact ⟨deleteSnapshot_tracks tracks of erasable forgettable,
      supported_removed reporting.supported (deleteSnapshot_arrives tracks.inv of erasable) left⟩

theorem there_of (snapshot : Snapshot) {view : View Text Bytes} (of : snapshot.Of view) :
    view snapshot.root ≠ none := by
  have kind := of.kind
  split at kind
  · obtain ⟨data, there, _⟩ := kind
    rw [there]
    simp
  · rw [kind]; simp

variable {options : CopyOptions}

theorem copyTree_reporting (reporting : Reporting setting state baseline) {snapshot : Snapshot}
    {dest : Rel} (of : snapshot.Of (state.view setting)) (proper : dest ≠ [])
    (fits : CopyAccepted setting state snapshot dest options →
      CopyFits setting state snapshot dest options)
    (kept : CopyKept setting state baseline snapshot dest options)
    (reports : CopyReports setting baseline (state.view setting) snapshot.root dest options)
    {counts : Counts} (done : state.copyTree setting snapshot dest options = (.ok counts, after)) :
    Reporting setting after baseline ∧ CopyAccepted setting state snapshot dest options ∧
      CopyTracks setting state after baseline snapshot.root dest ∧
      PlainCopy options (state.view setting) snapshot.root dest (after.view setting) ∧
      Arrives setting state after (Touches options (state.view setting) snapshot.root dest)
        (after.view setting) := by
  have copyTracks := copyTree_tracks reporting.tracks of proper fits kept done
  cases copyTree_arrives reporting.tracks.inv of proper fits with
  | inl failed =>
    obtain ⟨error, failed⟩ := failed
    rw [failed] at done
    cases done
  | inr copied =>
    obtain ⟨_, last, view, did, accepted, plain, arrives, _⟩ := copied
    rw [done] at did
    cases did
    have same := arrives.view
    rw [← same] at plain arrives
    exact ⟨⟨copyTracks.tracks, supported_copied reporting.supported copyTracks
      reporting.tracks.inv.rooted_view reporting.tracks.rooted (there_of snapshot of) plain
      arrives.records reports⟩, accepted, copyTracks, plain, arrives⟩

theorem copyPath_reporting (reporting : Reporting setting state baseline)
    {source destination : Text} (fits : (Op.copyPath source destination options).Fits setting state)
    (reported : (Op.copyPath source destination options).Reported setting state baseline)
    (done : state.copyPath setting source destination options = (.ok answer, after)) :
    Reporting setting after baseline := by
  unfold State.copyPath at done
  split at done
  · cases done
  next snapshot collected =>
    split at done
    · cases done
    next dest isDest =>
      obtain ⟨_, of⟩ := collectTree_spec reporting.tracks.inv collected
      obtain ⟨_, proper, _⟩ := destinationOf_spec isDest
      obtain ⟨kept, reports⟩ := reported snapshot dest collected isDest
      exact (copyTree_reporting reporting of proper
        (fun accepted => (fits snapshot dest collected isDest accepted).1) kept reports done).1

theorem movePath_reporting (reporting : Reporting setting state baseline)
    {source destination : Text} (fits : (Op.movePath source destination options).Fits setting state)
    (reported : (Op.movePath source destination options).Reported setting state baseline)
    (done : state.movePath setting source destination options = (.ok answer, after)) :
    Reporting setting after baseline := by
  have tracks := reporting.tracks
  unfold State.movePath at done
  split at done
  · cases done
  next snapshot collected =>
    split at done
    · cases done
    next dest isDest =>
      split at done
      · cases done
      next passed =>
        obtain ⟨_, of⟩ := collectTree_spec tracks.inv collected
        obtain ⟨_, proper, outside⟩ := destinationOf_spec isDest
        have fitting := fits snapshot dest collected isDest passed
        obtain ⟨kept, reports, alone, forgettable, left⟩ := reported snapshot dest collected isDest
        rw [copyPath_again collected isDest] at done
        split at done
        · cases done
        next counts between copied =>
          cases done
          obtain ⟨middle, accepted, copyTracks, plain, arrives⟩ := copyTree_reporting reporting of
            proper (fun accepted => (fitting accepted).1) kept reports copied
          have fit := fitting accepted
          obtain ⟨same, ofBetween, deleted⟩ := deleteCopied_arrives of outside fit alone plain
            arrives
          refine ⟨?_, supported_removed middle.supported deleted ?_⟩
          · exact deleteSnapshot_tracks middle.tracks ofBetween
              (fun rel within => (fit.2.1 rel within).of_record (same rel within).1
                (same rel within).2)
              (fun rel within => (forgettable rel within).of_same (same rel within).1
                (same rel within).2)
          · intro upper above other
            obtain ⟨lower, below, apart, either⟩ := left upper above other
            refine ⟨lower, below, apart, ?_⟩
            cases either with
            | inl old =>
              exact support_kept copyTracks tracks.inv.rooted_view plain arrives.records old.1
                old.2
            | inr new =>
              obtain ⟨item, within, rfl, reported⟩ := new
              exact reported.support copyTracks tracks.inv.rooted_view plain within

theorem perform_reporting (reporting : Reporting setting state baseline) (op : Op)
    (fits : op.Fits setting state) (reported : op.Reported setting state baseline)
    (done : (state.perform setting op).2 = .ok ()) :
    Reporting setting (state.perform setting op).1 baseline := by
  cases op with
  | writeBytes path data createDirs overwrite expectedSha256 =>
    obtain ⟨answer, is⟩ := settled_ok done
    exact writeBytes_reporting reporting fits reported is
  | mkdir path =>
    obtain ⟨answer, is⟩ := settled_ok done
    exact mkdir_reporting reporting fits reported is
  | copyPath source destination options =>
    obtain ⟨answer, is⟩ := settled_ok done
    exact copyPath_reporting reporting fits reported is
  | movePath source destination options =>
    obtain ⟨answer, is⟩ := settled_ok done
    exact movePath_reporting reporting fits reported is
  | deletePath path limits =>
    obtain ⟨answer, is⟩ := settled_ok done
    exact deletePath_reporting reporting fits reported is

theorem newBaseline_reporting (reporting : Reporting setting state baseline) :
    Reporting setting state.snapshotCurrentAsNewBaseline (state.view setting) := by
  have tracks := reporting.tracks
  have view : state.snapshotCurrentAsNewBaseline.view setting = state.view setting := rfl
  refine ⟨⟨⟨tracks.inv.rooted, tracks.inv.apart, tracks.inv.hidden⟩, tracks.inv.rooted_view, ?_⟩,
    ?_⟩
  · intro rel
    have at_ := tracks.records rel
    constructor
    · exact at_.overlayKept
    · exact at_.dirsKept
    · intro record; exact absurd rfl record
    · intro before record; cases record
    · exact fun _ => .inl rfl
    · intro dir file
      rw [view] at dir
      rw [dir] at file
      exact absurd rfl file
    · intro _ _ record; cases record
    · intro _ record; exact absurd rfl record
  · exact fun rel dir other => absurd dir other

theorem init_reporting (setting : Setting) :
    Reporting setting State.init setting.base.node := by
  obtain ⟨inv, view⟩ := init_inv setting
  refine ⟨⟨inv, setting.base.rooted, ?_⟩, ?_⟩
  · intro rel
    constructor
    · intro inside; cases inside
    · intro inside; cases inside
    · intro record; exact absurd rfl record
    · intro before record; cases record
    · exact fun _ => .inl (by rw [view])
    · intro dir file
      rw [view] at dir
      rw [dir] at file
      exact absurd rfl file
    · intro _ _ record; cases record
    · intro _ record; exact absurd rfl record
  · intro rel dir other
    rw [view] at dir
    exact absurd dir other

end Steps

section Runs

inductive Step where
  | operation (op : Op)
  | newBaseline

-- The workspace with its baseline: the base directory at first, then what was in view when a new
-- one was taken.
def tracked (setting : Setting) :
    Machine (State × View Text Bytes) Step (Except WorkspaceError Unit) where
  init := (State.init, setting.base.node)
  step := fun current step =>
    match step with
    | .operation op =>
      let result := current.1.perform setting op
      ((result.1, current.2), result.2)
    | .newBaseline => ((current.1.snapshotCurrentAsNewBaseline, current.1.view setting), .ok ())

def Step.Fits (setting : Setting) (current : State × View Text Bytes) : Step → Prop
  | .operation op =>
    op.Fits setting current.1 ∧ ((current.1.perform setting op).2 = .ok () →
      op.Reported setting current.1 current.2)
  | .newBaseline => True

variable (setting : Setting)

theorem step_reporting (current : State × View Text Bytes) (step : Step)
    (reporting : Reporting setting current.1 current.2) (fits : step.Fits setting current) :
    Reporting setting ((tracked setting).next current step).1
      ((tracked setting).next current step).2 := by
  cases step with
  | newBaseline => exact newBaseline_reporting reporting
  | operation op =>
    have settles := perform_settles reporting.tracks.inv op fits.1
    change Reporting setting (current.1.perform setting op).1 current.2
    cases answer : (current.1.perform setting op).2 with
    | ok nothing => exact perform_reporting reporting op fits.1 (fits.2 answer) answer
    | error error =>
      rw [settles.raised error answer]
      exact reporting

theorem changedEntries_exact (steps : List Step)
    (fits : (tracked setting).Along (fun current step => step.Fits setting current)
      (tracked setting).init steps) :
    Exact setting ((tracked setting).exec (tracked setting).init steps).1
      ((tracked setting).exec (tracked setting).init steps).2 := by
  have reporting := Machine.Along.exec (m := tracked setting)
    (fun current => Reporting setting current.1 current.2)
    (fun current step => step_reporting setting current step) (init_reporting setting) fits
  exact reporting.tracks.exact reporting.supported

end Runs

section Samples

theorem implied_directory_unreported :
    ¬ Exact emptyBase
      ((tracked emptyBase).exec (tracked emptyBase).init
        [.operation (.writeBytes "x/y".toList [1] true true none),
          .operation (.deletePath "x/y".toList ⟨false, 10, 100⟩)]).1
      ((tracked emptyBase).exec (tracked emptyBase).init
        [.operation (.writeBytes "x/y".toList [1] true true none),
          .operation (.deletePath "x/y".toList ⟨false, 10, 100⟩)]).2 := by
  intro isExact
  have nothing : State.changedEntries emptyBase ((tracked emptyBase).exec (tracked emptyBase).init
      [.operation (.writeBytes "x/y".toList [1] true true none),
        .operation (.deletePath "x/y".toList ⟨false, 10, 100⟩)]).1 = [] := by decide +kernel
  have applied := isExact.applied
  rw [nothing] at applied
  have same := congrFun (Option.some.inj applied) ["x".toList]
  revert same
  decide +kernel

theorem written_rebased_made :
    Exact emptyBase
      ((tracked emptyBase).exec (tracked emptyBase).init
        [.operation (.writeBytes "a".toList [1] true true none), .newBaseline,
          .operation (.mkdir "d".toList)]).1
      ((tracked emptyBase).exec (tracked emptyBase).init
        [.operation (.writeBytes "a".toList [1] true true none), .newBaseline,
          .operation (.mkdir "d".toList)]).2 := by
  apply changedEntries_exact
  have onlyRoot : ∀ (name : Text) (upper : Rel), Above upper [name] → upper = [] :=
    fun name upper above => List.prefix_nil.mp above.dropLast
  refine ⟨⟨?_, ?_⟩, trivial, ⟨?_, ?_⟩, trivial⟩
  · intro rel isRel _ _ upper above
    have known : some ["a".toList] = some rel := isRel
    cases known
    rw [onlyRoot _ upper above]
    exact .inr (by decide +kernel)
  · intro _ rel isRel upper above
    have known : some ["a".toList] = some rel := isRel
    cases known
    rw [onlyRoot _ upper above]
    decide +kernel
  · intro rel isRel upper above
    have known : some ["d".toList] = some rel := isRel
    cases known
    rw [onlyRoot _ upper above]
    exact .inr (by decide +kernel)
  · intro _ rel isRel
    have known : some ["d".toList] = some rel := isRel
    cases known
    refine ⟨⟨by decide +kernel, by decide +kernel⟩, ?_, by decide +kernel⟩
    intro upper above
    rw [onlyRoot _ upper above]
    decide +kernel

end Samples

end MonoidKernel.Workspace
