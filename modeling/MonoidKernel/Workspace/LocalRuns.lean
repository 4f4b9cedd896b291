import MonoidKernel.Library.Machine
import MonoidKernel.Workspace.LocalCopy

set_option autoImplicit false

namespace MonoidKernel.Workspace

open Library (FileTree Node Machine)
open Library.FileTree (Above View Rooted)
open Library.PlainTree (Clear write makeDir erase remove merge)

section Operations

inductive Op where
  | writeBytes (path : Text) (data : Bytes) (createDirs overwrite : Bool)
      (expectedSha256 : Option Text)
  | mkdir (path : Text)
  | copyPath (source destination : Text) (options : CopyOptions)
  | movePath (source destination : Text) (options : CopyOptions)
  | deletePath (path : Text) (limits : Limits)

def settled {A : Type} (attempt : Attempt A) : State × Except WorkspaceError Unit :=
  (attempt.2, attempt.1.map fun _ => ())

def State.perform (setting : Setting) (state : State) : Op → State × Except WorkspaceError Unit
  | .writeBytes path data createDirs overwrite expectedSha256 =>
    settled (state.writeBytes setting path data createDirs overwrite expectedSha256)
  | .mkdir path => settled (state.mkdir setting path)
  | .copyPath source destination options =>
    settled (state.copyPath setting source destination options)
  | .movePath source destination options =>
    settled (state.movePath setting source destination options)
  | .deletePath path limits => settled (state.deletePath setting path limits)

def workspace (setting : Setting) : Machine State Op (Except WorkspaceError Unit) where
  init := State.init
  step := State.perform setting

end Operations

section Plain

def Expected (setting : Setting) (view : View Text Bytes) (rel : Rel)
    (expectedSha256 : Option Text) : Prop :=
  ∀ expected, expectedSha256 = some expected →
    expected = setting.sha256 (match view rel with | some (.file data) => data | _ => [])

def Op.Plain (setting : Setting) (before after : View Text Bytes) : Op → Prop
  | .writeBytes path data createDirs overwrite expectedSha256 =>
    ∃ rel, normalizeWorkspacePath path = some rel ∧ Expected setting before rel expectedSha256 ∧
      MayWrite before rel createDirs overwrite ∧ after = write before rel data
  | .mkdir path =>
    ∃ rel, normalizeWorkspacePath path = some rel ∧ rel ≠ [] ∧
      (∀ query, query <+: rel → before query = none ∨ before query = some .dir) ∧
      after = makeDir before rel
  | .copyPath source destination options =>
    ∃ root dest, normalizeWorkspacePath source = some root ∧
      normalizeWorkspacePath destination = some dest ∧ ¬ root <+: dest ∧
      PlainCopy options before root dest after ∧
      ∀ item, root <+: item → after item = before item ∨ MergedInto before root dest item
  | .movePath source destination options =>
    ∃ root dest copied, normalizeWorkspacePath source = some root ∧
      normalizeWorkspacePath destination = some dest ∧ ¬ root <+: dest ∧
      PlainCopy options before root dest copied ∧ after = remove copied root ∧
      ∀ item, root <+: item → before item ≠ none → after (mapped root dest item) = before item
  | .deletePath path _ =>
    ∃ rel, normalizeWorkspacePath path = some rel ∧ rel ≠ [] ∧ before rel ≠ none ∧
      after = remove before rel

-- An operation keeps a tree, and does to it what it does to a plain tree or, when it raises,
-- nothing.
structure Faithful (setting : Setting) (state : State) (op : Op) : Prop where
  rooted : Rooted (((workspace setting).next state op).view setting)
  done : (workspace setting).answer state op = .ok () →
    op.Plain setting (state.view setting) (((workspace setting).next state op).view setting)
  raised : ∀ error, (workspace setting).answer state op = .error error →
    ((workspace setting).next state op).view setting = state.view setting

end Plain

section Steps

variable {setting : Setting} {state : State}

def Op.Fits (setting : Setting) (state : State) : Op → Prop
  | .writeBytes path _ createDirs _ expectedSha256 =>
    ∀ rel, normalizeWorkspacePath path = some rel →
      Expected setting (state.view setting) rel expectedSha256 → createDirs = true →
        Clear (state.view setting) rel
  | .mkdir path => ∀ rel, normalizeWorkspacePath path = some rel → Clear (state.view setting) rel
  | .copyPath source destination options =>
    ∀ snapshot dest, state.collectTree setting source options.limits = .ok snapshot →
      destinationOf snapshot destination = .ok dest →
      CopyAccepted setting state snapshot dest options →
        CopyFits setting state snapshot dest options ∧
          (snapshot.kind = .dir → options.replaces = true → state.view setting dest = some .dir →
            ¬ dest <+: snapshot.root)
  | .movePath source destination options =>
    ∀ snapshot dest, state.collectTree setting source options.limits = .ok snapshot →
      destinationOf snapshot destination = .ok dest →
      state.movePreflight setting snapshot dest options = .ok () →
      CopyAccepted setting state snapshot dest options →
        MoveFits setting state snapshot dest options
  | .deletePath path limits =>
    ∀ snapshot, state.collectTree setting path limits = .ok snapshot →
      ∀ rel, snapshot.root <+: rel → Erasable setting state rel

structure Settles (setting : Setting) (state : State) (op : Op)
    (result : State × Except WorkspaceError Unit) : Prop where
  inv : Inv setting result.1
  done : result.2 = .ok () →
    op.Plain setting (state.view setting) (result.1.view setting)
  raised : ∀ error, result.2 = .error error → result.1 = state

theorem Settles.of_error (inv : Inv setting state) {op : Op} (error : WorkspaceError) :
    Settles setting state op (state, .error error) :=
  ⟨inv, fun answered => (by cases answered), fun _ _ => rfl⟩

theorem Settles.of_ok {op : Op} {after : State} (inv : Inv setting after)
    (plain : op.Plain setting (state.view setting) (after.view setting)) :
    Settles setting state op (after, .ok ()) :=
  ⟨inv, fun _ => plain, fun error raised => by cases raised⟩

variable {snapshot : Snapshot}

theorem collectTree_spec (inv : Inv setting state) {path : Text} {limits : Limits}
    (collected : state.collectTree setting path limits = .ok snapshot) :
    normalizeWorkspacePath path = some snapshot.root ∧ snapshot.Of (state.view setting) := by
  unfold State.collectTree at collected
  split at collected
  · cases collected
  · cases collected
  next rel proper isRel =>
    obtain ⟨root, of⟩ := collectRel_spec inv proper limits collected
    rw [root]
    exact ⟨isRel, of⟩

theorem destinationOf_spec {path : Text} {dest : Rel}
    (destination : destinationOf snapshot path = .ok dest) :
    normalizeWorkspacePath path = some dest ∧ dest ≠ [] ∧ ¬ snapshot.root <+: dest := by
  unfold destinationOf at destination
  split at destination
  · cases destination
  · cases destination
  next rel proper isRel =>
    split at destination
    · cases destination
    next outside =>
      cases destination
      exact ⟨isRel, proper, outside⟩

theorem expected_view {expectedSha256 : Option Text} {rel : Rel}
    (leaf : state.view setting rel ≠ some .dir)
    (unexpected : ¬ (expectedSha256 ≠ none ∧ expectedSha256 ≠
      some (setting.sha256 ((state.readOptionalBytes setting rel).getD [])))) :
    Expected setting (state.view setting) rel expectedSha256 := by
  intro digest isDigest
  have bytes := bytes_view state rel leaf
  rw [not_and_or, not_not, not_not] at unexpected
  rw [← bytes]
  cases unexpected with
  | inl nothing =>
    rw [nothing] at isDigest
    cases isDigest
  | inr same =>
    rw [same, Option.some.injEq] at isDigest
    rw [← isDigest]
    cases state.readOptionalBytes setting rel with
    | none => rfl
    | some data => rfl

theorem fits_clear (inv : Inv setting state) {path : Text} {data : Bytes}
    {createDirs overwrite : Bool} {expectedSha256 : Option Text} {rel : Rel}
    (fits : (Op.writeBytes path data createDirs overwrite expectedSha256).Fits setting state)
    (isRel : normalizeWorkspacePath path = some rel)
    (expected : ¬ (expectedSha256 ≠ none ∧ expectedSha256 ≠
      some (setting.sha256 ((state.readOptionalBytes setting rel).getD [])))) :
    createDirs = true → Clear (state.view setting) rel := by
  intro create
  by_cases dir : state.view setting rel = some .dir
  · exact Clear.of_there inv.rooted_view (by rw [dir]; simp)
  · exact fits rel isRel (expected_view dir expected) create

theorem writeBytes_settles (inv : Inv setting state) (path : Text) (data : Bytes)
    (createDirs overwrite : Bool) (expectedSha256 : Option Text)
    (fits : (Op.writeBytes path data createDirs overwrite expectedSha256).Fits setting state) :
    Settles setting state (.writeBytes path data createDirs overwrite expectedSha256)
      (state.perform setting (.writeBytes path data createDirs overwrite expectedSha256)) := by
  unfold State.perform
  dsimp only
  unfold State.writeBytes
  split
  · exact .of_error inv _
  · exact .of_error inv _
  next rel proper isRel =>
    dsimp only
    split
    · exact .of_error inv _
    next unexpected =>
      have clear := fits_clear inv fits isRel unexpected
      cases writeFile_arrives inv rel data createDirs overwrite clear with
      | inl failed =>
        obtain ⟨error, failed⟩ := failed
        rw [failed]
        exact .of_error inv error
      | inr written =>
        obtain ⟨after, done, may, arrives⟩ := written
        rw [done]
        exact .of_ok arrives.inv
          ⟨rel, isRel, expected_view may.leaf unexpected, may, arrives.view⟩

theorem no_file {node : Option (Node Bytes)} (noFile : ¬ node.map kindOf = some .file) :
    node = none ∨ node = some .dir := by
  cases node with
  | none => exact .inl rfl
  | some node =>
    cases node with
    | dir => exact .inr rfl
    | file data => exact absurd rfl noFile

theorem mkdir_settles (inv : Inv setting state) (path : Text)
    (fits : (Op.mkdir path).Fits setting state) :
    Settles setting state (.mkdir path) (state.perform setting (.mkdir path)) := by
  unfold State.perform
  dsimp only
  unfold State.mkdir
  split
  · exact .of_error inv _
  · exact .of_error inv _
  next rel proper isRel =>
    rw [effectiveKind_eq]
    split
    · exact .of_error inv _
    next noFile =>
      have free := no_file noFile
      have clear := fits rel isRel
      have made := mkdirForTree_becomes inv proper clear free
      refine .of_ok made.inv ⟨rel, isRel, proper, ?_, made.view⟩
      intro query within
      by_cases same : query = rel
      · rw [same]; exact free
      · exact clear query ⟨within, same⟩

theorem deletePath_settles (inv : Inv setting state) (path : Text) (limits : Limits)
    (fits : (Op.deletePath path limits).Fits setting state) :
    Settles setting state (.deletePath path limits)
      (state.perform setting (.deletePath path limits)) := by
  unfold State.perform
  dsimp only
  unfold State.deletePath State.deleteCollected
  split
  · exact .of_error inv _
  next snapshot collected =>
    obtain ⟨isRoot, of⟩ := collectTree_spec inv collected
    have deleted := deleteSnapshot_arrives inv of (fits snapshot collected)
    refine .of_ok deleted.inv ⟨snapshot.root, isRoot, of.proper, ?_, deleted.view⟩
    have kind := of.kind
    split at kind
    · obtain ⟨data, there, _⟩ := kind
      rw [there]
      simp
    · rw [kind]; simp

theorem copied_source {options : CopyOptions} {before after : View Text Bytes} {root dest : Rel}
    (copied : PlainCopy options before root dest after) (outside : ¬ root <+: dest)
    (apart : options.replaces = true → before dest = some .dir → ¬ dest <+: root) {item : Rel}
    (within : root <+: item) : after item = before item ∨ MergedInto before root dest item := by
  by_cases merged : MergedInto before root dest item
  · exact .inr merged
  · apply Or.inl
    apply copied.elsewhere
    · rintro (inside | ⟨replaces, dir, below⟩)
      · exact merged inside
      · cases List.prefix_or_prefix_of_prefix below within with
        | inl higher => exact apart replaces dir higher
        | inr under => exact outside under
    · exact fun above => outside (within.trans above.1)

theorem copyPath_settles (inv : Inv setting state) (source destination : Text)
    (options : CopyOptions) (fits : (Op.copyPath source destination options).Fits setting state) :
    Settles setting state (.copyPath source destination options)
      (state.perform setting (.copyPath source destination options)) := by
  unfold State.perform
  dsimp only
  unfold State.copyPath
  split
  · exact .of_error inv _
  next snapshot collected =>
    split
    · exact .of_error inv _
    next dest isDest =>
      obtain ⟨isRoot, of⟩ := collectTree_spec inv collected
      obtain ⟨isTarget, proper, outside⟩ := destinationOf_spec isDest
      have fitting := fits snapshot dest collected isDest
      cases copyTree_arrives inv of proper fun accepted => (fitting accepted).1 with
      | inl failed =>
        obtain ⟨error, failed⟩ := failed
        rw [failed]
        exact .of_error inv error
      | inr copied =>
        obtain ⟨counts, after, view, done, accepted, plain, arrives, _⟩ := copied
        rw [done]
        refine .of_ok arrives.inv ⟨snapshot.root, dest, isRoot, isTarget, outside, ?_, ?_⟩
        · rw [arrives.view]; exact plain
        · intro item within
          rw [arrives.view]
          apply copied_source plain outside _ within
          intro replaces dir
          apply (fitting accepted).2 _ replaces dir
          cases isKind : snapshot.kind with
          | dir => rfl
          | file =>
            have kind := of.kind
            rw [isKind] at kind
            obtain ⟨data, there, _⟩ := kind
            unfold PlainCopy at plain
            rw [there] at plain
            exact absurd dir plain.1.leaf

theorem copyPath_again {source destination : Text} {options : CopyOptions} {dest : Rel}
    (collected : state.collectTree setting source options.limits = .ok snapshot)
    (isDest : destinationOf snapshot destination = .ok dest) :
    state.copyPath setting source destination options =
      state.copyTree setting snapshot dest options := by
  unfold State.copyPath
  rw [collected]
  dsimp only
  rw [isDest]

theorem movePath_settles (inv : Inv setting state) (source destination : Text)
    (options : CopyOptions) (fits : (Op.movePath source destination options).Fits setting state) :
    Settles setting state (.movePath source destination options)
      (state.perform setting (.movePath source destination options)) := by
  unfold State.perform
  dsimp only
  unfold State.movePath
  split
  · exact .of_error inv _
  next snapshot collected =>
    split
    · exact .of_error inv _
    next dest isDest =>
      split
      · exact .of_error inv _
      next passed =>
        obtain ⟨isRoot, of⟩ := collectTree_spec inv collected
        obtain ⟨isTarget, proper, outside⟩ := destinationOf_spec isDest
        have fitting := fits snapshot dest collected isDest passed
        rw [copyPath_again collected isDest]
        cases copyTree_arrives inv of proper fun accepted => (fitting accepted).1 with
        | inl failed =>
          obtain ⟨error, failed⟩ := failed
          rw [failed]
          exact .of_error inv error
        | inr copied =>
          obtain ⟨counts, between, view, done, accepted, plain, arrives, forgets⟩ := copied
          rw [done]
          obtain ⟨after, moved⟩ := moved_arrives of outside (fitting accepted) plain arrives
            forgets
          refine .of_ok after
            ⟨snapshot.root, dest, view, isRoot, isTarget, outside, plain, moved, ?_⟩
          intro item within there
          rw [moved]
          unfold remove
          rw [if_neg ((fitting accepted).2.2 item within there)]
          exact plain.at_mapped inv.rooted_view within there

theorem perform_settles (inv : Inv setting state) (op : Op) (fits : op.Fits setting state) :
    Settles setting state op (state.perform setting op) := by
  cases op with
  | writeBytes path data createDirs overwrite expectedSha256 =>
    exact writeBytes_settles inv path data createDirs overwrite expectedSha256 fits
  | mkdir path => exact mkdir_settles inv path fits
  | copyPath source destination options =>
    exact copyPath_settles inv source destination options fits
  | movePath source destination options =>
    exact movePath_settles inv source destination options fits
  | deletePath path limits => exact deletePath_settles inv path limits fits

theorem init_inv (setting : Setting) :
    Inv setting State.init ∧ State.init.view setting = setting.base.node := by
  have marked : State.init.marked setting = setting.base.node := by
    funext rel
    simp [State.marked, State.init]
  have inv : Inv setting State.init := by
    refine ⟨?_, ?_, ?_⟩
    · rw [marked]; exact setting.base.rooted
    · intro rel inside; cases inside
    · rintro rel _ ⟨deleted, inside, _⟩
      cases inside
  exact ⟨inv, by rw [inv.view_eq, marked]⟩

end Steps

section Runs

variable (setting : Setting)

theorem workspace_is_plain_tree (ops : List Op)
    (fits : (workspace setting).Along (fun state op => op.Fits setting state) State.init ops) :
    State.init.view setting = setting.base.node ∧
      (workspace setting).Along (Faithful setting) State.init ops := by
  obtain ⟨inv, view⟩ := init_inv setting
  refine ⟨view, ?_⟩
  have along := Machine.Along.invariant (m := workspace setting) (Inv setting)
    (fun state op inv fits => (perform_settles inv op fits).inv) inv fits
  apply along.mono
  rintro state op ⟨inv, fits⟩
  have settles := perform_settles inv op fits
  refine ⟨settles.inv.rooted_view, settles.done, ?_⟩
  intro error raised
  exact congrArg (State.view setting) (settles.raised error raised)

end Runs

section Samples

def emptyBase : Setting where
  base := ⟨[], by simp⟩
  maxBytesRead := 1000
  sha256 := fun data => data.map fun byte => Char.ofNat byte.toNat

theorem file_below_file :
    ¬ (workspace emptyBase).Along (Faithful emptyBase) State.init
      [.writeBytes "a".toList [1] false true none,
      .writeBytes "a/b".toList [2] true true none] := by
  rintro ⟨_, below, _⟩
  have above : Above ["a".toList] ["a".toList, "b".toList] := by decide
  have dir := below.rooted.above _ _ above (by decide +kernel)
  revert dir
  decide +kernel

theorem written_made_moved :
    State.init.view emptyBase = emptyBase.base.node ∧
      (workspace emptyBase).Along (Faithful emptyBase) State.init
        [.writeBytes "a".toList [1] true true none, .mkdir "d".toList,
          .movePath "a".toList "d/a".toList ⟨false, false, ⟨false, 10, 100⟩, .merge⟩] := by
  apply workspace_is_plain_tree
  have top : ∀ (view : View Text Bytes) (name : Text), view [] = some .dir → Clear view [name] := by
    intro view name root upper above
    rw [List.prefix_nil.mp above.dropLast]
    exact .inr root
  refine ⟨?_, ?_, ?_, trivial⟩
  · intro rel isRel _ _
    have known : some ["a".toList] = some rel := isRel
    cases known
    exact top _ _ (by decide +kernel)
  · intro rel isRel
    have known : some ["d".toList] = some rel := isRel
    cases known
    exact top _ _ (by decide +kernel)
  · intro snapshot dest collected isDest _ _
    have source : Except.ok ⟨["a".toList], .file, [(["a".toList], [1])], [], 1⟩ =
        Except.ok snapshot := collected
    cases source
    have target : Except.ok ["d".toList, "a".toList] = Except.ok dest := isDest
    cases target
    refine ⟨(fun create => by cases create), ?_, ?_⟩
    · intro rel within there
      have root : rel = [] := by
        by_contra proper
        apply there
        exact Library.FileTree.nodeOf_find [] proper
      rw [root] at within
      exact absurd (List.prefix_nil.mp within) (by simp)
    · intro item _ _ within
      obtain ⟨suffix, same⟩ := within
      have first := congrArg List.head? same
      simp [mapped] at first

end Samples

end MonoidKernel.Workspace
