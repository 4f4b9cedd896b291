import MonoidKernel.Core.Packages
import Mathlib.Data.List.Pairwise

set_option autoImplicit false

namespace MonoidKernel.Packages

open Library (FileTree Node)
open Library.FileTree (Above above_iff)
open MonoidKernel.Workspace

variable {Bytes : Type} [DecidableEq Bytes] {sha256 : Bytes → Text}

section Entries

def ApprovedFile.writes (file : ApprovedFile) : Prop :=
  file.info.changeKind = .created ∨ file.info.changeKind = .modified

def ApprovedFile.puts (file : ApprovedFile) : Prop :=
  file.writes ∨ file.info.changeKind = .directory

instance (file : ApprovedFile) : Decidable file.writes := inferInstanceAs (Decidable (_ ∨ _))

instance (file : ApprovedFile) : Decidable file.puts := inferInstanceAs (Decidable (_ ∨ _))

theorem ApprovedFile.below_root (file : ApprovedFile) : file.rel ≠ [] := by
  intro root
  have normalized := file.normalized
  unfold normalizeApprovalPath normalizeBelowRoot at normalized
  split at normalized
  · cases normalized
  next notRoot => exact notRoot (by rw [normalized, root])

def snapshotOf (package : Package Bytes) (file : ApprovedFile) : Option Bytes :=
  (file.info.snapshotPath.bind safePackagePath).bind package.content

def nodeAfter (package : Package Bytes) (file : ApprovedFile) : Option (Node Bytes) :=
  match file.info.changeKind with
  | .created | .modified => (snapshotOf package file).map .file
  | .directory => some .dir
  | .deleted | .unsupported _ => none

def standing (package : Package Bytes) (target : Target Bytes) (done : List ApprovedFile)
    (query : Rel) : Option (Node Bytes) :=
  match done.reverse.find? fun file => decide (file.rel = query) with
  | some file => nodeAfter package file
  | none =>
    if target.node query = none ∧ ∃ file ∈ done, file.puts ∧ Above query file.rel then some .dir
    else target.node query

def Fits (sha256 : Bytes → Text) (target : Target Bytes) (deleted : List Rel)
    (file : ApprovedFile) : Prop :=
  match file.info.changeKind with
  | .created => target.node file.rel = none
  | .modified => targetHash sha256 target file.rel = file.info.baseSha256
  | .directory => target.node file.rel = none ∨ target.node file.rel = some .dir
  | .deleted =>
    if target.node file.rel = some .dir then ∀ lower ∈ target.below file.rel, lower ∈ deleted
    else targetHash sha256 target file.rel = file.info.baseSha256
  | .unsupported _ => False

omit [DecidableEq Bytes] in
theorem dirDeleteConflict_none (tree : Target Bytes) (rel : Rel) (deleted : List Rel) :
    dirDeleteConflict tree rel deleted = none ↔ ∀ lower ∈ tree.below rel, lower ∈ deleted := by
  unfold dirDeleteConflict
  simp only [Option.map_eq_none_iff, List.find?_eq_none, decide_eq_true_eq, not_not,
    List.mem_insertionSort]

variable (sha256) in
theorem applyOne_dry (package : Package Bytes) (deleted : List Rel) (file : ApprovedFile)
    (tree : Target Bytes) :
    ∃ conflict, applyOne sha256 package deleted true file tree = (.ok conflict, tree) ∧
      (conflict = none ↔ Fits sha256 tree deleted file) := by
  unfold applyOne Fits changing
  dsimp only
  cases kind : file.info.changeKind with
  | created =>
    dsimp only
    split
    next there => exact ⟨_, rfl, by simpa using there⟩
    next missing => exact ⟨_, rfl, by simpa using missing⟩
  | modified =>
    dsimp only
    split
    next other => exact ⟨_, rfl, by simpa using other⟩
    next same => exact ⟨_, rfl, by simpa using same⟩
  | directory =>
    dsimp only
    split
    next file => exact ⟨_, rfl, by simpa [not_or] using file⟩
    next free =>
      refine ⟨_, rfl, ?_⟩
      rw [not_and_or, not_not, not_not] at free
      simpa using free
  | deleted =>
    dsimp only
    split
    · rw [← dirDeleteConflict_none]
      split
      next conflict found => exact ⟨_, rfl, by simp [found]⟩
      next clear => exact ⟨_, rfl, by simp [clear]⟩
    · split
      next other => exact ⟨_, rfl, by simpa using other⟩
      next same => exact ⟨_, rfl, by simpa using same⟩
  | unsupported text => exact ⟨_, rfl, by simp⟩

variable (sha256) in
theorem preflight_spec (package : Package Bytes) (deleted : List Rel) (files : List ApprovedFile)
    (tree : Target Bytes) :
    ∃ wouldApply conflicts,
      preflight sha256 package deleted files tree = (.ok (wouldApply, conflicts), tree) ∧
        (conflicts = [] ↔ ∀ file ∈ files, Fits sha256 tree deleted file) := by
  induction files with
  | nil => exact ⟨[], [], rfl, by simp⟩
  | cons file rest ih =>
    obtain ⟨conflict, first, fits⟩ := applyOne_dry sha256 package deleted file tree
    obtain ⟨wouldApply, conflicts, others, all⟩ := ih
    cases conflict with
    | some conflict =>
      refine ⟨wouldApply, conflict :: conflicts, ?_, ?_⟩
      · simp only [preflight, first, others]
      · rw [List.forall_mem_cons, ← fits]
        simp
    | none =>
      refine ⟨file.info.path :: wouldApply, conflicts, ?_, ?_⟩
      · simp only [preflight, first, others]
      · rw [List.forall_mem_cons, ← fits, all, eq_self, true_and]

end Entries

section Turns

def nodeHash (sha256 : Bytes → Text) (node : Option (Node Bytes)) : Option Text :=
  match node with
  | some (.file bytes) => some (sha256 bytes)
  | _ => none

def Open (view : Rel → Option (Node Bytes)) (rel : Rel) : Prop :=
  ∀ upper, Above upper rel → view upper = none ∨ view upper = some .dir

-- Nothing stands in the way of an entry at its turn.
def Clear (sha256 : Bytes → Text) (view : Rel → Option (Node Bytes)) (file : ApprovedFile) :
    Prop :=
  match file.info.changeKind with
  | .created =>
    view file.rel = none ∧ file.info.snapshotPath ≠ none ∧ Open view file.rel
  | .modified =>
    nodeHash sha256 (view file.rel) = file.info.baseSha256 ∧ view file.rel ≠ some .dir ∧
      file.info.snapshotPath ≠ none ∧ Open view file.rel
  | .directory => (view file.rel = none ∨ view file.rel = some .dir) ∧ Open view file.rel
  | .deleted =>
    if view file.rel = some .dir then ∀ lower, Above file.rel lower → view lower = none
    else nodeHash sha256 (view file.rel) = file.info.baseSha256
  | .unsupported _ => False

theorem puts_first {first second : ApprovedFile} (ordered : applyKey first ≤ applyKey second)
    (puts : second.puts) : first.info.changeKind ≠ .deleted := by
  intro deletes
  have isDelete : first.isDelete = true := by simpa [ApprovedFile.isDelete] using deletes
  have later : second.isDelete = false := by
    unfold ApprovedFile.isDelete
    rw [decide_eq_false_iff_not]
    intro deleted
    simp [ApprovedFile.puts, ApprovedFile.writes, deleted] at puts
  unfold applyKey at ordered
  rw [isDelete, later] at ordered
  simp only [true_and, Bool.false_eq_true, false_and, if_false, if_true] at ordered
  split at ordered
  · exact absurd ordered (by simp [Prod.Lex.le_iff])
  · exact absurd ordered (by simp [Prod.Lex.le_iff])

omit [DecidableEq Bytes] in
theorem snapshot_found {package : Package Bytes} {file : ApprovedFile}
    (verified : snapshotVerified sha256 package file.info = true)
    (there : file.info.snapshotPath ≠ none) :
    ∃ first others snapshot bytes, file.info.snapshotPath = some (first :: others) ∧
      safePackagePath (first :: others) = some snapshot ∧ package.content snapshot = some bytes ∧
        snapshotOf package file = some bytes := by
  obtain ⟨raw, isPath⟩ := Option.ne_none_iff_exists'.mp there
  unfold snapshotVerified at verified
  rw [isPath] at verified
  dsimp only at verified
  split at verified
  · cases verified
  next snapshot safe =>
    split at verified
    · cases verified
    next bytes content =>
      cases raw with
      | nil => cases safe
      | cons first others =>
        refine ⟨first, others, snapshot, bytes, isPath, safe, content, ?_⟩
        unfold snapshotOf
        rw [isPath, Option.bind_some, safe, Option.bind_some, content]

theorem Clear.makes {package : Package Bytes} {view : Rel → Option (Node Bytes)}
    {file : ApprovedFile} (clear : Clear sha256 view file)
    (verified : snapshotVerified sha256 package file.info = true)
    (keeps : file.info.changeKind ≠ .deleted) : nodeAfter package file ≠ none := by
  unfold Clear at clear
  unfold nodeAfter
  split at clear
  next created =>
    obtain ⟨_, _, _, bytes, _, _, _, found⟩ := snapshot_found verified clear.2.1
    simp [found]
  next modified =>
    obtain ⟨_, _, _, bytes, _, _, _, found⟩ := snapshot_found verified clear.2.2.1
    simp [found]
  · simp
  next deleted => exact absurd deleted keeps
  · exact clear.elim

end Turns

section Standing

variable {package : Package Bytes} {target : Target Bytes} {done : List ApprovedFile}
  {file : ApprovedFile}

def Reached (package : Package Bytes) (target : Target Bytes) (done : List ApprovedFile)
    (tree : Target Bytes) : Prop :=
  ∀ query, tree.node query = standing package target done query

omit [DecidableEq Bytes] in
theorem start (package : Package Bytes) (target : Target Bytes) :
    Reached package target [] target := by
  intro query
  simp [standing]

omit [DecidableEq Bytes] in
theorem standing_here (package : Package Bytes) (target : Target Bytes) (done : List ApprovedFile)
    (file : ApprovedFile) :
    standing package target (done ++ [file]) file.rel = nodeAfter package file := by
  simp [standing]

omit [DecidableEq Bytes] in
theorem standing_keeps (keeps : ¬ file.puts) {query : Rel} (elsewhere : query ≠ file.rel) :
    standing package target (done ++ [file]) query = standing package target done query := by
  have same : (∃ other ∈ done ++ [file], other.puts ∧ Above query other.rel) ↔
      ∃ other ∈ done, other.puts ∧ Above query other.rel := by
    simp [or_and_right, exists_or, keeps]
  unfold standing
  rw [List.reverse_append, List.reverse_singleton, List.singleton_append,
    List.find?_cons_of_neg (by simpa using Ne.symm elsewhere)]
  simp only [same]

omit [DecidableEq Bytes] in
theorem standing_puts (puts : file.puts) (parents : Open (standing package target done) file.rel)
    (made : ∀ other ∈ done, nodeAfter package other ≠ none) {query : Rel}
    (elsewhere : query ≠ file.rel) :
    standing package target (done ++ [file]) query =
      if Above query file.rel then some .dir else standing package target done query := by
  have skip : (done ++ [file]).reverse.find? (fun other => decide (other.rel = query)) =
      done.reverse.find? fun other => decide (other.rel = query) := by
    rw [List.reverse_append, List.reverse_singleton, List.singleton_append,
      List.find?_cons_of_neg (by simpa using Ne.symm elsewhere)]
  split
  next above =>
    have clear := parents query above
    unfold standing at clear ⊢
    rw [skip]
    cases found : done.reverse.find? fun other => decide (other.rel = query) with
    | some other =>
      rw [found] at clear
      have inside := List.mem_reverse.mp (List.mem_of_find?_eq_some found)
      exact clear.resolve_left (made other inside)
    | none =>
      rw [found] at clear
      dsimp only at clear ⊢
      by_cases missing : target.node query = none
      · rw [if_pos ⟨missing, file, by simp, puts, above⟩]
      · rw [if_neg fun both => missing both.1] at clear ⊢
        exact clear.resolve_left missing
  next beside =>
    have same : (∃ other ∈ done ++ [file], other.puts ∧ Above query other.rel) ↔
        ∃ other ∈ done, other.puts ∧ Above query other.rel := by
      simp [or_and_right, exists_or, beside]
    unfold standing
    rw [skip]
    simp only [same]

end Standing

section Run

variable {package : Package Bytes} {target : Target Bytes} {deleted : List Rel}
  {done rest : List ApprovedFile} {file : ApprovedFile} {tree : Target Bytes}

theorem writeSnapshot_clear (verified : snapshotVerified sha256 package file.info = true)
    (there : file.info.snapshotPath ≠ none) (leaf : tree.node file.rel ≠ some .dir)
    (parents : Open tree.node file.rel) :
    ∃ bytes after, snapshotOf package file = some bytes ∧
      writeSnapshot package file tree = (.ok (), after) ∧
        ∀ query, after.node query =
          if query = file.rel then some (.file bytes)
          else if Above query file.rel then some .dir else tree.node query := by
  have proper := file.below_root
  obtain ⟨first, others, snapshot, bytes, isPath, safe, content, found⟩ :=
    snapshot_found verified there
  obtain ⟨made, makes, are⟩ := tree.makeDirs_spec file.rel.dropLast fun upper within =>
    parents upper ((above_iff proper).mpr within)
  have still : made.node file.rel ≠ some .dir := by
    rw [are, if_neg]
    · exact leaf
    · intro within
      exact Library.FileTree.above_irrefl file.rel ((above_iff proper).mpr within)
  obtain ⟨after, written, is⟩ := made.writeFile_spec file.rel bytes
    (by rw [are, if_pos (List.prefix_refl _)]) still
  refine ⟨bytes, after, found, ?_, ?_⟩
  · unfold writeSnapshot
    rw [isPath]
    dsimp only
    rw [safe]
    dsimp only
    rw [makes]
    dsimp only
    rw [content]
    dsimp only
    rw [written]
    rfl
  · intro query
    rw [is, are]
    simp only [above_iff proper]

theorem writeSnapshot_blocked (verified : snapshotVerified sha256 package file.info = true)
    (blocked : ¬ (tree.node file.rel ≠ some .dir ∧ file.info.snapshotPath ≠ none ∧
      Open tree.node file.rel)) :
    ∃ error after, writeSnapshot package file tree = (.error error, after) ∧
      ∀ query, after.node query = tree.node query := by
  have proper := file.below_root
  by_cases missing : file.info.snapshotPath = none
  · unfold writeSnapshot
    rw [missing]
    exact ⟨_, _, rfl, fun query => rfl⟩
  obtain ⟨first, others, snapshot, bytes, isPath, safe, content, _⟩ :=
    snapshot_found verified missing
  unfold writeSnapshot
  rw [isPath]
  dsimp only
  rw [safe]
  dsimp only
  by_cases parents : Open tree.node file.rel
  · have dir : tree.node file.rel = some .dir := by
      by_contra leaf
      exact blocked ⟨leaf, missing, parents⟩
    obtain ⟨made, makes, are⟩ := tree.makeDirs_spec file.rel.dropLast fun upper within =>
      parents upper ((above_iff proper).mpr within)
    have same : ∀ query, made.node query = tree.node query := by
      intro query
      rw [are]
      split
      next within =>
        have above := (above_iff proper).mpr within
        exact (tree.rooted.above query file.rel above (by simp [dir])).symm
      · rfl
    rw [makes]
    dsimp only
    rw [content]
    dsimp only
    rw [made.writeFile_dir file.rel bytes (by rw [same, dir])]
    exact ⟨_, _, rfl, same⟩
  · have none' := tree.makeDirs_blocked file.rel.dropLast fun clear =>
      parents fun upper above => clear upper ((above_iff proper).mp above)
    rw [none']
    exact ⟨_, _, rfl, fun query => rfl⟩

omit [DecidableEq Bytes] in
theorem open_within (here : tree.node file.rel = none ∨ tree.node file.rel = some .dir)
    (parents : Open tree.node file.rel) {upper : Rel} (within : upper <+: file.rel) :
    tree.node upper = none ∨ tree.node upper = some .dir := by
  by_cases same : upper = file.rel
  · rw [same]; exact here
  · exact parents upper ⟨within, same⟩

omit [DecidableEq Bytes] in
theorem reached_put (reached : Reached package target done tree) (puts : file.puts)
    (made : ∀ other ∈ done, nodeAfter package other ≠ none) (parents : Open tree.node file.rel)
    {after : Target Bytes}
    (are : ∀ query, after.node query =
      if query = file.rel then nodeAfter package file
      else if Above query file.rel then some .dir else tree.node query) :
    Reached package target (done ++ [file]) after := by
  have view : tree.node = standing package target done := funext reached
  intro query
  rw [are, reached]
  split
  next here => rw [here, standing_here]
  next elsewhere => rw [standing_puts puts (by rw [← view]; exact parents) made elsewhere]

omit [DecidableEq Bytes] in
theorem reached_deleted (reached : Reached package target done tree)
    (deletes : file.info.changeKind = .deleted) {after : Target Bytes}
    (are : ∀ query, after.node query = if query = file.rel then none else tree.node query) :
    Reached package target (done ++ [file]) after := by
  intro query
  rw [are, reached]
  split
  next here =>
    rw [here, standing_here]
    simp [nodeAfter, deletes]
  next elsewhere =>
    rw [standing_keeps (by simp [ApprovedFile.puts, ApprovedFile.writes, deletes]) elsewhere]

omit [DecidableEq Bytes] in
theorem changing_done {change : Attempt Unit Bytes} {after : Target Bytes}
    (done : change = (.ok (), after)) (tree : Target Bytes) :
    changing false tree change = (.ok none, after) := by
  rw [done]
  rfl

omit [DecidableEq Bytes] in
theorem changing_failed {change : Attempt Unit Bytes} {error : ApplyError} {after : Target Bytes}
    (failed : change = (.error error, after)) (tree : Target Bytes) :
    changing false tree change = (.error error, after) := by
  rw [failed]
  rfl

omit [DecidableEq Bytes] in
theorem operate_made {after : Target Bytes} {made : Option (Target Bytes)}
    (is : made = some after) : operate tree made = (.ok (), after) := by
  rw [is]
  rfl

omit [DecidableEq Bytes] in
theorem operate_stuck {made : Option (Target Bytes)} (is : made = none) :
    operate tree made = (.error .osError, tree) := by
  rw [is]
  rfl

variable (sha256 deleted) in
theorem applyOne_clear (verified : snapshotVerified sha256 package file.info = true)
    (made : file.puts → ∀ other ∈ done, nodeAfter package other ≠ none)
    (reached : Reached package target done tree)
    (clear : Clear sha256 (standing package target done) file) :
    ∃ after, applyOne sha256 package deleted false file tree = (.ok none, after) ∧
      Reached package target (done ++ [file]) after := by
  have proper := file.below_root
  have view : standing package target done = tree.node := funext fun query => (reached query).symm
  rw [view] at clear
  unfold Clear at clear
  unfold applyOne
  dsimp only
  cases kind : file.info.changeKind with
  | created =>
    rw [kind] at clear
    obtain ⟨missing, there, parents⟩ := clear
    obtain ⟨bytes, after, found, written, are⟩ :=
      writeSnapshot_clear verified there (by simp [missing]) parents
    have puts : file.puts := .inl (.inl kind)
    have makes : nodeAfter package file = some (.file bytes) := by simp [nodeAfter, kind, found]
    refine ⟨after, ?_, reached_put reached puts (made puts) parents (by rw [makes]; exact are)⟩
    dsimp only
    rw [if_neg (by simpa using missing), changing_done written]
  | modified =>
    rw [kind] at clear
    obtain ⟨current, leaf, there, parents⟩ := clear
    obtain ⟨bytes, after, found, written, are⟩ := writeSnapshot_clear verified there leaf parents
    have puts : file.puts := .inl (.inr kind)
    have makes : nodeAfter package file = some (.file bytes) := by simp [nodeAfter, kind, found]
    refine ⟨after, ?_, reached_put reached puts (made puts) parents (by rw [makes]; exact are)⟩
    have hash : targetHash sha256 tree file.rel = file.info.baseSha256 := current
    dsimp only
    rw [if_neg (not_not.mpr hash), changing_done written]
  | directory =>
    rw [kind] at clear
    obtain ⟨here, parents⟩ := clear
    obtain ⟨after, makes, are⟩ := tree.makeDirs_spec file.rel fun upper within =>
      open_within here parents within
    have puts : file.puts := .inr kind
    refine ⟨after, ?_, reached_put reached puts (made puts) parents ?_⟩
    · dsimp only
      rw [if_neg fun both => here.elim both.1 both.2, changing_done (operate_made makes)]
    · intro query
      rw [are]
      by_cases same : query = file.rel
      · simp [same, nodeAfter, kind]
      · have above : Above query file.rel ↔ query <+: file.rel :=
          ⟨fun above => above.1, fun within => ⟨within, same⟩⟩
        simp only [same, if_false, above]
  | deleted =>
    rw [kind] at clear
    dsimp only at clear ⊢
    split at clear
    next dir =>
      have empty : tree.below file.rel = [] := by
        rw [List.eq_nil_iff_forall_not_mem]
        intro lower member
        obtain ⟨above, there⟩ := (tree.mem_below file.rel lower).mp member
        exact there (clear lower above)
      obtain ⟨after, removed, are⟩ := tree.removeDir_spec file.rel proper dir empty
      refine ⟨after, ?_, reached_deleted reached kind are⟩
      rw [if_pos dir, (dirDeleteConflict_none tree file.rel _).mpr (by simp [empty])]
      dsimp only
      rw [changing_done (operate_made removed)]
    next leaf =>
      have hash : targetHash sha256 tree file.rel = file.info.baseSha256 := clear
      rw [if_neg leaf, if_neg (not_not.mpr hash)]
      by_cases there : tree.node file.rel = none
      · refine ⟨tree, ?_, reached_deleted reached kind ?_⟩
        · rw [if_neg (not_not.mpr there), changing_done rfl]
        · intro query
          split
          next here => rw [here, there]
          · rfl
      · obtain ⟨after, removed, are⟩ := tree.unlink_spec file.rel there leaf
        refine ⟨after, ?_, reached_deleted reached kind are⟩
        rw [if_pos there, changing_done (operate_made removed)]
  | unsupported text =>
    rw [kind] at clear
    exact clear.elim

variable (sha256 deleted) in
theorem applyOne_blocked (verified : snapshotVerified sha256 package file.info = true)
    (blocked : ¬ Clear sha256 tree.node file) :
    ∃ outcome after, applyOne sha256 package deleted false file tree = (outcome, after) ∧
      outcome ≠ .ok none ∧ ∀ query, after.node query = tree.node query := by
  unfold Clear at blocked
  unfold applyOne
  dsimp only
  cases kind : file.info.changeKind with
  | created =>
    rw [kind] at blocked
    dsimp only
    split
    · exact ⟨_, _, rfl, by simp, fun query => rfl⟩
    next missing =>
      rw [not_not] at missing
      obtain ⟨error, after, failed, same⟩ := writeSnapshot_blocked verified fun free =>
        blocked ⟨missing, free.2⟩
      exact ⟨_, _, changing_failed failed tree, by simp, same⟩
  | modified =>
    rw [kind] at blocked
    dsimp only
    split
    · exact ⟨_, _, rfl, by simp, fun query => rfl⟩
    next current =>
      rw [not_not] at current
      obtain ⟨error, after, failed, same⟩ := writeSnapshot_blocked verified fun free =>
        blocked ⟨current, free⟩
      exact ⟨_, _, changing_failed failed tree, by simp, same⟩
  | directory =>
    rw [kind] at blocked
    dsimp only
    split
    · exact ⟨_, _, rfl, by simp, fun query => rfl⟩
    next free =>
      rw [not_and_or, not_not, not_not] at free
      have stuck := tree.makeDirs_blocked file.rel fun clear =>
        blocked ⟨free, fun upper above => clear upper above.1⟩
      exact ⟨_, _, changing_failed (operate_stuck stuck) tree, by simp, fun query => rfl⟩
  | deleted =>
    rw [kind] at blocked
    dsimp only at blocked ⊢
    split
    next dir =>
      rw [if_pos dir] at blocked
      split
      · exact ⟨_, _, rfl, by simp, fun query => rfl⟩
      · have full : tree.below file.rel ≠ [] := by
          intro empty
          apply blocked
          intro lower above
          by_contra there
          have member := (tree.mem_below file.rel lower).mpr ⟨above, there⟩
          rw [empty] at member
          cases member
        have stuck := tree.removeDir_full file.rel full
        exact ⟨_, _, changing_failed (operate_stuck stuck) tree, by simp, fun query => rfl⟩
    next leaf =>
      rw [if_neg leaf] at blocked
      split
      · exact ⟨_, _, rfl, by simp, fun query => rfl⟩
      next current => exact absurd (not_not.mp current) blocked
  | unsupported text => exact ⟨_, _, rfl, by simp, fun query => rfl⟩

def Cleared (sha256 : Bytes → Text) (package : Package Bytes) (target : Target Bytes) :
    List ApprovedFile → List ApprovedFile → Prop
  | _, [] => True
  | done, file :: rest =>
    Clear sha256 (standing package target done) file ∧
      Cleared sha256 package target (done ++ [file]) rest

theorem cleared_or_blocked (sha256 : Bytes → Text) (package : Package Bytes)
    (target : Target Bytes) (done rest : List ApprovedFile) :
    Cleared sha256 package target done rest ∨
      ∃ before file later, rest = before ++ file :: later ∧
        Cleared sha256 package target done before ∧
          ¬ Clear sha256 (standing package target (done ++ before)) file := by
  induction rest generalizing done with
  | nil => exact .inl trivial
  | cons file rest ih =>
    by_cases clear : Clear sha256 (standing package target done) file
    · cases ih (done ++ [file]) with
      | inl cleared => exact .inl ⟨clear, cleared⟩
      | inr blocked =>
        obtain ⟨before, other, later, rfl, cleared, stuck⟩ := blocked
        refine .inr ⟨file :: before, other, later, rfl, ⟨clear, cleared⟩, ?_⟩
        rwa [List.append_assoc] at stuck
    · exact .inr ⟨[], file, rest, rfl, trivial, by rwa [List.append_nil]⟩

structure Turns (sha256 : Bytes → Text) (package : Package Bytes) (done rest : List ApprovedFile) :
    Prop where
  ordered : (done ++ rest).Pairwise fun first second => applyKey first ≤ applyKey second
  verified : ∀ file ∈ rest, snapshotVerified sha256 package file.info = true
  made : ∀ other ∈ done, other.info.changeKind ≠ .deleted → nodeAfter package other ≠ none

omit [DecidableEq Bytes] in
theorem Turns.puts (turns : Turns sha256 package done (file :: rest)) (puts : file.puts) :
    ∀ other ∈ done, nodeAfter package other ≠ none := by
  intro other member
  have before := (List.pairwise_append.mp turns.ordered).2.2 other member file List.mem_cons_self
  exact turns.made other member (puts_first before puts)

theorem Turns.after (turns : Turns sha256 package done (file :: rest))
    {view : Rel → Option (Node Bytes)} (clear : Clear sha256 view file) :
    Turns sha256 package (done ++ [file]) rest := by
  refine ⟨?_, fun other member => turns.verified other (List.mem_cons_of_mem _ member), ?_⟩
  · rw [List.append_assoc]
    exact turns.ordered
  · intro other member keeps
    cases List.mem_append.mp member with
    | inl early => exact turns.made other early keeps
    | inr here =>
      obtain rfl := List.mem_singleton.mp here
      exact clear.makes (turns.verified other List.mem_cons_self) keeps

variable (deleted) in
theorem applyFiles_cleared (turns : Turns sha256 package done rest)
    (reached : Reached package target done tree)
    (cleared : Cleared sha256 package target done rest) :
    ∃ applied after, applyFiles sha256 package deleted rest tree = (.ok applied, after) ∧
      Reached package target (done ++ rest) after := by
  induction rest generalizing done tree with
  | nil => exact ⟨[], tree, rfl, by rwa [List.append_nil]⟩
  | cons file rest ih =>
    obtain ⟨clear, others⟩ := cleared
    obtain ⟨next, one, stands⟩ := applyOne_clear sha256 deleted
      (turns.verified file List.mem_cons_self) turns.puts reached clear
    obtain ⟨applied, after, all, are⟩ := ih (turns.after clear) stands others
    refine ⟨file.info.path :: applied, after, ?_, ?_⟩
    · simp only [applyFiles, one, all]
    · rwa [List.append_assoc] at are

variable (deleted) in
theorem applyFiles_stops {before later : List ApprovedFile}
    (turns : Turns sha256 package done (before ++ file :: later))
    (reached : Reached package target done tree)
    (cleared : Cleared sha256 package target done before)
    (blocked : ¬ Clear sha256 (standing package target (done ++ before)) file) :
    ∃ error after,
      applyFiles sha256 package deleted (before ++ file :: later) tree = (.error error, after) ∧
        Reached package target (done ++ before) after := by
  induction before generalizing done tree with
  | nil =>
    rw [List.append_nil] at blocked ⊢
    have view : standing package target done = tree.node :=
      funext fun query => (reached query).symm
    rw [view] at blocked
    obtain ⟨outcome, after, one, stuck, same⟩ := applyOne_blocked sha256 deleted
      (turns.verified file (by simp)) blocked
    have stands : Reached package target done after := fun query =>
      (same query).trans (reached query)
    rw [List.nil_append, applyFiles, one]
    cases outcome with
    | error error => exact ⟨_, _, rfl, stands⟩
    | ok conflict =>
      cases conflict with
      | some conflict => exact ⟨_, _, rfl, stands⟩
      | none => exact absurd rfl stuck
  | cons first before ih =>
    obtain ⟨clear, others⟩ := cleared
    obtain ⟨next, one, stands⟩ := applyOne_clear sha256 deleted
      (turns.verified first List.mem_cons_self) turns.puts reached clear
    rw [List.append_cons done first before] at blocked ⊢
    obtain ⟨error, after, all, are⟩ := ih (turns.after clear) stands others blocked
    refine ⟨error, after, ?_, are⟩
    simp only [List.cons_append, applyFiles, one, all]

end Run

section Package

def statusOf (outcome : Except ApplyError ApplyResult) : Option ApplyStatus :=
  match outcome with
  | .ok result => some result.status
  | .error _ => none

def Describes (sha256 : Bytes → Text) (base : Target Bytes) (file : ApprovedFile) : Prop :=
  targetHash sha256 base file.rel = file.info.baseSha256 ∧
    match file.info.changeKind with
    | .created => file.info.baseSha256 = none
    | .modified => file.info.baseSha256 ≠ none
    | .directory => base.node file.rel ≠ some .dir
    | .deleted => base.node file.rel ≠ none
    | .unsupported _ => False

-- Every entry is approved and describes a base that the target equals where entries are.
structure FullApply (package : VerifiedPackage sha256) (approval : Approval)
    (target base : Target Bytes) (files : List ApprovedFile) : Prop where
  approved : approval.decision = .approved
  selected : selectFiles (approvedSet package.toPackage approval) package.files = .ok (files, [])
  describes : ∀ file ∈ files, Describes sha256 base file
  equals : ∀ file ∈ files, ∀ upper, upper <+: file.rel → target.node upper = base.node upper

-- The approved changes and nothing else, but for the directories above what is put.
structure Made (package : Package Bytes) (target : Target Bytes) (files : List ApprovedFile)
    (after : Target Bytes) : Prop where
  approved : ∀ file ∈ files, after.node file.rel = nodeAfter package file
  elsewhere : ∀ query, (∀ file ∈ files, file.rel ≠ query) →
    after.node query =
      if target.node query = none ∧ ∃ file ∈ files, file.puts ∧ Above query file.rel then some .dir
      else target.node query

def AllOrNothing (package : VerifiedPackage sha256) (approval : Approval) (target : Target Bytes)
    (dryRun : Bool) : Prop :=
  (statusOf (applyPackage sha256 package approval target dryRun).1 = some .applied ∨
      ∀ query, (applyPackage sha256 package approval target dryRun).2.node query =
        target.node query) ∧
    ∀ base files, FullApply package approval target base files → dryRun = false →
      statusOf (applyPackage sha256 package approval target dryRun).1 = some .applied ∧
        Made package.toPackage target files
          (applyPackage sha256 package approval target dryRun).2

theorem selectFiles_from (approvedSet : List Text) (infos : List FileInfo)
    {approved : List ApprovedFile} {skipped : List Text}
    (selected : selectFiles approvedSet infos = .ok (approved, skipped)) :
    ∀ file ∈ approved, file.info ∈ infos := by
  induction infos generalizing approved skipped with
  | nil =>
    cases selected
    simp
  | cons info rest ih =>
    unfold selectFiles at selected
    split at selected
    · cases selected
    next rel normalized =>
      split at selected
      · cases selected
      next others skips further =>
        have later := ih further
        split at selected
        · cases selected
          intro file member
          cases List.mem_cons.mp member with
          | inl here => rw [here]; exact List.mem_cons_self
          | inr there => exact List.mem_cons_of_mem _ (later file there)
        · cases selected
          exact fun file member => List.mem_cons_of_mem _ (later file member)

def Agree (package : Package Bytes) (files : List ApprovedFile) : Prop :=
  ∀ first ∈ files, ∀ second ∈ files, first.rel = second.rel →
    nodeAfter package first = nodeAfter package second

omit [DecidableEq Bytes] in
theorem made_iff {package : Package Bytes} {target after : Target Bytes}
    {files ordered : List ApprovedFile} (same : ordered.Perm files)
    (reached : Reached package target ordered after) :
    Made package target files after ↔ Agree package files := by
  have member : ∀ file, file ∈ ordered ↔ file ∈ files := fun file => same.mem_iff
  constructor
  · intro made first inside second within here
    rw [← made.approved first inside, ← made.approved second within, here]
  · intro agree
    refine ⟨?_, ?_⟩
    · intro file inside
      rw [reached]
      unfold standing
      cases found : ordered.reverse.find? fun other => decide (other.rel = file.rel) with
      | some other =>
        have within := (member other).mp (List.mem_reverse.mp (List.mem_of_find?_eq_some found))
        have here : other.rel = file.rel := by simpa using List.find?_some found
        exact agree other within file inside here
      | none =>
        rw [List.find?_eq_none] at found
        have absent := found file (List.mem_reverse.mpr ((member file).mpr inside))
        simp at absent
    · intro query beside
      have unseen : ordered.reverse.find? (fun other => decide (other.rel = query)) = none := by
        rw [List.find?_eq_none]
        intro other inside
        rw [decide_eq_true_eq]
        exact beside other ((member other).mp (List.mem_reverse.mp inside))
      rw [reached]
      unfold standing
      rw [unseen]
      simp only [member]

-- No entry of `ordered` stops the run behind one that changed something.
def StopsUntouched (sha256 : Bytes → Text) (package : Package Bytes) (target : Target Bytes)
    (ordered : List ApprovedFile) : Prop :=
  ∀ done file rest, ordered = done ++ file :: rest → Cleared sha256 package target [] done →
    ¬ Clear sha256 (standing package target done) file →
      ∀ query, standing package target done query = target.node query

section Outcome

variable {package : VerifiedPackage sha256} {approval : Approval} {target : Target Bytes}
  {approved : List ApprovedFile} {skipped : List Text}

theorem applyPackage_idle (idle : approval.decision = .rejected ∨
    ∃ error, selectFiles (approvedSet package.toPackage approval) package.files = .error error)
    (dryRun : Bool) : (applyPackage sha256 package approval target dryRun).2 = target := by
  unfold applyPackage
  split
  · rfl
  next decision =>
    obtain rejected | ⟨error, raised⟩ := idle
    · rw [decision] at rejected; cases rejected
    · rw [raised]

theorem orderedApplyFiles_perm (approved : List ApprovedFile) :
    (orderedApplyFiles approved).Perm approved := List.perm_insertionSort _ _

variable (sha256) in
theorem preflight_ordered (package : Package Bytes) (target : Target Bytes)
    (approved : List ApprovedFile) :
    ∃ wouldApply conflicts,
      preflight sha256 package (approvedDeletedPaths approved) (orderedApplyFiles approved) target =
        (.ok (wouldApply, conflicts), target) ∧
      (conflicts = [] ↔
        ∀ file ∈ approved, Fits sha256 target (approvedDeletedPaths approved) file) := by
  obtain ⟨wouldApply, conflicts, first, passes⟩ := preflight_spec sha256 package
    (approvedDeletedPaths approved) (orderedApplyFiles approved) target
  refine ⟨wouldApply, conflicts, first, ?_⟩
  rw [passes]
  simp only [(orderedApplyFiles_perm approved).mem_iff]

theorem applyPackage_dry : (applyPackage sha256 package approval target true).2 = target := by
  unfold applyPackage
  split
  · rfl
  · split
    · rfl
    next approved skipped selected =>
      obtain ⟨wouldApply, conflicts, first, -⟩ :=
        preflight_ordered sha256 package.toPackage target approved
      simp only [first]
      split <;> rfl

variable (decision : approval.decision = .approved)
  (selected : selectFiles (approvedSet package.toPackage approval) package.files =
    .ok (approved, skipped))

include decision selected

theorem applyPackage_conflict
    (refused : ¬ ∀ file ∈ approved, Fits sha256 target (approvedDeletedPaths approved) file) :
    (applyPackage sha256 package approval target false).2 = target ∧
      statusOf (applyPackage sha256 package approval target false).1 = some .conflict := by
  obtain ⟨wouldApply, conflicts, first, passed⟩ :=
    preflight_ordered sha256 package.toPackage target approved
  have conflict : conflicts ≠ [] := fun clear => refused (passed.mp clear)
  unfold applyPackage
  rw [decision]
  dsimp only
  rw [selected]
  simp only [first]
  rw [if_pos conflict]
  exact ⟨rfl, rfl⟩

theorem applyPackage_fits
    (fits : ∀ file ∈ approved, Fits sha256 target (approvedDeletedPaths approved) file) :
    applyPackage sha256 package approval target false =
      match applyFiles sha256 package.toPackage (approvedDeletedPaths approved)
        (orderedApplyFiles approved) target with
      | (.error error, tree) => (.error error, tree)
      | (.ok applied, tree) => (.ok (finalApplyResult .applied applied skipped []), tree) := by
  obtain ⟨wouldApply, conflicts, first, passed⟩ :=
    preflight_ordered sha256 package.toPackage target approved
  unfold applyPackage
  rw [decision]
  dsimp only
  rw [selected]
  simp only [first]
  refine (if_neg (not_not.mpr (passed.mpr fits))).trans ?_
  exact if_neg (by simp)

omit [DecidableEq Bytes] decision in
theorem turns_start :
    Turns sha256 package.toPackage [] (orderedApplyFiles approved) := by
  refine ⟨List.pairwise_insertionSort _ _, ?_, by simp⟩
  intro file member
  have inside := (orderedApplyFiles_perm approved).mem_iff.mp member
  exact package.verified file.info (selectFiles_from _ _ selected file inside)

theorem applyPackage_cleared
    (fits : ∀ file ∈ approved, Fits sha256 target (approvedDeletedPaths approved) file)
    (cleared : Cleared sha256 package.toPackage target [] (orderedApplyFiles approved)) :
    statusOf (applyPackage sha256 package approval target false).1 = some .applied ∧
      Reached package.toPackage target (orderedApplyFiles approved)
        (applyPackage sha256 package approval target false).2 := by
  obtain ⟨applied, after, all, reached⟩ := applyFiles_cleared
    (approvedDeletedPaths approved) (turns_start selected)
    (start package.toPackage target) cleared
  rw [applyPackage_fits decision selected fits, all]
  exact ⟨rfl, reached⟩

theorem applyPackage_stops
    (fits : ∀ file ∈ approved, Fits sha256 target (approvedDeletedPaths approved) file)
    {done rest : List ApprovedFile} {file : ApprovedFile}
    (order : orderedApplyFiles approved = done ++ file :: rest)
    (cleared : Cleared sha256 package.toPackage target [] done)
    (blocked : ¬ Clear sha256 (standing package.toPackage target done) file) :
    statusOf (applyPackage sha256 package approval target false).1 = none ∧
      Reached package.toPackage target done
        (applyPackage sha256 package approval target false).2 := by
  have turns : Turns sha256 package.toPackage [] (orderedApplyFiles approved) :=
    turns_start selected
  rw [order] at turns
  obtain ⟨error, after, all, reached⟩ := applyFiles_stops
    (approvedDeletedPaths approved) turns
    (start package.toPackage target) cleared blocked
  rw [applyPackage_fits decision selected fits, order, all]
  exact ⟨rfl, reached⟩

end Outcome

theorem apply_all_or_nothing (package : VerifiedPackage sha256) (approval : Approval)
    (target : Target Bytes) (dryRun : Bool) :
    AllOrNothing package approval target dryRun ↔
      (dryRun = false → approval.decision = .approved → ∀ approved skipped,
        selectFiles (approvedSet package.toPackage approval) package.files =
          .ok (approved, skipped) →
        ((∀ file ∈ approved, Fits sha256 target (approvedDeletedPaths approved) file) →
            StopsUntouched sha256 package.toPackage target (orderedApplyFiles approved)) ∧
          ∀ base, FullApply package approval target base approved →
            (∀ file ∈ approved, Fits sha256 target (approvedDeletedPaths approved) file) ∧
              Cleared sha256 package.toPackage target [] (orderedApplyFiles approved) ∧
                Agree package.toPackage approved) := by
  constructor
  · rintro ⟨whole, full⟩ rfl decision approved skipped selected
    refine ⟨?_, ?_⟩
    · intro fits done file rest order cleared blocked query
      obtain ⟨raised, reached⟩ :=
        applyPackage_stops decision selected fits order cleared blocked
      cases whole with
      | inl applied => rw [raised] at applied; cases applied
      | inr same => rw [← reached, same]
    · intro base describes
      obtain ⟨applied, made⟩ := full base approved describes rfl
      have fits : ∀ file ∈ approved,
          Fits sha256 target (approvedDeletedPaths approved) file := by
        by_contra refused
        have conflict := (applyPackage_conflict decision selected refused).2
        rw [conflict] at applied
        cases applied
      cases cleared_or_blocked sha256 package.toPackage target [] (orderedApplyFiles approved) with
      | inl cleared =>
        have reached := (applyPackage_cleared decision selected fits cleared).2
        exact ⟨fits, cleared, (made_iff (orderedApplyFiles_perm approved) reached).mp made⟩
      | inr stuck =>
        obtain ⟨done, file, rest, order, cleared, blocked⟩ := stuck
        rw [(applyPackage_stops decision selected fits order cleared blocked).1] at applied
        cases applied
  · intro condition
    cases dryRun with
    | true =>
      refine ⟨.inr fun query => by rw [applyPackage_dry], ?_⟩
      intro base files _ wet
      cases wet
    | false =>
      cases decision : approval.decision with
      | rejected =>
        refine ⟨.inr fun query => by rw [applyPackage_idle (.inl decision)], ?_⟩
        intro base files full
        rw [full.approved] at decision
        cases decision
      | approved =>
        cases selected : selectFiles (approvedSet package.toPackage approval) package.files with
        | error error =>
          refine ⟨.inr fun query => by rw [applyPackage_idle (.inr ⟨error, selected⟩)], ?_⟩
          intro base files full
          rw [full.selected] at selected
          cases selected
        | ok selection =>
          obtain ⟨approved, skipped⟩ := selection
          obtain ⟨untouched, whole⟩ := condition rfl decision approved skipped selected
          refine ⟨?_, ?_⟩
          · by_cases fits : ∀ file ∈ approved,
                Fits sha256 target (approvedDeletedPaths approved) file
            · cases cleared_or_blocked sha256 package.toPackage target []
                  (orderedApplyFiles approved) with
              | inl cleared =>
                exact .inl (applyPackage_cleared decision selected fits cleared).1
              | inr stuck =>
                obtain ⟨done, file, rest, order, cleared, blocked⟩ := stuck
                have reached := (applyPackage_stops decision selected fits order cleared blocked).2
                refine .inr fun query => ?_
                rw [reached, untouched fits done file rest order cleared blocked]
            · refine .inr fun query => ?_
              rw [(applyPackage_conflict decision selected fits).1]
          · intro base files full _
            have same := full.selected
            rw [selected] at same
            cases same
            obtain ⟨fits, cleared, agree⟩ := whole base full
            obtain ⟨applied, reached⟩ := applyPackage_cleared decision selected fits cleared
            exact ⟨applied, (made_iff (orderedApplyFiles_perm approved) reached).mpr agree⟩

end Package

section Samples

def numberHash (n : Nat) : Text := Nat.toDigits 10 n

def typeChange : VerifiedPackage numberHash where
  files := [⟨"a".toList, .missing, .deleted, some (numberHash 1), none, none⟩,
    ⟨"a/b".toList, .file, .created, none, some "proposed/b".toList, some (numberHash 2)⟩,
    ⟨"c".toList, .file, .created, none, some "proposed/c".toList, some (numberHash 3)⟩]
  changedPaths := ["a".toList, "a/b".toList, "c".toList]
  content := fun rel =>
    if rel = ["proposed".toList, "b".toList] then some 2
    else if rel = ["proposed".toList, "c".toList] then some 3 else none
  verified := by decide

def oneFile : Target Nat where
  entries := [(["a".toList], .file 1)]
  parents := by decide

theorem apply_stops_halfway : ¬ AllOrNothing typeChange ⟨.approved, []⟩ oneFile false := by
  intro allOrNothing
  have raised : statusOf (applyPackage numberHash typeChange ⟨.approved, []⟩ oneFile false).1 =
      none := by decide +kernel
  have written : (applyPackage numberHash typeChange ⟨.approved, []⟩ oneFile false).2.node
      ["c".toList] = some (.file 3) := by decide +kernel
  cases allOrNothing.1 with
  | inl applied =>
    rw [raised] at applied
    cases applied
  | inr unchanged =>
    have before := unchanged ["c".toList]
    rw [written] at before
    cases before

end Samples

end MonoidKernel.Packages
