import MonoidKernel.Workspace.Paths
import Mathlib.Data.List.Sort
import Mathlib.Data.Prod.Lex
import Mathlib.Data.List.Lex
import Mathlib.Data.Char

set_option autoImplicit false

-- Translated from core/packages.py.
namespace MonoidKernel.Packages

open Library (FileTree Node)
open MonoidKernel.Workspace

section Data

inductive ChangeKind where
  | created
  | modified
  | directory
  | deleted
  | unsupported (text : Text)
deriving DecidableEq

inductive EntryKind where
  | file
  | dir
  | missing
  | other (text : Text)
deriving DecidableEq

structure FileInfo where
  path : Text
  kind : EntryKind
  changeKind : ChangeKind
  baseSha256 : Option Text
  snapshotPath : Option Text
  snapshotSha256 : Option Text
deriving DecidableEq

structure Package (Bytes : Type) where
  files : List FileInfo
  changedPaths : List Text
  content : Rel → Option Bytes

inductive ApprovalDecision where
  | approved
  | rejected
deriving DecidableEq

structure Approval where
  decision : ApprovalDecision
  approvedPaths : List Text

structure ApplyConflict where
  path : Text
  reason : Text
  expectedSha256 : Option Text
  currentSha256 : Option Text
deriving DecidableEq

inductive ApplyStatus where
  | applied
  | dryRun
  | conflict
  | rejected
deriving DecidableEq

structure ApplyResult where
  status : ApplyStatus
  appliedPaths : List Text
  skippedPaths : List Text
  conflicts : List ApplyConflict

inductive ApplyError where
  | invalidPath (path : Text)
  | snapshotMissing (path : Text)
  | unexpectedConflict (path : Text)
  | osError
deriving DecidableEq

end Data

-- `_safe_package_path` and `_normalize_approval_path`: a path below the root.
def normalizeBelowRoot (raw : Text) : Option Rel :=
  match normalizeWorkspacePath raw with
  | some [] => none
  | normalized => normalized

def safePackagePath (raw : Text) : Option Rel := normalizeBelowRoot raw

def normalizeApprovalPath (raw : Text) : Option Rel := normalizeBelowRoot raw

variable {Bytes : Type} [DecidableEq Bytes] (sha256 : Bytes → Text)

def snapshotVerified (package : Package Bytes) (info : FileInfo) : Bool :=
  match info.snapshotPath with
  | none => true
  | some raw =>
    match safePackagePath raw with
    | none => false
    | some rel =>
      match package.content rel with
      | none => false
      | some bytes => decide (info.snapshotSha256 = some (sha256 bytes))

structure VerifiedPackage (sha256 : Bytes → Text) extends Package Bytes where
  verified : ∀ info ∈ files, snapshotVerified sha256 toPackage info = true

structure ApprovedFile where
  rel : Rel
  info : FileInfo
  normalized : normalizeApprovalPath info.path = some rel

abbrev Target (Bytes : Type) := FileTree Text Bytes

section Steps

def targetHash (tree : Target Bytes) (rel : Rel) : Option Text :=
  match tree.node rel with
  | some (.file bytes) => some (sha256 bytes)
  | _ => none

def dirDeleteConflict (tree : Target Bytes) (rel : Rel) (approvedDeleted : List Rel) :
    Option ApplyConflict :=
  let children := (tree.below rel).insertionSort fun first second => spell first ≤ spell second
  (children.find? fun child => decide (child ∉ approvedDeleted)).map fun child =>
    ⟨spell rel, "directory contains unapproved path: ".toList ++ spell child, none, none⟩

abbrev Attempt (A Bytes : Type) := Except ApplyError A × Target Bytes

def operate (tree : Target Bytes) (after : Option (Target Bytes)) : Attempt Unit Bytes :=
  match after with
  | some after => (.ok (), after)
  | none => (.error .osError, tree)

def writeSnapshot (package : Package Bytes) (file : ApprovedFile) (tree : Target Bytes) :
    Attempt Unit Bytes :=
  match file.info.snapshotPath with
  | none => (.error (.snapshotMissing file.info.path), tree)
  | some [] => (.error (.snapshotMissing file.info.path), tree)
  | some raw =>
    match safePackagePath raw with
    | none => (.error (.invalidPath raw), tree)
    | some snapshot =>
      match tree.makeDirs file.rel.dropLast with
      | none => (.error .osError, tree)
      | some made =>
        match package.content snapshot with
        | none => (.error .osError, made)
        | some bytes => operate made (made.writeFile file.rel bytes)

def changing (dryRun : Bool) (tree : Target Bytes) (change : Attempt Unit Bytes) :
    Attempt (Option ApplyConflict) Bytes :=
  if dryRun then (.ok none, tree)
  else (change.1.map fun _ => none, change.2)

def applyOne (package : Package Bytes) (approvedDeleted : List Rel) (dryRun : Bool)
    (file : ApprovedFile) (tree : Target Bytes) : Attempt (Option ApplyConflict) Bytes :=
  let current := targetHash sha256 tree file.rel
  let refused (reason : Text) (expected : Option Text) : Attempt (Option ApplyConflict) Bytes :=
    (.ok (some ⟨spell file.rel, reason, expected, current⟩), tree)
  let base := some (file.info.baseSha256.getD "None".toList)
  match file.info.changeKind with
  | .created =>
    if tree.node file.rel ≠ none then refused "target already exists".toList none
    else changing dryRun tree (writeSnapshot package file tree)
  | .modified =>
    if current ≠ file.info.baseSha256 then refused "base hash mismatch".toList base
    else changing dryRun tree (writeSnapshot package file tree)
  | .directory =>
    if tree.node file.rel ≠ none ∧ tree.node file.rel ≠ some .dir then
      refused "target exists and is not a directory".toList none
    else changing dryRun tree (operate tree (tree.makeDirs file.rel))
  | .deleted =>
    if tree.node file.rel = some .dir then
      match dirDeleteConflict tree file.rel approvedDeleted with
      | some conflict => (.ok (some conflict), tree)
      | none => changing dryRun tree (operate tree (tree.removeDir file.rel))
    else if current ≠ file.info.baseSha256 then refused "base hash mismatch".toList base
    else
      changing dryRun tree
        (if tree.node file.rel ≠ none then operate tree (tree.unlink file.rel) else (.ok (), tree))
  | .unsupported text => refused ("unsupported change kind: ".toList ++ text) none

end Steps

section Apply

def ApprovedFile.isDelete (file : ApprovedFile) : Bool :=
  decide (file.info.changeKind = .deleted)

def approvedDeletedPaths (files : List ApprovedFile) : List Rel :=
  (files.filter ApprovedFile.isDelete).map ApprovedFile.rel

def slashes (rel : Rel) : Nat := rel.length - 1

def applyKey (file : ApprovedFile) : Nat ×ₗ Int ×ₗ Text :=
  if file.isDelete = true ∧ file.info.kind = .dir then
    toLex (2, toLex (-(slashes file.rel : Int), spell file.rel))
  else if file.isDelete = true then toLex (1, toLex (-(slashes file.rel : Int), spell file.rel))
  else toLex (0, toLex ((slashes file.rel : Int), spell file.rel))

def orderedApplyFiles (files : List ApprovedFile) : List ApprovedFile :=
  files.insertionSort fun first second => applyKey first ≤ applyKey second

def selectFiles (approvedSet : List Text) :
    List FileInfo → Except ApplyError (List ApprovedFile × List Text)
  | [] => .ok ([], [])
  | info :: rest =>
    match normalized : normalizeApprovalPath info.path with
    | none => .error (.invalidPath info.path)
    | some rel =>
      match selectFiles approvedSet rest with
      | .error error => .error error
      | .ok (approved, skipped) =>
        if spell rel ∈ approvedSet then .ok (⟨rel, info, normalized⟩ :: approved, skipped)
        else .ok (approved, spell rel :: skipped)

def preflight (package : Package Bytes) (approvedDeleted : List Rel) :
    List ApprovedFile → Target Bytes → Attempt (List Text × List ApplyConflict) Bytes
  | [], tree => (.ok ([], []), tree)
  | file :: rest, tree =>
    match applyOne sha256 package approvedDeleted true file tree with
    | (.error error, tree) => (.error error, tree)
    | (.ok conflict, tree) =>
      match preflight package approvedDeleted rest tree with
      | (.error error, tree) => (.error error, tree)
      | (.ok (wouldApply, conflicts), tree) =>
        match conflict with
        | some conflict => (.ok (wouldApply, conflict :: conflicts), tree)
        | none => (.ok (file.info.path :: wouldApply, conflicts), tree)

def applyFiles (package : Package Bytes) (approvedDeleted : List Rel) :
    List ApprovedFile → Target Bytes → Attempt (List Text) Bytes
  | [], tree => (.ok [], tree)
  | file :: rest, tree =>
    match applyOne sha256 package approvedDeleted false file tree with
    | (.error error, tree) => (.error error, tree)
    | (.ok (some conflict), tree) => (.error (.unexpectedConflict conflict.path), tree)
    | (.ok none, tree) =>
      match applyFiles package approvedDeleted rest tree with
      | (.error error, tree) => (.error error, tree)
      | (.ok applied, tree) => (.ok (file.info.path :: applied), tree)

def finalApplyResult (status : ApplyStatus) (applied skipped : List Text)
    (conflicts : List ApplyConflict) : ApplyResult :=
  ⟨status, applied.insertionSort (· ≤ ·), skipped.insertionSort (· ≤ ·), conflicts⟩

def approvedSet (package : Package Bytes) (approval : Approval) : List Text :=
  if approval.approvedPaths = [] then package.changedPaths else approval.approvedPaths

def applyPackage (package : VerifiedPackage sha256) (approval : Approval) (target : Target Bytes)
    (dryRun : Bool) : Attempt ApplyResult Bytes :=
  match approval.decision with
  | .rejected => (.ok (finalApplyResult .rejected [] package.changedPaths []), target)
  | .approved =>
    match selectFiles (approvedSet package.toPackage approval) package.files with
    | .error error => (.error error, target)
    | .ok (approved, skipped) =>
      let deleted := approvedDeletedPaths approved
      let ordered := orderedApplyFiles approved
      match preflight sha256 package.toPackage deleted ordered target with
      | (.error error, tree) => (.error error, tree)
      | (.ok (wouldApply, conflicts), tree) =>
        if conflicts ≠ [] then (.ok (finalApplyResult .conflict [] skipped conflicts), tree)
        else if dryRun then (.ok (finalApplyResult .dryRun wouldApply skipped []), tree)
        else
          match applyFiles sha256 package.toPackage deleted ordered tree with
          | (.error error, tree) => (.error error, tree)
          | (.ok applied, tree) => (.ok (finalApplyResult .applied applied skipped []), tree)

end Apply

end MonoidKernel.Packages
