import MonoidKernel.Workspace.Paths
import Mathlib.Data.List.AList
import Mathlib.Data.List.Sort
import Mathlib.Data.List.Lex
import Mathlib.Data.Char

set_option autoImplicit false

-- Translated from workspace/local.py.
namespace MonoidKernel.Workspace

open Library (FileTree Node)
open Library.FileTree (Above View)

abbrev Bytes := List UInt8

abbrev Base := FileTree Text Bytes

-- Dictionaries by path; a set of paths is a list of its members.
abbrev Dict (A : Type) := AList fun _ : Rel => A

inductive WorkspaceError where
  | invalidPath (path : Text)
  | cannotWriteRoot
  | cannotDeleteRoot
  | rootNotATarget
  | expectedMismatch (rel : Rel)
  | isDirectory (rel : Rel)
  | isFile (rel : Rel)
  | alreadyExists (rel : Rel)
  | parentMissing (rel : Rel)
  | pathMissing (rel : Rel)
  | fileMissing (rel : Rel)
  | readTooLarge (rel : Rel)
  | needsRecursive (rel : Rel)
  | exceedsMaxBytes (limit : Nat)
  | exceedsMaxEntries (limit : Nat)
  | destinationInSource
  | directoryMode
deriving DecidableEq

inductive Kind where
  | file
  | dir
deriving DecidableEq

def kindOf : Node Bytes → Kind
  | .file _ => .file
  | .dir => .dir

structure Setting where
  base : Base
  maxBytesRead : Nat
  sha256 : Bytes → Text

structure State where
  overlay : Dict Bytes
  overlayDirs : List Rel
  createdDirs : List Rel
  deletedFiles : List Rel
  deletedDirs : List Rel
  originals : Dict (Option Bytes)

def State.init : State := ⟨∅, [], [], [], [], ∅⟩

def add (rel : Rel) (set : List Rel) : List Rel := if rel ∈ set then set else rel :: set

def discard (rel : Rel) (set : List Rel) : List Rel :=
  set.filter fun member => decide (member ≠ rel)

def ancestors (rel : Rel) : List Rel :=
  rel.inits.filter fun upper => decide (upper ≠ [] ∧ upper ≠ rel)

variable (setting : Setting)

section Reading

def State.isEffectivelyDeleted (state : State) (rel : Rel) : Bool :=
  if rel ∈ state.overlay ∨ rel ∈ state.overlayDirs then false
  else if rel ∈ state.deletedFiles ∨ rel ∈ state.deletedDirs then true
  else state.deletedDirs.any fun deleted => decide (Above deleted rel)

-- `_effective_kind`; `none` where nothing is.
def State.effectiveKind (state : State) (rel : Rel) : Option Kind :=
  if rel ∈ state.overlay then some .file
  else if rel ∈ state.overlayDirs then some .dir
  else if state.isEffectivelyDeleted rel then none
  else (setting.base.node rel).map kindOf

def diskBytes (rel : Rel) : Option Bytes :=
  match setting.base.node rel with
  | some (.file data) => some data
  | _ => none

def State.readOptionalBytes (state : State) (rel : Rel) : Option Bytes :=
  match state.overlay.lookup rel with
  | some data => some data
  | none => if state.isEffectivelyDeleted rel then none else diskBytes setting rel

def State.readBytes (state : State) (rel : Rel) (maxBytes : Nat) : Except WorkspaceError Bytes :=
  let limit := if maxBytes = 0 then setting.maxBytesRead else maxBytes
  match state.readOptionalBytes setting rel with
  | none => .error (.fileMissing rel)
  | some data => if data.length > limit then .error (.readTooLarge rel) else .ok data

def State.parentExists (state : State) (rel : Rel) : Bool :=
  decide (rel.dropLast = [] ∨ state.effectiveKind setting rel.dropLast = some .dir)

def State.diskHidden (state : State) (rel : Rel) : Bool :=
  decide (rel ∈ state.overlay) || state.isEffectivelyDeleted rel

def listed (recursive : Bool) (rel item : Rel) : Bool :=
  decide (Above rel item) && (recursive || decide (item.length = rel.length + 1))

def State.diskDescendants (state : State) (rel : Rel) (recursive : Bool) : List (Rel × Kind) :=
  if setting.base.node rel = some .dir ∧ state.isEffectivelyDeleted rel = false then
    ((setting.base.below rel).filter fun item =>
      listed recursive rel item && !state.diskHidden item).filterMap fun item =>
        (setting.base.node item).map fun node => (item, kindOf node)
  else []

def assignAll {A : Type} (dict : Dict A) (items : List (Rel × A)) : Dict A :=
  items.foldl (fun dict item => dict.insert item.1 item.2) dict

def State.treeDescendants (state : State) (rel : Rel) (recursive : Bool) : Dict Kind :=
  let shows := fun item => listed recursive rel item && !state.isEffectivelyDeleted item
  let dirs := (state.overlayDirs.filter shows).map fun item => (item, Kind.dir)
  let files := (state.overlay.keys.filter shows).map fun item => (item, Kind.file)
  assignAll (assignAll (assignAll ∅ (state.diskDescendants setting rel recursive)) dirs) files

def sortedItems {A : Type} (dict : Dict A) : List (Rel × A) :=
  (dict.entries.map fun entry => (entry.1, entry.2)).insertionSort fun first second =>
    spell first.1 ≤ spell second.1

structure Snapshot where
  root : Rel
  kind : Kind
  files : List (Rel × Bytes)
  dirs : List Rel
  totalBytes : Nat

def State.collectItems (state : State) (maxBytes : Nat) :
    List (Rel × Kind) → Snapshot → Except WorkspaceError Snapshot
  | [], snapshot => .ok snapshot
  | (item, .dir) :: rest, snapshot =>
    state.collectItems maxBytes rest { snapshot with dirs := snapshot.dirs ++ [item] }
  | (item, .file) :: rest, snapshot =>
    match state.readBytes setting item maxBytes with
    | .error error => .error error
    | .ok data =>
      if snapshot.totalBytes + data.length > maxBytes then .error (.exceedsMaxBytes maxBytes)
      else
        state.collectItems maxBytes rest
          { snapshot with
            files := snapshot.files ++ [(item, data)]
            totalBytes := snapshot.totalBytes + data.length }

structure Limits where
  recursive : Bool
  maxEntries : Nat
  maxBytes : Nat

def State.collectRel (state : State) (rel : Rel) (limits : Limits) :
    Except WorkspaceError Snapshot :=
  match state.effectiveKind setting rel with
  | none => .error (.pathMissing rel)
  | some .file =>
    match state.readBytes setting rel limits.maxBytes with
    | .error error => .error error
    | .ok data => .ok ⟨rel, .file, [(rel, data)], [], data.length⟩
  | some .dir =>
    let descendants := sortedItems (state.treeDescendants setting rel limits.recursive)
    if descendants ≠ [] ∧ limits.recursive = false then .error (.needsRecursive rel)
    else
      match state.collectItems setting limits.maxBytes descendants
          ⟨rel, .dir, [], [rel], 0⟩ with
      | .error error => .error error
      | .ok snapshot =>
        if snapshot.files.length + (snapshot.dirs.length - 1) > limits.maxEntries then
          .error (.exceedsMaxEntries limits.maxEntries)
        else .ok snapshot

def State.collectTree (state : State) (path : Text) (limits : Limits) :
    Except WorkspaceError Snapshot :=
  match normalizeWorkspacePath path with
  | none => .error (.invalidPath path)
  | some [] => .error .rootNotATarget
  | some rel => state.collectRel setting rel limits

end Reading

section Writing

abbrev Attempt (A : Type) := Except WorkspaceError A × State

def State.recordOriginal (state : State) (rel : Rel) (current : Option Bytes) : State :=
  if rel ∈ state.originals then state
  else { state with originals := state.originals.insert rel current }

def State.clearDeleteMarkerFor (state : State) (rel : Rel) : State :=
  { state with
    deletedFiles := discard rel state.deletedFiles
    deletedDirs := state.deletedDirs.filter fun deleted =>
      decide (deleted ≠ rel ∧ deleted ∉ ancestors rel) }

def State.ensureOverlayParentDirs (state : State) (rel : Rel) : State :=
  { state with
    overlayDirs := (ancestors rel).foldr add state.overlayDirs
    deletedDirs := state.deletedDirs.filter fun deleted => decide (deleted ∉ ancestors rel) }

def State.writeFile (state : State) (rel : Rel) (data : Bytes) (createDirs overwrite : Bool) :
    Attempt Unit :=
  if state.effectiveKind setting rel = some .dir then (.error (.isDirectory rel), state)
  else
    let current := state.readOptionalBytes setting rel
    if current ≠ none ∧ overwrite = false then (.error (.alreadyExists rel), state)
    else if current = none ∧ createDirs = false ∧ state.parentExists setting rel = false then
      (.error (.parentMissing rel), state)
    else
      let state := (state.recordOriginal rel current).clearDeleteMarkerFor rel
      let state := { state with overlay := state.overlay.insert rel data }
      (.ok (), state.ensureOverlayParentDirs rel)

def State.mkdirForTree (state : State) (rel : Rel) : State :=
  let kind := state.effectiveKind setting rel
  let state := (state.recordOriginal rel none).clearDeleteMarkerFor rel
  let state :=
    { state with overlayDirs := add rel state.overlayDirs }.ensureOverlayParentDirs rel
  if kind = none then { state with createdDirs := add rel state.createdDirs } else state

def State.deleteFile (state : State) (rel : Rel) (current : Bytes) : State :=
  if state.originals.lookup rel = some none then
    { state with
      overlay := state.overlay.erase rel
      deletedFiles := discard rel state.deletedFiles
      originals := state.originals.erase rel }
  else
    let state := state.recordOriginal rel (some current)
    { state with
      overlay := state.overlay.erase rel
      deletedFiles := add rel state.deletedFiles }

def State.deleteDir (state : State) (rel : Rel) : State :=
  if rel ∈ state.createdDirs then
    { state with
      overlayDirs := discard rel state.overlayDirs
      createdDirs := discard rel state.createdDirs
      deletedDirs := discard rel state.deletedDirs
      originals := state.originals.erase rel }
  else
    let state := state.recordOriginal rel none
    { state with
      overlay := (state.overlay.keys.filter fun item => decide (Above rel item)).foldl
        (fun overlay item => overlay.erase item) state.overlay
      overlayDirs := state.overlayDirs.filter fun item => decide (¬ rel <+: item)
      deletedDirs := add rel state.deletedDirs }

def sortedFiles (files : List (Rel × Bytes)) : List (Rel × Bytes) :=
  files.insertionSort fun first second => spell first.1 ≤ spell second.1

def deepestFirst (dirs : List Rel) : List Rel :=
  dirs.insertionSort fun first second => second.length ≤ first.length

def State.deleteSnapshot (state : State) (snapshot : Snapshot) : State :=
  let state := (sortedFiles snapshot.files).reverse.foldl
    (fun state file => state.deleteFile file.1 file.2) state
  (deepestFirst snapshot.dirs).foldl State.deleteDir state

structure Counts where
  path : Rel
  files : Nat
  dirs : Nat
  bytes : Nat
deriving DecidableEq

def State.writeBytes (state : State) (path : Text) (data : Bytes) (createDirs overwrite : Bool)
    (expectedSha256 : Option Text) : Attempt Text :=
  match normalizeWorkspacePath path with
  | none => (.error (.invalidPath path), state)
  | some [] => (.error .cannotWriteRoot, state)
  | some rel =>
    let current := state.readOptionalBytes setting rel
    if expectedSha256 ≠ none ∧ expectedSha256 ≠ some (setting.sha256 (current.getD [])) then
      (.error (.expectedMismatch rel), state)
    else
      match state.writeFile setting rel data createDirs overwrite with
      | (.error error, state) => (.error error, state)
      | (.ok _, state) => (.ok (setting.sha256 data), state)

def State.mkdir (state : State) (path : Text) : Attempt Rel :=
  match normalizeWorkspacePath path with
  | none => (.error (.invalidPath path), state)
  | some [] => (.error .cannotWriteRoot, state)
  | some rel =>
    if state.effectiveKind setting rel = some .file then (.error (.isFile rel), state)
    else (.ok rel, state.mkdirForTree setting rel)

def State.deleteCollected (state : State) (collected : Except WorkspaceError Snapshot) :
    Attempt Counts :=
  match collected with
  | .error error => (.error error, state)
  | .ok snapshot =>
    (.ok ⟨snapshot.root, snapshot.files.length, snapshot.dirs.length, snapshot.totalBytes⟩,
      state.deleteSnapshot snapshot)

def State.deletePath (state : State) (path : Text) (limits : Limits) : Attempt Counts :=
  state.deleteCollected (state.collectTree setting path limits)

inductive DirectoryMode where
  | merge
  | replace
  | other (text : Text)
deriving DecidableEq

structure CopyOptions where
  overwrite : Bool
  createDirs : Bool
  limits : Limits
  directoryMode : DirectoryMode

def CopyOptions.replaces (options : CopyOptions) : Bool :=
  decide (options.directoryMode = .replace) && options.overwrite

def mapped (root dest item : Rel) : Rel := dest ++ item.drop root.length

def State.preflightFileDestination (state : State) (rel : Rel) (options : CopyOptions) :
    Except WorkspaceError Unit :=
  match state.effectiveKind setting rel with
  | some .dir => .error (.isDirectory rel)
  | some .file => if options.overwrite then .ok () else .error (.alreadyExists rel)
  | none =>
    if options.createDirs = false ∧ state.parentExists setting rel = false then
      .error (.parentMissing rel)
    else .ok ()

def State.preflightTreeDestination (state : State) (snapshot : Snapshot) (dest : Rel)
    (options : CopyOptions) : Except WorkspaceError Unit :=
  let kind := state.effectiveKind setting dest
  if kind = some .file then .error (.isFile dest)
  else if kind ≠ none ∧ options.overwrite = false then .error (.alreadyExists dest)
  else if kind = none ∧ options.createDirs = false ∧
      state.parentExists setting dest = false then
    .error (.parentMissing dest)
  else if options.overwrite = false then .ok ()
  else
    match snapshot.files.find? fun file =>
      decide (state.effectiveKind setting (mapped snapshot.root dest file.1) = some .dir) with
    | some file => .error (.isDirectory (mapped snapshot.root dest file.1))
    | none => .ok ()

def State.writeFiles (state : State) (root dest : Rel) : List (Rel × Bytes) → Attempt Unit
  | [] => (.ok (), state)
  | file :: rest =>
    match state.writeFile setting (mapped root dest file.1) file.2 true true with
    | (.error error, state) => (.error error, state)
    | (.ok _, state) => state.writeFiles root dest rest

def State.mergeTree (state : State) (snapshot : Snapshot) (dest : Rel) (options : CopyOptions) :
    Attempt Counts :=
  match state.preflightTreeDestination setting snapshot dest options with
  | .error error => (.error error, state)
  | .ok _ =>
    let dirs := snapshot.dirs.insertionSort fun first second => spell first ≤ spell second
    let state := dirs.foldl
      (fun state dir => state.mkdirForTree setting (mapped snapshot.root dest dir)) state
    match state.writeFiles setting snapshot.root dest (sortedFiles snapshot.files) with
    | (.error error, state) => (.error error, state)
    | (.ok _, state) =>
      (.ok ⟨dest, snapshot.files.length, snapshot.dirs.length, snapshot.totalBytes⟩, state)

def destinationOf (snapshot : Snapshot) (path : Text) : Except WorkspaceError Rel :=
  match normalizeWorkspacePath path with
  | none => .error (.invalidPath path)
  | some [] => .error .cannotWriteRoot
  | some dest => if snapshot.root <+: dest then .error .destinationInSource else .ok dest

def State.copyTree (state : State) (snapshot : Snapshot) (dest : Rel) (options : CopyOptions) :
    Attempt Counts :=
  match snapshot.kind, snapshot.files with
  | .file, (_, data) :: _ =>
    match state.writeFile setting dest data options.createDirs options.overwrite with
    | (.error error, state) => (.error error, state)
    | (.ok _, state) => (.ok ⟨dest, 1, 0, data.length⟩, state)
  | _, _ =>
    match options.directoryMode with
    | .other _ => (.error .directoryMode, state)
    | _ =>
      if options.replaces = true ∧ state.effectiveKind setting dest = some .dir then
        -- The destination is a normalized path, which is normalized to itself.
        match state.deleteCollected
            (state.collectRel setting dest { options.limits with recursive := true }) with
        | (.error error, state) => (.error error, state)
        | (.ok _, state) => state.mergeTree setting snapshot dest options
      else state.mergeTree setting snapshot dest options

def State.copyPath (state : State) (source destination : Text) (options : CopyOptions) :
    Attempt Counts :=
  match state.collectTree setting source options.limits with
  | .error error => (.error error, state)
  | .ok snapshot =>
    match destinationOf snapshot destination with
    | .error error => (.error error, state)
    | .ok dest => state.copyTree setting snapshot dest options

def State.movePreflight (state : State) (snapshot : Snapshot) (dest : Rel)
    (options : CopyOptions) : Except WorkspaceError Unit :=
  match snapshot.kind with
  | .file => state.preflightFileDestination setting dest options
  | .dir =>
    match options.directoryMode with
    | .other _ => .error .directoryMode
    | _ =>
      if options.replaces then .ok ()
      else state.preflightTreeDestination setting snapshot dest options

def State.movePath (state : State) (source destination : Text) (options : CopyOptions) :
    Attempt Counts :=
  match state.collectTree setting source options.limits with
  | .error error => (.error error, state)
  | .ok snapshot =>
    match destinationOf snapshot destination with
    | .error error => (.error error, state)
    | .ok dest =>
      match state.movePreflight setting snapshot dest options with
      | .error error => (.error error, state)
      | .ok _ =>
        match state.copyPath setting source destination options with
        | (.error error, state) => (.error error, state)
        | (.ok copied, state) => (.ok copied, state.deleteSnapshot snapshot)

end Writing

end MonoidKernel.Workspace
