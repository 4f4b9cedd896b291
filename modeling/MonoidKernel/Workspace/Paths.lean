import MonoidKernel.Library.Texts
import MonoidKernel.Library.FileTree

set_option autoImplicit false

-- Translated from workspace/paths.py.
namespace MonoidKernel.Workspace

abbrev Text := List Char

abbrev Rel := Library.Path Text

def slashParts : Text → List Text
  | [] => [[]]
  | '/' :: rest => [] :: slashParts rest
  | character :: rest =>
    match slashParts rest with
    | part :: parts => (character :: part) :: parts
    | [] => [[character]]

def validWorkspaceSegment (part : Text) : Bool :=
  part.all fun character => !(decide (character.toNat < 32) || decide (character.toNat = 127))

-- `normalize_workspace_path`; `none` where it raises.
def normalizeWorkspacePath (raw : Text) : Option Rel :=
  let value := raw.map fun character => if character = '\\' then '/' else character
  if value.head? = some '/' ∨ value.tail.head? = some ':' then none
  else
    let parts := (slashParts value).filter fun part => decide (part ≠ [] ∧ part ≠ ['.'])
    if parts.all fun part => decide (part ≠ ['.', '.']) && validWorkspaceSegment part then
      some parts
    else none

def spell (rel : Rel) : Text :=
  if rel = [] then ['.'] else List.intercalate ['/'] rel

end MonoidKernel.Workspace
