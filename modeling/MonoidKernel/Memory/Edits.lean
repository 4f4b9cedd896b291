import MonoidKernel.Library.SplitLines
import Mathlib.Algebra.Ring.Nat

set_option autoImplicit false

-- Translated from memory.py. The texts are those of UTF-8 files, so without lone surrogates.
namespace MonoidKernel.Memory

open Library
open Library.SplitLines (splitLines)

abbrev Text := List Char

inductive MemoryError where
  | emptyOldStr
  | oldStrNotFound
  | ambiguousReplace (lines : List Nat)
  | invalidInsertLine (line : Int) (count : Nat)
  | viewStart
  | viewStartBeyond
  | viewEnd
deriving DecidableEq

def MemoryError.code : MemoryError → String
  | .emptyOldStr => "memory_empty_old_str"
  | .oldStrNotFound => "memory_old_str_not_found"
  | .ambiguousReplace _ => "memory_ambiguous_replace"
  | .invalidInsertLine _ _ => "memory_invalid_insert_line"
  | _ => "memory_invalid_view_range"

def MemoryError.message (virtual : String) : MemoryError → String
  | .emptyOldStr => "old_str must not be empty"
  | .oldStrNotFound =>
    "No replacement was performed, old_str did not appear verbatim in " ++ virtual ++ "."
  | .ambiguousReplace lines =>
    "No replacement was performed. Multiple occurrences of old_str in lines: " ++
      ", ".intercalate (lines.map toString) ++ ". Please ensure it is unique."
  | .invalidInsertLine line count =>
    "Invalid insert_line parameter: " ++ toString line ++
      ". It should be within the range of lines of the file: [0, " ++ toString count ++ "]"
  | .viewStart => "view_range start line must be >= 1"
  | .viewStartBeyond => "view_range start line exceeds the file length"
  | .viewEnd => "view_range end line must be >= start line or -1"

section Lines

def enumerate : Nat → List Text → List (Nat × Text)
  | _, [] => []
  | start, line :: rest => (start, line) :: enumerate (start + 1) rest

def numberedLine (shown : Nat × Text) : Text :=
  let digits := (toString shown.1).toList
  List.replicate (6 - digits.length) ' ' ++ digits ++ '\t' :: shown.2

def render (shown : List (Nat × Text)) : Text := ['\n'].intercalate (shown.map numberedLine)

def numberedLines (lines : List Text) (startLine : Nat) : Text :=
  render (enumerate startLine lines)

def lineSnippet (text : Text) (lineNo radius : Nat) : Text :=
  let lines := splitLines text
  if lines = [] then []
  else
    let start := max 1 (lineNo - radius)
    let stop := min lines.length (lineNo + radius)
    numberedLines ((lines.take stop).drop (start - 1)) start

def lineOfIndex (text : Text) (index : Nat) : Nat := (text.take index).count '\n' + 1

def snippetAroundIndex (text : Text) (index : Nat) : Text :=
  lineSnippet text (lineOfIndex text index) 2

structure FileView where
  content : Text
  start : Nat
  stop : Nat
  total : Nat
deriving DecidableEq

def viewFile (text : Text) (viewRange : Option (Int × Int)) : Except MemoryError FileView :=
  let lines := splitLines text
  match viewRange with
  | none => .ok ⟨numberedLines lines 1, 1, lines.length, lines.length⟩
  | some (rawStart, rawEnd) =>
    if rawStart < 1 then .error .viewStart
    else if rawStart > lines.length then .error .viewStartBeyond
    else
      let stop := if rawEnd = -1 then (lines.length : Int) else rawEnd
      if stop < rawStart then .error .viewEnd
      else
        let start := rawStart.toNat
        let stop := min stop.toNat lines.length
        .ok ⟨numberedLines ((lines.take stop).drop (start - 1)) start, start, stop, lines.length⟩

end Lines

section Finding

def find (needle : Text) : Text → Option Nat
  | [] => if needle = [] then some 0 else none
  | character :: rest =>
    if needle.isPrefixOf (character :: rest) then some 0 else (find needle rest).map (· + 1)

def findFrom (text needle : Text) (start : Nat) : Option Nat :=
  (find needle (text.drop start)).map (start + ·)

-- The places that the loop of `_occurrence_lines` finds; `str.count` counts the same.
def occurrences (text needle : Text) (start : Nat) : List Nat :=
  if start ≤ text.length then
    match _found : findFrom text needle start with
    | none => []
    | some index => index :: occurrences text needle (index + max 1 needle.length)
  else []
termination_by text.length + 1 - start
decreasing_by
  obtain ⟨deeper, _, rfl⟩ := Option.map_eq_some_iff.mp (by assumption)
  omega

def occurrenceLines (text needle : Text) : List Nat :=
  (occurrences text needle 0).map (lineOfIndex text)

end Finding

section Edits

structure Edited where
  text : Text
  snippet : Text
deriving DecidableEq

def strReplace (text oldStr newStr : Text) : Except MemoryError Edited :=
  if oldStr = [] then .error .emptyOldStr
  else
    match occurrences text oldStr 0 with
    | [] => .error .oldStrNotFound
    | [index] =>
      let changed := text.take index ++ newStr ++ text.drop (index + oldStr.length)
      let snippetIndex := if newStr ≠ [] then index else index - 1
      .ok ⟨changed, snippetAroundIndex changed snippetIndex⟩
    | _ => .error (.ambiguousReplace (occurrenceLines text oldStr))

def endsLine (text : Text) : Bool := text.getLast? == some '\n' || text.getLast? == some '\r'

def startsLine (text : Text) : Bool := text.head? == some '\n' || text.head? == some '\r'

def insertAfterLine (text : Text) (insertLine : Nat) (insertText : Text) : Text × Nat :=
  let offset := (((SplitLines.lines text).take insertLine).map fun line => line.text.length).sum
  let before := text.take offset
  let after := text.drop offset
  let payload :=
    if 0 < insertLine ∧ before ≠ [] ∧ ¬ endsLine before ∧ insertText ≠ [] ∧ ¬ startsLine insertText
    then '\n' :: insertText else insertText
  let payload :=
    if after ≠ [] ∧ payload ≠ [] ∧ ¬ endsLine payload ∧ ¬ startsLine after
    then payload ++ ['\n'] else payload
  (before ++ payload ++ after, insertLine + 1)

def insert (text : Text) (insertLine : Int) (insertText : Text) : Except MemoryError Edited :=
  let lineCount := (splitLines text).length
  if insertLine < 0 ∨ insertLine > lineCount then .error (.invalidInsertLine insertLine lineCount)
  else
    let (changed, insertedAt) := insertAfterLine text insertLine.toNat insertText
    .ok ⟨changed, lineSnippet changed (max 1 insertedAt) 2⟩

end Edits

section Search

structure Match where
  line : Nat
  text : Text
  snippet : Text
deriving DecidableEq

variable (lower : Text → Text)

def searchLines (loweredNeedle text : Text) : Nat → List (Nat × Text) → List Match
  | _, [] => []
  | remaining, (lineNo, line) :: rest =>
    if (find loweredNeedle (lower line)).isNone then searchLines loweredNeedle text remaining rest
    else
      ⟨lineNo, line, lineSnippet text lineNo 1⟩ ::
        if remaining ≤ 1 then [] else searchLines loweredNeedle text (remaining - 1) rest

def searchFile (needle text : Text) (remaining : Nat) : List Match :=
  searchLines lower (lower needle) text remaining (enumerate 1 (splitLines text))

end Search

end MonoidKernel.Memory
