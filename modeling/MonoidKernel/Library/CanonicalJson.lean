import Mathlib.Data.List.Sort
import MonoidKernel.Library.JsonText
import MonoidKernel.Library.OrderedDict
import Mathlib.Algebra.Ring.Nat

set_option autoImplicit false

namespace Library

namespace CanonicalJson

abbrev Text := List Char

abbrev Tree := Json Text

section Writer

-- One character of a string; only the control characters are written by their number.
def escape (character : Char) : Text :=
  if character = '"' then ['\\', '"']
  else if character = '\\' then ['\\', '\\']
  else if character = '\n' then ['\\', 'n']
  else if character = '\r' then ['\\', 'r']
  else if character = '\t' then ['\\', 't']
  else if character.toNat = 0x0C then ['\\', 'f']
  else if character.toNat = 0x08 then ['\\', 'b']
  else if character.toNat < 0x20 then JsonText.escapeUnit character.toNat
  else [character]

def quote (text : Text) : Text := '"' :: (text.flatMap escape ++ ['"'])

def commas : List Text → Text
  | [] => []
  | [last] => last
  | text :: rest => text ++ ',' :: commas rest

def spellEntry (entry : Text × Text) : Text := quote entry.1 ++ ':' :: entry.2

def Before (first second : Text) : Prop := List.lt first second

instance : DecidableRel Before := fun first second => List.decidableLT first second

def sorted {V : Type} (entries : List (Text × V)) : List (Text × V) :=
  entries.insertionSort fun first second => ¬Before second.1 first.1

mutual

def encode : Tree → Text
  | .null => JsonText.keyword none
  | .bool value => JsonText.keyword (some value)
  | .int value => JsonText.spellInt value
  | .float text => text
  | .str text => quote text
  | .list items => '[' :: (commas (encodeItems items) ++ [']'])
  | .dict entries => '{' :: (commas ((sorted (encodeEntries entries)).map spellEntry) ++ ['}'])

def encodeItems : List Tree → List Text
  | [] => []
  | item :: rest => encode item :: encodeItems rest

def encodeEntries : List (Text × Tree) → List (Text × Text)
  | [] => []
  | (key, value) :: rest => (key, encode value) :: encodeEntries rest

end

def byteSize (text : Text) : Nat := (text.map Char.utf8Size).sum

end Writer

section Numbers

def scanWhole : Text → Option (Text × Text)
  | '0' :: rest => some (['0'], rest)
  | text =>
    if text.takeWhile Char.isDigit = [] then none
    else some (text.takeWhile Char.isDigit, text.dropWhile Char.isDigit)

def scanFraction : Text → Text × Text
  | '.' :: rest =>
    if rest.takeWhile Char.isDigit = [] then ([], '.' :: rest)
    else ('.' :: rest.takeWhile Char.isDigit, rest.dropWhile Char.isDigit)
  | text => ([], text)

def scanSign : Text → Text × Text
  | '+' :: rest => (['+'], rest)
  | '-' :: rest => (['-'], rest)
  | text => ([], text)

def scanExponent : Text → Text × Text
  | [] => ([], [])
  | mark :: rest =>
    let signed := scanSign rest
    if (mark = 'e' ∨ mark = 'E') ∧ signed.2.takeWhile Char.isDigit ≠ [] then
      (mark :: (signed.1 ++ signed.2.takeWhile Char.isDigit), signed.2.dropWhile Char.isDigit)
    else ([], mark :: rest)

def scanMinus : Text → Text × Text
  | '-' :: rest => (['-'], rest)
  | text => ([], text)

structure Scanned where
  number : Text
  isFloat : Bool
  rest : Text
deriving DecidableEq

def scanNumber (text : Text) : Option Scanned :=
  let signed := scanMinus text
  (scanWhole signed.2).map fun whole =>
    let fraction := scanFraction whole.2
    let exponent := scanExponent fraction.2
    ⟨signed.1 ++ (whole.1 ++ (fraction.1 ++ exponent.1)),
      !(fraction.1.isEmpty && exponent.1.isEmpty), exponent.2⟩

def intOf : Text → Int
  | '-' :: digits => -(Nat.ofDigitChars 10 digits 0 : Int)
  | digits => Nat.ofDigitChars 10 digits 0

end Numbers

section Reader

-- What the platform does with numbers: how many digits an integer may have, and how it writes the
-- float that a text denotes, if that float is finite.
structure Platform where
  maxDigits : Nat
  reprFloat : Text → Option Text

variable (platform : Platform)

def readNumber (text : Text) : Option (Tree × Text) :=
  match scanNumber text with
  | none => none
  | some ⟨number, false, rest⟩ =>
    if (intOf number).natAbs < 10 ^ platform.maxDigits then some (.int (intOf number), rest)
    else none
  | some ⟨number, true, rest⟩ => (platform.reprFloat number).map fun text => (.float text, rest)

def hexValue (digit : Char) : Option Nat :=
  if '0' ≤ digit ∧ digit ≤ '9' then some (digit.toNat - 0x30)
  else if 'a' ≤ digit ∧ digit ≤ 'f' then some (digit.toNat - 0x57)
  else if 'A' ≤ digit ∧ digit ≤ 'F' then some (digit.toNat - 0x37)
  else none

def hexUnit (first second third fourth : Char) : Option Nat := do
  let first ← hexValue first
  let second ← hexValue second
  let third ← hexValue third
  let fourth ← hexValue fourth
  some (first * 0x1000 + second * 0x100 + third * 0x10 + fourth)

def plainEscape : Char → Option Char
  | '"' => some '"'
  | '\\' => some '\\'
  | '/' => some '/'
  | 'b' => some '\x08'
  | 'f' => some '\x0c'
  | 'n' => some '\n'
  | 'r' => some '\r'
  | 't' => some '\t'
  | _ => none

-- A string behind its opening quote. A surrogate without its other half is no character.
def readString : Text → Option (Text × Text)
  | [] => none
  | '"' :: rest => some ([], rest)
  | '\\' :: 'u' :: a :: b :: c :: d :: '\\' :: 'u' :: e :: f :: g :: h :: rest =>
    match hexUnit a b c d, hexUnit e f g h with
    | some unit, some low =>
      if 0xD800 ≤ unit ∧ unit < 0xDC00 then
        if 0xDC00 ≤ low ∧ low < 0xE000 then
          (readString rest).map fun (text, left) =>
            (Char.ofNat (0x10000 + (unit - 0xD800) * 0x400 + (low - 0xDC00)) :: text, left)
        else none
      else if 0xDC00 ≤ unit ∧ unit < 0xE000 then none
      else
        (readString ('\\' :: 'u' :: e :: f :: g :: h :: rest)).map fun (text, left) =>
          (Char.ofNat unit :: text, left)
    | _, _ => none
  | '\\' :: 'u' :: a :: b :: c :: d :: rest =>
    match hexUnit a b c d with
    | some unit =>
      if 0xD800 ≤ unit ∧ unit < 0xE000 then none
      else (readString rest).map fun (text, left) => (Char.ofNat unit :: text, left)
    | none => none
  | '\\' :: mark :: rest =>
    match plainEscape mark with
    | some character => (readString rest).map fun (text, left) => (character :: text, left)
    | none => none
  | character :: rest =>
    if character.toNat < 0x20 then none
    else (readString rest).map fun (text, left) => (character :: text, left)

def skip (text : Text) : Text :=
  text.dropWhile fun character => [' ', '\t', '\n', '\r'].contains character

-- Of equal keys the last one counts, in the place of the first.
def dictOf (members : List (Text × Tree)) : List (Text × Tree) :=
  members.foldl (fun entries member => OrderedDict.put member.1 member.2 entries) []

mutual

def readValue : Nat → Text → Option (Tree × Text)
  | 0, _ => none
  | fuel + 1, text =>
    match text with
    | '"' :: rest => (readString rest).map fun (text, rest) => (.str text, rest)
    | '[' :: rest =>
      match skip rest with
      | ']' :: rest => some (.list [], rest)
      | rest => (readItems fuel rest).map fun (items, rest) => (.list items, rest)
    | '{' :: rest =>
      match skip rest with
      | '}' :: rest => some (.dict [], rest)
      | rest => (readMembers fuel rest).map fun (members, rest) => (.dict (dictOf members), rest)
    | 'n' :: 'u' :: 'l' :: 'l' :: rest => some (.null, rest)
    | 't' :: 'r' :: 'u' :: 'e' :: rest => some (.bool true, rest)
    | 'f' :: 'a' :: 'l' :: 's' :: 'e' :: rest => some (.bool false, rest)
    | text => readNumber platform text

def readItems : Nat → Text → Option (List Tree × Text)
  | 0, _ => none
  | fuel + 1, text =>
    match readValue fuel text with
    | none => none
    | some (item, rest) =>
      match skip rest with
      | ',' :: rest => (readItems fuel (skip rest)).map fun (items, rest) => (item :: items, rest)
      | ']' :: rest => some ([item], rest)
      | _ => none

def readMembers : Nat → Text → Option (List (Text × Tree) × Text)
  | 0, _ => none
  | fuel + 1, text =>
    match text with
    | '"' :: rest =>
      match readString rest with
      | none => none
      | some (key, rest) =>
        match skip rest with
        | ':' :: rest =>
          match readValue fuel (skip rest) with
          | none => none
          | some (value, rest) =>
            match skip rest with
            | ',' :: rest =>
              (readMembers fuel (skip rest)).map fun (members, rest) =>
                ((key, value) :: members, rest)
            | '}' :: rest => some ([(key, value)], rest)
            | _ => none
        | _ => none
    | _ => none

end

-- The constants `NaN` and `Infinity`, which Python reads beside the grammar, are refused.
def decode (text : Text) : Option Tree :=
  match readValue platform (2 * text.length + 1) (skip text) with
  | none => none
  | some (value, rest) => if skip rest = [] then some value else none

end Reader

end CanonicalJson

end Library
