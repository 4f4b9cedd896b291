import MonoidKernel.Library.Texts
import Mathlib.Data.List.Basic
import Mathlib.Algebra.Ring.Nat

set_option autoImplicit false

namespace Library

universe u

inductive Json (F : Type u) where
  | null
  | bool (value : Bool)
  | int (value : Int)
  | float (value : F)
  | str (text : List Char)
  | list (items : List (Json F))
  | dict (entries : List (List Char × Json F))

namespace JsonText

def decimal (n : Nat) : List Char := Nat.toDigits 10 n

def spellInt : Int → List Char
  | .ofNat n => decimal n
  | .negSucc n => '-' :: decimal (n + 1)

def hexDigit (n : Nat) : Char := Nat.digitChar n

def escapeUnit (unit : Nat) : List Char :=
  ['\\', 'u', hexDigit (unit / 0x1000 % 16), hexDigit (unit / 0x100 % 16),
    hexDigit (unit / 0x10 % 16), hexDigit (unit % 16)]

-- One character of a string; above the basic plane a surrogate pair.
def escape (character : Char) : List Char :=
  if character = '"' then ['\\', '"']
  else if character = '\\' then ['\\', '\\']
  else if character = '\n' then ['\\', 'n']
  else if character = '\r' then ['\\', 'r']
  else if character = '\t' then ['\\', 't']
  else if character.toNat = 0x08 then ['\\', 'b']
  else if character.toNat = 0x0C then ['\\', 'f']
  else if 0x20 ≤ character.toNat ∧ character.toNat ≤ 0x7E then [character]
  else if character.toNat < 0x10000 then escapeUnit character.toNat
  else
    escapeUnit (0xD800 + (character.toNat - 0x10000) / 0x400) ++
      escapeUnit (0xDC00 + (character.toNat - 0x10000) % 0x400)

def spellStr (text : List Char) : List Char := '"' :: text.flatMap escape ++ ['"']

def keyword : Option Bool → List Char
  | none => ['n', 'u', 'l', 'l']
  | some true => ['t', 'r', 'u', 'e']
  | some false => ['f', 'a', 'l', 's', 'e']

def commas : List (List Char) → List Char
  | [] => []
  | [last] => last
  | text :: rest => text ++ ',' :: ' ' :: commas rest

variable {F : Type u} (spellFloat : F → List Char)

mutual

def dumps : Json F → List Char
  | .null => keyword none
  | .bool value => keyword (some value)
  | .int value => spellInt value
  | .float value => spellFloat value
  | .str text => spellStr text
  | .list items => '[' :: commas (dumpsItems items) ++ [']']
  | .dict entries => '{' :: commas (dumpsEntries entries) ++ ['}']

def dumpsItems : List (Json F) → List (List Char)
  | [] => []
  | item :: rest => dumps item :: dumpsItems rest

def dumpsEntries : List (List Char × Json F) → List (List Char)
  | [] => []
  | (key, value) :: rest => (spellStr key ++ ':' :: ' ' :: dumps value) :: dumpsEntries rest

end

def size (value : Json F) : Nat := (dumps spellFloat value).length

def keySize (key : List Char) : Nat := (spellStr key).length

def itemSize (item : Json F) : Nat := size spellFloat item + 2

def itemsSize (items : List (Json F)) : Nat := (items.map (itemSize spellFloat)).sum

def entrySize (entry : List Char × Json F) : Nat := keySize entry.1 + 4 + size spellFloat entry.2

def entriesSize (entries : List (List Char × Json F)) : Nat :=
  (entries.map (entrySize spellFloat)).sum

theorem commas_length (texts : List (List Char)) :
    (commas texts).length + 2 =
      (texts.map fun text => text.length + 2).sum + if texts = [] then 2 else 0 := by
  induction texts with
  | nil => rfl
  | cons text rest ih =>
    cases rest with
    | nil => simp [commas]
    | cons next others =>
      rw [if_neg (by simp)] at ih
      simp only [commas, List.length_append, List.length_cons, List.map_cons, List.sum_cons,
        reduceCtorEq, if_false] at ih ⊢
      omega

theorem dumpsItems_sizes (items : List (Json F)) :
    (dumpsItems spellFloat items).map (fun text => text.length + 2) =
      items.map (itemSize spellFloat) := by
  induction items with
  | nil => rfl
  | cons item rest ih =>
    rw [dumpsItems, List.map_cons, ih]
    rfl

variable (entries : List (List Char × Json F))

theorem dumpsEntries_sizes :
    (dumpsEntries spellFloat entries).map (fun text => text.length + 2) =
      entries.map (entrySize spellFloat) := by
  induction entries with
  | nil => rfl
  | cons entry rest ih =>
    rw [dumpsEntries, List.map_cons, ih, List.map_cons]
    congr 1
    simp only [entrySize, keySize, size, List.length_append, List.length_cons]
    omega

theorem size_list (items : List (Json F)) :
    size spellFloat (.list items) =
      itemsSize spellFloat items + if items = [] then 2 else 0 := by
  have length := commas_length (dumpsItems spellFloat items)
  rw [dumpsItems_sizes] at length
  have empty : dumpsItems spellFloat items = [] ↔ items = [] := by
    cases items <;> simp [dumpsItems]
  simp only [empty] at length
  simp only [size, dumps, List.length_append, List.length_cons, List.length_nil]
  exact length

theorem size_dict :
    size spellFloat (.dict entries) =
      entriesSize spellFloat entries + if entries = [] then 2 else 0 := by
  have length := commas_length (dumpsEntries spellFloat entries)
  rw [dumpsEntries_sizes] at length
  have empty : dumpsEntries spellFloat entries = [] ↔ entries = [] := by
    cases entries <;> simp [dumpsEntries]
  simp only [empty] at length
  simp only [size, dumps, List.length_append, List.length_cons, List.length_nil]
  exact length

theorem size_dict_le :
    size spellFloat (.dict entries) ≤ entriesSize spellFloat entries + 2 := by
  rw [size_dict]
  split <;> omega

theorem size_list_le (items : List (Json F)) :
    size spellFloat (.list items) ≤ itemsSize spellFloat items + 2 := by
  rw [size_list]
  split <;> omega

theorem decimal_length {n digits : Nat} (some : 0 < digits) (below : n < 10 ^ digits) :
    (decimal n).length ≤ digits :=
  (Nat.length_toDigits_le_iff (by omega) some).mpr below

theorem size_int {n digits : Nat} (some : 0 < digits) (below : n < 10 ^ digits) :
    size spellFloat (.int n) ≤ digits :=
  decimal_length some below

theorem escape_digit {character : Char} (digit : character.isDigit = true) :
    escape character = [character] := by
  have range := Char.isDigit_iff_toNat.mp digit
  have low : 48 ≤ character.toNat := range.1
  have high : character.toNat ≤ 57 := range.2
  have other : ∀ special : Char, special.toNat < 48 ∨ 57 < special.toNat →
      character ≠ special := by
    intro special outside same
    rw [same] at low high
    omega
  unfold escape
  rw [if_neg (other '"' (by decide)), if_neg (other '\\' (by decide)),
    if_neg (other '\n' (by decide)), if_neg (other '\r' (by decide)),
    if_neg (other '\t' (by decide)), if_neg (by omega), if_neg (by omega), if_pos (by omega)]

theorem escaped_plain {text : List Char}
    (plain : ∀ character ∈ text, escape character = [character]) :
    text.flatMap escape = text := by
  induction text with
  | nil => rfl
  | cons character rest ih =>
    rw [List.forall_mem_cons] at plain
    rw [List.flatMap_cons, plain.1, ih plain.2]
    rfl

theorem decimal_escaped (n : Nat) : (decimal n).flatMap escape = decimal n :=
  escaped_plain fun _ member =>
    escape_digit (Nat.isDigit_of_mem_toDigits (by decide) (by decide) member)

theorem keySize_numbered (key : List Char) (n : Nat) :
    keySize (key ++ '#' :: decimal n) = keySize key + 1 + (decimal n).length := by
  have sharp : escape '#' = ['#'] := by decide
  unfold keySize spellStr
  rw [List.flatMap_append, List.flatMap_cons, decimal_escaped, sharp]
  simp only [List.length_append, List.length_cons, List.length_nil]
  omega

section Nesting

mutual

def nesting : Json F → Nat
  | .list items => nestingItems items + 1
  | .dict entries => nestingEntries entries + 1
  | _ => 0

def nestingItems : List (Json F) → Nat
  | [] => 0
  | item :: rest => max (nesting item) (nestingItems rest)

def nestingEntries : List (List Char × Json F) → Nat
  | [] => 0
  | (_, value) :: rest => max (nesting value) (nestingEntries rest)

end

end Nesting

end JsonText

end Library
