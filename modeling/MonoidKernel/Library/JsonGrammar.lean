import MonoidKernel.Library.JsonText

set_option autoImplicit false

namespace Library

namespace JsonGrammar

abbrev Text := List Char

abbrev Tree := Json Text

def isBlank (character : Char) : Bool :=
  character == ' ' || character == '\t' || character == '\n' || character == '\r'

def Blank (text : Text) : Prop := ∀ character ∈ text, isBlank character = true

def hexDigits : Text := "0123456789abcdefABCDEF".toList

def simpleEscapes : Text := "\"\\/bfnrt".toList

inductive StringBody : Text → Prop where
  | nil : StringBody []
  | plain {character : Char} {rest : Text} (quote : character ≠ '"') (slash : character ≠ '\\')
      (control : 0x20 ≤ character.toNat) (body : StringBody rest) : StringBody (character :: rest)
  | escape {character : Char} {rest : Text} (listed : character ∈ simpleEscapes)
      (body : StringBody rest) : StringBody ('\\' :: character :: rest)
  | unicode {digits rest : Text} (four : digits.length = 4)
      (hex : ∀ digit ∈ digits, digit ∈ hexDigits) (body : StringBody rest) :
      StringBody ('\\' :: 'u' :: (digits ++ rest))

def Digits (text : Text) : Prop := text ≠ [] ∧ ∀ digit ∈ text, digit.isDigit = true

structure NumberParts where
  sign : Text
  whole : Text
  fraction : Text
  exponent : Text

structure NumberParts.Valid (parts : NumberParts) : Prop where
  sign : parts.sign = [] ∨ parts.sign = ['-']
  whole : Digits parts.whole
  noLeadingZero : parts.whole.head? = some '0' → parts.whole = ['0']
  fraction : parts.fraction = [] ∨ ∃ digits, Digits digits ∧ parts.fraction = '.' :: digits
  exponent : parts.exponent = [] ∨ ∃ mark sign digits, (mark = 'e' ∨ mark = 'E') ∧
    (sign = [] ∨ sign = ['+'] ∨ sign = ['-']) ∧ Digits digits ∧
    parts.exponent = mark :: (sign ++ digits)

def Number (text : Text) : Prop :=
  ∃ parts : NumberParts, parts.Valid ∧
    text = parts.sign ++ parts.whole ++ parts.fraction ++ parts.exponent

def literal : Option Bool → Tree
  | none => .null
  | some value => .bool value

mutual

inductive Spells : Tree → Text → Prop where
  | literal (value : Option Bool) : Spells (literal value) (JsonText.keyword value)
  | number {text : Text} (number : Number text) : Spells (.float text) text
  | string {body : Text} (valid : StringBody body) : Spells (.str body) ('"' :: (body ++ ['"']))
  | emptyList {blank : Text} (free : Blank blank) : Spells (.list []) ('[' :: (blank ++ [']']))
  | list {items : List Tree} {text : Text} (inside : Items items text) :
      Spells (.list items) ('[' :: (text ++ [']']))
  | emptyDict {blank : Text} (free : Blank blank) :
      Spells (.dict []) ('\x7b' :: (blank ++ ['\x7d']))
  | dict {entries : List (Text × Tree)} {text : Text} (inside : Members entries text) :
      Spells (.dict entries) ('\x7b' :: (text ++ ['\x7d']))

inductive Items : List Tree → Text → Prop where
  | last {item : Tree} {before text after : Text} (left : Blank before) (value : Spells item text)
      (right : Blank after) : Items [item] (before ++ (text ++ after))
  | more {item : Tree} {rest : List Tree} {before text after others : Text} (left : Blank before)
      (value : Spells item text) (right : Blank after) (next : Items rest others) :
      Items (item :: rest) (before ++ (text ++ (after ++ ',' :: others)))

inductive Members : List (Text × Tree) → Text → Prop where
  | last {key : Text} {item : Tree} {before gap space text after : Text} (left : Blank before)
      (name : StringBody key) (colon : Blank gap) (inner : Blank space) (value : Spells item text)
      (right : Blank after) :
      Members [(key, item)]
        (before ++ ('"' :: (key ++ '"' :: (gap ++ ':' :: (space ++ (text ++ after))))))
  | more {key : Text} {item : Tree} {rest : List (Text × Tree)}
      {before gap space text after others : Text} (left : Blank before) (name : StringBody key)
      (colon : Blank gap) (inner : Blank space) (value : Spells item text) (right : Blank after)
      (next : Members rest others) :
      Members ((key, item) :: rest)
        (before ++ ('"' :: (key ++ '"' :: (gap ++ ':' :: (space ++ (text ++
          (after ++ ',' :: others)))))))

end

def Document (value : Tree) (text : Text) : Prop :=
  ∃ before inside after, Blank before ∧ Spells value inside ∧ Blank after ∧
    text = before ++ (inside ++ after)

end JsonGrammar

end Library
