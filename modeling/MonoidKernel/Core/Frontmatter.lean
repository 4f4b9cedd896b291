import MonoidKernel.Core.Scope

set_option autoImplicit false

-- Translated from core/frontmatter.py. The texts are without lone surrogates.
namespace MonoidKernel.Frontmatter

open MonoidKernel.Scopes (isSpace trim)

abbrev Text := List Char

inductive Value where
  | null
  | bool (value : Bool)
  | int (value : Int)
  | str (text : Text)
  | list (items : List Value)

inductive PyError where
  | valueError
  | recursionError
deriving DecidableEq

section Integers

def decimalZeros : List Nat :=
  [0x30, 0x660, 0x6f0, 0x7c0, 0x966, 0x9e6, 0xa66, 0xae6, 0xb66, 0xbe6, 0xc66, 0xce6, 0xd66, 0xde6,
    0xe50, 0xed0, 0xf20, 0x1040, 0x1090, 0x17e0, 0x1810, 0x1946, 0x19d0, 0x1a80, 0x1a90, 0x1b50,
    0x1bb0, 0x1c40, 0x1c50, 0xa620, 0xa8d0, 0xa900, 0xa9d0, 0xa9f0, 0xaa50, 0xabf0, 0xff10, 0x104a0,
    0x10d30, 0x11066, 0x110f0, 0x11136, 0x111d0, 0x112f0, 0x11450, 0x114d0, 0x11650, 0x116c0,
    0x11730, 0x118e0, 0x11950, 0x11c50, 0x11d50, 0x11da0, 0x16a60, 0x16ac0, 0x16b50, 0x1d7ce,
    0x1d7d8, 0x1d7e2, 0x1d7ec, 0x1d7f6, 0x1e140, 0x1e2f0, 0x1e950, 0x1fbf0]

def otherDigits : List (Nat × Nat) :=
  [(0xb2, 2), (0xb9, 1), (0x1369, 9), (0x19da, 1), (0x2070, 1), (0x2074, 6), (0x2080, 10),
    (0x2460, 9), (0x2474, 9), (0x2488, 9), (0x24ea, 1), (0x24f5, 9), (0x24ff, 1), (0x2776, 9),
    (0x2780, 9), (0x278a, 9), (0x10a40, 4), (0x10e60, 9), (0x11052, 9), (0x1f100, 11)]

def decimalDigit (character : Char) : Option Nat :=
  (decimalZeros.find? fun first => first ≤ character.toNat && character.toNat < first + 10).map
    fun first => character.toNat - first

def isDigitCharacter (character : Char) : Bool :=
  (decimalDigit character).isSome ||
    otherDigits.any fun (first, count) =>
      first ≤ character.toNat && character.toNat < first + count

def isDigit (text : Text) : Bool := text ≠ [] && text.all isDigitCharacter

def candidate : Text → Text
  | '-' :: rest => rest
  | '+' :: rest => rest
  | token => token

def isInt (token : Text) : Bool := isDigit (candidate token)

def intMaxStrDigits : Nat := 4300

def digitsValue (digits : List Nat) : Nat :=
  digits.foldl (fun value digit => 10 * value + digit) 0

def signed (token : Text) (value : Nat) : Int :=
  if token.head? = some '-' then -(value : Int) else value

-- `int(token)` for a token that is a sign, or none, and the rest.
def int (token : Text) : Except PyError Int :=
  match (candidate token).mapM decimalDigit with
  | none => .error .valueError
  | some digits =>
    if intMaxStrDigits < digits.length then .error .valueError
    else .ok (signed token (digitsValue digits))

end Integers

section Scalars

structure Split where
  parts : List Text
  buf : Text
  quote : Option Char
deriving DecidableEq

def isQuote (character : Char) : Bool := character == '"' || character == '\''

def Split.step (split : Split) (character : Char) : Split :=
  match split.quote with
  | some quote =>
    { split with
      buf := split.buf ++ [character]
      quote := if character = quote then none else some quote }
  | none =>
    if isQuote character then
      { split with buf := split.buf ++ [character], quote := some character }
    else if character = ',' then { split with parts := split.parts ++ [trim split.buf], buf := [] }
    else { split with buf := split.buf ++ [character] }

def Split.finish (split : Split) : List Text :=
  let parts := if split.buf ≠ [] then split.parts ++ [trim split.buf] else split.parts
  parts.filter (· ≠ [])

def splitInlineList (inner : Text) : List Text :=
  (inner.foldl Split.step ⟨[], [], none⟩).finish

-- `str.lower`, for a comparison with ASCII words that no other character lowers to.
def lower (text : Text) : Text := text.map Char.toLower

def isBracketed (token : Text) : Bool := token.head? == some '[' && token.getLast? == some ']'

def isQuoted (token : Text) : Bool :=
  token.head?.any isQuote && token.head? == token.getLast? && 2 ≤ token.length

def middle (token : Text) : Text := token.tail.dropLast

def parseWord (token : Text) : Except PyError Value :=
  if lower token = "true".toList ∨ lower token = "false".toList then
    .ok (.bool (lower token = "true".toList))
  else if lower token = "null".toList ∨ lower token = "~".toList then .ok .null
  else if isInt token then (int token).map .int
  else .ok (.str token)

def parseScalar : Nat → Text → Except PyError Value
  | 0, _ => .error .recursionError
  | frames + 1, source =>
    let token := trim source
    if token = [] then .ok (.str [])
    else if isQuoted token then .ok (.str (middle token))
    else if isBracketed token then
      let inner := trim (middle token)
      if inner = [] then .ok (.list [])
      else ((splitInlineList inner).mapM (parseScalar frames)).map .list
    else parseWord token

end Scalars

section Blocks

variable (frames : Nat)

abbrev Metadata := List (Text × Value)

def Metadata.set : Metadata → Text → Value → Metadata
  | [], key, value => [(key, value)]
  | (other, held) :: rest, key, value =>
    if other = key then (other, value) :: rest else (other, held) :: Metadata.set rest key value

def isIgnored (line : Text) : Bool := trim line = [] || (trim line).head? == some '#'

def isItem (line : Text) : Bool := ['-', ' '].isPrefixOf (trim line)

def itemText (line : Text) : Text := trim ((trim line).drop 2)

-- The inner loop of `_parse_block`: the items, and the lines from the first other one.
def blockItems : List Text → Except PyError (List Value × List Text)
  | [] => .ok ([], [])
  | line :: rest =>
    if isIgnored line then blockItems rest
    else if isItem line then do
      let item ← parseScalar frames (itemText line)
      let (items, others) ← blockItems rest
      .ok (item :: items, others)
    else .ok ([], line :: rest)

theorem blockItems_rest {lines others : List Text} {items : List Value}
    (parsed : blockItems frames lines = .ok (items, others)) : others.length ≤ lines.length := by
  induction lines generalizing items with
  | nil => cases parsed; rfl
  | cons line rest ih =>
    rw [blockItems] at parsed
    split at parsed
    · exact (ih parsed).trans (Nat.le_succ _)
    · split at parsed
      · cases scalar : parseScalar frames (itemText line) with
        | error error => rw [scalar] at parsed; cases parsed
        | ok item =>
          cases more : blockItems frames rest with
          | error error => rw [scalar, more] at parsed; cases parsed
          | ok found =>
            rw [scalar, more] at parsed
            cases parsed
            exact (ih more).trans (Nat.le_succ _)
      · cases parsed; rfl

def keyOf (line : Text) : Text := trim (line.takeWhile (· ≠ ':'))

def restOf (line : Text) : Text := trim ((line.dropWhile (· ≠ ':')).drop 1)

def parseBlock (metadata : Metadata) : List Text → Except PyError Metadata
  | [] => .ok metadata
  | line :: rest =>
    if isIgnored line then parseBlock metadata rest
    else if ':' ∉ line then parseBlock metadata rest
    else if restOf line ≠ [] then
      match parseScalar frames (restOf line) with
      | .error error => .error error
      | .ok value => parseBlock (metadata.set (keyOf line) value) rest
    else
      match _found : blockItems frames rest with
      | .error error => .error error
      | .ok (items, others) =>
        if items ≠ [] then parseBlock (metadata.set (keyOf line) (.list items)) others
        else parseBlock (metadata.set (keyOf line) .null) rest
  termination_by lines => lines.length
  decreasing_by
    all_goals try exact Nat.lt_succ_self _
    exact Nat.lt_succ_of_le (blockItems_rest frames (by assumption))

end Blocks

section Documents

def replaceCrLf : Text → Text
  | '\r' :: '\n' :: rest => '\n' :: replaceCrLf rest
  | character :: rest => character :: replaceCrLf rest
  | [] => []

def normalizeNewlines (text : Text) : Text :=
  (replaceCrLf text).map fun character => if character = '\r' then '\n' else character

def fence : Text := ['-', '-', '-']

def parseFrontmatter (frames : Nat) (text : Text) : Except PyError (Metadata × Text) :=
  let normalized := normalizeNewlines text
  if ¬ (fence ++ ['\n']).isPrefixOf normalized ∧ trim normalized ≠ fence then .ok ([], text)
  else
    let lines := normalized.splitOn '\n'
    let block := lines.tail.takeWhile fun line => trim line ≠ fence
    match lines.tail.dropWhile fun line => trim line ≠ fence with
    | [] => .ok ([], text)
    | _ :: after =>
      match parseBlock frames [] block with
      | .error error => .error error
      | .ok metadata =>
        let body := ['\n'].intercalate after
        .ok (metadata, if body.head? = some '\n' then body.drop 1 else body)

end Documents

end MonoidKernel.Frontmatter
