import MonoidKernel.Core.FrontmatterReading

set_option autoImplicit false

namespace MonoidKernel.Frontmatter

open MonoidKernel.Scopes (isSpace trim strip trim_trim)

section Written

def OneLine (text : Text) : Prop := ∀ character ∈ text, character ≠ '\n' ∧ character ≠ '\r'

def isAsciiDigit (character : Char) : Bool := '0' ≤ character && character ≤ '9'

def AsciiInteger (text : Text) : Prop :=
  candidate text ≠ [] ∧ ∀ character ∈ candidate text, isAsciiDigit character

def asciiValue (text : Text) : Int :=
  signed text (digitsValue ((candidate text).map fun character => character.toNat - 48))

def boolWord (value : Bool) : Text := if value then "true".toList else "false".toList

structure Bare (text : Text) : Prop where
  nonempty : text ≠ []
  line : OneLine text
  trimmed : trim text = text
  bracket : text.head? ≠ some '['
  quote : text.head?.any isQuote = false
  word : ∀ value, lower text ≠ boolWord value
  null : lower text ≠ "null".toList ∧ lower text ≠ "~".toList
  number : ¬ AsciiInteger text

inductive Scalar where
  | bool (value : Bool) (text : Text) (spelled : lower text = boolWord value)
  | null (text : Text) (spelled : lower text = "null".toList ∨ lower text = "~".toList)
  | int (text : Text) (digits : AsciiInteger text)
  | quoted (mark : Char) (content : Text) (quote : isQuote mark = true) (line : OneLine content)
      (inside : mark ∉ content)
  | plain (text : Text) (bare : Bare text)

def Scalar.text : Scalar → Text
  | .bool _ text _ => text
  | .null text _ => text
  | .int text _ => text
  | .quoted mark content _ _ _ => mark :: content ++ [mark]
  | .plain text _ => text

def Scalar.value : Scalar → Value
  | .bool value _ _ => .bool value
  | .null _ _ => .null
  | .int text _ => .int (asciiValue text)
  | .quoted _ content _ _ _ => .str content
  | .plain text _ => .str text

def Scalar.Inline : Scalar → Prop
  | .plain text _ => ∀ character ∈ text, character ≠ ',' ∧ character ≠ '[' ∧ character ≠ ']' ∧
      isQuote character = false
  | _ => True

def Scalar.Portable : Scalar → Prop
  | .int text _ => (candidate text).length ≤ intMaxStrDigits
  | .plain text _ => isInt text = false
  | _ => True

inductive Written where
  | scalar (only : Scalar)
  | inline (items : List Scalar) (nonempty : items ≠ []) (safe : ∀ item ∈ items, item.Inline)
  | block (items : List Scalar) (nonempty : items ≠ [])

def Written.scalars : Written → List Scalar
  | .scalar only => [only]
  | .inline items _ _ => items
  | .block items _ => items

def Written.value : Written → Value
  | .scalar only => only.value
  | .inline items _ _ => .list (items.map Scalar.value)
  | .block items _ => .list (items.map Scalar.value)

structure Entry where
  key : Text
  written : Written
  nonempty : key ≠ []
  colon : ':' ∉ key
  trimmed : trim key = key
  start : key.head? ≠ some '#' ∧ key.head? ≠ some '-'

def KeyLine (key text line : Text) : Prop :=
  ∃ before after, line = before ++ ':' :: after ∧ trim before = key ∧ trim after = text

def Written.On (text : Text) : Written → Prop
  | .scalar only => text = only.text
  | .inline items _ _ => ∃ parts, text = '[' :: [','].intercalate parts ++ [']'] ∧
      parts.map trim = items.map Scalar.text
  | .block _ _ => False

inductive ItemLines : List Scalar → List Text → Prop
  | nil : ItemLines [] []
  | ignored {items : List Scalar} {lines : List Text} {line : Text} :
      isIgnored line = true → ItemLines items lines → ItemLines items (line :: lines)
  | item {items : List Scalar} {lines : List Text} {line text : Text} (scalar : Scalar) :
      trim line = '-' :: ' ' :: text → trim text = scalar.text → ItemLines items lines →
      ItemLines (scalar :: items) (line :: lines)

inductive Rendering : List Entry → List Text → Prop
  | nil : Rendering [] []
  | ignored {entries : List Entry} {lines : List Text} {line : Text} :
      isIgnored line = true → Rendering entries lines → Rendering entries (line :: lines)
  | inline {entries : List Entry} {lines : List Text} {line text : Text} (entry : Entry) :
      KeyLine entry.key text line → entry.written.On text → Rendering entries lines →
      Rendering (entry :: entries) (line :: lines)
  | block {entries : List Entry} {lines itemLines : List Text} {line : Text} {items : List Scalar}
      {nonempty : items ≠ []} (entry : Entry) : entry.written = .block items nonempty →
      KeyLine entry.key [] line → ItemLines items itemLines → Rendering entries lines →
      Rendering (entry :: entries) (line :: itemLines ++ lines)

end Written

section Scalars

theorem upper_no_space : ∀ place < 26, isSpace (Char.ofNat (65 + place)) = false := by
  decide

theorem space_lowered {character : Char} (space : isSpace character = true) :
    character.toLower = character := by
  unfold Char.toLower
  split
  next upper =>
    obtain ⟨low, high⟩ := upper
    have from65 : 65 ≤ character.toNat := UInt32.le_iff_toNat_le.mp low
    have to90 : character.toNat ≤ 90 := UInt32.le_iff_toNat_le.mp high
    have named := upper_no_space (character.toNat - 65) (by omega)
    have place : 65 + (character.toNat - 65) = character.toNat := by omega
    rw [place, Char.ofNat_toNat, space] at named
    cases named
  · rfl

-- A text that is read as a word: it has no blanks at its ends, and does not start as a quoted
-- string or a list does.
structure Word (text : Text) : Prop where
  nonempty : text ≠ []
  trimmed : trim text = text
  bracket : text.head? ≠ some '['
  quote : text.head?.any isQuote = false

variable {text : Text}

theorem Word.parse (word : Word text) (frames : Nat) :
    parseScalar (frames + 1) text = parseWord text := by
  have unquoted : isQuoted text = false := by simp [isQuoted, word.quote]
  have unbracketed : isBracketed text = false := by simp [isBracketed, word.bracket]
  simp only [parseScalar, word.trimmed, unquoted, unbracketed, if_neg word.nonempty,
    Bool.false_eq_true, if_false]

theorem lowered_word {rest : Text} {letter : Char} (spelled : lower text = letter :: rest)
    (visible : ((letter :: rest).all fun character => !isSpace character) = true)
    (bracket : letter ≠ '[') (double : letter ≠ '"') (single : letter ≠ '\'') : Word text := by
  cases text with
  | nil => cases spelled
  | cons first more =>
    have lowered : first.toLower = letter := (List.cons.inj spelled).1
    have other (mark : Char) (fixed : mark.toLower = mark) (differs : letter ≠ mark) :
        first ≠ mark := by
      rintro rfl
      exact differs (lowered.symm.trans fixed)
    refine ⟨List.cons_ne_nil _ _, trim_visible fun character member => ?_, ?_, ?_⟩
    · cases space : isSpace character with
      | false => rfl
      | true =>
        have held : character.toLower ∈ lower (first :: more) := List.mem_map_of_mem member
        rw [space_lowered space, spelled] at held
        have shown := List.all_eq_true.mp visible character held
        rw [space] at shown
        cases shown
    · simpa using other '[' (by decide) bracket
    · simpa [isQuote] using ⟨other '"' (by decide) double, other '\'' (by decide) single⟩

theorem bool_word {value : Bool} (spelled : lower text = boolWord value) : Word text := by
  cases value with
  | true => exact lowered_word spelled (by decide) (by decide) (by decide) (by decide)
  | false => exact lowered_word spelled (by decide) (by decide) (by decide) (by decide)

theorem null_word (spelled : lower text = "null".toList ∨ lower text = "~".toList) :
    Word text := by
  rcases spelled with spelled | spelled
  · exact lowered_word spelled (by decide) (by decide) (by decide) (by decide)
  · exact lowered_word spelled (by decide) (by decide) (by decide) (by decide)

theorem ascii_decimal {character : Char} (digit : isAsciiDigit character = true) :
    decimalDigit character = some (character.toNat - 48) := by
  simp only [isAsciiDigit, Bool.and_eq_true, decide_eq_true_eq] at digit
  have from48 : 0x30 ≤ character.toNat := UInt32.le_iff_toNat_le.mp digit.1
  have to57 : character.toNat ≤ 57 := UInt32.le_iff_toNat_le.mp digit.2
  have first : (decide (0x30 ≤ character.toNat) && decide
      (character.toNat < 0x30 + 10)) = true := by
    simp only [Bool.and_eq_true, decide_eq_true_eq]
    omega
  simp only [decimalDigit, decimalZeros, List.find?_cons, first, Option.map_some]

theorem ascii_visible {character : Char} (digit : isAsciiDigit character = true) :
    isSpace character = false ∧ character ≠ '[' ∧ isQuote character = false := by
  simp only [isAsciiDigit, Bool.and_eq_true, decide_eq_true_eq] at digit
  have from48 : 48 ≤ character.toNat := UInt32.le_iff_toNat_le.mp digit.1
  have to57 : character.toNat ≤ 57 := UInt32.le_iff_toNat_le.mp digit.2
  have digits : ∀ place < 10, isSpace (Char.ofNat (48 + place)) = false ∧
      Char.ofNat (48 + place) ≠ '[' ∧ isQuote (Char.ofNat (48 + place)) = false := by decide
  have named := digits (character.toNat - 48) (by omega)
  have place : 48 + (character.toNat - 48) = character.toNat := by omega
  rwa [place, Char.ofNat_toNat] at named

theorem candidate_cases (text : Text) :
    candidate text = text ∨ ∃ sign, (sign = '-' ∨ sign = '+') ∧ text = sign :: candidate text := by
  unfold candidate
  split
  · exact Or.inr ⟨'-', Or.inl rfl, rfl⟩
  · exact Or.inr ⟨'+', Or.inr rfl, rfl⟩
  · exact Or.inl rfl

theorem AsciiInteger.word (integer : AsciiInteger text) : Word text := by
  obtain ⟨nonempty, digits⟩ := integer
  rcases candidate_cases text with same | ⟨sign, signs, whole⟩
  · rw [same] at nonempty digits
    obtain ⟨first, rest, rfl⟩ := List.exists_cons_of_ne_nil nonempty
    obtain ⟨_, bracket, quote⟩ := ascii_visible (digits first List.mem_cons_self)
    refine ⟨nonempty, trim_visible fun character member =>
      (ascii_visible (digits _ member)).1, ?_, ?_⟩
    · simpa using bracket
    · simpa using quote
  · have visible : isSpace sign = false ∧ sign ≠ '[' ∧ isQuote sign = false := by
      rcases signs with rfl | rfl <;> decide
    rw [whole]
    refine ⟨List.cons_ne_nil _ _, trim_visible fun character member => ?_, ?_, ?_⟩
    · rcases List.mem_cons.mp member with rfl | held
      · exact visible.1
      · exact (ascii_visible (digits _ held)).1
    · simpa using visible.2.1
    · simpa using visible.2.2

theorem AsciiInteger.isInt (integer : AsciiInteger text) : isInt text = true := by
  obtain ⟨nonempty, digits⟩ := integer
  have every : ∀ character ∈ candidate text, isDigitCharacter character = true := by
    intro character member
    simp [isDigitCharacter, ascii_decimal (digits character member)]
  simp only [Frontmatter.isInt, isDigit, Bool.and_eq_true, decide_eq_true_eq, List.all_eq_true]
  exact ⟨nonempty, every⟩

theorem AsciiInteger.int (integer : AsciiInteger text) :
    int text = .ok (asciiValue text) ↔ (candidate text).length ≤ intMaxStrDigits := by
  have digits : (candidate text).mapM decimalDigit =
      some ((candidate text).map fun character => character.toNat - 48) := by
    have step : ∀ found : Text, (∀ character ∈ found, isAsciiDigit character = true) →
        found.mapM decimalDigit = some (found.map fun character => character.toNat - 48) := by
      intro found every
      induction found with
      | nil => rfl
      | cons first rest ih =>
        rw [List.forall_mem_cons] at every
        rw [List.mapM_cons, ascii_decimal every.1, ih every.2]
        rfl
    exact step _ integer.2
  unfold Frontmatter.int
  rw [digits]
  simp only [List.length_map]
  by_cases long : intMaxStrDigits < (candidate text).length
  · simp [long]
  · simp [long, Nat.le_of_not_lt long, asciiValue]

theorem quote_visible {mark : Char} (quote : isQuote mark = true) : isSpace mark = false := by
  have marks : mark = '"' ∨ mark = '\'' := by simpa [isQuote] using quote
  rcases marks with rfl | rfl <;> decide

theorem quoted_ends (mark : Char) (content : Text) :
    (mark :: content ++ [mark]).head? = some mark ∧
      (mark :: content ++ [mark]).getLast? = some mark :=
  ⟨rfl, List.getLast?_concat ..⟩

theorem Scalar.shape (scalar : Scalar) : scalar.text ≠ [] ∧ trim scalar.text = scalar.text := by
  cases scalar with
  | bool value text spelled =>
    have word := bool_word spelled
    exact ⟨word.nonempty, word.trimmed⟩
  | null text spelled =>
    have word := null_word spelled
    exact ⟨word.nonempty, word.trimmed⟩
  | int text digits => exact ⟨digits.word.nonempty, digits.word.trimmed⟩
  | quoted mark content quote line inside =>
    obtain ⟨head, last⟩ := quoted_ends mark content
    refine ⟨List.cons_ne_nil _ _, trim_same ?_ ?_⟩
    · intro character found
      change (mark :: content ++ [mark]).head? = _ at found
      rw [head] at found
      cases found
      exact quote_visible quote
    · intro character found
      change (mark :: content ++ [mark]).getLast? = _ at found
      rw [last] at found
      cases found
      exact quote_visible quote
  | plain text bare => exact ⟨bare.nonempty, bare.trimmed⟩

theorem Scalar.parse (scalar : Scalar) (frames : Nat) :
    parseScalar (frames + 1) scalar.text = .ok scalar.value ↔ scalar.Portable := by
  cases scalar with
  | bool value text spelled =>
    have word := bool_word spelled
    change parseScalar (frames + 1) text = .ok (.bool value) ↔ True
    rw [word.parse, parseWord, spelled]
    cases value <;> simp [boolWord]
  | null text spelled =>
    have word := null_word spelled
    change parseScalar (frames + 1) text = .ok .null ↔ True
    rw [word.parse, parseWord]
    rcases spelled with spelled | spelled <;> simp [spelled]
  | int text digits =>
    change parseScalar (frames + 1) text = .ok (.int (asciiValue text)) ↔ _
    have number := digits.isInt
    have truth : ¬ (lower text = "true".toList ∨ lower text = "false".toList) := by
      rintro (spelled | spelled)
      all_goals
        rw [word_unreadable spelled (by decide) (by decide) (by decide)] at number
        cases number
    have null : ¬ (lower text = "null".toList ∨ lower text = "~".toList) := by
      rintro (spelled | spelled)
      all_goals
        rw [word_unreadable spelled (by decide) (by decide) (by decide)] at number
        cases number
    rw [digits.word.parse, parseWord, if_neg truth, if_neg null, if_pos number]
    change _ ↔ (candidate text).length ≤ intMaxStrDigits
    rw [← digits.int]
    cases taken : Frontmatter.int text with
    | error error =>
      constructor
      · intro same; cases same
      · intro same; cases same
    | ok value =>
      constructor
      · intro same; cases same; rfl
      · intro same; cases same; rfl
  | quoted mark content quote line inside =>
    change parseScalar (frames + 1) (mark :: content ++ [mark]) = .ok (.str content) ↔ True
    obtain ⟨head, last⟩ := quoted_ends mark content
    have trimmed := (Scalar.quoted mark content quote line inside).shape.2
    change trim (mark :: content ++ [mark]) = mark :: content ++ [mark] at trimmed
    have quoted : isQuoted (mark :: content ++ [mark]) = true := by
      unfold isQuoted
      rw [head, last]
      simp [quote]
    have inner : middle (mark :: content ++ [mark]) = content := by simp [middle]
    simp only [parseScalar, trimmed, quoted, inner, if_true]
    simp
  | plain text bare =>
    have word : Word text := ⟨bare.nonempty, bare.trimmed, bare.bracket, bare.quote⟩
    change parseScalar (frames + 1) text = .ok (.str text) ↔ isInt text = false
    have truth : ¬ (lower text = "true".toList ∨ lower text = "false".toList) :=
      not_or.mpr ⟨bare.word true, bare.word false⟩
    have null : ¬ (lower text = "null".toList ∨ lower text = "~".toList) := not_or.mpr bare.null
    rw [word.parse, parseWord, if_neg truth, if_neg null]
    cases number : isInt text with
    | false => simp
    | true =>
      rw [if_pos rfl]
      cases taken : Frontmatter.int text with
      | error error =>
        constructor
        · intro same; cases same
        · intro same; cases same
      | ok value =>
        constructor
        · intro same; cases same
        · intro same; cases same

end Scalars

section Lists

def Copied (text : Text) : Prop := ∀ parts buf,
  text.foldl Split.step ⟨parts, buf, none⟩ = ⟨parts, buf ++ text, none⟩

theorem Copied.append {first second : Text} (one : Copied first) (two : Copied second) :
    Copied (first ++ second) := by
  intro parts buf
  rw [List.foldl_append, one, two, List.append_assoc]

theorem copied_plain {text : Text}
    (plain : ∀ character ∈ text, character ≠ ',' ∧ isQuote character = false) : Copied text := by
  induction text with
  | nil => intro parts buf; simp
  | cons first rest ih =>
    rw [List.forall_mem_cons] at plain
    intro parts buf
    have step : Split.step ⟨parts, buf, none⟩ first = ⟨parts, buf ++ [first], none⟩ := by
      simp [Split.step, plain.1.1, plain.1.2]
    rw [List.foldl_cons, step, ih plain.2, List.append_assoc]
    rfl

theorem copied_inside {mark : Char} {content : Text} (inside : mark ∉ content) (parts : List Text)
    (buf : Text) : content.foldl Split.step ⟨parts, buf, some mark⟩ =
      ⟨parts, buf ++ content, some mark⟩ := by
  induction content generalizing buf with
  | nil => simp
  | cons first rest ih =>
    rw [List.mem_cons, not_or] at inside
    have step : Split.step ⟨parts, buf, some mark⟩ first = ⟨parts, buf ++ [first], some mark⟩ := by
      simp [Split.step, Ne.symm inside.1]
    rw [List.foldl_cons, step, ih inside.2, List.append_assoc]
    rfl

theorem copied_quoted {mark : Char} {content : Text} (quote : isQuote mark = true)
    (inside : mark ∉ content) : Copied (mark :: content ++ [mark]) := by
  intro parts buf
  have opens : Split.step ⟨parts, buf, none⟩ mark = ⟨parts, buf ++ [mark], some mark⟩ := by
    simp [Split.step, quote]
  rw [List.cons_append, List.foldl_cons, opens, List.foldl_append, copied_inside inside]
  simp [Split.step]

theorem blank_copied {blank : Text} (spaces : ∀ character ∈ blank, isSpace character = true) :
    Copied blank := by
  refine copied_plain fun character member => ?_
  have space := spaces character member
  constructor
  · rintro rfl
    cases space
  · cases quote : isQuote character with
    | false => rfl
    | true =>
      rw [quote_visible quote] at space
      cases space

theorem lowered_copied {text word : Text} (spelled : lower text = word)
    (plain : (word.all fun character => character != ',' && !isQuote character) = true) :
    Copied text := by
  refine copied_plain fun character member => ?_
  have held : character.toLower ∈ lower text := List.mem_map_of_mem member
  rw [spelled] at held
  have plain := List.all_eq_true.mp plain _ held
  rw [Bool.and_eq_true, bne_iff_ne, Bool.not_eq_true'] at plain
  obtain ⟨comma, quote⟩ := plain
  constructor
  · rintro rfl
    exact comma rfl
  · cases marks : isQuote character with
    | false => rfl
    | true =>
      have named : character = '"' ∨ character = '\'' := by simpa [isQuote] using marks
      rcases named with rfl | rfl
      · cases quote
      · cases quote

theorem Scalar.copied (scalar : Scalar) (safe : scalar.Inline) : Copied scalar.text := by
  cases scalar with
  | bool value text spelled =>
    cases value with
    | true => exact lowered_copied spelled (by decide)
    | false => exact lowered_copied spelled (by decide)
  | null text spelled =>
    rcases spelled with spelled | spelled
    · exact lowered_copied spelled (by decide)
    · exact lowered_copied spelled (by decide)
  | int text digits =>
    refine copied_plain fun character member => ?_
    have digit : isAsciiDigit character = true → character ≠ ',' ∧ isQuote character = false := by
      intro digit
      refine ⟨?_, (ascii_visible digit).2.2⟩
      rintro rfl
      cases digit
    change character ∈ text at member
    rcases candidate_cases text with same | ⟨sign, signs, whole⟩
    · rw [← same] at member
      exact digit (digits.2 character member)
    · rw [whole] at member
      rcases List.mem_cons.mp member with rfl | held
      · rcases signs with rfl | rfl <;> decide
      · exact digit (digits.2 character held)
  | quoted mark content quote line inside => exact copied_quoted quote inside
  | plain text bare =>
    exact copied_plain fun character member =>
      ⟨(safe character member).1, (safe character member).2.2.2⟩

theorem copied_trim {part : Text} (copied : Copied (trim part)) : Copied part := by
  obtain ⟨before, after, whole, first, last⟩ := trim_suffix part
  rw [whole]
  exact ((blank_copied first).append copied).append (blank_copied last)

theorem split_pieces {parts : List Text} (copied : ∀ part ∈ parts, Copied part) (last : Text)
    (ends : Copied last) (done : List Text) :
    ([','].intercalate (parts ++ [last])).foldl Split.step ⟨done, [], none⟩ =
      ⟨done ++ parts.map trim, last, none⟩ := by
  induction parts generalizing done with
  | nil => simp [ends done []]
  | cons part rest ih =>
    rw [List.forall_mem_cons] at copied
    have comma (buf : Text) :
        Split.step ⟨done, buf, none⟩ ',' = ⟨done ++ [trim buf], [], none⟩ := by
      simp [Split.step, isQuote]
    obtain ⟨next, more, same⟩ := List.exists_cons_of_ne_nil (show rest ++ [last] ≠ [] by simp)
    have joined : [','].intercalate (part :: rest ++ [last]) =
        part ++ ',' :: [','].intercalate (rest ++ [last]) := by
      rw [List.cons_append, same, List.intercalate_cons_cons, List.append_assoc]
      rfl
    rw [joined, List.foldl_append, copied.1, List.foldl_cons, List.nil_append, comma, ih copied.2]
    simp

theorem finish_eq (split : Split) :
    split.finish = (split.parts ++ [trim split.buf]).filter (· ≠ []) := by
  unfold Split.finish
  by_cases empty : split.buf = []
  · simp [empty, show trim [] = [] from rfl]
  · simp [empty]

structure Split.Same (split other : Split) : Prop where
  parts : split.parts = other.parts
  quote : split.quote = other.quote
  buf : ∃ blank, (∀ character ∈ blank, isSpace character = true) ∧ split.buf = blank ++ other.buf

theorem Split.Same.step {split other : Split} (same : split.Same other) (character : Char) :
    (split.step character).Same (other.step character) := by
  obtain ⟨parts, quote, blank, spaces, buf⟩ := same
  have longer : split.buf ++ [character] = blank ++ (other.buf ++ [character]) := by
    rw [buf, List.append_assoc]
  have trimmed : trim split.buf = trim other.buf := by rw [buf, trim_blank_append spaces]
  unfold Split.step
  rw [quote]
  cases other.quote with
  | some mark => exact ⟨parts, rfl, blank, spaces, longer⟩
  | none =>
    by_cases opens : isQuote character = true
    · simp only [opens, if_true]
      exact ⟨parts, rfl, blank, spaces, longer⟩
    by_cases comma : character = ','
    · rw [if_neg opens, if_neg opens, if_pos comma, if_pos comma, parts, trimmed]
      exact ⟨rfl, rfl, [], by simp, rfl⟩
    · rw [if_neg opens, if_neg opens, if_neg comma, if_neg comma]
      exact ⟨parts, rfl, blank, spaces, longer⟩

theorem Split.Same.run {split other : Split} (same : split.Same other) (text : Text) :
    (text.foldl Split.step split).Same (text.foldl Split.step other) := by
  induction text generalizing split other with
  | nil => exact same
  | cons first rest ih => exact ih (same.step first)

theorem Split.Same.finish {split other : Split} (same : split.Same other) :
    split.finish = other.finish := by
  obtain ⟨parts, _, blank, spaces, buf⟩ := same
  rw [finish_eq, finish_eq, parts, buf, trim_blank_append spaces]

theorem step_mark {split : Split} (mark : split.quote.all isQuote = true) (character : Char) :
    (split.step character).quote.all isQuote = true := by
  unfold Split.step
  split
  next quote found =>
    rw [found] at mark
    by_cases closes : character = quote
    · simp [closes]
    · simpa [closes] using mark
  next found =>
    split
    next opens => exact opens
    · split <;> simp [found]

theorem run_mark (text : Text) {split : Split} (mark : split.quote.all isQuote = true) :
    (text.foldl Split.step split).quote.all isQuote = true := by
  induction text generalizing split with
  | nil => exact mark
  | cons first rest ih => exact ih (step_mark mark first)

theorem blank_run {blank : Text} (spaces : ∀ character ∈ blank, isSpace character = true)
    {split : Split} (mark : split.quote.all isQuote = true) :
    blank.foldl Split.step split = { split with buf := split.buf ++ blank } := by
  obtain ⟨parts, buf, quote⟩ := split
  cases quote with
  | none => exact blank_copied spaces parts buf
  | some quote =>
    refine copied_inside (fun member => ?_) parts buf
    have space := spaces quote member
    rw [quote_visible mark] at space
    cases space

theorem split_trim (inner : Text) : splitInlineList (trim inner) = splitInlineList inner := by
  obtain ⟨before, after, whole, first, last⟩ := trim_suffix inner
  have start : Split.Same ⟨[], before, none⟩ ⟨[], [], none⟩ := ⟨rfl, rfl, before, first, by simp⟩
  have same := start.run (trim inner)
  have marked := @run_mark (trim inner) ⟨[], before, none⟩ rfl
  have run : inner.foldl Split.step ⟨[], [], none⟩ =
      { (trim inner).foldl Split.step ⟨[], before, none⟩ with
        buf := ((trim inner).foldl Split.step ⟨[], before, none⟩).buf ++ after } := by
    rw [← blank_run last marked]
    nth_rewrite 1 [whole]
    rw [List.foldl_append, List.foldl_append, blank_copied first [] []]
    rfl
  unfold splitInlineList
  rw [run, ← same.finish, finish_eq, finish_eq, trim_append_blank _ last]

theorem Written.parts_trim {items : List Scalar} {parts : List Text} (nonempty : items ≠ [])
    (safe : ∀ item ∈ items, item.Inline) (written : parts.map trim = items.map Scalar.text) :
    trim ([','].intercalate parts) ≠ [] ∧
      splitInlineList (trim ([','].intercalate parts)) = items.map Scalar.text := by
  have copied : ∀ part ∈ parts, Copied part := by
    intro part member
    have held : trim part ∈ items.map Scalar.text := by
      rw [← written]
      exact List.mem_map_of_mem member
    obtain ⟨item, inside, same⟩ := List.mem_map.mp held
    refine copied_trim ?_
    rw [← same]
    exact item.copied (safe item inside)
  have some : parts ≠ [] := by
    rintro rfl
    exact nonempty (List.map_eq_nil_iff.mp written.symm)
  have pieces := List.dropLast_append_getLast some
  have run := split_pieces (fun part member => copied part (List.dropLast_subset _ member))
    (parts.getLast some) (copied _ (List.getLast_mem some)) []
  rw [pieces] at run
  have texts : splitInlineList ([','].intercalate parts) = items.map Scalar.text := by
    unfold splitInlineList
    rw [run, finish_eq]
    change ([] ++ parts.dropLast.map trim ++ [trim (parts.getLast some)]).filter _ = _
    rw [List.nil_append, ← List.map_singleton, ← List.map_append, pieces, written,
      List.filter_eq_self]
    intro text member
    obtain ⟨item, _, rfl⟩ := List.mem_map.mp member
    simpa using item.shape.1
  constructor
  · intro empty
    rw [← split_trim, empty] at texts
    exact nonempty (List.map_eq_nil_iff.mp texts.symm)
  · rw [split_trim, texts]

theorem mapM_scalars (items : List Scalar) (frames : Nat) :
    (items.map Scalar.text).mapM (parseScalar (frames + 1)) = .ok (items.map Scalar.value) ↔
      ∀ item ∈ items, item.Portable := by
  induction items with
  | nil => simp [List.mapM_nil, pure, Except.pure]
  | cons item rest ih =>
    rw [List.forall_mem_cons, ← ih, ← item.parse frames, List.map_cons, List.map_cons,
      List.mapM_cons]
    cases first : parseScalar (frames + 1) item.text with
    | error error =>
      constructor
      · intro same; cases same
      · rintro ⟨same, _⟩; cases same
    | ok value =>
      cases others : (rest.map Scalar.text).mapM (parseScalar (frames + 1)) with
      | error error =>
        constructor
        · intro same; cases same
        · rintro ⟨_, same⟩; cases same
      | ok values =>
        constructor
        · intro same
          cases same
          exact ⟨rfl, rfl⟩
        · rintro ⟨same, more⟩
          cases same
          cases more
          rfl

theorem map_list_ok (outcome : Except PyError (List Value)) (values : List Value) :
    outcome.map Value.list = .ok (.list values) ↔ outcome = .ok values := by
  cases outcome with
  | error error =>
    constructor
    · intro same; cases same
    · intro same; cases same
  | ok found =>
    constructor
    · intro same; cases same; rfl
    · intro same; cases same; rfl

def Written.raw (text : Text) : Written → Raw
  | .block items _ => .items (items.map Scalar.text)
  | _ => .word text

theorem Written.read_block (items : List Scalar) (nonempty : items ≠ []) (text : Text)
    (frames : Nat) : ((Written.block items nonempty).raw text).read (frames + 2) =
      .ok (Written.block items nonempty).value ↔ ∀ item ∈ items, item.Portable := by
  obtain ⟨first, rest, rfl⟩ := List.exists_cons_of_ne_nil nonempty
  rw [← mapM_scalars _ (frames + 1)]
  exact map_list_ok _ _

theorem Written.read_on {written : Written} {text : Text} (on : written.On text) (frames : Nat) :
    (written.raw text).read (frames + 2) = .ok written.value ↔
      ∀ scalar ∈ written.scalars, scalar.Portable := by
  cases written with
  | scalar only =>
    cases on
    change parseScalar (frames + 2) only.text = .ok only.value ↔ ∀ scalar ∈ [only], _
    rw [List.forall_mem_singleton]
    exact only.parse (frames + 1)
  | inline items nonempty safe =>
    obtain ⟨parts, rfl, trimmed⟩ := on
    obtain ⟨some, texts⟩ := Written.parts_trim nonempty safe trimmed
    change parseScalar (frames + 2) ('[' :: [','].intercalate parts ++ [']']) =
      .ok (.list (items.map Scalar.value)) ↔ _
    have ends : trim ('[' :: [','].intercalate parts ++ [']']) =
        '[' :: [','].intercalate parts ++ [']'] := by
      refine trim_same ?_ ?_
      · intro character head; cases head; decide
      · intro character last
        rw [List.getLast?_concat] at last
        cases last
        decide
    have unquoted : isQuoted ('[' :: [','].intercalate parts ++ [']']) = false := by
      simp [isQuoted, isQuote]
    have bracketed : isBracketed ('[' :: [','].intercalate parts ++ [']']) = true := by
      unfold isBracketed
      rw [List.getLast?_concat]
      rfl
    have inner : middle ('[' :: [','].intercalate parts ++ [']']) = [','].intercalate parts := by
      simp [middle]
    simp only [parseScalar, ends, unquoted, bracketed, inner, texts, if_neg some, if_true,
      Bool.false_eq_true, if_false]
    rw [if_neg (by simp), map_list_ok]
    exact mapM_scalars items frames
  | block items nonempty => exact False.elim on

end Lists

end MonoidKernel.Frontmatter
