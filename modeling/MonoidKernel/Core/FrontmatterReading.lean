import MonoidKernel.Core.Frontmatter
import MonoidKernel.Core.ScopeMeaning

set_option autoImplicit false

namespace MonoidKernel.Frontmatter

open MonoidKernel.Scopes (isSpace trim strip trim_trim)

section Trimming

theorem trim_blank_append {blank : Text} (spaces : ∀ character ∈ blank, isSpace character)
    (text : Text) : trim (blank ++ text) = trim text := by
  unfold trim strip
  rw [List.dropWhile_append_of_pos spaces]

theorem trim_append_blank (text : Text) {blank : Text}
    (spaces : ∀ character ∈ blank, isSpace character) : trim (text ++ blank) = trim text := by
  unfold trim strip
  rw [List.dropWhile_append]
  split
  next empty =>
    have none : List.dropWhile isSpace text = [] := by simpa using empty
    rw [none, List.dropWhile_eq_nil_iff.mpr spaces]
  · unfold List.rdropWhile
    rw [List.reverse_append, List.dropWhile_append_of_pos (by simpa using spaces)]

theorem trim_suffix (text : Text) : ∃ before after, text = before ++ trim text ++ after ∧
    (∀ character ∈ before, isSpace character) ∧ ∀ character ∈ after, isSpace character := by
  refine ⟨text.takeWhile isSpace, (text.dropWhile isSpace).rtakeWhile isSpace, ?_, ?_, ?_⟩
  · unfold trim strip
    rw [List.append_assoc, List.rdropWhile_append_rtakeWhile, List.takeWhile_append_dropWhile]
  · exact fun _ member => List.mem_takeWhile_imp member
  · exact fun _ member => List.mem_rtakeWhile_imp member

theorem mem_trim {text : Text} {character : Char} (visible : isSpace character = false) :
    character ∈ trim text ↔ character ∈ text := by
  obtain ⟨before, after, whole, first, last⟩ := trim_suffix text
  constructor
  · intro member
    rw [whole]
    simp [member]
  · intro member
    rw [whole, List.mem_append, List.mem_append] at member
    rcases member with (early | inside) | late
    · rw [first character early] at visible; cases visible
    · exact inside
    · rw [last character late] at visible; cases visible

theorem trim_same {text : Text}
    (first : ∀ character, text.head? = some character → isSpace character = false)
    (last : ∀ character, text.getLast? = some character → isSpace character = false) :
    trim text = text := by
  unfold trim strip
  have front : text.dropWhile isSpace = text := by
    cases text with
    | nil => rfl
    | cons head tail => rw [List.dropWhile_cons_of_neg (by simp [first head rfl])]
  rw [front, List.rdropWhile_eq_self_iff]
  intro nonempty space
  rw [last _ (List.getLast?_eq_some_getLast nonempty)] at space
  cases space

theorem trim_visible {text : Text} (visible : ∀ character ∈ text, isSpace character = false) :
    trim text = text :=
  trim_same (fun _ head => visible _ (List.mem_of_head? head))
    fun _ last => visible _ (List.mem_of_getLast? last)

end Trimming

section Entries

variable (frames : Nat)

inductive Raw where
  | word (text : Text)
  | items (texts : List Text)
deriving DecidableEq

def leadingItems : List Text → List Text
  | [] => []
  | line :: rest =>
    if isIgnored line then leadingItems rest
    else if isItem line then itemText line :: leadingItems rest
    else []

-- The keys of a block with their written values, in one pass. The flag is set below a key without a
-- value, where item lines belong to that key.
def rawEntries : Bool → List Text → List (Text × Raw)
  | _, [] => []
  | listing, line :: rest =>
    if isIgnored line then rawEntries listing rest
    else if listing ∧ isItem line then rawEntries true rest
    else if ':' ∉ line then rawEntries false rest
    else if restOf line ≠ [] then (keyOf line, .word (restOf line)) :: rawEntries false rest
    else (keyOf line, .items (leadingItems rest)) :: rawEntries true rest

def Raw.read : Raw → Except PyError Value
  | .word text => parseScalar frames text
  | .items [] => .ok .null
  | .items texts => (texts.mapM (parseScalar frames)).map .list

def readEntries : Metadata → List (Text × Raw) → Except PyError Metadata
  | metadata, [] => .ok metadata
  | metadata, (key, raw) :: rest =>
    match raw.read frames with
    | .error error => .error error
    | .ok value => readEntries (metadata.set key value) rest

theorem blockItems_leading (lines : List Text) :
    match blockItems frames lines with
    | .error error => (leadingItems lines).mapM (parseScalar frames) = .error error
    | .ok (items, others) => (leadingItems lines).mapM (parseScalar frames) = .ok items ∧
        rawEntries true lines = rawEntries false others := by
  induction lines with
  | nil => exact ⟨rfl, rfl⟩
  | cons line rest ih =>
    rw [blockItems, leadingItems, rawEntries]
    by_cases ignored : isIgnored line = true
    · rw [if_pos ignored, if_pos ignored, if_pos ignored]
      exact ih
    rw [if_neg ignored, if_neg ignored, if_neg ignored]
    by_cases item : isItem line = true
    · rw [if_pos item, if_pos item, if_pos ⟨rfl, item⟩, List.mapM_cons]
      cases scalar : parseScalar frames (itemText line) with
      | error error => rfl
      | ok value =>
        cases more : blockItems frames rest with
        | error error =>
          rw [more] at ih
          change ((leadingItems rest).mapM (parseScalar frames)).bind _ = _
          rw [ih]
          rfl
        | ok found =>
          rw [more] at ih
          refine ⟨?_, ih.2⟩
          change ((leadingItems rest).mapM (parseScalar frames)).bind _ = _
          rw [ih.1]
          rfl
    · have unlisted (listing : Bool) : ¬ (listing = true ∧ isItem line = true) :=
        fun both => item both.2
      rw [if_neg item, if_neg item, if_neg (unlisted true)]
      refine ⟨rfl, ?_⟩
      rw [rawEntries, if_neg ignored, if_neg (unlisted false)]

theorem rawEntries_unlisted {lines : List Text} (none : leadingItems lines = []) :
    rawEntries true lines = rawEntries false lines := by
  induction lines with
  | nil => rfl
  | cons line rest ih =>
    rw [leadingItems] at none
    rw [rawEntries, rawEntries]
    by_cases ignored : isIgnored line = true
    · rw [if_pos ignored] at none ⊢
      rw [if_pos ignored]
      exact ih none
    rw [if_neg ignored] at none ⊢
    rw [if_neg ignored]
    by_cases item : isItem line = true
    · rw [if_pos item] at none; cases none
    · have unlisted (listing : Bool) : ¬ (listing = true ∧ isItem line = true) :=
        fun both => item both.2
      rw [if_neg (unlisted true), if_neg (unlisted false)]

theorem mapM_nil_of {texts : List Text} (read : texts.mapM (parseScalar frames) = .ok []) :
    texts = [] := by
  cases texts with
  | nil => rfl
  | cons text rest =>
    rw [List.mapM_cons] at read
    cases first : parseScalar frames text with
    | error error => rw [first] at read; cases read
    | ok value =>
      cases more : rest.mapM (parseScalar frames) with
      | error error => rw [first, more] at read; cases read
      | ok values => rw [first, more] at read; cases read

theorem parseBlock_entries (metadata : Metadata) (lines : List Text) :
    parseBlock frames metadata lines = readEntries frames metadata (rawEntries false lines) := by
  fun_induction parseBlock frames metadata lines with
  | case1 metadata => rfl
  | case2 metadata line rest ignored ih => rw [rawEntries, if_pos ignored, ih]
  | case3 metadata line rest ignored plain ih =>
    rw [rawEntries, if_neg ignored, if_neg (by simp), if_pos plain, ih]
  | case4 metadata line rest ignored keyed named error failed =>
    rw [rawEntries, if_neg ignored, if_neg (by simp), if_neg keyed, if_pos named, readEntries]
    simp only [Raw.read, failed]
  | case5 metadata line rest ignored keyed named value parsed ih =>
    rw [rawEntries, if_neg ignored, if_neg (by simp), if_neg keyed, if_pos named, readEntries]
    simp only [Raw.read, parsed]
    exact ih
  | case6 metadata line rest ignored keyed bare error failed =>
    have leading := blockItems_leading frames rest
    rw [failed] at leading
    rw [rawEntries, if_neg ignored, if_neg (by simp), if_neg keyed, if_neg bare, readEntries]
    cases found : leadingItems rest with
    | nil => rw [found] at leading; cases leading
    | cons first more =>
      rw [found] at leading
      simp only [Raw.read, leading]
      rfl
  | case7 metadata line rest ignored keyed bare items others found nonempty ih =>
    have leading := blockItems_leading frames rest
    rw [found] at leading
    rw [rawEntries, if_neg ignored, if_neg (by simp), if_neg keyed, if_neg bare, readEntries, ih,
      ← leading.2]
    cases texts : leadingItems rest with
    | nil =>
      have none := leading.1
      rw [texts] at none
      cases none
      exact absurd rfl nonempty
    | cons first more =>
      have read := leading.1
      rw [texts] at read
      simp only [Raw.read, read]
      rfl
  | case8 metadata line rest ignored keyed bare items others found empty ih =>
    have leading := blockItems_leading frames rest
    rw [found] at leading
    have none : leadingItems rest = [] := by
      refine mapM_nil_of frames ?_
      rw [leading.1, not_not.mp empty]
    rw [rawEntries, if_neg ignored, if_neg (by simp), if_neg keyed, if_neg bare, readEntries, none,
      rawEntries_unlisted none, ih]
    rfl

end Entries

section Readable

def IntReadable (token : Text) : Prop :=
  isInt token = true → (∀ character ∈ candidate token, (decimalDigit character).isSome) ∧
    (candidate token).length ≤ intMaxStrDigits

-- Every scalar of the text, also inside a list, is one that `int` takes, and the lists nest no
-- deeper than the stack.
def Readable : Nat → Text → Prop
  | 0, _ => False
  | frames + 1, source =>
    if isBracketed (trim source) then
      ∀ part ∈ splitInlineList (trim (middle (trim source))), Readable frames part
    else IntReadable (trim source)

theorem decimals_cases (text : Text) :
    (∃ digits, text.mapM decimalDigit = some digits ∧ digits.length = text.length ∧
      ∀ character ∈ text, (decimalDigit character).isSome) ∨
    text.mapM decimalDigit = none ∧ ∃ character ∈ text, decimalDigit character = none := by
  induction text with
  | nil => exact Or.inl ⟨[], rfl, rfl, by simp⟩
  | cons character rest ih =>
    rw [List.mapM_cons]
    cases first : decimalDigit character with
    | none => exact Or.inr ⟨rfl, character, List.mem_cons_self, first⟩
    | some digit =>
      rcases ih with ⟨digits, read, same, decimal⟩ | ⟨failed, other, member, none⟩
      · refine Or.inl ⟨digit :: digits, by rw [read]; rfl, by simp [same], ?_⟩
        rw [List.forall_mem_cons, first]
        exact ⟨rfl, decimal⟩
      · rw [failed]
        exact Or.inr ⟨rfl, other, List.mem_cons_of_mem _ member, none⟩

theorem int_ok (token : Text) : (∃ value, int token = .ok value) ↔
    (∀ character ∈ candidate token, (decimalDigit character).isSome) ∧
      (candidate token).length ≤ intMaxStrDigits := by
  unfold int
  rcases decimals_cases (candidate token) with
    ⟨digits, read, same, decimal⟩ | ⟨failed, other, member, none⟩
  · rw [read]
    simp only [same]
    by_cases long : intMaxStrDigits < (candidate token).length
    · simp [long]
    · simpa [long] using ⟨decimal, Nat.le_of_not_lt long⟩
  · rw [failed]
    constructor
    · rintro ⟨value, taken⟩
      cases taken
    · intro ⟨decimal, _⟩
      have some := decimal other member
      rw [none] at some
      cases some

theorem mapM_returns {α β ε : Type} (read : α → Except ε β) (sources : List α) :
    (∃ values, sources.mapM read = .ok values) ↔
      ∀ source ∈ sources, ∃ value, read source = .ok value := by
  induction sources with
  | nil => exact ⟨by simp, fun _ => ⟨[], rfl⟩⟩
  | cons source rest ih =>
    rw [List.forall_mem_cons, ← ih, List.mapM_cons]
    cases first : read source with
    | error error =>
      constructor
      · rintro ⟨values, same⟩; cases same
      · rintro ⟨⟨value, same⟩, _⟩; cases same
    | ok value =>
      cases others : rest.mapM read with
      | error error =>
        constructor
        · rintro ⟨values, same⟩; cases same
        · rintro ⟨_, values, same⟩; cases same
      | ok values => exact ⟨fun _ => ⟨⟨value, rfl⟩, values, rfl⟩, fun _ => ⟨value :: values, rfl⟩⟩

theorem map_returns {α β ε : Type} (outcome : Except ε α) (wrap : α → β) :
    (∃ value, outcome.map wrap = .ok value) ↔ ∃ value, outcome = .ok value := by
  cases outcome with
  | error error =>
    constructor
    · rintro ⟨value, same⟩; cases same
    · rintro ⟨value, same⟩; cases same
  | ok value => exact ⟨fun _ => ⟨value, rfl⟩, fun _ => ⟨wrap value, rfl⟩⟩

theorem quote_unreadable {text : Text} (quoted : text.head?.any isQuote = true) :
    isInt text = false := by
  cases text with
  | nil => rfl
  | cons first rest =>
    have mark : first = '"' ∨ first = '\'' := by simpa [isQuote] using quoted
    rcases mark with rfl | rfl
    · have other : isDigitCharacter '"' = false := by decide
      simp [isInt, isDigit, candidate, other]
    · have other : isDigitCharacter '\'' = false := by decide
      simp [isInt, isDigit, candidate, other]

theorem upper_no_digit : ∀ place < 26, isDigitCharacter (Char.ofNat (65 + place)) = false := by
  decide

theorem lowered_no_digit {first letter : Char} (lowered : first.toLower = letter)
    (other : isDigitCharacter letter = false) : isDigitCharacter first = false := by
  unfold Char.toLower at lowered
  split at lowered
  next upper =>
    obtain ⟨low, high⟩ := upper
    have from65 : 65 ≤ first.toNat := UInt32.le_iff_toNat_le.mp low
    have to90 : first.toNat ≤ 90 := UInt32.le_iff_toNat_le.mp high
    have named := upper_no_digit (first.toNat - 65) (by omega)
    have place : 65 + (first.toNat - 65) = first.toNat := by omega
    rwa [place, Char.ofNat_toNat] at named
  · rw [lowered]; exact other

theorem word_unreadable {token rest : Text} {letter : Char} (spelled : lower token = letter :: rest)
    (other : isDigitCharacter letter = false) (minus : letter ≠ '-') (plus : letter ≠ '+') :
    isInt token = false := by
  cases token with
  | nil => cases spelled
  | cons first more =>
    have lowered : first.toLower = letter := (List.cons.inj spelled).1
    have same : candidate (first :: more) = first :: more := by
      unfold candidate
      split
      next taken =>
        cases taken
        exact absurd lowered.symm minus
      next taken =>
        cases taken
        exact absurd lowered.symm plus
      · rfl
    simp [isInt, isDigit, same, lowered_no_digit lowered other]

theorem parseWord_returns (token : Text) :
    (∃ value, parseWord token = .ok value) ↔ IntReadable token := by
  unfold parseWord IntReadable
  by_cases truth : lower token = "true".toList ∨ lower token = "false".toList
  · have none : isInt token = false := by
      rcases truth with spelled | spelled
      · exact word_unreadable spelled (by decide) (by decide) (by decide)
      · exact word_unreadable spelled (by decide) (by decide) (by decide)
    rw [if_pos truth, none]
    simp
  rw [if_neg truth]
  by_cases null : lower token = "null".toList ∨ lower token = "~".toList
  · have none : isInt token = false := by
      rcases null with spelled | spelled
      · exact word_unreadable spelled (by decide) (by decide) (by decide)
      · exact word_unreadable spelled (by decide) (by decide) (by decide)
    rw [if_pos null, none]
    simp
  rw [if_neg null]
  cases number : isInt token with
  | false => simp
  | true =>
    rw [if_pos rfl, map_returns, int_ok]
    simp

theorem parseScalar_returns (frames : Nat) (source : Text) :
    (∃ value, parseScalar frames source = .ok value) ↔ Readable frames source := by
  induction frames generalizing source with
  | zero =>
    constructor
    · rintro ⟨value, same⟩; cases same
    · exact False.elim
  | succ frames ih =>
    simp only [parseScalar, Readable]
    by_cases empty : trim source = []
    · simp [empty, isBracketed, IntReadable, isInt, isDigit, candidate]
    rw [if_neg empty]
    by_cases quoted : isQuoted (trim source) = true
    · have mark : (trim source).head?.any isQuote = true := by
        simp only [isQuoted, Bool.and_eq_true] at quoted
        exact quoted.1.1
      have unbracketed : isBracketed (trim source) = false := by
        unfold isBracketed
        cases head : (trim source).head? with
        | none => rfl
        | some first =>
          rw [head] at mark
          have other : first ≠ '[' := by
            rintro rfl
            cases mark
          simp [other]
      simp [quoted, unbracketed, IntReadable, quote_unreadable mark]
    rw [if_neg quoted]
    by_cases bracketed : isBracketed (trim source) = true
    · rw [if_pos bracketed, if_pos bracketed]
      by_cases none : trim (middle (trim source)) = []
      · rw [if_pos none, none]
        simp [splitInlineList, Split.finish]
      · rw [if_neg none, map_returns, mapM_returns]
        exact forall₂_congr fun part _ => ih part
    · rw [if_neg bracketed, if_neg bracketed]
      exact parseWord_returns (trim source)

def Raw.tokens : Raw → List Text
  | .word text => [text]
  | .items texts => texts

theorem Raw.read_returns (frames : Nat) (raw : Raw) :
    (∃ value, raw.read frames = .ok value) ↔ ∀ token ∈ raw.tokens, Readable frames token := by
  cases raw with
  | word text => simp [Raw.read, Raw.tokens, parseScalar_returns]
  | items texts =>
    cases texts with
    | nil => simp [Raw.read, Raw.tokens]
    | cons first rest =>
      rw [Raw.read, map_returns, mapM_returns, Raw.tokens]
      exact forall₂_congr fun token _ => parseScalar_returns frames token
      simp

theorem readEntries_returns (frames : Nat) (metadata : Metadata) (entries : List (Text × Raw)) :
    (∃ result, readEntries frames metadata entries = .ok result) ↔
      ∀ entry ∈ entries, ∀ token ∈ entry.2.tokens, Readable frames token := by
  induction entries generalizing metadata with
  | nil => simp [readEntries]
  | cons entry rest ih =>
    obtain ⟨key, raw⟩ := entry
    rw [List.forall_mem_cons, ← Raw.read_returns, readEntries]
    cases read : raw.read frames with
    | error error =>
      constructor
      · rintro ⟨result, same⟩; cases same
      · rintro ⟨⟨value, same⟩, _⟩; cases same
    | ok value =>
      rw [← ih (metadata.set key value)]
      exact ⟨fun found => ⟨⟨value, rfl⟩, found⟩, fun found => found.2⟩

end Readable

section Documents

variable (frames : Nat)

def LeadingBlock (text : Text) (block : List Text) : Prop :=
  (∀ line ∈ block, trim line ≠ fence) ∧ ∃ closing after, trim closing = fence ∧
    (normalizeNewlines text).splitOn '\n' = fence :: block ++ closing :: after

def StrayFence (text : Text) : Prop :=
  trim (normalizeNewlines text) = fence ∧
    ∃ line ∈ ((normalizeNewlines text).splitOn '\n').tail, trim line = fence

theorem opened_iff (normalized : Text) : (fence ++ ['\n']).isPrefixOf normalized = true ↔
    ∃ rest, normalized.splitOn '\n' = fence :: rest ∧ rest ≠ [] := by
  have plain : '\n' ∉ fence := by decide
  rw [List.isPrefixOf_iff_prefix]
  constructor
  · rintro ⟨rest, rfl⟩
    refine ⟨rest.splitOn '\n', ?_, List.splitOn_ne_nil _ _⟩
    rw [List.append_assoc]
    exact List.splitOn_append_cons_self_of_not_mem plain rest
  · rintro ⟨rest, split, some⟩
    have whole := @List.intercalate_splitOn _ normalized _ _ '\n'
    rw [split] at whole
    obtain ⟨next, more, rfl⟩ := List.exists_cons_of_ne_nil some
    rw [← whole, List.intercalate_cons_cons]
    exact List.prefix_append _ _

theorem span_found {block after : List Text} {closing : Text}
    (before : ∀ line ∈ block, trim line ≠ fence) (closes : trim closing = fence) :
    ((block ++ closing :: after).takeWhile fun line => trim line ≠ fence) = block ∧
      ((block ++ closing :: after).dropWhile fun line => trim line ≠ fence) = closing :: after := by
  have kept : ∀ line ∈ block, decide (trim line ≠ fence) = true := by simpa using before
  rw [List.takeWhile_append_of_pos kept, List.dropWhile_append_of_pos kept,
    List.takeWhile_cons_of_neg (by simp [closes]), List.dropWhile_cons_of_neg (by simp [closes]),
    List.append_nil]
  exact ⟨rfl, rfl⟩

theorem parseFrontmatter_block {text closing : Text} {block after : List Text}
    (before : ∀ line ∈ block, trim line ≠ fence) (closes : trim closing = fence)
    (split : (normalizeNewlines text).splitOn '\n' = fence :: block ++ closing :: after) :
    parseFrontmatter frames text =
      (readEntries frames [] (rawEntries false block)).map fun metadata =>
        (metadata, if (['\n'].intercalate after).head? = some '\n' then
          (['\n'].intercalate after).drop 1 else ['\n'].intercalate after) := by
  have opened : (fence ++ ['\n']).isPrefixOf (normalizeNewlines text) = true :=
    (opened_iff _).mpr ⟨_, split, by simp⟩
  obtain ⟨taken, dropped⟩ := @span_found block after closing before closes
  unfold parseFrontmatter
  simp only [opened, not_true_eq_false, false_and, if_false]
  rw [split, List.cons_append, List.tail_cons, taken, dropped]
  simp only [parseBlock_entries]
  cases readEntries frames [] (rawEntries false block) <;> rfl

theorem parseFrontmatter_body {text : Text} (unblocked : ¬ ∃ block, LeadingBlock text block)
    (unstrayed : ¬ StrayFence text) : parseFrontmatter frames text = .ok ([], text) := by
  simp only [parseFrontmatter]
  split
  · rfl
  next opened =>
    have closings := @List.takeWhile_append_dropWhile _
      (fun line : Text => decide (trim line ≠ fence))
      ((normalizeNewlines text).splitOn '\n').tail
    have before : ∀ line ∈ ((normalizeNewlines text).splitOn '\n').tail.takeWhile
        fun line => trim line ≠ fence, trim line ≠ fence :=
      fun line member => by simpa using List.mem_takeWhile_imp member
    have stops := List.head?_dropWhile_not (fun line : Text => decide (trim line ≠ fence))
      ((normalizeNewlines text).splitOn '\n').tail
    split
    · rfl
    next closing after found =>
      rw [found] at closings stops
      have closes : trim closing = fence := by simpa using stops
      have member : closing ∈ ((normalizeNewlines text).splitOn '\n').tail := by
        rw [← closings]
        simp
      rw [not_and_or, not_not, not_not] at opened
      rcases opened with opened | alone
      · obtain ⟨rest, split, _⟩ := (opened_iff _).mp opened
        refine absurd ⟨_, before, closing, after, closes, ?_⟩ unblocked
        rw [split, List.tail_cons] at closings ⊢
        rw [List.cons_append, closings]
      · exact absurd ⟨alone, closing, member, closes⟩ unstrayed

theorem replaceCrLf_length (text : Text) : (replaceCrLf text).length ≤ text.length := by
  fun_induction replaceCrLf text with
  | case1 rest ih => simp only [List.length_cons]; omega
  | case2 character rest _ ih => simp only [List.length_cons]; omega
  | case3 => rfl

theorem normalizeNewlines_length (text : Text) : (normalizeNewlines text).length ≤ text.length := by
  unfold normalizeNewlines
  rw [List.length_map]
  exact replaceCrLf_length text

theorem intercalate_suffix (lines after : List Text) :
    (['\n'].intercalate after).length ≤ (['\n'].intercalate (lines ++ after)).length := by
  induction lines with
  | nil => rfl
  | cons line rest ih =>
    refine ih.trans ?_
    rw [List.cons_append]
    cases rest ++ after with
    | nil => exact Nat.zero_le _
    | cons next more =>
      rw [List.intercalate_cons_cons, List.length_append, List.length_append]
      omega

theorem parseFrontmatter_stray {text : Text} (stray : StrayFence text) :
    parseFrontmatter frames text ≠ .ok ([], text) := by
  obtain ⟨alone, closing, member, closes⟩ := stray
  have whole := @List.intercalate_splitOn _ (normalizeNewlines text) _ _ '\n'
  have shorter := normalizeNewlines_length text
  obtain ⟨first, lines, split⟩ := List.exists_cons_of_ne_nil
    (List.splitOn_ne_nil '\n' (normalizeNewlines text))
  simp only [parseFrontmatter, alone, ne_eq, not_true_eq_false, and_false, if_false]
  rw [split, List.tail_cons] at member ⊢
  have closings := @List.takeWhile_append_dropWhile _
    (fun line : Text => decide ¬ trim line = fence)
    lines
  split
  next none =>
    have every := List.dropWhile_eq_nil_iff.mp none closing member
    simp [closes] at every
  next found after dropped =>
    have ends : trim found = fence := by
      have stops := List.head?_dropWhile_not (fun line : Text => decide ¬ trim line = fence) lines
      rw [dropped] at stops
      simpa using stops
    have some : found ≠ [] := by
      rintro rfl
      cases ends
    have long : (['\n'].intercalate after).length < text.length := by
      refine Nat.lt_of_lt_of_le ?_ shorter
      rw [← whole, split, ← closings, dropped, ← List.cons_append]
      refine Nat.lt_of_lt_of_le ?_ (intercalate_suffix _ _)
      have positive := List.length_pos_iff.mpr some
      cases after with
      | nil => simpa using positive
      | cons next more =>
        rw [List.intercalate_cons_cons, List.length_append, List.length_append]
        omega
    split
    · exact fun same => nomatch same
    · intro same
      have body := congrArg List.length (Prod.mk.inj (Except.ok.inj same)).2
      split at body
      · rw [List.length_drop] at body; omega
      · omega

def Accepted (text : Text) : Prop :=
  (∀ block, LeadingBlock text block →
    ∀ entry ∈ rawEntries false block, ∀ token ∈ entry.2.tokens, Readable frames token) ∧
  ((∃ block, LeadingBlock text block) ∨ ¬ StrayFence text)

def Returns (text : Text) : Prop :=
  (∃ metadata body, parseFrontmatter frames text = .ok (metadata, body)) ∧
    ((¬ ∃ block, LeadingBlock text block) → parseFrontmatter frames text = .ok ([], text))

theorem block_returns {text : Text} {block : List Text} (leading : LeadingBlock text block) :
    (∃ metadata body, parseFrontmatter frames text = .ok (metadata, body)) ↔
      ∀ entry ∈ rawEntries false block, ∀ token ∈ entry.2.tokens, Readable frames token := by
  obtain ⟨before, closing, after, closes, split⟩ := leading
  rw [parseFrontmatter_block frames before closes split, ← readEntries_returns frames []]
  cases readEntries frames [] (rawEntries false block) with
  | error error =>
    constructor
    · rintro ⟨_, _, same⟩; cases same
    · rintro ⟨_, same⟩; cases same
  | ok metadata => exact ⟨fun _ => ⟨metadata, rfl⟩, fun _ => ⟨metadata, _, rfl⟩⟩

theorem returns_iff (text : Text) : Returns frames text ↔ Accepted frames text := by
  by_cases blocked : ∃ block, LeadingBlock text block
  · constructor
    · intro returns
      exact ⟨fun block leading => (block_returns frames leading).mp returns.1, Or.inl blocked⟩
    · intro accepted
      obtain ⟨block, leading⟩ := blocked
      exact ⟨(block_returns frames leading).mpr (accepted.1 block leading),
        fun none => absurd ⟨block, leading⟩ none⟩
  · constructor
    · intro returns
      refine ⟨fun block leading => absurd ⟨block, leading⟩ blocked, Or.inr fun stray => ?_⟩
      exact parseFrontmatter_stray frames stray (returns.2 blocked)
    · intro accepted
      have whole := parseFrontmatter_body frames blocked (accepted.2.resolve_left blocked)
      exact ⟨⟨[], text, whole⟩, fun _ => whole⟩

end Documents

end MonoidKernel.Frontmatter
