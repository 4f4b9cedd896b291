import MonoidKernel.Library.JsonGrammar

set_option autoImplicit false

-- Translated from _enforce_json_nesting_limit of core/json_ingress.py. The texts are without lone
-- surrogates, which are of the characters that the scan only passes over.
namespace MonoidKernel.JsonIngress

open Library
open Library.JsonGrammar

def maxJsonNesting : Nat := 512

structure JsonDecodeError where
  message : String
  document : Text
  position : Nat
deriving DecidableEq

structure NestingScan where
  depth : Nat
  inString : Bool
  escaped : Bool
deriving DecidableEq

def NestingScan.start : NestingScan := ⟨0, false, false⟩

section Scan

variable (limit : Nat)

-- The body of the loop; `none` is the raise.
def scanCharacter (scan : NestingScan) (character : Char) : Option NestingScan :=
  if scan.inString then
    if scan.escaped then some { scan with escaped := false }
    else if character = '\\' then some { scan with escaped := true }
    else if character = '"' then some { scan with inString := false }
    else some scan
  else if character = '"' then some { scan with inString := true }
  else if character = '[' ∨ character = '\x7b' then
    if limit < scan.depth + 1 then none else some { scan with depth := scan.depth + 1 }
  else if (character = ']' ∨ character = '\x7d') ∧ scan.depth ≠ 0 then
    some { scan with depth := scan.depth - 1 }
  else some scan

def enforceFrom (message : String) (document : Text) :
    Nat → NestingScan → Text → Except JsonDecodeError Unit
  | _, _, [] => .ok ()
  | index, scan, character :: rest =>
    match scanCharacter limit scan character with
    | none => .error ⟨message, document, index⟩
    | some scan => enforceFrom message document (index + 1) scan rest

-- `_enforce_json_nesting_limit`, with the limit that the module sets as a parameter.
def enforceNestingLimit (text : Text) (message : String) : Except JsonDecodeError Unit :=
  enforceFrom limit message text 0 .start text

def scanText : NestingScan → Text → Option NestingScan
  | scan, [] => some scan
  | scan, character :: rest => (scanCharacter limit scan character).bind (scanText · rest)

end Scan

def enforceJsonNestingLimit (text : Text) (message : String) : Except JsonDecodeError Unit :=
  enforceNestingLimit maxJsonNesting text message

def jsonNestingWithinLimit (text : Text) : Bool :=
  match enforceJsonNestingLimit text "JSON nesting exceeds the parser limit" with
  | .ok _ => true
  | .error _ => false

section Texts

variable {limit : Nat}

theorem scanText_append (scan : NestingScan) (first second : Text) :
    scanText limit scan (first ++ second) =
      (scanText limit scan first).bind (scanText limit · second) := by
  induction first generalizing scan with
  | nil => rfl
  | cons character rest ih =>
    simp only [List.cons_append, scanText]
    cases scanCharacter limit scan character with
    | none => rfl
    | some next => exact ih next

def outside (depth : Nat) : NestingScan := ⟨depth, false, false⟩

def inside (depth : Nat) : NestingScan := ⟨depth, true, false⟩

def Neutral (character : Char) : Prop :=
  character ≠ '"' ∧ character ≠ '[' ∧ character ≠ '\x7b' ∧ character ≠ ']' ∧ character ≠ '\x7d'

variable {character : Char}

theorem scanCharacter_neutral (neutral : Neutral character) (depth : Nat) :
    scanCharacter limit (outside depth) character = some (outside depth) := by
  obtain ⟨quote, list, dict, listEnd, dictEnd⟩ := neutral
  simp [scanCharacter, outside, quote, list, dict, listEnd, dictEnd]

variable {text : Text}

theorem scanText_neutral (neutral : ∀ character ∈ text, Neutral character) (depth : Nat) :
    scanText limit (outside depth) text = some (outside depth) := by
  induction text with
  | nil => rfl
  | cons character rest ih =>
    rw [List.forall_mem_cons] at neutral
    rw [scanText, scanCharacter_neutral neutral.1]
    exact ih neutral.2

theorem isBlank_neutral (blank : isBlank character = true) :
    Neutral character := by
  simp only [isBlank, Bool.or_eq_true, beq_iff_eq] at blank
  rcases blank with ((rfl | rfl) | rfl) | rfl <;> unfold Neutral <;> decide

theorem blank_scanned (blank : Blank text) (depth : Nat) :
    scanText limit (outside depth) text = some (outside depth) :=
  scanText_neutral (fun character member => isBlank_neutral (blank character member)) depth

theorem isDigit_neutral (digit : character.isDigit = true) :
    Neutral character := by
  have range := Char.isDigit_iff_toNat.mp digit
  have low : 48 ≤ character.toNat := range.1
  have high : character.toNat ≤ 57 := range.2
  have other : ∀ special : Char, special.toNat < 48 ∨ 57 < special.toNat →
      character ≠ special := by
    intro special outside same
    rw [same] at low high
    omega
  exact ⟨other _ (by decide), other _ (by decide), other _ (by decide), other _ (by decide),
    other _ (by decide)⟩

theorem digits_neutral (digits : Digits text) :
    ∀ character ∈ text, Neutral character :=
  fun character member => isDigit_neutral (digits.2 character member)

theorem number_neutral (number : Number text) :
    ∀ character ∈ text, Neutral character := by
  obtain ⟨parts, valid, rfl⟩ := number
  simp only [List.forall_mem_append]
  refine ⟨⟨⟨?_, digits_neutral valid.whole⟩, ?_⟩, ?_⟩
  · rcases valid.sign with sign | sign <;> rw [sign] <;> simp [Neutral]
  · rcases valid.fraction with none | ⟨digits, some, shape⟩
    · simp [none]
    · rw [shape, List.forall_mem_cons]
      exact ⟨by simp [Neutral], digits_neutral some⟩
  · rcases valid.exponent with none | ⟨mark, sign, digits, marks, signs, some, shape⟩
    · simp [none]
    · rw [shape, List.forall_mem_cons, List.forall_mem_append]
      refine ⟨?_, ?_, digits_neutral some⟩
      · rcases marks with rfl | rfl <;> simp [Neutral]
      · rcases signs with rfl | rfl | rfl <;> simp [Neutral]

theorem keyword_neutral (value : Option Bool) :
    ∀ character ∈ JsonText.keyword value, Neutral character := by
  rcases value with none | _ | _ <;> simp [JsonText.keyword, Neutral]

theorem scanText_escaped (depth : Nat) (character : Char) (rest : Text) :
    scanText limit (inside depth) ('\\' :: character :: rest) =
      scanText limit (inside depth) rest := rfl

theorem scanText_plain (quote : character ≠ '"') (slash : character ≠ '\\') (depth : Nat)
    (rest : Text) :
    scanText limit (inside depth) (character :: rest) = scanText limit (inside depth) rest := by
  simp [scanText, scanCharacter, inside, quote, slash]

theorem hex_plain {digit : Char} (hex : digit ∈ hexDigits) : digit ≠ '"' ∧ digit ≠ '\\' := by
  constructor <;>
    · rintro rfl
      exact absurd hex (by decide)

theorem hexes_scanned {digits : Text} (hex : ∀ digit ∈ digits, digit ∈ hexDigits) (depth : Nat)
    (rest : Text) :
    scanText limit (inside depth) (digits ++ rest) = scanText limit (inside depth) rest := by
  induction digits with
  | nil => rfl
  | cons digit others ih =>
    rw [List.forall_mem_cons] at hex
    have plain := hex_plain hex.1
    rw [List.cons_append, scanText_plain plain.1 plain.2, ih hex.2]

theorem body_scanned {body : Text} (valid : StringBody body) (depth : Nat) (rest : Text) :
    scanText limit (inside depth) (body ++ rest) = scanText limit (inside depth) rest := by
  induction valid with
  | nil => rfl
  | plain quote slash _ _ ih => rw [List.cons_append, scanText_plain quote slash, ih]
  | escape _ _ ih => rw [List.cons_append, List.cons_append, scanText_escaped, ih]
  | unicode _ hex _ ih =>
    rw [List.cons_append, List.cons_append, scanText_escaped, List.append_assoc, hexes_scanned hex,
      ih]

theorem string_scanned {body : Text} (valid : StringBody body) (depth : Nat) (rest : Text) :
    scanText limit (outside depth) ('"' :: (body ++ '"' :: rest)) =
      scanText limit (outside depth) rest := by
  have opened : scanText limit (outside depth) ('"' :: (body ++ '"' :: rest)) =
      scanText limit (inside depth) (body ++ '"' :: rest) := rfl
  rw [opened, body_scanned valid]
  rfl

end Texts

section Values

variable (limit : Nat)

def reached (depth height : Nat) : Option NestingScan :=
  if depth + height ≤ limit then some (outside depth) else none

def Climbs (text : Text) (height : Nat) : Prop :=
  ∀ depth, depth ≤ limit → scanText limit (outside depth) text = reached limit depth height

variable {limit}

theorem Climbs.append {first second : Text} {low high : Nat} (left : Climbs limit first low)
    (right : Climbs limit second high) : Climbs limit (first ++ second) (max low high) := by
  intro depth allowed
  rw [scanText_append, left depth allowed]
  unfold reached
  by_cases fits : depth + low ≤ limit
  · have again := right depth allowed
    simp only [if_pos fits, Option.bind_some, again, reached]
    congr 1
    simp only [eq_iff_iff]
    omega
  · rw [if_neg fits, if_neg (by omega)]
    rfl

theorem flat_climbs {text : Text}
    (same : ∀ depth, scanText limit (outside depth) text = some (outside depth)) :
    Climbs limit text 0 := by
  intro depth allowed
  rw [same, reached, if_pos (by omega)]

theorem blank_climbs {text : Text} (blank : Blank text) : Climbs limit text 0 :=
  flat_climbs (blank_scanned blank)

theorem neutral_climbs {text : Text} (neutral : ∀ character ∈ text, Neutral character) :
    Climbs limit text 0 :=
  flat_climbs (scanText_neutral neutral)

theorem string_climbs {body : Text} (valid : StringBody body) :
    Climbs limit ('"' :: (body ++ ['"'])) 0 :=
  flat_climbs fun depth => by
    rw [string_scanned valid]
    rfl

theorem Climbs.padded {before text after : Text} {height : Nat} (left : Blank before)
    (climbs : Climbs limit text height) (right : Blank after) :
    Climbs limit (before ++ (text ++ after)) height := by
  have padded := (blank_climbs left).append (climbs.append (blank_climbs right))
  rwa [Nat.max_zero, Nat.zero_max] at padded

theorem Climbs.bracketed {text : Text} {height : Nat} (climbs : Climbs limit text height)
    {opening closing : Char}
    (pair : opening = '[' ∧ closing = ']' ∨ opening = '\x7b' ∧ closing = '\x7d') :
    Climbs limit (opening :: (text ++ [closing])) (height + 1) := by
  intro depth _
  have opened : scanCharacter limit (outside depth) opening =
      if limit < depth + 1 then none else some (outside (depth + 1)) := by
    rcases pair with ⟨rfl, rfl⟩ | ⟨rfl, rfl⟩ <;> rfl
  have closed : scanText limit (outside (depth + 1)) [closing] = some (outside depth) := by
    rcases pair with ⟨rfl, rfl⟩ | ⟨rfl, rfl⟩ <;> rfl
  rw [scanText, opened]
  by_cases deeper : limit < depth + 1
  · rw [if_pos deeper, reached, if_neg (by omega)]
    rfl
  · rw [if_neg deeper, Option.bind_some, scanText_append, climbs _ (by omega)]
    unfold reached
    by_cases fits : depth + (height + 1) ≤ limit
    · rw [if_pos fits, if_pos (by omega), Option.bind_some, closed]
    · rw [if_neg fits, if_neg (by omega)]
      rfl

theorem member_climbs {before key gap : Text} (left : Blank before) (name : StringBody key)
    (colon : Blank gap) :
    Climbs limit (before ++ ('"' :: (key ++ '"' :: (gap ++ [':'])))) 0 := by
  have mark : Climbs limit [':'] 0 := neutral_climbs (by simp [Neutral])
  have named := ((blank_climbs left).append (string_climbs name)).append
    ((blank_climbs colon).append mark)
  simpa only [Nat.max_self, List.append_assoc, List.cons_append, List.nil_append] using named

mutual

theorem spells_climbs {value : Tree} {text : Text} (spells : Spells value text) :
    Climbs limit text (JsonText.nesting value) :=
  match spells with
  | .literal none => neutral_climbs (keyword_neutral none)
  | .literal (some value) => neutral_climbs (keyword_neutral (some value))
  | .number number => neutral_climbs (number_neutral number)
  | .string valid => string_climbs valid
  | .emptyList blank => (blank_climbs blank).bracketed (.inl ⟨rfl, rfl⟩)
  | .list inside => (items_climb inside).bracketed (.inl ⟨rfl, rfl⟩)
  | .emptyDict blank => (blank_climbs blank).bracketed (.inr ⟨rfl, rfl⟩)
  | .dict inside => (members_climb inside).bracketed (.inr ⟨rfl, rfl⟩)

theorem items_climb {items : List Tree} {text : Text} (inside : Items items text) :
    Climbs limit text (JsonText.nestingItems items) :=
  match inside with
  | .last left value right => by
    rw [JsonText.nestingItems, JsonText.nestingItems, Nat.max_zero]
    exact (spells_climbs value).padded left right
  | .more left value right next => by
    have item := (spells_climbs value).padded left right
    have comma : Climbs limit [','] 0 := neutral_climbs (by simp [Neutral])
    have joined := item.append (comma.append (items_climb next))
    rw [Nat.zero_max] at joined
    simpa only [JsonText.nestingItems, List.append_assoc, List.cons_append, List.nil_append]
      using joined

theorem members_climb {entries : List (Text × Tree)} {text : Text}
    (inside : Members entries text) : Climbs limit text (JsonText.nestingEntries entries) :=
  match inside with
  | .last left name colon inner value right => by
    have item := (spells_climbs value).padded inner right
    have joined := (member_climbs left name colon).append item
    rw [Nat.zero_max] at joined
    simpa only [JsonText.nestingEntries, Nat.max_zero, List.append_assoc, List.cons_append,
      List.nil_append] using joined
  | .more left name colon inner value right next => by
    have item := (spells_climbs value).padded inner right
    have comma : Climbs limit [','] 0 := neutral_climbs (by simp [Neutral])
    have joined := ((member_climbs left name colon).append item).append
      (comma.append (members_climb next))
    rw [Nat.zero_max, Nat.zero_max] at joined
    simpa only [JsonText.nestingEntries, List.append_assoc, List.cons_append, List.nil_append]
      using joined

end

theorem document_climbs {value : Tree} {text : Text} (document : Document value text) :
    Climbs limit text (JsonText.nesting value) := by
  obtain ⟨before, inside, after, left, spells, right, rfl⟩ := document
  exact (spells_climbs spells).padded left right

end Values

section Limit

variable {limit : Nat}

theorem enforceFrom_spec (message : String) (document : Text) (index : Nat) (scan : NestingScan)
    (text : Text) :
    (enforceFrom limit message document index scan text = .ok () ↔
      scanText limit scan text ≠ none) ∧
    (enforceFrom limit message document index scan text = .ok () ∨
      ∃ position, position < index + text.length ∧
        enforceFrom limit message document index scan text =
          .error ⟨message, document, position⟩) := by
  induction text generalizing index scan with
  | nil => exact ⟨by simp [enforceFrom, scanText], Or.inl rfl⟩
  | cons character rest ih =>
    simp only [enforceFrom, scanText]
    cases scanCharacter limit scan character with
    | none => exact ⟨by simp, Or.inr ⟨index, by simp, rfl⟩⟩
    | some next =>
      have later := ih (index + 1) next
      refine ⟨later.1, later.2.imp_right ?_⟩
      rintro ⟨position, below, raised⟩
      exact ⟨position, by simp only [List.length_cons]; omega, raised⟩

theorem nesting_scan_exact :
    (∀ (text : Text) (value : Tree) (message : String), Document value text →
      (enforceJsonNestingLimit text message = .ok () ↔
        JsonText.nesting value ≤ maxJsonNesting)) ∧
    ∀ (text : Text) (message : String), enforceJsonNestingLimit text message = .ok () ∨
      ∃ position, position < text.length ∧
        enforceJsonNestingLimit text message = .error ⟨message, text, position⟩ := by
  constructor
  · intro text value message document
    have climbs : scanText maxJsonNesting .start text =
        reached maxJsonNesting 0 (JsonText.nesting value) :=
      document_climbs document 0 (Nat.zero_le _)
    unfold enforceJsonNestingLimit enforceNestingLimit
    rw [(enforceFrom_spec message text 0 .start text).1, climbs, reached, Nat.zero_add]
    split <;> simp [*]
  · intro text message
    have either := (@enforceFrom_spec maxJsonNesting message text 0 .start text).2
    rwa [Nat.zero_add] at either

def quotedBrackets : Text := ['[', '"', ']', '\\', '\\', '\\', '"', '[', '"', ']']

theorem quotedBrackets_document :
    Document (.list [.str [']', '\\', '\\', '\\', '"', '[']]) quotedBrackets := by
  have body : StringBody [']', '\\', '\\', '\\', '"', '['] :=
    .plain (by decide) (by decide) (by decide) (.escape (by decide) (.escape (by decide)
      (.plain (by decide) (by decide) (by decide) .nil)))
  have free : Blank [] := nofun
  have items := Items.last free (Spells.string body) free
  exact ⟨[], _, [], free, .list items, free, rfl⟩

theorem nesting_scan_exact_quoted :
    enforceJsonNestingLimit quotedBrackets "too deep" = .ok () :=
  (nesting_scan_exact.1 quotedBrackets _ "too deep" quotedBrackets_document).mpr (by decide)

end Limit

end MonoidKernel.JsonIngress
