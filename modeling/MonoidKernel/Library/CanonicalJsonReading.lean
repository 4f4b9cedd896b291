import Mathlib.Algebra.Order.BigOperators.Group.List
import Mathlib.Data.List.TakeWhile
import Mathlib.Tactic.IntervalCases
import MonoidKernel.Library.CanonicalJson

set_option autoImplicit false

namespace Library

namespace CanonicalJson

section Canonical

variable (platform : Platform)

def FloatText (text : Text) : Prop := scanNumber text = some ⟨text, true, []⟩

mutual

def Canonical : Tree → Prop
  | .int value => value.natAbs < 10 ^ platform.maxDigits
  | .float text => FloatText text ∧ platform.reprFloat text = some text
  | .list items => CanonicalItems items
  | .dict entries => (entries.map (·.1)).Pairwise Before ∧ CanonicalEntries entries
  | _ => True

def CanonicalItems : List Tree → Prop
  | [] => True
  | item :: rest => Canonical item ∧ CanonicalItems rest

def CanonicalEntries : List (Text × Tree) → Prop
  | [] => True
  | (_, value) :: rest => Canonical value ∧ CanonicalEntries rest

end

variable {platform}

theorem canonicalItems_iff (items : List Tree) :
    CanonicalItems platform items ↔ ∀ item ∈ items, Canonical platform item := by
  induction items with
  | nil => simp [CanonicalItems]
  | cons item rest ih => simp [CanonicalItems, ih]

theorem canonicalEntries_iff (entries : List (Text × Tree)) :
    CanonicalEntries platform entries ↔ ∀ entry ∈ entries, Canonical platform entry.2 := by
  induction entries with
  | nil => simp [CanonicalEntries]
  | cons entry rest ih => simp [CanonicalEntries, ih]

theorem encodeItems_eq (items : List Tree) : encodeItems items = items.map encode := by
  induction items with
  | nil => rfl
  | cons item rest ih => rw [encodeItems, ih, List.map_cons]

theorem encodeEntries_eq (entries : List (Text × Tree)) :
    encodeEntries entries = entries.map fun entry => (entry.1, encode entry.2) := by
  induction entries with
  | nil => rfl
  | cons entry rest ih => rw [encodeEntries, ih, List.map_cons]

theorem ordered_distinct {keys : List Text} (ordered : keys.Pairwise Before) : keys.Nodup := by
  refine ordered.imp ?_
  rintro first _ smaller rfl
  exact List.lt_irrefl first smaller

theorem sorted_eq {V : Type} {entries : List (Text × V)}
    (ordered : (entries.map (·.1)).Pairwise Before) : sorted entries = entries := by
  refine List.Pairwise.insertionSort_eq ?_
  rw [List.pairwise_map] at ordered
  exact ordered.imp fun less greater => List.lt_asymm less greater

def spellMember (entry : Text × Tree) : Text := spellEntry (entry.1, encode entry.2)

theorem encode_dict {entries : List (Text × Tree)}
    (canonical : Canonical platform (.dict entries)) :
    encode (.dict entries) =
      '{' :: (commas (entries.map spellMember) ++ ['}']) := by
  have keys : ((encodeEntries entries).map (·.1)).Pairwise (· < ·) := by
    rw [encodeEntries_eq, List.map_map]
    exact canonical.1
  rw [encode, sorted_eq keys, encodeEntries_eq, List.map_map]
  rfl

end Canonical

section Numbers

def Stops (rest : Text) : Prop :=
  ∀ character, rest.head? = some character →
    character.isDigit = false ∧ character ∉ ['.', 'e', 'E', '+', '-']

variable {rest : Text}

theorem takeWhile_stops (stops : Stops rest) (text : Text) :
    (text ++ rest).takeWhile Char.isDigit = text.takeWhile Char.isDigit ∧
      (text ++ rest).dropWhile Char.isDigit = text.dropWhile Char.isDigit ++ rest := by
  induction text with
  | nil =>
    cases rest with
    | nil => exact ⟨rfl, rfl⟩
    | cons character others =>
      have digit := (stops character rfl).1
      simp [digit]
  | cons character text ih =>
    by_cases digit : character.isDigit = true
    · simp [digit, ih]
    · simp [digit]

theorem scanWhole_append (stops : Stops rest) {text : Text} {found : Text × Text}
    (scanned : scanWhole text = some found) :
    scanWhole (text ++ rest) = some (found.1, found.2 ++ rest) := by
  unfold scanWhole at scanned
  split at scanned
  next others =>
    cases scanned
    rfl
  next zero =>
    obtain ⟨take, drop⟩ := takeWhile_stops stops text
    split at scanned
    · cases scanned
    next some =>
      cases scanned
      unfold scanWhole
      split
      next others same =>
        cases text with
        | nil => exact absurd rfl some
        | cons character tail =>
          rw [List.cons_append, List.cons.injEq] at same
          exact absurd (congrArg (· :: tail) same.1) (zero tail)
      · rw [take, drop, if_neg some]

theorem scanFraction_append (stops : Stops rest) (text : Text) :
    scanFraction (text ++ rest) = ((scanFraction text).1, (scanFraction text).2 ++ rest) := by
  cases text with
  | nil =>
    cases rest with
    | nil => rfl
    | cons character others =>
      have apart := (stops character rfl).2
      have dot : character ≠ '.' := fun same => apart (by simp [same])
      simp [scanFraction, dot]
  | cons character tail =>
    by_cases dot : character = '.'
    · subst dot
      obtain ⟨take, drop⟩ := takeWhile_stops stops tail
      simp only [List.cons_append, scanFraction, take, drop]
      split <;> rfl
    · simp [scanFraction, dot]

theorem scanSign_append (stops : Stops rest) (text : Text) :
    scanSign (text ++ rest) = ((scanSign text).1, (scanSign text).2 ++ rest) := by
  cases text with
  | nil =>
    cases rest with
    | nil => rfl
    | cons character others =>
      have apart := (stops character rfl).2
      have plus : character ≠ '+' := fun same => apart (by simp [same])
      have minus : character ≠ '-' := fun same => apart (by simp [same])
      simp [scanSign, plus, minus]
  | cons character tail =>
    by_cases plus : character = '+'
    · subst plus
      rfl
    · by_cases minus : character = '-'
      · subst minus
        rfl
      · simp [scanSign, plus, minus]

theorem scanExponent_append (stops : Stops rest) (text : Text) :
    scanExponent (text ++ rest) = ((scanExponent text).1, (scanExponent text).2 ++ rest) := by
  cases text with
  | nil =>
    cases rest with
    | nil => rfl
    | cons character others =>
      have apart := (stops character rfl).2
      have lower : character ≠ 'e' := fun same => apart (by simp [same])
      have upper : character ≠ 'E' := fun same => apart (by simp [same])
      simp [scanExponent, lower, upper]
  | cons character tail =>
    rw [List.cons_append, scanExponent, scanExponent, scanSign_append stops]
    obtain ⟨take, drop⟩ := takeWhile_stops stops (scanSign tail).2
    simp only [take, drop]
    split <;> rfl

theorem scanMinus_append (stops : Stops rest) (text : Text) :
    scanMinus (text ++ rest) = ((scanMinus text).1, (scanMinus text).2 ++ rest) := by
  cases text with
  | nil =>
    cases rest with
    | nil => rfl
    | cons character others =>
      have apart := (stops character rfl).2
      have minus : character ≠ '-' := fun same => apart (by simp [same])
      simp [scanMinus, minus]
  | cons character tail =>
    by_cases minus : character = '-'
    · subst minus
      rfl
    · simp [scanMinus, minus]

theorem scanNumber_append (stops : Stops rest) {text : Text} {found : Scanned}
    (scanned : scanNumber text = some found) :
    scanNumber (text ++ rest) = some { found with rest := found.rest ++ rest } := by
  unfold scanNumber at scanned ⊢
  obtain ⟨whole, first, rfl⟩ := Option.map_eq_some_iff.mp scanned
  rw [scanMinus_append stops]
  simp only
  rw [scanWhole_append stops first, Option.map_some]
  simp only [scanFraction_append stops, scanExponent_append stops]

end Numbers

section Integers

theorem decimal_whole (n : Nat) :
    scanWhole (JsonText.decimal n) = some (JsonText.decimal n, []) := by
  have digits : ∀ digit ∈ JsonText.decimal n, digit.isDigit = true := fun digit member =>
    Nat.isDigit_of_mem_toDigits (by decide) (by decide) member
  have whole : (JsonText.decimal n).takeWhile Char.isDigit = JsonText.decimal n ∧
      (JsonText.decimal n).dropWhile Char.isDigit = [] := by
    constructor
    · exact List.takeWhile_eq_self_iff.mpr digits
    · exact List.dropWhile_eq_nil_iff.mpr digits
  unfold scanWhole
  split
  next rest same =>
    -- Only zero starts with the digit zero.
    have zero : n = 0 := by
      by_contra positive
      have front : ∀ n : Nat, n ≠ 0 → (JsonText.decimal n).head? ≠ some '0' := by
        intro n
        induction n using Nat.strongRecOn with
        | _ n ih =>
          intro positive
          by_cases small : n < 10
          · rw [JsonText.decimal, Nat.toDigits_of_lt_base small]
            interval_cases n <;> simp_all
          · have split := Nat.toDigits_of_base_le (n := n) (b := 10) (by decide) (by omega)
            have before := ih (n / 10) (by omega) (by omega)
            rw [JsonText.decimal, split, List.head?_append_of_ne_nil _ Nat.toDigits_ne_nil]
            exact before
      exact front n positive (by rw [same]; rfl)
    subst zero
    have digit : JsonText.decimal 0 = ['0'] := by decide
    rw [digit, List.cons.injEq] at same
    rw [digit, ← same.2]
  · have some : JsonText.decimal n ≠ [] := Nat.toDigits_ne_nil
    rw [whole.1, whole.2, if_neg some]

theorem decimal_head (n : Nat) : ∃ digit tail, JsonText.decimal n = digit :: tail ∧
    digit.isDigit = true := by
  cases same : JsonText.decimal n with
  | nil => exact absurd same Nat.toDigits_ne_nil
  | cons digit tail =>
    refine ⟨digit, tail, rfl, ?_⟩
    have member : digit ∈ JsonText.decimal n := by simp [same]
    exact Nat.isDigit_of_mem_toDigits (by decide) (by decide) member

theorem scanMinus_digit {digit : Char} (isDigit : digit.isDigit = true) (tail : Text) :
    scanMinus (digit :: tail) = ([], digit :: tail) := by
  unfold scanMinus
  split
  next rest same =>
    rw [List.cons.injEq] at same
    rw [same.1] at isDigit
    cases isDigit
  · rfl

theorem scanNumber_int (value : Int) :
    scanNumber (JsonText.spellInt value) = some ⟨JsonText.spellInt value, false, []⟩ := by
  cases value with
  | ofNat n =>
    obtain ⟨digit, tail, same, isDigit⟩ := decimal_head n
    have minus : scanMinus (JsonText.decimal n) = ([], JsonText.decimal n) := by
      rw [same]
      exact scanMinus_digit isDigit tail
    unfold scanNumber
    simp only [JsonText.spellInt, minus, decimal_whole, Option.map_some, scanFraction, scanExponent]
    simp
  | negSucc n =>
    unfold scanNumber
    simp only [JsonText.spellInt, scanMinus, decimal_whole, Option.map_some, scanFraction,
      scanExponent]
    simp

theorem intOf_spellInt (value : Int) : intOf (JsonText.spellInt value) = value := by
  cases value with
  | ofNat n =>
    obtain ⟨digit, tail, same, isDigit⟩ := decimal_head n
    have read : Nat.ofDigitChars 10 (JsonText.decimal n) 0 = n := Nat.ofDigitChars_ten_toDigits
    rw [JsonText.spellInt]
    unfold intOf
    split
    next digits minus =>
      rw [same, List.cons.injEq] at minus
      rw [minus.1] at isDigit
      cases isDigit
    · rw [read]; rfl
  | negSucc n =>
    have read : Nat.ofDigitChars 10 (JsonText.decimal (n + 1)) 0 = n + 1 :=
      Nat.ofDigitChars_ten_toDigits
    rw [JsonText.spellInt, intOf, read]
    rfl

variable {platform : Platform}

theorem readNumber_int {value : Int} (bound : value.natAbs < 10 ^ platform.maxDigits) {rest : Text}
    (stops : Stops rest) :
    readNumber platform (JsonText.spellInt value ++ rest) = some (.int value, rest) := by
  rw [readNumber, scanNumber_append stops (scanNumber_int value)]
  simp only [List.nil_append, intOf_spellInt, if_pos bound]

theorem readNumber_float {text : Text} (float : FloatText text)
    (written : platform.reprFloat text = some text) {rest : Text} (stops : Stops rest) :
    readNumber platform (text ++ rest) = some (.float text, rest) := by
  rw [readNumber, scanNumber_append stops float]
  simp only [List.nil_append, written, Option.map_some]

theorem scanNumber_head {text : Text} {found : Scanned} (scanned : scanNumber text = some found) :
    ∃ character tail, text = character :: tail ∧ (character.isDigit = true ∨ character = '-') := by
  cases text with
  | nil => simp [scanNumber, scanMinus, scanWhole] at scanned
  | cons character tail =>
    refine ⟨character, tail, rfl, ?_⟩
    by_contra neither
    rw [not_or, Bool.not_eq_true] at neither
    have minus : scanMinus (character :: tail) = ([], character :: tail) := by
      simp [scanMinus, neither.2]
    have zero : character ≠ '0' := by
      intro same
      rw [same] at neither
      exact absurd neither.1 (by decide)
    simp [scanNumber, minus, scanWhole, zero, neither.1] at scanned

end Integers

section Strings

theorem hexDigit_value (n : Nat) (small : n < 16) : hexValue (JsonText.hexDigit n) = some n := by
  have all : ∀ n, n < 16 → hexValue (JsonText.hexDigit n) = some n := by decide
  exact all n small

theorem readString_unit_eq (a b c d : Char) (rest : Text) :
    (∃ e f g h left, rest = '\\' :: 'u' :: e :: f :: g :: h :: left) ∨
      readString ('\\' :: 'u' :: a :: b :: c :: d :: rest) =
        match hexUnit a b c d with
        | some unit =>
          if 0xD800 ≤ unit ∧ unit < 0xE000 then none
          else (readString rest).map fun (text, left) => (Char.ofNat unit :: text, left)
        | none => none := by
  by_cases second : ∃ e f g h left, rest = '\\' :: 'u' :: e :: f :: g :: h :: left
  · exact Or.inl second
  · refine Or.inr ?_
    refine readString.eq_4 a b c d rest ?_
    rintro e f g h left rfl
    exact second ⟨e, f, g, h, left, rfl⟩

theorem readString_badUnit {a b c d : Char} (bad : hexUnit a b c d = none) (rest : Text) :
    readString ('\\' :: 'u' :: a :: b :: c :: d :: rest) = none := by
  rcases readString_unit_eq a b c d rest with ⟨e, f, g, h, left, rfl⟩ | alone
  · rw [readString, bad]
  · rw [alone, bad]

theorem readString_unit {a b c d : Char} {unit : Nat} (value : hexUnit a b c d = some unit)
    (plain : unit < 0xD800) (rest : Text) :
    readString ('\\' :: 'u' :: a :: b :: c :: d :: rest) =
      (readString rest).map fun (text, left) => (Char.ofNat unit :: text, left) := by
  have high : ¬(0xD800 ≤ unit ∧ unit < 0xDC00) := by omega
  have low : ¬(0xDC00 ≤ unit ∧ unit < 0xE000) := by omega
  have surrogate : ¬(0xD800 ≤ unit ∧ unit < 0xE000) := by omega
  rcases readString_unit_eq a b c d rest with ⟨e, f, g, h, left, rfl⟩ | alone
  · rw [readString, value]
    cases second : hexUnit e f g h with
    | none => simp [readString_badUnit second]
    | some other => simp only [if_neg high, if_neg low]
  · rw [alone, value]
    simp only [if_neg surrogate]

theorem readString_plain {mark character : Char} (plain : plainEscape mark = some character)
    (rest : Text) :
    readString ('\\' :: mark :: rest) =
      (readString rest).map fun (text, left) => (character :: text, left) := by
  have other : mark ≠ 'u' := by
    rintro rfl
    cases plain
  rw [readString.eq_5]
  · rw [plain]
  · exact fun _ _ _ _ _ _ _ _ _ same => absurd same other
  · exact fun _ _ _ _ _ same => absurd same other

theorem readString_escape (character : Char) (rest : Text) :
    readString (escape character ++ rest) =
      (readString rest).map fun (text, left) => (character :: text, left) := by
  unfold escape
  split
  next same =>
    subst same
    exact readString_plain rfl rest
  split
  next same =>
    subst same
    exact readString_plain rfl rest
  split
  next same =>
    subst same
    exact readString_plain rfl rest
  split
  next same =>
    subst same
    exact readString_plain rfl rest
  split
  next same =>
    subst same
    exact readString_plain rfl rest
  split
  next same =>
    obtain rfl : character = '\x0c' := Char.toNat_inj.mp same
    exact readString_plain rfl rest
  split
  next same =>
    obtain rfl : character = '\x08' := Char.toNat_inj.mp same
    exact readString_plain rfl rest
  split
  next control =>
    have unit : hexUnit (JsonText.hexDigit (character.toNat / 0x1000 % 16))
        (JsonText.hexDigit (character.toNat / 0x100 % 16))
        (JsonText.hexDigit (character.toNat / 0x10 % 16))
        (JsonText.hexDigit (character.toNat % 16)) = some character.toNat := by
      simp only [hexUnit, hexDigit_value _ (Nat.mod_lt _ (by decide : 0 < 16)), bind, Option.bind,
        Option.some.injEq]
      omega
    refine (readString_unit unit (by omega) rest).trans ?_
    rw [Char.ofNat_toNat]
  next quote backslash _ _ _ _ _ printed =>
    have read := readString.eq_6 character rest quote
      (fun _ _ _ _ _ _ _ _ _ same _ => backslash same) (fun _ _ _ _ _ same _ => backslash same)
      (fun _ _ same _ => backslash same)
    rw [List.singleton_append, read, if_neg printed]

theorem readString_quote (text rest : Text) :
    readString (text.flatMap escape ++ '"' :: rest) = some (text, rest) := by
  induction text with
  | nil => simp [readString]
  | cons character text ih =>
    rw [List.flatMap_cons, List.append_assoc, readString_escape, ih]
    rfl

end Strings

section Values

variable {platform : Platform}

def Opens (text : Text) : Prop :=
  ∃ character tail, text = character :: tail ∧ character ∉ [' ', '\t', '\n', '\r', ']', '}']

theorem digit_opens {character : Char} (start : character.isDigit = true ∨ character = '-') :
    character ∉ [' ', '\t', '\n', '\r', ']', '}'] := by
  intro member
  rcases start with digit | rfl
  · simp only [List.mem_cons, List.not_mem_nil, or_false] at member
    rcases member with rfl | rfl | rfl | rfl | rfl | rfl <;> cases digit
  · exact absurd member (by decide)

theorem encode_opens {value : Tree} (canonical : Canonical platform value) :
    Opens (encode value) := by
  cases value with
  | null => exact ⟨'n', _, rfl, by decide⟩
  | bool value =>
    cases value with
    | false => exact ⟨'f', _, rfl, by decide⟩
    | true => exact ⟨'t', _, rfl, by decide⟩
  | int value =>
    obtain ⟨character, tail, same, start⟩ := scanNumber_head (scanNumber_int value)
    exact ⟨character, tail, same, digit_opens start⟩
  | float text =>
    obtain ⟨character, tail, same, start⟩ := scanNumber_head canonical.1
    exact ⟨character, tail, same, digit_opens start⟩
  | str text => exact ⟨'"', _, rfl, by decide⟩
  | list items => exact ⟨'[', _, rfl, by decide⟩
  | dict entries => exact ⟨'{', _, rfl, by decide⟩

theorem skip_opens {text : Text} (opens : Opens text) (rest : Text) :
    skip (text ++ rest) = text ++ rest := by
  obtain ⟨character, tail, rfl, apart⟩ := opens
  have blank : [' ', '\t', '\n', '\r'].contains character = false := by
    simp only [List.mem_cons, List.not_mem_nil, or_false, not_or] at apart
    simp [apart]
  rw [skip, List.cons_append, List.dropWhile_cons_of_neg (by simpa using blank)]

theorem readValue_number {character : Char} (start : character.isDigit = true ∨ character = '-')
    (fuel : Nat) (tail : Text) :
    readValue platform (fuel + 1) (character :: tail) =
      readNumber platform (character :: tail) := by
  have other : ∀ special ∈ ['"', '[', '{', 'n', 't', 'f'], character ≠ special := by
    intro special member same
    subst same
    rcases start with digit | minus
    · simp only [List.mem_cons, List.not_mem_nil, or_false] at member
      rcases member with rfl | rfl | rfl | rfl | rfl | rfl <;> cases digit
    · rw [minus] at member
      exact absurd member (by decide)
  simp only [List.mem_cons, List.not_mem_nil, or_false, forall_eq_or_imp, forall_eq] at other
  obtain ⟨string, list, dict, null, yes, no⟩ := other
  rw [readValue]
  all_goals simp_all

theorem dictOf_distinct {entries : List (Text × Tree)}
    (distinct : (entries.map (·.1)).Nodup) : dictOf entries = entries := by
  have behind (before after : List (Text × Tree))
      (distinct : ((before ++ after).map (·.1)).Nodup) :
      after.foldl (fun entries member => OrderedDict.put member.1 member.2 entries) before =
        before ++ after := by
    induction after generalizing before with
    | nil => simp
    | cons entry rest ih =>
      have absent : entry.1 ∉ before.map (·.1) := by
        intro member
        rw [List.map_append, List.map_cons, List.nodup_append] at distinct
        exact distinct.2.2 _ member _ List.mem_cons_self rfl
      have grown : OrderedDict.put entry.1 entry.2 before = before ++ [entry] :=
        OrderedDict.put_absent absent entry.2
      rw [List.foldl_cons, grown, ih _ (by simpa using distinct)]
      simp
  exact behind [] entries distinct

theorem Opens.append {text : Text} (opens : Opens text) (rest : Text) : Opens (text ++ rest) := by
  obtain ⟨character, tail, rfl, apart⟩ := opens
  exact ⟨character, tail ++ rest, rfl, apart⟩

theorem commas_opens {text : Text} (opens : Opens text) (rest : List Text) :
    Opens (commas (text :: rest)) := by
  cases rest with
  | nil => exact opens
  | cons next others => exact opens.append _

theorem stops_cons (character : Char) (apart : character ∈ [',', ':', ']', '}']) (rest : Text) :
    Stops (character :: rest) := by
  rintro _ ⟨⟩
  simp only [List.mem_cons, List.not_mem_nil, or_false] at apart
  rcases apart with rfl | rfl | rfl | rfl <;> decide

theorem skip_cons (character : Char) (apart : character ∈ [',', ':', ']', '}']) (rest : Text) :
    skip (character :: rest) = character :: rest := by
  simp only [List.mem_cons, List.not_mem_nil, or_false] at apart
  rcases apart with rfl | rfl | rfl | rfl <;> rfl

theorem readValue_list {fuel : Nat} {text rest : Text} {items : List Tree} (opens : Opens text)
    (read : readItems platform fuel text = some (items, rest)) :
    readValue platform (fuel + 1) ('[' :: text) = some (.list items, rest) := by
  have same := skip_opens opens []
  rw [List.append_nil] at same
  obtain ⟨character, tail, rfl, apart⟩ := opens
  rw [readValue, same]
  split
  next others closes =>
    rw [List.cons.injEq] at closes
    rw [closes.1] at apart
    exact absurd apart (by decide)
  · rw [read, Option.map_some]

theorem readValue_dict {fuel : Nat} {text rest : Text} {members : List (Text × Tree)}
    (opens : Opens text) (distinct : (members.map (·.1)).Nodup)
    (read : readMembers platform fuel text = some (members, rest)) :
    readValue platform (fuel + 1) ('{' :: text) = some (.dict members, rest) := by
  have same := skip_opens opens []
  rw [List.append_nil] at same
  obtain ⟨character, tail, rfl, apart⟩ := opens
  rw [readValue, same]
  split
  next others closes =>
    rw [List.cons.injEq] at closes
    rw [closes.1] at apart
    exact absurd apart (by decide)
  · simp only [read, Option.map_some, dictOf_distinct distinct]

theorem spellMember_opens (entry : Text × Tree) : Opens (spellMember entry) :=
  ⟨'"', _, rfl, by decide⟩

mutual

theorem readValue_encode (value : Tree) (canonical : Canonical platform value) (fuel : Nat)
    (enough : 2 * (encode value).length ≤ fuel) {rest : Text} (stops : Stops rest) :
    readValue platform fuel (encode value ++ rest) = some (value, rest) := by
  obtain ⟨character, tail, opened, _⟩ := encode_opens canonical
  obtain ⟨less, rfl⟩ : ∃ less, fuel = less + 1 := by
    rw [opened, List.length_cons] at enough
    exact ⟨fuel - 1, by omega⟩
  cases value with
  | null => rfl
  | bool value => cases value <;> rfl
  | int value =>
    obtain ⟨first, others, same, start⟩ := scanNumber_head (scanNumber_int value)
    have read := readNumber_int canonical stops
    rw [encode, same, List.cons_append, readValue_number start, ← List.cons_append, ← same, read]
  | float text =>
    obtain ⟨first, others, same, start⟩ := scanNumber_head canonical.1
    have read := readNumber_float canonical.1 canonical.2 stops
    rw [encode, same, List.cons_append, readValue_number start, ← List.cons_append, ← same, read]
  | str text =>
    rw [encode, quote, List.cons_append, readValue, List.append_assoc, List.singleton_append,
      readString_quote]
    rfl
  | list items =>
    cases items with
    | nil => rfl
    | cons item items =>
      have first := encode_opens canonical.1
      have size : (encode (.list (item :: items))).length =
          (commas (encodeItems (item :: items))).length + 2 := by
        simp [encode]
      rw [size] at enough
      have read := readItems_encode item items canonical less (by omega) rest
      rw [encode, List.cons_append, List.append_assoc, List.singleton_append]
      exact readValue_list ((commas_opens first _).append _) read
  | dict entries =>
    cases entries with
    | nil => rfl
    | cons entry entries =>
      have distinct : ((entry :: entries).map (·.1)).Nodup :=
        ordered_distinct canonical.1
      have text := encode_dict canonical
      have size := congrArg List.length text
      rw [List.length_cons, List.length_append, List.length_singleton] at size
      rw [size] at enough
      have read := readMembers_encode entry entries canonical.2 less (by omega) rest
      rw [text, List.cons_append, List.append_assoc, List.singleton_append]
      exact readValue_dict ((commas_opens (spellMember_opens entry) _).append _) distinct read
termination_by fuel

theorem readItems_encode (item : Tree) (items : List Tree)
    (canonical : CanonicalItems platform (item :: items)) (fuel : Nat)
    (enough : 2 * (commas (encodeItems (item :: items))).length + 1 ≤ fuel) (rest : Text) :
    readItems platform fuel (commas (encodeItems (item :: items)) ++ ']' :: rest) =
      some (item :: items, rest) := by
  obtain ⟨less, rfl⟩ : ∃ less, fuel = less + 1 := ⟨fuel - 1, by omega⟩
  cases items with
  | nil =>
    have read := readValue_encode item canonical.1 less
      (by simp only [encodeItems, commas] at enough; omega) (stops_cons ']' (by simp) rest)
    rw [encodeItems, encodeItems, commas, readItems, read]
    rfl
  | cons next others =>
    have text : commas (encodeItems (item :: next :: others)) =
        encode item ++ ',' :: commas (encodeItems (next :: others)) := rfl
    rw [text, List.length_append, List.length_cons] at enough
    have read := readValue_encode item canonical.1 less (by omega)
      (stops_cons ',' (by simp) (commas (encodeItems (next :: others)) ++ ']' :: rest))
    have later := readItems_encode next others canonical.2 less (by omega) rest
    have opens : Opens (commas (encodeItems (next :: others))) :=
      commas_opens (encode_opens canonical.2.1) (encodeItems others)
    rw [text, List.append_assoc, List.cons_append, readItems, read]
    simp only [skip_cons ',' (by simp)]
    rw [skip_opens opens, later, Option.map_some]
termination_by fuel

theorem readMembers_encode (entry : Text × Tree) (entries : List (Text × Tree))
    (canonical : CanonicalEntries platform (entry :: entries)) (fuel : Nat)
    (enough : 2 * (commas ((entry :: entries).map spellMember)).length + 1 ≤ fuel) (rest : Text) :
    readMembers platform fuel (commas ((entry :: entries).map spellMember) ++ '}' :: rest) =
      some (entry :: entries, rest) := by
  obtain ⟨less, rfl⟩ : ∃ less, fuel = less + 1 := ⟨fuel - 1, by omega⟩
  obtain ⟨key, value⟩ := entry
  have spelled (behind : Text) : spellMember (key, value) ++ behind =
      '"' :: (key.flatMap escape ++ '"' :: ':' :: (encode value ++ behind)) := by
    simp [spellMember, spellEntry, quote]
  have size : (encode value).length + 3 ≤ (spellMember (key, value)).length := by
    simp only [spellMember, spellEntry, quote, List.length_cons, List.length_append]
    omega
  have opens := encode_opens canonical.1
  cases entries with
  | nil =>
    rw [List.map_cons, List.map_nil, commas] at enough ⊢
    have read := readValue_encode value canonical.1 less (by omega)
      (stops_cons '}' (by simp) rest)
    rw [spelled, readMembers, readString_quote]
    simp only [skip_cons ':' (by simp), skip_opens opens, read]
    rfl
  | cons next others =>
    have text : commas (((key, value) :: next :: others).map spellMember) =
        spellMember (key, value) ++ ',' :: commas ((next :: others).map spellMember) := rfl
    rw [text, List.length_append, List.length_cons] at enough
    have read := readValue_encode value canonical.1 less (by omega)
      (stops_cons ',' (by simp) (commas ((next :: others).map spellMember) ++ '}' :: rest))
    have later := readMembers_encode next others canonical.2 less (by omega) rest
    have opensNext : Opens (commas ((next :: others).map spellMember)) :=
      commas_opens (spellMember_opens next) (others.map spellMember)
    rw [text, List.append_assoc, List.cons_append, spelled, readMembers, readString_quote]
    simp only [skip_cons ':' (by simp), skip_opens opens, read,
      skip_cons ',' (by simp), skip_opens opensNext, later,
      Option.map_some]
termination_by fuel

end

theorem decode_encode {value : Tree} (canonical : Canonical platform value) :
    decode platform (encode value) = some value := by
  have ends : Stops [] := by
    intro character absent
    cases absent
  have skipped := skip_opens (encode_opens canonical) []
  have read := readValue_encode value canonical (2 * (encode value).length + 1) (by omega) ends
  rw [List.append_nil] at skipped read
  rw [decode, skipped, read]
  rfl

end Values

section Sizes

theorem byteSize_append (first second : Text) :
    byteSize (first ++ second) = byteSize first + byteSize second := by
  simp [byteSize]

theorem byteSize_cons (character : Char) (text : Text) :
    byteSize (character :: text) = character.utf8Size + byteSize text := by
  simp [byteSize]

theorem commas_size (texts : List Text) : (texts.map byteSize).sum ≤ byteSize (commas texts) := by
  induction texts with
  | nil => simp
  | cons text rest ih =>
    cases rest with
    | nil => simp [commas]
    | cons next others =>
      have text : commas (text :: next :: others) = text ++ ',' :: commas (next :: others) := rfl
      rw [text, byteSize_append, byteSize_cons, List.map_cons, List.sum_cons]
      omega

theorem spellMember_size (entry : Text × Tree) :
    byteSize (encode entry.2) ≤ byteSize (spellMember entry) := by
  have size := byteSize_append (quote entry.1) (':' :: encode entry.2)
  rw [byteSize_cons] at size
  rw [spellMember, spellEntry, size]
  omega

theorem items_size (items : List Tree) :
    (items.map fun item => byteSize (encode item)).sum ≤ byteSize (encode (.list items)) := by
  have inside := commas_size (encodeItems items)
  rw [encodeItems_eq, List.map_map] at inside
  rw [encode, byteSize_cons, byteSize_append, encodeItems_eq]
  have same : (items.map fun item => byteSize (encode item)) = items.map (byteSize ∘ encode) := rfl
  rw [same]
  omega

theorem members_size {platform : Platform} {entries : List (Text × Tree)}
    (canonical : Canonical platform (.dict entries)) :
    (entries.map fun entry => byteSize (encode entry.2)).sum ≤
      byteSize (encode (.dict entries)) := by
  have inside := commas_size (entries.map spellMember)
  have each : (entries.map fun entry => byteSize (encode entry.2)).sum ≤
      ((entries.map spellMember).map byteSize).sum := by
    rw [List.map_map]
    exact List.sum_le_sum fun entry _ => spellMember_size entry
  rw [encode_dict canonical, byteSize_cons, byteSize_append]
  omega

end Sizes

end CanonicalJson

end Library
