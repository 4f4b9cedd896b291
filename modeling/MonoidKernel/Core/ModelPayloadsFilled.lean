import MonoidKernel.Core.ModelPayloads
import MonoidKernel.Library.CanonicalJsonReading

set_option autoImplicit false

namespace MonoidKernel.ModelPayloads

open Library Library.CanonicalJson

section Markers

variable {sha : Text}

theorem markerSha_eq {value : Tree} (marker : markerSha value = some sha) :
    value = chunkMarker sha ∧ isChunkSha256 sha = true := by
  unfold markerSha at marker
  split at marker
  next key name =>
    split at marker
    next shaped =>
      cases marker
      exact ⟨by rw [chunkMarker, shaped.1], shaped.2⟩
    · cases marker
  · cases marker

theorem markerSha_chunkMarker (shaped : isChunkSha256 sha = true) :
    markerSha (chunkMarker sha) = some sha := by
  simp [markerSha, chunkMarker, shaped]

theorem hexDigit_plain {character : Char} (digit : isHexDigit character = true) :
    escape character = [character] ∧ character.utf8Size = 1 := by
  have bounds : 0x30 ≤ character.toNat ∧ character.toNat ≤ 0x39 ∨
      0x61 ≤ character.toNat ∧ character.toNat ≤ 0x66 := by
    simp only [isHexDigit, Bool.or_eq_true, Bool.and_eq_true, decide_eq_true_eq] at digit
    exact digit
  have apart (other : Char) (outside : other.toNat < 0x30 ∨ 0x66 < other.toNat ∨
      0x39 < other.toNat ∧ other.toNat < 0x61) : character ≠ other := by
    rintro rfl
    omega
  constructor
  · rw [escape, if_neg (apart '"' (by decide)), if_neg (apart '\\' (by decide)),
      if_neg (apart '\n' (by decide)), if_neg (apart '\r' (by decide)),
      if_neg (apart '\t' (by decide)), if_neg (by omega), if_neg (by omega), if_neg (by omega)]
  · have small : character.val ≤ 0x7F := by
      have below : character.toNat ≤ 0x7F := by omega
      exact below
    exact if_pos small

theorem quote_hex {text : Text} (digits : text.all isHexDigit = true) :
    byteSize (quote text) = text.length + 2 := by
  have inside : byteSize (text.flatMap escape) = text.length := by
    induction text with
    | nil => rfl
    | cons character text ih =>
      rw [List.all_cons, Bool.and_eq_true] at digits
      obtain ⟨plain, single⟩ := hexDigit_plain digits.1
      rw [List.flatMap_cons, plain, List.singleton_append, byteSize_cons, single, ih digits.2,
        List.length_cons, Nat.add_comm]
  have quoted : '"'.utf8Size = 1 := by decide
  rw [quote, byteSize_cons, byteSize_append, inside, byteSize_cons, quoted]
  simp [byteSize]
  omega

theorem marker_size (shaped : isChunkSha256 sha = true) :
    byteSize (encode (chunkMarker sha)) = markerEncodedBytes := by
  have size {name : Text} (length : name.length = 64) (digits : name.all isHexDigit = true) :
      byteSize (encode (chunkMarker name)) = byteSize (quote payloadChunkRefKey) + 69 := by
    have text : encode (chunkMarker name) =
        '{' :: ((quote payloadChunkRefKey ++ ':' :: quote name) ++ ['}']) := rfl
    have opening : '{'.utf8Size = 1 := by decide
    have colon : ':'.utf8Size = 1 := by decide
    have closing : byteSize ['}'] = 1 := by decide
    rw [text, byteSize_cons, byteSize_append, byteSize_append, byteSize_cons, quote_hex digits,
      length, opening, colon, closing]
    omega
  rw [isChunkSha256, Bool.and_eq_true, beq_iff_eq] at shaped
  rw [markerEncodedBytes, size shaped.1 shaped.2, size List.length_replicate (by decide)]

variable {platform : Platform}

theorem entryReferences_eq (entries : List (Text × Tree)) :
    entryReferences entries = entries.flatMap fun entry => iterChunkReferences entry.2 := by
  induction entries with
  | nil => rfl
  | cons entry rest ih => rw [entryReferences, ih, List.flatMap_cons]

mutual

theorem references_size (value : Tree) (canonical : Canonical platform value)
    (named : sha ∈ iterChunkReferences value) : markerEncodedBytes ≤ byteSize (encode value) := by
  cases value with
  | null => cases named
  | bool value => cases named
  | int value => cases named
  | float text => cases named
  | str text => cases named
  | list items =>
    exact Nat.le_trans (itemReferences_size items canonical named) (items_size items)
  | dict entries =>
    rw [iterChunkReferences] at named
    split at named
    next name marker =>
      obtain ⟨same, shaped⟩ := markerSha_eq marker
      rw [same, marker_size shaped]
    · exact Nat.le_trans (entryReferences_size entries canonical.2 named) (members_size canonical)

theorem entryReferences_size (entries : List (Text × Tree))
    (canonical : CanonicalEntries platform entries) (named : sha ∈ entryReferences entries) :
    markerEncodedBytes ≤ (entries.map fun entry => byteSize (encode entry.2)).sum := by
  cases entries with
  | nil => cases named
  | cons entry rest =>
    rw [List.map_cons, List.sum_cons]
    rw [entryReferences, List.mem_append] at named
    cases named with
    | inl here =>
      have size := references_size entry.2 canonical.1 here
      omega
    | inr later =>
      have size := entryReferences_size rest canonical.2 later
      omega

theorem itemReferences_size (items : List Tree) (canonical : CanonicalItems platform items)
    (named : sha ∈ itemReferences items) :
    markerEncodedBytes ≤ (items.map fun item => byteSize (encode item)).sum := by
  cases items with
  | nil => cases named
  | cons item rest =>
    rw [List.map_cons, List.sum_cons]
    rw [itemReferences, List.mem_append] at named
    cases named with
    | inl here =>
      have size := references_size item canonical.1 here
      omega
    | inr later =>
      have size := itemReferences_size rest canonical.2 later
      omega

end

end Markers

section Filling

variable {platform : Platform}

mutual

theorem filled_plain (resolve : Resolver) (value : Tree) (plain : iterChunkReferences value = [])
    (budget : Resolution) : filled platform resolve value budget = (some value, budget) := by
  cases value with
  | null => rfl
  | bool value => rfl
  | int value => rfl
  | float text => rfl
  | str text => rfl
  | list items =>
    rw [filled, filledItems_plain resolve items plain]
    rfl
  | dict entries =>
    rw [iterChunkReferences] at plain
    split at plain
    · cases plain
    next unmarked =>
      rw [filled, unmarked]
      simp only [filledEntries_plain resolve entries plain, Option.map_some]

theorem filledEntries_plain (resolve : Resolver) (entries : List (Text × Tree))
    (plain : entryReferences entries = []) (budget : Resolution) :
    filledEntries platform resolve entries budget = (some entries, budget) := by
  cases entries with
  | nil => rfl
  | cons entry rest =>
    obtain ⟨key, value⟩ := entry
    rw [entryReferences, List.append_eq_nil_iff] at plain
    rw [filledEntries, filled_plain resolve value plain.1]
    simp only [filledEntries_plain resolve rest plain.2, Option.map_some]

theorem filledItems_plain (resolve : Resolver) (items : List Tree)
    (plain : itemReferences items = []) (budget : Resolution) :
    filledItems platform resolve items budget = (some items, budget) := by
  cases items with
  | nil => rfl
  | cons item rest =>
    rw [itemReferences, List.append_eq_nil_iff] at plain
    rw [filledItems, filled_plain resolve item plain.1]
    simp only [filledItems_plain resolve rest plain.2, Option.map_some]

end

mutual

theorem filled_asked (resolve : Resolver) (value : Tree) (budget : Resolution) {sha : Text}
    (asked : sha ∈ (filled platform resolve value budget).2.asked) :
    sha ∈ budget.asked ∨ sha ∈ iterChunkReferences value := by
  cases value with
  | null => exact Or.inl asked
  | bool value => exact Or.inl asked
  | int value => exact Or.inl asked
  | float text => exact Or.inl asked
  | str text => exact Or.inl asked
  | list items => exact filledItems_asked resolve items budget asked
  | dict entries =>
    rw [filled] at asked
    rw [iterChunkReferences]
    split at asked
    next name marker =>
      have grown : (filledMarker platform resolve name budget).2.asked =
          budget.asked ++ [name] := by
        rw [filledMarker]
        split
        · rfl
        · split <;> rfl
      rw [grown, List.mem_append] at asked
      exact asked
    · exact filledEntries_asked resolve entries budget asked

theorem filledEntries_asked (resolve : Resolver) (entries : List (Text × Tree))
    (budget : Resolution) {sha : Text}
    (asked : sha ∈ (filledEntries platform resolve entries budget).2.asked) :
    sha ∈ budget.asked ∨ sha ∈ entryReferences entries := by
  cases entries with
  | nil => exact Or.inl asked
  | cons entry rest =>
    have first (here : sha ∈ (filled platform resolve entry.2 budget).2.asked) :
        sha ∈ budget.asked ∨ sha ∈ entryReferences (entry :: rest) :=
      (filled_asked resolve entry.2 budget here).imp_right (List.mem_append_left _)
    rw [filledEntries] at asked
    split at asked
    next left failed => exact first (by rw [failed]; exact asked)
    next value left done =>
      cases filledEntries_asked resolve rest left asked with
      | inl before => exact first (by rw [done]; exact before)
      | inr later => exact Or.inr (List.mem_append_right _ later)

theorem filledItems_asked (resolve : Resolver) (items : List Tree) (budget : Resolution)
    {sha : Text} (asked : sha ∈ (filledItems platform resolve items budget).2.asked) :
    sha ∈ budget.asked ∨ sha ∈ itemReferences items := by
  cases items with
  | nil => exact Or.inl asked
  | cons item rest =>
    have first (here : sha ∈ (filled platform resolve item budget).2.asked) :
        sha ∈ budget.asked ∨ sha ∈ itemReferences (item :: rest) :=
      (filled_asked resolve item budget here).imp_right (List.mem_append_left _)
    rw [filledItems] at asked
    split at asked
    next left failed => exact first (by rw [failed]; exact asked)
    next value left done =>
      cases filledItems_asked resolve rest left asked with
      | inl before => exact first (by rw [done]; exact before)
      | inr later => exact Or.inr (List.mem_append_right _ later)

end

mutual

variable {first second : Resolver}

theorem filled_congr (value : Tree)
    (agree : ∀ sha ∈ iterChunkReferences value, first sha = second sha) (budget : Resolution) :
    filled platform first value budget = filled platform second value budget := by
  cases value with
  | null => rfl
  | bool value => rfl
  | int value => rfl
  | float text => rfl
  | str text => rfl
  | list items => rw [filled, filled, filledItems_congr items agree]
  | dict entries =>
    rw [iterChunkReferences] at agree
    rw [filled, filled]
    split at agree
    next name marker =>
      have same := agree name List.mem_cons_self
      simp only [filledMarker, same]
    · simp only [filledEntries_congr entries agree]

theorem filledEntries_congr (entries : List (Text × Tree))
    (agree : ∀ sha ∈ entryReferences entries, first sha = second sha) (budget : Resolution) :
    filledEntries platform first entries budget = filledEntries platform second entries budget := by
  cases entries with
  | nil => rfl
  | cons entry rest =>
    obtain ⟨key, value⟩ := entry
    rw [entryReferences, List.forall_mem_append] at agree
    rw [filledEntries, filledEntries, filled_congr value agree.1]
    simp only [filledEntries_congr rest agree.2]

theorem filledItems_congr (items : List Tree)
    (agree : ∀ sha ∈ itemReferences items, first sha = second sha) (budget : Resolution) :
    filledItems platform first items budget = filledItems platform second items budget := by
  cases items with
  | nil => rfl
  | cons item rest =>
    rw [itemReferences, List.forall_mem_append] at agree
    rw [filledItems, filledItems, filled_congr item agree.1]
    simp only [filledItems_congr rest agree.2]

end

def Extends (first second : Resolver) : Prop :=
  ∀ sha chunk, first sha = some chunk → second sha = some chunk

variable {first second : Resolver}

theorem filledMarker_extends (grows : Extends first second) {sha : Text} {budget left : Resolution}
    {value : Tree} (done : filledMarker platform first sha budget = (some value, left)) :
    filledMarker platform second sha budget = (some value, left) := by
  unfold filledMarker at done ⊢
  cases found : first sha with
  | none =>
    simp only [found, Prod.mk.injEq] at done
    exact nomatch done.1
  | some chunk =>
    rw [grows sha chunk found]
    rw [found] at done
    exact done

mutual

theorem filled_extends (grows : Extends first second) (value : Tree) {budget left : Resolution}
    {whole : Tree} (done : filled platform first value budget = (some whole, left)) :
    filled platform second value budget = (some whole, left) := by
  cases value with
  | null => exact done
  | bool value => exact done
  | int value => exact done
  | float text => exact done
  | str text => exact done
  | list items =>
    rw [filled] at done ⊢
    cases read : filledItems platform first items budget with
    | mk result rest =>
      rw [read] at done
      cases result with
      | none => simp at done
      | some items' => rw [filledItems_extends grows items read]; exact done
  | dict entries =>
    rw [filled] at done ⊢
    split at done
    next name marker => exact filledMarker_extends grows done
    next unmarked =>
      cases read : filledEntries platform first entries budget with
      | mk result rest =>
        rw [read] at done
        cases result with
        | none => simp at done
        | some entries' =>
          simp only
          rw [filledEntries_extends grows entries read]
          exact done

theorem filledEntries_extends (grows : Extends first second) (entries : List (Text × Tree))
    {budget left : Resolution} {whole : List (Text × Tree)}
    (done : filledEntries platform first entries budget = (some whole, left)) :
    filledEntries platform second entries budget = (some whole, left) := by
  cases entries with
  | nil => exact done
  | cons entry rest =>
    obtain ⟨key, value⟩ := entry
    rw [filledEntries] at done ⊢
    split at done
    · simp at done
    next value' middle read =>
      rw [filled_extends grows value read]
      cases later : filledEntries platform first rest middle with
      | mk result behind =>
        rw [later] at done
        cases result with
        | none => simp at done
        | some rest' =>
          simp only
          rw [filledEntries_extends grows rest later]
          exact done

theorem filledItems_extends (grows : Extends first second) (items : List Tree)
    {budget left : Resolution} {whole : List Tree}
    (done : filledItems platform first items budget = (some whole, left)) :
    filledItems platform second items budget = (some whole, left) := by
  cases items with
  | nil => exact done
  | cons item rest =>
    rw [filledItems] at done ⊢
    split at done
    · simp at done
    next value' middle read =>
      rw [filled_extends grows item read]
      cases later : filledItems platform first rest middle with
      | mk result behind =>
        rw [later] at done
        cases result with
        | none => simp at done
        | some rest' =>
          simp only
          rw [filledItems_extends grows rest later]
          exact done

end

theorem reassemble_extends (grows : Extends first second) {payload : Tree} {refs : Bool}
    {maxBytes : Nat} {preimage : Text}
    (done : (reassembleRequestPreimage platform first payload refs maxBytes).1 = some preimage) :
    reassembleRequestPreimage platform second payload refs maxBytes =
      reassembleRequestPreimage platform first payload refs maxBytes := by
  unfold reassembleRequestPreimage at done ⊢
  cases refs with
  | false => rfl
  | true =>
    simp only [if_true] at done ⊢
    cases read : filled platform first payload ⟨maxBytes, []⟩ with
    | mk result left =>
      rw [read] at done
      cases result with
      | none => simp at done
      | some whole => rw [filled_extends grows payload read]

end Filling

end MonoidKernel.ModelPayloads
