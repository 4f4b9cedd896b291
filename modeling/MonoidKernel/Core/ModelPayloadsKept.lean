import MonoidKernel.Core.ModelPayloadsFilled

set_option autoImplicit false

namespace MonoidKernel.ModelPayloads

open Library Library.CanonicalJson

variable {platform : Platform}

mutual

theorem references_shaped (value : Tree) {sha : Text} (named : sha ∈ iterChunkReferences value) :
    isChunkSha256 sha = true := by
  cases value with
  | null => cases named
  | bool value => cases named
  | int value => cases named
  | float text => cases named
  | str text => cases named
  | list items => exact itemReferences_shaped items named
  | dict entries =>
    rw [iterChunkReferences] at named
    split at named
    next name marker =>
      rw [List.mem_singleton.mp named]
      exact (markerSha_eq marker).2
    · exact entryReferences_shaped entries named

theorem entryReferences_shaped (entries : List (Text × Tree)) {sha : Text}
    (named : sha ∈ entryReferences entries) : isChunkSha256 sha = true := by
  cases entries with
  | nil => cases named
  | cons entry rest =>
    rw [entryReferences, List.mem_append] at named
    cases named with
    | inl here => exact references_shaped entry.2 here
    | inr later => exact entryReferences_shaped rest later

theorem itemReferences_shaped (items : List Tree) {sha : Text}
    (named : sha ∈ itemReferences items) : isChunkSha256 sha = true := by
  cases items with
  | nil => cases named
  | cons item rest =>
    rw [itemReferences, List.mem_append] at named
    cases named with
    | inl here => exact references_shaped item here
    | inr later => exact itemReferences_shaped rest later

end

variable {record : Record}

theorem record_references {kind : Text} (has : textField "kind" record = some kind) :
    iterChunkReferences (.dict record) = entryReferences record := by
  rw [iterChunkReferences]
  cases marked : markerSha (.dict record) with
  | none => rfl
  | some sha =>
    obtain ⟨same, _⟩ := markerSha_eq marked
    rw [chunkMarker, Json.dict.injEq] at same
    rw [same] at has
    cases has

variable {sha : Text}

theorem field_references {name : String} (named : sha ∈ iterChunkReferences (field name record)) :
    sha ∈ entryReferences record := by
  unfold field at named
  cases found : record.lookup name.toList with
  | none =>
    rw [found] at named
    cases named
  | some value =>
    rw [found] at named
    obtain ⟨before, after, same, _⟩ := List.lookup_eq_some_iff.mp found
    rw [entryReferences_eq, List.mem_flatMap, same]
    exact ⟨_, List.mem_append_right _ List.mem_cons_self, named⟩

theorem responseReference_references {value : Tree}
    (reference : responseReference value = .reference sha) : iterChunkReferences value = [sha] := by
  unfold responseReference at reference
  split at reference
  next key value =>
    split at reference
    next same =>
      split at reference
      next name =>
        split at reference
        next shaped =>
          cases reference
          rw [same, iterChunkReferences, ← chunkMarker, markerSha_chunkMarker shaped]
        · cases reference
      · cases reference
    · cases reference
  · cases reference

theorem readLine_asked (resolve : Resolver) (record : Record)
    (asked : sha ∈ (readLine platform resolve record).2) :
    sha ∈ iterChunkReferences (.dict record) := by
  unfold readLine at asked
  split at asked
  next kind =>
    rw [record_references kind]
    split at asked
    next refs _ =>
      apply field_references
      cases refs with
      | false => cases asked
      | true =>
        rw [reassembleRequestPreimage, if_pos rfl] at asked
        exact (filled_asked resolve _ _ asked).resolve_left List.not_mem_nil
    · cases asked
  split at asked
  next kind =>
    rw [record_references kind]
    split at asked
    next name reference =>
      apply field_references
      rw [responseReference_references reference]
      exact asked
    · cases asked
  · cases asked

theorem readLine_congr {first second : Resolver} (record : Record)
    (agree : ∀ sha ∈ iterChunkReferences (.dict record), first sha = second sha) :
    readLine platform first record = readLine platform second record := by
  unfold readLine
  split
  next kind =>
    rw [record_references kind] at agree
    have same (budget : Resolution) :
        filled platform first (field "payload" record) budget =
          filled platform second (field "payload" record) budget :=
      filled_congr _ (fun sha named => agree sha (field_references named)) budget
    simp only [reassembleRequestPreimage, same]
  split
  next kind =>
    rw [record_references kind] at agree
    split
    next name reference =>
      have named : name ∈ iterChunkReferences (field "response" record) := by
        rw [responseReference_references reference]
        exact List.mem_cons_self
      rw [agree name (field_references named)]
    · rfl
  · rfl

theorem kept_references {records : List Record} (member : record ∈ records)
    (named : sha ∈ iterChunkReferences (.dict record)) :
    sha ∈ corpusKeepSet records :=
  List.mem_flatMap.mpr ⟨record, member, List.mem_append_left _ named⟩

end MonoidKernel.ModelPayloads
