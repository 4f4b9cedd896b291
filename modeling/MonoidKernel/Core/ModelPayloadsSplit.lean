import MonoidKernel.Core.ModelPayloadsFilled

set_option autoImplicit false

namespace MonoidKernel.ModelPayloads

open Library Library.CanonicalJson

section Liftable

def liftableTerm (name : Text) (value : Tree) : List Tree :=
  match value with
  | .list items => if name ∈ elementwiseTerms then items else [.list items]
  | value => [value]

def liftableTerms (terms : List (Text × Tree)) : List Tree :=
  terms.flatMap fun term => liftableTerm term.1 term.2

def liftable : Tree → List Tree
  | .dict [(_, .dict terms)] => liftableTerms terms
  | _ => []

def Large (value : Tree) : Prop := markerEncodedBytes ≤ byteSize (encode value)

instance (value : Tree) : Decidable (Large value) := inferInstanceAs (Decidable (_ ≤ _))

def largeOf (values : List Tree) : List Tree := values.filter fun value => Large value

variable (digest : Digest)

def chunkOf (value : Tree) : Text × Text := (digest.sha256Bytes (encode value), encode value)

def gathered (values : List Tree) (chunks : Chunks) : Chunks :=
  ((largeOf values).map (chunkOf digest)).foldl
    (fun chunks chunk => OrderedDict.put chunk.1 chunk.2 chunks) chunks

theorem gathered_append (first second : List Tree) (chunks : Chunks) :
    gathered digest (first ++ second) chunks =
      gathered digest second (gathered digest first chunks) := by
  simp [gathered, largeOf]

theorem lifted_chunks (value : Tree) (chunks : Chunks) :
    (lifted digest value chunks).2 = gathered digest [value] chunks := by
  unfold lifted gathered largeOf
  by_cases small : byteSize (encode value) < markerEncodedBytes
  · have not : ¬Large value := Nat.not_le.mpr small
    simp [small, not]
  · have large : Large value := Nat.not_lt.mp small
    simp [small, large, chunkOf]

theorem liftedItems_chunks (items : List Tree) (chunks : Chunks) :
    (liftedItems digest items chunks).2 = gathered digest items chunks := by
  induction items generalizing chunks with
  | nil => rfl
  | cons item rest ih =>
    rw [liftedItems]
    simp only
    rw [ih, lifted_chunks, ← gathered_append, List.singleton_append]

theorem extractedTerm_cases (name : Text) (value : Tree) :
    (∃ items, value = .list items ∧ liftableTerm name value = items ∧ ∀ chunks,
      extractedTerm digest name value chunks =
        (.list (liftedItems digest items chunks).1, (liftedItems digest items chunks).2)) ∨
      (liftableTerm name value = [value] ∧
        ∀ chunks, extractedTerm digest name value chunks = lifted digest value chunks) := by
  cases value with
  | list items =>
    by_cases elementwise : name ∈ elementwiseTerms
    · exact Or.inl ⟨items, rfl, if_pos elementwise, fun chunks => if_pos elementwise⟩
    · exact Or.inr ⟨if_neg elementwise, fun chunks => if_neg elementwise⟩
  | _ => exact Or.inr ⟨rfl, fun chunks => rfl⟩

theorem extractedTerm_chunks (name : Text) (value : Tree) (chunks : Chunks) :
    (extractedTerm digest name value chunks).2 =
      gathered digest (liftableTerm name value) chunks := by
  cases extractedTerm_cases digest name value with
  | inl elementwise =>
    obtain ⟨items, rfl, lift, term⟩ := elementwise
    rw [term, lift]
    exact liftedItems_chunks digest items chunks
  | inr whole => rw [whole.2, whole.1, lifted_chunks]

theorem extracted_chunks (terms : List (Text × Tree)) (chunks : Chunks) :
    (extracted digest terms chunks).2 = gathered digest (liftableTerms terms) chunks := by
  induction terms generalizing chunks with
  | nil => rfl
  | cons term rest ih =>
    obtain ⟨name, value⟩ := term
    rw [extracted]
    simp only
    rw [ih, extractedTerm_chunks, ← gathered_append]
    rfl

def Collides (values : List Tree) : Prop :=
  ∃ first ∈ largeOf values, ∃ second ∈ largeOf values, encode first ≠ encode second ∧
    digest.sha256Bytes (encode first) = digest.sha256Bytes (encode second)

theorem gathered_lookup {values : List Tree} (apart : ¬Collides digest values) {value : Tree}
    (member : value ∈ values) (large : Large value) :
    (gathered digest values []).lookup (digest.sha256Bytes (encode value)) =
      some (encode value) := by
  have among : value ∈ largeOf values := List.mem_filter.mpr ⟨member, decide_eq_true large⟩
  have found : chunkOf digest value ∈ (largeOf values).map (chunkOf digest) :=
    List.mem_map_of_mem among
  have agree (other : Text) (held : (digest.sha256Bytes (encode value), other) ∈
      (largeOf values).map (chunkOf digest)) : other = encode value := by
    obtain ⟨second, chosen, same⟩ := List.mem_map.mp held
    rw [chunkOf, Prod.mk.injEq] at same
    by_contra differ
    refine apart ⟨second, chosen, value, among, ?_, same.1⟩
    rw [same.2]
    exact differ
  convert OrderedDict.foldl_put_agreeing found agree []
  rfl

end Liftable

section Restoring

variable (platform : Platform)

def Restores (resolve : Resolver) (out value : Tree) (cost : Nat) : Prop :=
  ∀ budget : Resolution, cost ≤ budget.remaining → ∃ left,
    filled platform resolve out budget = (some value, left) ∧
      budget.remaining ≤ left.remaining + cost

def Serves (digest : Digest) (resolve : Resolver) (values : List Tree) : Prop :=
  ∀ value ∈ values, Large value →
    resolve (digest.sha256Bytes (encode value)) = some (encode value)

variable {platform} {digest : Digest} {resolve : Resolver}

variable {value : Tree}

theorem lifted_restores (canonical : Canonical platform value)
    (serves : Serves digest resolve [value]) (chunks : Chunks) :
    Restores platform resolve (lifted digest value chunks).1 value (byteSize (encode value)) := by
  intro budget enough
  unfold lifted
  by_cases small : byteSize (encode value) < markerEncodedBytes
  · have plain : iterChunkReferences value = [] := by
      rw [List.eq_nil_iff_forall_not_mem]
      intro sha named
      exact absurd small (Nat.not_lt.mpr (references_size value canonical named))
    simp only [small, if_true]
    exact ⟨budget, filled_plain resolve value plain budget, by omega⟩
  · have stored := serves value List.mem_cons_self (Nat.not_lt.mp small)
    have marker := markerSha_chunkMarker (digest.hex (encode value))
    rw [chunkMarker] at marker
    simp only [small, if_false, chunkMarker, filled, marker, filledMarker, stored, enough, if_true,
      decode_encode canonical]
    exact ⟨_, rfl, by simp only; omega⟩

theorem liftedItems_restores {items : List Tree} (canonical : CanonicalItems platform items)
    (serves : Serves digest resolve items) (chunks : Chunks) (budget : Resolution)
    (enough : (items.map fun item => byteSize (encode item)).sum ≤ budget.remaining) :
    ∃ left, filledItems platform resolve (liftedItems digest items chunks).1 budget =
        (some items, left) ∧
      budget.remaining ≤ left.remaining + (items.map fun item => byteSize (encode item)).sum := by
  induction items generalizing chunks budget with
  | nil => exact ⟨budget, rfl, by simp⟩
  | cons item rest ih =>
    rw [List.map_cons, List.sum_cons] at enough ⊢
    have here : Serves digest resolve [item] := fun value member =>
      serves value (by simpa using Or.inl (List.mem_singleton.mp member))
    have later : Serves digest resolve rest := fun value member =>
      serves value (List.mem_cons_of_mem item member)
    obtain ⟨middle, first, spent⟩ := lifted_restores canonical.1 here chunks budget (by omega)
    obtain ⟨left, others, total⟩ :=
      ih canonical.2 later (lifted digest item chunks).2 middle (by omega)
    refine ⟨left, ?_, by omega⟩
    rw [liftedItems]
    simp only
    rw [filledItems, first]
    simp only [others, Option.map_some]

theorem extractedTerm_restores {name : Text} (canonical : Canonical platform value)
    (serves : Serves digest resolve (liftableTerm name value)) (chunks : Chunks) :
    Restores platform resolve (extractedTerm digest name value chunks).1 value
      (byteSize (encode value)) := by
  cases extractedTerm_cases digest name value with
  | inl elementwise =>
    obtain ⟨items, rfl, lift, term⟩ := elementwise
    rw [lift] at serves
    intro budget enough
    have size := items_size items
    obtain ⟨left, done, spent⟩ :=
      liftedItems_restores canonical serves chunks budget (Nat.le_trans size enough)
    refine ⟨left, ?_, by omega⟩
    rw [term, filled, done]
    rfl
  | inr whole =>
    rw [whole.1] at serves
    rw [whole.2]
    exact lifted_restores canonical serves chunks

variable {terms : List (Text × Tree)}

theorem extracted_restores (canonical : CanonicalEntries platform terms)
    (serves : Serves digest resolve (liftableTerms terms)) (chunks : Chunks) (budget : Resolution)
    (enough : (terms.map fun term => byteSize (encode term.2)).sum ≤ budget.remaining) :
    ∃ left, filledEntries platform resolve (extracted digest terms chunks).1 budget =
        (some terms, left) ∧
      budget.remaining ≤ left.remaining + (terms.map fun term => byteSize (encode term.2)).sum := by
  induction terms generalizing chunks budget with
  | nil => exact ⟨budget, rfl, by simp⟩
  | cons term rest ih =>
    obtain ⟨name, value⟩ := term
    rw [List.map_cons, List.sum_cons] at enough ⊢
    have here : Serves digest resolve (liftableTerm name value) := fun other member =>
      serves other (List.mem_append_left _ member)
    have later : Serves digest resolve (liftableTerms rest) := fun other member =>
      serves other (List.mem_append_right _ member)
    obtain ⟨middle, first, spent⟩ := extractedTerm_restores canonical.1 here chunks budget (by
      simp only at enough
      omega)
    simp only at enough ⊢
    obtain ⟨left, others, total⟩ :=
      ih canonical.2 later (extractedTerm digest name value chunks).2 middle (by omega)
    refine ⟨left, ?_, by omega⟩
    rw [extracted]
    simp only
    rw [filledEntries, first]
    simp only [others, Option.map_some]

def requestOf (tag : Text) (terms : List (Text × Tree)) : Tree := .dict [(tag, .dict terms)]

theorem recipe_unmarked (member : value ∈ liftableTerms terms) (large : Large value) :
    markerSha (.dict (extracted digest terms []).1) = none := by
  cases marked : markerSha (.dict (extracted digest terms []).1) with
  | none => rfl
  | some sha =>
    obtain ⟨same, _⟩ := markerSha_eq marked
    rw [chunkMarker, Json.dict.injEq] at same
    cases terms with
    | nil => cases member
    | cons term rest =>
      obtain ⟨name, only⟩ := term
      rw [extracted] at same
      simp only [List.cons.injEq, Prod.mk.injEq] at same
      obtain ⟨⟨_, text⟩, behind⟩ := same
      cases rest with
      | cons next others => simp [extracted] at behind
      | nil =>
        rw [liftableTerms, List.flatMap_singleton] at member
        cases extractedTerm_cases digest name only with
        | inl elementwise =>
          obtain ⟨items, _, _, taken⟩ := elementwise
          rw [taken] at text
          cases text
        | inr whole =>
          rw [whole.1, List.mem_singleton] at member
          subst member
          rw [whole.2, lifted, if_neg (Nat.not_lt.mpr large)] at text
          cases text

theorem reassemble_extracted {tag : Text} (canonical : Canonical platform (requestOf tag terms))
    (serves : Serves digest resolve (liftableTerms terms)) (member : value ∈ liftableTerms terms)
    (large : Large value)
    (bounded : byteSize (encode (requestOf tag terms)) ≤ maxModelPayloadBytes) :
    (reassembleRequestPreimage platform resolve (requestOf tag (extracted digest terms []).1) true
      maxModelPayloadBytes).1 = some (encode (requestOf tag terms)) := by
  have outer : byteSize (encode (.dict terms)) ≤ byteSize (encode (requestOf tag terms)) := by
    have size := members_size canonical
    rw [List.map_singleton, List.sum_singleton] at size
    exact size
  have inner := members_size canonical.2.1
  obtain ⟨left, done, _⟩ := extracted_restores canonical.2.1.2 serves [] ⟨maxModelPayloadBytes, []⟩
    (by simp only; omega)
  have unmarked : markerSha (.dict (extracted digest terms []).1) = none :=
    recipe_unmarked member large
  have top : markerSha (requestOf tag (extracted digest terms []).1) = none := rfl
  have body : filled platform resolve (.dict (extracted digest terms []).1)
      ⟨maxModelPayloadBytes, []⟩ = (some (.dict terms), left) := by
    rw [filled, unmarked]
    simp only [done, Option.map_some]
  rw [reassembleRequestPreimage, if_pos rfl, requestOf, filled, ← requestOf, top]
  simp only [filledEntries, body, Option.map_some]
  rfl

end Restoring

section Splitting

variable {platform : Platform} {digest : Digest}

variable {value : Tree}

theorem chunkedPayload_large {tag : Text} {terms : List (Text × Tree)}
    (canonical : Canonical platform (requestOf tag terms))
    (apart : ¬Collides digest (liftableTerms terms)) (member : value ∈ liftableTerms terms)
    (large : Large value)
    (bounded : byteSize (encode (requestOf tag terms)) ≤ maxModelPayloadBytes) :
    chunkedPayload platform digest (requestOf tag terms) (encode (requestOf tag terms)) =
      some ⟨requestOf tag (extracted digest terms []).1,
        gathered digest (liftableTerms terms) [], true⟩ := by
  have chunks := extracted_chunks digest terms []
  have serves : Serves digest (fun sha => (gathered digest (liftableTerms terms) []).lookup sha)
      (liftableTerms terms) := fun other held size => gathered_lookup digest apart held size
  have some : gathered digest (liftableTerms terms) [] ≠ [] := by
    intro none
    have found := serves value member large
    rw [none] at found
    cases found
  have rebuilt := reassemble_extracted canonical serves member large bounded
  rw [requestOf, chunkedPayload]
  simp only [chunks]
  rw [← requestOf, ← requestOf, if_pos ⟨some, rebuilt⟩]

variable {split : SplitRequestPayload}

variable {preimage : Text}

theorem chunkedPayload_rebuilds
    (chunked : chunkedPayload platform digest value preimage = some split) :
    split.refs = true ∧ (reassembleRequestPreimage platform (fun sha => split.chunks.lookup sha)
      split.payload true maxModelPayloadBytes).1 = some preimage := by
  unfold chunkedPayload at chunked
  split at chunked
  · simp only at chunked
    split at chunked
    next rebuilt =>
      cases chunked
      exact ⟨rfl, rebuilt.2⟩
    · cases chunked
  · cases chunked

theorem splitRequestPayload_rebuilds {requestDigest : Text}
    (done : splitRequestPayload platform digest preimage requestDigest = some split) :
    (reassembleRequestPreimage platform (fun sha => split.chunks.lookup sha) split.payload
      split.refs maxModelPayloadBytes).1 = some preimage := by
  unfold splitRequestPayload at done
  split at done
  · cases done
  split at done
  · cases done
  split at done
  next chunked =>
    cases done
    obtain ⟨refs, rebuilt⟩ := chunkedPayload_rebuilds chunked
    rw [refs]
    exact rebuilt
  · simp only at done
    split at done
    next rebuilt =>
      cases done
      exact rebuilt
    · cases done

theorem splitRequestPayload_exists (digest : Digest) (canonical : Canonical platform value) :
    ∃ split, splitRequestPayload platform digest (encode value)
      (digest.sha256Bytes (encode value)) = some split := by
  rw [splitRequestPayload, if_neg (not_not.mpr rfl), decode_encode canonical]
  simp only
  split
  next split chunked => exact ⟨split, rfl⟩
  · exact ⟨⟨value, [], false⟩, if_pos rfl⟩

theorem splitRequestPayload_chunked (canonical : Canonical platform value)
    (chunked : chunkedPayload platform digest value (encode value) = some split) :
    splitRequestPayload platform digest (encode value) (digest.sha256Bytes (encode value)) =
      some split := by
  rw [splitRequestPayload, if_neg (not_not.mpr rfl), decode_encode canonical]
  simp only [chunked]

theorem splitRequestPayload_lifts (canonical : Canonical platform value)
    (bounded : byteSize (encode value) ≤ maxModelPayloadBytes)
    (apart : ¬Collides digest (liftable value))
    (done : splitRequestPayload platform digest (encode value)
      (digest.sha256Bytes (encode value)) = some split) {held : Tree}
    (member : held ∈ liftable value) (large : Large held) :
    split.refs = true ∧
      split.chunks.lookup (digest.sha256Bytes (encode held)) = some (encode held) := by
  unfold liftable at member apart
  split at member
  next tag terms =>
    have chunked := chunkedPayload_large canonical apart member large bounded
    rw [splitRequestPayload_chunked canonical chunked, Option.some.injEq] at done
    subst done
    exact ⟨rfl, gathered_lookup digest apart member large⟩
  · cases member

theorem splitRequestPayload_reassembles {requestDigest : Text}
    (done : splitRequestPayload platform digest preimage requestDigest = some split)
    {resolve : Resolver} (agrees : Extends (fun sha => split.chunks.lookup sha) resolve) :
    (reassembleRequestPreimage platform resolve split.payload split.refs
      maxModelPayloadBytes).1 = some preimage := by
  have rebuilt := splitRequestPayload_rebuilds done
  rw [reassemble_extends agrees rebuilt]
  exact rebuilt

end Splitting

end MonoidKernel.ModelPayloads
