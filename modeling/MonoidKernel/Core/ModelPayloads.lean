import MonoidKernel.Library.CanonicalJson

set_option autoImplicit false

-- Translated from core/model_payloads.py.
namespace MonoidKernel.ModelPayloads

open Library Library.CanonicalJson

def payloadChunkRefKey : Text := "monoid.payload-chunk.v1".toList

def payloadChunkKind : Text := "chunk".toList

def modelRequestKind : Text := "model_request".toList

def modelResponseKind : Text := "model_response".toList

def maxModelPayloadBytes : Nat := 8000000

abbrev Record := List (Text × Tree)

section References

def isHexDigit (character : Char) : Bool :=
  ('0' ≤ character && character ≤ '9') || ('a' ≤ character && character ≤ 'f')

def isChunkSha256 (name : Text) : Bool := name.length == 64 && name.all isHexDigit

def chunkMarker (sha256 : Text) : Tree := .dict [(payloadChunkRefKey, .str sha256)]

def markerSha : Tree → Option Text
  | .dict [(key, .str sha256)] =>
    if key = payloadChunkRefKey ∧ isChunkSha256 sha256 then some sha256 else none
  | _ => none

inductive ResponseShape where
  | inline
  | reference (sha256 : Text)
  | malformed
deriving DecidableEq

def responseReference : Tree → ResponseShape
  | .dict [(key, value)] =>
    if key = payloadChunkRefKey then
      match value with
      | .str sha256 => if isChunkSha256 sha256 then .reference sha256 else .malformed
      | _ => .malformed
    else .inline
  | _ => .inline

mutual

def iterChunkReferences : Tree → List Text
  | .dict entries =>
    match markerSha (.dict entries) with
    | some sha256 => [sha256]
    | none => entryReferences entries
  | .list items => itemReferences items
  | _ => []

def entryReferences : List (Text × Tree) → List Text
  | [] => []
  | (_, value) :: rest => iterChunkReferences value ++ entryReferences rest

def itemReferences : List Tree → List Text
  | [] => []
  | item :: rest => iterChunkReferences item ++ itemReferences rest

end

def textField (name : String) (record : Record) : Option Text :=
  match record.lookup name.toList with
  | some (.str text) => some text
  | _ => none

def field (name : String) (record : Record) : Tree := (record.lookup name.toList).getD .null

def ownChunk (record : Record) : List Text :=
  if textField "kind" record = some payloadChunkKind then
    match textField "sha256" record with
    | some sha256 => if isChunkSha256 sha256 then [sha256] else []
    | none => []
  else []

def corpusKeepSet (records : List Record) : List Text :=
  records.flatMap fun record => iterChunkReferences (.dict record) ++ ownChunk record

end References

section Reassembly

abbrev Resolver := Text → Option Text

-- `_ResolutionBudget`, with every name that the resolver was asked for.
structure Resolution where
  remaining : Nat
  asked : List Text

variable (platform : Platform) (resolveChunk : Resolver)

def filledMarker (sha256 : Text) (budget : Resolution) : Option Tree × Resolution :=
  let asked := { budget with asked := budget.asked ++ [sha256] }
  match resolveChunk sha256 with
  | none => (none, asked)
  | some chunk =>
    if byteSize chunk ≤ budget.remaining then
      (decode platform chunk, { asked with remaining := budget.remaining - byteSize chunk })
    else (none, asked)

mutual

-- `_filled`; `none` where it raises.
def filled : Tree → Resolution → Option Tree × Resolution
  | .dict entries, budget =>
    match markerSha (.dict entries) with
    | some sha256 => filledMarker platform resolveChunk sha256 budget
    | none =>
      match filledEntries entries budget with
      | (entries, budget) => (entries.map .dict, budget)
  | .list items, budget =>
    match filledItems items budget with
    | (items, budget) => (items.map .list, budget)
  | value, budget => (some value, budget)

def filledEntries : List (Text × Tree) → Resolution → Option (List (Text × Tree)) × Resolution
  | [], budget => (some [], budget)
  | (key, value) :: rest, budget =>
    match filled value budget with
    | (none, budget) => (none, budget)
    | (some value, budget) =>
      match filledEntries rest budget with
      | (rest, budget) => (rest.map ((key, value) :: ·), budget)

def filledItems : List Tree → Resolution → Option (List Tree) × Resolution
  | [], budget => (some [], budget)
  | item :: rest, budget =>
    match filled item budget with
    | (none, budget) => (none, budget)
    | (some item, budget) =>
      match filledItems rest budget with
      | (rest, budget) => (rest.map (item :: ·), budget)

end

def reassembleRequestPreimage (payload : Tree) (refs : Bool) (maxBytes : Nat) :
    Option Text × Resolution :=
  if refs then
    match filled platform resolveChunk payload ⟨maxBytes, []⟩ with
    | (value, budget) => (value.map encode, budget)
  else (some (encode payload), ⟨maxBytes, []⟩)

-- What one line makes a reader ask for and what the reader gets: the preimage of a request, or the
-- body that a response refers to. A line of another shape is passed over.
def readLine (record : Record) : Option Text × List Text :=
  if textField "kind" record = some modelRequestKind then
    match record.lookup "refs".toList with
    | some (.bool refs) =>
      match reassembleRequestPreimage platform resolveChunk (field "payload" record) refs
        maxModelPayloadBytes with
      | (preimage, budget) => (preimage, budget.asked)
    | _ => (none, [])
  else if textField "kind" record = some modelResponseKind then
    match responseReference (field "response" record) with
    | .reference sha256 => (resolveChunk sha256, [sha256])
    | _ => (none, [])
  else (none, [])

end Reassembly

section Splitting

structure Digest where
  sha256Bytes : Text → Text
  hex : ∀ data, isChunkSha256 (sha256Bytes data) = true

def markerEncodedBytes : Nat := byteSize (encode (chunkMarker (List.replicate 64 '0')))

def elementwiseTerms : List Text := ["tools".toList, "messages".toList, "observations".toList]

structure SplitRequestPayload where
  payload : Tree
  chunks : List (Text × Text)
  refs : Bool

variable (platform : Platform) (digest : Digest)

abbrev Chunks := List (Text × Text)

def lifted (value : Tree) (chunks : Chunks) : Tree × Chunks :=
  let encoded := encode value
  if byteSize encoded < markerEncodedBytes then (value, chunks)
  else
    let sha := digest.sha256Bytes encoded
    (chunkMarker sha, OrderedDict.put sha encoded chunks)

def liftedItems : List Tree → Chunks → List Tree × Chunks
  | [], chunks => ([], chunks)
  | item :: rest, chunks =>
    match lifted digest item chunks with
    | (item, chunks) =>
      match liftedItems rest chunks with
      | (rest, chunks) => (item :: rest, chunks)

def extractedTerm (name : Text) (value : Tree) (chunks : Chunks) : Tree × Chunks :=
  match value with
  | .list items =>
    if name ∈ elementwiseTerms then
      match liftedItems digest items chunks with
      | (items, chunks) => (.list items, chunks)
    else lifted digest (.list items) chunks
  | value => lifted digest value chunks

def extracted : List (Text × Tree) → Chunks → List (Text × Tree) × Chunks
  | [], chunks => ([], chunks)
  | (name, value) :: rest, chunks =>
    match extractedTerm digest name value chunks with
    | (value, chunks) =>
      match extracted rest chunks with
      | (rest, chunks) => ((name, value) :: rest, chunks)

def chunkedPayload (value : Tree) (preimage : Text) : Option SplitRequestPayload :=
  match value with
  | .dict [(tag, .dict terms)] =>
    match extracted digest terms [] with
    | (recipeTerms, chunks) =>
      let recipe := Json.dict [(tag, .dict recipeTerms)]
      let rebuilt := reassembleRequestPreimage platform (fun sha => chunks.lookup sha) recipe true
        maxModelPayloadBytes
      if chunks ≠ [] ∧ rebuilt.1 = some preimage then some ⟨recipe, chunks, true⟩ else none
  | _ => none

def splitRequestPayload (preimage requestDigest : Text) : Option SplitRequestPayload :=
  if digest.sha256Bytes preimage ≠ requestDigest then none
  else
    match decode platform preimage with
    | none => none
    | some value =>
      match chunkedPayload platform digest value preimage with
      | some split => some split
      | none =>
        let rebuilt := reassembleRequestPreimage platform (fun _ => none) value false
          maxModelPayloadBytes
        if rebuilt.1 = some preimage then some ⟨value, [], false⟩ else none

def inlineChunks (records : List Record) : Chunks :=
  records.foldl (fun chunks record =>
    if textField "kind" record = some payloadChunkKind then
      match textField "text" record, textField "sha256" record with
      | some text, some sha =>
        if digest.sha256Bytes text = sha then OrderedDict.put sha text chunks else chunks
      | _, _ => chunks
    else chunks) []

-- The chunk that a reader of a run directory gets: an inline body first, else a file of that name
-- whose content has it as its digest.
def resolveRecorded (records : List Record) (stored : Text → Option Text) : Resolver := fun sha =>
  match (inlineChunks digest records).lookup sha with
  | some data => some data
  | none =>
    if isChunkSha256 sha then
      (stored sha).filter fun data => decide (digest.sha256Bytes data = sha)
    else none

end Splitting

end MonoidKernel.ModelPayloads
