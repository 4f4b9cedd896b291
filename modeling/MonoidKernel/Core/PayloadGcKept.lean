import MonoidKernel.Core.ModelPayloadsKept
import MonoidKernel.Core.ModelPayloadsSplit
import MonoidKernel.Core.PayloadGc

set_option autoImplicit false

namespace MonoidKernel.PayloadGc

open Library Library.CanonicalJson MonoidKernel.ModelPayloads

section Removing

variable {files : FileSystem} {minAge moment : Int} {apply : Bool}

theorem removed_deleted {approved : FileIdentity} {name : Text}
    (deleted : (removed files minAge moment approved name).deleted = true) :
    files.directoryNow name = some approved ∧ ∃ current, files.entryNow name = .ok current ∧
      current.regular = true ∧ minAge ≤ moment - current.mtime := by
  unfold removed at deleted
  split at deleted
  · cases deleted
  next same =>
    refine ⟨not_not.mp same, ?_⟩
    split at deleted
    · cases deleted
    next current found =>
      split at deleted
      · cases deleted
      next unchanged =>
        rw [not_or, Bool.not_eq_false] at unchanged
        exact ⟨current, found, unchanged.1, by omega⟩

-- An entry is removed only as an orphan or a temporary, of age both at the scan and now.
structure RemovedAs (files : FileSystem) (minAge moment : Int) (apply : Bool) (keep : List Text)
    (corpusOk : Bool) (approved : FileIdentity) (scanned : Text × Option FileStat) : Prop where
  applied : apply = true
  provable : approved.inode ≠ 0
  litter : classification scanned.1 scanned.2 keep corpusOk = .orphan ∨
    classification scanned.1 scanned.2 keep corpusOk = .temp
  aged : minAge ≤ (scanned.2.map fun metadata => moment - metadata.mtime).getD 0
  sameDirectory : files.directoryNow scanned.1 = some approved
  agedNow : ∃ current, files.entryNow scanned.1 = .ok current ∧ current.regular = true ∧
    minAge ≤ moment - current.mtime

theorem judged_deleted {keep : List Text} {corpusOk : Bool} {approved : FileIdentity}
    {scanned : Text × Option FileStat}
    (deleted : (judged files minAge moment apply keep corpusOk approved scanned).entry.deleted =
      true) : RemovedAs files minAge moment apply keep corpusOk approved scanned := by
  unfold judged at deleted
  simp only at deleted
  split at deleted
  next candidate =>
    split at deleted
    next applied =>
      obtain ⟨sameDirectory, agedNow⟩ := removed_deleted deleted
      exact ⟨applied, candidate.1, candidate.2.1, candidate.2.2, sameDirectory, agedNow⟩
    · cases deleted
  · cases deleted

theorem judged_name (keep : List Text) (corpusOk : Bool) (approved : FileIdentity)
    (scanned : Text × Option FileStat) :
    (judged files minAge moment apply keep corpusOk approved scanned).entry.name = scanned.1 := by
  unfold judged
  simp only
  split
  · split <;> rfl
  · rfl

theorem litter_unkept {name : Text} {metadata : Option FileStat} {keep : List Text}
    {corpusOk : Bool} (litter : classification name metadata keep corpusOk = .orphan ∨
      classification name metadata keep corpusOk = .temp) (shaped : isChunkSha256 name = true) :
    corpusOk = true ∧ name ∉ keep := by
  unfold classification at litter
  rw [if_pos shaped] at litter
  split at litter
  · simp at litter
  split at litter
  next readable =>
    split at litter
    · simp at litter
    next unkept => exact ⟨readable, unkept⟩
  · simp at litter

end Removing

section Passes

variable {runDir : Text} {minAge : Option Int} {apply : Bool} {moment : Int} {corpus : CorpusRead}
  {files : FileSystem} {report : PayloadGcReport}

theorem collect_removed
    (pass : collectPayloadGarbage runDir minAge apply moment corpus files = .ok report)
    {name : Text} (removedName : name ∈ report.removedNames) :
    ∃ gate approved metadata, minAge = some gate ∧ 0 ≤ gate ∧
      RemovedAs files gate moment apply (if corpus.isOk then corpusKeepSet corpus.records else [])
        corpus.isOk approved (name, metadata) := by
  unfold collectPayloadGarbage at pass
  cases minAge with
  | none => cases pass
  | some gate =>
    simp only at pass
    split at pass
    · cases pass
    next finite =>
      split at pass
      · cases pass
        cases removedName
      · cases pass
        cases removedName
      next directory found =>
        split at pass
        · cases pass
          cases removedName
        split at pass
        · cases pass
          cases removedName
        · cases pass
          cases removedName
        next listing listed =>
          cases pass
          obtain ⟨entry, chosen, rfl⟩ := List.mem_map.mp removedName
          obtain ⟨judged, deleted⟩ := List.mem_filter.mp chosen
          rw [List.map_map] at judged
          obtain ⟨⟨scannedName, metadata⟩, _, rfl⟩ := List.mem_map.mp judged
          refine ⟨gate, directory.identity, metadata, rfl, by omega, ?_⟩
          rw [Function.comp, judged_name]
          exact judged_deleted deleted

def CorpusRead.Reads (corpus : CorpusRead) (records : List Record) : Prop :=
  corpus.isOk = true → corpus.records = records

theorem collect_keeps
    (pass : collectPayloadGarbage runDir minAge apply moment corpus files = .ok report)
    {records : List Record} (reads : corpus.Reads records) {sha : Text}
    (shaped : isChunkSha256 sha = true) (kept : sha ∈ corpusKeepSet records) :
    sha ∉ report.removedNames := by
  intro removedName
  obtain ⟨gate, approved, metadata, _, _, removal⟩ := collect_removed pass removedName
  obtain ⟨readable, unkept⟩ := litter_unkept removal.litter shaped
  rw [if_pos readable, reads readable] at unkept
  exact unkept kept

theorem collect_resolves (digest : Digest)
    (pass : collectPayloadGarbage runDir minAge apply moment corpus files = .ok report)
    {records : List Record} (reads : corpus.Reads records) (stored : Text → Option Text)
    {sha : Text} (kept : sha ∈ corpusKeepSet records) :
    resolveRecorded digest records (report.swept stored) sha =
      resolveRecorded digest records stored sha := by
  unfold resolveRecorded
  split
  · rfl
  split
  next shaped => rw [PayloadGcReport.swept, if_neg (collect_keeps pass reads shaped kept)]
  · rfl

-- What a split gives for a preimage: with a large liftable value it has references, with the chunk
-- of every such value, unless two of the values collide; and every resolver that agrees with its
-- chunks gives the preimage back.
structure Recipe (platform : Platform) (digest : Digest) (value : Tree)
    (split : SplitRequestPayload) : Prop where
  lifts : ∀ held ∈ liftable value, Large held → Collides digest (liftable value) ∨
    (split.refs = true ∧
      split.chunks.lookup (digest.sha256Bytes (encode held)) = some (encode held))
  reassembles : ∀ resolve, Extends (fun sha => split.chunks.lookup sha) resolve →
    (reassembleRequestPreimage platform resolve split.payload split.refs maxModelPayloadBytes).1 =
      some (encode value)

-- What a pass leaves for the lines of a corpus: no name that a reader of a line asks for is
-- removed, and every reader gets what it got before.
structure Leaves (platform : Platform) (digest : Digest) (records : List Record)
    (report : PayloadGcReport) : Prop where
  asked : ∀ record ∈ records, ∀ resolve, ∀ sha ∈ (readLine platform resolve record).2,
    sha ∉ report.removedNames
  reads : ∀ record ∈ records, ∀ stored,
    readLine platform (resolveRecorded digest records (report.swept stored)) record =
      readLine platform (resolveRecorded digest records stored) record

theorem payload_split_and_sweep (platform : Platform) (digest : Digest) :
    (∀ value, Canonical platform value → byteSize (encode value) ≤ maxModelPayloadBytes →
      ∃ split, splitRequestPayload platform digest (encode value)
          (digest.sha256Bytes (encode value)) = some split ∧
        Recipe platform digest value split) ∧
    (∀ records : List Record, ∀ record ∈ records, ∀ resolve,
      ∀ sha ∈ (readLine platform resolve record).2, sha ∈ corpusKeepSet records) ∧
    ∀ runDir minAge apply moment corpus files report,
      collectPayloadGarbage runDir minAge apply moment corpus files = .ok report →
      ∀ records, corpus.Reads records → Leaves platform digest records report := by
  refine ⟨?_, ?_, ?_⟩
  · intro value canonical bounded
    obtain ⟨split, done⟩ := splitRequestPayload_exists digest canonical
    refine ⟨split, done, ?_, ?_⟩
    · intro held member large
      by_cases collide : Collides digest (liftable value)
      · exact Or.inl collide
      · exact Or.inr (splitRequestPayload_lifts canonical bounded collide done member large)
    · exact fun resolve agrees => splitRequestPayload_reassembles done agrees
  · intro records record member resolve sha asked
    exact kept_references member (readLine_asked resolve record asked)
  · intro runDir minAge apply moment corpus files report pass records reads
    constructor
    · intro record member resolve sha asked
      have named := readLine_asked resolve record asked
      exact collect_keeps pass reads (references_shaped _ named) (kept_references member named)
    · intro record member stored
      exact readLine_congr record fun sha named =>
        collect_resolves digest pass reads stored (kept_references member named)

def lookalike : Tree := chunkMarker (List.replicate 64 'a')

def lookalikeRequest : Tree :=
  requestOf "monoid.model-request-digest.v1".toList [("instruction".toList, lookalike)]

def lookalikeSha : Text :=
  "96e4933302367e9c0c46c453481439ba4186f0885a8a84720b459ccff8eddc4a".toList

def requestSha : Text :=
  "3386e93b874fbe6e34fa1f98445cd036a5285fbad4302ac403d17d8866a0f829".toList

def lookalikeDigest : Digest where
  sha256Bytes data :=
    if data = encode lookalike then lookalikeSha
    else if data = encode lookalikeRequest then requestSha
    else List.replicate 64 '0'
  hex data := by
    split
    · decide
    split <;> decide

def wholeNumbers : Platform := ⟨4300, fun _ => none⟩

def lookalikeLine : Record :=
  [("kind".toList, .str modelRequestKind),
    ("payload".toList, requestOf "monoid.model-request-digest.v1".toList
      [("instruction".toList, chunkMarker lookalikeSha)]),
    ("refs".toList, .bool true)]

def lookalikeFiles : FileSystem where
  chunkDir := .found ⟨true, ⟨1, 2⟩⟩
  listing := .found [(requestSha, some ⟨true, 94, 0, 1⟩), (lookalikeSha, some ⟨true, 94, 0, 1⟩)]
  directoryNow _ := some ⟨1, 2⟩
  entryNow _ := .ok ⟨true, 94, 0, 1⟩
  unlink _ := .ok ()

theorem payload_split_and_sweep_lookalike :
    (∃ split, splitRequestPayload wholeNumbers lookalikeDigest (encode lookalikeRequest)
        (lookalikeDigest.sha256Bytes (encode lookalikeRequest)) = some split ∧
      split.refs = true ∧
      split.chunks.lookup (lookalikeDigest.sha256Bytes (encode lookalike)) =
        some (encode lookalike) ∧
      (reassembleRequestPreimage wholeNumbers (fun sha => split.chunks.lookup sha) split.payload
        split.refs maxModelPayloadBytes).1 = some (encode lookalikeRequest)) ∧
    lookalikeSha ∈ corpusKeepSet [lookalikeLine] ∧
    ∃ report, collectPayloadGarbage [] (some 10) true 20 (.ok [lookalikeLine] []) lookalikeFiles =
        .ok report ∧
      report.removedNames = [requestSha] ∧
      Leaves wholeNumbers lookalikeDigest [lookalikeLine] report := by
  obtain ⟨splits, keeps, sweeps⟩ := payload_split_and_sweep wholeNumbers lookalikeDigest
  refine ⟨?_, ?_, ?_⟩
  · have canonical : Canonical wholeNumbers lookalikeRequest := by
      simp [lookalikeRequest, requestOf, lookalike, chunkMarker, Canonical, CanonicalEntries]
    obtain ⟨split, done, recipe⟩ := splits lookalikeRequest canonical (by decide +kernel)
    have large : Large lookalike := by
      rw [Large, lookalike, marker_size (by decide)]
    have one : largeOf (liftable lookalikeRequest) = [lookalike] := by
      have only : liftable lookalikeRequest = [lookalike] := rfl
      simp [only, largeOf, large]
    have apart : ¬Collides lookalikeDigest (liftable lookalikeRequest) := by
      rintro ⟨first, here, second, there, differ, _⟩
      rw [one, List.mem_singleton] at here there
      rw [here, there] at differ
      exact differ rfl
    obtain ⟨refs, stored⟩ :=
      (recipe.lifts lookalike List.mem_cons_self large).resolve_left apart
    exact ⟨split, done, refs, stored, recipe.reassembles _ fun _ _ found => found⟩
  · refine keeps [lookalikeLine] lookalikeLine List.mem_cons_self (fun _ => none) lookalikeSha ?_
    decide +kernel
  · refine ⟨_, rfl, ?_, ?_⟩
    · decide +kernel
    · exact sweeps [] (some 10) true 20 (.ok [lookalikeLine] []) lookalikeFiles _ rfl
        [lookalikeLine] fun _ => rfl

end Passes

end MonoidKernel.PayloadGc
