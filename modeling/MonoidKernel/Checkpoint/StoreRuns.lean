import Mathlib.Data.List.Induction
import MonoidKernel.Checkpoint.Store

set_option autoImplicit false

namespace MonoidKernel.CheckpointStore

open Library CheckpointCodec

variable {F Facts Digest B : Type}

section Journal

def pointers (journal : List (Placed F Facts Digest B)) : List Nat :=
  journal.filterMap fun
    | .pointer seq => some seq
    | _ => none

def manifestsOf (journal : List (Placed F Facts Digest B)) (seq : Nat) :
    List (Put F Facts Digest B × CheckpointPayload F Facts Digest) :=
  journal.filterMap fun
    | .manifest put other payload => if other = seq then some (put, payload) else none
    | _ => none

def lastManifest (journal : List (Placed F Facts Digest B)) (seq : Nat) :
    Option (Put F Facts Digest B × CheckpointPayload F Facts Digest) :=
  (manifestsOf journal seq).getLast?

variable (journal : List (Placed F Facts Digest B))

@[simp] theorem pointers_pointer (seq : Nat) :
    pointers (journal ++ [.pointer seq]) = pointers journal ++ [seq] := by
  simp [pointers]

variable (put : Put F Facts Digest B)

@[simp] theorem pointers_blob (sha256 : String) (data : B) :
    pointers (journal ++ [.blob put sha256 data]) = pointers journal := by
  simp [pointers]

@[simp] theorem pointers_manifest (seq : Nat) (payload : CheckpointPayload F Facts Digest) :
    pointers (journal ++ [.manifest put seq payload]) = pointers journal := by
  simp [pointers]

@[simp] theorem lastManifest_pointer (seq other : Nat) :
    lastManifest (journal ++ [.pointer seq]) other = lastManifest journal other := by
  simp [lastManifest, manifestsOf]

@[simp] theorem lastManifest_blob (sha256 : String) (data : B) (seq : Nat) :
    lastManifest (journal ++ [.blob put sha256 data]) seq = lastManifest journal seq := by
  simp [lastManifest, manifestsOf]

@[simp] theorem lastManifest_manifest (seq other : Nat)
    (payload : CheckpointPayload F Facts Digest) :
    lastManifest (journal ++ [.manifest put seq payload]) other =
      if seq = other then some (put, payload) else lastManifest journal other := by
  by_cases same : seq = other <;> simp [lastManifest, manifestsOf, same]

theorem mem_of_lastManifest {journal : List (Placed F Facts Digest B)} {seq : Nat}
    {put : Put F Facts Digest B} {payload : CheckpointPayload F Facts Digest}
    (last : lastManifest journal seq = some (put, payload)) :
    Placed.manifest put seq payload ∈ journal := by
  obtain ⟨entry, listed, found⟩ := List.mem_filterMap.mp (List.mem_of_getLast? last)
  cases entry with
  | manifest other number text =>
    dsimp only at found
    split at found
    next same => cases found; rw [← same]; exact listed
    · cases found
  | blob _ _ _ => cases found
  | pointer _ => cases found

end Journal

section Presence

def Present (files : Files F Facts Digest B) (blobs : List (String × B)) : Prop :=
  ∀ blob ∈ blobs, (files.blob blob.1).isSome = true

variable {files : Files F Facts Digest B}

theorem Present.aside {other : Files F Facts Digest B} {blobs : List (String × B)}
    (present : Present files blobs) (blob : other.blob = files.blob) : Present other blobs := by
  intro item listed
  rw [blob]
  exact present item listed

theorem Present.placed {blobs : List (String × B)} (present : Present files blobs) {sha256 : String}
    {content : Option (Content B)} (placed : content.isSome = true) {other : Files F Facts Digest B}
    (blob : other.blob = Function.update files.blob sha256 content) : Present other blobs := by
  intro item listed
  rw [blob]
  by_cases same : item.1 = sha256
  · rw [same, Function.update_self]; exact placed
  · rw [Function.update_of_ne same]; exact present item listed

theorem Present.append {done rest : List (String × B)} (first : Present files done)
    (second : Present files rest) : Present files (done ++ rest) := by
  intro item listed
  rcases List.mem_append.mp listed with found | found
  · exact first item found
  · exact second item found

theorem le_last_of_rising {numbers : List Nat} (rising : numbers.Pairwise (· < ·)) {last : Nat}
    (found : numbers.getLast? = some last) : ∀ other ∈ numbers, other ≤ last := by
  obtain ⟨before, rfl⟩ := List.getLast?_eq_some_iff.mp found
  intro other listed
  rcases List.mem_append.mp listed with early | final
  · exact Nat.le_of_lt ((List.pairwise_append.mp rising).2.2 other early last (by simp))
  · exact Nat.le_of_eq (List.mem_singleton.mp final)

end Presence

section Invariant

variable [DecidableEq Digest] (platform : StorePlatform F Facts Digest) (runId : String)

structure Writes (put : Put F Facts Digest B) (seq : Nat)
    (payload : CheckpointPayload F Facts Digest) : Prop where
  runId : textOf (put.checkpoint.field .runId) = some runId
  seq : nonnegativeOf (put.checkpoint.field .seq) = some seq
  text : manifestText platform put.checkpoint = some payload

def PhaseKept (state : StoreState F Facts Digest B) (put : Put F Facts Digest B) :
    Phase F Facts Digest B → Prop
  | .collectTmp => True
  | .blobs rest => ∃ done, put.blobs = done ++ rest ∧ Present state.files done
  | .replaceBlob sha256 data rest =>
    ∃ done, put.blobs = done ++ (sha256, data) :: rest ∧ Present state.files done ∧
      state.files.blobTmp sha256 = some (.whole data)
  | .manifest => Present state.files put.blobs
  | .replaceManifest seq payload =>
    Present state.files put.blobs ∧ Writes platform runId put seq payload ∧
      state.files.manifestTmp seq = some (.whole payload)
  | .pointer seq => (lastManifest state.journal seq).isSome = true
  | .replacePointer seq =>
    (lastManifest state.journal seq).isSome = true ∧
      state.files.latestTmp = some (.whole seq) ∧ ∀ other ∈ pointers state.journal, other < seq

def ActiveKept (state : StoreState F Facts Digest B) : Prop :=
  ∀ put phase, state.active = some (put, phase) →
    textOf (put.checkpoint.field .runId) = some runId ∧
      PhaseKept platform runId state put phase

structure FilesKept (files : Files F Facts Digest B) (journal : List (Placed F Facts Digest B)) :
    Prop where
  latest : files.latest = (pointers journal).getLast?.map .whole
  rising : (pointers journal).Pairwise (· < ·)
  manifest : ∀ seq, files.manifest seq = (lastManifest journal seq).map fun entry => .whole entry.2
  named : ∀ seq ∈ pointers journal, (lastManifest journal seq).isSome = true
  writes : ∀ put seq payload, Placed.manifest put seq payload ∈ journal →
    Writes platform runId put seq payload ∧ Present files put.blobs
  blob : ∀ sha256 content, files.blob sha256 = some content →
    ∃ put data, content = .whole data ∧ Placed.blob put sha256 data ∈ journal
  supplied : ∀ put sha256 data, Placed.blob put sha256 data ∈ journal → (sha256, data) ∈ put.blobs

structure Kept (state : StoreState F Facts Digest B) : Prop where
  files : FilesKept platform runId state.files state.journal
  active : ActiveKept platform runId state

end Invariant

section Steps

variable [DecidableEq Digest] {platform : StorePlatform F Facts Digest} {runId : String}
  {state : StoreState F Facts Digest B} {put : Put F Facts Digest B}

theorem FilesKept.aside {files other : Files F Facts Digest B}
    {journal : List (Placed F Facts Digest B)} (kept : FilesKept platform runId files journal)
    (blob : other.blob = files.blob) (manifest : other.manifest = files.manifest)
    (latest : other.latest = files.latest) : FilesKept platform runId other journal where
  latest := by rw [latest, kept.latest]
  rising := kept.rising
  manifest := by rw [manifest]; exact kept.manifest
  named := kept.named
  writes put seq payload listed := by
    obtain ⟨writes, present⟩ := kept.writes put seq payload listed
    refine ⟨writes, fun item listed => ?_⟩
    rw [blob]
    exact present item listed
  blob := by rw [blob]; exact kept.blob
  supplied := kept.supplied

theorem unlocked_active : ActiveKept platform runId state.unlocked := by
  intro put phase active
  cases active

theorem doing_active {phase : Phase F Facts Digest B}
    (named : textOf (put.checkpoint.field .runId) = some runId)
    (kept : PhaseKept platform runId (state.doing put phase) put phase) :
    ActiveKept platform runId (state.doing put phase) := by
  intro other next active
  cases active
  exact ⟨named, kept⟩

theorem FilesKept.readLatestSeq {files : Files F Facts Digest B}
    {journal : List (Placed F Facts Digest B)} (kept : FilesKept platform runId files journal) :
    files.readLatestSeq = (pointers journal).getLast? := by
  rw [Files.readLatestSeq, kept.latest]
  cases (pointers journal).getLast? <;> rfl

theorem blobs_kept (kept : Kept platform runId state) {rest : List (String × B)}
    (active : state.active = some (put, .blobs rest)) :
    Kept platform runId (advancePhase platform state put (.blobs rest)) := by
  obtain ⟨named, done, all, present⟩ := kept.active put _ active
  cases rest with
  | nil =>
    refine ⟨kept.files, doing_active named ?_⟩
    rw [List.append_nil] at all
    rw [← all] at present
    exact present
  | cons item rest =>
    obtain ⟨sha256, data⟩ := item
    dsimp only [advancePhase]
    by_cases there : (state.files.blob sha256).isSome = true
    · rw [if_pos there]
      refine ⟨kept.files, doing_active named ⟨done ++ [(sha256, data)], by simp [all], ?_⟩⟩
      refine present.append fun item listed => ?_
      rw [List.mem_singleton.mp listed]
      exact there
    · rw [if_neg there]
      refine ⟨kept.files.aside rfl rfl rfl, doing_active named ⟨done, all, ?_, ?_⟩⟩
      · exact present.aside rfl
      · exact Function.update_self _ _ _

theorem replaceBlob_kept (kept : Kept platform runId state) {sha256 : String} {data : B}
    {rest : List (String × B)} (active : state.active = some (put, .replaceBlob sha256 data rest)) :
    Kept platform runId (advancePhase platform state put (.replaceBlob sha256 data rest)) := by
  obtain ⟨named, done, all, present, written⟩ := kept.active put _ active
  have placed : (state.files.blobTmp sha256).isSome = true := by rw [written]; rfl
  refine ⟨?_, doing_active named ⟨done ++ [(sha256, data)], by simp [all], ?_⟩⟩
  · constructor
    · simpa [advancePhase] using kept.files.latest
    · simpa [advancePhase] using kept.files.rising
    · simpa [advancePhase] using kept.files.manifest
    · simpa [advancePhase] using kept.files.named
    · intro other seq payload listed
      have earlier : Placed.manifest other seq payload ∈ state.journal := by
        simpa [advancePhase] using listed
      obtain ⟨writes, there⟩ := kept.files.writes other seq payload earlier
      exact ⟨writes, there.placed placed rfl⟩
    · intro other content found
      simp only [advancePhase, StoreState.doing_files, StoreState.placed_files,
        StoreState.withFiles_files] at found
      by_cases same : other = sha256
      · subst same
        rw [Function.update_self, written] at found
        cases found
        exact ⟨put, data, rfl, by simp [advancePhase]⟩
      · rw [Function.update_of_ne same] at found
        obtain ⟨origin, bytes, whole, listed⟩ := kept.files.blob other content found
        refine ⟨origin, bytes, whole, ?_⟩
        simp [advancePhase, listed]
    · intro other sha bytes listed
      have held : Placed.blob other sha bytes ∈ state.journal ∨
          Placed.blob other sha bytes = .blob put sha256 data := by
        simpa [advancePhase] using listed
      rcases held with earlier | now
      · exact kept.files.supplied other sha bytes earlier
      · cases now; simp [all]
  · refine Present.append (present.placed placed rfl) fun item listed => ?_
    rw [List.mem_singleton.mp listed]
    simpa using placed

theorem manifest_kept (kept : Kept platform runId state)
    (active : state.active = some (put, .manifest)) :
    Kept platform runId (advancePhase platform state put .manifest) := by
  obtain ⟨named, present⟩ := kept.active put _ active
  dsimp only [advancePhase]
  cases number : nonnegativeOf (put.checkpoint.field .seq) with
  | none => exact ⟨kept.files, unlocked_active⟩
  | some seq =>
    cases text : manifestText platform put.checkpoint with
    | none => exact ⟨kept.files, unlocked_active⟩
    | some payload =>
      refine ⟨kept.files.aside rfl rfl rfl, doing_active named ⟨?_, ⟨named, number, text⟩, ?_⟩⟩
      · exact Present.aside present rfl
      · exact Function.update_self _ _ _

theorem replaceManifest_kept (kept : Kept platform runId state) {seq : Nat}
    {payload : CheckpointPayload F Facts Digest}
    (active : state.active = some (put, .replaceManifest seq payload)) :
    Kept platform runId (advancePhase platform state put (.replaceManifest seq payload)) := by
  obtain ⟨named, present, writes, written⟩ := kept.active put _ active
  refine ⟨?_, doing_active named (by simp [PhaseKept])⟩
  constructor
  · simpa [advancePhase] using kept.files.latest
  · simpa [advancePhase] using kept.files.rising
  · intro other
    simp only [advancePhase, StoreState.doing_files, StoreState.placed_files,
      StoreState.withFiles_files, StoreState.doing_journal, StoreState.placed_journal,
      StoreState.withFiles_journal, lastManifest_manifest]
    by_cases same : seq = other
    · subst same
      rw [Function.update_self, if_pos rfl, written]
      rfl
    · rw [Function.update_of_ne (Ne.symm same), if_neg same]
      exact kept.files.manifest other
  · intro other listed
    have earlier : other ∈ pointers state.journal := by simpa [advancePhase] using listed
    simp only [advancePhase, StoreState.doing_journal, StoreState.placed_journal,
      StoreState.withFiles_journal, lastManifest_manifest]
    split
    · rfl
    · exact kept.files.named other earlier
  · intro other number text listed
    have held : Placed.manifest other number text ∈ state.journal ∨
        Placed.manifest other number text = .manifest put seq payload := by
      simpa [advancePhase] using listed
    rcases held with earlier | now
    · exact kept.files.writes other number text earlier
    · cases now; exact ⟨writes, present⟩
  · intro sha256 content found
    obtain ⟨origin, data, whole, listed⟩ := kept.files.blob sha256 content found
    exact ⟨origin, data, whole, by simp [advancePhase, listed]⟩
  · intro other sha256 data listed
    exact kept.files.supplied other sha256 data (by simpa [advancePhase] using listed)

theorem above_pointers (kept : Kept platform runId state) {seq : Nat}
    (above : state.files.readLatestSeq.all (· < seq) = true) :
    ∀ other ∈ pointers state.journal, other < seq := by
  intro other listed
  rw [kept.files.readLatestSeq] at above
  cases last : (pointers state.journal).getLast? with
  | none =>
    rw [List.getLast?_eq_none_iff.mp last] at listed
    cases listed
  | some highest =>
    have below : highest < seq := by simpa [last] using above
    exact Nat.lt_of_le_of_lt (le_last_of_rising kept.files.rising last other listed) below

theorem pointer_kept (kept : Kept platform runId state) {seq : Nat}
    (active : state.active = some (put, .pointer seq)) :
    Kept platform runId (advancePhase platform state put (.pointer seq)) := by
  obtain ⟨named, known⟩ := kept.active put _ active
  dsimp only [advancePhase]
  split
  next above =>
    refine ⟨kept.files.aside rfl rfl rfl, doing_active named ⟨known, rfl, ?_⟩⟩
    exact above_pointers kept above
  · exact ⟨kept.files, unlocked_active⟩

theorem replacePointer_kept (kept : Kept platform runId state) {seq : Nat}
    (active : state.active = some (put, .replacePointer seq)) :
    Kept platform runId (advancePhase platform state put (.replacePointer seq)) := by
  obtain ⟨-, known, written, above⟩ := kept.active put _ active
  refine ⟨?_, unlocked_active⟩
  constructor
  · simpa [advancePhase] using written
  · simpa [advancePhase, List.pairwise_append] using ⟨kept.files.rising, above⟩
  · simpa [advancePhase] using kept.files.manifest
  · intro other listed
    have held : other ∈ pointers state.journal ∨ other = seq := by
      simpa [advancePhase] using listed
    simp only [advancePhase, StoreState.unlocked_journal, StoreState.placed_journal,
      StoreState.withFiles_journal, lastManifest_pointer]
    rcases held with earlier | rfl
    · exact kept.files.named other earlier
    · exact known
  · intro other number text listed
    exact kept.files.writes other number text (by simpa [advancePhase] using listed)
  · intro sha256 content found
    obtain ⟨origin, data, whole, listed⟩ := kept.files.blob sha256 content found
    exact ⟨origin, data, whole, by simp [advancePhase, listed]⟩
  · intro other sha256 data listed
    exact kept.files.supplied other sha256 data (by simpa [advancePhase] using listed)

theorem advancePhase_kept (kept : Kept platform runId state) {phase : Phase F Facts Digest B}
    (active : state.active = some (put, phase)) :
    Kept platform runId (advancePhase platform state put phase) := by
  cases phase with
  | collectTmp =>
    have named := (kept.active put _ active).1
    exact ⟨kept.files, doing_active named ⟨[], rfl, fun item listed => by cases listed⟩⟩
  | blobs rest => exact blobs_kept kept active
  | replaceBlob sha256 data rest => exact replaceBlob_kept kept active
  | manifest => exact manifest_kept kept active
  | replaceManifest seq payload => exact replaceManifest_kept kept active
  | pointer seq => exact pointer_kept kept active
  | replacePointer seq => exact replacePointer_kept kept active

theorem crashPhase_kept (kept : Kept platform runId state) (phase : Phase F Facts Digest B) :
    Kept platform runId (crashPhase platform state put phase) := by
  cases phase with
  | blobs rest =>
    cases rest with
    | nil => exact ⟨kept.files, unlocked_active⟩
    | cons item rest =>
      obtain ⟨sha256, data⟩ := item
      dsimp only [crashPhase]
      split
      · exact ⟨kept.files, unlocked_active⟩
      · exact ⟨kept.files.aside rfl rfl rfl, unlocked_active⟩
  | manifest =>
    dsimp only [crashPhase]
    split
    · exact ⟨kept.files.aside rfl rfl rfl, unlocked_active⟩
    · exact ⟨kept.files, unlocked_active⟩
  | pointer seq =>
    dsimp only [crashPhase]
    split
    · exact ⟨kept.files.aside rfl rfl rfl, unlocked_active⟩
    · exact ⟨kept.files, unlocked_active⟩
  | collectTmp => exact ⟨kept.files, unlocked_active⟩
  | replaceBlob sha256 data rest => exact ⟨kept.files, unlocked_active⟩
  | replaceManifest seq payload => exact ⟨kept.files, unlocked_active⟩
  | replacePointer seq => exact ⟨kept.files, unlocked_active⟩

theorem nextStore_kept (kept : Kept platform runId state) (label : StoreLabel F Facts Digest B) :
    Kept platform runId (nextStore platform runId state label) := by
  cases label with
  | put request =>
    dsimp only [nextStore]
    split
    next free => exact ⟨kept.files, doing_active free.2 trivial⟩
    · exact kept
  | unlink sha256 =>
    dsimp only [nextStore]
    split
    next put active =>
      refine ⟨kept.files.aside rfl rfl rfl, ?_⟩
      intro other phase same
      have held : some (other, phase) = some (put, .collectTmp) := same.symm.trans active
      cases held
      exact ⟨(kept.active put _ active).1, trivial⟩
    · exact kept
  | advance =>
    dsimp only [nextStore]
    split
    next put phase active => exact advancePhase_kept kept active
    · exact kept
  | crash during =>
    dsimp only [nextStore]
    split
    next put phase active =>
      split
      · exact crashPhase_kept kept phase
      · exact ⟨kept.files, unlocked_active⟩
    · exact kept

end Steps

section Reads

variable [DecidableEq Digest] {platform : StorePlatform F Facts Digest} {runId : String}
  {state : StoreState F Facts Digest B}

def IsHighest (journal : List (Placed F Facts Digest B)) (seq : Nat) : Prop :=
  seq ∈ pointers journal ∧ ∀ other ∈ pointers journal, other ≤ seq

def Readable (platform : StorePlatform F Facts Digest)
    (payload : CheckpointPayload F Facts Digest) : Prop :=
  payload.nesting platform.codec ≤ maxJsonNesting ∧
    payload.nesting platform.codec ≤ platform.codec.copyDepth

variable {seq : Nat}

theorem highest_last (kept : Kept platform runId state) (highest : IsHighest state.journal seq) :
    (pointers state.journal).getLast? = some seq := by
  cases last : (pointers state.journal).getLast? with
  | none =>
    have listed := highest.1
    rw [List.getLast?_eq_none_iff.mp last] at listed
    cases listed
  | some final =>
    have below := le_last_of_rising kept.files.rising last seq highest.1
    have above := highest.2 final (List.mem_of_getLast? last)
    rw [Nat.le_antisymm above below]

variable {payload : CheckpointPayload F Facts Digest}

theorem manifestText_spec {checkpoint : RunCheckpoint F Facts Digest}
    (text : manifestText platform checkpoint = some payload) :
    checkpointPayloadForWrite platform.codec checkpoint = .ok payload := by
  unfold manifestText at text
  split at text
  · cases text
  next written same =>
    split at text
    · cases text; exact same
    · cases text

variable {put : Put F Facts Digest B}

theorem bindRecord_written (writes : Writes platform runId put seq payload) :
    bindRecord runId seq put.checkpoint.current = .loaded seq put.checkpoint.current := by
  have named : textOf (put.checkpoint.current.field .runId) = some runId := writes.runId
  have number : nonnegativeOf (put.checkpoint.current.field .seq) = some seq := writes.seq
  simp [bindRecord, named, number]

theorem latestChecked_loaded_iff (kept : Kept platform runId state)
    (highest : IsHighest state.journal seq)
    (last : lastManifest state.journal seq = some (put, payload)) :
    latestChecked platform runId state.files = .loaded seq put.checkpoint.current ↔
      Readable platform payload := by
  have latest : state.files.latest = some (.whole seq) := by
    rw [kept.files.latest, highest_last kept highest]
    rfl
  have manifest : state.files.manifest seq = some (.whole payload) := by
    rw [kept.files.manifest, last]
    rfl
  have writes := (kept.files.writes put seq payload (mem_of_lastManifest last)).1
  have written := manifestText_spec writes.text
  simp only [latestChecked, latest, manifest, Option.bind_some, Content.read]
  by_cases shallow : payload.nesting platform.codec ≤ maxJsonNesting
  · simp only [loadsManifest, if_pos shallow]
    by_cases copied : payload.nesting platform.codec ≤ platform.codec.copyDepth
    · rw [decode_written platform.codec written copied]
      exact ⟨fun _ => ⟨shallow, copied⟩, fun _ => bindRecord_written writes⟩
    · rw [show decodeCheckpoint platform.codec payload =
        .corrupt "checkpoint payload defensive copy failed (RecursionError)" from
          if_pos (Nat.lt_of_not_le copied)]
      exact ⟨fun same => (by cases same), fun readable => absurd readable.2 copied⟩
  · simp only [loadsManifest, if_neg shallow]
    exact ⟨fun same => (by cases same), fun readable => absurd readable.1 shallow⟩

theorem blobs_readable (kept : Kept platform runId state)
    (last : lastManifest state.journal seq = some (put, payload)) :
    ∀ blob ∈ put.blobs, ∃ data, readBlob state.files blob.1 = some data ∧
      ∃ origin, Placed.blob origin blob.1 data ∈ state.journal ∧ (blob.1, data) ∈ origin.blobs := by
  intro blob listed
  have present := (kept.files.writes put seq payload (mem_of_lastManifest last)).2 blob listed
  obtain ⟨content, found⟩ := Option.isSome_iff_exists.mp present
  obtain ⟨origin, data, rfl, placed⟩ := kept.files.blob blob.1 content found
  exact ⟨data, by simp [readBlob, found, Content.read], origin, placed,
    kept.files.supplied origin blob.1 data placed⟩

structure ReadsComplete (platform : StorePlatform F Facts Digest) (runId : String)
    (state : StoreState F Facts Digest B) : Prop where
  missing : pointers state.journal = [] → latestChecked platform runId state.files = .missing
  newest : ∀ seq, IsHighest state.journal seq →
    ∃ put payload, lastManifest state.journal seq = some (put, payload) ∧
      Writes platform runId put seq payload ∧
      latestChecked platform runId state.files = .loaded seq put.checkpoint.current ∧
      ∀ blob ∈ put.blobs, ∃ data, readBlob state.files blob.1 = some data ∧
        ∃ origin, Placed.blob origin blob.1 data ∈ state.journal ∧ (blob.1, data) ∈ origin.blobs

def NamesReadable (platform : StorePlatform F Facts Digest)
    (state : StoreState F Facts Digest B) : Prop :=
  ∀ seq put payload, IsHighest state.journal seq →
    lastManifest state.journal seq = some (put, payload) → Readable platform payload

theorem readsComplete_iff (kept : Kept platform runId state) :
    ReadsComplete platform runId state ↔ NamesReadable platform state := by
  constructor
  · intro complete seq put payload highest last
    obtain ⟨other, text, found, -, loaded, -⟩ := complete.newest seq highest
    obtain ⟨rfl, rfl⟩ := Prod.mk.inj (Option.some.inj (found.symm.trans last))
    exact (latestChecked_loaded_iff kept highest last).mp loaded
  · intro readable
    constructor
    · intro empty
      have latest : state.files.latest = none := by rw [kept.files.latest, empty]; rfl
      simp [latestChecked, latest]
    · intro seq highest
      obtain ⟨⟨put, payload⟩, last⟩ :=
        Option.isSome_iff_exists.mp (kept.files.named seq highest.1)
      exact ⟨put, payload, last, (kept.files.writes put seq payload (mem_of_lastManifest last)).1,
        (latestChecked_loaded_iff kept highest last).mpr (readable seq put payload highest last),
        blobs_readable kept last⟩

end Reads

section Runs

variable [DecidableEq Digest] (platform : StorePlatform F Facts Digest) (runId : String)

def stateAfter (labels : List (StoreLabel F Facts Digest B)) : StoreState F Facts Digest B :=
  (store platform runId).exec (store platform runId).init labels

theorem stateAfter_kept (labels : List (StoreLabel F Facts Digest B)) :
    Kept platform runId (stateAfter platform runId labels) := by
  refine (store platform runId).exec_invariant (Kept platform runId)
    (fun _ label kept => nextStore_kept kept label) _ ⟨?_, ?_⟩ labels
  · constructor
    · rfl
    · exact List.Pairwise.nil
    · exact fun seq => rfl
    · intro seq listed; cases listed
    · intro put seq payload listed; cases listed
    · intro sha256 content found; cases found
    · intro put sha256 data listed; cases listed
  · intro put phase active; cases active

variable (state : StoreState F Facts Digest B)

theorem advancePhase_journal (put : Put F Facts Digest B) (phase : Phase F Facts Digest B) :
    state.journal <+: (advancePhase platform state put phase).journal := by
  cases phase with
  | collectTmp => exact List.prefix_rfl
  | blobs rest =>
    cases rest with
    | nil => exact List.prefix_rfl
    | cons item rest =>
      dsimp only [advancePhase]
      split <;> exact List.prefix_rfl
  | replaceBlob sha256 data rest => exact List.prefix_append _ _
  | manifest =>
    dsimp only [advancePhase]
    split <;> exact List.prefix_rfl
  | replaceManifest seq payload => exact List.prefix_append _ _
  | pointer seq =>
    dsimp only [advancePhase]
    split <;> exact List.prefix_rfl
  | replacePointer seq => exact List.prefix_append _ _

theorem crashPhase_journal (put : Put F Facts Digest B) (phase : Phase F Facts Digest B) :
    (crashPhase platform state put phase).journal = state.journal := by
  unfold crashPhase
  split
  · split <;> rfl
  · split <;> rfl
  · split <;> rfl
  · rfl

theorem nextStore_journal (label : StoreLabel F Facts Digest B) :
    state.journal <+: (nextStore platform runId state label).journal := by
  cases label with
  | put request =>
    dsimp only [nextStore]
    split <;> exact List.prefix_rfl
  | unlink sha256 =>
    dsimp only [nextStore]
    split <;> exact List.prefix_rfl
  | advance =>
    dsimp only [nextStore]
    split
    · exact advancePhase_journal platform state _ _
    · exact List.prefix_rfl
  | crash during =>
    dsimp only [nextStore]
    split
    · split
      · have same := crashPhase_journal platform state
        simp only [same, List.prefix_rfl]
      · exact List.prefix_rfl
    · exact List.prefix_rfl

theorem journal_grows {earlier later : List (StoreLabel F Facts Digest B)}
    (initial : earlier <+: later) :
    (stateAfter platform runId earlier).journal <+:
      (stateAfter platform runId later).journal := by
  obtain ⟨rest, rfl⟩ := initial
  rw [stateAfter, stateAfter, Machine.exec_append]
  exact (store platform runId).exec_related (fun _ => True) (fun _ _ _ => trivial)
    (fun before after => before.journal <+: after.journal) (fun _ => List.prefix_rfl)
    (fun _ _ _ => List.IsPrefix.trans)
    (fun state label _ => nextStore_journal platform runId state label) _ trivial rest

theorem pointer_monotone {earlier later : List (StoreLabel F Facts Digest B)}
    (initial : earlier <+: later) {seq : Nat}
    (named : (stateAfter platform runId earlier).files.readLatestSeq = some seq) :
    ∃ above, (stateAfter platform runId later).files.readLatestSeq = some above ∧ seq ≤ above := by
  have before := (stateAfter_kept platform runId earlier).files
  have after := (stateAfter_kept platform runId later).files
  rw [before.readLatestSeq] at named
  rw [after.readLatestSeq]
  have grown : pointers (stateAfter platform runId earlier).journal <+:
      pointers (stateAfter platform runId later).journal :=
    (journal_grows platform runId initial).filterMap _
  have listed := grown.subset (List.mem_of_getLast? named)
  cases last : (pointers (stateAfter platform runId later).journal).getLast? with
  | none => rw [List.getLast?_eq_none_iff.mp last] at listed; cases listed
  | some above => exact ⟨above, rfl, le_last_of_rising after.rising last seq listed⟩

-- A reader finds the newest complete checkpoint at any time of the run, and the pointer never moves
-- back.
structure CrashSafe (labels : List (StoreLabel F Facts Digest B)) : Prop where
  reads : ∀ earlier, earlier <+: labels →
    ReadsComplete platform runId (stateAfter platform runId earlier)
  pointer : ∀ earlier later, earlier <+: later → later <+: labels →
    ∀ seq, (stateAfter platform runId earlier).files.readLatestSeq = some seq →
      ∃ above, (stateAfter platform runId later).files.readLatestSeq = some above ∧ seq ≤ above

theorem crashSafe_iff (labels : List (StoreLabel F Facts Digest B)) :
    CrashSafe platform runId labels ↔
      ∀ earlier, earlier <+: labels →
        NamesReadable platform (stateAfter platform runId earlier) := by
  constructor
  · intro safe earlier initial
    exact (readsComplete_iff (stateAfter_kept platform runId earlier)).mp
      (safe.reads earlier initial)
  · intro readable
    refine ⟨fun earlier initial => ?_, fun earlier later first _ seq named => ?_⟩
    · exact (readsComplete_iff (stateAfter_kept platform runId earlier)).mpr
        (readable earlier initial)
    · exact pointer_monotone platform runId first named

def nestedPut : List (StoreLabel Unit Unit Unit Unit) :=
  .put ⟨nestedCheckpoint 600, []⟩ :: List.replicate 6 .advance

def nestedManifest : CheckpointPayload Unit Unit Unit := (nestedCheckpoint 600).current.toJson

def unitPlatform : StorePlatform Unit Unit Unit where
  codec := plainPlatform
  spells _ := true

theorem nestedManifest_deep : maxJsonNesting < nestedManifest.nesting plainPlatform := by
  decide +kernel

theorem nested_manifest_unreadable : ¬ CrashSafe unitPlatform "run" nestedPut := by
  intro safe
  have complete := safe.reads nestedPut List.prefix_rfl
  have names := (readsComplete_iff (stateAfter_kept unitPlatform "run" nestedPut)).mp complete
  have journal : (stateAfter unitPlatform "run" nestedPut).journal =
      [.manifest ⟨nestedCheckpoint 600, []⟩ 0 nestedManifest, .pointer 0] := rfl
  have shallow := names 0 ⟨nestedCheckpoint 600, []⟩ nestedManifest
    (by rw [journal]; exact ⟨by decide, by decide⟩) (by rw [journal]; rfl)
  exact absurd shallow.1 (Nat.not_le_of_lt nestedManifest_deep)

end Runs

end MonoidKernel.CheckpointStore
