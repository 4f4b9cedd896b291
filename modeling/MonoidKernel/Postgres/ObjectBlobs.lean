import MonoidKernel.Postgres.Blobs

set_option autoImplicit false

namespace MonoidKernel

structure BlobStat (Digest : Type) where
  sha256 : Digest
  sizeBytes : Nat
  locator : String
deriving DecidableEq

structure PhysicalObject where
  bytes : Bytes
  locator : String
deriving DecidableEq

structure ObjectRow where
  sizeBytes : Nat
  locator : String
  generation : Nat
  available : Bool
deriving DecidableEq

-- The object store with its metadata tables. `associated` is `run_object_blob`.
structure Objects (Digest : Type) where
  physical : Digest → Option PhysicalObject
  recorded : Digest → Option ObjectRow
  associated : List (OpaqueId × Digest)

namespace Objects

variable {Digest : Type} [DecidableEq Digest] (sha256 : Bytes → Digest)

def empty (Digest : Type) : Objects Digest :=
  ⟨fun _ => none, fun _ => none, []⟩

def stat (objects : Objects Digest) (key : Digest) : Option (BlobStat Digest) :=
  (objects.physical key).map fun object => ⟨key, object.bytes.length, object.locator⟩

def putIfAbsent (objects : Objects Digest) (key : Digest) (data : Bytes) (locator : String) :
    Objects Digest :=
  match objects.physical key with
  | some _ => objects
  | none => { objects with physical := Function.update objects.physical key (some ⟨data, locator⟩) }

def associate (objects : Objects Digest) (runId : OpaqueId) (key : Digest) : Objects Digest :=
  if (runId, key) ∈ objects.associated then objects
  else { objects with associated := objects.associated ++ [(runId, key)] }

def setRow (objects : Objects Digest) (key : Digest) (row : ObjectRow) : Objects Digest :=
  { objects with recorded := Function.update objects.recorded key (some row) }

-- `none` is the exception for an object or a row that changed.
def recordObject (objects : Objects Digest) (runId : OpaqueId) (stat : BlobStat Digest) :
    Option (Objects Digest) :=
  if objects.stat stat.sha256 ≠ some stat then none
  else
    match objects.recorded stat.sha256 with
    | none =>
      some (associate (setRow objects stat.sha256 ⟨stat.sizeBytes, stat.locator, 1, true⟩) runId
        stat.sha256)
    | some row =>
      if row.available = false then
        some (associate (setRow objects stat.sha256
          ⟨stat.sizeBytes, stat.locator, row.generation + 1, true⟩) runId stat.sha256)
      else if row.sizeBytes = stat.sizeBytes ∧ row.locator = stat.locator then
        some (associate objects runId stat.sha256)
      else none

def getChecked (objects : Objects Digest) (key : Digest) : Option Bytes :=
  (objects.physical key).bind fun object =>
    if sha256 object.bytes = key then some object.bytes else none

-- An object a run may rely on: associated, recorded as available, and stored as recorded.
structure Backed (objects : Objects Digest) (runId : OpaqueId) (key : Digest) (bytes : Bytes)
    (locator : String) : Prop where
  associated : (runId, key) ∈ objects.associated
  recorded : ∃ generation, objects.recorded key = some ⟨bytes.length, locator, generation, true⟩
  physical : objects.physical key = some ⟨bytes, locator⟩
  checked : sha256 bytes = key

def Keeps (before after : Objects Digest) : Prop :=
  ∀ runId key bytes locator, Backed sha256 before runId key bytes locator →
    Backed sha256 after runId key bytes locator

variable {sha256}

variable (objects : Objects Digest)

omit [DecidableEq Digest] in
theorem Keeps.refl : Keeps sha256 objects objects :=
  fun _ _ _ _ backed => backed

omit [DecidableEq Digest] in
theorem Keeps.trans {a b c : Objects Digest} (first : Keeps sha256 a b)
    (second : Keeps sha256 b c) :
    Keeps sha256 a c :=
  fun runId key bytes locator backed => second _ _ _ _ (first runId key bytes locator backed)

omit [DecidableEq Digest] in
theorem Backed.stat {objects : Objects Digest} {runId : OpaqueId} {key : Digest} {bytes : Bytes}
    {locator : String} (backed : Backed sha256 objects runId key bytes locator) :
    objects.stat key = some ⟨key, bytes.length, locator⟩ := by
  simp [Objects.stat, backed.physical]

theorem Backed.getChecked {objects : Objects Digest} {runId : OpaqueId} {key : Digest}
    {bytes : Bytes} {locator : String} (backed : Backed sha256 objects runId key bytes locator) :
    objects.getChecked sha256 key = some bytes := by
  simp [Objects.getChecked, backed.physical, backed.checked]

theorem putIfAbsent_keeps (key : Digest) (data : Bytes) (locator : String) :
    Keeps sha256 objects (objects.putIfAbsent key data locator) := by
  intro runId other bytes place backed
  unfold putIfAbsent
  split
  · exact backed
  next absent =>
    refine ⟨backed.associated, backed.recorded, ?_, backed.checked⟩
    have stored := backed.physical
    by_cases same : other = key
    · rw [same, absent] at stored
      cases stored
    · simpa [same] using stored

theorem associate_keeps (runId : OpaqueId) (key : Digest) :
    Keeps sha256 objects (objects.associate runId key) := by
  intro other digest bytes locator backed
  unfold associate
  split
  · exact backed
  · exact ⟨List.mem_append_left _ backed.associated, backed.recorded, backed.physical,
      backed.checked⟩

theorem mem_associate (runId : OpaqueId) (key : Digest) :
    (runId, key) ∈ (objects.associate runId key).associated := by
  unfold associate
  split
  next present => exact present
  · simp

@[simp] theorem associate_physical (runId : OpaqueId) (key : Digest) :
    (objects.associate runId key).physical = objects.physical := by
  unfold associate
  split <;> rfl

@[simp] theorem associate_recorded (runId : OpaqueId) (key : Digest) :
    (objects.associate runId key).recorded = objects.recorded := by
  unfold associate
  split <;> rfl

theorem setRow_keeps (key : Digest) (row : ObjectRow)
    (unused : ∀ old, objects.recorded key = some old → old.available = false) :
    Keeps sha256 objects (objects.setRow key row) := by
  intro runId other bytes locator backed
  refine ⟨backed.associated, ?_, backed.physical, backed.checked⟩
  obtain ⟨generation, stored⟩ := backed.recorded
  by_cases same : other = key
  · rw [same] at stored
    exact absurd (unused _ stored) (by simp)
  · exact ⟨generation, by simpa [setRow, same] using stored⟩

theorem recordObject_spec {objects recorded : Objects Digest} {runId : OpaqueId}
    {stat : BlobStat Digest} (done : objects.recordObject runId stat = some recorded) :
    Keeps sha256 objects recorded ∧ recorded.physical = objects.physical ∧
      objects.stat stat.sha256 = some stat ∧ (runId, stat.sha256) ∈ recorded.associated ∧
      ∃ generation, recorded.recorded stat.sha256 =
        some ⟨stat.sizeBytes, stat.locator, generation, true⟩ := by
  unfold recordObject at done
  split at done
  · cases done
  next unchanged =>
    have present : objects.stat stat.sha256 = some stat := by simpa using unchanged
    split at done
    next missing =>
      cases done
      refine ⟨(setRow_keeps _ _ _ (by simp [missing])).trans (associate_keeps _ _ _),
        by simp [setRow],
        present, mem_associate _ _ _, 1, by simp [setRow]⟩
    next row found =>
      split at done
      next deleted =>
        cases done
        refine ⟨(setRow_keeps _ _ _ ?_).trans (associate_keeps _ _ _), by simp [setRow], present,
          mem_associate _ _ _, row.generation + 1, by simp [setRow]⟩
        intro old same
        rw [found, Option.some.injEq] at same
        exact same ▸ deleted
      next available =>
        split at done
        next matching =>
          cases done
          refine ⟨associate_keeps _ _ _, by simp, present, mem_associate _ _ _, row.generation, ?_⟩
          rw [associate_recorded, found, ← matching.1, ← matching.2]
          simp only [Bool.not_eq_false] at available
          rw [← available]
        · cases done

def Addressed (sha256 : Bytes → Digest) (objects : Objects Digest) : Prop :=
  ∀ key object, objects.physical key = some object → sha256 object.bytes = key

theorem Addressed.putIfAbsent {objects : Objects Digest} (addressed : Addressed sha256 objects)
    (data : Bytes) (locator : String) :
    Addressed sha256 (objects.putIfAbsent (sha256 data) data locator) := by
  intro key object stored
  unfold Objects.putIfAbsent at stored
  split at stored
  · exact addressed key object stored
  · by_cases same : key = sha256 data
    · rw [same] at stored ⊢
      simp only [Function.update_self, Option.some.injEq] at stored
      rw [← stored]
    · exact addressed key object (by simpa [same] using stored)

end Objects

end MonoidKernel
