import Mathlib.Data.Finset.Basic
import MonoidKernel.Core.SafeEvidence

set_option autoImplicit false

namespace MonoidKernel

abbrev Bytes := List UInt8

structure BlobStore (Digest : Type) where
  content : Digest → Option Bytes
  associated : OpaqueId → Digest → Bool

namespace BlobStore

variable {Digest : Type} [DecidableEq Digest] (sha256 : Bytes → Digest)

def validatedBlobs (limit : Nat) (blobs : List (Digest × Bytes)) : Bool :=
  decide ((blobs.map Prod.fst).Nodup) &&
    blobs.all fun (key, value) => decide (value.length ≤ limit) && decide (sha256 value = key)

def blobProjection (blobs : List (Digest × Bytes)) : Finset Digest :=
  (blobs.map Prod.fst).toFinset

def submittedBlobsPreserveBacking (store : BlobStore Digest) (blobs : List (Digest × Bytes)) :
    Bool :=
  blobs.all fun (key, value) => (store.content key).all fun stored => decide (stored = value)

def associatedBlobIsValid (store : BlobStore Digest) (runId : OpaqueId) (key : Digest) : Bool :=
  store.associated runId key &&
    (store.content key).any fun stored => decide (sha256 stored = key)

def referencesResolve (store : BlobStore Digest) (runId : OpaqueId) (references : List Digest)
    (blobs : List (Digest × Bytes)) : Bool :=
  references.all fun key =>
    (blobs.map Prod.fst).contains key || associatedBlobIsValid sha256 store runId key

def persistBlob (store : BlobStore Digest) (runId : OpaqueId) (key : Digest) (value : Bytes) :
    Option (BlobStore Digest) :=
  let associated := Function.update store.associated runId
    (Function.update (store.associated runId) key true)
  match store.content key with
  | none => some ⟨Function.update store.content key (some value), associated⟩
  | some existing => if existing = value then some ⟨store.content, associated⟩ else none

-- `none` is `_BlobRaceConflict`: another content already sits at the digest.
def persistBlobs (store : BlobStore Digest) (runId : OpaqueId) :
    List (Digest × Bytes) → Option (BlobStore Digest)
  | [] => some store
  | (key, value) :: rest =>
      match persistBlob store runId key value with
      | some persisted => persistBlobs persisted runId rest
      | none => none

def readBlob (store : BlobStore Digest) (runId : OpaqueId) (key : Digest) : Option Bytes :=
  if store.associated runId key then
    (store.content key).filter fun stored => decide (sha256 stored = key)
  else none

def Grows (before after : BlobStore Digest) : Prop :=
  (∀ key value, before.content key = some value → after.content key = some value) ∧
    ∀ runId key, before.associated runId key = true → after.associated runId key = true

omit [DecidableEq Digest] in
theorem Grows.refl (store : BlobStore Digest) : Grows store store :=
  ⟨fun _ _ stored => stored, fun _ _ held => held⟩

omit [DecidableEq Digest] in
theorem Grows.trans {a b c : BlobStore Digest} (first : Grows a b) (second : Grows b c) :
    Grows a c :=
  ⟨fun key value stored => second.1 key value (first.1 key value stored),
    fun runId key held => second.2 runId key (first.2 runId key held)⟩

theorem persistBlob_spec {store persisted : BlobStore Digest} {runId : OpaqueId} {key : Digest}
    {value : Bytes} (done : persistBlob store runId key value = some persisted) :
    Grows store persisted ∧ persisted.content key = some value ∧
      persisted.associated runId key = true := by
  have keeps (other : OpaqueId) (digest : Digest) (held : store.associated other digest = true) :
      Function.update store.associated runId
        (Function.update (store.associated runId) key true) other digest = true := by
    by_cases same : other = runId
    · subst same
      by_cases here : digest = key
      · simp [here]
      · simpa [here] using held
    · simpa [same] using held
  unfold persistBlob at done
  dsimp only at done
  split at done
  next absent =>
    simp only [Option.some.injEq] at done
    subst done
    refine ⟨⟨?_, keeps⟩, by simp, by simp⟩
    intro digest content stored
    have other : digest ≠ key := by
      rintro rfl
      rw [absent] at stored
      cases stored
    simpa [other] using stored
  next existing present =>
    split at done
    next same =>
      simp only [Option.some.injEq] at done
      subst done same
      exact ⟨⟨fun _ _ stored => stored, keeps⟩, present, by simp⟩
    · cases done

theorem persistBlobs_spec {store persisted : BlobStore Digest} {runId : OpaqueId}
    {blobs : List (Digest × Bytes)} (done : persistBlobs store runId blobs = some persisted) :
    Grows store persisted ∧ ∀ item ∈ blobs, persisted.content item.1 = some item.2 ∧
      persisted.associated runId item.1 = true := by
  induction blobs generalizing store with
  | nil =>
    simp only [persistBlobs, Option.some.injEq] at done
    subst done
    exact ⟨Grows.refl _, by simp⟩
  | cons item rest ih =>
    obtain ⟨key, value⟩ := item
    simp only [persistBlobs] at done
    split at done
    next mid persistedOne =>
      obtain ⟨grown, content, held⟩ := persistBlob_spec persistedOne
      obtain ⟨further, all⟩ := ih done
      refine ⟨grown.trans further, ?_⟩
      intro other member
      rcases List.mem_cons.mp member with rfl | member
      · exact ⟨further.1 _ _ content, further.2 _ _ held⟩
      · exact all other member
    · cases done

end BlobStore

end MonoidKernel
