import MonoidKernel.Postgres.AuthorityFencing
import MonoidKernel.Postgres.Blobs

set_option autoImplicit false

namespace MonoidKernel

inductive CommitStatus where
  | committed | alreadyCommitted | conflict | fenced
deriving DecidableEq

theorem CommitStatus.ne_conflict {status : CommitStatus}
    (accepted : status = .committed ∨ status = .alreadyCommitted) : status ≠ .conflict := by
  rcases accepted with rfl | rfl <;> simp

structure CommitResult (Digest : Type) where
  status : CommitStatus
  sequence : Option Nat := none
  contentDigest : Option Digest := none
  winnerDigest : Option Digest := none
deriving DecidableEq

-- How a transaction answers its caller. `raised` is an exception after which the mutation may or
-- may not have been applied; `ambiguous` is the driver's class of such errors.
inductive Fault where
  | answered
  | raised (applied ambiguous : Bool)
deriving DecidableEq

inductive Reply (Digest : Type) where
  | answered (result : CommitResult Digest)
  | ambiguous
  | raised
deriving DecidableEq

def Reply.under {Digest : Type} (fault : Fault) (result : CommitResult Digest) : Reply Digest :=
  match fault with
  | .answered => .answered result
  | .raised _ lossy =>
      -- Without a content digest the adapter re-raises before it reconciles.
      if lossy && result.contentDigest.isSome then .ambiguous else .raised

def Fault.keeps : Fault → Bool
  | .answered => true
  | .raised applied _ => applied

def currentWriterLocked (table : Authority.Table) (token : WriterToken) (now : Nat) : Bool :=
  match Authority.readLocked table token.runId now with
  | none => false
  | some current => decide (current.writerToken = token) && current.active

theorem currentWriterLocked_iff (table : Authority.Table) (token : WriterToken) (now : Nat) :
    currentWriterLocked table token now = true ↔ Authority.Active table token now := by
  unfold currentWriterLocked Authority.Active
  cases stored : table token.runId with
  | none => simp [Authority.readLocked, stored]
  | some row =>
    simp only [Authority.readLocked, stored, Option.map_some, Authority.authorityFromRow_token,
      Authority.authorityFromRow_active, Bool.and_eq_true, Option.some.injEq, exists_eq_left']
    exact and_congr decide_eq_true_iff decide_eq_true_iff

-- A row of one of the sink's record tables: the payload, its content address and the typed columns
-- that repeat parts of the payload.
structure StoredRow (Payload Typed Digest : Type) where
  payload : Payload
  submittedBlobs : Finset Digest
  contentDigest : Digest
  typed : Typed
deriving DecidableEq

section

variable {Payload Typed Digest : Type} [DecidableEq Typed] [DecidableEq Digest]
variable (recordDigest : Payload → Finset Digest → Digest) (typedOf : Payload → Typed)

def checkedStoredDigest (row : StoredRow Payload Typed Digest) : Bool :=
  decide (recordDigest row.payload row.submittedBlobs = row.contentDigest)

def storedResult (row : Option (StoredRow Payload Typed Digest)) (contentDigest : Digest)
    (sequence : Option Nat) (expected : Typed) : Option (CommitResult Digest) :=
  match row with
  | none => none
  | some row =>
      if checkedStoredDigest recordDigest row = false ∨ row.typed ≠ expected ∨
          typedOf row.payload ≠ row.typed then
        some ⟨.conflict, sequence, some contentDigest, some row.contentDigest⟩
      else if row.contentDigest = contentDigest then
        some ⟨.alreadyCommitted, sequence, some contentDigest, none⟩
      else
        some ⟨.conflict, sequence, some contentDigest, some row.contentDigest⟩

def Intact (row : StoredRow Payload Typed Digest) : Prop :=
  recordDigest row.payload row.submittedBlobs = row.contentDigest ∧ typedOf row.payload = row.typed

variable {recordDigest typedOf}

theorem storedResult_none {row : Option (StoredRow Payload Typed Digest)} {contentDigest : Digest}
    {sequence : Option Nat} {expected : Typed}
    (absent : storedResult recordDigest typedOf row contentDigest sequence expected = none) :
    row = none := by
  cases row with
  | none => rfl
  | some row =>
    simp only [storedResult] at absent
    split at absent
    · cases absent
    · split at absent <;> cases absent

theorem storedResult_status {row : Option (StoredRow Payload Typed Digest)}
    {contentDigest : Digest} {sequence : Option Nat} {expected : Typed}
    {result : CommitResult Digest}
    (found : storedResult recordDigest typedOf row contentDigest sequence expected = some result) :
    result.contentDigest = some contentDigest ∧ result.sequence = sequence ∧
      (result.status = .conflict ∨ result.status = .alreadyCommitted ∧
        ∃ stored, row = some stored ∧ Intact recordDigest typedOf stored ∧
          stored.typed = expected ∧ stored.contentDigest = contentDigest) := by
  cases row with
  | none => cases found
  | some row =>
    simp only [storedResult] at found
    split at found
    · cases found
      exact ⟨rfl, rfl, .inl rfl⟩
    next valid =>
      simp only [checkedStoredDigest, decide_eq_false_iff_not, not_or, not_not] at valid
      split at found
      next same =>
        cases found
        exact ⟨rfl, rfl, .inr ⟨rfl, row, rfl, ⟨valid.1, valid.2.2⟩, valid.2.1, same⟩⟩
      · cases found
        exact ⟨rfl, rfl, .inl rfl⟩

theorem storedResult_intact {row : StoredRow Payload Typed Digest}
    (intact : Intact recordDigest typedOf row) (contentDigest : Digest) (sequence : Option Nat)
    (expected : Typed) :
    storedResult recordDigest typedOf (some row) contentDigest sequence expected =
      if row.typed = expected ∧ row.contentDigest = contentDigest then
        some ⟨.alreadyCommitted, sequence, some contentDigest, none⟩
      else some ⟨.conflict, sequence, some contentDigest, some row.contentDigest⟩ := by
  have address : checkedStoredDigest recordDigest row = true := by
    simp [checkedStoredDigest, intact.1]
  by_cases typed : row.typed = expected <;> by_cases same : row.contentDigest = contentDigest <;>
    simp [storedResult, address, typed, same, intact.2]

end

end MonoidKernel
