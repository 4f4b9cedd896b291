import Mathlib.Order.Basic
import MonoidKernel.Core.SafeEvidence
import MonoidKernel.Library.Machine

set_option autoImplicit false

namespace MonoidKernel

structure WriterToken where
  runId : OpaqueId
  ownerId : OpaqueId
  generation : Nat
  positive : 1 ≤ generation
deriving DecidableEq

-- Instants are microseconds on the database clock.
structure WriterAuthority where
  writerToken : WriterToken
  leasedUntil : Nat
  observedAt : Nat
  revoked : Bool
deriving DecidableEq

def WriterAuthority.active (authority : WriterAuthority) : Bool :=
  !authority.revoked && decide (authority.observedAt < authority.leasedUntil)

structure WriterLease where
  writerToken : WriterToken
  leasedUntil : Nat
  observedAt : Nat
  active : observedAt < leasedUntil
deriving DecidableEq

inductive RenewResult where
  | renewed (lease : WriterLease)
  | fenced (authority : Option WriterAuthority)
deriving DecidableEq

inductive ReleaseResult where
  | released (authority : WriterAuthority) (revoked : authority.revoked = true)
  | alreadyReleased (authority : WriterAuthority) (revoked : authority.revoked = true)
  | fenced (authority : Option WriterAuthority)
deriving DecidableEq

namespace Authority

structure Row where
  ownerId : OpaqueId
  generation : Nat
  leasedUntil : Nat
  revoked : Bool
  positive : 1 ≤ generation
deriving DecidableEq

def Row.token (row : Row) (runId : OpaqueId) : WriterToken :=
  ⟨runId, row.ownerId, row.generation, row.positive⟩

def Row.activeAt (row : Row) (now : Nat) : Prop :=
  row.revoked = false ∧ now < row.leasedUntil

instance (row : Row) (now : Nat) : Decidable (row.activeAt now) :=
  inferInstanceAs (Decidable (_ ∧ _))

abbrev Table := OpaqueId → Option Row

def authorityFromRow (runId : OpaqueId) (row : Row) (observedAt : Nat) : WriterAuthority :=
  ⟨row.token runId, row.leasedUntil, observedAt, row.revoked⟩

@[simp] theorem authorityFromRow_token (runId : OpaqueId) (row : Row) (now : Nat) :
    (authorityFromRow runId row now).writerToken = row.token runId := rfl

@[simp] theorem authorityFromRow_active (runId : OpaqueId) (row : Row) (now : Nat) :
    (authorityFromRow runId row now).active = decide (row.activeAt now) := by
  cases revoked : row.revoked <;>
    simp [authorityFromRow, WriterAuthority.active, Row.activeAt, revoked]

def readLocked (table : Table) (runId : OpaqueId) (now : Nat) : Option WriterAuthority :=
  (table runId).map fun row => authorityFromRow runId row now

def updateReturning (table : Table) (runId : OpaqueId) (guard : Row → Bool) (set : Row → Row) :
    Option (Table × Row) :=
  match table runId with
  | some row =>
      if guard row then some (Function.update table runId (some (set row)), set row) else none
  | none => none

def ttlMicroseconds (ttl : Int) : Option { micros : Nat // 0 < micros } :=
  if positive : 0 < ttl.toNat then some ⟨ttl.toNat, positive⟩ else none

def leaseFrom (token : WriterToken) (now : Nat) (ttl : { micros : Nat // 0 < micros }) :
    WriterLease :=
  ⟨token, now + ttl.val, now, Nat.lt_add_of_pos_right ttl.property⟩

inductive ClaimError where
  | invalidTtl
  | unavailable (authority : WriterAuthority)
  | generationOutOfRange
  | activationLost
  | authorityDisappeared
deriving DecidableEq

-- The insert leaves a revoked placeholder; the second statement starts the lease from a clock
-- sampled after the unique index stopped waiting. `none` is the conflict with an existing row.
def insertFirst (table : Table) (runId ownerId : OpaqueId) (ttl : { micros : Nat // 0 < micros })
    (insertedAt activatedAt : Nat) : Option (Table × Except ClaimError WriterLease) :=
  match table runId with
  | some _ => none
  | none =>
      let placeholder : Row := ⟨ownerId, 1, insertedAt, true, Nat.le_refl 1⟩
      let inserted := Function.update table runId (some placeholder)
      let guard := fun row : Row =>
        decide (row.ownerId = ownerId) && decide (row.generation = 1) && row.revoked
      let activate := fun row : Row =>
        { row with leasedUntil := activatedAt + ttl.val, revoked := false }
      match updateReturning inserted runId guard activate with
      | some (activated, row) =>
          some (activated, .ok (leaseFrom (row.token runId) activatedAt ttl))
      | none => some (table, .error .activationLost)

def takeOver (table : Table) (runId ownerId : OpaqueId) (ttl : { micros : Nat // 0 < micros })
    (now : Nat) : Table × Except ClaimError WriterLease :=
  match table runId with
  | none => (table, .error .authorityDisappeared)
  | some row =>
      if row.generation + 1 ≤ postgresBigintMax then
        let taken : Row := ⟨ownerId, row.generation + 1, now + ttl.val, false, by omega⟩
        (Function.update table runId (some taken), .ok (leaseFrom (taken.token runId) now ttl))
      else
        (table, .error .generationOutOfRange)

def claimLocked (table : Table) (current : WriterAuthority) (runId ownerId : OpaqueId)
    (ttl : { micros : Nat // 0 < micros }) (now : Nat) :
    Table × Except ClaimError WriterLease :=
  if active : current.active = true then
    if current.writerToken.ownerId = ownerId then
      (table, .ok ⟨current.writerToken, current.leasedUntil, current.observedAt, by
        simp only [WriterAuthority.active, Bool.and_eq_true, decide_eq_true_eq] at active
        exact active.2⟩)
    else
      (table, .error (.unavailable current))
  else
    takeOver table runId ownerId ttl now

def renew (table : Table) (token : WriterToken) (ttl : { micros : Nat // 0 < micros })
    (readAt updatedAt rereadAt : Nat) : Table × RenewResult :=
  match readLocked table token.runId readAt with
  | none => (table, .fenced none)
  | some current =>
      if current.writerToken ≠ token ∨ current.active = false then
        (table, .fenced (some current))
      else
        let guard := fun row : Row =>
          decide (row.ownerId = token.ownerId) && decide (row.generation = token.generation) &&
            !row.revoked && decide (updatedAt < row.leasedUntil)
        let extend := fun row : Row => { row with leasedUntil := updatedAt + ttl.val }
        match updateReturning table token.runId guard extend with
        | some (extended, row) =>
            (extended, .renewed (leaseFrom (row.token token.runId) updatedAt ttl))
        | none => (table, .fenced (readLocked table token.runId rereadAt))

def release (table : Table) (token : WriterToken) (readAt updatedAt rereadAt : Nat) :
    Table × ReleaseResult :=
  match readLocked table token.runId readAt with
  | none => (table, .fenced none)
  | some current =>
      if current.writerToken ≠ token then
        (table, .fenced (some current))
      else if revoked : current.revoked = true then
        (table, .alreadyReleased current revoked)
      else if current.active = false then
        (table, .fenced (some current))
      else
        let guard := fun row : Row =>
          decide (row.ownerId = token.ownerId) && decide (row.generation = token.generation) &&
            !row.revoked && decide (updatedAt < row.leasedUntil)
        let retire := fun row : Row => { row with leasedUntil := updatedAt, revoked := true }
        match updateReturning table token.runId guard retire with
        | some (retired, row) =>
            (retired, .released
              ⟨row.token token.runId, updatedAt, updatedAt, true⟩ rfl)
        | none => (table, .fenced (readLocked table token.runId rereadAt))

-- A claim whose first `_read_locked` found no row. It holds no row lock until its insert.
structure PendingClaim where
  runId : OpaqueId
  ownerId : OpaqueId
  ttl : { micros : Nat // 0 < micros }
deriving DecidableEq

structure State where
  table : Table
  clock : Nat
  pending : List PendingClaim

inductive Label where
  | claim (runId ownerId : OpaqueId) (ttl : Int) (read write : Nat)
  | resumeClaim (position insert reread write : Nat)
  | renew (token : WriterToken) (ttl : Int) (read update reread : Nat)
  | release (token : WriterToken) (read update reread : Nat)
  | read (runId : OpaqueId) (read : Nat)
deriving DecidableEq

inductive Answer where
  | claimed (lease : WriterLease)
  | claimPending
  | claimFailed (error : ClaimError)
  | renewed (result : RenewResult)
  | renewInvalid
  | released (result : ReleaseResult)
  | observed (authority : Option WriterAuthority)
  | idle
deriving DecidableEq

def Answer.ofClaim : Except ClaimError WriterLease → Answer
  | .ok lease => .claimed lease
  | .error error => .claimFailed error

def claim (s : State) (runId ownerId : OpaqueId) (ttl : Int) (read write : Nat) : State × Answer :=
  match ttlMicroseconds ttl with
  | none => (s, .claimFailed .invalidTtl)
  | some micros =>
      match readLocked s.table runId (s.clock + read) with
      | none =>
          ({ s with clock := s.clock + read, pending := s.pending ++ [⟨runId, ownerId, micros⟩] },
            .claimPending)
      | some current =>
          let now := s.clock + read + write
          let result := claimLocked s.table current runId ownerId micros now
          ({ s with table := result.1, clock := now }, .ofClaim result.2)

-- `_insert_first`, and on a conflict the second `_read_locked` and what follows it.
def resumeClaim (s : State) (position insert reread write : Nat) : State × Answer :=
  match s.pending[position]? with
  | none => (s, .idle)
  | some waiting =>
      let waited := { s with pending := s.pending.eraseIdx position }
      let insertedAt := s.clock + insert
      let rereadAt := insertedAt + reread
      match insertFirst s.table waiting.runId waiting.ownerId waiting.ttl insertedAt rereadAt with
      | some (inserted, result) =>
          ({ waited with table := inserted, clock := rereadAt }, .ofClaim result)
      | none =>
          match readLocked s.table waiting.runId rereadAt with
          | none => ({ waited with clock := rereadAt }, .claimFailed .authorityDisappeared)
          | some current =>
              let now := rereadAt + write
              let result :=
                claimLocked s.table current waiting.runId waiting.ownerId waiting.ttl now
              ({ waited with table := result.1, clock := now }, .ofClaim result.2)

def step (s : State) : Label → State × Answer
  | .claim runId ownerId ttl read write => claim s runId ownerId ttl read write
  | .resumeClaim position insert reread write => resumeClaim s position insert reread write
  | .renew token ttl read update reread =>
      match ttlMicroseconds ttl with
      | none => (s, .renewInvalid)
      | some micros =>
          let readAt := s.clock + read
          let updatedAt := readAt + update
          let rereadAt := updatedAt + reread
          let result := renew s.table token micros readAt updatedAt rereadAt
          ({ s with table := result.1, clock := rereadAt }, .renewed result.2)
  | .release token read update reread =>
      let readAt := s.clock + read
      let updatedAt := readAt + update
      let rereadAt := updatedAt + reread
      let result := release s.table token readAt updatedAt rereadAt
      ({ s with table := result.1, clock := rereadAt }, .released result.2)
  | .read runId read =>
      ({ s with clock := s.clock + read }, .observed (readLocked s.table runId (s.clock + read)))

def machine : Library.Machine State Label Answer :=
  ⟨⟨fun _ => none, 0, []⟩, step⟩

end Authority

end MonoidKernel
