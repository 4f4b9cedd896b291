import MonoidKernel.Postgres.Authority

set_option autoImplicit false

namespace MonoidKernel.Authority

open Library (Machine)

inductive RowChange (start finish : Nat) : Option Row → Option Row → Prop where
  | same (row : Option Row) : RowChange start finish row row
  | first (row : Row) (generation : row.generation = 1) : RowChange start finish none (some row)
  | retaken (old new : Row) (readAt : Nat) (late : start ≤ readAt)
      (inactive : ¬ old.activeAt readAt) (generation : new.generation = old.generation + 1) :
      RowChange start finish (some old) (some new)
  | renewed (old : Row) (updatedAt leasedUntil : Nat) (late : start ≤ updatedAt)
      (active : old.activeAt updatedAt) :
      RowChange start finish (some old) (some { old with leasedUntil := leasedUntil })
  | released (old : Row) (updatedAt : Nat) (late : start ≤ updatedAt)
      (within : updatedAt ≤ finish) (active : old.activeAt updatedAt) :
      RowChange start finish (some old)
        (some { old with leasedUntil := updatedAt, revoked := true })

variable {table : Table} {runId : OpaqueId}

theorem readLocked_some {now : Nat} {current : WriterAuthority}
    (found : readLocked table runId now = some current) :
    ∃ row, table runId = some row ∧ current = authorityFromRow runId row now := by
  simp only [readLocked, Option.map_eq_some_iff] at found
  obtain ⟨row, stored, rfl⟩ := found
  exact ⟨row, stored, rfl⟩

theorem updateReturning_some {updated : Table} {guard : Row → Bool} {set : Row → Row} {row : Row}
    (done : updateReturning table runId guard set = some (updated, row)) :
    ∃ old, table runId = some old ∧ guard old = true ∧ row = set old ∧
      updated = Function.update table runId (some (set old)) := by
  unfold updateReturning at done
  split at done
  next old stored =>
    split at done
    next passed =>
      simp only [Option.some.injEq, Prod.mk.injEq] at done
      exact ⟨old, stored, passed, done.2.symm, done.1.symm⟩
    · cases done
  · cases done

theorem change_update {row : Option Row} {start finish : Nat}
    (change : RowChange start finish (table runId) row) (other : OpaqueId) :
    RowChange start finish (table other) (Function.update table runId row other) := by
  by_cases same : other = runId
  · subst same
    simpa using change
  · rw [Function.update_of_ne same]
    exact .same _

theorem insertFirst_spec {inserted : Table} {ownerId : OpaqueId}
    {ttl : { micros : Nat // 0 < micros }} {insertedAt activatedAt : Nat}
    {result : Except ClaimError WriterLease}
    (done : insertFirst table runId ownerId ttl insertedAt activatedAt = some (inserted, result)) :
    ∃ row : Row, table runId = none ∧ row.ownerId = ownerId ∧ row.generation = 1 ∧
      inserted = Function.update table runId (some row) ∧
      result = .ok (leaseFrom (row.token runId) activatedAt ttl) := by
  unfold insertFirst at done
  split at done
  · cases done
  next absent =>
    simp only [updateReturning, Function.update_self, decide_true, Bool.and_self,
      if_true, Function.update_idem, Option.some.injEq, Prod.mk.injEq] at done
    obtain ⟨rfl, rfl⟩ := done
    exact ⟨⟨ownerId, 1, activatedAt + ttl.val, false, Nat.le_refl 1⟩, absent, rfl, rfl, rfl, rfl⟩

theorem takeOver_spec (table : Table) (runId ownerId : OpaqueId)
    (ttl : { micros : Nat // 0 < micros }) (now : Nat) :
    (takeOver table runId ownerId ttl now).1 = table ∧
        (∀ lease, (takeOver table runId ownerId ttl now).2 ≠ .ok lease) ∨
      ∃ old new : Row, table runId = some old ∧ new.generation = old.generation + 1 ∧
        new.ownerId = ownerId ∧
        takeOver table runId ownerId ttl now =
          (Function.update table runId (some new), .ok (leaseFrom (new.token runId) now ttl)) := by
  unfold takeOver
  split
  · left; simp
  next old stored =>
    split
    · exact .inr ⟨old, _, stored, rfl, rfl, rfl⟩
    · left; simp

theorem claimLocked_spec (table : Table) (runId ownerId : OpaqueId) (row : Row)
    (stored : table runId = some row) (ttl : { micros : Nat // 0 < micros })
    (readAt now : Nat) :
    let result := claimLocked table (authorityFromRow runId row readAt) runId ownerId ttl now
    (result.1 = table ∧ ∀ lease, result.2 = .ok lease →
        row.activeAt readAt ∧ row.ownerId = ownerId ∧ lease.writerToken = row.token runId ∧
          lease.leasedUntil = row.leasedUntil) ∨
      ∃ new : Row, ¬ row.activeAt readAt ∧ new.generation = row.generation + 1 ∧
        new.ownerId = ownerId ∧ result.1 = Function.update table runId (some new) ∧
        result.2 = .ok (leaseFrom (new.token runId) now ttl) := by
  unfold claimLocked
  split
  next active =>
    left
    rw [authorityFromRow_active, decide_eq_true_eq] at active
    split
    next owner =>
      refine ⟨rfl, ?_⟩
      intro lease granted
      simp only [Except.ok.injEq] at granted
      subst granted
      exact ⟨active, owner, rfl, rfl⟩
    · simp
  next inactive =>
    rw [authorityFromRow_active, decide_eq_true_eq] at inactive
    rcases takeOver_spec table runId ownerId ttl now with kept |
      ⟨old, new, held, bumped, owner, took⟩
    · exact .inl ⟨kept.1, fun lease granted => absurd granted (kept.2 lease)⟩
    · rw [stored] at held
      cases held
      exact .inr ⟨new, inactive, bumped, owner, by simp [took], by simp [took]⟩

theorem claimLocked_change {ownerId : OpaqueId} {row : Row} (stored : table runId = some row)
    (ttl : { micros : Nat // 0 < micros }) {start finish readAt now : Nat} (late : start ≤ readAt)
    (other : OpaqueId) :
    RowChange start finish (table other)
      ((claimLocked table (authorityFromRow runId row readAt) runId ownerId ttl now).1 other) := by
  rcases claimLocked_spec table runId ownerId row stored ttl readAt now with
    ⟨same, -⟩ | ⟨new, inactive, bumped, -, updated, -⟩
  · rw [same]
    exact .same _
  · rw [updated]
    refine change_update ?_ other
    rw [stored]
    exact .retaken row new readAt late inactive bumped

theorem guard_iff (row : Row) (token : WriterToken) (now : Nat) :
    (decide (row.ownerId = token.ownerId) && decide (row.generation = token.generation) &&
        !row.revoked && decide (now < row.leasedUntil)) = true ↔
      row.token token.runId = token ∧ row.activeAt now := by
  obtain ⟨runId, ownerId, generation, positive⟩ := token
  simp [Row.token, Row.activeAt, and_assoc]

theorem renew_spec (table : Table) (token : WriterToken) (ttl : { micros : Nat // 0 < micros })
    (readAt updatedAt rereadAt : Nat) :
    let result := renew table token ttl readAt updatedAt rereadAt
    (result.1 = table ∧ ∃ authority, result.2 = .fenced authority) ∨
      ∃ row : Row, table token.runId = some row ∧ row.token token.runId = token ∧
        row.activeAt readAt ∧ row.activeAt updatedAt ∧
        result.1 = Function.update table token.runId
          (some { row with leasedUntil := updatedAt + ttl.val }) ∧
        result.2 = .renewed (leaseFrom token updatedAt ttl) := by
  unfold renew
  split
  · exact .inl ⟨rfl, _, rfl⟩
  next current found =>
    obtain ⟨row, stored, rfl⟩ := readLocked_some found
    split
    · exact .inl ⟨rfl, _, rfl⟩
    next held =>
      simp only [authorityFromRow_token, authorityFromRow_active, not_or, not_not,
        decide_eq_false_iff_not] at held
      dsimp only
      split
      next extended returned done =>
        obtain ⟨old, before, passed, rfl, rfl⟩ := updateReturning_some done
        rw [stored] at before
        cases before
        have valid := (guard_iff row token updatedAt).mp passed
        refine .inr ⟨row, stored, valid.1, held.2, valid.2, rfl, ?_⟩
        change RenewResult.renewed (leaseFrom (row.token token.runId) updatedAt ttl) = _
        rw [valid.1]
      · exact .inl ⟨rfl, _, rfl⟩

theorem release_spec (table : Table) (token : WriterToken) (readAt updatedAt rereadAt : Nat) :
    (release table token readAt updatedAt rereadAt).1 = table ∨
      ∃ row : Row, table token.runId = some row ∧ row.token token.runId = token ∧
        row.activeAt updatedAt ∧
        (release table token readAt updatedAt rereadAt).1 = Function.update table token.runId
          (some { row with leasedUntil := updatedAt, revoked := true }) := by
  unfold release
  split
  · exact .inl rfl
  next current found =>
    obtain ⟨row, stored, rfl⟩ := readLocked_some found
    split
    · exact .inl rfl
    · split
      · exact .inl rfl
      · split
        · exact .inl rfl
        · dsimp only
          split
          next retired returned done =>
            obtain ⟨old, before, passed, rfl, rfl⟩ := updateReturning_some done
            rw [stored] at before
            cases before
            have valid := (guard_iff row token updatedAt).mp passed
            exact .inr ⟨row, stored, valid.1, valid.2, rfl⟩
          · exact .inl rfl

variable (s : State)

theorem resumeClaim_change (position insert reread write : Nat) (runId : OpaqueId) :
    RowChange s.clock (resumeClaim s position insert reread write).1.clock (s.table runId)
      ((resumeClaim s position insert reread write).1.table runId) := by
  unfold resumeClaim
  split
  · exact .same _
  next waiting _ =>
    dsimp only
    split
    next inserted result done =>
      obtain ⟨row, absent, -, first, rfl, -⟩ := insertFirst_spec done
      refine change_update ?_ runId
      rw [absent]
      exact .first row first
    · split
      · exact .same _
      next current found =>
        obtain ⟨row, stored, rfl⟩ := readLocked_some found
        exact claimLocked_change stored _ (by omega) runId

theorem claim_change (runId ownerId : OpaqueId) (ttl : Int) (read write : Nat) (other : OpaqueId) :
    RowChange s.clock (claim s runId ownerId ttl read write).1.clock (s.table other)
      ((claim s runId ownerId ttl read write).1.table other) := by
  unfold claim
  split
  · exact .same _
  next micros _ =>
    split
    · exact .same _
    next current found =>
      obtain ⟨row, stored, rfl⟩ := readLocked_some found
      exact claimLocked_change stored _ (by omega) other

variable (label : Label)

theorem next_change (runId : OpaqueId) :
    RowChange s.clock (machine.next s label).clock (s.table runId)
      ((machine.next s label).table runId) := by
  cases label with
  | claim claimed ownerId ttl read write =>
    exact claim_change s claimed ownerId ttl read write runId
  | resumeClaim position insert reread write =>
    exact resumeClaim_change s position insert reread write runId
  | renew token ttl read update reread =>
    simp only [Machine.next, machine, step]
    split
    · exact .same _
    next micros _ =>
      dsimp only
      rcases renew_spec s.table token micros (s.clock + read) (s.clock + read + update)
          (s.clock + read + update + reread) with ⟨same, -⟩ |
          ⟨row, stored, -, -, active, updated, -⟩
      · rw [same]
        exact .same _
      · rw [updated]
        refine change_update ?_ runId
        rw [stored]
        exact .renewed row _ _ (by omega) active
  | release token read update reread =>
    simp only [Machine.next, machine, step]
    rcases release_spec s.table token (s.clock + read) (s.clock + read + update)
        (s.clock + read + update + reread) with same | ⟨row, stored, -, active, updated⟩
    · rw [same]
      exact .same _
    · rw [updated]
      refine change_update ?_ runId
      rw [stored]
      exact .released row _ (by omega) (by omega) active
  | read observed read => exact .same _

theorem activeAt_earlier {row : Row} {earlier later : Nat} (ordered : earlier ≤ later)
    (active : row.activeAt later) : row.activeAt earlier :=
  ⟨active.1, Nat.lt_of_le_of_lt ordered active.2⟩

theorem clock_le_next : s.clock ≤ (machine.next s label).clock := by
  cases label with
  | claim runId ownerId ttl read write =>
    simp only [Machine.next, machine, step, claim]
    split
    · exact Nat.le_refl _
    · split <;> simp [Nat.add_assoc]
  | resumeClaim position insert reread write =>
    simp only [Machine.next, machine, step, resumeClaim]
    split
    · exact Nat.le_refl _
    · split
      · simp [Nat.add_assoc]
      · split <;> simp [Nat.add_assoc]
  | renew token ttl read update reread =>
    simp only [Machine.next, machine, step]
    split
    · exact Nat.le_refl _
    · simp [Nat.add_assoc]
  | release token read update reread =>
    simp [Machine.next, machine, step, Nat.add_assoc]
  | read runId read => simp [Machine.next, machine, step]

-- Generations rise when the token of a run changes; a token that is no longer active keeps its row
-- until somebody takes the run over.
def Continues (s t : State) : Prop :=
  s.clock ≤ t.clock ∧ ∀ runId old, s.table runId = some old → ∃ new, t.table runId = some new ∧
    (old.generation < new.generation ∨
      new.token runId = old.token runId ∧ (¬ old.activeAt s.clock → new = old))

theorem Continues.refl : Continues s s :=
  ⟨Nat.le_refl _, fun _ old stored => ⟨old, stored, .inr ⟨rfl, fun _ => rfl⟩⟩⟩

theorem Continues.trans (a b c : State) (first : Continues a b) (second : Continues b c) :
    Continues a c := by
  refine ⟨Nat.le_trans first.1 second.1, ?_⟩
  intro runId old stored
  obtain ⟨mid, held, earlier⟩ := first.2 runId old stored
  obtain ⟨new, kept, later⟩ := second.2 runId mid held
  refine ⟨new, kept, ?_⟩
  rcases earlier with rising | ⟨same, settled⟩
  · left
    rcases later with more | ⟨same, -⟩
    · omega
    · have equal : new.generation = mid.generation := congrArg WriterToken.generation same
      omega
  · have equal : mid.generation = old.generation := congrArg WriterToken.generation same
    rcases later with more | ⟨again, lasting⟩
    · left
      omega
    · right
      refine ⟨again.trans same, ?_⟩
      intro inactive
      obtain rfl := settled inactive
      exact lasting fun active => inactive (activeAt_earlier first.1 active)

theorem next_continues : Continues s (machine.next s label) := by
  refine ⟨clock_le_next s label, ?_⟩
  intro runId old stored
  have change := next_change s label runId
  rw [stored] at change
  generalize (machine.next s label).table runId = after at change ⊢
  cases change with
  | same => exact ⟨old, rfl, .inr ⟨rfl, fun _ => rfl⟩⟩
  | retaken _ new readAt late inactive generation =>
    exact ⟨new, rfl, .inl (by omega)⟩
  | renewed _ updatedAt leasedUntil late active =>
    exact ⟨_, rfl, .inr ⟨rfl, fun inactive => absurd (activeAt_earlier late active) inactive⟩⟩
  | released _ updatedAt late within active =>
    exact ⟨_, rfl, .inr ⟨rfl, fun inactive => absurd (activeAt_earlier late active) inactive⟩⟩

theorem exec_continues (labels : List Label) : Continues s (machine.exec s labels) :=
  machine.exec_related (fun _ => True) (fun _ _ _ => trivial) Continues Continues.refl
    Continues.trans (fun s label _ => next_continues s label) s trivial labels

def Stored (table : Table) (token : WriterToken) : Prop :=
  ∃ row, table token.runId = some row ∧ row.token token.runId = token

def Active (table : Table) (token : WriterToken) (now : Nat) : Prop :=
  ∃ row, table token.runId = some row ∧ row.token token.runId = token ∧ row.activeAt now

theorem Stored.unique {a b : WriterToken} (first : Stored table a) (second : Stored table b)
    (run : a.runId = b.runId) : a = b := by
  obtain ⟨row, stored, token⟩ := first
  obtain ⟨other, held, same⟩ := second
  rw [← run, stored] at held
  cases held
  rw [← token, ← same, run]

variable {token : WriterToken}

theorem Active.stored {now : Nat} (active : Active table token now) : Stored table token :=
  ⟨active.choose, active.choose_spec.1, active.choose_spec.2.1⟩

theorem Continues.rising {s t : State} (continues : Continues s t) {a b : WriterToken}
    (before : Stored s.table a) (after : Stored t.table b) (run : a.runId = b.runId) :
    a = b ∨ a.generation < b.generation := by
  obtain ⟨old, stored, first⟩ := before
  obtain ⟨new, held, further⟩ := continues.2 _ old stored
  obtain ⟨row, kept, second⟩ := after
  rw [← run, held] at kept
  cases kept
  rw [← run] at second
  rw [first, second] at further
  rcases further with more | ⟨same, -⟩
  · right
    have older : a.generation = old.generation := congrArg WriterToken.generation first.symm
    have newer : b.generation = new.generation := congrArg WriterToken.generation second.symm
    omega
  · exact .inl same.symm

structure Fencing (s t : State) : Prop where
  oneActive : ∀ a b now, Active t.table a now → Active t.table b now → a.runId = b.runId → a = b
  rising : ∀ a b, Stored s.table a → Stored t.table b → a.runId = b.runId → a ≠ b →
    a.generation < b.generation
  superseded : ∀ a b, Stored s.table a → Stored t.table b → a.runId = b.runId → a ≠ b →
    ∀ later now, ¬ Active (machine.exec t later).table a now
  expired : ∀ a now, Stored s.table a → ¬ Active s.table a s.clock → s.clock ≤ now →
    ¬ Active t.table a now
  claimed : ∀ label lease, machine.answer t label = .claimed lease →
    match t.table lease.writerToken.runId with
    | none => lease.writerToken.generation = 1
    | some old =>
        ∃ readAt, t.clock ≤ readAt ∧ readAt ≤ lease.observedAt ∧
          (old.activeAt readAt ∧ lease.writerToken = old.token lease.writerToken.runId ∧
              lease.leasedUntil = old.leasedUntil ∧
              (machine.next t label).table = t.table ∨
            ¬ old.activeAt readAt ∧ lease.writerToken.generation = old.generation + 1)
  reclaimed : ∀ runId ownerId ttl read write row, 0 < ttl → t.table runId = some row →
    row.ownerId = ownerId → row.activeAt (t.clock + read) →
    ∃ lease, machine.answer t (.claim runId ownerId ttl read write) = .claimed lease ∧
      lease.writerToken = row.token runId ∧ lease.leasedUntil = row.leasedUntil
  notRenewed : ∀ token ttl read update reread,
    ¬ (Active t.table token (t.clock + read) ∧ Active t.table token (t.clock + read + update)) →
    (machine.next t (.renew token ttl read update reread)).table = t.table ∧
      ∀ lease, machine.answer t (.renew token ttl read update reread) ≠ .renewed (.renewed lease)
  renewedOnly : ∀ token ttl read update reread runId, runId ≠ token.runId →
    (machine.next t (.renew token ttl read update reread)).table runId = t.table runId
  readOnly : ∀ runId read, (machine.next t (.read runId read)).table = t.table

theorem Continues.lapsed {s t : State} (continues : Continues s t) {a : WriterToken} {now : Nat}
    (stored : Stored s.table a) (inactive : ¬ Active s.table a s.clock) (late : s.clock ≤ now) :
    ¬ Active t.table a now := by
  rintro ⟨row, held, token, active⟩
  obtain ⟨old, before, first⟩ := stored
  obtain ⟨new, after, further⟩ := continues.2 _ old before
  rw [held] at after
  cases after
  have idle : ¬ old.activeAt s.clock := fun running => inactive ⟨old, before, first, running⟩
  rcases further with more | ⟨-, lasting⟩
  · rw [← first] at token
    have equal : row.generation = old.generation := congrArg WriterToken.generation token
    omega
  · obtain rfl := lasting idle
    exact idle (activeAt_earlier late active)

theorem claimLocked_granted {ownerId : OpaqueId} {row : Row} (stored : table runId = some row)
    (ttl : { micros : Nat // 0 < micros }) {readAt now : Nat} (ordered : readAt ≤ now)
    {lease : WriterLease}
    (granted : (claimLocked table (authorityFromRow runId row readAt) runId ownerId ttl now).2 =
      .ok lease) :
    lease.writerToken.runId = runId ∧ readAt ≤ lease.observedAt ∧
      (row.activeAt readAt ∧ lease.writerToken = row.token runId ∧
          lease.leasedUntil = row.leasedUntil ∧
          (claimLocked table (authorityFromRow runId row readAt) runId ownerId ttl now).1 = table ∨
        ¬ row.activeAt readAt ∧ lease.writerToken.generation = row.generation + 1) := by
  by_cases active : row.activeAt readAt
  · unfold claimLocked at granted ⊢
    simp only [authorityFromRow_active, decide_eq_true_eq, active, dif_pos] at granted ⊢
    split at granted
    next owner =>
      simp only [Except.ok.injEq] at granted
      subst granted
      exact ⟨rfl, Nat.le_refl _, .inl ⟨trivial, rfl, rfl, by rw [if_pos owner]⟩⟩
    · cases granted
  · rcases claimLocked_spec table runId ownerId row stored ttl readAt now with
      ⟨-, reentrant⟩ | ⟨new, -, bumped, -, -, took⟩
    · exact absurd (reentrant lease granted).1 active
    · rw [took] at granted
      cases granted
      exact ⟨rfl, ordered, .inr ⟨active, bumped⟩⟩

theorem claimed_cases (lease : WriterLease) (granted : machine.answer s label = .claimed lease) :
    (∃ runId row, s.table runId = none ∧ row.generation = 1 ∧
        (machine.next s label).table = Function.update s.table runId (some row) ∧
        lease.writerToken = row.token runId) ∨
      ∃ runId ownerId row, ∃ ttl : { micros : Nat // 0 < micros }, ∃ readAt now,
        s.table runId = some row ∧ s.clock ≤ readAt ∧ readAt ≤ now ∧
          (machine.next s label).table =
            (claimLocked s.table (authorityFromRow runId row readAt) runId ownerId ttl now).1 ∧
          (claimLocked s.table (authorityFromRow runId row readAt) runId ownerId ttl now).2 =
            .ok lease := by
  cases label with
  | claim runId ownerId ttl read write =>
    simp only [Machine.answer, Machine.next, machine, step, claim] at granted ⊢
    split at granted
    · cases granted
    next micros _ =>
      split at granted
      · cases granted
      next current found =>
        obtain ⟨row, stored, rfl⟩ := readLocked_some found
        generalize outcome : (claimLocked s.table _ runId ownerId micros _).2 = result at granted
        cases result with
        | error error => cases granted
        | ok given =>
          cases granted
          exact .inr ⟨runId, ownerId, row, micros, s.clock + read, _, stored, by omega, by omega,
            rfl, outcome⟩
  | resumeClaim position insert reread write =>
    simp only [Machine.answer, Machine.next, machine, step, resumeClaim]
      at granted ⊢
    split at granted
    · cases granted
    next waiting chosen =>
      split at granted
      next inserted result done =>
        obtain ⟨row, absent, -, first, rfl, rfl⟩ := insertFirst_spec done
        cases granted
        exact .inl ⟨waiting.runId, row, absent, first, rfl, rfl⟩
      next conflict =>
        split at granted
        · cases granted
        next current found =>
          obtain ⟨row, stored, rfl⟩ := readLocked_some found
          generalize outcome : (claimLocked s.table _ waiting.runId waiting.ownerId
            waiting.ttl _).2 = result at granted
          cases result with
          | error error => cases granted
          | ok given =>
            cases granted
            exact .inr ⟨waiting.runId, waiting.ownerId, row, waiting.ttl,
              s.clock + insert + reread, _, stored, by omega, by omega, rfl, outcome⟩
  | renew token ttl read update reread =>
    simp only [Machine.answer, machine, step] at granted
    split at granted <;> cases granted
  | release token read update reread => cases granted
  | read runId read => cases granted

theorem answer_claimed (lease : WriterLease) (granted : machine.answer s label = .claimed lease) :
    match s.table lease.writerToken.runId with
    | none => lease.writerToken.generation = 1
    | some old =>
        ∃ readAt, s.clock ≤ readAt ∧ readAt ≤ lease.observedAt ∧
          (old.activeAt readAt ∧ lease.writerToken = old.token lease.writerToken.runId ∧
              lease.leasedUntil = old.leasedUntil ∧ (machine.next s label).table = s.table ∨
            ¬ old.activeAt readAt ∧ lease.writerToken.generation = old.generation + 1) := by
  rcases claimed_cases s label lease granted with ⟨runId, row, absent, first, -, token⟩ |
    ⟨runId, ownerId, row, ttl, readAt, now, stored, since, ordered, after, outcome⟩
  · rw [token]
    simp only [Row.token, absent, first]
  · obtain ⟨run, early, further⟩ := claimLocked_granted stored ttl ordered outcome
    simp only [run, stored]
    rw [after]
    exact ⟨readAt, since, early, further⟩

theorem claimLocked_stored {ownerId : OpaqueId} {row : Row} (stored : table runId = some row)
    (ttl : { micros : Nat // 0 < micros }) (readAt now : Nat) {lease : WriterLease}
    (granted : (claimLocked table (authorityFromRow runId row readAt) runId ownerId ttl now).2 =
      .ok lease) :
    Stored (claimLocked table (authorityFromRow runId row readAt) runId ownerId ttl now).1
      lease.writerToken := by
  rcases claimLocked_spec table runId ownerId row stored ttl readAt now with
    ⟨same, reentrant⟩ | ⟨new, -, -, -, updated, took⟩
  · obtain ⟨-, -, token, -⟩ := reentrant lease granted
    rw [same, token]
    exact ⟨row, stored, rfl⟩
  · rw [took] at granted
    cases granted
    rw [updated]
    exact ⟨new, Function.update_self .., rfl⟩

theorem answer_stored (lease : WriterLease) (granted : machine.answer s label = .claimed lease) :
    Stored (machine.next s label).table lease.writerToken := by
  rcases claimed_cases s label lease granted with ⟨runId, row, -, -, after, token⟩ |
    ⟨runId, ownerId, row, ttl, readAt, now, stored, -, -, after, outcome⟩
  · rw [after, token]
    exact ⟨row, Function.update_self .., rfl⟩
  · rw [after]
    exact claimLocked_stored stored ttl readAt now outcome

def Superseded (table : Table) (token : WriterToken) : Prop :=
  ∃ row, table token.runId = some row ∧ token.generation < row.generation

theorem Superseded.unstored (superseded : Superseded table token) : ¬ Stored table token := by
  rintro ⟨row, stored, same⟩
  obtain ⟨newer, held, more⟩ := superseded
  rw [stored] at held
  cases held
  have equal : row.generation = token.generation := congrArg WriterToken.generation same
  omega

theorem Continues.superseded {s t : State} (continues : Continues s t)
    (superseded : Superseded s.table token) : Superseded t.table token := by
  obtain ⟨old, stored, more⟩ := superseded
  obtain ⟨new, held, further⟩ := continues.2 _ old stored
  refine ⟨new, held, ?_⟩
  rcases further with later | ⟨same, -⟩
  · omega
  · have equal : new.generation = old.generation := congrArg WriterToken.generation same
    omega

theorem Continues.stored {s t : State} (continues : Continues s t) (stored : Stored s.table token) :
    Stored t.table token ∨ Superseded t.table token := by
  obtain ⟨old, held, same⟩ := stored
  obtain ⟨new, kept, further⟩ := continues.2 _ old held
  rcases further with later | ⟨again, -⟩
  · right
    refine ⟨new, kept, ?_⟩
    have equal : old.generation = token.generation := congrArg WriterToken.generation same
    omega
  · exact .inl ⟨new, kept, again.trans same⟩

theorem ttlMicroseconds_pos {ttl : Int} (positive : 0 < ttl) :
    ∃ micros, ttlMicroseconds ttl = some micros := by
  have natural : 0 < ttl.toNat := by omega
  exact ⟨⟨ttl.toNat, natural⟩, by simp [ttlMicroseconds, natural]⟩

theorem claim_reentrant (runId ownerId : OpaqueId) (ttl : Int) (read write : Nat) (row : Row)
    (positive : 0 < ttl) (stored : s.table runId = some row) (owner : row.ownerId = ownerId)
    (active : row.activeAt (s.clock + read)) :
    ∃ lease, machine.answer s (.claim runId ownerId ttl read write) = .claimed lease ∧
      lease.writerToken = row.token runId ∧ lease.leasedUntil = row.leasedUntil := by
  obtain ⟨micros, valid⟩ := ttlMicroseconds_pos positive
  have found : readLocked s.table runId (s.clock + read) =
      some (authorityFromRow runId row (s.clock + read)) := by simp [readLocked, stored]
  have running : (authorityFromRow runId row (s.clock + read)).active = true := by
    simpa using active
  refine ⟨⟨row.token runId, row.leasedUntil, s.clock + read, active.2⟩, ?_, rfl, rfl⟩
  simp only [Machine.answer, machine, step, claim, valid, found, claimLocked, running,
    dif_pos]
  simp [authorityFromRow, Row.token, owner, Answer.ofClaim]

theorem renew_stale (token : WriterToken) (ttl : Int) (read update reread : Nat)
    (stale : ¬ (Active s.table token (s.clock + read) ∧
      Active s.table token (s.clock + read + update))) :
    (machine.next s (.renew token ttl read update reread)).table = s.table ∧
      ∀ lease, machine.answer s (.renew token ttl read update reread) ≠
        .renewed (.renewed lease) := by
  simp only [Machine.next, Machine.answer, machine, step]
  split
  · simp
  next micros _ =>
    rcases renew_spec s.table token micros (s.clock + read) (s.clock + read + update)
        (s.clock + read + update + reread) with
      ⟨same, authority, refused⟩ | ⟨row, stored, same, first, second, -, -⟩
    · refine ⟨same, ?_⟩
      intro lease granted
      simp only [refused, Answer.renewed.injEq, reduceCtorEq] at granted
    · exact absurd ⟨⟨row, stored, same, first⟩, ⟨row, stored, same, second⟩⟩ stale

theorem renew_other (token : WriterToken) (ttl : Int) (read update reread : Nat) (runId : OpaqueId)
    (other : runId ≠ token.runId) :
    (machine.next s (.renew token ttl read update reread)).table runId = s.table runId := by
  simp only [Machine.next, machine, step]
  split
  · rfl
  next micros _ =>
    rcases renew_spec s.table token micros (s.clock + read) (s.clock + read + update)
        (s.clock + read + update + reread) with ⟨same, -⟩ | ⟨row, -, -, -, -, updated, -⟩
    · rw [same]
    · simp only [updated, Function.update_of_ne other]

theorem Continues.fencing {s t : State} (continues : Continues s t) : Fencing s t where
  oneActive _ _ _ first second run := first.stored.unique second.stored run
  rising a b before after run different :=
    (continues.rising before after run).resolve_left different
  superseded a b before after run different later now active := by
    have more := (continues.rising before after run).resolve_left different
    rcases (exec_continues t later).rising after active.stored run.symm with same | less
    · exact different same.symm
    · omega
  expired a now stored inactive late := continues.lapsed stored inactive late
  claimed := answer_claimed t
  reclaimed := claim_reentrant t
  notRenewed := renew_stale t
  renewedOnly := renew_other t
  readOnly _ _ := rfl

theorem writer_authority_fenced (earlier later : List Label) :
    Fencing (machine.exec machine.init earlier)
      (machine.exec (machine.exec machine.init earlier) later) :=
  (exec_continues _ later).fencing

end MonoidKernel.Authority
