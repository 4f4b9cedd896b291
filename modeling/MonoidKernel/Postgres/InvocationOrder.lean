import MonoidKernel.Library.ChainedLog
import MonoidKernel.Library.NumberedLog
import MonoidKernel.Postgres.InvocationJournal

set_option autoImplicit false

namespace MonoidKernel

namespace InvocationJournal

variable {Facts Digest : Type} [DecidableEq Digest]
variable {codec : InvocationCodec Facts Digest}

def accepted (journal : CallJournal Facts Digest) : List (InvocationFields Facts Digest) :=
  journal.records.filterMap fun row => row.payload.decode

def First (fields : InvocationFields Facts Digest) : Prop :=
  fields.revision = 1 ∧ fields.dispatchAttempt = 1 ∧ fields.dispatchState = .reserved

def Advances (previous next : InvocationFields Facts Digest) : Prop :=
  (previous.dispatchState = .reserved ∧ next.dispatchState = .dispatchStarted ∨
    previous.dispatchState = .dispatchStarted ∧
      (next.dispatchState = .settled ∨ next.dispatchState = .unknown)) ∧
    next.dispatchAttempt = previous.dispatchAttempt ∧ next.dispatchId = previous.dispatchId

def Retries (previous next : InvocationFields Facts Digest) : Prop :=
  retryableFailure previous = true ∧ next.dispatchState = .reserved ∧
    next.dispatchAttempt = previous.dispatchAttempt + 1

structure Follows (previous next : InvocationFields Facts Digest) : Prop where
  revision : next.revision = previous.revision + 1
  stable : stableFields next = stableFields previous
  transition : Advances previous next ∨ Retries previous next

def outboxRow (codec : InvocationCodec Facts Digest) (row : InvocationRow Facts Digest) :
    Option (EvidenceRow Facts Digest) :=
  if row.typed.evidencePolicy = .outbox ∧ row.typed.dispatchState = .settled then
    some ⟨row.payload, ∅, codec.recordDigest row.payload ∅, evidenceTypedPayload row.payload⟩
  else none

structure Sound (codec : InvocationCodec Facts Digest) (runId logicalCallId : OpaqueId)
    (row : InvocationRow Facts Digest) : Prop where
  intact : Intact codec.recordDigest invocationTypedPayload row
  decoded : ∃ fields, row.payload.decode = some fields ∧ fields.runId = runId ∧
    fields.logicalCallId = logicalCallId

structure CallInv (codec : InvocationCodec Facts Digest) (runId logicalCallId : OpaqueId)
    (journal : CallJournal Facts Digest) : Prop where
  sound : ∀ row ∈ journal.records, Sound codec runId logicalCallId row
  numbered : Library.Numbered (fun row => row.typed.revision) journal.records
  head : journal.head = if journal.records = [] then none else some journal.records.length
  chained : Library.Chained First Follows (accepted journal)
  attempts : ∀ a ∈ accepted journal, ∀ b ∈ accepted journal,
    a.dispatchId = b.dispatchId ↔ a.dispatchAttempt = b.dispatchAttempt
  outbox : journal.outbox = journal.records.filterMap (outboxRow codec)

variable {payload : InvocationPayload Facts Digest} {fields : InvocationFields Facts Digest}

theorem decode_typed (decoded : payload.decode = some fields) :
    invocationTypedPayload payload = insertedColumns fields payload := by
  obtain ⟨policy, -, same⟩ := InvocationPayload.decode_some decoded
  have known : payload.evidencePolicy.getD
      (if payload.requiresEvidence.getD false then .required else .passive) =
        fields.evidencePolicy := by
    unfold InvocationPayload.modelEvidencePolicy at policy
    split at policy
    next spelled _ => simpa [spelled] using policy
    next spelled _ =>
      split at policy
      · simpa [spelled] using policy
      · cases policy
    next spelled => simpa [spelled] using policy
  rw [same]
  simp [invocationTypedPayload, insertedColumns, known]

variable {invocation : DurableModelInvocation Facts Digest}

theorem insertedColumns_eq
    (written : modelInvocationPayloadForWrite codec.canonicalSha256 invocation = some payload) :
    insertedColumns invocation.fields payload = invocationTypedPayload payload := by
  obtain ⟨fields, decoded, same⟩ := modelInvocationPayloadForWrite_spec _ written
  rw [decode_typed decoded]
  simp only [InvocationFields.toJson, InvocationPayload.mk.injEq, Option.some.injEq] at same
  simp [insertedColumns, same]

theorem insertedEvidenceColumns_eq
    (written : modelInvocationPayloadForWrite codec.canonicalSha256 invocation = some payload) :
    insertedEvidenceColumns invocation.fields payload = evidenceTypedPayload payload := by
  unfold evidenceTypedPayload
  rw [← insertedColumns_eq written]
  rfl

variable {runId logicalCallId : OpaqueId} {row : InvocationRow Facts Digest}

theorem checkedRecord_eq (sound : Sound codec runId logicalCallId row) :
    checkedRecord codec row = row.payload.decode := by
  simp [checkedRecord, checkedStoredDigest, sound.intact.1, sound.intact.2]

theorem Sound.revision (sound : Sound codec runId logicalCallId row)
    (decoded : row.payload.decode = some fields) :
    row.typed = insertedColumns fields row.payload := by
  rw [← sound.intact.2, decode_typed decoded]

theorem decode_map {rows : List (InvocationRow Facts Digest)}
    (sound : ∀ row ∈ rows, Sound codec runId logicalCallId row) :
    rows.map (fun row => row.payload.decode) =
      (rows.filterMap fun row => row.payload.decode).map some := by
  induction rows with
  | nil => rfl
  | cons row rest ih =>
    obtain ⟨fields, decoded, -⟩ := (sound row (by simp)).decoded
    have tail := ih fun other member => sound other (List.mem_cons_of_mem _ member)
    simp [decoded, tail]

variable {journal : CallJournal Facts Digest}

theorem accepted_length (sound : ∀ row ∈ journal.records, Sound codec runId logicalCallId row) :
    (accepted journal).length = journal.records.length := by
  have same := congrArg List.length (decode_map sound)
  simpa [accepted] using same.symm

theorem accepted_mem :
    fields ∈ accepted journal ↔ ∃ row ∈ journal.records, row.payload.decode = some fields := by
  simp [accepted]

theorem CallInv.last (inv : CallInv codec runId logicalCallId journal)
    (found : journal.head.bind (recordAt journal) = some row) :
    ∃ fields, row.payload.decode = some fields ∧ (accepted journal).getLast? = some fields ∧
      row ∈ journal.records ∧ fields.revision = journal.records.length ∧
      row.typed.revision = journal.records.length := by
  obtain ⟨revision, head, found⟩ := Option.bind_eq_some_iff.mp found
  obtain ⟨member, same⟩ := Library.find_number_some found
  rw [inv.head] at head
  split at head
  · cases head
  next nonempty =>
    simp only [Option.some.injEq] at head
    obtain ⟨fields, decoded, -⟩ := (inv.sound row member).decoded
    have typed := congrArg InvocationTyped.revision ((inv.sound row member).revision decoded)
    -- The last row carries the same number, so it is this row.
    obtain ⟨front, last, split⟩ := (List.eq_nil_or_concat journal.records).resolve_left nonempty
    rw [List.concat_eq_append] at split
    have numberedLast : last.typed.revision = journal.records.length := by
      have listed := congrArg List.getLast? inv.numbered
      rw [split] at listed
      simpa [List.getLast?_range', split] using listed
    have equal : row = last := by
      apply inv.numbered.number_inj member
      · rw [split]
        simp
      · exact same.trans (head.symm.trans numberedLast.symm)
    subst equal
    refine ⟨fields, decoded, ?_, member, ?_, numberedLast⟩
    · simp [accepted, split, decoded]
    · exact typed.symm.trans numberedLast

variable {previous : InvocationFields Facts Digest}

variable {next : InvocationFields Facts Digest}

omit [DecidableEq Digest] in
theorem follows_congr {other : InvocationFields Facts Digest} (same : other.toJson = next.toJson)
    (follows : Follows previous next) :
    Follows previous other := by
  obtain ⟨revision, stable, transition⟩ := follows
  have equal := same
  simp only [InvocationFields.toJson, InvocationPayload.mk.injEq, Option.some.injEq] at equal
  refine ⟨by simp [equal, revision], ?_, ?_⟩
  · rw [← stable]
    simp only [stableFields, same]
  · simpa [Advances, Retries, equal] using transition

theorem mayFollow_spec (sound : ∀ row ∈ journal.records, Sound codec runId logicalCallId row)
    (allowed : mayFollow codec journal previous invocation = true) :
    Follows previous invocation.fields ∧ (Retries previous invocation.fields →
      ∀ fields ∈ accepted journal, fields.dispatchId ≠ invocation.fields.dispatchId) := by
  simp only [mayFollow, Bool.and_eq_true, decide_eq_true_eq] at allowed
  obtain ⟨⟨revision, stable⟩, transition⟩ := allowed
  split at transition
  next closed =>
    simp only [Bool.and_eq_true, decide_eq_true_eq, Bool.not_eq_true'] at transition
    obtain ⟨⟨⟨failed, reserved⟩, attempt⟩, unused⟩ := transition
    refine ⟨⟨revision, stable, .inr ⟨failed, reserved, attempt⟩⟩, ?_⟩
    intro _ fields member same
    obtain ⟨row, stored, decoded⟩ := accepted_mem.mp member
    unfold dispatchIdWasUsed at unused
    have fresh := List.any_eq_false.mp unused row stored
    simp [checkedRecord_eq (sound row stored), decoded, same] at fresh
  next running =>
    simp only [Bool.and_eq_true, decide_eq_true_eq, List.contains_iff_mem] at transition
    obtain ⟨⟨attempt, dispatch⟩, next⟩ := transition
    refine ⟨⟨revision, stable, .inl ⟨?_, attempt, dispatch⟩⟩, ?_⟩
    · cases state : previous.dispatchState with
      | reserved => simpa [state, allowedNext] using next
      | dispatchStarted => simpa [state, allowedNext] using next
      | settled => simp [state] at running
      | unknown => simp [state] at running
    · rintro ⟨-, -, more⟩
      omega

theorem invocationTransitionWinner_spec (inv : CallInv codec runId logicalCallId journal)
    (wins : invocationTransitionWinner codec journal invocation = none) :
    invocation.fields.revision = journal.records.length + 1 ∧
      (journal.records = [] ∧ First invocation.fields ∨
        ∃ previous, (accepted journal).getLast? = some previous ∧
          Follows previous invocation.fields ∧ (Retries previous invocation.fields →
            ∀ fields ∈ accepted journal, fields.dispatchId ≠ invocation.fields.dispatchId)) := by
  unfold invocationTransitionWinner at wins
  dsimp only at wins
  split at wins
  next absent =>
    split at wins
    next opening =>
      have empty : journal.records = [] := by
        rw [inv.head] at absent
        by_contra nonempty
        simp [nonempty] at absent
      simp [empty, First, opening]
    · cases wins
  next revision head =>
    split at wins
    · cases wins
    next row found =>
      obtain ⟨fields, decoded, ending, member, number, column⟩ :=
        inv.last (by rw [head, Option.bind_some, found])
      rw [checkedRecord_eq (inv.sound row member), decoded] at wins
      simp only at wins
      split at wins
      next allowed =>
        obtain ⟨-, -, -, allowed⟩ := allowed
        have spec := mayFollow_spec inv.sound allowed
        refine ⟨by rw [spec.1.revision, number], .inr ⟨fields, ending, spec⟩⟩
      · cases wins

structure Entry (codec : InvocationCodec Facts Digest) (journal : CallJournal Facts Digest)
    (store : BlobStore Digest) (invocation : DurableModelInvocation Facts Digest)
    (blobs : List (Digest × Bytes)) (stageEvidence : Bool)
    (payload : InvocationPayload Facts Digest) (persisted : BlobStore Digest) : Prop where
  range : invocation.fields.revision ≤ postgresBigintMax ∧
    invocation.fields.dispatchAttempt ≤ postgresBigintMax
  staged : stageEvidence = true ↔
    invocation.fields.evidencePolicy = .outbox ∧ invocation.fields.dispatchState = .settled
  bounded : BlobStore.validatedBlobs codec.sha256 codec.maxBlobBytes blobs = true
  written : modelInvocationPayloadForWrite codec.canonicalSha256 invocation = some payload
  references : BlobStore.referencesResolve codec.sha256 store invocation.fields.runId
    (resultReferences invocation.fields.resultRef) blobs = true
  free : recordAt journal invocation.fields.revision = none
  wins : invocationTransitionWinner codec journal invocation = none
  persists : BlobStore.persistBlobs store invocation.fields.runId blobs = some persisted

def insertedRow (codec : InvocationCodec Facts Digest) (fields : InvocationFields Facts Digest)
    (payload : InvocationPayload Facts Digest) (blobs : List (Digest × Bytes)) :
    InvocationRow Facts Digest :=
  ⟨payload, BlobStore.blobProjection blobs,
    codec.recordDigest payload (BlobStore.blobProjection blobs), insertedColumns fields payload⟩

def accept (codec : InvocationCodec Facts Digest) (journal : CallJournal Facts Digest)
    (row : InvocationRow Facts Digest) : CallJournal Facts Digest :=
  { journal with
    records := journal.records ++ [row]
    head := some row.typed.revision
    outbox := journal.outbox ++ (outboxRow codec row).toList }

variable {result : CommitResult Digest}

variable {contentDigest : Digest}

theorem evidenceCoordinate_uncommitted {rows : List (EvidenceRow Facts Digest)}
    (found : evidenceCoordinate codec rows invocation payload contentDigest = some result) :
    result.status ≠ .committed := by
  obtain ⟨-, -, conflict | ⟨repeated, -⟩⟩ := storedResult_status found
  · simp [conflict]
  · simp [repeated]

theorem commitEvidenceLocked_spec (codec : InvocationCodec Facts Digest) (outbox : Bool)
    (journal : CallJournal Facts Digest) (invocation : DurableModelInvocation Facts Digest) :
    let result := commitEvidenceLocked codec outbox journal invocation
    result.1 = journal ∧ result.2.status ≠ .committed ∨
      result.2.status = .committed ∧ ∃ payload,
        modelInvocationPayloadForWrite codec.canonicalSha256 invocation = some payload ∧
        let row : EvidenceRow Facts Digest :=
          ⟨payload, ∅, codec.recordDigest payload ∅, evidenceTypedPayload payload⟩
        result.1 = if outbox then { journal with outbox := journal.outbox ++ [row] }
          else { journal with evidence := journal.evidence ++ [row] } := by
  unfold commitEvidenceLocked
  dsimp only
  split
  · exact .inl ⟨rfl, by simp⟩
  · split
    · exact .inl ⟨rfl, by simp⟩
    next payload written =>
      split
      · exact .inl ⟨rfl, by simp⟩
      · split
        next result found => exact .inl ⟨rfl, evidenceCoordinate_uncommitted found⟩
        · rw [insertedEvidenceColumns_eq written]
          exact .inr ⟨rfl, payload, written, rfl⟩

theorem commitInvocationLocked_spec (codec : InvocationCodec Facts Digest)
    (journal : CallJournal Facts Digest) (store : BlobStore Digest)
    (invocation : DurableModelInvocation Facts Digest) (blobs : List (Digest × Bytes))
    (stageEvidence : Bool) :
    let result := commitInvocationLocked codec journal store invocation blobs stageEvidence
    result.1 = journal ∧ result.2.1 = store ∧ result.2.2.status ≠ .committed ∨
      result.2.2.status = .committed ∧ ∃ payload,
        Entry codec journal store invocation blobs stageEvidence payload result.2.1 ∧
        result.1 = accept codec journal (insertedRow codec invocation.fields payload blobs) := by
  unfold commitInvocationLocked
  dsimp only
  split
  · exact .inl ⟨rfl, rfl, by simp⟩
  next range =>
    split
    · exact .inl ⟨rfl, rfl, by simp⟩
    next staging =>
      split
      · exact .inl ⟨rfl, rfl, by simp⟩
      next bounded =>
        split
        · exact .inl ⟨rfl, rfl, by simp⟩
        next payload written =>
          split
          · exact .inl ⟨rfl, rfl, by simp⟩
          · split
            · exact .inl ⟨rfl, rfl, by simp⟩
            next references =>
              split
              next stored found =>
                have repeated : stored.status ≠ .committed := by
                  obtain ⟨-, -, conflict | ⟨again, -⟩⟩ := storedResult_status found
                  · simp [conflict]
                  · simp [again]
                split
                · exact .inl ⟨rfl, rfl, by simp⟩
                · exact .inl ⟨rfl, rfl, repeated⟩
              next absent =>
                split
                · exact .inl ⟨rfl, rfl, by simp⟩
                next wins =>
                  split
                  · exact .inl ⟨rfl, rfl, by simp⟩
                  next persisted persists =>
                    have staged : stageEvidence = true ↔
                        invocation.fields.evidencePolicy = .outbox ∧
                          invocation.fields.dispatchState = .settled := by
                      cases stageEvidence <;> simp_all
                    have entry : Entry codec journal store invocation blobs stageEvidence payload
                        persisted :=
                      ⟨⟨by omega, by omega⟩, staged, by simpa using bounded, written,
                        by simpa using references, storedResult_none absent, wins, persists⟩
                    cases stageEvidence with
                    | false =>
                      have none : ¬ (invocation.fields.evidencePolicy = .outbox ∧
                          invocation.fields.dispatchState = .settled) := by
                        intro both
                        exact absurd (staged.mpr both) (by simp)
                      simp only [Bool.false_eq_true, if_false, if_true]
                      refine .inr ⟨trivial, payload, entry, ?_⟩
                      simp [accept, insertedRow, outboxRow, insertedColumns, none]
                    | true =>
                      simp only [if_true]
                      rcases commitEvidenceLocked_spec codec true _ invocation with
                        ⟨-, refused⟩ | ⟨committed, again, rewritten, outcome⟩
                      · rw [if_neg refused]
                        exact .inl ⟨rfl, rfl, by simp⟩
                      · rw [if_pos committed]
                        refine .inr ⟨rfl, payload, entry, ?_⟩
                        rw [written] at rewritten
                        cases rewritten
                        rw [outcome]
                        simp [accept, insertedRow, outboxRow, insertedColumns, staged.mp rfl]

omit [DecidableEq Digest] in
theorem Follows.attempt_le (follows : Follows previous next) :
    previous.dispatchAttempt ≤ next.dispatchAttempt := by
  rcases follows.transition with ⟨-, attempt, -⟩ | ⟨-, -, attempt⟩ <;> omega

theorem attempts_append (chained : Library.Chained First Follows (accepted journal))
    (attempts : ∀ a ∈ accepted journal, ∀ b ∈ accepted journal,
      a.dispatchId = b.dispatchId ↔ a.dispatchAttempt = b.dispatchAttempt)
    (ending : (accepted journal).getLast? = some previous) (follows : Follows previous next)
    (unused : Retries previous next → ∀ fields ∈ accepted journal,
      fields.dispatchId ≠ next.dispatchId) (member : fields ∈ accepted journal) :
    fields.dispatchId = next.dispatchId ↔ fields.dispatchAttempt = next.dispatchAttempt := by
  have held : previous ∈ accepted journal := List.mem_of_getLast? ending
  have before : fields.dispatchAttempt ≤ previous.dispatchAttempt :=
    chained.measure_le _ (fun _ _ step => step.attempt_le) member ending
  rcases follows.transition with ⟨-, attempt, dispatch⟩ | retries
  · rw [attempt, dispatch]
    exact attempts fields member previous held
  · have fresh := unused retries fields member
    obtain ⟨-, -, attempt⟩ := retries
    constructor
    · intro same
      exact absurd same fresh
    · intro same
      omega

variable {blobs : List (Digest × Bytes)} {stageEvidence : Bool}

theorem accept_inv (inv : CallInv codec runId logicalCallId journal)
    {store persisted : BlobStore Digest}
    (entry : Entry codec journal store invocation blobs stageEvidence payload persisted)
    (run : invocation.fields.runId = runId)
    (call : invocation.fields.logicalCallId = logicalCallId) :
    CallInv codec runId logicalCallId
      (accept codec journal (insertedRow codec invocation.fields payload blobs)) := by
  obtain ⟨revision, opening⟩ := invocationTransitionWinner_spec inv entry.wins
  obtain ⟨fields, decoded, same⟩ := modelInvocationPayloadForWrite_spec _ entry.written
  have equal := same
  simp only [InvocationFields.toJson, InvocationPayload.mk.injEq, Option.some.injEq] at equal
  have grown : accepted (accept codec journal (insertedRow codec invocation.fields payload blobs)) =
      accepted journal ++ [fields] := by
    simp [accepted, accept, insertedRow, decoded]
  have link (previous : InvocationFields Facts Digest)
      (ending : (accepted journal).getLast? = some previous) : Follows previous fields ∧
        (Retries previous fields → ∀ other ∈ accepted journal,
          other.dispatchId ≠ fields.dispatchId) := by
    rcases opening with ⟨empty, -⟩ | ⟨found, last, follows, unused⟩
    · simp [accepted, empty] at ending
    · rw [ending] at last
      cases last
      refine ⟨follows_congr same follows, ?_⟩
      simpa [Retries, equal] using unused
  refine ⟨?_, ?_, ?_, ?_, ?_, ?_⟩
  · intro row member
    rcases List.mem_append.mp member with earlier | added
    · exact inv.sound row earlier
    · rw [List.mem_singleton.mp added]
      refine ⟨⟨rfl, (insertedColumns_eq entry.written).symm⟩, fields, decoded, ?_, ?_⟩
      · rw [← run, equal.2.1]
      · rw [← call, equal.2.2.1]
  · apply inv.numbered.append
    exact revision
  · simp [accept, insertedRow, insertedColumns, revision]
  · rw [grown]
    apply inv.chained.append
    · intro empty
      rcases opening with ⟨-, first⟩ | ⟨found, last, -⟩
      · simpa [First, equal] using first
      · rw [empty] at last
        cases last
    · intro last ending
      exact (link last ending).1
  · rw [grown]
    have mixed (other : InvocationFields Facts Digest) (member : other ∈ accepted journal) :
        other.dispatchId = fields.dispatchId ↔ other.dispatchAttempt = fields.dispatchAttempt := by
      have nonempty : accepted journal ≠ [] := List.ne_nil_of_mem member
      obtain ⟨follows, unused⟩ := link _ (List.getLast?_eq_some_getLast nonempty)
      exact attempts_append inv.chained inv.attempts (List.getLast?_eq_some_getLast nonempty)
        follows unused member
    intro a first b second
    rcases List.mem_append.mp first with first | first <;>
      rcases List.mem_append.mp second with second | second
    · exact inv.attempts a first b second
    · rw [List.mem_singleton.mp second]
      exact mixed a first
    · rw [List.mem_singleton.mp first]
      constructor
      · intro dispatch
        exact ((mixed b second).mp dispatch.symm).symm
      · intro attempt
        exact ((mixed b second).mpr attempt.symm).symm
    · rw [List.mem_singleton.mp first, List.mem_singleton.mp second]
      simp
  · simp only [accept, inv.outbox, List.filterMap_append]
    congr 1

def Accepts (codec : InvocationCodec Facts Digest) (s : State Facts Digest) (token : WriterToken)
    (invocation : DurableModelInvocation Facts Digest) (blobs : List (Digest × Bytes))
    (stageEvidence : Bool) (wait : Nat) : Prop :=
  invocation.fields.runId = token.runId ∧
    Authority.Active s.authority.table token (s.authority.clock + wait) ∧
    (commitInvocationLocked codec
      (s.calls invocation.fields.runId invocation.fields.logicalCallId) s.blobs invocation blobs
      stageEvidence).2.2.status = .committed

variable {s : State Facts Digest}

variable {token : WriterToken}

omit [DecidableEq Digest] in
theorem current_iff {wait : Nat} :
    (s.wait wait).current token = true ↔
      Authority.Active s.authority.table token (s.authority.clock + wait) :=
  currentWriterLocked_iff _ _ _

def Inserted (codec : InvocationCodec Facts Digest) (s t : State Facts Digest)
    (invocation : DurableModelInvocation Facts Digest) (blobs : List (Digest × Bytes))
    (stageEvidence : Bool) : Prop :=
  ∃ payload, Entry codec (s.calls invocation.fields.runId invocation.fields.logicalCallId) s.blobs
      invocation blobs stageEvidence payload t.blobs ∧
    t.calls = Function.update s.calls invocation.fields.runId
      (Function.update (s.calls invocation.fields.runId) invocation.fields.logicalCallId
        (accept codec (s.calls invocation.fields.runId invocation.fields.logicalCallId)
          (insertedRow codec invocation.fields payload blobs)))

omit [DecidableEq Digest] in
theorem setCall_same (s : State Facts Digest) (runId logicalCallId : OpaqueId) :
    (s.setCall runId logicalCallId (s.calls runId logicalCallId)).calls = s.calls := by
  simp [State.setCall]

theorem next_commitInvocation (codec : InvocationCodec Facts Digest) (s : State Facts Digest)
    (token : WriterToken)
    (invocation : DurableModelInvocation Facts Digest) (blobs : List (Digest × Bytes))
    (stageEvidence : Bool) (wait : Nat) (fault : Fault) :
    let t := (machine codec).next s
      (.commitInvocation token invocation blobs stageEvidence wait fault)
    (¬ Accepts codec s token invocation blobs stageEvidence wait ∨ fault.keeps = false →
        t.calls = s.calls ∧ t.blobs = s.blobs) ∧
      (Accepts codec s token invocation blobs stageEvidence wait → fault.keeps = true →
        Inserted codec s t invocation blobs stageEvidence) := by
  simp only [Library.Machine.next, machine, step, commitInvocation]
  split
  next other =>
    refine ⟨fun _ => ⟨rfl, rfl⟩, fun accepts => absurd accepts.1 other⟩
  next run =>
    split
    next current =>
      have active := current_iff.mp current
      rcases commitInvocationLocked_spec codec
          (s.calls invocation.fields.runId invocation.fields.logicalCallId) s.blobs invocation blobs
          stageEvidence with ⟨journal, store, refused⟩ | ⟨committed, payload, entry, journal⟩
      · refine ⟨fun _ => ?_, fun accepts => absurd accepts.2.2 refused⟩
        dsimp only
        split
        · refine ⟨?_, store⟩
          change (State.setCall (s.wait wait) _ _ (commitInvocationLocked codec
            (s.calls invocation.fields.runId invocation.fields.logicalCallId) s.blobs invocation
            blobs stageEvidence).1).calls = s.calls
          rw [journal]
          exact setCall_same (s.wait wait) _ _
        · exact ⟨rfl, rfl⟩
      · have accepts : Accepts codec s token invocation blobs stageEvidence wait :=
          ⟨not_not.mp run, active, committed⟩
        refine ⟨?_, ?_⟩
        · rintro (refused | lost)
          · exact absurd accepts refused
          · simp only [lost]
            exact ⟨rfl, rfl⟩
        · intro _ keeps
          simp only [keeps, if_true]
          refine ⟨payload, entry, ?_⟩
          rw [← journal]
          rfl
    next stale =>
      refine ⟨fun _ => ⟨rfl, rfl⟩, fun accepts => absurd (current_iff.mpr accepts.2.1) stale⟩

theorem answer_commitInvocation (s : State Facts Digest) (token : WriterToken)
    (invocation : DurableModelInvocation Facts Digest) (blobs : List (Digest × Bytes))
    (stageEvidence : Bool) (wait : Nat) :
    ∃ result, (machine codec).answer s
        (.commitInvocation token invocation blobs stageEvidence wait .answered) =
        .replied (.answered result) ∧
      (result.status = .committed ↔
        Accepts codec s token invocation blobs stageEvidence wait) := by
  simp only [Library.Machine.answer, machine, step, commitInvocation, Reply.under]
  split
  next other =>
    refine ⟨_, rfl, ⟨fun same => by simp at same, fun accepts => absurd accepts.1 other⟩⟩
  next run =>
    split
    next current =>
      have active := current_iff.mp current
      exact ⟨_, rfl, ⟨fun committed => ⟨not_not.mp run, active, committed⟩,
        fun accepts => accepts.2.2⟩⟩
    next stale =>
      refine ⟨_, rfl, ⟨fun same => by simp at same,
        fun accepts => absurd (current_iff.mpr accepts.2.1) stale⟩⟩

def SameRecords (before after : CallJournal Facts Digest) : Prop :=
  after.records = before.records ∧ after.head = before.head ∧ after.outbox = before.outbox

theorem commitModelEvidence_records (codec : InvocationCodec Facts Digest)
    (s : State Facts Digest) (token : WriterToken)
    (invocation : DurableModelInvocation Facts Digest) (fault : Fault)
    (runId logicalCallId : OpaqueId) :
    let t := (commitModelEvidence codec s token invocation fault).1
    t.blobs = s.blobs ∧ SameRecords (s.calls runId logicalCallId)
      (t.calls runId logicalCallId) := by
  have same : SameRecords (s.calls runId logicalCallId) (s.calls runId logicalCallId) :=
    ⟨rfl, rfl, rfl⟩
  have updated (journal : CallJournal Facts Digest) (kept : SameRecords
      (s.calls invocation.fields.runId invocation.fields.logicalCallId) journal) :
      SameRecords (s.calls runId logicalCallId)
        ((s.setCall invocation.fields.runId invocation.fields.logicalCallId journal).calls runId
          logicalCallId) := by
    unfold State.setCall
    by_cases run : runId = invocation.fields.runId
    · subst run
      by_cases call : logicalCallId = invocation.fields.logicalCallId
      · subst call
        simpa using kept
      · simpa [call] using same
    · simpa [run] using same
  unfold commitModelEvidence
  dsimp only
  split
  · exact ⟨rfl, same⟩
  · split
    · dsimp only
      split
      · refine ⟨rfl, updated _ ?_⟩
        rcases commitEvidenceLocked_spec codec false
            (s.calls invocation.fields.runId invocation.fields.logicalCallId) invocation with
          ⟨kept, -⟩ | ⟨-, payload, -, appended⟩
        · rw [kept]
          exact ⟨rfl, rfl, rfl⟩
        · rw [appended]
          exact ⟨rfl, rfl, rfl⟩
      · exact ⟨rfl, same⟩
    · exact ⟨rfl, same⟩

theorem CallInv.sameRecords {before after : CallJournal Facts Digest}
    (inv : CallInv codec runId logicalCallId before) (same : SameRecords before after) :
    CallInv codec runId logicalCallId after := by
  obtain ⟨records, head, outbox⟩ := same
  have accepted_eq : accepted after = accepted before := by simp only [accepted, records]
  exact {
    sound := records ▸ inv.sound
    numbered := records ▸ inv.numbered
    head := by rw [head, inv.head, records]
    chained := accepted_eq ▸ inv.chained
    attempts := accepted_eq ▸ inv.attempts
    outbox := by rw [outbox, inv.outbox, records] }

theorem next_spec (codec : InvocationCodec Facts Digest) (s : State Facts Digest)
    (label : Label Facts Digest) :
    let t := (machine codec).next s label
    (t.blobs = s.blobs ∧ ∀ runId logicalCallId,
        SameRecords (s.calls runId logicalCallId) (t.calls runId logicalCallId)) ∨
      ∃ invocation blobs stageEvidence, Inserted codec s t invocation blobs stageEvidence := by
  cases label with
  | authority label => exact .inl ⟨rfl, fun _ _ => ⟨rfl, rfl, rfl⟩⟩
  | reconcileInvocation token invocation digest stage wait =>
    exact .inl ⟨rfl, fun _ _ => ⟨rfl, rfl, rfl⟩⟩
  | commitInvocation token invocation blobs stageEvidence wait fault =>
    obtain ⟨unchanged, inserted⟩ :=
      next_commitInvocation codec s token invocation blobs stageEvidence wait fault
    by_cases accepts : Accepts codec s token invocation blobs stageEvidence wait
    · cases keeps : fault.keeps with
      | false =>
        obtain ⟨calls, store⟩ := unchanged (.inr keeps)
        exact .inl ⟨store, fun _ _ => by rw [calls]; exact ⟨rfl, rfl, rfl⟩⟩
      | true => exact .inr ⟨invocation, blobs, stageEvidence, inserted accepts keeps⟩
    · obtain ⟨calls, store⟩ := unchanged (.inl accepts)
      exact .inl ⟨store, fun _ _ => by rw [calls]; exact ⟨rfl, rfl, rfl⟩⟩
  | commitModelEvidence token invocation wait fault =>
    have recorded := commitModelEvidence_records codec (s.wait wait) token invocation fault
    exact .inl ⟨(recorded invocation.fields.runId invocation.fields.logicalCallId).1,
      fun runId logicalCallId => (recorded runId logicalCallId).2⟩

def Inv (codec : InvocationCodec Facts Digest) (s : State Facts Digest) : Prop :=
  ∀ runId logicalCallId, CallInv codec runId logicalCallId (s.calls runId logicalCallId)

theorem initial_inv (codec : InvocationCodec Facts Digest) : Inv codec (machine codec).init :=
  fun _ _ => {
    sound := by simp [machine, CallJournal.empty]
    numbered := .nil _
    head := rfl
    chained := .nil _ _
    attempts := by simp [accepted, machine, CallJournal.empty]
    outbox := rfl }

variable {t : State Facts Digest}

theorem Inserted.calls (inserted : Inserted codec s t invocation blobs stageEvidence)
    (runId logicalCallId : OpaqueId) :
    t.calls runId logicalCallId = s.calls runId logicalCallId ∨
      invocation.fields.runId = runId ∧ invocation.fields.logicalCallId = logicalCallId ∧
        ∃ payload, Entry codec (s.calls runId logicalCallId) s.blobs invocation blobs stageEvidence
            payload t.blobs ∧
          t.calls runId logicalCallId = accept codec (s.calls runId logicalCallId)
            (insertedRow codec invocation.fields payload blobs) := by
  obtain ⟨payload, entry, calls⟩ := inserted
  by_cases run : runId = invocation.fields.runId
  · subst run
    by_cases call : logicalCallId = invocation.fields.logicalCallId
    · subst call
      exact .inr ⟨rfl, rfl, payload, entry, by simp [calls]⟩
    · exact .inl (by simp [calls, call])
  · exact .inl (by simp [calls, run])

theorem next_inv (codec : InvocationCodec Facts Digest) (s : State Facts Digest)
    (label : Label Facts Digest) (inv : Inv codec s) :
    Inv codec ((machine codec).next s label) := by
  intro runId logicalCallId
  rcases next_spec codec s label with ⟨-, same⟩ | ⟨invocation, blobs, stage, inserted⟩
  · exact (inv runId logicalCallId).sameRecords (same runId logicalCallId)
  · rcases inserted.calls runId logicalCallId with same | ⟨run, call, payload, entry, same⟩
    · rw [same]
      exact inv runId logicalCallId
    · rw [same]
      exact accept_inv (inv runId logicalCallId) entry run call

def Kept (s t : State Facts Digest) : Prop :=
  (∀ runId logicalCallId,
    (s.calls runId logicalCallId).records <+: (t.calls runId logicalCallId).records) ∧
    BlobStore.Grows s.blobs t.blobs

theorem next_kept (codec : InvocationCodec Facts Digest) (s : State Facts Digest)
    (label : Label Facts Digest) :
    Kept s ((machine codec).next s label) := by
  rcases next_spec codec s label with ⟨store, same⟩ | ⟨invocation, blobs, stage, inserted⟩
  · refine ⟨fun runId logicalCallId => ?_, store ▸ BlobStore.Grows.refl _⟩
    rw [(same runId logicalCallId).1]
  · refine ⟨fun runId logicalCallId => ?_, ?_⟩
    · rcases inserted.calls runId logicalCallId with same | ⟨-, -, payload, -, same⟩
      · rw [same]
      · rw [same]
        exact List.prefix_append _ _
    · obtain ⟨payload, entry, -⟩ := inserted
      exact (BlobStore.persistBlobs_spec entry.persists).1

theorem exec_kept (codec : InvocationCodec Facts Digest) (s : State Facts Digest)
    (labels : List (Label Facts Digest)) :
    Kept s ((machine codec).exec s labels) :=
  (machine codec).exec_related (fun _ => True) (fun _ _ _ => trivial) Kept
    (fun _ => ⟨fun _ _ => List.prefix_rfl, .refl _⟩)
    (fun _ _ _ one two => ⟨fun runId logicalCallId =>
      (one.1 runId logicalCallId).trans (two.1 runId logicalCallId), one.2.trans two.2⟩)
    (fun s label _ => next_kept codec s label) s trivial labels

-- A submission whose record is in the journal together with everything it brought along.
structure Held (codec : InvocationCodec Facts Digest) (s : State Facts Digest)
    (invocation : DurableModelInvocation Facts Digest) (blobs : List (Digest × Bytes))
    (stageEvidence : Bool) (payload : InvocationPayload Facts Digest) : Prop where
  range : invocation.fields.revision ≤ postgresBigintMax ∧
    invocation.fields.dispatchAttempt ≤ postgresBigintMax
  staged : stageEvidence = true ↔
    invocation.fields.evidencePolicy = .outbox ∧ invocation.fields.dispatchState = .settled
  bounded : BlobStore.validatedBlobs codec.sha256 codec.maxBlobBytes blobs = true
  written : modelInvocationPayloadForWrite codec.canonicalSha256 invocation = some payload
  stored : insertedRow codec invocation.fields payload blobs ∈
    (s.calls invocation.fields.runId invocation.fields.logicalCallId).records
  backing : ∀ item ∈ blobs, s.blobs.content item.1 = some item.2
  references : BlobStore.referencesResolve codec.sha256 s.blobs invocation.fields.runId
    (resultReferences invocation.fields.resultRef) blobs = true

theorem referencesResolve_grows {sha256 : Bytes → Digest} {before after : BlobStore Digest}
    {references : List Digest} (grows : BlobStore.Grows before after)
    (resolved : BlobStore.referencesResolve sha256 before runId references blobs = true) :
    BlobStore.referencesResolve sha256 after runId references blobs = true := by
  simp only [BlobStore.referencesResolve, List.all_eq_true, Bool.or_eq_true] at resolved ⊢
  intro key member
  rcases resolved key member with submitted | backed
  · exact .inl submitted
  · right
    simp only [BlobStore.associatedBlobIsValid, Bool.and_eq_true] at backed ⊢
    obtain ⟨associated, content⟩ := backed
    refine ⟨grows.2 runId key associated, ?_⟩
    cases stored : before.content key with
    | none => simp [stored] at content
    | some value =>
      rw [grows.1 key value stored]
      simpa [stored] using content

theorem Inserted.held (inserted : Inserted codec s t invocation blobs stageEvidence) :
    ∃ payload, Held codec t invocation blobs stageEvidence payload := by
  obtain ⟨payload, entry, calls⟩ := inserted
  obtain ⟨grows, persisted⟩ := BlobStore.persistBlobs_spec entry.persists
  refine ⟨payload, entry.range, entry.staged, entry.bounded, entry.written, ?_,
    fun item member => (persisted item member).1, referencesResolve_grows grows entry.references⟩
  rw [calls]
  simp [accept]

theorem Held.keep (held : Held codec s invocation blobs stageEvidence payload) (kept : Kept s t) :
    Held codec t invocation blobs stageEvidence payload :=
  { held with
    stored := (kept.1 _ _).subset held.stored
    backing := fun item member => kept.2.1 _ _ (held.backing item member)
    references := referencesResolve_grows kept.2 held.references }

theorem evidenceCoordinate_held (inv : CallInv codec runId logicalCallId journal)
    (stored : insertedRow codec invocation.fields payload blobs ∈ journal.records)
    (settled : invocation.fields.evidencePolicy = .outbox ∧
      invocation.fields.dispatchState = .settled) :
    ∃ result, evidenceCoordinate codec journal.outbox invocation payload
        (codec.recordDigest payload ∅) = some result ∧ result.status = .alreadyCommitted := by
  let row := insertedRow codec invocation.fields payload blobs
  have image : outboxRow codec row = some ⟨payload, ∅, codec.recordDigest payload ∅,
      evidenceTypedPayload payload⟩ := by
    simp [row, outboxRow, insertedRow, insertedColumns, settled]
  have found : journal.outbox.find?
      (fun out => out.typed.revision == invocation.fields.revision) = outboxRow codec row := by
    rw [inv.outbox]
    refine inv.numbered.find_filterMap ?_ stored
    intro other member out there
    unfold outboxRow at there
    split at there
    · cases there
      change (invocationTypedPayload other.payload).revision = _
      rw [(inv.sound other member).intact.2]
    · cases there
  refine ⟨⟨.alreadyCommitted, some invocation.fields.revision,
    some (codec.recordDigest payload ∅), none⟩, ?_, rfl⟩
  unfold evidenceCoordinate
  rw [found, image]
  simp [storedResult, checkedStoredDigest]

theorem commitInvocationLocked_held (inv : Inv codec s)
    (held : Held codec s invocation blobs stageEvidence payload) :
    let result := commitInvocationLocked codec
      (s.calls invocation.fields.runId invocation.fields.logicalCallId) s.blobs invocation blobs
      stageEvidence
    result.2.2.status = .alreadyCommitted := by
  have call := inv invocation.fields.runId invocation.fields.logicalCallId
  have sound := call.sound _ held.stored
  have backing : BlobStore.submittedBlobsPreserveBacking s.blobs blobs = true := by
    simp only [BlobStore.submittedBlobsPreserveBacking, List.all_eq_true]
    intro item member
    simp [held.backing item member]
  have found : recordAt (s.calls invocation.fields.runId invocation.fields.logicalCallId)
      invocation.fields.revision = some (insertedRow codec invocation.fields payload blobs) :=
    call.numbered.find_number held.stored
  have coordinate : invocationCoordinate codec
      (s.calls invocation.fields.runId invocation.fields.logicalCallId) invocation payload
      (codec.recordDigest payload (BlobStore.blobProjection blobs)) =
        some ⟨.alreadyCommitted, some invocation.fields.revision,
          some (codec.recordDigest payload (BlobStore.blobProjection blobs)), none⟩ := by
    unfold invocationCoordinate
    rw [found, storedResult_intact sound.intact, if_pos]
    exact ⟨insertedColumns_eq held.written, rfl⟩
  have range : ¬ (postgresBigintMax < invocation.fields.revision ∨
      postgresBigintMax < invocation.fields.dispatchAttempt) := by
    have := held.range
    omega
  have receipt (settled : invocation.fields.dispatchState = .settled) :
      invocation.fields.receipt.isSome = true := by
    have carries := invocation.checked
    simp only [InvocationFields.checked, Bool.and_eq_true] at carries
    have state := carries.2
    simp only [InvocationFields.stateCarries, settled, Bool.and_eq_true] at state
    exact state.1
  have staging : ¬ (stageEvidence = true ∧ ¬ (invocation.fields.evidencePolicy = .outbox ∧
        invocation.fields.dispatchState = .settled ∧ invocation.fields.receipt.isSome = true) ∨
      stageEvidence = false ∧ invocation.fields.evidencePolicy = .outbox ∧
        invocation.fields.dispatchState = .settled) := by
    rintro (⟨stage, unmet⟩ | ⟨plain, both⟩)
    · have both := held.staged.mp stage
      exact unmet ⟨both.1, both.2, receipt both.2⟩
    · have stage := held.staged.mpr both
      rw [plain] at stage
      cases stage
  unfold commitInvocationLocked
  dsimp only
  rw [if_neg range, if_neg staging, if_neg (by simp [held.bounded])]
  simp only [held.written]
  rw [if_neg (by simp [backing]), if_neg (by simp [held.references])]
  simp only [coordinate]
  split
  next refused =>
    obtain ⟨stage, -, unstaged⟩ := refused
    obtain ⟨result, located, repeated⟩ :=
      evidenceCoordinate_held call held.stored (held.staged.mp stage)
    simp [located, repeated] at unstaged
  · rfl

structure Loaded (codec : InvocationCodec Facts Digest) (journal : CallJournal Facts Digest)
    (invocation : DurableModelInvocation Facts Digest)
    (row : InvocationRow Facts Digest) : Prop where
  last : journal.head.bind (recordAt journal) = some row
  decoded : row.payload.decode = some invocation.fields
  source : invocation.source =
    some ⟨row.payload, codec.canonicalSha256 invocation.fields.toJson⟩

theorem Loaded.same {before after : CallJournal Facts Digest} (same : SameRecords before after)
    (loaded : Loaded codec before invocation row) : Loaded codec after invocation row := by
  obtain ⟨records, head, -⟩ := same
  refine ⟨?_, loaded.decoded, loaded.source⟩
  have lookup : recordAt after = recordAt before := by
    funext revision
    simp only [recordAt, records]
  rw [head, lookup]
  exact loaded.last

theorem decodeModelInvocation_some (canonicalSha256 : InvocationPayload Facts Digest → Digest)
    (decoded : payload.decode = some fields) :
    ∃ invocation, decodeModelInvocation canonicalSha256 payload = some invocation ∧
      invocation.fields = fields ∧
      invocation.source = some ⟨payload, canonicalSha256 fields.toJson⟩ := by
  unfold decodeModelInvocation
  split
  next absent =>
    rw [absent] at decoded
    cases decoded
  next found same =>
    rw [same] at decoded
    cases decoded
    exact ⟨_, rfl, rfl, rfl⟩

theorem loadInvocation_spec (inv : CallInv codec runId logicalCallId journal) :
    journal.records = [] ∧ loadInvocation codec journal runId logicalCallId = .missing ∨
      ∃ invocation row, loadInvocation codec journal runId logicalCallId = .loaded invocation ∧
        Loaded codec journal invocation row ∧ invocation.fields.runId = runId ∧
        invocation.fields.logicalCallId = logicalCallId := by
  unfold loadInvocation
  cases empty : journal.records with
  | nil => simp [inv.head, empty]
  | cons earliest rest =>
    right
    have nonempty : journal.records ≠ [] := by simp [empty]
    have long : 1 ≤ journal.records.length := by simp [empty]
    have head : journal.head = some journal.records.length := by rw [inv.head, if_neg nonempty]
    obtain ⟨row, member, number⟩ := inv.numbered.exists_number long (Nat.le_refl _)
    have found : recordAt journal journal.records.length = some row := by
      have lookup := inv.numbered.find_number member
      rwa [number] at lookup
    have sound := inv.sound row member
    obtain ⟨fields, decoded, run, call⟩ := sound.decoded
    obtain ⟨invocation, read, rfl, source⟩ :=
      decodeModelInvocation_some codec.canonicalSha256 decoded
    have typed := sound.revision decoded
    have revision : invocation.fields.revision = journal.records.length := by
      rw [← number, typed]
      rfl
    refine ⟨invocation, row, ?_,
      ⟨by rw [head, Option.bind_some, found], decoded, source⟩, run, call⟩
    simp only [head, found, read]
    rw [if_pos, if_pos ⟨run, call, revision⟩]
    refine ⟨by simp [checkedStoredDigest, sound.intact.1], sound.intact.2, ?_, ?_⟩
    · rw [typed]
      exact run
    · rw [typed]
      exact call

theorem Loaded.written (loaded : Loaded codec journal invocation row) :
    modelInvocationPayloadForWrite codec.canonicalSha256 invocation = some row.payload := by
  simp [modelInvocationPayloadForWrite, loaded.source]

theorem Loaded.spec (inv : CallInv codec runId logicalCallId journal)
    (loaded : Loaded codec journal invocation row) :
    row ∈ journal.records ∧ (accepted journal).getLast? = some invocation.fields ∧
      invocation.fields.revision = journal.records.length ∧
      recordAt journal invocation.fields.revision = some row := by
  obtain ⟨fields, decoded, ending, member, revision, number⟩ := inv.last loaded.last
  rw [loaded.decoded] at decoded
  cases decoded
  refine ⟨member, ending, revision, ?_⟩
  have lookup := inv.numbered.find_number member
  rwa [number, ← revision] at lookup

theorem Loaded.head (inv : CallInv codec runId logicalCallId journal)
    (loaded : Loaded codec journal invocation row) :
    invocation.fields.runId = runId ∧ invocation.fields.logicalCallId = logicalCallId ∧
      row.typed = insertedColumns invocation.fields row.payload ∧
      checkedInvocationHead codec journal runId logicalCallId =
        some (invocation.fields, codec.recordDigest row.payload ∅) := by
  obtain ⟨member, -, revision, -⟩ := loaded.spec inv
  have sound := inv.sound row member
  obtain ⟨fields, decoded, run, call⟩ := sound.decoded
  rw [loaded.decoded] at decoded
  cases decoded
  have typed := sound.revision loaded.decoded
  refine ⟨run, call, typed, ?_⟩
  unfold checkedInvocationHead
  simp only [loaded.last, checkedRecord_eq sound, loaded.decoded]
  rw [if_pos]
  refine ⟨run, call, ?_⟩
  rw [typed]
  rfl

theorem commitEvidenceLocked_head (inv : CallInv codec runId logicalCallId journal)
    (loaded : Loaded codec journal invocation row)
    (settled : invocation.fields.dispatchState = .settled)
    (images : ∀ out ∈ journal.evidence, ∃ other ∈ journal.records,
      out = ⟨other.payload, ∅, codec.recordDigest other.payload ∅,
        evidenceTypedPayload other.payload⟩) :
    (commitEvidenceLocked codec false journal invocation).2.status = .committed ∨
      (commitEvidenceLocked codec false journal invocation).2.status = .alreadyCommitted := by
  obtain ⟨run, call, typed, head⟩ := loaded.head inv
  obtain ⟨member, -, -, -⟩ := loaded.spec inv
  have receipt : invocation.fields.receipt.isNone = false := by
    have carries := invocation.checked
    simp only [InvocationFields.checked, Bool.and_eq_true] at carries
    have state := carries.2
    simp only [InvocationFields.stateCarries, settled, Bool.and_eq_true] at state
    cases present : invocation.fields.receipt with
    | none => simp [present] at state
    | some receipt => rfl
  unfold commitEvidenceLocked
  dsimp only
  rw [if_neg (by simp [settled, receipt])]
  simp only [loaded.written, run, call, head]
  rw [if_neg (by simp)]
  simp only [Bool.false_eq_true, if_false]
  unfold evidenceCoordinate
  cases found : journal.evidence.find? fun out =>
      out.typed.revision == invocation.fields.revision with
  | none => exact .inl rfl
  | some out =>
    right
    obtain ⟨other, stored, rfl⟩ := images out (List.mem_of_find?_eq_some found)
    have number := List.find?_some found
    simp only [evidenceTypedPayload, beq_iff_eq] at number
    have same : other = row := by
      apply inv.numbered.number_inj stored member
      rw [← (inv.sound other stored).intact.2, number, typed]
      rfl
    subst same
    simp [storedResult, checkedStoredDigest]

theorem commitInvocationLocked_next (inv : CallInv codec runId logicalCallId journal)
    (store : BlobStore Digest) {next : DurableModelInvocation Facts Digest}
    (loaded : Loaded codec journal invocation row) (run : next.fields.runId = runId)
    (call : next.fields.logicalCallId = logicalCallId) (fresh : next.source = none)
    (unsettled : next.fields.dispatchState ≠ .settled) (plain : next.fields.resultRef = .empty)
    (range : next.fields.revision ≤ postgresBigintMax ∧
      next.fields.dispatchAttempt ≤ postgresBigintMax)
    (allowed : mayFollow codec journal invocation.fields next = true) :
    (commitInvocationLocked codec journal store next [] false).2.2.status = .committed := by
  obtain ⟨runs, calls, typed, -⟩ := loaded.head inv
  obtain ⟨member, -, revision, -⟩ := loaded.spec inv
  have written : modelInvocationPayloadForWrite codec.canonicalSha256 next =
      some next.fields.toJson := by simp [modelInvocationPayloadForWrite, fresh]
  have number : next.fields.revision = invocation.fields.revision + 1 := by
    simp only [mayFollow, Bool.and_eq_true, decide_eq_true_eq] at allowed
    exact allowed.1.1
  have free : recordAt journal next.fields.revision = none :=
    inv.numbered.find_beyond (by omega)
  have coordinate (digest : Digest) :
      invocationCoordinate codec journal next next.fields.toJson digest = none := by
    simp [invocationCoordinate, free, storedResult]
  have wins : invocationTransitionWinner codec journal next = none := by
    obtain ⟨head, held, found⟩ := Option.bind_eq_some_iff.mp loaded.last
    unfold invocationTransitionWinner
    simp only [held, found, checkedRecord_eq (inv.sound row member), loaded.decoded]
    rw [if_pos]
    refine ⟨runs.trans run.symm, calls.trans call.symm, ?_, allowed⟩
    rw [typed]
    rfl
  unfold commitInvocationLocked
  dsimp only
  rw [if_neg (by omega), if_neg (by simp [unsettled]),
    if_neg (by simp [BlobStore.validatedBlobs])]
  simp only [written]
  rw [if_neg (by simp [BlobStore.submittedBlobsPreserveBacking]),
    if_neg (by simp [BlobStore.referencesResolve, resultReferences, plain])]
  simp [coordinate, wins, BlobStore.persistBlobs]

def Taken (status : CommitStatus) : Prop := status = .committed ∨ status = .alreadyCommitted

variable {fault : Fault}

omit [DecidableEq Digest] in
theorem under_answered {given : CommitResult Digest}
    (answered : Reply.under fault given = .answered result) : fault = .answered ∧
    given = result := by
  unfold Reply.under at answered
  split at answered
  · simpa using answered
  · split at answered <;> cases answered

theorem commitInvocation_taken
    (answered : (commitInvocation codec s token invocation blobs stageEvidence fault).2 =
      .answered result) (taken : Taken result.status) :
    fault = .answered ∧ invocation.fields.runId = token.runId ∧
      Authority.Active s.authority.table token s.authority.clock ∧
      (commitInvocationLocked codec
        (s.calls invocation.fields.runId invocation.fields.logicalCallId) s.blobs invocation blobs
        stageEvidence).2.2 = result := by
  unfold commitInvocation at answered
  dsimp only at answered
  split at answered
  · cases answered
    simp [Taken] at taken
  next run =>
    split at answered
    next current =>
      obtain ⟨known, given⟩ := under_answered answered
      exact ⟨known, not_not.mp run, (currentWriterLocked_iff _ _ _).mp current, given⟩
    · obtain ⟨-, given⟩ := under_answered answered
      rw [← given] at taken
      simp [Taken] at taken

theorem commitInvocation_ambiguous
    (lost : (commitInvocation codec s token invocation blobs stageEvidence fault).2 = .ambiguous) :
    invocation.fields.runId = token.runId := by
  unfold commitInvocation at lost
  dsimp only at lost
  split at lost
  · cases lost
  next run => exact not_not.mp run

theorem invocationCoordinate_stored
    (found : invocationCoordinate codec journal invocation payload contentDigest = some result) :
    ∃ row, recordAt journal invocation.fields.revision = some row := by
  cases stored : recordAt journal invocation.fields.revision with
  | some row => exact ⟨row, rfl⟩
  | none =>
    unfold invocationCoordinate at found
    rw [stored] at found
    cases found

theorem commitInvocationLocked_repeated {store : BlobStore Digest}
    (repeated : (commitInvocationLocked codec journal store invocation blobs
      stageEvidence).2.2.status = .alreadyCommitted) :
    ∃ row, recordAt journal invocation.fields.revision = some row := by
  unfold commitInvocationLocked at repeated
  dsimp only at repeated
  split at repeated
  · cases repeated
  · split at repeated
    · cases repeated
    · split at repeated
      · cases repeated
      · split at repeated
        · cases repeated
        next payload written =>
          split at repeated
          · cases repeated
          · split at repeated
            · cases repeated
            · split at repeated
              next stored found => exact invocationCoordinate_stored found
              · split at repeated
                · cases repeated
                · split at repeated
                  · cases repeated
                  · generalize (if stageEvidence = true then _ else _ :
                      CallJournal Facts Digest × CommitResult Digest) = staged at repeated
                    split at repeated <;> cases repeated

theorem reconcileInvocation_stored
    (found : reconcileInvocation codec journal invocation contentDigest stageEvidence =
      some result) : ∃ row, recordAt journal invocation.fields.revision = some row := by
  unfold reconcileInvocation at found
  split at found
  · cases found
  next payload written =>
    split at found
    · cases found
    next stored located => exact invocationCoordinate_stored located

def Final (fields : InvocationFields Facts Digest) : Prop :=
  (fields.dispatchState = .settled ∨ fields.dispatchState = .unknown) ∧
    retryableFailure fields = false

omit [DecidableEq Digest] in
theorem Final.stuck (final : Final fields) (next : InvocationFields Facts Digest) :
    ¬ Follows fields next := by
  intro follows
  obtain ⟨closed, failure⟩ := final
  rcases follows.transition with ⟨⟨state, -⟩ | ⟨state, -⟩, -⟩ | ⟨retryable, -⟩
  · simp [state] at closed
  · simp [state] at closed
  · rw [failure] at retryable
    cases retryable

theorem final_records (inv : Inv codec t) (kept : Kept s t)
    (member : fields ∈ accepted (s.calls runId logicalCallId)) (final : Final fields) :
    (t.calls runId logicalCallId).records = (s.calls runId logicalCallId).records := by
  have call := inv runId logicalCallId
  have ordered := kept.1 runId logicalCallId
  obtain ⟨more, split⟩ := ordered
  have grown : accepted (t.calls runId logicalCallId) = accepted (s.calls runId logicalCallId) ++
      more.filterMap fun row => row.payload.decode := by
    simp only [accepted, ← split, List.filterMap_append]
  cases more with
  | nil => rw [← split, List.append_nil]
  | cons row rest =>
    -- A further record would have to follow a record that nothing follows.
    obtain ⟨next, decoded, -⟩ := (call.sound row (by simp [← split])).decoded
    have chained := call.chained
    rw [grown, List.filterMap_cons, decoded] at chained
    have last := chained.final (List.mem_append_left _ member) final.stuck
    have ordered : (accepted (s.calls runId logicalCallId) ++
        next :: rest.filterMap fun row => row.payload.decode).Pairwise
          fun a b => a.revision < b.revision :=
      chained.ordered (fun _ _ _ => Nat.lt_trans) fun _ _ step => by
        have := step.revision
        omega
    rw [List.getLast?_append_of_ne_nil _ (by simp)] at last
    have late := (List.pairwise_append.mp ordered).2.2 fields member fields
      (List.mem_of_getLast? last)
    exact absurd late (Nat.lt_irrefl _)

-- What the invocation journal promises between two points `s` and `t` of an interleaving.
structure InvocationJournals (codec : InvocationCodec Facts Digest) (s t : State Facts Digest) :
    Prop where
  readable : ∀ runId logicalCallId,
    (t.calls runId logicalCallId).records.map (fun row => row.payload.decode) =
      (accepted (t.calls runId logicalCallId)).map some
  numbered : ∀ runId logicalCallId,
    (accepted (t.calls runId logicalCallId)).map InvocationFields.revision =
      List.range' 1 (accepted (t.calls runId logicalCallId)).length
  lifecycle : ∀ runId logicalCallId,
    Library.Chained First Follows (accepted (t.calls runId logicalCallId))
  stable : ∀ runId logicalCallId, ∀ a ∈ accepted (t.calls runId logicalCallId),
    ∀ b ∈ accepted (t.calls runId logicalCallId), stableFields a = stableFields b
  dispatches : ∀ runId logicalCallId, ∀ a ∈ accepted (t.calls runId logicalCallId),
    ∀ b ∈ accepted (t.calls runId logicalCallId),
    a.dispatchId = b.dispatchId ↔ a.dispatchAttempt = b.dispatchAttempt
  kept : ∀ runId logicalCallId,
    (s.calls runId logicalCallId).records <+: (t.calls runId logicalCallId).records
  final : ∀ runId logicalCallId, ∀ fields ∈ accepted (s.calls runId logicalCallId), Final fields →
    (t.calls runId logicalCallId).records = (s.calls runId logicalCallId).records
  outbox : ∀ runId logicalCallId revision,
    (∃ out ∈ (t.calls runId logicalCallId).outbox, out.typed.revision = revision) ↔
      ∃ fields ∈ accepted (t.calls runId logicalCallId), fields.revision = revision ∧
        fields.evidencePolicy = .outbox ∧ fields.dispatchState = .settled
  inOrder : ∀ token invocation blobs stageEvidence wait,
    Accepts codec t token invocation blobs stageEvidence wait →
    let journal := t.calls invocation.fields.runId invocation.fields.logicalCallId
    invocation.fields.revision = (accepted journal).length + 1 ∧
      (accepted journal = [] ∧ First invocation.fields ∨ ∃ previous,
        (accepted journal).getLast? = some previous ∧ Follows previous invocation.fields)
  answered : ∀ token invocation blobs stageEvidence wait,
    ∃ result, (machine codec).answer t
        (.commitInvocation token invocation blobs stageEvidence wait .answered) =
        .replied (.answered result) ∧
      (result.status = .committed ↔ Accepts codec t token invocation blobs stageEvidence wait)
  refused : ∀ token invocation blobs stageEvidence wait fault,
    ¬ Accepts codec t token invocation blobs stageEvidence wait →
    let u := (machine codec).next t
      (.commitInvocation token invocation blobs stageEvidence wait fault)
    u.calls = t.calls ∧ u.blobs = t.blobs
  repeated : ∀ token invocation blobs stageEvidence wait fault,
    Accepts codec s token invocation blobs stageEvidence wait → fault.keeps = true →
    ∀ later again waits,
    let u := (machine codec).exec ((machine codec).next s
      (.commitInvocation token invocation blobs stageEvidence wait fault)) later
    invocation.fields.runId = again.runId →
    Authority.Active u.authority.table again (u.authority.clock + waits) →
    (∃ result, (machine codec).answer u
        (.commitInvocation again invocation blobs stageEvidence waits .answered) =
        .replied (.answered result) ∧ result.status = .alreadyCommitted) ∧
      ∀ fault,
        let v := (machine codec).next u
          (.commitInvocation again invocation blobs stageEvidence waits fault)
        v.calls = u.calls ∧ v.blobs = u.blobs

theorem CallInv.outboxIff (inv : CallInv codec runId logicalCallId journal) (revision : Nat) :
    (∃ out ∈ journal.outbox, out.typed.revision = revision) ↔
      ∃ fields ∈ accepted journal, fields.revision = revision ∧
        fields.evidencePolicy = .outbox ∧ fields.dispatchState = .settled := by
  constructor
  · rintro ⟨out, member, rfl⟩
    rw [inv.outbox] at member
    obtain ⟨row, stored, image⟩ := List.mem_filterMap.mp member
    obtain ⟨fields, decoded, -⟩ := (inv.sound row stored).decoded
    have typed := (inv.sound row stored).revision decoded
    unfold outboxRow at image
    split at image
    next staged =>
      cases image
      refine ⟨fields, accepted_mem.mpr ⟨row, stored, decoded⟩, ?_, ?_, ?_⟩
      · change fields.revision = (invocationTypedPayload row.payload).revision
        rw [decode_typed decoded]
        rfl
      · simpa [typed, insertedColumns] using staged.1
      · simpa [typed, insertedColumns] using staged.2
    · cases image
  · rintro ⟨fields, member, rfl, policy, state⟩
    obtain ⟨row, stored, decoded⟩ := accepted_mem.mp member
    have typed := (inv.sound row stored).revision decoded
    refine ⟨⟨row.payload, ∅, codec.recordDigest row.payload ∅, evidenceTypedPayload row.payload⟩,
      ?_, ?_⟩
    · rw [inv.outbox]
      refine List.mem_filterMap.mpr ⟨row, stored, ?_⟩
      simp [outboxRow, typed, insertedColumns, policy, state]
    · change (invocationTypedPayload row.payload).revision = fields.revision
      rw [decode_typed decoded]
      rfl

theorem CallInv.revisions (inv : CallInv codec runId logicalCallId journal) :
    (accepted journal).map InvocationFields.revision =
      List.range' 1 (accepted journal).length := by
  have columns : (accepted journal).map InvocationFields.revision =
      journal.records.map fun row => row.typed.revision := by
    apply List.map_injective_iff.mpr (Option.some_injective Nat)
    calc ((accepted journal).map InvocationFields.revision).map some
        = ((accepted journal).map some).map (Option.map InvocationFields.revision) := by simp
      _ = journal.records.map fun row => row.payload.decode.map InvocationFields.revision := by
          unfold accepted
          rw [← decode_map inv.sound, List.map_map]
          rfl
      _ = (journal.records.map fun row => row.typed.revision).map some := by
          rw [List.map_map]
          apply List.map_congr_left
          intro row stored
          obtain ⟨fields, decoded, -⟩ := (inv.sound row stored).decoded
          simp [decoded, (inv.sound row stored).revision decoded, insertedColumns]
  rw [columns, accepted_length inv.sound]
  exact inv.numbered

theorem CallInv.final_eq (inv : CallInv codec runId logicalCallId journal)
    {other : InvocationFields Facts Digest} (member : fields ∈ accepted journal)
    (final : Final fields) (held : other ∈ accepted journal)
    (late : journal.records.length ≤ other.revision) : other = fields := by
  have numbered : Library.Numbered InvocationFields.revision (accepted journal) := inv.revisions
  have last := inv.chained.final member final.stuck
  have bound := (numbered.number_le held).2
  have top := inv.chained.measure_le InvocationFields.revision
    (fun _ _ step => by have := step.revision; omega) held last
  have most := (numbered.number_le member).2
  rw [accepted_length inv.sound] at bound most
  apply numbered.number_inj held member
  omega

theorem next_repeated (inv : Inv codec s) (token : WriterToken)
    (held : Held codec s invocation blobs stageEvidence payload) (wait : Nat)
    (run : invocation.fields.runId = token.runId)
    (active : Authority.Active s.authority.table token (s.authority.clock + wait)) :
    (∃ result, (machine codec).answer s
        (.commitInvocation token invocation blobs stageEvidence wait .answered) =
        .replied (.answered result) ∧ result.status = .alreadyCommitted) ∧
      ∀ fault,
        let t := (machine codec).next s
          (.commitInvocation token invocation blobs stageEvidence wait fault)
        t.calls = s.calls ∧ t.blobs = s.blobs := by
  have repeated := commitInvocationLocked_held inv held
  have current : (s.wait wait).current token = true := current_iff.mpr active
  constructor
  · refine ⟨_, ?_, repeated⟩
    simp only [Library.Machine.answer, machine, step, commitInvocation, current, Reply.under]
    rw [if_neg (not_not.mpr run)]
    rfl
  · intro fault
    apply (next_commitInvocation codec s token invocation blobs stageEvidence wait fault).1
    left
    intro accepts
    have committed := accepts.2.2
    rw [repeated] at committed
    cases committed

theorem model_invocation_journal (codec : InvocationCodec Facts Digest)
    (earlier later : List (Label Facts Digest)) :
    InvocationJournals codec ((machine codec).exec (machine codec).init earlier)
      ((machine codec).exec ((machine codec).exec (machine codec).init earlier) later) := by
  have before : Inv codec ((machine codec).exec (machine codec).init earlier) :=
    (machine codec).exec_invariant (Inv codec) (next_inv codec) _ (initial_inv codec) earlier
  generalize (machine codec).exec (machine codec).init earlier = s at before ⊢
  have inv : Inv codec ((machine codec).exec s later) :=
    (machine codec).exec_invariant (Inv codec) (next_inv codec) _ before later
  have kept := exec_kept codec s later
  generalize (machine codec).exec s later = t at inv kept ⊢
  refine {
    readable := fun runId call => decode_map (inv runId call).sound
    numbered := fun runId call => (inv runId call).revisions
    lifecycle := fun runId call => (inv runId call).chained
    stable := fun runId call a first b second =>
      (inv runId call).chained.constant stableFields (fun _ _ step => step.stable) first second
    dispatches := fun runId call => (inv runId call).attempts
    kept := kept.1
    final := fun runId call fields member final => final_records inv kept member final
    outbox := fun runId call => (inv runId call).outboxIff
    inOrder := ?_
    answered := answer_commitInvocation t
    refused := fun token invocation blobs stage wait fault refused =>
      (next_commitInvocation codec t token invocation blobs stage wait fault).1 (.inl refused)
    repeated := ?_ }
  · intro token invocation blobs stage wait accepts journal
    have call := inv invocation.fields.runId invocation.fields.logicalCallId
    obtain ⟨-, payload, entry, -⟩ := (commitInvocationLocked_spec codec _ _ _ _ _).resolve_left
      fun refused => refused.2.2 accepts.2.2
    obtain ⟨revision, order⟩ := invocationTransitionWinner_spec call entry.wins
    rw [accepted_length call.sound]
    refine ⟨revision, ?_⟩
    rcases order with ⟨empty, first⟩ | ⟨previous, ending, follows, -⟩
    · exact .inl ⟨by simp [journal, accepted, empty], first⟩
    · exact .inr ⟨previous, ending, follows⟩
  · intro token invocation blobs stage wait fault accepts keeps further again waits u run active
    have inserted := (next_commitInvocation codec s token invocation blobs stage wait
      fault).2 accepts keeps
    obtain ⟨payload, held⟩ := inserted.held
    have inside : Inv codec u :=
      (machine codec).exec_invariant (Inv codec) (next_inv codec) _
      (next_inv codec s _ before) further
    exact next_repeated inside again (held.keep (exec_kept codec _ further)) waits run active

end InvocationJournal

end MonoidKernel
