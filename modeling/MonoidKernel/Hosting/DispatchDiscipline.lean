import MonoidKernel.Hosting.PaidDispatch

set_option autoImplicit false

namespace MonoidKernel

namespace PaidDispatch

open Library InvocationJournal

variable {Facts Digest : Type} [DecidableEq Digest]
variable {site : CallSite Facts Digest}

structure Starts (fields : InvocationFields Facts Digest)
    (reservation : ModelDispatchReservation) : Prop where
  state : fields.dispatchState = .dispatchStarted
  call : fields.logicalCallId = reservation.logicalCallId
  attempt : fields.dispatchAttempt = reservation.dispatchAttempt
  dispatch : fields.dispatchId = reservation.dispatchId
  request : fields.requestDigest = reservation.requestDigest
  key : fields.idempotencyKey = reservation.idempotencyKey

def Begun (site : CallSite Facts Digest) (s : State Facts Digest) (attempt : Nat) : Prop :=
  ∃ fields ∈ accepted (s.calls site), fields.dispatchState = .dispatchStarted ∧
    fields.dispatchAttempt = attempt

def Paid (s : State Facts Digest) (attempt : Nat) : Prop :=
  ∃ reservation ∈ s.dispatches, reservation.dispatchAttempt = attempt

def Carries (blobs : List (Digest × Bytes)) (resultRef : ResultRef Digest) : Prop :=
  blobs = [] ∧ resultRef = .empty ∨
    ∃ address content, blobs = [(address, content)] ∧ resultRef = .blob address

def Submitted (site : CallSite Facts Digest) (s : State Facts Digest)
    (row : InvocationRow Facts Digest) : Prop :=
  ∃ invocation blobs stageEvidence,
    Held site.journal s.journal invocation blobs stageEvidence row.payload ∧
      row = insertedRow site.journal invocation.fields row.payload blobs ∧
      invocation.fields.runId = site.runId ∧
      (∀ item ∈ blobs, s.journal.blobs.associated site.runId item.1 = true) ∧
      (invocation.fields.dispatchState = .settled → Carries blobs invocation.fields.resultRef)

def evidenceRow (codec : InvocationCodec Facts Digest) (payload : InvocationPayload Facts Digest) :
    EvidenceRow Facts Digest :=
  ⟨payload, ∅, codec.recordDigest payload ∅, evidenceTypedPayload payload⟩

structure Inv (site : CallSite Facts Digest) (s : State Facts Digest) : Prop where
  journal : InvocationJournal.Inv site.journal s.journal
  submitted : ∀ row ∈ (s.calls site).records, Submitted site s row
  evidence : ∀ out ∈ (s.calls site).evidence, ∃ row ∈ (s.calls site).records,
    out = evidenceRow site.journal row.payload
  granted : ∀ token ∈ s.granted, Authority.Stored s.journal.authority.table token ∨
    Authority.Superseded s.journal.authority.table token
  started : ∀ attempt, (s.started attempt).isSome = true ↔ Begun site s attempt
  dispatched : ∀ reservation ∈ s.dispatches, ∃ fields ∈ accepted (s.calls site),
    Starts fields reservation
  once : (s.dispatches.map ModelDispatchReservation.dispatchAttempt).Nodup
  paid : ∀ fields ∈ accepted (s.calls site), fields.dispatchState = .settled →
    Paid s fields.dispatchAttempt

def Due (token : WriterToken) (s : State Facts Digest) (attempt : Nat) : Prop :=
  s.started attempt = some token ∧
    ∀ reservation ∈ s.dispatches, reservation.dispatchAttempt ≠ attempt

def Allowed (site : CallSite Facts Digest) (token : WriterToken) (s : State Facts Digest) :
    CallRequest Facts Digest → Prop
  | .provider reservation => Due token s reservation.dispatchAttempt ∧
      ∃ fields ∈ accepted (s.calls site), Starts fields reservation
  | .commitInvocation invocation blobs _ =>
      token ∈ s.granted ∧ token.runId = site.runId ∧
        invocation.fields.logicalCallId = site.logicalCallId ∧
        (Authority.Stored s.journal.authority.table token →
          recordAt (s.calls site) invocation.fields.revision = none →
          invocation.fields.dispatchState = .settled → Paid s invocation.fields.dispatchAttempt ∧
            Carries blobs invocation.fields.resultRef)
  | .commitModelEvidence invocation =>
      token ∈ s.granted ∧ token.runId = site.runId ∧
        invocation.fields.logicalCallId = site.logicalCallId ∧
        ∃ row ∈ (s.calls site).records,
          modelInvocationPayloadForWrite site.journal.canonicalSha256 invocation = some row.payload
  | .writeAuthority | .boundary | .loadInvocation _ | .readBlob _ | .reconcileInvocation _ _ _
  | .reconcileEvidence _ => True

-- What an owner may rely on while it waits: until it is superseded the call is its own, and nobody
-- else enters the provider for an attempt that it started.
structure Relied (site : CallSite Facts Digest) (token : WriterToken) (s t : State Facts Digest) :
    Prop where
  granted : token ∈ t.granted
  kept : Kept s.journal t.journal
  own : Authority.Stored t.journal.authority.table token →
    Authority.Stored s.journal.authority.table token ∧ t.calls site = s.calls site
  started : ∀ attempt owner, s.started attempt = some owner → t.started attempt = some owner
  dispatches : s.dispatches <+: t.dispatches
  others : ∀ reservation ∈ t.dispatches, reservation ∈ s.dispatches ∨
    s.started reservation.dispatchAttempt ≠ some token

def Rely (site : CallSite Facts Digest) (token : WriterToken) (s t : State Facts Digest) : Prop :=
  token.runId = site.runId → token ∈ s.granted → Relied site token s t

variable (token : WriterToken)

variable (s : State Facts Digest)

omit [DecidableEq Digest] in
theorem rely_refl : Rely site token s s :=
  fun _ granted => ⟨granted, ⟨fun _ _ => List.prefix_rfl, .refl _⟩, fun stored => ⟨stored, rfl⟩,
    fun _ _ same => same, List.prefix_rfl, fun _ member => .inl member⟩

omit [DecidableEq Digest] in
theorem Relied.trans {token : WriterToken} {a b c : State Facts Digest}
    (one : Relied site token a b) (two : Relied site token b c) : Relied site token a c := by
  refine ⟨two.granted, ⟨fun runId call => (one.kept.1 runId call).trans (two.kept.1 runId call),
    one.kept.2.trans two.kept.2⟩, ?_, fun attempt owner same => two.started _ _
      (one.started _ _ same), one.dispatches.trans two.dispatches, ?_⟩
  · intro stored
    obtain ⟨between, later⟩ := two.own stored
    obtain ⟨before, earlier⟩ := one.own between
    exact ⟨before, later.trans earlier⟩
  · intro reservation member
    rcases two.others reservation member with held | foreign
    · exact one.others reservation held
    · exact .inr fun same => foreign (one.started _ _ same)

omit [DecidableEq Digest] in
theorem rely_trans (a b c : State Facts Digest) (first : Rely site token a b)
    (second : Rely site token b c) : Rely site token a c := by
  intro run granted
  have one := first run granted
  exact one.trans (second run one.granted)

def progress (fields : InvocationFields Facts Digest) : Nat :=
  4 * fields.dispatchAttempt + match fields.dispatchState with
    | .reserved => 0
    | .dispatchStarted => 1
    | .settled | .unknown => 2

omit [DecidableEq Digest] in
theorem follows_progress {previous next : InvocationFields Facts Digest}
    (follows : Follows previous next) : progress previous < progress next := by
  rcases follows.transition with ⟨⟨before, after⟩ | ⟨before, after | after⟩, attempt, -⟩ |
    ⟨failed, after, attempt⟩
  · simp [progress, before, after, attempt]
  · simp [progress, before, after, attempt]
  · simp [progress, before, after, attempt]
  · have settled : previous.dispatchState = .settled := by
      simp only [retryableFailure, Bool.and_eq_true, decide_eq_true_eq] at failed
      exact failed.1.1
    simp only [progress, settled, after, attempt]
    omega

variable {invocation : DurableModelInvocation Facts Digest}

theorem start_fresh {runId logicalCallId : OpaqueId} {journal : CallJournal Facts Digest}
    (inv : CallInv site.journal runId logicalCallId journal)
    (wins : invocationTransitionWinner site.journal journal invocation = none)
    (starting : invocation.fields.dispatchState = .dispatchStarted) :
    ∀ fields ∈ accepted journal, fields.dispatchState = .dispatchStarted →
      fields.dispatchAttempt ≠ invocation.fields.dispatchAttempt := by
  intro fields member state same
  obtain ⟨-, ⟨-, -, -, first⟩ | ⟨previous, ending, follows, -⟩⟩ :=
    invocationTransitionWinner_spec inv wins
  · rw [starting] at first
    cases first
  · have before := inv.chained.measure_le progress
      (fun _ _ step => Nat.le_of_lt (follows_progress step)) member ending
    rcases follows.transition with ⟨⟨reserved, -⟩ | ⟨-, closed | closed⟩, attempt, -⟩ |
      ⟨-, reserved, -⟩
    · rw [attempt] at same
      simp only [progress, state, same, reserved] at before
      omega
    · rw [starting] at closed
      cases closed
    · rw [starting] at closed
      cases closed
    · rw [starting] at reserved
      cases reserved

structure Landed (site : CallSite Facts Digest) (token : WriterToken) (s t : State Facts Digest)
    (invocation : DurableModelInvocation Facts Digest) (blobs : List (Digest × Bytes))
    (stageEvidence : Bool) (payload : InvocationPayload Facts Digest) : Prop where
  run : invocation.fields.runId = token.runId
  active : Authority.Stored s.journal.authority.table token
  entry : Entry site.journal (s.calls site) s.journal.blobs invocation blobs stageEvidence payload
    t.journal.blobs
  calls : t.calls site =
    accept site.journal (s.calls site) (insertedRow site.journal invocation.fields payload blobs)
  inserted : Inserted site.journal s.journal t.journal invocation blobs stageEvidence
  started : t.started = if invocation.fields.dispatchState = .dispatchStarted then
    Function.update s.started invocation.fields.dispatchAttempt (some token) else s.started

theorem serve_commitInvocation (s : State Facts Digest)
    (invocation : DurableModelInvocation Facts Digest) (blobs : List (Digest × Bytes))
    (stageEvidence : Bool) (choice : CallChoice Facts) (run : token.runId = site.runId)
    (call : invocation.fields.logicalCallId = site.logicalCallId) :
    let t := (serve site token s (.commitInvocation invocation blobs stageEvidence) choice).1
    (¬ (Accepts site.journal s.journal token invocation blobs stageEvidence choice.wait ∧
          choice.fault.keeps = true) ∧ t.journal.calls = s.journal.calls ∧
        t.journal.blobs = s.journal.blobs ∧ t.started = s.started) ∨
      ∃ payload, Landed site token s t invocation blobs stageEvidence payload := by
  obtain ⟨unchanged, inserted⟩ := next_commitInvocation site.journal s.journal token
    invocation blobs stageEvidence choice.wait choice.fault
  by_cases lands : Accepts site.journal s.journal token invocation blobs stageEvidence choice.wait ∧
      choice.fault.keeps = true
  · right
    have placed := inserted lands.1 lands.2
    have here : invocation.fields.runId = site.runId := lands.1.1.trans run
    obtain ⟨payload, entry, calls⟩ := placed
    have after : ((machine site.journal).next s.journal
        (.commitInvocation token invocation blobs stageEvidence choice.wait choice.fault)).calls
          site.runId site.logicalCallId = accept site.journal (s.calls site)
            (insertedRow site.journal invocation.fields payload blobs) := by
      rw [calls, here, call]
      simp [State.calls]
    refine ⟨payload, lands.1.1, lands.1.2.1.stored, ?_, after, inserted lands.1 lands.2, ?_⟩
    · rw [here, call] at entry
      exact entry
    · change noteStarted site s token invocation ((machine site.journal).next s.journal
        (.commitInvocation token invocation blobs stageEvidence choice.wait choice.fault)) = _
      simp [noteStarted, after, accept, State.calls]
  · left
    have kept := unchanged (by
      by_cases accepts : Accepts site.journal s.journal token invocation blobs stageEvidence
        choice.wait
      · right
        cases keeps : choice.fault.keeps with
        | false => rfl
        | true => exact absurd ⟨accepts, keeps⟩ lands
      · exact .inl accepts)
    refine ⟨lands, kept.1, kept.2, ?_⟩
    change noteStarted site s token invocation ((machine site.journal).next s.journal
      (.commitInvocation token invocation blobs stageEvidence choice.wait choice.fault)) = _
    simp [noteStarted, State.calls, kept.1]

theorem Submitted.keep {s t : State Facts Digest} {row : InvocationRow Facts Digest}
    (submitted : Submitted site s row) (kept : Kept s.journal t.journal) :
    Submitted site t row := by
  obtain ⟨invocation, blobs, stage, held, same, run, associated, carries⟩ := submitted
  exact ⟨invocation, blobs, stage, held.keep kept, same, run,
    fun item member => kept.2.2 _ _ (associated item member), carries⟩

omit [DecidableEq Digest] in
theorem kept_same {s t : InvocationJournal.State Facts Digest} (calls : t.calls = s.calls)
    (blobs : t.blobs = s.blobs) : Kept s t :=
  ⟨fun _ _ => by rw [calls], blobs ▸ BlobStore.Grows.refl _⟩

theorem accepted_append {payload : InvocationPayload Facts Digest} (blobs : List (Digest × Bytes))
    (written : modelInvocationPayloadForWrite site.journal.canonicalSha256 invocation =
      some payload) :
    ∃ fields, payload.decode = some fields ∧ fields.toJson = invocation.fields.toJson ∧
      accepted (accept site.journal (s.calls site)
        (insertedRow site.journal invocation.fields payload blobs)) =
          accepted (s.calls site) ++ [fields] := by
  obtain ⟨fields, decoded, same⟩ := modelInvocationPayloadForWrite_spec _ written
  exact ⟨fields, decoded, same, by simp [accepted, accept, insertedRow, decoded]⟩

theorem Inv.same {s t : State Facts Digest} (inv : Inv site s)
    (journal : InvocationJournal.Inv site.journal t.journal) (kept : Kept s.journal t.journal)
    (records : (t.calls site).records = (s.calls site).records)
    (evidence : ∀ out ∈ (t.calls site).evidence, ∃ row ∈ (s.calls site).records,
      out = evidenceRow site.journal row.payload)
    (table : t.journal.authority.table = s.journal.authority.table)
    (granted : t.granted = s.granted)
    (started : t.started = s.started) (dispatches : t.dispatches = s.dispatches) : Inv site t := by
  have accepted_t : accepted (t.calls site) = accepted (s.calls site) := by
    simp only [accepted, records]
  exact {
    journal := journal
    submitted := fun row member => (inv.submitted row (records ▸ member)).keep kept
    evidence := by rw [records]; exact evidence
    granted := by rw [granted, table]; exact inv.granted
    started := by simp only [Begun, started, accepted_t]; exact inv.started
    dispatched := by rw [accepted_t, dispatches]; exact inv.dispatched
    once := by rw [dispatches]; exact inv.once
    paid := by simp only [Paid, accepted_t, dispatches]; exact inv.paid }

theorem serve_table (site : CallSite Facts Digest) (token : WriterToken)
    (s : State Facts Digest)
    (request : CallRequest Facts Digest) (choice : CallChoice Facts) :
    (serve site token s request choice).1.journal.authority.table = s.journal.authority.table ∧
      (serve site token s request choice).1.granted = s.granted := by
  cases request with
  | commitInvocation invocation blobs stage =>
    refine ⟨?_, rfl⟩
    simp only [serve, InvocationJournal.commitInvocation]
    split
    · rfl
    · split
      · dsimp only
        split <;> rfl
      · rfl
  | commitModelEvidence invocation =>
    refine ⟨?_, rfl⟩
    simp only [serve, InvocationJournal.commitModelEvidence]
    split
    · rfl
    · split
      · dsimp only
        split <;> rfl
      · rfl
  | _ => exact ⟨rfl, rfl⟩

theorem serve_kept (site : CallSite Facts Digest) (token : WriterToken)
    (s : State Facts Digest)
    (request : CallRequest Facts Digest) (choice : CallChoice Facts) :
    Kept s.journal (serve site token s request choice).1.journal := by
  cases request with
  | commitInvocation invocation blobs stage =>
    exact next_kept site.journal s.journal
      (.commitInvocation token invocation blobs stage choice.wait choice.fault)
  | commitModelEvidence invocation =>
    exact next_kept site.journal s.journal
      (.commitModelEvidence token invocation choice.wait choice.fault)
  | _ => exact kept_same rfl rfl

theorem serve_journal_inv (site : CallSite Facts Digest) (token : WriterToken)
    (s : State Facts Digest)
    (request : CallRequest Facts Digest) (choice : CallChoice Facts)
    (inv : InvocationJournal.Inv site.journal s.journal) :
    InvocationJournal.Inv site.journal (serve site token s request choice).1.journal := by
  cases request with
  | commitInvocation invocation blobs stage =>
    exact next_inv site.journal s.journal
      (.commitInvocation token invocation blobs stage choice.wait choice.fault) inv
  | commitModelEvidence invocation =>
    exact next_inv site.journal s.journal
      (.commitModelEvidence token invocation choice.wait choice.fault) inv
  | _ => exact inv

theorem Landed.inv {token : WriterToken} {s t : State Facts Digest} {blobs : List (Digest × Bytes)}
    {stageEvidence : Bool} {payload : InvocationPayload Facts Digest} (inv : Inv site s)
    (landed : Landed site token s t invocation blobs stageEvidence payload)
    (journal : InvocationJournal.Inv site.journal t.journal) (kept : Kept s.journal t.journal)
    (here : invocation.fields.runId = site.runId)
    (settles : invocation.fields.dispatchState = .settled →
      Paid s invocation.fields.dispatchAttempt ∧
        Carries blobs invocation.fields.resultRef)
    (table : t.journal.authority.table = s.journal.authority.table)
    (granted : t.granted = s.granted) (dispatches : t.dispatches = s.dispatches) : Inv site t := by
  obtain ⟨fields, decoded, same, grown⟩ :=
    accepted_append s blobs landed.entry.written
  simp only [InvocationFields.toJson, InvocationPayload.mk.injEq, Option.some.injEq] at same
  have records : (t.calls site).records = (s.calls site).records ++
      [insertedRow site.journal invocation.fields payload blobs] := by rw [landed.calls]; rfl
  have accepted_t : accepted (t.calls site) = accepted (s.calls site) ++ [fields] := by
    rw [landed.calls, grown]
  refine ⟨journal, ?_, ?_, ?_, ?_, ?_, ?_, ?_⟩
  · intro row member
    rw [records] at member
    rcases List.mem_append.mp member with earlier | added
    · exact (inv.submitted row earlier).keep kept
    · rw [List.mem_singleton.mp added]
      obtain ⟨written, held⟩ := landed.inserted.held
      have equal := landed.entry.written.symm.trans held.written
      cases equal
      have persisted := (BlobStore.persistBlobs_spec landed.entry.persists).2
      refine ⟨invocation, blobs, stageEvidence, held, rfl, here, ?_, fun state => (settles state).2⟩
      intro item submitted
      rw [← here]
      exact (persisted item submitted).2
  · intro out member
    rw [landed.calls] at member
    obtain ⟨row, stored, image⟩ := inv.evidence out member
    exact ⟨row, by rw [records]; exact List.mem_append_left _ stored, image⟩
  · rw [granted, table]
    exact inv.granted
  · intro attempt
    have grownBegun : Begun site t attempt ↔ Begun site s attempt ∨
        fields.dispatchState = .dispatchStarted ∧ fields.dispatchAttempt = attempt := by
      simp [Begun, accepted_t, or_and_right, exists_or]
    rw [grownBegun, ← inv.started attempt, landed.started]
    by_cases starting : invocation.fields.dispatchState = .dispatchStarted
    · by_cases this : attempt = invocation.fields.dispatchAttempt
      · subst this
        simp [starting, same]
      · have other : fields.dispatchAttempt ≠ attempt := by
          intro equal
          exact this (equal.symm.trans (by simp [same]))
        simp [starting, this, other]
    · simp [starting, same]
  · rw [dispatches, accepted_t]
    intro reservation member
    obtain ⟨earlier, stored, starts⟩ := inv.dispatched reservation member
    exact ⟨earlier, List.mem_append_left _ stored, starts⟩
  · rw [dispatches]
    exact inv.once
  · simp only [accepted_t, Paid, dispatches]
    intro other member state
    rcases List.mem_append.mp member with earlier | added
    · exact inv.paid other earlier state
    · rw [List.mem_singleton.mp added] at state ⊢
      have settled : invocation.fields.dispatchState = .settled := by simpa [same] using state
      simpa [Paid, same] using (settles settled).1

theorem commitModelEvidence_evidence (codec : InvocationCodec Facts Digest)
    (s : InvocationJournal.State Facts Digest) (token : WriterToken)
    (invocation : DurableModelInvocation Facts Digest) (fault : Fault) :
    let t := (commitModelEvidence codec s token invocation fault).1
    t.calls = s.calls ∨ invocation.fields.runId = token.runId ∧
      Authority.Stored s.authority.table token ∧ ∃ payload,
        modelInvocationPayloadForWrite codec.canonicalSha256 invocation = some payload ∧
        (t.calls invocation.fields.runId invocation.fields.logicalCallId).evidence =
          (s.calls invocation.fields.runId invocation.fields.logicalCallId).evidence ++
            [evidenceRow codec payload] := by
  unfold commitModelEvidence
  dsimp only
  split
  · exact .inl rfl
  next run =>
    split
    next current =>
      have active : Authority.Active s.authority.table token s.authority.clock :=
        (currentWriterLocked_iff _ _ _).mp current
      dsimp only
      split
      · rcases commitEvidenceLocked_spec codec false
            (s.calls invocation.fields.runId invocation.fields.logicalCallId) invocation with
          ⟨same, -⟩ | ⟨-, payload, written, appended⟩
        · left
          rw [same]
          exact setCall_same s _ _
        · refine .inr ⟨not_not.mp run, active.stored, payload, written, ?_⟩
          rw [appended]
          simp [InvocationJournal.State.setCall, evidenceRow]
      · exact .inl rfl
    · exact .inl rfl

theorem serve_inv (request : CallRequest Facts Digest) (choice : CallChoice Facts)
    (inv : Inv site s) (allowed : Allowed site token s request) :
    Inv site (serve site token s request choice).1 := by
  have journal := serve_journal_inv site token s request choice inv.journal
  have kept := serve_kept site token s request choice
  have table := serve_table site token s request choice
  cases request with
  | commitInvocation invocation blobs stage =>
    obtain ⟨granted, run, call, settles⟩ := allowed
    rcases serve_commitInvocation token s invocation blobs stage choice run call with
      ⟨-, calls, -, started⟩ | ⟨payload, landed⟩
    · have same : State.calls site
          (serve site token s (.commitInvocation invocation blobs stage) choice).1 =
            s.calls site := by simp only [State.calls, calls]
      refine inv.same journal kept (by rw [same]) ?_ table.1 table.2 started rfl
      rw [same]
      exact inv.evidence
    · have here : invocation.fields.runId = site.runId := landed.run.trans run
      exact landed.inv inv journal kept here
        (settles landed.active landed.entry.free) table.1 table.2 rfl
  | commitModelEvidence invocation =>
    obtain ⟨granted, run, call, row, stored, written⟩ := allowed
    have records := (commitModelEvidence_records site.journal
      (s.journal.wait choice.wait) token invocation choice.fault site.runId
      site.logicalCallId).2
    refine inv.same journal kept records.1 ?_ table.1 table.2 rfl rfl
    intro out member
    rcases commitModelEvidence_evidence site.journal (s.journal.wait choice.wait) token invocation
        choice.fault with same | ⟨here, -, payload, again, evidence⟩
    · simp only [State.calls, serve, same] at member
      exact inv.evidence out member
    · rw [written] at again
      cases again
      rw [here, run, call] at evidence
      simp only [State.calls, serve, evidence] at member
      rcases List.mem_append.mp member with earlier | added
      · exact inv.evidence out earlier
      · exact ⟨row, stored, List.mem_singleton.mp added⟩
  | provider reservation =>
    obtain ⟨due, fields, member, starts⟩ := allowed
    refine ⟨journal, inv.submitted, inv.evidence, inv.granted, inv.started, ?_, ?_, ?_⟩
    · intro other held
      rcases List.mem_append.mp held with earlier | added
      · exact inv.dispatched other earlier
      · rw [List.mem_singleton.mp added]
        exact ⟨fields, member, starts⟩
    · simp only [serve, List.map_append, List.map_cons, List.map_nil]
      apply List.Nodup.append inv.once (List.nodup_singleton _)
      intro attempt earlier added
      obtain ⟨other, held, same⟩ := List.mem_map.mp earlier
      rw [List.mem_singleton.mp added] at same
      exact due.2 other held same
    · intro other held state
      obtain ⟨paid, earlier, same⟩ := inv.paid other held state
      exact ⟨paid, List.mem_append_left _ earlier, same⟩
  | _ => exact inv.same journal kept rfl inv.evidence table.1 table.2 rfl rfl

theorem serve_relied (other : WriterToken) (s : State Facts Digest)
    (request : CallRequest Facts Digest) (choice : CallChoice Facts) (inv : Inv site s)
    (allowed : Allowed site token s request) (apart : other ≠ token) :
    Rely site other s (serve site token s request choice).1 := by
  intro run granted
  have kept := serve_kept site token s request choice
  obtain ⟨table, same⟩ := serve_table site token s request choice
  have alone (first : token.runId = site.runId)
      (stored : Authority.Stored s.journal.authority.table token)
      (later : Authority.Stored (serve site token s request choice).1.journal.authority.table
        other) : False := by
    rw [table] at later
    exact apart (later.unique stored (run.trans first.symm))
  cases request with
  | commitInvocation invocation blobs stage =>
    obtain ⟨-, first, call, -⟩ := allowed
    rcases serve_commitInvocation token s invocation blobs stage choice first call with
      ⟨-, calls, -, started⟩ | ⟨payload, landed⟩
    · refine ⟨same ▸ granted, kept, ?_, ?_, List.prefix_rfl, fun _ member => .inl member⟩
      · intro stored
        refine ⟨table ▸ stored, ?_⟩
        simp only [State.calls, calls]
      · intro attempt owner before
        rw [started]
        exact before
    · refine ⟨same ▸ granted, kept, fun stored => (alone first landed.active stored).elim, ?_,
        List.prefix_rfl, fun _ member => .inl member⟩
      intro attempt owner before
      rw [landed.started]
      by_cases starting : invocation.fields.dispatchState = .dispatchStarted
      · have fresh := start_fresh (inv.journal site.runId site.logicalCallId)
          landed.entry.wins starting
        have begun : Begun site s attempt := (inv.started attempt).mp (by simp [before])
        obtain ⟨fields, member, state, rfl⟩ := begun
        rw [if_pos starting, Function.update_of_ne (fresh fields member state)]
        exact before
      · rw [if_neg starting]
        exact before
  | commitModelEvidence invocation =>
    obtain ⟨-, first, -, -⟩ := allowed
    refine ⟨same ▸ granted, kept, ?_, fun _ _ before => before, List.prefix_rfl,
      fun _ member => .inl member⟩
    intro stored
    rcases commitModelEvidence_evidence site.journal (s.journal.wait choice.wait) token invocation
        choice.fault with unchanged | ⟨-, active, -⟩
    · refine ⟨table ▸ stored, ?_⟩
      simp only [State.calls, serve, unchanged]
      rfl
    · exact (alone first active stored).elim
  | provider reservation =>
    refine ⟨granted, kept, fun stored => ⟨stored, rfl⟩, fun _ _ before => before,
      List.prefix_append _ _, ?_⟩
    intro made member
    rcases List.mem_append.mp member with earlier | added
    · exact .inl earlier
    · right
      rw [List.mem_singleton.mp added, allowed.1.1]
      simpa using apart.symm
  | _ =>
    exact ⟨granted, kept, fun stored => ⟨stored, rfl⟩, fun _ _ before => before, List.prefix_rfl,
      fun _ member => .inl member⟩

theorem environment_inv (label : Authority.Label) (inv : Inv site s) :
    Inv site (environment s label) := by
  have continues := Authority.next_continues s.journal.authority label
  have kept : Kept s.journal (environment s label).journal := kept_same rfl rfl
  refine ⟨inv.journal, fun row member => (inv.submitted row member).keep kept, inv.evidence, ?_,
    inv.started, inv.dispatched, inv.once, inv.paid⟩
  intro token member
  rcases List.mem_append.mp member with earlier | added
  · rcases inv.granted token earlier with stored | superseded
    · exact continues.stored stored
    · exact .inr (continues.superseded superseded)
  · left
    cases answer : Authority.machine.answer s.journal.authority label with
    | claimed lease =>
      have handed : token = lease.writerToken := by
        change token ∈ (grantedBy
          (Authority.machine.answer s.journal.authority label)).toList at added
        simpa [answer, grantedBy] using added
      rw [handed]
      exact Authority.answer_stored _ _ _ answer
    | _ =>
      change token ∈ (grantedBy
        (Authority.machine.answer s.journal.authority label)).toList at added
      simp [answer, grantedBy] at added

theorem environment_relied (label : Authority.Label) (inv : Inv site s) :
    Rely site token s (environment s label) := by
  intro run granted
  have continues := Authority.next_continues s.journal.authority label
  refine ⟨List.mem_append_left _ granted, kept_same rfl rfl, ?_, fun _ _ before => before,
    List.prefix_rfl, fun _ member => .inl member⟩
  intro stored
  refine ⟨(inv.granted token granted).resolve_right ?_, rfl⟩
  intro superseded
  exact (continues.superseded superseded).unstored stored

theorem init_inv (site : CallSite Facts Digest) : Inv site (init Facts Digest site) where
  journal := initial_inv site.journal
  submitted _ member := nomatch member
  evidence _ member := nomatch member
  granted _ member := nomatch member
  started attempt := by
    constructor
    · intro some
      cases some
    · rintro ⟨fields, member, -⟩
      cases member
  dispatched _ member := nomatch member
  once := List.nodup_nil
  paid _ member := nomatch member

def discipline (site : CallSite Facts Digest) : Discipline (State Facts Digest) WriterToken
    (CallRequest Facts Digest) CallReply (CallChoice Facts) where
  serve := serve site
  inv := Inv site
  rely := Rely site
  allowed := Allowed site
  rely_refl := rely_refl
  rely_trans := rely_trans
  serve_inv := serve_inv
  guarantee := serve_relied

def party (site : CallSite Facts Digest) : Party (State Facts Digest) WriterToken
    (CallRequest Facts Digest) CallReply (CallChoice Facts) (Except CallError (CallOutcome Facts))
    CallParams Authority.Label where
  discipline := discipline site
  init := init Facts Digest site
  program := program site
  ready := ready site
  environment := environment
  init_inv := init_inv site
  environment_inv := environment_inv
  environment_rely := environment_relied

end PaidDispatch

end MonoidKernel
