import MonoidKernel.Hosting.DispatchDiscipline

set_option autoImplicit false

namespace MonoidKernel

namespace PaidDispatch

open Library InvocationJournal
open Library.Discipline (Does)

variable {Facts Digest : Type} [DecidableEq Digest]
variable {site : CallSite Facts Digest} {token : WriterToken} {s t u : State Facts Digest}
variable {journal : CallJournal Facts Digest}

def Quiet (site : CallSite Facts Digest) (token : WriterToken) (s : State Facts Digest)
    (request : CallRequest Facts Digest) : Prop :=
  Allowed site token s request ∧ ∀ reservation, request ≠ .provider reservation

structure Owner (site : CallSite Facts Digest) (token : WriterToken) (s : State Facts Digest) :
    Prop where
  inv : Inv site s
  run : token.runId = site.runId
  granted : token ∈ s.granted

structure Since (site : CallSite Facts Digest) (token : WriterToken) (s t : State Facts Digest) :
    Prop where
  owner : Owner site token t
  kept : Kept s.journal t.journal
  dispatches : s.dispatches <+: t.dispatches
  stored : Authority.Stored t.journal.authority.table token →
    Authority.Stored s.journal.authority.table token

structure Waited (site : CallSite Facts Digest) (token : WriterToken) (s t : State Facts Digest) :
    Prop where
  owner : Owner site token t
  relied : Relied site token s t

def Fails (site : CallSite Facts Digest) (token : WriterToken) (s t : State Facts Digest)
    (error : CallError) : Prop :=
  Since site token s t ∧ error ≠ .durable "dispatch_unknown"

def Unmoved (site : CallSite Facts Digest) (token : WriterToken)
    (journal : CallJournal Facts Digest) (s : State Facts Digest) : Prop :=
  Authority.Stored s.journal.authority.table token → (s.calls site).records = journal.records

omit [DecidableEq Digest] in
theorem Unmoved.recordAt (unmoved : Unmoved site token journal s)
    (stored : Authority.Stored s.journal.authority.table token) (revision : Nat) :
    recordAt (s.calls site) revision = recordAt journal revision := by
  simp only [InvocationJournal.recordAt, unmoved stored]

theorem Owner.since (owner : Owner site token s) : Since site token s s :=
  ⟨owner, kept_same rfl rfl, List.prefix_rfl, id⟩

theorem Since.trans (first : Since site token s t) (second : Since site token t u) :
    Since site token s u :=
  ⟨second.owner, ⟨fun runId call => (first.kept.1 runId call).trans (second.kept.1 runId call),
    first.kept.2.trans second.kept.2⟩, first.dispatches.trans second.dispatches,
    fun stored => first.stored (second.stored stored)⟩

theorem Waited.since (waited : Waited site token s t) : Since site token s t :=
  ⟨waited.owner, waited.relied.kept, waited.relied.dispatches,
    fun stored => (waited.relied.own stored).1⟩

theorem Waited.trans (first : Waited site token s t) (second : Waited site token t u) :
    Waited site token s u :=
  ⟨second.owner, first.relied.trans second.relied⟩

omit [DecidableEq Digest] in
theorem Relied.unmoved (relied : Relied site token s t)
    (unmoved : Unmoved site token journal s) : Unmoved site token journal t := by
  intro stored
  obtain ⟨before, same⟩ := relied.own stored
  rw [same]
  exact unmoved before

omit [DecidableEq Digest] in
theorem Relied.due (relied : Relied site token s t) {attempt : Nat} (due : Due token s attempt) :
    Due token t attempt := by
  refine ⟨relied.started _ _ due.1, ?_⟩
  intro reservation member same
  rcases relied.others reservation member with earlier | foreign
  · exact due.2 reservation earlier same
  · rw [same] at foreign
    exact foreign due.1

theorem Since.accepted (since : Since site token s t) {fields : InvocationFields Facts Digest}
    (member : fields ∈ accepted (s.calls site)) : fields ∈ accepted (t.calls site) := by
  obtain ⟨row, stored, decoded⟩ := accepted_mem.mp member
  exact accepted_mem.mpr ⟨row, (since.kept.1 _ _).subset stored, decoded⟩

theorem Since.paid (since : Since site token s t) {attempt : Nat} (paid : Paid s attempt) :
    Paid t attempt := by
  obtain ⟨reservation, member, same⟩ := paid
  exact ⟨reservation, since.dispatches.subset member, same⟩

section Rules

variable {A B : Type} {requests : State Facts Digest → CallRequest Facts Digest → Prop}
variable {action : CallAction Facts Digest A}

def Reads : CallRequest Facts Digest → Prop
  | .commitInvocation _ _ _ | .commitModelEvidence _ | .provider _ => False
  | _ => True

theorem read_waited (owner : Owner site token s) {request : CallRequest Facts Digest}
    (reads : Reads request) (choice : CallChoice Facts)
    (interfered : Rely site token (serve site token s request choice).1 t) (inv : Inv site t) :
    Waited site token s t := by
  have own : Relied site token s (serve site token s request choice).1 := by
    cases request with
    | commitInvocation | commitModelEvidence | provider => exact reads.elim
    | _ => exact ⟨owner.granted, kept_same rfl rfl, fun stored => ⟨stored, rfl⟩,
        fun _ _ same => same, List.prefix_rfl, fun _ member => .inl member⟩
  have relied := own.trans (interfered owner.run own.granted)
  exact ⟨⟨inv, owner.run, relied.granted⟩, relied⟩

theorem read_quiet {request : CallRequest Facts Digest} (reads : Reads request) :
    Quiet site token s request := by
  cases request with
  | commitInvocation | commitModelEvidence | provider => exact reads.elim
  | _ => exact ⟨trivial, fun _ same => nomatch same⟩

theorem read_does (owner : Owner site token s) (request : CallRequest Facts Digest)
    (reads : Reads request) {failed : State Facts Digest → CallError → Prop} :
    (discipline site).Does token (Quiet site token) s
      (Action.ask request : CallAction Facts Digest _)
      (fun t reply => Waited site token s t ∧
        ∃ choice, reply = (serve site token s request choice).2) failed := by
  apply Does.ask (read_quiet reads)
  intro choice t interfered inv
  exact ⟨read_waited owner reads choice interfered inv, choice, rfl⟩

theorem assertActive_does (owner : Owner site token s) :
    (discipline site).Does token (Quiet site token) s
      (ModelCalls.assertActive : CallAction Facts Digest Unit)
      (fun t _ => Waited site token s t) (Fails site token s) := by
  apply Does.andThen
  apply (read_does owner .writeAuthority trivial).weaken ?_ (fun _ _ failed => failed)
  rintro t revoked ⟨waited, -⟩
  cases revoked with
  | true => exact Does.raise ⟨waited.since, by simp⟩
  | false => exact Does.pure waited

theorem checkBoundary_does (owner : Owner site token s) :
    (discipline site).Does token (Quiet site token) s
      (ModelCalls.checkBoundary : CallAction Facts Digest Unit)
      (fun t _ => Waited site token s t) (Fails site token s) := by
  apply Does.andThen
  apply (read_does owner .boundary trivial).weaken ?_ (fun _ _ failed => failed)
  rintro t stops ⟨waited, -⟩
  cases stops with
  | true => exact Does.raise ⟨waited.since, by simp⟩
  | false => exact Does.pure waited

theorem guardExternalCall_does (owner : Owner site token s)
    {ok : State Facts Digest → A → Prop}
    (lasting : ∀ t u value, ok t value → Waited site token t u → ok u value)
    (since : ∀ t value, ok t value → Since site token s t)
    (inner : ∀ t, Waited site token s t →
      (discipline site).Does token (Quiet site token) t action ok (Fails site token s)) :
    (discipline site).Does token (Quiet site token) s (ModelCalls.guardExternalCall action) ok
      (Fails site token s) := by
  apply Does.andThen
  apply (assertActive_does owner).weaken ?_ (fun _ _ failed => failed)
  intro t _ waited
  apply Does.ensure
  apply (inner t waited).weaken
  · intro u value done
    apply (assertActive_does (since u value done).owner).weaken
    · intro v _ further
      exact lasting u v value done further
    · rintro v error ⟨further, other⟩
      exact ⟨(since u value done).trans further, other⟩
  · rintro u error ⟨earlier, other⟩
    apply (assertActive_does earlier.owner).weaken
    · intro v _ further
      exact ⟨earlier.trans further.since, other⟩
    · rintro v error ⟨further, other⟩
      exact ⟨earlier.trans further, other⟩

theorem unlessRevoked_does {ok : State Facts Digest → A → Prop} {error : CallError}
    (other : error ≠ .durable "dispatch_unknown")
    (does : (discipline site).Does token (Quiet site token) t action ok (Fails site token s)) :
    (discipline site).Does token (Quiet site token) t (ModelCalls.unlessRevoked action error) ok
      (Fails site token s) := by
  apply Does.handle
  apply does.weaken (fun _ _ done => done)
  rintro u raised ⟨since, -⟩
  cases raised with
  | authorityRevoked => exact Does.raise ⟨since, by simp⟩
  | _ => exact Does.raise ⟨since, other⟩

end Rules

structure Snapshot (site : CallSite Facts Digest) (token : WriterToken) (s t : State Facts Digest)
    (base : CallJournal Facts Digest) : Prop where
  waited : Waited site token s t
  inv : CallInv site.journal site.runId site.logicalCallId base
  unmoved : Unmoved site token base t
  earlier : (s.calls site).records <+: base.records
  later : base.records <+: (t.calls site).records
  same : Authority.Stored t.journal.authority.table token → s.calls site = base

structure FoundIn (site : CallSite Facts Digest) (base : CallJournal Facts Digest)
    (invocation : DurableModelInvocation Facts Digest) : Prop where
  loaded : ∃ row, Loaded site.journal base invocation row
  run : invocation.fields.runId = site.runId
  call : invocation.fields.logicalCallId = site.logicalCallId

theorem Snapshot.wait {base : CallJournal Facts Digest} (snapshot : Snapshot site token s t base)
    (waited : Waited site token t u) : Snapshot site token s u base where
  waited := snapshot.waited.trans waited
  inv := snapshot.inv
  unmoved := waited.relied.unmoved snapshot.unmoved
  earlier := snapshot.earlier
  later := snapshot.later.trans (waited.relied.kept.1 _ _)
  same stored := snapshot.same (waited.relied.own stored).1

theorem Waited.snapshot (before : Waited site token s t) (after : Waited site token t u) :
    Snapshot site token s u (t.calls site) where
  waited := before.trans after
  inv := before.owner.inv.journal _ _
  unmoved stored := by rw [(after.relied.own stored).2]
  earlier := before.relied.kept.1 _ _
  later := after.relied.kept.1 _ _
  same stored := (before.relied.own (after.relied.own stored).1).2.symm

theorem loadReply_does (owner : Owner site token s) :
    (discipline site).Does token (Quiet site token) s
      (ModelCalls.unlessRevoked (ModelCalls.guardExternalCall do
        match ← (ModelCalls.askLoadInvocation site.logicalCallId :
            CallAction Facts Digest (LoadReply Facts Digest)) with
        | .raised => Action.raise .external
        | reply => pure reply) (.durable "durable_invocation_load_failed"))
      (fun t reply => ∃ base, Snapshot site token s t base ∧ match reply with
        | .missing => base.records = []
        | .loaded invocation => FoundIn site base invocation
        | .unreadable | .raised => False) (Fails site token s) := by
  apply unlessRevoked_does (by simp)
  apply guardExternalCall_does owner
  · rintro t u reply ⟨base, snapshot, found⟩ waited
    exact ⟨base, snapshot.wait waited, found⟩
  · rintro t reply ⟨base, snapshot, -⟩
    exact snapshot.waited.since
  · intro t before
    apply Does.andThen
    apply (read_does before.owner (.loadInvocation site.logicalCallId) trivial).weaken ?_
      (fun _ _ failed => failed)
    rintro u reply ⟨after, choice, rfl⟩
    have snapshot := before.snapshot after
    simp only [serve]
    cases choice.raised with
    | true => exact Does.raise ⟨snapshot.waited.since, by simp⟩
    | false =>
      simp only [Bool.false_eq_true, if_false]
      have run := before.owner.run
      rcases loadInvocation_spec (before.owner.inv.journal site.runId site.logicalCallId) with
        ⟨empty, missing⟩ | ⟨invocation, row, found, loaded, runs, calls⟩
      · rw [run, missing]
        exact Does.pure ⟨_, snapshot, empty⟩
      · rw [run, found]
        exact Does.pure ⟨_, snapshot, ⟨row, loaded⟩, runs, calls⟩

theorem load_does (lifecycle : ModelCallLifecycle) (owner : Owner site token s) :
    (discipline site).Does token (Quiet site token) s
      (ModelCalls.load lifecycle site.logicalCallId : CallAction Facts Digest _)
      (fun t found => ∃ base, Snapshot site token s t base ∧ match found with
        | none => base.records = []
        | some invocation => FoundIn site base invocation) (Fails site token s) := by
  apply Does.andThen
  apply (loadReply_does owner).weaken ?_ (fun _ _ failed => failed)
  rintro t reply ⟨base, snapshot, found⟩
  cases reply with
  | missing => exact Does.pure ⟨base, snapshot, found⟩
  | unreadable => exact found.elim
  | raised => exact found.elim
  | loaded invocation =>
    dsimp only
    split
    · exact Does.raise ⟨snapshot.waited.since, by simp⟩
    · exact Does.pure ⟨base, snapshot, found⟩

section Commits

variable {invocation : DurableModelInvocation Facts Digest} {blobs : List (Digest × Bytes)}
variable {stageEvidence : Bool} {base : CallJournal Facts Digest}

def Wrote (site : CallSite Facts Digest) (token : WriterToken) (s : State Facts Digest)
    (invocation : DurableModelInvocation Facts Digest) (blobs : List (Digest × Bytes)) : Prop :=
  ∃ payload, modelInvocationPayloadForWrite site.journal.canonicalSha256 invocation =
      some payload ∧
    insertedRow site.journal invocation.fields payload blobs ∈ (s.calls site).records ∧
    (∀ item ∈ blobs, s.journal.blobs.content item.1 = some item.2) ∧
    (invocation.fields.dispatchState = .dispatchStarted →
      Due token s invocation.fields.dispatchAttempt)

theorem Wrote.wait (wrote : Wrote site token s invocation blobs) (waited : Waited site token s t) :
    Wrote site token t invocation blobs := by
  obtain ⟨payload, written, stored, content, due⟩ := wrote
  exact ⟨payload, written, (waited.relied.kept.1 _ _).subset stored,
    fun item member => waited.relied.kept.2.1 _ _ (content item member),
    fun starting => waited.relied.due (due starting)⟩

theorem Landed.wrote {payload : InvocationPayload Facts Digest} (inv : Inv site s)
    (landed : Landed site token s t invocation blobs stageEvidence payload)
    (dispatches : t.dispatches = s.dispatches) : Wrote site token t invocation blobs := by
  refine ⟨payload, landed.entry.written, ?_, ?_, ?_⟩
  · rw [landed.calls]
    exact List.mem_append_right _ (List.mem_singleton_self _)
  · intro item member
    exact ((BlobStore.persistBlobs_spec landed.entry.persists).2 item member).1
  · intro starting
    refine ⟨by simp [landed.started, starting], ?_⟩
    rw [dispatches]
    intro reservation member same
    obtain ⟨fields, held, starts⟩ := inv.dispatched reservation member
    exact start_fresh (inv.journal _ _) landed.entry.wins starting fields held starts.state
      (starts.attempt.trans same)

structure Submits (site : CallSite Facts Digest) (token : WriterToken)
    (base : CallJournal Facts Digest) (s : State Facts Digest)
    (invocation : DurableModelInvocation Facts Digest) (blobs : List (Digest × Bytes)) : Prop where
  unmoved : Unmoved site token base s
  call : invocation.fields.logicalCallId = site.logicalCallId
  settles : recordAt base invocation.fields.revision = none →
    invocation.fields.dispatchState = .settled → Paid s invocation.fields.dispatchAttempt ∧
      Carries blobs invocation.fields.resultRef

theorem Submits.wait (submits : Submits site token base s invocation blobs)
    (waited : Waited site token s t) : Submits site token base t invocation blobs where
  unmoved := waited.relied.unmoved submits.unmoved
  call := submits.call
  settles free state := by
    obtain ⟨paid, shape⟩ := submits.settles free state
    exact ⟨waited.since.paid paid, shape⟩

theorem Submits.quiet (submits : Submits site token base s invocation blobs)
    (owner : Owner site token s) :
    Quiet site token s (.commitInvocation invocation blobs stageEvidence) := by
  refine ⟨⟨owner.granted, owner.run, submits.call, ?_⟩, fun _ same => nomatch same⟩
  intro stored free state
  rw [submits.unmoved.recordAt stored] at free
  exact submits.settles free state

def Recorded (site : CallSite Facts Digest) (token : WriterToken)
    (base : CallJournal Facts Digest) (s t : State Facts Digest)
    (invocation : DurableModelInvocation Facts Digest) (blobs : List (Digest × Bytes)) : Prop :=
  Authority.Stored s.journal.authority.table token ∧
    (Wrote site token t invocation blobs ∨
      ∃ row, recordAt base invocation.fields.revision = some row)

theorem serve_since (owner : Owner site token s) {request : CallRequest Facts Digest}
    (allowed : Allowed site token s request) (choice : CallChoice Facts) :
    Since site token s (serve site token s request choice).1 := by
  obtain ⟨table, granted⟩ := serve_table site token s request choice
  refine ⟨⟨serve_inv token s request choice owner.inv allowed, owner.run, granted ▸ owner.granted⟩,
    serve_kept site token s request choice, ?_, fun stored => table ▸ stored⟩
  cases request with
  | provider reservation => exact List.prefix_append _ _
  | _ => exact List.prefix_rfl

theorem sinkCommitInvocation_does (owner : Owner site token s)
    (submits : Submits site token base s invocation blobs) :
    (discipline site).Does token (Quiet site token) s
      (ModelCalls.sinkCommitInvocation invocation blobs stageEvidence)
      (fun t result => Since site token s t ∧
        (Taken result.status → Recorded site token base s t invocation blobs))
      (Fails site token s) := by
  have quiet : Quiet site token s (.commitInvocation invocation blobs stageEvidence) :=
    submits.quiet owner
  apply Does.andThen
  apply Does.ask quiet
  intro choice t interfered inv
  have own := serve_since owner quiet.1 choice
  have relied : Relied site token (serve site token s
      (.commitInvocation invocation blobs stageEvidence) choice).1 t :=
    interfered owner.run own.owner.granted
  have after : Waited site token (serve site token s
      (.commitInvocation invocation blobs stageEvidence) choice).1 t :=
    ⟨⟨inv, owner.run, relied.granted⟩, relied⟩
  have since := own.trans after.since
  have landing := serve_commitInvocation token s invocation blobs stageEvidence choice owner.run
    submits.call
  have same : (discipline site).serve token s (.commitInvocation invocation blobs stageEvidence)
      choice = serve site token s (.commitInvocation invocation blobs stageEvidence) choice := rfl
  rw [same]
  have reply : (serve site token s (.commitInvocation invocation blobs stageEvidence) choice).2 =
      (InvocationJournal.commitInvocation site.journal (s.journal.wait choice.wait) token invocation
        blobs stageEvidence choice.fault).2 := rfl
  rw [reply]
  generalize answer : (InvocationJournal.commitInvocation site.journal (s.journal.wait choice.wait)
    token invocation blobs stageEvidence choice.fault).2 = given
  have read (stored : Authority.Stored s.journal.authority.table token)
      (found : ∃ row, recordAt (s.calls site) invocation.fields.revision = some row) :
      ∃ row, recordAt base invocation.fields.revision = some row := by
    rw [← submits.unmoved.recordAt stored]
    exact found
  cases given with
  | raised => exact Does.raise ⟨since, by simp⟩
  | answered result =>
    apply Does.pure
    refine ⟨since, ?_⟩
    intro taken
    obtain ⟨answered, run, active, locked⟩ := commitInvocation_taken answer taken
    refine ⟨active.stored, ?_⟩
    have here : invocation.fields.runId = site.runId := run.trans owner.run
    rcases taken with committed | repeated
    · left
      rcases landing with ⟨refused, -⟩ | ⟨payload, landed⟩
      · refine absurd ⟨⟨run, active, ?_⟩, by rw [answered]; rfl⟩ refused
        rw [← locked] at committed
        exact committed
      · exact (landed.wrote owner.inv rfl).wait after
    · right
      apply read active.stored
      rw [← locked] at repeated
      have found := commitInvocationLocked_repeated repeated
      rw [here, submits.call] at found
      exact found
  | ambiguous =>
    apply Does.andThen
    apply (read_does after.owner (.reconcileInvocation invocation blobs stageEvidence)
      trivial).weaken ?_ (fun _ _ failed => failed)
    rintro u reread ⟨further, again, rfl⟩
    have here : invocation.fields.runId = site.runId :=
      (commitInvocation_ambiguous answer).trans owner.run
    have all := since.trans further.since
    simp only [serve, here, submits.call]
    split
    next result found =>
      apply Does.pure
      refine ⟨all, ?_⟩
      intro taken
      split at found
      · cases found
      · split at found
        next current =>
          have stored := (current_iff.mp current).stored
          obtain ⟨before, calls⟩ := relied.own stored
          refine ⟨own.stored before, ?_⟩
          rcases landing with ⟨-, unchanged, -⟩ | ⟨payload, landed⟩
          · right
            apply read (own.stored before)
            obtain ⟨payload, -, located⟩ := Option.bind_eq_some_iff.mp found
            have recorded := reconcileInvocation_stored located
            change ∃ row, recordAt (t.calls site) _ = some row at recorded
            rw [calls] at recorded
            simp only [State.calls, unchanged] at recorded
            exact recorded
          · exact .inl (((landed.wrote owner.inv rfl).wait after).wait further)
        · cases found
          simp [Taken] at taken
    · exact Does.raise ⟨all, by simp⟩

theorem Recorded.wait (recorded : Recorded site token base s t invocation blobs)
    (waited : Waited site token t u) : Recorded site token base s u invocation blobs :=
  ⟨recorded.1, recorded.2.imp (fun wrote => wrote.wait waited) id⟩

theorem acceptFenced_does {result : CommitResult Digest} {error : CallError}
    {ok : State Facts Digest → Unit → Prop} (since : Since site token s t)
    (other : error ≠ .durable "dispatch_unknown") (done : Taken result.status → ok t ()) :
    (discipline site).Does token (Quiet site token) t
      (Action.andThen (ModelCalls.acceptFencedCommitResult result) fun status =>
        if status = .conflict then Action.raise error else pure ()) ok (Fails site token s) := by
  apply Does.andThen
  unfold ModelCalls.acceptFencedCommitResult
  cases status : result.status with
  | fenced => exact Does.raise ⟨since, by simp⟩
  | conflict =>
    apply Does.pure
    exact Does.raise ⟨since, other⟩
  | committed =>
    apply Does.pure
    exact Does.pure (done (.inl status))
  | alreadyCommitted =>
    apply Does.pure
    exact Does.pure (done (.inr status))

theorem commit_does (owner : Owner site token s)
    (submits : Submits site token base s invocation blobs) :
    (discipline site).Does token (Quiet site token) s
      (ModelCalls.commit invocation blobs stageEvidence)
      (fun t _ => Since site token s t ∧ Recorded site token base s t invocation blobs)
      (Fails site token s) := by
  apply Does.andThen
  have sinks : (discipline site).Does token (Quiet site token) s
      (ModelCalls.unlessRevoked (ModelCalls.guardExternalCall
        (ModelCalls.sinkCommitInvocation invocation blobs stageEvidence))
        (.durable "durable_invocation_commit_failed"))
      (fun t result => Since site token s t ∧
        (Taken result.status → Recorded site token base s t invocation blobs))
      (Fails site token s) := by
    apply unlessRevoked_does (by simp)
    apply guardExternalCall_does owner
    · rintro t u result ⟨since, taken⟩ waited
      exact ⟨since.trans waited.since, fun status => (taken status).wait waited⟩
    · exact fun t result done => done.1
    · intro t waited
      apply (sinkCommitInvocation_does waited.owner (submits.wait waited)).weaken
      · rintro u result ⟨since, taken⟩
        refine ⟨waited.since.trans since, ?_⟩
        intro status
        obtain ⟨stored, found⟩ := taken status
        exact ⟨(waited.relied.own stored).1, found⟩
      · rintro u error ⟨since, other⟩
        exact ⟨waited.since.trans since, other⟩
  apply sinks.weaken ?_ (fun _ _ failed => failed)
  rintro t result ⟨since, taken⟩
  exact acceptFenced_does since (by simp) fun status => ⟨since, taken status⟩

theorem commitEvidence_does (owner : Owner site token s)
    (call : invocation.fields.logicalCallId = site.logicalCallId)
    (recorded : ∃ row ∈ (s.calls site).records,
      modelInvocationPayloadForWrite site.journal.canonicalSha256 invocation = some row.payload) :
    (discipline site).Does token (Quiet site token) s (ModelCalls.commitEvidence invocation)
      (fun t _ => Since site token s t ∧ ∀ base, Unmoved site token base s →
        Unmoved site token base t) (Fails site token s) := by
  apply unlessRevoked_does (by simp)
  apply Does.andThen
  have sinks : (discipline site).Does token (Quiet site token) s
      (ModelCalls.guardExternalCall (ModelCalls.sinkCommitModelEvidence invocation))
      (fun t _ => Since site token s t ∧ ∀ base, Unmoved site token base s →
        Unmoved site token base t) (Fails site token s) := by
    apply guardExternalCall_does owner
    · rintro t u result ⟨since, unmoved⟩ waited
      exact ⟨since.trans waited.since,
        fun base before => waited.relied.unmoved (unmoved base before)⟩
    · exact fun t result done => done.1
    · intro t waited
      obtain ⟨row, stored, written⟩ := recorded
      have quiet : Quiet site token t (.commitModelEvidence invocation) :=
        ⟨⟨waited.owner.granted, owner.run, call, row,
          (waited.relied.kept.1 _ _).subset stored, written⟩, fun _ same => nomatch same⟩
      apply Does.andThen
      apply Does.ask quiet
      intro choice u interfered inv
      have own := serve_since waited.owner quiet.1 choice
      have relied : Relied site token
          (serve site token t (.commitModelEvidence invocation) choice).1 u :=
        interfered owner.run own.owner.granted
      have after : Waited site token
          (serve site token t (.commitModelEvidence invocation) choice).1 u :=
        ⟨⟨inv, owner.run, relied.granted⟩, relied⟩
      have since := waited.since.trans (own.trans after.since)
      have unmoved (base : CallJournal Facts Digest) (before : Unmoved site token base s) :
          Unmoved site token base u := by
        apply after.relied.unmoved
        intro stored
        have records := (commitModelEvidence_records site.journal (t.journal.wait choice.wait) token
          invocation choice.fault site.runId site.logicalCallId).2.1
        exact records.trans (waited.relied.unmoved before (own.stored stored))
      generalize ((discipline site).serve token t (.commitModelEvidence invocation) choice).2 =
        answer
      cases answer with
      | answered result => exact Does.pure ⟨since, unmoved⟩
      | raised => exact Does.raise ⟨since, by simp⟩
      | ambiguous =>
        apply Does.andThen
        apply (read_does after.owner (.reconcileEvidence invocation) trivial).weaken ?_
          (fun _ _ failed => failed)
        rintro v reread ⟨further, -⟩
        cases reread with
        | none => exact Does.raise ⟨since.trans further.since, by simp⟩
        | some result =>
          exact Does.pure ⟨since.trans further.since,
            fun base before => further.relied.unmoved (unmoved base before)⟩
  apply sinks.weaken ?_ (fun _ _ failed => failed)
  rintro t result ⟨since, unmoved⟩
  exact acceptFenced_does since (by simp) fun _ => ⟨since, unmoved⟩

theorem rejectEvidencePolicyChange_does {A : Type} (owner : Owner site token s)
    (submits : Submits site token base s invocation blobs) (proveOwnership : Bool)
    {ok : State Facts Digest → A → Prop} :
    (discipline site).Does token (Quiet site token) s
      (ModelCalls.rejectEvidencePolicyChange invocation blobs proveOwnership) ok
      (Fails site token s) := by
  unfold ModelCalls.rejectEvidencePolicyChange
  cases proveOwnership with
  | false => exact Does.raise ⟨owner.since, by simp⟩
  | true =>
    apply Does.andThen
    apply (commit_does owner submits).weaken ?_ (fun _ _ failed => failed)
    rintro t _ ⟨since, -⟩
    exact Does.raise ⟨since, by simp⟩

variable (lifecycle : ModelCallLifecycle)

theorem effectiveEvidencePolicy_does (owner : Owner site token s)
    (submits : Submits site token base s invocation blobs) (requireEvidence proveOwnership : Bool)
    (unsent : proveOwnership = true → Submits site token base s invocation []) :
    (discipline site).Does token (Quiet site token) s
      (ModelCalls.effectiveEvidencePolicy lifecycle invocation requireEvidence blobs proveOwnership)
      (fun t policy => t = s ∧ policy = invocation.fields.evidencePolicy)
      (Fails site token s) := by
  unfold ModelCalls.effectiveEvidencePolicy
  dsimp only
  split
  · exact rejectEvidencePolicyChange_does owner submits proveOwnership
  · split
    · exact rejectEvidencePolicyChange_does owner submits proveOwnership
    · split
      · apply Does.andThen
        unfold ModelCalls.requireOutboxCapability
        split
        · apply Does.pure
          exact Does.pure ⟨rfl, rfl⟩
        · cases proveOwnership with
          | false => exact Does.raise ⟨owner.since, by simp⟩
          | true =>
            apply Does.andThen
            apply (commit_does owner (unsent rfl)).weaken ?_ (fun _ _ failed => failed)
            rintro t _ ⟨since, -⟩
            exact Does.raise ⟨since, by simp⟩
      · exact Does.pure ⟨rfl, rfl⟩

theorem Recorded.fresh (recorded : Recorded site token base s t invocation blobs)
    (free : recordAt base invocation.fields.revision = none) :
    Wrote site token t invocation blobs := by
  obtain ⟨-, wrote | ⟨row, found⟩⟩ := recorded
  · exact wrote
  · rw [free] at found
    cases found

def InJournal (site : CallSite Facts Digest) (s : State Facts Digest)
    (invocation : DurableModelInvocation Facts Digest) : Prop :=
  ∃ row ∈ (s.calls site).records,
    modelInvocationPayloadForWrite site.journal.canonicalSha256 invocation = some row.payload

theorem Since.inJournal (since : Since site token s t) (held : InJournal site s invocation) :
    InJournal site t invocation := by
  obtain ⟨row, stored, written⟩ := held
  exact ⟨row, (since.kept.1 _ _).subset stored, written⟩

def Repeats (site : CallSite Facts Digest) (base : CallJournal Facts Digest)
    (invocation : DurableModelInvocation Facts Digest) : Prop :=
  ∀ row, recordAt base invocation.fields.revision = some row →
    modelInvocationPayloadForWrite site.journal.canonicalSha256 invocation = some row.payload

theorem Recorded.inJournal (recorded : Recorded site token base s t invocation blobs)
    (unmoved : Unmoved site token base s) (repeats : Repeats site base invocation)
    (since : Since site token s t) : InJournal site t invocation := by
  obtain ⟨stored, ⟨payload, written, held, -, -⟩ | ⟨row, found⟩⟩ := recorded
  · exact ⟨_, held, written⟩
  · refine ⟨row, (since.kept.1 _ _).subset ?_, repeats row found⟩
    change row ∈ (s.calls site).records
    rw [unmoved stored]
    exact (find_number_some found).1

theorem commitSettled_does (owner : Owner site token s)
    (submits : Submits site token base s invocation blobs) (repeats : Repeats site base invocation)
    (requireEvidence evidenceCommitted authoritative : Bool)
    (unsent : authoritative = true → Submits site token base s invocation []) :
    (discipline site).Does token (Quiet site token) s
      (ModelCalls.commitSettled lifecycle invocation blobs requireEvidence evidenceCommitted
        authoritative)
      (fun t _ => Since site token s t ∧ Authority.Stored s.journal.authority.table token ∧
        InJournal site t invocation ∧ (recordAt base invocation.fields.revision = none →
          ∀ item ∈ blobs, t.journal.blobs.content item.1 = some item.2)) (Fails site token s) := by
  apply Does.andThen
  apply (effectiveEvidencePolicy_does lifecycle owner submits requireEvidence authoritative
    unsent).weaken ?_ (fun _ _ failed => failed)
  rintro t policy ⟨rfl, -⟩
  apply Does.andThen
  apply (commit_does owner submits).weaken ?_ (fun _ _ failed => failed)
  rintro u _ ⟨since, recorded⟩
  have held := recorded.inJournal submits.unmoved repeats since
  have content (free : recordAt base invocation.fields.revision = none) :
      ∀ item ∈ blobs, u.journal.blobs.content item.1 = some item.2 := by
    obtain ⟨-, -, -, content, -⟩ := recorded.fresh free
    exact content
  split
  · apply (commitEvidence_does since.owner submits.call held).weaken
    · rintro v _ ⟨further, -⟩
      exact ⟨since.trans further, recorded.1, further.inJournal held,
        fun free item member => further.kept.2.1 _ _ (content free item member)⟩
    · rintro v error ⟨further, other⟩
      exact ⟨since.trans further, other⟩
  · exact Does.pure ⟨since, recorded.1, held, content⟩

theorem InJournal.accepted (held : InJournal site s invocation) :
    ∃ fields ∈ accepted (s.calls site), fields.toJson = invocation.fields.toJson := by
  obtain ⟨row, stored, written⟩ := held
  obtain ⟨fields, decoded, same⟩ := modelInvocationPayloadForWrite_spec _ written
  exact ⟨fields, accepted_mem.mpr ⟨row, stored, decoded⟩, same⟩

-- Where the call may stop: `dispatch_unknown` is only raised over a record that says so.
def Stops (site : CallSite Facts Digest) (token : WriterToken) (s t : State Facts Digest)
    (error : CallError) : Prop :=
  Since site token s t ∧ (error = .durable "dispatch_unknown" →
    ∃ fields ∈ accepted (t.calls site), fields.dispatchState = .unknown)

theorem Fails.stops {error : CallError} (fails : Fails site token s t error) :
    Stops site token s t error :=
  ⟨fails.1, fun same => absurd same fails.2⟩

theorem Stops.after {error : CallError} (since : Since site token s t)
    (stops : Stops site token t u error) : Stops site token s u error :=
  ⟨since.trans stops.1, stops.2⟩

theorem checkedInvocation_does (owner : Owner site token s)
    (fields : InvocationFields Facts Digest) :
    (discipline site).Does token (Quiet site token) s (ModelCalls.checkedInvocation fields)
      (fun t made => t = s ∧ made.fields = fields) (Fails site token s) := by
  unfold ModelCalls.checkedInvocation
  split
  · exact Does.pure ⟨rfl, rfl⟩
  · exact Does.raise ⟨owner.since, by simp⟩

theorem FoundIn.free (found : FoundIn site base invocation)
    (inv : CallInv site.journal site.runId site.logicalCallId base) :
    recordAt base (invocation.fields.revision + 1) = none := by
  obtain ⟨row, loaded⟩ := found.loaded
  obtain ⟨-, -, revision, -⟩ := loaded.spec inv
  apply inv.numbered.find_beyond
  omega

theorem Wrote.inJournal (wrote : Wrote site token s invocation blobs) :
    InJournal site s invocation := by
  obtain ⟨payload, written, stored, -, -⟩ := wrote
  exact ⟨_, stored, written⟩

theorem unknownStarted_does {A : Type} (owner : Owner site token s)
    (found : FoundIn site base invocation)
    (inv : CallInv site.journal site.runId site.logicalCallId base)
    (unmoved : Unmoved site token base s) {ok : State Facts Digest → A → Prop} :
    (discipline site).Does token (Quiet site token) s (ModelCalls.unknownStarted invocation) ok
      (Stops site token s) := by
  apply Does.andThen
  apply (checkedInvocation_does owner _).weaken ?_ (fun _ _ failed => failed.stops)
  rintro t unknown ⟨rfl, fields⟩
  have submits : Submits site token base t unknown [] := by
    refine ⟨unmoved, ?_, ?_⟩
    · rw [fields]
      exact found.call
    · intro _ state
      rw [fields] at state
      cases state
  apply Does.andThen
  apply (commit_does owner submits).weaken ?_ (fun _ _ failed => failed.stops)
  rintro u _ ⟨since, recorded⟩
  apply Does.raise
  refine ⟨since, ?_⟩
  intro _
  have wrote := recorded.fresh (by rw [fields]; exact found.free inv)
  obtain ⟨stored, member, same⟩ := wrote.inJournal.accepted
  refine ⟨stored, member, ?_⟩
  have state := congrArg InvocationPayload.dispatchState same
  rw [fields] at state
  exact state

structure Holds (s : State Facts Digest) (fields : InvocationFields Facts Digest)
    (dispatch : RecoveredModelDispatch Facts) : Prop where
  state : fields.dispatchState = .settled
  receipt : fields.receipt = some dispatch.receipt
  failure : fields.failureCode = dispatch.failureCode
  key : fields.idempotencyKey = dispatch.reservation.idempotencyKey
  attempt : fields.dispatchAttempt = dispatch.reservation.dispatchAttempt
  result : match dispatch.resultBlob with
    | none => fields.failureCode ≠ ""
    | some resultBlob => ∃ address, fields.resultRef = .blob address ∧
        s.journal.blobs.content address = some resultBlob

theorem Holds.since {fields : InvocationFields Facts Digest}
    {dispatch : RecoveredModelDispatch Facts} (holds : Holds s fields dispatch)
    (since : Since site token s t) : Holds t fields dispatch := by
  refine { holds with result := ?_ }
  have result := holds.result
  split
  next missing => simpa [missing] using result
  next resultBlob present =>
    simp only [present] at result
    obtain ⟨address, reference, content⟩ := result
    exact ⟨address, reference, since.kept.2.1 _ _ content⟩

theorem FoundIn.submits (found : FoundIn site base invocation)
    (inv : CallInv site.journal site.runId site.logicalCallId base)
    (unmoved : Unmoved site token base s) : Submits site token base s invocation blobs := by
  obtain ⟨row, loaded⟩ := found.loaded
  obtain ⟨-, -, -, lookup⟩ := loaded.spec inv
  refine ⟨unmoved, found.call, ?_⟩
  intro free
  rw [lookup] at free
  cases free

theorem FoundIn.repeats (found : FoundIn site base invocation)
    (inv : CallInv site.journal site.runId site.logicalCallId base) :
    Repeats site base invocation := by
  obtain ⟨row, loaded⟩ := found.loaded
  obtain ⟨-, -, -, lookup⟩ := loaded.spec inv
  intro other same
  rw [lookup] at same
  cases same
  exact loaded.written

variable (query : ModelDispatchRecoveryQuery)

theorem recoverSettled_does (owner : Owner site token s) (found : FoundIn site base invocation)
    (inv : CallInv site.journal site.runId site.logicalCallId base)
    (unmoved : Unmoved site token base s) (state : invocation.fields.dispatchState = .settled)
    {receipt : InvocationReceipt Facts} (carried : invocation.fields.receipt = some receipt)
    (evidenceCommitted : Bool) :
    (discipline site).Does token (Quiet site token) s
      (ModelCalls.recoverSettled site.journal.sha256 lifecycle query invocation receipt
        evidenceCommitted)
      (fun t dispatch => Since site token s t ∧ Authority.Stored s.journal.authority.table token ∧
        Holds t invocation.fields dispatch) (Fails site token s) := by
  unfold ModelCalls.recoverSettled
  dsimp only
  split
  next failed =>
    apply Does.andThen
    apply (commitSettled_does lifecycle owner (found.submits inv unmoved) (found.repeats inv) _ _ _
      fun _ => found.submits inv unmoved).weaken ?_ (fun _ _ failed => failed)
    rintro t _ ⟨since, stored, -, -⟩
    apply Does.pure
    refine ⟨since, stored, state, carried, rfl, rfl, rfl, ?_⟩
    intro empty
    simp [empty] at failed
  next succeeded =>
    have empty : invocation.fields.failureCode = "" := by simpa using succeeded
    split
    next address reference =>
      apply Does.andThen
      apply (read_does owner (.readBlob address) trivial).weaken ?_ (fun _ _ failed => failed)
      rintro t reply ⟨waited, choice, rfl⟩
      simp only [serve]
      split
      next resultBlob given =>
        have content : s.journal.blobs.content address = some resultBlob := by
          split at given
          · cases given
          · unfold BlobStore.readBlob at given
            split at given
            · exact (Option.filter_eq_some_iff.mp given).1
            · cases given
        split
        · apply Does.andThen
          have later := waited.relied.unmoved unmoved
          apply (commitSettled_does lifecycle waited.owner (found.submits inv later)
            (found.repeats inv) _ _ _ fun _ => found.submits inv later).weaken
          · rintro u _ ⟨since, stored, -, -⟩
            apply Does.pure
            have all := waited.since.trans since
            refine ⟨all, (waited.relied.own stored).1, state, carried, empty, rfl, rfl, ?_⟩
            exact ⟨address, reference, all.kept.2.1 _ _ content⟩
          · rintro u error ⟨since, other⟩
            exact ⟨waited.since.trans since, other⟩
        · exact Does.raise ⟨waited.since, by simp⟩
      · exact Does.raise ⟨waited.since, by simp⟩
    · exact Does.raise ⟨owner.since, by simp⟩
    · exact Does.raise ⟨owner.since, by simp⟩

def Returned (site : CallSite Facts Digest) (s t : State Facts Digest)
    (dispatch : RecoveredModelDispatch Facts) : Prop :=
  ∃ fields ∈ accepted (t.calls site), (s.calls site).records.length ≤ fields.revision ∧
    Holds t fields dispatch

def Hanging (site : CallSite Facts Digest) (s : State Facts Digest) : Prop :=
  ∃ fields, (accepted (s.calls site)).getLast? = some fields ∧
    fields.dispatchState = .dispatchStarted

def Recovers (site : CallSite Facts Digest) (token : WriterToken) (s t : State Facts Digest)
    (recovered : Option (RecoveredModelDispatch Facts)) : Prop :=
  Since site token s t ∧ (Authority.Stored t.journal.authority.table token → ¬ Hanging site s) ∧
    ∀ dispatch, recovered = some dispatch → Returned site s t dispatch ∧
      Authority.Stored s.journal.authority.table token ∧ ¬ Hanging site s

theorem Snapshot.hanging (snapshot : Snapshot site token s t base)
    (found : FoundIn site base invocation)
    (stored : Authority.Stored t.journal.authority.table token) (hanging : Hanging site s) :
    invocation.fields.dispatchState = .dispatchStarted := by
  obtain ⟨row, loaded⟩ := found.loaded
  obtain ⟨-, last, -⟩ := loaded.spec snapshot.inv
  obtain ⟨fields, ending, state⟩ := hanging
  rw [snapshot.same stored, last] at ending
  cases ending
  exact state

theorem recoverLoaded_does (snapshot : Snapshot site token s t base)
    (found : FoundIn site base invocation) (since : Since site token t u)
    (unmoved : Unmoved site token base u) (evidenceCommitted : Bool) :
    (discipline site).Does token (Quiet site token) u
      (ModelCalls.recoverLoaded site.journal.sha256 lifecycle query invocation evidenceCommitted)
      (Recovers site token s) (Stops site token s) := by
  have all := snapshot.waited.since.trans since
  have closed (v : State Facts Digest) (further : Since site token u v)
      (other : invocation.fields.dispatchState ≠ .dispatchStarted)
      (stored : Authority.Stored v.journal.authority.table token) : ¬ Hanging site s := by
    intro hanging
    exact other (snapshot.hanging found (since.stored (further.stored stored)) hanging)
  obtain ⟨row, loaded⟩ := found.loaded
  obtain ⟨member, ending, revision, -⟩ := loaded.spec snapshot.inv
  have held : invocation.fields ∈ accepted (t.calls site) :=
    accepted_mem.mpr ⟨row, snapshot.later.subset member, loaded.decoded⟩
  unfold ModelCalls.recoverLoaded
  dsimp only
  split
  · exact Does.raise ⟨all, by simp⟩
  · split
    next state =>
      apply Does.pure
      exact ⟨all, closed u since.owner.since (by simp [state]), fun _ none => nomatch none⟩
    next state =>
      apply (unknownStarted_does since.owner found snapshot.inv unmoved).weaken
        (fun _ _ done => done)
      exact fun v error stops => stops.after all
    next state =>
      apply Does.raise
      exact ⟨all, fun _ => ⟨invocation.fields, since.accepted held, state⟩⟩
    next state =>
      split
      · exact Does.raise ⟨all, by simp⟩
      next receipt carried =>
        apply Does.andThen
        apply (recoverSettled_does lifecycle query since.owner found snapshot.inv unmoved state
          carried evidenceCommitted).weaken
        · rintro v dispatch ⟨further, stored, holds⟩
          apply Does.pure
          refine ⟨all.trans further, closed v further (by simp [state]), ?_⟩
          intro other same
          cases same
          refine ⟨⟨invocation.fields, (since.trans further).accepted held, ?_, holds⟩,
            all.stored stored, closed u since.owner.since (by simp [state]) stored⟩
          rw [revision]
          exact snapshot.earlier.length_le
        · rintro v error ⟨further, other⟩
          exact Fails.stops ⟨all.trans further, other⟩

theorem recover_does (owner : Owner site token s)
    (call : query.logicalCallId = site.logicalCallId) :
    (discipline site).Does token (Quiet site token) s
      (ModelCalls.recover site.journal.sha256 lifecycle query) (Recovers site token s)
      (Stops site token s) := by
  apply Does.andThen
  rw [call]
  apply (load_does lifecycle owner).weaken ?_ (fun _ _ failed => failed.stops)
  rintro t reply ⟨base, snapshot, found⟩
  cases reply with
  | none =>
    apply Does.pure
    refine ⟨snapshot.waited.since, ?_, fun _ none => nomatch none⟩
    rintro stored ⟨fields, ending, -⟩
    rw [snapshot.same stored] at ending
    simp [accepted, show base.records = [] from found] at ending
  | some invocation =>
    dsimp only at found ⊢
    split
    · obtain ⟨row, loaded⟩ := found.loaded
      have member := (loaded.spec snapshot.inv).1
      apply Does.andThen
      apply (commitEvidence_does snapshot.waited.owner found.call
        ⟨row, snapshot.later.subset member, loaded.written⟩).weaken
      · rintro u _ ⟨since, unmoved⟩
        exact recoverLoaded_does lifecycle query snapshot found since
          (unmoved base snapshot.unmoved) _
      · rintro u error ⟨since, other⟩
        exact Fails.stops ⟨snapshot.waited.since.trans since, other⟩
    · exact recoverLoaded_does lifecycle query snapshot found snapshot.waited.owner.since
        snapshot.unmoved _

end Commits

section Attempts

variable {reservation : ModelDispatchReservation}

variable (lifecycle : ModelCallLifecycle)

theorem commitReservation_does (owner : Owner site token s) (unmoved : Unmoved site token journal s)
    (call : reservation.logicalCallId = site.logicalCallId) (revision : Nat)
    (evidencePolicy : ModelEvidencePolicy) :
    (discipline site).Does token (Quiet site token) s
      (ModelCalls.commitReservation lifecycle reservation revision evidencePolicy :
        CallAction Facts Digest ModelDispatchReservation)
      (fun t _ => Since site token s t) (Stops site token s) := by
  apply Does.andThen
  apply (checkedInvocation_does owner _).weaken ?_ (fun _ _ failed => failed.stops)
  rintro t reserved ⟨rfl, fields⟩
  have submits : Submits site token journal t reserved [] := by
    refine ⟨unmoved, by rw [fields]; exact call, ?_⟩
    intro _ state
    rw [fields] at state
    cases state
  apply Does.andThen
  apply (commit_does owner submits).weaken ?_ (fun _ _ failed => failed.stops)
  rintro u _ ⟨since, -⟩
  exact Does.pure since

theorem reserve_does (owner : Owner site token s)
    (call : reservation.logicalCallId = site.logicalCallId) :
    (discipline site).Does token (Quiet site token) s
      (ModelCalls.reserve lifecycle reservation : CallAction Facts Digest ModelDispatchReservation)
      (fun t _ => Since site token s t) (Stops site token s) := by
  apply Does.andThen
  rw [call]
  apply (load_does lifecycle owner).weaken ?_ (fun _ _ failed => failed.stops)
  rintro t reply ⟨base, snapshot, found⟩
  have since := snapshot.waited.since
  have commits (chosen : ModelDispatchReservation)
      (same : chosen.logicalCallId = site.logicalCallId) (revision : Nat)
      (policy : ModelEvidencePolicy) :
      (discipline site).Does token (Quiet site token) t
        (ModelCalls.commitReservation lifecycle chosen revision policy :
          CallAction Facts Digest ModelDispatchReservation)
        (fun u _ => Since site token s u) (Stops site token s) :=
    (commitReservation_does lifecycle since.owner snapshot.unmoved same revision policy).weaken
      (fun _ _ further => since.trans further) (fun _ _ stops => stops.after since)
  cases reply with
  | none =>
    dsimp only
    split
    · unfold ModelCalls.requireOutboxCapability
      apply Does.andThen
      split
      · apply Does.pure
        apply commits
        exact call
      · exact Does.raise ⟨since, by simp⟩
    · apply commits
      exact call
  | some invocation =>
    have unsent : Submits site token base t invocation [] :=
      found.submits snapshot.inv snapshot.unmoved
    have checks := effectiveEvidencePolicy_does lifecycle since.owner unsent false true
      fun _ => unsent
    dsimp only at found ⊢
    split
    · apply Does.andThen
      apply checks.weaken
      · rintro u policy ⟨rfl, -⟩
        split
        · exact Does.pure since
        · exact Does.raise ⟨since, by simp⟩
      · rintro u error ⟨further, other⟩
        exact Fails.stops ⟨since.trans further, other⟩
    · apply (unknownStarted_does since.owner found snapshot.inv snapshot.unmoved).weaken
        (fun _ _ done => done)
      exact fun v error stops => stops.after since
    next state =>
      apply Does.raise
      refine ⟨since, fun _ => ⟨invocation.fields, ?_, state⟩⟩
      obtain ⟨row, loaded⟩ := found.loaded
      exact accepted_mem.mpr
        ⟨row, snapshot.later.subset (loaded.spec snapshot.inv).1, loaded.decoded⟩
    · apply Does.andThen
      apply checks.weaken
      · rintro u policy ⟨rfl, -⟩
        split
        · exact Does.raise ⟨since, by simp⟩
        · split
          · exact Does.raise ⟨since, by simp⟩
          · apply commits
            rfl
      · rintro u error ⟨further, other⟩
        exact Fails.stops ⟨since.trans further, other⟩

theorem reserveModelDispatch_does (plan : ModelCallPlan) (owner : Owner site token s)
    (call : plan.logicalCallId = site.logicalCallId) (attempt : Nat) (idempotencyKey : String) :
    (discipline site).Does token (Quiet site token) s
      (ModelCalls.reserveModelDispatch site.runner plan attempt idempotencyKey)
      (fun t effective => Since site token s t ∧ effective.logicalCallId = site.logicalCallId ∧
        effective.dispatchAttempt = attempt) (Stops site token s) := by
  apply Does.andThen
  apply (reserve_does plan.lifecycle owner call).weaken ?_ (fun _ _ stops => stops)
  intro t effective since
  split
  next same =>
    apply Does.pure
    refine ⟨since, ?_, ?_⟩
    · rw [same]
      exact call
    · rw [same]
  · exact Does.raise ⟨since, by simp⟩

theorem loadDispatch_does (owner : Owner site token s)
    (call : reservation.logicalCallId = site.logicalCallId) (state : DispatchState) :
    (discipline site).Does token (Quiet site token) s
      (ModelCalls.loadDispatch lifecycle reservation state)
      (fun t invocation => ∃ base, Snapshot site token s t base ∧ FoundIn site base invocation ∧
        invocation.fields.dispatchState = state ∧
        ModelCalls.sameDispatch invocation reservation = true) (Fails site token s) := by
  apply Does.andThen
  rw [call]
  apply (load_does lifecycle owner).weaken ?_ (fun _ _ failed => failed)
  rintro t reply ⟨base, snapshot, found⟩
  cases reply with
  | none => exact Does.raise ⟨snapshot.waited.since, by simp⟩
  | some invocation =>
    dsimp only at found ⊢
    split
    · exact Does.raise ⟨snapshot.waited.since, by simp⟩
    next same =>
      split
      next names => exact Does.pure ⟨base, snapshot, found, not_not.mp same, names⟩
      · exact Does.raise ⟨snapshot.waited.since, by simp⟩

def Ready (site : CallSite Facts Digest) (token : WriterToken)
    (reservation : ModelDispatchReservation) (s t : State Facts Digest) : Prop :=
  Since site token s t ∧ Authority.Stored s.journal.authority.table token ∧
    Due token t reservation.dispatchAttempt ∧
    ∃ fields ∈ accepted (t.calls site), Starts fields reservation

theorem dispatchStarted_does (owner : Owner site token s)
    (call : reservation.logicalCallId = site.logicalCallId) :
    (discipline site).Does token (Quiet site token) s
      (ModelCalls.dispatchStarted lifecycle reservation : CallAction Facts Digest Unit)
      (fun t _ => Ready site token reservation s t) (Fails site token s) := by
  apply Does.andThen
  apply (loadDispatch_does lifecycle owner call .reserved).weaken ?_ (fun _ _ failed => failed)
  rintro t invocation ⟨base, snapshot, found, state, names⟩
  have since := snapshot.waited.since
  simp only [ModelCalls.sameDispatch, Bool.and_eq_true, decide_eq_true_eq] at names
  obtain ⟨⟨⟨⟨⟨callId, attempt⟩, dispatch⟩, request⟩, -⟩, key⟩ := names
  apply Does.andThen
  apply (checkedInvocation_does since.owner _).weaken
  · rintro u started ⟨rfl, fields⟩
    have submits : Submits site token base u started [] := by
      refine ⟨snapshot.unmoved, by rw [fields]; exact found.call, ?_⟩
      intro _ settles
      rw [fields] at settles
      cases settles
    apply (commit_does since.owner submits).weaken
    · rintro v _ ⟨further, recorded⟩
      have wrote := recorded.fresh (by rw [fields]; exact found.free snapshot.inv)
      obtain ⟨stored, member, same⟩ := wrote.inJournal.accepted
      obtain ⟨-, -, -, -, due⟩ := wrote
      rw [fields] at due same
      simp only [InvocationFields.toJson, InvocationPayload.mk.injEq, Option.some.injEq,
        ModelCalls.advanced] at same
      refine ⟨since.trans further, (snapshot.waited.relied.own recorded.1).1, ?_, stored, member,
        ?_⟩
      · rw [← attempt]
        exact due rfl
      · constructor <;> simp [same, callId, attempt, dispatch, request, key]
    · rintro v error ⟨further, other⟩
      exact ⟨since.trans further, other⟩
  · rintro u error ⟨further, other⟩
    exact ⟨since.trans further, other⟩

theorem Ready.wait (ready : Ready site token reservation s t) (waited : Waited site token t u) :
    Ready site token reservation s u := by
  obtain ⟨since, stored, due, fields, member, starts⟩ := ready
  exact ⟨since.trans waited.since, stored, waited.relied.due due, fields,
    waited.since.accepted member, starts⟩

theorem beginDispatch_does (plan : ModelCallPlan) (owner : Owner site token s)
    (call : plan.logicalCallId = site.logicalCallId) (attempt : Nat) (idempotencyKey : String) :
    (discipline site).Does token (Quiet site token) s
      (ModelCalls.beginDispatch site.runner plan attempt idempotencyKey)
      (fun t reservation => Ready site token reservation s t ∧
        reservation.logicalCallId = site.logicalCallId ∧ reservation.dispatchAttempt = attempt)
      (Stops site token s) := by
  have fails {t u : State Facts Digest} {error : CallError} (since : Since site token s t)
      (failed : Fails site token t u error) : Stops site token s u error :=
    failed.stops.after since
  apply Does.andThen
  apply (reserveModelDispatch_does plan owner call attempt idempotencyKey).weaken ?_
    (fun _ _ stops => stops)
  rintro a reservation ⟨one, chosen, number⟩
  apply Does.andThen
  apply (assertActive_does one.owner).weaken ?_ (fun _ _ failed => fails one failed)
  intro b _ waited
  have two := one.trans waited.since
  apply Does.andThen
  apply (checkBoundary_does two.owner).weaken ?_ (fun _ _ failed => fails two failed)
  intro c _ waited
  have three := two.trans waited.since
  apply Does.andThen
  apply (assertActive_does three.owner).weaken ?_ (fun _ _ failed => fails three failed)
  intro d _ waited
  have four := three.trans waited.since
  apply Does.andThen
  apply (checkBoundary_does four.owner).weaken ?_ (fun _ _ failed => fails four failed)
  intro e _ waited
  have five := four.trans waited.since
  apply Does.andThen
  apply (dispatchStarted_does plan.lifecycle five.owner chosen).weaken ?_
    (fun _ _ failed => fails five failed)
  rintro f _ ⟨since, stored, due, starts⟩
  have six := five.trans since
  apply Does.andThen
  apply (assertActive_does six.owner).weaken ?_ (fun _ _ failed => fails six failed)
  intro g _ waited
  apply Does.pure
  have ready : Ready site token reservation s f := ⟨six, five.stored stored, due, starts⟩
  exact ⟨ready.wait waited, chosen, number⟩

end Attempts

end PaidDispatch

end MonoidKernel
