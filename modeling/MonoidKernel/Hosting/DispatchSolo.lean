import MonoidKernel.Hosting.DispatchSafety

set_option autoImplicit false

namespace MonoidKernel

namespace PaidDispatch

open Library InvocationJournal
open Library.Discipline (Does)

variable {Facts Digest : Type} [DecidableEq Digest]
variable {site : CallSite Facts Digest} {token : WriterToken} {s t : State Facts Digest}

def undisturbed (Facts : Type) : CallChoice Facts := ⟨0, .answered, false, false, .stopped⟩

def solo (site : CallSite Facts Digest) (token : WriterToken) : Discipline (State Facts Digest) Unit
    (CallRequest Facts Digest) CallReply Unit where
  serve _ s request _ := serve site token s request (undisturbed Facts)
  inv _ := True
  rely _ s t := s = t
  allowed _ _ _ := False
  rely_refl _ _ := rfl
  rely_trans _ _ _ _ first second := first.trans second
  serve_inv _ _ _ _ _ _ := trivial
  guarantee _ _ _ _ _ _ allowed _ := allowed.elim

variable {A : Type}

def Runs (site : CallSite Facts Digest) (token : WriterToken) (s : State Facts Digest)
    (action : CallAction Facts Digest A) (ok : State Facts Digest → A → Prop)
    (failed : State Facts Digest → CallError → Prop) : Prop :=
  (solo site token).Does () (fun _ _ => True) s action ok failed

def runAlone (site : CallSite Facts Digest) (token : WriterToken)
    (action : CallAction Facts Digest A) (s : State Facts Digest) :
    State Facts Digest × Except CallError A :=
  Program.alone (serve site token) (fun _ => undisturbed Facts) action s

theorem alone_solo (token : WriterToken) (program : Program (CallRequest Facts Digest) CallReply A)
    (s : State Facts Digest) :
    Program.alone ((solo site token).serve ()) (fun _ => ()) program s =
      Program.alone (serve site token) (fun _ => undisturbed Facts) program s := by
  induction program generalizing s with
  | done value => rfl
  | call request resume ih => exact ih _ _

theorem Runs.alone {action : CallAction Facts Digest A} {ok : State Facts Digest → A → Prop}
    {failed : State Facts Digest → CallError → Prop} (runs : Runs site token s action ok failed) :
    Discipline.Ends ok failed (runAlone site token action s).1
      (runAlone site token action s).2 := by
  have same : Program.alone ((solo site token).serve ()) (fun _ => ()) action s =
      runAlone site token action s := alone_solo token _ s
  rw [← same]
  exact Discipline.Safe.alone runs (fun _ => ()) trivial fun _ _ _ _ _ => trivial

section Rules

variable {A B : Type} {action : CallAction Facts Digest A}
variable {ok : State Facts Digest → A → Prop} {failed : State Facts Digest → CallError → Prop}

theorem ask_runs (request : CallRequest Facts Digest) :
    Runs site token s (Action.ask request : CallAction Facts Digest _)
      (fun t reply => serve site token s request (undisturbed Facts) = (t, reply)) failed := by
  apply Does.ask trivial
  rintro choice t rfl -
  rfl

theorem assertActive_runs :
    Runs site token s (ModelCalls.assertActive : CallAction Facts Digest Unit)
      (fun t _ => t = s) failed := by
  apply Does.andThen
  apply (ask_runs .writeAuthority).weaken ?_ (fun _ _ never => never)
  rintro t revoked served
  cases served
  exact Does.pure rfl

theorem guardExternalCall_runs (runs : Runs site token s action ok failed) :
    Runs site token s (ModelCalls.guardExternalCall action) ok failed := by
  apply Does.andThen
  apply assertActive_runs.weaken ?_ (fun _ _ never => never)
  rintro t _ rfl
  apply Does.ensure
  apply runs.weaken
  · intro u value done
    apply assertActive_runs.weaken ?_ (fun _ _ never => never)
    rintro v _ rfl
    exact done
  · intro u error raised
    apply assertActive_runs.weaken ?_ (fun _ _ never => never)
    rintro v _ rfl
    exact raised

theorem unlessRevoked_runs {error : CallError}
    (runs : Runs site token s action ok fun _ _ => False) :
    Runs site token s (ModelCalls.unlessRevoked action error) ok failed := by
  apply Does.handle
  exact runs.weaken (fun _ _ done => done) (fun _ _ never => never.elim)

end Rules

variable {failed : State Facts Digest → CallError → Prop}

theorem loadReply_runs (run : token.runId = site.runId)
    {invocation : DurableModelInvocation Facts Digest}
    (found : loadInvocation site.journal (s.journal.calls site.runId site.logicalCallId)
      site.runId site.logicalCallId = .loaded invocation) :
    Runs site token s
      (ModelCalls.unlessRevoked (ModelCalls.guardExternalCall do
        match ← (ModelCalls.askLoadInvocation site.logicalCallId :
            CallAction Facts Digest (LoadReply Facts Digest)) with
        | .raised => Action.raise .external
        | reply => pure reply) (.durable "durable_invocation_load_failed"))
      (fun t reply => t = s ∧ reply = .loaded invocation) failed := by
  apply unlessRevoked_runs
  apply guardExternalCall_runs
  apply Does.andThen
  apply (ask_runs (.loadInvocation site.logicalCallId)).weaken ?_ (fun _ _ never => never)
  intro t reply served
  simp only [serve, undisturbed, Bool.false_eq_true, if_false, run, found, Prod.mk.injEq] at served
  obtain ⟨rfl, rfl⟩ := served
  exact Does.pure ⟨rfl, rfl⟩

theorem load_runs (lifecycle : ModelCallLifecycle) (inv : Inv site s)
    (run : token.runId = site.runId) (writer : lifecycle.writerToken = token)
    (present : (s.calls site).records ≠ []) :
    Runs site token s
      (ModelCalls.load lifecycle site.logicalCallId : CallAction Facts Digest _)
      (fun t found => t = s ∧ ∃ invocation row, found = some invocation ∧
        Loaded site.journal (s.calls site) invocation row ∧
        invocation.fields.logicalCallId = site.logicalCallId) failed := by
  obtain ⟨invocation, row, found, loaded, runs, calls⟩ :=
    (loadInvocation_spec (inv.journal site.runId site.logicalCallId)).resolve_left
      fun missing => present missing.1
  apply Does.andThen
  apply (loadReply_runs run found).weaken ?_ (fun _ _ never => never)
  rintro t reply ⟨rfl, rfl⟩
  dsimp only
  rw [if_neg]
  · exact Does.pure ⟨rfl, invocation, row, rfl, loaded, calls⟩
  · rintro (elsewhere | elsewhere)
    · rw [writer, run] at elsewhere
      exact elsewhere runs
    · exact elsewhere calls

theorem commit_runs {invocation : DurableModelInvocation Facts Digest}
    {blobs : List (Digest × Bytes)} {stageEvidence : Bool}
    (run : invocation.fields.runId = token.runId)
    (active : Authority.Active s.journal.authority.table token s.journal.authority.clock)
    (taken : Taken (commitInvocationLocked site.journal
      (s.journal.calls invocation.fields.runId invocation.fields.logicalCallId) s.journal.blobs
      invocation blobs stageEvidence).2.2.status) :
    Runs site token s (ModelCalls.commit invocation blobs stageEvidence)
      (fun t _ => t = (serve site token s (.commitInvocation invocation blobs stageEvidence)
        (undisturbed Facts)).1) failed := by
  have current : (s.journal.wait 0).current token = true :=
    (currentWriterLocked_iff _ _ _).mpr active
  apply Does.andThen
  have sinks : Runs site token s
      (ModelCalls.unlessRevoked (ModelCalls.guardExternalCall
        (ModelCalls.sinkCommitInvocation invocation blobs stageEvidence))
        (.durable "durable_invocation_commit_failed"))
      (fun t result => t = (serve site token s (.commitInvocation invocation blobs stageEvidence)
        (undisturbed Facts)).1 ∧ Taken result.status) failed := by
    apply unlessRevoked_runs
    apply guardExternalCall_runs
    apply Does.andThen
    apply (ask_runs (.commitInvocation invocation blobs stageEvidence)).weaken ?_
      (fun _ _ never => never)
    intro t reply served
    have answered : (serve site token s (.commitInvocation invocation blobs stageEvidence)
        (undisturbed Facts)).2 = .answered (commitInvocationLocked site.journal
          (s.journal.calls invocation.fields.runId invocation.fields.logicalCallId) s.journal.blobs
          invocation blobs stageEvidence).2.2 := by
      simp only [serve, undisturbed, InvocationJournal.commitInvocation, current, if_true]
      rw [if_neg (not_not.mpr run)]
      rfl
    have moved := congrArg Prod.fst served
    have replied := answered.symm.trans (congrArg Prod.snd served)
    dsimp only at moved replied
    rw [← replied, ← moved]
    exact Does.pure ⟨rfl, taken⟩
  apply sinks.weaken ?_ (fun _ _ never => never)
  rintro t result ⟨moved, taken⟩
  apply Does.andThen
  unfold ModelCalls.acceptFencedCommitResult
  rcases taken with status | status <;> rw [status] <;> apply Does.pure <;>
    exact Does.pure moved

theorem undisturbed_authority (site : CallSite Facts Digest) (token : WriterToken)
    (s : State Facts Digest) (request : CallRequest Facts Digest) :
    (serve site token s request (undisturbed Facts)).1.journal.authority = s.journal.authority := by
  cases request with
  | commitInvocation invocation blobs stage =>
    simp only [serve, InvocationJournal.commitInvocation]
    split
    · rfl
    · split
      · dsimp only
        split <;> rfl
      · rfl
  | commitModelEvidence invocation =>
    simp only [serve, InvocationJournal.commitModelEvidence]
    split
    · rfl
    · split
      · dsimp only
        split <;> rfl
      · rfl
  | _ => rfl

structure AtHead (site : CallSite Facts Digest) (token : WriterToken) (s : State Facts Digest)
    (invocation : DurableModelInvocation Facts Digest) (row : InvocationRow Facts Digest) :
    Prop where
  owner : Owner site token s
  active : Authority.Active s.journal.authority.table token s.journal.authority.clock
  loaded : Loaded site.journal (s.calls site) invocation row

section Head

variable {invocation : DurableModelInvocation Facts Digest} {row : InvocationRow Facts Digest}
variable {failed : State Facts Digest → CallError → Prop}

theorem AtHead.callInv (head : AtHead site token s invocation row) :
    CallInv site.journal site.runId site.logicalCallId (s.calls site) :=
  head.owner.inv.journal _ _

theorem commitEvidence_runs (head : AtHead site token s invocation row)
    (settled : invocation.fields.dispatchState = .settled) :
    Runs site token s (ModelCalls.commitEvidence invocation)
      (fun t _ => AtHead site token t invocation row ∧ Kept s.journal t.journal) failed := by
  obtain ⟨run, call, -, -⟩ := head.loaded.head head.callInv
  obtain ⟨member, -, -, -⟩ := head.loaded.spec head.callInv
  have mine : invocation.fields.runId = token.runId := run.trans head.owner.run.symm
  have current : (s.journal.wait 0).current token = true :=
    (currentWriterLocked_iff _ _ _).mpr head.active
  have taken := commitEvidenceLocked_head head.callInv head.loaded settled head.owner.inv.evidence
  have allowed : Allowed site token s (.commitModelEvidence invocation) :=
    ⟨head.owner.granted, head.owner.run, call, row, member, head.loaded.written⟩
  have since := serve_since head.owner allowed (undisturbed Facts)
  have authority := undisturbed_authority site token s (.commitModelEvidence invocation)
  have same := (commitModelEvidence_records site.journal (s.journal.wait 0) token invocation
    .answered site.runId site.logicalCallId).2
  have after : AtHead site token (serve site token s (.commitModelEvidence invocation)
      (undisturbed Facts)).1 invocation row := by
    exact ⟨since.owner, by rw [authority]; exact head.active, head.loaded.same same⟩
  have sinks : Runs site token s
      (ModelCalls.guardExternalCall (ModelCalls.sinkCommitModelEvidence invocation))
      (fun t result => t = (serve site token s (.commitModelEvidence invocation)
        (undisturbed Facts)).1 ∧ Taken result.status) (fun _ _ => False) := by
    apply guardExternalCall_runs
    apply Does.andThen
    apply (ask_runs (.commitModelEvidence invocation)).weaken ?_ (fun _ _ never => never)
    intro t reply served
    have answered : (serve site token s (.commitModelEvidence invocation) (undisturbed Facts)).2 =
        .answered (commitEvidenceLocked site.journal false (s.calls site) invocation).2 := by
      simp only [serve, undisturbed, InvocationJournal.commitModelEvidence, current, if_true]
      rw [if_neg (not_not.mpr mine), run, call]
      rfl
    have moved := congrArg Prod.fst served
    have replied := answered.symm.trans (congrArg Prod.snd served)
    dsimp only at moved replied
    rw [← replied, ← moved]
    exact Does.pure ⟨rfl, taken⟩
  apply unlessRevoked_runs
  apply Does.andThen
  apply sinks.weaken ?_ (fun _ _ never => never)
  rintro t result ⟨rfl, status | status⟩
  all_goals
    apply Does.andThen
    unfold ModelCalls.acceptFencedCommitResult
    rw [status]
    apply Does.pure
    exact Does.pure ⟨after, since.kept⟩

theorem AtHead.held (head : AtHead site token s invocation row)
    (settled : invocation.fields.dispatchState = .settled) :
    ∃ blobs, Carries blobs invocation.fields.resultRef ∧
      Held site.journal s.journal invocation blobs
        (decide (invocation.fields.evidencePolicy = .outbox)) row.payload ∧
      ∀ item ∈ blobs, s.journal.blobs.associated site.runId item.1 = true := by
  obtain ⟨run, call, -, -⟩ := head.loaded.head head.callInv
  obtain ⟨member, -, -, -⟩ := head.loaded.spec head.callInv
  obtain ⟨original, blobs, stage, held, same, runs, associated, carries⟩ :=
    head.owner.inv.submitted row member
  obtain ⟨fields, decoded, equal⟩ := modelInvocationPayloadForWrite_spec _ held.written
  rw [head.loaded.decoded] at decoded
  cases decoded
  simp only [InvocationFields.toJson, InvocationPayload.mk.injEq, Option.some.injEq] at equal
  obtain ⟨-, equalRun, equalCall, equalRevision, equalDispatch, equalAttempt, equalKey, equalState,
    equalRequest, -, equalPolicy, -, -, equalResult, equalFailure⟩ := equal
  have state : original.fields.dispatchState = .settled := equalState.symm.trans settled
  have staging : stage = decide (invocation.fields.evidencePolicy = .outbox) := by
    rw [Bool.eq_iff_iff, held.staged, decide_eq_true_eq, equalPolicy]
    simp [state]
  have sameRow : insertedRow site.journal invocation.fields row.payload blobs =
      insertedRow site.journal original.fields row.payload blobs := by
    simp [insertedRow, insertedColumns, equalRun, equalCall, equalRevision, equalDispatch,
      equalAttempt, equalKey, equalState, equalRequest, equalPolicy, equalResult, equalFailure]
  refine ⟨blobs, ?_, ⟨?_, ?_, held.bounded, head.loaded.written, ?_, held.backing, ?_⟩, associated⟩
  · rw [equalResult]
    exact carries state
  · rw [equalRevision, equalAttempt]
    exact held.range
  · rw [equalPolicy, equalState, ← staging] at *
    exact held.staged
  · rw [sameRow, run, call, ← same]
    exact member
  · rw [equalRun, equalResult]
    exact held.references

structure Compatible (lifecycle : ModelCallLifecycle) (requireEvidence : Bool)
    (evidencePolicy : ModelEvidencePolicy) : Prop where
  required : requireEvidence = true → evidencePolicy = .required
  chosen : lifecycle.evidencePolicy = .passive ∨ lifecycle.evidencePolicy = evidencePolicy
  outbox : evidencePolicy = .outbox → lifecycle.transactionalOutbox = true

variable {lifecycle : ModelCallLifecycle}

theorem effectiveEvidencePolicy_runs {requireEvidence : Bool}
    (compatible : Compatible lifecycle requireEvidence invocation.fields.evidencePolicy)
    (blobs : List (Digest × Bytes)) (proveOwnership : Bool) :
    Runs site token s
      (ModelCalls.effectiveEvidencePolicy lifecycle invocation requireEvidence blobs proveOwnership)
      (fun t policy => t = s ∧ policy = invocation.fields.evidencePolicy) failed := by
  unfold ModelCalls.effectiveEvidencePolicy
  dsimp only
  rw [if_neg fun refused => refused.2 (compatible.required refused.1), if_neg]
  · split
    next outbox =>
      unfold ModelCalls.requireOutboxCapability
      rw [if_pos (compatible.outbox outbox)]
      exact Does.pure ⟨rfl, rfl⟩
    · exact Does.pure ⟨rfl, rfl⟩
  · rintro ⟨active, other⟩
    rcases compatible.chosen with passive | same
    · exact active passive
    · exact other same

theorem commitSettled_runs {requireEvidence : Bool} (head : AtHead site token s invocation row)
    (compatible : Compatible lifecycle requireEvidence invocation.fields.evidencePolicy)
    {blobs : List (Digest × Bytes)} (held : Held site.journal s.journal invocation blobs
      (decide (invocation.fields.evidencePolicy = .outbox)) row.payload) {evidenceCommitted : Bool}
    (evidence : invocation.fields.evidencePolicy = .required → evidenceCommitted = true) :
    Runs site token s
      (ModelCalls.commitSettled lifecycle invocation blobs requireEvidence evidenceCommitted true)
      (fun t _ => Kept s.journal t.journal) failed := by
  obtain ⟨run, -, -, -⟩ := head.loaded.head head.callInv
  apply Does.andThen
  apply (effectiveEvidencePolicy_runs compatible blobs true).weaken ?_ (fun _ _ never => never)
  rintro t policy ⟨rfl, rfl⟩
  have repeated := commitInvocationLocked_held head.owner.inv.journal held
  apply Does.andThen
  apply (commit_runs (run.trans head.owner.run.symm) head.active (.inr repeated)).weaken ?_
    (fun _ _ never => never)
  rintro u _ rfl
  rw [if_neg]
  · exact Does.pure (serve_kept site token t _ _)
  · rintro ⟨required, missing⟩
    rw [evidence required] at missing
    cases missing

variable {query : ModelDispatchRecoveryQuery}

theorem recoverSettled_runs (head : AtHead site token s invocation row)
    (settled : invocation.fields.dispatchState = .settled)
    (compatible : Compatible lifecycle query.requireEvidence invocation.fields.evidencePolicy)
    {receipt : InvocationReceipt Facts} (carried : invocation.fields.receipt = some receipt)
    {evidenceCommitted : Bool}
    (evidence : invocation.fields.evidencePolicy = .required → evidenceCommitted = true) :
    Runs site token s
      (ModelCalls.recoverSettled site.journal.sha256 lifecycle query invocation receipt
        evidenceCommitted)
      (fun t dispatch => Holds t invocation.fields dispatch) failed := by
  obtain ⟨blobs, carries, held, associated⟩ := head.held settled
  have fits : if invocation.fields.failureCode.isEmpty = true then
      invocation.fields.resultRef ≠ .empty else invocation.fields.resultRef = .empty := by
    have checked := invocation.checked
    simp only [InvocationFields.checked, Bool.and_eq_true] at checked
    have state := checked.2
    simp only [InvocationFields.stateCarries, settled, Bool.and_eq_true] at state
    have result := state.2
    split at result
    next succeeded =>
      rw [if_pos succeeded]
      exact of_decide_eq_true result
    next failed =>
      rw [if_neg failed]
      exact of_decide_eq_true result
  unfold ModelCalls.recoverSettled
  dsimp only
  cases failure : invocation.fields.failureCode.isEmpty with
  | false =>
    rw [failure, if_neg (by simp)] at fits
    have none : blobs = [] := by
      rcases carries with ⟨nothing, -⟩ | ⟨address, content, -, reference⟩
      · exact nothing
      · rw [fits] at reference
        cases reference
    subst none
    apply Does.andThen
    apply (commitSettled_runs head compatible held evidence).weaken ?_ (fun _ _ never => never)
    intro t _ kept
    apply Does.pure
    refine ⟨settled, carried, rfl, rfl, rfl, ?_⟩
    intro empty
    simp [empty] at failure
  | true =>
    rw [failure, if_pos rfl] at fits
    obtain ⟨address, content, rfl, reference⟩ := carries.resolve_left fun none => fits none.2
    have backing := held.backing (address, content) (List.mem_singleton_self _)
    have hash : site.journal.sha256 content = address := by
      have bounded := held.bounded
      simp only [BlobStore.validatedBlobs, List.all_cons, List.all_nil, Bool.and_true,
        Bool.and_eq_true, decide_eq_true_eq] at bounded
      exact bounded.2.2
    have stored : BlobStore.readBlob site.journal.sha256 s.journal.blobs token.runId address =
        some content := by
      unfold BlobStore.readBlob
      rw [head.owner.run, if_pos
        (associated (address, content) (List.mem_singleton_self _)), backing]
      simp [hash]
    simp only [reference]
    apply Does.andThen
    apply (ask_runs (.readBlob address)).weaken ?_ (fun _ _ never => never)
    intro t reply served
    simp only [serve, undisturbed, Bool.false_eq_true, if_false, stored, Prod.mk.injEq] at served
    obtain ⟨rfl, rfl⟩ := served
    dsimp only
    rw [if_pos hash]
    apply Does.andThen
    apply (commitSettled_runs head compatible held evidence).weaken ?_ (fun _ _ never => never)
    intro t _ kept
    apply Does.pure
    exact ⟨settled, carried, by simpa using failure, rfl, rfl, address, reference,
      kept.2.1 _ _ backing⟩

variable {fields : InvocationFields Facts Digest}

theorem recover_settled_runs (owner : Owner site token s)
    (active : Authority.Active s.journal.authority.table token s.journal.authority.clock)
    (writer : lifecycle.writerToken = token) (call : query.logicalCallId = site.logicalCallId)
    (last : (accepted (s.calls site)).getLast? = some fields)
    (settled : fields.dispatchState = .settled)
    (request : fields.requestDigest = query.requestDigest ∧
      fields.digestGeneration = query.digestGeneration)
    (compatible : Compatible lifecycle query.requireEvidence fields.evidencePolicy) :
    Runs site token s (ModelCalls.recover site.journal.sha256 lifecycle query)
      (fun t recovered => ∃ dispatch, recovered = some dispatch ∧ Holds t fields dispatch)
      failed := by
  have present : (s.calls site).records ≠ [] := by
    intro empty
    simp [accepted, empty] at last
  apply Does.andThen
  rw [call]
  apply (load_runs lifecycle owner.inv owner.run writer present).weaken ?_ (fun _ _ never => never)
  rintro t found ⟨rfl, invocation, row, rfl, loaded, -⟩
  have head : AtHead site token t invocation row := ⟨owner, active, loaded⟩
  obtain ⟨-, ending, -, -⟩ := loaded.spec head.callInv
  rw [ending] at last
  cases last
  have receipt : ∃ receipt, invocation.fields.receipt = some receipt := by
    have checked := invocation.checked
    simp only [InvocationFields.checked, Bool.and_eq_true] at checked
    have state := checked.2
    simp only [InvocationFields.stateCarries, settled, Bool.and_eq_true] at state
    exact Option.isSome_iff_exists.mp state.1
  obtain ⟨receipt, carried⟩ := receipt
  have rest (u : State Facts Digest) (later : AtHead site token u invocation row)
      (evidenceCommitted : Bool)
      (evidence : invocation.fields.evidencePolicy = .required → evidenceCommitted = true) :
      Runs site token u
        (ModelCalls.recoverLoaded site.journal.sha256 lifecycle query invocation evidenceCommitted)
        (fun v recovered => ∃ dispatch, recovered = some dispatch ∧
          Holds v invocation.fields dispatch) failed := by
    unfold ModelCalls.recoverLoaded
    simp only [request, ne_eq, not_true_eq_false, or_self, if_false, settled, carried]
    apply Does.andThen
    apply (recoverSettled_runs later settled compatible carried evidence).weaken ?_
      (fun _ _ never => never)
    intro v dispatch holds
    exact Does.pure ⟨dispatch, rfl, holds⟩
  dsimp only
  split
  next required =>
    apply Does.andThen
    apply (commitEvidence_runs head settled).weaken ?_ (fun _ _ never => never)
    rintro u _ ⟨later, -⟩
    exact rest u later _ fun _ => required
  next other =>
    apply rest t head
    intro policy
    simp [settled, policy] at other

theorem unknown_checked (hanging : invocation.fields.dispatchState = .dispatchStarted) :
    InvocationFields.checked { ModelCalls.advanced invocation .unknown with
      failureCode := "dispatch_unknown" } = true := by
  have checked := invocation.checked
  have safe : isSafeTaxonomyCode "dispatch_unknown" = true := by decide
  simp only [InvocationFields.checked, InvocationFields.stateCarries, hanging, Bool.and_eq_true,
    decide_eq_true_eq] at checked
  simp only [InvocationFields.checked, InvocationFields.stateCarries, ModelCalls.advanced, safe,
    Bool.and_eq_true, Bool.or_true, and_true]
  obtain ⟨⟨⟨⟨⟨⟨key, digest⟩, -⟩, attempt⟩, -⟩, receipt⟩, ⟨absent, plain⟩, -⟩ := checked
  exact ⟨⟨⟨⟨⟨key, digest⟩, decide_eq_true (Nat.le_add_left 1 _)⟩, decide_eq_true attempt⟩, receipt⟩,
    absent, decide_eq_true plain⟩

theorem checkedInvocation_runs (checked : fields.checked = true) :
    Runs site token s (ModelCalls.checkedInvocation fields)
      (fun t made => t = s ∧ made.fields = fields ∧ made.source = none) failed := by
  unfold ModelCalls.checkedInvocation
  rw [dif_pos checked]
  exact Does.pure ⟨rfl, rfl, rfl⟩

theorem recover_hanging_runs (owner : Owner site token s)
    (active : Authority.Active s.journal.authority.table token s.journal.authority.clock)
    (writer : lifecycle.writerToken = token) (call : query.logicalCallId = site.logicalCallId)
    (last : (accepted (s.calls site)).getLast? = some fields)
    (hanging : fields.dispatchState = .dispatchStarted)
    (request : fields.requestDigest = query.requestDigest ∧
      fields.digestGeneration = query.digestGeneration)
    (range : fields.revision < postgresBigintMax) :
    Runs site token s (ModelCalls.recover site.journal.sha256 lifecycle query)
      (fun _ _ => False)
      (fun t error => error = .durable "dispatch_unknown" ∧
        ∃ unknown ∈ accepted (t.calls site), unknown.dispatchState = .unknown) := by
  have present : (s.calls site).records ≠ [] := by
    intro empty
    simp [accepted, empty] at last
  apply Does.andThen
  rw [call]
  apply (load_runs lifecycle owner.inv owner.run writer present).weaken ?_ (fun _ _ never => never)
  rintro t found ⟨rfl, invocation, row, rfl, loaded, -⟩
  have head : AtHead site token t invocation row := ⟨owner, active, loaded⟩
  obtain ⟨run, calls, -, -⟩ := loaded.head head.callInv
  obtain ⟨member, ending, -, -⟩ := loaded.spec head.callInv
  rw [ending] at last
  cases last
  have attempt : invocation.fields.dispatchAttempt ≤ postgresBigintMax := by
    obtain ⟨original, blobs, stage, held, -⟩ := owner.inv.submitted row member
    obtain ⟨fields, decoded, equal⟩ := modelInvocationPayloadForWrite_spec _ held.written
    rw [loaded.decoded] at decoded
    cases decoded
    have same := congrArg InvocationPayload.dispatchAttempt equal
    change invocation.fields.dispatchAttempt = original.fields.dispatchAttempt at same
    rw [same]
    exact held.range.2
  have plain : invocation.fields.resultRef = .empty := by
    have checked := invocation.checked
    simp only [InvocationFields.checked, InvocationFields.stateCarries, hanging, Bool.and_eq_true,
      decide_eq_true_eq] at checked
    exact checked.2.1.2
  dsimp only
  rw [if_neg (by simp [hanging])]
  unfold ModelCalls.recoverLoaded
  simp only [request, ne_eq, not_true_eq_false, or_self, if_false, hanging]
  apply Does.andThen
  apply (checkedInvocation_runs (unknown_checked hanging)).weaken ?_ (fun _ _ never => never)
  rintro u unknown ⟨rfl, fields, source⟩
  have here : unknown.fields.runId = site.runId := by rw [fields]; exact run
  have there : unknown.fields.logicalCallId = site.logicalCallId := by rw [fields]; exact calls
  have state : unknown.fields.dispatchState = .unknown := by rw [fields]; rfl
  have follows : mayFollow site.journal (u.calls site) invocation.fields unknown = true := by
    simp [mayFollow, fields, ModelCalls.advanced, hanging, stableFields, InvocationFields.toJson,
      allowedNext]
  have committed := commitInvocationLocked_next head.callInv u.journal.blobs loaded here there
    source (by simp [state]) (by rw [fields]; exact plain)
    (by rw [fields]; exact ⟨range, attempt⟩) follows
  have mine : unknown.fields.runId = token.runId := here.trans owner.run.symm
  have placed : (commitInvocationLocked site.journal
      (u.journal.calls unknown.fields.runId unknown.fields.logicalCallId) u.journal.blobs unknown []
      false).2.2.status = .committed := by
    rw [here, there]
    exact committed
  apply Does.andThen
  apply (commit_runs mine active (.inl placed)).weaken ?_ (fun _ _ never => never)
  rintro v _ rfl
  apply Does.raise
  refine ⟨rfl, ?_⟩
  rcases serve_commitInvocation token u unknown [] false (undisturbed Facts) owner.run there with
    ⟨refused, -⟩ | ⟨payload, landed⟩
  · exact absurd ⟨⟨mine, active, placed⟩, rfl⟩ refused
  · obtain ⟨stored, -, same, grown⟩ := accepted_append u [] landed.entry.written
    rw [landed.calls, grown]
    refine ⟨stored, List.mem_append_right _ (List.mem_singleton_self _), ?_⟩
    have equal := congrArg InvocationPayload.dispatchState same
    exact equal.trans state

end Head

end PaidDispatch

end MonoidKernel
