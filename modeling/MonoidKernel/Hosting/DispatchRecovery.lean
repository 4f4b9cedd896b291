import MonoidKernel.Hosting.DispatchSafety

set_option autoImplicit false

namespace MonoidKernel

namespace PaidDispatch

open Library InvocationJournal
open Library.Discipline (Does)

variable {Facts Digest : Type} [DecidableEq Digest]
variable {site : CallSite Facts Digest} {token : WriterToken} {s t u : State Facts Digest}

def Settles (site : CallSite Facts Digest) (s : State Facts Digest)
    (settlement : ModelDispatchSettlement Facts) : Prop :=
  ∃ fields ∈ accepted (s.calls site), fields.dispatchState = .settled ∧
    fields.dispatchAttempt = settlement.reservation.dispatchAttempt ∧
    fields.receipt = some settlement.receipt ∧ fields.failureCode = settlement.failureCode ∧
    ∀ resultBlob, settlement.resultBlob = some resultBlob →
      fields.resultRef = .blob (site.journal.sha256 resultBlob) ∧
        s.journal.blobs.content (site.journal.sha256 resultBlob) = some resultBlob

theorem Settles.since {settlement : ModelDispatchSettlement Facts}
    (settles : Settles site s settlement) (since : Since site token s t) :
    Settles site t settlement := by
  obtain ⟨fields, member, state, attempt, receipt, failure, result⟩ := settles
  refine ⟨fields, since.accepted member, state, attempt, receipt, failure, ?_⟩
  intro resultBlob present
  obtain ⟨reference, content⟩ := result resultBlob present
  exact ⟨reference, since.kept.2.1 _ _ content⟩

theorem settled_does (lifecycle : ModelCallLifecycle)
    (settlement : ModelDispatchSettlement Facts) (owner : Owner site token s)
    (call : settlement.reservation.logicalCallId = site.logicalCallId)
    (paid : Paid s settlement.reservation.dispatchAttempt) :
    (discipline site).Does token (Quiet site token) s
      (ModelCalls.settled site.journal.sha256 lifecycle settlement)
      (fun t _ => Since site token s t ∧ Settles site t settlement) (Fails site token s) := by
  apply Does.andThen
  apply (loadDispatch_does lifecycle owner call .dispatchStarted).weaken ?_
    (fun _ _ failed => failed)
  rintro t invocation ⟨base, snapshot, found, state, names⟩
  have since := snapshot.waited.since
  have attempt : invocation.fields.dispatchAttempt = settlement.reservation.dispatchAttempt := by
    simp only [ModelCalls.sameDispatch, Bool.and_eq_true, decide_eq_true_eq] at names
    exact names.1.1.1.1.2
  apply Does.andThen
  apply (checkedInvocation_does since.owner _).weaken
  · rintro u record ⟨rfl, fields⟩
    have free : recordAt base record.fields.revision = none := by
      rw [fields]
      exact found.free snapshot.inv
    have submits : Submits site token base u record
        (settlement.resultBlob.map fun blob => (site.journal.sha256 blob, blob)).toList := by
      refine ⟨snapshot.unmoved, by rw [fields]; exact found.call, ?_⟩
      intro _ _
      rw [fields]
      refine ⟨?_, ?_⟩
      · change Paid u invocation.fields.dispatchAttempt
        rw [attempt]
        exact since.paid paid
      · cases settlement.resultBlob with
        | none => exact .inl ⟨rfl, rfl⟩
        | some resultBlob => exact .inr ⟨_, resultBlob, rfl, rfl⟩
    have repeats : Repeats site base record := by
      intro row same
      rw [free] at same
      cases same
    apply (commitSettled_does lifecycle since.owner submits repeats false false false
      (fun authoritative => by cases authoritative)).weaken
    · rintro v _ ⟨further, -, held, content⟩
      obtain ⟨stored, member, same⟩ := held.accepted
      rw [fields] at same
      simp only [InvocationFields.toJson, InvocationPayload.mk.injEq, Option.some.injEq,
        ModelCalls.advanced] at same
      refine ⟨since.trans further, stored, member, by simp [same], by simp [same, attempt],
        by simp [same], by simp [same], ?_⟩
      intro resultBlob present
      refine ⟨by simp [same, present], ?_⟩
      exact content free (site.journal.sha256 resultBlob, resultBlob) (by simp [present])
    · rintro v error ⟨further, other⟩
      exact ⟨since.trans further, other⟩
  · rintro u error ⟨further, other⟩
    exact ⟨since.trans further, other⟩

theorem unknown_does (lifecycle : ModelCallLifecycle) (reservation : ModelDispatchReservation)
    (owner : Owner site token s) (call : reservation.logicalCallId = site.logicalCallId)
    (failureCode : String) :
    (discipline site).Does token (Quiet site token) s
      (ModelCalls.unknown lifecycle reservation failureCode : CallAction Facts Digest Unit)
      (fun t _ => Since site token s t) (Fails site token s) := by
  apply Does.andThen
  apply (loadDispatch_does lifecycle owner call .dispatchStarted).weaken ?_
    (fun _ _ failed => failed)
  rintro t invocation ⟨base, snapshot, found, state, names⟩
  have since := snapshot.waited.since
  apply Does.andThen
  apply (checkedInvocation_does since.owner _).weaken
  · rintro u record ⟨rfl, fields⟩
    have submits : Submits site token base u record [] := by
      refine ⟨snapshot.unmoved, by rw [fields]; exact found.call, ?_⟩
      intro _ settles
      rw [fields] at settles
      cases settles
    apply (commit_does since.owner submits).weaken
    · rintro v _ ⟨further, -⟩
      exact since.trans further
    · rintro v error ⟨further, other⟩
      exact ⟨since.trans further, other⟩
  · rintro u error ⟨further, other⟩
    exact ⟨since.trans further, other⟩

def Goes (site : CallSite Facts Digest) (token : WriterToken) (s t : State Facts Digest)
    (_error : CallError) : Prop := Since site token s t

variable (plan : ModelCallPlan)

variable (reservation : ModelDispatchReservation)

theorem raiseModelDispatchUnknown_does {A : Type} (since : Since site token s t)
    (call : reservation.logicalCallId = site.logicalCallId) (failureCode : String)
    {ok : State Facts Digest → A → Prop} :
    (discipline site).Does token (Quiet site token) t
      (ModelCalls.raiseModelDispatchUnknown plan reservation failureCode) ok
      (Goes site token s) := by
  apply Does.andThen
  apply Does.handle
  apply (unknown_does plan.lifecycle reservation since.owner call _).weaken
  · intro u _ further
    exact Does.raise (since.trans further)
  · rintro u error ⟨further, -⟩
    exact Does.raise (since.trans further)

theorem settleModelDispatch_does (settlement : ModelDispatchSettlement Facts)
    (owner : Owner site token s) (call : settlement.reservation.logicalCallId = site.logicalCallId)
    (paid : Paid s settlement.reservation.dispatchAttempt) :
    (discipline site).Does token (Quiet site token) s
      (ModelCalls.settleModelDispatch site.runner plan settlement)
      (fun t _ => Since site token s t ∧ Settles site t settlement) (Goes site token s) := by
  unfold ModelCalls.settleModelDispatch
  rw [site.sameHash]
  apply Does.handle
  apply (settled_does plan.lifecycle settlement owner call paid).weaken (fun _ _ done => done)
  rintro t error ⟨since, -⟩
  cases error with
  | evidenceUncommitted => exact Does.raise since
  | _ => exact raiseModelDispatchUnknown_does plan settlement.reservation since call _

theorem prepareDurableStreamSettlement_does (before : Since site token s t)
    (call : reservation.logicalCallId = site.logicalCallId) :
    (discipline site).Does token (Quiet site token) t
      (ModelCalls.prepareDurableStreamSettlement plan reservation : CallAction Facts Digest Unit)
      (fun t _ => Since site token s t) (Goes site token s) := by
  apply Does.andThen
  apply (read_does before.owner .boundary trivial).weaken ?_ (fun _ _ failed => failed)
  rintro t stops ⟨waited, -⟩
  have since := before.trans waited.since
  have asserts := assertActive_does since.owner
  cases stops with
  | true =>
    apply Does.andThen
    apply asserts.weaken
    · intro u _ further
      have all := since.trans further.since
      exact raiseModelDispatchUnknown_does plan reservation all call _
    · rintro u error ⟨further, -⟩
      exact since.trans further
  | false =>
    apply asserts.weaken
    · intro u _ further
      exact since.trans further.since
    · rintro u error ⟨further, -⟩
      exact since.trans further

def Committed (site : CallSite Facts Digest) (s t : State Facts Digest) :
    CallOutcome Facts → Prop
  | .recovered dispatch => Returned site s t dispatch
  | .completed reservation receipt resultBlob =>
      Settles site t ⟨reservation, receipt, some resultBlob, ""⟩ ∧
        Paid t reservation.dispatchAttempt ∧ ¬ Paid s reservation.dispatchAttempt

theorem completeDispatch_does (receipt : InvocationReceipt Facts) (result : Except String Bytes)
    (since : Since site token s t) (call : reservation.logicalCallId = site.logicalCallId)
    (paid : Paid t reservation.dispatchAttempt) (fresh : ¬ Paid s reservation.dispatchAttempt) :
    (discipline site).Does token (Quiet site token) t
      (ModelCalls.completeDispatch site.runner plan reservation receipt result)
      (fun u outcome => Since site token s u ∧ Committed site s u outcome)
      (Goes site token s) := by
  apply Does.andThen
  apply (prepareDurableStreamSettlement_does plan reservation since.owner.since call).weaken ?_
    (fun _ _ further => since.trans further)
  intro u _ further
  have all := since.trans further
  cases result with
  | error errorCode => exact raiseModelDispatchUnknown_does plan reservation all call _
  | ok resultBlob =>
    apply Does.andThen
    apply (settleModelDispatch_does plan _ all.owner call (further.paid paid)).weaken ?_
      (fun _ _ more => all.trans more)
    rintro v _ ⟨more, settles⟩
    have later := all.trans more
    apply Does.andThen
    apply (assertActive_does later.owner).weaken
    · intro w _ waited
      apply Does.pure
      exact ⟨later.trans waited.since, settles.since waited.since,
        ((further.trans more).trans waited.since).paid paid, fresh⟩
    · rintro w error ⟨rest, -⟩
      exact later.trans rest

theorem refuseDispatch_does (receipt : InvocationReceipt Facts) (errorCode : String)
    (since : Since site token s t) (call : reservation.logicalCallId = site.logicalCallId)
    (paid : Paid t reservation.dispatchAttempt) :
    (discipline site).Does token (Quiet site token) t
      (ModelCalls.refuseDispatch site.runner plan reservation receipt errorCode)
      (fun u _ => Since site token s u) (Goes site token s) := by
  apply Does.andThen
  apply (prepareDurableStreamSettlement_does plan reservation since.owner.since call).weaken ?_
    (fun _ _ further => since.trans further)
  intro u _ further
  have all := since.trans further
  apply Does.andThen
  apply (settleModelDispatch_does plan _ all.owner call (further.paid paid)).weaken ?_
    (fun _ _ more => all.trans more)
  rintro v _ ⟨more, -⟩
  have later := all.trans more
  apply (assertActive_does later.owner).weaken
  · intro w _ waited
    exact later.trans waited.since
  · rintro w error ⟨rest, -⟩
    exact later.trans rest

theorem Quiet.allowed {request : CallRequest Facts Digest} (quiet : Quiet site token s request) :
    Allowed site token s request := quiet.1

theorem quiet_does {A : Type} {action : CallAction Facts Digest A}
    {ok : State Facts Digest → A → Prop} {failed : State Facts Digest → CallError → Prop}
    (does : (discipline site).Does token (Quiet site token) s action ok failed) :
    (discipline site).Does token (Allowed site token) s action ok failed :=
  Discipline.Safe.weaken does (fun _ _ quiet => quiet.allowed) (fun _ _ done => done)

theorem askProvider_does {reservation : ModelDispatchReservation}
    (ready : Ready site token reservation s t) :
    (discipline site).Does token (Allowed site token) t
      (ModelCalls.askProvider reservation : CallAction Facts Digest (ProviderOutcome Facts))
      (fun u _ => Since site token s u ∧ Paid u reservation.dispatchAttempt)
      (Goes site token s) := by
  obtain ⟨since, -, due, starts⟩ := ready
  have allowed : Allowed site token t (.provider reservation) := ⟨due, starts⟩
  apply Does.ask allowed
  intro choice u interfered inv
  have own := serve_since since.owner allowed choice
  have relied : Relied site token (serve site token t (.provider reservation) choice).1 u :=
    interfered since.owner.run own.owner.granted
  have after : Waited site token (serve site token t (.provider reservation) choice).1 u :=
    ⟨⟨inv, since.owner.run, relied.granted⟩, relied⟩
  refine ⟨since.trans (own.trans after.since), after.since.paid ?_⟩
  exact ⟨reservation, List.mem_append_right _ (List.mem_singleton_self _), rfl⟩

theorem attemptLoop_does (call : plan.logicalCallId = site.logicalCallId)
    (budget attemptsMade : Nat) (idempotencyKey : String) (since : Since site token s t) :
    (discipline site).Does token (Allowed site token) t
      (ModelCalls.attemptLoop site.runner plan budget attemptsMade idempotencyKey)
      (fun u outcome => Since site token s u ∧ Committed site s u outcome)
      (Goes site token s) := by
  induction budget generalizing t attemptsMade idempotencyKey with
  | zero => exact Does.raise since
  | succ budget ih =>
    apply Does.andThen
    apply (quiet_does (beginDispatch_does plan since.owner call _ idempotencyKey)).weaken ?_
      (fun _ _ stops => since.trans stops.1)
    rintro u reservation ⟨ready, chosen, number⟩
    apply Does.andThen
    apply (askProvider_does ready).weaken ?_ (fun _ _ further => since.trans further)
    rintro v outcome ⟨further, paid⟩
    have all := since.trans further
    have fresh : ¬ Paid s reservation.dispatchAttempt := by
      rintro ⟨made, member, same⟩
      exact ready.2.2.1.2 made ((since.trans ready.1).dispatches.subset member) same
    have asserts := quiet_does (assertActive_does all.owner)
    cases outcome with
    | completed receipt result =>
      exact quiet_does (completeDispatch_does plan reservation _ result all chosen paid fresh)
    | stopped =>
      apply Does.andThen
      apply asserts.weaken
      · intro w _ waited
        exact Does.raise (all.trans waited.since)
      · rintro w error ⟨more, -⟩
        exact all.trans more
    | ambiguous errorCode =>
      apply Does.andThen
      apply asserts.weaken
      · intro w _ waited
        exact quiet_does
          (raiseModelDispatchUnknown_does plan reservation (all.trans waited.since) chosen _)
      · rintro w error ⟨more, -⟩
        exact all.trans more
    | refused receipt errorCode kernelRetryable delivered =>
      apply Does.andThen
      apply asserts.weaken ?_ (fun _ _ failed => all.trans failed.1)
      intro w _ waited
      have active := all.trans waited.since
      apply Does.andThen
      apply (quiet_does (refuseDispatch_does plan reservation _ errorCode active chosen
        (waited.since.paid paid))).weaken ?_ (fun _ _ gone => gone)
      intro x _ refused
      split
      · exact Does.raise refused
      · apply Does.andThen
        apply (quiet_does (checkBoundary_does refused.owner)).weaken ?_
          (fun _ _ failed => refused.trans failed.1)
        intro y _ checked
        exact ih _ _ (refused.trans checked.since)

theorem recoverModelDispatch_does (owner : Owner site token s)
    (call : plan.logicalCallId = site.logicalCallId) :
    (discipline site).Does token (Quiet site token) s
      (ModelCalls.recoverModelDispatch site.runner plan) (Recovers site token s)
      (Stops site token s) := by
  unfold ModelCalls.recoverModelDispatch
  rw [site.sameHash]
  apply Does.andThen
  apply (recover_does plan.lifecycle _ owner call).weaken ?_ (fun _ _ stops => stops)
  intro t recovered recovers
  cases recovered with
  | none => exact Does.pure recovers
  | some dispatch =>
    dsimp only
    split
    · exact Does.raise ⟨recovers.1, by simp⟩
    · exact Does.pure recovers

theorem Returned.since {dispatch : RecoveredModelDispatch Facts}
    (returned : Returned site s t dispatch) (since : Since site token t u) :
    Returned site s u dispatch := by
  obtain ⟨fields, member, late, holds⟩ := returned
  exact ⟨fields, since.accepted member, late, holds.since since⟩

theorem Returned.after {dispatch : RecoveredModelDispatch Facts}
    (since : Since site token s t) (returned : Returned site t u dispatch) :
    Returned site s u dispatch := by
  obtain ⟨fields, member, late, holds⟩ := returned
  exact ⟨fields, member, (since.kept.1 _ _).length_le.trans late, holds⟩

def Ends (site : CallSite Facts Digest) (token : WriterToken) (s t : State Facts Digest)
    (outcome : CallOutcome Facts) : Prop :=
  Since site token s t ∧ Committed site s t outcome

theorem attemptFrom_does (call : plan.logicalCallId = site.logicalCallId) (attemptsMade : Nat)
    (idempotencyKey : String) (since : Since site token s t) :
    (discipline site).Does token (Allowed site token) t
      (ModelCalls.attemptFrom site.runner plan attemptsMade idempotencyKey)
      (Ends site token s) (Goes site token s) := by
  apply Does.andThen
  apply (quiet_does (checkBoundary_does since.owner)).weaken ?_
    (fun _ _ failed => since.trans failed.1)
  intro u _ waited
  exact attemptLoop_does plan call _ _ _ (since.trans waited.since)

theorem acallOwned_does (owner : Owner site token s)
    (call : plan.logicalCallId = site.logicalCallId) :
    (discipline site).Does token (Allowed site token) s (ModelCalls.acallOwned site.runner plan)
      (Ends site token s) (Goes site token s) := by
  apply Does.andThen
  apply (quiet_does (assertActive_does owner)).weaken ?_ (fun _ _ failed => failed.1)
  intro t _ waited
  have since := waited.since
  apply Does.andThen
  apply (quiet_does (recoverModelDispatch_does { plan with requireEvidence := false } since.owner
    call)).weaken ?_ (fun _ _ stops => since.trans stops.1)
  rintro u recovered ⟨further, -, found⟩
  have all := since.trans further
  cases recovered with
  | none => exact attemptFrom_does plan call _ _ all
  | some dispatch =>
    have returned := (found dispatch rfl).1.after since
    apply Does.andThen
    apply (quiet_does (checkBoundary_does all.owner)).weaken ?_
      (fun _ _ failed => all.trans failed.1)
    intro v _ checked
    have last := all.trans checked.since
    split
    next attempts present restorable =>
      split
      · split
        · apply Does.andThen
          apply (quiet_does (checkBoundary_does last.owner)).weaken ?_
            (fun _ _ failed => last.trans failed.1)
          intro w _ again
          exact attemptFrom_does plan call _ _ (last.trans again.since)
        · exact Does.raise last
      · split
        next resultBlob carried =>
          split
          · exact Does.pure ⟨last, returned.since checked.since⟩
          · exact Does.raise last
        · exact Does.raise last
    · exact Does.raise last

theorem recoverEvidenceDispatch_does (owner : Owner site token s)
    (call : plan.logicalCallId = site.logicalCallId) :
    (discipline site).Does token (Allowed site token) s
      (ModelCalls.recoverEvidenceDispatch site.runner plan) (Ends site token s)
      (Goes site token s) := by
  apply Does.andThen
  apply (quiet_does (recoverModelDispatch_does plan owner call)).weaken ?_
    (fun _ _ stops => stops.1)
  rintro t recovered ⟨since, -, found⟩
  cases recovered with
  | none => exact Does.raise since
  | some dispatch => exact Does.pure ⟨since, (found dispatch rfl).1⟩

theorem program_does (params : CallParams) (owner : Owner site token s) :
    (discipline site).Does token (Allowed site token) s (program site token params)
      (Ends site token s) (Goes site token s) := by
  unfold program
  dsimp only
  split
  · exact recoverEvidenceDispatch_does _ owner rfl
  · exact acallOwned_does _ owner rfl

theorem program_hanging (params : CallParams) (owner : Owner site token s)
    (hanging : Authority.Stored s.journal.authority.table token → Hanging site s) :
    (discipline site).Does token (Quiet site token) s (program site token params)
      (fun _ _ => False) (Stops site token s) := by
  have carried {t : State Facts Digest} (waited : Waited site token s t)
      (stored : Authority.Stored t.journal.authority.table token) : Hanging site t := by
    obtain ⟨before, same⟩ := waited.relied.own stored
    unfold Hanging
    rw [same]
    exact hanging before
  unfold program
  dsimp only
  split
  · apply Does.andThen
    apply (recoverModelDispatch_does _ owner rfl).weaken ?_ (fun _ _ stops => stops)
    rintro t recovered ⟨since, -, found⟩
    cases recovered with
    | none => exact Does.raise ⟨since, by simp⟩
    | some dispatch =>
      obtain ⟨-, stored, settled⟩ := found dispatch rfl
      exact (settled (hanging stored)).elim
  · apply Does.andThen
    apply (assertActive_does owner).weaken ?_ (fun _ _ failed => failed.stops)
    intro t _ waited
    apply Does.andThen
    apply (recoverModelDispatch_does _ waited.owner rfl).weaken ?_
      (fun _ _ stops => stops.after waited.since)
    rintro u recovered ⟨further, closed, found⟩
    have since := waited.since.trans further
    cases recovered with
    | some dispatch =>
      obtain ⟨-, stored, settled⟩ := found dispatch rfl
      exact (settled (carried waited stored)).elim
    | none =>
      -- Nothing was found, so a later writer has taken the call over.
      have superseded : ¬ Authority.Stored u.journal.authority.table token := by
        intro stored
        exact closed stored (carried waited (further.stored stored))
      apply Does.andThen
      apply (checkBoundary_does since.owner).weaken ?_ (fun _ _ failed => failed.stops.after since)
      intro v _ checked
      have last := since.trans checked.since
      have still : ¬ Authority.Stored v.journal.authority.table token :=
        fun stored => superseded (checked.since.stored stored)
      generalize (CallSite.plan site token params).maxAttempts.getD 1 - 0 + 1 = budget
      cases budget with
      | zero => exact Does.raise ⟨last, by simp⟩
      | succ budget =>
        apply Does.andThen
        apply (beginDispatch_does (CallSite.plan site token params) last.owner rfl _ _).weaken ?_
          (fun _ _ stops => stops.after last)
        rintro w reservation ⟨⟨-, stored, -⟩, -⟩
        exact (still stored).elim

end PaidDispatch

end MonoidKernel
