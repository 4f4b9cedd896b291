import MonoidKernel.Hosting.DispatchRecovery
import MonoidKernel.Hosting.DispatchSolo

set_option autoImplicit false

namespace MonoidKernel

namespace PaidDispatch

open Library InvocationJournal

variable {Facts Digest : Type} [DecidableEq Digest] {site : CallSite Facts Digest}

abbrev Run (Facts Digest : Type) [DecidableEq Digest] :=
  Joint (State Facts Digest) WriterToken (CallRequest Facts Digest) CallReply
    (Except CallError (CallOutcome Facts))

abbrev RunLabel (Facts : Type) :=
    JointLabel WriterToken CallParams (CallChoice Facts) Authority.Label

def Orderly (site : CallSite Facts Digest) (s : Run Facts Digest) : Prop :=
  (party site).Orderly (fun _ _ => True) s

theorem sound (site : CallSite Facts Digest) : (party site).Sound fun _ _ => True := by
  intro token params s inv started t interfered after
  simp only [party, ready, Bool.and_eq_true, decide_eq_true_eq] at started
  have relied : Relied site token s t := interfered started.2 started.1
  exact Discipline.Safe.weaken (program_does params ⟨after, started.2, relied.granted⟩)
    (fun _ _ allowed => allowed) (fun _ _ _ => trivial)

variable {s : Run Facts Digest}

theorem orderly_next (orderly : Orderly site s) (label : RunLabel Facts) :
    Orderly site ((party site).machine.next s label) :=
  Party.Orderly.next (sound site) orderly label

def Before (s t : State Facts Digest) : Prop :=
  Kept s.journal t.journal ∧ s.dispatches <+: t.dispatches

theorem next_before (site : CallSite Facts Digest) (s : Run Facts Digest) (label : RunLabel Facts) :
    Before s.shared ((party site).machine.next s label).shared := by
  have same : Before s.shared s.shared := ⟨kept_same rfl rfl, List.prefix_rfl⟩
  cases label with
  | start token params =>
    simp only [Machine.next, Party.machine, Party.next]
    split <;> exact same
  | environment event => exact ⟨kept_same rfl rfl, List.prefix_rfl⟩
  | step token choice =>
    simp only [Machine.next, Party.machine, Party.next]
    split
    next request resume running =>
      refine ⟨serve_kept site token s.shared request choice, ?_⟩
      cases request with
      | provider reservation => exact List.prefix_append _ _
      | _ => exact List.prefix_rfl
    · exact same

theorem exec_before (site : CallSite Facts Digest) (s : Run Facts Digest)
    (labels : List (RunLabel Facts)) :
    Before s.shared ((party site).machine.exec s labels).shared :=
  (party site).machine.exec_related (fun _ => True) (fun _ _ _ => trivial)
    (fun s t => Before s.shared t.shared) (fun _ => ⟨kept_same rfl rfl, List.prefix_rfl⟩)
    (fun _ _ _ one two => ⟨⟨fun run call => (one.1.1 run call).trans (two.1.1 run call),
      one.1.2.trans two.1.2⟩, one.2.trans two.2⟩) (fun s label _ => next_before site s label)
    s trivial labels

variable {fields : InvocationFields Facts Digest}

theorem Before.accepted {s t : State Facts Digest} (before : Before s t)
    (member : fields ∈ accepted (s.calls site)) :
    fields ∈ accepted (t.calls site) := by
  obtain ⟨row, stored, decoded⟩ := accepted_mem.mp member
  exact accepted_mem.mpr ⟨row, (before.1.1 _ _).subset stored, decoded⟩

theorem next_dispatches (orderly : Orderly site s) (label : RunLabel Facts) :
    ((party site).machine.next s label).shared.dispatches = s.shared.dispatches ∨
      ∃ token reservation, ((party site).machine.next s label).shared.dispatches =
          s.shared.dispatches ++ [reservation] ∧
        Allowed site token s.shared (.provider reservation) := by
  cases label with
  | start token params =>
    left
    simp only [Machine.next, Party.machine, Party.next]
    split <;> rfl
  | environment event => exact .inl rfl
  | step token choice =>
    simp only [Machine.next, Party.machine, Party.next]
    split
    next request resume running =>
      cases request with
      | provider reservation => exact .inr ⟨token, reservation, rfl, orderly.allowed running⟩
      | _ => exact .inl rfl
    · exact .inl rfl

theorem Inv.closed {s : State Facts Digest} (inv : Inv site s)
    (member : fields ∈ accepted (s.calls site))
    (started : fields.dispatchState = .dispatchStarted) :
    (accepted (s.calls site)).getLast? = some fields ∨
      (∃ settled ∈ accepted (s.calls site), settled.dispatchState = .settled ∧
        settled.dispatchAttempt = fields.dispatchAttempt) ∨
      ∃ unknown, (accepted (s.calls site)).getLast? = some unknown ∧
        unknown.dispatchState = .unknown ∧ unknown.dispatchAttempt = fields.dispatchAttempt := by
  have chained := (inv.journal site.runId site.logicalCallId).chained
  rcases chained.next member with last | ⟨next, held, follows⟩
  · exact .inl last
  · right
    rcases follows.transition with ⟨⟨reserved, -⟩ | ⟨-, settled | unknown⟩, attempt, -⟩ |
      ⟨failed, -⟩
    · rw [started] at reserved
      cases reserved
    · exact .inl ⟨next, held, settled, attempt⟩
    · right
      have final : Final next := ⟨.inr unknown, by simp [retryableFailure, unknown]⟩
      exact ⟨next, chained.final held final.stuck, unknown, attempt⟩
    · simp [retryableFailure, started] at failed

theorem Inv.due {s : State Facts Digest} (inv : Inv site s) {token : WriterToken}
    {reservation : ModelDispatchReservation}
    (allowed : Allowed site token s (.provider reservation)) :
    ∃ head, (accepted (s.calls site)).getLast? = some head ∧
      (head.dispatchState = .dispatchStarted ∨ head.dispatchState = .unknown) ∧
      head.dispatchAttempt = reservation.dispatchAttempt := by
  obtain ⟨due, fields, member, starts⟩ := allowed
  rcases inv.closed member starts.state with last | ⟨settled, held, state, attempt⟩ |
    ⟨unknown, last, state, attempt⟩
  · exact ⟨fields, last, .inl starts.state, starts.attempt⟩
  · obtain ⟨paid, dispatched, same⟩ := inv.paid settled held state
    exact absurd (same.trans (attempt.trans starts.attempt)) (due.2 paid dispatched)
  · exact ⟨unknown, last, .inr state, attempt.trans starts.attempt⟩

theorem exec_settled (orderly : Orderly site s) (member : fields ∈ accepted (s.shared.calls site))
    (settled : fields.dispatchState = .settled) (final : Final fields)
    (labels : List (RunLabel Facts)) :
    ((party site).machine.exec s labels).shared.dispatches = s.shared.dispatches := by
  refine ((party site).machine.exec_invariant (fun u => Orderly site u ∧
    fields ∈ accepted (u.shared.calls site) ∧ u.shared.dispatches = s.shared.dispatches) ?_ s
    ⟨orderly, member, rfl⟩ labels).2.2
  rintro u label ⟨kept, held, same⟩
  refine ⟨orderly_next kept label, (next_before site u label).accepted held, ?_⟩
  rcases next_dispatches kept label with none | ⟨token, reservation, -, allowed⟩
  · exact none.trans same
  · obtain ⟨head, last, open_, -⟩ := Inv.due kept.1 allowed
    have ending := (kept.1.journal site.runId site.logicalCallId).chained.final held final.stuck
    rw [show (accepted (u.shared.calls site)).getLast? = some fields from ending] at last
    cases last
    rw [settled] at open_
    simp at open_

theorem Inv.stays {s : State Facts Digest} (inv : Inv site s) {head : InvocationFields Facts Digest}
    (member : fields ∈ accepted (s.calls site))
    (undecided : fields.dispatchState = .dispatchStarted ∨ fields.dispatchState = .unknown)
    (last : (accepted (s.calls site)).getLast? = some head) :
    (∃ settled ∈ accepted (s.calls site), settled.dispatchState = .settled ∧
        settled.dispatchAttempt = fields.dispatchAttempt) ∨
      head.dispatchAttempt = fields.dispatchAttempt := by
  rcases undecided with started | unknown
  · rcases inv.closed member started with same | settles | ⟨unknown, same, -, attempt⟩
    · rw [same] at last
      cases last
      exact .inr rfl
    · exact .inl settles
    · rw [same] at last
      cases last
      exact .inr attempt
  · have final : Final fields := ⟨.inr unknown, by simp [retryableFailure, unknown]⟩
    have same := (inv.journal site.runId site.logicalCallId).chained.final member final.stuck
    rw [show (accepted (s.calls site)).getLast? = some fields from same] at last
    cases last
    exact .inr rfl

theorem exec_started (orderly : Orderly site s) (member : fields ∈ accepted (s.shared.calls site))
    (undecided : fields.dispatchState = .dispatchStarted ∨ fields.dispatchState = .unknown)
    (labels : List (RunLabel Facts)) :
    let t := (party site).machine.exec s labels
    (∃ settled ∈ accepted (t.shared.calls site), settled.dispatchState = .settled ∧
        settled.dispatchAttempt = fields.dispatchAttempt) ∨
      ∀ reservation ∈ t.shared.dispatches, reservation ∈ s.shared.dispatches ∨
        reservation.dispatchAttempt = fields.dispatchAttempt := by
  refine ((party site).machine.exec_invariant (fun u => Orderly site u ∧
    fields ∈ accepted (u.shared.calls site) ∧
    ((∃ settled ∈ accepted (u.shared.calls site), settled.dispatchState = .settled ∧
        settled.dispatchAttempt = fields.dispatchAttempt) ∨
      ∀ reservation ∈ u.shared.dispatches, reservation ∈ s.shared.dispatches ∨
        reservation.dispatchAttempt = fields.dispatchAttempt)) ?_ s
    ⟨orderly, member, .inr fun _ held => .inl held⟩ labels).2.2
  rintro u label ⟨kept, held, known⟩
  have before := next_before site u label
  refine ⟨orderly_next kept label, before.accepted held, ?_⟩
  rcases known with ⟨settled, stored, state, attempt⟩ | only
  · exact .inl ⟨settled, before.accepted stored, state, attempt⟩
  · rcases next_dispatches kept label with same | ⟨token, added, grown, allowed⟩
    · right
      rw [same]
      exact only
    · obtain ⟨head, last, -, number⟩ := Inv.due kept.1 allowed
      rcases Inv.stays kept.1 held undecided last with ⟨settled, stored, state, attempt⟩ | same
      · exact .inl ⟨settled, before.accepted stored, state, attempt⟩
      · right
        rw [grown]
        intro reservation made
        rcases List.mem_append.mp made with earlier | new
        · exact only reservation earlier
        · right
          rw [List.mem_singleton.mp new, ← number, same]

theorem exec_process (orderly : Orderly site s) (token : WriterToken) (params : CallParams)
    (started : ready site s.shared token = true)
    {allowed : State Facts Digest → CallRequest Facts Digest → Prop}
    {ok : State Facts Digest → CallOutcome Facts → Prop}
    {failed : State Facts Digest → CallError → Prop} (safe : ∀ t, Waited site token s.shared t →
      (discipline site).Does token allowed t (program site token params) ok failed)
    (labels : List (RunLabel Facts))
    (kept : ∀ label ∈ labels, ∀ params, label ≠ .start token params) :
    let t := (party site).machine.exec ((party site).machine.next s (.start token params)) labels
    (∃ outcome, t.running token = some (.done (.ok outcome)) ∧ ok t.shared outcome) ∨
      (∃ error, t.running token = some (.done (.error error)) ∧ failed t.shared error) ∨
      ∃ request resume, t.running token = some (.call request resume) ∧
        allowed t.shared request := by
  have begun : (party site).machine.next s (.start token params) =
      { s with running := Function.update s.running token (some (program site token params)) } := by
    simp only [Machine.next, Party.machine, Party.next]
    exact if_pos started
  have after := orderly_next orderly (.start token params)
  simp only [ready, Bool.and_eq_true, decide_eq_true_eq] at started
  have lasting : (party site).Lasting token allowed (Discipline.Ends ok failed)
      (program site token params)
      ((party site).machine.next s (.start token params)).shared := by
    rw [begun]
    intro t interfered inv
    have relied : Relied site token s.shared t := interfered started.2 started.1
    exact safe t ⟨⟨inv, started.2, relied.granted⟩, relied⟩
  obtain ⟨later, running, holds⟩ := Party.exec_lasting (sound site) after
    (by rw [begun]; exact Function.update_self ..) lasting labels kept
  have last : Orderly site ((party site).machine.exec
      ((party site).machine.next s (.start token params)) labels) :=
    (party site).machine.exec_invariant (Orderly site) (fun _ label held => orderly_next held label)
      _ after labels
  have now := holds _ ((discipline site).rely_refl token _) last.1
  cases later with
  | call request resume => exact .inr (.inr ⟨request, resume, running, now.1⟩)
  | done result =>
    cases result with
    | ok outcome => exact .inl ⟨outcome, running, now⟩
    | error error => exact .inr (.inl ⟨error, running, now⟩)

theorem exec_hanging (orderly : Orderly site s) (hanging : Hanging site s.shared)
    (token : WriterToken) (params : CallParams) (started : ready site s.shared token = true)
    (labels : List (RunLabel Facts))
    (kept : ∀ label ∈ labels, ∀ params, label ≠ .start token params) :
    let t := (party site).machine.exec ((party site).machine.next s (.start token params)) labels
    (∃ error, t.running token = some (.done (.error error)) ∧
        (error = .durable "dispatch_unknown" →
          ∃ fields ∈ accepted (t.shared.calls site), fields.dispatchState = .unknown)) ∨
      ∃ request resume, t.running token = some (.call request resume) ∧
        ∀ reservation, request ≠ .provider reservation := by
  have safe (t : State Facts Digest) (waited : Waited site token s.shared t) :
      (discipline site).Does token (Quiet site token) t (program site token params)
        (fun _ _ => False) (fun u error => error = .durable "dispatch_unknown" →
          ∃ fields ∈ accepted (u.calls site), fields.dispatchState = .unknown) := by
    refine (program_hanging params waited.owner ?_).weaken (fun _ _ never => never)
      (fun _ _ stops => stops.2)
    intro stored
    obtain ⟨-, same⟩ := waited.relied.own stored
    unfold Hanging
    rw [same]
    exact hanging
  rcases exec_process orderly token params started safe labels kept with
    ⟨-, -, never⟩ | failed | ⟨request, resume, running, quiet⟩
  · exact never.elim
  · exact .inl failed
  · exact .inr ⟨request, resume, running, quiet.2⟩

theorem program_ends {s u : State Facts Digest} {token : WriterToken} (params : CallParams)
    (waited : Waited site token s u) :
    (discipline site).Does token (Allowed site token) u (program site token params)
      (fun v outcome => match outcome with
        | .recovered dispatch => Returned site s v dispatch
        | .completed reservation _ _ => Paid v reservation.dispatchAttempt ∧
            ¬ Paid s reservation.dispatchAttempt) (fun _ _ => True) := by
  apply (program_does params waited.owner).weaken ?_ (fun _ _ _ => trivial)
  rintro v outcome ⟨since, committed⟩
  cases outcome with
  | recovered dispatch => exact Returned.after waited.since committed
  | completed reservation receipt resultBlob =>
    exact ⟨committed.2.1, fun paid => committed.2.2 (waited.since.paid paid)⟩

theorem exec_final (orderly : Orderly site s) (member : fields ∈ accepted (s.shared.calls site))
    (settled : fields.dispatchState = .settled) (final : Final fields) (token : WriterToken)
    (params : CallParams) (started : ready site s.shared token = true)
    (labels : List (RunLabel Facts))
    (kept : ∀ label ∈ labels, ∀ params, label ≠ .start token params) :
    let t := (party site).machine.exec ((party site).machine.next s (.start token params)) labels
    ∀ outcome, t.running token = some (.done (.ok outcome)) →
      ∃ dispatch, outcome = .recovered dispatch ∧ Holds t.shared fields dispatch := by
  intro t outcome running
  have safe (u : State Facts Digest) (waited : Waited site token s.shared u) :=
    program_ends params waited
  have same : t.shared.dispatches = s.shared.dispatches :=
    exec_settled orderly member settled final (.start token params :: labels)
  have kepts := exec_before site s (.start token params :: labels)
  have orderlyT : Orderly site t :=
    (party site).machine.exec_invariant (Orderly site) (fun _ label held => orderly_next held label)
      _ orderly (.start token params :: labels)
  rcases exec_process orderly token params started safe labels kept with
    ⟨found, held, ends⟩ | ⟨error, failed, -⟩ | ⟨request, resume, called, -⟩
  · rw [show t.running token = some (.done (.ok found)) from held] at running
    cases running
    cases outcome with
    | completed reservation receipt resultBlob =>
      obtain ⟨⟨made, dispatched, attempt⟩, fresh⟩ := ends
      rw [show _ = s.shared.dispatches from same] at dispatched
      exact (fresh ⟨made, dispatched, attempt⟩).elim
    | recovered dispatch =>
      refine ⟨dispatch, rfl, ?_⟩
      obtain ⟨returned, stored, late, holds⟩ := ends
      have records := final_records orderlyT.1.journal kepts.1 member final
      have journal := orderly.1.journal site.runId site.logicalCallId
      have held : returned ∈ accepted (s.shared.calls site) := by
        simp only [accepted, State.calls] at stored ⊢
        rwa [records] at stored
      rw [← journal.final_eq member final held late]
      exact holds
  · rw [show t.running token = some (.done (.error error)) from failed] at running
    cases running
  · rw [show t.running token = some (.call request resume) from called] at running
    cases running

-- What the processes of one call guarantee from a point `s` of their run to a later point `t`.
-- `recovery` and `returned` follow one process that starts at `s`; `recovers` and `gives` let the
-- current writer recover at `t`, undisturbed.
structure PaysOnce (site : CallSite Facts Digest) (s t : Run Facts Digest) : Prop where
  once : (t.shared.dispatches.map ModelDispatchReservation.dispatchAttempt).Nodup
  durable : ∀ reservation ∈ t.shared.dispatches, ∃ fields ∈ accepted (t.shared.calls site),
    Starts fields reservation
  call : ∀ reservation ∈ t.shared.dispatches, reservation.logicalCallId = site.logicalCallId
  key : ∀ a ∈ t.shared.dispatches, ∀ b ∈ t.shared.dispatches, a.idempotencyKey = b.idempotencyKey
  started : ∀ fields ∈ accepted (s.shared.calls site),
    fields.dispatchState = .dispatchStarted ∨ fields.dispatchState = .unknown →
    (∃ settled ∈ accepted (t.shared.calls site), settled.dispatchState = .settled ∧
        settled.dispatchAttempt = fields.dispatchAttempt) ∨
      ∀ reservation ∈ t.shared.dispatches, reservation ∈ s.shared.dispatches ∨
        reservation.dispatchAttempt = fields.dispatchAttempt
  settled : ∀ fields ∈ accepted (s.shared.calls site), fields.dispatchState = .settled →
    Final fields → t.shared.dispatches = s.shared.dispatches
  recovery : Hanging site s.shared → ∀ token params labels, ready site s.shared token = true →
    (∀ label ∈ labels, ∀ params, label ≠ .start token params) →
    let u := (party site).machine.exec ((party site).machine.next s (.start token params)) labels
    (∃ error, u.running token = some (.done (.error error)) ∧
        (error = .durable "dispatch_unknown" →
          ∃ fields ∈ accepted (u.shared.calls site), fields.dispatchState = .unknown)) ∨
      ∃ request resume, u.running token = some (.call request resume) ∧
        ∀ reservation, request ≠ .provider reservation
  returned : ∀ fields ∈ accepted (s.shared.calls site), fields.dispatchState = .settled →
    Final fields → ∀ token params labels, ready site s.shared token = true →
    (∀ label ∈ labels, ∀ params, label ≠ .start token params) →
    let u := (party site).machine.exec ((party site).machine.next s (.start token params)) labels
    ∀ outcome, u.running token = some (.done (.ok outcome)) →
      ∃ dispatch, outcome = .recovered dispatch ∧ Holds u.shared fields dispatch
  recovers : ∀ token lifecycle query fields, ready site t.shared token = true →
    Authority.Active t.shared.journal.authority.table token t.shared.journal.authority.clock →
    lifecycle.writerToken = token → query.logicalCallId = site.logicalCallId →
    (accepted (t.shared.calls site)).getLast? = some fields →
    fields.dispatchState = .dispatchStarted → fields.requestDigest = query.requestDigest ∧
      fields.digestGeneration = query.digestGeneration → fields.revision < postgresBigintMax →
    let ended :=
      runAlone site token (ModelCalls.recover site.journal.sha256 lifecycle query) t.shared
    ended.2 = .error (.durable "dispatch_unknown") ∧
      ∃ unknown ∈ accepted (ended.1.calls site), unknown.dispatchState = .unknown
  gives : ∀ token lifecycle query fields, ready site t.shared token = true →
    Authority.Active t.shared.journal.authority.table token t.shared.journal.authority.clock →
    lifecycle.writerToken = token → query.logicalCallId = site.logicalCallId →
    (accepted (t.shared.calls site)).getLast? = some fields →
    fields.dispatchState = .settled → fields.requestDigest = query.requestDigest ∧
      fields.digestGeneration = query.digestGeneration →
    Compatible lifecycle query.requireEvidence fields.evidencePolicy →
    let ended :=
      runAlone site token (ModelCalls.recover site.journal.sha256 lifecycle query) t.shared
    ∃ dispatch, ended.2 = .ok (some dispatch) ∧ Holds ended.1 fields dispatch

theorem ready_owner (orderly : Orderly site s) {token : WriterToken}
    (started : ready site s.shared token = true) : Owner site token s.shared := by
  simp only [ready, Bool.and_eq_true, decide_eq_true_eq] at started
  exact ⟨orderly.1, started.2, started.1⟩

theorem Inv.key {s : State Facts Digest} (inv : Inv site s) {a b : ModelDispatchReservation}
    (first : a ∈ s.dispatches) (second : b ∈ s.dispatches) :
    a.idempotencyKey = b.idempotencyKey := by
  obtain ⟨one, stored, startsOne⟩ := inv.dispatched a first
  obtain ⟨two, held, startsTwo⟩ := inv.dispatched b second
  have stable := (inv.journal site.runId site.logicalCallId).chained.constant stableFields
    (fun _ _ step => step.stable) stored held
  rw [← startsOne.key, ← startsTwo.key]
  exact congrArg (fun fields => fields.2.1) stable

theorem paid_dispatch_once (site : CallSite Facts Digest)
    (earlier later : List (RunLabel Facts)) :
    PaysOnce site ((party site).machine.exec (party site).machine.init earlier)
      ((party site).machine.exec ((party site).machine.exec (party site).machine.init earlier)
        later) := by
  have before : Orderly site ((party site).machine.exec (party site).machine.init earlier) :=
    Party.exec_orderly (sound site) earlier
  generalize (party site).machine.exec (party site).machine.init earlier = s at before ⊢
  have after : Orderly site ((party site).machine.exec s later) :=
    (party site).machine.exec_invariant (Orderly site) (fun _ label held => orderly_next held label)
      _ before later
  have started : ∀ fields ∈ accepted (s.shared.calls site), _ := fun fields member undecided =>
    exec_started before member undecided later
  have settled : ∀ fields ∈ accepted (s.shared.calls site), fields.dispatchState = .settled →
      Final fields → _ := fun fields member state final =>
    exec_settled before member state final later
  generalize (party site).machine.exec s later = t at after started settled ⊢
  have inv := after.1
  refine {
    once := inv.once
    durable := inv.dispatched
    call := by
      intro reservation member
      obtain ⟨fields, stored, starts⟩ := inv.dispatched reservation member
      obtain ⟨row, held, decoded⟩ := accepted_mem.mp stored
      obtain ⟨found, same, -, call⟩ := ((inv.journal _ _).sound row held).decoded
      rw [decoded] at same
      cases same
      exact starts.call.symm.trans call
    key := fun a first b second => inv.key first second
    started := started
    settled := settled
    recovery := fun hanging token params labels ready kept =>
      exec_hanging before hanging token params ready labels kept
    returned := fun fields member state final token params labels ready kept =>
      exec_final before member state final token params ready labels kept
    recovers := ?_
    gives := ?_ }
  · intro token lifecycle query fields ready active writer call last hanging request range
    have ends := (recover_hanging_runs (ready_owner after ready) active writer call last hanging
      request range).alone
    generalize runAlone site token _ t.shared = ended at ends ⊢
    obtain ⟨u, result⟩ := ended
    cases result with
    | ok recovered => exact ends.elim
    | error error =>
      obtain ⟨rfl, unknown⟩ := ends
      exact ⟨rfl, unknown⟩
  · intro token lifecycle query fields ready active writer call last state request compatible
    have runs : Runs site token t.shared _ _ (fun _ _ => False) :=
      recover_settled_runs (ready_owner after ready) active writer call last state
        request compatible
    have ends := runs.alone
    generalize runAlone site token _ t.shared = ended at ends ⊢
    obtain ⟨u, result⟩ := ended
    cases result with
    | error error => exact ends.elim
    | ok recovered =>
      obtain ⟨dispatch, rfl, holds⟩ := ends
      exact ⟨dispatch, rfl, holds⟩

end PaidDispatch

end MonoidKernel
