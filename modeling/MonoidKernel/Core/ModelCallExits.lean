import MonoidKernel.Core.ModelCallAccounting

set_option autoImplicit false

namespace MonoidKernel.CallReceipt

open Library

section Outside

variable {plan : CallPlan} {state : CallState} {absorbed : List AttemptScript}
  {failure : CallFailure}

theorem Absorbed.failedReceipt (held : Absorbed plan absorbed state) (failure : CallFailure) :
    (Portable absorbed →
      ∃ receipt, failedReceipt state failure = some receipt ∧ Accounts receipt absorbed) ∧
    (¬Portable absorbed → CallReceipt.failedReceipt state failure = none) := by
  refine failedReceipt_spec held.agreeing held.log held.made ?_ ?_ ?_
  · unfold CallState.terminalObservations
    rw [held.observations, observed_length, held.made, if_neg (Nat.lt_irrefl _)]
  · unfold CallState.terminalLog
    rw [held.log.length, held.made, if_neg (Nat.lt_irrefl _)]
  · unfold CallState.terminalUsage mergedUsage
    rw [held.spentAttempts, held.made, if_neg (Nat.lt_irrefl _)]
    exact (Counts.empty_plus _).trans held.spentUsage

theorem Absorbed.settleFailure_iff (held : Absorbed plan absorbed state)
    (failure : CallFailure) :
    Accounted (settleFailure state failure) ↔ FailsOutside plan absorbed failure := by
  unfold FailsOutside
  by_cases evidence : failure.kind = .evidenceUncommitted
  · rw [forall_prop_of_true evidence]
    unfold settleFailure
    rw [if_pos evidence]
    by_cases settled : plan.durable = true ∧ absorbed ≠ []
    · obtain ⟨outcome, found, accounts⟩ := held.outcome settled.1 settled.2
      rw [found, and_iff_right (held.portable settled.1), and_iff_right settled]
      have empty : outcome.usage.entries = [] ↔
          ∀ attempt ∈ absorbed, attempt.usage.entries = [] := by
        rw [← billed_empty, Counts.entries_eq_nil, Counts.entries_eq_nil]
        exact ⟨accounts.usage.symm.trans, accounts.usage.trans⟩
      rw [← empty, ← marked_iff]
      constructor
      · rintro ⟨_, published, same, _, carried⟩
        rw [← List.singleton_inj.mp same] at carried
        exact carried _ rfl
      · intro carried
        refine ⟨rfl, outcome, rfl, held.dispatches ▸ accounts, ?_⟩
        intro leaving same
        rw [← CallEnding.raised.inj same]
        exact carried
    · have missing : state.durableOutcome = none := by
        apply held.unsettled
        by_cases durable : plan.durable = true
        · exact .inr (not_not.mp fun some => settled ⟨durable, some⟩)
        · exact .inl (Bool.not_eq_true _ ▸ durable)
      rw [missing]
      constructor
      · rintro ⟨_, published, same, _⟩
        cases same
      · exact fun fails => absurd fails.2.1 settled
  · rw [settleFailure_spec evidence held.dispatches (held.failedReceipt failure)]
    simp only [evidence, false_implies, true_and]

end Outside

section Entered

variable {plan : CallPlan} {state : CallState} {absorbed : List AttemptScript}
  {attempt : AttemptScript} {failure : CallFailure}

structure Entered (plan : CallPlan) (absorbed : List AttemptScript) (attempt : AttemptScript)
    (state : CallState) : Prop where
  made : state.attemptsMade = absorbed.length + 1
  spentAttempts : state.spentAttempts = absorbed.length
  spentUsage : state.spentUsage.Same (billed absorbed)
  observations : state.observations = observed absorbed
  log : Logged absorbed state.attemptLog
  agreeing : Agreeing absorbed
  last : ∀ entry ∈ state.lastAttemptEntry, entry.index ≤ absorbed.length
  waited : absorbed = [] → state.pendingBackoffMs = 0
  outcome : state.durableOutcome = none
  dispatches : state.dispatches = absorbed ++ [attempt]

theorem Absorbed.entered (held : Absorbed plan absorbed state) (attempt : AttemptScript) :
    Entered plan absorbed attempt { state with
      attemptsMade := state.attemptsMade + 1
      durableOutcome := none
      dispatches := state.dispatches ++ [attempt] } where
  made := by rw [held.made]
  spentAttempts := held.spentAttempts
  spentUsage := held.spentUsage
  observations := held.observations
  log := held.log
  agreeing := held.agreeing
  last := held.last
  waited := held.waited
  outcome := rfl
  dispatches := by rw [held.dispatches]

theorem Entered.terminalEntry (entered : Entered plan absorbed attempt state) :
    state.terminalEntry = none := by
  unfold CallState.terminalEntry
  rw [Option.filter_eq_none_iff]
  intro entry is
  have earlier := entered.last entry is
  simp only [decide_eq_true_eq, entered.made]
  omega

theorem Agreeing.append (agreeing : Agreeing absorbed)
    (agrees : attempt.observation.Agrees attempt.usage) : Agreeing (absorbed ++ [attempt]) := by
  unfold Agreeing
  rw [List.forall_mem_append]
  exact ⟨agreeing, by simpa using agrees⟩

theorem legacy_agrees (usage : Usage) : UsageObservation.legacy.Agrees usage := by
  simp [UsageObservation.Agrees, UsageObservation.legacy, Counts.empty]

theorem RefusedTurn.observation_agrees (turn : RefusedTurn) :
    (turn.observation.getD UsageObservation.legacy).Agrees turn.usage := by
  cases found : turn.observation with
  | none => exact legacy_agrees turn.usage
  | some observation => exact turn.agrees observation found

theorem attempt_built {entry : ModelCallAttempt} {observation : UsageObservation}
    (index : 1 ≤ entry.index) (evidence : entry.usageEvidence = some observation) :
    (observation.Agrees entry.usage → entry.build = some entry) ∧
      (¬observation.Agrees entry.usage → entry.build = none) := by
  have checked : entry.Checked ↔ observation.Agrees entry.usage := by
    unfold ModelCallAttempt.Checked
    rw [evidence, and_iff_right index]
    simp
  constructor
  · exact fun agrees => if_pos (checked.mpr agrees)
  · exact fun conflict => if_neg (mt checked.mp conflict)

theorem Entered.malformed_iff {turn : RefusedTurn} (entered : Entered plan absorbed attempt state)
    (ending : attempt.ending = .malformed turn) :
    Accounted (settleFailure state turn.failure) ↔ Portable (absorbed ++ [attempt]) := by
  have paid : attempt.usage = turn.usage ∧
      attempt.observation = turn.observation.getD UsageObservation.legacy := by
    unfold AttemptScript.usage AttemptScript.observation AttemptScript.paid
    rw [ending]
    exact ⟨rfl, rfl⟩
  have agrees : attempt.observation.Agrees attempt.usage := by
    rw [paid.1, paid.2]
    exact turn.observation_agrees
  have observations : state.terminalObservations turn.failure =
      observed (absorbed ++ [attempt]) := by
    unfold CallState.terminalObservations
    rw [entered.observations, observed_length, entered.made, if_pos (Nat.lt_succ_self _),
      observed_append, paid.2]
    rfl
  let entry : ModelCallAttempt :=
    { index := state.attemptsMade
      errorCode := turn.errorCode
      retryable := turn.retryable
      configRecoverable := turn.configRecoverable
      usage := turn.usage
      streamCommitted := (state.dispatches.getLast?.map (·.delivered)).getD false
      backoffMs := some state.pendingBackoffMs
      usageEvidence := some attempt.observation }
  have logged : Logged (absorbed ++ [attempt]) (state.attemptLog ++ [entry]) :=
    entered.log.append entered.made paid.1.symm rfl fun none => by
      rw [← entered.waited none]
  have made : state.attemptsMade = (absorbed ++ [attempt]).length := by
    rw [entered.made, List.length_append, List.length_singleton]
  have entries : state.terminalLog (readReceipt state turn.failure)
      (observed (absorbed ++ [attempt])) = some (state.attemptLog ++ [entry]) := by
    have last : (observed (absorbed ++ [attempt])).getLast?.map (·.observation) =
        some attempt.observation := by
      rw [observed_append, List.getLast?_concat]
      rfl
    have whole : entry.build = some entry := by
      refine (attempt_built ?_ rfl).1 ?_
      · exact Nat.succ_le_of_lt (by rw [show entry.index = _ from made]; simp)
      · rw [show entry.usage = attempt.usage from paid.1.symm]
        exact agrees
    unfold CallState.terminalLog
    rw [entered.log.length, entered.made, if_pos (Nat.lt_succ_self _), entered.terminalEntry, last]
    dsimp only
    rw [← entered.made]
    exact congrArg (Option.map _) whole
  have usage : (mergedUsage state.spentUsage
      (state.terminalUsage (readReceipt state turn.failure))).Same
        (billed (absorbed ++ [attempt])) := by
    unfold CallState.terminalUsage mergedUsage
    rw [entered.spentAttempts, entered.made, if_pos (Nat.lt_succ_self _), entered.terminalEntry,
      Option.map_none, Option.getD_none, readReceipt_usage, billed_append, paid.1]
    exact (Counts.plus_comm _ _).trans (entered.spentUsage.plus (Counts.Same.refl _))
  have built := failedReceipt_spec (entered.agreeing.append agrees) logged made observations
    entries usage
  rw [settleFailure_spec (by simp [RefusedTurn.failure]) entered.dispatches built]
  refine and_iff_left ?_
  intro nothing
  have here := nothing attempt (by simp)
  rwa [paid.1] at here

structure Pending (plan : CallPlan) (absorbed : List AttemptScript) (attempt : AttemptScript)
    (entry : ModelCallAttempt) (state : CallState) : Prop where
  made : state.attemptsMade = absorbed.length + 1
  spentAttempts : state.spentAttempts = absorbed.length
  spentUsage : state.spentUsage.Same (billed absorbed)
  observations : state.observations = observed (absorbed ++ [attempt])
  log : Logged absorbed state.attemptLog
  logged : Logged (absorbed ++ [attempt]) (state.attemptLog ++ [entry])
  agreeing : Agreeing (absorbed ++ [attempt])
  last : state.lastAttemptEntry = some entry
  index : entry.index = absorbed.length + 1
  usage : entry.usage = attempt.usage
  dispatches : state.dispatches = absorbed ++ [attempt]

variable {entry : ModelCallAttempt}

theorem Pending.terminalEntry (pending : Pending plan absorbed attempt entry state) :
    state.terminalEntry = some entry := by
  unfold CallState.terminalEntry
  rw [pending.last, pending.made]
  simp [Option.filter, pending.index]

theorem Pending.size (pending : Pending plan absorbed attempt entry state) :
    state.attemptsMade = (absorbed ++ [attempt]).length := by
  rw [pending.made, List.length_append, List.length_singleton]

theorem Pending.bill (pending : Pending plan absorbed attempt entry state) :
    (mergedUsage state.spentUsage entry.usage).Same (billed (absorbed ++ [attempt])) := by
  rw [mergedUsage, billed_append, pending.usage]
  exact (Counts.plus_comm _ _).trans (pending.spentUsage.plus (Counts.Same.refl _))

theorem Pending.settleFailure_iff (pending : Pending plan absorbed attempt entry state)
    (ordinary : failure.kind ≠ .evidenceUncommitted) :
    Accounted (settleFailure state failure) ↔ Portable (absorbed ++ [attempt]) ∧
      ((∀ dispatch ∈ absorbed ++ [attempt], dispatch.usage.entries = []) →
        failure.usage.entries = []) := by
  refine settleFailure_spec ordinary pending.dispatches
    (failedReceipt_spec pending.agreeing pending.logged pending.size ?_ ?_ ?_)
  · unfold CallState.terminalObservations
    rw [pending.observations, observed_length, pending.size, if_neg (Nat.lt_irrefl _)]
  · unfold CallState.terminalLog
    rw [pending.log.length, pending.made, if_pos (Nat.lt_succ_self _), pending.terminalEntry]
  · unfold CallState.terminalUsage
    rw [pending.spentAttempts, pending.made, if_pos (Nat.lt_succ_self _), pending.terminalEntry]
    exact pending.bill

theorem Pending.settleWhole_iff (pending : Pending plan absorbed attempt entry state)
    (ordinary : failure.kind ≠ .evidenceUncommitted)
    (whole : failure.usage.Same (billed (absorbed ++ [attempt]))) :
    Accounted (settleFailure state failure) ↔ Portable (absorbed ++ [attempt]) := by
  rw [pending.settleFailure_iff ordinary]
  refine and_iff_left ?_
  intro nothing
  exact Counts.entries_eq_nil.mpr
    (whole.trans (Counts.entries_eq_nil.mp (billed_empty.mpr nothing)))

theorem afterConstructor_unaccounted (result : CallResult) :
    ¬Accounted result.afterConstructor := by
  intro accounted
  exact absurd accounted.built (by simp [CallResult.afterConstructor])

theorem Pending.settled (pending : Pending plan absorbed attempt entry state)
    (outcome : ModelCallReceipt) :
    Pending plan absorbed attempt entry { state with durableOutcome := some outcome } :=
  ⟨pending.made, pending.spentAttempts, pending.spentUsage, pending.observations, pending.log,
    pending.logged, pending.agreeing, pending.last, pending.index, pending.usage,
    pending.dispatches⟩

def Settles (plan : CallPlan) (absorbed : List AttemptScript) (attempt : AttemptScript)
    (entry : ModelCallAttempt) (failure : CallFailure) : Except CallResult CallState → Prop
  | .error result => (Accounted result ↔ Portable (absorbed ++ [attempt])) ∧
      (Portable (absorbed ++ [attempt]) → attempt.unsettled failure)
  | .ok settled => Pending plan absorbed attempt entry settled ∧ ¬attempt.unsettled failure ∧
      Portable (absorbed ++ [attempt]) ∧
      ∃ outcome, settled.durableOutcome = some outcome ∧ Accounts outcome (absorbed ++ [attempt])

theorem settleRefusal_spec (pending : Pending plan absorbed attempt entry state)
    (failure : CallFailure) :
    Settles plan absorbed attempt entry failure (settleRefusal state attempt entry failure) := by
  unfold settleRefusal
  by_cases portable : Portable (absorbed ++ [attempt])
  · have evidence : UsageEvidence.build state.observations =
        some ⟨observed (absorbed ++ [attempt])⟩ := by
      rw [pending.observations]
      exact build_portable portable
    rw [evidence]
    dsimp only
    have bill : (if state.spentUsage.entries = [] then entry.usage
        else mergedUsage state.spentUsage entry.usage).Same (billed (absorbed ++ [attempt])) := by
      split
      next nothing =>
        have free := Counts.entries_eq_nil.mp nothing
        refine Counts.Same.trans ?_ pending.bill
        exact ((Counts.empty_plus _).symm.trans
          (free.symm.plus (Counts.Same.refl _))).trans (Counts.plus_comm _ _)
      · exact pending.bill
    generalize (if state.spentUsage.entries = [] then entry.usage
        else mergedUsage state.spentUsage entry.usage) = usage at bill ⊢
    split
    next other =>
      exact ⟨pending.settleWhole_iff (by simp [dispatchUnknown]) bill, fun _ => .inl other⟩
    next refused =>
      rw [not_not] at refused
      let outcome : ModelCallReceipt := { ModelCallReceipt.initial.withError failure with
        attempts := state.attemptsMade
        attemptLog := state.attemptLog ++ [entry]
        usage := usage
        usageEvidence := some ⟨observed (absorbed ++ [attempt])⟩ }
      have accounts : outcome.build = some outcome ∧ Accounts outcome (absorbed ++ [attempt]) :=
        receipt_built pending.agreeing pending.logged pending.size rfl bill rfl
      rw [show ModelCallReceipt.build _ = some outcome from accounts.1]
      dsimp only
      split
      next unprepared =>
        rw [Bool.not_eq_true] at unprepared
        exact ⟨pending.settleWhole_iff (by simp [dispatchUnknown]) bill,
          fun _ => .inr (.inl unprepared)⟩
      next prepared =>
        rw [not_not] at prepared
        cases settlement : attempt.settlement with
        | committed =>
          refine ⟨pending.settled outcome, ?_, portable, outcome, rfl, accounts.2⟩
          simp [AttemptScript.unsettled, refused, prepared, settlement]
        | evidenceUncommitted =>
          refine ⟨iff_of_true ?_ portable, fun _ => .inr (.inr (by simp [settlement]))⟩
          refine ⟨rfl, outcome, rfl, pending.dispatches ▸ accounts.2, ?_⟩
          intro leaving same
          rw [← CallEnding.raised.inj same]
          exact marked_same id
        | uncommitted =>
          exact ⟨(pending.settled outcome).settleWhole_iff (by simp [dispatchUnknown]) bill,
            fun _ => .inr (.inr (by simp [settlement]))⟩
  · rw [pending.observations, build_overflow portable]
    exact ⟨iff_of_false (afterConstructor_unaccounted _) portable,
      fun possible => absurd possible portable⟩

def FailsSoundly (plan : CallPlan) (absorbed : List AttemptScript) (attempt : AttemptScript)
    (failure : CallFailure) (later : Prop) : Prop :=
  attempt.observation.Agrees attempt.usage ∧ Portable (absorbed ++ [attempt]) ∧
    if attempt.terminal plan (absorbed ++ [attempt]).length failure then
      plan.durable = false → failure.kind ≠ .evidenceUncommitted
    else
      match attempt.interrupted with
      | some boundary => FailsOutside plan (absorbed ++ [attempt]) boundary
      | none => later

def Fails (plan : CallPlan) (absorbed : List AttemptScript) (attempt : AttemptScript)
    (failure : CallFailure) : Except CallResult CallState → Prop
  | .error result => ∀ later, Accounted result ↔ FailsSoundly plan absorbed attempt failure later
  | .ok next => Absorbed plan (absorbed ++ [attempt]) next ∧
      attempt.observation.Agrees attempt.usage ∧
      ¬attempt.terminal plan (absorbed ++ [attempt]).length failure ∧ attempt.interrupted = none

theorem failsSoundly_terminal {later : Prop}
    (agrees : attempt.observation.Agrees attempt.usage)
    (terminal : attempt.terminal plan (absorbed ++ [attempt]).length failure) :
    FailsSoundly plan absorbed attempt failure later ↔ Portable (absorbed ++ [attempt]) ∧
      (plan.durable = false → failure.kind ≠ .evidenceUncommitted) := by
  unfold FailsSoundly
  rw [if_pos terminal, and_iff_right agrees]

theorem Pending.absorb (pending : Pending plan absorbed attempt entry state)
    (portable : plan.durable = true → Portable (absorbed ++ [attempt]))
    (outcome : plan.durable = true →
      ∃ outcome, state.durableOutcome = some outcome ∧ Accounts outcome (absorbed ++ [attempt]))
    (unsettled : plan.durable = false → state.durableOutcome = none) (waited : Nat) :
    Absorbed plan (absorbed ++ [attempt]) { state with
      spentUsage := mergedUsage state.spentUsage entry.usage
      spentAttempts := state.attemptsMade
      attemptLog := state.attemptLog ++ [entry]
      pendingBackoffMs := waited } where
  made := pending.size
  spentAttempts := pending.size
  spentUsage := pending.bill
  observations := pending.observations
  log := pending.logged
  agreeing := pending.agreeing
  last := by
    intro held is
    rw [pending.last, Option.mem_some_iff] at is
    have last := pending.index
    rw [is] at last
    exact Nat.le_of_eq (last.trans (by simp))
  waited none := by simp at none
  outcome durable _ := outcome durable
  unsettled := by
    rintro (bare | none)
    · exact unsettled bare
    · simp at none
  portable := portable
  dispatches := pending.dispatches

theorem final_callerCancelled {attemptsMade : Nat} (cancelled : failure.kind = .callerCancelled) :
    attempt.final plan attemptsMade failure = true := by
  simp [AttemptScript.final, CallFailure.kernelRetryable, cancelled]

theorem absorbAttempt_spec (pending : Pending plan absorbed attempt entry state)
    (usage : failure.usage = attempt.usage)
    (settles : ¬(plan.durable = true ∧ failure.kind ≠ .callerCancelled ∧
      attempt.unsettled failure))
    (durable : plan.durable = true → failure.kind ≠ .callerCancelled →
      Portable (absorbed ++ [attempt]) ∧
        ∃ outcome, state.durableOutcome = some outcome ∧ Accounts outcome (absorbed ++ [attempt]))
    (bare : plan.durable = false → state.durableOutcome = none) :
    Fails plan absorbed attempt failure (absorbAttempt plan state attempt entry failure) := by
  have agrees : attempt.observation.Agrees attempt.usage :=
    pending.agreeing attempt (by simp)
  unfold absorbAttempt
  by_cases final : attempt.final plan state.attemptsMade failure = true
  · rw [if_pos final]
    intro later
    rw [failsSoundly_terminal agrees (.inr (pending.size ▸ final))]
    by_cases evidence : failure.kind = .evidenceUncommitted
    · have standalone : plan.durable = false := by
        rw [← Bool.not_eq_true]
        intro hooked
        exact settles ⟨hooked, by simp [evidence], .inl (by simp [evidence])⟩
      refine iff_of_false ?_ fun sound => sound.2 standalone evidence
      unfold settleFailure
      rw [if_pos evidence, bare standalone]
      rintro ⟨_, published, same, _⟩
      cases same
    · rw [pending.settleFailure_iff evidence]
      refine and_congr_right fun _ => iff_of_true ?_ fun _ => evidence
      intro nothing
      rw [usage]
      exact nothing attempt (by simp)
  · rw [if_neg final]
    have terminal : ¬attempt.terminal plan (absorbed ++ [attempt]).length failure := by
      rintro (hooked | last)
      · exact settles hooked
      · exact final (by rw [pending.size]; exact last)
    have returning : failure.kind ≠ .callerCancelled := fun cancelled =>
      final (final_callerCancelled cancelled)
    have next := pending.absorb (fun hooked => (durable hooked returning).1)
      (fun hooked => (durable hooked returning).2) bare
    dsimp only
    cases interruption : attempt.interrupted with
    | none => exact ⟨next attempt.backoffMs, agrees, terminal, interruption⟩
    | some boundary =>
      intro later
      unfold FailsSoundly
      rw [if_neg terminal, interruption, and_iff_right agrees]
      have outside := (next state.pendingBackoffMs).settleFailure_iff boundary
      exact outside.trans (and_iff_right_of_imp fun fails => fails.1).symm

theorem dispatchFailed_spec (failure : CallFailure)
    (entered : Entered plan absorbed attempt state)
    (usage : failure.usage = attempt.usage)
    (observation : failure.observation.getD UsageObservation.legacy = attempt.observation) :
    Fails plan absorbed attempt failure (dispatchFailed plan state attempt failure) := by
  unfold dispatchFailed
  dsimp only
  rw [observation]
  let entry : ModelCallAttempt :=
    { index := state.attemptsMade
      errorCode := failure.errorCode
      retryable := failure.retryable
      configRecoverable := failure.configRecoverable
      usage := failure.usage
      streamCommitted := attempt.delivered
      backoffMs := some state.pendingBackoffMs
      usageEvidence := some attempt.observation }
  have index : 1 ≤ entry.index := by
    rw [show entry.index = _ from entered.made]
    exact Nat.le_add_left 1 _
  obtain ⟨built, unbuilt⟩ := attempt_built index rfl
  rw [show entry.usage = attempt.usage from usage] at built unbuilt
  by_cases agrees : attempt.observation.Agrees attempt.usage
  · rw [show ModelCallAttempt.build _ = some entry from built agrees]
    dsimp only
    have pending : Pending plan absorbed attempt entry { state with
        observations := state.observations ++ [⟨state.attemptsMade, attempt.observation⟩]
        lastAttemptEntry := some entry } :=
      { made := entered.made
        spentAttempts := entered.spentAttempts
        spentUsage := entered.spentUsage
        observations := by rw [observed_append, entered.observations, entered.made]
        log := entered.log
        logged := entered.log.append entered.made usage rfl fun none => by
          rw [← entered.waited none]
        agreeing := entered.agreeing.append agrees
        last := rfl
        index := entered.made
        usage := usage
        dispatches := entered.dispatches }
    by_cases hooked : plan.durable = true ∧ failure.kind ≠ .callerCancelled
    · rw [if_pos hooked]
      have settles := settleRefusal_spec pending failure
      cases settled : settleRefusal _ attempt entry failure with
      | error result =>
        rw [settled] at settles
        intro later
        by_cases portable : Portable (absorbed ++ [attempt])
        · rw [failsSoundly_terminal agrees (.inl ⟨hooked.1, hooked.2, settles.2 portable⟩),
            settles.1]
          exact (and_iff_left fun bare => absurd (hooked.1.symm.trans bare) (by simp)).symm
        · exact iff_of_false (mt settles.1.mp portable) fun sound => portable sound.2.1
      | ok next =>
        rw [settled] at settles
        obtain ⟨kept, unsettled, portable, outcome⟩ := settles
        exact absorbAttempt_spec kept usage (fun ends => unsettled ends.2.2)
          (fun _ _ => ⟨portable, outcome⟩) fun bare => absurd (hooked.1.symm.trans bare) (by simp)
    · rw [if_neg hooked]
      rw [not_and_or, not_not, Bool.not_eq_true] at hooked
      refine absorbAttempt_spec pending usage ?_ ?_ fun _ => entered.outcome
      · rintro ⟨durable, returning, _⟩
        rcases hooked with bare | cancelled
        · exact absurd (durable.symm.trans bare) (by simp)
        · exact returning cancelled
      · intro durable returning
        rcases hooked with bare | cancelled
        · exact absurd (durable.symm.trans bare) (by simp)
        · exact absurd cancelled returning
  · rw [show ModelCallAttempt.build _ = none from unbuilt agrees]
    exact fun later => iff_of_false (afterConstructor_unaccounted _) fun sound => agrees sound.1

end Entered

section Calls

variable {plan : CallPlan} {state : CallState} {absorbed : List AttemptScript}

variable {attempt : AttemptScript}

theorem completedReceipt_spec {turn : AnsweredTurn} (entered : Entered plan absorbed attempt state)
    (ending : attempt.ending = .answered turn) :
    (Portable (absorbed ++ [attempt]) → ∃ receipt, completedReceipt state attempt turn =
      some receipt ∧ Accounts receipt (absorbed ++ [attempt])) ∧
    (¬Portable (absorbed ++ [attempt]) → completedReceipt state attempt turn = none) := by
  have usage : attempt.usage = turn.report.usage := by
    unfold AttemptScript.usage AttemptScript.paid
    rw [ending]
  have observation : attempt.observation = turn.report.observation := by
    unfold AttemptScript.observation AttemptScript.paid
    rw [ending]
  have agrees : attempt.observation.Agrees attempt.usage := by
    rw [usage, observation]
    exact turn.report.agrees
  let entry : ModelCallAttempt :=
    { index := state.attemptsMade
      errorCode := ""
      retryable := false
      configRecoverable := false
      usage := turn.report.usage
      streamCommitted := attempt.delivered
      backoffMs := some state.pendingBackoffMs
      usageEvidence := some turn.report.observation }
  have whole : entry.build = some entry := by
    refine (attempt_built ?_ rfl).1 turn.report.agrees
    rw [show entry.index = _ from entered.made]
    exact Nat.le_add_left 1 _
  have logged : Logged (absorbed ++ [attempt]) (state.attemptLog ++ [entry]) :=
    entered.log.append entered.made usage.symm (observation ▸ rfl) fun none => by
      rw [← entered.waited none]
  have observations : state.observations ++ [⟨state.attemptsMade, turn.report.observation⟩] =
      observed (absorbed ++ [attempt]) := by
    rw [observed_append, entered.observations, entered.made, observation]
  have bill : (if state.spentUsage.entries = [] then turn.report.usage
      else mergedUsage state.spentUsage turn.report.usage).Same
        (billed (absorbed ++ [attempt])) := by
    rw [billed_append, usage]
    split
    next nothing =>
      have free := Counts.entries_eq_nil.mp nothing
      exact (Counts.empty_plus _).symm.trans
        ((free.symm.trans entered.spentUsage).plus (Counts.Same.refl _))
    · exact (Counts.plus_comm _ _).trans (entered.spentUsage.plus (Counts.Same.refl _))
  have steps : completedReceipt state attempt turn =
      (UsageEvidence.build (observed (absorbed ++ [attempt]))).bind fun evidence =>
        ModelCallReceipt.build
          { ModelCallReceipt.initial with
            stopReason := turn.stopReason
            attempts := state.attemptsMade
            attemptLog := state.attemptLog ++ [entry]
            usage := if state.spentUsage.entries = [] then turn.report.usage
              else mergedUsage state.spentUsage turn.report.usage
            usageEvidence := some evidence } := by
    unfold completedReceipt
    rw [initial_built rfl rfl]
    simp only [Option.bind_eq_bind, Option.bind_some]
    rw [initial_built rfl rfl]
    simp only [Option.bind_some]
    rw [show ModelCallAttempt.build _ = some entry from whole, observations]
    rfl
  rw [steps]
  constructor
  · intro portable
    rw [build_portable portable, Option.bind_some]
    refine ⟨_, receipt_built (entered.agreeing.append agrees) logged ?_ rfl bill rfl⟩
    exact entered.made.trans (by simp)
  · intro overflow
    rw [build_overflow overflow]
    rfl

theorem settleAnswer_iff {turn : AnsweredTurn} (entered : Entered plan absorbed attempt state)
    (ending : attempt.ending = .answered turn) :
    Accounted (settleAnswer plan state attempt turn) ↔
      Portable (absorbed ++ [attempt]) ∧ (plan.durable = true →
        attempt.prepared = true ∧ attempt.recordable = true ∧
          attempt.settlement ≠ .uncommitted) := by
  unfold settleAnswer
  by_cases portable : Portable (absorbed ++ [attempt])
  · obtain ⟨receipt, found, accounts⟩ := (completedReceipt_spec entered ending).1 portable
    rw [found, and_iff_right portable]
    have whole : Accounts receipt state.dispatches := entered.dispatches ▸ accounts
    have returned : Accounted ⟨[receipt], state.dispatches, .returned, false⟩ :=
      ⟨rfl, receipt, rfl, whole, by simp⟩
    have unpublished : ∀ failure, ¬Accounted ⟨[], state.dispatches, .raised failure, false⟩ := by
      rintro failure ⟨_, published, same, _⟩
      cases same
    dsimp only
    cases durable : plan.durable with
    | false => exact iff_of_true returned (by simp)
    | true =>
      rw [if_neg (by simp), forall_prop_of_true rfl]
      by_cases lost : ¬attempt.prepared = true ∨ ¬attempt.recordable = true
      · rw [if_pos lost]
        refine iff_of_false (unpublished _) ?_
        rintro ⟨prepared, recordable, _⟩
        exact lost.elim (absurd prepared) (absurd recordable)
      · rw [if_neg lost]
        rw [not_or, not_not, not_not] at lost
        rw [← and_assoc, and_iff_right lost]
        cases settlement : attempt.settlement with
        | committed => exact iff_of_true returned (by simp)
        | evidenceUncommitted =>
          refine iff_of_true ⟨rfl, receipt, rfl, whole, ?_⟩ (by simp)
          intro leaving same
          rw [← CallEnding.raised.inj same]
          exact Counts.Same.refl _
        | uncommitted => exact iff_of_false (unpublished _) (by simp)
  · rw [(completedReceipt_spec entered ending).2 portable]
    refine iff_of_false ?_ fun sound => portable sound.1
    exact fun accounted => absurd accounted.built (by simp)

theorem dispatched_same (failure : CallFailure) (reports : List UsageReport) :
    (failure.dispatched reports).kind = failure.kind ∧
      (failure.dispatched reports).kernelRetryable = failure.kernelRetryable := by
  unfold CallFailure.dispatched CallFailure.marked
  dsimp only
  split <;> exact ⟨rfl, rfl⟩

theorem terminal_dispatched (attempt : AttemptScript) (attemptsMade : Nat)
    (failure : CallFailure) (reports : List UsageReport) :
    attempt.terminal plan attemptsMade (failure.dispatched reports) ↔
      attempt.terminal plan attemptsMade failure := by
  unfold AttemptScript.terminal AttemptScript.unsettled AttemptScript.final
  rw [(dispatched_same failure reports).1, (dispatched_same failure reports).2]

theorem failsSoundly_dispatched {failure : CallFailure} {later : Prop}
    (reports : List UsageReport) :
    FailsSoundly plan absorbed attempt (failure.dispatched reports) later ↔
      FailsSoundly plan absorbed attempt failure later := by
  unfold FailsSoundly
  by_cases terminal : attempt.terminal plan (absorbed ++ [attempt]).length failure
  · rw [if_pos terminal, if_pos ((terminal_dispatched _ _ _ _).mpr terminal),
      (dispatched_same failure reports).1]
  · rw [if_neg terminal, if_neg (mt (terminal_dispatched _ _ _ _).mp terminal)]

theorem soundFrom_portable {passes : Nat} (sound : SoundFrom plan (passes + 1) absorbed) :
    Portable absorbed := by
  unfold SoundFrom at sound
  dsimp only at sound
  split at sound
  · exact sound.1
  split at sound
  · exact sound.1.start
  · exact sound.start
  · exact sound.2.1.start

theorem not_exhausted {attemptsMade : Nat} {failure : CallFailure}
    (going : ¬attempt.terminal plan attemptsMade failure) :
    attemptsMade < max 1 (plan.maxAttempts.getD 1) := by
  have further : plan.exhausted attemptsMade = false := by
    rw [← Bool.not_eq_true]
    intro exhausted
    exact going (.inr (by simp [AttemptScript.final, exhausted]))
  unfold CallPlan.exhausted at further
  cases most : plan.maxAttempts with
  | none => simp [most] at further
  | some most =>
    simp only [most, decide_eq_false_iff_not] at further
    simp only [Option.getD_some]
    omega

theorem malformed_fails {turn : RefusedTurn} {later : Prop} (durable : plan.durable = true)
    (ending : attempt.ending = .malformed turn) :
    FailsSoundly plan absorbed attempt turn.failure later ↔ Portable (absorbed ++ [attempt]) := by
  have agrees : attempt.observation.Agrees attempt.usage := by
    unfold AttemptScript.observation AttemptScript.usage AttemptScript.paid
    rw [ending]
    exact turn.observation_agrees
  have terminal : attempt.terminal plan (absorbed ++ [attempt]).length turn.failure :=
    .inl ⟨durable, by simp [RefusedTurn.failure], .inl (by simp [RefusedTurn.failure])⟩
  rw [failsSoundly_terminal agrees terminal]
  exact and_iff_left fun bare => absurd (durable.symm.trans bare) (by simp)

theorem attemptLoop_iff (passes : Nat) (held : Absorbed plan absorbed state)
    (enough : absorbed.length + passes = max 1 (plan.maxAttempts.getD 1)) (left : passes ≠ 0) :
    ∃ result, attemptLoop plan passes state = some result ∧
      (Accounted result ↔ SoundFrom plan passes absorbed) := by
  induction passes generalizing absorbed state with
  | zero => exact absurd rfl left
  | succ passes ih =>
    have script : plan.script state.attemptsMade = plan.script absorbed.length := by
      rw [held.made]
    unfold attemptLoop attemptOnce SoundFrom
    dsimp only
    rw [script]
    generalize plan.script absorbed.length = attempt
    have entered := held.entered attempt
    cases attempt.before with
    | some failure => exact ⟨_, rfl, held.settleFailure_iff failure⟩
    | none =>
      dsimp only
      cases ending : attempt.ending with
      | answered turn => exact ⟨_, rfl, settleAnswer_iff entered ending⟩
      | malformed turn =>
        dsimp only
        cases durable : plan.durable with
        | false =>
          rw [if_neg (by simp)]
          exact ⟨_, rfl, entered.malformed_iff ending⟩
        | true =>
          rw [if_pos rfl]
          have fails := dispatchFailed_spec turn.failure entered
            (by simp [RefusedTurn.failure, AttemptScript.usage, AttemptScript.paid, ending])
            (by simp [RefusedTurn.failure, AttemptScript.observation, AttemptScript.paid, ending])
          cases handled : dispatchFailed plan _ attempt turn.failure with
          | error result =>
            rw [handled] at fails
            exact ⟨result, rfl, (fails True).trans (malformed_fails durable ending)⟩
          | ok next =>
            rw [handled] at fails
            refine absurd (.inl ⟨durable, ?_, .inl ?_⟩) fails.2.2.1
            · simp [RefusedTurn.failure]
            · simp [RefusedTurn.failure]
      | raised failure =>
        dsimp only
        have fails := dispatchFailed_spec (failure.dispatched attempt.reports) entered
          (by simp [AttemptScript.usage, AttemptScript.paid, ending])
          (by simp [AttemptScript.observation, AttemptScript.paid, ending])
        cases handled : dispatchFailed plan _ attempt (failure.dispatched attempt.reports) with
        | error result =>
          rw [handled] at fails
          have here := fails (SoundFrom plan passes (absorbed ++ [attempt]))
          exact ⟨result, rfl, here.trans (failsSoundly_dispatched attempt.reports)⟩
        | ok next =>
          rw [handled] at fails
          obtain ⟨absorbing, agrees, going, uninterrupted⟩ := fails
          rw [terminal_dispatched] at going
          have more := not_exhausted going
          rw [List.length_append, List.length_singleton] at more
          have remaining : passes ≠ 0 := by omega
          obtain ⟨result, found, accounted⟩ := ih absorbing
            (by rw [List.length_append, List.length_singleton]; omega) remaining
          refine ⟨result, found, accounted.trans ?_⟩
          rw [if_neg going, uninterrupted, and_iff_right agrees]
          obtain ⟨fewer, rfl⟩ := Nat.exists_eq_succ_of_ne_zero remaining
          exact (and_iff_right_of_imp soundFrom_portable).symm

theorem acall_accounted (plan : CallPlan) :
    ∃ result, acallOwned plan = some result ∧ (Accounted result ↔ plan.Sound) := by
  unfold acallOwned CallPlan.Sound
  cases plan.refused with
  | some failure => exact ⟨_, rfl, (initial_absorbed plan).settleFailure_iff failure⟩
  | none => exact attemptLoop_iff _ (initial_absorbed plan) (by simp) (by omega)

def unsettledAnswer : CallPlan where
  durable := true
  maxAttempts := none
  refused := none
  script _ :=
    { before := none
      reports := []
      delivered := false
      ending := .answered ⟨"end_turn", Counts.empty, UsageObservation.legacy, legacy_agrees _⟩
      prepared := true
      recordable := true
      settlement := .uncommitted
      pastDeadline := false
      interrupted := none
      backoffMs := 0 }

theorem unsettled_unpublished :
    ¬∀ plan, ∃ result, acallOwned plan = some result ∧ Accounted result := by
  intro always
  obtain ⟨result, found, accounted⟩ := always unsettledAnswer
  have silent : (acallOwned unsettledAnswer).map (·.published) = some [] := by decide +kernel
  obtain ⟨receipt, published, _⟩ := accounted.receipt
  rw [found, Option.map_some, published] at silent
  simp at silent

end Calls

end MonoidKernel.CallReceipt
