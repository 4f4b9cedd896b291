import Mathlib.Data.List.Induction
import MonoidKernel.Core.ModelCallLoop

set_option autoImplicit false

namespace MonoidKernel.CallReceipt

open Library

section Dispatches

def AttemptScript.paid (attempt : AttemptScript) : Usage × UsageObservation :=
  match attempt.ending with
  | .answered turn => (turn.report.usage, turn.report.observation)
  | .malformed turn => (turn.usage, turn.observation.getD UsageObservation.legacy)
  | .raised failure =>
    let carried := failure.dispatched attempt.reports
    (carried.usage, carried.observation.getD UsageObservation.legacy)

def AttemptScript.usage (attempt : AttemptScript) : Usage := attempt.paid.1

def AttemptScript.observation (attempt : AttemptScript) : UsageObservation := attempt.paid.2

def billed (dispatches : List AttemptScript) : Usage :=
  Counts.sum (dispatches.map AttemptScript.usage)

def observed (dispatches : List AttemptScript) : List UsageEvidenceAttempt :=
  (dispatches.zipIdx 1).map fun numbered => ⟨numbered.2, numbered.1.observation⟩

def Portable (dispatches : List AttemptScript) : Prop :=
  Reportable (Counts.sum (dispatches.map (·.observation.reported)))

def Agreeing (dispatches : List AttemptScript) : Prop :=
  ∀ attempt ∈ dispatches, attempt.observation.Agrees attempt.usage

structure Logged (dispatches : List AttemptScript) (log : List ModelCallAttempt) : Prop where
  indexed : log.map (·.index) = List.range' 1 dispatches.length
  unwaited : ∀ entry ∈ log.head?, ∀ waited ∈ entry.backoffMs, waited = 0
  itemized : log.map (fun entry => (entry.usage, entry.usageEvidence)) =
    dispatches.map fun attempt => (attempt.usage, some attempt.observation)

structure Accounts (receipt : ModelCallReceipt) (dispatches : List AttemptScript) : Prop where
  attempts : receipt.attempts = dispatches.length
  usage : receipt.usage.Same (billed dispatches)
  log : receipt.attemptLog = [] ∨
    receipt.attemptLog.map (·.index) = List.range' 1 receipt.attempts ∧
      (Counts.sum (receipt.attemptLog.map (·.usage))).Same receipt.usage

-- One receipt was published, it accounts for every entry of the adapter, a failure leaves with its
-- usage, and every record was built.
structure Accounted (result : CallResult) : Prop where
  built : result.unbuilt = false
  receipt : ∃ receipt, result.published = [receipt] ∧ Accounts receipt result.dispatches ∧
    ∀ failure, result.ending = .raised failure → failure.usage.Same receipt.usage

end Dispatches

section Conditions

variable (plan : CallPlan)

-- A failure outside of any dispatch is no evidence error of a settlement that never was, and
-- carries no bill that is not the call's.
def FailsOutside (absorbed : List AttemptScript) (failure : CallFailure) : Prop :=
  Portable absorbed ∧
    (failure.kind = .evidenceUncommitted → plan.durable = true ∧ absorbed ≠ []) ∧
    ((∀ attempt ∈ absorbed, attempt.usage.entries = []) → failure.usage.entries = [])

def AttemptScript.unsettled (attempt : AttemptScript) (failure : CallFailure) : Prop :=
  failure.kind ≠ .refused ∨ attempt.prepared = false ∨ attempt.settlement ≠ .committed

instance (attempt : AttemptScript) (failure : CallFailure) :
    Decidable (attempt.unsettled failure) :=
  inferInstanceAs (Decidable (_ ∨ _))

def AttemptScript.terminal (attempt : AttemptScript) (attemptsMade : Nat)
    (failure : CallFailure) : Prop :=
  (plan.durable = true ∧ failure.kind ≠ .callerCancelled ∧ attempt.unsettled failure) ∨
    attempt.final plan attemptsMade failure = true

instance (attempt : AttemptScript) (attemptsMade : Nat) (failure : CallFailure) :
    Decidable (attempt.terminal plan attemptsMade failure) :=
  inferInstanceAs (Decidable (_ ∨ _))

def SoundFrom : Nat → List AttemptScript → Prop
  | 0, _ => True
  | passes + 1, absorbed =>
    let attempt := plan.script absorbed.length
    let dispatches := absorbed ++ [attempt]
    match attempt.before with
    | some failure => FailsOutside plan absorbed failure
    | none =>
      match attempt.ending with
      | .answered _ =>
        Portable dispatches ∧ (plan.durable = true →
          attempt.prepared = true ∧ attempt.recordable = true ∧
            attempt.settlement ≠ .uncommitted)
      | .malformed _ => Portable dispatches
      | .raised failure =>
        attempt.observation.Agrees attempt.usage ∧ Portable dispatches ∧
          if attempt.terminal plan dispatches.length failure then
            plan.durable = false → failure.kind ≠ .evidenceUncommitted
          else
            match attempt.interrupted with
            | some boundary => FailsOutside plan dispatches boundary
            | none => SoundFrom passes dispatches

def CallPlan.Sound : Prop :=
  match plan.refused with
  | some failure => FailsOutside plan [] failure
  | none => SoundFrom plan (max 1 (plan.maxAttempts.getD 1)) []

end Conditions

section Receipts

variable {dispatches : List AttemptScript} {log : List ModelCallAttempt}

theorem observed_append (absorbed : List AttemptScript) (attempt : AttemptScript) :
    observed (absorbed ++ [attempt]) =
      observed absorbed ++ [⟨absorbed.length + 1, attempt.observation⟩] := by
  simp [observed, List.zipIdx_append, Nat.add_comm]

theorem observed_length (dispatches : List AttemptScript) :
    (observed dispatches).length = dispatches.length := by
  simp [observed]

theorem observed_index (dispatches : List AttemptScript) :
    (observed dispatches).map (·.index) = List.range' 1 dispatches.length := by
  induction dispatches using List.reverseRecOn with
  | nil => rfl
  | append_singleton earlier last ih =>
    rw [observed_append, List.map_append, ih, List.length_append, List.length_singleton,
      List.range'_concat]
    simp [Nat.add_comm]

theorem observed_map (dispatches : List AttemptScript) :
    (observed dispatches).map (·.observation) = dispatches.map AttemptScript.observation := by
  induction dispatches using List.reverseRecOn with
  | nil => rfl
  | append_singleton earlier last ih => simp [observed_append, ih]

theorem observed_reported (dispatches : List AttemptScript) :
    (UsageEvidence.mk (observed dispatches)).reported =
      Counts.sum (dispatches.map (·.observation.reported)) := by
  unfold UsageEvidence.reported
  dsimp only
  have same := congrArg (List.map UsageObservation.reported) (observed_map dispatches)
  rw [List.map_map, List.map_map] at same
  exact congrArg Counts.sum same

theorem observed_checked (dispatches : List AttemptScript) :
    UsageEvidence.Checked ⟨observed dispatches⟩ ↔ Portable dispatches := by
  unfold UsageEvidence.Checked
  rw [observed_reported]
  exact and_iff_right (by rw [observed_index, observed_length])

theorem build_portable (portable : Portable dispatches) :
    UsageEvidence.build (observed dispatches) = some ⟨observed dispatches⟩ :=
  if_pos ((observed_checked dispatches).mpr portable)

theorem build_overflow (overflow : ¬Portable dispatches) :
    UsageEvidence.build (observed dispatches) = none :=
  if_neg (mt (observed_checked dispatches).mp overflow)

variable {observation : UsageObservation} {usage : Usage}

theorem UsageObservation.Agrees.get? {key : String} {count : Nat}
    (agrees : observation.Agrees usage) (found : observation.reported.get? key = some count) :
    usage.count key = count :=
  agrees _ (Counts.mem_of_get? found)

theorem UsageObservation.Agrees.count_le (agrees : observation.Agrees usage) (key : String) :
    observation.reported.count key ≤ usage.count key := by
  cases found : observation.reported.get? key with
  | none => simp [Counts.count, found]
  | some count =>
    have reported : observation.reported.count key = count := by simp [Counts.count, found]
    exact Nat.le_of_eq (reported.trans (agrees.get? found).symm)

theorem UsageObservation.Agrees.count_eq {key : String} (agrees : observation.Agrees usage)
    (present : (observation.reported.get? key).isSome = true) :
    observation.reported.count key = usage.count key := by
  obtain ⟨count, found⟩ := Option.isSome_iff_exists.mp present
  rw [agrees.get? found, Counts.count, found, Option.getD_some]

theorem billed_append (absorbed : List AttemptScript) (attempt : AttemptScript) :
    billed (absorbed ++ [attempt]) = (billed absorbed).plus attempt.usage := by
  unfold billed
  rw [List.map_append]
  exact Counts.sum_append _ _

theorem observed_count (agreeing : Agreeing dispatches) (key : String) :
    (Counts.sum (dispatches.map (·.observation.reported))).count key ≤
        (billed dispatches).count key ∧
      ((∀ attempt ∈ dispatches, (attempt.observation.reported.get? key).isSome = true) →
        (Counts.sum (dispatches.map (·.observation.reported))).count key =
          (billed dispatches).count key) := by
  induction dispatches using List.reverseRecOn with
  | nil => exact ⟨Nat.le_refl _, fun _ => rfl⟩
  | append_singleton earlier last ih =>
    unfold Agreeing at agreeing
    rw [List.forall_mem_append] at agreeing
    obtain ⟨before, here⟩ := agreeing
    have agrees := here last (by simp)
    rw [billed_append, List.map_append, List.map_singleton, Counts.sum_append, Counts.count_plus,
      Counts.count_plus]
    constructor
    · exact Nat.add_le_add (ih before).1 (agrees.count_le key)
    · intro all
      rw [List.forall_mem_append] at all
      rw [(ih before).2 all.1, agrees.count_eq (all.2 last (by simp))]

theorem observed_agrees (agreeing : Agreeing dispatches) (same : usage.Same (billed dispatches)) :
    UsageEvidence.Agrees ⟨observed dispatches⟩ usage dispatches.length := by
  refine ⟨observed_length dispatches, ?_⟩
  intro entry member
  rw [observed_reported] at member
  have held : (Counts.sum (dispatches.map (·.observation.reported))).count entry.1 = entry.2 := by
    rw [Counts.count, Counts.get?_of_mem member, Option.getD_some]
  obtain ⟨most, all⟩ := observed_count agreeing entry.1
  rw [held] at most all
  rw [same.count]
  refine ⟨most, ?_⟩
  intro complete
  apply all
  intro attempt listed
  unfold UsageEvidence.complete at complete
  rw [List.all_eq_true] at complete
  have named : attempt.observation ∈ (observed dispatches).map (·.observation) := by
    rw [observed_map]
    exact List.mem_map_of_mem listed
  obtain ⟨numbered, entered, equal⟩ := List.mem_map.mp named
  rw [← equal]
  exact complete numbered entered

theorem Logged.usages (logged : Logged dispatches log) :
    log.map (·.usage) = dispatches.map AttemptScript.usage := by
  have first := congrArg (List.map Prod.fst) logged.itemized
  rw [List.map_map, List.map_map] at first
  exact first

theorem Logged.evidences (logged : Logged dispatches log) :
    log.map (·.usageEvidence) = (observed dispatches).map fun entry => some entry.observation := by
  have second := congrArg (List.map Prod.snd) logged.itemized
  rw [List.map_map, List.map_map] at second
  have named := congrArg (List.map some) (observed_map dispatches)
  rw [List.map_map, List.map_map] at named
  exact second.trans named.symm

theorem Logged.agrees (logged : Logged dispatches log) (agreeing : Agreeing dispatches)
    {entry : ModelCallAttempt} (member : entry ∈ log)
    (evidence : entry.usageEvidence = some observation) : observation.Agrees entry.usage := by
  have listed := List.mem_map_of_mem (f := fun entry : ModelCallAttempt =>
    (entry.usage, entry.usageEvidence)) member
  rw [logged.itemized] at listed
  obtain ⟨attempt, dispatched, same⟩ := List.mem_map.mp listed
  rw [Prod.mk.injEq, evidence] at same
  rw [← same.1, ← Option.some.inj same.2]
  exact agreeing attempt dispatched

theorem zip_related {A B C : Type} {f : A → C} {g : B → C} {left : List A} {right : List B}
    (same : left.map f = right.map g) : ∀ pair ∈ left.zip right, f pair.1 = g pair.2 := by
  induction left generalizing right with
  | nil => simp
  | cons first rest ih =>
    cases right with
    | nil => simp
    | cons other others =>
      rw [List.map_cons, List.map_cons, List.cons.injEq] at same
      rw [List.zip_cons_cons, List.forall_mem_cons]
      exact ⟨same.1, ih same.2⟩

variable {receipt : ModelCallReceipt}

theorem receipt_checked (agreeing : Agreeing dispatches) (logged : Logged dispatches log)
    (attempts : receipt.attempts = dispatches.length) (itemized : receipt.attemptLog = log)
    (same : receipt.usage.Same (billed dispatches))
    (evidence : receipt.usageEvidence = some ⟨observed dispatches⟩) : receipt.Checked := by
  constructor
  · refine ⟨.inr ?_, ?_, .inr ?_⟩
    · rw [itemized, attempts, logged.indexed]
    · rw [itemized]; exact logged.unwaited
    · rw [itemized, logged.usages]; exact same.symm
  · rw [evidence]
    intro held is
    rw [Option.mem_some_iff] at is
    rw [← is]
    refine ⟨attempts ▸ observed_agrees agreeing same, ?_⟩
    rw [itemized]
    intro pair member
    have evident := zip_related logged.evidences pair member
    refine ⟨logged.agrees agreeing (List.of_mem_zip member).1 evident, ?_⟩
    intro observation own
    rw [evident, Option.mem_some_iff] at own
    exact own.symm

theorem initial_built (log : receipt.attemptLog = []) (evidence : receipt.usageEvidence = none) :
    receipt.build = some receipt := by
  have checked : receipt.Checked := by
    refine ⟨⟨.inl log, ?_, .inl log⟩, ?_⟩
    · simp [log]
    · simp [evidence]
  exact if_pos checked

theorem receipt_built (agreeing : Agreeing dispatches) (logged : Logged dispatches log)
    (attempts : receipt.attempts = dispatches.length) (itemized : receipt.attemptLog = log)
    (same : receipt.usage.Same (billed dispatches))
    (evidence : receipt.usageEvidence = some ⟨observed dispatches⟩) :
    receipt.build = some receipt ∧ Accounts receipt dispatches := by
  refine ⟨if_pos (receipt_checked agreeing logged attempts itemized same evidence), ?_⟩
  refine ⟨attempts, same, .inr ⟨?_, ?_⟩⟩
  · rw [itemized, attempts, logged.indexed]
  · rw [itemized, logged.usages]; exact same.symm

theorem Logged.append {absorbed : List AttemptScript} {attempt : AttemptScript}
    {entry : ModelCallAttempt} (logged : Logged absorbed log)
    (index : entry.index = absorbed.length + 1) (usage : entry.usage = attempt.usage)
    (evidence : entry.usageEvidence = some attempt.observation)
    (waited : absorbed = [] → entry.backoffMs = some 0) :
    Logged (absorbed ++ [attempt]) (log ++ [entry]) := by
  constructor
  · rw [List.map_append, logged.indexed, List.length_append, List.length_singleton,
      List.range'_concat, List.map_singleton, index, Nat.one_mul, Nat.add_comm 1]
  · cases log with
    | cons first rest => exact logged.unwaited
    | nil =>
      have none : absorbed = [] := by
        have sizes := congrArg List.length logged.indexed
        simpa using sizes.symm
      simp [waited none]
  · simp [logged.itemized, usage, evidence]

theorem Portable.start {absorbed : List AttemptScript} {attempt : AttemptScript}
    (portable : Portable (absorbed ++ [attempt])) : Portable absorbed := by
  intro entry member
  unfold Portable at portable
  rw [List.map_append, List.map_singleton, Counts.sum_append] at portable
  have found := Counts.get?_of_mem member
  have later := Counts.get?_plus (Counts.sum (absorbed.map (·.observation.reported)))
    attempt.observation.reported entry.1
  rw [found] at later
  cases more : attempt.observation.reported.get? entry.1 with
  | none =>
    rw [more, Option.merge_none_right] at later
    exact portable _ (Counts.mem_of_get? later)
  | some count =>
    rw [more] at later
    obtain ⟨known, most⟩ := portable _ (Counts.mem_of_get? later)
    exact ⟨known, Nat.le_trans (Nat.le_add_right _ _) most⟩

end Receipts

section States

variable {plan : CallPlan} {state : CallState} {absorbed : List AttemptScript}
  {attempt : AttemptScript} {failure : CallFailure}

structure Absorbed (plan : CallPlan) (absorbed : List AttemptScript) (state : CallState) :
    Prop where
  made : state.attemptsMade = absorbed.length
  spentAttempts : state.spentAttempts = absorbed.length
  spentUsage : state.spentUsage.Same (billed absorbed)
  observations : state.observations = observed absorbed
  log : Logged absorbed state.attemptLog
  agreeing : Agreeing absorbed
  last : ∀ entry ∈ state.lastAttemptEntry, entry.index ≤ absorbed.length
  waited : absorbed = [] → state.pendingBackoffMs = 0
  outcome : plan.durable = true → absorbed ≠ [] →
    ∃ outcome, state.durableOutcome = some outcome ∧ Accounts outcome absorbed
  unsettled : plan.durable = false ∨ absorbed = [] → state.durableOutcome = none
  portable : plan.durable = true → Portable absorbed
  dispatches : state.dispatches = absorbed

theorem portable_nil : Portable [] := by
  simp [Portable, Reportable, Counts.sum, Counts.empty]

theorem initial_absorbed (plan : CallPlan) : Absorbed plan [] CallState.initial where
  made := rfl
  spentAttempts := rfl
  spentUsage := Counts.Same.refl _
  observations := rfl
  log := ⟨rfl, by simp [CallState.initial], rfl⟩
  agreeing := by simp [Agreeing]
  last := by simp [CallState.initial]
  waited _ := rfl
  outcome _ some := absurd rfl some
  unsettled _ := rfl
  portable _ := portable_nil
  dispatches := rfl

theorem Logged.length {log : List ModelCallAttempt} (logged : Logged absorbed log) :
    log.length = absorbed.length := by
  have sizes := congrArg List.length logged.indexed
  simpa using sizes

theorem billed_empty : (billed absorbed).entries = [] ↔
    ∀ attempt ∈ absorbed, attempt.usage.entries = [] := by
  induction absorbed using List.reverseRecOn with
  | nil => simp [billed, Counts.sum, Counts.empty]
  | append_singleton earlier last ih =>
    rw [billed_append, List.forall_mem_append, ← ih, List.forall_mem_singleton]
    simp only [Counts.entries_eq_nil]
    constructor
    · intro nothing
      constructor <;>
      · intro key
        have none := nothing key
        rw [Counts.get?_plus, Counts.get?_empty, Option.merge_eq_none_iff] at none
        simp [none]
    · rintro ⟨before, here⟩
      exact (before.plus here).trans (Counts.empty_plus _)

theorem marked_same {usage : Usage} (carried : usage.entries = [] → failure.usage.entries = []) :
    (failure.marked usage).usage.Same usage := by
  unfold CallFailure.marked
  split
  next nothing =>
    exact (Counts.entries_eq_nil.mp (carried nothing)).trans
      (Counts.entries_eq_nil.mp nothing).symm
  · exact Counts.Same.refl _

theorem marked_iff {usage : Usage} :
    (failure.marked usage).usage.Same usage ↔
      (usage.entries = [] → failure.usage.entries = []) := by
  refine ⟨?_, marked_same⟩
  intro same nothing
  unfold CallFailure.marked at same
  rw [if_pos nothing] at same
  exact Counts.entries_eq_nil.mpr (same.trans (Counts.entries_eq_nil.mp nothing))

def readReceipt (state : CallState) (failure : CallFailure) : ModelCallReceipt :=
  { ModelCallReceipt.initial.withError failure with attempts := state.attemptsMade }

theorem readReceipt_usage (state : CallState) (failure : CallFailure) :
    (readReceipt state failure).usage = failure.usage := rfl

theorem failedReceipt_spec {dispatches : List AttemptScript} {log : List ModelCallAttempt}
    (agreeing : Agreeing dispatches) (logged : Logged dispatches log)
    (made : state.attemptsMade = dispatches.length)
    (observations : state.terminalObservations failure = observed dispatches)
    (entries : state.terminalLog (readReceipt state failure) (observed dispatches) = some log)
    (usage : (mergedUsage state.spentUsage
      (state.terminalUsage (readReceipt state failure))).Same (billed dispatches)) :
    (Portable dispatches →
      ∃ receipt, failedReceipt state failure = some receipt ∧ Accounts receipt dispatches) ∧
    (¬Portable dispatches → failedReceipt state failure = none) := by
  have marked : (ModelCallReceipt.initial.withError failure).build =
      some (ModelCallReceipt.initial.withError failure) := initial_built rfl rfl
  have read : (readReceipt state failure).build = some (readReceipt state failure) :=
    initial_built rfl rfl
  have steps : failedReceipt state failure =
      (UsageEvidence.build (observed dispatches)).bind fun evidence =>
        { readReceipt state failure with
          attemptLog := log
          usage := mergedUsage state.spentUsage
            (state.terminalUsage (readReceipt state failure))
          usageEvidence := some evidence }.build := by
    unfold failedReceipt
    rw [marked]
    simp only [Option.bind_eq_bind, Option.bind_some]
    rw [show ({ ModelCallReceipt.initial.withError failure with
      attempts := state.attemptsMade } : ModelCallReceipt) =
        readReceipt state failure from rfl, read]
    simp only [Option.bind_some]
    rw [observations, entries]
    rfl
  rw [steps]
  constructor
  · intro portable
    rw [build_portable portable, Option.bind_some]
    exact ⟨_, receipt_built agreeing logged made rfl usage rfl⟩
  · intro overflow
    rw [build_overflow overflow]
    rfl

theorem settleFailure_spec {dispatches : List AttemptScript}
    (ordinary : failure.kind ≠ .evidenceUncommitted) (entered : state.dispatches = dispatches)
    (built : (Portable dispatches →
        ∃ receipt, failedReceipt state failure = some receipt ∧ Accounts receipt dispatches) ∧
      (¬Portable dispatches → failedReceipt state failure = none)) :
    Accounted (settleFailure state failure) ↔ Portable dispatches ∧
      ((∀ attempt ∈ dispatches, attempt.usage.entries = []) → failure.usage.entries = []) := by
  unfold settleFailure
  rw [if_neg ordinary]
  by_cases portable : Portable dispatches
  · obtain ⟨receipt, found, accounts⟩ := built.1 portable
    rw [found]
    dsimp only
    have empty : receipt.usage.entries = [] ↔
        ∀ attempt ∈ dispatches, attempt.usage.entries = [] := by
      rw [← billed_empty, Counts.entries_eq_nil, Counts.entries_eq_nil]
      exact ⟨accounts.usage.symm.trans, accounts.usage.trans⟩
    rw [and_iff_right portable, ← empty, ← marked_iff]
    constructor
    · rintro ⟨_, published, same, _, carried⟩
      rw [← (List.singleton_inj.mp same)] at carried
      exact carried _ rfl
    · intro carried
      refine ⟨rfl, receipt, rfl, entered ▸ accounts, ?_⟩
      intro leaving same
      rw [← CallEnding.raised.inj same]
      exact carried
  · rw [built.2 portable]
    constructor
    · intro accounted
      exact absurd accounted.built (by simp)
    · exact fun sound => absurd sound.1 portable

end States

end MonoidKernel.CallReceipt
