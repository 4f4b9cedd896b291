import MonoidKernel.Library.Counts
import Mathlib.Algebra.Ring.Nat

set_option autoImplicit false

namespace MonoidKernel.CallReceipt

open Library

abbrev Usage := Counts String

def maxPortableInteger : Nat := 2 ^ 53 - 1

def usageCounters : List String :=
  ["audio_input_tokens", "audio_output_tokens", "audio_tokens", "cached_input_tokens",
    "cache_creation_tokens", "cache_read_tokens", "cache_write_tokens", "input_tokens",
    "output_tokens", "reasoning_tokens", "total_tokens"]

def Reportable (reported : Usage) : Prop :=
  ∀ entry ∈ reported.entries, entry.1 ∈ usageCounters ∧ entry.2 ≤ maxPortableInteger

instance (reported : Usage) : Decidable (Reportable reported) :=
  inferInstanceAs (Decidable (∀ entry ∈ reported.entries, _))

inductive UsageSource where
  | provider
  | adapter
  | legacyAmbiguous
deriving DecidableEq, Repr

inductive UsageCollection where
  | normal
  | drain
deriving DecidableEq, Repr

structure UsageObservation where
  reported : Usage
  source : Option UsageSource
  collection : Option UsageCollection
  reportable : Reportable reported
  sourced : if reported.entries = [] then
      (source = none ∨ source = some .legacyAmbiguous) ∧ collection = none
    else (source = some .provider ∨ source = some .adapter) ∧ collection ≠ none
deriving DecidableEq, Repr

def UsageObservation.legacy : UsageObservation where
  reported := Counts.empty
  source := some .legacyAmbiguous
  collection := none
  reportable := by simp [Reportable, Counts.empty]
  sourced := by simp [Counts.empty]

def UsageObservation.Agrees (observation : UsageObservation) (usage : Usage) : Prop :=
  ∀ entry ∈ observation.reported.entries, usage.count entry.1 = entry.2

instance (observation : UsageObservation) (usage : Usage) :
    Decidable (observation.Agrees usage) :=
  inferInstanceAs (Decidable (∀ entry ∈ observation.reported.entries, _))

structure UsageEvidenceAttempt where
  index : Nat
  observation : UsageObservation
deriving DecidableEq, Repr

structure UsageEvidence where
  attempts : List UsageEvidenceAttempt
deriving DecidableEq, Repr

namespace UsageEvidence

def reported (evidence : UsageEvidence) : Usage :=
  Counts.sum (evidence.attempts.map (·.observation.reported))

def Checked (evidence : UsageEvidence) : Prop :=
  evidence.attempts.map (·.index) = List.range' 1 evidence.attempts.length ∧
    Reportable evidence.reported

instance (evidence : UsageEvidence) : Decidable evidence.Checked :=
  inferInstanceAs (Decidable (_ ∧ _))

def complete (evidence : UsageEvidence) (key : String) : Bool :=
  evidence.attempts.all fun entry => (entry.observation.reported.get? key).isSome

def Agrees (evidence : UsageEvidence) (usage : Usage) (attempts : Nat) : Prop :=
  evidence.attempts.length = attempts ∧
    ∀ entry ∈ evidence.reported.entries, entry.2 ≤ usage.count entry.1 ∧
      (evidence.complete entry.1 = true → entry.2 = usage.count entry.1)

instance (evidence : UsageEvidence) (usage : Usage) (attempts : Nat) :
    Decidable (evidence.Agrees usage attempts) :=
  inferInstanceAs (Decidable (_ ∧ ∀ entry ∈ evidence.reported.entries, _))

def build (attempts : List UsageEvidenceAttempt) : Option UsageEvidence :=
  if Checked ⟨attempts⟩ then some ⟨attempts⟩ else none

end UsageEvidence

structure ModelCallAttempt where
  index : Nat
  errorCode : String
  retryable : Bool
  configRecoverable : Bool
  usage : Usage
  streamCommitted : Bool
  backoffMs : Option Nat
  usageEvidence : Option UsageObservation
deriving DecidableEq, Repr

namespace ModelCallAttempt

def Checked (attempt : ModelCallAttempt) : Prop :=
  1 ≤ attempt.index ∧ ∀ observation ∈ attempt.usageEvidence, observation.Agrees attempt.usage

instance (attempt : ModelCallAttempt) : Decidable attempt.Checked :=
  inferInstanceAs (Decidable (_ ∧ ∀ observation ∈ attempt.usageEvidence, _))

def build (attempt : ModelCallAttempt) : Option ModelCallAttempt :=
  if attempt.Checked then some attempt else none

end ModelCallAttempt

structure ModelCallReceipt where
  stopReason : String
  usage : Usage
  attempts : Nat
  errorCode : String
  retryable : Bool
  configRecoverable : Bool
  attemptLog : List ModelCallAttempt
  usageEvidence : Option UsageEvidence
deriving DecidableEq, Repr

inductive FailureKind where
  | adapter
  | refused
  | evidenceUncommitted
  | boundary
  | callerCancelled
  | other
deriving DecidableEq, Repr

structure CallFailure where
  kind : FailureKind
  errorCode : String
  retryable : Bool
  configRecoverable : Bool
  usage : Usage
  observation : Option UsageObservation
deriving DecidableEq, Repr

def CallFailure.marked (failure : CallFailure) (usage : Usage) : CallFailure :=
  if usage.entries = [] then failure else { failure with usage := usage }

namespace ModelCallReceipt

def initial : ModelCallReceipt where
  stopReason := ""
  usage := Counts.empty
  attempts := 1
  errorCode := ""
  retryable := false
  configRecoverable := false
  attemptLog := []
  usageEvidence := none

-- The entries are the receipt's own breakdown of its bill: all of the dispatches in order, no wait
-- before the first, and usage that sums to the receipt's.
structure LogChecked (receipt : ModelCallReceipt) : Prop where
  named : receipt.attemptLog = [] ∨
    receipt.attemptLog.map (·.index) = List.range' 1 receipt.attempts
  unwaited : ∀ entry ∈ receipt.attemptLog.head?, ∀ waited ∈ entry.backoffMs, waited = 0
  summed : receipt.attemptLog = [] ∨
    (Counts.sum (receipt.attemptLog.map (·.usage))).Same receipt.usage

structure EvidenceChecked (receipt : ModelCallReceipt) (evidence : UsageEvidence) : Prop where
  covers : evidence.Agrees receipt.usage receipt.attempts
  itemized : ∀ entry ∈ receipt.attemptLog.zip evidence.attempts,
    entry.2.observation.Agrees entry.1.usage ∧
      ∀ observation ∈ entry.1.usageEvidence, observation = entry.2.observation

instance (receipt : ModelCallReceipt) : Decidable receipt.LogChecked :=
  decidable_of_iff
    ((receipt.attemptLog = [] ∨
        receipt.attemptLog.map (·.index) = List.range' 1 receipt.attempts) ∧
      (∀ entry ∈ receipt.attemptLog.head?, ∀ waited ∈ entry.backoffMs, waited = 0) ∧
      (receipt.attemptLog = [] ∨
        (Counts.sum (receipt.attemptLog.map (·.usage))).Same receipt.usage))
    ⟨fun ⟨named, unwaited, summed⟩ => ⟨named, unwaited, summed⟩,
      fun ⟨named, unwaited, summed⟩ => ⟨named, unwaited, summed⟩⟩

instance (receipt : ModelCallReceipt) (evidence : UsageEvidence) :
    Decidable (receipt.EvidenceChecked evidence) :=
  decidable_of_iff
    (evidence.Agrees receipt.usage receipt.attempts ∧
      ∀ entry ∈ receipt.attemptLog.zip evidence.attempts,
        entry.2.observation.Agrees entry.1.usage ∧
          ∀ observation ∈ entry.1.usageEvidence, observation = entry.2.observation)
    ⟨fun ⟨covers, itemized⟩ => ⟨covers, itemized⟩, fun ⟨covers, itemized⟩ => ⟨covers, itemized⟩⟩

def Checked (receipt : ModelCallReceipt) : Prop :=
  receipt.LogChecked ∧ ∀ evidence ∈ receipt.usageEvidence, receipt.EvidenceChecked evidence

instance (receipt : ModelCallReceipt) : Decidable receipt.Checked :=
  inferInstanceAs (Decidable (_ ∧ ∀ evidence ∈ receipt.usageEvidence, _))

def build (receipt : ModelCallReceipt) : Option ModelCallReceipt :=
  if receipt.Checked then some receipt else none

-- `with_error`: a receipt that already carries a bill or a log keeps them.
def withError (receipt : ModelCallReceipt) (failure : CallFailure) : ModelCallReceipt :=
  { receipt with
    errorCode := failure.errorCode
    retryable := failure.retryable
    configRecoverable := failure.configRecoverable
    usage :=
      if receipt.usage.entries = [] ∧ receipt.attemptLog = [] then failure.usage
      else receipt.usage }

end ModelCallReceipt

section Snapshots

structure UsageReport where
  usage : Usage
  observation : UsageObservation
  agrees : observation.Agrees usage

def anyCount (usage : Usage) : Bool := usage.entries.any (·.2 ≠ 0)

-- `select_usage_snapshot`: explicit snapshots replace each other together; an unreported terminal
-- cannot erase one.
def selectUsageSnapshot (current incoming : Usage × UsageObservation) :
    Usage × UsageObservation :=
  let unreported := current.2.reported.entries = []
  let silent := incoming.2.reported.entries = []
  if silent ∧ ¬anyCount incoming.1 then
    if unreported then (current.1, incoming.2) else current
  else if ¬silent ∨ (unreported ∧ (anyCount incoming.1 ∨ ¬anyCount current.1)) then incoming
  else current

def usageSnapshot (reports : List UsageReport) : Usage × UsageObservation :=
  reports.foldl (fun current report =>
    selectUsageSnapshot current (report.usage, report.observation))
    (Counts.empty, UsageObservation.legacy)

def CallFailure.dispatched (failure : CallFailure) (reports : List UsageReport) : CallFailure :=
  let selected := selectUsageSnapshot (usageSnapshot reports)
    (failure.usage, failure.observation.getD UsageObservation.legacy)
  { failure.marked selected.1 with observation := some selected.2 }

end Snapshots

end MonoidKernel.CallReceipt
