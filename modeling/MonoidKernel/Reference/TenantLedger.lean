import Mathlib.Logic.Function.Basic
import MonoidKernel.Library.Counts
import MonoidKernel.Library.HighWater
import MonoidKernel.Library.Leaving
import MonoidKernel.Library.Machine

set_option autoImplicit false

namespace MonoidKernel.TenantLedger

open Library

section Metrics

inductive MetricValue where
  | count (value : Nat)
  | unreadable
deriving DecidableEq, Repr

structure Metrics where
  entries : List (String × MetricValue)
  distinct : (entries.map Prod.fst).Nodup
deriving DecidableEq, Repr

def Metrics.get? (metrics : Metrics) (key : String) : Option MetricValue :=
  metrics.entries.lookup key

def Metrics.ofCounts (counts : Counts String) : Metrics where
  entries := counts.entries.map fun entry => (entry.1, .count entry.2)
  distinct := by
    rw [List.map_map]
    exact counts.distinct

inductive LedgerKey where
  | inputTokens | outputTokens | totalTokens | cacheReadTokens | cacheCreationTokens
  | reasoningTokens | audioTokens | webSearchCalls | webFetchCalls | webContextCalls
  | webFailedCalls | webResultCount | webBytesReturned | webContextSourceCount
  | webContextBytesReturned
deriving DecidableEq, Repr

def LedgerKey.name : LedgerKey → String
  | .inputTokens => "input_tokens"
  | .outputTokens => "output_tokens"
  | .totalTokens => "total_tokens"
  | .cacheReadTokens => "cache_read_tokens"
  | .cacheCreationTokens => "cache_creation_tokens"
  | .reasoningTokens => "reasoning_tokens"
  | .audioTokens => "audio_tokens"
  | .webSearchCalls => "web_search_calls"
  | .webFetchCalls => "web_fetch_calls"
  | .webContextCalls => "web_context_calls"
  | .webFailedCalls => "web_failed_calls"
  | .webResultCount => "web_result_count"
  | .webBytesReturned => "web_bytes_returned"
  | .webContextSourceCount => "web_context_source_count"
  | .webContextBytesReturned => "web_context_bytes_returned"

def ledgerKeys : List LedgerKey :=
  [.inputTokens, .outputTokens, .totalTokens, .cacheReadTokens, .cacheCreationTokens,
    .reasoningTokens, .audioTokens, .webSearchCalls, .webFetchCalls, .webContextCalls,
    .webFailedCalls, .webResultCount, .webBytesReturned, .webContextSourceCount,
    .webContextBytesReturned]

theorem mem_ledgerKeys (key : LedgerKey) : key ∈ ledgerKeys := by
  cases key <;> decide

theorem ledgerKeys_nodup : ledgerKeys.Nodup := by decide

end Metrics

section Usage

structure TenantUsage where
  runs : Nat := 0
  totals : LedgerKey → Nat := fun _ => 0

def nonnegativeMetric (metrics : Metrics) (key : LedgerKey) : Except String Nat :=
  match metrics.get? key.name with
  | none => .ok 0
  | some (.count value) => .ok value
  | some .unreadable => .error ("run metric " ++ key.name ++ " must be a non-negative integer")

def addMetric (metrics : Metrics) (key : LedgerKey) : Piece TenantUsage String Unit :=
  match nonnegativeMetric metrics key with
  | .error message => Piece.leave message
  | .ok value =>
    Piece.update fun usage =>
      { usage with totals := Function.update usage.totals key (usage.totals key + value) }

def addKeys (metrics : Metrics) : List LedgerKey → Piece TenantUsage String Unit
  | [] => pure ()
  | key :: rest => do
    addMetric metrics key
    addKeys metrics rest

-- `add_metrics`: the run is counted, and key by key the value is checked and added.
def addMetrics (metrics : Metrics) (countRun : Bool) : Piece TenantUsage String Unit := do
  Piece.update fun usage => if countRun then { usage with runs := usage.runs + 1 } else usage
  addKeys metrics ledgerKeys

end Usage

section Ledger

structure Ledger where
  usage : String → Option TenantUsage := fun _ => none
  metered : String → Option (String → Nat) := fun _ => none

def Ledger.usageOf (ledger : Ledger) (tenant : String) : TenantUsage :=
  (ledger.usage tenant).getD {}

def Ledger.mark (ledger : Ledger) (run : String) : String → Nat :=
  (ledger.metered run).getD fun _ => 0

def meterEntries :
    List (String × MetricValue) → (String → Nat) → List (String × MetricValue) × (String → Nat)
  | [], mark => ([], mark)
  | (key, .unreadable) :: rest, mark =>
    let metered := meterEntries rest mark
    ((key, .unreadable) :: metered.1, metered.2)
  | (key, .count value) :: rest, mark =>
    let metered := meterEntries rest (Function.update mark key (max (mark key) value))
    ((key, .count (value - mark key)) :: metered.1, metered.2)

theorem meterEntries_keys (entries : List (String × MetricValue)) (mark : String → Nat) :
    (meterEntries entries mark).1.map Prod.fst = entries.map Prod.fst := by
  induction entries generalizing mark with
  | nil => rfl
  | cons entry rest ih =>
    obtain ⟨key, value⟩ := entry
    cases value with
    | count value => simp [meterEntries, ih]
    | unreadable => simp [meterEntries, ih]

def unmetered (metrics : Metrics) (mark : String → Nat) : Metrics where
  entries := (meterEntries metrics.entries mark).1
  distinct := by
    rw [meterEntries_keys]
    exact metrics.distinct

def advanced (metrics : Metrics) (mark : String → Nat) : String → Nat :=
  (meterEntries metrics.entries mark).2

def inTenant (tenant : String) (work : Piece TenantUsage String Unit) :
    Piece Ledger String Unit := fun ledger =>
  let worked := work (ledger.usageOf tenant)
  (worked.1, { ledger with usage := Function.update ledger.usage tenant (some worked.2) })

def meterRun (tenant run : String) (metrics : Metrics) : Piece Ledger String Unit := do
  let ledger ← Piece.state
  let firstMetering := (ledger.metered run).isNone
  let mark := ledger.mark run
  Piece.update fun ledger =>
    { ledger with metered := Function.update ledger.metered run (some (advanced metrics mark)) }
  inTenant tenant (addMetrics (unmetered metrics mark) firstMetering)

-- One reading of `_spent_before_failure`: each key rides at the larger of its values.
def foldReading : List (String × MetricValue) → Counts String → Counts String
  | [], readings => readings
  | (_, .unreadable) :: rest, readings => foldReading rest readings
  | (key, .count value) :: rest, readings =>
    foldReading rest (readings.add key (value - readings.count key))

-- `_spent_before_failure`: the usage of the last checkpoint and the metrics of the status file,
-- each where there is one.
def spentBeforeFailure (totalUsage status : Option Metrics) : Metrics :=
  let entriesOf := fun reading : Option Metrics => (reading.map (·.entries)).getD []
  Metrics.ofCounts (foldReading (entriesOf status)
    (foldReading (entriesOf totalUsage) Counts.empty))

end Ledger

section Meterings

inductive Metering where
  | result (run : String) (metrics : Metrics)
  | failure (run : String) (totalUsage status : Option Metrics)
  | abandoned (run : String) (totalUsage status : Option Metrics)
deriving DecidableEq

def Metering.run : Metering → String
  | .result run _ | .failure run .. | .abandoned run .. => run

def Metering.metrics : Metering → Metrics
  | .result _ metrics => metrics
  | .failure _ totalUsage status | .abandoned _ totalUsage status =>
    spentBeforeFailure totalUsage status

def meter (tenantOf : String → String) : Machine Ledger Metering (Except String Unit) where
  init := {}
  step ledger metering :=
    let metered := meterRun (tenantOf metering.run) metering.run metering.metrics ledger
    (metered.2, metered.1)

end Meterings

end MonoidKernel.TenantLedger
