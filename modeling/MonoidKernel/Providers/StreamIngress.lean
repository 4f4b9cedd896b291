import Mathlib.Data.List.Sort
import MonoidKernel.Core.ModelReceipt
import MonoidKernel.Library.OrderedDict
import MonoidKernel.Providers.UnicodeScalars

set_option autoImplicit false

namespace MonoidKernel.Providers

open CallReceipt (Usage UsageObservation)
open Library (OrderedDict)

section Chunks

structure TurnComplete (J : Type) where
  responseId : Option Text
  usage : Usage
  reasoning : List J
  stopReason : Option Text
  providerRetried : Bool
  usageEvidence : Option UsageObservation

-- `T` is a terminal chunk, as the provider built it or as the ingress left it.
inductive ModelStreamChunk (T : Type) where
  | textDelta (text : Text) (providerRetried : Bool)
  | reasoningDelta (text : Text) (providerRetried : Bool)
  | toolCallDelta (index : Int) (argumentsFragment : Text) (id name : Option Text)
      (providerRetried : Bool)
  | turnComplete (terminal : T)

-- Why a stream yields no turn. The refusal of a terminal chunk is stamped on that chunk.
inductive StreamFailure (F : Type) where
  | nonPortable
  | refused (failure : F)
  | badArguments (name : Option Text) (wrongType providerRetried : Bool) (usage : Usage)
      (observation : UsageObservation)
  | badUsage (providerRetried : Bool)

end Chunks

section Buffers

structure ChunkBuffer where
  pendingHigh : Option Nat := none
  providerRetried : Bool := false
  sequence : Option Nat := none

namespace ChunkBuffer

def keptSequence (buffer : ChunkBuffer) (text : Text) (sequence : Nat) : Nat :=
  match buffer.sequence with
  | some inherited => if text.isEmpty then inherited else sequence
  | none => sequence

def feed (buffer : ChunkBuffer) (text : Text) (providerRetried : Bool) (sequence : Nat) :
    (Text × Bool) × ChunkBuffer :=
  let combined := buffer.pendingHigh.toList ++ text
  let retried := buffer.providerRetried || providerRetried
  match combined.getLast? with
  | some last =>
    if isHighSurrogate last then
      ((normalizeUnicodeScalars combined.dropLast, retried),
        ⟨some last, retried, some (buffer.keptSequence text sequence)⟩)
    else ((normalizeUnicodeScalars combined, retried), {})
  | none => ((normalizeUnicodeScalars combined, retried), {})

def flush (buffer : ChunkBuffer) : Option (Text × Bool × Nat) :=
  buffer.pendingHigh.map fun _ =>
    ([replacement], buffer.providerRetried, buffer.sequence.getD 0)

def flushed (buffer : ChunkBuffer) : ChunkBuffer :=
  match buffer.pendingHigh with
  | some _ => {}
  | none => buffer

end ChunkBuffer

end Buffers

section Ingress

variable {T J F : Type}

structure Ingress where
  text : ChunkBuffer := {}
  reasoning : ChunkBuffer := {}
  toolArguments : OrderedDict Int ChunkBuffer := .empty
  sequence : Nat := 0

namespace Ingress

def argumentsBuffer (ingress : Ingress) (index : Int) : ChunkBuffer :=
  (ingress.toolArguments.get? index).getD {}

def pendingText (ingress : Ingress) : List (Nat × ModelStreamChunk T) :=
  ingress.text.flush.toList.map fun held => (held.2.2, .textDelta held.1 held.2.1)

def pendingReasoning (ingress : Ingress) : List (Nat × ModelStreamChunk T) :=
  ingress.reasoning.flush.toList.map fun held => (held.2.2, .reasoningDelta held.1 held.2.1)

def pendingArguments (ingress : Ingress) : List (Nat × ModelStreamChunk T) :=
  ingress.toolArguments.entries.filterMap fun entry =>
    entry.2.flush.map fun held =>
      (held.2.2, .toolCallDelta entry.1 held.1 none none held.2.1)

def pending (ingress : Ingress) : List (Nat × ModelStreamChunk T) :=
  ingress.pendingText ++ ingress.pendingReasoning ++ ingress.pendingArguments

-- The chunks that `finish` emits, in the order their channels were held back in.
def finish (ingress : Ingress) : List (ModelStreamChunk T) :=
  (ingress.pending.insertionSort fun first second => first.1 ≤ second.1).map (·.2)

def finished (ingress : Ingress) : Ingress where
  text := ingress.text.flushed
  reasoning := ingress.reasoning.flushed
  toolArguments := ingress.toolArguments.mapValues ChunkBuffer.flushed
  sequence := ingress.sequence

def normalize (rules : T → Except F (TurnComplete J)) (ingress : Ingress) :
    ModelStreamChunk T →
      Except (StreamFailure F) (List (ModelStreamChunk (TurnComplete J)) × Ingress)
  | .textDelta text providerRetried =>
    let fed := ingress.text.feed text providerRetried ingress.sequence
    .ok ([.textDelta fed.1.1 fed.1.2],
      { ingress with text := fed.2, sequence := ingress.sequence + 1 })
  | .reasoningDelta text providerRetried =>
    let fed := ingress.reasoning.feed text providerRetried ingress.sequence
    .ok ([.reasoningDelta fed.1.1 fed.1.2],
      { ingress with reasoning := fed.2, sequence := ingress.sequence + 1 })
  | .toolCallDelta index argumentsFragment id name providerRetried =>
    if index < 0 then .error .nonPortable
    else
      let fed := (ingress.argumentsBuffer index).feed argumentsFragment providerRetried
        ingress.sequence
      .ok ([.toolCallDelta index fed.1.1 (id.map normalizeUnicodeScalars)
          (name.map normalizeUnicodeScalars) fed.1.2],
        { ingress with
          toolArguments := ingress.toolArguments.set index fed.2
          sequence := ingress.sequence + 1 })
  | .turnComplete raw =>
    match rules raw with
    | .error failure => .error (.refused failure)
    | .ok terminal =>
      .ok (ingress.finish ++ [.turnComplete terminal],
        { ingress.finished with sequence := ingress.sequence + 1 })

def normalizeAll (rules : T → Except F (TurnComplete J)) (ingress : Ingress) :
    List (ModelStreamChunk T) →
      Except (StreamFailure F) (List (ModelStreamChunk (TurnComplete J)) × Ingress)
  | [] => .ok ([], ingress)
  | chunk :: rest =>
    match ingress.normalize rules chunk with
    | .error failure => .error failure
    | .ok (emitted, ingress) =>
      match ingress.normalizeAll rules rest with
      | .error failure => .error failure
      | .ok (later, ingress) => .ok (emitted ++ later, ingress)

end Ingress

def ingestStream (rules : T → Except F (TurnComplete J)) (chunks : List (ModelStreamChunk T)) :
    Except (StreamFailure F) (List (ModelStreamChunk (TurnComplete J))) :=
  match ({} : Ingress).normalizeAll rules chunks with
  | .error failure => .error failure
  | .ok (emitted, ingress) => .ok (emitted ++ ingress.finish)

end Ingress

end MonoidKernel.Providers
