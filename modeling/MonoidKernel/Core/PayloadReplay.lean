import MonoidKernel.Library.Reclaim

set_option autoImplicit false

-- Translated from core/payload_replay.py.
namespace MonoidKernel.PayloadReplay

open Library (reclaim)

variable {Digest Value : Type} [DecidableEq Digest]

inductive MissReason where
  | noKey | absent | notRecorded | identityMismatch | exhausted | generationMismatch
deriving DecidableEq

structure ResponseEntry (Value : Type) where
  response : Value
  unrecordedReason : String
  callIndex : Nat
  recordedAt : String
  runId : String
deriving DecidableEq

structure RequestEntry (Value : Type) where
  generation : String
  refs : Bool
  payload : Value
  runId : String
deriving DecidableEq

structure ReplayedResponse (Value : Type) where
  body : Value
  callIndex : Nat
  recordedAt : String
  runId : String
  slot : Nat
deriving DecidableEq

structure ReplayMissReason where
  reason : MissReason
  slot : Option Nat := none
deriving DecidableEq

abbrev Outcome (Value : Type) := ReplayedResponse Value ⊕ ReplayMissReason

structure ReplayCorpus (Digest Value : Type) where
  requests : Digest → Option (RequestEntry Value)
  responses : Digest → List (ResponseEntry Value)
  generations : List String
  cursors : Digest → Nat
  pendingReleases : Digest → Finset Nat

namespace ReplayCorpus

def empty (Digest Value : Type) : ReplayCorpus Digest Value :=
  ⟨fun _ => none, fun _ => [], [], fun _ => 0, fun _ => ∅⟩

def absent (corpus : ReplayCorpus Digest Value) (digest : Digest) (generation : String) :
    ReplayMissReason :=
  -- a request without an answer is `absent` too, with another detail
  if (corpus.requests digest).isSome then { reason := .absent }
  else if corpus.generations ≠ [] ∧ generation ∉ corpus.generations then
    { reason := .generationMismatch }
  else { reason := .absent }

-- `entryBody` is `_entry_body`: `none` is its refusal, always `not_recorded`.
def consume (corpus : ReplayCorpus Digest Value) (entryBody : ResponseEntry Value → Option Value)
    (digest : Digest) (generation : String) : ReplayCorpus Digest Value × Outcome Value :=
  match corpus.responses digest with
  | [] => (corpus, .inr (corpus.absent digest generation))
  | first :: rest =>
    let cursor := corpus.cursors digest
    match (first :: rest)[cursor]? with
    | none => (corpus, .inr { reason := .exhausted })
    | some entry =>
      match entryBody entry with
      | none => (corpus, .inr ⟨.notRecorded, some cursor⟩)
      | some body =>
        ({ corpus with cursors := Function.update corpus.cursors digest (cursor + 1) },
          .inl ⟨body, entry.callIndex, entry.recordedAt, entry.runId, cursor⟩)

def spendRefused (corpus : ReplayCorpus Digest Value) (digest : Digest) (slot : Nat) :
    ReplayCorpus Digest Value :=
  if corpus.cursors digest = slot ∧ slot < (corpus.responses digest).length then
    { corpus with cursors := Function.update corpus.cursors digest (slot + 1) }
  else corpus

def release (corpus : ReplayCorpus Digest Value) (digest : Digest) (slot : Nat) :
    ReplayCorpus Digest Value :=
  if slot < (corpus.responses digest).length then
    let after := reclaim (corpus.cursors digest) (insert slot (corpus.pendingReleases digest))
    { corpus with
      cursors := Function.update corpus.cursors digest after.1
      pendingReleases := Function.update corpus.pendingReleases digest after.2 }
  else corpus

end ReplayCorpus

end MonoidKernel.PayloadReplay
