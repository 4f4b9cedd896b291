import MonoidKernel.Hosting.ModelRunner
import MonoidKernel.Postgres.InvocationOrder

set_option autoImplicit false

namespace MonoidKernel

structure CallSite (Facts Digest : Type) where
  journal : InvocationCodec Facts Digest
  runner : RunnerCodec Facts Digest
  runId : OpaqueId
  logicalCallId : OpaqueId
  sameHash : runner.sha256 = journal.sha256

structure CallParams where
  evidencePolicy : ModelEvidencePolicy
  transactionalOutbox : Bool
  requestDigest : String
  idempotencyKey : String
  maxAttempts : Option Nat
  evidenceOnly : Bool
  requireEvidence : Bool

structure CallChoice (Facts : Type) where
  wait : Nat
  fault : Fault
  raised : Bool
  stops : Bool
  outcome : ProviderOutcome Facts

namespace PaidDispatch

open Library

variable {Facts Digest : Type} [DecidableEq Digest]

structure State (Facts Digest : Type) where
  journal : InvocationJournal.State Facts Digest
  dispatches : List ModelDispatchReservation
  -- History: the tokens that claims handed out, and who committed the start of each attempt.
  granted : List WriterToken
  started : Nat → Option WriterToken

variable (site : CallSite Facts Digest)

def CallSite.plan (token : WriterToken) (params : CallParams) : ModelCallPlan :=
  ⟨⟨token, params.evidencePolicy, params.transactionalOutbox⟩, site.logicalCallId,
    params.requestDigest, params.idempotencyKey, params.maxAttempts, params.requireEvidence⟩

def program (token : WriterToken) (params : CallParams) :
    CallAction Facts Digest (CallOutcome Facts) :=
  let plan := CallSite.plan site token params
  if params.evidenceOnly then ModelCalls.recoverEvidenceDispatch site.runner plan
  else ModelCalls.acallOwned site.runner plan

def State.calls (s : State Facts Digest) : CallJournal Facts Digest :=
  s.journal.calls site.runId site.logicalCallId

def noteStarted (s : State Facts Digest) (token : WriterToken)
    (invocation : DurableModelInvocation Facts Digest)
    (after : InvocationJournal.State Facts Digest) : Nat → Option WriterToken :=
  if invocation.fields.dispatchState = .dispatchStarted ∧
      (after.calls site.runId site.logicalCallId).records.length ≠
      (s.calls site).records.length then
    Function.update s.started invocation.fields.dispatchAttempt (some token)
  else s.started

def serve (token : WriterToken) (s : State Facts Digest) (request : CallRequest Facts Digest)
    (choice : CallChoice Facts) : State Facts Digest × CallReply request :=
  let waited := s.journal.wait choice.wait
  match request with
  | .writeAuthority => (s, choice.stops)
  | .boundary => (s, choice.stops)
  | .loadInvocation logicalCallId =>
      (s, if choice.raised then .raised
        else match InvocationJournal.loadInvocation site.journal
            (s.journal.calls token.runId logicalCallId) token.runId logicalCallId with
          | .missing => .missing
          | .unreadable => .unreadable
          | .loaded invocation => .loaded invocation)
  | .readBlob sha256 =>
      (s, if choice.raised then none
        else BlobStore.readBlob site.journal.sha256 s.journal.blobs token.runId sha256)
  | .commitInvocation invocation blobs stageEvidence =>
      let committed := InvocationJournal.commitInvocation site.journal waited token invocation blobs
        stageEvidence choice.fault
      ({ s with
          journal := committed.1
          started := noteStarted site s token invocation committed.1 }, committed.2)
  | .reconcileInvocation invocation blobs stageEvidence =>
      let journal := s.journal.calls invocation.fields.runId invocation.fields.logicalCallId
      ({ s with journal := waited },
        if choice.raised then none
        else if waited.current token then
          (modelInvocationPayloadForWrite site.journal.canonicalSha256
          invocation).bind fun payload =>
            InvocationJournal.reconcileInvocation site.journal journal invocation
              (site.journal.recordDigest payload (BlobStore.blobProjection blobs)) stageEvidence
        else some { status := .fenced })
  | .commitModelEvidence invocation =>
      let committed := InvocationJournal.commitModelEvidence site.journal waited token invocation
        choice.fault
      ({ s with journal := committed.1 }, committed.2)
  | .reconcileEvidence invocation =>
      let journal := s.journal.calls invocation.fields.runId invocation.fields.logicalCallId
      ({ s with journal := waited },
        if choice.raised then none
        else if waited.current token then
          InvocationJournal.reconcileEvidence site.journal journal invocation
        else some { status := .fenced, sequence := some invocation.fields.revision })
  | .provider reservation =>
    ({ s with dispatches := s.dispatches ++ [reservation] }, choice.outcome)

def grantedBy : Authority.Answer → Option WriterToken
  | .claimed lease => some lease.writerToken
  | _ => none

def environment (s : State Facts Digest) (label : Authority.Label) : State Facts Digest :=
  let moved := Authority.step s.journal.authority label
  { s with
    journal := { s.journal with authority := moved.1 }
    granted := s.granted ++ (grantedBy moved.2).toList }

def ready (s : State Facts Digest) (token : WriterToken) : Bool :=
  decide (token ∈ s.granted) && decide (token.runId = site.runId)

def init (Facts Digest : Type) [DecidableEq Digest] (site : CallSite Facts Digest) :
    State Facts Digest :=
  ⟨(InvocationJournal.machine site.journal).init, [], [], fun _ => none⟩

end PaidDispatch

end MonoidKernel
