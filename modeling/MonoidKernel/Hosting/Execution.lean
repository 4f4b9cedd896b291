import MonoidKernel.Postgres.RunJournal

set_option autoImplicit false

namespace MonoidKernel

inductive EmitError where
  | authorityRevoked
  | privateEventContent
  | eventSinkClosed
  | eventSequenceConflict
deriving DecidableEq

-- Where the retry of `_retry_ambiguous_mutation` stands; `retried` is its second call.
inductive EmitPhase (Data : Type) where
  | idle
  | appending (event : AgentEvent Data) (retried : Bool)
  | reconciling (event : AgentEvent Data) (retried : Bool)
deriving DecidableEq

structure EventSink (Data : Type) where
  writerToken : WriterToken
  lastSequence : Nat
  revoked : Bool
  closed : Bool
  phase : EmitPhase Data
deriving DecidableEq

namespace FencedRun

variable {Data Content Digest : Type} [DecidableEq Digest]
variable (codec : JournalCodec Data Content Digest)

structure State (Data Content Digest : Type) where
  authority : Authority.State
  journals : OpaqueId → Journal Data Content Digest
  blobs : BlobStore Digest
  sinks : Nat → Option (EventSink Data)

-- `wait` is how far the database clock moves before the transaction holds the authority row.
inductive Label (Data Content Digest : Type) where
  | authority (label : Authority.Label)
  | openSink (sink : Nat) (writerToken : WriterToken)
  | emit (sink : Nat) (event : AgentEvent Data)
  | append (sink wait : Nat) (fault : Fault)
  | refuseAppend (sink : Nat)
  | reconcile (sink wait : Nat) (raised : Bool)
  | revoke (sink : Nat)
  | close (sink : Nat)
  | settleTerminal (writerToken : WriterToken) (outcome : TerminalOutcome) (wait : Nat)
      (fault : Fault)
  | reconcileTerminal (writerToken : WriterToken) (outcome : TerminalOutcome) (wait : Nat)
  | commitCheckpoint (writerToken : WriterToken) (checkpoint : RunCheckpoint Content)
      (blobs : List (Digest × Bytes)) (wait : Nat) (fault : Fault)
  | reconcileCheckpoint (writerToken : WriterToken) (checkpoint : RunCheckpoint Content)
      (blobs : List (Digest × Bytes)) (wait : Nat)

inductive Answer (Data Digest : Type) where
  | authority (answer : Authority.Answer)
  | emitted (sink : Nat) (event : AgentEvent Data)
  | emitFailed (sink : Nat) (error : EmitError)
  | replied (reply : Reply Digest)
  | reread (result : Option (CommitResult Digest))
  | done
  | idle
deriving DecidableEq

abbrev Step (Data Content Digest : Type) := State Data Content Digest × Answer Data Digest

def State.setSink (s : State Data Content Digest) (sink : Nat) (value : EventSink Data) :
    State Data Content Digest :=
  { s with sinks := Function.update s.sinks sink (some value) }

def State.setJournal (s : State Data Content Digest) (runId : OpaqueId)
    (journal : Journal Data Content Digest) : State Data Content Digest :=
  { s with journals := Function.update s.journals runId journal }

def State.wait (s : State Data Content Digest) (ticks : Nat) : State Data Content Digest :=
  { s with authority := { s.authority with clock := s.authority.clock + ticks } }

def State.current (s : State Data Content Digest) (writerToken : WriterToken) : Bool :=
  currentWriterLocked s.authority.table writerToken s.authority.clock

def appendEvent (s : State Data Content Digest) (writerToken : WriterToken)
    (event : AgentEvent Data) (fault : Fault) : State Data Content Digest × Reply Digest :=
  if s.current writerToken then
    let result := RunJournal.commitEventLocked codec (s.journals writerToken.runId) event
    (if fault.keeps then s.setJournal writerToken.runId result.1 else s, .under fault result.2)
  else (s, .under fault { status := .fenced })

def settleTerminal (s : State Data Content Digest) (writerToken : WriterToken)
    (outcome : TerminalOutcome) (fault : Fault) : State Data Content Digest × Reply Digest :=
  if outcome.payload.runId ≠ writerToken.runId then (s, .answered { status := .fenced })
  else if s.current writerToken then
    let result := RunJournal.commitTerminalLocked codec (s.journals writerToken.runId) outcome
    (if fault.keeps then s.setJournal writerToken.runId result.1 else s, .under fault result.2)
  else (s, .under fault { status := .fenced })

def commitCheckpoint (s : State Data Content Digest) (writerToken : WriterToken)
    (checkpoint : RunCheckpoint Content) (blobs : List (Digest × Bytes)) (fault : Fault) :
    State Data Content Digest × Reply Digest :=
  if checkpoint.runId ≠ writerToken.runId then (s, .answered { status := .fenced })
  else if s.current writerToken then
    let result := RunJournal.commitCheckpointLocked codec (s.journals writerToken.runId) s.blobs
      checkpoint blobs
    (if fault.keeps then
    { s.setJournal writerToken.runId result.1 with blobs := result.2.1 } else s,
      .under fault result.2.2)
  else (s, .under fault { status := .fenced })

-- A reconciliation reads the coordinate under the fence; `none` re-raises.
def reconciled (s : State Data Content Digest) (writerToken : WriterToken)
    (read : Option (CommitResult Digest)) : Option (CommitResult Digest) :=
  if s.current writerToken then read else some { status := .fenced }

def acceptResult (value : EventSink Data) (event : AgentEvent Data)
    (result : CommitResult Digest) : EventSink Data × Option EmitError :=
  let lost : EventSink Data := { value with revoked := true, phase := .idle }
  match result.status with
  | .fenced => (lost, some .authorityRevoked)
  | .conflict => (lost, some .authorityRevoked)
  | .committed | .alreadyCommitted =>
      let expectedDigest := codec.eventDigest event ∅
      if result.sequence.any (fun sequence => decide (sequence ≠ event.seq)) then
        (lost, some .authorityRevoked)
      else if result.contentDigest.any (fun digest => decide (digest ≠ expectedDigest)) then
        (lost, some .authorityRevoked)
      else ({ value with lastSequence := event.seq, phase := .idle }, none)

-- What `emit` does when one `append_event` call returned or raised (`none`): the guard re-reads the
-- authority, the first exception is retried, the second revokes.
def afterAppend (s : State Data Content Digest) (sink : Nat) (value : EventSink Data)
    (event : AgentEvent Data) (retried : Bool) (reply : Option (CommitResult Digest)) :
    Step Data Content Digest :=
  if value.revoked then
    (s.setSink sink { value with phase := .idle }, .emitFailed sink .authorityRevoked)
  else
    match reply with
    | some result =>
        match acceptResult codec value event result with
        | (accepted, none) => (s.setSink sink accepted, .emitted sink event)
        | (refused, some error) => (s.setSink sink refused, .emitFailed sink error)
    | none =>
        if retried then
          (s.setSink sink { value with revoked := true, phase := .idle },
            .emitFailed sink .authorityRevoked)
        else (s.setSink sink { value with phase := .appending event true }, .done)

def emit (s : State Data Content Digest) (sink : Nat) (value : EventSink Data)
    (event : AgentEvent Data) : Step Data Content Digest :=
  if event.runId ≠ value.writerToken.runId then
    (s.setSink sink { value with revoked := true }, .emitFailed sink .authorityRevoked)
  else if privateDeltaEvents.contains event.eventType then
    (s, .emitFailed sink .privateEventContent)
  else if value.revoked then (s, .emitFailed sink .authorityRevoked)
  else if value.closed then (s, .emitFailed sink .eventSinkClosed)
  else if event.seq ≠ value.lastSequence + 1 then (s, .emitFailed sink .eventSequenceConflict)
  else (s.setSink sink { value with phase := .appending event false }, .done)

def step (s : State Data Content Digest) : Label Data Content Digest → Step Data Content Digest
  | .authority label =>
      let moved := Authority.step s.authority label
      ({ s with authority := moved.1 }, .authority moved.2)
  | .openSink sink writerToken =>
      match s.sinks sink, RunJournal.latestEventSequence (s.journals writerToken.runId) with
      | none, some last => (s.setSink sink ⟨writerToken, last, false, false, .idle⟩, .done)
      | _, _ => (s, .idle)
  | .emit sink event =>
      match s.sinks sink with
      | some value =>
          match value.phase with
          | .idle => emit s sink value event
          | _ => (s, .idle)
      | none => (s, .idle)
  | .append sink wait fault =>
      match s.sinks sink with
      | some value =>
          match value.phase with
          | .appending event retried =>
              let appended := appendEvent codec (s.wait wait) value.writerToken event fault
              match appended.2 with
              | .answered result =>
                  afterAppend codec appended.1 sink value event retried (some result)
              | .raised => afterAppend codec appended.1 sink value event retried none
              | .ambiguous =>
                  (appended.1.setSink sink { value with phase := .reconciling event retried },
                    .done)
          | _ => (s, .idle)
      | none => (s, .idle)
  | .refuseAppend sink =>
      match s.sinks sink with
      | some value =>
          match value.phase, value.revoked with
          | .appending _ _, true =>
              (s.setSink sink { value with phase := .idle }, .emitFailed sink .authorityRevoked)
          | _, _ => (s, .idle)
      | none => (s, .idle)
  | .reconcile sink wait raised =>
      match s.sinks sink with
      | some value =>
          match value.phase with
          | .reconciling event retried =>
              let read :=
                RunJournal.reconcileEvent codec (s.journals value.writerToken.runId) event
              afterAppend codec (s.wait wait) sink value event retried
                (if raised then none else reconciled (s.wait wait) value.writerToken read)
          | _ => (s, .idle)
      | none => (s, .idle)
  | .revoke sink =>
      match s.sinks sink with
      | some value => (s.setSink sink { value with revoked := true }, .done)
      | none => (s, .idle)
  | .close sink =>
      match s.sinks sink with
      | some value => (s.setSink sink { value with closed := true }, .done)
      | none => (s, .idle)
  | .settleTerminal writerToken outcome wait fault =>
      let settled := settleTerminal codec (s.wait wait) writerToken outcome fault
      (settled.1, .replied settled.2)
  | .reconcileTerminal writerToken outcome wait =>
      (s.wait wait, .reread (reconciled (s.wait wait) writerToken
        (RunJournal.reconcileTerminal codec (s.journals writerToken.runId) outcome)))
  | .commitCheckpoint writerToken checkpoint blobs wait fault =>
      let committed := commitCheckpoint codec (s.wait wait) writerToken checkpoint blobs fault
      (committed.1, .replied committed.2)
  | .reconcileCheckpoint writerToken checkpoint blobs wait =>
      (s.wait wait, .reread (reconciled (s.wait wait) writerToken
        (RunJournal.reconcileCheckpoint codec (s.journals writerToken.runId) checkpoint blobs)))

def machine : Library.Machine (State Data Content Digest) (Label Data Content Digest)
    (Answer Data Digest) :=
  ⟨⟨Authority.machine.init, fun _ => .empty Data Content Digest, ⟨fun _ => none, fun _ _ => false⟩,
    fun _ => none⟩, step codec⟩

end FencedRun

end MonoidKernel
