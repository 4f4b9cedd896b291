import MonoidKernel.Hosting.Execution

set_option autoImplicit false

namespace MonoidKernel

namespace RunJournal

variable {Data Content Digest : Type} [DecidableEq Digest]
variable {codec : JournalCodec Data Content Digest}

variable {event : AgentEvent Data}

variable {payload : AgentEvent Data}

omit [DecidableEq Digest] in
theorem eventPayload_spec (valid : eventPayload codec event = some payload) :
    eventTyped payload = eventTyped event ∧ payload.timestamp = event.timestamp ∧
      1 ≤ event.seq ∧ codec.normalizeData event.data = some payload.data := by
  unfold eventPayload at valid
  split at valid
  next checks =>
    obtain ⟨data, normalized, rfl⟩ := Option.map_eq_some_iff.mp valid
    exact ⟨rfl, rfl, checks.2.2.1, normalized⟩
  · cases valid

def Recorded (codec : JournalCodec Data Content Digest) (journal : Journal Data Content Digest)
    (event : AgentEvent Data) : Prop :=
  ∃ payload, eventPayload codec event = some payload ∧ ∃ row ∈ journal.events,
    Intact codec.eventDigest eventTyped row.stored ∧ row.stored.typed = eventTyped event ∧
      row.stored.contentDigest = codec.eventDigest payload ∅

variable {journal : Journal Data Content Digest}

omit [DecidableEq Digest] in
theorem Recorded.grow {later : Journal Data Content Digest}
    (recorded : Recorded codec journal event) (grown : journal.events ⊆ later.events) :
    Recorded codec later event := by
  obtain ⟨payload, valid, row, member, further⟩ := recorded
  exact ⟨payload, valid, row, grown member, further⟩

theorem eventCoordinate_none {contentDigest : Digest}
    (absent : eventCoordinate codec journal payload contentDigest = none) :
    journal.events.find? (fun row => row.stored.typed.seq == payload.seq) = none := by
  unfold eventCoordinate at absent
  split at absent
  next missing => exact missing
  next row _ =>
    split at absent
    · cases absent
    · cases storedResult_none absent

theorem eventCoordinate_accepted (valid : eventPayload codec event = some payload)
    {result : CommitResult Digest}
    (found : eventCoordinate codec journal payload (codec.eventDigest payload ∅) = some result)
    (accepted : result.status ≠ .conflict) : Recorded codec journal event := by
  unfold eventCoordinate at found
  split at found
  · cases found
  next row located =>
    obtain ⟨member, -⟩ := Library.find_number_some located
    split at found
    · cases found
      exact absurd rfl accepted
    · obtain ⟨-, -, status⟩ := storedResult_status found
      rcases status with conflict | ⟨-, stored, same, intact, typed, address⟩
      · exact absurd conflict accepted
      · cases same
        exact ⟨payload, valid, row, member, intact, by rw [typed, (eventPayload_spec valid).1],
          address⟩

def eventRow (codec : JournalCodec Data Content Digest) (payload : AgentEvent Data) :
    EventRow Data Digest :=
  ⟨⟨payload, ∅, codec.eventDigest payload ∅, eventTyped payload⟩,
    codec.parseTimestamp payload.timestamp⟩

theorem commitEventLocked_spec (codec : JournalCodec Data Content Digest)
    (journal : Journal Data Content Digest) (event : AgentEvent Data) :
    let result := commitEventLocked codec journal event
    (result.1 = journal ∨ ∃ payload, eventPayload codec event = some payload ∧
        journal.terminal = none ∧
        journal.events.find? (fun row => row.stored.typed.seq == event.seq) = none ∧
        journal.events.find? (fun row => row.stored.typed.eventId == event.eventId) = none ∧
        result.1 = { journal with
          events := journal.events ++ [eventRow codec payload]
          eventHead := advanceHead journal.eventHead event.seq }) ∧
      (result.2.status = .committed ∨ result.2.status = .alreadyCommitted →
        Recorded codec result.1 event) := by
  unfold commitEventLocked
  split
  · simp
  next payload valid =>
    have typed := (eventPayload_spec valid).1
    have sequence : payload.seq = event.seq := congrArg EventTyped.seq typed
    dsimp only
    split
    next stored found =>
      refine ⟨.inl rfl, ?_⟩
      intro status
      exact eventCoordinate_accepted valid found (CommitStatus.ne_conflict status)
    next absent =>
      have free := eventCoordinate_none absent
      rw [sequence] at free
      split
      next duplicate named =>
        obtain ⟨row, -, rfl⟩ := Option.map_eq_some_iff.mp named
        simp
      next unnamed =>
        have fresh : journal.events.find?
            (fun row => row.stored.typed.eventId == event.eventId) = none := by
          simpa [eventIdWinner] using unnamed
        split
        · simp
        next still =>
          have terminal : journal.terminal = none := by simpa using still
          refine ⟨.inr ⟨payload, valid, terminal, free, fresh, ?_⟩, ?_⟩
          · simp only [eventRow, (eventPayload_spec valid).2.1]
          · intro _
            exact ⟨payload, valid, eventRow codec payload, by
              simp [eventRow, (eventPayload_spec valid).2.1], ⟨rfl, rfl⟩, typed, rfl⟩

theorem reconcileEvent_accepted {result : CommitResult Digest}
    (read : reconcileEvent codec journal event = some result)
    (accepted : result.status ≠ .conflict) : Recorded codec journal event := by
  unfold reconcileEvent at read
  split at read
  · cases read
  next payload valid =>
    dsimp only at read
    split at read
    next stored found =>
      cases read
      exact eventCoordinate_accepted valid found accepted
    · split at read
      · cases read
        exact absurd rfl accepted
      · cases read

def StoredRange (payload : TerminalPayload) : Prop :=
  ¬ (payload.checkpointSeq.any fun sequence => decide (postgresBigintMax < sequence)) = true

theorem commitTerminalLocked_spec (codec : JournalCodec Data Content Digest)
    (journal : Journal Data Content Digest) (outcome : TerminalOutcome) :
    let result := commitTerminalLocked codec journal outcome
    result.1 = journal ∨ journal.terminal = none ∧ StoredRange outcome.payload ∧
      result.1 = { journal with terminal := some ⟨outcome.payload, ∅,
        codec.terminalDigest outcome.payload ∅, terminalTyped outcome.payload⟩ } := by
  unfold commitTerminalLocked
  dsimp only
  split
  · exact .inl rfl
  next range =>
    split
    · exact .inl rfl
    next absent => exact .inr ⟨storedResult_none absent, range, rfl⟩

theorem commitCheckpointLocked_spec (codec : JournalCodec Data Content Digest)
    (journal : Journal Data Content Digest) (store : BlobStore Digest)
    (checkpoint : RunCheckpoint Content) (blobs : List (Digest × Bytes)) :
    let result := commitCheckpointLocked codec journal store checkpoint blobs
    result.1 = journal ∧ result.2.1 = store ∨
      ∃ payload, checkpointPayloadForWrite codec checkpoint = some payload ∧
        journal.checkpoints.find? (fun row => row.typed.seq == checkpoint.seq) = none ∧
        BlobStore.Grows store result.2.1 ∧
        result.1 = { journal with
          checkpoints := journal.checkpoints ++ [⟨payload, BlobStore.blobProjection blobs,
            codec.checkpointDigest payload (BlobStore.blobProjection blobs),
            checkpointTyped payload⟩]
          checkpointHead := advanceHead journal.checkpointHead checkpoint.seq } := by
  unfold commitCheckpointLocked
  dsimp only
  split
  · exact .inl ⟨rfl, rfl⟩
  · split
    · exact .inl ⟨rfl, rfl⟩
    · split
      · exact .inl ⟨rfl, rfl⟩
      next payload encoded =>
        split
        · exact .inl ⟨rfl, rfl⟩
        · split
          · exact .inl ⟨rfl, rfl⟩
          · split
            · exact .inl ⟨rfl, rfl⟩
            next absent =>
              split
              · exact .inl ⟨rfl, rfl⟩
              next persisted done =>
                exact .inr ⟨payload, encoded, storedResult_none absent,
                  (BlobStore.persistBlobs_spec done).1, rfl⟩

end RunJournal

namespace FencedRun

open Library (Machine)

variable {Data Content Digest : Type} [DecidableEq Digest]
variable {codec : JournalCodec Data Content Digest}

inductive JournalChange (codec : JournalCodec Data Content Digest)
    (s : State Data Content Digest) (runId : OpaqueId) : Journal Data Content Digest → Prop where
  | event (sink : Nat) (value : EventSink Data) (retried : Bool) (event payload : AgentEvent Data)
      (held : s.sinks sink = some value) (run : value.writerToken.runId = runId)
      (phase : value.phase = .appending event retried)
      (valid : RunJournal.eventPayload codec event = some payload)
      (unsettled : (s.journals runId).terminal = none)
      (free : (s.journals runId).events.find?
        (fun row => row.stored.typed.seq == event.seq) = none)
      (fresh : (s.journals runId).events.find?
        (fun row => row.stored.typed.eventId == event.eventId) = none) :
      JournalChange codec s runId { s.journals runId with
        events := (s.journals runId).events ++ [RunJournal.eventRow codec payload]
        eventHead := advanceHead (s.journals runId).eventHead event.seq }
  | terminal (outcome : TerminalOutcome) (unsettled : (s.journals runId).terminal = none)
      (range : RunJournal.StoredRange outcome.payload) :
      JournalChange codec s runId { s.journals runId with
        terminal := some ⟨outcome.payload, ∅, codec.terminalDigest outcome.payload ∅,
          terminalTyped outcome.payload⟩ }
  | checkpoint (checkpoint payload : RunCheckpoint Content) (projection : Finset Digest)
      (encoded : RunJournal.checkpointPayloadForWrite codec checkpoint = some payload)
      (free : (s.journals runId).checkpoints.find?
        (fun row => row.typed.seq == checkpoint.seq) = none) :
      JournalChange codec s runId { s.journals runId with
        checkpoints := (s.journals runId).checkpoints ++ [⟨payload, projection,
          codec.checkpointDigest payload projection, checkpointTyped payload⟩]
        checkpointHead := advanceHead (s.journals runId).checkpointHead checkpoint.seq }

-- A journal changes only under a token that is the stored active one when the transaction holds the
-- authority row.
def Fenced (codec : JournalCodec Data Content Digest) (s t : State Data Content Digest)
    (runId : OpaqueId) : Prop :=
  t.journals runId = s.journals runId ∨
    ∃ token now, token.runId = runId ∧ s.authority.clock ≤ now ∧
      Authority.Active s.authority.table token now ∧
      JournalChange codec s runId (t.journals runId)

variable {s : State Data Content Digest}

omit [DecidableEq Digest] in
theorem current_active {wait : Nat} {token : WriterToken}
    (current : (s.wait wait).current token = true) :
    Authority.Active s.authority.table token (s.authority.clock + wait) :=
  (currentWriterLocked_iff _ _ _).mp current

variable {t : State Data Content Digest} {journal : Journal Data Content Digest}

omit [DecidableEq Digest] in
theorem fenced_setJournal {wait : Nat} {token : WriterToken}
    (current : (s.wait wait).current token = true) (runId : OpaqueId)
    (same : t.journals = Function.update s.journals token.runId journal)
    (change : journal = s.journals token.runId ∨ JournalChange codec s token.runId journal) :
    Fenced codec s t runId := by
  unfold Fenced
  rw [same]
  by_cases run : runId = token.runId
  · subst run
    rw [Function.update_self]
    rcases change with kept | change
    · exact .inl kept
    · exact .inr ⟨token, _, rfl, Nat.le_add_right _ _, current_active current, change⟩
  · rw [Function.update_of_ne run]
    exact .inl rfl

theorem appendEvent_fenced (codec : JournalCodec Data Content Digest)
    (s : State Data Content Digest) (sink wait : Nat) (value : EventSink Data)
    (held : s.sinks sink = some value) (event : AgentEvent Data) (retried : Bool)
    (phase : value.phase = .appending event retried) (fault : Fault)
    (runId : OpaqueId) :
    Fenced codec s (appendEvent codec (s.wait wait) value.writerToken event fault).1 runId := by
  unfold appendEvent
  split
  next current =>
    dsimp only
    split
    · refine fenced_setJournal current runId rfl ?_
      obtain ⟨change, -⟩ := RunJournal.commitEventLocked_spec codec
        (s.journals value.writerToken.runId) event
      rcases change with kept | ⟨payload, valid, unsettled, free, fresh, inserted⟩
      · exact .inl kept
      · right
        change JournalChange codec s _ (RunJournal.commitEventLocked codec
          (s.journals value.writerToken.runId) event).1
        rw [inserted]
        exact .event sink value retried event payload held rfl phase valid unsettled free fresh
    · exact .inl rfl
  · exact .inl rfl

theorem settleTerminal_fenced (s : State Data Content Digest) (wait : Nat) (token : WriterToken)
    (outcome : TerminalOutcome) (fault : Fault) (runId : OpaqueId) :
    Fenced codec s (settleTerminal codec (s.wait wait) token outcome fault).1 runId := by
  unfold settleTerminal
  split
  · exact .inl rfl
  · split
    next current =>
      dsimp only
      split
      · refine fenced_setJournal current runId rfl ?_
        rcases RunJournal.commitTerminalLocked_spec codec (s.journals token.runId) outcome with
          kept | ⟨unsettled, range, settled⟩
        · exact .inl kept
        · right
          change JournalChange codec s _ (RunJournal.commitTerminalLocked codec
            (s.journals token.runId) outcome).1
          rw [settled]
          exact .terminal outcome unsettled range
      · exact .inl rfl
    · exact .inl rfl

theorem commitCheckpoint_fenced (s : State Data Content Digest) (wait : Nat)
    (token : WriterToken) (checkpoint : RunCheckpoint Content) (blobs : List (Digest × Bytes))
    (fault : Fault) (runId : OpaqueId) :
    Fenced codec s (commitCheckpoint codec (s.wait wait) token checkpoint blobs fault).1 runId := by
  unfold commitCheckpoint
  split
  · exact .inl rfl
  · split
    next current =>
      dsimp only
      split
      · refine fenced_setJournal current runId rfl ?_
        rcases RunJournal.commitCheckpointLocked_spec codec (s.journals token.runId) s.blobs
            checkpoint blobs with ⟨kept, -⟩ | ⟨payload, encoded, free, -, inserted⟩
        · exact .inl kept
        · right
          change JournalChange codec s _ (RunJournal.commitCheckpointLocked codec
            (s.journals token.runId) s.blobs checkpoint blobs).1
          rw [inserted]
          exact .checkpoint checkpoint payload _ encoded free
      · exact .inl rfl
    · exact .inl rfl

omit [DecidableEq Digest] in
theorem emit_journals (s : State Data Content Digest) (sink : Nat) (value : EventSink Data)
    (event : AgentEvent Data) : (emit s sink value event).1.journals = s.journals := by
  unfold emit
  repeat' split
  all_goals rfl

theorem afterAppend_journals (s : State Data Content Digest) (sink : Nat)
    (value : EventSink Data) (event : AgentEvent Data) (retried : Bool)
    (reply : Option (CommitResult Digest)) :
    (afterAppend codec s sink value event retried reply).1.journals = s.journals := by
  unfold afterAppend
  repeat' split
  all_goals rfl

theorem next_fenced (codec : JournalCodec Data Content Digest)
    (s : State Data Content Digest) (label : Label Data Content Digest)
    (runId : OpaqueId) : Fenced codec s ((machine codec).next s label) runId := by
  cases label with
  | authority label => exact .inl rfl
  | openSink sink token =>
    simp only [Machine.next, machine, step]
    split <;> exact .inl rfl
  | emit sink event =>
    simp only [Machine.next, machine, step]
    split
    next value _ =>
      split
      · exact .inl (congrFun (emit_journals s sink value event) runId)
      · exact .inl rfl
    · exact .inl rfl
  | append sink wait fault =>
    simp only [Machine.next, machine, step]
    split
    next value held =>
      split
      next event retried phase =>
        have fenced := appendEvent_fenced codec s sink wait value held event retried
          phase fault runId
        split
        · simpa only [Fenced, afterAppend_journals] using fenced
        · simpa only [Fenced, afterAppend_journals] using fenced
        · exact fenced
      · exact .inl rfl
    · exact .inl rfl
  | refuseAppend sink =>
    simp only [Machine.next, machine, step]
    split
    · split <;> exact .inl rfl
    · exact .inl rfl
  | reconcile sink wait raised =>
    simp only [Machine.next, machine, step]
    split
    · split
      · left
        rw [afterAppend_journals]
        rfl
      · exact .inl rfl
    · exact .inl rfl
  | revoke sink =>
    simp only [Machine.next, machine, step]
    split <;> exact .inl rfl
  | close sink =>
    simp only [Machine.next, machine, step]
    split <;> exact .inl rfl
  | settleTerminal token outcome wait fault =>
    exact settleTerminal_fenced s wait token outcome fault runId
  | reconcileTerminal token outcome wait => exact .inl rfl
  | commitCheckpoint token checkpoint blobs wait fault =>
    exact commitCheckpoint_fenced s wait token checkpoint blobs fault runId
  | reconcileCheckpoint token checkpoint blobs wait => exact .inl rfl

structure JournalInv (codec : JournalCodec Data Content Digest)
    (journal : Journal Data Content Digest) : Prop where
  numbered : Library.Numbered (fun row => row.stored.typed.seq) journal.events
  head : journal.eventHead = if journal.events = [] then none else some journal.events.length
  ids : (journal.events.map fun row => row.stored.typed.eventId).Nodup
  intact : ∀ row ∈ journal.events, Intact codec.eventDigest eventTyped row.stored
  terminal : ∀ row, journal.terminal = some row →
    Intact codec.terminalDigest terminalTyped row ∧ row.submittedBlobs = ∅ ∧
      RunJournal.StoredRange row.payload

def SinkOk (journals : OpaqueId → Journal Data Content Digest) (value : EventSink Data) : Prop :=
  value.lastSequence ≤ (journals value.writerToken.runId).events.length ∧
    ∀ event retried, value.phase = .appending event retried ∨
        value.phase = .reconciling event retried →
      event.seq = value.lastSequence + 1 ∧ event.runId = value.writerToken.runId

variable {value : EventSink Data}

omit [DecidableEq Digest] in
theorem sinkOk_idle {journals : OpaqueId → Journal Data Content Digest}
    (seeded : value.lastSequence ≤ (journals value.writerToken.runId).events.length)
    (idle : value.phase = .idle) : SinkOk journals value := by
  refine ⟨seeded, ?_⟩
  intro event retried pending
  rw [idle] at pending
  rcases pending with pending | pending <;> cases pending

structure Inv (codec : JournalCodec Data Content Digest) (s : State Data Content Digest) :
    Prop where
  journals : ∀ runId, JournalInv codec (s.journals runId)
  sinks : ∀ sink value, s.sinks sink = some value → SinkOk s.journals value

omit [DecidableEq Digest] in
theorem initial_inv (codec : JournalCodec Data Content Digest) :
    Inv codec ⟨Authority.machine.init, fun _ => .empty Data Content Digest,
      ⟨fun _ => none, fun _ _ => false⟩, fun _ => none⟩ where
  journals _ := ⟨.nil _, rfl, List.nodup_nil, by simp [Journal.empty], by simp [Journal.empty]⟩
  sinks _ _ held := by cases held

omit [DecidableEq Digest] in
theorem SinkOk.grow {journals later : OpaqueId → Journal Data Content Digest}
    (ok : SinkOk journals value)
    (grown : ∀ runId, (journals runId).events.length ≤ (later runId).events.length) :
    SinkOk later value :=
  ⟨Nat.le_trans ok.1 (grown _), ok.2⟩

omit [DecidableEq Digest] in
theorem JournalChange.events_grow {runId : OpaqueId}
    (change : JournalChange codec s runId journal) :
    (s.journals runId).events <+: journal.events := by
  cases change with
  | event => exact List.prefix_append _ _
  | terminal => exact List.prefix_rfl
  | checkpoint => exact List.prefix_rfl

omit [DecidableEq Digest] in
theorem Fenced.events_grow {runId : OpaqueId} (fenced : Fenced codec s t runId) :
    (s.journals runId).events <+: (t.journals runId).events := by
  rcases fenced with same | ⟨_, _, _, _, _, change⟩
  · rw [same]
  · exact change.events_grow

omit [DecidableEq Digest] in
theorem JournalChange.inv {runId : OpaqueId} (change : JournalChange codec s runId journal)
    (inv : Inv codec s) : JournalInv codec journal := by
  have before := inv.journals runId
  cases change with
  | event sink value retried event payload held run phase valid unsettled free fresh =>
    obtain ⟨typed, -, positive, -⟩ := RunJournal.eventPayload_spec valid
    have sequence : payload.seq = event.seq := congrArg EventTyped.seq typed
    have name : payload.eventId = event.eventId := congrArg EventTyped.eventId typed
    obtain ⟨seeded, pending⟩ := inv.sinks sink value held
    have next := (pending event retried (.inl phase)).1
    rw [run] at seeded
    have beyond := before.numbered.find_eq_none positive free
    have exactly : event.seq = (s.journals runId).events.length + 1 := by omega
    refine ⟨before.numbered.append (by simp [RunJournal.eventRow, eventTyped, sequence, exactly]),
      ?_, ?_, ?_, before.terminal⟩
    · rw [before.head]
      by_cases empty : (s.journals runId).events = []
      · simp [empty, advanceHead, exactly]
      · simp [empty, advanceHead, exactly]
    · rw [List.map_append, List.nodup_append]
      refine ⟨before.ids, by simp, ?_⟩
      intro id listed other single
      obtain ⟨row, member, rfl⟩ := List.mem_map.mp listed
      have absent := List.find?_eq_none.mp fresh row member
      simp only [List.map_cons, List.map_nil, List.mem_singleton] at single
      subst single
      simpa [RunJournal.eventRow, eventTyped, name] using absent
    · intro row member
      rcases List.mem_append.mp member with earlier | added
      · exact before.intact row earlier
      · simp only [List.mem_singleton] at added
        subst added
        exact ⟨rfl, rfl⟩
  | terminal outcome unsettled range =>
    refine ⟨before.numbered, before.head, before.ids, before.intact, ?_⟩
    intro row settled
    cases settled
    exact ⟨⟨rfl, rfl⟩, rfl, range⟩
  | checkpoint => exact ⟨before.numbered, before.head, before.ids, before.intact, before.terminal⟩

theorem acceptResult_spec (codec : JournalCodec Data Content Digest) (value : EventSink Data)
    (event : AgentEvent Data) (result : CommitResult Digest) :
    let accepted := acceptResult codec value event result
    accepted.1.writerToken = value.writerToken ∧ accepted.1.phase = .idle ∧
      (accepted.2 ≠ none → accepted.1.lastSequence = value.lastSequence) ∧
      (accepted.2 = none → accepted.1.lastSequence = event.seq ∧
        (result.status = .committed ∨ result.status = .alreadyCommitted)) := by
  unfold acceptResult
  cases status : result.status <;> dsimp only
  case fenced => simp
  case conflict => simp
  all_goals
    split
    · simp
    · split <;> simp

variable {event : AgentEvent Data}

theorem afterAppend_spec (codec : JournalCodec Data Content Digest) (sink : Nat) (retried : Bool)
    (reply : Option (CommitResult Digest))
    (numbered : Library.Numbered (fun row => row.stored.typed.seq)
      (s.journals value.writerToken.runId).events)
    (seeded : value.lastSequence ≤ (s.journals value.writerToken.runId).events.length)
    (pending : event.seq = value.lastSequence + 1 ∧ event.runId = value.writerToken.runId)
    (recorded : ∀ result, reply = some result →
      (result.status = .committed ∨ result.status = .alreadyCommitted) →
      RunJournal.Recorded codec (s.journals value.writerToken.runId) event) :
    let after := afterAppend codec s sink value event retried reply
    (∀ other held, after.1.sinks other = some held →
        s.sinks other = some held ∨ SinkOk s.journals held) ∧
      ∀ other emitted, after.2 = .emitted other emitted →
        RunJournal.Recorded codec (s.journals emitted.runId) emitted := by
  have replaced {fresh : EventSink Data} (ok : SinkOk s.journals fresh) (other : Nat)
      (held : EventSink Data) (found : (s.setSink sink fresh).sinks other = some held) :
      s.sinks other = some held ∨ SinkOk s.journals held := by
    by_cases same : other = sink
    · subst same
      simp only [State.setSink, Function.update_self, Option.some.injEq] at found
      subst found
      exact .inr ok
    · left
      simpa [State.setSink, same] using found
  have idle (revoked : Bool) :
      SinkOk s.journals { value with revoked := revoked, phase := .idle } :=
    sinkOk_idle seeded rfl
  unfold afterAppend
  split
  next lost =>
    have ok := idle value.revoked
    exact ⟨replaced ok, by simp⟩
  · split
    next result =>
      obtain ⟨token, phase, failed, passed⟩ := acceptResult_spec codec value event result
      split
      next accepted outcome =>
        rw [outcome] at token phase passed
        obtain ⟨advanced, status⟩ := passed rfl
        have stored := recorded result rfl status
        refine ⟨replaced (sinkOk_idle ?_ phase), ?_⟩
        · obtain ⟨_, _, row, member, _, typed, _⟩ := stored
          have within := (numbered.number_le member).2
          rw [typed] at within
          rw [token, advanced]
          exact within
        · intro other emitted answer
          cases answer
          rw [pending.2]
          exact stored
      next refused error outcome =>
        rw [outcome] at token phase failed
        refine ⟨replaced (sinkOk_idle ?_ phase), by simp⟩
        rw [token, failed (by simp)]
        exact seeded
    · split
      · exact ⟨replaced (idle true), by simp⟩
      · refine ⟨replaced ⟨seeded, ?_⟩, by simp⟩
        intro waiting again phase
        simp only [EmitPhase.appending.injEq, reduceCtorEq, or_false] at phase
        rw [← phase.1]
        exact pending

theorem appendEvent_recorded {token : WriterToken} {fault : Fault} {result : CommitResult Digest}
    (answered : (appendEvent codec s token event fault).2 = .answered result)
    (accepted : result.status = .committed ∨ result.status = .alreadyCommitted) :
    RunJournal.Recorded codec
      ((appendEvent codec s token event fault).1.journals token.runId) event := by
  unfold appendEvent at answered ⊢
  split at answered
  next current =>
    cases fault with
    | answered =>
      simp only [Reply.under, Reply.answered.injEq] at answered
      subst answered
      rw [if_pos current]
      simpa [Fault.keeps, State.setJournal] using
        (RunJournal.commitEventLocked_spec codec (s.journals token.runId) event).2 accepted
    | raised applied lossy =>
      simp only [Reply.under] at answered
      split at answered <;> cases answered
  · cases fault with
    | answered =>
      simp only [Reply.under, Reply.answered.injEq] at answered
      subst answered
      simp at accepted
    | raised applied lossy => cases lossy <;> cases answered

omit [DecidableEq Digest] in
theorem emit_sinks {sink : Nat} (idle : value.phase = .idle) (ok : SinkOk s.journals value)
    (other : Nat) (held : EventSink Data)
    (found : (emit s sink value event).1.sinks other = some held) :
    s.sinks other = some held ∨ SinkOk s.journals held := by
  unfold emit at found
  split at found
  · by_cases same : other = sink
    · subst same
      simp only [State.setSink, Function.update_self, Option.some.injEq] at found
      subst found
      exact .inr (sinkOk_idle ok.1 idle)
    · left
      simpa [State.setSink, same] using found
  next run =>
    split at found
    · exact .inl found
    · split at found
      · exact .inl found
      · split at found
        · exact .inl found
        · split at found
          · exact .inl found
          next sequence =>
            by_cases same : other = sink
            · subst same
              simp only [State.setSink, Function.update_self, Option.some.injEq] at found
              subst found
              refine .inr ⟨ok.1, ?_⟩
              intro pending retried phase
              simp only [EmitPhase.appending.injEq, reduceCtorEq, or_false] at phase
              obtain ⟨rfl, -⟩ := phase
              exact ⟨not_not.mp sequence, not_not.mp run⟩
            · left
              simpa [State.setSink, same] using found

omit [DecidableEq Digest] in
theorem Fenced.inv {runId : OpaqueId} (fenced : Fenced codec s t runId) (inv : Inv codec s) :
    JournalInv codec (t.journals runId) := by
  rcases fenced with same | ⟨_, _, _, _, _, change⟩
  · rw [same]
    exact inv.journals runId
  · exact change.inv inv

theorem appendEvent_sinks (codec : JournalCodec Data Content Digest)
    (s : State Data Content Digest) (wait : Nat) (token : WriterToken) (event : AgentEvent Data)
    (fault : Fault) :
    (appendEvent codec (s.wait wait) token event fault).1.sinks = s.sinks := by
  unfold appendEvent
  split
  · dsimp only
    split <;> rfl
  · rfl

omit [DecidableEq Digest] in
theorem latestEventSequence_le (inv : JournalInv codec journal) {last : Nat}
    (seeded : RunJournal.latestEventSequence journal = some last) :
    last ≤ journal.events.length := by
  unfold RunJournal.latestEventSequence at seeded
  split at seeded
  · cases seeded
    exact Nat.zero_le _
  next sequence _ =>
    split at seeded
    next present =>
      cases seeded
      obtain ⟨row, member, same⟩ := List.any_eq_true.mp present
      have within := (inv.numbered.number_le member).2
      rw [← beq_iff_eq.mp same]
      exact within
    · cases seeded

theorem append_spec (inv : Inv codec s) (sink wait : Nat) (fault : Fault) :
    let t := (machine codec).next s (.append sink wait fault)
    (∀ other held, t.sinks other = some held → s.sinks other = some held ∨ SinkOk t.journals held) ∧
      ∀ other emitted, (machine codec).answer s (.append sink wait fault) = .emitted other emitted →
        RunJournal.Recorded codec (t.journals emitted.runId) emitted := by
  have unchanged : (∀ other held, s.sinks other = some held →
      s.sinks other = some held ∨ SinkOk s.journals held) := fun _ _ found => .inl found
  simp only [Machine.next, Machine.answer, machine, step]
  split
  next value held =>
    split
    next event retried phase =>
      have fenced := appendEvent_fenced codec s sink wait value held event retried phase
        fault value.writerToken.runId
      have sinks := appendEvent_sinks codec s wait value.writerToken event fault
      obtain ⟨seeded, pending⟩ := inv.sinks sink value held
      have position := pending event retried (.inl phase)
      have further := Nat.le_trans seeded fenced.events_grow.length_le
      have spec (reply : Option (CommitResult Digest))
          (recorded : ∀ result, reply = some result →
            (result.status = .committed ∨ result.status = .alreadyCommitted) →
            RunJournal.Recorded codec ((appendEvent codec (s.wait wait) value.writerToken event
              fault).1.journals value.writerToken.runId) event) :=
        afterAppend_spec codec sink retried reply (fenced.inv inv).numbered further position
          recorded
      split
      next result answered =>
        have after := spec (some result) (by
          intro same equal accepted
          cases equal
          exact appendEvent_recorded answered accepted)
        simpa only [afterAppend_journals, sinks] using after
      · have after := spec none (by simp)
        simpa only [afterAppend_journals, sinks] using after
      · refine ⟨?_, by simp⟩
        intro other found stored
        by_cases same : other = sink
        · subst same
          simp only [State.setSink, Function.update_self, Option.some.injEq] at stored
          subst stored
          refine .inr ⟨further, ?_⟩
          intro waiting again reconciling
          simp only [EmitPhase.reconciling.injEq, reduceCtorEq, false_or] at reconciling
          rw [← reconciling.1]
          exact position
        · left
          simp only [State.setSink, sinks] at stored
          rw [Function.update_of_ne same] at stored
          exact stored
    · exact ⟨unchanged, by simp⟩
  · exact ⟨unchanged, by simp⟩

theorem reconcile_spec (inv : Inv codec s) (sink wait : Nat) (raised : Bool) :
    let t := (machine codec).next s (.reconcile sink wait raised)
    (∀ other held, t.sinks other = some held → s.sinks other = some held ∨ SinkOk t.journals held) ∧
      ∀ other emitted,
        (machine codec).answer s (.reconcile sink wait raised) = .emitted other emitted →
        RunJournal.Recorded codec (t.journals emitted.runId) emitted := by
  have unchanged : (∀ other held, s.sinks other = some held →
      s.sinks other = some held ∨ SinkOk s.journals held) := fun _ _ found => .inl found
  simp only [Machine.next, Machine.answer, machine, step]
  split
  next value held =>
    split
    next event retried phase =>
      obtain ⟨seeded, pending⟩ := inv.sinks sink value held
      have after := afterAppend_spec codec (s := s.wait wait) sink retried
        (if raised then none else reconciled (s.wait wait) value.writerToken
          (RunJournal.reconcileEvent codec (s.journals value.writerToken.runId) event))
        (inv.journals value.writerToken.runId).numbered seeded
        (pending event retried (.inr phase)) (by
        intro result read accepted
        split at read
        · cases read
        · unfold reconciled at read
          split at read
          · exact RunJournal.reconcileEvent_accepted read (CommitStatus.ne_conflict accepted)
          · cases read
            simp at accepted)
      rw [afterAppend_journals]
      exact after
    · exact ⟨unchanged, by simp⟩
  · exact ⟨unchanged, by simp⟩

omit [DecidableEq Digest] in
theorem setSink_ok {sink : Nat} {fresh : EventSink Data}
    (sinks : t.sinks = Function.update s.sinks sink (some fresh)) (ok : SinkOk t.journals fresh)
    (other : Nat) (held : EventSink Data) (found : t.sinks other = some held) :
    s.sinks other = some held ∨ SinkOk t.journals held := by
  rw [sinks] at found
  by_cases same : other = sink
  · subst same
    simp only [Function.update_self, Option.some.injEq] at found
    subst found
    exact .inr ok
  · left
    rwa [Function.update_of_ne same] at found

theorem next_sinks (inv : Inv codec s) (label : Label Data Content Digest) :
    let t := (machine codec).next s label
    (∀ other held, t.sinks other = some held → s.sinks other = some held ∨ SinkOk t.journals held) ∧
      ∀ other emitted, (machine codec).answer s label = .emitted other emitted →
        RunJournal.Recorded codec (t.journals emitted.runId) emitted := by
  have unchanged : (∀ other held, s.sinks other = some held →
      s.sinks other = some held ∨ SinkOk s.journals held) := fun _ _ found => .inl found
  cases label with
  | append sink wait fault => exact append_spec inv sink wait fault
  | reconcile sink wait raised => exact reconcile_spec inv sink wait raised
  | openSink sink token =>
    simp only [Machine.next, Machine.answer, machine, step]
    split
    next last fresh seeded =>
      refine ⟨setSink_ok rfl (sinkOk_idle ?_ rfl), by simp⟩
      exact latestEventSequence_le (inv.journals token.runId) seeded
    · exact ⟨unchanged, by simp⟩
  | emit sink event =>
    simp only [Machine.next, Machine.answer, machine, step]
    split
    next value held =>
      split
      next phase =>
        refine ⟨?_, ?_⟩
        · rw [emit_journals]
          exact emit_sinks phase (inv.sinks sink value held)
        · intro other emitted answer
          unfold emit at answer
          repeat' split at answer
          all_goals cases answer
      · exact ⟨unchanged, by simp⟩
    · exact ⟨unchanged, by simp⟩
  | refuseAppend sink =>
    simp only [Machine.next, Machine.answer, machine, step]
    split
    next value held =>
      split
      · exact ⟨setSink_ok rfl (sinkOk_idle (inv.sinks sink value held).1 rfl), by simp⟩
      · exact ⟨unchanged, by simp⟩
    · exact ⟨unchanged, by simp⟩
  | revoke sink =>
    simp only [Machine.next, Machine.answer, machine, step]
    split
    next value held => exact ⟨setSink_ok rfl (inv.sinks sink value held), by simp⟩
    · exact ⟨unchanged, by simp⟩
  | close sink =>
    simp only [Machine.next, Machine.answer, machine, step]
    split
    next value held => exact ⟨setSink_ok rfl (inv.sinks sink value held), by simp⟩
    · exact ⟨unchanged, by simp⟩
  | authority label => exact ⟨unchanged, by simp [Machine.answer, machine, step]⟩
  | settleTerminal token outcome wait fault =>
    refine ⟨fun other held found => .inl ?_, by simp [Machine.answer, machine, step]⟩
    simp only [Machine.next, machine, step, settleTerminal] at found
    repeat' split at found
    all_goals exact found
  | commitCheckpoint token checkpoint blobs wait fault =>
    refine ⟨fun other held found => .inl ?_, by simp [Machine.answer, machine, step]⟩
    simp only [Machine.next, machine, step, commitCheckpoint] at found
    repeat' split at found
    all_goals exact found
  | reconcileTerminal token outcome wait =>
    exact ⟨unchanged, by simp [Machine.answer, machine, step]⟩
  | reconcileCheckpoint token checkpoint blobs wait =>
    exact ⟨unchanged, by simp [Machine.answer, machine, step]⟩

theorem next_inv (s : State Data Content Digest) (label : Label Data Content Digest)
    (inv : Inv codec s) : Inv codec ((machine codec).next s label) where
  journals runId := (next_fenced codec s label runId).inv inv
  sinks sink value found := by
    rcases (next_sinks inv label).1 sink value found with kept | ok
    · exact (inv.sinks sink value kept).grow fun runId =>
        (next_fenced codec s label runId).events_grow.length_le
    · exact ok

theorem exec_inv (labels : List (Label Data Content Digest)) :
    Inv codec ((machine codec).exec (machine codec).init labels) :=
  (machine codec).exec_invariant (Inv codec) next_inv _ (initial_inv codec) labels

def writerOf (s : State Data Content Digest) : Label Data Content Digest → Option WriterToken
  | .append sink _ _ => (s.sinks sink).map EventSink.writerToken
  | .settleTerminal writerToken _ _ _ => some writerToken
  | .commitCheckpoint writerToken _ _ _ _ => some writerToken
  | _ => none

def ticks : Label Data Content Digest → Nat
  | .append _ wait _ => wait
  | .settleTerminal _ _ wait _ => wait
  | .commitCheckpoint _ _ _ wait _ => wait
  | _ => 0

theorem next_stale (s : State Data Content Digest) (label : Label Data Content Digest)
    (stale : ∀ token, writerOf s label = some token →
      ¬ Authority.Active s.authority.table token (s.authority.clock + ticks label)) :
    ((machine codec).next s label).journals = s.journals ∧
      ((machine codec).next s label).blobs = s.blobs := by
  have refused (token : WriterToken) (wait : Nat)
      (inactive : ¬ Authority.Active s.authority.table token (s.authority.clock + wait)) :
      ¬ (s.wait wait).current token = true := fun current => inactive (current_active current)
  cases label with
  | append sink wait fault =>
    simp only [Machine.next, machine, step]
    split
    next value held =>
      have inactive :=
        refused value.writerToken wait (stale value.writerToken (by simp [writerOf, held]))
      split
      next event retried phase =>
        have kept : (appendEvent codec (s.wait wait) value.writerToken event fault).1 =
            s.wait wait := by
          unfold appendEvent
          rw [if_neg inactive]
        rw [kept]
        have blobs (reply : Option (CommitResult Digest)) :
            (afterAppend codec (s.wait wait) sink value event retried reply).1.blobs =
              s.blobs := by
          unfold afterAppend
          repeat' split
          all_goals rfl
        split
        · exact ⟨afterAppend_journals _ _ _ _ _ _, blobs _⟩
        · exact ⟨afterAppend_journals _ _ _ _ _ _, blobs _⟩
        · exact ⟨rfl, rfl⟩
      · exact ⟨rfl, rfl⟩
    · exact ⟨rfl, rfl⟩
  | settleTerminal token outcome wait fault =>
    simp only [Machine.next, machine, step, settleTerminal]
    rw [if_neg (refused token wait (stale token rfl))]
    split <;> exact ⟨rfl, rfl⟩
  | commitCheckpoint token checkpoint blobs wait fault =>
    simp only [Machine.next, machine, step, commitCheckpoint]
    rw [if_neg (refused token wait (stale token rfl))]
    split <;> exact ⟨rfl, rfl⟩
  | reconcile sink wait raised =>
    simp only [Machine.next, machine, step]
    split
    · split
      · refine ⟨afterAppend_journals _ _ _ _ _ _, ?_⟩
        unfold afterAppend
        repeat' split
        all_goals rfl
      · exact ⟨rfl, rfl⟩
    · exact ⟨rfl, rfl⟩
  | emit sink event =>
    simp only [Machine.next, machine, step]
    split
    · split
      · refine ⟨emit_journals _ _ _ _, ?_⟩
        unfold emit
        repeat' split
        all_goals rfl
      · exact ⟨rfl, rfl⟩
    · exact ⟨rfl, rfl⟩
  | openSink sink token =>
    simp only [Machine.next, machine, step]
    split <;> exact ⟨rfl, rfl⟩
  | refuseAppend sink =>
    simp only [Machine.next, machine, step]
    split
    · split <;> exact ⟨rfl, rfl⟩
    · exact ⟨rfl, rfl⟩
  | revoke sink =>
    simp only [Machine.next, machine, step]
    split <;> exact ⟨rfl, rfl⟩
  | close sink =>
    simp only [Machine.next, machine, step]
    split <;> exact ⟨rfl, rfl⟩
  | authority label => exact ⟨rfl, rfl⟩
  | reconcileTerminal token outcome wait => exact ⟨rfl, rfl⟩
  | reconcileCheckpoint token checkpoint blobs wait => exact ⟨rfl, rfl⟩

def Settled (s t : State Data Content Digest) : Prop :=
  ∀ runId row, (s.journals runId).terminal = some row →
    (t.journals runId).terminal = some row ∧ (t.journals runId).events = (s.journals runId).events

theorem next_settled (s : State Data Content Digest) (label : Label Data Content Digest) :
    Settled s ((machine codec).next s label) := by
  intro runId row terminal
  rcases next_fenced codec s label runId with same | ⟨_, _, _, _, _, change⟩
  · rw [same]
    exact ⟨terminal, rfl⟩
  · generalize ((machine codec).next s label).journals runId = journal at change ⊢
    cases change with
    | event sink value retried event payload held run phase valid unsettled free fresh =>
      rw [terminal] at unsettled
      cases unsettled
    | terminal outcome unsettled =>
      rw [terminal] at unsettled
      cases unsettled
    | checkpoint => exact ⟨terminal, rfl⟩

def HeadAdvances (before after : Option Nat) : Prop :=
  ∀ current, before = some current → ∃ later, after = some later ∧ current ≤ later

theorem advanceHead_spec (head : Option Nat) (sequence : Nat) :
    HeadAdvances head (advanceHead head sequence) ∧
      (advanceHead head sequence ≠ head →
        advanceHead head sequence = some sequence ∧
          ∀ current, head = some current → current < sequence) := by
  cases head with
  | none => simp [HeadAdvances, advanceHead]
  | some current =>
    by_cases less : current < sequence
    · simp [HeadAdvances, advanceHead, less, Nat.le_of_lt less]
    · simp [HeadAdvances, advanceHead, less]

theorem next_checkpointHead (s : State Data Content Digest) (label : Label Data Content Digest)
    (runId : OpaqueId) :
    HeadAdvances (s.journals runId).checkpointHead
        (((machine codec).next s label).journals runId).checkpointHead ∧
      ((((machine codec).next s label).journals runId).checkpointHead ≠
          (s.journals runId).checkpointHead →
        ∃ sequence, (((machine codec).next s label).journals runId).checkpointHead = some sequence ∧
          ∀ current, (s.journals runId).checkpointHead = some current → current < sequence) := by
  rcases next_fenced codec s label runId with same | ⟨_, _, _, _, _, change⟩
  · rw [same]
    exact ⟨fun current held => ⟨current, held, Nat.le_refl _⟩, fun changed => absurd rfl changed⟩
  · generalize ((machine codec).next s label).journals runId = journal at change ⊢
    have kept : HeadAdvances (s.journals runId).checkpointHead (s.journals runId).checkpointHead :=
      fun current held => ⟨current, held, Nat.le_refl _⟩
    cases change with
    | event => exact ⟨kept, fun changed => absurd rfl changed⟩
    | terminal => exact ⟨kept, fun changed => absurd rfl changed⟩
    | checkpoint checkpoint payload projection encoded free =>
      obtain ⟨advances, changed⟩ :=
        advanceHead_spec (s.journals runId).checkpointHead checkpoint.seq
      exact ⟨advances, fun moved => ⟨checkpoint.seq, changed moved⟩⟩

theorem settleTerminal_again (inv : Inv codec s) (token : WriterToken) (outcome : TerminalOutcome)
    (wait : Nat) (run : outcome.payload.runId = token.runId)
    (active : Authority.Active s.authority.table token (s.authority.clock + wait))
    (row : StoredRow TerminalPayload TerminalTyped Digest)
    (terminal : (s.journals token.runId).terminal = some row) :
    ∃ result, (machine codec).answer s (.settleTerminal token outcome wait .answered) =
        .replied (.answered result) ∧
      (row.payload = outcome.payload → result.status = .alreadyCommitted) ∧
      (row.payload ≠ outcome.payload → CollisionFree codec.terminalDigest →
        result.status = .conflict) := by
  have current : (s.wait wait).current token = true := (currentWriterLocked_iff _ _ _).mpr active
  obtain ⟨intact, recordOnly, range⟩ := (inv.journals token.runId).terminal row terminal
  have reply : (machine codec).answer s (.settleTerminal token outcome wait .answered) =
      .replied (.answered
        (RunJournal.commitTerminalLocked codec (s.journals token.runId) outcome).2) := by
    simp only [Machine.answer, machine, step, settleTerminal, run, ne_eq,
      not_true_eq_false, if_false, current, if_true, Reply.under]
    rfl
  have address : row.contentDigest = codec.terminalDigest row.payload ∅ := by
    rw [← intact.1, recordOnly]
  refine ⟨_, reply, ?_, ?_⟩
  · intro equal
    rw [equal] at range
    unfold RunJournal.commitTerminalLocked
    dsimp only
    rw [if_neg range]
    simp [RunJournal.terminalCoordinate, terminal, storedResult_intact intact, ← intact.2, equal,
      address]
  · intro different free
    have apart : ¬ row.contentDigest = codec.terminalDigest outcome.payload ∅ := by
      rw [address]
      exact fun equal => different (free _ _ _ _ equal).1
    unfold RunJournal.commitTerminalLocked
    dsimp only
    split
    · rfl
    · simp [RunJournal.terminalCoordinate, terminal, storedResult_intact intact, apart]

-- What the journals of a run promise between two points `s` and `t` of an interleaving.
structure RunJournals (codec : JournalCodec Data Content Digest) (s t : State Data Content Digest) :
    Prop where
  numbered : ∀ runId,
    ((t.journals runId).events.map fun row => row.stored.typed.seq) =
      List.range' 1 (t.journals runId).events.length
  once : ∀ runId, ((t.journals runId).events.map fun row => row.stored.typed.eventId).Nodup
  kept : ∀ runId, (s.journals runId).events <+: (t.journals runId).events
  fenced : ∀ label, (∀ token, writerOf t label = some token →
      ¬ Authority.Active t.authority.table token (t.authority.clock + ticks label)) →
    ((machine codec).next t label).journals = t.journals ∧
      ((machine codec).next t label).blobs = t.blobs
  settled : Settled s t
  resettled : ∀ token outcome wait row, outcome.payload.runId = token.runId →
    Authority.Active t.authority.table token (t.authority.clock + wait) →
    (t.journals token.runId).terminal = some row →
    ∃ result, (machine codec).answer t (.settleTerminal token outcome wait .answered) =
        .replied (.answered result) ∧
      (row.payload = outcome.payload → result.status = .alreadyCommitted) ∧
      (row.payload ≠ outcome.payload → CollisionFree codec.terminalDigest →
        result.status = .conflict)
  checkpointHead : ∀ label runId,
    HeadAdvances (t.journals runId).checkpointHead
        (((machine codec).next t label).journals runId).checkpointHead ∧
      ((((machine codec).next t label).journals runId).checkpointHead ≠
          (t.journals runId).checkpointHead →
        ∃ sequence, (((machine codec).next t label).journals runId).checkpointHead = some sequence ∧
          ∀ current, (t.journals runId).checkpointHead = some current → current < sequence)

def eventRows (journal : Journal Data Content Digest) (event : AgentEvent Data) :
    List (EventRow Data Digest) :=
  journal.events.filter fun row => row.stored.typed.eventId == event.eventId

omit [DecidableEq Digest] in
theorem eventRows_length_le (once : (journal.events.map fun row => row.stored.typed.eventId).Nodup)
    (event : AgentEvent Data) : (eventRows journal event).length ≤ 1 := by
  have single : ((journal.events.map fun row => row.stored.typed.eventId).filter
      (· == event.eventId)).length ≤ 1 := by
    rw [← List.countP_eq_length_filter]
    exact List.nodup_iff_count_le_one.mp once event.eventId
  rwa [List.filter_map, List.length_map] at single

omit [DecidableEq Digest] in
theorem Recorded.only (recorded : RunJournal.Recorded codec journal event)
    (once : (journal.events.map fun row => row.stored.typed.eventId).Nodup) :
    ∃ payload row, RunJournal.eventPayload codec event = some payload ∧
      eventRows journal event = [row] ∧ row.stored.typed = eventTyped event ∧
      (CollisionFree codec.eventDigest → row.stored.payload = payload) := by
  obtain ⟨payload, valid, row, member, intact, typed, address⟩ := recorded
  have found : row ∈ eventRows journal event := by
    simp [eventRows, member, typed, eventTyped]
  have bounded := eventRows_length_le once event
  obtain ⟨other, rows⟩ := List.length_eq_one_iff.mp
    (Nat.le_antisymm bounded (List.length_pos_of_mem found))
  rw [rows, List.mem_singleton] at found
  subst found
  exact ⟨payload, row, valid, rows, typed, fun free =>
    (free _ _ _ _ (intact.1.trans address)).1⟩

theorem outputs_recorded (labels : List (Label Data Content Digest)) (sink : Nat)
    (event : AgentEvent Data)
    (emitted : .emitted sink event ∈ (machine codec).outputs (machine codec).init labels) :
    RunJournal.Recorded codec
      (((machine codec).exec (machine codec).init labels).journals event.runId) event := by
  refine (machine codec).outputs_lasting (Inv codec) next_inv
    (fun s answer => ∀ sink event, answer = .emitted sink event →
      RunJournal.Recorded codec (s.journals event.runId) event)
    (fun s label inv => (next_sinks inv label).2) ?_ _ (initial_inv codec) labels _ emitted sink
    event rfl
  intro s label answer _ recorded sink event same
  exact (recorded sink event same).grow (next_fenced codec s label event.runId).events_grow.subset

theorem fenced_run_journal (codec : JournalCodec Data Content Digest)
    (earlier later : List (Label Data Content Digest)) :
    let s := (machine codec).exec (machine codec).init earlier
    let t := (machine codec).exec s later
    RunJournals codec s t ∧
      (∀ runId event, (eventRows (t.journals runId) event).length ≤ 1) ∧
      ∀ sink event, .emitted sink event ∈
          (machine codec).outputs (machine codec).init (earlier ++ later) →
        ∃ payload row, RunJournal.eventPayload codec event = some payload ∧
          eventRows (t.journals event.runId) event = [row] ∧
          row.stored.typed = eventTyped event ∧
          (CollisionFree codec.eventDigest → row.stored.payload = payload) := by
  intro s t
  have whole : t = (machine codec).exec (machine codec).init (earlier ++ later) :=
    ((machine codec).exec_append _ _ _).symm
  have inv : Inv codec t := whole ▸ exec_inv (earlier ++ later)
  have once (runId : OpaqueId) := (inv.journals runId).ids
  refine ⟨?_, fun runId event => eventRows_length_le (once runId) event, ?_⟩
  · exact {
      numbered := fun runId => (inv.journals runId).numbered
      once
      kept := (machine codec).exec_related (fun _ => True) (fun _ _ _ => trivial)
        (fun a b => ∀ runId, (a.journals runId).events <+: (b.journals runId).events)
        (fun _ _ => List.prefix_rfl) (fun _ _ _ first second runId =>
          (first runId).trans (second runId))
        (fun a label _ runId => (next_fenced codec a label runId).events_grow) s trivial later
      fenced := next_stale t
      settled := (machine codec).exec_related (fun _ => True) (fun _ _ _ => trivial) Settled
        (fun _ _ _ terminal => ⟨terminal, rfl⟩) (fun _ _ _ first second runId row terminal =>
          have middle := first runId row terminal
          have last := second runId row middle.1
          ⟨last.1, last.2.trans middle.2⟩)
        (fun a label _ => next_settled a label) s trivial later
      resettled := fun token outcome wait row run active terminal =>
        settleTerminal_again inv token outcome wait run active row terminal
      checkpointHead := next_checkpointHead t }
  · intro sink event emitted
    rw [whole]
    exact Recorded.only (outputs_recorded _ sink event emitted) (whole ▸ once event.runId)

end FencedRun

end MonoidKernel
