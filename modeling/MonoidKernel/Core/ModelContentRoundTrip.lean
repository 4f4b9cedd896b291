import Mathlib.Data.List.Nodup
import MonoidKernel.Core.ModelContentRead

set_option autoImplicit false

namespace MonoidKernel.ModelContent

open Library (Machine PartsOf gapless gapless_prefix gapless_complete)

variable {Usage Digest : Type} [DecidableEq Digest] {contentDigest : PyText → Digest} {disk : Disk}

section Operations

variable {before after : List (Writer Usage)} {closed : Bool} {session : Session Usage Digest}

omit [DecidableEq Digest] in
theorem flushLocked_live (disk : Disk) (session : Session Usage Digest) :
    (flushLocked disk session).2.isLive = session.2.isLive := by
  unfold flushLocked
  split
  · rfl
  · rfl

omit [DecidableEq Digest] in
theorem flushIf_live (disk : Disk) (condition : Writer Usage → Bool)
    (session : Session Usage Digest) :
    (flushIf disk condition session).2.isLive = session.2.isLive := by
  unfold flushIf
  split
  · exact flushLocked_live disk session
  · rfl

theorem flushLocked_linked (linked : Linked contentDigest disk before after closed session)
    (live : session.2.isLive = true) :
    Linked contentDigest disk before after closed (flushLocked disk session) := by
  unfold flushLocked
  split
  next channel part parts hasChannel hasParts =>
    apply writeSegment_linked
    · exact linked.quiet rfl rfl rfl rfl id fun _ => id
    · exact live
  · exact linked

theorem flushIf_linked (condition : Writer Usage → Bool)
    (linked : Linked contentDigest disk before after closed session)
    (live : session.2.isLive = true) :
    Linked contentDigest disk before after closed (flushIf disk condition session) := by
  unfold flushIf
  split
  · exact flushLocked_linked linked live
  · exact linked

theorem takeChunk_linked (maxSegmentBytes : Nat) (channel : ModelStreamChannel) (chunk : Text)
    (linked : Linked contentDigest disk before after closed session)
    (live : session.2.isLive = true) :
    Linked contentDigest disk before after closed
      (takeChunk disk maxSegmentBytes channel chunk session) := by
  unfold takeChunk
  split
  · have switched := flushIf_linked (Writer.switches channel) linked live
    have stillLive := (flushIf_live disk (Writer.switches channel) session).trans live
    have room := flushIf_linked (Writer.overflows maxSegmentBytes chunk) switched stillLive
    have roomLive := (flushIf_live disk (Writer.overflows maxSegmentBytes chunk)
      (flushIf disk (Writer.switches channel) session)).trans stillLive
    apply flushIf_linked
    · exact room.quiet rfl rfl rfl rfl id fun _ => id
    · exact roomLive
  · have written := writeSegment_linked linked live channel chunk
    exact written.quiet rfl rfl rfl rfl id fun _ => id

theorem pushNext_linked (maxSegmentBytes : Nat)
    (linked : Linked contentDigest disk before after closed session)
    (balanced : session.2.Balanced) :
    Linked contentDigest disk before after closed (pushNext disk maxSegmentBytes session) := by
  unfold pushNext
  split
  · exact linked
  next channel chunk rest busy =>
    have live : session.2.isLive = true := by
      by_contra ended
      rw [Bool.not_eq_true] at ended
      rw [(balanced.ended ended).2] at busy
      cases busy
    apply takeChunk_linked
    · exact linked.quiet rfl rfl rfl rfl id fun _ => id
    · exact live

theorem push_linked (maxSegmentBytes : Nat) (delta : ModelStreamDelta)
    (linked : Linked contentDigest disk before after closed session) :
    Linked contentDigest disk before after closed
      (session.1, session.2.push maxSegmentBytes delta) := by
  unfold Writer.push
  split
  · exact linked
  · split
    · exact linked.quiet rfl rfl rfl rfl id fun _ => id
    · exact linked

theorem flushPending_linked (linked : Linked contentDigest disk before after closed session) :
    Linked contentDigest disk before after closed (flushPending disk session) := by
  unfold flushPending
  split
  next ready => exact flushLocked_linked linked (Writer.ready_spec ready).1
  · exact linked

theorem ending_linked (linked : Linked contentDigest disk before after closed session)
    (ready : session.2.ready = true) {ending : Ending Usage} (unrecorded : ending.record = none)
    (ended : ∀ writer : Writer Usage, { writer with ending := ending }.isLive = false)
    (unrefused : ∀ outcome, ending ≠ .closed outcome false) :
    Linked contentDigest disk before after closed ((flushLocked disk session).1,
      { (flushLocked disk session).2 with ending := ending }) := by
  have live := (Writer.ready_spec ready).1
  have flushed := flushLocked_linked linked live
  have before := record_live ((flushLocked_live disk session).trans live)
  exact flushed.quiet rfl rfl rfl (unrecorded.trans before.symm)
    (fun contra => by rw [ended] at contra; cases contra)
    (fun outcome same => absurd same (unrefused outcome))

theorem beginClose_linked (outcome : ModelStreamOutcome Usage)
    (linked : Linked contentDigest disk before after closed session) :
    Linked contentDigest disk before after closed (beginClose disk outcome session) := by
  unfold beginClose
  split
  next ready => exact ending_linked linked ready rfl (fun _ => rfl) fun _ => by simp
  · exact linked

theorem abandon_linked (linked : Linked contentDigest disk before after closed session) :
    Linked contentDigest disk before after closed (abandon disk session) := by
  unfold abandon
  split
  next ready => exact ending_linked linked ready rfl (fun _ => rfl) fun _ => by simp
  · exact linked

theorem readLine_closed {state : ReadState Usage Digest} {before' after' : Streams Usage}
    {recovered : RecoveredStream Usage} {writer : Writer Usage}
    (found : state.streams = before' ++ recovered :: after')
    (follows : Follows writer recovered) (unrecorded : writer.ending.record = none)
    (othersBefore : Others before' recovered.context.streamId)
    (othersAfter : Others after' recovered.context.streamId)
    (outcome : ModelStreamOutcome Usage) :
    (readLine contentDigest state (some (closedRecord writer.context outcome))).streams =
      before' ++ recovered.close outcome :: after' := by
  have status := follows.open unrecorded
  have accepted : applyClose state.streams writer.context.runId writer.context.streamId
      outcome.status (outcome.finalText.map normalizeUnicodeScalars) outcome.usage
      outcome.errorCode outcome.retryable outcome.configRecoverable =
        some (before' ++ recovered.close outcome :: after') := by
    unfold applyClose
    rw [found, ← follows.context, lookup_here othersBefore]
    dsimp only
    rw [if_neg (by simp [status]), update_here othersBefore othersAfter]
    rfl
  unfold readLine closedRecord
  dsimp only
  rw [accepted]

theorem finishClose_linked (linked : Linked contentDigest disk before after closed session) :
    Linked contentDigest disk before after closed (finishClose disk session) := by
  unfold finishClose
  split
  next outcome closing =>
    have unrecorded : session.2.ending.record = none := by
      rw [closing]
      rfl
    have flags := append_flags disk session.1 (closedRecord session.2.context outcome)
    constructor
    · exact linked.others
    · obtain ⟨before', recovered, after', found, earlier, here, later⟩ :=
        forall₂_split linked.reads
      have othersBefore : Others before' recovered.context.streamId := by
        rw [here.1.context]
        exact forall₂_others earlier fun other member =>
          linked.others other (List.mem_append_left _ member)
      have othersAfter : Others after' recovered.context.streamId := by
        rw [here.1.context]
        exact forall₂_others later fun other member =>
          linked.others other (List.mem_append_right _ member)
      have whole := here.1.whole
      rw [unrecorded] at whole
      unfold Reads
      dsimp only
      cases append_other disk session.1 (show (closedRecord session.2.context outcome :
          Record Usage Digest).isSegment = false from rfl) with
      | inl kept =>
        rw [kept.1, kept.2, readLines_concat,
          readLine_closed found here.1 unrecorded othersBefore othersAfter]
        refine forall₂_join earlier ⟨?_, here.2⟩ later
        constructor
        · rw [whole]
          rfl
        · exact here.1.parts
        · exact here.1.numbered
      | inr lost =>
        have streams : (readLines contentDigest (session.1.append disk
            (closedRecord session.2.context outcome)).1.file).streams =
              (readLines contentDigest session.1.file).streams := by
          cases lost.2 with
          | inl same => rw [same]
          | inr torn => rw [torn, readLines_unreadable]
        rw [lost.1, streams, found]
        refine forall₂_join earlier ⟨?_, here.2⟩ later
        exact ⟨whole, here.1.parts, here.1.numbered⟩
    · exact fun perfect => flags.2.2 perfect (linked.intact perfect)
    · exact flags.1.trans linked.flag
    · intro live; cases live
    · intro perfect openStore other same
      have accepted : (session.1.append disk
          (closedRecord session.2.context outcome)).2 = true := by
        have intact := linked.intact perfect
        have opened := linked.flag.trans openStore
        unfold Store.append
        rw [intact, opened, (perfect session.1.appends).1]
        rfl
      dsimp only at same
      rw [accepted] at same
      cases same
  · exact linked

end Operations

section Runs

def State.streamIds (state : State Usage Digest) : List Text :=
  state.writers.map (·.context.streamId)

structure State.Inv (contentDigest : PyText → Digest) (disk : Disk) (state : State Usage Digest) :
    Prop where
  distinct : state.streamIds.Nodup
  balanced : ∀ writer ∈ state.writers, writer.Balanced
  reads : Reads contentDigest disk state.store.file state.writers
  intact : disk.Perfect → state.store.disabled = false
  ended : state.store.closed = true → ∀ writer ∈ state.writers, writer.isLive = false
  lasting : disk.Perfect → state.store.closed = false →
    ∀ writer ∈ state.writers, ∀ outcome, writer.ending ≠ .closed outcome false

theorem init_inv (runId : Text) :
    State.Inv contentDigest disk (⟨Store.init runId, []⟩ : State Usage Digest) where
  distinct := List.nodup_nil
  balanced := by simp
  reads := List.Forall₂.nil
  intact := fun _ => rfl
  ended := by simp
  lasting := by simp

structure Operation (contentDigest : PyText → Digest) (disk : Disk)
    (operation : Session Usage Digest → Session Usage Digest) : Prop where
  preserved : ∀ session, session.2.Balanced → Preserved session.2 (operation session).2
  linked : ∀ before after closed session, session.2.Balanced →
    Linked contentDigest disk before after closed session →
      Linked contentDigest disk before after closed (operation session)

omit [DecidableEq Digest] in
theorem at_cases (state : State Usage Digest) (index : Nat)
    (operation : Session Usage Digest → Session Usage Digest) :
    state.at index operation = state ∨ ∃ before writer after,
      state.writers = before ++ writer :: after ∧
        state.at index operation = ⟨(operation (state.store, writer)).1,
          before ++ (operation (state.store, writer)).2 :: after⟩ := by
  unfold State.at
  split
  · exact .inl rfl
  next writer found =>
    obtain ⟨inside, here⟩ := List.getElem?_eq_some_iff.mp found
    have split : state.writers =
        state.writers.take index ++ writer :: state.writers.drop (index + 1) := by
      rw [← here, List.getElem_cons_drop, List.take_append_drop]
    refine .inr ⟨state.writers.take index, writer, state.writers.drop (index + 1), split, ?_⟩
    dsimp only
    rw [List.set_eq_take_append_cons_drop, if_pos inside]

variable {writer : Writer Usage}

omit [DecidableEq Digest] in
theorem others_of_distinct {before after : List (Writer Usage)}
    (distinct : ((before ++ writer :: after).map (·.context.streamId)).Nodup) :
    ∀ other ∈ before ++ after, other.context.streamId ≠ writer.context.streamId := by
  rw [List.map_append, List.map_cons, List.nodup_middle, ← List.map_append,
    List.nodup_cons] at distinct
  intro other member same
  exact distinct.1 (List.mem_map.mpr ⟨other, member, same⟩)

theorem forall_replaced {A : Type} {holds : A → Prop} {before after : List A} {a b : A}
    (all : ∀ x ∈ before ++ a :: after, holds x) (here : holds a → holds b) :
    ∀ x ∈ before ++ b :: after, holds x := by
  simp only [List.forall_mem_append, List.forall_mem_cons] at all ⊢
  exact ⟨all.1, here all.2.1, all.2.2⟩

variable {state : State Usage Digest}

theorem at_inv (inv : state.Inv contentDigest disk) (index : Nat)
    {operation : Session Usage Digest → Session Usage Digest}
    (sound : Operation contentDigest disk operation) :
    (state.at index operation).Inv contentDigest disk ∧
      (state.at index operation).streamIds = state.streamIds := by
  cases at_cases state index operation with
  | inl same =>
    rw [same]
    exact ⟨inv, rfl⟩
  | inr changed =>
    obtain ⟨before, writer, after, writers, result⟩ := changed
    have member : writer ∈ state.writers := by
      rw [writers]
      exact List.mem_append_right _ List.mem_cons_self
    have balanced := inv.balanced writer member
    have preserved := sound.preserved (state.store, writer) balanced
    have distinct := inv.distinct
    unfold State.streamIds at distinct
    rw [writers] at distinct
    have linked : Linked contentDigest disk before after state.store.closed
        (state.store, writer) := by
      constructor
      · exact others_of_distinct distinct
      · rw [← writers]
        exact inv.reads
      · exact inv.intact
      · rfl
      · intro live
        by_contra closed
        rw [Bool.not_eq_false] at closed
        have ended := inv.ended closed writer member
        rw [live] at ended
        cases ended
      · exact fun perfect openStore => inv.lasting perfect openStore writer member
    have after_op := sound.linked before after state.store.closed (state.store, writer) balanced
      linked
    have sameIds : (state.at index operation).streamIds = state.streamIds := by
      unfold State.streamIds
      rw [result, writers]
      simp [preserved.context]
    constructor
    · constructor
      · rw [sameIds]
        exact inv.distinct
      · have all := inv.balanced
        rw [writers] at all
        rw [result]
        exact forall_replaced all fun _ => preserved.balanced
      · rw [result]
        exact after_op.reads
      · rw [result]
        exact after_op.intact
      · rw [result]
        intro closed
        have all := inv.ended (after_op.flag.symm.trans closed)
        rw [writers] at all
        apply forall_replaced all
        intro ended
        by_contra live
        rw [Bool.not_eq_false] at live
        rw [preserved.live live] at ended
        cases ended
      · rw [result]
        intro perfect openStore
        have wasOpen : state.store.closed = false := after_op.flag.symm.trans openStore
        have all := inv.lasting perfect wasOpen
        rw [writers] at all
        exact forall_replaced all fun _ => after_op.lasting perfect wasOpen
    · exact sameIds

theorem push_operation (maxSegmentBytes : Nat) (delta : ModelStreamDelta) :
    Operation contentDigest disk fun session : Session Usage Digest =>
      (session.1, session.2.push maxSegmentBytes delta) where
  preserved := fun _ balanced => push_preserved maxSegmentBytes balanced delta
  linked := fun _ _ _ _ _ linked => push_linked maxSegmentBytes delta linked

theorem pushNext_operation (maxSegmentBytes : Nat) : Operation contentDigest disk
    (pushNext disk maxSegmentBytes : Session Usage Digest → Session Usage Digest) where
  preserved := fun _ balanced => pushNext_preserved disk maxSegmentBytes balanced
  linked := fun _ _ _ _ balanced linked => pushNext_linked maxSegmentBytes linked balanced

theorem flushPending_operation : Operation contentDigest disk
    (flushPending disk : Session Usage Digest → Session Usage Digest) where
  preserved := fun _ balanced => flushPending_preserved disk balanced
  linked := fun _ _ _ _ _ linked => flushPending_linked linked

theorem beginClose_operation (outcome : ModelStreamOutcome Usage) : Operation contentDigest disk
    (beginClose disk outcome : Session Usage Digest → Session Usage Digest) where
  preserved := fun _ balanced => beginClose_preserved disk balanced outcome
  linked := fun _ _ _ _ _ linked => beginClose_linked outcome linked

theorem finishClose_operation : Operation contentDigest disk
    (finishClose disk : Session Usage Digest → Session Usage Digest) where
  preserved := fun _ balanced => finishClose_preserved disk balanced
  linked := fun _ _ _ _ _ linked => finishClose_linked linked

theorem abandon_operation : Operation contentDigest disk
    (abandon disk : Session Usage Digest → Session Usage Digest) where
  preserved := fun _ balanced => abandon_preserved disk balanced
  linked := fun _ _ _ _ _ linked => abandon_linked linked

theorem flushEach_inv (inv : state.Inv contentDigest disk) (order : List Nat) :
    (order.foldl (fun state index => state.at index (flushPending disk)) state).Inv
        contentDigest disk ∧
      (order.foldl (fun state index => state.at index (flushPending disk)) state).streamIds =
        state.streamIds := by
  induction order generalizing state with
  | nil => exact ⟨inv, rfl⟩
  | cons index rest ih =>
    rw [List.foldl_cons]
    have first := at_inv inv index flushPending_operation
    have others := ih first.1
    exact ⟨others.1, others.2.trans first.2⟩

theorem flush_inv (inv : state.Inv contentDigest disk) (order : List Nat) :
    (state.flush disk order).1.Inv contentDigest disk ∧
      (state.flush disk order).1.streamIds = state.streamIds := by
  unfold State.flush
  split
  · exact ⟨inv, rfl⟩
  · exact flushEach_inv inv order

theorem State.Inv.store (inv : state.Inv contentDigest disk) {store : Store Usage Digest}
    (streams : (readLines contentDigest store.file).streams =
      (readLines contentDigest state.store.file).streams)
    (intact : disk.Perfect → store.disabled = false) (closed : store.closed = state.store.closed) :
    State.Inv contentDigest disk ⟨store, state.writers⟩ where
  distinct := inv.distinct
  balanced := inv.balanced
  reads := by
    unfold Reads
    rw [streams]
    exact inv.reads
  intact := intact
  ended := fun now => inv.ended (closed.symm.trans now)
  lasting := fun perfect now => inv.lasting perfect (closed.symm.trans now)

theorem append_lost {store : Store Usage Digest} {record : Record Usage Digest}
    (lost : (store.append disk record).1.file = store.file ∨
      (store.append disk record).1.file = store.file ++ [none]) :
    (readLines contentDigest (store.append disk record).1.file).streams =
      (readLines contentDigest store.file).streams := by
  cases lost with
  | inl same => rw [same]
  | inr torn => rw [torn, readLines_unreadable]

theorem readLine_opened {state : ReadState Usage Digest} {context : ModelStreamContext}
    (readable : context.readable = true) (fresh : Others state.streams context.streamId) :
    (readLine contentDigest state (some (.streamOpened context))).streams =
      state.streams ++ [RecoveredStream.init context] := by
  have none : Streams.lookup state.streams context.streamId = Option.none := by
    unfold Streams.lookup
    rw [List.find?_eq_none]
    intro recovered member
    simpa using fresh recovered member
  unfold readLine
  dsimp only
  rw [readable, none]
  rfl

theorem openStream_inv (inv : state.Inv contentDigest disk) {context : ModelStreamContext}
    (readable : context.readable = true) (fresh : context.streamId ∉ state.streamIds) :
    (state.openStream disk context).Inv contentDigest disk ∧
      ((state.openStream disk context).streamIds = state.streamIds ∨
        (state.openStream disk context).streamIds = state.streamIds ++ [context.streamId]) := by
  unfold State.openStream
  split
  · exact ⟨inv, .inl rfl⟩
  · have flags := append_flags disk state.store (.streamOpened context)
    have intact := fun perfect => flags.2.2 perfect (inv.intact perfect)
    cases append_other disk state.store (show (Record.streamOpened context :
        Record Usage Digest).isSegment = false from rfl) with
    | inl kept =>
      dsimp only
      rw [kept.1, if_pos rfl]
      have ids : State.streamIds (⟨(state.store.append disk (.streamOpened context)).1,
          state.writers ++ [Writer.init context]⟩ : State Usage Digest) =
            state.streamIds ++ [context.streamId] := by
        simp [State.streamIds, Writer.init]
      constructor
      · constructor
        · rw [ids, List.nodup_append]
          refine ⟨inv.distinct, List.nodup_singleton _, ?_⟩
          intro first member second last same
          rw [List.mem_singleton] at last
          rw [same, last] at member
          exact fresh member
        · intro writer member
          cases List.mem_append.mp member with
          | inl before => exact inv.balanced writer before
          | inr last =>
            rw [List.mem_singleton.mp last]
            exact init_balanced context
        · have unknown : Others (readLines contentDigest state.store.file).streams
              context.streamId := by
            apply forall₂_others inv.reads
            intro writer member same
            exact fresh (List.mem_map.mpr ⟨writer, member, same⟩)
          unfold Reads
          dsimp only
          rw [kept.2, readLines_concat, readLine_opened readable unknown]
          apply forall₂_join inv.reads
          · refine ⟨⟨rfl, PartsOf.nil 0 [], rfl⟩, fun _ => rfl⟩
          · exact List.Forall₂.nil
        · exact intact
        · intro closed
          dsimp only at closed
          rw [flags.1] at closed
          rename_i accepting
          simp [closed] at accepting
        · intro perfect openStore writer member outcome
          cases List.mem_append.mp member with
          | inl before =>
            exact inv.lasting perfect (flags.1.symm.trans openStore) writer before outcome
          | inr last =>
            rw [List.mem_singleton.mp last]
            intro same
            cases same
      · exact .inr ids
    | inr lost =>
      dsimp only
      rw [lost.1]
      exact ⟨inv.store (append_lost lost.2) intact flags.1, .inl rfl⟩

theorem settledText_inv (inv : state.Inv contentDigest disk) (text : PyText) (digest : Digest)
    (textLen : Nat) :
    State.Inv contentDigest disk
      ⟨state.store.settledText disk contentDigest text digest textLen, state.writers⟩ := by
  have flags := append_flags disk state.store
    (.settledText state.store.runId (normalizeUnicodeScalars text) digest textLen)
  have streams : (readLines contentDigest (state.store.append disk (.settledText
      state.store.runId (normalizeUnicodeScalars text) digest textLen)).1.file).streams =
        (readLines contentDigest state.store.file).streams := by
    cases append_other disk state.store (show (Record.settledText state.store.runId
        (normalizeUnicodeScalars text) digest textLen : Record Usage Digest).isSegment = false
          from rfl) with
    | inl kept =>
      rw [kept.2, readLines_concat]
      unfold readLine
      dsimp only
      split
      · rfl
      · rfl
    | inr lost => exact append_lost lost.2
  have intact := fun perfect => flags.2.2 perfect (inv.intact perfect)
  unfold Store.settledText
  split
  · exact inv
  · split
    · exact inv
    · dsimp only
      split
      · exact inv.store streams intact flags.1
      · exact inv.store streams intact flags.1

theorem beginClosing_inv (inv : state.Inv contentDigest disk) :
    state.beginClosing.Inv contentDigest disk := by
  unfold State.beginClosing
  split
  · exact inv
  · exact inv.store rfl inv.intact rfl

theorem finishClosing_inv (inv : state.Inv contentDigest disk) :
    state.finishClosing.Inv contentDigest disk := by
  unfold State.finishClosing
  split
  next finished =>
    rw [Bool.and_eq_true, List.all_eq_true] at finished
    constructor
    · exact inv.distinct
    · exact inv.balanced
    · exact inv.reads
    · exact inv.intact
    · intro _ writer member
      simpa using finished.2 writer member
    · intro _ openStore
      cases openStore
  · exact inv

variable (maxSegmentBytes : Nat)

def Call.opens : Call Usage Digest → List ModelStreamContext
  | .openStream context => [context]
  | _ => []

theorem step_inv (inv : state.Inv contentDigest disk) (call : Call Usage Digest)
    (promised : ∀ context ∈ call.opens, context.readable = true)
    (fresh : ∀ context ∈ call.opens, context.streamId ∉ state.streamIds) :
    (state.step disk contentDigest maxSegmentBytes call).1.Inv contentDigest disk ∧
      List.Sublist (state.step disk contentDigest maxSegmentBytes call).1.streamIds
        (state.streamIds ++ call.opens.map (·.streamId)) := by
  have quiet : ∀ {next : State Usage Digest}, next.Inv contentDigest disk ∧
      next.streamIds = state.streamIds → next.Inv contentDigest disk ∧
        List.Sublist next.streamIds (state.streamIds ++ call.opens.map (·.streamId)) := by
    intro next kept
    rw [kept.2]
    exact ⟨kept.1, List.sublist_append_left _ _⟩
  cases call with
  | openStream context =>
    have opened := openStream_inv inv (promised context (List.mem_singleton_self _))
      (fresh context (List.mem_singleton_self _))
    constructor
    · exact opened.1
    · unfold State.step
      cases opened.2 with
      | inl same =>
        rw [same]
        exact List.sublist_append_left _ _
      | inr added =>
        rw [added]
        exact List.Sublist.refl _
  | push writer delta => exact quiet (at_inv inv writer (push_operation maxSegmentBytes delta))
  | pushNext writer => exact quiet (at_inv inv writer (pushNext_operation maxSegmentBytes))
  | flushDue writer => exact quiet (at_inv inv writer flushPending_operation)
  | flush order => exact quiet (flush_inv inv order)
  | beginClose writer outcome => exact quiet (at_inv inv writer (beginClose_operation outcome))
  | finishClose writer => exact quiet (at_inv inv writer finishClose_operation)
  | settledText text digest textLen => exact quiet ⟨settledText_inv inv text digest textLen, rfl⟩
  | beginClosing =>
    apply quiet
    constructor
    · exact beginClosing_inv inv
    · change state.beginClosing.streamIds = _
      unfold State.beginClosing
      split <;> rfl
  | abandon writer =>
    unfold State.step
    dsimp only
    split
    · exact quiet (at_inv inv writer abandon_operation)
    · exact quiet ⟨inv, rfl⟩
  | finishClosing =>
    apply quiet
    constructor
    · exact finishClosing_inv inv
    · change state.finishClosing.streamIds = _
      unfold State.finishClosing
      split <;> rfl

theorem exec_inv (runId : Text) (inv : state.Inv contentDigest disk)
    (calls : List (Call Usage Digest))
    (promised : ∀ context ∈ calls.flatMap Call.opens, context.readable = true)
    (distinct : (state.streamIds ++ (calls.flatMap Call.opens).map (·.streamId)).Nodup) :
    ((machine disk contentDigest maxSegmentBytes runId).exec state calls).Inv contentDigest
      disk := by
  induction calls generalizing state with
  | nil => exact inv
  | cons call rest ih =>
    rw [List.flatMap_cons, List.map_append, ← List.append_assoc] at distinct
    have start := List.nodup_append.mp (List.nodup_append.mp distinct).1
    have step := step_inv maxSegmentBytes inv call
      (fun context member => promised context (List.mem_flatMap.mpr
        ⟨call, List.mem_cons_self, member⟩))
      (fun context member known => start.2.2 context.streamId known context.streamId
        (List.mem_map.mpr ⟨context, member, rfl⟩) rfl)
    rw [Machine.exec_cons]
    apply ih step.1
    · intro context member
      apply promised
      rw [List.flatMap_cons]
      exact List.mem_append_right _ member
    · exact distinct.sublist (step.2.append (List.Sublist.refl _))

def Writer.takenText (writer : Writer Usage) (channel : ModelStreamChannel) : Text :=
  (writer.taken.filter fun delta => decide (delta.channel = channel)).flatMap
    fun delta => normalizeUnicodeScalars delta.text

omit [DecidableEq Digest] in
theorem takenText_content (writer : Writer Usage) (channel : ModelStreamChannel) :
    content channel (writer.taken.map (·.normalized)) = writer.takenText channel := by
  unfold Writer.takenText
  induction writer.taken with
  | nil => rfl
  | cons delta rest ih =>
    have step : content channel ((delta :: rest).map (·.normalized)) =
        (if delta.channel = channel then normalizeUnicodeScalars delta.text else []) ++
          content channel (rest.map (·.normalized)) := by
      simp [content, ModelStreamDelta.normalized]
    rw [step, ih, List.filter_cons]
    by_cases same : delta.channel = channel
    · simp [same]
    · simp [same]

structure ReadBack (disk : Disk) (storeClosed : Bool) (writer : Writer Usage)
    (snapshot : ModelContentSnapshot Usage) : Prop where
  context : snapshot.context = writer.context
  -- Both texts are what one prefix of the segments says.
  texts : ∃ kept, kept <+: writer.segments ∧ snapshot.outputText = content .output kept ∧
    snapshot.reasoningText = content .reasoning kept
  -- The segments are cut, in order, from what was taken.
  cut : tagged writer.segments <+: tagged (writer.taken.map (·.normalized))
  closed : ∀ outcome, writer.ending = .closed outcome true →
    snapshot.status = .settled outcome.status ∧
      snapshot.finalText = outcome.finalText.map normalizeUnicodeScalars ∧
      snapshot.usage = outcome.usage ∧ snapshot.errorCode = outcome.errorCode ∧
      snapshot.retryable = outcome.retryable ∧
      snapshot.configRecoverable = outcome.configRecoverable
  abandoned : (∀ outcome, writer.ending ≠ .closed outcome true) →
    snapshot.status = .abandoned ∧ snapshot.finalText = none
  exact : disk.Perfect → writer.isLive = false →
    snapshot.outputText = writer.takenText .output ∧
      snapshot.reasoningText = writer.takenText .reasoning
  -- Nothing but the end of the store keeps a stream that was closed without a terminal record.
  recorded : disk.Perfect → storeClosed = false →
    ∀ outcome persisted, writer.ending = .closed outcome persisted → persisted = true

omit [DecidableEq Digest] in
theorem ordered_eq {recovered : RecoveredStream Usage} (follows : Follows writer recovered) :
    recovered.ordered = gapless 0 recovered.segments := by
  unfold RecoveredStream.ordered
  rw [List.mergeSort_of_pairwise]
  apply follows.parts.increasing.imp
  intro first second before
  simpa using Nat.le_of_lt before

theorem snapshot_readBack {storeClosed : Bool} {recovered : RecoveredStream Usage}
    (follows : Follows writer recovered) (balanced : writer.Balanced)
    (complete : disk.Perfect → recovered.segments.length = writer.segments.length)
    (lasting : disk.Perfect → storeClosed = false → ∀ outcome,
      writer.ending ≠ .closed outcome false) :
    ReadBack disk storeClosed writer recovered.snapshot := by
  have ordered := ordered_eq follows
  constructor
  · exact follows.context
  · refine ⟨recovered.ordered, ?_, rfl, rfl⟩
    rw [ordered]
    exact gapless_prefix follows.parts
  · have account := balanced.account
    rw [Writer.progress, tagged_append, List.append_assoc] at account
    exact ⟨_, account⟩
  · intro outcome closed
    have whole := follows.whole
    rw [closed, Ending.record] at whole
    rw [whole]
    exact ⟨rfl, rfl, rfl, rfl, rfl, rfl⟩
  · intro unclosed
    have unrecorded : writer.ending.record = none := by
      unfold Ending.record
      split
      next outcome closed => exact absurd closed (unclosed outcome)
      · rfl
    have whole := follows.whole
    rw [unrecorded] at whole
    rw [whole]
    exact ⟨rfl, rfl⟩
  · intro perfect ended
    have all : recovered.ordered = writer.segments := by
      rw [ordered]
      exact gapless_complete follows.parts (complete perfect)
    have segments := balanced.ended_segments ended
    have texts : ∀ channel, content channel recovered.ordered = writer.takenText channel := by
      intro channel
      rw [all, content_tagged, segments, ← content_tagged, takenText_content]
    exact ⟨texts .output, texts .reasoning⟩
  · intro perfect openStore outcome persisted closed
    by_contra refused
    rw [Bool.not_eq_true] at refused
    rw [refused] at closed
    exact lasting perfect openStore outcome closed

end Runs

section Example

def sampleContext : ModelStreamContext :=
  ⟨['r'], ['r'], ['t'], ['s'], 1, none, none, ['Z']⟩

def sampleCalls : List (Call Unit Nat) :=
  [.openStream sampleContext, .push 0 ⟨.output, [0x48, 0x69]⟩, .pushNext 0,
    .push 0 ⟨.reasoning, [0x41]⟩, .pushNext 0, .flushDue 0,
    .beginClose 0 ⟨.completed, none, none, none, false, false⟩, .finishClose 0]

def turnlessCalls : List (Call Unit Nat) := [.openStream { sampleContext with turnId := [] }]

end Example

end MonoidKernel.ModelContent
