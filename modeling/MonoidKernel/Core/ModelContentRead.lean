import Mathlib.Data.List.Forall2
import MonoidKernel.Core.ModelContentWriter

set_option autoImplicit false

namespace MonoidKernel.ModelContent

open Library (PartsOf gapless gapless_prefix gapless_complete)

variable {Usage Digest : Type} [DecidableEq Digest] (contentDigest : PyText → Digest)

section Streams

def Others (streams : Streams Usage) (streamId : Text) : Prop :=
  ∀ recovered ∈ streams, recovered.context.streamId ≠ streamId

theorem lookup_here {before after : Streams Usage} {recovered : RecoveredStream Usage}
    (others : Others before recovered.context.streamId) :
    Streams.lookup (before ++ recovered :: after) recovered.context.streamId = some recovered := by
  unfold Streams.lookup
  rw [List.find?_append]
  have none : before.find? (fun other =>
      decide (other.context.streamId = recovered.context.streamId)) = none := by
    rw [List.find?_eq_none]
    intro other member
    simpa using others other member
  rw [none]
  simp

theorem update_others {streams : Streams Usage} {streamId : Text}
    (others : Others streams streamId) (change : RecoveredStream Usage → RecoveredStream Usage) :
    Streams.update streams streamId change = streams := by
  unfold Streams.update
  induction streams with
  | nil => rfl
  | cons recovered rest ih =>
    have here := others recovered List.mem_cons_self
    rw [List.map_cons, if_neg here,
      ih fun other member => others other (List.mem_cons_of_mem _ member)]

theorem update_here {before after : Streams Usage} {recovered : RecoveredStream Usage}
    (othersBefore : Others before recovered.context.streamId)
    (othersAfter : Others after recovered.context.streamId)
    (change : RecoveredStream Usage → RecoveredStream Usage) :
    Streams.update (before ++ recovered :: after) recovered.context.streamId change =
      before ++ change recovered :: after := by
  have split : Streams.update (before ++ recovered :: after) recovered.context.streamId change =
      Streams.update before recovered.context.streamId change ++ change recovered ::
        Streams.update after recovered.context.streamId change := by
    simp [Streams.update]
  rw [split, update_others othersBefore, update_others othersAfter]

end Streams

section Follows

def Ending.record (ending : Ending Usage) : Option (ModelStreamOutcome Usage) :=
  match ending with
  | .closed outcome true => some outcome
  | _ => none

def RecoveredStream.close (recovered : RecoveredStream Usage) (outcome : ModelStreamOutcome Usage) :
    RecoveredStream Usage :=
  { recovered with
    status := some outcome.status
    finalText := outcome.finalText.map normalizeUnicodeScalars
    usage := outcome.usage
    errorCode := outcome.errorCode
    retryable := outcome.retryable
    configRecoverable := outcome.configRecoverable }

def recoveredOf (context : ModelStreamContext) (segments : List (Nat × ModelStreamChannel × Text))
    (record : Option (ModelStreamOutcome Usage)) : RecoveredStream Usage :=
  let opened := { RecoveredStream.init context with segments := segments }
  match record with
  | none => opened
  | some outcome => opened.close outcome

structure Follows (writer : Writer Usage) (recovered : RecoveredStream Usage) : Prop where
  whole : recovered = recoveredOf writer.context recovered.segments writer.ending.record
  parts : PartsOf 0 writer.segments recovered.segments
  numbered : writer.nextSegmentIndex = writer.segments.length

theorem recoveredOf_context (context : ModelStreamContext)
    (segments : List (Nat × ModelStreamChannel × Text))
    (record : Option (ModelStreamOutcome Usage)) :
    (recoveredOf context segments record).context = context := by
  cases record <;> rfl

theorem Follows.context {writer : Writer Usage} {recovered : RecoveredStream Usage}
    (follows : Follows writer recovered) : recovered.context = writer.context := by
  rw [follows.whole]
  exact recoveredOf_context _ _ _

theorem Follows.open {writer : Writer Usage} {recovered : RecoveredStream Usage}
    (follows : Follows writer recovered) (none : writer.ending.record = none) :
    recovered.status = Option.none := by
  rw [follows.whole, none]
  rfl

variable (disk : Disk)

def Reads (file : List (Line Usage Digest)) (writers : List (Writer Usage)) : Prop :=
  List.Forall₂ (fun writer recovered => Follows writer recovered ∧
      (disk.Perfect → recovered.segments.length = writer.segments.length))
    writers (readLines contentDigest file).streams

variable (file : List (Line Usage Digest))

theorem readLines_append (lines : List (Line Usage Digest)) :
    readLines contentDigest (file ++ lines) =
      lines.foldl (readLine contentDigest) (readLines contentDigest file) :=
  List.foldl_append

theorem readLines_concat (line : Line Usage Digest) :
    readLines contentDigest (file ++ [line]) =
      readLine contentDigest (readLines contentDigest file) line := by
  rw [readLines_append, List.foldl_cons, List.foldl_nil]

theorem readLines_unreadable :
    (readLines contentDigest (file ++ [none])).streams =
    (readLines contentDigest file).streams := by
  rw [readLines_concat]
  rfl

theorem forall₂_split {A B : Type} {relation : A → B → Prop} {before after : List A} {a : A}
    {list : List B} (related : List.Forall₂ relation (before ++ a :: after) list) :
    ∃ before' b after', list = before' ++ b :: after' ∧ List.Forall₂ relation before before' ∧
      relation a b ∧ List.Forall₂ relation after after' := by
  induction before generalizing list with
  | nil =>
    rw [List.nil_append, List.forall₂_cons_left_iff] at related
    obtain ⟨b, after', here, rest, rfl⟩ := related
    exact ⟨[], b, after', rfl, List.Forall₂.nil, here, rest⟩
  | cons first others ih =>
    rw [List.cons_append, List.forall₂_cons_left_iff] at related
    obtain ⟨first', rest', here, rest, rfl⟩ := related
    obtain ⟨before', b, after', rfl, earlier, same, later⟩ := ih rest
    exact ⟨first' :: before', b, after', rfl, List.Forall₂.cons here earlier, same, later⟩

theorem forall₂_join {A B : Type} {relation : A → B → Prop} {before after : List A} {a : A}
    {before' after' : List B} {b : B} (earlier : List.Forall₂ relation before before')
    (here : relation a b) (later : List.Forall₂ relation after after') :
    List.Forall₂ relation (before ++ a :: after) (before' ++ b :: after') :=
  List.rel_append earlier (List.Forall₂.cons here later)

theorem forall₂_others {writers : List (Writer Usage)} {streams : Streams Usage} {streamId : Text}
    {extra : Writer Usage → RecoveredStream Usage → Prop}
    (related : List.Forall₂ (fun writer recovered => Follows writer recovered ∧
      extra writer recovered) writers streams)
    (others : ∀ writer ∈ writers, writer.context.streamId ≠ streamId) :
    Others streams streamId := by
  induction related with
  | nil => intro recovered member; cases member
  | cons here rest ih =>
    intro recovered member
    cases List.mem_cons.mp member with
    | inl same =>
      rw [same, here.1.context]
      exact others _ List.mem_cons_self
    | inr later =>
      exact ih (fun writer inside => others writer (List.mem_cons_of_mem _ inside)) recovered later

end Follows

section Appends

variable (disk : Disk)

variable (store : Store Usage Digest)

omit [DecidableEq Digest] in
theorem append_flags (record : Record Usage Digest) :
    (store.append disk record).1.closed = store.closed ∧
      (store.append disk record).1.closing = store.closing ∧
      (disk.Perfect → store.disabled = false →
        (store.append disk record).1.disabled = false) := by
  unfold Store.append
  split
  · exact ⟨rfl, rfl, fun _ intact => intact⟩
  · split
    · exact ⟨rfl, rfl, fun _ intact => intact⟩
    next failed => exact ⟨rfl, rfl, fun perfect => absurd (perfect store.appends).1 failed⟩

omit [DecidableEq Digest] in
theorem append_segment {record : Record Usage Digest} (isSegment : record.isSegment = true) :
    (store.append disk record).1.file = store.file ++ [some record] ∨
      ((store.append disk record).1.file = store.file ∨
        (store.append disk record).1.file = store.file ++ [none]) ∧
      (disk.Perfect → store.disabled = false → store.closed = false → False) := by
  unfold Store.append
  split
  next refused =>
    right
    constructor
    · exact .inl rfl
    · intro _ intact opened
      simp [intact, opened] at refused
  · split
    · dsimp only [linesLeft]
      rw [if_pos isSegment]
      cases fate : disk.segment store.appends with
      | kept => exact .inl rfl
      | unreadable =>
        exact .inr ⟨.inr rfl, fun perfect => by
          have kept := (perfect store.appends).2
          rw [fate] at kept
          cases kept⟩
      | missing =>
        exact .inr ⟨.inl (List.append_nil _), fun perfect => by
          have kept := (perfect store.appends).2
          rw [fate] at kept
          cases kept⟩
    next failed => exact .inr ⟨.inr rfl, fun perfect => absurd (perfect store.appends).1 failed⟩

omit [DecidableEq Digest] in
theorem append_other {record : Record Usage Digest} (other : record.isSegment = false) :
    (store.append disk record).2 = true ∧
        (store.append disk record).1.file = store.file ++ [some record] ∨
      (store.append disk record).2 = false ∧
        ((store.append disk record).1.file = store.file ∨
          (store.append disk record).1.file = store.file ++ [none]) := by
  unfold Store.append
  split
  · exact .inr ⟨rfl, .inl rfl⟩
  · split
    · dsimp only [linesLeft]
      rw [other]
      exact .inl ⟨rfl, rfl⟩
    · exact .inr ⟨rfl, .inr rfl⟩

end Appends

section Link

variable (disk : Disk) (before after : List (Writer Usage)) (closed : Bool)

structure Linked (session : Session Usage Digest) : Prop where
  others : ∀ writer ∈ before ++ after, writer.context.streamId ≠ session.2.context.streamId
  reads : Reads contentDigest disk session.1.file (before ++ session.2 :: after)
  intact : disk.Perfect → session.1.disabled = false
  flag : session.1.closed = closed
  opened : session.2.isLive = true → closed = false
  -- Only a closed or a failed store refuses a terminal record.
  lasting : disk.Perfect → closed = false → ∀ outcome, session.2.ending ≠ .closed outcome false

variable {contentDigest disk before after closed}

variable {writer : Writer Usage}

theorem Linked.quiet {store : Store Usage Digest} {writer' : Writer Usage}
    (linked : Linked contentDigest disk before after closed (store, writer))
    (context : writer'.context = writer.context) (segments : writer'.segments = writer.segments)
    (index : writer'.nextSegmentIndex = writer.nextSegmentIndex)
    (record : writer'.ending.record = writer.ending.record)
    (live : writer'.isLive = true → writer.isLive = true)
    (refused : ∀ outcome, writer'.ending = .closed outcome false →
      writer.ending = .closed outcome false) :
    Linked contentDigest disk before after closed (store, writer') where
  others := by
    rw [context]
    exact linked.others
  reads := by
    obtain ⟨before', recovered, after', found, earlier, here, later⟩ := forall₂_split linked.reads
    unfold Reads
    rw [found]
    refine forall₂_join earlier ⟨?_, ?_⟩ later
    · constructor
      · rw [context, record]
        exact here.1.whole
      · rw [segments]
        exact here.1.parts
      · rw [index, segments]
        exact here.1.numbered
    · rw [segments]
      exact here.2
  intact := linked.intact
  flag := linked.flag
  opened := fun now => linked.opened (live now)
  lasting := fun perfect openStore outcome now =>
    linked.lasting perfect openStore outcome (refused outcome now)

omit [DecidableEq Digest] in
theorem record_live (live : writer.isLive = true) :
    writer.ending.record = none := by
  unfold Writer.isLive at live
  split at live
  next here =>
    rw [here]
    rfl
  · cases live

theorem readLine_segment {state : ReadState Usage Digest} {before' after' : Streams Usage}
    {recovered : RecoveredStream Usage} (found : state.streams = before' ++ recovered :: after')
    (follows : Follows writer recovered) (live : writer.isLive = true)
    (othersBefore : Others before' recovered.context.streamId)
    (othersAfter : Others after' recovered.context.streamId) (channel : ModelStreamChannel)
    (text : Text) :
    (readLine contentDigest state (some (.streamSegment writer.context.runId
        writer.context.streamId writer.nextSegmentIndex channel text text.length))).streams =
      before' ++ { recovered with
        segments := recovered.segments ++ [(writer.segments.length, channel, text)] } ::
          after' := by
  have status := follows.open (record_live live)
  have fresh := follows.parts.fresh
  have accepted : applySegment state.streams writer.context.runId writer.context.streamId
      writer.nextSegmentIndex channel text text.length =
        some (before' ++ { recovered with
          segments := recovered.segments ++ [(writer.segments.length, channel, text)] } ::
            after') := by
    unfold applySegment
    rw [found, ← follows.context, lookup_here othersBefore]
    dsimp only
    rw [follows.numbered, if_neg (by simp [status, fresh]),
      update_here othersBefore othersAfter]
  unfold readLine
  dsimp only
  rw [accepted]

theorem writeSegment_linked {session : Session Usage Digest}
    (linked : Linked contentDigest disk before after closed session)
    (live : session.2.isLive = true)
    (channel : ModelStreamChannel) (text : Text) :
    Linked contentDigest disk before after closed (writeSegment disk channel text session) := by
  obtain ⟨store, writer⟩ := session
  have flags := append_flags disk store
    (.streamSegment writer.context.runId writer.context.streamId writer.nextSegmentIndex channel
      text text.length)
  have opened : store.closed = false := linked.flag.trans (linked.opened live)
  constructor
  · exact linked.others
  · obtain ⟨before', recovered, after', found, earlier, here, later⟩ := forall₂_split linked.reads
    have numbered : writer.nextSegmentIndex = writer.segments.length := here.1.numbered
    have othersBefore : Others before' recovered.context.streamId := by
      rw [here.1.context]
      exact forall₂_others earlier fun other member =>
        linked.others other (List.mem_append_left _ member)
    have othersAfter : Others after' recovered.context.streamId := by
      rw [here.1.context]
      exact forall₂_others later fun other member =>
        linked.others other (List.mem_append_right _ member)
    have lost : Follows { writer with
        nextSegmentIndex := writer.nextSegmentIndex + 1
        segments := writer.segments ++ [(channel, text)] } recovered := by
      constructor
      · exact here.1.whole
      · exact here.1.parts.grow (channel, text)
      · simp [numbered]
    have fate := append_segment disk store (show (Record.streamSegment writer.context.runId
      writer.context.streamId writer.nextSegmentIndex channel text text.length :
        Record Usage Digest).isSegment = true from rfl)
    unfold Reads writeSegment
    dsimp only
    cases fate with
    | inl kept =>
      rw [kept, readLines_concat, readLine_segment found here.1 live othersBefore othersAfter]
      refine forall₂_join earlier ⟨?_, ?_⟩ later
      · constructor
        · have whole := here.1.whole
          have status := record_live live
          dsimp only
          rw [status] at whole ⊢
          rw [whole]
          rfl
        · exact here.1.parts.concat (channel, text)
        · simp [numbered]
      · intro perfect
        have whole : recovered.segments.length = writer.segments.length := here.2 perfect
        simp [whole]
    | inr missing =>
      have streams : (readLines contentDigest (store.append disk (.streamSegment
          writer.context.runId writer.context.streamId writer.nextSegmentIndex channel text
          text.length)).1.file).streams = (readLines contentDigest store.file).streams := by
        cases missing.1 with
        | inl same => rw [same]
        | inr torn => rw [torn, readLines_unreadable]
      rw [streams, found]
      refine forall₂_join earlier ⟨lost, ?_⟩ later
      intro perfect
      exact (missing.2 perfect (linked.intact perfect) opened).elim
  · exact fun perfect => flags.2.2 perfect (linked.intact perfect)
  · exact flags.1.trans linked.flag
  · exact linked.opened
  · exact linked.lasting

end Link

end MonoidKernel.ModelContent
