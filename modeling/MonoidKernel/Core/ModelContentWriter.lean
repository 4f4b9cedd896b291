import MonoidKernel.Core.ModelContent

set_option autoImplicit false

namespace MonoidKernel.ModelContent

variable {Usage Digest : Type}

def tagged (segments : List (ModelStreamChannel × Text)) : List (ModelStreamChannel × Char) :=
  segments.flatMap fun segment => segment.2.map (segment.1, ·)

@[simp] theorem tagged_nil : tagged [] = [] := rfl

@[simp] theorem tagged_cons (segment : ModelStreamChannel × Text)
    (rest : List (ModelStreamChannel × Text)) :
    tagged (segment :: rest) = segment.2.map (segment.1, ·) ++ tagged rest := by
  simp [tagged]

@[simp] theorem tagged_append (earlier later : List (ModelStreamChannel × Text)) :
    tagged (earlier ++ later) = tagged earlier ++ tagged later := by
  simp [tagged]

theorem tagged_chunks (channel : ModelStreamChannel) (chunks : List Text) :
    tagged (chunks.map (channel, ·)) = chunks.flatten.map (channel, ·) := by
  induction chunks with
  | nil => rfl
  | cons chunk rest ih => simp [ih]

theorem content_tagged (channel : ModelStreamChannel)
    (segments : List (ModelStreamChannel × Text)) :
    content channel segments =
      ((tagged segments).filter fun character => decide (character.1 = channel)).map Prod.snd := by
  induction segments with
  | nil => rfl
  | cons segment rest ih =>
    have step : content channel (segment :: rest) =
        (if segment.1 = channel then segment.2 else []) ++ content channel rest := by
      simp [content]
    rw [step, ih, tagged_cons, List.filter_append, List.map_append]
    congr 1
    split
    next same => simp [List.filter_map, Function.comp_def, same]
    next other => simp [List.filter_map, Function.comp_def, other]

def ModelStreamDelta.normalized (delta : ModelStreamDelta) : ModelStreamChannel × Text :=
  (delta.channel, normalizeUnicodeScalars delta.text)

namespace Writer

def buffered (writer : Writer Usage) : List (ModelStreamChannel × Text) :=
  match writer.bufferChannel with
  | none => []
  | some channel => writer.bufferParts.map (channel, ·)

def progress (writer : Writer Usage) : List (ModelStreamChannel × Char) :=
  tagged (writer.segments ++ writer.buffered)

structure Sound (writer : Writer Usage) : Prop where
  channel : writer.bufferChannel = none → writer.bufferParts = []
  first : writer.firstSegmentWritten = false → writer.bufferParts = []

structure Frame (before after : Writer Usage) : Prop where
  context : after.context = before.context
  pushing : after.pushing = before.pushing
  ending : after.ending = before.ending
  taken : after.taken = before.taken

theorem Frame.refl (writer : Writer Usage) : Frame writer writer := ⟨rfl, rfl, rfl, rfl⟩

theorem Frame.trans {a b c : Writer Usage} (first : Frame a b) (second : Frame b c) :
    Frame a c where
  context := second.context.trans first.context
  pushing := second.pushing.trans first.pushing
  ending := second.ending.trans first.ending
  taken := second.taken.trans first.taken

structure Balanced (writer : Writer Usage) : Prop where
  sound : writer.Sound
  account : writer.progress ++ tagged writer.pushing = tagged (writer.taken.map (·.normalized))
  -- Once the stream has ended nothing is held back.
  ended : writer.isLive = false → writer.bufferParts = [] ∧ writer.pushing = []

theorem buffered_nil {writer : Writer Usage} (empty : writer.bufferParts = []) :
    writer.buffered = [] := by
  unfold buffered
  split <;> simp [empty]

end Writer

variable (disk : Disk)

theorem writeSegment_writer (channel : ModelStreamChannel) (text : Text)
    (session : Session Usage Digest) :
    (writeSegment disk channel text session).2 =
      { session.2 with
        nextSegmentIndex := session.2.nextSegmentIndex + 1
        segments := session.2.segments ++ [(channel, text)] } := rfl

structure Flushed (before after : Writer Usage) : Prop where
  frame : Writer.Frame before after
  first : after.firstSegmentWritten = before.firstSegmentWritten
  empty : after.bufferParts = []
  progress : after.progress = before.progress

variable {session : Session Usage Digest}

theorem flushLocked_flushed (sound : session.2.Sound) :
    Flushed session.2 (flushLocked disk session).2 := by
  unfold flushLocked
  split
  next channel part parts hasChannel hasParts =>
    rw [writeSegment_writer]
    constructor
    · exact ⟨rfl, rfl, rfl, rfl⟩
    · rfl
    · rfl
    · have now : session.2.buffered = (part :: parts).map (channel, ·) := by
        unfold Writer.buffered
        rw [hasChannel, hasParts]
      unfold Writer.progress
      rw [now, tagged_append, tagged_append, tagged_append, tagged_chunks]
      simp [Writer.buffered]
  next none =>
    -- Either there is no channel, and then no part, or there is no part.
    have empty : session.2.bufferParts = [] := by
      cases hasParts : session.2.bufferParts with
      | nil => rfl
      | cons part parts =>
        cases hasChannel : session.2.bufferChannel with
        | none =>
          rw [sound.channel hasChannel] at hasParts
          cases hasParts
        | some channel => exact absurd hasParts (none channel part parts hasChannel)
    exact ⟨Writer.Frame.refl session.2, rfl, empty, rfl⟩

theorem Flushed.sound {before after : Writer Usage} (flushed : Flushed before after) :
    after.Sound := ⟨fun _ => flushed.empty, fun _ => flushed.empty⟩

theorem flushIf_spec (condition : Writer Usage → Bool) (sound : session.2.Sound) :
    Writer.Frame session.2 (flushIf disk condition session).2 ∧
      (flushIf disk condition session).2.Sound ∧
      (flushIf disk condition session).2.firstSegmentWritten = session.2.firstSegmentWritten ∧
      (flushIf disk condition session).2.progress = session.2.progress ∧
      ((flushIf disk condition session).2.bufferParts = [] ∨
        (flushIf disk condition session).2 = session.2 ∧ condition session.2 = false) := by
  unfold flushIf
  split
  · have flushed := flushLocked_flushed disk sound
    exact ⟨flushed.frame, flushed.sound, flushed.first, flushed.progress, .inl flushed.empty⟩
  next unmet =>
    rw [Bool.not_eq_true] at unmet
    exact ⟨Writer.Frame.refl _, sound, rfl, rfl, .inr ⟨rfl, unmet⟩⟩

variable {writer : Writer Usage}

theorem Writer.buffer_progress {channel : ModelStreamChannel}
    (aligned : writer.bufferParts = [] ∨ writer.bufferChannel = some channel) (chunk : Text) :
    (writer.buffer channel chunk).progress = writer.progress ++ tagged [(channel, chunk)] := by
  have whole : (writer.buffer channel chunk).buffered =
      writer.bufferParts.map (channel, ·) ++ [(channel, chunk)] := by
    simp [Writer.buffer, Writer.buffered]
  have before : writer.buffered = writer.bufferParts.map (channel, ·) := by
    cases aligned with
    | inl empty => rw [Writer.buffered_nil empty, empty, List.map_nil]
    | inr same => rw [Writer.buffered, same]
  unfold Writer.progress
  rw [whole, before]
  simp [Writer.buffer, tagged]

variable (maxSegmentBytes : Nat)

theorem takeChunk_spec (sound : session.2.Sound) (channel : ModelStreamChannel) (chunk : Text) :
    Writer.Frame session.2 (takeChunk disk maxSegmentBytes channel chunk session).2 ∧
      (takeChunk disk maxSegmentBytes channel chunk session).2.Sound ∧
      (takeChunk disk maxSegmentBytes channel chunk session).2.progress =
        session.2.progress ++ tagged [(channel, chunk)] := by
  unfold takeChunk
  split
  next written =>
    dsimp only
    have switched := flushIf_spec disk (Writer.switches channel) sound
    generalize flushIf disk (Writer.switches channel) session = first at switched
    have room := flushIf_spec disk (Writer.overflows maxSegmentBytes chunk) switched.2.1
    generalize flushIf disk (Writer.overflows maxSegmentBytes chunk) first = second at room
    have aligned : second.2.bufferParts = [] ∨ second.2.bufferChannel = some channel := by
      cases room.2.2.2.2 with
      | inl empty => exact .inl empty
      | inr kept =>
        rw [kept.1]
        cases switched.2.2.2.2 with
        | inl empty => exact .inl empty
        | inr same =>
          rw [same.1]
          cases hasChannel : session.2.bufferChannel with
          | none => exact .inl (sound.channel hasChannel)
          | some other =>
            have unswitched := same.2
            simp only [Writer.switches, hasChannel, Option.any_some, decide_eq_false_iff_not,
              Decidable.not_not] at unswitched
            rw [unswitched]
            exact .inr rfl
    have bufferSound : (second.2.buffer channel chunk).Sound := by
      constructor
      · intro missing; cases missing
      · intro unwritten
        have contra : second.2.firstSegmentWritten = false := unwritten
        rw [room.2.2.1, switched.2.2.1, written] at contra
        cases contra
    have full := flushIf_spec disk (Writer.full maxSegmentBytes)
      (show ((second.1, second.2.buffer channel chunk) : Session Usage Digest).2.Sound from
        bufferSound)
    have buffering : Writer.Frame second.2 (second.2.buffer channel chunk) :=
      ⟨rfl, rfl, rfl, rfl⟩
    have frame := switched.1.trans (room.1.trans (buffering.trans full.1))
    have progress := full.2.2.2.1
    rw [Writer.buffer_progress aligned, room.2.2.2.1, switched.2.2.2.1] at progress
    exact ⟨frame, full.2.1, progress⟩
  next unwritten =>
    rw [Bool.not_eq_true] at unwritten
    have none := sound.first unwritten
    have before : session.2.progress = tagged session.2.segments := by
      rw [Writer.progress, Writer.buffered_nil none, List.append_nil]
    constructor
    · exact ⟨rfl, rfl, rfl, rfl⟩
    · constructor
      · exact ⟨sound.channel, fun _ => none⟩
      · rw [before, Writer.progress, Writer.buffered_nil (by exact none), List.append_nil]
        exact tagged_append _ _

structure Preserved (before after : Writer Usage) : Prop where
  context : after.context = before.context
  balanced : after.Balanced
  live : after.isLive = true → before.isLive = true

theorem Writer.ready_spec (ready : writer.ready = true) :
    writer.isLive = true ∧ writer.pushing = [] := by
  unfold Writer.ready at ready
  unfold Writer.isLive
  split at ready
  next live idle => simp [live, idle]
  · cases ready

theorem Writer.Balanced.refl (balanced : writer.Balanced) :
    Preserved writer writer := ⟨rfl, balanced, id⟩

theorem Writer.isLive_congr {first second : Writer Usage} (same : first.ending = second.ending) :
    first.isLive = second.isLive := by
  unfold Writer.isLive
  rw [same]

theorem init_balanced (context : ModelStreamContext) :
    (Writer.init context : Writer Usage).Balanced where
  sound := ⟨fun _ => rfl, fun _ => rfl⟩
  account := rfl
  ended := fun _ => ⟨rfl, rfl⟩

theorem push_preserved (balanced : writer.Balanced) (delta : ModelStreamDelta) :
    Preserved writer (writer.push maxSegmentBytes delta) := by
  unfold Writer.push
  split
  · exact balanced.refl
  · split
    next ready =>
      have idle := Writer.ready_spec ready
      have account := balanced.account
      rw [idle.2, tagged_nil, List.append_nil] at account
      constructor
      · rfl
      · constructor
        · exact ⟨balanced.sound.channel, balanced.sound.first⟩
        · change writer.progress ++ tagged ((utf8Chunks _ maxSegmentBytes).map _) = _
          rw [account, tagged_chunks, utf8Chunks_flatten, List.map_append, tagged_append]
          simp [ModelStreamDelta.normalized]
        · intro ended
          change writer.isLive = false at ended
          rw [idle.1] at ended
          cases ended
      · exact fun live => live
    · exact balanced.refl

theorem pushNext_preserved (balanced : session.2.Balanced) :
    Preserved session.2 (pushNext disk maxSegmentBytes session).2 := by
  unfold pushNext
  split
  · exact balanced.refl
  next channel chunk rest busy =>
    have live : session.2.isLive = true := by
      by_contra ended
      rw [Bool.not_eq_true] at ended
      have idle := (balanced.ended ended).2
      rw [busy] at idle
      cases idle
    have taken := takeChunk_spec disk maxSegmentBytes
      (show ((session.1, { session.2 with pushing := rest }) : Session Usage Digest).2.Sound from
        ⟨balanced.sound.channel, balanced.sound.first⟩) channel chunk
    have sameEnding := Writer.isLive_congr taken.1.ending
    constructor
    · exact taken.1.context
    · constructor
      · exact taken.2.1
      · have account := balanced.account
        rw [busy, tagged_cons, ← List.append_assoc] at account
        rw [taken.2.2, taken.1.pushing, taken.1.taken, ← account]
        simp [Writer.progress, Writer.buffered]
      · intro ended
        rw [sameEnding] at ended
        exact absurd live (by simpa [Writer.isLive] using ended)
    · exact fun _ => live

theorem flushLocked_preserved (balanced : session.2.Balanced) :
    Preserved session.2 (flushLocked disk session).2 := by
  have flushed := flushLocked_flushed disk balanced.sound
  have sameEnding := Writer.isLive_congr flushed.frame.ending
  constructor
  · exact flushed.frame.context
  · constructor
    · exact flushed.sound
    · rw [flushed.progress, flushed.frame.pushing, flushed.frame.taken]
      exact balanced.account
    · intro ended
      rw [sameEnding] at ended
      rw [flushed.frame.pushing]
      exact ⟨flushed.empty, (balanced.ended ended).2⟩
  · rw [sameEnding]
    exact id

theorem flushPending_preserved (balanced : session.2.Balanced) :
    Preserved session.2 (flushPending disk session).2 := by
  unfold flushPending
  split
  · exact flushLocked_preserved disk balanced
  · exact balanced.refl

theorem ending_preserved (balanced : session.2.Balanced) (ready : session.2.ready = true)
    (ending : Ending Usage) :
    Preserved session.2 { (flushLocked disk session).2 with ending := ending } := by
  have flushed := flushLocked_flushed disk balanced.sound
  have idle := Writer.ready_spec ready
  constructor
  · exact flushed.frame.context
  · constructor
    · exact ⟨flushed.sound.channel, flushed.sound.first⟩
    · change (flushLocked disk session).2.progress ++ tagged (flushLocked disk session).2.pushing =
        tagged ((flushLocked disk session).2.taken.map _)
      rw [flushed.progress, flushed.frame.pushing, flushed.frame.taken]
      exact balanced.account
    · intro _
      exact ⟨flushed.empty, flushed.frame.pushing.trans idle.2⟩
  · exact fun _ => idle.1

theorem beginClose_preserved (balanced : session.2.Balanced) (outcome : ModelStreamOutcome Usage) :
    Preserved session.2 (beginClose disk outcome session).2 := by
  unfold beginClose
  split
  next ready => exact ending_preserved disk balanced ready (.closing outcome)
  · exact balanced.refl

theorem abandon_preserved (balanced : session.2.Balanced) :
    Preserved session.2 (abandon disk session).2 := by
  unfold abandon
  split
  next ready => exact ending_preserved disk balanced ready .abandoned
  · exact balanced.refl

theorem finishClose_preserved (balanced : session.2.Balanced) :
    Preserved session.2 (finishClose disk session).2 := by
  unfold finishClose
  split
  next outcome closing =>
    have ended : session.2.isLive = false := by rw [Writer.isLive, closing]
    constructor
    · rfl
    · constructor
      · exact ⟨balanced.sound.channel, balanced.sound.first⟩
      · exact balanced.account
      · exact fun _ => balanced.ended ended
    · intro live
      cases live
  · exact balanced.refl

theorem Writer.Balanced.ended_segments (balanced : writer.Balanced)
    (ended : writer.isLive = false) :
    tagged writer.segments = tagged (writer.taken.map (·.normalized)) := by
  have account := balanced.account
  have idle := balanced.ended ended
  rw [Writer.progress, Writer.buffered_nil idle.1, idle.2, tagged_nil, List.append_nil,
    List.append_nil] at account
  exact account

end MonoidKernel.ModelContent
