import MonoidKernel.Library.Machine
import MonoidKernel.Library.NumberedParts
import Mathlib.Algebra.Ring.Nat

set_option autoImplicit false

-- Translated from core/model_content.py.
namespace MonoidKernel.ModelContent

open Library (Machine gapless)

-- A Python string is a list of code points, surrogates included.
abbrev PyText := List (Fin 0x110000)

instance neZeroCodepoints : NeZero 0x110000 := inferInstance

instance lawfulBEqPyText : LawfulBEq PyText := inferInstance

abbrev Text := List Char

def isHighSurrogate (codepoint : Nat) : Bool := 0xD800 ≤ codepoint && codepoint ≤ 0xDBFF

def isLowSurrogate (codepoint : Nat) : Bool := 0xDC00 ≤ codepoint && codepoint ≤ 0xDFFF

def scalar (codepoint : Nat) : Char :=
  if isHighSurrogate codepoint || isLowSurrogate codepoint then '\uFFFD' else Char.ofNat codepoint

def normalizeUnicodeScalars : PyText → Text
  | [] => []
  | [last] => [scalar last]
  | codepoint :: low :: rest =>
    if isHighSurrogate codepoint && isLowSurrogate low then
      Char.ofNat (0x10000 + (codepoint - 0xD800) * 0x400 + (low - 0xDC00)) ::
        normalizeUnicodeScalars rest
    else scalar codepoint :: normalizeUnicodeScalars (low :: rest)

inductive ModelStreamChannel where
  | output
  | reasoning
deriving DecidableEq, Repr

inductive ModelStreamStatus where
  | completed
  | interrupted
  | failed
  | cancelled
  | timedOut
deriving DecidableEq, Repr

structure ModelStreamContext where
  runId : Text
  rootRunId : Text
  turnId : Text
  streamId : Text
  step : Int
  provider : Option Text
  model : Option Text
  startedAt : Text
deriving DecidableEq

structure ModelStreamDelta where
  channel : ModelStreamChannel
  text : PyText
deriving DecidableEq

section Records

variable (Usage Digest : Type)

structure ModelStreamOutcome where
  status : ModelStreamStatus
  finalText : Option PyText
  usage : Option Usage
  errorCode : Option Text
  retryable : Bool
  configRecoverable : Bool

inductive Record where
  | streamOpened (context : ModelStreamContext)
  | streamSegment (runId streamId : Text) (segmentIndex : Nat) (channel : ModelStreamChannel)
      (text : Text) (textLen : Nat)
  | streamClosed (runId streamId : Text) (status : ModelStreamStatus) (finalText : Option Text)
      (usage : Option Usage) (errorCode : Option Text) (retryable configRecoverable : Bool)
  | settledText (runId : Text) (finalText : Text) (finalTextDigest : Digest) (finalTextLen : Nat)

-- A line that does not decode to a record is `none`.
abbrev Line := Option (Record Usage Digest)

end Records

variable {Usage Digest : Type}

section Chunks

-- The loop of `_utf8_chunks`, with the characters of the current chunk and their bytes.
def utf8ChunksFrom (limit : Nat) : Text → Nat → Text → List Text
  | parts, _, [] => if parts = [] then [] else [parts]
  | parts, size, character :: rest =>
    let charSize := character.utf8Size
    if parts ≠ [] ∧ size + charSize > limit then
      parts :: utf8ChunksFrom limit [character] charSize rest
    else utf8ChunksFrom limit (parts ++ [character]) (size + charSize) rest

def utf8Chunks (text : Text) (limit : Nat) : List Text := utf8ChunksFrom limit [] 0 text

def utf8Bytes (text : Text) : Nat := (text.map Char.utf8Size).sum

theorem utf8ChunksFrom_flatten (limit : Nat) (parts : Text) (size : Nat) (text : Text) :
    (utf8ChunksFrom limit parts size text).flatten = parts ++ text := by
  induction text generalizing parts size with
  | nil =>
    unfold utf8ChunksFrom
    split
    next empty => simp [empty]
    · simp
  | cons character rest ih =>
    simp only [utf8ChunksFrom]
    split
    · simp [ih]
    · simp [ih]

theorem utf8Chunks_flatten (text : Text) (limit : Nat) : (utf8Chunks text limit).flatten = text :=
  utf8ChunksFrom_flatten limit [] 0 text

end Chunks

section Store

-- What the file system does with the n-th append: whether the write succeeds, and what becomes of
-- the line when the record is a segment.
inductive SegmentFate where
  | kept
  | unreadable
  | missing
deriving DecidableEq

structure Disk where
  writes : Nat → Bool
  segment : Nat → SegmentFate

def Disk.Perfect (disk : Disk) : Prop :=
  ∀ append, disk.writes append = true ∧ disk.segment append = .kept

structure Store (Usage Digest : Type) where
  runId : Text
  file : List (Line Usage Digest)
  appends : Nat
  settledTextDigests : List Digest
  disabled : Bool
  closing : Bool
  closed : Bool

def Store.init (runId : Text) : Store Usage Digest := ⟨runId, [], 0, [], false, false, false⟩

variable (disk : Disk)

def Record.isSegment : Record Usage Digest → Bool
  | .streamSegment .. => true
  | _ => false

def linesLeft (append : Nat) (record : Record Usage Digest) : List (Line Usage Digest) :=
  if record.isSegment then
    match disk.segment append with
    | .kept => [some record]
    | .unreadable => [none]
    | .missing => []
  else [some record]

def Store.append (store : Store Usage Digest) (record : Record Usage Digest) :
    Store Usage Digest × Bool :=
  if store.disabled || store.closed then (store, false)
  else if disk.writes store.appends then
    ({ store with
        file := store.file ++ linesLeft disk store.appends record
        appends := store.appends + 1 }, true)
  else
    ({ store with
        file := store.file ++ [none]
        appends := store.appends + 1
        disabled := true }, false)

variable [DecidableEq Digest] (contentDigest : PyText → Digest)

def Store.settledText (store : Store Usage Digest) (text : PyText) (digest : Digest)
    (textLen : Nat) : Store Usage Digest :=
  if text.length ≠ textLen ∨ contentDigest text ≠ digest then store
  else if digest ∈ store.settledTextDigests then store
  else
    let appended := store.append disk
      (.settledText store.runId (normalizeUnicodeScalars text) digest textLen)
    if appended.2 then
      { appended.1 with settledTextDigests := digest :: appended.1.settledTextDigests }
    else appended.1

end Store

section Writer

-- Where the end of a stream stands: `closing` is between the two critical sections of `close`.
inductive Ending (Usage : Type) where
  | live
  | closing (outcome : ModelStreamOutcome Usage)
  | closed (outcome : ModelStreamOutcome Usage) (persisted : Bool)
  | abandoned

structure Writer (Usage : Type) where
  context : ModelStreamContext
  bufferChannel : Option ModelStreamChannel
  bufferParts : List Text
  bufferBytes : Nat
  nextSegmentIndex : Nat
  firstSegmentWritten : Bool
  pushing : List (ModelStreamChannel × Text)
  ending : Ending Usage
  -- History that no operation reads: the deltas taken, and the segments cut so far.
  taken : List ModelStreamDelta
  segments : List (ModelStreamChannel × Text)

def Writer.init (context : ModelStreamContext) : Writer Usage :=
  { context := context, bufferChannel := none, bufferParts := [], bufferBytes := 0,
    nextSegmentIndex := 0, firstSegmentWritten := false, pushing := [], ending := .live,
    taken := [], segments := [] }

def Writer.ready (writer : Writer Usage) : Bool :=
  match writer.ending, writer.pushing with
  | .live, [] => true
  | _, _ => false

def Writer.isLive (writer : Writer Usage) : Bool :=
  match writer.ending with
  | .live => true
  | _ => false

abbrev Session (Usage Digest : Type) := Store Usage Digest × Writer Usage

variable (disk : Disk)

def writeSegment (channel : ModelStreamChannel) (text : Text) (session : Session Usage Digest) :
    Session Usage Digest :=
  let writer := session.2
  ((session.1.append disk (.streamSegment writer.context.runId writer.context.streamId
      writer.nextSegmentIndex channel text text.length)).1,
    { writer with
      nextSegmentIndex := writer.nextSegmentIndex + 1
      segments := writer.segments ++ [(channel, text)] })

def flushLocked (session : Session Usage Digest) : Session Usage Digest :=
  match session.2.bufferChannel, session.2.bufferParts with
  | some channel, part :: parts =>
    writeSegment disk channel (part :: parts).flatten
      (session.1, { session.2 with bufferChannel := none, bufferParts := [], bufferBytes := 0 })
  | _, _ => session

def flushIf (condition : Writer Usage → Bool) (session : Session Usage Digest) :
    Session Usage Digest :=
  if condition session.2 then flushLocked disk session else session

variable (maxSegmentBytes : Nat)

def Writer.switches (channel : ModelStreamChannel) (writer : Writer Usage) : Bool :=
  writer.bufferChannel.any fun buffered => decide (buffered ≠ channel)

def Writer.overflows (chunk : Text) (writer : Writer Usage) : Bool :=
  !writer.bufferParts.isEmpty && decide (writer.bufferBytes + utf8Bytes chunk > maxSegmentBytes)

def Writer.full (writer : Writer Usage) : Bool := decide (writer.bufferBytes ≥ maxSegmentBytes)

def Writer.buffer (writer : Writer Usage) (channel : ModelStreamChannel) (chunk : Text) :
    Writer Usage :=
  { writer with
    bufferChannel := some channel
    bufferParts := writer.bufferParts ++ [chunk]
    bufferBytes := writer.bufferBytes + utf8Bytes chunk }

def takeChunk (channel : ModelStreamChannel) (chunk : Text) (session : Session Usage Digest) :
    Session Usage Digest :=
  if session.2.firstSegmentWritten then
    let session := flushIf disk (Writer.switches channel) session
    let session := flushIf disk (Writer.overflows maxSegmentBytes chunk) session
    flushIf disk (Writer.full maxSegmentBytes) (session.1, session.2.buffer channel chunk)
  else
    let session := writeSegment disk channel chunk session
    (session.1, { session.2 with firstSegmentWritten := true })

def Writer.push (writer : Writer Usage) (delta : ModelStreamDelta) : Writer Usage :=
  if delta.text = [] then writer
  else if writer.ready then
    { writer with
      pushing := (utf8Chunks (normalizeUnicodeScalars delta.text) maxSegmentBytes).map
        (delta.channel, ·)
      taken := writer.taken ++ [delta] }
  else writer

def pushNext (session : Session Usage Digest) : Session Usage Digest :=
  match session.2.pushing with
  | [] => session
  | (channel, chunk) :: rest =>
    takeChunk disk maxSegmentBytes channel chunk (session.1, { session.2 with pushing := rest })

def flushPending (session : Session Usage Digest) : Session Usage Digest :=
  if session.2.ready then flushLocked disk session else session

def beginClose (outcome : ModelStreamOutcome Usage) (session : Session Usage Digest) :
    Session Usage Digest :=
  if session.2.ready then
    let session := flushLocked disk session
    (session.1, { session.2 with ending := .closing outcome })
  else session

def closedRecord (context : ModelStreamContext) (outcome : ModelStreamOutcome Usage) :
    Record Usage Digest :=
  .streamClosed context.runId context.streamId outcome.status
    (outcome.finalText.map normalizeUnicodeScalars) outcome.usage outcome.errorCode
    outcome.retryable outcome.configRecoverable

def finishClose (session : Session Usage Digest) : Session Usage Digest :=
  match session.2.ending with
  | .closing outcome =>
    let appended := session.1.append disk (closedRecord session.2.context outcome)
    (appended.1, { session.2 with ending := .closed outcome appended.2 })
  | _ => session

def abandon (session : Session Usage Digest) : Session Usage Digest :=
  if session.2.ready then
    let session := flushLocked disk session
    (session.1, { session.2 with ending := .abandoned })
  else session

end Writer

section Calls

structure State (Usage Digest : Type) where
  store : Store Usage Digest
  writers : List (Writer Usage)

variable (disk : Disk)

def State.openStream (state : State Usage Digest) (context : ModelStreamContext) :
    State Usage Digest :=
  if state.store.disabled || state.store.closing || state.store.closed then state
  else
    let appended := state.store.append disk (.streamOpened context)
    if appended.2 then ⟨appended.1, state.writers ++ [Writer.init context]⟩
    else { state with store := appended.1 }

def State.at (state : State Usage Digest) (index : Nat)
    (operation : Session Usage Digest → Session Usage Digest) : State Usage Digest :=
  match state.writers[index]? with
  | none => state
  | some writer =>
    let session := operation (state.store, writer)
    ⟨session.1, state.writers.set index session.2⟩

def State.flush (state : State Usage Digest) (order : List Nat) : State Usage Digest × Bool :=
  if state.store.disabled || state.store.closing || state.store.closed then (state, false)
  else
    let state := order.foldl (fun state index => state.at index (flushPending disk)) state
    (state, !state.store.disabled)

def State.beginClosing (state : State Usage Digest) : State Usage Digest :=
  if state.store.closed || state.store.closing then state
  else { state with store := { state.store with closing := true } }

def State.finishClosing (state : State Usage Digest) : State Usage Digest :=
  if state.store.closing && state.writers.all (!·.isLive) then
    { state with store := { state.store with closed := true, closing := false } }
  else state

inductive Call (Usage Digest : Type) where
  | openStream (context : ModelStreamContext)
  | push (writer : Nat) (delta : ModelStreamDelta)
  | pushNext (writer : Nat)
  | flushDue (writer : Nat)
  | flush (order : List Nat)
  | beginClose (writer : Nat) (outcome : ModelStreamOutcome Usage)
  | finishClose (writer : Nat)
  | settledText (text : PyText) (digest : Digest) (textLen : Nat)
  | beginClosing
  | abandon (writer : Nat)
  | finishClosing

variable [DecidableEq Digest] (contentDigest : PyText → Digest) (maxSegmentBytes : Nat)

def State.step (state : State Usage Digest) : Call Usage Digest → State Usage Digest × Bool
  | .openStream context => (state.openStream disk context, true)
  | .push writer delta =>
    (state.at writer fun session => (session.1, session.2.push maxSegmentBytes delta), true)
  | .pushNext writer => (state.at writer (pushNext disk maxSegmentBytes), true)
  | .flushDue writer => (state.at writer (flushPending disk), true)
  | .flush order => state.flush disk order
  | .beginClose writer outcome => (state.at writer (beginClose disk outcome), true)
  | .finishClose writer => (state.at writer (finishClose disk), true)
  | .settledText text digest textLen =>
    ({ state with store := state.store.settledText disk contentDigest text digest textLen }, true)
  | .beginClosing => (state.beginClosing, true)
  | .abandon writer =>
    -- Only `close` of the store abandons a stream.
    (if state.store.closing then state.at writer (abandon disk) else state, true)
  | .finishClosing => (state.finishClosing, true)

def machine (runId : Text) : Machine (State Usage Digest) (Call Usage Digest) Bool where
  init := ⟨Store.init runId, []⟩
  step := State.step disk contentDigest maxSegmentBytes

end Calls

section Reader

structure RecoveredStream (Usage : Type) where
  context : ModelStreamContext
  segments : List (Nat × ModelStreamChannel × Text)
  status : Option ModelStreamStatus
  finalText : Option Text
  usage : Option Usage
  errorCode : Option Text
  retryable : Bool
  configRecoverable : Bool

def RecoveredStream.init (context : ModelStreamContext) : RecoveredStream Usage :=
  ⟨context, [], none, none, none, none, false, false⟩

inductive ModelContentSnapshotStatus where
  | settled (status : ModelStreamStatus)
  | abandoned
deriving DecidableEq, Repr

structure ModelContentSnapshot (Usage : Type) where
  context : ModelStreamContext
  status : ModelContentSnapshotStatus
  outputText : Text
  reasoningText : Text
  finalText : Option Text
  usage : Option Usage
  errorCode : Option Text
  retryable : Bool
  configRecoverable : Bool
  segmentCount : Nat
  lastSegmentIndex : Option Nat

def content (channel : ModelStreamChannel) (segments : List (ModelStreamChannel × Text)) : Text :=
  segments.flatMap fun segment => if segment.1 = channel then segment.2 else []

def RecoveredStream.ordered (recovered : RecoveredStream Usage) :
    List (ModelStreamChannel × Text) :=
  gapless 0 (recovered.segments.mergeSort fun first second => decide (first.1 ≤ second.1))

def RecoveredStream.snapshot (recovered : RecoveredStream Usage) : ModelContentSnapshot Usage :=
  let ordered := recovered.ordered
  { context := recovered.context
    status := match recovered.status with
      | some status => .settled status
      | none => .abandoned
    outputText := content .output ordered
    reasoningText := content .reasoning ordered
    finalText := recovered.finalText
    usage := recovered.usage
    errorCode := recovered.errorCode
    retryable := recovered.retryable
    configRecoverable := recovered.configRecoverable
    segmentCount := ordered.length
    lastSegmentIndex := if ordered = [] then none else some (ordered.length - 1) }

-- The check of `_context_from_record`, on a record whose fields have their types.
def ModelStreamContext.readable (context : ModelStreamContext) : Bool :=
  decide (context.runId ≠ []) && decide (context.rootRunId ≠ []) && decide (context.turnId ≠ []) &&
    decide (context.streamId ≠ []) && decide (1 ≤ context.step) &&
    decide (context.startedAt.getLast? = some 'Z')

-- The dictionary of recovered streams in insertion order, which is also the order of the result.
abbrev Streams (Usage : Type) := List (RecoveredStream Usage)

def Streams.lookup (streams : Streams Usage) (streamId : Text) : Option (RecoveredStream Usage) :=
  streams.find? fun recovered => decide (recovered.context.streamId = streamId)

def Streams.update (streams : Streams Usage) (streamId : Text)
    (change : RecoveredStream Usage → RecoveredStream Usage) : Streams Usage :=
  streams.map fun recovered =>
    if recovered.context.streamId = streamId then change recovered else recovered

-- `_apply_segment`; `none` where the record is skipped.
def applySegment (streams : Streams Usage) (runId streamId : Text) (index : Nat)
    (channel : ModelStreamChannel) (text : Text) (textLen : Nat) : Option (Streams Usage) :=
  match streams.lookup streamId with
  | none => none
  | some recovered =>
    if runId ≠ recovered.context.runId ∨ recovered.status ≠ none ∨ textLen ≠ text.length ∨
        index ∈ recovered.segments.map Prod.fst then none
    else some (streams.update streamId fun recovered =>
      { recovered with segments := recovered.segments ++ [(index, channel, text)] })

def applyClose (streams : Streams Usage) (runId streamId : Text) (status : ModelStreamStatus)
    (finalText : Option Text) (usage : Option Usage) (errorCode : Option Text)
    (retryable configRecoverable : Bool) : Option (Streams Usage) :=
  match streams.lookup streamId with
  | none => none
  | some recovered =>
    if runId ≠ recovered.context.runId ∨ recovered.status ≠ none then none
    else some (streams.update streamId fun recovered =>
      { recovered with status := some status, finalText, usage, errorCode, retryable,
                       configRecoverable })

structure ReadState (Usage Digest : Type) where
  streams : Streams Usage
  settledTexts : List (Digest × Text)
  skipped : Nat

variable [DecidableEq Digest] (contentDigest : PyText → Digest)

def pyText (text : Text) : PyText := text.map fun character => Fin.ofNat _ character.toNat

def applySettledText (settled : List (Digest × Text)) (runId text : Text) (digest : Digest)
    (textLen : Nat) : Option (List (Digest × Text)) :=
  if runId = [] ∨ text.length ≠ textLen ∨ contentDigest (pyText text) ≠ digest then none
  else if digest ∈ settled.map Prod.fst then
    some (settled.map fun entry => if entry.1 = digest then (digest, text) else entry)
  else some (settled ++ [(digest, text)])

def readLine (state : ReadState Usage Digest) (line : Line Usage Digest) :
    ReadState Usage Digest :=
  match line with
  | none => { state with skipped := state.skipped + 1 }
  | some (.streamOpened context) =>
    if context.readable && (state.streams.lookup context.streamId).isNone then
      { state with streams := state.streams ++ [RecoveredStream.init context] }
    else { state with skipped := state.skipped + 1 }
  | some (.streamSegment runId streamId index channel text textLen) =>
    match applySegment state.streams runId streamId index channel text textLen with
    | some streams => { state with streams }
    | none => { state with skipped := state.skipped + 1 }
  | some (.streamClosed runId streamId status finalText usage errorCode retryable
      configRecoverable) =>
    match applyClose state.streams runId streamId status finalText usage errorCode retryable
        configRecoverable with
    | some streams => { state with streams }
    | none => { state with skipped := state.skipped + 1 }
  | some (.settledText runId text digest textLen) =>
    match applySettledText contentDigest state.settledTexts runId text digest textLen with
    | some settledTexts => { state with settledTexts }
    | none => { state with skipped := state.skipped + 1 }

def readLines (file : List (Line Usage Digest)) : ReadState Usage Digest :=
  file.foldl (readLine contentDigest) ⟨[], [], 0⟩

structure ModelContentReadResult (Usage Digest : Type) where
  snapshots : List (ModelContentSnapshot Usage)
  settledTexts : List (Digest × Text)
  skippedRecords : Nat

def readModelContent (file : List (Line Usage Digest)) : ModelContentReadResult Usage Digest :=
  let state := readLines contentDigest file
  ⟨state.streams.map RecoveredStream.snapshot, state.settledTexts, state.skipped⟩

end Reader

end MonoidKernel.ModelContent
