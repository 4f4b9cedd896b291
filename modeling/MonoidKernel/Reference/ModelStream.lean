import MonoidKernel.Core.Scope

set_option autoImplicit false

-- Translated from LiveModelStreamBroker of reference/backend/model_stream.py.
namespace MonoidKernel.ModelStream

open MonoidKernel.Scopes (Value)

structure LiveModelStreamCursor where
  generation : String
  sequence : Nat
deriving DecidableEq

def LiveModelStreamCursor.text (cursor : LiveModelStreamCursor) : String :=
  cursor.generation ++ ":" ++ toString cursor.sequence

inductive LiveModelStreamKind where
  | opened
  | delta
  | closed
  | reset
deriving DecidableEq

inductive LiveModelStreamResetReason where
  | generationChanged
  | cursorGap
  | cursorAhead
deriving DecidableEq

inductive ModelStreamChannel where
  | output
  | reasoning
deriving DecidableEq

structure ModelStreamContext where
  rootRunId : String
  runId : String
  turnId : String
  streamId : String
  step : Nat
deriving DecidableEq

-- What a publication has besides its place: the keyword arguments of `_publish`.
structure FrameValues where
  provider : Option String
  model : Option String
  startedAt : Option String
  finishedAt : Option String
  channel : Option ModelStreamChannel
  text : Option String
  startOffset : Option Nat
  endOffset : Option Nat
  status : Option String
  finalText : Option String
  usage : Option Value
  errorCode : Option String
  retryable : Option Bool
  configRecoverable : Option Bool
  isPartial : Option Bool
  termination : Option Value
  usageEvidence : Option Value
deriving DecidableEq

structure LiveModelStreamFrame where
  kind : LiveModelStreamKind
  cursor : LiveModelStreamCursor
  rootRunId : String
  -- The run, turn, stream and step of a call; a reset has none.
  call : Option ModelStreamContext
  values : Option FrameValues
  contentOmitted : Bool
  reason : Option LiveModelStreamResetReason
  oldestAvailableCursor : Option String
  latestCursor : Option String
deriving DecidableEq

namespace LiveModelStreamFrame

def sequence (frame : LiveModelStreamFrame) : Nat := frame.cursor.sequence

def withoutFacts (frame : LiveModelStreamFrame) : LiveModelStreamFrame :=
  { frame with
    values := frame.values.map fun values =>
      { values with termination := none, usageEvidence := none } }

def withoutFinalText (frame : LiveModelStreamFrame) : LiveModelStreamFrame :=
  { frame with
    values := frame.values.map fun values => { values with finalText := none }
    contentOmitted := true }

end LiveModelStreamFrame

-- `frameSize` is the length of the JSON text of a frame, `rootDigest` the hexadecimal SHA-256 of a
-- root id.
structure BrokerConfig where
  generation : String
  maxFrames : Nat
  maxBytes : Nat
  maxRoots : Nat
  frameSize : LiveModelStreamFrame → Nat
  rootDigest : String → String
  framesPositive : 0 < maxFrames
  bytesPositive : 0 < maxBytes
  rootsPositive : 0 < maxRoots

structure RootRing where
  generation : String
  frames : List (LiveModelStreamFrame × Nat)
  latestSequence : Nat
  byteCount : Nat

structure LiveModelStreamSubscription where
  rootRunId : String
  cursor : LiveModelStreamCursor
  observedGeneration : Option String
  evictedCursor : Option LiveModelStreamCursor
  adoptInitialGeneration : Bool
  resetMissingCursor : Bool
  closed : Bool
  registered : Bool
  pending : Bool

inductive Reader where
  | client
  | other (number : Nat)
deriving DecidableEq

structure LiveModelStreamBroker where
  rings : List (String × RootRing)
  subscriptions : Reader → Option LiveModelStreamSubscription
  ringSerial : Nat
  evictionSerial : Nat
  evictionEpochs : List (String × Nat)

def LiveModelStreamBroker.empty : LiveModelStreamBroker where
  rings := []
  subscriptions _ := none
  ringSerial := 0
  evictionSerial := 0
  evictionEpochs := []

section OrderedDict

variable {A : Type}

def removeKey (key : String) (entries : List (String × A)) : List (String × A) :=
  entries.filter (·.1 ≠ key)

def putLast (key : String) (value : A) (entries : List (String × A)) : List (String × A) :=
  removeKey key entries ++ [(key, value)]

def popOldest (limit : Nat) (entries : List (String × A)) : List (String × A) :=
  entries.drop (entries.length - limit)

end OrderedDict

section Ring

variable (config : BrokerConfig)

-- The frame as the ring keeps it, with its size: a closed frame that is too large loses facts or
-- its text.
def fitted (frame : LiveModelStreamFrame) : LiveModelStreamFrame × Nat :=
  let size := config.frameSize frame
  let (frame, size) :=
    if config.maxBytes < size ∧ frame.kind = .closed ∧
        config.frameSize frame.withoutFacts ≤ config.maxBytes then
      (frame.withoutFacts, config.frameSize frame.withoutFacts)
    else (frame, size)
  let (frame, size) :=
    if config.maxBytes < size ∧ frame.kind = .closed ∧
        (frame.values.bind (·.finalText)).isSome then
      (frame.withoutFinalText, config.frameSize frame.withoutFinalText)
    else (frame, size)
  if config.maxBytes < size ∧ frame.kind = .closed then
    (frame.withoutFacts, config.frameSize frame.withoutFacts)
  else (frame, size)

def discardOldest : List (LiveModelStreamFrame × Nat) → Nat →
    List (LiveModelStreamFrame × Nat) × Nat
  | [], byteCount => ([], byteCount)
  | (frame, size) :: rest, byteCount =>
    if config.maxFrames < rest.length + 1 ∨ config.maxBytes < byteCount then
      discardOldest rest (byteCount - size)
    else ((frame, size) :: rest, byteCount)

def RootRing.push (ring : RootRing) (frame : LiveModelStreamFrame) : RootRing :=
  let (kept, size) := fitted config frame
  let ring := { ring with latestSequence := frame.sequence }
  if size ≤ config.maxBytes then
    let (frames, byteCount) :=
      discardOldest config (ring.frames ++ [(kept, size)]) (ring.byteCount + size)
    { ring with frames := frames, byteCount := byteCount }
  -- An oversized frame still consumes its sequence.
  else ring

def RootRing.resetFrame (ring : RootRing) (rootRunId : String) (cursor : LiveModelStreamCursor)
    (reason : LiveModelStreamResetReason) : LiveModelStreamFrame where
  kind := .reset
  cursor := cursor
  rootRunId := rootRunId
  call := none
  values := none
  contentOmitted := false
  reason := some reason
  oldestAvailableCursor :=
    ring.frames.head?.map fun entry =>
      (LiveModelStreamCursor.mk ring.generation entry.1.sequence).text
  latestCursor := some (LiveModelStreamCursor.mk ring.generation ring.latestSequence).text

def RootRing.baseline (ring : RootRing) : Nat :=
  match ring.frames with
  | [] => ring.latestSequence
  | (frame, _) :: _ => frame.sequence - 1

def RootRing.resetReason (ring : RootRing) (cursor : LiveModelStreamCursor) :
    Option LiveModelStreamResetReason × Nat :=
  if cursor.generation ≠ ring.generation then (some .generationChanged, ring.baseline)
  else if cursor.sequence < ring.baseline then (some .cursorGap, ring.baseline)
  else if ring.latestSequence < cursor.sequence then (some .cursorAhead, ring.latestSequence)
  else (none, ring.baseline)

end Ring

namespace LiveModelStreamBroker

variable (config : BrokerConfig)

def ring (s : LiveModelStreamBroker) (rootRunId : String) : Option RootRing :=
  s.rings.lookup rootRunId

def notify (change : LiveModelStreamSubscription → LiveModelStreamSubscription)
    (s : LiveModelStreamBroker) : LiveModelStreamBroker :=
  { s with subscriptions := fun reader => (s.subscriptions reader).map change }

def setSubscription (reader : Reader) (subscription : LiveModelStreamSubscription)
    (s : LiveModelStreamBroker) : LiveModelStreamBroker :=
  { s with subscriptions := Function.update s.subscriptions reader (some subscription) }

-- `{self.generation}.{serial:x}`, and the plain generation for the first ring.
def generationOf (serial : Nat) : String :=
  if serial = 1 then config.generation
  else config.generation ++ "." ++ String.ofList (Nat.toDigits 16 serial)

def idleGeneration (rootRunId : String) : String :=
  config.generation ++ ".idle." ++ config.rootDigest rootRunId

def idleEpoch (s : LiveModelStreamBroker) (rootRunId : String) : Nat :=
  (s.evictionEpochs.lookup rootRunId).getD s.evictionSerial

def idleCursor (s : LiveModelStreamBroker) (rootRunId : String) : LiveModelStreamCursor :=
  ⟨idleGeneration config rootRunId, s.idleEpoch rootRunId⟩

def rememberEvictionEpoch (rootRunId : String) (epoch : Nat) (s : LiveModelStreamBroker) :
    LiveModelStreamBroker :=
  { s with evictionEpochs := popOldest config.maxRoots (putLast rootRunId epoch s.evictionEpochs) }

def noticeEviction (rootRunId : String) (ring : RootRing)
    (subscription : LiveModelStreamSubscription) : LiveModelStreamSubscription :=
  if subscription.registered ∧ ¬ subscription.closed ∧ subscription.rootRunId = rootRunId ∧
      subscription.observedGeneration = some ring.generation then
    { subscription with
      evictedCursor := some ⟨ring.generation, ring.latestSequence⟩
      resetMissingCursor := false
      pending := true }
  else subscription

def markRingEvicted (rootRunId : String) (ring : RootRing) (s : LiveModelStreamBroker) :
    LiveModelStreamBroker :=
  let epoch := s.evictionSerial + 1
  let s := rememberEvictionEpoch config rootRunId epoch { s with evictionSerial := epoch }
  s.notify (noticeEviction rootRunId ring)

def evictRoots : List (String × RootRing) → LiveModelStreamBroker → LiveModelStreamBroker
  | [], s => s
  | (rootRunId, ring) :: rest, s =>
    if config.maxRoots < rest.length + 1 then
      evictRoots rest (markRingEvicted config rootRunId ring { s with rings := rest })
    else s

def noticeRing (rootRunId generation : String) (subscription : LiveModelStreamSubscription) :
    LiveModelStreamSubscription :=
  if subscription.pending ∧ subscription.rootRunId = rootRunId then
    let subscription := { subscription with pending := false }
    if subscription.closed then subscription
    else
      let subscription := { subscription with observedGeneration := some generation }
      if subscription.adoptInitialGeneration then
        { subscription with cursor := ⟨generation, 0⟩, adoptInitialGeneration := false }
      else subscription
  else subscription

def ringLocked (rootRunId : String) (s : LiveModelStreamBroker) :
    LiveModelStreamBroker × RootRing :=
  match s.ring rootRunId with
  | some ring => ({ s with rings := putLast rootRunId ring s.rings }, ring)
  | none =>
    let serial := s.ringSerial + 1
    let ring : RootRing := ⟨generationOf config serial, [], 0, 0⟩
    let s :=
      { s with
        ringSerial := serial
        rings := s.rings ++ [(rootRunId, ring)]
        evictionEpochs := removeKey rootRunId s.evictionEpochs }
    let s := evictRoots config s.rings s
    (s.notify (noticeRing rootRunId ring.generation), ring)

def publish (kind : LiveModelStreamKind) (context : ModelStreamContext) (values : FrameValues)
    (s : LiveModelStreamBroker) : LiveModelStreamBroker × LiveModelStreamFrame :=
  let (s, ring) := ringLocked config context.rootRunId s
  let frame : LiveModelStreamFrame :=
    { kind := kind
      cursor := ⟨ring.generation, ring.latestSequence + 1⟩
      rootRunId := context.rootRunId
      call := some context
      values := some values
      contentOmitted := false
      reason := none
      oldestAvailableCursor := none
      latestCursor := none }
  ({ s with rings := putLast context.rootRunId (ring.push config frame) s.rings }, frame)

def dropRoot (rootRunId : String) (s : LiveModelStreamBroker) : LiveModelStreamBroker :=
  match s.ring rootRunId with
  | none => s
  | some ring =>
    markRingEvicted config rootRunId ring { s with rings := removeKey rootRunId s.rings }

def subscribe (reader : Reader) (rootRunId : String) (afterCursor : Option LiveModelStreamCursor)
    (s : LiveModelStreamBroker) : LiveModelStreamBroker :=
  let ring := s.ring rootRunId
  let knownMissingRing := ring.isNone && (s.evictionEpochs.lookup rootRunId).isSome
  let awaitInitialGeneration := afterCursor.isNone && ring.isNone && !knownMissingRing
  let cursor : LiveModelStreamCursor :=
    match afterCursor with
    | none => ⟨(ring.map (·.generation)).getD config.generation, 0⟩
    | some cursor => cursor
  let resetMissingCursor :=
    ring.isNone &&
      (if afterCursor.isNone then knownMissingRing
        else decide (cursor ≠ idleCursor config s rootRunId))
  s.setSubscription reader
    { rootRunId := rootRunId
      cursor := cursor
      observedGeneration := ring.map (·.generation)
      evictedCursor := none
      adoptInitialGeneration := awaitInitialGeneration
      resetMissingCursor := resetMissingCursor
      closed := false
      registered := true
      pending := ring.isNone }

def closeSubscription (reader : Reader) (s : LiveModelStreamBroker) : LiveModelStreamBroker :=
  match s.subscriptions reader with
  | none => s
  | some subscription =>
    s.setSubscription reader
      { subscription with closed := true, registered := false, pending := false }

def room (limit : Option Nat) (output : List LiveModelStreamFrame) : Bool :=
  limit.all (output.length < ·)

-- The loop over the frames of the ring and what follows it, with the cursor of the subscription and
-- the output so far.
def collectFrames (ring : RootRing) (rootRunId : String) (limit : Option Nat) :
    List (LiveModelStreamFrame × Nat) → Nat → LiveModelStreamCursor → List LiveModelStreamFrame →
      LiveModelStreamCursor × List LiveModelStreamFrame
  | [], _, cursor, output =>
    if cursor.sequence < ring.latestSequence ∧ room limit output then
      let resetCursor : LiveModelStreamCursor := ⟨ring.generation, ring.latestSequence⟩
      (resetCursor, output ++ [ring.resetFrame rootRunId resetCursor .cursorGap])
    else (cursor, output)
  | (frame, _) :: rest, expected, cursor, output =>
    if frame.sequence < expected then collectFrames ring rootRunId limit rest expected cursor output
    else
      -- An oversized frame left a hole.
      let hole := expected < frame.sequence
      let resetCursor : LiveModelStreamCursor := ⟨ring.generation, frame.sequence - 1⟩
      let output :=
        if hole then output ++ [ring.resetFrame rootRunId resetCursor .cursorGap] else output
      if hole ∧ ¬ room limit output then (resetCursor, output)
      else
        let output := output ++ [frame]
        if room limit output then
          collectFrames ring rootRunId limit rest (frame.sequence + 1) frame.cursor output
        else (frame.cursor, output)

def collect (ring : RootRing) (limit : Option Nat) (subscription : LiveModelStreamSubscription) :
    LiveModelStreamSubscription × List LiveModelStreamFrame :=
  let subscription :=
    { subscription with
      observedGeneration := some ring.generation
      evictedCursor := none
      adoptInitialGeneration := false
      resetMissingCursor := false
      pending := false }
  let rootRunId := subscription.rootRunId
  match ring.resetReason subscription.cursor with
  | (some reason, baseline) =>
    let cursor : LiveModelStreamCursor := ⟨ring.generation, baseline⟩
    let output := [ring.resetFrame rootRunId cursor reason]
    if room limit output then
      let (cursor, output) :=
        collectFrames ring rootRunId limit ring.frames (cursor.sequence + 1) cursor output
      ({ subscription with cursor := cursor }, output)
    else ({ subscription with cursor := cursor }, output)
  | (none, _) =>
    let (cursor, output) :=
      collectFrames ring rootRunId limit ring.frames (subscription.cursor.sequence + 1)
        subscription.cursor []
    ({ subscription with cursor := cursor }, output)

def collectMissingRing (reader : Reader) (subscription : LiveModelStreamSubscription)
    (s : LiveModelStreamBroker) : LiveModelStreamBroker × List LiveModelStreamFrame :=
  if subscription.evictedCursor = none ∧ ¬ subscription.resetMissingCursor then (s, [])
  else
    let idle := idleCursor config s subscription.rootRunId
    let lost := subscription.evictedCursor.getD idle
    let reason : LiveModelStreamResetReason :=
      if subscription.cursor.generation ≠ lost.generation then .generationChanged
      else if lost.sequence < subscription.cursor.sequence then .cursorAhead
      else .cursorGap
    let s := rememberEvictionEpoch config subscription.rootRunId idle.sequence s
    (s.setSubscription reader
        { subscription with
          cursor := idle
          evictedCursor := none
          observedGeneration := none
          adoptInitialGeneration := false
          resetMissingCursor := false
          pending := true },
      [{ kind := .reset
         cursor := idle
         rootRunId := subscription.rootRunId
         call := none
         values := none
         contentOmitted := false
         reason := some reason
         oldestAvailableCursor := none
         latestCursor := some idle.text }])

-- `none` is the error for a limit that is not positive.
def poll (reader : Reader) (limit : Option Nat) (s : LiveModelStreamBroker) :
    LiveModelStreamBroker × Option (List LiveModelStreamFrame) :=
  if limit = some 0 then (s, none)
  else
    match s.subscriptions reader with
    | none => (s, some [])
    | some subscription =>
      if subscription.closed then (s, some [])
      else
        match s.ring subscription.rootRunId with
        | none =>
          let (s, frames) := collectMissingRing config reader subscription s
          (s, some frames)
        | some ring =>
          let (subscription, frames) := collect ring limit subscription
          (s.setSubscription reader subscription, some frames)

end LiveModelStreamBroker

end MonoidKernel.ModelStream
