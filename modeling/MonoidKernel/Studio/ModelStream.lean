import Mathlib.Logic.Function.Basic
import MonoidKernel.Library.Machine
import Mathlib.Algebra.Ring.Nat

set_option autoImplicit false

namespace MonoidKernel.Studio

open Library

inductive ModelStreamChannel where
  | output
  | reasoning
deriving DecidableEq, Repr

inductive ModelStreamStatus where
  | completed
  | interrupted
  | failed
  | cancelled
  | timedOut
deriving DecidableEq, Repr

inductive ModelStreamResetReason where
  | generationChanged
  | cursorGap
  | cursorAhead
deriving DecidableEq, Repr

inductive ModelContentStatus where
  | running
  | ended (status : ModelStreamStatus)
  | abandoned
deriving DecidableEq, Repr

inductive HydrationReason where
  | reset (reason : ModelStreamResetReason)
  | sequenceGap
  | contentOmitted
deriving DecidableEq, Repr

section Facts

inductive StopRequester where
  | userCancel
  | turnInterrupt
  | gracefulDrain
  | deadline
  | hostShutdown
  | callerCancel
deriving DecidableEq, Repr

inductive ReadEnd where
  | providerTerminal
  | providerEof
  | providerError
  | providerCancelled
  | stopRequest
  | deadline
  | drainTimeout
  | leaseLost
  | localFailure
deriving DecidableEq, Repr

structure ModelCallTermination where
  outcome : ModelStreamStatus
  requestedBy : Option StopRequester
  endedBy : ReadEnd
deriving DecidableEq, Repr

structure ModelUsageAttempt where
  index : Nat
  reported : List (String × Nat)
  source : Option String
  collection : Option String
deriving DecidableEq, Repr

structure ModelUsageEvidence where
  reported : List (String × Nat)
  completeness : List (String × String)
  attempts : List ModelUsageAttempt
deriving DecidableEq, Repr

end Facts

section Text

def utf8Length (text : String) : Nat := text.toUTF8.size

def withoutMark (text : String) : String :=
  match text.toList with
  | '\uFEFF' :: rest => String.ofList rest
  | _ => text

def decodeUtf8 (bytes : ByteArray) : Option String :=
  (String.fromUTF8? bytes).map withoutMark

def utf8Suffix (text : String) (skippedBytes : Nat) : Option String :=
  if skippedBytes = 0 then some text
  else decodeUtf8 (text.toUTF8.extract skippedBytes text.toUTF8.size)

def codeUnits (text : String) : List Nat :=
  text.toList.flatMap fun character =>
    if character.toNat < 0x10000 then [character.toNat]
    else
      [0xD800 + (character.toNat - 0x10000) / 0x400, 0xDC00 + (character.toNat - 0x10000) % 0x400]

end Text

section Cursor

structure ParsedCursor where
  generation : String
  sequence : Nat
deriving DecidableEq, Repr

def generationCharacter (character : Char) : Bool :=
  character.isAlphanum || character == '.' || character == '_' || character == '-'

def canonicalDigits : List Char → Bool
  | [] => false
  | ['0'] => true
  | first :: rest => '1' ≤ first && first ≤ '9' && rest.all Char.isDigit

def digitsValue (digits : List Char) : Nat :=
  digits.foldl (fun value digit => 10 * value + (digit.toNat - '0'.toNat)) 0

def maxSafeInteger : Nat := 2 ^ 53 - 1

def parseCursor (value : String) : Option ParsedCursor :=
  let rawSequence := (value.toList.reverse.takeWhile (· ≠ ':')).reverse
  match (value.toList.reverse.dropWhile (· ≠ ':')).reverse.dropLast with
  | [] => none
  | generation =>
    if generation.all generationCharacter && canonicalDigits rawSequence
        && digitsValue rawSequence ≤ maxSafeInteger then
      some ⟨String.ofList generation, digitsValue rawSequence⟩
    else none

end Cursor

section Frames

inductive ModelStreamCallKind where
  | opened (provider model : Option String)
  | delta (channel : ModelStreamChannel) (text : String) (startOffset endOffset : Nat)
  | closed (finishedAt : String) (status : ModelStreamStatus) (finalText : Option String)
      (retryable isPartial contentOmitted : Bool) (termination : Option ModelCallTermination)
      (usageEvidence : Option ModelUsageEvidence)
deriving DecidableEq, Repr

def ModelStreamCallKind.Spans : ModelStreamCallKind → Prop
  | .delta _ text startOffset endOffset => endOffset = startOffset + utf8Length text
  | _ => True

instance (kind : ModelStreamCallKind) : Decidable kind.Spans :=
  match kind with
  | .delta .. => inferInstanceAs (Decidable (_ = _))
  | .opened .. => inferInstanceAs (Decidable True)
  | .closed .. => inferInstanceAs (Decidable True)

structure ModelStreamCallFrame where
  cursor : String
  sequence : Int
  rootRunId : String
  runId : String
  turnId : String
  streamId : String
  step : Nat
  startedAt : String
  kind : ModelStreamCallKind
  identified : runId ≠ "" ∧ turnId ≠ "" ∧ streamId ≠ ""
  spans : kind.Spans

structure ModelStreamResetFrame where
  cursor : String
  sequence : Int
  rootRunId : String
  reason : ModelStreamResetReason
  latestCursor : String

inductive ModelStreamFrame where
  | call (frame : ModelStreamCallFrame)
  | reset (frame : ModelStreamResetFrame)

structure ModelContentSnapshot where
  rootRunId : String
  runId : String
  turnId : String
  streamId : String
  step : Nat
  provider : Option String
  model : Option String
  startedAt : String
  status : ModelContentStatus
  outputText : String
  outputEndOffset : Nat
  reasoningText : String
  reasoningEndOffset : Nat
  isPartial : Bool
  retryable : Bool
  finalText : Option String
deriving DecidableEq, Repr

structure ModelContentResponse where
  rootRunId : String
  streams : List ModelContentSnapshot
  rooted : ∀ snapshot ∈ streams, snapshot.rootRunId = rootRunId
  identified : ∀ snapshot ∈ streams,
    snapshot.runId ≠ "" ∧ snapshot.turnId ≠ "" ∧ snapshot.streamId ≠ ""
  distinct : (streams.map (·.runId)).Nodup
  measured : ∀ snapshot ∈ streams, snapshot.outputEndOffset = utf8Length snapshot.outputText ∧
    snapshot.reasoningEndOffset = utf8Length snapshot.reasoningText

end Frames

section State

structure LiveModelCallState where
  rootRunId : String
  runId : String
  turnId : String
  streamId : String
  step : Nat
  provider : Option String
  model : Option String
  startedAt : Option String
  finishedAt : Option String
  status : ModelContentStatus
  output : String
  reasoning : String
  outputBytes : Nat
  reasoningBytes : Nat
  finalText : Option String
  isPartial : Bool
  retryable : Bool
  termination : Option ModelCallTermination
  usageEvidence : Option ModelUsageEvidence
deriving DecidableEq, Repr

structure ModelStreamCallFloor where
  step : Nat
  startedAt : String
  streamId : String
deriving DecidableEq, Repr

abbrev CallKey := String × String

def modelStreamCallKey (runId streamId : String) : CallKey := (runId, streamId)

structure ModelStreamViewState where
  rootRunId : Option String
  generation : Option String
  sequence : Int
  cursor : Option String
  resumeCursor : Option String
  calls : CallKey → Option LiveModelCallState
  floors : String → Option ModelStreamCallFloor
  activeRootStreamId : Option String
  activeRootTurnId : Option String
  output : String
  reasoning : String
  rootTurnSealed : Bool
  sealedRootTurnId : Option String
  supersededRootTurnIds : List String
  needsHydration : Bool
  resetReason : Option HydrationReason
  resetLatestCursor : Option String

def initialModelStreamState (rootRunId : Option String) : ModelStreamViewState where
  rootRunId := rootRunId
  generation := none
  sequence := -1
  cursor := none
  resumeCursor := none
  calls := fun _ => none
  floors := fun _ => none
  activeRootStreamId := none
  activeRootTurnId := none
  output := ""
  reasoning := ""
  rootTurnSealed := false
  sealedRootTurnId := none
  supersededRootTurnIds := []
  needsHydration := false
  resetReason := none
  resetLatestCursor := none

end State

section Reducer

def callFromFrame (frame : ModelStreamCallFrame) : LiveModelCallState where
  rootRunId := frame.rootRunId
  runId := frame.runId
  turnId := frame.turnId
  streamId := frame.streamId
  step := frame.step
  provider := match frame.kind with
    | .opened provider _ => provider
    | _ => none
  model := match frame.kind with
    | .opened _ model => model
    | _ => none
  startedAt := some frame.startedAt
  finishedAt := none
  status := .running
  output := ""
  reasoning := ""
  outputBytes := 0
  reasoningBytes := 0
  finalText := none
  isPartial := false
  retryable := false
  termination := none
  usageEvidence := none

def sameCallIdentity (call : LiveModelCallState) (rootRunId runId turnId streamId : String)
    (step : Nat) (startedAt : String) : Bool :=
  call.rootRunId == rootRunId && call.runId == runId && call.turnId == turnId
    && call.streamId == streamId && call.step == step && call.startedAt == some startedAt

def withCursor (state : ModelStreamViewState) (frameCursor : String) (cursor : ParsedCursor) :
    ModelStreamViewState :=
  { state with
    generation := some cursor.generation
    sequence := cursor.sequence
    cursor := some frameCursor
    resumeCursor := some frameCursor }

def requireHydration (state : ModelStreamViewState) (reason : HydrationReason)
    (resumeCursor : Option String) : ModelStreamViewState :=
  { state with
    needsHydration := true
    resetReason := some reason
    resumeCursor := resumeCursor }

def compareCallFloor (incoming : ModelStreamCallFloor) :
    Option ModelStreamCallFloor → Ordering
  | none => .gt
  | some existing =>
    if incoming.step ≠ existing.step then
      if existing.step < incoming.step then .gt else .lt
    else if incoming.startedAt ≠ existing.startedAt then
      if codeUnits existing.startedAt < codeUnits incoming.startedAt then .gt else .lt
    else if incoming.streamId = existing.streamId then .eq
    else if codeUnits existing.streamId < codeUnits incoming.streamId then .gt else .lt

variable (state base : ModelStreamViewState) (frame : ModelStreamCallFrame)

def ModelStreamCallFrame.rootCall (frame : ModelStreamCallFrame) : Bool :=
  frame.runId == frame.rootRunId

def ModelStreamCallFrame.floor (frame : ModelStreamCallFrame) : ModelStreamCallFloor :=
  ⟨frame.step, frame.startedAt, frame.streamId⟩

def ModelStreamCallFrame.identity (frame : ModelStreamCallFrame) : CallKey :=
  modelStreamCallKey frame.runId frame.streamId

def cursorDisposition (cursor : ParsedCursor) : Option ModelStreamViewState :=
  match state.generation with
  | none => none
  | some generation =>
    if cursor.generation = generation ∧ (cursor.sequence : Int) ≤ state.sequence then some state
    else if cursor.generation ≠ generation then
      some (requireHydration state (.reset .generationChanged) state.cursor)
    else if 0 ≤ state.sequence ∧ (cursor.sequence : Int) ≠ state.sequence + 1 then
      some (requireHydration state .sequenceGap state.cursor)
    else none

def displace : ModelStreamViewState :=
  { base with
    calls := fun key => (base.calls key).filter (·.runId ≠ frame.runId)
    floors := Function.update base.floors frame.runId (some frame.floor) }

def reachCall : Except ModelStreamViewState ModelStreamViewState :=
  match base.calls frame.identity with
  | some call =>
    if sameCallIdentity call frame.rootRunId frame.runId frame.turnId frame.streamId frame.step
        frame.startedAt then .ok base
    else .error base
  | none => .ok base

-- The reducer's way to the call of a frame: either it leaves on the way with a state, or it comes
-- to the state from which the frame goes on.
def admitFrame : Except ModelStreamViewState ModelStreamViewState :=
  match parseCursor frame.cursor with
  | none => .error state
  | some cursor =>
    if (cursor.sequence : Int) ≠ frame.sequence then .error state
    else if state.needsHydration then .error state
    else match cursorDisposition state cursor with
    | some left => .error left
    | none =>
      let base := withCursor { state with rootRunId := some frame.rootRunId } frame.cursor cursor
      if frame.rootCall ∧ frame.turnId ∈ state.supersededRootTurnIds then .error base
      else match compareCallFloor frame.floor (base.floors frame.runId) with
        | .lt => .error base
        | .gt => reachCall (displace base frame) frame
        | .eq => reachCall base frame

def put (call : LiveModelCallState) : CallKey → Option LiveModelCallState :=
  Function.update base.calls frame.identity (some call)

def sealedFor : Bool :=
  frame.rootCall && base.rootTurnSealed
    && (base.sealedRootTurnId == none || base.sealedRootTurnId == some frame.turnId)

def reduceOpened : ModelStreamViewState :=
  match base.calls frame.identity with
  | some _ => base
  | none =>
    let opened := { base with calls := put base frame (callFromFrame frame) }
    if frame.rootCall then
      { opened with
        activeRootStreamId := some frame.streamId
        activeRootTurnId := some frame.turnId
        output := ""
        reasoning := ""
        rootTurnSealed := sealedFor base frame
        sealedRootTurnId := if sealedFor base frame then base.sealedRootTurnId else none }
    else opened

def LiveModelCallState.knownBytes (call : LiveModelCallState) : ModelStreamChannel → Nat
  | .output => call.outputBytes
  | .reasoning => call.reasoningBytes

def LiveModelCallState.extend (call : LiveModelCallState) (channel : ModelStreamChannel)
    (suffix : String) (endOffset : Nat) : LiveModelCallState :=
  match channel with
  | .output => { call with
      output := call.output ++ suffix
      outputBytes := max call.outputBytes endOffset }
  | .reasoning => { call with
      reasoning := call.reasoning ++ suffix
      reasoningBytes := max call.reasoningBytes endOffset }

def activatesRoot : Bool := frame.rootCall && base.activeRootTurnId == none

def noActiveStream : Bool :=
  base.activeRootStreamId == none || base.activeRootStreamId == some ""

def projectsRoot : Bool :=
  frame.rootCall && (activatesRoot base frame || base.activeRootTurnId == some frame.turnId)
    && (noActiveStream base || base.activeRootStreamId == some frame.streamId)

def reduceDelta (channel : ModelStreamChannel) (text : String) (startOffset endOffset : Nat) :
    ModelStreamViewState :=
  let call := (base.calls frame.identity).getD (callFromFrame frame)
  if call.status ≠ .running ∨ sealedFor base frame then base
  else if call.knownBytes channel < startOffset then
    requireHydration state .sequenceGap state.cursor
  else
    let suffix := if endOffset ≤ call.knownBytes channel then some ""
      else utf8Suffix text (call.knownBytes channel - startOffset)
    match suffix with
    | none => requireHydration state .sequenceGap state.cursor
    | some suffix =>
      { base with
        calls := put base frame (call.extend channel suffix endOffset)
        activeRootStreamId :=
          if activatesRoot base frame then some frame.streamId else base.activeRootStreamId
        activeRootTurnId :=
          if activatesRoot base frame then some frame.turnId else base.activeRootTurnId
        output := if projectsRoot base frame && channel == .output then base.output ++ suffix
          else base.output
        reasoning := if projectsRoot base frame && channel == .reasoning
          then base.reasoning ++ suffix else base.reasoning }

def reduceClosed (finishedAt : String) (status : ModelStreamStatus) (finalText : Option String)
    (retryable isPartial contentOmitted : Bool) (termination : Option ModelCallTermination)
    (usageEvidence : Option ModelUsageEvidence) : ModelStreamViewState :=
  let call := (base.calls frame.identity).getD (callFromFrame frame)
  let withFacts := { call with
    termination := call.termination <|> termination
    usageEvidence := call.usageEvidence <|> usageEvidence }
  if call.status ≠ .running then { base with calls := put base frame withFacts }
  else if contentOmitted then
    requireHydration { base with calls := put base frame withFacts } .contentOmitted
      (some frame.cursor)
  else
    let updated := { withFacts with
      status := .ended status
      finishedAt := some finishedAt
      finalText := finalText
      output := finalText.getD call.output
      outputBytes := (finalText.map utf8Length).getD call.outputBytes
      isPartial := isPartial
      retryable := retryable }
    let closed := { base with calls := put base frame updated }
    if frame.rootCall && base.activeRootStreamId == some frame.streamId then
      { closed with
        activeRootStreamId := none
        activeRootTurnId := if status = .completed then base.activeRootTurnId else none
        output := if status = .completed then updated.output else ""
        reasoning := "" }
    else closed

def reduceCallFrame : ModelStreamViewState :=
  match admitFrame state frame with
  | .error left => left
  | .ok base =>
    match frame.kind with
    | .opened _ _ => reduceOpened base frame
    | .delta channel text startOffset endOffset =>
      reduceDelta state base frame channel text startOffset endOffset
    | .closed finishedAt status finalText retryable isPartial contentOmitted termination
        usageEvidence =>
      reduceClosed base frame finishedAt status finalText retryable isPartial contentOmitted
        termination usageEvidence

def reduceReset (frame : ModelStreamResetFrame) : ModelStreamViewState :=
  match parseCursor frame.cursor with
  | none => state
  | some cursor =>
    if (cursor.sequence : Int) ≠ frame.sequence then state
    else match parseCursor frame.latestCursor with
    | none => state
    | some _ =>
      requireHydration
        { state with
          generation := some cursor.generation
          sequence := cursor.sequence
          cursor := some frame.cursor
          resetLatestCursor := some frame.latestCursor }
        (.reset frame.reason) (some frame.cursor)

def ModelStreamFrame.rootRunId : ModelStreamFrame → String
  | .call frame => frame.rootRunId
  | .reset frame => frame.rootRunId

def reduceModelStreamFrame (frame : ModelStreamFrame) : ModelStreamViewState :=
  if state.rootRunId ≠ none ∧ state.rootRunId ≠ some frame.rootRunId then state
  else match frame with
  | .reset frame => reduceReset state frame
  | .call frame => reduceCallFrame state frame

end Reducer

section Operations

variable (state : ModelStreamViewState)

def markModelStreamPartialSuperseded (turnId : String) : ModelStreamViewState :=
  if turnId = "" then state
  else
    let isActive := state.activeRootTurnId = some turnId
    let marked := { state with
      supersededRootTurnIds := if turnId ∈ state.supersededRootTurnIds
        then state.supersededRootTurnIds else state.supersededRootTurnIds ++ [turnId] }
    if isActive then
      { marked with
        activeRootStreamId := none
        activeRootTurnId := none
        output := ""
        reasoning := "" }
    else marked

def sealModelStreamTurn (turnId : Option String) : ModelStreamViewState :=
  if turnId ≠ none ∧ state.activeRootTurnId ≠ none ∧ turnId ≠ state.activeRootTurnId then state
  else { state with rootTurnSealed := true, sealedRootTurnId := turnId }

def resumed (rootRunId : Option String) : ModelStreamViewState :=
  let cursor := state.resumeCursor.bind parseCursor
  { initialModelStreamState rootRunId with
    supersededRootTurnIds := state.supersededRootTurnIds
    generation := cursor.map (·.generation)
    sequence := (cursor.map fun parsed => (parsed.sequence : Int)).getD (-1)
    cursor := state.resumeCursor
    resumeCursor := state.resumeCursor }

def markModelStreamHydrated : ModelStreamViewState := resumed state state.rootRunId

def callFromSnapshot (snapshot : ModelContentSnapshot) : LiveModelCallState where
  rootRunId := snapshot.rootRunId
  runId := snapshot.runId
  turnId := snapshot.turnId
  streamId := snapshot.streamId
  step := snapshot.step
  provider := snapshot.provider
  model := snapshot.model
  startedAt := some snapshot.startedAt
  finishedAt := none
  status := snapshot.status
  output := if snapshot.status = .running then snapshot.outputText
    else snapshot.finalText.getD snapshot.outputText
  reasoning := snapshot.reasoningText
  outputBytes := snapshot.outputEndOffset
  reasoningBytes := snapshot.reasoningEndOffset
  finalText := snapshot.finalText
  isPartial := snapshot.isPartial
  retryable := snapshot.retryable
  termination := none
  usageEvidence := none

def seededCall (snapshot : ModelContentSnapshot) : LiveModelCallState :=
  let call := callFromSnapshot snapshot
  match state.calls (modelStreamCallKey snapshot.runId snapshot.streamId) with
  | none => call
  | some prior =>
    if sameCallIdentity prior snapshot.rootRunId snapshot.runId snapshot.turnId snapshot.streamId
        snapshot.step snapshot.startedAt then
      { call with termination := prior.termination, usageEvidence := prior.usageEvidence }
    else call

structure Seeding where
  calls : CallKey → Option LiveModelCallState
  floors : String → Option ModelStreamCallFloor
  activeRoot : Option LiveModelCallState

def seedStream (rootRunId : String) (seeding : Seeding) (snapshot : ModelContentSnapshot) :
    Seeding :=
  let call := seededCall state snapshot
  { calls := Function.update seeding.calls (modelStreamCallKey call.runId call.streamId)
      (some call)
    floors := Function.update seeding.floors call.runId
      (some ⟨call.step, call.startedAt.getD "", call.streamId⟩)
    activeRoot :=
      if call.runId = rootRunId ∧ call.status = .running
          ∧ call.turnId ∉ state.supersededRootTurnIds then some call
      else seeding.activeRoot }

def seedStreams (rootRunId : String) (streams : List ModelContentSnapshot) : Seeding :=
  streams.foldl (seedStream state rootRunId) ⟨fun _ => none, fun _ => none, none⟩

def seedModelStreamSnapshot (response : ModelContentResponse) : ModelStreamViewState :=
  if state.rootRunId ≠ none ∧ state.rootRunId ≠ some response.rootRunId then state
  else
    let seeding := seedStreams state response.rootRunId response.streams
    { resumed state (some response.rootRunId) with
      calls := seeding.calls
      floors := seeding.floors
      activeRootStreamId := seeding.activeRoot.map (·.streamId)
      activeRootTurnId := seeding.activeRoot.map (·.turnId)
      output := (seeding.activeRoot.map (·.output)).getD ""
      reasoning := (seeding.activeRoot.map (·.reasoning)).getD "" }

end Operations

section Page

inductive PageEvent where
  | frame (frame : ModelStreamFrame)
  | snapshot (response : ModelContentResponse)
  | hydrated
  | sealed (turnId : Option String)
  | superseded (turnId : String)

def pageStep (state : ModelStreamViewState) : PageEvent → ModelStreamViewState
  | .frame frame => reduceModelStreamFrame state frame
  | .snapshot response => seedModelStreamSnapshot state response
  | .hydrated => markModelStreamHydrated state
  | .sealed turnId => sealModelStreamTurn state turnId
  | .superseded turnId => markModelStreamPartialSuperseded state turnId

def page (rootRunId : Option String) : Machine ModelStreamViewState PageEvent Unit where
  init := initialModelStreamState rootRunId
  step state event := (pageStep state event, ())

end Page

end MonoidKernel.Studio
