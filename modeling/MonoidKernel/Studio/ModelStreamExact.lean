import MonoidKernel.Studio.ModelStream

set_option autoImplicit false

namespace MonoidKernel.Studio

open Library

section Truth

structure Transcript where
  output : String
  reasoning : String

def Transcript.text (transcript : Transcript) : ModelStreamChannel → String
  | .output => transcript.output
  | .reasoning => transcript.reasoning

abbrev Truth := CallKey → Transcript

def LiveModelCallState.text (call : LiveModelCallState) : ModelStreamChannel → String
  | .output => call.output
  | .reasoning => call.reasoning

def Beginning (full held : String) (bytes : Nat) : Prop :=
  bytes ≤ utf8Length full ∧ held.toUTF8 = full.toUTF8.extract 0 bytes

def ModelStreamCallFrame.Carries (truth : Truth) (frame : ModelStreamCallFrame) : Prop :=
  match frame.kind with
  | .delta channel text startOffset endOffset =>
    endOffset ≤ utf8Length ((truth frame.identity).text channel) ∧
      text.toUTF8 = ((truth frame.identity).text channel).toUTF8.extract startOffset endOffset
  | _ => True

def ModelContentSnapshot.Carries (truth : Truth) (snapshot : ModelContentSnapshot) : Prop :=
  let transcript := truth (modelStreamCallKey snapshot.runId snapshot.streamId)
  Beginning transcript.output snapshot.outputText snapshot.outputEndOffset ∧
    Beginning transcript.reasoning snapshot.reasoningText snapshot.reasoningEndOffset

def PageEvent.Carries (truth : Truth) : PageEvent → Prop
  | .frame (.call incoming) => incoming.Carries truth
  | .snapshot response => ∀ snapshot ∈ response.streams, snapshot.Carries truth
  | _ => True

end Truth

section Properties

structure SameShown (state later : ModelStreamViewState) : Prop where
  calls : later.calls = state.calls
  floors : later.floors = state.floors
  stream : later.activeRootStreamId = state.activeRootStreamId
  turn : later.activeRootTurnId = state.activeRootTurnId
  output : later.output = state.output
  reasoning : later.reasoning = state.reasoning

structure Exact (truth : Truth) (state : ModelStreamViewState) : Prop where
  beginnings : ∀ key call, state.calls key = some call → call.status = .running →
    ∀ channel, Beginning ((truth key).text channel) (call.text channel) (call.knownBytes channel)
  projected : ∀ rootRunId streamId call, state.rootRunId = some rootRunId →
    state.activeRootStreamId = some streamId →
    state.calls (modelStreamCallKey rootRunId streamId) = some call →
    state.output = call.output ∧ state.reasoning = call.reasoning
  retired : ∀ turnId, state.activeRootTurnId = some turnId → turnId ∉ state.supersededRootTurnIds
  refused : ∀ frame : ModelStreamCallFrame, frame.rootCall = true →
    frame.turnId ∈ state.supersededRootTurnIds →
    SameShown state (reduceModelStreamFrame state (.call frame))

def MarkAt (text : String) (skippedBytes : Nat) : Prop :=
  ∃ rest, String.fromUTF8? (text.toUTF8.extract skippedBytes text.toUTF8.size) = some rest ∧
    rest.toList.head? = some '\uFEFF'

instance (text : String) (skippedBytes : Nat) : Decidable (MarkAt text skippedBytes) :=
  decidable_of_iff
    ((String.fromUTF8? (text.toUTF8.extract skippedBytes text.toUTF8.size)).any
      (fun rest => rest.toList.head? == some '\uFEFF') = true)
    (by simp only [MarkAt, Option.any_eq_true, beq_iff_eq])

def Restarts (base : ModelStreamViewState) (frame : ModelStreamCallFrame) : Prop :=
  frame.rootCall = true ∧ base.activeRootStreamId = some frame.streamId ∧
    base.calls frame.identity = none

structure DeltaWhole (base : ModelStreamViewState) (frame : ModelStreamCallFrame)
    (call : LiveModelCallState) (channel : ModelStreamChannel) (text : String)
    (startOffset endOffset : Nat) : Prop where
  unmarked : startOffset < call.knownBytes channel → call.knownBytes channel < endOffset →
    ¬MarkAt text (call.knownBytes channel - startOffset)
  activated : activatesRoot base frame = true → call.output = "" ∧ call.reasoning = ""
  restarted : Restarts base frame →
    base.output = "" ∧ base.reasoning = "" ∧ base.activeRootTurnId = some frame.turnId

def ModelStreamCallFrame.Whole (base : ModelStreamViewState) (frame : ModelStreamCallFrame) :
    Prop :=
  let call := (base.calls frame.identity).getD (callFromFrame frame)
  match frame.kind with
  | .opened _ _ => True
  | .delta channel text startOffset endOffset =>
    call.status = .running → sealedFor base frame = false →
      startOffset ≤ call.knownBytes channel →
      DeltaWhole base frame call channel text startOffset endOffset
  | .closed _ _ _ _ _ contentOmitted _ _ =>
    contentOmitted = true → Restarts base frame → base.output = "" ∧ base.reasoning = ""

def PageEvent.Whole (state : ModelStreamViewState) : PageEvent → Prop
  | .frame (.call incoming) =>
    state.rootRunId = none ∨ state.rootRunId = some incoming.rootRunId →
      ∀ base, admitFrame state incoming = .ok base → incoming.Whole base
  | _ => True

end Properties

section Pieces

variable {full held text suffix : String} {bytes startOffset endOffset : Nat}

theorem fromUTF8?_spec {content : ByteArray} (decoded : String.fromUTF8? content = some text) :
    text.toUTF8 = content := by
  unfold String.fromUTF8? at decoded
  split at decoded
  · rw [← Option.some.inj decoded]; rfl
  · simp at decoded

theorem withoutMark_spec (unmarked : text.toList.head? ≠ some '\uFEFF') :
    withoutMark text = text := by
  unfold withoutMark
  split
  next rest start => simp [start] at unmarked
  · rfl

theorem beginning_empty (full : String) : Beginning full "" 0 :=
  ⟨Nat.zero_le _, by simp⟩

theorem utf8Suffix_spec (start : startOffset ≤ bytes)
    (carried : text.toUTF8 = full.toUTF8.extract startOffset endOffset)
    (inside : endOffset ≤ utf8Length full) (further : bytes < endOffset)
    (unmarked : startOffset < bytes → ¬MarkAt text (bytes - startOffset))
    (cut : utf8Suffix text (bytes - startOffset) = some suffix) :
    suffix.toUTF8 = full.toUTF8.extract bytes endOffset := by
  unfold utf8Suffix at cut
  split at cut
  next nothing =>
    have same : startOffset = bytes := by omega
    rw [← Option.some.inj cut, carried, same]
  next some =>
    obtain ⟨rest, decoded, kept⟩ := Option.map_eq_some_iff.mp cut
    have whole : withoutMark rest = rest := by
      refine withoutMark_spec ?_
      intro marked
      exact unmarked (by omega) ⟨rest, decoded, marked⟩
    have slice := fromUTF8?_spec decoded
    have size : text.toUTF8.size = endOffset - startOffset := by
      rw [carried, ByteArray.size_extract]
      unfold utf8Length at inside
      omega
    rw [← kept, whole, slice, size, carried, ByteArray.extract_extract]
    congr 1 <;> omega

theorem Beginning.extended (beginning : Beginning full held bytes) (start : startOffset ≤ bytes)
    (carried : text.toUTF8 = full.toUTF8.extract startOffset endOffset)
    (inside : endOffset ≤ utf8Length full)
    (unmarked : startOffset < bytes → bytes < endOffset → ¬MarkAt text (bytes - startOffset))
    (cut : (if endOffset ≤ bytes then some "" else utf8Suffix text (bytes - startOffset)) =
      some suffix) : Beginning full (held ++ suffix) (max bytes endOffset) := by
  obtain ⟨within, same⟩ := beginning
  split at cut
  next known =>
    rw [← Option.some.inj cut, Nat.max_eq_left known]
    exact ⟨within, by simpa using same⟩
  next new =>
    have further : bytes < endOffset := by omega
    have piece := utf8Suffix_spec start carried inside further
      (fun before => unmarked before further) cut
    rw [Nat.max_eq_right (Nat.le_of_lt further)]
    refine ⟨inside, ?_⟩
    calc (held ++ suffix).toUTF8 = held.toUTF8 ++ suffix.toUTF8 := String.toByteArray_append
      _ = full.toUTF8.extract 0 bytes ++ full.toUTF8.extract bytes endOffset := by
        rw [same, piece]
      _ = full.toUTF8.extract 0 endOffset :=
        (ByteArray.extract_eq_extract_append_extract bytes (Nat.zero_le _)
        (Nat.le_of_lt further)).symm

end Pieces

section Steady

variable {truth : Truth} {state base later : ModelStreamViewState} {frame : ModelStreamCallFrame}

structure Steady (truth : Truth) (state : ModelStreamViewState) : Prop where
  beginnings : ∀ key call, state.calls key = some call → call.status = .running →
    ∀ channel, Beginning ((truth key).text channel) (call.text channel) (call.knownBytes channel)
  projected : ∀ rootRunId streamId call, state.rootRunId = some rootRunId →
    state.activeRootStreamId = some streamId →
    state.calls (modelStreamCallKey rootRunId streamId) = some call →
    state.output = call.output ∧ state.reasoning = call.reasoning ∧
      (state.needsHydration = false → state.activeRootTurnId = some call.turnId)
  retired : ∀ turnId, state.activeRootTurnId = some turnId → turnId ∉ state.supersededRootTurnIds
  idle : state.activeRootTurnId = none →
    state.activeRootStreamId = none ∧ state.output = "" ∧ state.reasoning = ""
  unrooted : state.rootRunId = none → state.activeRootTurnId = none
  named : state.activeRootStreamId ≠ some ""

structure Shrinks (state later : ModelStreamViewState) : Prop where
  calls : ∀ key call, later.calls key = some call → state.calls key = some call
  root : state.rootRunId = none ∨ later.rootRunId = state.rootRunId
  stream : later.activeRootStreamId = state.activeRootStreamId
  turn : later.activeRootTurnId = state.activeRootTurnId
  output : later.output = state.output
  reasoning : later.reasoning = state.reasoning
  superseded : later.supersededRootTurnIds = state.supersededRootTurnIds
  ready : later.needsHydration = false → state.needsHydration = false

theorem Steady.shrunk (steady : Steady truth state) (shrinks : Shrinks state later) :
    Steady truth later := by
  obtain ⟨calls, root, stream, turn, output, reasoning, superseded, ready⟩ := shrinks
  constructor
  · exact fun key call found => steady.beginnings key call (calls key call found)
  · intro rootRunId streamId call rooted active found
    rw [stream] at active
    rw [output, reasoning, turn]
    rcases root with unrooted | same
    · have none := (steady.idle (steady.unrooted unrooted)).1
      rw [active] at none
      cases none
    · have projected := steady.projected _ _ _ (same.symm.trans rooted) active (calls _ _ found)
      exact ⟨projected.1, projected.2.1, fun hydrated => projected.2.2 (ready hydrated)⟩
  · rw [turn, superseded]; exact steady.retired
  · rw [turn, stream, output, reasoning]; exact steady.idle
  · intro missing
    rw [turn]
    rcases root with unrooted | same
    · exact steady.unrooted unrooted
    · exact steady.unrooted (same.symm.trans missing)
  · rw [stream]; exact steady.named

theorem requireHydration_steady (reason : HydrationReason) (resumeCursor : Option String)
    (steady : Steady truth state) : Steady truth (requireHydration state reason resumeCursor) :=
  steady.shrunk ⟨fun _ _ found => found, .inr rfl, rfl, rfl, rfl, rfl, rfl, nofun⟩

theorem withCursor_steady {root : Option String} (frameCursor : String) (cursor : ParsedCursor)
    (steady : Steady truth state) (rooted : state.rootRunId = none ∨ state.rootRunId = root) :
    Steady truth (withCursor { state with rootRunId := root } frameCursor cursor) := by
  refine steady.shrunk ⟨fun _ _ found => found, ?_, rfl, rfl, rfl, rfl, rfl, id⟩
  exact rooted.imp_right Eq.symm

theorem displace_steady (frame : ModelStreamCallFrame) (steady : Steady truth base) :
    Steady truth (displace base frame) := by
  refine steady.shrunk ⟨?_, .inr rfl, rfl, rfl, rfl, rfl, rfl, id⟩
  intro key call found
  exact (Option.filter_eq_some_iff.mp found).1

theorem cursorDisposition_steady {cursor : ParsedCursor} {left : ModelStreamViewState}
    (steady : Steady truth state) (disposed : cursorDisposition state cursor = some left) :
    Steady truth left := by
  unfold cursorDisposition at disposed
  split at disposed
  · cases disposed
  split at disposed
  · exact Option.some.inj disposed ▸ steady
  split at disposed
  · exact Option.some.inj disposed ▸ requireHydration_steady _ _ steady
  split at disposed
  · exact Option.some.inj disposed ▸ requireHydration_steady _ _ steady
  · cases disposed

structure Admitted (truth : Truth) (frame : ModelStreamCallFrame) (base : ModelStreamViewState) :
    Prop where
  steady : Steady truth base
  rooted : base.rootRunId = some frame.rootRunId
  ready : base.needsHydration = false
  live : frame.rootCall = true → frame.turnId ∉ base.supersededRootTurnIds
  same : ∀ call, base.calls frame.identity = some call → call.turnId = frame.turnId

variable {call : LiveModelCallState} {streamId : String}

theorem sameCallIdentity_turn {rootRunId runId turnId startedAt : String} {step : Nat}
    (same : sameCallIdentity call rootRunId runId turnId streamId step startedAt = true) :
    call.turnId = turnId := by
  simp only [sameCallIdentity, Bool.and_eq_true, beq_iff_eq] at same
  exact same.1.1.1.2

def Reaches (truth : Truth) (frame : ModelStreamCallFrame) :
    Except ModelStreamViewState ModelStreamViewState → Prop
  | .error left => Steady truth left
  | .ok base => Admitted truth frame base

theorem reachCall_spec (steady : Steady truth base)
    (rooted : base.rootRunId = some frame.rootRunId) (ready : base.needsHydration = false)
    (live : frame.rootCall = true → frame.turnId ∉ base.supersededRootTurnIds) :
    Reaches truth frame (reachCall base frame) := by
  unfold reachCall
  split
  next call found =>
    split
    next same =>
      refine ⟨steady, rooted, ready, live, ?_⟩
      intro other also
      rw [found] at also
      exact Option.some.inj also ▸ sameCallIdentity_turn same
    · exact steady
  next missing => exact ⟨steady, rooted, ready, live, by simp [missing]⟩

theorem admitFrame_spec (steady : Steady truth state)
    (rooted : state.rootRunId = none ∨ state.rootRunId = some frame.rootRunId) :
    Reaches truth frame (admitFrame state frame) := by
  unfold admitFrame
  split
  · exact steady
  next cursor _ =>
    split
    · exact steady
    split
    · exact steady
    next ready =>
    rw [Bool.not_eq_true] at ready
    split
    next left disposed => exact cursorDisposition_steady steady disposed
    · have moved := withCursor_steady frame.cursor cursor steady rooted
      dsimp only
      split
      · exact moved
      next live =>
        have live : frame.rootCall = true → frame.turnId ∉ state.supersededRootTurnIds :=
          fun rootCall listed => live ⟨rootCall, listed⟩
        split
        · exact moved
        · exact reachCall_spec (displace_steady frame moved) rfl ready live
        · exact reachCall_spec moved rfl ready live

theorem put_same (base : ModelStreamViewState) (frame : ModelStreamCallFrame)
    (call : LiveModelCallState) : put base frame call frame.identity = some call :=
  Function.update_self ..

theorem put_other {key : CallKey} (call : LiveModelCallState) (other : key ≠ frame.identity) :
    put base frame call key = base.calls key :=
  Function.update_of_ne other ..

structure Records (truth : Truth) (frame : ModelStreamCallFrame) (base : ModelStreamViewState)
    (call : LiveModelCallState) (later : ModelStreamViewState) : Prop where
  calls : later.calls = put base frame call
  root : later.rootRunId = base.rootRunId
  superseded : later.supersededRootTurnIds = base.supersededRootTurnIds
  beginning : call.status = .running → ∀ channel,
    Beginning ((truth frame.identity).text channel) (call.text channel) (call.knownBytes channel)
  shown : frame.rootCall = true → later.activeRootStreamId = some frame.streamId →
    later.output = call.output ∧ later.reasoning = call.reasoning ∧
      (later.needsHydration = false → later.activeRootTurnId = some call.turnId)
  others : ∀ streamId, later.activeRootStreamId = some streamId →
    ¬(frame.rootCall = true ∧ streamId = frame.streamId) →
    base.activeRootStreamId = some streamId ∧ later.output = base.output ∧
      later.reasoning = base.reasoning ∧ later.activeRootTurnId = base.activeRootTurnId
  retired : ∀ turnId, later.activeRootTurnId = some turnId → turnId ∉ base.supersededRootTurnIds
  idle : later.activeRootTurnId = none →
    later.activeRootStreamId = none ∧ later.output = "" ∧ later.reasoning = ""

theorem rootCall_identity {rootRunId : String} (rooted : base.rootRunId = some frame.rootRunId)
    (root : base.rootRunId = some rootRunId) :
    modelStreamCallKey rootRunId streamId = frame.identity ↔
      frame.rootCall = true ∧ streamId = frame.streamId := by
  have same : rootRunId = frame.rootRunId := Option.some.inj (root.symm.trans rooted)
  unfold ModelStreamCallFrame.identity modelStreamCallKey ModelStreamCallFrame.rootCall
  rw [same, Prod.mk.injEq, beq_iff_eq, eq_comm (a := frame.runId)]

theorem Records.steady (records : Records truth frame base call later)
    (admitted : Admitted truth frame base) : Steady truth later := by
  obtain ⟨before, rooted, ready, _, _⟩ := admitted
  constructor
  · intro key held found running
    by_cases own : key = frame.identity
    · rw [records.calls, own, put_same] at found
      rw [own, ← Option.some.inj found]
      exact records.beginning (Option.some.inj found ▸ running)
    · rw [records.calls, put_other call own] at found
      exact before.beginnings key held found running
  · intro rootRunId streamId held root active found
    rw [records.root] at root
    by_cases own : frame.rootCall = true ∧ streamId = frame.streamId
    · rw [records.calls, (rootCall_identity rooted root).mpr own, put_same] at found
      rw [← Option.some.inj found]
      exact records.shown own.1 (own.2 ▸ active)
    · have other := mt (rootCall_identity rooted root).mp own
      rw [records.calls, put_other call other] at found
      obtain ⟨stream, output, reasoning, turn⟩ := records.others streamId active own
      rw [output, reasoning, turn]
      have projected := before.projected rootRunId streamId held root stream found
      exact ⟨projected.1, projected.2.1, fun _ => projected.2.2 ready⟩
  · rw [records.superseded]; exact records.retired
  · exact records.idle
  · intro missing
    rw [records.root, rooted] at missing
    cases missing
  · intro unnamed
    by_cases own : frame.rootCall = true ∧ "" = frame.streamId
    · exact frame.identified.2.2 own.2.symm
    · exact before.named (records.others "" unnamed own).1

theorem callFromFrame_beginning (frame : ModelStreamCallFrame) (channel : ModelStreamChannel) :
    Beginning ((truth frame.identity).text channel) ((callFromFrame frame).text channel)
      ((callFromFrame frame).knownBytes channel) := by
  cases channel <;> exact beginning_empty _

theorem found_beginning (frame : ModelStreamCallFrame) (steady : Steady truth base)
    (running : ((base.calls frame.identity).getD (callFromFrame frame)).status = .running)
    (channel : ModelStreamChannel) :
    Beginning ((truth frame.identity).text channel)
      (((base.calls frame.identity).getD (callFromFrame frame)).text channel)
      (((base.calls frame.identity).getD (callFromFrame frame)).knownBytes channel) := by
  cases found : base.calls frame.identity with
  | none => exact callFromFrame_beginning frame channel
  | some call =>
    rw [found] at running
    exact steady.beginnings _ _ found running channel

theorem reduceOpened_steady (admitted : Admitted truth frame base) :
    Steady truth (reduceOpened base frame) := by
  unfold reduceOpened
  split
  · exact admitted.steady
  dsimp only
  split
  next rootCall =>
    refine Records.steady (?_ : Records truth frame base (callFromFrame frame) _) admitted
    refine ⟨rfl, rfl, rfl, fun _ => callFromFrame_beginning frame, ?_, ?_, ?_, ?_⟩
    · exact fun _ _ => ⟨rfl, rfl, fun _ => rfl⟩
    · intro streamId active other
      exact absurd ⟨rootCall, (Option.some.inj active).symm⟩ other
    · intro turnId active; exact Option.some.inj active ▸ admitted.live rootCall
    · simp
  next descendant =>
    refine Records.steady (?_ : Records truth frame base (callFromFrame frame) _) admitted
    refine ⟨rfl, rfl, rfl, fun _ => callFromFrame_beginning frame, ?_, ?_, ?_, ?_⟩
    · intro rootCall; exact absurd rootCall descendant
    · exact fun _ active _ => ⟨active, rfl, rfl, rfl⟩
    · exact admitted.steady.retired
    · exact admitted.steady.idle

theorem extend_beginning {channel : ModelStreamChannel} {text suffix : String}
    {startOffset endOffset : Nat} (frame : ModelStreamCallFrame)
    (beginning : ∀ channel, Beginning ((truth frame.identity).text channel) (call.text channel)
      (call.knownBytes channel)) (start : startOffset ≤ call.knownBytes channel)
    (inside : endOffset ≤ utf8Length ((truth frame.identity).text channel)) (carried : text.toUTF8 =
      ((truth frame.identity).text channel).toUTF8.extract startOffset endOffset)
    (unmarked : startOffset < call.knownBytes channel → call.knownBytes channel < endOffset →
      ¬MarkAt text (call.knownBytes channel - startOffset))
    (cut : (if endOffset ≤ call.knownBytes channel then some ""
      else utf8Suffix text (call.knownBytes channel - startOffset)) = some suffix)
    (other : ModelStreamChannel) :
    Beginning ((truth frame.identity).text other)
      ((call.extend channel suffix endOffset).text other)
      ((call.extend channel suffix endOffset).knownBytes other) := by
  have longer := (beginning channel).extended start carried inside unmarked cut
  cases channel <;> cases other
  case output.output => exact longer
  case output.reasoning => exact beginning .reasoning
  case reasoning.output => exact beginning .output
  case reasoning.reasoning => exact longer

theorem found_turn (admitted : Admitted truth frame base) :
    ((base.calls frame.identity).getD (callFromFrame frame)).turnId = frame.turnId := by
  cases found : base.calls frame.identity with
  | none => rfl
  | some call => exact admitted.same call found

theorem active_shown (admitted : Admitted truth frame base)
    (found : (base.calls frame.identity).getD (callFromFrame frame) = call)
    (restarted : Restarts base frame → base.output = "" ∧ base.reasoning = "")
    (rootCall : frame.rootCall = true) (active : base.activeRootStreamId = some frame.streamId) :
    base.output = call.output ∧ base.reasoning = call.reasoning := by
  cases held : base.calls frame.identity with
  | none =>
    rw [held] at found
    rw [← found]
    exact restarted ⟨rootCall, active, held⟩
  | some kept =>
    rw [held] at found
    have own := (rootCall_identity admitted.rooted admitted.rooted).mpr ⟨rootCall, rfl⟩
    have projected := admitted.steady.projected _ _ kept admitted.rooted active (own ▸ held)
    rw [← found]
    exact ⟨projected.1, projected.2.1⟩

theorem active_turn (admitted : Admitted truth frame base)
    (restarted : Restarts base frame → base.activeRootTurnId = some frame.turnId)
    (rootCall : frame.rootCall = true)
    (active : base.activeRootStreamId = some frame.streamId) :
    base.activeRootTurnId = some frame.turnId := by
  cases held : base.calls frame.identity with
  | none => exact restarted ⟨rootCall, active, held⟩
  | some kept =>
    have own := (rootCall_identity admitted.rooted admitted.rooted).mpr ⟨rootCall, rfl⟩
    have projected := admitted.steady.projected _ _ kept admitted.rooted active (own ▸ held)
    rw [projected.2.2 admitted.ready, admitted.same kept held]

theorem activatesRoot_iff :
    activatesRoot base frame = true ↔ frame.rootCall = true ∧ base.activeRootTurnId = none := by
  simp [activatesRoot]

theorem projectsRoot_active (rootCall : frame.rootCall = true)
    (active : base.activeRootStreamId = some frame.streamId)
    (turn : base.activeRootTurnId = some frame.turnId) : projectsRoot base frame = true := by
  simp [projectsRoot, rootCall, active, turn]

theorem projectsRoot_other (active : base.activeRootStreamId = some streamId)
    (named : streamId ≠ "") (other : streamId ≠ frame.streamId) :
    projectsRoot base frame = false := by
  simp [projectsRoot, noActiveStream, active, named, other]

theorem projectsRoot_activates (steady : Steady truth base)
    (activates : activatesRoot base frame = true) : projectsRoot base frame = true := by
  obtain ⟨rootCall, idle⟩ := activatesRoot_iff.mp activates
  simp [projectsRoot, noActiveStream, activates, rootCall, (steady.idle idle).1]

theorem projectsRoot_descendant (descendant : frame.rootCall ≠ true) :
    projectsRoot base frame = false := by
  simp [projectsRoot, descendant]

theorem extend_projected {output reasoning : String} (channel : ModelStreamChannel)
    (suffix : String) (endOffset : Nat) (sameOutput : output = call.output)
    (sameReasoning : reasoning = call.reasoning) :
    (if (true && channel == .output) = true then output ++ suffix else output) =
        (call.extend channel suffix endOffset).output ∧
      (if (true && channel == .reasoning) = true then reasoning ++ suffix else reasoning) =
        (call.extend channel suffix endOffset).reasoning := by
  rw [sameOutput, sameReasoning]
  cases channel <;> exact ⟨rfl, rfl⟩

theorem reduceDelta_steady {channel : ModelStreamChannel} {text : String}
    {startOffset endOffset : Nat} (before : Steady truth state)
    (admitted : Admitted truth frame base)
    (inside : endOffset ≤ utf8Length ((truth frame.identity).text channel))
    (carried : text.toUTF8 =
      ((truth frame.identity).text channel).toUTF8.extract startOffset endOffset)
    (whole : ((base.calls frame.identity).getD (callFromFrame frame)).status = .running →
      sealedFor base frame = false →
      startOffset ≤ ((base.calls frame.identity).getD (callFromFrame frame)).knownBytes channel →
      DeltaWhole base frame ((base.calls frame.identity).getD (callFromFrame frame)) channel text
        startOffset endOffset) :
    Steady truth (reduceDelta state base frame channel text startOffset endOffset) := by
  have beginning := found_beginning frame admitted.steady
  have turn := found_turn admitted
  unfold reduceDelta
  generalize found : (base.calls frame.identity).getD (callFromFrame frame) = call at *
  dsimp only
  split
  · exact admitted.steady
  next live =>
    rw [not_or, not_not, Bool.not_eq_true] at live
    obtain ⟨running, unsealed⟩ := live
    split
    · exact requireHydration_steady _ _ before
    next start =>
      rw [Nat.not_lt] at start
      obtain ⟨unmarked, activated, restarted⟩ := whole running unsealed start
      split
      · exact requireHydration_steady _ _ before
      next suffix cut =>
        have extended : (call.extend channel suffix endOffset).status = .running ∧
            (call.extend channel suffix endOffset).turnId = frame.turnId := by
          cases channel <;> exact ⟨running, turn⟩
        refine Records.steady
          (?_ : Records truth frame base (call.extend channel suffix endOffset) _) admitted
        refine ⟨rfl, rfl, rfl, ?_, ?_, ?_, ?_, ?_⟩
        · exact fun _ =>
            extend_beginning frame (beginning running) start inside carried unmarked cut
        · intro rootCall active
          dsimp only at active ⊢
          rw [extended.2]
          by_cases activates : activatesRoot base frame = true
          · obtain ⟨_, output, reasoning⟩ :=
              admitted.steady.idle (activatesRoot_iff.mp activates).2
            rw [if_pos activates, projectsRoot_activates admitted.steady activates]
            have same := extend_projected channel suffix endOffset
              (output.trans (activated activates).1.symm)
              (reasoning.trans (activated activates).2.symm)
            exact ⟨same.1, same.2, fun _ => rfl⟩
          · rw [if_neg activates] at active ⊢
            have current := active_turn admitted
              (fun again => (restarted again).2.2) rootCall active
            obtain ⟨output, reasoning⟩ := active_shown admitted found
              (fun again => ⟨(restarted again).1, (restarted again).2.1⟩) rootCall active
            rw [projectsRoot_active rootCall active current]
            have same := extend_projected channel suffix endOffset output reasoning
            exact ⟨same.1, same.2, fun _ => current⟩
        · intro streamId active other
          dsimp only at active ⊢
          by_cases activates : activatesRoot base frame = true
          · rw [if_pos activates] at active
            exact absurd ⟨(activatesRoot_iff.mp activates).1, (Option.some.inj active).symm⟩ other
          · rw [if_neg activates] at active ⊢
            have unshown : projectsRoot base frame = false := by
              by_cases rootCall : frame.rootCall = true
              · have named : streamId ≠ "" := fun unnamed =>
                  admitted.steady.named (unnamed ▸ active)
                exact projectsRoot_other active named fun same => other ⟨rootCall, same⟩
              · exact projectsRoot_descendant rootCall
            simp [unshown, active]
        · intro turnId active
          dsimp only at active
          split at active
          next activates =>
            exact Option.some.inj active ▸ admitted.live (activatesRoot_iff.mp activates).1
          · exact admitted.steady.retired turnId active
        · intro missing
          dsimp only at missing ⊢
          split at missing
          · cases missing
          next idle =>
            have descendant : frame.rootCall ≠ true :=
              fun rootCall => idle (activatesRoot_iff.mpr ⟨rootCall, missing⟩)
            rw [if_neg idle, projectsRoot_descendant descendant]
            exact admitted.steady.idle missing

theorem Records.unshown {kept : LiveModelCallState} {later : ModelStreamViewState}
    (admitted : Admitted truth frame base)
    (found : (base.calls frame.identity).getD (callFromFrame frame) = kept)
    (calls : later.calls = put base frame call) (root : later.rootRunId = base.rootRunId)
    (superseded : later.supersededRootTurnIds = base.supersededRootTurnIds)
    (stream : later.activeRootStreamId = base.activeRootStreamId)
    (turn : later.activeRootTurnId = base.activeRootTurnId) (output : later.output = base.output)
    (reasoning : later.reasoning = base.reasoning) (beginning : call.status = .running → ∀ channel,
      Beginning ((truth frame.identity).text channel) (call.text channel) (call.knownBytes channel))
    (own : frame.rootCall = true → base.activeRootStreamId = some frame.streamId →
      kept.output = call.output ∧ kept.reasoning = call.reasoning ∧ call.turnId = frame.turnId)
    (restarted : Restarts base frame → base.output = "" ∧ base.reasoning = "" ∧
      later.needsHydration = true) :
    Records truth frame base call later := by
  refine ⟨calls, root, superseded, beginning, ?_, ?_, ?_, ?_⟩
  · intro rootCall active
    rw [stream] at active
    obtain ⟨sameOutput, sameReasoning, sameTurn⟩ := own rootCall active
    obtain ⟨shownOutput, shownReasoning⟩ := active_shown admitted found
      (fun again => ⟨(restarted again).1, (restarted again).2.1⟩) rootCall active
    rw [output, reasoning, turn, sameTurn]
    refine ⟨shownOutput.trans sameOutput, shownReasoning.trans sameReasoning, ?_⟩
    intro hydrated
    refine active_turn admitted ?_ rootCall active
    intro again
    rw [(restarted again).2.2] at hydrated
    cases hydrated
  · exact fun _ active _ => ⟨stream ▸ active, output, reasoning, turn⟩
  · rw [turn]; exact admitted.steady.retired
  · rw [turn, stream, output, reasoning]; exact admitted.steady.idle

theorem reduceClosed_steady {finishedAt : String} {status : ModelStreamStatus}
    {finalText : Option String} {retryable isPartial contentOmitted : Bool}
    {termination : Option ModelCallTermination} {usageEvidence : Option ModelUsageEvidence}
    (admitted : Admitted truth frame base)
    (whole : contentOmitted = true → Restarts base frame →
      base.output = "" ∧ base.reasoning = "") :
    Steady truth (reduceClosed base frame finishedAt status finalText retryable isPartial
      contentOmitted termination usageEvidence) := by
  have beginning := found_beginning frame admitted.steady
  have turn := found_turn admitted
  have fresh : Restarts base frame →
      ((base.calls frame.identity).getD (callFromFrame frame)).status = .running := by
    intro again
    rw [again.2.2]
    rfl
  unfold reduceClosed
  generalize found : (base.calls frame.identity).getD (callFromFrame frame) = call at *
  dsimp only
  split
  next ended =>
    refine Records.steady (Records.unshown admitted found rfl rfl rfl rfl rfl rfl rfl ?_ ?_ ?_)
      admitted
    · exact fun running => absurd running ended
    · exact fun _ _ => ⟨rfl, rfl, turn⟩
    · exact fun again => absurd (fresh again) ended
  next running =>
    rw [not_not] at running
    split
    next omitted =>
      refine Records.steady (Records.unshown admitted found rfl rfl rfl rfl rfl rfl rfl ?_ ?_ ?_)
        admitted
      · intro _ channel
        have held := beginning running channel
        cases channel <;> exact held
      · exact fun _ _ => ⟨rfl, rfl, turn⟩
      · exact fun again => ⟨(whole omitted again).1, (whole omitted again).2, rfl⟩
    · split
      next own =>
        rw [Bool.and_eq_true, beq_iff_eq] at own
        obtain ⟨rootCall, active⟩ := own
        refine Records.steady ⟨rfl, rfl, rfl, nofun, nofun, nofun, ?_, ?_⟩ admitted
        · intro turnId still
          dsimp only at still
          split at still
          · exact admitted.steady.retired turnId still
          · cases still
        · intro missing
          dsimp only at missing ⊢
          split at missing
          · have idle := (admitted.steady.idle missing).1
            rw [active] at idle
            cases idle
          next failed => exact ⟨rfl, if_neg failed, rfl⟩
      next other =>
        rw [Bool.and_eq_true, beq_iff_eq, not_and] at other
        refine Records.steady (Records.unshown admitted found rfl rfl rfl rfl rfl rfl rfl ?_ ?_ ?_)
          admitted
        · exact nofun
        · exact fun rootCall active => absurd active (other rootCall)
        · exact fun again => absurd again.2.1 (other again.1)

end Steady

end MonoidKernel.Studio
