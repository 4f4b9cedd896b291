import Mathlib.Data.List.Induction
import MonoidKernel.Studio.ModelStreamExact

set_option autoImplicit false

namespace MonoidKernel.Studio

open Library

section Steps

variable {truth : Truth} {state : ModelStreamViewState}

theorem steady_idle
    (beginnings : ∀ key call, state.calls key = some call → call.status = .running →
      ∀ channel, Beginning ((truth key).text channel) (call.text channel) (call.knownBytes channel))
    (stream : state.activeRootStreamId = none) (turn : state.activeRootTurnId = none)
    (output : state.output = "") (reasoning : state.reasoning = "") : Steady truth state := by
  refine ⟨beginnings, ?_, ?_, fun _ => ⟨stream, output, reasoning⟩, fun _ => turn, ?_⟩
  · simp [stream]
  · simp [turn]
  · simp [stream]

theorem reduceCallFrame_steady {frame : ModelStreamCallFrame} (steady : Steady truth state)
    (rooted : state.rootRunId = none ∨ state.rootRunId = some frame.rootRunId)
    (carried : frame.Carries truth)
    (whole : ∀ base, admitFrame state frame = .ok base → frame.Whole base) :
    Steady truth (reduceCallFrame state frame) := by
  have reached := admitFrame_spec steady rooted
  unfold reduceCallFrame
  cases way : admitFrame state frame with
  | error left => rwa [way] at reached
  | ok base =>
    rw [way] at reached
    have admitted : Admitted truth frame base := reached
    have fits := whole base way
    unfold ModelStreamCallFrame.Whole at fits
    unfold ModelStreamCallFrame.Carries at carried
    dsimp only
    cases kind : frame.kind with
    | opened provider model => exact reduceOpened_steady admitted
    | delta channel text startOffset endOffset =>
      rw [kind] at fits carried
      exact reduceDelta_steady steady admitted carried.1 carried.2 fits
    | closed finishedAt status finalText retryable isPartial contentOmitted termination evidence =>
      rw [kind] at fits
      exact reduceClosed_steady admitted fits

theorem reduceReset_steady (frame : ModelStreamResetFrame) (steady : Steady truth state) :
    Steady truth (reduceReset state frame) := by
  unfold reduceReset
  split
  · exact steady
  split
  · exact steady
  split
  · exact steady
  exact steady.shrunk ⟨fun _ _ found => found, .inr rfl, rfl, rfl, rfl, rfl, rfl, nofun⟩

theorem markModelStreamPartialSuperseded_steady (turnId : String) (steady : Steady truth state) :
    Steady truth (markModelStreamPartialSuperseded state turnId) := by
  unfold markModelStreamPartialSuperseded
  split
  · exact steady
  dsimp only
  split
  · exact steady_idle steady.beginnings rfl rfl rfl rfl
  next other =>
    refine ⟨steady.beginnings, steady.projected, ?_, steady.idle, steady.unrooted, steady.named⟩
    intro active current
    have unmarked := steady.retired active current
    dsimp only
    split
    · exact unmarked
    · have different : active ≠ turnId := fun same => other (same ▸ current)
      simp [unmarked, different]

theorem sealModelStreamTurn_steady (turnId : Option String) (steady : Steady truth state) :
    Steady truth (sealModelStreamTurn state turnId) := by
  unfold sealModelStreamTurn
  split
  · exact steady
  exact steady.shrunk ⟨fun _ _ found => found, .inr rfl, rfl, rfl, rfl, rfl, rfl, id⟩

theorem resumed_steady (rootRunId : Option String) :
    Steady truth (resumed state rootRunId) :=
  steady_idle (by simp [resumed, initialModelStreamState]) rfl rfl rfl rfl

end Steps

section Seeding

variable {truth : Truth} {state : ModelStreamViewState} {rootRunId : String}

theorem seededCall_spec (state : ModelStreamViewState) (snapshot : ModelContentSnapshot) :
    ∃ termination usageEvidence, seededCall state snapshot =
      { callFromSnapshot snapshot with
        termination := termination, usageEvidence := usageEvidence } := by
  unfold seededCall
  split
  · exact ⟨none, none, rfl⟩
  next prior _ =>
    dsimp only
    split
    · exact ⟨prior.termination, prior.usageEvidence, rfl⟩
    · exact ⟨none, none, rfl⟩

theorem seededCall_beginning {snapshot : ModelContentSnapshot} (state : ModelStreamViewState)
    (carried : snapshot.Carries truth)
    (running : (seededCall state snapshot).status = .running) (channel : ModelStreamChannel) :
    Beginning ((truth (modelStreamCallKey snapshot.runId snapshot.streamId)).text channel)
      ((seededCall state snapshot).text channel)
      ((seededCall state snapshot).knownBytes channel) := by
  obtain ⟨termination, usageEvidence, same⟩ := seededCall_spec state snapshot
  rw [same] at running ⊢
  have status : snapshot.status = .running := running
  cases channel with
  | reasoning => exact carried.2
  | output =>
    have held := carried.1
    unfold LiveModelCallState.text callFromSnapshot
    dsimp only
    rw [if_pos status]
    exact held

structure Seeded (truth : Truth) (state : ModelStreamViewState) (rootRunId : String)
    (runs : List String) (seeding : Seeding) : Prop where
  listed : ∀ key call, seeding.calls key = some call → key.1 ∈ runs
  beginnings : ∀ key call, seeding.calls key = some call → call.status = .running →
    ∀ channel, Beginning ((truth key).text channel) (call.text channel) (call.knownBytes channel)
  active : ∀ call, seeding.activeRoot = some call → call.streamId ≠ "" ∧
    seeding.calls (modelStreamCallKey rootRunId call.streamId) = some call ∧
    call.turnId ∉ state.supersededRootTurnIds

theorem seedStream_spec {runs : List String} {seeding : Seeding} {snapshot : ModelContentSnapshot}
    (seeded : Seeded truth state rootRunId runs seeding) (carried : snapshot.Carries truth)
    (named : snapshot.streamId ≠ "") (new : snapshot.runId ∉ runs) :
    Seeded truth state rootRunId (runs ++ [snapshot.runId])
      (seedStream state rootRunId seeding snapshot) := by
  have beginning := seededCall_beginning state carried
  have identity : (seededCall state snapshot).runId = snapshot.runId ∧
      (seededCall state snapshot).streamId = snapshot.streamId := by
    obtain ⟨termination, usageEvidence, same⟩ := seededCall_spec state snapshot
    rw [same]
    exact ⟨rfl, rfl⟩
  unfold seedStream
  generalize seededCall state snapshot = call at *
  obtain ⟨sameRun, sameStream⟩ := identity
  dsimp only
  rw [sameRun, sameStream]
  constructor
  · intro key held found
    dsimp only at found
    by_cases own : key = modelStreamCallKey snapshot.runId snapshot.streamId
    · rw [own]; simp [modelStreamCallKey]
    · rw [Function.update_of_ne own] at found
      exact List.mem_append_left _ (seeded.listed key held found)
  · intro key held found
    dsimp only at found
    by_cases own : key = modelStreamCallKey snapshot.runId snapshot.streamId
    · rw [own, Function.update_self] at found
      rw [own, ← Option.some.inj found]
      exact beginning
    · rw [Function.update_of_ne own] at found
      exact seeded.beginnings key held found
  · intro held active
    dsimp only at active ⊢
    split at active
    next chosen =>
      rw [← Option.some.inj active, sameStream, ← chosen.1]
      exact ⟨named, Function.update_self .., chosen.2.2⟩
    · obtain ⟨stream, found, live⟩ := seeded.active held active
      refine ⟨stream, ?_, live⟩
      have earlier : rootRunId ∈ runs := seeded.listed _ held found
      rw [Function.update_of_ne ?_]
      · exact found
      · intro same
        have run : rootRunId = snapshot.runId := congrArg Prod.fst same
        exact new (run ▸ earlier)

theorem seedStreams_spec {streams : List ModelContentSnapshot} (state : ModelStreamViewState)
    (rootRunId : String) (carried : ∀ snapshot ∈ streams, snapshot.Carries truth)
    (named : ∀ snapshot ∈ streams, snapshot.streamId ≠ "")
    (distinct : (streams.map (·.runId)).Nodup) :
    Seeded truth state rootRunId (streams.map (·.runId)) (seedStreams state rootRunId streams) := by
  induction streams using List.reverseRecOn with
  | nil => constructor <;> simp [seedStreams]
  | append_singleton earlier snapshot ih =>
    rw [List.forall_mem_append] at carried named
    rw [List.map_append, List.nodup_append] at distinct
    unfold seedStreams
    rw [List.foldl_append, List.map_append]
    refine seedStream_spec (ih carried.1 named.1 distinct.1) (carried.2 _ (by simp))
      (named.2 _ (by simp)) ?_
    intro again
    exact distinct.2.2 _ again _ (by simp) rfl

theorem seedModelStreamSnapshot_steady {response : ModelContentResponse}
    (steady : Steady truth state)
    (carried : ∀ snapshot ∈ response.streams, snapshot.Carries truth) :
    Steady truth (seedModelStreamSnapshot state response) := by
  have seeded := seedStreams_spec state response.rootRunId carried
    (fun snapshot member => (response.identified snapshot member).2.2) response.distinct
  unfold seedModelStreamSnapshot
  split
  · exact steady
  generalize seedStreams state response.rootRunId response.streams = seeding at *
  dsimp only
  cases chosen : seeding.activeRoot with
  | none =>
    exact steady_idle seeded.beginnings rfl rfl rfl rfl
  | some call =>
    obtain ⟨named, found, live⟩ := seeded.active call chosen
    refine ⟨seeded.beginnings, ?_, ?_, by simp, by simp [resumed, initialModelStreamState], ?_⟩
    · intro root streamId held rooted active present
      have root : response.rootRunId = root := Option.some.inj rooted
      have stream : call.streamId = streamId := Option.some.inj active
      rw [← root, ← stream] at present
      have same : call = held := Option.some.inj (found.symm.trans present)
      rw [← same]
      exact ⟨rfl, rfl, fun _ => rfl⟩
    · intro turnId active; exact Option.some.inj active ▸ live
    · intro unnamed; exact named (Option.some.inj unnamed)

end Seeding

section Runs

variable {truth : Truth} {state : ModelStreamViewState}

theorem pageStep_steady {event : PageEvent} (steady : Steady truth state)
    (carried : event.Carries truth) (whole : event.Whole state) :
    Steady truth (pageStep state event) := by
  cases event with
  | frame frame =>
    change Steady truth (reduceModelStreamFrame state frame)
    unfold reduceModelStreamFrame
    split
    · exact steady
    next rooted =>
      rw [not_and_or, not_not, not_not] at rooted
      cases frame with
      | reset frame => exact reduceReset_steady frame steady
      | call frame => exact reduceCallFrame_steady steady rooted carried (whole rooted)
  | snapshot response => exact seedModelStreamSnapshot_steady steady carried
  | hydrated => exact resumed_steady state.rootRunId
  | sealed turnId => exact sealModelStreamTurn_steady turnId steady
  | superseded turnId => exact markModelStreamPartialSuperseded_steady turnId steady

theorem SameShown.refl (state : ModelStreamViewState) : SameShown state state :=
  ⟨rfl, rfl, rfl, rfl, rfl, rfl⟩

theorem cursorDisposition_shown {cursor : ParsedCursor} {left : ModelStreamViewState}
    (disposed : cursorDisposition state cursor = some left) : SameShown state left := by
  unfold cursorDisposition at disposed
  split at disposed
  · cases disposed
  split at disposed
  · exact Option.some.inj disposed ▸ SameShown.refl state
  split at disposed
  · exact Option.some.inj disposed ▸ ⟨rfl, rfl, rfl, rfl, rfl, rfl⟩
  split at disposed
  · exact Option.some.inj disposed ▸ ⟨rfl, rfl, rfl, rfl, rfl, rfl⟩
  · cases disposed

theorem superseded_refused {frame : ModelStreamCallFrame} (rootCall : frame.rootCall = true)
    (superseded : frame.turnId ∈ state.supersededRootTurnIds) :
    SameShown state (reduceModelStreamFrame state (.call frame)) := by
  unfold reduceModelStreamFrame
  split
  · exact SameShown.refl state
  dsimp only
  unfold reduceCallFrame admitFrame
  cases parseCursor frame.cursor with
  | none => exact SameShown.refl state
  | some cursor =>
    dsimp only
    by_cases sequence : (cursor.sequence : Int) ≠ frame.sequence
    · rw [if_pos sequence]; exact SameShown.refl state
    rw [if_neg sequence]
    by_cases waiting : state.needsHydration = true
    · rw [if_pos waiting]; exact SameShown.refl state
    rw [if_neg waiting]
    cases disposed : cursorDisposition state cursor with
    | some left => exact cursorDisposition_shown disposed
    | none =>
      dsimp only
      rw [if_pos ⟨rootCall, superseded⟩]
      exact ⟨rfl, rfl, rfl, rfl, rfl, rfl⟩

theorem Steady.exact (steady : Steady truth state) : Exact truth state where
  beginnings := steady.beginnings
  projected rootRunId streamId call rooted active found :=
    let shown := steady.projected rootRunId streamId call rooted active found
    ⟨shown.1, shown.2.1⟩
  retired := steady.retired
  refused _ rootCall superseded := superseded_refused rootCall superseded

theorem exec_steady {rootRunId : Option String} {events : List PageEvent}
    (steady : Steady truth state) (carried : ∀ event ∈ events, event.Carries truth)
    (whole : (page rootRunId).Along (fun state event => event.Whole state) state events) :
    Steady truth ((page rootRunId).exec state events) := by
  induction events generalizing state with
  | nil => exact steady
  | cons event rest ih =>
    rw [List.forall_mem_cons] at carried
    exact ih (pageStep_steady steady carried.1 whole.1) carried.2 whole.2

theorem prefixes_exact (truth : Truth) (rootRunId : Option String) (events : List PageEvent)
    (carried : ∀ event ∈ events, event.Carries truth)
    (whole : (page rootRunId).Along (fun state event => event.Whole state) (page rootRunId).init
      events) :
    ∀ earlier, earlier <+: events →
      Exact truth ((page rootRunId).exec (page rootRunId).init earlier) := by
  rintro earlier ⟨later, rfl⟩
  rw [List.forall_mem_append] at carried
  have initial : Steady truth (page rootRunId).init :=
    steady_idle (by simp [page, initialModelStreamState]) rfl rfl rfl rfl
  exact (exec_steady initial carried.1 whole.start).exact

def callFrame (sequence : Nat) (kind : ModelStreamCallKind) (spans : kind.Spans) : PageEvent :=
  .frame (.call
    { cursor := "g:" ++ toString sequence
      sequence := sequence
      rootRunId := "root"
      runId := "root"
      turnId := "turn"
      streamId := "stream"
      step := 1
      startedAt := "now"
      kind := kind
      identified := by decide
      spans := spans })

theorem prefixes_exact_overlap :
    Exact (fun _ => ⟨"ab", ""⟩) ((page none).exec (page none).init
      [callFrame 0 (.opened none none) trivial,
        callFrame 1 (.delta .output "a" 0 1) (by decide),
        callFrame 2 (.delta .output "ab" 0 2) (by decide)]) := by
  refine prefixes_exact _ none _ ?_ ?_ _ (List.prefix_refl _)
  · simp only [List.forall_mem_cons]
    refine ⟨trivial, ?_, ?_, by simp⟩
    · exact ⟨by decide +kernel, by decide +kernel⟩
    · exact ⟨by decide +kernel, by decide +kernel⟩
  · refine ⟨?_, ?_, ?_, trivial⟩
    · exact fun _ _ _ => trivial
    · intro _ base way
      cases way
      intro _ _ _
      refine ⟨by decide +kernel, ?_, ?_⟩
      · exact fun _ => ⟨rfl, rfl⟩
      · exact fun _ => ⟨rfl, rfl, rfl⟩
    · intro _ base way
      cases way
      intro _ _ _
      refine ⟨by decide +kernel, ?_, ?_⟩
      · intro activates; exact absurd activates (by decide +kernel)
      · exact fun again => absurd again.2.2 (by decide +kernel)

theorem mark_dropped : ¬∀ (truth : Truth) (rootRunId : Option String) (events : List PageEvent),
    (∀ event ∈ events, event.Carries truth) →
      Exact truth ((page rootRunId).exec (page rootRunId).init events) := by
  intro always
  let events := [callFrame 0 (.opened none none) trivial,
    callFrame 1 (.delta .output "a" 0 1) (by decide),
    callFrame 2 (.delta .output "a\uFEFFb" 0 5) (by decide)]
  have exact := always (fun _ => ⟨"a\uFEFFb", ""⟩) none events
    (by
      simp only [events, List.forall_mem_cons]
      refine ⟨trivial, ?_, ?_, by simp⟩
      · exact ⟨by decide +kernel, by decide +kernel⟩
      · exact ⟨by decide +kernel, by decide +kernel⟩)
  have held : (((page none).exec (page none).init events).calls ("root", "stream")).map
      (fun call => (call.status, call.output, call.outputBytes)) = some (.running, "ab", 5) := by
    decide +kernel
  obtain ⟨call, found, shape⟩ := Option.map_eq_some_iff.mp held
  rw [Prod.mk.injEq, Prod.mk.injEq] at shape
  obtain ⟨running, output, bytes⟩ := shape
  have beginning := (exact.beginnings _ call found running .output).2
  unfold LiveModelCallState.text LiveModelCallState.knownBytes at beginning
  dsimp only at beginning
  rw [output, bytes] at beginning
  exact absurd beginning (by decide +kernel)

end Runs

end MonoidKernel.Studio
