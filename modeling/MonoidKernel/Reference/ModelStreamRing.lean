import MonoidKernel.Library.AnnouncedGaps
import MonoidKernel.Library.NumberedLog
import MonoidKernel.Reference.ModelStream

set_option autoImplicit false

namespace MonoidKernel.ModelStream

open Library (Numbered Heard)
open Library.Heard (Accounts)

variable (config : BrokerConfig)

section Fitted

def delivered (frame : LiveModelStreamFrame) : LiveModelStreamFrame := (fitted config frame).1

@[simp] theorem delivered_cursor (frame : LiveModelStreamFrame) :
    (delivered config frame).cursor = frame.cursor := by
  unfold delivered fitted LiveModelStreamFrame.withoutFacts LiveModelStreamFrame.withoutFinalText
  dsimp only
  repeat' split
  all_goals rfl

@[simp] theorem delivered_kind (frame : LiveModelStreamFrame) :
    (delivered config frame).kind = frame.kind := by
  unfold delivered fitted LiveModelStreamFrame.withoutFacts LiveModelStreamFrame.withoutFinalText
  dsimp only
  repeat' split
  all_goals rfl

def hear (frame : LiveModelStreamFrame) : Heard LiveModelStreamFrame :=
  if frame.kind = .reset then .gap else .item frame

theorem hear_delivered {frame : LiveModelStreamFrame} (call : frame.kind ≠ .reset) :
    hear (delivered config frame) = .item (delivered config frame) := by
  unfold hear
  rw [delivered_kind, if_neg call]

@[simp] theorem hear_resetFrame (ring : RootRing) (rootRunId : String)
    (cursor : LiveModelStreamCursor) (reason : LiveModelStreamResetReason) :
    hear (ring.resetFrame rootRunId cursor reason) = .gap := rfl

end Fitted

section Generations

def beforeRing (generation : String) (published : List LiveModelStreamFrame) :
    List LiveModelStreamFrame :=
  published.takeWhile fun frame => frame.cursor.generation ≠ generation

def sinceRing (generation : String) (published : List LiveModelStreamFrame) :
    List LiveModelStreamFrame :=
  published.dropWhile fun frame => frame.cursor.generation ≠ generation

variable {generation : String} {published : List LiveModelStreamFrame}

theorem before_since (generation : String) (published : List LiveModelStreamFrame) :
    beforeRing generation published ++ sinceRing generation published = published :=
  List.takeWhile_append_dropWhile

theorem sinceRing_fresh (fresh : ∀ frame ∈ published, frame.cursor.generation ≠ generation) :
    sinceRing generation published = [] := by
  unfold sinceRing
  rw [List.dropWhile_eq_nil_iff]
  simpa using fresh

theorem beforeRing_fresh (fresh : ∀ frame ∈ published, frame.cursor.generation ≠ generation) :
    beforeRing generation published = published := by
  have both := before_since generation published
  rwa [sinceRing_fresh fresh, List.append_nil] at both

theorem sinceRing_append {frame : LiveModelStreamFrame}
    (same : frame.cursor.generation = generation) :
    sinceRing generation (published ++ [frame]) = sinceRing generation published ++ [frame] := by
  unfold sinceRing
  rw [List.dropWhile_append]
  split
  next empty =>
    rw [List.isEmpty_iff] at empty
    rw [empty]
    simp [same]
  · rfl

theorem beforeRing_append {frame : LiveModelStreamFrame}
    (same : frame.cursor.generation = generation) :
    beforeRing generation (published ++ [frame]) = beforeRing generation published := by
  have both := before_since generation (published ++ [frame])
  have apart := before_since generation published
  rw [sinceRing_append same] at both
  rw [← List.append_assoc] at both
  have := List.append_cancel_right both
  exact List.append_cancel_right (this.trans apart.symm)

end Generations

section Kept

structure Kept (ring : RootRing) (published : List LiveModelStreamFrame) : Prop where
  generation : ∀ frame ∈ sinceRing ring.generation published,
    frame.cursor.generation = ring.generation
  numbered : Numbered LiveModelStreamFrame.sequence (sinceRing ring.generation published)
  latest : ring.latestSequence = (sinceRing ring.generation published).length
  retained : (ring.frames.map (·.1)).Sublist
    ((sinceRing ring.generation published).map (delivered config))

def Stands (generation : String) (published : List LiveModelStreamFrame) (n : Nat)
    (cursor : LiveModelStreamCursor) : Prop :=
  if cursor.generation = generation then
    n = (beforeRing generation published).length + cursor.sequence
  else n ≤ (beforeRing generation published).length

variable {config} {ring : RootRing} {published : List LiveModelStreamFrame}

theorem Kept.length (kept : Kept config ring published) :
    published.length = (beforeRing ring.generation published).length + ring.latestSequence := by
  have both := congrArg List.length (before_since ring.generation published)
  rw [List.length_append, ← kept.latest] at both
  exact both.symm

theorem Kept.place (kept : Kept config ring published) {frame : LiveModelStreamFrame}
    (member : frame ∈ ring.frames.map (·.1)) :
    frame.cursor.generation = ring.generation ∧ 1 ≤ frame.sequence ∧
      frame.sequence ≤ ring.latestSequence ∧
      (published.map (delivered config))[(beforeRing ring.generation published).length +
        (frame.sequence - 1)]? = some frame := by
  obtain ⟨publication, since, rfl⟩ := List.mem_map.mp (kept.retained.subset member)
  have bounds := kept.numbered.number_le since
  have place := kept.numbered.getElem?_number since
  unfold LiveModelStreamFrame.sequence at *
  rw [delivered_cursor]
  refine ⟨kept.generation publication since, bounds.1, ?_, ?_⟩
  · rw [kept.latest]; exact bounds.2
  · have both := before_since ring.generation published
    rw [List.getElem?_map, ← both, List.getElem?_append_right (by simp [both]), both,
      Nat.add_sub_cancel_left, place]
    rfl

theorem Kept.call (kept : Kept config ring published)
    (calls : ∀ publication ∈ published, publication.kind ≠ .reset) {frame : LiveModelStreamFrame}
    (member : frame ∈ ring.frames.map (·.1)) : hear frame = .item frame := by
  obtain ⟨publication, since, rfl⟩ := List.mem_map.mp (kept.retained.subset member)
  exact hear_delivered config (calls publication ((List.dropWhile_sublist _).subset since))

variable {rootRunId : String} {limit : Option Nat} {received : List LiveModelStreamFrame}

-- What a poll makes of a cursor: with what it returns, the reader stands at the new cursor.
structure Collected (config : BrokerConfig) (ring : RootRing)
    (published received : List LiveModelStreamFrame) (cursor : LiveModelStreamCursor)
    (output : List LiveModelStreamFrame) : Prop where
  generation : cursor.generation = ring.generation
  accounts : Accounts (published.map (delivered config)) ((received ++ output).map hear)
    ((beforeRing ring.generation published).length + cursor.sequence)
  last : output ≠ [] → output.getLast?.map (·.cursor) = some cursor

theorem Collected.reset {cursor : LiveModelStreamCursor} {output : List LiveModelStreamFrame}
    (so : Collected config ring published received cursor output)
    (kept : Kept config ring published) (rootRunId : String) (sequence : Nat)
    (forward : cursor.sequence ≤ sequence) (inside : sequence ≤ ring.latestSequence) :
    Collected config ring published received ⟨ring.generation, sequence⟩
      (output ++ [ring.resetFrame rootRunId ⟨ring.generation, sequence⟩ .cursorGap]) := by
  refine ⟨rfl, ?_, fun _ => by simp [RootRing.resetFrame]⟩
  rw [← List.append_assoc, List.map_append]
  refine .gap so.accounts (by dsimp only; omega) ?_
  rw [List.length_map, kept.length]
  dsimp only
  omega

theorem Collected.frame {cursor : LiveModelStreamCursor} {output : List LiveModelStreamFrame}
    (so : Collected config ring published received cursor output)
    (kept : Kept config ring published)
    (calls : ∀ publication ∈ published, publication.kind ≠ .reset) {frame : LiveModelStreamFrame}
    (member : frame ∈ ring.frames.map (·.1)) (next : frame.sequence = cursor.sequence + 1) :
    Collected config ring published received frame.cursor (output ++ [frame]) := by
  obtain ⟨generation, low, _, place⟩ := kept.place member
  refine ⟨generation, ?_, fun _ => by simp⟩
  rw [← List.append_assoc, List.map_append, List.map_singleton, kept.call calls member]
  have counted : (beforeRing ring.generation published).length + frame.cursor.sequence =
      (beforeRing ring.generation published).length + cursor.sequence + 1 := by
    unfold LiveModelStreamFrame.sequence at next
    omega
  rw [counted]
  refine .item so.accounts ?_
  rwa [next, Nat.add_sub_cancel] at place

-- The end of a look at the ring from a cursor: what was read, and that nothing is left when the
-- output is empty.
structure Ended (config : BrokerConfig) (ring : RootRing)
    (published received : List LiveModelStreamFrame) (limit : Option Nat)
    (cursor : LiveModelStreamCursor) (output : List LiveModelStreamFrame)
    (result : LiveModelStreamCursor × List LiveModelStreamFrame) : Prop where
  collected : Collected config ring published received result.1 result.2
  forward : cursor.sequence ≤ result.1.sequence
  more : output.length ≤ result.2.length
  unmoved : result.2 = [] → result.1 = cursor
  through : result.2 = [] → limit ≠ some 0 → result.1.sequence = ring.latestSequence

open LiveModelStreamBroker in
theorem collectFrames_spec (rootRunId : String) (limit : Option Nat)
    (kept : Kept config ring published)
    (calls : ∀ publication ∈ published, publication.kind ≠ .reset)
    (frames : List (LiveModelStreamFrame × Nat)) (within : frames ⊆ ring.frames)
    (cursor : LiveModelStreamCursor) (output : List LiveModelStreamFrame)
    (so : Collected config ring published received cursor output) :
    Ended config ring published received limit cursor output
      (collectFrames ring rootRunId limit frames (cursor.sequence + 1) cursor output) := by
  induction frames generalizing cursor output with
  | nil =>
    have inside : cursor.sequence ≤ ring.latestSequence := by
      have := so.accounts.le_length
      rw [List.length_map, kept.length] at this
      omega
    unfold collectFrames
    split
    next behind =>
      exact ⟨so.reset kept _ _ behind.1.le le_rfl, behind.1.le, by
        simp, fun empty => by simp at empty,
        fun empty => by simp at empty⟩
    next done =>
      refine ⟨so, le_rfl, le_rfl, fun _ => rfl, fun empty positive => ?_⟩
      have free : room limit output := by
        rw [show output = [] from empty]
        cases limit with
        | none => rfl
        | some limit =>
          exact decide_eq_true (Nat.pos_of_ne_zero fun zero => positive (by rw [zero]))
      have := not_and.mp done
      simp only [free, not_true, imp_false] at this
      dsimp only
      omega
  | cons entry rest ih =>
    obtain ⟨frame, size⟩ := entry
    have member : frame ∈ ring.frames.map (·.1) := List.mem_map_of_mem (within List.mem_cons_self)
    obtain ⟨_, low, high, _⟩ := kept.place member
    have later := ih fun _ member => within (List.mem_cons_of_mem _ member)
    -- Where the cursor stands just before the frame, the frame is next.
    have next : ∀ before earlier, Collected config ring published received before earlier →
        cursor.sequence ≤ before.sequence → output.length ≤ earlier.length →
        frame.sequence = before.sequence + 1 →
        Ended config ring published received limit cursor output
          (if room limit (earlier ++ [frame]) then
            collectFrames ring rootRunId limit rest (frame.sequence + 1) frame.cursor
              (earlier ++ [frame])
          else (frame.cursor, earlier ++ [frame])) := by
      intro before earlier so forward more next
      have taken := so.frame kept calls member next
      have beyond : cursor.sequence ≤ frame.cursor.sequence := by
        unfold LiveModelStreamFrame.sequence at next
        omega
      split
      · have ended := later frame.cursor (earlier ++ [frame]) taken
        change Ended config ring published received limit frame.cursor (earlier ++ [frame])
          (collectFrames ring rootRunId limit rest (frame.sequence + 1) frame.cursor
            (earlier ++ [frame])) at ended
        obtain ⟨collected, further, longer, _, through⟩ := ended
        rw [List.length_append, List.length_singleton] at longer
        refine ⟨collected, beyond.trans further, by omega, fun empty => ?_, through⟩
        rw [empty, List.length_nil] at longer
        omega
      · exact ⟨taken, beyond, by simp; omega, fun empty => by simp at empty,
          fun empty => by simp at empty⟩
    unfold collectFrames
    split
    · exact later cursor output so
    next due =>
      dsimp only
      by_cases hole : cursor.sequence + 1 < frame.sequence
      · have reset := so.reset kept rootRunId (frame.sequence - 1) (by omega) (by omega)
        simp only [hole, true_and, if_true]
        split
        · refine ⟨reset, ?_, by simp, fun empty => by simp at empty, fun empty => by simp at empty⟩
          dsimp only
          omega
        · exact next _ _ reset (by dsimp only; omega) (by simp) (by dsimp only; omega)
      · simp only [hole, false_and, if_false]
        exact next _ _ so le_rfl le_rfl (by omega)

theorem Kept.baseline_le (kept : Kept config ring published) :
    ring.baseline ≤ ring.latestSequence := by
  unfold RootRing.baseline
  split
  · exact le_rfl
  next frame size rest found =>
    have member : frame ∈ ring.frames.map (·.1) := by simp [found]
    obtain ⟨_, _, high, _⟩ := kept.place member
    omega

theorem resetReason_spec (kept : Kept config ring published) (cursor : LiveModelStreamCursor) :
    (ring.resetReason cursor).2 ≤ ring.latestSequence ∧
      ((ring.resetReason cursor).1 = none → cursor.generation = ring.generation) ∧
      (cursor.generation = ring.generation → (ring.resetReason cursor).1 ≠ none →
        cursor.sequence ≤ ring.latestSequence → cursor.sequence ≤ (ring.resetReason cursor).2) := by
  unfold RootRing.resetReason
  have baseline := kept.baseline_le
  split
  next other => exact ⟨baseline, nofun, fun same _ _ => absurd same other⟩
  next same =>
    split
    next behind => exact ⟨baseline, fun _ => not_not.mp same, fun _ _ _ => behind.le⟩
    · split
      next ahead => exact ⟨le_rfl, fun _ => not_not.mp same, fun _ _ inside => inside⟩
      · exact ⟨baseline, fun _ => not_not.mp same, fun _ some _ => absurd rfl some⟩

open LiveModelStreamBroker in
theorem collect_spec (kept : Kept config ring published)
    (calls : ∀ publication ∈ published, publication.kind ≠ .reset)
    (subscription : LiveModelStreamSubscription) {n : Nat}
    (stands : Stands ring.generation published n subscription.cursor)
    (accounts : Accounts (published.map (delivered config)) (received.map hear) n)
    (positive : limit ≠ some 0) :
    ∃ cursor, (collect ring limit subscription).1 =
        { subscription with
          cursor := cursor
          observedGeneration := some ring.generation
          evictedCursor := none
          adoptInitialGeneration := false
          resetMissingCursor := false
          pending := false } ∧
      Collected config ring published received cursor (collect ring limit subscription).2 ∧
      n ≤ (beforeRing ring.generation published).length + cursor.sequence ∧
      ((collect ring limit subscription).2 = [] →
        (beforeRing ring.generation published).length + cursor.sequence = n ∧
          n = published.length) := by
  obtain ⟨inside, unreset, forward⟩ := resetReason_spec kept subscription.cursor
  unfold collect
  dsimp only
  cases looked : ring.resetReason subscription.cursor with
  | mk reason baseline =>
    rw [looked] at inside unreset forward
    dsimp only at inside unreset forward
    cases reason with
    | none =>
      have same := unreset rfl
      rw [Stands, if_pos same] at stands
      have so : Collected config ring published received subscription.cursor [] :=
        ⟨same, by rwa [List.append_nil, ← stands], fun some => absurd rfl some⟩
      have ended := collectFrames_spec subscription.rootRunId limit kept calls ring.frames
         (List.Subset.refl _) subscription.cursor [] so
      refine ⟨_, rfl, ended.collected, ?_, fun empty => ?_⟩
      · have := ended.forward; omega
      · have unmoved := ended.unmoved empty
        have through := ended.through empty positive
        rw [unmoved] at through ⊢
        rw [kept.length]
        omega
    | some reason =>
      have lower : n ≤ (beforeRing ring.generation published).length + baseline := by
        have bound := accounts.le_length
        rw [List.length_map, kept.length] at bound
        unfold Stands at stands
        split at stands
        next same => have := forward same nofun (by omega); omega
        · omega
      have so : Collected config ring published received ⟨ring.generation, baseline⟩
          [ring.resetFrame subscription.rootRunId ⟨ring.generation, baseline⟩ reason] := by
        refine ⟨rfl, ?_, fun _ => rfl⟩
        rw [List.map_append]
        refine .gap accounts lower ?_
        rw [List.length_map, kept.length]
        dsimp only
        omega
      dsimp only
      split
      · have ended := collectFrames_spec subscription.rootRunId limit kept calls ring.frames
           (List.Subset.refl _) ⟨ring.generation, baseline⟩ _ so
        refine ⟨_, rfl, ended.collected, ?_, fun empty => ?_⟩
        · have := ended.forward; dsimp only at this ⊢; omega
        · have more := ended.more
          rw [empty] at more
          cases more
      · exact ⟨_, rfl, so, lower, nofun⟩

end Kept

section Push

variable {ring : RootRing} {published : List LiveModelStreamFrame}

theorem discardOldest_sublist (frames : List (LiveModelStreamFrame × Nat)) (byteCount : Nat) :
    (discardOldest config frames byteCount).1.Sublist frames := by
  induction frames generalizing byteCount with
  | nil => exact List.Sublist.refl _
  | cons entry rest ih =>
    unfold discardOldest
    split
    · exact (ih _).cons _
    · exact List.Sublist.refl _

@[simp] theorem push_generation (ring : RootRing) (frame : LiveModelStreamFrame) :
    (ring.push config frame).generation = ring.generation := by
  unfold RootRing.push
  dsimp only
  split <;> rfl

@[simp] theorem push_latestSequence (ring : RootRing) (frame : LiveModelStreamFrame) :
    (ring.push config frame).latestSequence = frame.sequence := by
  unfold RootRing.push
  dsimp only
  split <;> rfl

theorem push_frames_sublist (ring : RootRing) (frame : LiveModelStreamFrame) :
    ((ring.push config frame).frames.map (·.1)).Sublist
      (ring.frames.map (·.1) ++ [delivered config frame]) := by
  unfold RootRing.push
  dsimp only
  split
  · have shorter := (discardOldest_sublist config
      (ring.frames ++ [(fitted config frame)]) (ring.byteCount + (fitted config frame).2)).map (·.1)
    rwa [List.map_append, List.map_singleton] at shorter
  · exact List.sublist_append_left _ _

theorem Kept.push (kept : Kept config ring published) {frame : LiveModelStreamFrame}
    (placed : frame.cursor = ⟨ring.generation, ring.latestSequence + 1⟩) :
    Kept config (ring.push config frame) (published ++ [frame]) := by
  have same : frame.cursor.generation = ring.generation := by rw [placed]
  have next : frame.sequence = ring.latestSequence + 1 := by
    unfold LiveModelStreamFrame.sequence
    rw [placed]
  constructor
  · rw [push_generation, sinceRing_append same, List.forall_mem_append]
    exact ⟨kept.generation, by simpa using same⟩
  · rw [push_generation, sinceRing_append same]
    exact kept.numbered.append (by rw [next, kept.latest])
  · rw [push_generation, push_latestSequence, sinceRing_append same, List.length_append, next,
      kept.latest]
    rfl
  · rw [push_generation, sinceRing_append same, List.map_append]
    exact (push_frames_sublist config ring frame).trans
      (kept.retained.append (List.Sublist.refl _))

theorem Kept.fresh {generation : String}
    (fresh : ∀ frame ∈ published, frame.cursor.generation ≠ generation) :
    Kept config ⟨generation, [], 0, 0⟩ published := by
  have none := sinceRing_fresh fresh
  constructor
  · simp [none]
  · simpa [none] using Numbered.nil LiveModelStreamFrame.sequence
  · simp [none]
  · simp [none]

end Push

end MonoidKernel.ModelStream
