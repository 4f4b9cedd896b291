import MonoidKernel.Core.PayloadReplay
import MonoidKernel.Library.Machine
import Mathlib.Tactic.SplitIfs

set_option autoImplicit false

namespace MonoidKernel.PayloadReplay

open Library (reclaim reclaim_spec reclaim_comm)

variable {Digest Value : Type} [DecidableEq Digest]

-- `ReplayTake`. `moved` is kept for the record: whether declaring it served moved the cursor.
structure ReplayTake (Digest Value : Type) where
  digest : Digest
  outcome : Outcome Value
  declared : Option Bool
  moved : Bool

def ReplayTake.hit (take : ReplayTake Digest Value) : Option Nat :=
  match take.outcome with
  | .inl response => some response.slot
  | .inr _ => none

def ReplayTake.refused (take : ReplayTake Digest Value) : Option Nat :=
  match take.outcome with
  | .inl _ => none
  | .inr miss => miss.slot

structure TakeState (Digest Value : Type) where
  corpus : ReplayCorpus Digest Value
  takes : List (ReplayTake Digest Value)

-- `entryBody` is part of the label: what an offloaded body says is read from disk in every take.
inductive TakeLabel (Digest Value : Type) where
  | take (digest : Digest) (generation : String) (entryBody : ResponseEntry Value → Option Value)
  | served (position : Nat)
  | unserved (position : Nat)
  | leave (position : Nat) (raised : Bool)

inductive TakeAnswer (Value : Type) where
  | taken (outcome : Outcome Value)
  | settled
  | alreadySettled
  | left
  | undeclared

namespace TakeState

def settleCorpus (corpus : ReplayCorpus Digest Value) (take : ReplayTake Digest Value)
    (served : Bool) : ReplayCorpus Digest Value :=
  match served, take.hit, take.refused with
  | true, none, some slot => corpus.spendRefused take.digest slot
  | false, some slot, _ => corpus.release take.digest slot
  | _, _, _ => corpus

def settledTake (s : TakeState Digest Value) (take : ReplayTake Digest Value) (served : Bool) :
    ReplayTake Digest Value :=
  { take with
    declared := some served
    moved := served && decide ((settleCorpus s.corpus take served).cursors take.digest ≠
      s.corpus.cursors take.digest) }

def settle (s : TakeState Digest Value) (position : Nat) (take : ReplayTake Digest Value)
    (served : Bool) : TakeState Digest Value :=
  ⟨settleCorpus s.corpus take served, s.takes.set position (s.settledTake take served)⟩

def declare (s : TakeState Digest Value) (position : Nat) (served : Bool) :
    TakeState Digest Value × TakeAnswer Value :=
  match s.takes[position]? with
  | none => (s, .left)
  | some take =>
    if take.declared ≠ none then (s, .alreadySettled)
    else (s.settle position take served, .settled)

def leave (s : TakeState Digest Value) (position : Nat) (raised : Bool) :
    TakeState Digest Value × TakeAnswer Value :=
  match s.takes[position]? with
  | none => (s, .left)
  | some take =>
    if take.declared ≠ none then (s, .left)
    else (s.settle position take false, if raised then .left else .undeclared)

end TakeState

def takeStep (s : TakeState Digest Value) :
    TakeLabel Digest Value → TakeState Digest Value × TakeAnswer Value
  | .take digest generation entryBody =>
    let (corpus, outcome) := s.corpus.consume entryBody digest generation
    (⟨corpus, s.takes ++ [⟨digest, outcome, none, false⟩]⟩, .taken outcome)
  | .served position => s.declare position true
  | .unserved position => s.declare position false
  | .leave position raised => s.leave position raised

def takeMachine (loaded : ReplayCorpus Digest Value) :
    Library.Machine (TakeState Digest Value) (TakeLabel Digest Value) (TakeAnswer Value) :=
  ⟨⟨{ loaded with cursors := fun _ => 0, pendingReleases := fun _ => ∅ }, []⟩, takeStep⟩

section Slots

-- The take holds the slot: it was handed it and has not given it back, or it moved the cursor past
-- its refusal.
def Holds (digest : Digest) (slot : Nat) (take : ReplayTake Digest Value) : Prop :=
  take.digest = digest ∧ ((take.hit = some slot ∧ take.declared ≠ some false) ∨
    (take.refused = some slot ∧ take.moved = true))

instance (digest : Digest) (slot : Nat) :
    DecidablePred (fun take : ReplayTake Digest Value => Holds digest slot take) :=
  fun _ => inferInstanceAs (Decidable (_ ∧ _))

-- The slot a take keeps for good: it was served with it, or the conversation was moved past its
-- refusal.
def ReplayTake.kept (take : ReplayTake Digest Value) : Option Nat :=
  match take.outcome with
  | .inl response => if take.declared = some true then some response.slot else none
  | .inr miss => if take.moved = true then miss.slot else none

def Keeps (digest : Digest) (slot : Nat) (take : ReplayTake Digest Value) : Prop :=
  take.digest = digest ∧ take.kept = some slot

def keptSlots (digest : Digest) (takes : List (ReplayTake Digest Value)) : List Nat :=
  (takes.filter fun take => take.digest = digest).filterMap ReplayTake.kept

def Outstanding (digest : Digest) (take : ReplayTake Digest Value) : Prop :=
  take.digest = digest ∧ take.hit ≠ none ∧ take.declared = none

-- Every slot below the cursor is held by one take or waits to be handed out again, and no slot from
-- the cursor on.
structure Conserved (s : TakeState Digest Value) (digest : Digest) : Prop where
  within : s.corpus.cursors digest ≤ (s.corpus.responses digest).length
  once : ∀ slot, s.takes.countP (fun take => Holds digest slot take) +
      (if slot ∈ s.corpus.pendingReleases digest then 1 else 0) =
    if slot < s.corpus.cursors digest then 1 else 0
  top : ∀ slot, s.corpus.cursors digest = slot + 1 → slot ∉ s.corpus.pendingReleases digest

def Undeclared (take : ReplayTake Digest Value) : Prop :=
  take.declared = none → take.moved = false

theorem countP_set {A : Type} (p : A → Prop) [DecidablePred p] {list : List A} {position : Nat}
    {old : A} (stored : list[position]? = some old) (new : A) :
    (list.set position new).countP (fun item => p item) + (if p old then 1 else 0) =
      list.countP (fun item => p item) + (if p new then 1 else 0) := by
  obtain ⟨inside, same⟩ := List.getElem?_eq_some_iff.mp stored
  rw [List.countP_set inside, same]
  have positive : p old → 0 < list.countP fun item => p item := by
    intro held
    rw [List.countP_pos_iff]
    exact ⟨old, List.mem_of_getElem? stored, by simpa using held⟩
  by_cases held : p old
  · have := positive held
    simp only [held, decide_true, if_true]
    by_cases after : p new <;> simp [after] <;> omega
  · simp [held]

variable (corpus : ReplayCorpus Digest Value)

variable {digest : Digest}

theorem spendRefused_other {other : Digest} (apart : other ≠ digest) (slot : Nat) :
    (corpus.spendRefused digest slot).cursors other = corpus.cursors other := by
  unfold ReplayCorpus.spendRefused
  split
  · simp [apart]
  · rfl

@[simp] theorem spendRefused_responses (digest : Digest) (slot : Nat) :
    (corpus.spendRefused digest slot).responses = corpus.responses := by
  unfold ReplayCorpus.spendRefused
  split <;> rfl

@[simp] theorem spendRefused_pending (digest : Digest) (slot : Nat) :
    (corpus.spendRefused digest slot).pendingReleases = corpus.pendingReleases := by
  unfold ReplayCorpus.spendRefused
  split <;> rfl

@[simp] theorem release_responses (digest : Digest) (slot : Nat) :
    (corpus.release digest slot).responses = corpus.responses := by
  unfold ReplayCorpus.release
  split <;> rfl

theorem release_other {other : Digest} (apart : other ≠ digest) (slot : Nat) :
    (corpus.release digest slot).cursors other = corpus.cursors other ∧
      (corpus.release digest slot).pendingReleases other = corpus.pendingReleases other := by
  unfold ReplayCorpus.release
  split <;> simp [apart]

theorem pending_below {s : TakeState Digest Value} (conserved : Conserved s digest) {slot : Nat}
    (waits : slot ∈ s.corpus.pendingReleases digest) : slot < s.corpus.cursors digest := by
  have once := conserved.once slot
  rw [if_pos waits] at once
  by_contra beyond
  rw [if_neg beyond] at once
  omega

theorem held_below {s : TakeState Digest Value} (conserved : Conserved s digest)
    {take : ReplayTake Digest Value} (member : take ∈ s.takes) {slot : Nat}
    (held : Holds digest slot take) :
    slot < s.corpus.cursors digest ∧ slot ∉ s.corpus.pendingReleases digest := by
  have once := conserved.once slot
  have positive : 0 < s.takes.countP fun take => Holds digest slot take := by
    rw [List.countP_pos_iff]
    exact ⟨take, member, by simpa using held⟩
  constructor
  · by_contra beyond
    rw [if_neg beyond] at once
    omega
  · intro waits
    rw [if_pos waits] at once
    split at once <;> omega

end Slots

section Steps

variable {s : TakeState Digest Value}

variable {position : Nat} {take : ReplayTake Digest Value}

theorem settle_conserved {served : Bool} (stored : s.takes[position]? = some take) {digest : Digest}
    (conserved : Conserved s digest) (corpus : ReplayCorpus Digest Value)
    (same : TakeState.settleCorpus s.corpus take served = corpus)
    (responses : corpus.responses = s.corpus.responses)
    (within : corpus.cursors digest ≤ (s.corpus.responses digest).length)
    (balance : ∀ slot, (if Holds digest slot (s.settledTake take served) then 1 else 0) +
        (if slot ∈ corpus.pendingReleases digest then 1 else 0) +
          (if slot < s.corpus.cursors digest then 1 else 0) =
      (if Holds digest slot take then 1 else 0) +
        (if slot ∈ s.corpus.pendingReleases digest then 1 else 0) +
          (if slot < corpus.cursors digest then 1 else 0))
    (top : ∀ slot, corpus.cursors digest = slot + 1 → slot ∉ corpus.pendingReleases digest) :
    Conserved (s.settle position take served) digest := by
  subst same
  refine ⟨?_, ?_, top⟩
  · simp only [TakeState.settle]
    rw [responses]
    exact within
  · intro slot
    have total := countP_set (Holds digest slot) stored (s.settledTake take served)
    have before := conserved.once slot
    have change := balance slot
    change (s.takes.set position (s.settledTake take served)).countP _ +
      (if slot ∈ (TakeState.settleCorpus s.corpus take served).pendingReleases digest
        then 1 else 0) =
      if slot < (TakeState.settleCorpus s.corpus take served).cursors digest then 1 else 0
    omega

theorem settle_other {served : Bool} (stored : s.takes[position]? = some take) {digest : Digest}
    (apart : digest ≠ take.digest) (conserved : Conserved s digest) :
    Conserved (s.settle position take served) digest := by
  have same : (TakeState.settleCorpus s.corpus take served).cursors digest =
        s.corpus.cursors digest ∧
      (TakeState.settleCorpus s.corpus take served).pendingReleases digest =
        s.corpus.pendingReleases digest ∧
      (TakeState.settleCorpus s.corpus take served).responses = s.corpus.responses := by
    unfold TakeState.settleCorpus
    split
    · simp [spendRefused_other _ apart]
    · simp [release_other _ apart]
    · simp
  apply settle_conserved stored conserved _ rfl same.2.2
  · rw [same.1]
    exact conserved.within
  · intro slot
    rw [same.1, same.2.1]
    simp [Holds, TakeState.settledTake, Ne.symm apart]
  · rw [same.1, same.2.1]
    exact conserved.top

theorem spendRefused_spec (corpus : ReplayCorpus Digest Value) (digest : Digest) (slot : Nat) :
    (corpus.cursors digest = slot ∧ slot < (corpus.responses digest).length ∧
      (corpus.spendRefused digest slot).cursors digest = slot + 1) ∨
    corpus.spendRefused digest slot = corpus := by
  unfold ReplayCorpus.spendRefused
  split
  next reached =>
    left
    exact ⟨reached.1, reached.2, by simp⟩
  · exact .inr rfl

theorem serve_conserved (stored : s.takes[position]? = some take) (waiting : take.declared = none)
    (still : take.moved = false) (conserved : Conserved s take.digest) :
    Conserved (s.settle position take true) take.digest := by
  cases hit : take.hit with
  | some handed =>
    -- the take holds its slot before and after
    have corpus : TakeState.settleCorpus s.corpus take true = s.corpus := by
      simp [TakeState.settleCorpus, hit]
    apply settle_conserved stored conserved _ corpus rfl conserved.within _ conserved.top
    intro slot
    simp [Holds, TakeState.settledTake, ReplayTake.hit, ReplayTake.refused, corpus, waiting, still]
  | none =>
    cases refused : take.refused with
    | none =>
      have corpus : TakeState.settleCorpus s.corpus take true = s.corpus := by
        simp [TakeState.settleCorpus, hit, refused]
      apply settle_conserved stored conserved _ corpus rfl conserved.within _ conserved.top
      intro slot
      simp [Holds, TakeState.settledTake, ReplayTake.hit, ReplayTake.refused,
        corpus, waiting, still]
    | some parked =>
      have corpus : TakeState.settleCorpus s.corpus take true =
          s.corpus.spendRefused take.digest parked := by
        simp [TakeState.settleCorpus, hit, refused]
      rcases spendRefused_spec s.corpus take.digest parked with ⟨reached, inside, moved⟩ | stays
      · have after : (s.settledTake take true).moved = true := by
          simp [TakeState.settledTake, corpus, moved, reached]
        apply settle_conserved stored conserved _ corpus (by simp)
        · rw [moved]
          exact inside
        · intro slot
          -- the slot at the cursor becomes the take's
          have gains : Holds take.digest slot (s.settledTake take true) ↔ slot = parked := by
            have unchanged : (s.settledTake take true).refused = some parked := refused
            have none : (s.settledTake take true).hit = none := hit
            have same : (s.settledTake take true).digest = take.digest := rfl
            simp only [Holds, none, unchanged, after, same, reduceCtorEq, false_and, false_or,
              true_and, and_true, Option.some.injEq]
            exact eq_comm
          have had : ¬ Holds take.digest slot take := by simp [Holds, hit, still]
          simp only [gains, had, moved, spendRefused_pending, reached, if_false]
          split_ifs <;> omega
        · intro slot same waits
          rw [moved] at same
          have := pending_below conserved (by simpa using waits)
          omega
      · rw [stays] at corpus
        apply settle_conserved stored conserved _ corpus rfl conserved.within _ conserved.top
        intro slot
        simp [Holds, TakeState.settledTake, ReplayTake.hit, ReplayTake.refused, corpus, waiting,
          still]

theorem unserve_conserved (stored : s.takes[position]? = some take) (waiting : take.declared = none)
    (still : take.moved = false) (conserved : Conserved s take.digest) :
    Conserved (s.settle position take false) take.digest := by
  have settled : (s.settledTake take false).moved = false := by simp [TakeState.settledTake]
  cases hit : take.hit with
  | none =>
    have corpus : TakeState.settleCorpus s.corpus take false = s.corpus := by
      simp [TakeState.settleCorpus, hit]
    apply settle_conserved stored conserved _ corpus rfl conserved.within _ conserved.top
    intro slot
    have none : (s.settledTake take false).hit = none := hit
    simp [Holds, hit, none, still, settled]
  | some handed =>
    have held : Holds take.digest handed take := ⟨rfl, .inl ⟨hit, by simp [waiting]⟩⟩
    have place := held_below conserved (List.mem_of_getElem? stored) held
    have inside : handed < (s.corpus.responses take.digest).length :=
      place.1.trans_le conserved.within
    have corpus : TakeState.settleCorpus s.corpus take false =
        s.corpus.release take.digest handed := by
      simp [TakeState.settleCorpus, hit]
    have bounded : ∀ n ∈ insert handed (s.corpus.pendingReleases take.digest),
        n < s.corpus.cursors take.digest := by
      intro n member
      rcases Finset.mem_insert.mp member with rfl | waits
      · exact place.1
      · exact pending_below conserved waits
    obtain ⟨le, rest, freed, stuck⟩ := reclaim_spec bounded
    have cursor : (s.corpus.release take.digest handed).cursors take.digest =
        (reclaim (s.corpus.cursors take.digest)
          (insert handed (s.corpus.pendingReleases take.digest))).1 := by
      simp [ReplayCorpus.release, inside]
    have pending : (s.corpus.release take.digest handed).pendingReleases take.digest =
        (reclaim (s.corpus.cursors take.digest)
          (insert handed (s.corpus.pendingReleases take.digest))).2 := by
      simp [ReplayCorpus.release, inside]
    apply settle_conserved stored conserved _ corpus (by simp)
    · rw [cursor]
      exact le.trans conserved.within
    · intro slot
      have loses : ¬ Holds take.digest slot (s.settledTake take false) := by
        simp [Holds, TakeState.settledTake]
      have had : Holds take.digest slot take ↔ slot = handed := by
        simp [Holds, hit, waiting, still, eq_comm]
      have waits := rest slot
      have passed := freed slot
      have fresh := place.2
      rw [← cursor, ← pending] at waits
      rw [← cursor] at passed
      simp only [loses, had, Finset.mem_insert] at waits passed ⊢
      by_cases same : slot = handed
      · subst same
        have := place.1
        simp only [true_or, true_and] at waits
        simp only [waits, fresh, if_true, if_false]
        split_ifs <;> omega
      · have outside : slot ∈ s.corpus.pendingReleases take.digest →
            slot < s.corpus.cursors take.digest := pending_below conserved
        simp only [same, false_or] at waits passed
        by_cases member : slot ∈ s.corpus.pendingReleases take.digest
        · have := outside member
          simp only [member, true_and] at waits
          simp only [waits, member, same, if_true, if_false]
          split_ifs <;> omega
        · simp only [member, false_and] at waits
          have skipped : ¬ ((s.corpus.release take.digest handed).cursors take.digest ≤ slot ∧
              slot < s.corpus.cursors take.digest) :=
            fun between => member (passed between.1 between.2)
          simp only [waits, member, same, if_false]
          split_ifs <;> omega
    · intro slot same
      rw [cursor] at same
      rw [pending, rest]
      exact fun waits => stuck slot same waits.1

theorem consume_cases (corpus : ReplayCorpus Digest Value)
    (entryBody : ResponseEntry Value → Option Value) (digest : Digest) (generation : String) :
    (∃ entry body, (corpus.responses digest)[corpus.cursors digest]? = some entry ∧
      entryBody entry = some body ∧ corpus.consume entryBody digest generation =
        ({ corpus with
            cursors := Function.update corpus.cursors digest (corpus.cursors digest + 1) },
          .inl ⟨body, entry.callIndex, entry.recordedAt, entry.runId, corpus.cursors digest⟩)) ∨
    (∃ entry, (corpus.responses digest)[corpus.cursors digest]? = some entry ∧
      entryBody entry = none ∧ corpus.consume entryBody digest generation =
        (corpus, .inr ⟨.notRecorded, some (corpus.cursors digest)⟩)) ∨
    ((corpus.responses digest).length ≤ corpus.cursors digest ∧
      ∃ reason, corpus.consume entryBody digest generation = (corpus, .inr ⟨reason, none⟩)) := by
  unfold ReplayCorpus.consume
  split
  next none =>
    right
    right
    refine ⟨by simp [none], ?_⟩
    unfold ReplayCorpus.absent
    split
    · exact ⟨_, rfl⟩
    · split <;> exact ⟨_, rfl⟩
  next first rest some =>
    rw [some]
    dsimp only
    split
    next beyond =>
      right
      right
      exact ⟨by simpa using beyond, _, rfl⟩
    next entry found =>
      split
      next refused =>
        right
        left
        exact ⟨entry, found, refused, rfl⟩
      next body readable =>
        left
        exact ⟨entry, body, found, readable, rfl⟩

theorem take_conserved (conserved : ∀ digest, Conserved s digest) (asked : Digest)
    (generation : String) (entryBody : ResponseEntry Value → Option Value) (digest : Digest) :
    Conserved (takeStep s (.take asked generation entryBody)).1 digest := by
  have before := conserved digest
  rcases consume_cases s.corpus entryBody asked generation with
    ⟨entry, body, found, -, done⟩ | ⟨entry, -, -, done⟩ | ⟨-, reason, done⟩
  · obtain ⟨inside, -⟩ := List.getElem?_eq_some_iff.mp found
    simp only [takeStep, done]
    by_cases same : digest = asked
    · subst same
      refine ⟨?_, ?_, ?_⟩
      · simp only [Function.update_self]
        exact inside
      · intro slot
        have once := before.once slot
        have new : Holds digest slot (⟨digest, .inl ⟨body, entry.callIndex, entry.recordedAt,
            entry.runId, s.corpus.cursors digest⟩, none, false⟩ : ReplayTake Digest Value) ↔
            slot = s.corpus.cursors digest := by
          simp [Holds, ReplayTake.hit, ReplayTake.refused, eq_comm]
        simp only [List.countP_append, List.countP_singleton, new, decide_eq_true_eq,
          Function.update_self]
        split_ifs at once ⊢ <;> omega
      · intro slot at_top waits
        have := pending_below before waits
        simp only [Function.update_self] at at_top
        omega
    · refine ⟨?_, ?_, ?_⟩
      · simpa [same] using before.within
      · intro slot
        simpa [List.countP_append, Holds, Ne.symm same, same] using before.once slot
      · simpa [same] using before.top
  all_goals
    simp only [takeStep, done]
    refine ⟨before.within, ?_, before.top⟩
    intro slot
    simpa [List.countP_append, Holds, ReplayTake.hit] using before.once slot

def Inv (s : TakeState Digest Value) : Prop :=
  (∀ digest, Conserved s digest) ∧ ∀ take ∈ s.takes, Undeclared take

theorem settle_inv (served : Bool) (stored : s.takes[position]? = some take)
    (waiting : take.declared = none) (inv : Inv s) :
    Inv (s.settle position take served) := by
  have still := inv.2 take (List.mem_of_getElem? stored) waiting
  constructor
  · intro digest
    by_cases same : digest = take.digest
    · subst same
      cases served with
      | true => exact serve_conserved stored waiting still (inv.1 _)
      | false => exact unserve_conserved stored waiting still (inv.1 _)
    · exact settle_other stored same (inv.1 digest)
  · intro other member
    rcases List.mem_or_eq_of_mem_set member with old | rfl
    · exact inv.2 other old
    · intro impossible
      cases impossible

theorem declare_inv (position : Nat) (served : Bool) (inv : Inv s) :
    Inv (s.declare position served).1 := by
  unfold TakeState.declare
  split
  · exact inv
  next take stored =>
    split
    · exact inv
    next fresh => exact settle_inv served stored (by simpa using fresh) inv

theorem leave_inv (position : Nat) (raised : Bool) (inv : Inv s) :
    Inv (s.leave position raised).1 := by
  unfold TakeState.leave
  split
  · exact inv
  next take stored =>
    split
    · exact inv
    next fresh => exact settle_inv false stored (by simpa using fresh) inv

variable (loaded : ReplayCorpus Digest Value)

theorem next_inv (label : TakeLabel Digest Value) (inv : Inv s) :
    Inv ((takeMachine loaded).next s label) := by
  cases label with
  | take digest generation entryBody =>
    refine ⟨take_conserved inv.1 digest generation entryBody, ?_⟩
    intro take member
    rcases List.mem_append.mp member with old | new
    · exact inv.2 take old
    · rw [List.mem_singleton.mp new]
      exact fun _ => rfl
  | served position => exact declare_inv position true inv
  | unserved position => exact declare_inv position false inv
  | leave position raised => exact leave_inv position raised inv

theorem reachable_inv (reachable : (takeMachine loaded).Reachable s) : Inv s := by
  refine reachable.invariant Inv ?_ fun t label inv => next_inv loaded label inv
  refine ⟨fun digest => ⟨Nat.zero_le _, ?_, ?_⟩, ?_⟩
  · intro slot
    simp [takeMachine]
  · intro slot same
    cases same
  · intro take member
    cases member

end Steps

section Results

variable {s : TakeState Digest Value} (loaded : ReplayCorpus Digest Value)

variable {digest : Digest}

omit [DecidableEq Digest] in
theorem Keeps.holds {slot : Nat} {take : ReplayTake Digest Value} (keeps : Keeps digest slot take) :
    Holds digest slot take := by
  obtain ⟨same, kept⟩ := keeps
  refine ⟨same, ?_⟩
  unfold ReplayTake.kept at kept
  unfold ReplayTake.hit ReplayTake.refused
  cases outcome : take.outcome with
  | inl response =>
    rw [outcome] at kept
    dsimp only at kept
    split at kept
    next served =>
      left
      exact ⟨kept, by simp [served]⟩
    · cases kept
  | inr miss =>
    rw [outcome] at kept
    dsimp only at kept
    split at kept
    next moved =>
      right
      exact ⟨kept, moved⟩
    · cases kept

omit [DecidableEq Digest] in
theorem keeps_of_holds {slot : Nat} {take : ReplayTake Digest Value}
    (holds : Holds digest slot take) (done : ¬ Outstanding digest take) :
    Keeps digest slot take := by
  obtain ⟨same, held⟩ := holds
  refine ⟨same, ?_⟩
  simp only [Outstanding, same, true_and, not_and] at done
  unfold ReplayTake.kept
  unfold ReplayTake.hit at held done
  unfold ReplayTake.refused at held
  cases outcome : take.outcome with
  | inl response =>
    rw [outcome] at held done
    simp only [reduceCtorEq, ne_eq, not_false_eq_true, false_and, or_false,
      true_implies] at held done
    cases declared : take.declared with
    | none => exact absurd declared done
    | some served =>
      rw [declared] at held
      cases served with
      | true => simpa using held.1
      | false => exact absurd rfl held.2
  | inr miss =>
    rw [outcome] at held
    simp only [reduceCtorEq, false_and, false_or] at held
    simp [held.2, held.1]

theorem countP_two {A : Type} (p : A → Bool) {list : List A} {i j : Nat} {a b : A}
    (first : list[i]? = some a) (second : list[j]? = some b) (left : p a = true)
    (right : p b = true) (apart : i ≠ j) : 2 ≤ list.countP p := by
  induction list generalizing i j with
  | nil => simp at first
  | cons head tail ih =>
    have one : ∀ {k : Nat} {c : A}, tail[k]? = some c → p c = true → 0 < tail.countP p := by
      intro k c stored holds
      rw [List.countP_pos_iff]
      exact ⟨c, List.mem_of_getElem? stored, holds⟩
    cases i with
    | zero =>
      cases j with
      | zero => exact absurd rfl apart
      | succ j =>
        simp only [List.getElem?_cons_zero, Option.some.injEq,
          List.getElem?_cons_succ] at first second
        have := one second right
        rw [first, List.countP_cons_of_pos left]
        omega
    | succ i =>
      simp only [List.getElem?_cons_succ] at first
      cases j with
      | zero =>
        simp only [List.getElem?_cons_zero, Option.some.injEq] at second
        have := one first left
        rw [second, List.countP_cons_of_pos right]
        omega
      | succ j =>
        simp only [List.getElem?_cons_succ] at second
        have := ih first second (by omega)
        rw [List.countP_cons]
        omega

theorem held_once (inv : Inv s) {slot i j : Nat} {a b : ReplayTake Digest Value}
    (first : s.takes[i]? = some a) (second : s.takes[j]? = some b) (left : Holds digest slot a)
    (right : Holds digest slot b) : i = j := by
  by_contra apart
  have two := countP_two (fun take => decide (Holds digest slot take)) first second
    (by simpa using left) (by simpa using right) apart
  have once := (inv.1 digest).once slot
  split at once <;> split at once <;> omega

theorem settled_cursor (inv : Inv s) (digest : Digest)
    (quiet : ∀ take ∈ s.takes, ¬ Outstanding digest take) :
    (s.corpus.cursors digest = 0 ∧ ∀ take ∈ s.takes, ∀ slot, ¬ Keeps digest slot take) ∨
    ∃ slot, s.corpus.cursors digest = slot + 1 ∧ (∃ take ∈ s.takes, Keeps digest slot take) ∧
      ∀ take ∈ s.takes, ∀ other, Keeps digest other take → other ≤ slot := by
  have below : ∀ take ∈ s.takes, ∀ slot, Keeps digest slot take →
      slot < s.corpus.cursors digest :=
    fun take member slot keeps => (held_below (inv.1 digest) member keeps.holds).1
  cases cursor : s.corpus.cursors digest with
  | zero =>
    left
    refine ⟨rfl, ?_⟩
    intro take member slot keeps
    have := below take member slot keeps
    omega
  | succ slot =>
    right
    have once := (inv.1 digest).once slot
    rw [if_neg ((inv.1 digest).top slot cursor), if_pos (by omega)] at once
    have positive : 0 < s.takes.countP fun take => Holds digest slot take := by omega
    obtain ⟨take, member, holds⟩ := List.countP_pos_iff.mp positive
    refine ⟨slot, rfl, ⟨take, member, ?_⟩, ?_⟩
    · exact keeps_of_holds (by simpa using holds) (quiet take member)
    · intro other inside number keeps
      have := below other inside number keeps
      omega

theorem settleCorpus_responses (corpus : ReplayCorpus Digest Value)
    (take : ReplayTake Digest Value) (served : Bool) :
    (TakeState.settleCorpus corpus take served).responses = corpus.responses := by
  unfold TakeState.settleCorpus
  split <;> simp

theorem next_responses (label : TakeLabel Digest Value) :
    ((takeMachine loaded).next s label).corpus.responses = s.corpus.responses := by
  cases label with
  | take digest generation entryBody =>
    change (s.corpus.consume entryBody digest generation).1.responses = _
    rcases consume_cases s.corpus entryBody digest generation with
      ⟨entry, body, -, -, done⟩ | ⟨entry, -, -, done⟩ | ⟨-, reason, done⟩ <;> rw [done]
  | served position =>
    change (s.declare position true).1.corpus.responses = _
    unfold TakeState.declare
    split
    · rfl
    · split
      · rfl
      · exact settleCorpus_responses _ _ _
  | unserved position =>
    change (s.declare position false).1.corpus.responses = _
    unfold TakeState.declare
    split
    · rfl
    · split
      · rfl
      · exact settleCorpus_responses _ _ _
  | leave position raised =>
    change (s.leave position raised).1.corpus.responses = _
    unfold TakeState.leave
    split
    · rfl
    · split
      · rfl
      · exact settleCorpus_responses _ _ _

theorem exec_responses (labels : List (TakeLabel Digest Value)) :
    ((takeMachine loaded).exec s labels).corpus.responses = s.corpus.responses :=
  (takeMachine loaded).exec_related (fun _ => True) (fun _ _ _ => trivial)
    (fun before after => after.corpus.responses = before.corpus.responses) (fun _ => rfl)
    (fun _ _ _ first second => second.trans first) (fun _ label _ => next_responses loaded label)
    s trivial labels

end Results

end MonoidKernel.PayloadReplay
