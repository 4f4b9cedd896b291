import MonoidKernel.Core.ReplayTakes

set_option autoImplicit false

namespace MonoidKernel.PayloadReplay

open Library (Machine reclaim reclaim_spec reclaim_comm)

variable {Digest Value : Type} [DecidableEq Digest] {s : TakeState Digest Value}
  (loaded : ReplayCorpus Digest Value)

section GiveBack

def TakeLabel.givesBack : TakeLabel Digest Value → Option Nat
  | .unserved position => some position
  | .leave position _ => some position
  | _ => none

def TakeState.giveBack (s : TakeState Digest Value) (position : Nat) : TakeState Digest Value :=
  match s.takes[position]? with
  | none => s
  | some take => if take.declared ≠ none then s else s.settle position take false

theorem next_giveBack {label : TakeLabel Digest Value} {position : Nat}
    (gives : label.givesBack = some position) :
    (takeMachine loaded).next s label = s.giveBack position := by
  cases label with
  | take digest generation entryBody => cases gives
  | served other => cases gives
  | unserved other =>
    cases gives
    change (s.declare position false).1 = _
    unfold TakeState.declare TakeState.giveBack
    cases s.takes[position]? with
    | none => rfl
    | some take =>
      dsimp only
      split <;> rfl
  | leave other raised =>
    cases gives
    change (s.leave position raised).1 = _
    unfold TakeState.leave TakeState.giveBack
    cases s.takes[position]? with
    | none => rfl
    | some take =>
      dsimp only
      split <;> rfl

theorem release_comm (inv : Inv s) {i j : Nat} {a b : ReplayTake Digest Value}
    (first : s.takes[i]? = some a) (second : s.takes[j]? = some b) (apart : i ≠ j)
    (openA : a.declared = none) (openB : b.declared = none) {m n : Nat} (hitA : a.hit = some m)
    (hitB : b.hit = some n) :
    (s.corpus.release a.digest m).release b.digest n =
      (s.corpus.release b.digest n).release a.digest m := by
  have heldA : Holds a.digest m a := ⟨rfl, .inl ⟨hitA, by simp [openA]⟩⟩
  have heldB : Holds b.digest n b := ⟨rfl, .inl ⟨hitB, by simp [openB]⟩⟩
  have placeA := held_below (inv.1 a.digest) (List.mem_of_getElem? first) heldA
  have placeB := held_below (inv.1 b.digest) (List.mem_of_getElem? second) heldB
  have insideA : m < (s.corpus.responses a.digest).length :=
    placeA.1.trans_le (inv.1 a.digest).within
  have insideB : n < (s.corpus.responses b.digest).length :=
    placeB.1.trans_le (inv.1 b.digest).within
  by_cases same : a.digest = b.digest
  · rw [same] at heldA placeA insideA ⊢
    have different : m ≠ n := by
      intro equal
      rw [equal] at heldA
      exact apart (held_once inv first second heldA heldB)
    have swap := reclaim_comm (fun k waits => pending_below (inv.1 b.digest) waits) different
      placeA.2 placeB.2 placeA.1 placeB.1
    simp only [ReplayCorpus.release, insideA, insideB, if_true, Function.update_self,
      Function.update_idem]
    rw [swap]
  · have other : b.digest ≠ a.digest := Ne.symm same
    simp only [ReplayCorpus.release, insideA, insideB, if_true, ne_eq, same, other,
      not_false_eq_true, Function.update_of_ne]
    rw [Function.update_comm same, Function.update_comm same]

theorem giveBack_comm (inv : Inv s) (i j : Nat) :
    (s.giveBack i).giveBack j = (s.giveBack j).giveBack i := by
  by_cases apart : i = j
  · rw [apart]
  · have idle : ∀ {t : TakeState Digest Value} {k : Nat}, t.takes[k]? = none →
        t.giveBack k = t := by
      intro t k missing
      simp [TakeState.giveBack, missing]
    have done : ∀ {t : TakeState Digest Value} {k : Nat} {take : ReplayTake Digest Value},
        t.takes[k]? = some take → take.declared ≠ none → t.giveBack k = t := by
      intro t k take stored declared
      simp [TakeState.giveBack, stored, declared]
    have acts : ∀ {t : TakeState Digest Value} {k : Nat} {take : ReplayTake Digest Value},
        t.takes[k]? = some take → take.declared = none →
          t.giveBack k = t.settle k take false := by
      intro t k take stored declared
      simp [TakeState.giveBack, stored, declared]
    -- one give-back does not touch the other's take
    have keeps : ∀ {k l : Nat}, k ≠ l → (s.giveBack k).takes[l]? = s.takes[l]? := by
      intro k l different
      unfold TakeState.giveBack
      split
      · rfl
      · split
        · rfl
        · simp [TakeState.settle, different]
    cases first : s.takes[i]? with
    | none => rw [idle first, idle ((keeps (Ne.symm apart)).trans first)]
    | some a =>
      cases second : s.takes[j]? with
      | none => rw [idle second, idle ((keeps apart).trans second)]
      | some b =>
        by_cases openA : a.declared = none
        · by_cases openB : b.declared = none
          · rw [acts ((keeps apart).trans second) openB,
              acts ((keeps (Ne.symm apart)).trans first) openA, acts first openA, acts second openB]
            have takes : ∀ t : TakeState Digest Value, ∀ take : ReplayTake Digest Value,
                t.settledTake take false =
                  { take with declared := some false, moved := false } := by
              intro t take
              simp [TakeState.settledTake]
            simp only [TakeState.settle, takes, TakeState.mk.injEq]
            refine ⟨?_, List.set_comm _ _ apart⟩
            cases hitA : a.hit with
            | none => simp [TakeState.settleCorpus, hitA]
            | some m =>
              cases hitB : b.hit with
              | none => simp [TakeState.settleCorpus, hitB]
              | some n =>
                simpa [TakeState.settleCorpus, hitA, hitB] using
                  release_comm inv first second apart openA openB hitA hitB
          · rw [done second openB, done ((keeps apart).trans second) openB]
        · rw [done first openA, done ((keeps (Ne.symm apart)).trans first) openA]

theorem giveBacks_perm (inv : Inv s) {first second : List (TakeLabel Digest Value)}
    (same : first.Perm second) (gives : ∀ label ∈ first, label.givesBack ≠ none) :
    (takeMachine loaded).exec s first = (takeMachine loaded).exec s second := by
  induction same generalizing s with
  | nil => rfl
  | cons label _ ih =>
    exact ih (next_inv loaded label inv) fun other member =>
      gives other (List.mem_cons_of_mem _ member)
  | swap one other rest =>
    obtain ⟨i, left⟩ := Option.ne_none_iff_exists'.mp (gives other (by simp))
    obtain ⟨j, right⟩ := Option.ne_none_iff_exists'.mp (gives one (by simp))
    have swapped : (takeMachine loaded).next ((takeMachine loaded).next s other) one =
        (takeMachine loaded).next ((takeMachine loaded).next s one) other := by
      rw [next_giveBack loaded left, next_giveBack loaded right, next_giveBack loaded right,
        next_giveBack loaded left]
      exact giveBack_comm inv i j
    simp only [Machine.exec_cons, swapped]
  | trans firstHalf _ ihFirst ihSecond =>
    exact (ihFirst inv gives).trans
      (ihSecond inv fun label member => gives label (firstHalf.mem_iff.mpr member))

end GiveBack

section Parked

theorem parked_again {digest : Digest} {generation : String}
    {entryBody : ResponseEntry Value → Option Value} {reason : MissReason} {slot : Nat}
    (refused : (takeMachine loaded).answer s (.take digest generation entryBody) =
      .taken (.inr ⟨reason, some slot⟩)) {label : TakeLabel Digest Value}
    (parks : label.givesBack = some s.takes.length) :
    let parked := (takeMachine loaded).exec s [.take digest generation entryBody, label]
    parked.corpus = s.corpus ∧ slot = s.corpus.cursors digest ∧
      ∀ later, ((takeMachine loaded).exec parked later).corpus.cursors digest = slot →
        (takeMachine loaded).answer ((takeMachine loaded).exec parked later)
          (.take digest generation entryBody) = .taken (.inr ⟨reason, some slot⟩) := by
  have consumed : (s.corpus.consume entryBody digest generation).2 = .inr ⟨reason, some slot⟩ := by
    simpa [Machine.answer, takeMachine, takeStep] using refused
  rcases consume_cases s.corpus entryBody digest generation with
    ⟨entry, body, -, -, done⟩ | ⟨entry, found, unreadable, done⟩ | ⟨-, other, done⟩
  · rw [done] at consumed
    cases consumed
  · rw [done] at consumed
    simp only [Sum.inr.injEq, ReplayMissReason.mk.injEq, Option.some.injEq] at consumed
    obtain ⟨rfl, rfl⟩ := consumed
    have corpus : ((takeMachine loaded).exec s [.take digest generation entryBody, label]).corpus =
        s.corpus := by
      simp only [Machine.exec_cons, Machine.exec_nil]
      rw [next_giveBack loaded parks]
      simp [Machine.next, takeMachine, takeStep, done, TakeState.giveBack,
        TakeState.settle, TakeState.settleCorpus, ReplayTake.hit]
    refine ⟨corpus, rfl, ?_⟩
    intro later stands
    have responses : ((takeMachine loaded).exec ((takeMachine loaded).exec s
        [.take digest generation entryBody, label]) later).corpus.responses =
          s.corpus.responses := by
      rw [exec_responses loaded later, corpus]
    simp only [Machine.answer, takeMachine, takeStep]
    change TakeAnswer.taken
      (ReplayCorpus.consume ((takeMachine loaded).exec ((takeMachine loaded).exec s
        [.take digest generation entryBody, label]) later).corpus entryBody digest generation).2 = _
    rcases consume_cases ((takeMachine loaded).exec ((takeMachine loaded).exec s
        [.take digest generation entryBody, label]) later).corpus entryBody digest generation with
      ⟨again, body, located, readable, -⟩ | ⟨again, located, -, same⟩ | ⟨beyond, _, -⟩
    · rw [responses, stands, found, Option.some.injEq] at located
      rw [← located, unreadable] at readable
      cases readable
    · rw [same, stands]
    · rw [responses, stands] at beyond
      have inside := (List.getElem?_eq_some_iff.mp found).1
      omega
  · rw [done] at consumed
    cases consumed

end Parked

section Sequential

inductive Ending where
  | served
  | unserved
  | left (raised : Bool)
deriving DecidableEq

def Ending.label : Ending → Nat → TakeLabel Digest Value
  | .served, position => .served position
  | .unserved, position => .unserved position
  | .left raised, position => .leave position raised

structure Visit (Digest Value : Type) where
  digest : Digest
  generation : String
  entryBody : ResponseEntry Value → Option Value
  ending : Ending

def answerAt (entryBody : ResponseEntry Value → Option Value) (entry : ResponseEntry Value)
    (slot : Nat) : Outcome Value :=
  match entryBody entry with
  | none => .inr ⟨.notRecorded, some slot⟩
  | some body => .inl ⟨body, entry.callIndex, entry.recordedAt, entry.runId, slot⟩

-- What a caller that has kept as many slots of the digest gets: the recorded answer at the next
-- one, which it keeps when it declares it served.
structure Serves (responses : Digest → List (ResponseEntry Value)) (visit : Visit Digest Value)
    (slot : Nat) (take : ReplayTake Digest Value) : Prop where
  digest : take.digest = visit.digest
  answer : ∀ entry, (responses visit.digest)[slot]? = some entry →
    take.outcome = answerAt visit.entryBody entry slot
  kept : slot < (responses visit.digest).length →
    take.kept = if visit.ending = .served then some slot else none
  spent : (responses visit.digest).length ≤ slot →
    take.kept = none ∧ ∃ reason, take.outcome = .inr ⟨reason, none⟩

def visitLabels : Nat → List (Visit Digest Value) → List (TakeLabel Digest Value)
  | _, [] => []
  | position, visit :: rest =>
    .take visit.digest visit.generation visit.entryBody :: visit.ending.label position ::
      visitLabels (position + 1) rest

structure FileOrder (s : TakeState Digest Value) : Prop where
  pending : ∀ digest, s.corpus.pendingReleases digest = ∅
  kept : ∀ digest, keptSlots digest s.takes = List.range (s.corpus.cursors digest)
  stands : ∀ position take slot, s.takes[position]? = some take →
    take.hit = some slot ∨ take.refused = some slot →
      slot = (keptSlots take.digest (s.takes.take position)).length

theorem settle_last (corpus : ReplayCorpus Digest Value) (takes : List (ReplayTake Digest Value))
    (take : ReplayTake Digest Value) (waiting : take.declared = none) (ending : Ending) :
    (takeMachine loaded).next ⟨corpus, takes ++ [take]⟩ (ending.label takes.length) =
      let served := match ending with | .served => true | _ => false
      ⟨TakeState.settleCorpus corpus take served,
        takes ++ [TakeState.settledTake ⟨corpus, takes ++ [take]⟩ take served]⟩ := by
  have stored : (takes ++ [take])[takes.length]? = some take := by simp
  cases ending with
  | served =>
    change (TakeState.declare ⟨corpus, takes ++ [take]⟩ takes.length true).1 = _
    simp [TakeState.declare, waiting, TakeState.settle]
  | unserved =>
    change (TakeState.declare ⟨corpus, takes ++ [take]⟩ takes.length false).1 = _
    simp [TakeState.declare, waiting, TakeState.settle]
  | left raised =>
    change (TakeState.leave ⟨corpus, takes ++ [take]⟩ takes.length raised).1 = _
    simp [TakeState.leave, waiting, TakeState.settle]

theorem visit_spec (visit : Visit Digest Value)
    (pending : ∀ digest, s.corpus.pendingReleases digest = ∅) :
    ∃ take : ReplayTake Digest Value, ∃ corpus : ReplayCorpus Digest Value,
      (takeMachine loaded).exec s [.take visit.digest visit.generation visit.entryBody,
          visit.ending.label s.takes.length] = ⟨corpus, s.takes ++ [take]⟩ ∧
      take.digest = visit.digest ∧ (∀ digest, corpus.pendingReleases digest = ∅) ∧
      (∀ slot, take.hit = some slot ∨ take.refused = some slot →
        slot = s.corpus.cursors visit.digest) ∧
      ((take.kept = some (s.corpus.cursors visit.digest) ∧ corpus.cursors =
          Function.update s.corpus.cursors visit.digest (s.corpus.cursors visit.digest + 1)) ∨
        (take.kept = none ∧ corpus.cursors = s.corpus.cursors)) ∧
      Serves s.corpus.responses visit (s.corpus.cursors visit.digest) take := by
  obtain ⟨digest, generation, entryBody, ending⟩ := visit
  simp only [Machine.exec_cons, Machine.exec_nil]
  rcases consume_cases s.corpus entryBody digest generation with
    ⟨entry, body, found, readable, done⟩ | ⟨entry, found, unreadable, done⟩ |
      ⟨beyond, reason, done⟩
  · have inside := (List.getElem?_eq_some_iff.mp found).1
    have first : (takeMachine loaded).next s (.take digest generation entryBody) =
        ⟨{ s.corpus with cursors :=
            Function.update s.corpus.cursors digest (s.corpus.cursors digest + 1) },
          s.takes ++ [⟨digest, .inl ⟨body, entry.callIndex, entry.recordedAt, entry.runId,
            s.corpus.cursors digest⟩, none, false⟩]⟩ := by
      simp [Machine.next, takeMachine, takeStep, done]
    rw [first, settle_last loaded _ _ _ rfl ending]
    refine ⟨_, _, rfl, rfl, ?_, ?_, ?_, ?_⟩
    · intro other
      cases ending with
      | served => exact pending other
      | unserved | left =>
        simp only [TakeState.settleCorpus, ReplayTake.hit, ReplayTake.refused,
          ReplayCorpus.release, inside, if_true, Function.update_self, pending,
          insert_empty_eq, Library.reclaim_last]
        by_cases same : other = digest
        · rw [same, Function.update_self]
        · rw [Function.update_of_ne same, pending]
    · rintro slot (hit | refused)
      · exact (Option.some.inj hit).symm
      · cases refused
    · cases ending with
      | served =>
        left
        exact ⟨rfl, rfl⟩
      | unserved | left =>
        right
        refine ⟨rfl, ?_⟩
        simp only [TakeState.settleCorpus, ReplayTake.hit, ReplayTake.refused,
          ReplayCorpus.release, inside, if_true, Function.update_self, pending,
          insert_empty_eq, Library.reclaim_last, Function.update_idem, Function.update_eq_self]
    · refine ⟨rfl, fun other located => ?_, fun _ => ?_, fun beyond => absurd inside beyond.not_gt⟩
      · cases found.symm.trans located
        simp [answerAt, readable, TakeState.settledTake]
      · cases ending <;> rfl
  · have inside := (List.getElem?_eq_some_iff.mp found).1
    have first : (takeMachine loaded).next s (.take digest generation entryBody) =
        ⟨s.corpus, s.takes ++ [⟨digest, .inr ⟨.notRecorded, some (s.corpus.cursors digest)⟩, none,
          false⟩]⟩ := by
      simp [Machine.next, takeMachine, takeStep, done]
    rw [first, settle_last loaded _ _ _ rfl ending]
    refine ⟨_, _, rfl, rfl, ?_, ?_, ?_, ?_⟩
    · intro other
      cases ending with
      | served =>
        simp only [TakeState.settleCorpus, ReplayTake.hit, ReplayTake.refused,
          spendRefused_pending]
        exact pending other
      | unserved | left => exact pending other
    · rintro slot (hit | refused)
      · cases hit
      · exact (Option.some.inj refused).symm
    · cases ending with
      | served =>
        left
        constructor
        · simp [ReplayTake.kept, TakeState.settledTake, TakeState.settleCorpus, ReplayTake.hit,
            ReplayTake.refused, ReplayCorpus.spendRefused, inside]
        · simp [TakeState.settleCorpus, ReplayTake.hit, ReplayTake.refused,
            ReplayCorpus.spendRefused, inside]
      | unserved | left =>
        right
        exact ⟨rfl, rfl⟩
    · refine ⟨rfl, fun other located => ?_, fun _ => ?_, fun beyond => absurd inside beyond.not_gt⟩
      · cases found.symm.trans located
        simp [answerAt, unreadable, TakeState.settledTake]
      · cases ending with
        | served =>
          simp [ReplayTake.kept, TakeState.settledTake, TakeState.settleCorpus, ReplayTake.hit,
            ReplayTake.refused, ReplayCorpus.spendRefused, inside]
        | unserved | left => rfl
  · have first : (takeMachine loaded).next s (.take digest generation entryBody) =
        ⟨s.corpus, s.takes ++ [⟨digest, .inr ⟨reason, none⟩, none, false⟩]⟩ := by
      simp [Machine.next, takeMachine, takeStep, done]
    rw [first, settle_last loaded _ _ _ rfl ending]
    refine ⟨_, _, rfl, rfl, ?_, ?_, ?_, ?_⟩
    · intro other
      cases ending <;> exact pending other
    · rintro slot (hit | refused)
      · cases hit
      · cases refused
    · right
      cases ending <;> simp [ReplayTake.kept, TakeState.settleCorpus, ReplayTake.hit,
        ReplayTake.refused, TakeState.settledTake]
    · refine ⟨rfl, fun other located => ?_, fun inside => absurd inside beyond.not_gt, fun _ => ?_⟩
      · rw [List.getElem?_eq_none beyond] at located
        cases located
      · cases ending <;> simp [ReplayTake.kept, TakeState.settleCorpus, ReplayTake.hit,
          ReplayTake.refused, TakeState.settledTake]

theorem keptSlots_append (digest : Digest) (takes : List (ReplayTake Digest Value))
    (take : ReplayTake Digest Value) :
    keptSlots digest (takes ++ [take]) =
      keptSlots digest takes ++ if take.digest = digest then take.kept.toList else [] := by
  unfold keptSlots
  rw [List.filter_append, List.filterMap_append]
  by_cases same : take.digest = digest
  · cases kept : take.kept <;> simp [same, kept]
  · simp [same]

theorem visit_fileOrder (visit : Visit Digest Value) (order : FileOrder s) :
    let after := (takeMachine loaded).exec s
      [.take visit.digest visit.generation visit.entryBody, visit.ending.label s.takes.length]
    FileOrder after ∧ ∃ take, after.takes = s.takes ++ [take] ∧
      Serves s.corpus.responses visit (keptSlots visit.digest s.takes).length take := by
  obtain ⟨take, corpus, done, key, pending, stands, moved, serves⟩ :=
    visit_spec loaded visit order.pending
  rw [order.kept, List.length_range, done]
  refine ⟨⟨pending, ?_, ?_⟩, take, rfl, serves⟩
  · intro digest
    change keptSlots digest (s.takes ++ [take]) = List.range (corpus.cursors digest)
    rw [keptSlots_append, order.kept, key]
    rcases moved with ⟨kept, cursors⟩ | ⟨kept, cursors⟩
    · rw [cursors, kept]
      by_cases same : visit.digest = digest
      · rw [← same, Function.update_self, if_pos rfl, List.range_succ]
        rfl
      · rw [if_neg same, Function.update_of_ne (Ne.symm same), List.append_nil]
    · rw [cursors, kept, Option.toList_none, ite_self, List.append_nil]
  · intro position other slot stored hit
    change (s.takes ++ [take])[position]? = some other at stored
    change slot = (keptSlots other.digest ((s.takes ++ [take]).take position)).length
    by_cases inside : position < s.takes.length
    · rw [List.getElem?_append_left inside] at stored
      rw [List.take_append_of_le_length (Nat.le_of_lt inside)]
      exact order.stands position other slot stored hit
    · rw [List.getElem?_append_right (by omega)] at stored
      have last : position = s.takes.length := by
        have := (List.getElem?_eq_some_iff.mp stored).1
        simp only [List.length_singleton] at this
        omega
      subst last
      simp only [Nat.sub_self, List.getElem?_cons_zero, Option.some.injEq] at stored
      subst stored
      rw [List.take_left', key, order.kept, List.length_range]
      · exact stands slot hit
      · rfl

structure Served (visits : List (Visit Digest Value)) (s : TakeState Digest Value) : Prop
    extends FileOrder s where
  count : s.takes.length = visits.length
  answers : ∀ position visit, visits[position]? = some visit →
    ∃ take, s.takes[position]? = some take ∧ Serves loaded.responses visit
      (keptSlots visit.digest (s.takes.take position)).length take

theorem visit_served {done : List (Visit Digest Value)} (visit : Visit Digest Value)
    (recorded : s.corpus.responses = loaded.responses) (served : Served loaded done s) :
    Served loaded (done ++ [visit]) ((takeMachine loaded).exec s
      [.take visit.digest visit.generation visit.entryBody,
        visit.ending.label s.takes.length]) := by
  obtain ⟨order, take, takes, serves⟩ := visit_fileOrder loaded visit served.toFileOrder
  refine ⟨order, ?_, ?_⟩
  · rw [takes, List.length_append, List.length_append, served.count]
    rfl
  rw [takes]
  intro position other found
  by_cases inside : position < done.length
  · have within : position < s.takes.length := served.count.symm ▸ inside
    rw [List.getElem?_append_left inside] at found
    rw [List.getElem?_append_left within, List.take_append_of_le_length within.le]
    exact served.answers position other found
  · have last : position = s.takes.length := by
      have bound := (List.getElem?_eq_some_iff.mp found).1
      rw [List.length_append, List.length_singleton] at bound
      have same := served.count
      omega
    subst last
    rw [served.count, List.getElem?_concat_length, Option.some.injEq] at found
    subst found
    rw [List.getElem?_concat_length, List.take_left', ← recorded]
    · exact ⟨take, rfl, serves⟩
    · rfl

theorem visits_served {done : List (Visit Digest Value)} (visits : List (Visit Digest Value))
    (recorded : s.corpus.responses = loaded.responses) (served : Served loaded done s) :
    Served loaded (done ++ visits)
      ((takeMachine loaded).exec s (visitLabels s.takes.length visits)) := by
  induction visits generalizing s done with
  | nil =>
    rw [List.append_nil]
    exact served
  | cons visit rest ih =>
    have after := visit_served loaded visit recorded served
    have further := ih ((exec_responses loaded _).trans recorded) after
    rw [after.count, List.length_append, List.length_singleton, ← served.count,
      List.append_assoc] at further
    exact further

end Sequential

theorem take_answer {digest : Digest} {generation : String}
    {entryBody : ResponseEntry Value → Option Value} {response : ReplayedResponse Value}
    (answered : (takeMachine loaded).answer s (.take digest generation entryBody) =
      .taken (.inl response)) :
    response.slot = s.corpus.cursors digest ∧ ∃ entry,
      (s.corpus.responses digest)[response.slot]? = some entry ∧
      entryBody entry = some response.body ∧ response.callIndex = entry.callIndex ∧
      response.recordedAt = entry.recordedAt ∧ response.runId = entry.runId := by
  have consumed : (s.corpus.consume entryBody digest generation).2 = .inl response := by
    simpa [Machine.answer, takeMachine, takeStep] using answered
  rcases consume_cases s.corpus entryBody digest generation with
    ⟨entry, body, found, readable, done⟩ | ⟨entry, -, -, done⟩ | ⟨-, reason, done⟩
  · rw [done] at consumed
    cases consumed
    exact ⟨rfl, entry, found, readable, rfl, rfl, rfl⟩
  · rw [done] at consumed
    cases consumed
  · rw [done] at consumed
    cases consumed

theorem take_gives {digest : Digest} (generation : String)
    (entryBody : ResponseEntry Value → Option Value) {entry : ResponseEntry Value}
    (found : (s.corpus.responses digest)[s.corpus.cursors digest]? = some entry) :
    (takeMachine loaded).answer s (.take digest generation entryBody) =
        .taken (answerAt entryBody entry (s.corpus.cursors digest)) ∧
      ((takeMachine loaded).next s (.take digest generation entryBody)).corpus.cursors =
        if (entryBody entry).isSome then
          Function.update s.corpus.cursors digest (s.corpus.cursors digest + 1)
        else s.corpus.cursors := by
  simp only [Machine.answer, Machine.next, takeMachine, takeStep, answerAt]
  rcases consume_cases s.corpus entryBody digest generation with
    ⟨other, body, located, readable, done⟩ | ⟨other, located, unreadable, done⟩ | ⟨beyond, -⟩
  · cases found.symm.trans located
    simp [done, readable]
  · cases found.symm.trans located
    simp [done, unreadable]
  · rw [List.getElem?_eq_none beyond] at found
    cases found

def RefusedInside (s : TakeState Digest Value) : Prop :=
  ∀ take ∈ s.takes, ∀ slot, take.refused = some slot →
    slot < (s.corpus.responses take.digest).length

theorem settle_refusedInside {position : Nat} {take : ReplayTake Digest Value} (served : Bool)
    (stored : s.takes[position]? = some take) (inside : RefusedInside s) :
    RefusedInside (s.settle position take served) := by
  intro other member slot refused
  simp only [TakeState.settle, settleCorpus_responses]
  rcases List.mem_or_eq_of_mem_set member with old | rfl
  · exact inside other old slot refused
  · exact inside take (List.mem_of_getElem? stored) slot refused

theorem next_refusedInside (label : TakeLabel Digest Value) (inside : RefusedInside s) :
    RefusedInside ((takeMachine loaded).next s label) := by
  have declared : ∀ position served, RefusedInside (s.declare position served).1 := by
    intro position served
    unfold TakeState.declare
    split
    · exact inside
    next take stored =>
      split
      · exact inside
      · exact settle_refusedInside served stored inside
  cases label with
  | take digest generation entryBody =>
    intro take member slot refused
    rw [next_responses loaded]
    change take ∈ s.takes ++
      [⟨digest, (s.corpus.consume entryBody digest generation).2, none, false⟩] at member
    rcases List.mem_append.mp member with old | new
    · exact inside take old slot refused
    · rw [List.mem_singleton] at new
      subst new
      rcases consume_cases s.corpus entryBody digest generation with
        ⟨entry, body, -, -, done⟩ | ⟨entry, found, -, done⟩ | ⟨-, reason, done⟩
      · simp [done, ReplayTake.refused] at refused
      · simp only [done, ReplayTake.refused, Option.some.injEq] at refused
        exact refused ▸ (List.getElem?_eq_some_iff.mp found).1
      · simp [done, ReplayTake.refused] at refused
  | served position => exact declared position true
  | unserved position => exact declared position false
  | leave position raised =>
    have gives : (.leave position raised : TakeLabel Digest Value).givesBack =
        some position := rfl
    rw [next_giveBack loaded gives]
    unfold TakeState.giveBack
    split
    · exact inside
    next take stored =>
      split
      · exact inside
      · exact settle_refusedInside false stored inside

theorem refused_inside (reachable : (takeMachine loaded).Reachable s) : RefusedInside s := by
  refine reachable.invariant RefusedInside ?_ fun t label inside =>
    next_refusedInside loaded label inside
  intro take member
  cases member

theorem served_spends {position : Nat} {take : ReplayTake Digest Value} {slot : Nat}
    (stored : s.takes[position]? = some take) (waiting : take.declared = none)
    (refused : take.refused = some slot) (stands : s.corpus.cursors take.digest = slot)
    (inside : slot < (s.corpus.responses take.digest).length) :
    ((takeMachine loaded).next s (.served position)).corpus.cursors take.digest = slot + 1 := by
  have handed : take.hit = none := by
    unfold ReplayTake.refused at refused
    unfold ReplayTake.hit
    cases outcome : take.outcome with
    | inl response => simp [outcome] at refused
    | inr miss => rfl
  change (s.declare position true).1.corpus.cursors take.digest = slot + 1
  simp [TakeState.declare, stored, waiting, TakeState.settle, TakeState.settleCorpus, handed,
    refused, ReplayCorpus.spendRefused, stands, inside]

theorem replay_takes_conserve :
    (∀ s, (takeMachine loaded).Reachable s →
      (∀ digest, s.corpus.cursors digest ≤ (loaded.responses digest).length) ∧
      (∀ digest slot, ∀ i j : Nat, ∀ a b, s.takes[i]? = some a → s.takes[j]? = some b →
        Holds digest slot a → Holds digest slot b → i = j) ∧
      (∀ digest slot, ∀ take ∈ s.takes, Keeps digest slot take → Holds digest slot take) ∧
      (∀ digest, (∀ take ∈ s.takes, ¬ Outstanding digest take) →
        (s.corpus.cursors digest = 0 ∧ ∀ take ∈ s.takes, ∀ slot, ¬ Keeps digest slot take) ∨
        ∃ slot, s.corpus.cursors digest = slot + 1 ∧ (∃ take ∈ s.takes, Keeps digest slot take) ∧
          ∀ take ∈ s.takes, ∀ other, Keeps digest other take → other ≤ slot) ∧
      (∀ digest generation entryBody response,
        (takeMachine loaded).answer s (.take digest generation entryBody) =
          .taken (.inl response) →
        response.slot = s.corpus.cursors digest ∧ ∃ entry,
          (loaded.responses digest)[response.slot]? = some entry ∧
          entryBody entry = some response.body ∧ response.callIndex = entry.callIndex ∧
          response.recordedAt = entry.recordedAt ∧ response.runId = entry.runId) ∧
      (∀ digest generation entryBody entry,
        (loaded.responses digest)[s.corpus.cursors digest]? = some entry →
        (takeMachine loaded).answer s (.take digest generation entryBody) =
            .taken (answerAt entryBody entry (s.corpus.cursors digest)) ∧
          ((takeMachine loaded).next s (.take digest generation entryBody)).corpus.cursors =
            if (entryBody entry).isSome then
              Function.update s.corpus.cursors digest (s.corpus.cursors digest + 1)
            else s.corpus.cursors) ∧
      (∀ (position : Nat) (take : ReplayTake Digest Value) (slot : Nat),
        s.takes[position]? = some take → take.declared = none → take.refused = some slot →
        s.corpus.cursors take.digest = slot →
          ((takeMachine loaded).next s (.served position)).corpus.cursors take.digest =
            slot + 1) ∧
      (∀ digest generation entryBody reason slot, ∀ label : TakeLabel Digest Value,
        (takeMachine loaded).answer s (.take digest generation entryBody) =
          .taken (.inr ⟨reason, some slot⟩) → label.givesBack = some s.takes.length →
        let parked := (takeMachine loaded).exec s [.take digest generation entryBody, label]
        parked.corpus = s.corpus ∧ slot = s.corpus.cursors digest ∧
          ∀ later, ((takeMachine loaded).exec parked later).corpus.cursors digest = slot →
            (takeMachine loaded).answer ((takeMachine loaded).exec parked later)
              (.take digest generation entryBody) = .taken (.inr ⟨reason, some slot⟩)) ∧
      (∀ first second : List (TakeLabel Digest Value), first.Perm second →
        (∀ label ∈ first, label.givesBack ≠ none) →
        (takeMachine loaded).exec s first = (takeMachine loaded).exec s second)) ∧
    ∀ visits : List (Visit Digest Value), Served loaded visits
      ((takeMachine loaded).exec (takeMachine loaded).init (visitLabels 0 visits)) := by
  constructor
  · intro s reachable
    have inv := reachable_inv loaded reachable
    have responses : s.corpus.responses = loaded.responses := by
      obtain ⟨labels, rfl⟩ := reachable
      exact exec_responses loaded labels
    refine ⟨?_, ?_, ?_, ?_, ?_, ?_, ?_, ?_, ?_⟩
    · intro digest
      have within := (inv.1 digest).within
      rwa [responses] at within
    · intro digest slot i j a b first second left right
      exact held_once inv first second left right
    · intro digest slot take _ keeps
      exact keeps.holds
    · intro digest quiet
      exact settled_cursor inv digest quiet
    · intro digest generation entryBody response answered
      have given := take_answer loaded answered
      rwa [responses] at given
    · intro digest generation entryBody entry found
      exact take_gives loaded generation entryBody (responses ▸ found)
    · intro position take slot stored waiting refused stands
      have inside := refused_inside loaded reachable take (List.mem_of_getElem? stored) slot refused
      exact served_spends loaded stored waiting refused stands inside
    · intro digest generation entryBody reason slot label refused parks
      exact parked_again loaded refused parks
    · intro first second same gives
      exact giveBacks_perm loaded inv same gives
  · intro visits
    have none : Served loaded [] (takeMachine loaded).init := by
      refine ⟨⟨fun _ => rfl, fun _ => rfl, ?_⟩, rfl, ?_⟩
      · intro position take slot stored
        simp [takeMachine] at stored
      · intro position visit found
        simp at found
    exact visits_served loaded visits rfl none

end MonoidKernel.PayloadReplay
