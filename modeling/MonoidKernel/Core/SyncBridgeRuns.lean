import Mathlib.Data.List.Induction
import MonoidKernel.Core.SyncBridge

set_option autoImplicit false

namespace MonoidKernel.SyncBridge

open Library

variable {V E : Type}

section Statement

def producedBy (call : Call E) (bridge : Bridge V E) : Option (Outcome V E) :=
  match call.kind with
  | .native => bridge.task
  | .worker => bridge.outcome

def Quiet (call : Call E) (bridge : Bridge V E) : Prop :=
  (∃ exit, bridge.awaiter = .finished exit) ∧ bridge.doneCallback = false ∧
    (call.kind = .worker → bridge.settled = true)

structure Accounted (call : Call E) (bridge : Bridge V E) : Prop where
  notBoth : ∀ produced, bridge.awaiter = .finished (.returned produced) → bridge.handedBack = []
  atMostOnce : bridge.handedBack.length ≤ 1
  returned : ∀ produced, bridge.awaiter = .finished (.returned produced) →
    producedBy call bridge = some (.value produced)
  handedBack : ∀ value ∈ bridge.handedBack,
    producedBy call bridge = some (.value (some value))
  once : call.hooked = true → Quiet call bridge →
    ∀ value, producedBy call bridge = some (.value (some value)) →
      bridge.awaiter = .finished (.returned (some value)) ∨ bridge.handedBack = [value]
  boundary : ∀ error, bridge.observed = some error → ∀ exit, bridge.awaiter = .finished exit →
    exit = .boundary error ∨ exit = .callerCancelled
  callerCancelled : ∀ exit, bridge.awaiter = .finished exit →
    (exit = .callerCancelled ↔ 0 < bridge.callerCancellations)
  calleeCancelled : bridge.awaiter = .finished .calleeCancelled →
    producedBy call bridge = some .cancelled
  consumed : Quiet call bridge → ∀ outcome, bridge.task = some outcome → outcome ≠ .cancelled →
    bridge.retrieved = true

end Statement

section Whereabouts

def Exit.answers : Exit V E → Bool
  | .returned _ => true
  | .failed _ => true
  | .calleeCancelled => true
  | _ => false

structure Untouched (bridge : Bridge V E) : Prop where
  retrieved : bridge.retrieved = false
  handedBack : bridge.handedBack = []
  doneCallback : bridge.doneCallback = false

def Delivered (call : Call E) (bridge : Bridge V E) : Prop :=
  call.kind = .worker →
    bridge.task = if bridge.settled then bridge.outcome.map (·.settable call) else none

inductive Whereabouts (call : Call E) (bridge : Bridge V E) : Prop where
  | ahead (here : bridge.awaiter = .entering ∨ bridge.awaiter = .waiting)
      (untouched : Untouched bridge) (delivered : Delivered call bridge)
  | answered (outcome : Outcome V E) (here : bridge.awaiter = .finished (answerOf outcome))
      (task : bridge.task = some outcome) (retrieved : bridge.retrieved = true)
      (handedBack : bridge.handedBack = []) (doneCallback : bridge.doneCallback = false)
      (delivered : Delivered call bridge)
  | discarded (exit : Exit V E) (outcome : Outcome V E) (silent : exit.answers = false)
      (here : bridge.awaiter = .finished exit)
      (task : bridge.task = some outcome) (retrieved : bridge.retrieved = true)
      (handedBack : bridge.handedBack = discards call outcome)
      (doneCallback : bridge.doneCallback = false) (delivered : Delivered call bridge)
  | abandoned (exit : Exit V E) (silent : exit.answers = false) (kind : call.kind = .worker)
      (here : bridge.awaiter = .cleaning exit ∨ bridge.awaiter = .finished exit)
      (task : bridge.task = some .cancelled)
      (handedBack : bridge.handedBack =
        if bridge.settled then bridge.outcome.elim [] (discards call) else [])
      (doneCallback : bridge.doneCallback = false)
  | cleaned (exit : Exit V E) (silent : exit.answers = false) (kind : call.kind = .native)
      (here : bridge.awaiter = .cleaning exit) (untouched : Untouched bridge)
  | watched (exit : Exit V E) (silent : exit.answers = false) (kind : call.kind = .native)
      (here : bridge.awaiter = .finished exit) (retrieved : bridge.retrieved = false)
      (handedBack : bridge.handedBack = []) (doneCallback : bridge.doneCallback = true)
  | unheld (kind : call.kind = .native) (here : bridge.awaiter = .finished .callerCancelled)
      (untouched : Untouched bridge)

def Answers (bridge : Bridge V E) : Prop :=
  match bridge.awaiter with
  | .entering | .waiting => bridge.callerCancellations = 0 ∧ bridge.observed = none
  | .cleaning exit | .finished exit =>
    (exit = .callerCancelled ↔ 0 < bridge.callerCancellations) ∧
      ∀ error, bridge.observed = some error → exit = .boundary error ∨ exit = .callerCancelled

structure Unheld (call : Call E) (bridge : Bridge V E) : Prop where
  kind : call.kind = .native
  here : bridge.awaiter = .finished .callerCancelled
  untouched : Untouched bridge

structure Kept (call : Call E) (bridge : Bridge V E) : Prop where
  whereabouts : Whereabouts call bridge
  answers : Answers bridge
  settled : bridge.settled = true → bridge.outcome.isSome = true
  kind : bridge.outcome.isSome = true → call.kind = .worker

end Whereabouts

section Steps

variable {call : Call E} {bridge : Bridge V E}

theorem Delivered.pending (delivered : Delivered call bridge)
    (settled : bridge.settled = true → bridge.outcome.isSome = true) (kind : call.kind = .worker)
    (task : bridge.task = none) : bridge.settled = false := by
  have same := delivered kind
  cases finished : bridge.settled with
  | false => rfl
  | true =>
    obtain ⟨outcome, found⟩ := Option.isSome_iff_exists.mp (settled finished)
    rw [task, finished, found] at same
    cases same

variable (exit : Exit V E)

theorem cleanup_whereabouts (silent : exit.answers = false) (untouched : Untouched bridge)
    (delivered : Delivered call bridge)
    (settled : bridge.settled = true → bridge.outcome.isSome = true) :
    Whereabouts call (cleanup call exit false bridge) := by
  unfold cleanup
  cases task : bridge.task with
  | none =>
    dsimp only [detachUnfinishedCall]
    cases kind : call.kind with
    | native => exact .cleaned exit silent kind rfl ⟨untouched.1, untouched.2, untouched.3⟩
    | worker =>
      refine .abandoned exit silent kind (.inl rfl) rfl ?_ untouched.doneCallback
      have unsettled := delivered.pending settled kind task
      simp [unsettled, untouched.handedBack]
  | some outcome =>
    simp only [consumeAndHandBack, handBackDiscarded_spec, Bool.false_eq_true, if_false]
    refine .discarded exit outcome silent rfl rfl rfl ?_ untouched.doneCallback ?_
    · simp [untouched.handedBack]
    · simpa only [Delivered, task] using delivered

@[simp] theorem cleanup_outcome (outcomeConsumed : Bool) :
    (cleanup call exit outcomeConsumed bridge).outcome = bridge.outcome := by
  unfold cleanup detachUnfinishedCall consumeAndHandBack
  cases bridge.task <;> cases call.kind <;> cases outcomeConsumed <;> simp

@[simp] theorem cleanup_settled (outcomeConsumed : Bool) :
    (cleanup call exit outcomeConsumed bridge).settled = bridge.settled := by
  unfold cleanup detachUnfinishedCall consumeAndHandBack
  cases bridge.task <;> cases call.kind <;> cases outcomeConsumed <;> simp

@[simp] theorem cleanup_callerCancellations (outcomeConsumed : Bool) :
    (cleanup call exit outcomeConsumed bridge).callerCancellations =
      bridge.callerCancellations := by
  unfold cleanup detachUnfinishedCall consumeAndHandBack
  cases bridge.task <;> cases call.kind <;> cases outcomeConsumed <;> simp

@[simp] theorem cleanup_observed (outcomeConsumed : Bool) :
    (cleanup call exit outcomeConsumed bridge).observed = bridge.observed := by
  unfold cleanup detachUnfinishedCall consumeAndHandBack
  cases bridge.task <;> cases call.kind <;> cases outcomeConsumed <;> simp

theorem cleanup_awaiter (call : Call E) (bridge : Bridge V E) (exit : Exit V E)
    (outcomeConsumed : Bool) :
    (cleanup call exit outcomeConsumed bridge).awaiter = .cleaning exit ∨
      (cleanup call exit outcomeConsumed bridge).awaiter = .finished exit := by
  unfold cleanup detachUnfinishedCall consumeAndHandBack
  cases bridge.task <;> cases call.kind <;> cases outcomeConsumed <;> simp

theorem cleanup_answers (outcomeConsumed : Bool)
    (caller : exit = .callerCancelled ↔ 0 < bridge.callerCancellations)
    (boundary : ∀ error, bridge.observed = some error →
      exit = .boundary error ∨ exit = .callerCancelled) :
    Answers (cleanup call exit outcomeConsumed bridge) := by
  unfold Answers
  rcases cleanup_awaiter call bridge exit outcomeConsumed with here | here
  all_goals
    rw [here]
    dsimp only
    rw [cleanup_callerCancellations, cleanup_observed]
    exact ⟨caller, boundary⟩

theorem Whereabouts.before (whereabouts : Whereabouts call bridge)
    (here : bridge.awaiter = .entering ∨ bridge.awaiter = .waiting) :
    Untouched bridge ∧ Delivered call bridge := by
  cases whereabouts with
  | ahead _ untouched delivered => exact ⟨untouched, delivered⟩
  | answered _ other => rcases here with here | here <;> simp [here] at other
  | discarded _ _ _ other => rcases here with here | here <;> simp [here] at other
  | abandoned _ _ _ other => rcases here with here | here <;> simp [here] at other
  | cleaned _ _ _ other => rcases here with here | here <;> simp [here] at other
  | watched _ _ _ other => rcases here with here | here <;> simp [here] at other
  | unheld _ other => rcases here with here | here <;> simp [here] at other

theorem enter_kept (kept : Kept call bridge) (here : bridge.awaiter = .entering)
    (failure : Option E) : Kept call (enter call failure bridge) := by
  obtain ⟨untouched, delivered⟩ := kept.whereabouts.before (.inl here)
  have answers := kept.answers
  unfold Answers at answers
  rw [here] at answers
  cases failure with
  | none =>
    exact ⟨.ahead (.inr rfl) ⟨untouched.1, untouched.2, untouched.3⟩ delivered, answers,
      kept.settled, kept.kind⟩
  | some error =>
    dsimp only [enter]
    refine ⟨cleanup_whereabouts _ rfl untouched delivered kept.settled, ?_, ?_, ?_⟩
    · refine cleanup_answers _ false ?_ ?_
      · simp [answers.1]
      · simp [answers.2]
    · simpa using kept.settled
    · simpa using kept.kind

theorem waited_whereabouts (kept : Kept call bridge) (here : bridge.awaiter = .waiting)
    (boundary : Option E) : Whereabouts call (waited call boundary bridge) := by
  obtain ⟨⟨retrieved, handedBack, callback⟩, delivered⟩ := kept.whereabouts.before (.inr here)
  dsimp only [waited]
  by_cases requested : bridge.cancelRequested = true
  · rw [if_pos requested]
    exact cleanup_whereabouts _ rfl ⟨retrieved, handedBack, callback⟩ delivered kept.settled
  · rw [if_neg requested]
    cases boundary with
    | some error =>
      cases task : bridge.task with
      | none =>
        refine cleanup_whereabouts _ rfl ⟨retrieved, handedBack, callback⟩ ?_ kept.settled
        simpa only [Delivered, task] using delivered
      | some outcome =>
        dsimp only
        by_cases hooked : call.hooked = true
        · rw [if_pos hooked]
          simp only [cleanup, consumeAndHandBack, handBackDiscarded_spec, if_true]
          refine .discarded _ outcome rfl rfl rfl rfl ?_ callback ?_
          · simp [handedBack]
          · simpa only [Delivered, task] using delivered
        · rw [if_neg hooked]
          refine cleanup_whereabouts _ rfl ⟨retrieved, handedBack, callback⟩ ?_ kept.settled
          simpa only [Delivered, task] using delivered
    | none =>
      cases task : bridge.task with
      | some outcome =>
        simp only [cleanup, if_true]
        refine .answered outcome rfl rfl rfl handedBack callback ?_
        simpa only [Delivered, task] using delivered
      | none =>
        have pending : call.kind = .worker →
            none = if bridge.settled then bridge.outcome.map (·.settable call) else none := by
          simpa only [Delivered, task] using delivered
        cases bridge.cancelled with
        | some cause =>
          exact cleanup_whereabouts _ rfl ⟨retrieved, handedBack, callback⟩ pending kept.settled
        | none =>
          exact cleanup_whereabouts _ rfl ⟨retrieved, handedBack, callback⟩ pending kept.settled

theorem answerOf_callerCancelled (outcome : Outcome V E) : answerOf outcome ≠ .callerCancelled := by
  cases outcome <;> simp [answerOf]

@[simp] theorem consumeAndHandBack_spec (outcome : Outcome V E) :
    consumeAndHandBack call outcome bridge =
      { bridge with
        retrieved := true
        handedBack := bridge.handedBack ++ discards call outcome } := by
  simp [consumeAndHandBack]

theorem waited_answers (kept : Kept call bridge) (here : bridge.awaiter = .waiting)
    (boundary : Option E) : Answers (waited call boundary bridge) := by
  have answers := kept.answers
  unfold Answers at answers
  rw [here] at answers
  dsimp only [waited]
  by_cases requested : bridge.cancelRequested = true
  · rw [if_pos requested]
    exact cleanup_answers _ false (by simp) fun error _ => .inr rfl
  · rw [if_neg requested]
    cases boundary with
    | some error =>
      cases task : bridge.task with
      | none => exact cleanup_answers _ false (by simp [answers.1]) fun other same => by simp_all
      | some outcome =>
        dsimp only
        by_cases hooked : call.hooked = true
        · rw [if_pos hooked]
          exact cleanup_answers _ true (by simp [answers.1]) fun other same => by simp_all
        · rw [if_neg hooked]
          exact cleanup_answers _ false (by simp [answers.1]) fun other same => by simp_all
    | none =>
      cases task : bridge.task with
      | some outcome =>
        refine cleanup_answers _ true ?_ nofun
        simp [answers.1, answerOf_callerCancelled]
      | none =>
        cases bridge.cancelled with
        | some cause => exact cleanup_answers _ false (by simp [answers.1]) nofun
        | none => exact cleanup_answers _ false (by simp [answers.1]) nofun

theorem waited_worker (call : Call E) (bridge : Bridge V E) (boundary : Option E) :
    (waited call boundary bridge).outcome = bridge.outcome ∧
      (waited call boundary bridge).settled = bridge.settled := by
  dsimp only [waited]
  by_cases requested : bridge.cancelRequested = true
  · simp [requested]
  · rw [if_neg requested]
    cases boundary <;> cases bridge.task <;> dsimp only
    · cases bridge.cancelled <;> simp
    · simp
    · simp
    · cases call.hooked <;> simp

theorem waited_kept (kept : Kept call bridge) (here : bridge.awaiter = .waiting)
    (boundary : Option E) : Kept call (waited call boundary bridge) := by
  obtain ⟨outcome, settled⟩ := waited_worker call bridge boundary
  refine ⟨waited_whereabouts kept here boundary, waited_answers kept here boundary, ?_, ?_⟩
  · rw [outcome, settled]; exact kept.settled
  · rw [outcome]; exact kept.kind

theorem Whereabouts.during (whereabouts : Whereabouts call bridge) {exit : Exit V E}
    (here : bridge.awaiter = .cleaning exit) :
    exit.answers = false ∧ bridge.doneCallback = false ∧
      ((call.kind = .native ∧ Untouched bridge) ∨
        (call.kind = .worker ∧ bridge.task = some .cancelled ∧ bridge.handedBack =
          if bridge.settled then bridge.outcome.elim [] (discards call) else [])) := by
  cases whereabouts with
  | cleaned other silent kind same untouched =>
    obtain rfl : exit = other := by simpa [here] using same
    exact ⟨silent, untouched.doneCallback, .inl ⟨kind, untouched⟩⟩
  | abandoned other silent kind same task handedBack callback =>
    obtain rfl : exit = other := by simpa [here] using same
    exact ⟨silent, callback, .inr ⟨kind, task, handedBack⟩⟩
  | ahead same => rcases same with same | same <;> simp [here] at same
  | answered _ same => simp [here] at same
  | discarded _ _ _ same => simp [here] at same
  | watched _ _ _ same => simp [here] at same
  | unheld _ same => simp [here] at same

theorem detached_kept (kept : Kept call bridge) {exit : Exit V E}
    (here : bridge.awaiter = .cleaning exit) : Kept call (detached call exit bridge) := by
  obtain ⟨silent, callback, whose⟩ := kept.whereabouts.during here
  have answers := kept.answers
  unfold Answers at answers
  rw [here] at answers
  unfold detached
  by_cases requested : bridge.cancelRequested = true
  · rw [if_pos requested]
    refine ⟨?_, ⟨by simp, fun error _ => .inr rfl⟩, kept.settled, kept.kind⟩
    rcases whose with ⟨kind, untouched⟩ | ⟨kind, task, handedBack⟩
    · exact .unheld kind rfl ⟨untouched.1, untouched.2, untouched.3⟩
    · exact .abandoned .callerCancelled rfl kind (.inr rfl) task handedBack callback
  · rw [if_neg requested]
    cases task : bridge.task with
    | some outcome =>
      dsimp only
      rw [consumeAndHandBack_spec]
      refine ⟨?_, answers, kept.settled, kept.kind⟩
      rcases whose with ⟨kind, untouched⟩ | ⟨kind, cancelled, handedBack⟩
      · refine .discarded exit outcome silent rfl rfl rfl ?_ callback ?_
        · simp [untouched.handedBack]
        · exact fun worker => by simp [kind] at worker
      · obtain rfl : outcome = .cancelled := by simpa [task] using cancelled
        refine .abandoned exit silent kind (.inr rfl) rfl ?_ callback
        simp [handedBack, discards, Outcome.produced]
    | none =>
      rcases whose with ⟨kind, untouched⟩ | ⟨kind, cancelled, handedBack⟩
      · exact ⟨.watched exit silent kind rfl untouched.retrieved untouched.handedBack rfl, answers,
          kept.settled, kept.kind⟩
      · simp [task] at cancelled

theorem Kept.signalled (kept : Kept call bridge) (cancelled : Option (Option InterruptionCause))
    (cancelRequested : Bool) :
    Kept call { bridge with cancelled := cancelled, cancelRequested := cancelRequested } := by
  refine ⟨?_, kept.answers, kept.settled, kept.kind⟩
  cases kept.whereabouts with
  | ahead here untouched delivered =>
    exact .ahead here ⟨untouched.1, untouched.2, untouched.3⟩ delivered
  | answered outcome here task retrieved handedBack callback delivered =>
    exact .answered outcome here task retrieved handedBack callback delivered
  | discarded exit outcome silent here task retrieved handedBack callback delivered =>
    exact .discarded exit outcome silent here task retrieved handedBack callback delivered
  | abandoned exit silent kind here task handedBack callback =>
    exact .abandoned exit silent kind here task handedBack callback
  | cleaned exit silent kind here untouched =>
    exact .cleaned exit silent kind here ⟨untouched.1, untouched.2, untouched.3⟩
  | watched exit silent kind here retrieved handedBack callback =>
    exact .watched exit silent kind here retrieved handedBack callback
  | unheld kind here untouched =>
    exact .unheld kind here ⟨untouched.1, untouched.2, untouched.3⟩

theorem settle_kept (kept : Kept call bridge) (kind : call.kind = .native)
    (pending : bridge.task = none) (outcome : Outcome V E) :
    Kept call { bridge with task := some outcome } := by
  refine ⟨?_, kept.answers, kept.settled, kept.kind⟩
  cases kept.whereabouts with
  | ahead here untouched delivered =>
    refine .ahead here ⟨untouched.1, untouched.2, untouched.3⟩ fun worker => ?_
    simp [kind] at worker
  | answered _ _ task => simp [pending] at task
  | discarded _ _ _ _ task => simp [pending] at task
  | abandoned _ _ _ _ task => simp [pending] at task
  | cleaned exit silent _ here untouched =>
    exact .cleaned exit silent kind here ⟨untouched.1, untouched.2, untouched.3⟩
  | watched exit silent _ here retrieved handedBack callback =>
    exact .watched exit silent kind here retrieved handedBack callback
  | unheld _ here untouched =>
    exact .unheld kind here ⟨untouched.1, untouched.2, untouched.3⟩

theorem workerEnds_kept (kept : Kept call bridge) (kind : call.kind = .worker)
    (running : bridge.outcome = none) (outcome : Outcome V E) :
    Kept call { bridge with outcome := some outcome } := by
  have unsettled : bridge.settled = false := by
    cases finished : bridge.settled with
    | false => rfl
    | true => simpa [running] using kept.settled finished
  refine ⟨?_, kept.answers, fun _ => rfl, fun _ => kind⟩
  cases kept.whereabouts with
  | ahead here untouched delivered =>
    refine .ahead here ⟨untouched.1, untouched.2, untouched.3⟩ fun worker => ?_
    simpa [unsettled] using delivered worker
  | answered _ _ task _ _ _ delivered => simpa [unsettled, task] using delivered kind
  | discarded _ _ _ _ task _ _ _ delivered => simpa [unsettled, task] using delivered kind
  | abandoned exit silent _ here task handedBack callback =>
    refine .abandoned exit silent kind here task ?_ callback
    simpa [unsettled] using handedBack
  | cleaned _ _ native => simp [kind] at native
  | watched _ _ native => simp [kind] at native
  | unheld native => simp [kind] at native

theorem deliver_kept (kept : Kept call bridge) {outcome : Outcome V E}
    (finished : bridge.outcome = some outcome) (unsettled : bridge.settled = false) :
    Kept call (deliver call outcome bridge) := by
  have kind : call.kind = .worker := kept.kind (by simp [finished])
  cases kept.whereabouts with
  | ahead here untouched delivered =>
    have pending : bridge.task = none := by simpa [unsettled] using delivered kind
    simp only [deliver, pending, Option.isSome_none, Bool.false_eq_true, if_false]
    refine ⟨.ahead here ⟨untouched.1, untouched.2, untouched.3⟩ fun worker => ?_, kept.answers,
      fun _ => by simp [finished], kept.kind⟩
    simp [finished]
  | abandoned exit silent _ here task handedBack callback =>
    simp only [deliver, task, Option.isSome_some, if_true, handBackDiscarded_spec]
    refine ⟨.abandoned exit silent kind here rfl ?_ callback, kept.answers,
      fun _ => by simp [finished], kept.kind⟩
    simp [finished, handedBack, unsettled]
  | answered _ _ task _ _ _ delivered => simpa [unsettled, task] using delivered kind
  | discarded _ _ _ _ task _ _ _ delivered => simpa [unsettled, task] using delivered kind
  | cleaned _ _ native => simp [kind] at native
  | watched _ _ native => simp [kind] at native
  | unheld native => simp [kind] at native

theorem doneCallback_kept (kept : Kept call bridge) {outcome : Outcome V E}
    (task : bridge.task = some outcome) (left : bridge.doneCallback = true) :
    Kept call (consumeAndHandBack call outcome { bridge with doneCallback := false }) := by
  rw [consumeAndHandBack_spec]
  refine ⟨?_, kept.answers, kept.settled, kept.kind⟩
  cases kept.whereabouts with
  | watched exit silent kind here retrieved handedBack callback =>
    refine .discarded exit outcome silent here task rfl ?_ rfl fun worker => ?_
    · simp [handedBack]
    · simp [kind] at worker
  | ahead _ untouched => simpa [left] using untouched.doneCallback
  | answered _ _ _ _ _ callback => simp [left] at callback
  | discarded _ _ _ _ _ _ _ callback => simp [left] at callback
  | abandoned _ _ _ _ _ _ callback => simp [left] at callback
  | cleaned _ _ _ _ untouched => simpa [left] using untouched.doneCallback
  | unheld _ _ untouched => simpa [left] using untouched.doneCallback

-- What one step can do, whatever its label: most labels idle where they do not apply.
inductive Turn (call : Call E) (bridge : Bridge V E) : BridgeLabel V E → Bridge V E → Prop where
  | idle (label : BridgeLabel V E) : Turn call bridge label bridge
  | enter (failure : Option E) (here : bridge.awaiter = .entering) :
      Turn call bridge (.enter failure) (enter call failure bridge)
  | wait (timedOut : Bool) (boundary : Option E) (here : bridge.awaiter = .waiting) :
      Turn call bridge (.awake timedOut boundary) (waited call boundary bridge)
  | clean (timedOut : Bool) (boundary : Option E) (exit : Exit V E)
      (here : bridge.awaiter = .cleaning exit) :
      Turn call bridge (.awake timedOut boundary) (detached call exit bridge)
  | settle (outcome : Outcome V E) (kind : call.kind = .native) (pending : bridge.task = none) :
      Turn call bridge (.settle outcome) { bridge with task := some outcome }
  | workerEnds (outcome : Outcome V E) (kind : call.kind = .worker)
      (running : bridge.outcome = none) :
      Turn call bridge (.workerEnds outcome) { bridge with outcome := some outcome }
  | deliver (outcome : Outcome V E) (finished : bridge.outcome = some outcome)
      (unsettled : bridge.settled = false) :
      Turn call bridge .deliver (deliver call outcome bridge)
  | signal (label : BridgeLabel V E) (cancelled : Option (Option InterruptionCause))
      (cancelRequested : Bool) :
      Turn call bridge label
        { bridge with cancelled := cancelled, cancelRequested := cancelRequested }
  | doneCallback (outcome : Outcome V E) (task : bridge.task = some outcome)
      (left : bridge.doneCallback = true) :
      Turn call bridge .doneCallback
        (consumeAndHandBack call outcome { bridge with doneCallback := false })

theorem nextBridge_turn (call : Call E) (bridge : Bridge V E) (label : BridgeLabel V E) :
    Turn call bridge label (nextBridge call bridge label) := by
  cases label with
  | enter failure =>
    dsimp only [nextBridge]
    split
    next here => exact .enter failure here
    · exact .idle _
  | awake timedOut boundary =>
    dsimp only [nextBridge, awake]
    split
    next here =>
      split
      · exact .wait timedOut boundary here
      · exact .idle _
    next exit here =>
      split
      · exact .clean timedOut boundary exit here
      · exact .idle _
    · exact .idle _
  | settle outcome =>
    dsimp only [nextBridge]
    split
    next kind pending => exact .settle outcome kind pending
    · exact .idle _
  | workerEnds outcome =>
    dsimp only [nextBridge]
    split
    next kind running => exact .workerEnds outcome kind running
    · exact .idle _
  | deliver =>
    dsimp only [nextBridge]
    split
    next outcome finished =>
      split
      · exact .idle _
      next unsettled => exact .deliver outcome finished (by simpa using unsettled)
    · exact .idle _
  | cancelToken cause =>
    dsimp only [nextBridge]
    split
    · exact .signal _ (some cause) bridge.cancelRequested
    · exact .idle _
  | cancelAwaiter =>
    dsimp only [nextBridge]
    split
    · exact .idle _
    · exact .signal _ bridge.cancelled true
  | doneCallback =>
    dsimp only [nextBridge]
    split
    next outcome task =>
      split
      next left => exact .doneCallback outcome task left
      · exact .idle _
    · exact .idle _

theorem Turn.kept {label : BridgeLabel V E} {after : Bridge V E}
    (turn : Turn call bridge label after) (kept : Kept call bridge) : Kept call after := by
  cases turn with
  | idle => exact kept
  | enter failure here => exact enter_kept kept here failure
  | wait _ boundary here => exact waited_kept kept here boundary
  | clean _ _ exit here => exact detached_kept kept here
  | settle outcome kind pending => exact settle_kept kept kind pending outcome
  | workerEnds outcome kind running => exact workerEnds_kept kept kind running outcome
  | deliver outcome finished unsettled => exact deliver_kept kept finished unsettled
  | signal _ cancelled cancelRequested => exact kept.signalled cancelled cancelRequested
  | doneCallback outcome task left => exact doneCallback_kept kept task left

theorem nextBridge_kept (kept : Kept call bridge) (label : BridgeLabel V E) :
    Kept call (nextBridge call bridge label) :=
  (nextBridge_turn call bridge label).kept kept

end Steps

section Account

variable {call : Call E} {bridge : Bridge V E}

theorem Answers.finished (answers : Answers bridge) {exit : Exit V E}
    (here : bridge.awaiter = .finished exit) :
    (exit = .callerCancelled ↔ 0 < bridge.callerCancellations) ∧
      ∀ error, bridge.observed = some error → exit = .boundary error ∨ exit = .callerCancelled := by
  unfold Answers at answers
  rwa [here] at answers

variable {outcome : Outcome V E}

theorem Delivered.produced (delivered : Delivered call bridge) (task : bridge.task = some outcome) :
    ∃ ended, producedBy call bridge = some ended ∧
      (ended = outcome ∨ ended.settable call = outcome) := by
  unfold producedBy
  cases kind : call.kind with
  | native => exact ⟨outcome, task, .inl rfl⟩
  | worker =>
    have same := delivered kind
    rw [task] at same
    cases settled : bridge.settled with
    | false => simp [settled] at same
    | true =>
      obtain ⟨ended, found, held⟩ := Option.map_eq_some_iff.mp (by simpa [settled] using same.symm)
      exact ⟨ended, found, .inr held⟩

theorem settable_value {ended : Outcome V E} {produced : Option V}
    (same : ended = .value produced ∨ ended.settable call = .value produced) :
    ended = .value produced := by
  rcases same with same | same
  · exact same
  · cases ended <;> simp_all [Outcome.settable]

theorem settable_cancelled {ended : Outcome V E}
    (same : ended = .cancelled ∨ ended.settable call = .cancelled) : ended = .cancelled := by
  rcases same with same | same
  · exact same
  · cases ended <;> simp_all [Outcome.settable]

theorem discards_length (outcome : Outcome V E) : (discards call outcome).length ≤ 1 := by
  unfold discards
  cases outcome.produced <;> cases call.hooked <;> simp

theorem mem_discards {value : V} (listed : value ∈ discards call outcome) :
    outcome = .value (some value) := by
  unfold discards at listed
  cases outcome with
  | value produced => cases produced <;> cases hooked : call.hooked <;> simp_all [Outcome.produced]
  | raised error => simp [Outcome.produced] at listed
  | cancelled => simp [Outcome.produced] at listed

theorem discards_value (hooked : call.hooked = true) (value : V) :
    discards call (.value (some value) : Outcome V E) = [value] := by
  simp [discards, hooked, Outcome.produced]

theorem accounted_silent (answers : Answers bridge)
    (silent : ∀ exit, bridge.awaiter = .finished exit → exit.answers = false)
    (handedBack : ∀ value ∈ bridge.handedBack, producedBy call bridge = some (.value (some value)))
    (atMostOnce : bridge.handedBack.length ≤ 1)
    (once : call.hooked = true → Quiet call bridge →
      ∀ value, producedBy call bridge = some (.value (some value)) → bridge.handedBack = [value])
    (consumed : Quiet call bridge → ∀ outcome, bridge.task = some outcome →
      outcome ≠ .cancelled → bridge.retrieved = true) : Accounted call bridge where
  notBoth produced here := by simpa [Exit.answers] using silent _ here
  atMostOnce := atMostOnce
  returned produced here := by simpa [Exit.answers] using silent _ here
  handedBack := handedBack
  once hooked quiet value produced := .inr (once hooked quiet value produced)
  boundary error observed exit here := (answers.finished here).2 error observed
  callerCancelled exit here := (answers.finished here).1
  calleeCancelled here := by simpa [Exit.answers] using silent _ here
  consumed := consumed

theorem accounted_answered (answers : Answers bridge)
    (here : bridge.awaiter = .finished (answerOf outcome)) (task : bridge.task = some outcome)
    (retrieved : bridge.retrieved = true) (handedBack : bridge.handedBack = [])
    (delivered : Delivered call bridge) : Accounted call bridge := by
  obtain ⟨ended, found, same⟩ := delivered.produced task
  refine ⟨fun _ _ => handedBack, by simp [handedBack], ?_, by simp [handedBack], ?_,
    fun error observed exit final => (answers.finished final).2 error observed,
    fun exit final => (answers.finished final).1, ?_, fun _ _ _ _ => retrieved⟩
  · intro produced final
    rw [here] at final
    cases outcome with
    | value held =>
      obtain rfl : held = produced := by simpa [answerOf] using final
      rw [found, settable_value same]
    | raised error => simp [answerOf] at final
    | cancelled => simp [answerOf] at final
  · intro hooked quiet value produced
    left
    obtain rfl : ended = .value (some value) := by simpa [found] using produced
    have held : outcome = .value (some value) := by
      rcases same with same | same
      · exact same.symm
      · simpa [Outcome.settable] using same.symm
    rw [here, held, answerOf]
  · intro final
    rw [here] at final
    cases outcome with
    | value held => simp [answerOf] at final
    | raised error => simp [answerOf] at final
    | cancelled => rw [found, settable_cancelled same]

theorem accounted_iff (kept : Kept call bridge) :
    Accounted call bridge ↔
      (Unheld call bridge → ∀ outcome, bridge.task = some outcome → outcome = .cancelled) := by
  constructor
  · intro accounted unheld outcome task
    by_contra other
    have quiet : Quiet call bridge :=
      ⟨⟨_, unheld.here⟩, unheld.untouched.doneCallback, fun worker => by
        simp [unheld.kind] at worker⟩
    simpa [unheld.untouched.retrieved] using accounted.consumed quiet outcome task other
  · intro spared
    cases kept.whereabouts with
    | ahead here untouched delivered =>
      have running : ∀ exit, bridge.awaiter ≠ .finished exit := by
        intro exit final
        rcases here with here | here <;> simp [here] at final
      exact accounted_silent kept.answers (fun exit final => absurd final (running exit))
        (by simp [untouched.handedBack]) (by simp [untouched.handedBack])
        (fun _ quiet => absurd quiet.1.choose_spec (running _))
        (fun quiet => absurd quiet.1.choose_spec (running _))
    | answered outcome here task retrieved handedBack callback delivered =>
      exact accounted_answered kept.answers here task retrieved handedBack delivered
    | discarded exit outcome silent here task retrieved handedBack callback delivered =>
      obtain ⟨ended, found, same⟩ := delivered.produced task
      refine accounted_silent kept.answers ?_ ?_ ?_ ?_ fun _ _ _ _ => retrieved
      · intro other final; simp_all
      · intro value listed
        rw [handedBack] at listed
        obtain rfl := mem_discards listed
        rw [found, settable_value same]
      · rw [handedBack]; exact discards_length outcome
      · intro hooked quiet value produced
        obtain rfl : ended = .value (some value) := by simpa [found] using produced
        have held : outcome = .value (some value) := by
          rcases same with same | same
          · exact same.symm
          · simpa [Outcome.settable] using same.symm
        rw [handedBack, held, discards_value hooked]
    | abandoned exit silent kind here task handedBack callback =>
      refine accounted_silent kept.answers ?_ ?_ ?_ ?_ ?_
      · intro other final
        rcases here with here | here <;> simp_all
      · intro value listed
        cases settled : bridge.settled with
        | false => simp [handedBack, settled] at listed
        | true =>
          obtain ⟨ended, found⟩ := Option.isSome_iff_exists.mp (kept.settled settled)
          have taken : value ∈ discards call ended := by
            simpa [handedBack, settled, found] using listed
          simp [producedBy, kind, found, mem_discards taken]
      · rw [handedBack]
        cases bridge.outcome <;> cases bridge.settled <;> simp [discards_length]
      · intro hooked quiet value produced
        have found : bridge.outcome = some (.value (some value)) := by
          simpa [producedBy, kind] using produced
        simp [handedBack, quiet.2.2 kind, found, discards_value hooked]
      · intro quiet outcome held other
        simp_all
    | cleaned exit silent kind here untouched =>
      have running : ∀ exit, bridge.awaiter ≠ .finished exit := by
        intro exit final
        simp [here] at final
      exact accounted_silent kept.answers (fun exit final => absurd final (running exit))
        (by simp [untouched.handedBack]) (by simp [untouched.handedBack])
        (fun _ quiet => absurd quiet.1.choose_spec (running _))
        (fun quiet => absurd quiet.1.choose_spec (running _))
    | watched exit silent kind here retrieved handedBack callback =>
      refine accounted_silent kept.answers ?_ (by simp [handedBack]) (by simp [handedBack]) ?_ ?_
      · intro other final; simp_all
      · intro _ quiet; simp [quiet.2.1] at callback
      · intro quiet; simp [quiet.2.1] at callback
    | unheld kind here untouched =>
      have ends := spared ⟨kind, here, untouched⟩
      refine accounted_silent kept.answers ?_ (by simp [untouched.handedBack])
        (by simp [untouched.handedBack]) ?_ ?_
      · intro other final
        obtain rfl : Exit.callerCancelled = other := by simpa [here] using final
        rfl
      · intro _ _ value produced
        have task : bridge.task = some (.value (some value)) := by
          simpa [producedBy, kind] using produced
        exact absurd (ends _ task) (by simp)
      · exact fun _ outcome task other => absurd (ends outcome task) other

end Account

section Interruptions

variable {call : Call E} {bridge : Bridge V E}

def InterruptsCleanup (call : Call E) (bridge : Bridge V E) : Prop :=
  call.kind = .native ∧ (∃ exit, bridge.awaiter = .cleaning exit) ∧ bridge.cancelRequested = true

theorem interrupts_unheld (kept : Kept call bridge) (interrupts : InterruptsCleanup call bridge)
    (timedOut : Bool) (boundary : Option E) :
    Unheld call (nextBridge call bridge (.awake timedOut boundary)) := by
  obtain ⟨kind, ⟨exit, here⟩, requested⟩ := interrupts
  obtain ⟨-, -, whose⟩ := kept.whereabouts.during here
  simp only [nextBridge, awake, here, requested, detached, Bool.true_or, if_true]
  rcases whose with ⟨-, untouched⟩ | ⟨worker, -⟩
  · exact ⟨kind, rfl, ⟨untouched.1, untouched.2, untouched.3⟩⟩
  · simp [kind] at worker

theorem Turn.unheld {label : BridgeLabel V E} {after : Bridge V E}
    (turn : Turn call bridge label after) (kept : Kept call bridge) (unheld : Unheld call bridge) :
    Unheld call after := by
  obtain ⟨kind, final, untouched⟩ := unheld
  cases turn with
  | idle => exact ⟨kind, final, untouched⟩
  | enter _ here => simp [final] at here
  | wait _ _ here => simp [final] at here
  | clean _ _ _ here => simp [final] at here
  | settle => exact ⟨kind, final, ⟨untouched.1, untouched.2, untouched.3⟩⟩
  | workerEnds _ worker => simp [kind] at worker
  | deliver _ finished =>
    have worker := kept.kind (by simp [finished])
    simp [kind] at worker
  | signal => exact ⟨kind, final, ⟨untouched.1, untouched.2, untouched.3⟩⟩
  | doneCallback _ _ left => simp [untouched.doneCallback] at left

theorem unheld_next (kept : Kept call bridge) (unheld : Unheld call bridge)
    (label : BridgeLabel V E) : Unheld call (nextBridge call bridge label) :=
  (nextBridge_turn call bridge label).unheld kept unheld

theorem cleanup_held (exit : Exit V E) (outcomeConsumed : Bool)
    (held : exit ≠ .callerCancelled ∨ outcomeConsumed = false) :
    ¬ Unheld call (cleanup call exit outcomeConsumed bridge) := by
  intro unheld
  have here := unheld.here
  have retrieved := unheld.untouched.retrieved
  unfold cleanup detachUnfinishedCall at here retrieved
  cases task : bridge.task with
  | none => cases kind : call.kind <;> simp [task, kind] at here
  | some outcome =>
    rcases held with other | fresh
    · cases outcomeConsumed <;> simp_all
    · simp [task, fresh] at retrieved

theorem waited_held (boundary : Option E) : ¬ Unheld call (waited call boundary bridge) := by
  dsimp only [waited]
  by_cases requested : bridge.cancelRequested = true
  · rw [if_pos requested]
    exact cleanup_held _ false (.inr rfl)
  · rw [if_neg requested]
    cases boundary <;> cases bridge.task <;> dsimp only
    · cases bridge.cancelled <;> exact cleanup_held _ false (.inr rfl)
    next outcome => exact cleanup_held _ true (.inl (answerOf_callerCancelled outcome))
    · exact cleanup_held _ false (.inr rfl)
    · split
      · exact cleanup_held _ true (.inl (by simp))
      · exact cleanup_held _ false (.inr rfl)

theorem detached_held (exit : Exit V E) (requested : bridge.cancelRequested = false) :
    ¬ Unheld call (detached call exit bridge) := by
  intro unheld
  have retrieved := unheld.untouched.retrieved
  have callback := unheld.untouched.doneCallback
  simp only [detached, requested, Bool.false_eq_true, if_false] at retrieved callback
  cases task : bridge.task with
  | none => simp [task] at callback
  | some outcome => simp [task] at retrieved

theorem Turn.arises {label : BridgeLabel V E} {next : Bridge V E}
    (turn : Turn call bridge label next) (kept : Kept call bridge) (before : ¬ Unheld call bridge)
    (after : Unheld call next) :
    (∃ timedOut boundary, label = .awake timedOut boundary) ∧ InterruptsCleanup call bridge := by
  have same (kind : call.kind = .native) (here : bridge.awaiter = .finished .callerCancelled)
      (untouched : Untouched bridge) : False := before ⟨kind, here, untouched⟩
  cases turn with
  | idle => exact absurd after before
  | enter failure =>
    cases failure with
    | none => simpa [SyncBridge.enter] using after.here
    | some error => exact absurd after (cleanup_held _ false (.inr rfl))
  | wait _ boundary => exact absurd after (waited_held boundary)
  | clean timedOut boundary exit here =>
    cases requested : bridge.cancelRequested with
    | true => exact ⟨⟨timedOut, boundary, rfl⟩, after.kind, ⟨exit, here⟩, requested⟩
    | false => exact absurd after (detached_held exit requested)
  | settle =>
    exact (same after.kind after.here
      ⟨after.untouched.1, after.untouched.2, after.untouched.3⟩).elim
  | workerEnds _ kind => simpa [kind] using after.kind
  | deliver _ finished =>
    have kind := after.kind
    rw [kept.kind (by simp [finished])] at kind
    cases kind
  | signal =>
    exact (same after.kind after.here
      ⟨after.untouched.1, after.untouched.2, after.untouched.3⟩).elim
  | doneCallback => simpa using after.untouched.retrieved

end Interruptions

section Progress

variable {call : Call E} {bridge : Bridge V E}

structure Forward (before after : Bridge V E) : Prop where
  task : before.task.isSome = true → after.task.isSome = true
  outcome : before.outcome.isSome = true → after.outcome.isSome = true
  entered : before.awaiter ≠ .entering → after.awaiter ≠ .entering
  settled : before.settled = true → after.settled = true
  finished : (∃ exit, before.awaiter = .finished exit) → ∃ exit, after.awaiter = .finished exit
  callback : before.task.isSome = true → before.doneCallback = false → after.doneCallback = false

theorem Forward.refl (bridge : Bridge V E) : Forward bridge bridge :=
  ⟨id, id, id, id, id, fun _ => id⟩

theorem cleanup_finished (call : Call E) (bridge : Bridge V E) (exit : Exit V E)
    (outcomeConsumed : Bool) (ended : bridge.task.isSome = true) :
    (cleanup call exit outcomeConsumed bridge).awaiter = .finished exit := by
  obtain ⟨outcome, task⟩ := Option.isSome_iff_exists.mp ended
  unfold cleanup
  rw [task]
  cases outcomeConsumed <;> simp

variable (exit : Exit V E)

@[simp] theorem cleanup_doneCallback (outcomeConsumed : Bool) :
    (cleanup call exit outcomeConsumed bridge).doneCallback = bridge.doneCallback := by
  unfold cleanup detachUnfinishedCall consumeAndHandBack
  cases bridge.task <;> cases call.kind <;> cases outcomeConsumed <;> simp

theorem cleanup_task (call : Call E) (bridge : Bridge V E) (exit : Exit V E)
    (outcomeConsumed : Bool) (ended : bridge.task.isSome = true) :
    (cleanup call exit outcomeConsumed bridge).task.isSome = true := by
  obtain ⟨outcome, task⟩ := Option.isSome_iff_exists.mp ended
  unfold cleanup
  rw [task]
  cases outcomeConsumed <;> simp

theorem cleanup_forward (outcomeConsumed : Bool)
    (running : ∀ other, bridge.awaiter ≠ .finished other) :
    Forward bridge (cleanup call exit outcomeConsumed bridge) := by
  refine ⟨cleanup_task call bridge exit outcomeConsumed, ?_, fun _ => ?_, ?_, ?_, ?_⟩
  · simp
  · rcases cleanup_awaiter call bridge exit outcomeConsumed with here | here <;> simp [here]
  · simp
  · exact fun ⟨other, here⟩ => absurd here (running other)
  · simp

-- The wait ends in a cleanup of a bridge that has as much done as before.
theorem waited_cleanup (call : Call E) (boundary : Option E) (bridge : Bridge V E) :
    ∃ exit outcomeConsumed between, waited call boundary bridge =
        cleanup call exit outcomeConsumed between ∧ between.awaiter = bridge.awaiter ∧
      between.task = bridge.task ∧ between.outcome = bridge.outcome ∧
      between.settled = bridge.settled ∧ between.doneCallback = bridge.doneCallback := by
  dsimp only [waited]
  by_cases requested : bridge.cancelRequested = true
  · rw [if_pos requested]
    exact ⟨_, _, _, rfl, rfl, rfl, rfl, rfl, rfl⟩
  · rw [if_neg requested]
    cases boundary <;> cases bridge.task <;> dsimp only
    · cases bridge.cancelled <;> exact ⟨_, _, _, rfl, rfl, rfl, rfl, rfl, rfl⟩
    · exact ⟨_, _, _, rfl, rfl, rfl, rfl, rfl, rfl⟩
    · exact ⟨_, _, _, rfl, rfl, rfl, rfl, rfl, rfl⟩
    · split
      · exact ⟨_, _, _, rfl, by simp, by simp, by simp, by simp, by simp⟩
      · exact ⟨_, _, _, rfl, rfl, rfl, rfl, rfl, rfl⟩

theorem waited_forward (boundary : Option E) (here : bridge.awaiter = .waiting) :
    Forward bridge (waited call boundary bridge) := by
  obtain ⟨exit, consumed, between, same, awaiter, task, outcome, settled, callback⟩ :=
    waited_cleanup call boundary bridge
  have forward : Forward between (cleanup call exit consumed between) :=
    cleanup_forward exit consumed fun other => by simp [awaiter, here]
  rw [same]
  refine ⟨?_, ?_, fun _ => ?_, ?_, ?_, ?_⟩
  · exact task ▸ forward.task
  · exact outcome ▸ forward.outcome
  · exact forward.entered (by simp [awaiter, here])
  · exact settled ▸ forward.settled
  · exact fun ⟨other, finished⟩ => by simp [here] at finished
  · exact task ▸ callback ▸ forward.callback

theorem detached_forward (here : bridge.awaiter = .cleaning exit) :
    Forward bridge (detached call exit bridge) := by
  have running : (∃ other, bridge.awaiter = .finished other) →
      ∃ other, (detached call exit bridge).awaiter = .finished other :=
    fun ⟨other, finished⟩ => by simp [here] at finished
  cases requested : bridge.cancelRequested <;> cases task : bridge.task <;>
    exact ⟨by simp [detached, requested, task], by simp [detached, requested, task],
      by simp [detached, requested, task], by simp [detached, requested, task], running,
      by simp [detached, requested, task]⟩

theorem Turn.forward {label : BridgeLabel V E} {after : Bridge V E}
    (turn : Turn call bridge label after) : Forward bridge after := by
  cases turn with
  | idle => exact .refl bridge
  | enter failure here =>
    cases failure with
    | none => exact ⟨id, id, nofun, id, by simp [here], fun _ => id⟩
    | some error => exact cleanup_forward _ false (by simp [here])
  | wait _ boundary here => exact waited_forward boundary here
  | clean _ _ exit here => exact detached_forward exit here
  | settle => exact ⟨fun _ => rfl, id, id, id, id, fun _ => id⟩
  | workerEnds => exact ⟨id, fun _ => rfl, id, id, id, fun _ => id⟩
  | deliver =>
    unfold SyncBridge.deliver
    dsimp only
    split
    · rw [handBackDiscarded_spec]
      exact ⟨id, id, id, fun _ => rfl, id, fun _ => id⟩
    · exact ⟨fun _ => rfl, id, id, fun _ => rfl, id, fun _ => id⟩
  | signal => exact ⟨id, id, id, id, id, fun _ => id⟩
  | doneCallback =>
    rw [consumeAndHandBack_spec]
    exact ⟨id, id, id, id, id, fun _ _ => rfl⟩

theorem nextBridge_forward (label : BridgeLabel V E) :
    Forward bridge (nextBridge call bridge label) :=
  (nextBridge_turn call bridge label).forward

def Ended (call : Call E) (bridge : Bridge V E) : Prop :=
  Kept call bridge ∧ (producedBy call bridge).isSome = true

def Entered (call : Call E) (bridge : Bridge V E) : Prop :=
  Ended call bridge ∧ bridge.awaiter ≠ .entering

def Settled (call : Call E) (bridge : Bridge V E) : Prop :=
  Entered call bridge ∧ (call.kind = .worker → bridge.settled = true)

def Finished (call : Call E) (bridge : Bridge V E) : Prop :=
  Settled call bridge ∧ ∃ exit, bridge.awaiter = .finished exit

def Rested (call : Call E) (bridge : Bridge V E) : Prop :=
  Finished call bridge ∧ bridge.doneCallback = false

theorem Ended.next (ended : Ended call bridge) (label : BridgeLabel V E) :
    Ended call (nextBridge call bridge label) := by
  have forward : Forward bridge (nextBridge call bridge label) := nextBridge_forward label
  refine ⟨nextBridge_kept ended.1 label, ?_⟩
  have produced := ended.2
  unfold producedBy at produced ⊢
  cases kind : call.kind with
  | native => exact forward.task (by simpa [kind] using produced)
  | worker => exact forward.outcome (by simpa [kind] using produced)

theorem Entered.next (entered : Entered call bridge) (label : BridgeLabel V E) :
    Entered call (nextBridge call bridge label) :=
  ⟨entered.1.next label, (nextBridge_forward label).entered entered.2⟩

theorem Settled.next (settled : Settled call bridge) (label : BridgeLabel V E) :
    Settled call (nextBridge call bridge label) :=
  ⟨settled.1.next label, fun worker => (nextBridge_forward label).settled (settled.2 worker)⟩

theorem Finished.next (finished : Finished call bridge) (label : BridgeLabel V E) :
    Finished call (nextBridge call bridge label) :=
  ⟨finished.1.next label, (nextBridge_forward label).finished finished.2⟩

theorem Ended.entered (ended : Ended call bridge) (failure : Option E) :
    Entered call (nextBridge call bridge (.enter failure)) := by
  refine ⟨ended.next _, ?_⟩
  dsimp only [nextBridge]
  cases here : bridge.awaiter with
  | entering =>
    cases failure with
    | none => simp [enter]
    | some error =>
      rcases cleanup_awaiter call bridge (.refused error) false with after | after <;>
        simp [enter, after]
  | waiting => simp [here]
  | cleaning exit => simp [here]
  | finished exit => simp [here]

theorem Entered.settled (entered : Entered call bridge) :
    Settled call (nextBridge call bridge .deliver) := by
  refine ⟨entered.next _, fun worker => ?_⟩
  have produced := entered.1.2
  simp only [producedBy, worker] at produced
  obtain ⟨outcome, left⟩ := Option.isSome_iff_exists.mp produced
  simp only [nextBridge, left]
  split
  next settled => exact settled
  · unfold deliver
    dsimp only
    split
    · rw [handBackDiscarded_spec]
    · rfl

theorem Settled.task (settled : Settled call bridge) : bridge.task.isSome = true := by
  have produced := settled.1.1.2
  have kept := settled.1.1.1
  cases kind : call.kind with
  | native => simpa [producedBy, kind] using produced
  | worker =>
    simp only [producedBy, kind] at produced
    have whereabouts := kept.whereabouts
    have done := settled.2 kind
    cases whereabouts with
    | ahead _ _ delivered => simp [delivered kind, done, produced]
    | answered _ _ task => simp [task]
    | discarded _ _ _ _ task => simp [task]
    | abandoned _ _ _ _ task => simp [task]
    | cleaned _ _ native => simp [kind] at native
    | watched _ _ native => simp [kind] at native
    | unheld native => simp [kind] at native

theorem Settled.finished (settled : Settled call bridge) (timedOut : Bool) (boundary : Option E) :
    Finished call (nextBridge call bridge (.awake timedOut boundary)) := by
  refine ⟨settled.next _, ?_⟩
  have task := settled.task
  dsimp only [nextBridge, awake]
  cases here : bridge.awaiter with
  | entering => exact absurd here settled.1.2
  | waiting =>
    dsimp only
    rw [if_pos (by simp [task])]
    obtain ⟨exit, consumed, between, same, -, done, -⟩ := waited_cleanup call boundary bridge
    rw [same]
    exact ⟨exit, cleanup_finished call between exit consumed (done ▸ task)⟩
  | cleaning exit =>
    have watched : watchedDone call bridge = true := by
      unfold watchedDone
      cases kind : call.kind with
      | native => exact task
      | worker => exact settled.2 kind
    dsimp only
    rw [if_pos (by simp [watched])]
    obtain ⟨outcome, ended⟩ := Option.isSome_iff_exists.mp task
    unfold detached
    cases bridge.cancelRequested <;> simp [ended]
  | finished exit => exact ⟨exit, here⟩

theorem Finished.rested (finished : Finished call bridge) :
    Rested call (nextBridge call bridge .doneCallback) := by
  refine ⟨finished.next .doneCallback, ?_⟩
  obtain ⟨outcome, task⟩ := Option.isSome_iff_exists.mp finished.1.task
  cases left : bridge.doneCallback <;> simp [nextBridge, task, left]

theorem Rested.next (rested : Rested call bridge) (label : BridgeLabel V E) :
    Rested call (nextBridge call bridge label) :=
  ⟨rested.1.next label, (nextBridge_forward label).callback rested.1.1.task rested.2⟩

-- Once the callee has ended, what the loop has left to do brings the bridge to rest, whatever comes
-- between.
theorem remaining_quiet (kept : Kept call bridge) (ended : (producedBy call bridge).isSome = true)
    {failure boundary : Option E} {timedOut : Bool} {later : List (BridgeLabel V E)}
    (remaining : [.enter failure, .deliver, .awake timedOut boundary,
    .doneCallback].Sublist later) :
    Quiet call ((awaitAbandonableCall call).exec bridge later) := by
  simp only [List.cons_sublist_iff] at remaining
  obtain ⟨entering, _, rfl, enters, delivering, _, rfl, delivers, awaking, _, rfl, awakes, calling,
    last, rfl, calls, -⟩ := remaining
  simp only [Machine.exec_append]
  have entered := (awaitAbandonableCall call).exec_turns (Ended call) (Entered call)
    (.enter failure) (fun _ label ended => ended.next label)
    (fun _ label entered => entered.next label) (fun _ ended => ended.entered failure)
    ⟨kept, ended⟩ enters
  have settled := (awaitAbandonableCall call).exec_turns (Entered call) (Settled call) .deliver
    (fun _ label entered => entered.next label) (fun _ label settled => settled.next label)
    (fun _ entered => entered.settled) entered delivers
  have finished := (awaitAbandonableCall call).exec_turns (Settled call) (Finished call)
    (.awake timedOut boundary) (fun _ label settled => settled.next label)
    (fun _ label finished => finished.next label)
    (fun _ settled => settled.finished timedOut boundary) settled awakes
  have rested := (awaitAbandonableCall call).exec_turns (Finished call) (Rested call)
    .doneCallback (fun _ label finished => finished.next label)
    (fun _ label rested => rested.next label) (fun _ finished => finished.rested) finished calls
  have atRest := (awaitAbandonableCall call).exec_invariant (Rested call)
    (fun _ label rested => rested.next label) _ rested last
  exact ⟨atRest.1.2, atRest.2, atRest.1.1.2⟩

end Progress

section Runs

variable (call : Call E)

def bridgeAfter (labels : List (BridgeLabel V E)) : Bridge V E :=
  (awaitAbandonableCall call).exec (awaitAbandonableCall call).init labels

theorem bridgeAfter_append (earlier later : List (BridgeLabel V E)) :
    bridgeAfter call (earlier ++ later) =
      (awaitAbandonableCall call).exec (bridgeAfter call earlier) later :=
  (awaitAbandonableCall call).exec_append _ earlier later

variable (labels : List (BridgeLabel V E))

theorem bridgeAfter_last (label : BridgeLabel V E) :
    bridgeAfter call (labels ++ [label]) = nextBridge call (bridgeAfter call labels) label :=
  bridgeAfter_append call labels [label]

theorem init_kept : Kept call ({} : Bridge V E) := by
  refine ⟨.ahead (.inl rfl) ⟨rfl, rfl, rfl⟩ fun _ => rfl, ⟨rfl, rfl⟩, ?_, ?_⟩
  · intro settled; cases settled
  · intro ended; cases ended

theorem bridgeAfter_kept : Kept call (bridgeAfter call labels) :=
  (awaitAbandonableCall call).exec_invariant (Kept call)
    (fun _ label kept => nextBridge_kept kept label) _ (init_kept call) labels

theorem unheld_iff :
    Unheld call (bridgeAfter call labels) ↔
      ∃ earlier timedOut boundary later, labels = earlier ++ .awake timedOut boundary :: later ∧
        InterruptsCleanup call (bridgeAfter call earlier) := by
  constructor
  · induction labels using List.reverseRecOn with
    | nil => intro unheld; exact absurd unheld.here (by simp [bridgeAfter, awaitAbandonableCall])
    | append_singleton labels label ih =>
      intro after
      by_cases before : Unheld call (bridgeAfter call labels)
      · obtain ⟨earlier, timedOut, boundary, later, rfl, interrupts⟩ := ih before
        exact ⟨earlier, timedOut, boundary, later ++ [label], by simp, interrupts⟩
      · rw [bridgeAfter_last] at after
        obtain ⟨⟨timedOut, boundary, rfl⟩, interrupts⟩ :=
          (nextBridge_turn call _ label).arises (bridgeAfter_kept call labels) before after
        exact ⟨labels, timedOut, boundary, [], rfl, interrupts⟩
  · rintro ⟨earlier, timedOut, boundary, later, rfl, interrupts⟩
    rw [bridgeAfter_append]
    have kept := bridgeAfter_kept call earlier
    exact ((awaitAbandonableCall call).exec_invariant
      (fun bridge => Kept call bridge ∧ Unheld call bridge)
      (fun _ label held => ⟨nextBridge_kept held.1 label, unheld_next held.1 held.2 label⟩) _
      ⟨nextBridge_kept kept (.awake timedOut boundary),
        interrupts_unheld kept interrupts timedOut boundary⟩ later).2

-- A token is cancelled, the host cancels the awaiter during the cleanup, and the callee, which
-- swallowed its cancellation, still ends in a value.
def swallowedThenLate : List (BridgeLabel Nat Unit) :=
  [.enter none, .cancelToken none, .awake false none, .cancelAwaiter, .awake false none,
    .settle (.value (some 7))]

end Runs

end MonoidKernel.SyncBridge
