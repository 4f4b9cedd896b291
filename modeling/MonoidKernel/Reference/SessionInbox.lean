import MonoidKernel.Loop.ClosingRuns
import MonoidKernel.Reference.SessionDrive

set_option autoImplicit false

namespace MonoidKernel.SessionDrive

open Library AgentLoop
open Library.Piece (Keeps)

section Talking

-- Neither the pending input nor the log has moved since `before`, in the loop and in the
-- checkpoints it has committed on the way.
structure Unspoken (before loop : Activation) : Prop where
  input : loop.state.pendingUserInput = before.state.pendingUserInput
  log : loop.state.messages = before.state.messages
  commits : ∀ checkpoint ∈ loop.durable.checkpoints.drop before.durable.checkpoints.length,
    checkpoint.state.pendingUserInput = before.state.pendingUserInput ∧
      checkpoint.state.messages = before.state.messages

theorem Unspoken.start (loop : Activation) : Unspoken loop loop := by
  constructor
  · rfl
  · rfl
  · simp

variable {before loop : Activation}

theorem Unspoken.same {after : Activation} (unspoken : Unspoken before loop)
    (input : after.state.pendingUserInput = loop.state.pendingUserInput)
    (log : after.state.messages = loop.state.messages)
    (commits : after.durable.checkpoints = loop.durable.checkpoints) : Unspoken before after where
  input := input.trans unspoken.input
  log := log.trans unspoken.log
  commits := by
    rw [commits]
    exact unspoken.commits

theorem Unspoken.stored (unspoken : Unspoken before loop) : Unspoken before (stored loop) where
  input := unspoken.input
  log := unspoken.log
  commits := by
    intro checkpoint listed
    simp only [AgentLoop.stored, List.drop_append] at listed
    rcases List.mem_append.mp listed with earlier | last
    · exact unspoken.commits checkpoint earlier
    · cases List.mem_singleton.mp (List.mem_of_mem_drop last)
      exact ⟨unspoken.input, unspoken.log⟩

theorem Unspoken.dropCheckpoints (unspoken : Unspoken before loop) :
    Unspoken before (dropCheckpoints loop) := by
  unfold AgentLoop.dropCheckpoints
  split
  · exact ⟨unspoken.input, unspoken.log, by simp⟩
  · exact unspoken

theorem observed_unspoken (unspoken : Unspoken before loop) (suspension : Option Suspension) :
    Unspoken before (numbered (observed suspension loop)) := by
  cases suspension with
  | none => exact unspoken.same rfl rfl rfl
  | some suspension => exact unspoken.same rfl rfl rfl

abbrev Silent {A : Type} (before : Activation) (piece : Phase A) : Prop :=
  piece.Keeps (Unspoken before)

theorem Silent.update {change : Activation → Activation}
    (input : ∀ loop, (change loop).state.pendingUserInput = loop.state.pendingUserInput)
    (log : ∀ loop, (change loop).state.messages = loop.state.messages)
    (commits : ∀ loop, (change loop).durable.checkpoints = loop.durable.checkpoints) :
    Silent before (Piece.update change) :=
  Keeps.update fun loop unspoken =>
    unspoken.same (input loop) (log loop) (commits loop)

theorem persistCheckpoint_silent (suspension : Option Suspension) (answer : CommitAnswer) :
    Silent before (persistCheckpoint suspension answer) := by
  refine Keeps.read fun prior => ?_
  cases answer with
  | refused => exact Keeps.pure
  | committed =>
    exact Keeps.update fun loop unspoken => (observed_unspoken unspoken suspension).stored
  | declined => exact Keeps.update fun loop unspoken => observed_unspoken unspoken suspension
  | failed kept =>
    refine Keeps.change (fun loop unspoken => ?_) Keeps.leave
    have tried := observed_unspoken unspoken suspension
    cases kept with
    | true => exact tried.stored.same rfl rfl rfl
    | false => exact tried.same rfl rfl rfl

theorem park_silent (suspension : Activation → Suspension) (commit : CommitAnswer) :
    Silent before (AgentLoop.park suspension commit) :=
  Keeps.read fun _ =>
    Keeps.bind (persistCheckpoint_silent _ _) fun _ => Keeps.pure

theorem settleDeadline_silent (projection : Option Raised) (commit : CommitAnswer) :
    Silent before (settleDeadline projection commit) :=
  Keeps.bind (Silent.update (fun _ => rfl) (fun _ => rfl) fun _ => rfl) fun _ =>
    Keeps.bind Keeps.leaveIf fun _ => park_silent _ _

theorem wayOut_silent {first second : Activation → Activation}
    (firstSilent : Silent before (Piece.update first))
    (secondSilent : Silent before (Piece.update second)) (projection : Option Raised)
    (suspension : Activation → Suspension) (commit : CommitAnswer) :
    Silent before (do
      Piece.update first
      Piece.leaveIf projection
      Piece.update second
      AgentLoop.park suspension commit) :=
  Keeps.bind firstSilent fun _ => Keeps.bind Keeps.leaveIf fun _ =>
    Keeps.bind secondSilent fun _ => park_silent _ _

theorem exitCancelled_silent (cause : InterruptionCause) (script : EntryScript) :
    Silent before (exitCancelled cause script) := by
  unfold exitCancelled
  split
  · exact Keeps.bind (Silent.update (fun _ => rfl) (fun _ => rfl) fun _ => rfl) fun _ =>
      Keeps.bind Keeps.leaveIf fun _ => park_silent _ _
  · split
    · exact settleDeadline_silent _ _
    · exact Keeps.bind (Silent.update (fun _ => rfl) (fun _ => rfl) fun _ => rfl) fun _ =>
        Keeps.bind Keeps.leaveIf fun _ => park_silent _ _

theorem exitFailed_silent (error : AdapterError) (script : EntryScript) :
    Silent before (exitFailed error script) := by
  refine wayOut_silent ?_ ?_ _ _ _
  · exact Silent.update (fun _ => rfl) (fun _ => rfl) fun _ => rfl
  · exact Silent.update (fun _ => rfl) (fun _ => rfl) fun _ => rfl

theorem exitRaised_silent (spec : LoopSpec) (script : EntryScript) (raised : Raised) :
    Silent before (exitRaised spec script raised) := by
  cases raised with
  | checkpointPersist => exact Keeps.leave
  | runCancelled cause => exact exitCancelled_silent cause script
  | runTimeout => exact settleDeadline_silent _ _
  | modelAdapter error =>
    refine Keeps.ite ?_ ?_
    · refine wayOut_silent ?_ ?_ _ _ _
      · exact Silent.update (fun _ => rfl) (fun _ => rfl) fun _ => rfl
      · exact Silent.update (fun _ => rfl) (fun _ => rfl) fun _ => rfl
    · exact exitFailed_silent _ _
  | turnInterrupted =>
    refine wayOut_silent ?_ ?_ _ _ _
    · exact Silent.update (fun _ => rfl) (fun _ => rfl) fun _ => rfl
    · exact Silent.update (fun _ => rfl) (fun _ => rfl) fun _ => rfl
  | turnPaused =>
    refine wayOut_silent ?_ ?_ _ _ _
    · exact Silent.update (fun _ => rfl) (fun _ => rfl) fun _ => rfl
    · exact Silent.update (fun _ => rfl) (fun _ => rfl) fun _ => rfl
  | other message errorCode => exact exitFailed_silent _ _
  | control => exact Keeps.leave
  | lost => exact Keeps.leave

theorem endSpentSession_same (loop : Activation) :
    (endSpentSession loop).state = loop.state ∧ (endSpentSession loop).durable = loop.durable := by
  unfold endSpentSession
  split <;> exact ⟨rfl, rfl⟩

theorem conclude_silent (script : EntryScript) (suspension : Suspension) :
    Silent before (conclude script suspension) := by
  unfold conclude
  refine Keeps.ite ?_ ?_
  · split
    · exact Keeps.bind Keeps.leaveIf fun _ => park_silent _ _
    · exact park_silent _ _
  · refine Keeps.bind (Silent.update ?_ ?_ ?_) fun _ =>
      Keeps.bind Keeps.leaveIf fun _ => park_silent _ _
    · exact fun loop => by rw [(endSpentSession_same loop).1]
    · exact fun loop => by rw [(endSpentSession_same loop).1]
    · exact fun loop => by rw [(endSpentSession_same loop).2]

theorem endPump_silent (spec : DriveSpec) (way : PumpEnd) (script : EntryScript) :
    Silent before (endPump spec way script) := by
  cases way with
  | returned suspension => exact conclude_silent script suspension
  | raised raised => exact exitRaised_silent spec.loop script raised

theorem failRecoverable_silent (message errorCode : String) (commit : CommitAnswer) :
    Silent before (failRecoverable message errorCode commit) :=
  Keeps.bind (Silent.update (fun _ => rfl) (fun _ => rfl) fun _ => rfl) fun _ =>
    Keeps.bind (Silent.update (fun _ => rfl) (fun _ => rfl) fun _ => rfl) fun _ =>
      Keeps.bind (park_silent _ _) fun _ => Keeps.pure

theorem close_silent (commit : CommitAnswer) (finalize : Option Raised) :
    Silent before (close commit finalize) := by
  refine Keeps.bind ?_ fun _ => Keeps.bind ?_ fun _ => Keeps.bind ?_ fun _ =>
    Keeps.bind Keeps.leaveIf fun _ =>
      Keeps.bind (Keeps.update fun _ => Unspoken.dropCheckpoints) fun _ =>
        Keeps.read fun _ => Keeps.pure
  · refine Keeps.read fun loop => ?_
    split
    · exact Keeps.pure
    · refine Keeps.ite Keeps.pure (Keeps.ite ?_ ?_)
      · exact Keeps.bind (settleDeadline_silent _ _) fun _ => Keeps.pure
      · exact Keeps.bind (Silent.update (fun _ => rfl) (fun _ => rfl) fun _ => rfl) fun _ =>
          Keeps.bind (park_silent _ _) fun _ => Keeps.pure
  · refine Keeps.read fun loop => ?_
    split
    · exact Keeps.pure
    · exact Keeps.ite Keeps.pure (failRecoverable_silent _ _ _)
  · refine Keeps.read fun loop => ?_
    split
    · exact Keeps.pure
    · refine Keeps.ite Keeps.pure ?_
      exact Keeps.bind (Silent.update (fun _ => rfl) (fun _ => rfl) fun _ => rfl) fun _ =>
        Keeps.bind (park_silent _ _) fun _ => Keeps.pure

theorem Silent.after {A : Type} {piece : Phase A} (silent : ∀ before, Silent before piece)
    (loop : Activation) : Unspoken loop (piece loop).2 := by
  have ends := silent loop loop (Unspoken.start loop)
  unfold Piece.Ends at ends
  split at ends
  next value after outcome => rw [outcome]; exact ends
  next raised after outcome => rw [outcome]; exact ends

end Talking

section Inbox

-- What was submitted is in the log, in its order, but for the input that still waits for it. An
-- input without a text has no entry in the log.
def Conversation (submitted : List InboxMessage) (state : RunState) : Prop :=
  ∃ logged, submitted.map (·.content) = logged ++ state.pendingUserInput.toList ∧
    (logged.filterMap userMessageFromParts).Sublist state.messages

def deliveredIds (submitted : List InboxMessage) : List String :=
  (submitted.map (·.id)).filter fun id => !id.isEmpty

structure InboxHolds (queued : List InboxMessage) (seen : List String) (state : RunState)
    (story : Story) : Prop where
  queue : story.enqueued = story.taken ++ queued
  order : story.submitted.Sublist story.taken
  dropped : ∀ message ∈ story.taken, message ∈ story.submitted ∨
    message.id ∈ deliveredIds story.submitted
  seen : ∀ id, id ∈ seen ↔ id ∈ deliveredIds story.submitted
  once : (deliveredIds story.submitted).Nodup
  conversation : Conversation story.submitted state

def Session.Holds (session : Session) : Prop :=
  InboxHolds (queuedMessageSnapshot session.queue) session.seenInboxIds session.loop.state
    session.story

def Saved.Holds (saved : Saved) : Prop :=
  InboxHolds saved.queuedMessages saved.inboxSeenIds saved.checkpoint.state saved.story

variable {submitted : List InboxMessage}

theorem Conversation.grow {state later : RunState} (talked : Conversation submitted state)
    (input : later.pendingUserInput = state.pendingUserInput)
    (log : state.messages <+: later.messages) : Conversation submitted later := by
  obtain ⟨logged, all, listed⟩ := talked
  refine ⟨logged, ?_, listed.trans log.sublist⟩
  rw [input]
  exact all

theorem Conversation.logUserInput {loop : Activation} (talked : Conversation submitted loop.state) :
    Conversation submitted (logUserInput loop).state := by
  obtain ⟨logged, all, listed⟩ := talked
  unfold AgentLoop.logUserInput
  cases pending : loop.state.pendingUserInput with
  | none =>
    refine ⟨logged, ?_, listed⟩
    rw [all, pending]
  | some input =>
    refine ⟨logged ++ [input], ?_, ?_⟩
    · simp [all, pending, appendMessages]
    · rw [List.filterMap_append]
      exact List.Sublist.append listed
        (by cases entry : userMessageFromParts input <;> simp [entry])

theorem Conversation.submit {state later : RunState} (talked : Conversation submitted state)
    (quiet : state.pendingUserInput = none) {message : InboxMessage}
    (input : later.pendingUserInput = some message.content)
    (log : later.messages = state.messages) : Conversation (submitted ++ [message]) later := by
  obtain ⟨logged, all, listed⟩ := talked
  refine ⟨logged, ?_, ?_⟩
  · rw [quiet] at all
    simp [all, input]
  · rw [log]
    exact listed

variable {session : Session}

theorem Session.Holds.same {other : Session} (holds : session.Holds)
    (queue : queuedMessageSnapshot other.queue = queuedMessageSnapshot session.queue)
    (seen : other.seenInboxIds = session.seenInboxIds) (story : other.story = session.story)
    (input : other.loop.state.pendingUserInput = session.loop.state.pendingUserInput)
    (log : session.loop.state.messages <+: other.loop.state.messages) : other.Holds := by
  unfold Session.Holds at *
  rw [queue, seen, story]
  exact { holds with conversation := holds.conversation.grow input log }

theorem Session.Holds.saved (holds : session.Holds) {checkpoint : AgentLoop.RunCheckpoint}
    (input : checkpoint.state.pendingUserInput = session.loop.state.pendingUserInput)
    (log : checkpoint.state.messages = session.loop.state.messages) :
    (session.saved checkpoint).Holds :=
  { holds with conversation := holds.conversation.grow input (log.symm ▸ List.prefix_rfl) }

theorem Session.Holds.enqueue (holds : session.Holds) (message : InboxMessage) :
    (enqueue session message).Holds :=
  { holds with
    queue := by
      simp [SessionDrive.enqueue, queuedMessageSnapshot, queuedMessage, List.filterMap_append,
        holds.queue] }

end Inbox

section Safety

def Backend.savedEnqueued (backend : Backend) : List InboxMessage :=
  (backend.saved.map (·.story.enqueued)).getD []

structure InboxSafe (backend : Backend) : Prop where
  session : ∀ session, backend.session = some session → session.wait.isEnded = false →
    session.Holds ∧ backend.owed.Sublist session.story.enqueued
  saved : ∀ saved, backend.saved = some saved → saved.Holds
  away : backend.session = none → backend.owed.Sublist backend.savedEnqueued

structure Ready (backend : Backend) (session : Session) : Prop where
  holds : session.Holds
  owed : backend.owed.Sublist session.story.enqueued
  saved : ∀ saved, backend.saved = some saved → saved.Holds
  covered : backend.unsaved = [] → backend.owed.Sublist backend.savedEnqueued

structure Kept (backend : Backend) : Prop extends InboxSafe backend where
  covered : backend.unsaved = [] → backend.owed.Sublist backend.savedEnqueued

variable {backend : Backend} {session : Session}

theorem Kept.ready (kept : Kept backend) (held : backend.session = some session)
    (running : session.wait.isEnded = false) : Ready backend session where
  holds := (kept.session session held running).1
  owed := (kept.session session held running).2
  saved := kept.saved
  covered := kept.covered

theorem Ready.hold (ready : Ready backend session) : Kept (backend.hold session) where
  session := by
    intro other held running
    cases held
    exact ⟨ready.holds, ready.owed⟩
  saved := ready.saved
  away none := by cases none
  covered := ready.covered

theorem Ready.fail (ready : Ready backend session) (ended : Session) :
    Kept (backend.fail ended) where
  session := by
    intro other held running
    cases held
    cases running
  saved := ready.saved
  away none := by cases none
  covered _ := List.nil_sublist _

theorem Ready.other (ready : Ready backend session) {other : Session} (holds : other.Holds)
    (story : other.story.enqueued = session.story.enqueued) : Ready backend other where
  holds := holds
  owed := by
    rw [story]
    exact ready.owed
  saved := ready.saved
  covered := ready.covered

theorem Ready.same (ready : Ready backend session) {other : Session}
    (queue : queuedMessageSnapshot other.queue = queuedMessageSnapshot session.queue)
    (seen : other.seenInboxIds = session.seenInboxIds) (story : other.story = session.story)
    (input : other.loop.state.pendingUserInput = session.loop.state.pendingUserInput)
    (log : session.loop.state.messages <+: other.loop.state.messages) : Ready backend other :=
  ready.other (ready.holds.same queue seen story input log) (congrArg Story.enqueued story)

theorem Ready.unspoken (ready : Ready backend session) {after : Activation}
    (unspoken : Unspoken session.loop after) : Ready backend { session with loop := after } :=
  ready.same rfl rfl rfl unspoken.input (unspoken.log.symm ▸ List.prefix_rfl)

theorem Ready.commit (ready : Ready backend session) {checkpoint : AgentLoop.RunCheckpoint}
    (input : checkpoint.state.pendingUserInput = session.loop.state.pendingUserInput)
    (log : checkpoint.state.messages = session.loop.state.messages) :
    Ready (backend.commit (session.saved checkpoint)) session where
  holds := ready.holds
  owed := ready.owed
  saved := by
    intro saved held
    cases held
    exact ready.holds.saved input log
  covered _ := ready.owed

theorem Ready.persist (ready : Ready backend session) (store : StoreAnswer) :
    Ready (backend.persist session store).1 session := by
  unfold Backend.persist
  split
  · exact ready
  · cases store with
    | committed => exact ready.commit rfl rfl
    | failed kept =>
      cases kept with
      | true => exact ready.commit rfl rfl
      | false => exact ready

theorem Ready.adopt (ready : Ready backend session) {after : Activation}
    (unspoken : Unspoken session.loop after) : Ready (backend.adopt session after) session := by
  unfold Backend.adopt
  split
  next checkpoint last =>
    have heard := unspoken.commits checkpoint (List.mem_of_getLast? last)
    exact ready.commit heard.1 heard.2
  · exact ready

end Safety

section Steps

variable {spec : DriveSpec} {backend : Backend} {session : Session}

theorem acceptInput_formed {input : UserInput} (formed : input.malformed = false)
    (loop : Activation) :
    acceptInput (some input) loop = (.ok (), { resetSubmit loop with
      state.pendingUserInput := some input
      session.submitLocalStep := 0 }) := by
  simp only [acceptInput, formed]
  rfl

theorem entered_unspoken (spec : LoopSpec) (input : Option UserInput) (loop : Activation) :
    Unspoken loop (leavePark (abandonRecovery spec input loop)) := by
  unfold abandonRecovery
  split <;> exact (Unspoken.start loop).same rfl rfl rfl

theorem enter_cases (spec : DriveSpec) (backend : Backend) (session : Session)
    (input : Option UserInput) :
    (∃ ended, enter spec backend session input = backend.fail ended) ∨
      ∃ after, enter spec backend session input =
          backend.hold { session with loop := after, wait := .pump } ∧
        after.state.pendingUserInput = (input <|> session.loop.state.pendingUserInput) ∧
        after.state.messages = session.loop.state.messages := by
  unfold enter
  split
  · exact .inl ⟨_, rfl⟩
  · have left := entered_unspoken spec.loop input session.loop
    cases input with
    | none => exact .inr ⟨_, rfl, left.input, left.log⟩
    | some input =>
      cases formed : input.malformed with
      | true =>
        exact .inl ⟨_, by rw [acceptInput_malformed formed]⟩
      | false =>
        refine .inr ⟨_, by rw [acceptInput_formed formed], rfl, ?_⟩
        exact left.log

theorem Ready.closing (ready : Ready backend session) : Kept (closing backend session) :=
  Ready.hold (ready.same rfl rfl rfl rfl List.prefix_rfl)

theorem Ready.parkAt (ready : Ready backend session) (wait : Wait) (store : StoreAnswer) :
    Kept (parkAt backend session wait store) := by
  have persisted := ready.persist store
  unfold SessionDrive.parkAt
  split
  next after same =>
    rw [same] at persisted
    exact Ready.hold (persisted.same rfl rfl rfl rfl List.prefix_rfl)
  next after same =>
    rw [same] at persisted
    exact persisted.fail session

theorem Ready.giveUp (ready : Ready backend session) (suspension : Suspension) (message : String)
    (store : StoreAnswer) : Kept (giveUp backend session suspension message store) := by
  unfold SessionDrive.giveUp
  have unspoken := Silent.after (fun _ => failRecoverable_silent
    (errorCodeOr suspension.error message) (errorCodeOr suspension.errorCode "model_error")
    (session.commitAnswer store)) session.loop
  split
  next raised after outcome =>
    rw [outcome] at unspoken
    exact (ready.adopt unspoken).fail _
  next after outcome =>
    rw [outcome] at unspoken
    exact ((ready.adopt unspoken).unspoken unspoken).closing

theorem Ready.drive (ready : Ready backend session) (suspension : Suspension)
    (script : DriveScript) : Kept (drive spec backend session suspension script) := by
  have counted (failures : Nat) :
      Ready backend { session with consecutiveTurnFailures := failures } :=
    ready.same rfl rfl rfl rfl List.prefix_rfl
  unfold SessionDrive.drive
  split
  · exact ready.closing
  · exact ready.closing
  · exact ready.parkAt _ _
  · split; exacts [ready.closing, ready.parkAt _ _]
  · dsimp only
    split
    · exact (counted _).giveUp _ _ _
    · split
      · exact (counted _).parkAt _ _
      · split; exacts [(counted _).giveUp _ _ _, (counted _).parkAt _ _]
  · split; exacts [ready.closing, ready.parkAt _ _]
  · dsimp only; split; exacts [(counted _).closing, (counted _).parkAt _ _]

theorem Ready.resume (ready : Ready backend session) :
    Kept (enter spec backend session none) := by
  rcases enter_cases spec backend session none with ⟨ended, failed⟩ | ⟨after, entered, input, log⟩
  · rw [failed]
    exact ready.fail ended
  · rw [entered]
    exact Ready.hold (ready.same rfl rfl rfl input (log.symm ▸ List.prefix_rfl))

theorem deliveredIds_append (submitted : List InboxMessage) (message : InboxMessage) :
    deliveredIds (submitted ++ [message]) =
      deliveredIds submitted ++ if message.id.isEmpty then [] else [message.id] := by
  cases named : message.id.isEmpty <;> simp [deliveredIds, List.filter_append, named]

theorem deliveredIds_named {submitted : List InboxMessage} {id : String}
    (delivered : id ∈ deliveredIds submitted) : id.isEmpty = false := by
  simpa using (List.mem_filter.mp delivered).2

variable {message : InboxMessage} {rest : List Item}

theorem Ready.submit (ready : Ready backend session)
    (queued : session.queue = .message message :: rest)
    (fresh : isRedelivery session message = false)
    (quiet : session.loop.state.pendingUserInput = none) :
    Kept (submit spec backend session message rest) := by
  unfold SessionDrive.submit
  rcases enter_cases spec backend _ _ with ⟨ended, failed⟩ | ⟨after, entered, input, log⟩
  · rw [failed]
    exact ready.fail ended
  · rw [entered]
    have holds := ready.holds
    have undelivered : message.id ∉ deliveredIds session.story.submitted := by
      intro delivered
      have named := deliveredIds_named delivered
      rw [← holds.seen] at delivered
      simp [isRedelivery, named, delivered] at fresh
    refine Ready.hold (ready.other ?_ rfl)
    constructor
    · simp [holds.queue, queued, queuedMessageSnapshot, queuedMessage]
    · exact List.Sublist.append holds.order (List.Sublist.refl _)
    · intro other taken
      rw [deliveredIds_append]
      rcases List.mem_append.mp taken with earlier | last
      · rcases holds.dropped other earlier with submitted | delivered
        · exact .inl (List.mem_append_left _ submitted)
        · exact .inr (List.mem_append_left _ delivered)
      · exact .inl (List.mem_append_right _ last)
    · intro id
      rw [deliveredIds_append, List.mem_append, ← holds.seen]
      cases message.id.isEmpty <;> simp [or_comm]
    · rw [deliveredIds_append]
      cases named : message.id.isEmpty with
      | true => simpa [named] using holds.once
      | false =>
        simp only [Bool.false_eq_true, if_false]
        exact List.nodup_append.mpr ⟨holds.once, List.nodup_singleton _, by
          intro id delivered other listed same
          rw [List.mem_singleton.mp listed] at same
          exact undelivered (same ▸ delivered)⟩
    · exact holds.conversation.submit quiet input log

theorem Ready.redelivered (ready : Ready backend session)
    (queued : session.queue = .message message :: rest)
    (known : isRedelivery session message = true) :
    Kept (backend.hold { session with
      queue := rest
      story := { session.story with taken := session.story.taken ++ [message] } }) := by
  have holds := ready.holds
  have delivered : message.id ∈ deliveredIds session.story.submitted := by
    rw [← holds.seen]
    simp only [isRedelivery, Bool.and_eq_true, decide_eq_true_eq] at known
    exact known.2
  refine Ready.hold (ready.other { holds with queue := ?_, order := ?_, dropped := ?_ } rfl)
  · simp [holds.queue, queued, queuedMessageSnapshot, queuedMessage]
  · exact holds.order.trans (List.sublist_append_left _ _)
  · intro other taken
    rcases List.mem_append.mp taken with earlier | last
    · exact holds.dropped other earlier
    · rw [List.mem_singleton.mp last]
      exact .inr delivered

theorem Ready.signalTaken (ready : Ready backend session) {signal : Item}
    (queued : session.queue = signal :: rest) (noMessage : queuedMessage signal = none) :
    Ready backend { session with queue := rest } :=
  ready.same (by simp [queued, queuedMessageSnapshot, noMessage]) rfl rfl rfl List.prefix_rfl

theorem Ready.putBack (ready : Ready backend session)
    (queued : session.queue = .message message :: rest) (alone : queuedMessageSnapshot rest = []) :
    Ready backend { session with queue := rest ++ [.message message] } := by
  refine ready.same ?_ rfl rfl rfl List.prefix_rfl
  have same : queuedMessageSnapshot (rest ++ [.message message]) =
      queuedMessageSnapshot rest ++ [message] := by
    simp [queuedMessageSnapshot, List.filterMap_append, queuedMessage]
  rw [same, alone, queued]
  unfold queuedMessageSnapshot at alone ⊢
  rw [List.filterMap_cons, alone]
  rfl

-- When a step of the driver or of the process delivers what was promised: the paused branch takes
-- no message with another one behind it, no message is submitted to a loop whose last input is not
-- in its log, and no process is lost with an acceptance that no checkpoint holds.
def Delivers (backend : Backend) : Label → Prop
  | .take => ∀ session, backend.session = some session →
      match session.wait, session.queue with
      | .signal, .message _ :: rest => queuedMessageSnapshot rest = []
      | .message, .message message :: _ => isRedelivery session message = false →
          session.loop.state.pendingUserInput = none
      | _, _ => True
  | .crash => backend.unsaved = []
  | _ => True

theorem Ready.take (ready : Ready backend session) (held : backend.session = some session)
    (delivers : Delivers backend .take) (kept : Kept backend) :
    Kept (take spec backend session) := by
  have fits := delivers session held
  unfold SessionDrive.take
  split
  next item rest waiting queued =>
    rw [waiting, queued] at fits
    cases item with
    | closeSignal => exact (ready.signalTaken queued rfl).closing
    | resumeSignal => exact (ready.signalTaken queued rfl).hold
    | message message =>
      dsimp only [takeMessage]
      split
      next known => exact ready.redelivered queued known
      next fresh =>
        have new := Bool.not_eq_true _ ▸ fresh
        exact ready.submit queued new (fits new)
  next item rest waiting queued =>
    rw [waiting, queued] at fits
    cases item with
    | closeSignal => exact (ready.signalTaken queued rfl).closing
    | resumeSignal => exact (ready.signalTaken queued rfl).resume
    | message message => exact (ready.putBack queued fits).resume
  · exact kept

theorem Ready.wake (ready : Ready backend session) (kept : Kept backend) (resumes : Bool)
    (script : DriveScript) : Kept (wake spec backend session resumes script) := by
  unfold SessionDrive.wake
  split
  · split
    · exact ready.closing
    · split; exacts [ready.resume, ready.drive _ _]
  · split; exacts [ready.closing, ready.resume]
  · exact kept

theorem Ready.idle (ready : Ready backend session) (kept : Kept backend) :
    Kept (idle backend session) := by
  unfold SessionDrive.idle
  split
  · exact ready.closing
  · exact ready.closing
  · exact kept

theorem Ready.silent (ready : Ready backend session) {A : Type} {piece : Phase A}
    (silent : ∀ before, Silent before piece) :
    Ready (backend.adopt session (piece session.loop).2)
      { session with loop := (piece session.loop).2 } :=
  have unspoken := Silent.after silent session.loop
  (ready.adopt unspoken).unspoken unspoken

theorem Ready.pumpEvent (ready : Ready backend session) (event : PumpEvent) :
    Kept (pumpEvent spec backend session event) := by
  cases event with
  | logInput =>
    exact Ready.hold (ready.other
      { ready.holds with conversation := ready.holds.conversation.logUserInput } rfl)
  | logObservations => exact Ready.hold (ready.same rfl rfl rfl rfl (List.prefix_append _ _))
  | observe observations => exact Ready.hold (ready.same rfl rfl rfl rfl List.prefix_rfl)
  | reply messages => exact Ready.hold (ready.same rfl rfl rfl rfl (List.prefix_append _ _))
  | drop => exact Ready.hold (ready.same rfl rfl rfl rfl List.prefix_rfl)
  | limit code text => exact Ready.hold (ready.same rfl rfl rfl rfl List.prefix_rfl)
  | tasks hosted localJob => exact Ready.hold (ready.same rfl rfl rfl rfl List.prefix_rfl)
  | checkpoint store =>
    dsimp only [SessionDrive.pumpEvent]
    have committed := ready.silent fun _ =>
      persistCheckpoint_silent none (session.commitAnswer store)
    split
    next raised after outcome =>
      rw [outcome] at committed
      exact committed.fail _
    next after outcome =>
      rw [outcome] at committed
      exact committed.hold

theorem Ready.park (ready : Ready backend session) (way : PumpEnd) (projection : Option Raised)
    (store : StoreAnswer) (script : DriveScript) :
    Kept (park spec backend session way projection store script) := by
  have parked := ready.silent fun _ => endPump_silent spec way
    { projection := projection, commit := session.commitAnswer store }
  unfold SessionDrive.park
  split
  next raised after outcome =>
    rw [outcome] at parked
    exact parked.fail _
  next suspension after outcome =>
    rw [outcome] at parked
    have returned : Ready (backend.adopt session after)
        { session with loop := after, found := none } :=
      parked.same rfl rfl rfl rfl List.prefix_rfl
    exact returned.drive suspension script

theorem Ready.finish (ready : Ready backend session) (store : StoreAnswer)
    (finalize : Option Raised) : Kept (finish backend session store finalize) := by
  have closed := ready.silent fun _ => close_silent (session.commitAnswer store) finalize
  unfold SessionDrive.finish
  split
  next raised after outcome =>
    rw [outcome] at closed
    exact closed.fail _
  next record after outcome =>
    rw [outcome] at closed
    constructor
    · constructor
      · intro other held running
        cases held
        cases running
      · intro saved held
        dsimp only at held
        split at held
        · cases held
        · exact closed.saved saved held
      · intro none; cases none
    · exact fun _ => List.nil_sublist _

theorem Ready.enqueue (ready : Ready backend session) (message : InboxMessage) :
    Ready backend (enqueue session message) where
  holds := ready.holds.enqueue message
  owed := ready.owed.trans (List.sublist_append_left _ _)
  saved := ready.saved
  covered := ready.covered

theorem Ready.drainOutbox (ready : Ready backend session) (receipts : List InboxMessage)
    (store : StoreAnswer) : Kept (drainOutbox spec backend session receipts store) := by
  have staged : Ready backend (receipts.foldl (stageOutboxAck spec) session) := by
    induction receipts generalizing session with
    | nil => exact ready
    | cons receipt receipts ih =>
      refine ih ?_
      unfold stageOutboxAck
      split
      · exact ready
      · exact ready.enqueue receipt
  exact (staged.persist store).hold

theorem persist_owed (backend : Backend) (session : Session) (store : StoreAnswer) :
    (backend.persist session store).1.owed = backend.owed := by
  unfold Backend.persist
  split
  · rfl
  · split <;> rfl

theorem persist_committed {store : StoreAnswer} {after : Backend}
    (crossable : session.localJob = false)
    (persisted : backend.persist session store = (after, true)) :
    after.saved = some (session.saved (snapshot session.loop)) := by
  unfold Backend.persist at persisted
  simp only [crossable, Bool.false_eq_true, if_false] at persisted
  split at persisted
  · cases persisted; rfl
  · cases persisted
  · cases persisted

theorem Ready.accept (ready : Ready backend session) (message : InboxMessage)
    {store : StoreAnswer} {after : Backend}
    (persisted : backend.persist (SessionDrive.enqueue session message) store = (after, true)) :
    Kept { after.hold (SessionDrive.enqueue session message) with
      owed := after.owed ++ [message]
      unsaved := if session.localJob then after.unsaved ++ [message] else after.unsaved } := by
  have staged := ready.enqueue message
  have promised : (backend.owed ++ [message]).Sublist
      (SessionDrive.enqueue session message).story.enqueued :=
    List.Sublist.append ready.owed (List.Sublist.refl _)
  have owed : after.owed = backend.owed := by
    have same := persist_owed backend (SessionDrive.enqueue session message) store
    rw [persisted] at same
    exact same
  have saved := staged.persist store
  rw [persisted] at saved
  constructor
  · constructor
    · intro other held running
      cases held
      exact ⟨staged.holds, owed ▸ promised⟩
    · exact saved.saved
    · intro none; cases none
  · intro empty
    cases refused : session.localJob with
    | true => simp [refused] at empty
    | false =>
      have crossable : (SessionDrive.enqueue session message).localJob = false := refused
      have committed := persist_committed crossable persisted
      simp only [Backend.savedEnqueued, Backend.hold, committed]
      exact owed ▸ promised

theorem Kept.sendMessage (kept : Kept backend) (message : InboxMessage) (store : StoreAnswer) :
    Kept (sendMessage spec backend message store).1 := by
  unfold SessionDrive.sendMessage
  split
  · exact kept
  next session held =>
    split
    · exact kept
    · split
      · exact kept
      next open_ =>
        have running : session.wait.isEnded = false := by
          cases ended : session.wait.isEnded with
          | true => simp [ended] at open_
          | false => rfl
        have ready := kept.ready held running
        dsimp only
        split
        next after persisted => exact ready.accept message persisted
        next after persisted =>
          have unsent := (ready.enqueue message).persist store
          rw [persisted] at unsent
          exact unsent.hold

theorem Ready.signalled (ready : Ready backend session) {signal : Item}
    (noMessage : queuedMessage signal = none) : Kept (signalled backend session signal) :=
  Ready.hold (ready.same
    (by simp [queuedMessageSnapshot, List.filterMap_append, noMessage]) rfl rfl rfl List.prefix_rfl)

theorem Ready.cancelRun (ready : Ready backend session) (kept : Kept backend)
    (store : StoreAnswer) : Kept (cancelRun backend session store) := by
  unfold SessionDrive.cancelRun
  split
  · exact kept
  · have cancelled : Ready backend
        { session with loop := session.loop.receive { cancel := some .userCancel } } :=
      ready.same rfl rfl rfl rfl List.prefix_rfl
    dsimp only
    split
    · have persisted := cancelled.persist store
      split
      next after same => rw [same] at persisted; exact persisted.signalled rfl
      next after same => rw [same] at persisted; exact persisted.hold
    · exact cancelled.signalled rfl

theorem Ready.held {other : Backend} (ready : Ready other session)
    (held : backend.session = some session) (same : other.session = backend.session) :
    Kept other where
  session := by
    intro again hold _
    rw [same, held] at hold
    cases hold
    exact ⟨ready.holds, ready.owed⟩
  saved := ready.saved
  away none := by rw [same, held] at none; cases none
  covered := ready.covered

theorem persist_session (backend : Backend) (session : Session) (store : StoreAnswer) :
    (backend.persist session store).1.session = backend.session := by
  unfold Backend.persist
  split
  · rfl
  · split <;> rfl

theorem Kept.sessionStep (kept : Kept backend) (held : backend.session = some session)
    (running : session.wait.isEnded = false) (label : Label) (delivers : Delivers backend label) :
    Kept (sessionStep spec backend session label) := by
  have ready := kept.ready held running
  cases label with
  | send message store => exact kept
  | drainOutbox receipts store => exact ready.drainOutbox receipts store
  | persist store =>
    exact (ready.persist store).held held (persist_session backend session store)
  | createTask taskId => exact Ready.hold (ready.same rfl rfl rfl rfl List.prefix_rfl)
  | localJobEnds => exact Ready.hold (ready.same rfl rfl rfl rfl List.prefix_rfl)
  | arrive arrivals => exact Ready.hold (ready.same rfl rfl rfl rfl List.prefix_rfl)
  | signal signal =>
    dsimp only [SessionDrive.sessionStep]
    split
    next noMessage => exact ready.signalled (Option.isNone_iff_eq_none.mp noMessage)
    · exact kept
  | cancel store => exact ready.cancelRun kept store
  | pump event =>
    dsimp only [SessionDrive.sessionStep]
    split
    · exact ready.pumpEvent event
    · exact kept
  | park way projection store script =>
    dsimp only [SessionDrive.sessionStep]
    split
    · exact ready.park way projection store script
    · exact kept
  | take => exact ready.take held delivers kept
  | idle => exact ready.idle kept
  | wake resumes script => exact ready.wake kept resumes script
  | start script =>
    dsimp only [SessionDrive.sessionStep]
    split
    · exact ready.drive _ _
    · exact kept
  | finish store finalize =>
    dsimp only [SessionDrive.sessionStep]
    split
    · exact ready.finish store finalize
    · exact kept
  | raise => exact ready.fail session
  | crash => exact kept
  | recover script => exact kept

theorem restore_heard {spec : LoopSpec} {checkpoint : AgentLoop.RunCheckpoint}
    {crashed : List ToolObservation} {loop : Activation}
    (restored : restore spec {} checkpoint crashed = some loop) :
    loop.state.pendingUserInput = checkpoint.state.pendingUserInput ∧
      loop.state.messages = checkpoint.state.messages := by
  unfold restore at restored
  dsimp only at restored
  split at restored
  · cases restored
  · cases restored; exact ⟨rfl, rfl⟩

theorem queuedMessageSnapshot_restored (messages : List InboxMessage) :
    queuedMessageSnapshot (messages.map .message) = messages := by
  induction messages with
  | nil => rfl
  | cons message messages ih => exact congrArg (message :: ·) ih

theorem Kept.quarantine (kept : Kept backend) : Kept backend.quarantine :=
  { kept with }

theorem Kept.resumeRaised (kept : Kept backend) : Kept (resumeRaised spec backend) := by
  unfold SessionDrive.resumeRaised
  dsimp only
  split
  · exact { kept with }
  · exact { kept with }

theorem Kept.attemptResume (kept : Kept backend) (script : AttemptScript)
    (away : backend.session = none) : Kept (attemptResume spec backend script).1 := by
  have failed (read : DurableRead) : Kept (loadFailed backend read) := by
    unfold loadFailed
    split
    · exact kept.quarantine
    · exact kept
  unfold SessionDrive.attemptResume
  split
  · exact { kept with }
  · split
    next saved held readable =>
      split
      · exact { kept with }
      · split
        · unfold resumeFromCheckpoint
          split
          · exact kept.resumeRaised
          · exact kept
          · split
            · exact kept.resumeRaised
            next loop restored =>
              have heard := restore_heard restored
              have holds := kept.saved saved held
              have owed := kept.away away
              simp only [Backend.savedEnqueued, held, Option.map_some, Option.getD_some] at owed
              constructor
              · constructor
                · intro session resumed _
                  cases resumed
                  refine ⟨?_, owed⟩
                  unfold Session.Holds restoredSession
                  rw [queuedMessageSnapshot_restored]
                  exact { holds with
                    conversation := holds.conversation.grow heard.1
                      (heard.2.symm ▸ List.prefix_rfl) }
                · exact kept.saved
                · intro none; cases none
              · exact kept.covered
        · exact failed _
    · exact failed _

theorem stepped_kept (spec : DriveSpec) (kept : Kept backend) (label : Label)
    (delivers : Delivers backend label) :
    Kept (match backend.session with
      | some session =>
        if session.wait.isEnded then (backend, Answer.silent)
        else (sessionStep spec backend session label, .silent)
      | none => (backend, .silent)).1 := by
  split
  next session held =>
    split
    · exact kept
    next running => exact kept.sessionStep held (Bool.not_eq_true _ ▸ running) label delivers
  · exact kept

theorem next_kept (label : Label) (kept : Kept backend) (delivers : Delivers backend label) :
    Kept (next spec backend label).1 := by
  have stepped := stepped_kept spec kept
  cases label with
  | send message store => exact kept.sendMessage message store
  | crash =>
    constructor
    · constructor
      · intro session none; cases none
      · exact kept.saved
      · exact fun _ => kept.covered delivers
    · exact kept.covered
  | recover script =>
    dsimp only [SessionDrive.next]
    split
    next may =>
      refine kept.attemptResume script ?_
      simp only [mayAttempt, Bool.and_eq_true, Option.isNone_iff_eq_none] at may
      exact may.1
    · exact kept
  | drainOutbox receipts store => exact stepped _ delivers
  | persist store => exact stepped _ delivers
  | createTask taskId => exact stepped _ delivers
  | localJobEnds => exact stepped _ delivers
  | arrive arrivals => exact stepped _ delivers
  | signal signal => exact stepped _ delivers
  | cancel store => exact stepped _ delivers
  | pump event => exact stepped _ delivers
  | park way projection store script => exact stepped _ delivers
  | take => exact stepped _ delivers
  | idle => exact stepped _ delivers
  | wake resumes script => exact stepped _ delivers
  | start script => exact stepped _ delivers
  | finish store finalize => exact stepped _ delivers
  | raise => exact stepped _ delivers

end Steps

section Runs

variable {spec : DriveSpec}

theorem openedSession_kept (instruction : UserInput) :
    Kept (session spec instruction).init := by
  constructor
  · constructor
    · intro opened held _
      cases held
      refine ⟨?_, List.nil_sublist _⟩
      constructor
      · rfl
      · exact List.Sublist.refl _
      · exact fun message taken => .inl taken
      · intro id; simp [openedSession, deliveredIds]
      · simp [openedSession, deliveredIds]
      · exact ⟨[], rfl, List.nil_sublist _⟩
    · intro saved held; cases held
    · intro none; cases none
  · exact fun _ => List.nil_sublist _

theorem inbox_delivered (spec : DriveSpec) (instruction : UserInput) (labels : List Label)
    (delivers : (session spec instruction).Along Delivers (session spec instruction).init labels) :
    ∀ earlier, earlier <+: labels →
      InboxSafe ((session spec instruction).exec (session spec instruction).init earlier) := by
  intro earlier initial
  obtain ⟨later, rfl⟩ := initial
  have preserved : ∀ backend label, Kept backend → Delivers backend label →
      Kept ((session spec instruction).next backend label) :=
    fun _ label kept fits => next_kept label kept fits
  have kept := delivers.start.exec Kept preserved (openedSession_kept instruction)
  exact kept.toInboxSafe

def plainInput (text : String) : UserInput := ⟨text, false, false⟩

def plainDrive : DriveSpec where
  loop := plainSpec
  multiTurn := true
  maxTurns := 10
  maxConsecutiveTurnFailures := 3
  maxMessageQueueDepth := 10
  maxRecoverAttempts := 3

def settledPark : PumpEnd := .returned { reason := .settled, status := .completed }

def deliveredRun : List Label :=
  [.pump .logInput, .send ⟨"a", plainInput "first"⟩ .committed,
  .park settledPark none .committed {},
    .take, .crash, .recover {}]

theorem inbox_delivered_settled :
    InboxSafe ((session plainDrive (plainInput "go")).exec
      (session plainDrive (plainInput "go")).init deliveredRun) :=
  inbox_delivered plainDrive (plainInput "go") deliveredRun
    ⟨trivial, trivial, trivial, by
      intro session held
      cases held
      exact fun _ => rfl, rfl, trivial, trivial⟩ deliveredRun List.prefix_rfl

def pausedRun : List Label :=
  [.send ⟨"a", plainInput "first"⟩ .committed, .send ⟨"b", plainInput "second"⟩ .committed,
    .park (.raised .turnPaused) none .committed {}, .take, .pump .logInput,
    .park settledPark none .committed {}, .take]

theorem paused_take_reorders :
    (∃ paused, ((session plainDrive (plainInput "go")).exec
        (session plainDrive (plainInput "go")).init pausedRun).session = some paused ∧
      paused.story.enqueued.map (·.id) = ["", "a", "b"] ∧
      paused.story.submitted.map (·.id) = ["", "b"] ∧
      queuedMessageSnapshot paused.queue = [⟨"a", plainInput "first"⟩]) ∧
    ¬ InboxSafe ((session plainDrive (plainInput "go")).exec
      (session plainDrive (plainInput "go")).init pausedRun) := by
  refine ⟨⟨_, rfl, rfl, rfl, rfl⟩, ?_⟩
  intro safe
  have queue := (safe.session _ rfl rfl).1.queue
  revert queue
  decide

end Runs

end MonoidKernel.SessionDrive
