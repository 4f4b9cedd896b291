import MonoidKernel.Reference.SessionInbox

set_option autoImplicit false

namespace MonoidKernel.SessionDrive

open Library AgentLoop
open Library.Piece (Ends Keeps)

section Closing

def Decided (loop : Activation) : Prop :=
  loop.session.terminal = true ∧ loop.state.status ≠ .completed

def Marked (loop : Activation) : Prop :=
  Decided loop ∨ loop.session.terminal = false ∧
    (loop.cancellation.isSome = true ∨ loop.session.unrecoveredTurnFailure.isSome = true ∨
      loop.session.midturnPark.isSome = true)

theorem persistCheckpoint_decided (suspension : Option Suspension) (answer : CommitAnswer) :
    (persistCheckpoint suspension answer).Keeps Decided := by
  have observed (loop : Activation) (decided : Decided loop) :
      Decided (numbered (observed suspension loop)) := by
    cases suspension <;> exact decided
  refine Keeps.read fun prior => ?_
  cases answer with
  | refused => exact Keeps.pure
  | committed => exact Keeps.update observed
  | declined => exact Keeps.update observed
  | failed kept =>
    refine Keeps.change (fun loop decided => ?_) Keeps.leave
    cases kept <;> exact observed loop decided

theorem park_decided (suspension : Activation → Suspension) (commit : CommitAnswer) :
    (AgentLoop.park suspension commit).Keeps Decided :=
  Keeps.read fun _ =>
    Keeps.bind (persistCheckpoint_decided _ _) fun _ => Keeps.pure

theorem change_decides (change : Activation → Activation) (loop : Activation)
    (decides : Decided (change loop)) {A : Type} {rest : Phase A} (keeps : rest.Keeps Decided) :
    (do Piece.update change; rest).Ends loop (fun _ => Decided) fun _ => Decided :=
  Ends.change (keeps _ decides)

theorem settleDeadline_decides (projection : Option Raised) (commit : CommitAnswer)
    (loop : Activation) :
    (settleDeadline projection commit).Ends loop (fun _ => Decided) fun _ => Decided :=
  change_decides expire loop ⟨rfl, by simp [expire, becomeTerminal]⟩
    (Keeps.bind Keeps.leaveIf fun _ => park_decided _ _)

theorem failRecoverable_decides (message errorCode : String) (commit : CommitAnswer)
    (loop : Activation) :
    (failRecoverable message errorCode commit).Ends loop (fun _ => Decided) fun _ => Decided :=
  Ends.change (change_decides becomeTerminal _
    ⟨rfl, by simp [becomeTerminal, recordPromotedFailure]⟩
    (Keeps.bind (park_decided _ _) fun _ => Keeps.pure))

variable {loop : Activation}

theorem promotePendingCancel_decides (marked : Marked loop) (commit : CommitAnswer) :
    (promotePendingCancel commit).Ends loop
      (fun _ after => Decided after ∨ after.session.terminal = false ∧
        (after.session.unrecoveredTurnFailure.isSome = true ∨
          after.session.midturnPark.isSome = true))
      fun _ _ => True := by
  refine Ends.read ?_
  split
  next quiet =>
    refine Ends.pure ?_
    rcases marked with decided | ⟨alive, called | others⟩
    · exact .inl decided
    · simp [quiet] at called
    · exact .inr ⟨alive, others⟩
  next cause called =>
    split
    next ended =>
      refine Ends.pure ?_
      rcases marked with decided | ⟨alive, _⟩
      · exact .inl decided
      · simp [alive] at ended
    · split
      · exact Ends.then (settleDeadline_decides none commit loop |>.weaken
          (fun _ _ decided => decided) fun _ _ _ => trivial)
          fun _ _ decided => Ends.pure (.inl decided)
      · refine (change_decides (cancelParked cause) loop
          ⟨rfl, by simp [cancelParked, becomeTerminal]⟩
          (Keeps.bind (park_decided terminalLimited commit) fun _ => Keeps.pure)).weaken
          (fun _ _ decided => .inl decided) fun _ _ _ => trivial

theorem promoteTurnFailure_decides (marked : Decided loop ∨ loop.session.terminal = false ∧
      (loop.session.unrecoveredTurnFailure.isSome = true ∨
        loop.session.midturnPark.isSome = true)) (commit : CommitAnswer) :
    (promoteTurnFailure commit).Ends loop
      (fun _ after => Decided after ∨
        after.session.terminal = false ∧ after.session.midturnPark.isSome = true)
      fun _ _ => True := by
  refine Ends.read ?_
  split
  next quiet =>
    refine Ends.pure ?_
    rcases marked with decided | ⟨alive, failed | midturn⟩
    · exact .inl decided
    · simp [quiet] at failed
    · exact .inr ⟨alive, midturn⟩
  next error errorCode failed =>
    split
    next ended =>
      refine Ends.pure ?_
      rcases marked with decided | ⟨alive, _⟩
      · exact .inl decided
      · simp [alive] at ended
    · exact (failRecoverable_decides _ _ commit loop).weaken (fun _ _ decided => .inl decided)
        fun _ _ _ => trivial

theorem promoteUnsettledClose_decides (marked : Decided loop ∨
      loop.session.terminal = false ∧ loop.session.midturnPark.isSome = true)
    (commit : CommitAnswer) :
    (promoteUnsettledClose commit).Ends loop (fun _ => Decided) fun _ _ => True := by
  refine Ends.read ?_
  split
  next quiet =>
    refine Ends.pure ?_
    rcases marked with decided | ⟨alive, midturn⟩
    · exact decided
    · simp [quiet] at midturn
  next reason midturn =>
    split
    next ended =>
      refine Ends.pure ?_
      rcases marked with decided | ⟨alive, _⟩
      · exact decided
      · simp [alive] at ended
    · refine (change_decides (closeUnsettled reason) loop
        ⟨rfl, by simp [closeUnsettled, becomeTerminal]⟩
        (Keeps.bind (park_decided terminalLimited commit) fun _ => Keeps.pure)).weaken
        (fun _ _ decided => decided) fun _ _ _ => trivial

theorem close_marked (marked : Marked loop) (commit : CommitAnswer) (finalize : Option Raised) :
    (close commit finalize).Ends loop (fun record _ => record.status ≠ .completed)
      fun _ _ => True := by
  refine Ends.then (promotePendingCancel_decides marked commit) fun _ _ first => ?_
  refine Ends.then (promoteTurnFailure_decides first commit) fun _ _ second => ?_
  refine Ends.then (promoteUnsettledClose_decides second commit) fun _ after decided => ?_
  refine Ends.bind (Ends.leaveIf ?_ fun _ _ => trivial)
  refine Ends.change (Ends.read (Ends.pure ?_))
  unfold dropCheckpoints
  split <;> exact decided.2

end Closing

section Found

def Midturn (suspension : Suspension) : Prop :=
  suspension.reason = .paused ∨ suspension.reason = .interrupted ∨ suspension.reason = .turnFailed

def Unfinished (last : Option Suspension) : Prop := ∀ suspension ∈ last, Midturn suspension

def Inside (last : Option Suspension) : Prop :=
  ∀ suspension ∈ last, suspension.reason = .paused ∨ suspension.reason = .awaitingTasks

def Waits (last : Option Suspension) (loop : Activation) : Wait → Prop
  | .slot suspension =>
    suspension = last.getD { reason := .settled, status := .completed } ∧
      loop.session.terminal = false ∧ (∀ found ∈ last, Midturn found → Marked loop)
  | .tasks suspension =>
    suspension.reason = .awaitingTasks ∧ loop.session.terminal = false ∧
      (∀ found ∈ last, Midturn found → Marked loop)
  | .pump => True
  | .signal | .backoff => ∃ found ∈ last, Midturn found ∧ Marked loop
  | .message => ¬ Inside last ∧ (Unfinished last → Marked loop)
  | .close => Unfinished last → Marked loop
  | .ended status => Unfinished last → status ≠ .completed

def Session.Sound (session : Session) : Prop :=
  ∀ last, session.found = some last → Waits last session.loop session.wait

structure Sane (backend : Backend) : Prop where
  session : ∀ session, backend.session = some session → session.Sound
  quarantined : backend.directory.failureBundle = true →
    ∀ session, backend.session = some session → session.wait.isEnded = true
  refused : backend.refused = true → backend.session = none ∧
    (backend.directory.closed = true ∨
      ∃ saved, backend.saved = some saved ∧ saved.checkpoint.terminal = true)

end Found

section Reaching

variable {spec : DriveSpec} {backend : Backend} {session : Session} {P : Session → Prop}

def Reaches (backend : Backend) (P : Session → Prop) (after : Backend) : Prop :=
  after.refused = backend.refused ∧ after.resumed = backend.resumed ∧
    ∃ session, after.session = some session ∧
      (after.directory.failureBundle = backend.directory.failureBundle ∧ P session ∨
        session.wait = .ended .failed)

structure Rest (backend after : Backend) : Prop where
  bundle : after.directory.failureBundle = backend.directory.failureBundle
  refused : after.refused = backend.refused
  resumed : after.resumed = backend.resumed

theorem Rest.refl (backend : Backend) : Rest backend backend := ⟨rfl, rfl, rfl⟩

theorem persist_rest (backend : Backend) (session : Session) (store : StoreAnswer) :
    Rest backend (backend.persist session store).1 := by
  unfold Backend.persist
  split
  · exact Rest.refl backend
  · split <;> exact ⟨rfl, rfl, rfl⟩

theorem adopt_rest (backend : Backend) (session : Session) (after : Activation) :
    Rest backend (backend.adopt session after) := by
  unfold Backend.adopt
  split
  · exact ⟨rfl, rfl, rfl⟩
  · exact Rest.refl backend

theorem Reaches.rest {kept after : Backend} (reaches : Reaches kept P after)
    (rest : Rest backend kept) : Reaches backend P after := by
  obtain ⟨refused, resumed, session, held, ends⟩ := reaches
  refine ⟨refused.trans rest.refused, resumed.trans rest.resumed, session, held, ?_⟩
  rcases ends with ⟨bundle, holds⟩ | failed
  · exact .inl ⟨bundle.trans rest.bundle, holds⟩
  · exact .inr failed

theorem Reaches.mono {after : Backend} {Q : Session → Prop} (reaches : Reaches backend P after)
    (further : ∀ session, P session → Q session) : Reaches backend Q after := by
  obtain ⟨refused, resumed, session, held, ends⟩ := reaches
  refine ⟨refused, resumed, session, held, ?_⟩
  rcases ends with ⟨bundle, holds⟩ | failed
  · exact .inl ⟨bundle, further session holds⟩
  · exact .inr failed

theorem hold_reaches (holds : P session) : Reaches backend P (backend.hold session) :=
  ⟨rfl, rfl, session, rfl, .inl ⟨rfl, holds⟩⟩

theorem fail_reaches (ended : Session) : Reaches backend P (backend.fail ended) :=
  ⟨rfl, rfl, _, rfl, .inr rfl⟩

theorem enter_reaches (input : Option UserInput)
    (holds : ∀ after, P { session with loop := after, wait := .pump }) :
    Reaches backend P (enter spec backend session input) := by
  rcases enter_cases spec backend session input with ⟨ended, failed⟩ | ⟨after, entered, -, -⟩
  · rw [failed]; exact fail_reaches ended
  · rw [entered]; exact hold_reaches (holds after)

theorem parkAt_reaches (wait : Wait) (store : StoreAnswer)
    (holds : P { session with wait := wait }) :
    Reaches backend P (parkAt backend session wait store) := by
  have rest := persist_rest backend session store
  unfold parkAt
  split
  next after same => rw [same] at rest; exact (hold_reaches holds).rest rest
  next after same => rw [same] at rest; exact (fail_reaches session).rest rest

theorem giveUp_reaches (suspension : Suspension) (message : String) (store : StoreAnswer)
    (holds : ∀ after, Decided after → P { session with loop := after, wait := .close }) :
    Reaches backend P (giveUp backend session suspension message store) := by
  have decides := failRecoverable_decides (errorCodeOr suspension.error message)
    (errorCodeOr suspension.errorCode "model_error") (session.commitAnswer store) session.loop
  unfold Piece.Ends at decides
  unfold giveUp
  split
  next raised after outcome => exact (fail_reaches _).rest (adopt_rest backend session after)
  next after outcome =>
    rw [outcome] at decides
    exact (hold_reaches (holds after decides)).rest (adopt_rest backend session after)

theorem drive_found (suspension : Suspension) (script : DriveScript) :
    Reaches backend (fun after => after.found = session.found)
      (drive spec backend session suspension script) := by
  unfold drive
  split
  · exact hold_reaches rfl
  · exact hold_reaches rfl
  · exact parkAt_reaches _ _ rfl
  · split; exacts [hold_reaches rfl, parkAt_reaches _ _ rfl]
  · dsimp only
    split
    · exact giveUp_reaches _ _ _ fun _ _ => rfl
    · split
      · exact parkAt_reaches _ _ rfl
      · split; exacts [giveUp_reaches _ _ _ fun _ _ => rfl, parkAt_reaches _ _ rfl]
  · split; exacts [hold_reaches rfl, parkAt_reaches _ _ rfl]
  · dsimp only; split; exacts [hold_reaches rfl, parkAt_reaches _ _ rfl]

theorem sound_of {last : Option Suspension} (found : session.found = some last)
    (waits : Waits last session.loop session.wait) : session.Sound := by
  intro other same
  rw [found] at same
  cases same
  exact waits

theorem sound_unfound (found : session.found = none) : session.Sound := by
  intro last same
  rw [found] at same
  cases same

theorem drive_restored {found : Suspension} (restored : session.found = some (some found))
    (alive : session.loop.session.terminal = false)
    (marked : Midturn found → Marked session.loop) (script : DriveScript) :
    Reaches backend Session.Sound (drive spec backend session found script) := by
  have unfinished (held : Unfinished (some found)) : Midturn found := held found rfl
  have closes (ends : Midturn found → Marked session.loop) :
      Session.Sound { session with wait := .close } :=
    sound_of restored fun held => ends (unfinished held)
  have tasks (waiting : found.reason = .awaitingTasks) :
      Session.Sound { session with wait := .tasks found } :=
    sound_of restored ⟨waiting, alive, fun _ same midturn => by cases same; exact marked midturn⟩
  unfold drive
  split
  next ends => exact hold_reaches (closes fun midturn => by simp [Midturn, ends] at midturn)
  next ends => exact hold_reaches (closes fun midturn => by simp [Midturn, ends] at midturn)
  next waiting => exact parkAt_reaches _ _ (tasks waiting)
  next paused =>
    have midturn : Midturn found := .inl paused
    split
    · exact hold_reaches (closes marked)
    · exact parkAt_reaches _ _ (sound_of restored ⟨found, rfl, midturn, marked midturn⟩)
  next failed =>
    have midturn : Midturn found := .inr (.inr failed)
    have outside : ¬ Inside (some found) := fun inside => by simpa [failed] using inside found rfl
    have given (after : Activation) (decided : Decided after) : Session.Sound { session with
        consecutiveTurnFailures := session.consecutiveTurnFailures + 1
        loop := after
        wait := .close } := sound_of restored fun _ => .inl decided
    have waits : Session.Sound { session with
        consecutiveTurnFailures := session.consecutiveTurnFailures + 1
        wait := .message } := sound_of restored ⟨outside, fun _ => marked midturn⟩
    dsimp only
    split
    · exact giveUp_reaches _ _ _ given
    · split
      · exact parkAt_reaches _ _ (sound_of restored ⟨found, rfl, midturn, marked midturn⟩)
      · split; exacts [giveUp_reaches _ _ _ given, parkAt_reaches _ _ waits]
  next interrupted =>
    have midturn : Midturn found := .inr (.inl interrupted)
    have outside : ¬ Inside (some found) :=
      fun inside => by simpa [interrupted] using inside found rfl
    split
    · exact hold_reaches (closes marked)
    · exact parkAt_reaches _ _ (sound_of restored ⟨outside, fun _ => marked midturn⟩)
  next settled =>
    have other (midturn : Midturn found) : Marked session.loop := by
      simp [Midturn, settled] at midturn
    have outside : ¬ Inside (some found) := fun inside => by simpa [settled] using inside found rfl
    dsimp only
    split
    · exact hold_reaches (sound_of restored fun held => other (unfinished held))
    · exact parkAt_reaches _ _ (sound_of restored ⟨outside, fun held => other (unfinished held)⟩)

theorem drive_tasks {last : Option Suspension} (restored : session.found = some last)
    {suspension : Suspension} (waiting : suspension.reason = .awaitingTasks)
    (alive : session.loop.session.terminal = false)
    (marked : ∀ found ∈ last, Midturn found → Marked session.loop) (script : DriveScript) :
    Reaches backend Session.Sound (drive spec backend session suspension script) := by
  unfold drive
  rw [waiting]
  exact parkAt_reaches _ _ (sound_of restored ⟨waiting, alive, marked⟩)

theorem runRecovered_reaches {suspension : Suspension} (sound : session.Sound)
    (slot : session.wait = .slot suspension)
    (pending : session.found = some none →
      hasPendingTasks session = true ∨ session.loop.cancellation.isSome = true)
    (script : DriveScript) :
    Reaches backend Session.Sound (runRecovered spec backend session suspension script) := by
  unfold runRecovered
  cases restored : session.found with
  | none =>
    refine (drive_found _ script).mono fun after same => sound_unfound ?_
    rw [same, restored]
  | some last =>
    have waits := sound last restored
    rw [slot] at waits
    obtain ⟨taken, alive, marked⟩ := waits
    split
    · exact drive_tasks restored rfl alive marked script
    next idle =>
      rw [taken]
      cases last with
      | none =>
        have cancelled := (pending restored).resolve_left idle
        have stops : sessionShouldStop spec
            { session with consecutiveTurnFailures := 0 } script = true := by
          simp [sessionShouldStop, cancelled]
        unfold drive
        dsimp only [Option.getD_none]
        rw [stops]
        simp only [Bool.or_true, if_true]
        exact hold_reaches (sound_of restored fun _ => .inr ⟨alive, .inl cancelled⟩)
      | some found =>
        exact drive_restored restored alive (marked found rfl) script

theorem Session.Sound.same {other : Session} (sound : session.Sound)
    (found : other.found = session.found) (loop : other.loop = session.loop)
    (wait : other.wait = session.wait) : other.Sound := by
  intro last same
  rw [loop, wait]
  exact sound last (found.symm.trans same)

theorem resume_reaches : Reaches backend Session.Sound (enter spec backend session none) :=
  enter_reaches none fun _ _ _ => trivial

theorem wake_reaches (sound : session.Sound)
    (held : backend.session = some session) (resumes : Bool) (script : DriveScript)
    (stops : session.found = some none → sessionShouldStop spec session script = true →
      session.loop.cancellation.isSome = true) :
    Reaches backend Session.Sound (wake spec backend session resumes script) := by
  unfold wake
  split
  next suspension waiting =>
    cases restored : session.found with
    | none =>
      have unfound {other : Session} (same : other.found = session.found) : other.Sound :=
        sound_unfound (same.trans restored)
      split
      · exact hold_reaches (unfound rfl)
      · split
        · exact resume_reaches
        · exact (drive_found suspension script).mono fun _ same => unfound same
    | some last =>
      have waits := sound last restored
      rw [waiting] at waits
      obtain ⟨reason, alive, marked⟩ := waits
      split
      next stopped =>
        refine hold_reaches (sound_of restored fun unfinished => ?_)
        cases last with
        | none => exact .inr ⟨alive, .inl (stops restored stopped)⟩
        | some found => exact marked found rfl (unfinished found rfl)
      · split
        · exact resume_reaches
        · exact drive_tasks restored reason alive marked script
  next waiting =>
    split
    · refine hold_reaches fun last restored => ?_
      have waits := sound last restored
      rw [waiting] at waits
      obtain ⟨found, same, midturn, marked⟩ := waits
      exact fun _ => marked
    · exact resume_reaches
  · exact ⟨rfl, rfl, session, held, .inl ⟨rfl, sound⟩⟩

theorem queue_closes (sound : session.Sound)
    (waiting : session.wait = .message ∨ session.wait = .signal) {other : Session}
    (found : other.found = session.found) (loop : other.loop = session.loop)
    (closing : other.wait = .close) : other.Sound := by
  intro last restored
  have waits := sound last (found.symm.trans restored)
  rw [closing, loop]
  rcases waiting with message | signal
  · rw [message] at waits
    exact waits.2
  · rw [signal] at waits
    obtain ⟨_, _, _, marked⟩ := waits
    exact fun _ => marked

theorem idle_reaches (sound : session.Sound) (held : backend.session = some session) :
    Reaches backend Session.Sound (idle backend session) := by
  unfold idle
  split
  next waiting => exact hold_reaches (queue_closes sound (.inl waiting) rfl rfl rfl)
  next waiting => exact hold_reaches (queue_closes sound (.inr waiting) rfl rfl rfl)
  · exact ⟨rfl, rfl, session, held, .inl ⟨rfl, sound⟩⟩

theorem take_reaches (sound : session.Sound) (held : backend.session = some session) :
    Reaches backend Session.Sound (take spec backend session) := by
  unfold take
  split
  next item rest waiting queued =>
    cases item with
    | closeSignal => exact hold_reaches (queue_closes sound (.inl waiting) rfl rfl rfl)
    | resumeSignal => exact hold_reaches (sound.same rfl rfl rfl)
    | message message =>
      dsimp only [takeMessage]
      split
      · exact hold_reaches (sound.same rfl rfl rfl)
      · exact enter_reaches _ fun _ _ _ => trivial
  next item rest waiting queued =>
    cases item with
    | closeSignal => exact hold_reaches (queue_closes sound (.inr waiting) rfl rfl rfl)
    | resumeSignal => exact resume_reaches
    | message message => exact resume_reaches
  · exact ⟨rfl, rfl, session, held, .inl ⟨rfl, sound⟩⟩

theorem pumpEvent_reaches (pumping : session.wait = .pump) (event : PumpEvent) :
    Reaches backend Session.Sound (pumpEvent spec backend session event) := by
  have pumps {other : Session} (same : other.wait = session.wait) : other.Sound := by
    intro last _
    rw [same, pumping]
    trivial
  cases event with
  | checkpoint store =>
    dsimp only [pumpEvent]
    split
    next raised after outcome => exact (fail_reaches _).rest (adopt_rest backend session after)
    next after outcome =>
      have committed : Session.Sound { session with loop := after } := pumps rfl
      exact (hold_reaches committed).rest (adopt_rest backend session after)
  | logInput => exact hold_reaches (pumps rfl)
  | logObservations => exact hold_reaches (pumps rfl)
  | observe observations => exact hold_reaches (pumps rfl)
  | reply messages => exact hold_reaches (pumps rfl)
  | drop => exact hold_reaches (pumps rfl)
  | limit code text => exact hold_reaches (pumps rfl)
  | tasks hosted localJob => exact hold_reaches (pumps rfl)

theorem park_reaches (way : PumpEnd) (projection : Option Raised) (store : StoreAnswer)
    (script : DriveScript) :
    Reaches backend Session.Sound (park spec backend session way projection store script) := by
  unfold park
  split
  next raised after outcome => exact (fail_reaches _).rest (adopt_rest backend session after)
  next suspension after outcome =>
    exact ((drive_found suspension script).mono fun _ same => sound_unfound same).rest
      (adopt_rest backend session after)

theorem finish_reaches (sound : session.Sound) (closing : session.wait = .close)
    (store : StoreAnswer) (finalize : Option Raised) :
    Reaches backend Session.Sound (finish backend session store finalize) := by
  unfold finish
  split
  next raised after outcome => exact (fail_reaches _).rest (adopt_rest backend session after)
  next record after outcome =>
    have rest := adopt_rest backend session after
    refine ⟨rest.refused, rest.resumed, _, rfl, .inl ⟨rest.bundle, ?_⟩⟩
    intro last restored unfinished
    have marked := sound last restored
    rw [closing] at marked
    have closed := close_marked (marked unfinished) (session.commitAnswer store) finalize
    unfold Piece.Ends at closed
    rw [outcome] at closed
    exact closed

theorem marked_receive {loop : Activation} (marked : Marked loop) (arrivals : Arrivals) :
    Marked (loop.receive arrivals) := by
  rcases marked with decided | ⟨alive, called | others⟩
  · exact .inl decided
  · refine .inr ⟨alive, .inl ?_⟩
    obtain ⟨cause, same⟩ := Option.isSome_iff_exists.mp called
    simp [Activation.receive, same]
  · exact .inr ⟨alive, .inr others⟩

theorem Waits.receive {last : Option Suspension} {loop : Activation} {wait : Wait}
    (waits : Waits last loop wait) (arrivals : Arrivals) :
    Waits last (loop.receive arrivals) wait := by
  cases wait with
  | slot suspension =>
    exact ⟨waits.1, waits.2.1, fun found same midturn =>
      marked_receive (waits.2.2 found same midturn) arrivals⟩
  | pump => trivial
  | tasks suspension =>
    exact ⟨waits.1, waits.2.1, fun found same midturn =>
      marked_receive (waits.2.2 found same midturn) arrivals⟩
  | signal =>
    obtain ⟨found, same, midturn, marked⟩ := waits
    exact ⟨found, same, midturn, marked_receive marked arrivals⟩
  | backoff =>
    obtain ⟨found, same, midturn, marked⟩ := waits
    exact ⟨found, same, midturn, marked_receive marked arrivals⟩
  | message => exact ⟨waits.1, fun unfinished => marked_receive (waits.2 unfinished) arrivals⟩
  | close => exact fun unfinished => marked_receive (waits unfinished) arrivals
  | ended status => exact waits

theorem Session.Sound.receive (sound : session.Sound) (arrivals : Arrivals) :
    Session.Sound { session with loop := session.loop.receive arrivals } :=
  fun last restored => (sound last restored).receive arrivals

theorem cancelRun_reaches (sound : session.Sound) (held : backend.session = some session)
    (store : StoreAnswer) : Reaches backend Session.Sound (cancelRun backend session store) := by
  unfold cancelRun
  split
  · exact ⟨rfl, rfl, session, held, .inl ⟨rfl, sound⟩⟩
  · have cancelled := sound.receive { cancel := some .userCancel }
    have signals : Reaches backend Session.Sound (signalled backend
        { session with loop := session.loop.receive { cancel := some .userCancel } }
        .closeSignal) := hold_reaches (cancelled.same rfl rfl rfl)
    dsimp only
    split
    · have rest := persist_rest backend
        { session with loop := session.loop.receive { cancel := some .userCancel } } store
      split
      next after same =>
        rw [same] at rest
        exact Reaches.rest (hold_reaches (cancelled.same rfl rfl rfl)) rest
      next after same =>
        rw [same] at rest
        exact (hold_reaches cancelled).rest rest
    · exact signals

-- A condition on the steps that take up a restored session: a session whose checkpoint carries no
-- park has tasks to wait for when it starts, and its lifetime and its turns last until the pump has
-- parked; and an attempt can read the checkpoint and the metadata. A session that is cancelled may
-- stop at any time.
def TakesUp (spec : DriveSpec) (backend : Backend) : Label → Prop
  | .start _ => ∀ session, backend.session = some session → session.found = some none →
      hasPendingTasks session = true ∨ session.loop.cancellation.isSome = true
  | .wake _ script => ∀ session, backend.session = some session → session.found = some none →
      sessionShouldStop spec session script = true → session.loop.cancellation.isSome = true
  | .recover script => backend.directory.closed = true ∨
      ∃ saved, backend.saved = some saved ∧ script.checkpointRead = .readable ∧
        (saved.checkpoint.terminal = true ∨ script.metadataRead = .readable)
  | _ => True

theorem sessionStep_reaches (sound : session.Sound) (held : backend.session = some session)
    (label : Label) (takesUp : TakesUp spec backend label) :
    Reaches backend Session.Sound (sessionStep spec backend session label) := by
  have stays : Reaches backend Session.Sound backend :=
    ⟨rfl, rfl, session, held, .inl ⟨rfl, sound⟩⟩
  cases label with
  | send message store => exact stays
  | drainOutbox receipts store =>
    have staged : (receipts.foldl (stageOutboxAck spec) session).Sound := by
      clear held takesUp stays
      induction receipts generalizing session with
      | nil => exact sound
      | cons receipt receipts ih =>
        refine ih ?_
        unfold stageOutboxAck
        split
        · exact sound
        · exact sound.same rfl rfl rfl
    exact (hold_reaches staged).rest (persist_rest backend _ store)
  | persist store =>
    have rest := persist_rest backend session store
    exact ⟨rest.refused, rest.resumed, session, (persist_session backend session store).trans held,
      .inl ⟨rest.bundle, sound⟩⟩
  | createTask taskId => exact hold_reaches (sound.same rfl rfl rfl)
  | localJobEnds => exact hold_reaches (sound.same rfl rfl rfl)
  | arrive arrivals => exact hold_reaches (sound.receive arrivals)
  | signal signal =>
    dsimp only [sessionStep]
    split
    · exact hold_reaches (sound.same rfl rfl rfl)
    · exact stays
  | cancel store => exact cancelRun_reaches sound held store
  | pump event =>
    dsimp only [sessionStep]
    split
    next pumping => exact pumpEvent_reaches pumping event
    · exact stays
  | park way projection store script =>
    dsimp only [sessionStep]
    split
    · exact park_reaches way projection store script
    · exact stays
  | take => exact take_reaches sound held
  | idle => exact idle_reaches sound held
  | wake resumes script =>
    exact wake_reaches sound held resumes script (takesUp session held)
  | start script =>
    dsimp only [sessionStep]
    split
    next suspension slot => exact runRecovered_reaches sound slot (takesUp session held) script
    · exact stays
  | finish store finalize =>
    dsimp only [sessionStep]
    split
    next closing => exact finish_reaches sound closing store finalize
    · exact stays
  | raise => exact fail_reaches session
  | crash => exact stays
  | recover script => exact stays

end Reaching

section Attempts

variable {spec : DriveSpec} {backend : Backend} {session : Session}

theorem Reaches.sane {after : Backend} (reaches : Reaches backend Session.Sound after)
    (sane : Sane backend) (held : backend.session = some session)
    (running : session.wait.isEnded = false) : Sane after := by
  obtain ⟨refused, -, other, again, ends⟩ := reaches
  have unrefused : backend.refused = false := by
    cases known : backend.refused with
    | false => rfl
    | true => cases held.symm.trans (sane.refused known).1
  constructor
  · intro reached same
    rw [again] at same
    cases same
    rcases ends with ⟨-, sound⟩ | failed
    · exact sound
    · intro last _
      rw [failed]
      exact fun _ => by decide
  · intro quarantined reached same
    rw [again] at same
    cases same
    rcases ends with ⟨bundle, -⟩ | failed
    · rw [bundle] at quarantined
      have ended := sane.quarantined quarantined session held
      rw [running] at ended
      cases ended
    · rw [failed]; rfl
  · intro known
    rw [refused, unrefused] at known
    cases known

theorem restoredSession_sound {saved : Saved} {crashed : List ToolObservation} {loop : Activation}
    (alive : saved.checkpoint.terminal = false)
    (restored : restore spec.loop {} saved.checkpoint crashed = some loop) :
    (restoredSession saved loop).Sound := by
  unfold restore at restored
  dsimp only at restored
  split at restored
  · cases restored
  · cases restored
    refine sound_of rfl ⟨rfl, alive, fun found same midturn => .inr ⟨alive, .inr ?_⟩⟩
    rw [Option.mem_def] at same
    have marks : (unrecoveredTurnFailure saved.checkpoint.lastSuspension).isSome = true ∨
        (midturnPark saved.checkpoint.lastSuspension).isSome = true := by
      rw [same]
      rcases midturn with reason | reason | reason
      · exact .inr (by simp [midturnPark, reason])
      · exact .inr (by simp [midturnPark, reason])
      · exact .inl (by simp [unrecoveredTurnFailure, reason])
    exact marks

structure Attempted (spec : DriveSpec) (backend : Backend) (script : AttemptScript)
    (after : Backend) (outcome : ResumeOutcome) : Prop where
  sane : Sane after
  again : backend.refused = true → after.resumed = backend.resumed
  failed : outcome = .failed → after.session = none ∧
    (TakesUp spec backend (.recover script) →
      after.directory.recoverAttempts = backend.directory.recoverAttempts + 1)

theorem Sane.quarantine (sane : Sane backend) (away : backend.session = none) :
    Sane backend.quarantine where
  session := sane.session
  quarantined _ _ held := by
    cases away.symm.trans held
  refused := sane.refused

theorem resumeRaised_attempted (sane : Sane backend) (away : backend.session = none)
    (script : AttemptScript) :
    Attempted spec backend script (resumeRaised spec backend) .failed := by
  have counted : Sane { backend with directory := { backend.directory with
      recoverAttempts := backend.directory.recoverAttempts + 1 } } :=
    ⟨sane.session, sane.quarantined, sane.refused⟩
  unfold resumeRaised
  dsimp only
  split
  · exact ⟨counted.quarantine away, fun _ => rfl, fun _ => ⟨away, fun _ => rfl⟩⟩
  · exact ⟨counted, fun _ => rfl, fun _ => ⟨away, fun _ => rfl⟩⟩

theorem attemptResume_attempted (sane : Sane backend) (may : mayAttempt backend = true)
    (script : AttemptScript) :
    Attempted spec backend script (attemptResume spec backend script).1
      (attemptResume spec backend script).2 := by
  simp only [mayAttempt, Bool.and_eq_true, Option.isNone_iff_eq_none, Bool.not_eq_true'] at may
  obtain ⟨away, clean⟩ := may
  have loads (read : DurableRead)
      (unread : ¬ TakesUp spec backend (.recover script)) :
      Attempted spec backend script (loadFailed backend read) .failed := by
    unfold loadFailed
    split
    · exact ⟨sane.quarantine away, fun _ => rfl, fun _ => ⟨away, fun takes => absurd takes unread⟩⟩
    · exact ⟨sane, fun _ => rfl, fun _ => ⟨away, fun takes => absurd takes unread⟩⟩
  unfold attemptResume
  split
  next closed =>
    exact ⟨⟨sane.session, sane.quarantined, fun _ => ⟨away, .inl closed⟩⟩, fun _ => rfl,
      fun failed => by cases failed⟩
  next openRun =>
    split
    next saved held readable =>
      split
      next terminal =>
        exact ⟨⟨sane.session, sane.quarantined, fun _ => ⟨away, .inr ⟨saved, held, terminal⟩⟩⟩,
          fun _ => rfl, fun failed => by cases failed⟩
      next running =>
        have unrefused : backend.refused = false := by
          cases known : backend.refused with
          | false => rfl
          | true =>
            rcases (sane.refused known).2 with closed | ⟨other, same, terminal⟩
            · exact absurd closed openRun
            · cases held.symm.trans same
              exact absurd terminal running
        split
        · unfold resumeFromCheckpoint
          split
          · exact resumeRaised_attempted sane away script
          · exact ⟨sane, fun _ => rfl, fun failed => by cases failed⟩
          next crashed =>
            split
            · exact resumeRaised_attempted sane away script
            next loop restored =>
              refine ⟨⟨?_, ?_, ?_⟩, fun known => ?_, fun failed => by cases failed⟩
              · intro session same
                cases same
                exact restoredSession_sound (Bool.not_eq_true _ ▸ running) restored
              · exact fun quarantined => absurd quarantined (by simp [clean])
              · exact fun known => absurd known (by simp [unrefused])
              · exact absurd known (by simp [unrefused])
        next unread =>
          refine loads _ fun takes => ?_
          rcases takes with closed | ⟨other, same, -, terminal | readable⟩
          · exact openRun closed
          · cases held.symm.trans same
            exact running terminal
          · exact unread readable
    next unread =>
      refine loads _ fun takes => ?_
      rcases takes with closed | ⟨other, same, readable, -⟩
      · exact openRun closed
      · exact unread other same readable

end Attempts

section Runs

variable {spec : DriveSpec} {backend : Backend}

-- What recovery owes to the turn it finds, to a run that has ended, and to the count of its
-- attempts.
structure RecoversTurn (spec : DriveSpec) (backend : Backend) (label : Label) : Prop where
  completed : ∀ session last, (next spec backend label).1.session = some session →
    session.found = some last → Unfinished last → session.wait ≠ .ended .completed
  accepted : label = .take → ∀ session last, backend.session = some session →
    session.found = some last → Inside last → ∀ message rest, session.wait = .message →
      session.queue = .message message :: rest → isRedelivery session message = false →
        session.loop.state.pendingUserInput = none ∧ session.loop.state.pendingObservations = []
  ended : backend.directory.failureBundle = true ∨ backend.refused = true →
    (∀ session, backend.session = some session → session.wait.isEnded = true) ∧
      (next spec backend label).1.resumed = backend.resumed
  counted : (next spec backend label).2 = .attempted .failed →
    (next spec backend label).1.session = none ∧
      (next spec backend label).1.directory.recoverAttempts =
        backend.directory.recoverAttempts + 1

theorem sendMessage_sane (sane : Sane backend) (message : InboxMessage) (store : StoreAnswer) :
    Sane (sendMessage spec backend message store).1 ∧
      (sendMessage spec backend message store).1.resumed = backend.resumed := by
  unfold sendMessage
  split
  · exact ⟨sane, rfl⟩
  next session held =>
    split
    · exact ⟨sane, rfl⟩
    · split
      · exact ⟨sane, rfl⟩
      next running =>
        have running : session.wait.isEnded = false := by
          cases ended : session.wait.isEnded with
          | true => simp [ended] at running
          | false => rfl
        have rest := persist_rest backend (enqueue session message) store
        have queued : (enqueue session message).Sound :=
          (sane.session session held).same rfl rfl rfl
        dsimp only
        split
        next after persisted =>
          rw [persisted] at rest
          have reaches : Reaches after Session.Sound { after.hold (enqueue session message) with
              owed := after.owed ++ [message]
              unsaved := if session.localJob then after.unsaved ++ [message] else after.unsaved } :=
            ⟨rfl, rfl, _, rfl, .inl ⟨rfl, queued⟩⟩
          exact ⟨(reaches.rest rest).sane sane held running, rest.resumed⟩
        next after persisted =>
          rw [persisted] at rest
          exact ⟨((hold_reaches queued).rest rest).sane sane held running, rest.resumed⟩

theorem recoversTurn_of (sane : Sane backend) {label : Label}
    (after : Sane (next spec backend label).1)
    (resumed : backend.directory.failureBundle = true ∨ backend.refused = true →
      (next spec backend label).1.resumed = backend.resumed)
    (counted : (next spec backend label).2 = .attempted .failed →
      (next spec backend label).1.session = none ∧
        (next spec backend label).1.directory.recoverAttempts =
          backend.directory.recoverAttempts + 1) : RecoversTurn spec backend label where
  completed := by
    intro session last held found unfinished completed
    have waits := after.session session held last found
    rw [completed] at waits
    exact waits unfinished rfl
  accepted := by
    intro _ session last held found inside _ _ waiting
    have waits := sane.session session held last found
    rw [waiting] at waits
    exact absurd inside waits.1
  ended dead := by
    refine ⟨fun session held => ?_, resumed dead⟩
    rcases dead with quarantined | refused
    · exact sane.quarantined quarantined session held
    · cases held.symm.trans (sane.refused refused).1
  counted := counted

theorem stepped_recovers (sane : Sane backend) (label : Label)
    (takesUp : TakesUp spec backend label)
    (same : next spec backend label = (match backend.session with
      | some session =>
        if session.wait.isEnded then (backend, Answer.silent)
        else (sessionStep spec backend session label, .silent)
      | none => (backend, .silent))) :
    Sane (next spec backend label).1 ∧ RecoversTurn spec backend label := by
  have after : Sane (next spec backend label).1 ∧
      (next spec backend label).1.resumed = backend.resumed ∧
      (next spec backend label).2 = .silent := by
    rw [same]
    split
    next session held =>
      split
      · exact ⟨sane, rfl, rfl⟩
      next running =>
        have reaches := sessionStep_reaches (sane.session session held) held label takesUp
        exact ⟨reaches.sane sane held (Bool.not_eq_true _ ▸ running), reaches.2.1, rfl⟩
    · exact ⟨sane, rfl, rfl⟩
  refine ⟨after.1, recoversTurn_of sane after.1 (fun _ => after.2.1) fun failed => ?_⟩
  rw [after.2.2] at failed
  cases failed

theorem next_recovers (sane : Sane backend) (label : Label) (takesUp : TakesUp spec backend label) :
    Sane (next spec backend label).1 ∧ RecoversTurn spec backend label := by
  have stepped := stepped_recovers sane label takesUp
  cases label with
  | send message store =>
    have sent : Sane (sendMessage spec backend message store).1 ∧
        (sendMessage spec backend message store).1.resumed = backend.resumed :=
      sendMessage_sane sane message store
    exact ⟨sent.1, recoversTurn_of sane sent.1 (fun _ => sent.2) fun failed => by cases failed⟩
  | crash =>
    have lost : Sane backend.crash := by
      constructor
      · intro session held; cases held
      · intro _ session held; cases held
      · exact fun refused => ⟨rfl, (sane.refused refused).2⟩
    exact ⟨lost, recoversTurn_of sane lost (fun _ => rfl) fun failed => by cases failed⟩
  | recover script =>
    by_cases may : mayAttempt backend = true
    · have same : next spec backend (.recover script) =
          ((attemptResume spec backend script).1,
            .attempted (attemptResume spec backend script).2) := by
        simp only [next, may, if_true]
      have attempted : Attempted spec backend script (attemptResume spec backend script).1
          (attemptResume spec backend script).2 := attemptResume_attempted sane may script
      rw [same]
      refine ⟨attempted.sane, recoversTurn_of sane (by rw [same]; exact attempted.sane) ?_ ?_⟩
      · rw [same]
        rintro (quarantined | refused)
        · simp only [mayAttempt, Bool.and_eq_true, Bool.not_eq_true'] at may
          exact absurd quarantined (by simp [may.2])
        · exact attempted.again refused
      · rw [same]
        intro failed
        have away := attempted.failed (Answer.attempted.inj failed)
        exact ⟨away.1, away.2 takesUp⟩
    · have same : next spec backend (.recover script) = (backend, .silent) := by
        simp only [next, may, Bool.false_eq_true, if_false]
      rw [same]
      refine ⟨sane, recoversTurn_of sane (by rw [same]; exact sane) (fun _ => by rw [same]) ?_⟩
      rw [same]
      intro failed
      cases failed
  | drainOutbox receipts store => exact stepped rfl
  | persist store => exact stepped rfl
  | createTask taskId => exact stepped rfl
  | localJobEnds => exact stepped rfl
  | arrive arrivals => exact stepped rfl
  | signal signal => exact stepped rfl
  | cancel store => exact stepped rfl
  | pump event => exact stepped rfl
  | park way projection store script => exact stepped rfl
  | take => exact stepped rfl
  | idle => exact stepped rfl
  | wake resumes script => exact stepped rfl
  | start script => exact stepped rfl
  | finish store finalize => exact stepped rfl
  | raise => exact stepped rfl

theorem openedSession_sane (instruction : UserInput) : Sane (session spec instruction).init where
  session := by
    intro opened held
    cases held
    exact sound_unfound rfl
  quarantined := nofun
  refused := nofun

theorem recovery_finishes (spec : DriveSpec) (instruction : UserInput) (labels : List Label)
    (takesUp : (session spec instruction).Along (TakesUp spec) (session spec instruction).init
      labels) :
    (session spec instruction).Along (RecoversTurn spec)
    (session spec instruction).init labels := by
  have preserved : ∀ backend label, Sane backend → TakesUp spec backend label →
      Sane ((session spec instruction).next backend label) :=
    fun _ label sane takes => (next_recovers sane label takes).1
  exact (takesUp.invariant Sane preserved (openedSession_sane instruction)).mono
    fun _ label held => (next_recovers held.1 label held.2).2

theorem unfinished_none : Unfinished none := fun _ same => by cases same

def waitingRun : List Label :=
  [.pump (.tasks ["task"] false), .pump (.checkpoint .committed), .crash, .recover {}, .start {}]

theorem recovery_finishes_waiting :
    (session plainDrive (plainInput "go")).Along (RecoversTurn plainDrive)
      (session plainDrive (plainInput "go")).init waitingRun :=
  recovery_finishes plainDrive (plainInput "go") waitingRun
    ⟨trivial, trivial, trivial, .inr ⟨_, rfl, rfl, .inr rfl⟩,
      fun _ held _ => .inl ((Option.all_eq_true hasPendingTasks _).mp rfl _ held), trivial⟩

def insideTurnRun : List Label :=
  [.pump .logInput, .pump (.reply [.assistant "" [⟨"call", "tool", "{}"⟩] []]),
    .pump (.observe [⟨"call", "tool", "done", false⟩]), .persist .committed, .crash, .recover {},
    .start {}]

def singleTurnDrive : DriveSpec := { plainDrive with multiTurn := false }

theorem inside_turn_completes :
    (∃ ended, ((session singleTurnDrive (plainInput "go")).exec
        (session singleTurnDrive (plainInput "go")).init
          (insideTurnRun ++ [.finish .committed none])).session = some ended ∧
      ended.wait = .ended .completed ∧ ended.loop.state.pendingObservations.length = 1 ∧
      ended.loop.state.messages.length = 2) ∧
    ¬ (session singleTurnDrive (plainInput "go")).Along (RecoversTurn singleTurnDrive)
      (session singleTurnDrive (plainInput "go")).init
        (insideTurnRun ++ [.finish .committed none]) := by
  refine ⟨⟨_, rfl, rfl, rfl, rfl⟩, fun along => ?_⟩
  exact along.rest.1.completed _ none rfl rfl unfinished_none rfl

end Runs

end MonoidKernel.SessionDrive
