import MonoidKernel.Hosting.ActivationDriver
import MonoidKernel.Postgres.AdmissionOrder

set_option autoImplicit false

namespace MonoidKernel.Driver

open MonoidKernel.Activation
open MonoidKernel.Admission (Store Edit Edits AdmissionRequest commitCheckpoint settleTerminal)

variable {Digest Suspension Outcome Body : Type}
variable {codec : Codec Digest Suspension Outcome Body}
variable {s t : Store Digest Suspension Outcome Body}
variable {runId : OpaqueId} {command other : ActivationCommand Digest}
variable {row : Admission.Row Digest}
variable {checkpoint : Checkpoint Digest Suspension Outcome Body}

-- An identity hashes the run and the number of a command among other things.
def Distinct (codec : Codec Digest Suspension Outcome Body) : Prop :=
  ∀ a b : ActivationCommand Digest, a.runId = b.runId → codec.identity a = codec.identity b →
    a.commandSequence = b.commandSequence

def IsBound (s : Store Digest Suspension Outcome Body) (runId : OpaqueId)
    (command : ActivationCommand Digest) : Prop :=
  ∃ row ∈ s.rows, row.runId = runId ∧ row.activation = some command

theorem bound_sequence (inv : Admission.Inv codec s) (member : row ∈ s.rows)
    (bound : row.activation = some command) :
    command.commandSequence = row.sequence ∧ command.runId = row.runId := by
  obtain ⟨-, checkpoint, rfl, -⟩ := inv.bound row member command bound
  exact ⟨rfl, rfl⟩

theorem numbered_eq (inv : Admission.Inv codec s) {a b : Admission.Row Digest}
    (first : a ∈ s.rows) (second : b ∈ s.rows) (run : a.runId = b.runId)
    (same : a.sequence = b.sequence) : a = b :=
  (inv.numbered b.runId).number_inj (by simpa [Store.rowsOf] using ⟨first, run⟩)
    (by simpa [Store.rowsOf] using second) same

theorem bound_runId (inv : Admission.Inv codec s) (bound : IsBound s runId command) :
    command.runId = runId := by
  obtain ⟨row, member, run, activation⟩ := bound
  exact (bound_sequence inv member activation).2.trans run

theorem bound_inj (inv : Admission.Inv codec s) {a b : ActivationCommand Digest}
    (first : IsBound s runId a) (second : IsBound s runId b)
    (same : a.commandSequence = b.commandSequence) : a = b := by
  obtain ⟨row, member, run, activation⟩ := first
  obtain ⟨other, held, there, further⟩ := second
  rw [(bound_sequence inv member activation).1, (bound_sequence inv held further).1] at same
  obtain rfl := numbered_eq inv member held (run.trans there.symm) same
  exact Option.some.inj (activation.symm.trans further)

structure Fresh (codec : Codec Digest Suspension Outcome Body)
    (s : Store Digest Suspension Outcome Body) (runId : OpaqueId)
    (command : ActivationCommand Digest) (row : Admission.Row Digest)
    (checkpoint : Checkpoint Digest Suspension Outcome Body) : Prop where
  member : row ∈ s.rows
  run : row.runId = runId
  unbound : row.activation = none
  stored : s.checkpoint runId = some checkpoint
  unended : checkpoint.content.terminal = false
  prior : row.sequence = 1 ∨ ∃ before, IsBound s runId before ∧
    before.commandSequence + 1 = row.sequence ∧
    codec.identity before ∈ checkpoint.content.appliedInputIds
  made : command = row.activationFrom codec checkpoint

theorem Fresh.ofRun (fresh : Fresh codec s runId command row checkpoint) :
    command.runId = runId := by
  rw [fresh.made]
  exact fresh.run

theorem Fresh.above (inv : Admission.Inv codec s)
    (fresh : Fresh codec s runId command row checkpoint) (bound : IsBound s runId other) :
    other.commandSequence < command.commandSequence := by
  obtain ⟨before, held, run, activation⟩ := bound
  have number := (bound_sequence inv held activation).1
  have made : command.commandSequence = row.sequence := by rw [fresh.made]; rfl
  rw [number, made]
  have same : row.runId = before.runId := fresh.run.trans run.symm
  rcases Nat.lt_trichotomy before.sequence row.sequence with less | equal | more
  · exact less
  · obtain rfl := numbered_eq inv held fresh.member same.symm equal
    simp [fresh.unbound] at activation
  · have earlier := inv.prior_bound _ before held rfl (by rw [activation]; rfl) row fresh.member
      same more
    simp [fresh.unbound] at earlier

theorem Fresh.same (inv : Admission.Inv codec s)
    (fresh : Fresh codec s runId command row checkpoint) {late : Admission.Row Digest}
    {later : Checkpoint Digest Suspension Outcome Body}
    (second : Fresh codec s runId other late later) :
    other.commandSequence ≤ command.commandSequence := by
  have made : other.commandSequence = late.sequence := by rw [second.made]; rfl
  rcases second.prior with first | ⟨before, bound, next, -⟩
  · rw [made, first]
    exact command.sequenced
  · have less := fresh.above inv bound
    omega

structure Advance (s t : Store Digest Suspension Outcome Body) : Prop where
  bound : ∀ runId command, IsBound s runId command → IsBound t runId command
  kept : ∀ runId old, s.checkpoint runId = some old → ∃ new, t.checkpoint runId = some new ∧
    ∀ marker ∈ old.content.appliedInputIds, marker ∈ new.content.appliedInputIds ∧
      new.content.appliedInputReceipts marker = old.content.appliedInputReceipts marker

theorem Advance.refl (s : Store Digest Suspension Outcome Body) : Advance s s :=
  ⟨fun _ _ => id, fun _ old stored => ⟨old, stored, fun _ applied => ⟨applied, rfl⟩⟩⟩

theorem Advance.trans {s t u : Store Digest Suspension Outcome Body} (first : Advance s t)
    (second : Advance t u) : Advance s u := by
  refine ⟨fun runId command bound => second.bound _ _ (first.bound _ _ bound), ?_⟩
  intro runId old stored
  obtain ⟨mid, held, earlier⟩ := first.kept runId old stored
  obtain ⟨new, kept, later⟩ := second.kept runId mid held
  refine ⟨new, kept, fun marker applied => ?_⟩
  obtain ⟨still, same⟩ := earlier marker applied
  exact ⟨(later marker still).1, (later marker still).2.trans same⟩

variable [DecidableEq Digest]

-- How far a command has come that is bound and not applied: the checkpoint is still the one that it
-- was bound to, or says that it is running.
def Opened (codec : Codec Digest Suspension Outcome Body) (command : ActivationCommand Digest)
    (checkpoint : Checkpoint Digest Suspension Outcome Body) : Prop :=
  checkpoint.seq = command.sourceCheckpointSeq ∧
      codec.checkpointDigest checkpoint = command.sourceCheckpointSha256 ∧
      checkpoint.content.terminal = false ∧
      (∀ active, checkpoint.content.activeInput = some active → active.phase = .completed) ∨
    command.sourceCheckpointSeq < checkpoint.seq ∧ checkpoint.content.activeInput =
      some ⟨codec.identity command, command.sourceCheckpointSeq, .running⟩

structure Ledgered (codec : Codec Digest Suspension Outcome Body)
    (bound : ActivationCommand Digest → Prop)
    (checkpoint : Checkpoint Digest Suspension Outcome Body) : Prop where
  applied : ∀ marker ∈ checkpoint.content.appliedInputIds,
    ∃ command, bound command ∧ codec.identity command = marker
  opened : ∀ command, bound command →
    codec.identity command ∉ checkpoint.content.appliedInputIds →
    Opened codec command checkpoint ∧
      ∀ other, bound other → other.commandSequence ≤ command.commandSequence
  receipts : ∀ command, bound command →
    codec.identity command ∈ checkpoint.content.appliedInputIds →
    ∃ raw, checkpoint.content.appliedInputReceipts (codec.identity command) = some raw ∧
      Sealed codec command checkpoint raw
  running : ∀ active, checkpoint.content.activeInput = some active → active.phase = .running →
    ∃ command, bound command ∧ codec.identity command ∉ checkpoint.content.appliedInputIds

-- A loop whose token still holds the run stands on its latest checkpoint.
structure Live (codec : Codec Digest Suspension Outcome Body)
    (s : Store Digest Suspension Outcome Body) (token : WriterToken)
    (driving : Driving Digest Suspension Outcome Body) : Prop where
  stored : Authority.Stored s.authority.table token
  latest : s.checkpoint token.runId = some driving.memory
  bound : IsBound s token.runId driving.command
  unapplied : codec.identity driving.command ∉ driving.memory.content.appliedInputIds

structure Inv (codec : Codec Digest Suspension Outcome Body)
    (s : State Digest Suspension Outcome Body) : Prop where
  store : Admission.Inv codec s.store
  empty : ∀ runId, s.store.checkpoint runId = none → ∀ command, ¬ IsBound s.store runId command
  ledgered : ∀ runId checkpoint, s.store.checkpoint runId = some checkpoint →
    checkpoint.runId = runId ∧ Ledgered codec (IsBound s.store runId) checkpoint
  loops : ∀ token driving, s.loops token = some driving →
    Authority.Superseded s.store.authority.table token ∨ Live codec s.store token driving

theorem Ledgered.last (inv : Admission.Inv codec s)
    (ledgered : Ledgered codec (IsBound s runId) checkpoint) (bound : IsBound s runId command)
    (unapplied : codec.identity command ∉ checkpoint.content.appliedInputIds)
    (another : IsBound s runId other)
    (open_ : codec.identity other ∉ checkpoint.content.appliedInputIds) : other = command :=
  bound_inj inv another bound (Nat.le_antisymm
    ((ledgered.opened command bound unapplied).2 other another)
    ((ledgered.opened other another open_).2 command bound))

theorem Inv.loop {s : State Digest Suspension Outcome Body} (inv : Inv codec s)
    (token : WriterToken)
    {loop : Option (Driving Digest Suspension Outcome Body)}
    (fits : ∀ driving, loop = some driving →
      Authority.Superseded s.store.authority.table token ∨ Live codec s.store token driving) :
    Inv codec { s with loops := Function.update s.loops token loop } := by
  refine ⟨inv.store, inv.empty, inv.ledgered, ?_⟩
  intro other driving held
  by_cases mine : other = token
  · subst mine
    exact fits driving (by simpa using held)
  · exact inv.loops other driving (by simpa [mine] using held)

theorem Inv.stop {s : State Digest Suspension Outcome Body} (inv : Inv codec s)
    (token : WriterToken) :
    Inv codec { s with loops := Function.update s.loops token none } :=
  inv.loop token fun _ none => by cases none

theorem Fresh.settled (inv : Admission.Inv codec s)
    (fresh : Fresh codec s runId command row checkpoint)
    (ledgered : Ledgered codec (IsBound s runId) checkpoint) (bound : IsBound s runId other) :
    codec.identity other ∈ checkpoint.content.appliedInputIds := by
  by_contra unapplied
  have less := fresh.above inv bound
  have made : command.commandSequence = row.sequence := by rw [fresh.made]; rfl
  rcases fresh.prior with first | ⟨before, earlier, next, applied⟩
  · have positive := other.sequenced
    omega
  · have last := (ledgered.opened other bound unapplied).2 before earlier
    obtain rfl := bound_inj inv earlier bound (by omega)
    exact unapplied applied

variable [DecidableEq Outcome]

theorem Edit.bound (inv : Admission.Inv codec s) (edit : Edit codec False s t)
    (bound : IsBound t runId command) :
    IsBound s runId command ∨ ∃ row checkpoint, Fresh codec s runId command row checkpoint := by
  obtain ⟨new, member, run, activation⟩ := bound
  cases edit with
  | other _ rows => exact .inl ⟨new, rows ▸ member, run, activation⟩
  | admitRow =>
    rcases List.mem_append.mp member with held | added
    · exact .inl ⟨new, held, run, activation⟩
    · rw [List.mem_singleton.mp added] at activation
      cases activation
  | row key set each =>
    obtain ⟨row, held, change, -⟩ := Admission.update_mem each member
    have here := change.runId.symm.trans run
    cases change with
    | bind checkpoint delivered unbound stored unended prior =>
      right
      refine ⟨row, checkpoint, held, here, unbound, here ▸ stored, unended, ?_,
        (Option.some.inj activation).symm⟩
      refine (Admission.priorError_none prior).imp_right ?_
      rintro ⟨earlier, there, before, sameRun, next, applied, marked⟩
      refine ⟨before, ⟨earlier, there, sameRun.trans here, applied⟩, ?_, marked⟩
      rw [(bound_sequence inv there applied).1]
      exact next
    | _ => exact .inl ⟨_, held, here, activation⟩

theorem Edit.keeps_bound (inv : Admission.Inv codec s) (edit : Edit codec False s t)
    (bound : IsBound s runId command) : IsBound t runId command := by
  obtain ⟨row, member, run, activation⟩ := bound
  obtain ⟨new, held, change⟩ := edit.follow member
  have delivered := (inv.bound row member command activation).1
  exact ⟨new, held, change.runId.trans run, (change.bound activation delivered).1⟩

theorem Ledgered.edit (distinct : Distinct codec)
    (inv : Admission.Inv codec s) (edit : Edit codec False s t)
    (stored : s.checkpoint runId = some checkpoint)
    (ledgered : Ledgered codec (IsBound s runId) checkpoint) :
    Ledgered codec (IsBound t runId) checkpoint := by
  have latest : ∀ {command row later}, Fresh codec s runId command row later →
      later = checkpoint := fun fresh => Option.some.inj (fresh.stored.symm.trans stored)
  constructor
  case applied =>
    intro marker member
    obtain ⟨command, bound, same⟩ := ledgered.applied marker member
    exact ⟨command, Edit.keeps_bound inv edit bound, same⟩
  -- A command comes to be bound only where every bound one is applied, so the last is either it
  -- or the one that was last before.
  case opened =>
    intro command bound unapplied
    rcases Edit.bound inv edit bound with old | ⟨row, there, fresh⟩
    · refine ⟨(ledgered.opened command old unapplied).1, fun other another => ?_⟩
      rcases Edit.bound inv edit another with before | ⟨row, there, fresh⟩
      · exact (ledgered.opened command old unapplied).2 other before
      · obtain rfl := latest fresh
        exact absurd (fresh.settled inv ledgered old) unapplied
    · obtain rfl := latest fresh
      refine ⟨.inl ⟨by rw [fresh.made]; rfl, by rw [fresh.made]; rfl, fresh.unended, ?_⟩, ?_⟩
      · intro active held
        cases phase : active.phase with
        | completed => rfl
        | running =>
          obtain ⟨other, before, open_⟩ := ledgered.running active held phase
          exact absurd (fresh.settled inv ledgered before) open_
      · intro other another
        rcases Edit.bound inv edit another with before | ⟨_, _, second⟩
        · exact (fresh.above inv before).le
        · exact fresh.same inv second
  case receipts =>
    intro command bound applied
    rcases Edit.bound inv edit bound with old | ⟨row, there, fresh⟩
    · exact ledgered.receipts command old applied
    · obtain ⟨other, before, same⟩ := ledgered.applied _ applied
      have less := fresh.above inv before
      have equal := distinct other command ((bound_runId inv before).trans fresh.ofRun.symm) same
      omega
  case running =>
    intro active held phase
    obtain ⟨command, bound, unapplied⟩ := ledgered.running active held phase
    exact ⟨command, Edit.keeps_bound inv edit bound, unapplied⟩

-- The stored receipt of an applied command, and what `from_checkpoint` makes of it: it is refused
-- exactly where its terminal flag does not fit what the loop parked on.
structure Answers (codec : Codec Digest Suspension Outcome Body)
    (command : ActivationCommand Digest)
    (checkpoint : Checkpoint Digest Suspension Outcome Body)
    (raw : BoundaryReceipt Digest Suspension Outcome) : Prop where
  stored : checkpoint.content.appliedInputReceipts (codec.identity command) = some raw
  read : ∃ digest, raw.checkpointSha256 = some digest ∧
    ∀ outcome, fromCheckpoint codec command checkpoint outcome =
      if Agrees codec checkpoint raw then projected codec command raw digest outcome
      else .error .invalidActivationReceipt

theorem Ledgered.answers (ledgered : Ledgered codec (IsBound s runId) checkpoint)
    (bound : IsBound s runId command)
    (applied : codec.identity command ∈ checkpoint.content.appliedInputIds) :
    ∃ raw, Answers codec command checkpoint raw := by
  obtain ⟨raw, stored, receipt⟩ := ledgered.receipts command bound applied
  obtain ⟨digest, found⟩ := Option.isSome_iff_exists.mp receipt.2.2.1
  exact ⟨raw, stored, digest, found, fromCheckpoint_sealed applied stored receipt found⟩

def Goes (codec : Codec Digest Suspension Outcome Body)
    (s t : State Digest Suspension Outcome Body) :
    Prop :=
  Inv codec t ∧ Advance s.store t.store

section Steps

variable {s t : State Digest Suspension Outcome Body} {token : WriterToken}
variable {driving : Driving Digest Suspension Outcome Body}

theorem Inv.edit (distinct : Distinct codec) (inv : Inv codec s)
    {store : Store Digest Suspension Outcome Body} (edit : Edit codec False s.store store) :
    Goes codec s { s with store } := by
  have same : store.checkpoint = s.store.checkpoint := by
    cases edit with
    | other _ _ _ _ _ checkpoint => exact checkpoint.resolve_right id
    | _ => rfl
  have authority : Authority.Continues s.store.authority store.authority := by
    cases edit with
    | other _ _ _ _ authority => exact authority
    | _ => exact .refl _
  have bound : ∀ runId command, IsBound s.store runId command → IsBound store runId command :=
    fun _ _ => Edit.keeps_bound inv.store edit
  refine ⟨⟨inv.store.edit edit, ?_, ?_, ?_⟩, bound, ?_⟩
  · intro runId absent command bound
    rw [same] at absent
    rcases Edit.bound inv.store edit bound with old | ⟨row, checkpoint, fresh⟩
    · exact inv.empty runId absent command old
    · rw [fresh.stored] at absent
      cases absent
  · intro runId checkpoint stored
    rw [same] at stored
    obtain ⟨run, ledgered⟩ := inv.ledgered runId checkpoint stored
    exact ⟨run, ledgered.edit distinct inv.store edit stored⟩
  · intro token driving held
    rcases inv.loops token driving held with lost | live
    · exact .inl (authority.superseded lost)
    · rcases authority.stored live.stored with still | lost
      · exact .inr ⟨still, same ▸ live.latest, bound _ _ live.bound, live.unapplied⟩
      · exact .inl lost
  · intro runId old stored
    exact ⟨old, same ▸ stored, fun _ applied => ⟨applied, rfl⟩⟩

theorem Inv.edits (distinct : Distinct codec) (inv : Inv codec s)
    {store : Store Digest Suspension Outcome Body} (edits : Edits codec False s.store store) :
    Goes codec s { s with store } := by
  induction edits with
  | refl => exact ⟨inv, .refl _⟩
  | tail _ edit ih =>
    obtain ⟨before, earlier⟩ := ih
    obtain ⟨after, later⟩ := before.edit distinct edit
    exact ⟨after, earlier.trans later⟩

theorem Inv.replace (inv : Inv codec s) (stored : Authority.Stored s.store.authority.table token)
    {next : Checkpoint Digest Suspension Outcome Body} (run : next.runId = token.runId)
    (ledgered : Ledgered codec (IsBound s.store token.runId) next)
    (kept : ∀ old, s.store.checkpoint token.runId = some old →
      ∀ marker ∈ old.content.appliedInputIds, marker ∈ next.content.appliedInputIds ∧
        next.content.appliedInputReceipts marker = old.content.appliedInputReceipts marker)
    {loop : Option (Driving Digest Suspension Outcome Body)}
    (fits : ∀ driving, loop = some driving → driving.memory = next ∧
      IsBound s.store token.runId driving.command ∧
      codec.identity driving.command ∉ next.content.appliedInputIds) :
    Goes codec s ⟨{ s.store with
      checkpoint := Function.update s.store.checkpoint token.runId (some next) },
      Function.update s.loops token loop⟩ := by
  have edit : Edit codec True s.store { s.store with
      checkpoint := Function.update s.store.checkpoint token.runId (some next) } :=
    .other _ rfl rfl (fun _ => id) (.refl _) (.inr trivial)
  have elsewhere : ∀ {runId}, runId ≠ token.runId →
      Function.update s.store.checkpoint token.runId (some next) runId =
        s.store.checkpoint runId := fun other => Function.update_of_ne other _ _
  refine ⟨⟨inv.store.edit edit, ?_, ?_, ?_⟩, fun _ _ => id, ?_⟩
  · intro runId absent
    by_cases mine : runId = token.runId
    · simp [mine] at absent
    · exact inv.empty runId (elsewhere mine ▸ absent)
  · intro runId checkpoint stored
    by_cases mine : runId = token.runId
    · subst mine
      obtain rfl : next = checkpoint := by simpa using stored
      exact ⟨run, ledgered⟩
    · exact inv.ledgered runId checkpoint (elsewhere mine ▸ stored)
  · intro other driving held
    by_cases mine : other = token
    · subst mine
      obtain ⟨rfl, bound, open_⟩ := fits driving (by simpa using held)
      exact .inr ⟨stored, by simp, bound, open_⟩
    · have before : s.loops other = some driving := by simpa [mine] using held
      refine (inv.loops other driving before).imp_right fun live => ?_
      -- No other token of the run holds it.
      have away : other.runId ≠ token.runId := fun here => mine (live.stored.unique stored here)
      exact ⟨live.stored, (elsewhere away).trans live.latest, live.bound, live.unapplied⟩
  · intro runId old stored
    by_cases mine : runId = token.runId
    · subst mine
      exact ⟨next, by simp, kept old stored⟩
    · exact ⟨old, (elsewhere mine).trans stored, fun _ applied => ⟨applied, rfl⟩⟩

omit [DecidableEq Outcome] in
theorem Ledgered.continues {store : Store Digest Suspension Outcome Body}
    (inv : Admission.Inv codec store) (ledgered : Ledgered codec (IsBound store runId) checkpoint)
    (bound : IsBound store runId command)
    (unapplied : codec.identity command ∉ checkpoint.content.appliedInputIds)
    {next : Checkpoint Digest Suspension Outcome Body} (rising : checkpoint.seq < next.seq)
    (active : next.content.activeInput =
      some ⟨codec.identity command, command.sourceCheckpointSeq, .running⟩)
    (applied : next.content.appliedInputIds = checkpoint.content.appliedInputIds)
    (receipts : next.content.appliedInputReceipts = checkpoint.content.appliedInputReceipts) :
    Ledgered codec (IsBound store runId) next := by
  constructor
  case applied => exact applied ▸ ledgered.applied
  case opened =>
    rw [applied]
    intro other another open_
    obtain rfl := ledgered.last inv bound unapplied another open_
    obtain ⟨source, last⟩ := ledgered.opened other another open_
    refine ⟨.inr ⟨?_, active⟩, last⟩
    rcases source with ⟨same, -⟩ | ⟨less, -⟩ <;> omega
  case receipts =>
    rw [applied, receipts]
    intro other another done
    obtain ⟨raw, stored, receipt⟩ := ledgered.receipts other another done
    exact ⟨raw, stored, receipt.later rising⟩
  case running =>
    intro _ _ _
    exact ⟨command, bound, applied ▸ unapplied⟩

omit [DecidableEq Outcome] in
theorem Ledgered.completes (distinct : Distinct codec)
    {store : Store Digest Suspension Outcome Body} (inv : Admission.Inv codec store)
    (ledgered : Ledgered codec (IsBound store runId) checkpoint)
    (bound : IsBound store runId command)
    (unapplied : codec.identity command ∉ checkpoint.content.appliedInputIds)
    {next : Checkpoint Digest Suspension Outcome Body} (rising : checkpoint.seq < next.seq)
    (completes : Completes codec command checkpoint next) :
    Ledgered codec (IsBound store runId) next := by
  constructor
  case applied =>
    intro marker applied
    rw [completes.applied, Finset.mem_insert] at applied
    rcases applied with rfl | before
    · exact ⟨command, bound, rfl⟩
    · exact ledgered.applied marker before
  case opened =>
    intro other another open_
    rw [completes.applied, Finset.mem_insert, not_or] at open_
    exact absurd (congrArg codec.identity (ledgered.last inv bound unapplied another open_.2))
      open_.1
  case receipts =>
    intro other another applied
    rw [completes.applied, Finset.mem_insert] at applied
    by_cases own : codec.identity other = codec.identity command
    · have run := (bound_runId inv another).trans (bound_runId inv bound).symm
      obtain rfl := bound_inj inv another bound (distinct other command run own)
      exact completes.own
    · obtain ⟨raw, stored, receipt⟩ :=
        ledgered.receipts other another (applied.resolve_left own)
      exact ⟨raw, (completes.others _ own).trans stored, receipt.later rising⟩
  case running =>
    intro active held phase
    rw [completes.active] at held
    cases held
    cases phase

theorem granted_cases {table : Authority.Table} (given : granted table token = true) :
    Authority.Stored table token ∨ Authority.Superseded table token := by
  unfold granted at given
  split at given
  · cases given
  next row stored =>
    simp only [Bool.or_eq_true, decide_eq_true_eq] at given
    exact given.imp (fun same => ⟨row, stored, same⟩) fun later => ⟨row, stored, later⟩

omit [DecidableEq Digest] [DecidableEq Outcome] in
theorem commitCheckpoint_cases (store : Store Digest Suspension Outcome Body) (token : WriterToken)
    (next : Checkpoint Digest Suspension Outcome Body) (now : Nat) :
    commitCheckpoint store token next now = (store, .writerFenced) ∨
      Authority.Stored store.authority.table token ∧ next.runId = token.runId ∧
        ((∃ old, store.checkpoint token.runId = some old ∧ next.seq ≤ old.seq ∧
            commitCheckpoint store token next now = (store, .committed)) ∨
          commitCheckpoint store token next now = ({ store with
            checkpoint := Function.update store.checkpoint token.runId (some next) },
              .committed)) := by
  unfold commitCheckpoint
  split
  next allowed =>
    refine .inr ⟨((currentWriterLocked_iff _ _ _).mp allowed.2).stored, allowed.1, ?_⟩
    split
    next older =>
      obtain ⟨old, stored, less⟩ := (Option.any_eq_true _ _).mp older
      exact .inl ⟨old, stored, of_decide_eq_true less, rfl⟩
    · exact .inr rfl
  · exact .inl rfl

theorem Inv.seed (inv : Inv codec s) {next : Checkpoint Digest Suspension Outcome Body}
    (absent : s.store.checkpoint token.runId = none) (idle : next.content.activeInput = none)
    (unused : next.content.appliedInputIds = ∅) (now : Nat) :
    Goes codec s { s with store := (commitCheckpoint s.store token next now).1 } := by
  rcases commitCheckpoint_cases s.store token next now with
    refused | ⟨stored, run, ⟨old, found, -⟩ | written⟩
  · rw [refused]
    exact ⟨inv, .refl _⟩
  · rw [absent] at found
    cases found
  · rw [written]
    have unbound := inv.empty token.runId absent
    have unheld : s.loops token = none := by
      cases held : s.loops token with
      | none => rfl
      | some driving =>
        have live := (inv.loops token driving held).resolve_left fun lost => lost.unstored stored
        have latest := live.latest
        rw [absent] at latest
        cases latest
    have replaced : Goes codec s ⟨_, Function.update s.loops token none⟩ :=
      inv.replace stored run ⟨?_, ?_, ?_, ?_⟩ ?_ ?_
    · rwa [← unheld, Function.update_eq_self] at replaced
    · simp [unused]
    · exact fun command bound => absurd bound (unbound command)
    · exact fun command bound => absurd bound (unbound command)
    · simp [idle]
    · simp [absent]
    · simp

theorem Inv.commit (distinct : Distinct codec) (inv : Inv codec s)
    (held : s.loops token = some driving) (park : Park Suspension Body)
    (rising : driving.memory.seq < park.seq) (now : Nat) :
    Goes codec s (commit codec s token driving park now).1 := by
  unfold Driver.commit
  dsimp only
  rcases commitCheckpoint_cases s.store token
      (marked codec driving.command park.eventCursor (driving.parked park)) now with
    refused | ⟨stored, run, cases⟩
  · rw [refused]
    exact ⟨inv.stop token, .refl _⟩
  · have live := (inv.loops token _ held).resolve_left fun lost => lost.unstored stored
    obtain ⟨-, ledgered⟩ := inv.ledgered _ _ live.latest
    rcases cases with ⟨old, found, less, -⟩ | written
    · rw [live.latest] at found
      cases found
      rw [marked_seq] at less
      exact absurd rising (Nat.not_lt_of_le less)
    · rw [written]
      dsimp only
      cases boundary : park.suspension with
      | none =>
        have internal : marked codec driving.command park.eventCursor (driving.parked park) = _ :=
          marked_internal boundary park.eventCursor
        dsimp only at internal
        rw [internal] at run ⊢
        refine inv.replace stored run (ledgered.continues inv.store live.bound live.unapplied rising
          rfl rfl rfl) ?_ ?_
        · intro old found marker applied
          rw [live.latest] at found
          cases found
          exact ⟨applied, rfl⟩
        · intro second started
          cases started
          exact ⟨rfl, live.bound, live.unapplied⟩
      | some suspension =>
        obtain ⟨source, -⟩ := ledgered.opened _ live.bound live.unapplied
        have after : driving.command.sourceCheckpointSeq < park.seq := by
          rcases source with ⟨same, -⟩ | ⟨less, -⟩ <;> omega
        have marks : Completes codec driving.command (driving.parked park)
            (marked codec driving.command park.eventCursor (driving.parked park)) :=
          marked_completes boundary after park.eventCursor
        have completes : Completes codec driving.command driving.memory
            (marked codec driving.command park.eventCursor (driving.parked park)) :=
          ⟨marks.active, marks.applied, marks.own, marks.others⟩
        refine inv.replace stored run (ledgered.completes distinct inv.store live.bound
          live.unapplied (by rwa [marked_seq]) completes) ?_ ?_
        · intro old found marker applied
          rw [live.latest] at found
          cases found
          rw [completes.applied, Finset.mem_insert]
          exact ⟨.inr applied, completes.others marker fun same => live.unapplied (same ▸ applied)⟩
        · intro second started
          cases started

theorem Inv.completed (distinct : Distinct codec) (inv : Inv codec s)
    (command : ActivationCommand Digest) (checkpoint : Checkpoint Digest Suspension Outcome Body)
    (now : Nat) : Goes codec s (completedReceipt codec s token command checkpoint now).1 := by
  have settles : ∀ outcome, Goes codec s
      { s with store := (settleTerminal s.store token outcome now).1 } := fun outcome =>
    inv.edits distinct (Admission.settleTerminal_edits s.store token outcome now)
  unfold completedReceipt
  split
  · exact ⟨inv, .refl _⟩
  next receipt _ =>
    split
    · dsimp only
      split
      · exact settles _
      · exact ⟨inv, .refl _⟩
    · exact ⟨inv, .refl _⟩

theorem Inv.drive (distinct : Distinct codec) (inv : Inv codec s)
    {command : ActivationCommand Digest} (given : granted s.store.authority.table token = true)
    (known : bound s.store command = true) (now : Nat) :
    Goes codec s (drive codec s token command now).1 := by
  unfold Driver.drive
  split
  · exact ⟨inv, .refl _⟩
  next here =>
    obtain here := not_not.mp here
    split
    · exact ⟨inv, .refl _⟩
    next checkpoint latest =>
      split
      · exact ⟨inv, .refl _⟩
      · split
        · exact inv.completed distinct command checkpoint now
        next unapplied =>
          split
          · exact ⟨inv, .refl _⟩
          · split
            · exact ⟨inv, .refl _⟩
            · refine ⟨inv.loop token ?_, .refl _⟩
              intro driving started
              cases started
              rcases granted_cases given with stored | lost
              · refine .inr ⟨stored, latest, ?_, unapplied⟩
                obtain ⟨row, member, activation⟩ := List.any_eq_true.mp known
                have held := of_decide_eq_true activation
                exact ⟨row, member, (bound_sequence inv.store member held).2.symm.trans here, held⟩
              · exact .inl lost

variable (requestIdentity : AdmissionRequest Digest → Digest)

theorem Inv.next (distinct : Distinct codec) (inv : Inv codec s)
    (label : Label Digest Suspension Outcome Body) (kept : promised s label = true) :
    Goes codec s ((machine codec requestIdentity).next s label) := by
  change Goes codec s (step codec requestIdentity s label).1
  cases label with
  | store label =>
    have reads : label.commits = false := by simpa [promised] using kept
    have edits := inv.store.next_edits requestIdentity label
    rw [reads, eq_false Bool.false_ne_true] at edits
    exact inv.edits distinct edits
  | seed token checkpoint now =>
    obtain ⟨⟨absent, unheld⟩, unused⟩ : (_ ∧ _) ∧ _ := by simpa [promised] using kept
    exact inv.seed absent unheld unused now
  | drive token command now =>
    obtain ⟨⟨-, given⟩, known⟩ : (_ ∧ _) ∧ _ := by simpa [promised] using kept
    exact inv.drive distinct given known now
  | commit token park now =>
    simp only [step]
    split
    · exact ⟨inv, .refl _⟩
    next driving held =>
      exact inv.commit distinct held park (by simpa [promised, held] using kept) now
  | stop token => exact ⟨inv.stop token, .refl _⟩

theorem Inv.init : Inv codec (machine codec requestIdentity).init where
  store := Admission.Inv.init requestIdentity
  empty := by simp [machine, Admission.machine, IsBound]
  ledgered := by simp [machine, Admission.machine]
  loops := by simp [machine]

theorem Inv.exec (distinct : Distinct codec) (inv : Inv codec s)
    {labels : List (Label Digest Suspension Outcome Body)}
    (kept : Promised codec requestIdentity s labels) :
    Goes codec s ((machine codec requestIdentity).exec s labels) := by
  induction labels generalizing s with
  | nil => exact ⟨inv, .refl _⟩
  | cons label rest ih =>
    obtain ⟨here, further⟩ := kept
    obtain ⟨after, first⟩ := inv.next requestIdentity distinct label here
    obtain ⟨last, second⟩ := ih after further
    exact ⟨last, first.trans second⟩

end Steps

section Runs

variable (requestIdentity : AdmissionRequest Digest → Digest)

theorem activations_in_order (distinct : Distinct codec)
    (labels : List (Label Digest Suspension Outcome Body))
    (kept : Promised codec requestIdentity (machine codec requestIdentity).init labels) :
    let m := machine codec requestIdentity
    let s := m.exec m.init labels
    (∀ runId command, IsBound s.store runId command → ∃ checkpoint,
      s.store.checkpoint runId = some checkpoint ∧
        Ledgered codec (IsBound s.store runId) checkpoint ∧
        (∀ other, IsBound s.store runId other → other.commandSequence < command.commandSequence →
          codec.identity other ∈ checkpoint.content.appliedInputIds) ∧
        (codec.identity command ∈ checkpoint.content.appliedInputIds →
          ∃ raw, Answers codec command checkpoint raw)) ∧
      ∀ token driving, s.loops token = some driving →
        ¬ Authority.Superseded s.store.authority.table token →
        Live codec s.store token driving ∧
          (∀ other, IsBound s.store token.runId other →
            other.commandSequence ≤ driving.command.commandSequence) ∧
          ∀ rival second, s.loops rival = some second →
            ¬ Authority.Superseded s.store.authority.table rival →
            rival.runId = token.runId → rival = token := by
  intro m s
  have inv : Inv codec s := ((Inv.init requestIdentity).exec requestIdentity distinct kept).1
  constructor
  · intro runId command bound
    cases stored : s.store.checkpoint runId with
    | none => exact absurd bound (inv.empty runId stored command)
    | some checkpoint =>
      obtain ⟨-, ledgered⟩ := inv.ledgered runId checkpoint stored
      refine ⟨checkpoint, rfl, ledgered, ?_, ledgered.answers bound⟩
      intro other another before
      by_contra open_
      have last := (ledgered.opened other another open_).2 command bound
      omega
  · intro token driving held current
    have live := (inv.loops token driving held).resolve_left current
    obtain ⟨-, ledgered⟩ := inv.ledgered _ _ live.latest
    refine ⟨live, (ledgered.opened _ live.bound live.unapplied).2, ?_⟩
    intro rival second driven also same
    exact ((inv.loops rival second driven).resolve_left also).stored.unique live.stored same

def sampleWriter : WriterToken :=
  ⟨Admission.sample, Admission.sample, Admission.sampleClaim.token.generation,
    Admission.sampleClaim.token.positive⟩

def sampleSeed : Checkpoint Nat Unit Nat Unit :=
  ⟨Admission.sample, 0, false, none, none, ∅, fun _ => none, ()⟩

def sampleCommand : ActivationCommand Nat :=
  Admission.Row.activationFrom ⟨Admission.sampleClaim.command, none, .admitted 0⟩ Admission.plain
    sampleSeed

def sampleRun : List (Label Nat Unit Nat Unit) :=
  Admission.sampleRun.map .store ++ [
    .seed sampleWriter sampleSeed 0,
    .store (.claimDispatch Admission.sample Admission.sample 10 none
      (some Admission.sampleRequest.key) 0 0 0),
    .store (.settleDispatch Admission.sampleClaim.token (.acknowledge "dispatch:1") 0 0),
    .store (.bindActivation Admission.sampleClaim.command sampleWriter 0),
    .drive sampleWriter sampleCommand 0,
    .commit sampleWriter ⟨1, false, none, (), 0⟩ 0]

def sampleMachine : Library.Machine (State Nat Unit Nat Unit) (Label Nat Unit Nat Unit)
    (Answer Nat Unit Nat) :=
  machine Admission.plain (·.requestDigest)

theorem activations_in_order_sample :
    let s := sampleMachine.exec sampleMachine.init sampleRun
    (∃ checkpoint, s.store.checkpoint Admission.sample = some checkpoint ∧
      Ledgered Admission.plain (IsBound s.store Admission.sample) checkpoint) ∧
      ∃ driving, s.loops sampleWriter = some driving ∧
        Live Admission.plain s.store sampleWriter driving := by
  intro s
  have distinct : Distinct Admission.plain := fun _ _ _ same => same
  have bound : IsBound s.store Admission.sample sampleCommand := by
    unfold IsBound
    decide
  obtain ⟨ordered, alone⟩ := activations_in_order (·.requestDigest) distinct sampleRun (by decide)
  obtain ⟨checkpoint, stored, ledgered, -⟩ := ordered _ _ bound
  have held : (s.loops sampleWriter).isSome = true := by decide
  obtain ⟨driving, held⟩ := Option.isSome_iff_exists.mp held
  refine ⟨⟨checkpoint, stored, ledgered⟩, driving, held, (alone _ _ held ?_).1⟩
  rintro ⟨row, stored, later⟩
  have found : s.store.authority.table sampleWriter.runId = some row := stored
  have first : (s.store.authority.table sampleWriter.runId).all (·.generation ≤ 1) = true := by
    decide
  rw [found] at first
  exact absurd later (Nat.not_lt_of_le (of_decide_eq_true first))

-- The answer to a command that is applied already: its receipt, with the outcome that the run
-- settled where it is terminal.
def replay (codec : Codec Digest Suspension Outcome Body) (command : ActivationCommand Digest)
    (checkpoint : Checkpoint Digest Suspension Outcome Body)
    (raw : BoundaryReceipt Digest Suspension Outcome) (digest : Digest)
    (settled : Option Outcome) :
    Except ReceiptError (ActivationReceipt Digest Suspension Outcome) :=
  if Agrees codec checkpoint raw then
    projected codec command raw digest (if raw.terminal then settled else none)
  else .error .invalidActivationReceipt

theorem completedReceipt_spec (s : State Digest Suspension Outcome Body) (token : WriterToken)
    {raw : BoundaryReceipt Digest Suspension Outcome} {digest : Digest}
    (reads : ∀ outcome, fromCheckpoint codec command checkpoint outcome =
      if Agrees codec checkpoint raw then projected codec command raw digest outcome
      else .error .invalidActivationReceipt) (now : Nat) :
    let u := completedReceipt codec s token command checkpoint now
    u.1.loops = s.loops ∧
      (u.2 = .completed (replay codec command checkpoint raw digest
        (u.1.store.terminal token.runId)) ∨
      (raw.terminal = true ∧ Agrees codec checkpoint raw) ∧ u.2 = .store .writerFenced) := by
  unfold completedReceipt replay
  by_cases agrees : Agrees codec checkpoint raw
  · simp only [reads, agrees, if_true]
    cases ended : raw.terminal with
    | false =>
      cases safe : safeAddresses command.runId raw.checkpointSeq false <;>
        simp [projected, ended, safe]
    | true =>
      cases safe : safeAddresses command.runId raw.checkpointSeq true with
      | false => simp [projected, ended, safe]
      | true =>
        cases held : currentWriterLocked s.store.authority.table token now <;>
          simp [projected, ended, safe, settleTerminal, held]
  · simp [reads, agrees]

theorem receipts_stay (distinct : Distinct codec)
    (earlier later : List (Label Digest Suspension Outcome Body))
    (kept : Promised codec requestIdentity (machine codec requestIdentity).init
      (earlier ++ later)) :
    let m := machine codec requestIdentity
    let s := m.exec m.init earlier
    let t := m.exec s later
    ∀ runId command checkpoint, IsBound s.store runId command →
      s.store.checkpoint runId = some checkpoint →
      codec.identity command ∈ checkpoint.content.appliedInputIds →
      ∃ raw digest, raw.checkpointSha256 = some digest ∧
        checkpoint.content.appliedInputReceipts (codec.identity command) = some raw ∧
        ∃ latest, t.store.checkpoint runId = some latest ∧ ∀ token now, token.runId = runId →
          let again := Label.drive token command now
          let u := m.next t again
          u.loops = t.loops ∧
            (m.answer t again = .completed
                (replay codec command latest raw digest (u.store.terminal runId)) ∨
              (raw.terminal = true ∧ Agrees codec latest raw) ∧
                m.answer t again = .store .writerFenced) := by
  intro m s t runId command checkpoint bound latest applied
  have inv : Inv codec s :=
    ((Inv.init requestIdentity).exec requestIdentity distinct kept.start).1
  obtain ⟨after, advance⟩ : Goes codec s t := inv.exec requestIdentity distinct kept.rest
  obtain ⟨-, ledgered⟩ := inv.ledgered runId checkpoint latest
  obtain ⟨raw, stored, digest, found, -⟩ := ledgered.answers bound applied
  obtain ⟨new, held, carried⟩ := advance.kept runId checkpoint latest
  obtain ⟨still, same⟩ := carried _ applied
  have known := advance.bound runId command bound
  obtain ⟨run, further⟩ := after.ledgered runId new held
  obtain ⟨entry, written, digest', found', reads⟩ := further.answers known still
  obtain rfl : entry = raw := Option.some.inj (written.symm.trans (same.trans stored))
  obtain rfl : digest' = digest := Option.some.inj (found'.symm.trans found)
  refine ⟨entry, digest', found, stored, new, held, ?_⟩
  rintro token now rfl again u
  have here := bound_runId after.store known
  have answered : step codec requestIdentity t again =
      completedReceipt codec t token command new now := by
    simp only [again, step, Driver.drive, here, held, run, still, ne_eq, not_true_eq_false,
      if_true, if_false]
  have spec := completedReceipt_spec t token reads now
  rw [← answered] at spec
  exact spec

theorem receipts_stay_sample :
    let done := sampleRun ++ [.commit sampleWriter ⟨2, false, some (), (), 0⟩ 0]
    let again := Label.drive sampleWriter sampleCommand 7
    let t := sampleMachine.exec sampleMachine.init (done ++ [.stop sampleWriter, again])
    ∃ latest raw digest, (sampleMachine.next t again).loops = t.loops ∧
      (sampleMachine.answer t again =
          .completed (replay Admission.plain sampleCommand latest raw digest none) ∨
        raw.terminal = true) := by
  intro done again t
  have distinct : Distinct Admission.plain := fun _ _ _ same => same
  have bound : IsBound (sampleMachine.exec sampleMachine.init done).store Admission.sample
      sampleCommand := by
    unfold IsBound
    decide
  have applied : ((sampleMachine.exec sampleMachine.init done).store.checkpoint
      Admission.sample).any fun checkpoint => 1 ∈ checkpoint.content.appliedInputIds := by decide
  obtain ⟨checkpoint, stored, applied⟩ := (Option.any_eq_true _ _).mp applied
  obtain ⟨raw, digest, -, -, latest, -, replayed⟩ := receipts_stay (·.requestDigest) distinct done
    [.stop sampleWriter, again] (by decide) _ _ checkpoint bound stored (of_decide_eq_true applied)
  obtain ⟨same, answer⟩ := replayed sampleWriter 7 rfl
  exact ⟨latest, raw, digest, same, answer.imp id fun fenced => fenced.1.1⟩

end Runs

end MonoidKernel.Driver
