import Mathlib.Logic.Relation
import MonoidKernel.Library.NumberedLog
import MonoidKernel.Postgres.Admission

set_option autoImplicit false

namespace MonoidKernel.Admission

open MonoidKernel.Activation
open Library (Numbered)

variable {Digest Suspension Outcome Body : Type}
variable {s t : Store Digest Suspension Outcome Body}

structure Dispatch.Checked (dispatch : Dispatch) : Prop where
  lease : dispatch.deliveryState = .leased ∧ dispatch.claimOwner.isSome ∧
      dispatch.claimId.isSome ∧ dispatch.leasedUntil.isSome ∨
    dispatch.deliveryState ≠ .leased ∧ dispatch.leasedUntil = none
  delivered : dispatch.deliveryState = .delivered ∧ dispatch.deliveredAt.isSome ∧
      dispatch.dispatchRef ≠ "" ∧ dispatch.lastErrorCode = "" ∨
    dispatch.deliveryState ≠ .delivered ∧ dispatch.deliveredAt = none ∧ dispatch.dispatchRef = ""
  deadLetter : dispatch.deliveryState ≠ .deadLetter ∨ dispatch.lastErrorCode ≠ ""
  attempts : dispatch.attemptCount = dispatch.claimGeneration
  claim : dispatch.claimGeneration = 0 ∧ dispatch.claimOwner = none ∧ dispatch.claimId = none ∨
    0 < dispatch.claimGeneration ∧ dispatch.claimOwner.isSome ∧ dispatch.claimId.isSome
  attempted : dispatch.deliveryState = .pending ∨ dispatch.deliveryState = .runTerminal ∨
    0 < dispatch.attemptCount
  delay : dispatch.deliveryState = .pending ∨ dispatch.retryDelayMicroseconds = 0
  runTerminal : dispatch.deliveryState ≠ .runTerminal ∨ dispatch.lastErrorCode = "run_terminal"
  reference : emptyOrAddress dispatch.dispatchRef = true
  code : emptyOrCode dispatch.lastErrorCode = true

theorem Dispatch.admitted_checked (now : Nat) : (Dispatch.admitted now).Checked := by
  constructor <;> simp [Dispatch.admitted, emptyOrAddress, emptyOrCode]

variable {dispatch : Dispatch}

theorem Dispatch.Checked.close (checked : dispatch.Checked) :
    dispatch.close.Checked := by
  have code : emptyOrCode "run_terminal" = true := by decide
  constructor <;> simp [Dispatch.close, emptyOrAddress, checked.attempts, checked.claim, code]

theorem Dispatch.Checked.lease_checked (checked : dispatch.Checked) (ownerId claimId : OpaqueId)
    (leasedUntil : Nat)
    (waiting : dispatch.deliveryState = .pending ∨ dispatch.deliveryState = .leased) :
    (dispatch.lease ownerId claimId leasedUntil).Checked := by
  have unsent : dispatch.deliveredAt = none ∧ dispatch.dispatchRef = "" := by
    rcases checked.delivered with ⟨delivered, -⟩ | ⟨-, unsent⟩
    · rcases waiting with same | same <;> rw [same] at delivered <;> cases delivered
    · exact unsent
  constructor <;>
    simp [Dispatch.lease, emptyOrAddress, emptyOrCode, checked.attempts, unsent]

theorem ne_empty_of_safe {test : String → Bool} (refuses : test "" = false) {text : String}
    (safe : test text = true) : text ≠ "" := by
  rintro rfl
  rw [refuses] at safe
  cases safe

theorem Settlement.apply_checked (checked : dispatch.Checked) (settlement : Settlement) (now : Nat)
    (valid : settlement.valid = true) (leased : dispatch.deliveryState = .leased) :
    (settlement.apply now dispatch).Checked := by
  have claimed : 0 < dispatch.claimGeneration ∧ dispatch.claimOwner.isSome ∧
      dispatch.claimId.isSome := by
    rcases checked.attempted with same | same | attempted
    · rw [same] at leased; cases leased
    · rw [same] at leased; cases leased
    · rw [checked.attempts] at attempted
      exact checked.claim.resolve_left fun unclaimed => attempted.ne' unclaimed.1
  cases settlement with
  | acknowledge dispatchRef =>
    have named := @ne_empty_of_safe isSafeOpaqueAddress (by decide) dispatchRef valid
    constructor <;> simp_all [Settlement.apply, Settlement.valid, emptyOrAddress, emptyOrCode,
      checked.attempts]
  | retry errorCode delay =>
    simp only [Settlement.valid, Bool.and_eq_true] at valid
    constructor <;> simp_all [Settlement.apply, Dispatch.fail, emptyOrAddress, emptyOrCode,
      checked.attempts]
  | reject errorCode =>
    have named := @ne_empty_of_safe isSafeTaxonomyCode (by decide) errorCode valid
    constructor <;> simp_all [Settlement.apply, Settlement.valid, Dispatch.fail, emptyOrAddress,
      emptyOrCode, checked.attempts]

section

variable [DecidableEq Digest] [DecidableEq Outcome]
variable {codec : Codec Digest Suspension Outcome Body} {commits : Prop}

-- What one statement does to a row that it has locked.
inductive RowEdit (codec : Codec Digest Suspension Outcome Body)
    (s : Store Digest Suspension Outcome Body) (row : Row Digest) : Row Digest → Prop where
  | same : RowEdit codec s row row
  | close (reconcilable : s.reconcilable row = true) :
      RowEdit codec s row { row with dispatch := row.dispatch.close }
  | lease (ownerId claimId : OpaqueId) (leasedUntil now : Nat)
      (fresh : ∀ other ∈ s.rows, other.dispatch.claimId ≠ some claimId)
      (claimable : s.claimable row now = true) :
      RowEdit codec s row
        { row with dispatch := row.dispatch.lease ownerId claimId leasedUntil }
  | settle (token : DispatchToken) (settlement : Settlement) (now : Nat)
      (held : row.tokenMatches token = true) (valid : settlement.valid = true)
      (leased : row.dispatch.deliveryState = .leased) :
      RowEdit codec s row { row with dispatch := settlement.apply now row.dispatch }
  | bind (checkpoint : Checkpoint Digest Suspension Outcome Body)
      (delivered : row.dispatch.deliveryState = .delivered) (unbound : row.activation = none)
      (stored : s.checkpoint row.runId = some checkpoint)
      (unended : checkpoint.content.terminal = false)
      (prior : priorError codec s row.command checkpoint = none) :
      RowEdit codec s row { row with activation := some (row.activationFrom codec checkpoint) }

-- What one statement does to the tables. Checkpoints change where the call `commits` one.
inductive Edit (codec : Codec Digest Suspension Outcome Body) (commits : Prop)
    (s : Store Digest Suspension Outcome Body) : Store Digest Suspension Outcome Body → Prop where
  | other (t : Store Digest Suspension Outcome Body) (rows : t.rows = s.rows)
      (head : t.head = s.head)
      (terminal : ∀ runId, (s.terminal runId).isSome = true → (t.terminal runId).isSome = true)
      (authority : Authority.Continues s.authority t.authority)
      (checkpoint : t.checkpoint = s.checkpoint ∨ commits) :
      Edit codec commits s t
  | admitRow (command : AdmittedCommand Digest) (now : Nat)
      (authorized : (s.authority.table command.request.runId).isSome = true)
      (vacant : ∀ row ∈ s.rows, row.key ≠ command.request.key)
      (next : command.commandSequence = (s.head command.request.runId).getD 0 + 1) :
      Edit codec commits s { s with
        head := Function.update s.head command.request.runId (some command.commandSequence)
        rows := s.rows ++ [⟨command, none, .admitted now⟩] }
  | row (key : Key) (set : Row Digest → Row Digest)
      (each : ∀ row ∈ s.rows, row.key = key → RowEdit codec s row (set row)) :
      Edit codec commits s (s.update key set)

namespace RowEdit

variable {row new : Row Digest}

theorem command (edit : RowEdit codec s row new) : new.command = row.command := by
  cases edit <;> rfl

theorem key (edit : RowEdit codec s row new) : new.key = row.key :=
  congrArg (fun command => command.request.key) edit.command

theorem runId (edit : RowEdit codec s row new) : new.runId = row.runId :=
  congrArg (fun command => command.request.runId) edit.command

theorem sequence (edit : RowEdit codec s row new) : new.sequence = row.sequence :=
  congrArg AdmittedCommand.commandSequence edit.command

theorem checked (edit : RowEdit codec s row new) (checked : row.dispatch.Checked) :
    new.dispatch.Checked := by
  cases edit with
  | same => exact checked
  | close _ => exact checked.close
  | lease ownerId claimId leasedUntil now _ claimable =>
    refine checked.lease_checked ownerId claimId leasedUntil ?_
    simp only [Store.claimable, Bool.and_eq_true, Bool.or_eq_true, decide_eq_true_eq] at claimable
    rcases claimable.1.1.2 with waits | lapsed
    · exact .inl waits.1
    · exact .inr lapsed.1
  | settle token settlement now _ valid leased =>
    exact settlement.apply_checked checked now valid leased
  | bind => exact checked

theorem generation (edit : RowEdit codec s row new) :
    new.dispatch.claimGeneration = row.dispatch.claimGeneration ∧
        new.dispatch.claimOwner = row.dispatch.claimOwner ∧
        new.dispatch.claimId = row.dispatch.claimId ∧
        (new.dispatch.deliveryState = .leased → row.dispatch.deliveryState = .leased) ∨
      new.dispatch.claimGeneration = row.dispatch.claimGeneration + 1 ∧
        ∀ other ∈ s.rows, other.dispatch.claimId ≠ new.dispatch.claimId := by
  cases edit with
  | same => exact .inl ⟨rfl, rfl, rfl, id⟩
  | close _ =>
    refine .inl ⟨rfl, rfl, rfl, ?_⟩
    intro leased
    cases leased
  | lease _ _ _ _ fresh _ => exact .inr ⟨rfl, fresh⟩
  | settle _ settlement _ _ _ leased =>
    left
    cases settlement <;> exact ⟨rfl, rfl, rfl, fun _ => leased⟩
  | bind => exact .inl ⟨rfl, rfl, rfl, id⟩

theorem passed (edit : RowEdit codec s row new)
    (passed : row.dispatch.deliveryState = .delivered ∨
      row.dispatch.deliveryState = .runTerminal) :
    new.dispatch.deliveryState = .delivered ∨ new.dispatch.deliveryState = .runTerminal := by
  cases edit with
  | same => exact passed
  | close _ => exact .inr rfl
  | lease _ _ _ _ _ claimable =>
    rcases passed with same | same <;> simp [Store.claimable, same] at claimable
  | settle _ _ _ _ _ leased =>
    rcases passed with same | same <;> rw [same] at leased <;> cases leased
  | bind => exact passed

theorem attempted (edit : RowEdit codec s row new) (attempted : 0 < new.dispatch.attemptCount) :
    0 < row.dispatch.attemptCount ∨ ∀ prior ∈ s.rows, prior.runId = row.runId →
      prior.sequence < row.sequence → prior.dispatch.deliveryState = .delivered := by
  cases edit with
  | lease _ _ _ _ _ claimable =>
    right
    intro prior member run earlier
    simp only [Store.claimable, Bool.and_eq_true, List.all_eq_true, Bool.or_eq_true,
      decide_eq_true_eq] at claimable
    rcases claimable.2 prior member with (other | later) | delivered
    · exact absurd run other
    · exact absurd later (Nat.not_le_of_lt earlier)
    · exact delivered
  | settle _ settlement => cases settlement <;> exact .inl attempted
  | _ => exact .inl attempted

theorem closed (edit : RowEdit codec s row new)
    (ended : new.dispatch.deliveryState = .runTerminal) :
    row.dispatch.deliveryState = .runTerminal ∨ (s.terminal row.runId).isSome = true := by
  cases edit with
  | close reconcilable =>
    simp only [Store.reconcilable, Bool.and_eq_true] at reconcilable
    exact .inr reconcilable.2
  | lease => cases ended
  | settle _ settlement => cases settlement <;> cases ended
  | _ => exact .inl ended

theorem bound (edit : RowEdit codec s row new) {activation : ActivationCommand Digest}
    (bound : row.activation = some activation)
    (delivered : row.dispatch.deliveryState = .delivered) :
    new.activation = some activation ∧ new.dispatch.deliveryState = .delivered := by
  cases edit with
  | same => exact ⟨bound, delivered⟩
  | close reconcilable => simp [Store.reconcilable, bound] at reconcilable
  | lease _ _ _ _ _ claimable => simp [Store.claimable, delivered] at claimable
  | settle _ _ _ _ _ leased => rw [delivered] at leased; cases leased
  | bind _ _ unbound => rw [bound] at unbound; cases unbound

end RowEdit

-- The activation of a row starts from a checkpoint that was not terminal and had the activation of
-- the row before it applied.
def Bound (codec : Codec Digest Suspension Outcome Body)
    (s : Store Digest Suspension Outcome Body) (row : Row Digest)
    (activation : ActivationCommand Digest) : Prop :=
  ∃ checkpoint : Checkpoint Digest Suspension Outcome Body,
    activation = row.activationFrom codec checkpoint ∧ checkpoint.content.terminal = false ∧
      (row.sequence = 1 ∨ ∃ prior ∈ s.rows, ∃ before, prior.runId = row.runId ∧
        prior.sequence + 1 = row.sequence ∧ prior.activation = some before ∧
        codec.identity before ∈ checkpoint.content.appliedInputIds)

theorem priorError_none {command : AdmittedCommand Digest}
    {checkpoint : Checkpoint Digest Suspension Outcome Body}
    (complete : priorError codec s command checkpoint = none) : command.commandSequence = 1 ∨
      ∃ prior ∈ s.rows, ∃ before, prior.runId = command.request.runId ∧
        prior.sequence + 1 = command.commandSequence ∧ prior.activation = some before ∧
        codec.identity before ∈ checkpoint.content.appliedInputIds := by
  unfold priorError at complete
  split at complete
  next first => exact .inl first
  next later =>
    right
    split at complete
    · cases complete
    next prior located =>
      have place : prior.runId = command.request.runId ∧
          prior.sequence = command.commandSequence - 1 := by
        simpa using List.find?_some located
      split at complete
      · cases complete
      next before bound =>
        split at complete
        · cases complete
        next applied =>
          have sequenced := command.sequenced
          exact ⟨prior, List.mem_of_find?_eq_some located, before, place.1, by omega, bound,
            not_not.mp applied⟩

variable {row : Row Digest}

theorem RowEdit.binding {new : Row Digest} (edit : RowEdit codec s row new)
    {activation : ActivationCommand Digest} (bound : new.activation = some activation) :
    row.activation = some activation ∨
      new.dispatch.deliveryState = .delivered ∧ Bound codec s row activation := by
  cases edit with
  | bind checkpoint delivered _ _ unended prior =>
    cases bound
    exact .inr ⟨delivered, checkpoint, rfl, unended, priorError_none prior⟩
  | _ => exact .inl bound

structure Inv (codec : Codec Digest Suspension Outcome Body)
    (s : Store Digest Suspension Outcome Body) : Prop where
  authorized : ∀ row ∈ s.rows, (s.authority.table row.runId).isSome = true
  keyed : (s.rows.map Row.key).Nodup
  numbered : ∀ runId, Numbered Row.sequence (s.rowsOf runId)
  counted : ∀ runId, (s.head runId).getD 0 = (s.rowsOf runId).length
  single : ∀ a ∈ s.rows, ∀ b ∈ s.rows, ∀ claimId, a.dispatch.claimId = some claimId →
    b.dispatch.claimId = some claimId → a.key = b.key
  checked : ∀ row ∈ s.rows, row.dispatch.Checked
  ordered : ∀ prior ∈ s.rows, ∀ row ∈ s.rows, prior.runId = row.runId →
    prior.sequence < row.sequence → 0 < row.dispatch.attemptCount →
    prior.dispatch.deliveryState = .delivered ∨ prior.dispatch.deliveryState = .runTerminal
  closed : ∀ row ∈ s.rows, row.dispatch.deliveryState = .runTerminal →
    (s.terminal row.runId).isSome = true
  bound : ∀ row ∈ s.rows, ∀ activation, row.activation = some activation →
    row.dispatch.deliveryState = .delivered ∧ Bound codec s row activation

omit [DecidableEq Digest] [DecidableEq Outcome] in
theorem Inv.find_eq (inv : Inv codec s) {key : Key} {found : Row Digest}
    (located : s.find key = some found) (member : row ∈ s.rows) (same : row.key = key) :
    found = row := by
  have held : found.key = key := by simpa using List.find?_some located
  exact List.inj_on_of_nodup_map inv.keyed (List.mem_of_find?_eq_some located) member
    (held.trans same.symm)

omit [DecidableEq Digest] [DecidableEq Outcome] in
theorem Inv.find_held (inv : Inv codec s) (member : row ∈ s.rows) :
    s.find row.key = some row := by
  cases located : s.find row.key with
  | none => simpa using List.find?_eq_none.mp located row member
  | some found => rw [inv.find_eq located member rfl]

section Updates

variable {key : Key} {set : Row Digest → Row Digest}
variable (each : ∀ row ∈ s.rows, row.key = key → RowEdit codec s row (set row))

include each in
theorem edited (row : Row Digest) (member : row ∈ s.rows) :
    RowEdit codec s row (if row.key = key then set row else row) := by
  split
  next same => exact each row member same
  · exact .same

include each in
theorem update_mem {new : Row Digest} (member : new ∈ (s.update key set).rows) :
    ∃ row ∈ s.rows, RowEdit codec s row new ∧ (row.key ≠ key → new = row) := by
  obtain ⟨row, held, rfl⟩ := List.mem_map.mp member
  refine ⟨row, held, edited each row held, ?_⟩
  intro other
  rw [if_neg other]

include each in
theorem mem_update {row : Row Digest} (member : row ∈ s.rows) :
    ∃ new ∈ (s.update key set).rows, RowEdit codec s row new :=
  ⟨_, List.mem_map_of_mem member, edited each row member⟩

include each in
theorem Bound.update {row new : Row Digest} {activation : ActivationCommand Digest}
    (delivered : ∀ row ∈ s.rows, ∀ activation, row.activation = some activation →
      row.dispatch.deliveryState = .delivered)
    (same : new.command = row.command) (bound : Bound codec s row activation) :
    Bound codec (s.update key set) new activation := by
  obtain ⟨checkpoint, source, unended, place⟩ := bound
  have sequence : new.sequence = row.sequence := congrArg AdmittedCommand.commandSequence same
  have run : new.runId = row.runId := congrArg (fun command => command.request.runId) same
  refine ⟨checkpoint, ?_, unended, ?_⟩
  · rw [source]
    simp only [Row.activationFrom, same]
  · rw [sequence, run]
    refine place.imp_right ?_
    rintro ⟨prior, held, before, sameRun, next, applied, marked⟩
    obtain ⟨later, member, edit⟩ := mem_update each held
    exact ⟨later, member, before, edit.runId.trans sameRun, edit.sequence ▸ next,
      (edit.bound applied (delivered prior held before applied)).1, marked⟩

include each in
theorem rowsOf_update (runId : OpaqueId) : (s.update key set).rowsOf runId =
    (s.rowsOf runId).map fun row => if row.key = key then set row else row := by
  unfold Store.rowsOf Store.update
  rw [List.filter_map]
  congr 1
  refine List.filter_congr fun row member => ?_
  simp only [Function.comp_apply, (edited each row member).runId]

include each in
theorem Inv.update (inv : Inv codec s) : Inv codec (s.update key set) where
  authorized := by
    intro new member
    obtain ⟨row, held, edit, -⟩ := update_mem each member
    rw [edit.runId]
    exact inv.authorized row held
  keyed := by
    have same : (s.update key set).rows.map Row.key = s.rows.map Row.key := by
      rw [Store.update, List.map_map]
      exact List.map_congr_left fun row member => (edited each row member).key
    rw [same]
    exact inv.keyed
  numbered runId := by
    unfold Numbered
    rw [rowsOf_update each, List.map_map, List.length_map, ← inv.numbered runId]
    exact List.map_congr_left fun row member =>
      (edited each row (List.mem_of_mem_filter member)).sequence
  counted runId := by
    rw [rowsOf_update each, List.length_map]
    exact inv.counted runId
  single := by
    intro a first b second claimId one two
    obtain ⟨x, heldX, editX, otherX⟩ := update_mem each first
    obtain ⟨y, heldY, editY, otherY⟩ := update_mem each second
    rw [editX.key, editY.key]
    by_cases same : x.key = y.key
    · exact same
    · exfalso
      -- A claim id that one of the two rows has just got is that of no row before.
      rcases editX.generation with ⟨-, -, oldX, -⟩ | ⟨-, freshX⟩
      · rcases editY.generation with ⟨-, -, oldY, -⟩ | ⟨-, freshY⟩
        · exact same (inv.single x heldX y heldY claimId (oldX ▸ one) (oldY ▸ two))
        · exact freshY x heldX (by rw [two, ← oldX, one])
      · by_cases moved : y.key = key
        · obtain rfl := otherX fun here => same (here.trans moved.symm)
          exact freshX _ heldX rfl
        · obtain rfl := otherY moved
          exact freshX _ heldY (by rw [one, two])
  checked := by
    intro new member
    obtain ⟨row, held, edit, -⟩ := update_mem each member
    exact edit.checked (inv.checked row held)
  ordered := by
    intro first earlier second later run before tried
    obtain ⟨prior, heldP, editP, -⟩ := update_mem each earlier
    obtain ⟨row, heldR, editR, -⟩ := update_mem each later
    rw [editP.runId, editR.runId] at run
    rw [editP.sequence, editR.sequence] at before
    refine editP.passed ?_
    rcases editR.attempted tried with attempted | delivered
    · exact inv.ordered prior heldP row heldR run before attempted
    · exact .inl (delivered prior heldP run before)
  closed := by
    intro new member ended
    obtain ⟨row, held, edit, -⟩ := update_mem each member
    rw [edit.runId]
    rcases edit.closed ended with already | terminal
    · exact inv.closed row held already
    · exact terminal
  bound := by
    intro new member activation has
    obtain ⟨row, held, edit, -⟩ := update_mem each member
    have delivered : ∀ row ∈ s.rows, ∀ activation, row.activation = some activation →
        row.dispatch.deliveryState = .delivered := fun row member activation bound =>
      (inv.bound row member activation bound).1
    rcases edit.binding has with before | ⟨now, bound⟩
    · obtain ⟨sent, bound⟩ := inv.bound row held activation before
      exact ⟨(edit.bound before sent).2, bound.update each delivered edit.command⟩
    · exact ⟨now, bound.update each delivered edit.command⟩

end Updates

omit [DecidableEq Digest] [DecidableEq Outcome] in
theorem Bound.mono {row : Row Digest} {activation : ActivationCommand Digest}
    (bound : Bound codec s row activation) (grown : s.rows ⊆ t.rows) :
    Bound codec t row activation := by
  obtain ⟨checkpoint, source, unended, place⟩ := bound
  refine ⟨checkpoint, source, unended, place.imp_right ?_⟩
  rintro ⟨prior, held, further⟩
  exact ⟨prior, grown held, further⟩

omit [DecidableEq Digest] [DecidableEq Outcome] in
theorem Inv.admitRow (inv : Inv codec s) {command : AdmittedCommand Digest} (now : Nat)
    (authorized : (s.authority.table command.request.runId).isSome = true)
    (vacant : ∀ row ∈ s.rows, row.key ≠ command.request.key)
    (next : command.commandSequence = (s.head command.request.runId).getD 0 + 1) :
    Inv codec { s with
      head := Function.update s.head command.request.runId (some command.commandSequence)
      rows := s.rows ++ [⟨command, none, .admitted now⟩] } := by
  let new : Row Digest := ⟨command, none, .admitted now⟩
  have last : new.sequence = (s.rowsOf command.request.runId).length + 1 :=
    next.trans (congrArg (· + 1) (inv.counted _))
  -- The fields below speak of the rows that were there and of the one that is added.
  have split {property : Row Digest → Prop} (old : ∀ row ∈ s.rows, property row)
      (added : property new) : ∀ row ∈ s.rows ++ [new], property row := by
    simp only [List.forall_mem_append, List.forall_mem_singleton]
    exact ⟨old, added⟩
  have listed (runId : OpaqueId) : (s.rows ++ [new]).filter (fun row => row.runId = runId) =
      if new.runId = runId then s.rowsOf runId ++ [new] else s.rowsOf runId := by
    rw [List.filter_append]
    split
    next mine => simp [Store.rowsOf, mine]
    next other => simp [Store.rowsOf, other]
  constructor
  case authorized => exact split inv.authorized authorized
  case keyed =>
    rw [List.map_append, List.nodup_append]
    refine ⟨inv.keyed, List.nodup_singleton _, ?_⟩
    intro key member other single same
    obtain ⟨row, held, rfl⟩ := List.mem_map.mp member
    obtain rfl := List.mem_singleton.mp single
    exact vacant row held same
  case numbered =>
    intro runId
    rw [Store.rowsOf, listed]
    split
    next mine =>
      subst mine
      exact (inv.numbered _).append last
    · exact inv.numbered runId
  case counted =>
    intro runId
    rw [Store.rowsOf, listed]
    change (Function.update s.head new.runId _ runId).getD 0 = _
    split
    next mine =>
      subst mine
      rw [Function.update_self, List.length_append]
      exact last
    next other =>
      rw [Function.update_of_ne (Ne.symm other)]
      exact inv.counted runId
  case single =>
    refine split (fun a first => split (inv.single a first) ?_) ?_
    · intro _ _ none; cases none
    · intro _ _ _ none; cases none
  case checked => exact split inv.checked (Dispatch.admitted_checked now)
  case ordered =>
    refine split (fun prior held => split (inv.ordered prior held) ?_) (split ?_ ?_)
    · intro _ _ tried; cases tried
    · intro row held run later
      have member : row ∈ s.rowsOf command.request.runId := by
        simpa [Store.rowsOf, held] using (show row.runId = command.request.runId from run.symm)
      have bounded := ((inv.numbered _).number_le member).2
      omega
    · intro _ _ tried; cases tried
  case closed =>
    refine split inv.closed ?_
    intro ended
    cases ended
  case bound =>
    refine split (fun row held activation bound => ?_) ?_
    · obtain ⟨delivered, source⟩ := inv.bound row held activation bound
      exact ⟨delivered, source.mono (List.subset_append_left _ _)⟩
    · intro _ none; cases none

theorem Inv.edit (inv : Inv codec s) (edit : Edit codec commits s t) : Inv codec t := by
  cases edit with
  | other _ rows head terminal authority =>
    have authorized : ∀ row ∈ s.rows, (t.authority.table row.runId).isSome = true := by
      intro row member
      obtain ⟨old, stored⟩ := Option.isSome_iff_exists.mp (inv.authorized row member)
      obtain ⟨new, kept, -⟩ := authority.2 _ old stored
      exact Option.isSome_iff_exists.mpr ⟨new, kept⟩
    obtain ⟨_, _, _, _, _⟩ := t
    subst rows head
    refine ⟨authorized, inv.keyed, inv.numbered, inv.counted, inv.single, inv.checked,
      inv.ordered, ?_, ?_⟩
    · exact fun row member ended => terminal _ (inv.closed row member ended)
    · intro row member activation bound
      exact (inv.bound row member activation bound).imp_right (·.mono (List.Subset.refl _))
  | admitRow command now authorized vacant next => exact inv.admitRow now authorized vacant next
  | row key set each => exact inv.update each

theorem reconcile_edit (s : Store Digest Suspension Outcome Body) (picked : Option Key) :
    Edit codec commits s (s.reconcile picked) := by
  cases picked with
  | none => exact .other s rfl rfl (fun _ => id) (.refl _) (.inl rfl)
  | some key =>
    refine .row key _ fun row _ _ => ?_
    split
    next reconcilable => exact .close reconcilable
    · exact .same

omit [DecidableEq Digest] [DecidableEq Outcome] in
theorem reconcile_claimId {picked : Option Key} {later : Row Digest}
    (member : later ∈ (s.reconcile picked).rows) :
    ∃ row ∈ s.rows, later.dispatch.claimId = row.dispatch.claimId := by
  cases picked with
  | none => exact ⟨later, member, rfl⟩
  | some key =>
    obtain ⟨row, held, rfl⟩ := List.mem_map.mp member
    refine ⟨row, held, ?_⟩
    dsimp only
    split
    · split <;> rfl
    · rfl

abbrev Edits (codec : Codec Digest Suspension Outcome Body) (commits : Prop)
    (s t : Store Digest Suspension Outcome Body) : Prop :=
  Relation.ReflTransGen (Edit codec commits) s t

theorem Edits.inv (edits : Edits codec commits s t) (inv : Inv codec s) : Inv codec t := by
  induction edits with
  | refl => exact inv
  | tail _ edit ih => exact ih.edit edit

theorem admit_edits (requestIdentity : AdmissionRequest Digest → Digest)
    (s : Store Digest Suspension Outcome Body) (request : AdmissionRequest Digest) (now : Nat) :
    Edits codec commits s (admitRequest requestIdentity s request now).1 := by
  unfold admitRequest
  split
  · exact .refl
  next authority stored =>
    split
    · split <;> exact .refl
    next absent =>
      split
      · exact .refl
      · dsimp only
        split
        · refine .single (.admitRow ⟨request, _, _⟩ now (by rw [stored]; rfl) ?_ rfl)
          intro row member
          simpa using List.find?_eq_none.mp absent row member
        · exact .refl

theorem Inv.claim_edits (inv : Inv codec s) (ownerId claimId : OpaqueId) (lease : Nat)
    (reconciled candidate : Option Key) (selectedAt leasedAt readAt : Nat) :
    Edits codec commits s
      (claimDispatch s ownerId claimId lease reconciled candidate selectedAt leasedAt
      readAt).1 := by
  unfold claimDispatch
  split
  · exact .refl
  · split
    next existing _ =>
      split
      · exact .refl
      · split
        · exact .single (reconcile_edit s (some existing.key))
        · split <;> [exact .refl; (split <;> exact .refl)]
    next unknown =>
      have closing : Edit codec commits s (s.reconcile reconciled) := reconcile_edit s _
      have closed := inv.edit closing
      dsimp only
      split
      · exact .single closing
      next row picked =>
        obtain ⟨key, -, located⟩ := Option.bind_eq_some_iff.mp picked
        split
        next claimable =>
          split
          · refine .tail (.single closing) (.row row.key _ fun other member same => ?_)
            have here := List.inj_on_of_nodup_map closed.keyed member
              (List.mem_of_find?_eq_some located) same
            subst here
            refine .lease ownerId claimId _ selectedAt ?_ claimable
            intro later held taken
            obtain ⟨before, there, same⟩ := reconcile_claimId held
            simpa [← same, taken] using List.find?_eq_none.mp unknown before there
          · exact .refl
        · exact .single closing

theorem Inv.settle_edits (inv : Inv codec s) (token : DispatchToken) (settlement : Settlement)
    (readAt updatedAt : Nat) :
    Edits codec commits s (settleDispatch s token settlement readAt updatedAt).1 := by
  unfold settleDispatch
  split
  · exact .refl
  next valid =>
    split
    · exact .refl
    · split
      · exact .refl
      next row located =>
        split
        · exact .refl
        · split
          next held =>
            refine .single (.row token.key _ fun other member same => ?_)
            obtain rfl := inv.find_eq located member same
            exact .settle token settlement updatedAt held.1 (by simpa using valid) held.2.1
          · exact .refl

theorem Inv.bind_edits (inv : Inv codec s) (command : AdmittedCommand Digest)
    (writerToken : WriterToken) (now : Nat) :
    Edits codec commits s (bindActivation codec s command writerToken now).1 := by
  unfold bindActivation
  split
  · exact .refl
  · split
    · exact .refl
    · split
      · exact .refl
      next row located =>
        split
        · exact .refl
        next same =>
          obtain rfl := not_not.mp same
          split
          · exact .refl
          next delivered =>
            split
            · exact .refl
            next unbound =>
              split
              · exact .refl
              · split
                · exact .refl
                next checkpoint stored =>
                  split
                  · exact .refl
                  next unended =>
                    split
                    · exact .refl
                    next prior =>
                      refine .single (.row row.key _ fun other member here => ?_)
                      obtain rfl := inv.find_eq located member here
                      exact .bind checkpoint (not_not.mp delivered) unbound stored
                        (by simpa using unended) prior

theorem settleTerminal_edits (s : Store Digest Suspension Outcome Body) (writerToken : WriterToken)
    (outcome : Outcome) (now : Nat) :
    Edits codec commits s (settleTerminal s writerToken outcome now).1 := by
  unfold settleTerminal
  split
  · refine .single (.other _ rfl rfl (fun runId ended => ?_) (.refl _) (.inl rfl))
    dsimp only
    by_cases mine : runId = writerToken.runId
    · simp [mine]
    · rwa [Function.update_of_ne mine]
  · exact .refl

variable (requestIdentity : AdmissionRequest Digest → Digest)

theorem Inv.next_edits (inv : Inv codec s) (label : Label Digest Suspension Outcome Body) :
    Edits codec (label.commits = true) s ((machine requestIdentity codec).next s label) := by
  cases label with
  | authority label =>
    exact .single (.other _ rfl rfl (fun _ => id) (Authority.next_continues s.authority label)
      (.inl rfl))
  | admitRequest request now => exact admit_edits requestIdentity s request now
  | claimDispatch ownerId claimId lease reconciled candidate selectedAt leasedAt readAt =>
    exact inv.claim_edits ..
  | settleDispatch token settlement readAt updatedAt => exact inv.settle_edits ..
  | bindActivation command writerToken now => exact inv.bind_edits ..
  | commitCheckpoint writerToken checkpoint now =>
    change Edits codec _ s (commitCheckpoint s writerToken checkpoint now).1
    unfold commitCheckpoint
    split
    · split <;> [exact .refl; exact .single (.other _ rfl rfl (fun _ => id) (.refl _) (.inr rfl))]
    · exact .refl
  | settleTerminal writerToken outcome now => exact settleTerminal_edits s writerToken outcome now

theorem Inv.init : Inv codec (machine requestIdentity codec).init where
  authorized := by simp [machine]
  keyed := List.nodup_nil
  numbered _ := .nil _
  counted _ := rfl
  single := by simp [machine]
  checked := by simp [machine]
  ordered := by simp [machine]
  closed := by simp [machine]
  bound := by simp [machine]

theorem Edits.mono (edits : Edits codec commits s t) : Edits codec True s t := by
  refine edits.lift id fun s t edit => ?_
  cases edit with
  | other _ rows head terminal authority =>
    exact .other t rows head terminal authority (.inr trivial)
  | admitRow command now authorized vacant next =>
    exact .admitRow command now authorized vacant next
  | row key set each => exact .row key set each

theorem Inv.exec_edits (inv : Inv codec s) (labels : List (Label Digest Suspension Outcome Body)) :
    Edits codec True s ((machine requestIdentity codec).exec s labels) :=
  (machine requestIdentity codec).exec_related (Inv codec)
    (fun _ label inv => (inv.next_edits requestIdentity label).inv inv) (Edits codec True)
    (fun _ => .refl) (fun _ _ _ => .trans)
    (fun _ label inv => (inv.next_edits requestIdentity label).mono)
    s inv labels

theorem inv_exec (labels : List (Label Digest Suspension Outcome Body)) :
    Inv codec ((machine requestIdentity codec).exec (machine requestIdentity codec).init labels) :=
  ((Inv.init requestIdentity).exec_edits requestIdentity labels).inv (Inv.init requestIdentity)

theorem Edit.follow (edit : Edit codec commits s t) {row : Row Digest} (member : row ∈ s.rows) :
    ∃ new ∈ t.rows, RowEdit codec s row new := by
  cases edit with
  | other _ rows => exact ⟨row, rows ▸ member, .same⟩
  | admitRow => exact ⟨row, List.mem_append_left _ member, .same⟩
  | row key set each => exact mem_update each member

theorem Edits.lasting {property : Row Digest → Prop}
    (kept : ∀ s row new, RowEdit codec s row new → property row → property new)
    (edits : Edits codec commits s t) (held : ∃ row ∈ s.rows, property row) :
    ∃ row ∈ t.rows, property row := by
  induction edits with
  | refl => exact held
  | tail _ edit ih =>
    obtain ⟨row, member, has⟩ := ih
    obtain ⟨new, later, change⟩ := edit.follow member
    exact ⟨new, later, kept _ row new change has⟩

theorem Edit.commands (edit : Edit codec commits s t) :
    s.rows.map Row.command <+: t.rows.map Row.command := by
  cases edit with
  | other _ rows => rw [rows]
  | admitRow => exact ⟨_, List.map_append.symm⟩
  | row key set each =>
    have same : (s.update key set).rows.map Row.command = s.rows.map Row.command := by
      rw [Store.update, List.map_map]
      exact List.map_congr_left fun row member => (edited each row member).command
    rw [same]

theorem Edits.commands (edits : Edits codec commits s t) :
    s.rows.map Row.command <+: t.rows.map Row.command := by
  induction edits with
  | refl => exact List.prefix_refl _
  | tail _ edit ih => exact ih.trans edit.commands

end

end MonoidKernel.Admission
