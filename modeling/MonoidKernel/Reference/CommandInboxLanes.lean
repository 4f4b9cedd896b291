import MonoidKernel.Reference.CommandInbox

set_option autoImplicit false

namespace MonoidKernel.CommandInbox

open Library Library.ClaimLane

variable (runtime : TextRuntime) (codec : JsonCodec)

variable {Result : Type}

def stageOf (status : CommandStatus) (worker : String) (result : Result) :
    Stage String (CommandStatus × Result) :=
  match status with
  | .pending => .waiting
  | .claimed => .held worker
  | status => .done worker (status, result)

@[simp] theorem stageOf_isOpen (status : CommandStatus) (worker : String) (result : Result) :
    (stageOf status worker result).isOpen = status.isOpen := by
  cases status <;> rfl

theorem stageOf_held {status : CommandStatus} {holder worker : String} {result : Result} :
    stageOf status holder result = .held worker ↔ status = .claimed ∧ holder = worker := by
  cases status <;> simp [stageOf]

theorem stageOf_acknowledged (answer : ControlResult) (worker : String) (result : Result) :
    stageOf (acknowledgedStatus answer) worker result =
      .done worker (acknowledgedStatus answer, result) := by
  unfold acknowledgedStatus
  split <;> rfl

def Call.deed (keep : ControlResult → Option Result) :
    Call → Deed (String × String) String String (CommandStatus × Option Result)
  | .append command maxPending _ => .enqueue command.key command.runId maxPending.toNat
  | .claim runId workerId _ _ => .take runId workerId
  | .acknowledge runId commandId workerId result _ =>
    match keep result with
    | some kept => .finish (runId, commandId) workerId (acknowledgedStatus result, some kept)
    | none => .nothing
  | _ => .nothing

def Call.Submits : Call → Prop
  | .append command _ _ => command.status = .pending
  | _ => True

theorem normalizeStoredCommand_ok {command submitted : StoredCommand}
    (normal : normalizeStoredCommand runtime command = .ok submitted) :
    command.type ∈ commandTypes ∧
      submitted = { command with args := sanitizeArgs runtime command.type command.args } := by
  unfold normalizeStoredCommand at normal
  split at normal
  · cases normal
  next known => exact ⟨not_not.1 known, (Except.ok.inj normal).symm⟩

namespace InMemoryCommandStore

variable {store : InMemoryCommandStore}

def ticket (store : InMemoryCommandStore) (command : StoredCommand) :
    Ticket String String (CommandStatus × Option Fields) :=
  ⟨command.runId,
    stageOf command.status command.claimedBy (store.results.get? command.key)⟩

def board (store : InMemoryCommandStore) :
    Line (String × String) String String (CommandStatus × Option Fields) :=
  store.commands.mapValues store.ticket

def keep (result : ControlResult) : Option Fields :=
  (normalizeResultPayload runtime result).toOption

def Keyed (store : InMemoryCommandStore) : Prop :=
  ∀ key command, store.commands.get? key = some command → key = command.key

theorem waits_ticket (runId : String) (command : StoredCommand) : waits runId command =
    (decide ((store.ticket command).lane = runId) && (store.ticket command).stage.isOpen) := by
  simp only [waits, ticket, stageOf_isOpen]
  rfl

theorem board_set {key : String × String} (command : StoredCommand) :
    board { store with commands := store.commands.set key command } =
      store.board.set key (store.ticket command) :=
  store.commands.mapValues_set command fun _ _ _ _ => rfl

theorem append_cases (store : InMemoryCommandStore) (command : StoredCommand) (maxPending : Int)
    (requireEmpty : Bool) :
    (store.append runtime command maxPending requireEmpty).1 = store ∨
      ∃ submitted, normalizeStoredCommand runtime command = .ok submitted ∧
        store.commands.get? submitted.key = none ∧ ¬ maxPending ≤ store.pending submitted.runId ∧
        (store.append runtime command maxPending requireEmpty).1 =
          { store with commands := store.commands.set submitted.key submitted } := by
  unfold append
  split
  · exact .inl rfl
  next submitted normal =>
    split
    · exact .inl rfl
    · split
      · split <;> exact .inl rfl
      next absent =>
        split
        · exact .inl rfl
        · split
          · exact .inl rfl
          next room => exact .inr ⟨submitted, normal, absent, room, rfl⟩

theorem claim_cases (store : InMemoryCommandStore) (runId workerId : String) (claimTtl now : Rat) :
    (store.claim runId workerId claimTtl now).1 = store ∨
      ∃ selected, store.commands.values.find? (waits runId) = some selected ∧
        ¬ (selected.status = .claimed ∧ selected.claimedBy = workerId) ∧
        (store.claim runId workerId claimTtl now).1 =
          { store with
            commands := store.commands.set (runId, selected.commandId)
              { selected with status := .claimed, claimedBy := workerId, claimedAt := now } } := by
  unfold claim
  split
  · exact .inl rfl
  next selected found =>
    split
    · exact .inl rfl
    next free =>
      exact .inr ⟨selected, found, fun held => free ⟨held.1, .inl held.2⟩, rfl⟩

theorem acknowledge_cases (store : InMemoryCommandStore) (runId commandId workerId : String)
    (result : ControlResult) :
    (store.acknowledge runtime runId commandId workerId result).1 = store ∨
      ∃ payload command, normalizeResultPayload runtime result = .ok payload ∧
        store.commands.get? (runId, commandId) = some command ∧
        command.status = .claimed ∧ command.claimedBy = workerId ∧
        (store.acknowledge runtime runId commandId workerId result).1 =
          ⟨store.commands.set (runId, commandId)
            { command with status := acknowledgedStatus result },
            store.results.set (runId, commandId) payload⟩ := by
  unfold acknowledge
  split
  · exact .inl rfl
  next payload normal =>
    split
    · exact .inl rfl
    next command found =>
      split
      · exact .inl rfl
      next held =>
        rw [not_or, not_not, not_not] at held
        exact .inr ⟨payload, command, normal, found, held.1, held.2, rfl⟩

theorem keyed_set {key : String × String} {command : StoredCommand} (keyed : store.Keyed)
    (own : key = command.key) (results : OrderedDict (String × String) Fields) :
    Keyed ⟨store.commands.set key command, results⟩ := by
  intro other held found
  change (store.commands.set key command).get? other = some held at found
  rw [OrderedDict.get?_set] at found
  split at found
  next same =>
    cases found
    exact same.trans own
  · exact keyed other held found

theorem call_keyed (keyed : store.Keyed) (call : Call) : (store.call runtime call).1.Keyed := by
  cases call with
  | readCommand runId commandId => exact keyed
  | receipt runId commandId => exact keyed
  | append command maxPending requireEmpty =>
    change Keyed (store.append runtime command maxPending requireEmpty).1
    obtain same | ⟨submitted, -, -, -, next⟩ :=
      append_cases runtime store command maxPending requireEmpty
    · rw [same]; exact keyed
    · rw [next]; exact keyed_set keyed rfl store.results
  | claim runId workerId claimTtl now =>
    change Keyed (store.claim runId workerId claimTtl now).1
    obtain same | ⟨selected, found, -, next⟩ :=
      claim_cases store runId workerId claimTtl now
    · rw [same]; exact keyed
    · rw [next]
      have waiting := List.find?_some found
      simp only [waits, Bool.and_eq_true, decide_eq_true_eq] at waiting
      exact keyed_set keyed (by rw [← waiting.1]; rfl) store.results
  | acknowledge runId commandId workerId result now =>
    change Keyed (store.acknowledge runtime runId commandId workerId result).1
    obtain same | ⟨payload, command, -, found, -, -, next⟩ :=
      acknowledge_cases runtime store runId commandId workerId result
    · rw [same]; exact keyed
    · have own := keyed _ _ found
      rw [next]
      refine keyed_set keyed ?_ _
      exact own

theorem call_moves (keyed : store.Keyed) {call : Call} (submits : call.Submits) :
    Move (call.deed (keep runtime)) store.board (store.call runtime call).1.board := by
  cases call with
  | readCommand runId commandId => exact .stay _ _
  | receipt runId commandId => exact .stay _ _
  | append command maxPending requireEmpty =>
    change Move _ _ (store.append runtime command maxPending requireEmpty).1.board
    obtain same | ⟨submitted, normal, absent, room, next⟩ :=
      append_cases runtime store command maxPending requireEmpty
    · rw [same]; exact .stay _ _
    · obtain ⟨-, rfl⟩ := normalizeStoredCommand_ok runtime normal
      rw [next, board_set]
      have fresh : store.board.get? command.key = none := by
        rw [board, OrderedDict.get?_mapValues]
        exact congrArg (Option.map store.ticket) absent
      have waiting : store.ticket { command with
          args := sanitizeArgs runtime command.type command.args } =
          ⟨command.runId, .waiting⟩ := by
        simp only [ticket, stageOf]
        rw [show command.status = .pending from submits]
      rw [waiting]
      refine .enqueue fresh ?_
      rw [board, load_mapValues _ _ (waits_ticket command.runId)]
      change store.pending command.runId < maxPending.toNat
      change ¬ maxPending ≤ store.pending command.runId at room
      omega
  | claim runId workerId claimTtl now =>
    change Move _ _ (store.claim runId workerId claimTtl now).1.board
    obtain same | ⟨selected, found, free, next⟩ :=
      claim_cases store runId workerId claimTtl now
    · rw [same]; exact .stay _ _
    · rw [next, board_set]
      obtain ⟨key, here, oldest⟩ :=
        head_mapValues store.commands store.ticket (waits_ticket runId) found
      have waiting := List.find?_some found
      simp only [waits, Bool.and_eq_true, decide_eq_true_eq] at waiting
      have own : key = (runId, selected.commandId) := by
        rw [keyed key selected here, ← waiting.1]; rfl
      have taken : store.ticket
          { selected with status := .claimed, claimedBy := workerId, claimedAt := now } =
          ⟨runId, .held workerId⟩ := by
        simp only [ticket, stageOf, waiting.1]
      rw [taken, ← own]
      exact .take oldest fun held => free (stageOf_held.1 held)
  | acknowledge runId commandId workerId result now =>
    change Move _ _ (store.acknowledge runtime runId commandId workerId result).1.board
    obtain same | ⟨payload, command, normal, found, claimed, holder, next⟩ :=
      acknowledge_cases runtime store runId commandId workerId result
    · rw [same]; exact .stay _ _
    · have own := keyed _ _ found
      have kept : keep runtime result = some payload := by rw [keep, normal]; rfl
      have asked : Call.deed (keep runtime) (.acknowledge runId commandId workerId result now) =
          .finish (runId, commandId) workerId (acknowledgedStatus result, some payload) := by
        simp only [Call.deed, kept]
      have elsewhere : ∀ other held, other ≠ (runId, commandId) →
          store.commands.get? other = some held →
          ticket ⟨store.commands, store.results.set (runId, commandId) payload⟩ held =
            store.ticket held := by
        intro other held apart there
        have away : held.key ≠ (runId, commandId) := keyed _ _ there ▸ apart
        simp only [ticket, OrderedDict.get?_set_ne _ _ away]
      have mine : ticket ⟨store.commands, store.results.set (runId, commandId) payload⟩
          { command with status := acknowledgedStatus result } =
          ⟨command.runId, .done workerId (acknowledgedStatus result, some payload)⟩ := by
        change (⟨command.runId, stageOf (acknowledgedStatus result) command.claimedBy
          ((store.results.set (runId, commandId) payload).get? command.key)⟩ :
            Ticket String String (CommandStatus × Option Fields)) = _
        rw [← own, OrderedDict.get?_set_self, stageOf_acknowledged, holder]
      have changed : board ⟨store.commands.set (runId, commandId)
            { command with status := acknowledgedStatus result },
            store.results.set (runId, commandId) payload⟩ =
          store.board.set (runId, commandId)
            (ticket ⟨store.commands, store.results.set (runId, commandId) payload⟩
              { command with status := acknowledgedStatus result }) :=
        store.commands.mapValues_set _ elsewhere
      rw [mine] at changed
      rw [next, asked, changed]
      refine .finish ?_
      rw [board, OrderedDict.get?_mapValues, found, Option.map_some]
      simp only [ticket, claimed, holder, stageOf]

end InMemoryCommandStore

namespace SqliteCommandStore

variable {store : SqliteCommandStore}

def ticket (row : Row) : Ticket String String (CommandStatus × Option String) :=
  ⟨row.runId, stageOf row.status row.claimedBy row.result⟩

def board (store : SqliteCommandStore) :
    Line (String × String) String String (CommandStatus × Option String) :=
  store.rows.mapValues ticket

def keep (result : ControlResult) : Option String :=
  match normalizeResultPayload runtime result with
  | .ok payload => (dumps codec payload).toOption
  | .error _ => none

def Keyed (store : SqliteCommandStore) : Prop :=
  ∀ key row, store.rows.get? key = some row → key = (row.runId, row.commandId)

theorem waits_ticket (runId : String) (row : Row) : waits runId row =
    (decide ((ticket row).lane = runId) && (ticket row).stage.isOpen) := by
  simp only [waits, ticket, stageOf_isOpen]
  rfl

theorem board_set (key : String × String) (row : Row) :
    board ⟨store.rows.set key row⟩ = store.board.set key (ticket row) :=
  store.rows.mapValues_set row fun _ _ _ _ => rfl

theorem append_cases (store : SqliteCommandStore) (command : StoredCommand) (maxPending : Int)
    (requireEmpty : Bool) :
    (store.append runtime codec command maxPending requireEmpty).1 = store ∨
      ∃ submitted args principal, normalizeStoredCommand runtime command = .ok submitted ∧
        store.rows.get? submitted.key = none ∧ ¬ maxPending ≤ store.pending submitted.runId ∧
        (store.append runtime codec command maxPending requireEmpty).1 =
          ⟨store.rows.set submitted.key (inserted submitted args principal)⟩ := by
  unfold append
  split
  · exact .inl rfl
  next submitted normal =>
    split
    · exact .inl rfl
    · split
      · split
        · exact .inl rfl
        · split <;> exact .inl rfl
      next absent =>
        split
        · exact .inl rfl
        · split
          · exact .inl rfl
          next room =>
            unfold insert
            split
            next args principal _ _ =>
              exact .inr ⟨submitted, args, principal, normal, absent, room, rfl⟩
            · exact .inl rfl
            · exact .inl rfl

theorem claim_cases (store : SqliteCommandStore) (runId workerId : String) (claimTtl now : Rat) :
    (store.claim runtime codec runId workerId claimTtl now).1 = store ∨
      ∃ row, store.rows.values.find? (waits runId) = some row ∧
        ¬ (row.status = .claimed ∧ row.claimedBy = workerId) ∧
        (store.claim runtime codec runId workerId claimTtl now).1 =
          ⟨store.rows.set (row.runId, row.commandId)
            { row with
              status := .claimed, claimedBy := workerId, claimedAt := now, updatedAt := now }⟩ := by
  unfold claim
  split
  · exact .inl rfl
  next row found =>
    split
    · exact .inl rfl
    next free => exact .inr ⟨row, found, fun held => free ⟨held.1, .inl held.2⟩, rfl⟩

theorem acknowledge_cases (store : SqliteCommandStore) (runId commandId workerId : String)
    (result : ControlResult)
    (now : Rat) :
    (store.acknowledge runtime codec runId commandId workerId result now).1 = store ∨
      ∃ text row, keep runtime codec result = some text ∧
        store.rows.get? (runId, commandId) = some row ∧
        row.status = .claimed ∧ row.claimedBy = workerId ∧
        (store.acknowledge runtime codec runId commandId workerId result now).1 =
          ⟨store.rows.set (runId, commandId)
            { row with
              status := acknowledgedStatus result, result := some text, updatedAt := now }⟩ := by
  unfold acknowledge
  split
  · exact .inl rfl
  next payload normal =>
    split
    · exact .inl rfl
    next text written =>
      split
      · exact .inl rfl
      next row found =>
        split
        · exact .inl rfl
        next held =>
          rw [not_or, not_not, not_not] at held
          have kept : keep runtime codec result = some text := by
            simp only [keep, normal, written]
            rfl
          exact .inr ⟨text, row, kept, found, held.1, held.2, rfl⟩

theorem keyed_set {key : String × String} {row : Row} (keyed : store.Keyed)
    (own : key = (row.runId, row.commandId)) : Keyed ⟨store.rows.set key row⟩ := by
  intro other held found
  change (store.rows.set key row).get? other = some held at found
  rw [OrderedDict.get?_set] at found
  split at found
  next same =>
    cases found
    exact same.trans own
  · exact keyed other held found

theorem call_keyed (keyed : store.Keyed) (call : Call) :
    (store.call runtime codec call).1.Keyed := by
  cases call with
  | readCommand runId commandId => exact keyed
  | receipt runId commandId => exact keyed
  | append command maxPending requireEmpty =>
    change Keyed (store.append runtime codec command maxPending requireEmpty).1
    obtain same | ⟨submitted, args, principal, -, -, -, next⟩ :=
      append_cases runtime codec store command maxPending requireEmpty
    · rw [same]; exact keyed
    · rw [next]; exact keyed_set keyed rfl
  | claim runId workerId claimTtl now =>
    change Keyed (store.claim runtime codec runId workerId claimTtl now).1
    obtain same | ⟨row, -, -, next⟩ :=
      claim_cases runtime codec store runId workerId claimTtl now
    · rw [same]; exact keyed
    · rw [next]; exact keyed_set keyed rfl
  | acknowledge runId commandId workerId result now =>
    change Keyed (store.acknowledge runtime codec runId commandId workerId result now).1
    obtain same | ⟨text, row, -, found, -, -, next⟩ :=
      acknowledge_cases runtime codec store runId commandId workerId result now
    · rw [same]; exact keyed
    · have own := keyed _ _ found
      rw [next]
      refine keyed_set keyed ?_
      exact own

theorem call_moves (keyed : store.Keyed) (call : Call) :
    Move (call.deed (keep runtime codec)) store.board
      (store.call runtime codec call).1.board := by
  cases call with
  | readCommand runId commandId => exact .stay _ _
  | receipt runId commandId => exact .stay _ _
  | append command maxPending requireEmpty =>
    change Move _ _ (store.append runtime codec command maxPending requireEmpty).1.board
    obtain same | ⟨submitted, args, principal, normal, absent, room, next⟩ :=
      append_cases runtime codec store command maxPending requireEmpty
    · rw [same]; exact .stay _ _
    · obtain ⟨-, rfl⟩ := normalizeStoredCommand_ok runtime normal
      rw [next, board_set]
      have fresh : store.board.get? command.key = none := by
        rw [board, OrderedDict.get?_mapValues]
        exact congrArg (Option.map ticket) absent
      refine .enqueue fresh ?_
      rw [board, load_mapValues _ _ (waits_ticket command.runId)]
      change store.pending command.runId < maxPending.toNat
      change ¬ maxPending ≤ store.pending command.runId at room
      omega
  | claim runId workerId claimTtl now =>
    change Move _ _ (store.claim runtime codec runId workerId claimTtl now).1.board
    obtain same | ⟨row, found, free, next⟩ :=
      claim_cases runtime codec store runId workerId claimTtl now
    · rw [same]; exact .stay _ _
    · rw [next, board_set]
      obtain ⟨key, here, oldest⟩ :=
        head_mapValues store.rows ticket (waits_ticket runId) found
      have waiting := List.find?_some found
      simp only [waits, Bool.and_eq_true, decide_eq_true_eq] at waiting
      have taken : ticket { row with
          status := .claimed, claimedBy := workerId, claimedAt := now, updatedAt := now } =
          ⟨runId, .held workerId⟩ := by
        simp only [ticket, stageOf, waiting.1]
      rw [taken, ← keyed key row here]
      exact .take oldest fun held => free (stageOf_held.1 held)
  | acknowledge runId commandId workerId result now =>
    change Move _ _ (store.acknowledge runtime codec runId commandId workerId result now).1.board
    obtain same | ⟨text, row, kept, found, claimed, holder, next⟩ :=
      acknowledge_cases runtime codec store runId commandId workerId result now
    · rw [same]; exact .stay _ _
    · have asked : Call.deed (keep runtime codec)
          (.acknowledge runId commandId workerId result now) =
          .finish (runId, commandId) workerId (acknowledgedStatus result, some text) := by
        simp only [Call.deed, kept]
      have finished : ticket { row with
          status := acknowledgedStatus result, result := some text, updatedAt := now } =
          ⟨row.runId, .done workerId (acknowledgedStatus result, some text)⟩ := by
        simp only [ticket, stageOf_acknowledged, holder]
      rw [next, asked, board_set, finished]
      refine .finish ?_
      rw [board, OrderedDict.get?_mapValues, found, Option.map_some]
      simp only [ticket, claimed, holder, stageOf]

end SqliteCommandStore

section Runs

def memoryMachine : Machine InMemoryCommandStore Call Answer where
  init := .empty
  step := fun store call => store.call runtime call

def sqliteMachine : Machine SqliteCommandStore Call Answer where
  init := .empty
  step := fun store call => store.call runtime codec call

theorem memory_kept (calls : List Call) (submits : ∀ call ∈ calls, call.Submits) :
    Kept (memoryMachine runtime) InMemoryCommandStore.board
      (Call.deed (InMemoryCommandStore.keep runtime)) .empty calls := by
  refine kept_along rfl ?_
  have each (store : InMemoryCommandStore) (keyed : store.Keyed) :
      (memoryMachine runtime).Along (Moves (memoryMachine runtime) InMemoryCommandStore.board
        (Call.deed (InMemoryCommandStore.keep runtime))) store calls := by
    induction calls generalizing store with
    | nil => trivial
    | cons call rest ih =>
      constructor
      · exact InMemoryCommandStore.call_moves runtime keyed (submits call List.mem_cons_self)
      · exact ih (fun later member => submits later (List.mem_cons_of_mem _ member)) _
          (InMemoryCommandStore.call_keyed runtime keyed call)
  exact each _ fun key command found => by cases found

theorem sqlite_kept (calls : List Call) :
    Kept (sqliteMachine runtime codec) SqliteCommandStore.board
      (Call.deed (SqliteCommandStore.keep runtime codec)) .empty calls := by
  refine kept_along rfl ?_
  have each (store : SqliteCommandStore) (keyed : store.Keyed) :
      (sqliteMachine runtime codec).Along (Moves (sqliteMachine runtime codec)
        SqliteCommandStore.board (Call.deed (SqliteCommandStore.keep runtime codec)))
        store calls := by
    induction calls generalizing store with
    | nil => trivial
    | cons call rest ih =>
      exact ⟨SqliteCommandStore.call_moves runtime codec keyed call,
        ih _ (SqliteCommandStore.call_keyed runtime codec keyed call)⟩
  exact each _ fun key row found => by cases found

end Runs

end MonoidKernel.CommandInbox
