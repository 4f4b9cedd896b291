import MonoidKernel.Postgres.AdmissionRuns

set_option autoImplicit false

namespace MonoidKernel.Admission

open MonoidKernel.Activation
open Library (Numbered)

variable {Digest Suspension Outcome Body : Type} [DecidableEq Digest]
variable {codec : Codec Digest Suspension Outcome Body}
variable {s t : Store Digest Suspension Outcome Body}
variable (requestIdentity : AdmissionRequest Digest → Digest)

variable {row : Row Digest}

theorem admit_again (inv : Inv codec s) (member : row ∈ s.rows) {request : AdmissionRequest Digest}
    (same : row.key = request.key) (now : Nat) :
    admitRequest requestIdentity s request now = (s,
      if requestIdentity row.command.request = requestIdentity request then Answer.admitted
      else .admissionConflict) := by
  have run : row.runId = request.runId := congrArg Prod.fst same
  obtain ⟨authority, stored⟩ := Option.isSome_iff_exists.mp (run ▸ inv.authorized row member)
  have found : s.find request.key = some row := same ▸ inv.find_held member
  simp only [admitRequest, stored, found, ne_eq, ite_not]
  split <;> rfl

theorem admit_admitted {request : AdmissionRequest Digest} {now : Nat}
    (admitted : (admitRequest requestIdentity s request now).2 = .admitted) :
    ∃ row ∈ (admitRequest requestIdentity s request now).1.rows, row.key = request.key ∧
      requestIdentity row.command.request = requestIdentity request := by
  unfold admitRequest at admitted ⊢
  split at admitted
  · cases admitted
  next _ _ stored =>
    dsimp only
    split at admitted
    next row located =>
      split at admitted
      · cases admitted
      next same =>
        simp only [same, if_false]
        exact ⟨row, List.mem_of_find?_eq_some located, by simpa using List.find?_some located,
          not_not.mp same⟩
    · split at admitted
      · cases admitted
      next running =>
        dsimp only at admitted ⊢
        split at admitted
        next room =>
          simp only [running, room, if_true]
          exact ⟨_, List.mem_append_right _ (List.mem_singleton_self _), rfl, rfl⟩
        · cases admitted

variable [DecidableEq Outcome]

def Refuses (codec : Codec Digest Suspension Outcome Body) (row : Row Digest)
    (checkpoint : Option (Checkpoint Digest Suspension Outcome Body)) (fault : ReceiptFault) :
    Prop :=
  ∃ activation latest outcome error, row.activation = some activation ∧
    checkpoint = some latest ∧ codec.identity activation ∈ latest.content.appliedInputIds ∧
    fromCheckpoint codec activation latest outcome = .error error ∧ fault = .of error

def Replied (codec : Codec Digest Suspension Outcome Body)
    (stored read : Store Digest Suspension Outcome Body) (command : AdmittedCommand Digest)
    (reply : Reply Digest Suspension Outcome) : Prop :=
  ∃ row ∈ stored.rows, row.command = command ∧
    match reply with
    | .receipt receipt => receipt.command = command ∧
        receipt.attemptCount = row.dispatch.attemptCount
    | .fault fault => Refuses codec row (read.checkpoint row.runId) fault
    | .refused _ => False

theorem completion_fault {activation : ActivationCommand Digest}
    (bound : row.activation = some activation)
    {checkpoint : Option (Checkpoint Digest Suspension Outcome Body)} {terminal : Option Outcome}
    {fault : ReceiptFault}
    (failed : completion codec activation checkpoint terminal = .error fault) :
    Refuses codec row checkpoint fault := by
  unfold completion at failed
  split at failed
  · cases failed
  next latest =>
    split at failed
    · cases failed
    next applied =>
      rw [not_not] at applied
      split at failed
      next error refused =>
        cases failed
        exact ⟨activation, latest, none, error, bound, rfl, applied, refused, rfl⟩
      · split at failed
        · cases failed
        · split at failed
          · cases failed
          next outcome =>
            split at failed
            next error refused =>
              cases failed
              exact ⟨activation, latest, some outcome, error, bound, rfl, applied, refused, rfl⟩
            · cases failed

variable (codec) in
theorem receiptFromStored_spec (delivers : ∀ activation,
      row.activation = some activation → row.dispatch.deliveryState = .delivered)
    (runTerminal : Bool) (checkpoint : Option (Checkpoint Digest Suspension Outcome Body))
    (terminal : Option Outcome) :
    match receiptFromStored codec row runTerminal checkpoint terminal with
    | .ok receipt => receipt.command = row.command ∧
        receipt.attemptCount = row.dispatch.attemptCount
    | .error fault => Refuses codec row checkpoint fault := by
  unfold receiptFromStored
  dsimp only
  split_ifs with dead ended unsent held
  · exact ⟨rfl, rfl⟩
  · exact ⟨rfl, rfl⟩
  · obtain ⟨activation, bound⟩ := Option.isSome_iff_exists.mp held
    exact absurd (delivers activation bound) unsent
  · exact ⟨rfl, rfl⟩
  · cases bound : row.activation with
    | none => exact ⟨rfl, rfl⟩
    | some activation =>
      cases completes : completion codec activation checkpoint terminal with
      | error fault => simpa only [completes] using completion_fault bound completes
      | ok receipt => simp only [completes, and_self]

theorem replied_spec (inv : Inv codec s) (member : row ∈ s.rows)
    (read settled : Store Digest Suspension Outcome Body) {answer : Answer Digest}
    (commits : answer = .admitted ∨ answer = .settled) :
    Replied codec s read row.command (replied codec row.key s read settled answer) := by
  have spec := receiptFromStored_spec codec
    (fun activation bound => (inv.bound row member activation bound).1)
    (s.terminal row.runId).isSome (read.checkpoint row.runId) (settled.terminal row.runId)
  refine ⟨row, member, rfl, ?_⟩
  have reply : replied codec row.key s read settled answer =
      match requireReceipt codec row.key s read settled with
      | .ok receipt => .receipt receipt
      | .error fault => .fault fault := by
    rcases commits with rfl | rfl <;> rfl
  rw [reply, requireReceipt, inv.find_held member]
  dsimp only
  split at spec
  · exact spec
  · exact spec

theorem admission_log (earlier later : List (Label Digest Suspension Outcome Body)) :
    let m := machine requestIdentity codec
    let s := m.exec m.init earlier
    let t := m.exec s later
    (∀ runId, Numbered Row.sequence (t.rowsOf runId)) ∧ (t.rows.map Row.key).Nodup ∧
      s.rows.map Row.command <+: t.rows.map Row.command ∧
      ∀ request now, m.answer s (.admitRequest request now) = .admitted →
        let u := m.exec (m.next s (.admitRequest request now)) later
        ∃ row ∈ u.rows, row.key = request.key ∧ ∀ other again, other.key = request.key →
          m.next u (.admitRequest other again) = u ∧
            ∀ more read settled,
              if requestIdentity request = requestIdentity other then
                Replied codec (m.exec u more) read row.command
                  (admitReply codec requestIdentity u other again (m.exec u more) read settled)
              else admitReply codec requestIdentity u other again (m.exec u more) read settled =
                .refused .admissionConflict := by
  intro m s t
  have inv : Inv codec s := inv_exec requestIdentity earlier
  have edits : Edits codec True s t := inv.exec_edits requestIdentity later
  have after := edits.inv inv
  refine ⟨after.numbered, after.keyed, edits.commands, ?_⟩
  intro request now admitted u
  have stepped := (inv.next_edits requestIdentity (.admitRequest request now)).inv inv
  have onwards : Edits codec True _ u := stepped.exec_edits requestIdentity later
  have reached : Inv codec u := onwards.inv stepped
  have lasts : ∀ s row new, RowEdit codec s row new →
      (row.key = request.key ∧
        requestIdentity row.command.request = requestIdentity request) →
      new.key = request.key ∧
        requestIdentity new.command.request = requestIdentity request := by
    intro s row new edit has
    exact ⟨edit.key.trans has.1, edit.command ▸ has.2⟩
  obtain ⟨row, member, kept, identity⟩ :=
    onwards.lasting lasts (admit_admitted requestIdentity admitted)
  refine ⟨row, member, kept, ?_⟩
  intro other again same
  have repeated := admit_again requestIdentity reached member (kept.trans same.symm) again
  rw [identity] at repeated
  refine ⟨congrArg Prod.fst repeated, ?_⟩
  intro more read settled
  have beyond : Edits codec True u (m.exec u more) := reached.exec_edits requestIdentity more
  obtain ⟨new, held, command⟩ := beyond.lasting
    (fun _ _ _ edit has => edit.command.trans has) ⟨row, member, (rfl : row.command = row.command)⟩
  have key : new.key = other.key := by
    rw [same, ← kept, Row.key, Row.key, command]
  unfold admitReply
  rw [repeated, ← key, ← command]
  split
  · exact replied_spec (beyond.inv reached) held read settled (.inl rfl)
  · rfl

variable {claim : DispatchClaim Digest}

omit [DecidableEq Digest] [DecidableEq Outcome] in
theorem dispatchClaim_spec {ownerId claimId : OpaqueId} {now : Nat}
    (granted : row.dispatchClaim false ownerId claimId now = some claim) :
    row.command = claim.command ∧ row.tokenMatches claim.token = true ∧
      row.dispatch.deliveryState = .leased ∧ row.dispatch.attemptCount = claim.attempt := by
  unfold Row.dispatchClaim at granted
  split at granted
  next held =>
    cases granted
    obtain ⟨leased, _, _, owner, claimed, _⟩ := held
    exact ⟨rfl, by simp [Row.tokenMatches, owner, claimed, Row.key, AdmissionRequest.key,
      DispatchToken.key], leased, rfl⟩
  · cases granted

structure Granted (s : Store Digest Suspension Outcome Body) (claim : DispatchClaim Digest)
    (row : Row Digest) : Prop where
  member : row ∈ s.rows
  command : row.command = claim.command
  token : row.tokenMatches claim.token = true
  leased : row.dispatch.deliveryState = .leased
  attempt : row.dispatch.attemptCount = claim.attempt
  running : s.terminal row.runId = none

omit [DecidableEq Digest] [DecidableEq Outcome] in
theorem claimDispatch_granted {ownerId claimId : OpaqueId} {lease : Nat}
    {reconciled candidate : Option Key} {selectedAt leasedAt readAt : Nat}
    (answered : (claimDispatch s ownerId claimId lease reconciled candidate selectedAt leasedAt
      readAt).2 = .claimed claim) :
    ∃ row, Granted (claimDispatch s ownerId claimId lease reconciled candidate selectedAt leasedAt
      readAt).1 claim row := by
  unfold claimDispatch at answered ⊢
  split at answered
  · cases answered
  next usable =>
    rw [if_neg usable]
    split at answered
    next existing located =>
      split at answered
      · cases answered
      next authorized =>
        rw [if_neg authorized]
        split at answered
        · cases answered
        next running =>
          rw [if_neg running]
          split at answered
          · cases answered
          next owned =>
            rw [if_neg owned]
            split at answered
            next granted =>
              cases answered
              obtain ⟨command, token, leased, attempt⟩ := dispatchClaim_spec granted
              exact ⟨existing, List.mem_of_find?_eq_some located, command, token, leased, attempt,
                by simpa using running⟩
            · cases answered
    · dsimp only at answered ⊢
      split at answered
      · cases answered
      next row picked =>
        split at answered
        next claimable =>
          rw [if_pos claimable]
          split at answered
          next granted =>
            cases answered
            obtain ⟨key, -, located⟩ := Option.bind_eq_some_iff.mp picked
            obtain ⟨command, token, leased, attempt⟩ := dispatchClaim_spec granted
            refine ⟨_, ?_, command, token, leased, attempt, ?_⟩
            · refine List.mem_map.mpr ⟨row, List.mem_of_find?_eq_some located, ?_⟩
              rw [if_pos rfl]
            · simp only [Store.claimable, Bool.and_eq_true] at claimable
              exact Option.isNone_iff_eq_none.mp claimable.1.2
          · cases answered
        · cases answered

omit [DecidableEq Digest] [DecidableEq Outcome] in
theorem Granted.alone (inv : Inv codec s) (granted : Granted s claim row) :
    (∀ prior ∈ s.rows, prior.runId = row.runId → prior.sequence < row.sequence →
        prior.dispatch.deliveryState = .delivered) ∧
      ∀ other ∈ s.rows, other.runId = row.runId → other.dispatch.deliveryState = .leased →
        other = row := by
  have attempted : ∀ row ∈ s.rows, row.dispatch.deliveryState = .leased →
      0 < row.dispatch.attemptCount := by
    intro row member leased
    simpa [leased] using (inv.checked row member).attempted
  have sent : ∀ prior ∈ s.rows, prior.runId = row.runId → prior.sequence < row.sequence →
      prior.dispatch.deliveryState = .delivered := by
    intro prior member run before
    rcases inv.ordered prior member row granted.member run before
      (attempted row granted.member granted.leased) with delivered | ended
    · exact delivered
    · have terminal := inv.closed prior member ended
      rw [run, granted.running] at terminal
      cases terminal
  refine ⟨sent, ?_⟩
  intro other member run leased
  have same : other.sequence = row.sequence := by
    rcases Nat.lt_trichotomy other.sequence row.sequence with before | same | after
    · simp [sent other member run before] at leased
    · exact same
    · rcases inv.ordered row granted.member other member run.symm after
        (attempted other member leased) with passed | passed <;> simp [granted.leased] at passed
  exact (inv.numbered row.runId).number_inj (by simpa [Store.rowsOf] using ⟨member, run⟩)
    (by simpa [Store.rowsOf] using granted.member) same

variable (codec) in
theorem claims_in_order (labels : List (Label Digest Suspension Outcome Body))
    (ownerId claimId : OpaqueId) (lease : Nat) (reconciled candidate : Option Key)
    (selectedAt leasedAt readAt : Nat) (claim : DispatchClaim Digest) :
    let m := machine requestIdentity codec
    let s := m.exec m.init labels
    let label := Label.claimDispatch ownerId claimId lease reconciled candidate selectedAt leasedAt
      readAt
    m.answer s label = .claimed claim → ∃ row, Granted (m.next s label) claim row ∧
      claim.attempt = claim.token.generation ∧
      (∀ prior ∈ (m.next s label).rows, prior.runId = row.runId →
        prior.sequence < row.sequence → prior.dispatch.deliveryState = .delivered) ∧
      ∀ other ∈ (m.next s label).rows, other.runId = row.runId →
        other.dispatch.deliveryState = .leased → other = row := by
  intro m s label answered
  have inv : Inv codec s := inv_exec requestIdentity labels
  have after := (inv.next_edits requestIdentity label).inv inv
  obtain ⟨row, granted⟩ := claimDispatch_granted answered
  have generation : row.dispatch.claimGeneration = claim.token.generation := by
    have token := granted.token
    simp only [Row.tokenMatches, Bool.and_eq_true, decide_eq_true_eq] at token
    exact token.2
  refine ⟨row, granted, ?_, granted.alone after⟩
  rw [← granted.attempt, (after.checked row granted.member).attempts, generation]

def plain : Codec Nat Unit Nat Unit :=
  ⟨fun command => command.commandSequence, fun checkpoint => checkpoint.seq, fun _ => .other,
    fun _ _ seq => seq⟩

def sample : OpaqueId := ⟨"sample", by decide⟩

def sampleRequest : AdmissionRequest Nat := ⟨sample, sample, .input, 0, "payload:1", by decide⟩

def sampleClaim : DispatchClaim Nat :=
  ⟨⟨sample, sample, sample, sample, 0 + 1, Nat.le_add_left 1 0⟩,
    ⟨sampleRequest, 0 + 1, Nat.le_add_left 1 0⟩, 1, ⟨rfl, rfl⟩⟩

def sampleRun : List (Label Nat Unit Nat Unit) :=
  [.authority (.claim sample sample 100 0 0), .authority (.resumeClaim 0 0 0 0),
    .admitRequest sampleRequest 0]

theorem claims_in_order_sample : ∃ row, Granted ((machine (·.requestDigest) plain).exec
    (machine (·.requestDigest) plain).init (sampleRun ++
      [.claimDispatch sample sample 10 none (some sampleRequest.key) 0 0 0])) sampleClaim row := by
  obtain ⟨row, granted, -⟩ := claims_in_order plain (·.requestDigest) sampleRun sample
    sample 10 none (some sampleRequest.key) 0 0 0 sampleClaim rfl
  exact ⟨row, granted⟩

def Row.Follows (token : DispatchToken) (row : Row Digest) : Prop :=
  row.key = token.key ∧ (token.generation < row.dispatch.claimGeneration ∨
    row.tokenMatches token = true)

def Row.Spent (token : DispatchToken) (row : Row Digest) : Prop :=
  row.key = token.key ∧ (token.generation < row.dispatch.claimGeneration ∨
    row.tokenMatches token = true ∧ row.dispatch.deliveryState ≠ .leased)

omit [DecidableEq Digest] [DecidableEq Outcome] in
theorem tokenMatches_iff (row : Row Digest) (token : DispatchToken) :
    row.tokenMatches token = true ↔ row.key = token.key ∧
      row.dispatch.claimOwner = some token.ownerId ∧ row.dispatch.claimId = some token.claimId ∧
      row.dispatch.claimGeneration = token.generation := by
  simp [Row.tokenMatches, and_assoc]

variable {token : DispatchToken}

variable {new : Row Digest}

theorem follows_kept (edit : RowEdit codec s row new) (follows : row.Follows token) :
    new.Follows token := by
  refine ⟨edit.key.trans follows.1, ?_⟩
  rcases edit.generation with ⟨generation, owner, claim, -⟩ | ⟨generation, -⟩
  · rcases follows.2 with later | held
    · exact .inl (generation ▸ later)
    · rw [tokenMatches_iff] at held
      exact .inr ((tokenMatches_iff _ _).mpr ⟨edit.key.trans held.1, owner ▸ held.2.1,
        claim ▸ held.2.2.1, generation ▸ held.2.2.2⟩)
  · left
    rcases follows.2 with later | held
    · omega
    · have same := ((tokenMatches_iff _ _).mp held).2.2.2
      omega

theorem spent_kept (edit : RowEdit codec s row new) (spent : row.Spent token) :
    new.Spent token := by
  have follows : row.Follows token := ⟨spent.1, spent.2.imp_right And.left⟩
  obtain ⟨key, followed⟩ := follows_kept edit follows
  refine ⟨key, followed.imp_right fun held => ⟨held, ?_⟩⟩
  intro leased
  rcases edit.generation with ⟨generation, -, -, before⟩ | ⟨generation, -⟩
  all_goals have same := ((tokenMatches_iff _ _).mp held).2.2.2
  · rcases spent.2 with later | ⟨-, ended⟩
    · omega
    · exact ended (before leased)
  · rcases spent.2 with later | ⟨old, -⟩
    · omega
    · have older := ((tokenMatches_iff _ _).mp old).2.2.2
      omega

omit [DecidableEq Digest] [DecidableEq Outcome] in
theorem settleDispatch_cases (s : Store Digest Suspension Outcome Body) (token : DispatchToken)
    (settlement : Settlement) (readAt updatedAt : Nat) :
    (settleDispatch s token settlement readAt updatedAt).1 = s ∨
      settlement.valid = true ∧
        (∃ row ∈ s.rows, row.tokenMatches token = true ∧ row.dispatch.deliveryState = .leased) ∧
        ∃ new ∈ (settleDispatch s token settlement readAt updatedAt).1.rows,
          new.Spent token ∧ new.tokenMatches token = true ∧
            settlement.tookEffect new.dispatch = true := by
  unfold settleDispatch
  split
  · exact .inl rfl
  next valid =>
    split
    · exact .inl rfl
    · split
      · exact .inl rfl
      next row located =>
        split
        · exact .inl rfl
        · split
          next held =>
            right
            have member := List.mem_of_find?_eq_some located
            have fields := (tokenMatches_iff _ _).mp held.1
            refine ⟨by simpa using valid, ⟨row, member, held.1, held.2.1⟩, _,
              List.mem_map.mpr ⟨row, member, if_pos fields.1⟩, ?_⟩
            have kept : Row.tokenMatches { row with
                dispatch := settlement.apply updatedAt row.dispatch } token = true := by
              rw [tokenMatches_iff]
              cases settlement <;> exact fields
            refine ⟨⟨fields.1, .inr ⟨kept, ?_⟩⟩, kept, ?_⟩
            · cases settlement <;> simp [Settlement.apply, Dispatch.fail]
            · cases settlement <;> simp [Settlement.apply, Dispatch.fail, Settlement.tookEffect]
          · exact .inl rfl

omit [DecidableEq Digest] [DecidableEq Outcome] in
theorem settleDispatch_spent (inv : Inv codec s) (member : row ∈ s.rows) (spent : row.Spent token)
    (settlement : Settlement) (readAt updatedAt : Nat) :
    (settleDispatch s token settlement readAt updatedAt).1 = s := by
  rcases settleDispatch_cases s token settlement readAt updatedAt with
    same | ⟨-, ⟨other, held, token, leased⟩, -⟩
  · exact same
  · have fields := (tokenMatches_iff _ _).mp token
    obtain rfl := List.inj_on_of_nodup_map inv.keyed held member (fields.1.trans spent.1.symm)
    rcases spent.2 with later | ⟨-, ended⟩
    · omega
    · exact absurd leased ended

-- The settlement has taken effect, or its row has gone on to another claim or to the end of its
-- run.
def Row.Settled (token : DispatchToken) (settlement : Settlement) (row : Row Digest) : Prop :=
  row.key = token.key ∧ (row.tokenMatches token = true ∧ settlement.tookEffect row.dispatch = true ∨
    token.generation < row.dispatch.claimGeneration ∨ row.dispatch.deliveryState = .runTerminal)

variable {settlement : Settlement}

omit [DecidableEq Digest] in
theorem tookEffect_unleased {dispatch : Dispatch} (effect : settlement.tookEffect dispatch = true) :
    dispatch.deliveryState ≠ .leased := by
  intro leased
  cases settlement <;> simp [Settlement.tookEffect, leased] at effect

theorem settled_kept (edit : RowEdit codec s row new) (settled : row.Settled token settlement) :
    new.Settled token settlement := by
  obtain ⟨key, held⟩ := settled
  refine ⟨edit.key.trans key, ?_⟩
  cases edit with
  | same => exact held
  | close => exact .inr (.inr rfl)
  | lease _ _ _ _ _ claimable =>
    right
    left
    rcases held with ⟨matching, -⟩ | later | ended
    · exact Nat.lt_succ_of_le ((tokenMatches_iff _ _).mp matching).2.2.2.ge
    · exact Nat.lt_succ_of_lt later
    · simp [Store.claimable, ended] at claimable
  | settle _ next _ _ _ leased =>
    rcases held with ⟨-, effect⟩ | later | ended
    · exact absurd leased (tookEffect_unleased effect)
    · cases next <;> exact .inr (.inl later)
    · rw [leased] at ended; cases ended
  | bind => exact held

omit [DecidableEq Digest] [DecidableEq Outcome] in
theorem settleDispatch_again (inv : Inv codec s) (member : row ∈ s.rows)
    (valid : settlement.valid = true) (held : row.tokenMatches token = true)
    (effect : settlement.tookEffect row.dispatch = true) (readAt updatedAt : Nat) :
    settleDispatch s token settlement readAt updatedAt = (s, .settled) := by
  have key := ((tokenMatches_iff _ _).mp held).1
  have run : row.runId = token.runId := congrArg Prod.fst key
  have authorized := inv.authorized row member
  rw [run, Option.isSome_iff_ne_none] at authorized
  have found : s.find token.key = some row := key ▸ inv.find_held member
  simp [settleDispatch, valid, authorized, found, held, effect]

def sampleClaimed : List (Label Nat Unit Nat Unit) :=
  sampleRun ++ [.claimDispatch sample sample 10 none (some sampleRequest.key) 0 0 0,
    .claimDispatch sample sample 10 none none 0 0 0]

def sampleAcknowledge : Label Nat Unit Nat Unit :=
  .settleDispatch sampleClaim.token (.acknowledge "dispatch:1") 0 0

theorem constraints_hold (labels : List (Label Digest Suspension Outcome Body)) :
    let m := machine requestIdentity codec
    let s := m.exec m.init labels
    (∀ row ∈ s.rows, row.dispatch.Checked ∧ (s.authority.table row.runId).isSome = true) ∧
      ∀ a ∈ s.rows, ∀ b ∈ s.rows, (a.key = b.key ∨
        a.runId = b.runId ∧ a.sequence = b.sequence ∨
        ∃ claimId, a.dispatch.claimId = some claimId ∧ b.dispatch.claimId = some claimId) →
        a = b := by
  intro m s
  have inv : Inv codec s := inv_exec requestIdentity labels
  have keyed : ∀ a ∈ s.rows, ∀ b ∈ s.rows, a.key = b.key → a = b :=
    fun a first b second => List.inj_on_of_nodup_map inv.keyed first second
  refine ⟨fun row member => ⟨inv.checked row member, inv.authorized row member⟩, ?_⟩
  intro a first b second same
  rcases same with key | ⟨run, number⟩ | ⟨claimId, one, two⟩
  · exact keyed a first b second key
  · exact (inv.numbered b.runId).number_inj (by simpa [Store.rowsOf] using ⟨first, run⟩)
      (by simpa [Store.rowsOf] using second) number
  · exact keyed a first b second (inv.single a first b second claimId one two)

omit [DecidableEq Digest] [DecidableEq Outcome] in
theorem Inv.prior_bound (inv : Inv codec s) (sequence : Nat) : ∀ row ∈ s.rows,
    row.sequence = sequence → row.activation.isSome = true → ∀ prior ∈ s.rows,
    prior.runId = row.runId → prior.sequence < row.sequence → prior.activation.isSome = true := by
  induction sequence with
  | zero =>
    intro row _ first _ prior _ _ before
    omega
  | succ sequence ih =>
    intro row member number bound prior held run before
    obtain ⟨activation, has⟩ := Option.isSome_iff_exists.mp bound
    obtain ⟨-, checkpoint, -, -, first | ⟨next, there, earlier, sameRun, follows, applied, -⟩⟩ :=
      inv.bound row member activation has
    · have positive := prior.command.sequenced
      have lower : prior.command.commandSequence < row.sequence := before
      omega
    · have some : next.activation.isSome = true := by rw [applied]; rfl
      by_cases last : prior.sequence = next.sequence
      · have same := (inv.numbered row.runId).number_inj
          (by simpa [Store.rowsOf] using ⟨held, run⟩)
          (by simpa [Store.rowsOf] using ⟨there, sameRun⟩) last
        rwa [same]
      · exact ih next there (by omega) some prior held (run.trans sameRun.symm) (by omega)

theorem bindings_chain (earlier later : List (Label Digest Suspension Outcome Body)) :
    let m := machine requestIdentity codec
    let s := m.exec m.init earlier
    let t := m.exec s later
    ∀ row ∈ s.rows, ∀ activation, row.activation = some activation →
      Bound codec s row activation ∧
      (∃ new ∈ t.rows, new.command = row.command ∧ new.activation = some activation ∧
        new.dispatch.deliveryState = .delivered) ∧
      ∀ prior ∈ s.rows, prior.runId = row.runId → prior.sequence < row.sequence →
        prior.activation.isSome = true := by
  intro m s t row member activation bound
  have inv : Inv codec s := inv_exec requestIdentity earlier
  obtain ⟨delivered, source⟩ := inv.bound row member activation bound
  refine ⟨source, ?_, inv.prior_bound _ row member rfl (by rw [bound]; rfl)⟩
  have lasts : ∀ s old new, RowEdit codec s old new →
      (old.command = row.command ∧ old.activation = some activation ∧
        old.dispatch.deliveryState = .delivered) →
      new.command = row.command ∧ new.activation = some activation ∧
        new.dispatch.deliveryState = .delivered := by
    intro s old new edit has
    exact ⟨edit.command.trans has.1, edit.bound has.2.1 has.2.2⟩
  exact (inv.exec_edits requestIdentity later).lasting lasts
    ⟨row, member, rfl, bound, delivered⟩

theorem dead_letter_blocks (earlier later : List (Label Digest Suspension Outcome Body)) :
    let m := machine requestIdentity codec
    let s := m.exec m.init earlier
    let t := m.exec s later
    ∀ dead ∈ s.rows, dead.dispatch.deliveryState = .deadLetter → dead ∈ t.rows ∧
      ∀ row ∈ t.rows, row.runId = dead.runId → dead.sequence < row.sequence →
        row.dispatch.attemptCount = 0 ∧ row.activation = none := by
  intro m s t dead member ended
  have inv : Inv codec s := inv_exec requestIdentity earlier
  have edits : Edits codec True s t := inv.exec_edits requestIdentity later
  have after := edits.inv inv
  have lasts : ∀ s old new, RowEdit codec s old new → old = dead → new = dead := by
    rintro s _ new edit rfl
    cases edit with
    | same => rfl
    | close reconcilable => simp [Store.reconcilable, ended] at reconcilable
    | lease _ _ _ _ _ claimable => simp [Store.claimable, ended] at claimable
    | settle _ _ _ _ _ leased => simp [ended] at leased
    | bind _ delivered => simp [ended] at delivered
  obtain ⟨_, held, rfl⟩ := edits.lasting lasts ⟨dead, member, rfl⟩
  refine ⟨held, ?_⟩
  intro row there run before
  have untried : row.dispatch.attemptCount = 0 := by
    by_contra tried
    rcases after.ordered _ held row there run.symm before (Nat.pos_of_ne_zero tried) with
      passed | passed <;> simp [ended] at passed
  refine ⟨untried, ?_⟩
  cases bound : row.activation with
  | none => rfl
  | some activation =>
    have delivered := (after.bound row there activation bound).1
    simpa [delivered, untried] using (after.checked row there).attempted

end MonoidKernel.Admission
