import MonoidKernel.Checkpoint.Codec

set_option autoImplicit false

namespace MonoidKernel.CheckpointCodec

open Library AgentLoop

variable {F Facts Digest : Type}

section Checks

theorem bind_ok {α β : Type} {first : Except Refusal α} {next : α → Except Refusal β} {value : β} :
    (first >>= next) = .ok value ↔ ∃ middle, first = .ok middle ∧ next middle = .ok value := by
  cases first with
  | error refusal => simp [bind, Except.bind]
  | ok middle => simp [bind, Except.bind]

theorem both_ok {first second : Checked} :
    (do first; second) = .ok () ↔ first = .ok () ∧ second = .ok () := by
  rw [bind_ok]
  constructor
  · rintro ⟨⟨⟩, left, right⟩; exact ⟨left, right⟩
  · rintro ⟨left, right⟩; exact ⟨(), left, right⟩

theorem forM_ok {A : Type} {items : List A} {check : A → Checked} :
    items.forM check = .ok () ↔ ∀ item ∈ items, check item = .ok () := by
  induction items with
  | nil => simp [pure, Except.pure]
  | cons item rest ih =>
    rw [List.forall_mem_cons, ← ih]
    exact both_ok

@[simp] theorem require_ok {holds : Bool} {message : String} :
    require holds message = .ok () ↔ holds = true := by
  cases holds <;> simp [require]

theorem whenPresent_default {value : Option (Json F)} {default : Json F} {check : Json F → Checked}
    (passes : check default = .ok ()) (present : whenPresent value check = .ok ()) :
    whenPresent (some (value.getD default)) check = .ok () := by
  cases value with
  | none => exact passes
  | some value => exact present

end Checks

section Filled

variable (platform : Platform F Facts Digest)

def filled (payload : CheckpointPayload F Facts Digest) : CheckpointPayload F Facts Digest :=
  (loadFields platform payload).current.toJson

theorem filled_field (payload : CheckpointPayload F Facts Digest) {name : CheckpointField}
    (other : name ≠ .schemaVersion) :
    (filled platform payload).field name =
      some ((payload.field name).getD (name.default platform.floats.zero)) := by
  simp [filled, RunCheckpoint.toJson, RunCheckpoint.current, loadFields, other]

theorem filled_invocation (payload : CheckpointPayload F Facts Digest) :
    (filled platform payload).lastModelInvocation =
      some (payload.lastModelInvocation.getD .null) := rfl

variable {payload : CheckpointPayload F Facts Digest}

theorem family_filled {names : List CheckpointField} {check : CheckpointField → Json F → Checked}
    (passes : ∀ name ∈ names, check name (name.default platform.floats.zero) = .ok ())
    (others : ∀ name ∈ names, name ≠ .schemaVersion)
    (present : (names.forM fun name => whenPresent (payload.field name) (check name)) = .ok ()) :
    (names.forM fun name => whenPresent ((filled platform payload).field name) (check name)) =
      .ok () := by
  rw [forM_ok] at present ⊢
  intro name listed
  rw [filled_field platform payload (others name listed)]
  exact whenPresent_default (passes name listed) (present name listed)

theorem field_filled {name : CheckpointField} {check : Json F → Checked}
    (passes : check (name.default platform.floats.zero) = .ok ()) (other : name ≠ .schemaVersion)
    (present : whenPresent (payload.field name) check = .ok ()) :
    whenPresent ((filled platform payload).field name) check = .ok () := by
  rw [filled_field platform payload other]
  exact whenPresent_default passes present

theorem invocation_filled {check : InvocationSection Facts Digest → Checked}
    (passes : check .null = .ok ())
    (present : payload.lastModelInvocation.elim (.ok ()) check = .ok ()) :
    (filled platform payload).lastModelInvocation.elim (.ok ()) check = .ok () := by
  rw [filled_invocation]
  cases same : payload.lastModelInvocation with
  | none => exact passes
  | some invocation => rwa [same] at present

theorem cancellation_filled (present : validateCancellation (payload.field .cancellationRequested)
      (payload.field .interruptionCause) = .ok ()) :
    validateCancellation ((filled platform payload).field .cancellationRequested)
      ((filled platform payload).field .interruptionCause) = .ok () := by
  rw [filled_field platform payload (by decide), filled_field platform payload (by decide)]
  cases requested : payload.field .cancellationRequested with
  | none => rfl
  | some flag =>
    cases cause : payload.field .interruptionCause with
    | none =>
      have unknown : parseInterruptionCause "" = none := by decide
      cases flag <;> simp [validateCancellation, CheckpointField.default, unknown]
    | some text => rwa [requested, cause] at present

theorem runId_filled (named : requireNonemptyString (payload.field .runId) "run_id" = .ok ()) :
    (filled platform payload).field .runId = payload.field .runId := by
  rw [filled_field platform payload (by decide)]
  cases same : payload.field .runId with
  | none => simp [same, requireNonemptyString] at named
  | some runId => rfl

theorem validate_filled [DecidableEq Digest]
    (valid : validateCheckpointPayload platform payload = .ok ()) :
    validateCheckpointPayload platform (filled platform payload) = .ok () := by
  unfold validateCheckpointPayload at valid ⊢
  simp only [both_ok] at valid ⊢
  obtain ⟨named, strings, optionals, ints, bools, dicts, texts, input, objects, shape, suspension,
    finish, invocation, cause, cancellation, counters, numbers, queued, active, receipts⟩ := valid
  rw [runId_filled platform named]
  refine ⟨named, family_filled platform ?_ (by decide) strings,
    family_filled platform ?_ (by decide) optionals, family_filled platform ?_ (by decide) ints,
    family_filled platform ?_ (by decide) bools, family_filled platform ?_ (by decide) dicts,
    family_filled platform ?_ (by decide) texts, field_filled platform rfl (by decide) input,
    family_filled platform ?_ (by decide) objects, invocation_filled platform rfl shape,
    field_filled platform rfl (by decide) suspension,
    field_filled platform rfl (by decide) finish, invocation_filled platform rfl invocation,
    field_filled platform ?_ (by decide) cause, cancellation_filled platform cancellation,
    family_filled platform ?_ (by decide) counters, family_filled platform ?_ (by decide) numbers,
    field_filled platform rfl (by decide) queued, field_filled platform rfl (by decide) active,
    field_filled platform rfl (by decide) receipts⟩
  · simp [checkpointStringFields, CheckpointField.default, isStr, str]
  · simp [checkpointOptionalStringFields, CheckpointField.default, isNull]
  · simp [checkpointNonnegativeIntFields, CheckpointField.default, unlessNull, isNull,
      requireNonnegativeInt, isNonnegativeInt]
  · simp [checkpointBoolFields, CheckpointField.default, isBool]
  · simp [checkpointListOfDictFields, CheckpointField.default, requireListOf, isListOf]
  · simp [checkpointListOfStringFields, CheckpointField.default, requireListOf, isListOf]
  · simp [CheckpointField.default, isNull]
  · simp [CheckpointField.default, validateInterruptionCause]
  · simp [CheckpointField.default, validateCounterMapping, pure, Except.pure]
  · simp [CheckpointField.default, unlessNull, isNull, requireFiniteNonnegativeNumber,
      isFiniteJsonNumber, isNegative, platform.floats.zeroFinite, platform.floats.zeroNonnegative]

end Filled

section Current

theorem current_eq_iff (checkpoint : RunCheckpoint F Facts Digest) :
    checkpoint.current = checkpoint ↔
      checkpoint.field .schemaVersion = str schemaVersion := by
  constructor
  · intro same
    rw [← same]
    simp [RunCheckpoint.current]
  · intro same
    unfold RunCheckpoint.current
    rw [← same, Function.update_eq_self]

theorem loadFields_toJson (platform : Platform F Facts Digest)
    (checkpoint : RunCheckpoint F Facts Digest) :
    loadFields platform checkpoint.toJson = checkpoint := rfl

end Current

section RoundTrip

variable [DecidableEq Digest] (platform : Platform F Facts Digest)

theorem rewriteInvocation_object {payload : InvocationPayload Facts Digest}
    {invocation : DurableModelInvocation Facts Digest}
    (decoded : decodeModelInvocation platform.canonicalSha256 payload = some invocation) :
    modelInvocationPayloadForWrite platform.canonicalSha256 invocation = some payload := by
  unfold decodeModelInvocation at decoded
  split at decoded
  · cases decoded
  · cases decoded; simp [modelInvocationPayloadForWrite]

theorem rewriteInvocation_same {invocation written : InvocationSection Facts Digest}
    (rewritten : rewriteInvocation platform invocation = .ok written) : written = invocation := by
  cases invocation with
  | null => cases rewritten; rfl
  | malformed isDict => cases rewritten
  | object payload =>
    dsimp only [rewriteInvocation] at rewritten
    cases decoded : decodeModelInvocation platform.canonicalSha256 payload with
    | none => simp [decoded] at rewritten
    | some found =>
      simp only [decoded, rewriteInvocation_object platform decoded] at rewritten
      cases rewritten
      rfl

theorem rewriteInvocation_valid {runId : Option (Json F)}
    {invocation : InvocationSection Facts Digest}
    (valid : validateInvocation platform runId invocation = .ok ()) :
    rewriteInvocation platform invocation = .ok invocation := by
  cases invocation with
  | null => rfl
  | malformed isDict => cases valid
  | object payload =>
    dsimp only [validateInvocation] at valid
    cases decoded : decodeModelInvocation platform.canonicalSha256 payload with
    | none => simp [decoded] at valid
    | some found =>
      simp only [rewriteInvocation, decoded, rewriteInvocation_object platform decoded]

variable {checkpoint : RunCheckpoint F Facts Digest} {payload : CheckpointPayload F Facts Digest}

theorem checkpointPayloadForWrite_spec :
    checkpointPayloadForWrite platform checkpoint = .ok payload ↔
      payload = checkpoint.current.toJson ∧
        validateCheckpointPayload platform payload = .ok () := by
  unfold checkpointPayloadForWrite
  constructor
  · intro written
    obtain ⟨invocation, rewritten, rest⟩ := bind_ok.mp written
    obtain ⟨⟨⟩, valid, done⟩ := bind_ok.mp rest
    cases done
    obtain rfl := rewriteInvocation_same platform rewritten
    exact ⟨rfl, valid⟩
  · rintro ⟨rfl, valid⟩
    have invocation : validateInvocation platform (checkpoint.current.toJson.field .runId)
        checkpoint.lastModelInvocation = .ok () := by
      unfold validateCheckpointPayload at valid
      simp only [both_ok] at valid
      exact valid.2.2.2.2.2.2.2.2.2.2.2.2.1
    refine bind_ok.mpr ⟨_, rewriteInvocation_valid platform invocation, ?_⟩
    exact bind_ok.mpr ⟨(), valid, rfl⟩

theorem schemaVersion_current :
    parseArtifactVersion (some (str schemaVersion : Json F)) =
      some ⟨"monoid".toList, "checkpoint".toList, 1⟩ := by
  rfl

theorem decodeCheckpoint_loaded (loaded : decodeCheckpoint platform payload = .loaded checkpoint) :
    validateCheckpointPayload platform payload = .ok () ∧
      checkpoint = loadFields platform payload := by
  unfold decodeCheckpoint at loaded
  split at loaded
  · cases loaded
  · split at loaded
    · cases loaded
    · split at loaded
      · cases loaded
      · split at loaded
        · cases loaded
        · split at loaded
          · cases loaded
          next found read =>
            cases loaded
            obtain ⟨⟨⟩, valid, done⟩ := bind_ok.mp read
            cases done
            exact ⟨valid, rfl⟩

theorem decodeCheckpoint_accepted {version : ArtifactVersion}
    (copied : payload.nesting platform ≤ platform.copyDepth)
    (parsed : parseArtifactVersion (payload.field .schemaVersion) = some version)
    (family : version.family = "checkpoint".toList)
    (accepted : acceptedNamespaces.contains version.namespaceName = true)
    (first : version.version ≤ 1) (valid : validateCheckpointPayload platform payload = .ok ()) :
    decodeCheckpoint platform payload = .loaded (loadFields platform payload) := by
  have read : checkpointFromPayload platform payload = .ok (loadFields platform payload) :=
    bind_ok.mpr ⟨(), valid, rfl⟩
  have inRange : (!acceptedNamespaces.contains version.namespaceName ||
      decide (1 < version.version)) = false := by
    rw [accepted, decide_eq_false (by omega)]
    rfl
  unfold decodeCheckpoint
  rw [if_neg (by omega), parsed]
  dsimp only
  rw [if_neg (not_not.mpr family), inRange, read]
  rfl

theorem decodeCheckpoint_current (copied : payload.nesting platform ≤ platform.copyDepth)
    (schema : payload.field .schemaVersion = some (str schemaVersion))
    (valid : validateCheckpointPayload platform payload = .ok ()) :
    decodeCheckpoint platform payload = .loaded (loadFields platform payload) := by
  have parsed := schemaVersion_current (F := F)
  rw [← schema] at parsed
  exact decodeCheckpoint_accepted platform copied parsed rfl (by decide) (Nat.le_refl 1) valid

theorem decode_written (written : checkpointPayloadForWrite platform checkpoint = .ok payload)
    (copied : payload.nesting platform ≤ platform.copyDepth) :
    decodeCheckpoint platform payload = .loaded checkpoint.current := by
  obtain ⟨rfl, valid⟩ := (checkpointPayloadForWrite_spec platform).mp written
  have schema : checkpoint.current.toJson.field .schemaVersion = some (str schemaVersion) := by
    simp [RunCheckpoint.toJson, RunCheckpoint.current]
  rw [decodeCheckpoint_current platform copied schema valid, loadFields_toJson]

theorem write_decoded (loaded : decodeCheckpoint platform payload = .loaded checkpoint) :
    checkpointPayloadForWrite platform checkpoint = .ok checkpoint.current.toJson := by
  obtain ⟨valid, rfl⟩ := decodeCheckpoint_loaded platform loaded
  exact (checkpointPayloadForWrite_spec platform).mpr ⟨rfl, validate_filled platform valid⟩

end RoundTrip

end MonoidKernel.CheckpointCodec
