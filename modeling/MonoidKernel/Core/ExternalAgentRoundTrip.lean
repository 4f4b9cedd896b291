import MonoidKernel.Core.ExternalAgentEnvelope
import MonoidKernel.Library.Trim

set_option autoImplicit false

namespace MonoidKernel.ExternalAgent

open MonoidKernel.JsonIngress (Key Scalar Tree ingress ingressEntries checkKeys isFinite
  normalizeText normalizedKey checkKeys_clean ingress_again ingress_dict_ok normalizeText_twice
  normalizeUnicodeScalars_pyText)
open MonoidKernel.ModelContent (PyText pyText normalizeUnicodeScalars)

section Texts

theorem bind_ok {ε α β : Type} {read : Except ε α} {next : α → Except ε β} {result : β} :
    (read >>= next) = .ok result ↔ ∃ value, read = .ok value ∧ next value = .ok result := by
  cases read with
  | error error => simp [bind, Except.bind]
  | ok value => simp [bind, Except.bind]

theorem refuse_ok {bad : Prop} [Decidable bad] {message : String} {done : Unit} :
    refuse bad message = .ok done ↔ ¬bad := by
  rw [refuse]
  split
  next holds => simp [holds]
  next fails => simp [fails]

theorem map_ok {ε α β : Type} {read : Except ε α} {write : α → β} {result : β} :
    write <$> read = .ok result ↔ ∃ value, read = .ok value ∧ write value = result := by
  cases read with
  | error error => simp [Functor.map, Except.map]
  | ok value => simp [Functor.map, Except.map]

@[simp]
theorem normalizeText_py (name : String) : normalizeText (py name) = py name := by
  rw [normalizeText, py, normalizeUnicodeScalars_pyText]

variable {value : PyText}

theorem normalizeText_strip (normal : normalizeText value = value) :
    normalizeText (strip value) = strip value := by
  have inside : List.Sublist (strip value) (pyText (normalizeUnicodeScalars value)) := by
    have same : pyText (normalizeUnicodeScalars value) = value := normal
    rw [same]
    exact Library.trim_sublist isSpace value
  obtain ⟨characters, _, same⟩ := List.sublist_map_iff.mp inside
  rw [same]
  exact congrArg pyText (normalizeUnicodeScalars_pyText characters)

theorem strip_twice (value : PyText) : strip (strip value) = strip value :=
  Library.trim_trim isSpace value

structure Trimmed (value : PyText) : Prop where
  normal : normalizeText value = value
  stripped : strip value = value
  nonempty : value ≠ []

variable {name : String}

theorem requiredText_ok {found : PyText} (passed : requiredText name value = .ok found) :
    found = strip (normalizeText value) ∧ Trimmed found := by
  obtain ⟨_, filled, passed⟩ := bind_ok.mp passed
  obtain rfl := Except.ok.inj passed
  refine ⟨rfl, ?_, strip_twice _, refuse_ok.mp filled⟩
  exact normalizeText_strip (normalizeText_twice value)

theorem Trimmed.required (trimmed : Trimmed value) (name : String) :
    requiredText name value = .ok value := by
  rw [requiredText, trimmed.normal, trimmed.stripped, refuse, if_neg trimmed.nonempty]
  rfl

theorem finiteNumber_ok {value : Tree} {word : UInt64}
    (passed : finiteNumber name value = .ok word) : isFinite word = true := by
  unfold finiteNumber at passed
  split at passed
  · split at passed
    next found =>
      obtain rfl := Except.ok.inj passed
      exact (Option.filter_eq_some_iff.mp found).2
    · cases passed
  · split at passed
    next finite =>
      obtain rfl := Except.ok.inj passed
      exact finite
    · cases passed
  · cases passed

theorem finiteNumber_float {word : UInt64} (finite : isFinite word = true) (name : String) :
    finiteNumber name (.scalar (.float word)) = .ok word := by
  simp only [finiteNumber, finite, if_true]

def Settled (entries : Dict) : Prop := ingress (.dict entries) = .ok (.dict entries)

theorem normalizedObject_ok {value : Tree} {entries : Dict}
    (passed : normalizedObject name value = .ok entries) : Settled entries := by
  rw [normalizedObject] at passed
  split at passed
  · cases passed
  next normalized found =>
    cases normalized with
    | dict inner =>
      cases passed
      exact ingress_again value found
    | _ => cases passed

theorem Settled.object {entries : Dict} (settled : Settled entries) (name : String) :
    normalizedObject name (.dict entries) = .ok entries := by
  rw [normalizedObject, settled]
  rfl

end Texts

section Values

theorem py_injective : Function.Injective py := by
  intro first second same
  have texts : first.toList = second.toList := by
    rw [← normalizeUnicodeScalars_pyText first.toList,
      ← normalizeUnicodeScalars_pyText second.toList]
    exact congrArg normalizeUnicodeScalars same
  exact String.toList_injective texts

theorem key_inj {first second : String} : key first = key second ↔ first = second := by
  constructor
  · exact fun same => py_injective (Key.str.inj same)
  · exact congrArg key

theorem get_named (fields : List (String × Tree)) (name : String) :
    get (named fields) name = fields.lookup name := by
  induction fields with
  | nil => rfl
  | cons field rest ih =>
    have step : get (named (field :: rest)) name =
        if key name = key field.1 then some field.2 else get (named rest) name :=
      Library.OrderedDict.lookup_cons_ite ..
    rw [step, ih, Library.OrderedDict.lookup_cons_ite]
    simp only [key_inj]

theorem settled_named {fields : List (String × Tree)} (apart : (fields.map Prod.fst).Nodup)
    (values : ∀ field ∈ fields, ingress field.2 = .ok field.2) : Settled (named fields) := by
  have names : (named fields).map Prod.fst = (fields.map Prod.fst).map key := by
    simp [named]
  refine ingress_dict_ok ?_ ?_
  · rw [names]
    refine checkKeys_clean [] _ ?_ ?_
    · intro found member
      obtain ⟨name, _, rfl⟩ := List.mem_map.mp member
      exact ⟨_, rfl⟩
    · rw [List.nil_append, List.map_map]
      refine apart.map fun first second same => py_injective ?_
      simpa [key, normalizedKey] using same
  · clear names apart
    induction fields with
    | nil => rfl
    | cons field rest ih =>
      rw [List.forall_mem_cons] at values
      rw [named, List.map_cons, ingressEntries, values.1, ← named, ih values.2]
      simp [key, normalizedKey]

theorem ingress_text {value : PyText} (normal : normalizeText value = value) :
    ingress (textValue value) = .ok (textValue value) := by
  rw [textValue, ingress, JsonIngress.ingressScalar, normal]

theorem ingress_float {word : UInt64} (finite : isFinite word = true) :
    ingress (.scalar (.float word)) = .ok (.scalar (.float word)) := by
  rw [ingress, JsonIngress.ingressScalar, if_pos finite]

theorem ingress_list {items : List Tree} (each : ∀ item ∈ items, ingress item = .ok item) :
    ingress (.list items) = .ok (.list items) := by
  have inner : JsonIngress.ingressItems items = .ok items := by
    induction items with
    | nil => rfl
    | cons item rest ih =>
      rw [List.forall_mem_cons] at each
      rw [JsonIngress.ingressItems, each.1, ih each.2]
  rw [ingress, inner]
  rfl

theorem mapM_ok {α β : Type} {read : α → Except String β} {items : List α} {found : List β}
    (passed : items.mapM read = .ok found) :
    found.length = items.length ∧ ∀ value ∈ found, ∃ item ∈ items, read item = .ok value := by
  induction items generalizing found with
  | nil =>
    cases passed
    exact ⟨rfl, by simp⟩
  | cons item rest ih =>
    rw [List.mapM_cons] at passed
    obtain ⟨first, one, passed⟩ := bind_ok.mp passed
    obtain ⟨later, two, passed⟩ := bind_ok.mp passed
    obtain rfl := Except.ok.inj passed
    obtain ⟨size, each⟩ := ih two
    refine ⟨by simp [size], ?_⟩
    rw [List.forall_mem_cons]
    refine ⟨⟨item, List.mem_cons_self, one⟩, fun value member => ?_⟩
    obtain ⟨source, held, same⟩ := each value member
    exact ⟨source, List.mem_cons_of_mem _ held, same⟩

theorem mapM_returns {α β : Type} {read : α → Except String β} {value : α → β} {items : List α}
    (each : ∀ item ∈ items, read item = .ok (value item)) :
    items.mapM read = .ok (items.map value) := by
  induction items with
  | nil => rfl
  | cons item rest ih =>
    rw [List.forall_mem_cons] at each
    rw [List.mapM_cons, each.1, ih each.2]
    rfl

end Values

section Parts

structure Part.Normal (part : Part) : Prop where
  type : Trimmed part.type
  text : normalizeText part.text = part.text
  data : Settled part.data
  artifactId : normalizeText part.artifactId = part.artifactId
  mimeType : normalizeText part.mimeType = part.mimeType

variable {part : Part}

theorem Part.normalize_ok {found : Part} (passed : part.normalize = .ok found) :
    found.Normal := by
  obtain ⟨data, object, passed⟩ := bind_ok.mp passed
  obtain ⟨type, required, passed⟩ := bind_ok.mp passed
  obtain rfl := Except.ok.inj passed
  exact
    { type := (requiredText_ok required).2
      text := normalizeText_twice _
      data := normalizedObject_ok object
      artifactId := normalizeText_twice _
      mimeType := normalizeText_twice _ }

theorem Part.Normal.normalize (normal : part.Normal) : part.normalize = .ok part := by
  rw [Part.normalize, normal.data.object, normal.type.required, normal.text, normal.artifactId,
    normal.mimeType]
  rfl

theorem given_lookup (name other : String) (value : PyText) :
    (given name value).lookup other =
      if other = name ∧ value ≠ [] then some (textValue value) else none := by
  rw [given]
  split
  next empty => simp [empty]
  next filled =>
    rw [Library.OrderedDict.lookup_cons_ite]
    simp [filled]

theorem Part.Normal.settled (normal : part.Normal) :
    Settled (named part.fields) := by
  have all : List.Sublist part.fields
      [("type", textValue part.type), ("text", textValue part.text), ("data", .dict part.data),
        ("artifact_id", textValue part.artifactId), ("mime_type", textValue part.mimeType)] := by
    have optional (name : String) (value : PyText) :
        List.Sublist (given name value) [(name, textValue value)] := by
      rw [given]
      split <;> simp
    have data : List.Sublist (if part.data.isEmpty then [] else [("data", Tree.dict part.data)])
        [("data", .dict part.data)] := by
      split <;> simp
    exact ((((List.Sublist.refl _).append (optional _ _)).append data).append
      (optional _ _)).append (optional _ _)
  refine settled_named ((all.map Prod.fst).nodup (by simp)) fun field member => ?_
  have inside := all.subset member
  simp only [List.mem_cons, List.not_mem_nil, or_false] at inside
  rcases inside with rfl | rfl | rfl | rfl | rfl
  · exact ingress_text normal.type.normal
  · exact ingress_text normal.text
  · exact normal.data
  · exact ingress_text normal.artifactId
  · exact ingress_text normal.mimeType

variable {payload : Dict} {name : String} {value : PyText}

theorem parseStr_found (found : get payload name = some (textValue value)) :
    parseStr payload name = .ok value := by
  rw [parseStr, parseStrOr, found]
  rfl

theorem parseStr_given
    (found : get payload name = if value ≠ [] then some (textValue value) else none) :
    parseStr payload name = .ok value := by
  by_cases empty : value = []
  · rw [if_neg (not_not.mpr empty)] at found
    rw [parseStr, parseStrOr, found, empty]
  · rw [if_pos empty] at found
    exact parseStr_found found

theorem parseRequiredStr_found (trimmed : Trimmed value)
    (found : get payload name = some (textValue value)) :
    parseRequiredStr payload name = .ok value := by
  rw [parseRequiredStr, parseStr_found found, found]
  simp [refuse, trimmed.stripped, trimmed.nonempty, bind, Except.bind]

theorem Part.Normal.fromJson (normal : part.Normal) :
    Part.fromJson (.dict (named part.fields)) = .ok part := by
  have lookup (name : String) : get (named part.fields) name =
      (part.fields).lookup name := get_named _ _
  have type := parseRequiredStr_found normal.type (lookup "type")
  have body : parseStr (named part.fields) "text" = .ok part.text := by
    refine parseStr_given ((lookup "text").trans ?_)
    cases held : part.data <;> simp [Part.fields, Library.OrderedDict.lookup_cons_ite,
      List.lookup_append, given_lookup, held]
  have data : objectField (named part.fields) "data" = .ok part.data := by
    have found := lookup "data"
    rw [objectField, found]
    cases held : part.data <;>
      simp [Part.fields, Library.OrderedDict.lookup_cons_ite, List.lookup_append,
      given_lookup, held, requireObject]
  have artifactId : parseStr (named part.fields) "artifact_id" = .ok part.artifactId := by
    refine parseStr_given ((lookup "artifact_id").trans ?_)
    cases held : part.data <;>
      simp [Part.fields, Library.OrderedDict.lookup_cons_ite, List.lookup_append,
        given_lookup, held]
  have mimeType : parseStr (named part.fields) "mime_type" = .ok part.mimeType := by
    refine parseStr_given ((lookup "mime_type").trans ?_)
    cases held : part.data <;>
      simp [Part.fields, Library.OrderedDict.lookup_cons_ite, List.lookup_append,
        given_lookup, held]
  rw [Part.fromJson, normal.settled.object]
  simp only [bind, Except.bind, type, body, data, artifactId, mimeType]

end Parts

section Results

structure AgentError.Normal (error : AgentError) : Prop where
  code : Trimmed error.code
  message : normalizeText error.message = error.message

variable {error : AgentError}

theorem AgentError.normalize_ok {found : AgentError} (passed : error.normalize = .ok found) :
    found.Normal := by
  obtain ⟨code, required, passed⟩ := bind_ok.mp passed
  obtain rfl := Except.ok.inj passed
  exact ⟨(requiredText_ok required).2, normalizeText_twice _⟩

theorem AgentError.Normal.normalize (normal : error.Normal) :
    error.normalize = .ok error := by
  rw [AgentError.normalize, normal.code.required, normal.message]
  rfl

theorem AgentError.Normal.settled (normal : error.Normal) :
    Settled (named error.fields) := by
  refine settled_named (by simp [AgentError.fields]) fun field member => ?_
  simp only [AgentError.fields, List.mem_cons, List.not_mem_nil, or_false] at member
  rcases member with rfl | rfl | rfl
  · exact ingress_text normal.code.normal
  · exact ingress_text normal.message
  · rfl

theorem AgentError.Normal.fromJson (normal : error.Normal) :
    AgentError.fromJson (.dict (named error.fields)) = .ok error := by
  have lookup (name : String) : get (named error.fields) name = error.fields.lookup name :=
    get_named _ _
  have code := parseRequiredStr_found normal.code (lookup "code")
  have message : parseStr (named error.fields) "message" = .ok error.message :=
    parseStr_found (lookup "message")
  have retryable : parseBool (named error.fields) "retryable" = .ok error.retryable := by
    rw [parseBool, lookup]
    rfl
  rw [AgentError.fromJson, normal.settled.object]
  simp only [bind, Except.bind, code, message, retryable]

structure Result.Normal (result : Result) : Prop where
  state : Trimmed result.state
  error : ∀ error, result.error = some error → error.Normal
  metadata : Settled result.metadata

variable {result : Result}

theorem Result.normalize_ok {found : Result} (passed : result.normalize = .ok found) :
    found.Normal := by
  obtain ⟨metadata, object, passed⟩ := bind_ok.mp passed
  obtain ⟨state, required, passed⟩ := bind_ok.mp passed
  obtain ⟨error, inner, passed⟩ := bind_ok.mp passed
  obtain rfl := Except.ok.inj passed
  refine ⟨(requiredText_ok required).2, fun held same => ?_, normalizedObject_ok object⟩
  cases source : result.error with
  | none =>
    rw [source] at inner
    cases inner
    cases same
  | some before =>
    rw [source, Option.mapM_some] at inner
    obtain ⟨after, normalized, rfl⟩ := map_ok.mp inner
    cases same
    exact AgentError.normalize_ok normalized

def Result.errorJson (result : Result) : Option Tree :=
  result.error.map fun error => .dict (named error.fields)

theorem Result.Normal.normalize (normal : result.Normal) :
    result.normalize = .ok result := by
  have error : result.error.mapM AgentError.normalize = .ok result.error := by
    cases held : result.error with
    | none => rfl
    | some error =>
      rw [Option.mapM_some, (normal.error error held).normalize]
      rfl
  rw [Result.normalize, normal.metadata.object, normal.state.required, error]
  rfl

theorem Result.Normal.toJson (normal : result.Normal) :
    result.toJson = .ok (.dict (named (result.fields result.errorJson))) := by
  have error : result.error.mapM AgentError.toJson = .ok result.errorJson := by
    rw [Result.errorJson]
    cases held : result.error with
    | none => rfl
    | some error =>
      rw [Option.mapM_some, AgentError.toJson, (normal.error error held).normalize]
      rfl
  rw [Result.toJson, normal.normalize]
  simp only [bind, Except.bind, error]

theorem Result.Normal.errorSettled (normal : result.Normal) {json : Tree}
    (held : result.errorJson = some json) : ingress json = .ok json := by
  obtain ⟨error, found, rfl⟩ := Option.map_eq_some_iff.mp held
  exact (normal.error error found).settled

theorem Result.Normal.settled (normal : result.Normal) :
    Settled (named (result.fields result.errorJson)) := by
  refine settled_named ?_ fun field member => ?_
  · cases result.errorJson with
    | none => simp [Result.fields]
    | some json => simp [Result.fields]
  · simp only [Result.fields, List.mem_append, List.mem_cons, List.not_mem_nil, or_false,
      List.mem_map, Option.mem_toList] at member
    rcases member with (rfl | rfl | rfl | rfl) | ⟨json, held, rfl⟩
    · exact ingress_text normal.state.normal
    · rfl
    · rfl
    · exact normal.metadata
    · exact normal.errorSettled held

theorem Result.Normal.fromJson (normal : result.Normal) :
    Result.fromJson (.dict (named (result.fields result.errorJson))) = .ok result := by
  have lookup (name : String) : get (named (result.fields result.errorJson)) name =
      (result.fields result.errorJson).lookup name := get_named _ _
  have state := parseRequiredStr_found normal.state (lookup "state")
  have terminal : parseBool (named (result.fields result.errorJson)) "terminal" =
      .ok result.terminal := by
    rw [parseBool, lookup]
    rfl
  have interrupted : parseBool (named (result.fields result.errorJson)) "interrupted" =
      .ok result.interrupted := by
    rw [parseBool, lookup]
    rfl
  have metadata : objectField (named (result.fields result.errorJson)) "metadata" =
      .ok result.metadata := by
    rw [objectField, lookup]
    rfl
  have error : nullableObject (named (result.fields result.errorJson)) "error" =
      .ok (result.error.map fun error => named error.fields) := by
    rw [nullableObject, lookup, Result.errorJson]
    cases held : result.error with
    | none => rfl
    | some error => rfl
  have read : (result.error.map fun error => named error.fields).mapM
      (fun entries => AgentError.fromJson (.dict entries)) = .ok result.error := by
    cases held : result.error with
    | none => rfl
    | some error =>
      rw [Option.map_some, Option.mapM_some, (normal.error error held).fromJson]
      rfl
  rw [Result.fromJson, normal.settled.object]
  simp only [bind, Except.bind, state, terminal, interrupted, metadata, error, read]

end Results

section Envelopes

structure Envelope.Normal (envelope : Envelope) : Prop where
  peerId : Trimmed envelope.peerId
  some : envelope.parts ≠ []
  parts : ∀ part ∈ envelope.parts, part.Normal
  messageId : Trimmed envelope.messageId
  taskId : normalizeText envelope.taskId = envelope.taskId
  requestId : normalizeText envelope.requestId = envelope.requestId
  replyToId : normalizeText envelope.replyToId = envelope.replyToId
  correlationId : normalizeText envelope.correlationId = envelope.correlationId
  causationId : normalizeText envelope.causationId = envelope.causationId
  traceparent : normalizeText envelope.traceparent = envelope.traceparent
  tracestate : normalizeText envelope.tracestate = envelope.tracestate
  capabilityRef : normalizeText envelope.capabilityRef = envelope.capabilityRef
  result : ∀ result, envelope.result = Option.some result → result.Normal
  createdAt : ∃ word, envelope.createdAt = .float word ∧ isFinite word = true
  metadata : Settled envelope.metadata

variable {envelope : Envelope}

theorem Envelope.normalize_ok {found : Envelope} (passed : envelope.normalize = .ok found) :
    found.Normal ∧ found.messageId = strip (normalizeText envelope.messageId) := by
  unfold Envelope.normalize at passed
  obtain ⟨_, filled, passed⟩ := bind_ok.mp passed
  obtain ⟨metadata, object, passed⟩ := bind_ok.mp passed
  obtain ⟨peerId, peer, passed⟩ := bind_ok.mp passed
  obtain ⟨parts, each, passed⟩ := bind_ok.mp passed
  obtain ⟨messageId, message, passed⟩ := bind_ok.mp passed
  obtain ⟨result, inner, passed⟩ := bind_ok.mp passed
  obtain ⟨createdAt, finite, passed⟩ := bind_ok.mp passed
  obtain rfl := Except.ok.inj passed
  obtain ⟨size, origin⟩ := mapM_ok each
  have results (held : Result) (same : result = some held) : held.Normal := by
    subst same
    cases source : envelope.result with
    | none =>
      rw [source] at inner
      cases inner
    | some before =>
      rw [source, Option.mapM_some] at inner
      obtain ⟨after, normalized, same⟩ := map_ok.mp inner
      cases same
      exact Result.normalize_ok normalized
  refine ⟨?_, (requiredText_ok message).1⟩
  exact
    { peerId := (requiredText_ok peer).2
      some := by
        intro empty
        have none : envelope.parts = [] := by
          rw [← List.length_eq_zero_iff, ← size]
          exact congrArg List.length empty
        exact refuse_ok.mp filled (by simp [none])
      parts := by
        intro part member
        obtain ⟨source, _, normalized⟩ := origin part member
        exact Part.normalize_ok normalized
      messageId := (requiredText_ok message).2
      taskId := normalizeText_twice _
      requestId := normalizeText_twice _
      replyToId := normalizeText_twice _
      correlationId := normalizeText_twice _
      causationId := normalizeText_twice _
      traceparent := normalizeText_twice _
      tracestate := normalizeText_twice _
      capabilityRef := normalizeText_twice _
      result := results
      createdAt := ⟨createdAt, rfl, finiteNumber_ok finite⟩
      metadata := normalizedObject_ok object }

theorem Envelope.Normal.normalize (normal : envelope.Normal) :
    envelope.normalize = .ok envelope := by
  have parts : envelope.parts.mapM Part.normalize = .ok envelope.parts := by
    have each := mapM_returns fun part member => (normal.parts part member).normalize
    rwa [List.map_id'] at each
  have result : envelope.result.mapM Result.normalize = .ok envelope.result := by
    cases held : envelope.result with
    | none => rfl
    | some result =>
      rw [Option.mapM_some, (normal.result result held).normalize]
      rfl
  have filled : envelope.parts.isEmpty = false := by simpa using normal.some
  obtain ⟨word, createdAt, finite⟩ := normal.createdAt
  have time := finiteNumber_float finite "external agent created_at"
  rw [← createdAt] at time
  unfold Envelope.normalize
  simp only [refuse, filled, normal.metadata.object, normal.peerId.required, parts,
    normal.messageId.required, result, time, normal.taskId, normal.requestId, normal.replyToId,
    normal.correlationId, normal.causationId, normal.traceparent, normal.tracestate,
    normal.capabilityRef]
  change Except.ok { envelope with createdAt := Scalar.float word } = _
  rw [← createdAt]

def Envelope.filled (envelope : Envelope) : Envelope :=
  { envelope with
    taskId := orText (orText envelope.taskId envelope.correlationId) envelope.messageId
    correlationId := orText envelope.correlationId envelope.messageId }

variable {first : PyText}

theorem orText_normal {second : PyText} (one : normalizeText first = first)
    (two : normalizeText second = second) :
    normalizeText (orText first second) = orText first second := by
  unfold orText
  split
  · exact two
  · exact one

theorem orText_nonempty {second : PyText} (filled : second ≠ []) :
    orText first second ≠ [] := by
  unfold orText
  split
  · exact filled
  next present => exact present

theorem orText_first (filled : first ≠ []) (second : PyText) :
    orText first second = first := if_neg filled

theorem Envelope.Normal.filled (normal : envelope.Normal) :
    envelope.filled.Normal where
  peerId := normal.peerId
  some := normal.some
  parts := normal.parts
  messageId := normal.messageId
  taskId := orText_normal (orText_normal normal.taskId normal.correlationId) normal.messageId.normal
  requestId := normal.requestId
  replyToId := normal.replyToId
  correlationId := orText_normal normal.correlationId normal.messageId.normal
  causationId := normal.causationId
  traceparent := normal.traceparent
  tracestate := normal.tracestate
  capabilityRef := normal.capabilityRef
  result := normal.result
  createdAt := normal.createdAt
  metadata := normal.metadata

theorem Envelope.Normal.filled_twice (normal : envelope.Normal) :
    envelope.filled.filled = envelope.filled := by
  have task : orText (orText envelope.taskId envelope.correlationId) envelope.messageId ≠ [] :=
    orText_nonempty normal.messageId.nonempty
  have correlation : orText envelope.correlationId envelope.messageId ≠ [] :=
    orText_nonempty normal.messageId.nonempty
  simp only [Envelope.filled, orText_first task, orText_first correlation]

def Envelope.partsJson (envelope : Envelope) : List Tree :=
  envelope.parts.map fun part => .dict (named part.fields)

def Envelope.resultJson (envelope : Envelope) : Option Tree :=
  envelope.result.map fun result => .dict (named (result.fields result.errorJson))

def Envelope.json (envelope : Envelope) : Dict :=
  named (envelope.fields envelope.partsJson envelope.resultJson)

theorem Envelope.Normal.toJson (normal : envelope.Normal) :
    envelope.toJson = .ok (.dict envelope.json) := by
  have parts : envelope.parts.mapM Part.toJson = .ok envelope.partsJson := by
    refine mapM_returns fun part member => ?_
    rw [Part.toJson, (normal.parts part member).normalize]
    rfl
  have result : envelope.result.mapM Result.toJson = .ok envelope.resultJson := by
    rw [Envelope.resultJson]
    cases held : envelope.result with
    | none => rfl
    | some result =>
      rw [Option.mapM_some, (normal.result result held).toJson]
      rfl
  rw [Envelope.toJson, normal.normalize]
  simp only [bind, Except.bind, parts, result]
  rfl

theorem Envelope.Normal.json_filled (normal : envelope.Normal) :
    envelope.filled.json = envelope.json := by
  have twice := normal.filled_twice
  have task := congrArg Envelope.taskId twice
  have correlation := congrArg Envelope.correlationId twice
  simp only [Envelope.filled] at task correlation
  simp only [Envelope.json, Envelope.fields, Envelope.partsJson, Envelope.resultJson,
    Envelope.filled, task, correlation]

theorem Envelope.Normal.settled (normal : envelope.Normal) :
    Settled envelope.json := by
  have filled := normal.filled
  refine settled_named (by simp [Envelope.fields]) fun field member => ?_
  simp only [Envelope.fields, List.mem_cons, List.not_mem_nil, or_false] at member
  rcases member with rfl | rfl | rfl | rfl | rfl | rfl | rfl | rfl | rfl | rfl | rfl | rfl | rfl |
    rfl | rfl
  · exact ingress_text (normalizeText_py _)
  · exact ingress_text normal.peerId.normal
  · exact ingress_text normal.messageId.normal
  · exact ingress_text filled.taskId
  · exact ingress_text normal.requestId
  · exact ingress_text normal.replyToId
  · exact ingress_text filled.correlationId
  · exact ingress_text normal.causationId
  · exact ingress_text normal.traceparent
  · exact ingress_text normal.tracestate
  · exact ingress_text normal.capabilityRef
  · refine ingress_list fun item inside => ?_
    obtain ⟨part, held, rfl⟩ := List.mem_map.mp inside
    exact (normal.parts part held).settled
  · rw [Envelope.resultJson]
    cases held : envelope.result with
    | none => rfl
    | some result => exact (normal.result result held).settled
  · obtain ⟨word, createdAt, finite⟩ := normal.createdAt
    rw [createdAt]
    exact ingress_float finite
  · exact normal.metadata

theorem Envelope.Normal.fromJson (normal : envelope.Normal) :
    Envelope.fromJson (.dict envelope.json) = .ok envelope.filled := by
  have lookup (name : String) : get envelope.json name =
      (envelope.fields envelope.partsJson envelope.resultJson).lookup name := get_named _ _
  have protocol := parseStr_found (lookup "protocol")
  have accepted : envelopeVersion ∈ acceptedEnvelopeVersions := List.mem_cons_self
  have peerId := parseRequiredStr_found normal.peerId (lookup "peer_id")
  have list : requireList "parts" (get envelope.json "parts") = .ok envelope.partsJson := by
    rw [lookup]
    rfl
  have some : envelope.partsJson.isEmpty = false := by
    simpa [Envelope.partsJson] using normal.some
  have parts : envelope.partsJson.mapM Part.fromJson = .ok envelope.parts := by
    rw [Envelope.partsJson, List.mapM_map]
    have each := mapM_returns fun part member => (normal.parts part member).fromJson
    rwa [List.map_id'] at each
  have messageId := parseRequiredStr_found normal.messageId (lookup "message_id")
  have object : nullableObject envelope.json "result" =
      .ok (envelope.result.map fun result => named (result.fields result.errorJson)) := by
    rw [nullableObject, lookup, Envelope.resultJson]
    cases held : envelope.result with
    | none => rfl
    | some result => rfl
  have result : (envelope.result.map fun result => named (result.fields result.errorJson)).mapM
      (fun entries => Result.fromJson (.dict entries)) = .ok envelope.result := by
    cases held : envelope.result with
    | none => rfl
    | some result =>
      rw [Option.map_some, Option.mapM_some, (normal.result result held).fromJson]
      rfl
  have metadata : objectField envelope.json "metadata" = .ok envelope.metadata := by
    rw [objectField, lookup]
    rfl
  obtain ⟨word, createdAt, finite⟩ := normal.createdAt
  have time : finiteNumber "created_at"
      ((get envelope.json "created_at").getD (.scalar (.float 0))) = .ok word := by
    rw [lookup]
    have found : ((envelope.fields envelope.partsJson envelope.resultJson).lookup
        "created_at").getD (.scalar (.float 0)) = .scalar envelope.createdAt := rfl
    rw [found, createdAt]
    exact finiteNumber_float finite _
  unfold Envelope.fromJson
  simp only [normal.settled.object, bind, Except.bind, protocol, refuse, not_not.mpr accepted,
    if_false, peerId, list, some, parts, messageId, object, metadata, result, time,
    parseStr_found (lookup "task_id"), parseStr_found (lookup "request_id"),
    parseStr_found (lookup "reply_to_id"), parseStr_found (lookup "correlation_id"),
    parseStr_found (lookup "causation_id"), parseStr_found (lookup "traceparent"),
    parseStr_found (lookup "tracestate"), parseStr_found (lookup "capability_ref")]
  change Except.ok { envelope.filled with createdAt := Scalar.float word } = _
  rw [← createdAt]
  rfl

theorem Envelope.Normal.roundTrip (normal : envelope.Normal) :
    (envelope.toJson >>= Envelope.fromJson) = .ok envelope.filled ∧
      (envelope.filled.toJson >>= Envelope.fromJson) = .ok envelope.filled ∧
      envelope.filled.toJson = envelope.toJson := by
  have again := normal.filled.toJson
  rw [normal.json_filled] at again
  rw [again, normal.toJson]
  exact ⟨normal.fromJson, normal.fromJson, rfl⟩

end Envelopes

end MonoidKernel.ExternalAgent
