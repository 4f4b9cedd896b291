import MonoidKernel.Core.ExternalAgentInbox
import MonoidKernel.Core.ExternalAgentRoundTrip

set_option autoImplicit false

namespace MonoidKernel.ExternalAgent

open Library (OrderedDict.put)
open MonoidKernel.JsonIngress (Key Scalar Tree isFinite normalizeText normalizeText_twice)
open MonoidKernel.ModelContent (PyText)

section Merging

theorem lookup_filter_reserved (user : Dict) (name : Key) :
    (user.filter fun entry => entry.1 ∉ reservedMetadataKeys).lookup name =
      if name ∈ reservedMetadataKeys then none else user.lookup name := by
  induction user with
  | nil => simp
  | cons entry rest ih =>
    rw [List.filter_cons, Library.OrderedDict.lookup_cons_ite]
    by_cases reserved : entry.1 ∈ reservedMetadataKeys
    · rw [if_neg (by simpa using reserved), ih]
      by_cases same : name = entry.1
      · simp [same, reserved]
      · simp [same]
    · rw [if_pos (by simpa using reserved), Library.OrderedDict.lookup_cons_ite, ih]
      by_cases same : name = entry.1
      · simp [same, reserved]
      · simp [same]

theorem canonical_distinct (envelope : Envelope) (result : Option Tree) :
    ((envelope.canonicalMetadata result).map Prod.fst).Nodup := by
  have names : (envelope.canonicalMetadata result).map Prod.fst =
      ["task_id", "request_id", "reply_to_id", "peer_id", "result", "traceparent"].map key := rfl
  rw [names]
  exact List.Nodup.map (fun first second same => key_inj.mp same) (by decide)

theorem canonical_reserved (envelope : Envelope) (result : Option Tree) (name : Key) :
    name ∈ reservedMetadataKeys ↔ ((envelope.canonicalMetadata result).lookup name).isSome := by
  have names : (envelope.canonicalMetadata result).map Prod.fst =
      ["task_id", "request_id", "reply_to_id", "peer_id", "result", "traceparent"].map key := rfl
  have reserved : reservedMetadataKeys =
      ["peer_id", "task_id", "request_id", "reply_to_id", "result", "traceparent"].map key := rfl
  have same : List.Perm
      ["peer_id", "task_id", "request_id", "reply_to_id", "result", "traceparent"]
      ["task_id", "request_id", "reply_to_id", "peer_id", "result", "traceparent"] := by decide
  rw [Library.OrderedDict.lookup_isSome, names, reserved]
  exact (same.map key).mem_iff

end Merging

section Delivery

structure Delivery where
  request : OutboxRequest
  fresh : Fresh
  createdAt : Scalar
  peerId : PyText
  runId : PyText
  source : Option PyText

variable (runtime : Runtime)

def Delivery.envelope (delivery : Delivery) : Except String Envelope :=
  envelopeFromOutboxRequest runtime delivery.fresh delivery.createdAt delivery.peerId
    delivery.request

def Delivery.message (delivery : Delivery) : Except String InboxMessage :=
  carry runtime delivery.fresh delivery.createdAt delivery.peerId delivery.runId delivery.source
    delivery.request

def OutboxRequest.identity (request : OutboxRequest) : PyText :=
  strip (normalizeText request.effectiveKey)

variable {runtime}

variable {envelope : Envelope}

theorem envelope_normal {delivery : Delivery} (sent : delivery.envelope runtime = .ok envelope) :
    envelope.Normal ∧ envelope.messageId = delivery.request.identity := by
  obtain ⟨payload, _, sent⟩ := bind_ok.mp sent
  obtain ⟨parts, _, sent⟩ := bind_ok.mp sent
  obtain ⟨messageId, required, sent⟩ := bind_ok.mp sent
  obtain ⟨senderPeerId, _, sent⟩ := bind_ok.mp sent
  obtain ⟨taskId, _, sent⟩ := bind_ok.mp sent
  obtain ⟨requestId, _, sent⟩ := bind_ok.mp sent
  obtain ⟨replyToId, _, sent⟩ := bind_ok.mp sent
  obtain ⟨_, _, untrimmed⟩ := bind_ok.mp required
  obtain rfl := Except.ok.inj untrimmed
  obtain ⟨normal, same⟩ := Envelope.normalize_ok sent
  exact ⟨normal, same.trans (congrArg strip (normalizeText_twice _))⟩

theorem message_eq {delivery : Delivery} (sent : delivery.envelope runtime = .ok envelope) :
    delivery.message runtime =
      envelopeToInboxMessage runtime delivery.runId delivery.source envelope.filled := by
  have normal := (envelope_normal sent).1
  unfold Delivery.envelope at sent
  rw [Delivery.message, carry, sent]
  change (envelope.toJson >>= fun json => Envelope.fromJson json >>= _) = _
  rw [normal.toJson]
  change (Envelope.fromJson (.dict envelope.json) >>= _) = _
  rw [normal.fromJson]
  rfl

theorem mergeCanonicalMetadata_settled {user canonical : Dict} (one : Settled user)
    (two : Settled canonical) :
    mergeCanonicalMetadata user canonical =
      .ok (canonical.foldl (fun merged entry => OrderedDict.put entry.1 entry.2 merged)
        (user.filter fun entry => entry.1 ∉ reservedMetadataKeys)) := by
  rw [mergeCanonicalMetadata, one.object, two.object]
  rfl

theorem canonical_settled (normal : envelope.Normal) :
    Settled (envelope.canonicalMetadata envelope.resultJson) := by
  refine settled_named (by simp) fun field member => ?_
  simp only [List.mem_cons, List.not_mem_nil, or_false] at member
  rcases member with rfl | rfl | rfl | rfl | rfl | rfl
  · exact ingress_text normal.taskId
  · exact ingress_text normal.requestId
  · exact ingress_text normal.replyToId
  · exact ingress_text normal.peerId.normal
  · rw [Envelope.resultJson]
    cases held : envelope.result with
    | none => rfl
    | some result => exact (normal.result result held).settled
  · exact ingress_text normal.traceparent

def Envelope.inboxMetadata (envelope : Envelope) : Dict :=
  (envelope.canonicalMetadata envelope.resultJson).foldl
    (fun merged entry => OrderedDict.put entry.1 entry.2 merged)
    (envelope.metadata.filter fun entry => entry.1 ∉ reservedMetadataKeys)

theorem inboxMetadata_lookup (envelope : Envelope) (name : Key) :
    envelope.inboxMetadata.lookup name =
      if name ∈ reservedMetadataKeys then
        (envelope.canonicalMetadata envelope.resultJson).lookup name
      else envelope.metadata.lookup name := by
  rw [Envelope.inboxMetadata, Library.OrderedDict.foldl_put_lookup _ _ (canonical_distinct ..),
    lookup_filter_reserved]
  have reserved := canonical_reserved envelope envelope.resultJson name
  by_cases inside : name ∈ reservedMetadataKeys
  · simp [inside]
  · rw [reserved, Bool.not_eq_true, Option.isSome_eq_false_iff, Option.isNone_iff_eq_none] at inside
    have other : name ∉ reservedMetadataKeys := by
      rw [reserved, inside]
      exact Bool.false_ne_true
    rw [inside, if_neg other, Option.none_or]

def Envelope.inboxMessage (envelope : Envelope) (runId source : PyText) (content : Content) :
    InboxMessage where
  content := content
  id := envelope.messageId
  source := source
  type := py "external_agent_message"
  runId := runId
  createdAt := envelope.createdAt
  correlationId := orText envelope.correlationId envelope.messageId
  causationId := envelope.causationId
  traceparent := envelope.traceparent
  tracestate := envelope.tracestate
  metadata := envelope.inboxMetadata

theorem envelopeToInboxMessage_normal (normal : envelope.Normal) (runId : PyText)
    (source : Option PyText) :
    envelopeToInboxMessage runtime runId source envelope =
      (requiredUntrimmed "external agent inbox run_id" runId >>= fun runId =>
        inboxSource source envelope.peerId >>= fun source =>
          (contentFromParts runtime envelope.parts).map (envelope.inboxMessage runId source)) := by
  have result : envelope.result.mapM Result.toJson = .ok envelope.resultJson := by
    rw [Envelope.resultJson]
    cases held : envelope.result with
    | none => rfl
    | some result =>
      rw [Option.mapM_some, (normal.result result held).toJson]
      rfl
  have metadata := mergeCanonicalMetadata_settled normal.metadata (canonical_settled normal)
  rw [envelopeToInboxMessage, normal.normalize]
  simp only [bind, Except.bind, result, metadata]
  rfl

theorem readContent_tree (content : Content) : readContent (some content.tree) = .ok content := by
  cases content with
  | text value => rfl
  | parts items =>
    have read : (items.map Tree.dict).mapM (requireObject "content part") = .ok items := by
      rw [List.mapM_map]
      have each := mapM_returns fun (item : Dict) (_ : item ∈ items) =>
        (rfl : requireObject "content part" (.dict item) = .ok item)
      rwa [List.map_id'] at each
    rw [Content.tree, readContent, read]
    rfl

def zeroUnsigned (word : UInt64) : UInt64 := if word <<< 1 = 0 then 0 else word

theorem InboxMessage.fromJson_toJson (minted : PyText) {message : InboxMessage} {word : UInt64}
    (named : message.id ≠ []) (createdAt : message.createdAt = .float word)
    (finite : isFinite word = true) :
    InboxMessage.fromJson minted message.toJson = .ok
      { message with
        correlationId := orText message.correlationId message.id
        createdAt := .float (zeroUnsigned word) } := by
  have lookup (name : String) : get (ExternalAgent.named message.fields) name =
      message.fields.lookup name := get_named _ _
  have protocol := parseStr_found (lookup "protocol")
  have accepted : inboxVersion ∈ acceptedInboxVersions := List.mem_cons_self
  have content : readContent (get (ExternalAgent.named message.fields) "content") =
      .ok message.content := by
    rw [lookup]
    exact readContent_tree message.content
  have metadata : objectField (ExternalAgent.named message.fields) "metadata" =
      .ok message.metadata := by
    rw [objectField, lookup]
    rfl
  have source : parseStrOr (py "api") (ExternalAgent.named message.fields) "source" =
      .ok message.source := by
    rw [parseStrOr, lookup]
    rfl
  have type : parseStrOr (py "user_message") (ExternalAgent.named message.fields) "type" =
      .ok message.type := by
    rw [parseStrOr, lookup]
    rfl
  have time : parseFloatOrZero (ExternalAgent.named message.fields) "created_at" =
      .ok (zeroUnsigned word) := by
    have found : (message.fields.lookup "created_at").getD (.scalar (.float 0)) =
        .scalar message.createdAt := rfl
    rw [parseFloatOrZero, lookup, found, createdAt, finiteNumber_float finite]
    rfl
  have object : requireObject "inbox message" message.toJson =
      .ok (ExternalAgent.named message.fields) := rfl
  unfold InboxMessage.fromJson
  simp only [object, bind, Except.bind, protocol, refuse, accepted, not_true_eq_false, and_false,
    if_false, content, metadata, source, type, time, parseStr_found (lookup "run_id"),
    parseStr_found (lookup "correlation_id"), parseStr_found (lookup "causation_id"),
    parseStr_found (lookup "traceparent"), parseStr_found (lookup "tracestate"),
    parseStr_found (lookup "id"), orText_first named]

end Delivery

section Identity

variable (runtime : Runtime)

def Delivery.Accepted (delivery : Delivery) : Prop :=
  strip (normalizeText delivery.runId) ≠ [] ∧
    ∀ source, delivery.source = some source → strip (normalizeText source) ≠ []

theorem requiredUntrimmed_ok {name : String} {value : PyText}
    (filled : strip (normalizeText value) ≠ []) :
    requiredUntrimmed name value = .ok (normalizeText value) := by
  rw [requiredUntrimmed, refuse, if_neg filled]
  rfl

variable {delivery : Delivery}

variable {message : InboxMessage}

theorem delivered {envelope : Envelope} (sent : delivery.envelope runtime = .ok envelope)
    (received : delivery.message runtime = .ok message) :
    ∃ runId source content, message = envelope.filled.inboxMessage runId source content := by
  rw [message_eq sent, envelopeToInboxMessage_normal (envelope_normal sent).1.filled] at received
  obtain ⟨runId, _, received⟩ := bind_ok.mp received
  obtain ⟨source, _, received⟩ := bind_ok.mp received
  obtain ⟨content, _, same⟩ := map_ok.mp received
  exact ⟨runId, source, content, same.symm⟩

theorem delivered_iff {envelope : Envelope} (sent : delivery.envelope runtime = .ok envelope)
    (accepted : delivery.Accepted) :
    (∃ message, delivery.message runtime = .ok message) ↔
      ∃ content, contentFromParts runtime envelope.parts = .ok content := by
  have source : ∃ source, inboxSource delivery.source envelope.filled.peerId = .ok source := by
    unfold inboxSource
    cases held : delivery.source with
    | none => exact ⟨_, rfl⟩
    | some source => exact ⟨_, requiredUntrimmed_ok (accepted.2 source held)⟩
  obtain ⟨source, read⟩ := source
  rw [message_eq sent, envelopeToInboxMessage_normal (envelope_normal sent).1.filled,
    requiredUntrimmed_ok accepted.1]
  change (∃ message, (inboxSource delivery.source envelope.filled.peerId >>= _) = _) ↔ _
  rw [read]
  change (∃ message, Except.map _ (contentFromParts runtime envelope.parts) = .ok message) ↔ _
  cases contentFromParts runtime envelope.parts with
  | error error => simp [Except.map]
  | ok content => simp [Except.map]

theorem delivered_sent (received : delivery.message runtime = .ok message) :
    ∃ envelope, delivery.envelope runtime = .ok envelope := by
  obtain ⟨envelope, sent, _⟩ := bind_ok.mp received
  exact ⟨envelope, sent⟩

theorem delivered_id (received : delivery.message runtime = .ok message) :
    message.id = delivery.request.identity := by
  obtain ⟨envelope, sent⟩ := delivered_sent runtime received
  obtain ⟨runId, source, content, rfl⟩ := delivered runtime sent received
  exact (envelope_normal sent).2

theorem external_agent_identity :
    (∀ envelope normal : Envelope, envelope.normalize = .ok normal →
      (envelope.toJson >>= Envelope.fromJson) = .ok normal.filled ∧
      (normal.filled.toJson >>= Envelope.fromJson) = .ok normal.filled ∧
      normal.filled.toJson = envelope.toJson) ∧
    (∀ (delivery : Delivery) (envelope : Envelope), delivery.envelope runtime = .ok envelope →
      delivery.Accepted →
      ((∃ message, delivery.message runtime = .ok message) ↔
        ∃ content, contentFromParts runtime envelope.parts = .ok content)) ∧
    (∀ (first second : Delivery) (one two : InboxMessage), first.message runtime = .ok one →
      second.message runtime = .ok two →
      (one.id = two.id ↔ first.request.identity = second.request.identity)) ∧
    ∀ (delivery : Delivery) (envelope : Envelope) (message : InboxMessage),
      delivery.envelope runtime = .ok envelope → delivery.message runtime = .ok message →
      message.correlationId = envelope.filled.correlationId ∧
      (∀ name ∈ reservedMetadataKeys, message.metadata.lookup name =
        (envelope.filled.canonicalMetadata envelope.resultJson).lookup name) ∧
      ∀ minted, ∃ read, InboxMessage.fromJson minted message.toJson = .ok read ∧
        read.id = message.id ∧ read.correlationId = message.correlationId ∧
        read.metadata = message.metadata ∧ read.content = message.content := by
  refine ⟨fun envelope normal normalized => ?_, fun delivery envelope sent accepted => ?_,
    fun first second one two received also => ?_, fun delivery envelope message sent received => ?_⟩
  · have settled := (Envelope.normalize_ok normalized).1
    have same : envelope.toJson = normal.toJson := by
      rw [Envelope.toJson, Envelope.toJson, normalized, settled.normalize]
    rw [same]
    exact settled.roundTrip
  · exact delivered_iff runtime sent accepted
  · rw [delivered_id runtime received, delivered_id runtime also]
  · obtain ⟨runId, source, content, rfl⟩ := delivered runtime sent received
    have normal := (envelope_normal sent).1
    have correlation := congrArg Envelope.correlationId normal.filled_twice
    refine ⟨correlation, fun name reserved => ?_, fun minted => ?_⟩
    · exact (inboxMetadata_lookup envelope.filled name).trans (if_pos reserved)
    · obtain ⟨word, createdAt, finite⟩ := normal.createdAt
      refine ⟨_, InboxMessage.fromJson_toJson minted normal.messageId.nonempty createdAt finite,
        rfl, ?_, rfl, rfl⟩
      exact orText_first (orText_nonempty normal.messageId.nonempty) _

end Identity

section Keys

def plainRuntime : Runtime where
  str := fun _ => .error "TypeError"
  truth := fun _ => true
  hexValue := fun _ => none
  floatRepr := fun _ => []
  maxDigits := 4300

def workerDelivery (idempotencyKey field : String) (value : Tree) : Delivery where
  request :=
    { destination := py "worker"
      payload := named [(field, value)]
      tokenRef := []
      runId := py "run"
      id := py "outbox"
      idempotencyKey := py idempotencyKey
      correlationId := []
      causationId := []
      replyTo := []
      traceparent := []
      tracestate := [] }
  fresh := ⟨py "1", py "2"⟩
  createdAt := .float 0
  peerId := []
  runId := py "peer"
  source := none

theorem exists_of_isOk {ε α : Type} {read : Except ε α} (holds : read.isOk = true) :
    ∃ value, read = .ok value := by
  cases read with
  | error error => cases holds
  | ok value => exact ⟨value, rfl⟩

theorem external_agent_identity_untrimmed :
    (∃ one two : InboxMessage,
      (workerDelivery "k" "text" (textValue (py "a"))).message plainRuntime = .ok one ∧
      (workerDelivery "k " "text" (textValue (py "a"))).message plainRuntime = .ok two ∧
      (workerDelivery "k" "text" (textValue (py "a"))).request.effectiveKey ≠
        (workerDelivery "k " "text" (textValue (py "a"))).request.effectiveKey ∧
      one.id = two.id) ∧
    (∃ envelope, (workerDelivery "k" "value" (.scalar (.other "object"))).envelope plainRuntime =
      .ok envelope) ∧
    ∀ message, (workerDelivery "k" "value" (.scalar (.other "object"))).message plainRuntime ≠
      .ok message := by
  refine ⟨?_, exists_of_isOk (by decide +kernel), fun message received => ?_⟩
  · obtain ⟨one, received⟩ : ∃ one, (workerDelivery "k" "text" (textValue (py "a"))).message
        plainRuntime = .ok one := exists_of_isOk (by decide +kernel)
    obtain ⟨two, also⟩ : ∃ two, (workerDelivery "k " "text" (textValue (py "a"))).message
        plainRuntime = .ok two := exists_of_isOk (by decide +kernel)
    refine ⟨one, two, received, also, by decide, ?_⟩
    rw [delivered_id plainRuntime received, delivered_id plainRuntime also]
    decide
  · have refused : ((workerDelivery "k" "value" (.scalar (.other "object"))).message
        plainRuntime).isOk = false := by decide +kernel
    rw [received] at refused
    cases refused

theorem external_agent_identity_keys :
    ∃ one two : InboxMessage,
      (workerDelivery "k" "text" (textValue (py "a"))).message plainRuntime = .ok one ∧
      (workerDelivery "j" "text" (textValue (py "a"))).message plainRuntime = .ok two ∧
      one.id ≠ two.id := by
  obtain ⟨one, received⟩ : ∃ one, (workerDelivery "k" "text" (textValue (py "a"))).message
      plainRuntime = .ok one := exists_of_isOk (by decide +kernel)
  obtain ⟨two, also⟩ : ∃ two, (workerDelivery "j" "text" (textValue (py "a"))).message
      plainRuntime = .ok two := exists_of_isOk (by decide +kernel)
  refine ⟨one, two, received, also, ?_⟩
  rw [Ne, (external_agent_identity plainRuntime).2.2.1 _ _ one two received also]
  decide

end Keys

end MonoidKernel.ExternalAgent
