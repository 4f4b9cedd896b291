import MonoidKernel.Core.ExternalAgentEnvelope

set_option autoImplicit false

namespace MonoidKernel.ExternalAgent

open MonoidKernel.JsonIngress (Key Scalar Tree isFinite normalizeText)
open MonoidKernel.ModelContent (PyText)

section Runtime

structure Runtime where
  str : Tree → Except String PyText
  truth : String → Bool
  hexValue : PyText → Option Nat
  floatRepr : UInt64 → PyText
  maxDigits : Nat

variable (runtime : Runtime)

def truthy : Tree → Bool
  | .scalar .none => false
  | .scalar (.bool value) => value
  | .scalar (.int value) => value ≠ 0
  | .scalar (.float word) => word <<< 1 ≠ 0
  | .scalar (.str value) => value ≠ []
  | .scalar (.other typeName) => runtime.truth typeName
  | .dict entries => !entries.isEmpty
  | .list items | .tuple items => !items.isEmpty

def orElse (first second : Tree) : Tree := if truthy runtime first then first else second

def str : Tree → Except String PyText
  | .scalar (.str value) => .ok value
  | value => runtime.str value

end Runtime

section Dumps

variable (runtime : Runtime)

def hexDigit (value : Nat) : PyText :=
  [Fin.ofNat _ (if value < 10 then 0x30 + value else 0x57 + value)]

def escape (codepoint : Fin 0x110000) : PyText :=
  if codepoint = 0x22 then py "\\\""
  else if codepoint = 0x5C then py "\\\\"
  else if codepoint = 0x0A then py "\\n"
  else if codepoint = 0x0D then py "\\r"
  else if codepoint = 0x09 then py "\\t"
  else if codepoint = 0x0C then py "\\f"
  else if codepoint = 0x08 then py "\\b"
  else if codepoint < 0x20 then
    py "\\u00" ++ hexDigit (codepoint / 16 : Nat) ++ hexDigit (codepoint % 16 : Nat)
  else [codepoint]

def quoted (value : PyText) : PyText := py "\"" ++ value.flatMap escape ++ py "\""

def dumpsScalar : Scalar → Except String PyText
  | .none => .ok (py "null")
  | .bool value => .ok (py (if value then "true" else "false"))
  | .int value =>
    if value.natAbs < 10 ^ runtime.maxDigits then .ok (py (toString value))
    else .error "Exceeds the limit for integer string conversion"
  | .float word =>
    if isFinite word then .ok (runtime.floatRepr word)
    else .error "Out of range float values are not JSON compliant"
  | .str value => .ok (quoted value)
  | .other typeName => .error ("Object of type " ++ typeName ++ " is not JSON serializable")

def insertKey {V : Type} (name : PyText) (value : V) : List (PyText × V) → List (PyText × V)
  | [] => [(name, value)]
  | (other, held) :: rest =>
    if other < name then (other, held) :: insertKey name value rest
    else (name, value) :: (other, held) :: rest

def sortKeys {V : Type} (entries : List (PyText × V)) : List (PyText × V) :=
  entries.foldr (fun entry sorted => insertKey entry.1 entry.2 sorted) []

def keyText : Key → PyText
  | .str value => value
  | .other => []

mutual

def dumps : Tree → Except String PyText
  | .scalar value => dumpsScalar runtime value
  | .dict entries => do
    let texts ← (sortKeys (dumpsEntries entries)).mapM fun (name, value) =>
      value.map fun value => quoted name ++ py ": " ++ value
    .ok (py "\x7b" ++ (texts.intersperse (py ", ")).flatten ++ py "\x7d")
  | .list items | .tuple items => do
    let texts ← dumpsItems items
    .ok (py "[" ++ (texts.intersperse (py ", ")).flatten ++ py "]")

def dumpsEntries : List (Key × Tree) → List (PyText × Except String PyText)
  | [] => []
  | (name, value) :: rest => (keyText name, dumps value) :: dumpsEntries rest

def dumpsItems : List Tree → Except String (List PyText)
  | [] => .ok []
  | value :: rest => do
    let first ← dumps value
    let later ← dumpsItems rest
    .ok (first :: later)

end

end Dumps

section Traces

variable (runtime : Runtime)

def isHex (value : PyText) (length : Nat) : Bool :=
  value.length = length && (runtime.hexValue value).isSome

structure Traceparent where
  version : PyText
  traceId : PyText
  spanId : PyText
  flags : PyText

def parseTraceparent (value : PyText) : Option Traceparent :=
  match value.splitOn 0x2D with
  | [version, traceId, spanId, flags] =>
    if !(isHex runtime version 2 && isHex runtime traceId 32 && isHex runtime spanId 16 &&
        isHex runtime flags 2) then none
    else if runtime.hexValue traceId = some 0 ∨ runtime.hexValue spanId = some 0 then none
    else some ⟨version, traceId, spanId, flags⟩
  | _ => none

structure Fresh where
  traceId : PyText
  spanId : PyText

def childTraceparent (fresh : Fresh) (parent : PyText) : PyText :=
  match parseTraceparent runtime parent with
  | none => py "00-" ++ fresh.traceId ++ py "-" ++ fresh.spanId ++ py "-01"
  | some parsed =>
    parsed.version ++ py "-" ++ parsed.traceId ++ py "-" ++ fresh.spanId ++ py "-" ++ parsed.flags

end Traces

section Requests

variable (runtime : Runtime)

structure OutboxRequest where
  destination : PyText
  payload : Dict
  tokenRef : PyText
  runId : PyText
  id : PyText
  idempotencyKey : PyText
  correlationId : PyText
  causationId : PyText
  replyTo : PyText
  traceparent : PyText
  tracestate : PyText

def field (payload : Dict) (name : String) : Tree := (get payload name).getD (.scalar .none)

def partsFromPayload (payload : Dict) : Except String (List Part) :=
  match get payload "parts" with
  | some (.list (item :: items)) => (item :: items).mapM Part.fromJson
  | _ => do
    let body ← str runtime
      (orElse runtime (orElse runtime (field payload "text") (field payload "message"))
        (textValue []))
    if body ≠ [] then .ok [⟨py "text", body, [], [], []⟩]
    else
      .ok [⟨py "data", [], payload.filter fun entry => entry.1 ≠ key "metadata", [], []⟩]

def OutboxRequest.effectiveKey (request : OutboxRequest) : PyText :=
  orText request.idempotencyKey request.id

def requiredUntrimmed (name : String) (value : PyText) : Except String PyText := do
  refuse (strip (normalizeText value) = []) (name ++ " is required")
  .ok (normalizeText value)

def envelopeFromOutboxRequest (fresh : Fresh) (createdAt : Scalar) (peerId : PyText)
    (request : OutboxRequest) : Except String Envelope := do
  let payload ← normalizedObject "outbox external-agent payload" (.dict request.payload)
  let parts ← partsFromPayload runtime payload
  let messageId ← requiredUntrimmed "outbox external-agent message_id" request.effectiveKey
  let metadata := match get payload "metadata" with
    | some (.dict entries) => entries
    | _ => []
  let senderPeerId ← requiredUntrimmed "outbox external-agent peer_id"
    (orText (orText peerId request.runId) request.destination)
  let taskId ← str runtime (orElse runtime
    (orElse runtime (field payload "task_id") (textValue request.correlationId))
    (textValue messageId))
  let requestId ← str runtime
    (orElse runtime (field payload "request_id") (textValue request.id))
  let replyToId ← str runtime
    (orElse runtime (field payload "reply_to_id") (textValue request.replyTo))
  Envelope.normalize
    { peerId := senderPeerId
      parts := parts
      messageId := messageId
      taskId := taskId
      requestId := requestId
      replyToId := replyToId
      correlationId := orText request.correlationId messageId
      causationId := orText request.causationId request.id
      traceparent := childTraceparent runtime fresh request.traceparent
      tracestate := request.tracestate
      capabilityRef := request.tokenRef
      result := none
      createdAt := createdAt
      metadata := metadata }

end Requests

section Inbox

variable (runtime : Runtime)

inductive Content where
  | text (value : PyText)
  | parts (parts : List Dict)

structure InboxMessage where
  content : Content
  id : PyText
  source : PyText
  type : PyText
  runId : PyText
  createdAt : Scalar
  correlationId : PyText
  causationId : PyText
  traceparent : PyText
  tracestate : PyText
  metadata : Dict

def textPart (value : PyText) : Dict :=
  named [("type", textValue (py "text")), ("text", textValue value)]

def contentPart (part : Part) : Except String Dict :=
  if part.type = py "text" then .ok (textPart part.text)
  else if part.type = py "data" then (dumps runtime (.dict part.data)).map textPart
  else do
    let value ← part.toJson
    (dumps runtime value).map textPart

def contentFromParts (parts : List Part) : Except String Content := do
  let parts ← parts.mapM Part.normalize
  match parts with
  | [part] =>
    if part.type = py "text" then .ok (.text part.text)
    else
      let content ← contentPart runtime part
      .ok (.parts [content])
  | parts =>
    let contents ← parts.mapM (contentPart runtime)
    .ok (.parts contents)

def reservedMetadataKeys : List Key :=
  [key "peer_id", key "task_id", key "request_id", key "reply_to_id", key "result",
    key "traceparent"]

def mergeCanonicalMetadata (user canonical : Dict) : Except String Dict := do
  let user ← normalizedObject "external agent user metadata" (.dict user)
  let canonical ← normalizedObject "external agent canonical metadata" (.dict canonical)
  .ok (canonical.foldl (fun merged entry => Library.OrderedDict.put entry.1 entry.2 merged)
    (user.filter fun entry => entry.1 ∉ reservedMetadataKeys))

def Envelope.canonicalMetadata (envelope : Envelope) (result : Option Tree) : Dict :=
  named [("task_id", textValue envelope.taskId), ("request_id", textValue envelope.requestId),
    ("reply_to_id", textValue envelope.replyToId), ("peer_id", textValue envelope.peerId),
    ("result", result.getD (.scalar .none)),
    ("traceparent", textValue envelope.traceparent)]

def inboxSource (source : Option PyText) (peerId : PyText) : Except String PyText :=
  match source with
  | some source => requiredUntrimmed "external agent inbox source" source
  | none => .ok (py "external-agent:" ++ peerId)

def envelopeToInboxMessage (runId : PyText) (source : Option PyText) (envelope : Envelope) :
    Except String InboxMessage := do
  let envelope ← envelope.normalize
  let runId ← requiredUntrimmed "external agent inbox run_id" runId
  let source ← inboxSource source envelope.peerId
  let content ← contentFromParts runtime envelope.parts
  let result ← envelope.result.mapM Result.toJson
  let metadata ← mergeCanonicalMetadata envelope.metadata (envelope.canonicalMetadata result)
  .ok
    { content := content
      id := envelope.messageId
      source := source
      type := py "external_agent_message"
      runId := runId
      createdAt := envelope.createdAt
      correlationId := orText envelope.correlationId envelope.messageId
      causationId := envelope.causationId
      traceparent := envelope.traceparent
      tracestate := envelope.tracestate
      metadata := metadata }

def carry (fresh : Fresh) (createdAt : Scalar) (peerId runId : PyText) (source : Option PyText)
    (request : OutboxRequest) : Except String InboxMessage := do
  let sent ← envelopeFromOutboxRequest runtime fresh createdAt peerId request
  let json ← sent.toJson
  let received ← Envelope.fromJson json
  envelopeToInboxMessage runtime runId source received

def inboxVersion : PyText := py "monoid.inbox-message.v1"

def acceptedInboxVersions : List PyText :=
  [inboxVersion, py "native-agent-runner.inbox-message.v1"]

def Content.tree : Content → Tree
  | .text value => textValue value
  | .parts items => .list (items.map Tree.dict)

def InboxMessage.fields (message : InboxMessage) : List (String × Tree) :=
  [("protocol", textValue inboxVersion),
    ("id", textValue message.id),
    ("source", textValue message.source),
    ("type", textValue message.type),
    ("run_id", textValue message.runId),
    ("created_at", .scalar message.createdAt),
    ("correlation_id", textValue (orText message.correlationId message.id)),
    ("causation_id", textValue message.causationId),
    ("traceparent", textValue message.traceparent),
    ("tracestate", textValue message.tracestate),
    ("metadata", .dict message.metadata),
    ("content", message.content.tree)]

def InboxMessage.toJson (message : InboxMessage) : Tree := .dict (named message.fields)

def readContent : Option Tree → Except String Content
  | none => .ok (.text [])
  | some (.scalar (.str value)) => .ok (.text value)
  | some (.list items) => (items.mapM (requireObject "content part")).map .parts
  | some _ => .error "content must be a string or list of objects"

def parseFloatOrZero (payload : Dict) (name : String) : Except String UInt64 := do
  let word ← finiteNumber name ((get payload name).getD (.scalar (.float 0)))
  .ok (if word <<< 1 = 0 then 0 else word)

-- `InboxMessage.from_json`, which takes the minted id where the payload has none.
def InboxMessage.fromJson (minted : PyText) (value : Tree) : Except String InboxMessage := do
  let payload ← requireObject "inbox message" value
  let protocol ← parseStr payload "protocol"
  refuse (protocol ≠ [] ∧ protocol ∉ acceptedInboxVersions) "unsupported inbox message protocol"
  let content ← readContent (get payload "content")
  let metadata ← objectField payload "metadata"
  let source ← parseStrOr (py "api") payload "source"
  let type ← parseStrOr (py "user_message") payload "type"
  let runId ← parseStr payload "run_id"
  let createdAt ← parseFloatOrZero payload "created_at"
  let correlationId ← parseStr payload "correlation_id"
  let causationId ← parseStr payload "causation_id"
  let traceparent ← parseStr payload "traceparent"
  let tracestate ← parseStr payload "tracestate"
  let id ← parseStr payload "id"
  .ok
    { content := content
      id := orText id minted
      source := source
      type := type
      runId := runId
      createdAt := .float createdAt
      correlationId := correlationId
      causationId := causationId
      traceparent := traceparent
      tracestate := tracestate
      metadata := metadata }

end Inbox

end MonoidKernel.ExternalAgent
