import Mathlib.Data.List.DropRight
import MonoidKernel.Core.JsonIngressTree

set_option autoImplicit false

-- Translated from core/external_agent_envelope.py.
namespace MonoidKernel.ExternalAgent

open MonoidKernel.JsonIngress (Key Scalar Tree ingress isFinite normalizeText)
open MonoidKernel.ModelContent (PyText pyText)

abbrev Dict := List (Key × Tree)

def py (text : String) : PyText := pyText text.toList

def key (name : String) : Key := .str (py name)

def textValue (value : PyText) : Tree := .scalar (.str value)

def named (fields : List (String × Tree)) : Dict := fields.map fun field => (key field.1, field.2)

section Wire

def isSpace (codepoint : Fin 0x110000) : Bool :=
  [0x09, 0x0A, 0x0B, 0x0C, 0x0D, 0x1C, 0x1D, 0x1E, 0x1F, 0x20, 0x85, 0xA0, 0x1680, 0x2000, 0x2001,
    0x2002, 0x2003, 0x2004, 0x2005, 0x2006, 0x2007, 0x2008, 0x2009, 0x200A, 0x2028, 0x2029, 0x202F,
    0x205F, 0x3000].contains (codepoint : Nat)

def strip (value : PyText) : PyText := (value.dropWhile isSpace).rdropWhile isSpace

def refuse (bad : Prop) [Decidable bad] (message : String) : Except String Unit :=
  if bad then .error message else .ok ()

def get (payload : Dict) (name : String) : Option Tree := payload.lookup (key name)

def requireObject (name : String) : Tree → Except String Dict
  | .dict entries => .ok entries
  | _ => .error (name ++ " must be an object")

def requireList (name : String) : Option Tree → Except String (List Tree)
  | some (.list items) => .ok items
  | _ => .error (name ++ " must be a list")

def parseStrOr (standard : PyText) (payload : Dict) (name : String) : Except String PyText :=
  match get payload name with
  | none => .ok standard
  | some (.scalar (.str value)) => .ok value
  | some _ => .error (name ++ " must be a string")

def parseStr (payload : Dict) (name : String) : Except String PyText := parseStrOr [] payload name

def parseRequiredStr (payload : Dict) (name : String) : Except String PyText := do
  refuse (get payload name).isNone (name ++ " is required")
  let value ← parseStr payload name
  refuse (strip value = []) (name ++ " is required")
  .ok (strip value)

def parseBool (payload : Dict) (name : String) : Except String Bool :=
  match get payload name with
  | none => .ok false
  | some (.scalar (.bool value)) => .ok value
  | some _ => .error (name ++ " must be a boolean")

-- `float(value)`: the nearest double, ties to even, and nothing where it overflows.
def floatOfInt (value : Int) : Option UInt64 :=
  let size := value.natAbs.log2
  let shift := size - 52
  let quotient := value.natAbs >>> shift
  let rest := value.natAbs % 2 ^ shift
  let up := 2 * rest > 2 ^ shift ∨ 2 * rest = 2 ^ shift ∧ quotient % 2 = 1
  let rounded := if up ∧ 52 < size then quotient + 1 else quotient <<< (52 - size)
  -- A mantissa that rounds up to the next power of two raises the exponent.
  let exponent := 1023 + size + (rounded >>> 53)
  let mantissa := (rounded >>> (rounded >>> 53)) % 2 ^ 52
  let sign := if value < 0 then 1 else 0
  if value = 0 then some 0
  else if 2047 ≤ exponent then none
  else some (UInt64.ofNat (sign * 2 ^ 63 + exponent * 2 ^ 52 + mantissa))

def finiteNumber (name : String) : Tree → Except String UInt64
  | .scalar (.int value) =>
    match (floatOfInt value).filter (isFinite ·) with
    | some word => .ok word
    | none => .error (name ++ " must be a finite number")
  | .scalar (.float word) =>
    if isFinite word then .ok word else .error (name ++ " must be a finite number")
  | _ => .error (name ++ " must be a finite number")

def normalizedObject (name : String) (value : Tree) : Except String Dict :=
  match ingress value with
  | .error error => .error error.message
  | .ok normalized => requireObject name normalized

def requiredText (name : String) (value : PyText) : Except String PyText := do
  refuse (strip (normalizeText value) = []) (name ++ " is required")
  .ok (strip (normalizeText value))

end Wire

section Envelopes

structure Part where
  type : PyText
  text : PyText
  data : Dict
  artifactId : PyText
  mimeType : PyText

structure AgentError where
  code : PyText
  message : PyText
  retryable : Bool

structure Result where
  state : PyText
  terminal : Bool
  interrupted : Bool
  error : Option AgentError
  metadata : Dict

-- `created_at` is the number that the caller gives, and a float once normalized.
structure Envelope where
  peerId : PyText
  parts : List Part
  messageId : PyText
  taskId : PyText
  requestId : PyText
  replyToId : PyText
  correlationId : PyText
  causationId : PyText
  traceparent : PyText
  tracestate : PyText
  capabilityRef : PyText
  result : Option Result
  createdAt : Scalar
  metadata : Dict

def Part.normalize (part : Part) : Except String Part := do
  let data ← normalizedObject "external agent part data" (.dict part.data)
  let type ← requiredText "external agent part type" part.type
  .ok ⟨type, normalizeText part.text, data, normalizeText part.artifactId,
    normalizeText part.mimeType⟩

def AgentError.normalize (error : AgentError) : Except String AgentError := do
  let code ← requiredText "external agent error code" error.code
  .ok ⟨code, normalizeText error.message, error.retryable⟩

def Result.normalize (result : Result) : Except String Result := do
  let metadata ← normalizedObject "external agent result metadata" (.dict result.metadata)
  let state ← requiredText "external agent result state" result.state
  let error ← result.error.mapM AgentError.normalize
  .ok ⟨state, result.terminal, result.interrupted, error, metadata⟩

def Envelope.normalize (envelope : Envelope) : Except String Envelope := do
  refuse envelope.parts.isEmpty "external agent envelope requires one or more parts"
  let metadata ← normalizedObject "external agent envelope metadata" (.dict envelope.metadata)
  let peerId ← requiredText "external agent peer_id" envelope.peerId
  let parts ← envelope.parts.mapM Part.normalize
  let messageId ← requiredText "external agent message_id" envelope.messageId
  let result ← envelope.result.mapM Result.normalize
  let createdAt ← finiteNumber "external agent created_at" (.scalar envelope.createdAt)
  .ok
    { peerId := peerId
      parts := parts
      messageId := messageId
      taskId := normalizeText envelope.taskId
      requestId := normalizeText envelope.requestId
      replyToId := normalizeText envelope.replyToId
      correlationId := normalizeText envelope.correlationId
      causationId := normalizeText envelope.causationId
      traceparent := normalizeText envelope.traceparent
      tracestate := normalizeText envelope.tracestate
      capabilityRef := normalizeText envelope.capabilityRef
      result := result
      createdAt := .float createdAt
      metadata := metadata }

end Envelopes

section Json

def given (name : String) (value : PyText) : List (String × Tree) :=
  if value = [] then [] else [(name, textValue value)]

def Part.fields (part : Part) : List (String × Tree) :=
  [("type", textValue part.type)] ++ given "text" part.text ++
    (if part.data.isEmpty then [] else [("data", .dict part.data)]) ++
    given "artifact_id" part.artifactId ++ given "mime_type" part.mimeType

def Part.toJson (part : Part) : Except String Tree :=
  part.normalize.map fun normalized => .dict (named normalized.fields)

def AgentError.fields (error : AgentError) : List (String × Tree) :=
  [("code", textValue error.code), ("message", textValue error.message),
    ("retryable", .scalar (.bool error.retryable))]

def AgentError.toJson (error : AgentError) : Except String Tree :=
  error.normalize.map fun normalized => .dict (named normalized.fields)

def Result.fields (result : Result) (error : Option Tree) : List (String × Tree) :=
  [("state", textValue result.state), ("terminal", .scalar (.bool result.terminal)),
    ("interrupted", .scalar (.bool result.interrupted)), ("metadata", .dict result.metadata)] ++
    error.toList.map fun error => ("error", error)

def Result.toJson (result : Result) : Except String Tree := do
  let normalized ← result.normalize
  let error ← normalized.error.mapM AgentError.toJson
  .ok (.dict (named (normalized.fields error)))

def orText (first second : PyText) : PyText := if first = [] then second else first

def envelopeVersion : PyText := py "monoid.external-agent-envelope.v1"

def acceptedEnvelopeVersions : List PyText :=
  [envelopeVersion, py "native-agent-runner.external-agent-envelope.v1"]

def Envelope.fields (envelope : Envelope) (parts : List Tree) (result : Option Tree) :
    List (String × Tree) :=
  [("protocol", textValue envelopeVersion),
    ("peer_id", textValue envelope.peerId),
    ("message_id", textValue envelope.messageId),
    ("task_id",
      textValue (orText (orText envelope.taskId envelope.correlationId) envelope.messageId)),
    ("request_id", textValue envelope.requestId),
    ("reply_to_id", textValue envelope.replyToId),
    ("correlation_id", textValue (orText envelope.correlationId envelope.messageId)),
    ("causation_id", textValue envelope.causationId),
    ("traceparent", textValue envelope.traceparent),
    ("tracestate", textValue envelope.tracestate),
    ("capability_ref", textValue envelope.capabilityRef),
    ("parts", .list parts),
    ("result", result.getD (.scalar .none)),
    ("created_at", .scalar envelope.createdAt),
    ("metadata", .dict envelope.metadata)]

def Envelope.toJson (envelope : Envelope) : Except String Tree := do
  let normalized ← envelope.normalize
  let parts ← normalized.parts.mapM Part.toJson
  let result ← normalized.result.mapM Result.toJson
  .ok (.dict (named (normalized.fields parts result)))

def objectField (payload : Dict) (name : String) : Except String Dict :=
  match get payload name with
  | none => .ok []
  | some value => requireObject name value

def nullableObject (payload : Dict) (name : String) : Except String (Option Dict) :=
  match get payload name with
  | none | some (.scalar .none) => .ok none
  | some value => (requireObject name value).map some

def Part.fromJson (value : Tree) : Except String Part := do
  let payload ← normalizedObject "external agent part" value
  let type ← parseRequiredStr payload "type"
  let data ← objectField payload "data"
  let body ← parseStr payload "text"
  let artifactId ← parseStr payload "artifact_id"
  let mimeType ← parseStr payload "mime_type"
  .ok ⟨type, body, data, artifactId, mimeType⟩

def AgentError.fromJson (value : Tree) : Except String AgentError := do
  let payload ← normalizedObject "external agent error" value
  let code ← parseRequiredStr payload "code"
  let message ← parseStr payload "message"
  let retryable ← parseBool payload "retryable"
  .ok ⟨code, message, retryable⟩

def Result.fromJson (value : Tree) : Except String Result := do
  let payload ← normalizedObject "external agent result" value
  let state ← parseRequiredStr payload "state"
  let error ← nullableObject payload "error"
  let metadata ← objectField payload "metadata"
  let terminal ← parseBool payload "terminal"
  let interrupted ← parseBool payload "interrupted"
  let error ← error.mapM fun entries => AgentError.fromJson (.dict entries)
  .ok ⟨state, terminal, interrupted, error, metadata⟩

def Envelope.fromJson (value : Tree) : Except String Envelope := do
  let payload ← normalizedObject "external agent envelope" value
  let protocol ← parseStr payload "protocol"
  refuse (protocol ∉ acceptedEnvelopeVersions) "unsupported external agent envelope protocol"
  let peerId ← parseRequiredStr payload "peer_id"
  let items ← requireList "parts" (get payload "parts")
  refuse items.isEmpty "external agent envelope requires one or more parts"
  let parts ← items.mapM Part.fromJson
  let messageId ← parseRequiredStr payload "message_id"
  let result ← nullableObject payload "result"
  let metadata ← objectField payload "metadata"
  let taskId ← parseStr payload "task_id"
  let requestId ← parseStr payload "request_id"
  let replyToId ← parseStr payload "reply_to_id"
  let correlationId ← parseStr payload "correlation_id"
  let causationId ← parseStr payload "causation_id"
  let traceparent ← parseStr payload "traceparent"
  let tracestate ← parseStr payload "tracestate"
  let capabilityRef ← parseStr payload "capability_ref"
  let result ← result.mapM fun entries => Result.fromJson (.dict entries)
  let createdAt ← finiteNumber "created_at" ((get payload "created_at").getD (.scalar (.float 0)))
  .ok
    { peerId := peerId
      parts := parts
      messageId := messageId
      taskId := taskId
      requestId := requestId
      replyToId := replyToId
      correlationId := correlationId
      causationId := causationId
      traceparent := traceparent
      tracestate := tracestate
      capabilityRef := capabilityRef
      result := result
      createdAt := .float createdAt
      metadata := metadata }

end Json

end MonoidKernel.ExternalAgent
