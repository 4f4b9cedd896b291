import Mathlib.Data.List.Nodup
import Mathlib.Order.Defs.LinearOrder
import Mathlib.Order.Lattice

set_option autoImplicit false

namespace MonoidKernel.Outgoing

variable {T P : Type}

section Requests

inductive OutboxStatus where
  | pending | dispatched | failed
deriving DecidableEq, Repr

def OutboxStatus.value : OutboxStatus → String
  | .pending => "pending"
  | .dispatched => "dispatched"
  | .failed => "failed"

structure OutboxRequest (T P : Type) where
  destination : String
  payload : P
  capability : String
  tokenRef : String
  runId : String
  id : String
  idempotencyKey : String
  correlationId : String
  causationId : String
  expectAck : Bool
  replyTo : String
  traceparent : String
  tracestate : String
  createdAt : T
  status : OutboxStatus
  attempts : Nat
  nextAttemptAt : T
  reference : String
  error : String
deriving DecidableEq

def orElse (value default : String) : String := if value.isEmpty then default else value

def OutboxRequest.spelled (request : OutboxRequest T P) : OutboxRequest T P :=
  { request with
    idempotencyKey := orElse request.idempotencyKey request.id
    correlationId := orElse request.correlationId request.id }

end Requests

section Records

def outboxRequestVersion : String := "monoid.outbox-request.v1"

def acceptedOutboxRequestVersions : List String :=
  [outboxRequestVersion, "native-agent-runner.outbox-request.v1"]

structure OutboxPayload (T P : Type) where
  protocol : Option String
  id : Option String
  runId : Option String
  destination : Option String
  capability : Option String
  payload : Option P
  tokenRef : Option String
  idempotencyKey : Option String
  correlationId : Option String
  causationId : Option String
  expectAck : Option Bool
  replyTo : Option String
  traceparent : Option String
  tracestate : Option String
  createdAt : Option T
  status : Option String
  attempts : Option Nat
  nextAttemptAt : Option T
  reference : Option String
  error : Option String

def OutboxRequest.toJson (request : OutboxRequest T P) : OutboxPayload T P where
  protocol := some outboxRequestVersion
  id := some request.id
  runId := some request.runId
  destination := some request.destination
  capability := some request.capability
  payload := some request.payload
  tokenRef := some request.tokenRef
  idempotencyKey := some (orElse request.idempotencyKey request.id)
  correlationId := some (orElse request.correlationId request.id)
  causationId := some request.causationId
  expectAck := some request.expectAck
  replyTo := some request.replyTo
  traceparent := some request.traceparent
  tracestate := some request.tracestate
  createdAt := some request.createdAt
  status := some request.status.value
  attempts := some request.attempts
  nextAttemptAt := some request.nextAttemptAt
  reference := some request.reference
  error := some request.error

def parseStatus : Option String → Except String OutboxStatus
  | none => .ok .pending
  | some "pending" => .ok .pending
  | some "dispatched" => .ok .dispatched
  | some "failed" => .ok .failed
  | some _ => .error "status must be one of: pending, dispatched, failed"

variable [Zero T] [Inhabited P]

def OutboxPayload.fromJson (record : OutboxPayload T P) (freshId : String) :
    Except String (OutboxRequest T P) :=
  let protocol := record.protocol.getD ""
  if !protocol.isEmpty && !acceptedOutboxRequestVersions.contains protocol then
    .error "unsupported outbox request protocol"
  else do
    let status ← parseStatus record.status
    .ok
      { destination := record.destination.getD ""
        payload := record.payload.getD default
        capability := record.capability.getD ""
        tokenRef := record.tokenRef.getD ""
        runId := record.runId.getD ""
        id := orElse (record.id.getD "") freshId
        idempotencyKey := record.idempotencyKey.getD ""
        correlationId := record.correlationId.getD ""
        causationId := record.causationId.getD ""
        expectAck := record.expectAck.getD false
        replyTo := record.replyTo.getD ""
        traceparent := record.traceparent.getD ""
        tracestate := record.tracestate.getD ""
        createdAt := record.createdAt.getD 0
        status
        attempts := record.attempts.getD 0
        nextAttemptAt := record.nextAttemptAt.getD 0
        reference := record.reference.getD ""
        error := record.error.getD "" }

theorem parseStatus_value (status : OutboxStatus) :
    parseStatus (some status.value) = .ok status := by
  cases status <;> rfl

theorem fromJson_toJson (request : OutboxRequest T P) (named : request.id.isEmpty = false)
    (freshId : String) : request.toJson.fromJson freshId = .ok request.spelled := by
  have accepted : (!outboxRequestVersion.isEmpty &&
      !acceptedOutboxRequestVersions.contains outboxRequestVersion) = false := by decide
  unfold OutboxPayload.fromJson OutboxRequest.toJson
  dsimp only [Option.getD_some]
  rw [accepted, parseStatus_value]
  simp only [Bool.false_eq_true, if_false, orElse, named]
  rfl

end Records

section Register

structure Outbox (T P : Type) where
  requests : List (OutboxRequest T P)
  distinct : (requests.map (·.id)).Nodup

def Outbox.empty : Outbox T P := ⟨[], List.nodup_nil⟩

def Outbox.get (outbox : Outbox T P) (requestId : String) : Option (OutboxRequest T P) :=
  outbox.requests.find? fun request => request.id = requestId

def assign (request : OutboxRequest T P) : List (OutboxRequest T P) → List (OutboxRequest T P)
  | [] => [request]
  | held :: rest => if held.id = request.id then request :: rest else held :: assign request rest

theorem assign_ids (request : OutboxRequest T P) (requests : List (OutboxRequest T P)) :
    (assign request requests).map (·.id) =
      if request.id ∈ requests.map (·.id) then requests.map (·.id)
      else requests.map (·.id) ++ [request.id] := by
  induction requests with
  | nil => rfl
  | cons held rest ih =>
    unfold assign
    by_cases same : held.id = request.id
    · simp [same]
    · rw [if_neg same, List.map_cons, ih, List.map_cons]
      by_cases present : request.id ∈ rest.map (·.id)
      · rw [if_pos present, if_pos (List.mem_cons_of_mem _ present)]
      · have absent : request.id ∉ held.id :: rest.map (·.id) := by
          simp only [List.mem_cons, not_or]
          exact ⟨Ne.symm same, present⟩
        rw [if_neg present, if_neg absent, List.cons_append]

def Outbox.append (outbox : Outbox T P) (request : OutboxRequest T P) : Outbox T P where
  requests := assign request outbox.requests
  distinct := by
    rw [assign_ids]
    split
    · exact outbox.distinct
    next absent =>
      refine List.nodup_append.mpr ⟨outbox.distinct, List.nodup_singleton _, ?_⟩
      intro id listed last only same
      rw [List.mem_singleton] at only
      exact absent (only ▸ same ▸ listed)

def Outbox.pending (outbox : Outbox T P) : List (OutboxRequest T P) :=
  outbox.requests.filter fun request => request.status = .pending

def Outbox.due [LinearOrder T] (outbox : Outbox T P) (now : T) : List (OutboxRequest T P) :=
  outbox.requests.filter fun request => request.status = .pending ∧ request.nextAttemptAt ≤ now

def Outbox.modify (outbox : Outbox T P) (requestId : String)
    (change : OutboxRequest T P → OutboxRequest T P) (keeps : ∀ request, (change request).id =
      request.id) : Outbox T P where
  requests := outbox.requests.map fun request =>
    if request.id = requestId then change request else request
  distinct := by
    have ids : (outbox.requests.map fun request =>
        if request.id = requestId then change request else request).map (·.id) =
          outbox.requests.map (·.id) := by
      rw [List.map_map]
      refine List.map_congr_left fun request _ => ?_
      simp only [Function.comp]
      split
      · exact keeps request
      · rfl
    rw [ids]
    exact outbox.distinct

structure Marking (T : Type) where
  status : OutboxStatus
  attempts : Option Nat := none
  nextAttemptAt : Option T := none
  reference : String := ""
  error : String := ""

def Marking.apply (marking : Marking T) (request : OutboxRequest T P) : OutboxRequest T P :=
  { request with
    status := marking.status
    attempts := marking.attempts.getD request.attempts
    nextAttemptAt := marking.nextAttemptAt.getD request.nextAttemptAt
    reference := orElse marking.reference request.reference
    error := marking.error }

def Outbox.mark (outbox : Outbox T P) (requestId : String) (marking : Marking T) : Outbox T P :=
  outbox.modify requestId marking.apply fun _ => rfl

def Outbox.export (outbox : Outbox T P) : List (OutboxPayload T P) :=
  outbox.requests.map (·.toJson)

-- `import_`: each record is assigned in turn, and a record that does not parse raises. `draw` gives
-- the ids of the records that have none.
def Outbox.importAll [Zero T] [Inhabited P] (draw : Nat → String) (outbox : Outbox T P) :
    List (OutboxPayload T P) → Except String (Outbox T P)
  | [] => .ok outbox
  | record :: rest => do
    let request ← record.fromJson (draw rest.length)
    (outbox.append request).importAll draw rest

end Register

section Lookup

variable {outbox : Outbox T P} {request : OutboxRequest T P} {requestId : String}

theorem get_id (found : outbox.get requestId = some request) : request.id = requestId := by
  simpa using List.find?_some found

theorem get_mem (found : outbox.get requestId = some request) : request ∈ outbox.requests :=
  List.mem_of_find?_eq_some found

theorem get_of_mem (member : request ∈ outbox.requests) : outbox.get request.id = some request := by
  obtain ⟨requests, distinct⟩ := outbox
  unfold Outbox.get
  dsimp only at member ⊢
  induction requests with
  | nil => cases member
  | cons held rest ih =>
    rw [List.map_cons, List.nodup_cons] at distinct
    rcases List.mem_cons.mp member with rfl | later
    · simp
    · have other : held.id ≠ request.id :=
        fun same => distinct.1 (same ▸ List.mem_map_of_mem later)
      rw [List.find?_cons_of_neg (by simpa using other)]
      exact ih distinct.2 later

theorem find_assign (request : OutboxRequest T P) (requests : List (OutboxRequest T P))
    (requestId : String) :
    (assign request requests).find? (fun held => held.id = requestId) =
      if request.id = requestId then some request
      else requests.find? fun held => held.id = requestId := by
  induction requests with
  | nil => by_cases asked : request.id = requestId <;> simp [assign, asked]
  | cons held rest ih =>
    unfold assign
    by_cases same : held.id = request.id
    · rw [if_pos same, List.find?_cons, List.find?_cons, same]
      by_cases asked : request.id = requestId <;> simp [asked]
    · rw [if_neg same, List.find?_cons, List.find?_cons, ih]
      by_cases here : held.id = requestId
      · have other : request.id ≠ requestId := fun equal => same (here.trans equal.symm)
        simp [here, other]
      · simp [here]

theorem get_append (outbox : Outbox T P) (request : OutboxRequest T P) (requestId : String) :
    (outbox.append request).get requestId =
      if request.id = requestId then some request else outbox.get requestId :=
  find_assign request outbox.requests requestId

theorem get_modify (outbox : Outbox T P) (changed : String)
    (change : OutboxRequest T P → OutboxRequest T P)
    (keeps : ∀ request, (change request).id = request.id) (requestId : String) :
    (outbox.modify changed change keeps).get requestId =
      if changed = requestId then (outbox.get requestId).map change else outbox.get requestId := by
  obtain ⟨requests, distinct⟩ := outbox
  unfold Outbox.modify Outbox.get
  dsimp only
  clear distinct
  induction requests with
  | nil => simp
  | cons held rest ih =>
    by_cases here : held.id = changed
    · by_cases asked : changed = requestId
      · simp [here, asked, keeps]
      · have missed : ¬ held.id = requestId := fun same => asked (here.symm.trans same)
        have missedToo : ¬ (change held).id = requestId := by rwa [keeps]
        rw [if_neg asked] at ih ⊢
        simp only [List.map_cons, if_pos here, List.find?_cons, missed, missedToo,
          decide_false] at ih ⊢
        exact ih
    · by_cases hit : held.id = requestId
      · have other : ¬ changed = requestId := fun same => here (hit.trans same.symm)
        rw [List.map_cons, if_neg here, List.find?_cons, List.find?_cons, if_neg other]
        simp only [hit, decide_true]
      · simp only [List.map_cons, if_neg here, List.find?_cons, hit, decide_false]
        exact ih

theorem get_mark (outbox : Outbox T P) (marked : String) (marking : Marking T)
    (requestId : String) :
    (outbox.mark marked marking).get requestId =
      if marked = requestId then (outbox.get requestId).map marking.apply
      else outbox.get requestId :=
  get_modify outbox marked marking.apply (fun _ => rfl) requestId

theorem mem_due [LinearOrder T] {now : T} :
    request ∈ outbox.due now ↔
      request ∈ outbox.requests ∧ request.status = .pending ∧ request.nextAttemptAt ≤ now := by
  simp [Outbox.due, List.mem_filter]

end Lookup

section Export

theorem assign_fresh {request : OutboxRequest T P} {requests : List (OutboxRequest T P)}
    (fresh : request.id ∉ requests.map (·.id)) :
    assign request requests = requests ++ [request] := by
  induction requests with
  | nil => rfl
  | cons held rest ih =>
    simp only [List.map_cons, List.mem_cons, not_or] at fresh
    rw [assign, if_neg (Ne.symm fresh.1), ih fresh.2, List.cons_append]

variable [Zero T] [Inhabited P]

theorem importAll_records (draw : Nat → String) (outbox : Outbox T P)
    (requests : List (OutboxRequest T P))
    (named : ∀ request ∈ requests, request.id.isEmpty = false)
    (distinct : ((outbox.requests ++ requests).map (·.id)).Nodup) :
    ∃ imported, outbox.importAll draw (requests.map (·.toJson)) = .ok imported ∧
      imported.requests = outbox.requests ++ requests.map (·.spelled) := by
  induction requests generalizing outbox with
  | nil => exact ⟨outbox, rfl, (List.append_nil _).symm⟩
  | cons request rest ih =>
    have fresh : request.spelled.id ∉ outbox.requests.map (·.id) := by
      intro listed
      rw [List.map_append, List.map_cons] at distinct
      exact (List.nodup_append.mp distinct).2.2 _ listed _ (List.mem_cons_self ..) rfl
    have appended : (outbox.append request.spelled).requests =
        outbox.requests ++ [request.spelled] := assign_fresh fresh
    have further : (((outbox.append request.spelled).requests ++ rest).map (·.id)).Nodup := by
      rw [appended]
      simpa [OutboxRequest.spelled] using distinct
    obtain ⟨imported, done, same⟩ := ih (outbox.append request.spelled)
      (fun held listed => named held (List.mem_cons_of_mem _ listed)) further
    refine ⟨imported, ?_, ?_⟩
    · rw [List.map_cons, Outbox.importAll,
        fromJson_toJson request (named request (List.mem_cons_self ..))]
      exact done
    · rw [same, appended]
      simp

theorem import_export (draw : Nat → String) (outbox : Outbox T P)
    (named : ∀ request ∈ outbox.requests, request.id.isEmpty = false) :
    ∃ imported, Outbox.empty.importAll draw outbox.export = .ok imported ∧
      imported.requests = outbox.requests.map (·.spelled) := by
  obtain ⟨imported, done, same⟩ := importAll_records draw Outbox.empty outbox.requests named
    (by simpa [Outbox.empty] using outbox.distinct)
  exact ⟨imported, done, by simpa [Outbox.empty] using same⟩

end Export

end MonoidKernel.Outgoing
