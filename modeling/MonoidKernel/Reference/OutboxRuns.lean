import Mathlib.Data.List.Induction
import Mathlib.Order.MinMax
import MonoidKernel.Reference.OutboxDispatch
import Mathlib.Algebra.Ring.Int.Defs

set_option autoImplicit false

namespace MonoidKernel.Outgoing

open Library

variable {T P : Type}

section Histories

def settlementsOf (events : List OutboxEvent) (requestId : String) : List OutboxStatus :=
  events.filterMap fun event => event.settlement.bind fun settled =>
    if settled.1 = requestId then some settled.2 else none

theorem settlementsOf_append (events later : List OutboxEvent) (requestId : String) :
    settlementsOf (events ++ later) requestId =
      settlementsOf events requestId ++ settlementsOf later requestId := by
  simp [settlementsOf]

theorem settlementsOf_settled {event : OutboxEvent} {settled : String} {status : OutboxStatus}
    (settles : event.settlement = some (settled, status)) (requestId : String) :
    settlementsOf [event] requestId = if settled = requestId then [status] else [] := by
  by_cases same : settled = requestId <;> simp [settlementsOf, settles, same]

-- What the history says of a request: the outcomes recorded while it was pending, the largest
-- number of attempts that any of its outcomes allowed, whether an outcome has ended it, when it is
-- scheduled, and how often it was acknowledged.
structure Track (T : Type) where
  outcomes : Nat
  largest : Int
  settled : Bool
  scheduled : T
  acks : Nat

def Track.initial [Zero T] : Track T := ⟨0, 1, false, 0, 0⟩

def Track.follow (requestId : String) (track : Track T) : Happening T → Track T
  | .staged _ => track
  | .selected .. => track
  | .recorded recorded before after maxAttempts nextAttemptAt =>
    if recorded = requestId then
      { track with
        outcomes := if before = .pending then track.outcomes + 1 else track.outcomes
        largest := max track.largest maxAttempts
        settled := track.settled || decide (after ≠ .pending)
        scheduled := if after = .pending then nextAttemptAt.getD track.scheduled
          else track.scheduled }
    else track
  | .acked acked => if acked = requestId then { track with acks := track.acks + 1 } else track

def trackOf [Zero T] (log : List (Happening T)) (requestId : String) : Track T :=
  log.foldl (Track.follow requestId) Track.initial

@[simp] theorem trackOf_last [Zero T] (log : List (Happening T)) (happening : Happening T)
    (requestId : String) :
    trackOf (log ++ [happening]) requestId =
      (trackOf log requestId).follow requestId happening := by
  simp [trackOf]

def SelectsDue [LinearOrder T] [Zero T] (log : List (Happening T)) : Prop :=
  ∀ earlier now requestIds, earlier ++ [.selected now requestIds] <+: log →
    ∀ requestId ∈ requestIds, (trackOf earlier requestId).settled = false ∧
      (trackOf earlier requestId).scheduled ≤ now

theorem SelectsDue.extend [LinearOrder T] [Zero T] {log : List (Happening T)}
    (selects : SelectsDue log) (happening : Happening T)
    (last : ∀ now requestIds, happening = .selected now requestIds →
      ∀ requestId ∈ requestIds, (trackOf log requestId).settled = false ∧
        (trackOf log requestId).scheduled ≤ now) : SelectsDue (log ++ [happening]) := by
  intro earlier now requestIds initial
  rcases List.prefix_concat_iff.mp initial with whole | shorter
  · obtain ⟨rfl, same⟩ := List.append_inj' whole rfl
    exact last now requestIds (List.cons.inj same).1.symm
  · exact selects earlier now requestIds shorter

end Histories

section Requests

structure Tracked (events : List OutboxEvent) (track : Track T) (request : OutboxRequest T P) :
    Prop where
  events : settlementsOf events request.id =
    if request.status = .pending then [] else [request.status]
  attempts : request.attempts = track.outcomes
  bounded : (request.attempts : Int) ≤ track.largest
  below : request.status = .pending → (request.attempts : Int) < track.largest
  scheduled : request.nextAttemptAt = track.scheduled
  settled : track.settled = decide (request.status ≠ .pending)
  acks : track.acks ≤ if request.status = .pending then 0 else 1

theorem Tracked.congr {events : List OutboxEvent} {track : Track T}
    {request : OutboxRequest T P}
    (tracked : Tracked events track request) {other : OutboxRequest T P}
    (id : other.id = request.id) (status : other.status = request.status)
    (attempts : other.attempts = request.attempts)
    (nextAttemptAt : other.nextAttemptAt = request.nextAttemptAt) : Tracked events track other := by
  refine ⟨?_, ?_, ?_, ?_, ?_, ?_, ?_⟩
  · rw [id, status]; exact tracked.events
  · rw [attempts]; exact tracked.attempts
  · rw [attempts]; exact tracked.bounded
  · rw [status, attempts]; exact tracked.below
  · rw [nextAttemptAt]; exact tracked.scheduled
  · rw [status]; exact tracked.settled
  · rw [status]; exact tracked.acks

end Requests

section Properties

variable [Zero T]

structure Lifecycle [LinearOrder T] [Inhabited P] (state : DispatchState T P) : Prop where
  -- Exactly one event for a request that has ended, and none before.
  events : ∀ requestId request, state.loop.outbox.get requestId = some request →
    settlementsOf state.loop.events requestId =
      if request.status = .pending then [] else [request.status]
  attempts : ∀ requestId request, state.loop.outbox.get requestId = some request →
    request.attempts = (trackOf state.log requestId).outcomes
  bounded : ∀ requestId request, state.loop.outbox.get requestId = some request →
    (request.attempts : Int) ≤ (trackOf state.log requestId).largest
  selections : SelectsDue state.log
  acks : ∀ requestId, (trackOf state.log requestId).acks ≤ 1
  reproduced : ∀ draw, ∃ imported,
    Outbox.empty.importAll draw state.loop.outbox.export = .ok imported ∧
      imported.requests = state.loop.outbox.requests.map (·.spelled)

def Settled (before after : DispatchState T P) : Prop :=
  ∀ requestId request, before.loop.outbox.get requestId = some request →
    request.status ≠ .pending →
    ∃ later, after.loop.outbox.get requestId = some later ∧ later.status = request.status

def OutcomeFits (state : DispatchState T P) (requestId : String) (receipt : OutboxReceipt)
    (maxAttempts : Int) : Prop :=
  ∀ request, state.loop.outbox.get requestId = some request →
    request.status = .pending ∧
      (settles request receipt maxAttempts = true → state.loop.sessionOpen = true)

def Timely (state : DispatchState T P) : DispatchLabel T P → Prop
  | .record requestId receipt maxAttempts _ => OutcomeFits state requestId receipt maxAttempts
  | .send drain receipt maxAttempts _ _ =>
    ∀ requestId rest, state.drains[drain]? = some (requestId :: rest) →
      OutcomeFits state requestId receipt maxAttempts
  | _ => True

def Tracks (events : List OutboxEvent) (log : List (Happening T)) (requestId : String) :
    Option (OutboxRequest T P) → Prop
  | some request => Tracked events (trackOf log requestId) request
  | none => settlementsOf events requestId = [] ∧ trackOf log requestId = Track.initial

structure Kept [LinearOrder T] (state : DispatchState T P) : Prop where
  tracks : ∀ requestId,
    Tracks state.loop.events state.log requestId (state.loop.outbox.get requestId)
  selections : SelectsDue state.log
  named : ∀ request ∈ state.loop.outbox.requests, request.id.isEmpty = false

variable {state : DispatchState T P} {request : OutboxRequest T P} {requestId : String}

theorem Kept.tracked [LinearOrder T] (kept : Kept state)
    (found : state.loop.outbox.get requestId = some request) :
    Tracked state.loop.events (trackOf state.log requestId) request := by
  have tracks := kept.tracks requestId
  rw [found] at tracks
  exact tracks

theorem Kept.lifecycle [LinearOrder T] [Inhabited P] (kept : Kept state) : Lifecycle state := by
  refine ⟨?_, ?_, ?_, kept.selections, ?_, fun draw => import_export draw _ kept.named⟩
  · intro requestId request found
    have events := (kept.tracked found).events
    rwa [get_id found] at events
  · exact fun requestId request found => (kept.tracked found).attempts
  · exact fun requestId request found => (kept.tracked found).bounded
  · intro requestId
    have tracks := kept.tracks requestId
    cases found : state.loop.outbox.get requestId with
    | none =>
      rw [found] at tracks
      rw [tracks.2]
      exact Nat.zero_le 1
    | some request =>
      have acks := (kept.tracked found).acks
      split at acks <;> omega

theorem Tracks.frame {events later : List OutboxEvent} {log : List (Happening T)}
    {found : Option (OutboxRequest T P)} (tracks : Tracks events log requestId found)
    {happening : Happening T}
    (elsewhere : (trackOf log requestId).follow requestId happening = trackOf log requestId)
    (silent : settlementsOf later requestId = settlementsOf events requestId)
    (same : ∀ request, found = some request → request.id = requestId) :
    Tracks later (log ++ [happening]) requestId found := by
  cases found with
  | none => exact ⟨silent.trans tracks.1, by rw [trackOf_last, elsewhere, tracks.2]⟩
  | some request =>
    have named := same request rfl
    refine ⟨?_, ?_, ?_, ?_, ?_, ?_, ?_⟩
    · rw [named, silent, ← named]; exact tracks.events
    · rw [trackOf_last, elsewhere]; exact tracks.attempts
    · rw [trackOf_last, elsewhere]; exact tracks.bounded
    · rw [trackOf_last, elsewhere]; exact tracks.below
    · rw [trackOf_last, elsewhere]; exact tracks.scheduled
    · rw [trackOf_last, elsewhere]; exact tracks.settled
    · rw [trackOf_last, elsewhere]; exact tracks.acks

end Properties

section Recording

variable {state : DispatchState T P} {request : OutboxRequest T P} {requestId : String}

theorem record_spec (found : state.loop.outbox.get requestId = some request)
    (receipt : OutboxReceipt) (maxAttempts : Int) (nextAttemptAt : Option T) :
    ∃ (marking : Marking T) (events : List OutboxEvent),
      state.record requestId receipt maxAttempts nextAttemptAt =
        (some marking.status, { state with
          loop := { state.loop with
            outbox := state.loop.outbox.mark requestId marking
            events }
          log := state.log ++
            [.recorded requestId request.status marking.status maxAttempts nextAttemptAt] }) ∧
      marking.attempts = some (request.attempts + 1) ∧
      ((marking.status = .pending ∧ settles request receipt maxAttempts = false ∧
          marking.nextAttemptAt = nextAttemptAt ∧ events = state.loop.events ∧
          ((request.attempts + 1 : Nat) : Int) < maxAttempts) ∨
        (marking.status ≠ .pending ∧ settles request receipt maxAttempts = true ∧
          marking.nextAttemptAt = none ∧
          ∃ event, event.settlement = some (requestId, marking.status) ∧
            events = state.loop.emit event)) := by
  unfold DispatchState.record OutboxLoop.recordOutboxResult
  simp only [found]
  by_cases sent : receipt.ok = true
  · rw [if_pos sent]
    refine ⟨{
      status := .dispatched
      attempts := some (request.attempts + 1)
      reference := receipt.reference }, _, rfl, rfl, Or.inr ⟨nofun, ?_, rfl,
        .dispatched requestId request.destination receipt.reference (request.attempts + 1)
          request.traceparent, rfl, rfl⟩⟩
    simp [settles, sent]
  · rw [if_neg sent]
    by_cases again : receipt.retryable = true ∧ ((request.attempts + 1 : Nat) : Int) < maxAttempts
    · rw [if_pos again]
      refine ⟨{
        status := .pending
        attempts := some (request.attempts + 1)
        nextAttemptAt
        error := receipt.error }, _, rfl, rfl, Or.inl ⟨rfl, ?_, rfl, rfl, again.2⟩⟩
      have below := again.2
      push_cast at below
      simp [settles, sent, again.1, below]
    · rw [if_neg again]
      refine ⟨{
        status := .failed
        attempts := some (request.attempts + 1)
        error := receipt.error }, _, rfl, rfl, Or.inr ⟨nofun, ?_, rfl,
          .failed requestId request.destination receipt.error (request.attempts + 1)
            request.traceparent, rfl, rfl⟩⟩
      push_cast at again
      simp only [settles, Bool.or_eq_true, Bool.not_eq_true', Bool.and_eq_false_iff,
        decide_eq_false_iff_not]
      push_cast
      by_cases retry : receipt.retryable = true
      · exact Or.inr (Or.inr fun below => again ⟨retry, below⟩)
      · exact Or.inr (Or.inl (by simpa using retry))

theorem record_unknown (unknown : state.loop.outbox.get requestId = none)
    (receipt : OutboxReceipt) (maxAttempts : Int) (nextAttemptAt : Option T) :
    state.record requestId receipt maxAttempts nextAttemptAt = (none, state) := by
  unfold DispatchState.record OutboxLoop.recordOutboxResult
  simp only [unknown]

theorem follow_recorded_other {other : String} (distinct : requestId ≠ other) (track : Track T)
    (before after : OutboxStatus) (maxAttempts : Int) (nextAttemptAt : Option T) :
    track.follow other (.recorded requestId before after maxAttempts nextAttemptAt) = track :=
  if_neg distinct

theorem stampTrace_get (loop : OutboxLoop T P) (stamped traceparent requestId : String) :
    (loop.stampTrace stamped traceparent).outbox.get requestId =
      (loop.outbox.get requestId).map fun request =>
        if stamped = request.id then
          { request with traceparent := orElse request.traceparent traceparent }
        else request := by
  refine (get_modify loop.outbox stamped (fun request =>
    { request with traceparent := orElse request.traceparent traceparent }) (fun _ => rfl)
    requestId).trans ?_
  cases found : loop.outbox.get requestId with
  | none => split <;> rfl
  | some request =>
    have named := get_id found
    by_cases same : stamped = requestId
    · rw [if_pos same, Option.map_some, Option.map_some, if_pos (same.trans named.symm)]
    · rw [if_neg same, Option.map_some, if_neg fun equal => same (equal.trans named)]

theorem stageOutboxAck_spec (state : DispatchState T P) (depth : Nat)
    (request : OutboxRequest T P) :
    state.stageOutboxAck depth request = state ∨
      ((state.stageOutboxAck depth request).loop = state.loop ∧
        (state.stageOutboxAck depth request).log = state.log ++ [.acked request.id]) := by
  unfold DispatchState.stageOutboxAck
  dsimp only
  split
  · exact Or.inl rfl
  · split
    · exact Or.inl rfl
    · exact Or.inr ⟨rfl, rfl⟩

theorem Tracked.record [Zero T]
    (tracked : Tracked state.loop.events (trackOf state.log requestId) request)
    (named : request.id = requestId) (fits : request.status = .pending)
    {receipt : OutboxReceipt} {maxAttempts : Int} {nextAttemptAt : Option T}
    {marking : Marking T} {events : List OutboxEvent}
    (session : settles request receipt maxAttempts = true → state.loop.sessionOpen = true)
    (attempts : marking.attempts = some (request.attempts + 1))
    (outcome : (marking.status = .pending ∧ settles request receipt maxAttempts = false ∧
        marking.nextAttemptAt = nextAttemptAt ∧ events = state.loop.events ∧
        ((request.attempts + 1 : Nat) : Int) < maxAttempts) ∨
      (marking.status ≠ .pending ∧ settles request receipt maxAttempts = true ∧
        marking.nextAttemptAt = none ∧
        ∃ event, event.settlement = some (requestId, marking.status) ∧
          events = state.loop.emit event)) :
    Tracked events ((trackOf state.log requestId).follow requestId
        (.recorded requestId request.status marking.status maxAttempts nextAttemptAt))
      (marking.apply request) := by
  have unsettled := tracked.events
  have below := tracked.below fits
  have scheduled := tracked.scheduled
  have acks := tracked.acks
  have unmarked := tracked.settled
  rw [if_pos fits] at unsettled acks
  have counted : (marking.apply request).attempts = request.attempts + 1 := by
    simp [Marking.apply, attempts]
  have follow : (trackOf state.log requestId).follow requestId
      (.recorded requestId request.status marking.status maxAttempts nextAttemptAt) =
      { outcomes := (trackOf state.log requestId).outcomes + 1
        largest := max (trackOf state.log requestId).largest maxAttempts
        settled := (trackOf state.log requestId).settled || decide (marking.status ≠ .pending)
        scheduled := if marking.status = .pending then
            nextAttemptAt.getD (trackOf state.log requestId).scheduled
          else (trackOf state.log requestId).scheduled
        acks := (trackOf state.log requestId).acks } := by
    simp only [Track.follow, if_true, fits]
  rw [follow]
  rcases outcome with ⟨pending, -, schedule, same, more⟩ |
    ⟨ended, settled, schedule, event, about, same⟩
  · have status : (marking.apply request).status = .pending := pending
    refine ⟨?_, ?_, ?_, ?_, ?_, ?_, ?_⟩
    · rw [status, same]; exact unsettled
    · rw [counted, tracked.attempts]
    · rw [counted]; exact le_max_of_le_right more.le
    · intro _; rw [counted]; exact lt_max_of_lt_right more
    · simp [Marking.apply, schedule, pending, scheduled]
    · simp [status, pending, unmarked, fits]
    · rw [if_pos status]; exact acks
  · have status : (marking.apply request).status = marking.status := rfl
    refine ⟨?_, ?_, ?_, ?_, ?_, ?_, ?_⟩
    · have appended : state.loop.emit event = state.loop.events ++ [event] :=
        if_pos (session settled)
      rw [status, if_neg ended, same, appended, settlementsOf_append,
        settlementsOf_settled about, if_pos (show requestId = (marking.apply request).id from
          named.symm)]
      change settlementsOf state.loop.events request.id ++ _ = _
      rw [unsettled, List.nil_append]
    · rw [counted, tracked.attempts]
    · rw [counted]; push_cast; exact le_max_of_le_left below
    · intro pending; exact absurd pending ended
    · simp [Marking.apply, schedule, ended, scheduled]
    · simp [status, ended]
    · exact le_trans acks (Nat.zero_le _)

theorem record_kept [LinearOrder T] [Zero T] (kept : Kept state) (receipt : OutboxReceipt)
    (maxAttempts : Int)
    (nextAttemptAt : Option T) (fits : OutcomeFits state requestId receipt maxAttempts) :
    Kept (state.record requestId receipt maxAttempts nextAttemptAt).2 := by
  cases found : state.loop.outbox.get requestId with
  | none => rw [record_unknown found]; exact kept
  | some request =>
    obtain ⟨pending, session⟩ := fits request found
    obtain ⟨marking, events, recorded, attempts, outcome⟩ :=
      record_spec found receipt maxAttempts nextAttemptAt
    rw [recorded]
    refine ⟨fun other => ?_, ?_, ?_⟩
    · dsimp only
      rw [get_mark]
      by_cases same : requestId = other
      · subst same
        rw [if_pos rfl, found, Option.map_some]
        have tracked := (kept.tracked found).record (get_id found) pending session attempts outcome
        rw [← trackOf_last] at tracked
        exact tracked
      · rw [if_neg same]
        refine (kept.tracks other).frame (follow_recorded_other same _ _ _ _ _) ?_
          fun request found => get_id found
        rcases outcome with ⟨-, -, -, events, -⟩ | ⟨-, -, -, event, about, events⟩
        · rw [events]
        · rw [events]
          unfold OutboxLoop.emit
          split
          · rw [settlementsOf_append, settlementsOf_settled about, if_neg same, List.append_nil]
          · rfl
    · exact kept.selections.extend _ nofun
    · intro held listed
      obtain ⟨before, member, changed⟩ := List.mem_map.mp listed
      have named := kept.named before member
      split at changed
      · subst changed; exact named
      · subst changed; exact named

end Recording

section Steps

variable [LinearOrder T] [Zero T]
variable {state : DispatchState T P} {request : OutboxRequest T P} {requestId : String}

theorem Kept.elsewhere (kept : Kept state) {after : DispatchState T P}
    (outbox : after.loop.outbox = state.loop.outbox)
    (events : after.loop.events = state.loop.events) (log : after.log = state.log) :
    Kept after := by
  refine ⟨?_, ?_, ?_⟩
  · rw [outbox, events, log]; exact kept.tracks
  · rw [log]; exact kept.selections
  · rw [outbox]; exact kept.named

theorem Kept.replaced (kept : Kept state) {after : DispatchState T P}
    (change : OutboxRequest T P → OutboxRequest T P)
    (found : ∀ requestId, after.loop.outbox.get requestId =
      (state.loop.outbox.get requestId).map change)
    (same : ∀ request, (change request).id = request.id ∧
      (change request).status = request.status ∧ (change request).attempts = request.attempts ∧
      (change request).nextAttemptAt = request.nextAttemptAt)
    (events : after.loop.events = state.loop.events) (log : after.log = state.log) :
    Kept after := by
  refine ⟨fun requestId => ?_, ?_, fun held listed => ?_⟩
  · rw [found, events, log]
    have tracks := kept.tracks requestId
    cases before : state.loop.outbox.get requestId with
    | none => rwa [before] at tracks
    | some request =>
      rw [before] at tracks
      obtain ⟨id, status, attempts, nextAttemptAt⟩ := same request
      exact Tracked.congr tracks id status attempts nextAttemptAt
  · rw [log]; exact kept.selections
  · have present := found held.id
    rw [get_of_mem listed] at present
    obtain ⟨request, before, changed⟩ := Option.map_eq_some_iff.mp present.symm
    rw [← changed, (same request).1]
    exact kept.named request (get_mem before)

theorem stampTrace_kept (kept : Kept state) (stamped traceparent : String)
    (drains : List (List String)) :
    Kept { state with
      drains
      loop := state.loop.stampTrace stamped traceparent } := by
  refine kept.replaced _ (stampTrace_get state.loop stamped traceparent) ?_ rfl rfl
  intro request
  split <;> exact ⟨rfl, rfl, rfl, rfl⟩

theorem stageOutboxAck_kept (kept : Kept state)
    (found : state.loop.outbox.get requestId = some request) (ended : request.status ≠ .pending)
    (unacked : (trackOf state.log requestId).acks = 0) (depth : Nat) :
    Kept (state.stageOutboxAck depth request) := by
  rcases stageOutboxAck_spec state depth request with same | ⟨loop, log⟩
  · rw [same]; exact kept
  · have named := get_id found
    refine ⟨fun other => ?_, ?_, ?_⟩
    · rw [loop, log]
      by_cases same : request.id = other
      · have asked : requestId = other := named.symm.trans same
        subst asked
        have tracked := kept.tracked found
        rw [found]
        change Tracked _ _ _
        rw [trackOf_last, Track.follow, if_pos same]
        refine ⟨tracked.events, tracked.attempts, tracked.bounded, tracked.below,
          tracked.scheduled, tracked.settled, ?_⟩
        rw [if_neg ended]
        dsimp only
        omega
      · exact (kept.tracks other).frame (if_neg same) rfl fun request found => get_id found
    · rw [log]
      exact kept.selections.extend _ nofun
    · rw [loop]; exact kept.named

theorem record_unacked (kept : Kept state) (pending : ∀ request,
      state.loop.outbox.get requestId = some request → request.status = .pending)
    (receipt : OutboxReceipt) (maxAttempts : Int) (nextAttemptAt : Option T)
    {after : OutboxRequest T P}
    (found : (state.record requestId receipt maxAttempts nextAttemptAt).2.loop.outbox.get
      requestId = some after) :
    (state.record requestId receipt maxAttempts nextAttemptAt).1 = some after.status ∧
      (trackOf (state.record requestId receipt maxAttempts nextAttemptAt).2.log
        requestId).acks = 0 := by
  cases before : state.loop.outbox.get requestId with
  | none =>
    rw [record_unknown before] at found
    rw [before] at found
    cases found
  | some request =>
    obtain ⟨marking, events, recorded, -, -⟩ :=
      record_spec before receipt maxAttempts nextAttemptAt
    rw [recorded] at found ⊢
    dsimp only at found ⊢
    rw [get_mark, if_pos rfl, before, Option.map_some] at found
    cases found
    refine ⟨rfl, ?_⟩
    rw [trackOf_last]
    have acks := (kept.tracked before).acks
    rw [if_pos (pending request before)] at acks
    simp only [Track.follow, if_true]
    omega

theorem concludeSend_kept (kept : Kept state) (depth : Nat) (receipt : OutboxReceipt)
    (maxAttempts : Int) (nextAttemptAt : T)
    (fits : OutcomeFits state requestId receipt maxAttempts) :
    Kept (state.concludeSend depth requestId receipt maxAttempts nextAttemptAt) := by
  have recorded := record_kept kept receipt maxAttempts (some nextAttemptAt) fits
  unfold DispatchState.concludeSend
  dsimp only
  cases found : (state.record requestId receipt maxAttempts (some nextAttemptAt)).2.loop.outbox.get
    requestId with
  | none => exact recorded
  | some after =>
    obtain ⟨status, unacked⟩ := record_unacked kept (fun request held => (fits request held).1)
      receipt maxAttempts (some nextAttemptAt) found
    dsimp only
    split
    next asked =>
      refine stageOutboxAck_kept recorded found ?_ unacked depth
      intro pending
      rw [status, pending] at asked
      simp at asked
    · exact recorded

theorem restore_get [Inhabited P] (kept : Kept state) (draw : Nat → String) :
    ∃ outbox : Outbox T P,
      state.restore draw = { state with
        loop := { state.loop with
          outbox
          sessionOpen := true }
        drains := [] } ∧
      ∀ requestId, outbox.get requestId = (state.loop.outbox.get requestId).map (·.spelled) := by
  obtain ⟨outbox, imported, same⟩ := import_export draw state.loop.outbox kept.named
  refine ⟨outbox, ?_, fun requestId => ?_⟩
  · unfold DispatchState.restore
    rw [imported]
  · unfold Outbox.get
    rw [same, List.find?_map]
    rfl

theorem nextDispatch_kept [Inhabited P] (kept : Kept state) (depth : Nat)
    (label : DispatchLabel T P) (timely : Timely state label) :
    Kept (nextDispatch depth state label) := by
  cases label with
  | stage emission =>
    dsimp only [nextDispatch]
    split
    · exact kept
    next fresh =>
      have absent : state.loop.outbox.get emission.request.id = none := by
        cases held : state.loop.outbox.get emission.request.id with
        | none => rfl
        | some request => exact absurd (by rw [held]; rfl) fresh
      have silent : ∀ requestId,
          settlementsOf (state.loop.emitOutbox emission).events requestId =
            settlementsOf state.loop.events requestId := by
        intro requestId
        change settlementsOf (state.loop.emit _) requestId = _
        unfold OutboxLoop.emit
        split
        · simp [settlementsOf, OutboxEvent.settlement]
        · rfl
      refine ⟨fun requestId => ?_, kept.selections.extend _ nofun, fun held listed => ?_⟩
      · dsimp only
        change Tracks _ _ _ ((state.loop.outbox.append emission.request).get requestId)
        rw [get_append]
        split
        next same =>
          have tracks := kept.tracks requestId
          rw [← same, absent] at tracks
          change Tracked _ _ _
          rw [trackOf_last, ← same, Track.follow, tracks.2]
          refine ⟨?_, rfl, ?_, fun _ => ?_, rfl, rfl, ?_⟩
          · exact (silent _).trans tracks.1
          · exact Int.one_nonneg
          · exact Int.zero_lt_one
          · exact Nat.le_refl 0
        · exact (kept.tracks requestId).frame rfl (silent requestId)
            fun request found => get_id found
      · have present : (state.loop.outbox.append emission.request).get held.id = some held :=
          get_of_mem listed
        rw [get_append] at present
        split at present
        · cases present
          change ("outbox_" ++ emission.drawn).isEmpty = false
          simp
        · exact kept.named held (get_mem present)
  | select now =>
    refine ⟨fun requestId => ?_, ?_, kept.named⟩
    · exact (kept.tracks requestId).frame rfl rfl fun request found => get_id found
    · refine kept.selections.extend _ ?_
      rintro now requestIds ⟨⟩ requestId listed
      obtain ⟨request, due, rfl⟩ := List.mem_map.mp listed
      obtain ⟨member, pending, scheduled⟩ := mem_due.mp due
      have tracked := kept.tracked (get_of_mem member)
      refine ⟨?_, tracked.scheduled ▸ scheduled⟩
      rw [tracked.settled]
      simp [pending]
  | send drain receipt maxAttempts nextAttemptAt traceparent =>
    dsimp only [nextDispatch, DispatchState.sendNext]
    split
    next requestId rest selected =>
      refine concludeSend_kept (stampTrace_kept kept requestId traceparent _) depth receipt
        maxAttempts nextAttemptAt ?_
      intro request found
      dsimp only at found
      rw [stampTrace_get] at found
      obtain ⟨before, held, same⟩ := Option.map_eq_some_iff.mp found
      obtain ⟨pending, session⟩ := timely requestId rest selected before held
      split at same
      · subst same; exact ⟨pending, session⟩
      · subst same; exact ⟨pending, session⟩
    · exact kept
  | abandon drain => exact kept.elsewhere rfl rfl rfl
  | record requestId receipt maxAttempts nextAttemptAt =>
    exact record_kept kept receipt maxAttempts nextAttemptAt timely
  | restore draw =>
    obtain ⟨outbox, restored, found⟩ := restore_get kept draw
    dsimp only [nextDispatch]
    rw [restored]
    exact kept.replaced _ found (fun _ => ⟨rfl, rfl, rfl, rfl⟩) rfl rfl
  | arrive id => exact kept.elsewhere rfl rfl rfl
  | take =>
    dsimp only [nextDispatch]
    split
    · exact kept
    · exact kept.elsewhere rfl rfl rfl
  | terminate => exact kept.elsewhere rfl rfl rfl
  | closeSession => exact kept.elsewhere rfl rfl rfl

end Steps

section Endings

variable {state : DispatchState T P} {requestId : String}

theorem Settled.refl (state : DispatchState T P) : Settled state state :=
  fun _ request found _ => ⟨request, found, rfl⟩

theorem Settled.trans {first second third : DispatchState T P} (earlier : Settled first second)
    (later : Settled second third) : Settled first third := by
  intro requestId request found ended
  obtain ⟨between, held, same⟩ := earlier requestId request found ended
  obtain ⟨last, kept, also⟩ := later requestId between held (same ▸ ended)
  exact ⟨last, kept, also.trans same⟩

theorem Settled.of_map {after : DispatchState T P}
    {change : OutboxRequest T P → OutboxRequest T P}
    (found : ∀ requestId, after.loop.outbox.get requestId =
      (state.loop.outbox.get requestId).map change)
    (status : ∀ request, (change request).status = request.status) : Settled state after := by
  intro requestId request held _
  exact ⟨change request, by rw [found, held, Option.map_some], status request⟩

theorem Settled.of_loop {after : DispatchState T P}
    (outbox : after.loop.outbox = state.loop.outbox) : Settled state after :=
  fun _ request found _ => ⟨request, outbox ▸ found, rfl⟩

theorem stampTrace_settled (state : DispatchState T P) (stamped traceparent : String)
    (drains : List (List String)) :
    Settled state { state with
      drains
      loop := state.loop.stampTrace stamped traceparent } := by
  refine Settled.of_map (stampTrace_get state.loop stamped traceparent) fun request => ?_
  split <;> rfl

theorem record_settled (receipt : OutboxReceipt) (maxAttempts : Int) (nextAttemptAt : Option T)
    (fits : OutcomeFits state requestId receipt maxAttempts) :
    Settled state (state.record requestId receipt maxAttempts nextAttemptAt).2 := by
  cases held : state.loop.outbox.get requestId with
  | none => rw [record_unknown held]; exact Settled.refl state
  | some request =>
    obtain ⟨marking, events, recorded, -, -⟩ := record_spec held receipt maxAttempts nextAttemptAt
    rw [recorded]
    intro other before found ended
    have distinct : requestId ≠ other := by
      rintro rfl
      exact ended (fits before found).1
    refine ⟨before, ?_, rfl⟩
    dsimp only
    rw [get_mark, if_neg distinct]
    exact found

theorem stageOutboxAck_loop (state : DispatchState T P) (depth : Nat)
    (request : OutboxRequest T P) : (state.stageOutboxAck depth request).loop = state.loop := by
  rcases stageOutboxAck_spec state depth request with same | ⟨loop, -⟩
  · rw [same]
  · exact loop

theorem concludeSend_spec (state : DispatchState T P) (depth : Nat) (requestId : String)
    (receipt : OutboxReceipt) (maxAttempts : Int) (nextAttemptAt : T) :
    let recorded := (state.record requestId receipt maxAttempts (some nextAttemptAt)).2
    state.concludeSend depth requestId receipt maxAttempts nextAttemptAt = recorded ∨
      ∃ request, state.concludeSend depth requestId receipt maxAttempts nextAttemptAt =
        recorded.stageOutboxAck depth request := by
  unfold DispatchState.concludeSend
  dsimp only
  split
  · exact Or.inl rfl
  next request _ =>
    split
    · exact Or.inr ⟨request, rfl⟩
    · exact Or.inl rfl

theorem concludeSend_settled (depth : Nat) (receipt : OutboxReceipt) (maxAttempts : Int)
    (nextAttemptAt : T) (fits : OutcomeFits state requestId receipt maxAttempts) :
    Settled state (state.concludeSend depth requestId receipt maxAttempts nextAttemptAt) := by
  have recorded := record_settled receipt maxAttempts (some nextAttemptAt) fits
  rcases concludeSend_spec state depth requestId receipt maxAttempts nextAttemptAt with
    same | ⟨request, same⟩
  · rw [same]; exact recorded
  · rw [same]
    exact recorded.trans (Settled.of_loop (by rw [stageOutboxAck_loop]))

theorem OutcomeFits.stamped [Zero T] {receipt : OutboxReceipt} {maxAttempts : Int}
    (traceparent : String) (drains : List (List String)) :
    OutcomeFits { state with
      drains
      loop := state.loop.stampTrace requestId traceparent } requestId receipt maxAttempts ↔
    OutcomeFits state requestId receipt maxAttempts := by
  unfold OutcomeFits
  dsimp only
  rw [stampTrace_get]
  cases held : state.loop.outbox.get requestId with
  | none => simp
  | some request =>
    rw [Option.map_some, if_pos (get_id held).symm]
    simp only [Option.some.injEq, forall_eq']
    rfl

variable [LinearOrder T] [Zero T] [Inhabited P]

theorem nextDispatch_settled (kept : Kept state) (depth : Nat) (label : DispatchLabel T P)
    (timely : Timely state label) : Settled state (nextDispatch depth state label) := by
  cases label with
  | stage emission =>
    dsimp only [nextDispatch]
    split
    · exact Settled.refl state
    next fresh =>
      intro requestId request found _
      refine ⟨request, ?_, rfl⟩
      have distinct : emission.request.id ≠ requestId := by
        rintro same
        rw [same, found] at fresh
        exact fresh rfl
      change (state.loop.outbox.append emission.request).get requestId = _
      rw [get_append, if_neg distinct]
      exact found
  | send drain receipt maxAttempts nextAttemptAt traceparent =>
    dsimp only [nextDispatch, DispatchState.sendNext]
    split
    next requestId rest selected =>
      exact (stampTrace_settled state requestId traceparent _).trans (concludeSend_settled depth
        receipt maxAttempts nextAttemptAt ((OutcomeFits.stamped traceparent _).mpr
          (timely requestId rest selected)))
    · exact Settled.refl state
  | record requestId receipt maxAttempts nextAttemptAt =>
    exact record_settled receipt maxAttempts nextAttemptAt timely
  | restore draw =>
    obtain ⟨outbox, restored, found⟩ := restore_get kept draw
    dsimp only [nextDispatch]
    rw [restored]
    exact Settled.of_map found fun _ => rfl
  | take =>
    dsimp only [nextDispatch]
    split
    · exact Settled.refl state
    · exact Settled.of_loop rfl
  | select => exact Settled.of_loop rfl
  | abandon => exact Settled.of_loop rfl
  | arrive => exact Settled.of_loop rfl
  | terminate => exact Settled.of_loop rfl
  | closeSession => exact Settled.of_loop rfl

end Endings

section Lateness

variable [Zero T] {state : DispatchState T P} {requestId : String}

def Counted (state : DispatchState T P) (requestId : String) : Prop :=
  ∀ request, state.loop.outbox.get requestId = some request →
    request.attempts = (trackOf state.log requestId).outcomes ∧
      settlementsOf state.loop.events requestId =
        if request.status = .pending then [] else [request.status]

theorem Lifecycle.counted [LinearOrder T] [Inhabited P] (lifecycle : Lifecycle state)
    (requestId : String) : Counted state requestId :=
  fun request found =>
    ⟨lifecycle.attempts requestId request found, lifecycle.events requestId request found⟩

theorem fits_of_counted {receipt : OutboxReceipt} {maxAttempts : Int} (nextAttemptAt : Option T)
    (before : Counted state requestId)
    (after : Counted (state.record requestId receipt maxAttempts nextAttemptAt).2 requestId) :
    OutcomeFits state requestId receipt maxAttempts := by
  intro request found
  obtain ⟨attempts, events⟩ := before request found
  obtain ⟨marking, emitted, recorded, counted, outcome⟩ :=
    record_spec found receipt maxAttempts nextAttemptAt
  rw [recorded] at after
  have held : (state.loop.outbox.mark requestId marking).get requestId =
      some (marking.apply request) := by
    rw [get_mark, if_pos rfl, found, Option.map_some]
  obtain ⟨more, settled⟩ := after (marking.apply request) held
  have pending : request.status = .pending := by
    by_contra ended
    rw [trackOf_last] at more
    simp only [Marking.apply, counted, Option.getD_some, Track.follow, if_true,
      if_neg ended] at more
    omega
  refine ⟨pending, fun ends => ?_⟩
  rcases outcome with ⟨-, goesOn, -⟩ | ⟨ended, -, -, event, -, same⟩
  · rw [ends] at goesOn; cases goesOn
  · by_contra closed
    have silent : emitted = state.loop.events := by
      rw [same]
      exact if_neg closed
    change settlementsOf emitted requestId = _ at settled
    have status : (marking.apply request).status ≠ .pending := ended
    rw [if_neg status, silent, events, if_pos pending] at settled
    cases settled

theorem Counted.stamped (counted : Counted state requestId) (traceparent : String)
    (drains : List (List String)) :
    Counted { state with
      drains
      loop := state.loop.stampTrace requestId traceparent } requestId := by
  intro request found
  dsimp only at found
  rw [stampTrace_get] at found
  obtain ⟨before, held, same⟩ := Option.map_eq_some_iff.mp found
  have facts := counted before held
  split at same
  · subst same; exact facts
  · subst same; exact facts

theorem Counted.unacked {depth : Nat} {request : OutboxRequest T P}
    (counted : Counted (state.stageOutboxAck depth request) requestId) :
    Counted state requestId := by
  rcases stageOutboxAck_spec state depth request with same | ⟨loop, log⟩
  · rwa [same] at counted
  · intro held found
    have facts := counted held (by rw [loop]; exact found)
    rw [loop, log, trackOf_last] at facts
    refine ⟨facts.1.trans ?_, facts.2⟩
    unfold Track.follow
    dsimp only
    split <;> rfl

theorem timely_of_lifecycle [LinearOrder T] [Inhabited P] {depth : Nat}
    {label : DispatchLabel T P} (before : Lifecycle state)
    (after : Lifecycle (nextDispatch depth state label)) : Timely state label := by
  cases label with
  | record requestId receipt maxAttempts nextAttemptAt =>
    exact fits_of_counted nextAttemptAt (before.counted requestId) (after.counted requestId)
  | send drain receipt maxAttempts nextAttemptAt traceparent =>
    intro requestId rest selected
    have counted := after.counted requestId
    dsimp only [nextDispatch, DispatchState.sendNext] at counted
    rw [selected] at counted
    dsimp only at counted
    refine (OutcomeFits.stamped traceparent (state.drains.set drain rest)).mp
      (fits_of_counted (some nextAttemptAt)
        ((before.counted requestId).stamped traceparent _) ?_)
    rcases concludeSend_spec _ depth requestId receipt maxAttempts nextAttemptAt with
      same | ⟨request, same⟩
    · rwa [same] at counted
    · rw [same] at counted
      exact counted.unacked
  | stage => trivial
  | select => trivial
  | abandon => trivial
  | restore => trivial
  | arrive => trivial
  | take => trivial
  | terminate => trivial
  | closeSession => trivial

end Lateness

section Runs

variable [LinearOrder T] [Zero T] [Inhabited P] (depth : Nat)

def stateAfter (labels : List (DispatchLabel T P)) : DispatchState T P :=
  (dispatch depth).exec (dispatch depth).init labels

theorem stateAfter_last (labels : List (DispatchLabel T P)) (label : DispatchLabel T P) :
    stateAfter depth (labels ++ [label]) = nextDispatch depth (stateAfter depth labels) label :=
  (dispatch depth).exec_append _ labels [label]

-- In every state of the run the register agrees with the history, and every step leaves the
-- requests that have ended as they are.
structure LivesUp (labels : List (DispatchLabel T P)) : Prop where
  states : ∀ earlier, earlier <+: labels → Lifecycle (stateAfter depth earlier)
  steps : ∀ earlier label, earlier ++ [label] <+: labels →
    Settled (stateAfter depth earlier) (stateAfter depth (earlier ++ [label]))

theorem stateAfter_kept (labels : List (DispatchLabel T P))
    (timely : ∀ earlier label, earlier ++ [label] <+: labels →
      Timely (stateAfter depth earlier) label) : Kept (stateAfter depth labels) := by
  induction labels using List.reverseRecOn with
  | nil =>
    refine ⟨fun requestId => ⟨rfl, rfl⟩, ?_, fun request listed => ?_⟩
    · intro earlier now requestIds initial
      have empty := List.prefix_nil.mp initial
      simp at empty
    · cases listed
  | append_singleton earlier label ih =>
    have kept := ih fun before last initial =>
      timely before last (initial.trans (List.prefix_append earlier [label]))
    rw [stateAfter_last]
    exact nextDispatch_kept kept depth label (timely earlier label List.prefix_rfl)

theorem livesUp_iff (labels : List (DispatchLabel T P)) :
    LivesUp depth labels ↔
      ∀ earlier label, earlier ++ [label] <+: labels →
        Timely (stateAfter depth earlier) label := by
  constructor
  · intro lives earlier label initial
    have after := lives.states _ initial
    rw [stateAfter_last] at after
    exact timely_of_lifecycle
      (lives.states earlier ((List.prefix_append earlier [label]).trans initial)) after
  · intro timely
    have kept : ∀ earlier, earlier <+: labels → Kept (stateAfter depth earlier) :=
      fun earlier initial => stateAfter_kept depth earlier fun before last start =>
        timely before last (start.trans initial)
    refine ⟨fun earlier initial => (kept earlier initial).lifecycle, ?_⟩
    intro earlier label initial
    rw [stateAfter_last]
    exact nextDispatch_settled
      (kept earlier ((List.prefix_append earlier [label]).trans initial)) depth label
      (timely earlier label initial)

def dispatchedThenFailed : List (DispatchLabel Int Unit) :=
  [.stage {
      destination := "https://example.test/hook"
      payload := ()
      capability := ""
      tokenRef := ""
      runId := "run"
      idempotencyKey := ""
      expectAck := false
      replyTo := ""
      traceparent := ""
      createdAt := 0
      drawn := "0123456789ab" },
    .record "outbox_0123456789ab" { ok := true } 5 none,
    .record "outbox_0123456789ab" { ok := false, retryable := true } 5 (some 60)]

theorem late_outcome_reopens : ¬ LivesUp 8 dispatchedThenFailed := by
  intro lives
  obtain ⟨later, found, same⟩ := lives.steps (dispatchedThenFailed.take 2) _ List.prefix_rfl
    "outbox_0123456789ab" _ rfl (by decide)
  cases found
  cases same

end Runs

end MonoidKernel.Outgoing
