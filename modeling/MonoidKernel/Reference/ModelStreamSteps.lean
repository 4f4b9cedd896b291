import MonoidKernel.Reference.ModelStreamReader

set_option autoImplicit false

namespace MonoidKernel.ModelStream

open Library.Heard (Accounts)
open LiveModelStreamBroker

variable {config : BrokerConfig} {root : String} {s : LiveModelStreamBroker}
  {published received : List LiveModelStreamFrame} {quiet : Bool} {n : Nat}

section Evict

theorem Following.evict_front {rootRunId : String} {ring : RootRing}
    {rest : List (String × RootRing)}
    (so : Following config root s published received quiet n)
    (rings : s.rings = (rootRunId, ring) :: rest) :
    Following config root (markRingEvicted config rootRunId ring { s with rings := rest }) published
      received quiet n := by
  have nodup := so.regular.rings
  rw [rings, List.map_cons, List.nodup_cons] at nodup
  have fewer : rest.Sublist s.rings := by rw [rings]; exact List.sublist_cons_self _ _
  have regular := markRingEvicted_regular config rootRunId ring so.regular fewer
  by_cases same : root = rootRunId
  · subst same
    have had : s.ring root = some ring := by simp [LiveModelStreamBroker.ring, rings]
    exact so.lost (markRingEvicted_lost config had (lookup_eq_none_of_notMem nodup.1)) regular
  · have others : rest.lookup root = s.ring root := by
      rw [LiveModelStreamBroker.ring, rings, List.lookup_cons, beq_false_of_ne same]
    exact so.elsewhere (markRingEvicted_elsewhere config _ _ so.regular so.mine others same) regular

theorem Following.evictRoots (rings : List (String × RootRing))
    (so : Following config root s published received quiet n) (same : s.rings = rings) :
    Following config root (evictRoots config rings s) published received quiet n := by
  induction rings generalizing s with
  | nil => exact so
  | cons entry rest ih =>
    obtain ⟨rootRunId, ring⟩ := entry
    unfold LiveModelStreamBroker.evictRoots
    split
    · exact ih (so.evict_front same) rfl
    · exact so

variable (config) in
theorem evictRoots_newest (front : List (String × RootRing)) {ring : RootRing}
    (regular : Regular s) (mine : Mine root s) (same : s.rings = front ++ [(root, ring)])
    (new : root ∉ front.map (·.1)) :
    Elsewhere root s (evictRoots config (front ++ [(root, ring)]) s) ∧
      Regular (evictRoots config (front ++ [(root, ring)]) s) := by
  induction front generalizing s with
  | nil =>
    have kept : evictRoots config ([] ++ [(root, ring)]) s = s := by
      have room := config.rootsPositive
      exact if_neg (by simp; omega)
    rw [kept]
    exact ⟨⟨rfl, le_rfl, le_rfl, le_rfl, rfl⟩, regular⟩
  | cons entry rest ih =>
    obtain ⟨rootRunId, other⟩ := entry
    rw [List.map_cons, List.mem_cons, not_or] at new
    rw [List.cons_append] at same ⊢
    unfold evictRoots
    split
    · have fewer : (rest ++ [(root, ring)]).Sublist s.rings := by
        rw [same]
        exact List.sublist_cons_self _ _
      have others : (rest ++ [(root, ring)]).lookup root = s.ring root := by
        rw [LiveModelStreamBroker.ring, same, List.lookup_cons, beq_false_of_ne new.1]
      have first := markRingEvicted_elsewhere config rootRunId other regular mine others new.1
      have regular' := markRingEvicted_regular config rootRunId other regular fewer
      have mine' : Mine root (markRingEvicted config rootRunId other
          { s with rings := rest ++ [(root, ring)] }) := by
        intro subscription found
        rw [first.client] at found
        exact mine subscription found
      obtain ⟨later, regular''⟩ := ih regular' mine' rfl new.2
      exact ⟨⟨later.ring.trans first.ring, first.serial.trans later.serial,
        first.eviction.trans later.eviction, first.epoch.trans later.epoch,
        later.client.trans first.client⟩, regular''⟩
    · exact ⟨⟨rfl, le_rfl, le_rfl, le_rfl, rfl⟩, regular⟩

theorem Following.dropRoot (so : Following config root s published received quiet n)
    (rootRunId : String) :
    Following config root (dropRoot config rootRunId s) published received quiet n := by
  unfold LiveModelStreamBroker.dropRoot
  split
  · exact so
  next ring found =>
    have fewer : (removeKey rootRunId s.rings).Sublist s.rings := List.filter_sublist
    have regular := markRingEvicted_regular config rootRunId ring so.regular fewer
    by_cases same : root = rootRunId
    · subst same
      have gone : (removeKey root s.rings).lookup root = none := by
        rw [lookup_removeKey, if_pos rfl]
      exact so.lost (markRingEvicted_lost config found gone) regular
    · have others : (removeKey rootRunId s.rings).lookup root = s.ring root := by
        rw [lookup_removeKey, if_neg same]
        rfl
      exact so.elsewhere (markRingEvicted_elsewhere config _ _ so.regular so.mine
        others same) regular

end Evict

section Publish

variable {rootRunId : String}

theorem not_mem_of_ring_none (missing : s.ring rootRunId = none) :
    rootRunId ∉ s.rings.map (·.1) := by
  intro member
  obtain ⟨entry, listed, same⟩ := List.mem_map.mp member
  have other := List.lookup_eq_none_iff.mp missing entry listed
  simp [same] at other

def withRing (config : BrokerConfig) (rootRunId : String) (s : LiveModelStreamBroker) :
    LiveModelStreamBroker :=
  { s with
    ringSerial := s.ringSerial + 1
    rings := s.rings ++ [(rootRunId, ⟨generationOf config (s.ringSerial + 1), [], 0, 0⟩)]
    evictionEpochs := removeKey rootRunId s.evictionEpochs }

variable (config) in
theorem withRing_regular (regular : Regular s) (missing : s.ring rootRunId = none) :
    Regular (withRing config rootRunId s) := by
  refine ⟨?_, removeKey_nodup regular.epochs, ?_⟩
  · unfold withRing
    rw [List.map_append]
    exact regular.rings.append (List.nodup_singleton _)
      (List.disjoint_singleton.mpr (not_mem_of_ring_none missing))
  · exact fun entry member => regular.past entry (List.filter_sublist.subset member)

theorem putLast_regular (regular : Regular s) (ring : RootRing) :
    Regular { s with rings := putLast rootRunId ring s.rings } :=
  ⟨putLast_nodup regular.rings, regular.epochs, regular.past⟩

theorem noticeRing_other (generation : String) {subscription : LiveModelStreamSubscription}
    (other : subscription.rootRunId ≠ rootRunId) :
    noticeRing rootRunId generation subscription = subscription := by
  unfold noticeRing
  rw [if_neg fun noticed => other noticed.2]

theorem Following.ringLocked_other (so : Following config root s published received quiet n)
    (other : root ≠ rootRunId) :
    Following config root (ringLocked config rootRunId s).1 published received quiet n := by
  unfold ringLocked
  split
  next ring found =>
    refine so.elsewhere ⟨?_, le_rfl, le_rfl, le_rfl, rfl⟩ (putLast_regular so.regular ring)
    exact (lookup_putLast _ _ _ _).trans (if_neg other)
  next missing =>
    have added : Elsewhere root s (withRing config rootRunId s) := by
      refine ⟨?_, Nat.le_succ _, le_rfl, ?_, rfl⟩
      · unfold withRing LiveModelStreamBroker.ring
        rw [List.lookup_append, List.lookup_cons, beq_false_of_ne other]
        simp
      · unfold withRing idleEpoch
        dsimp only
        rw [lookup_removeKey, if_neg other]
    have trimmed := (so.elsewhere added
      (withRing_regular config so.regular missing)).evictRoots _ rfl
    refine trimmed.elsewhere ⟨rfl, le_rfl, le_rfl, le_rfl, ?_⟩
      ⟨trimmed.regular.rings, trimmed.regular.epochs, trimmed.regular.past⟩
    change Option.map _ _ = _
    cases found : (LiveModelStreamBroker.evictRoots config (withRing config rootRunId s).rings
        (withRing config rootRunId s)).subscriptions .client with
    | none => exact congrArg _ found
    | some subscription =>
      have apart : subscription.rootRunId ≠ rootRunId := by
        rw [trimmed.mine subscription found]
        exact other
      have unchanged := noticeRing_other (generationOf config (s.ringSerial + 1)) apart
      exact (congrArg _ found).trans (congrArg some unchanged)

theorem noticeRing_open {generation : String} {subscription : LiveModelStreamSubscription}
    (mine : subscription.rootRunId = root) (waits : subscription.pending = true)
    (opened : subscription.closed = false) :
    noticeRing root generation subscription =
      { subscription with
        pending := false
        observedGeneration := some generation
        cursor := if subscription.adoptInitialGeneration then ⟨generation, 0⟩
          else subscription.cursor
        adoptInitialGeneration := false } := by
  unfold noticeRing
  rw [if_pos ⟨waits, mine⟩]
  cases adopts : subscription.adoptInitialGeneration <;> simp [opened]

theorem Following.withRing {s' : LiveModelStreamBroker}
    (so : Following config root s published received quiet n) (missing : s.ring root = none)
    (new : s'.ring root = some ⟨generationOf config (s.ringSerial + 1), [], 0, 0⟩)
    (serial : s.ringSerial + 1 ≤ s'.ringSerial) (eviction : s.evictionSerial ≤ s'.evictionSerial)
    (client : s'.subscriptions .client = (s.subscriptions .client).map
      (noticeRing root (generationOf config (s.ringSerial + 1))))
    (regular : Regular s') : Following config root s' published received quiet n := by
  have fresh : ∀ frame ∈ published,
      frame.cursor.generation ≠ generationOf config (s.ringSerial + 1) :=
    fun frame member => (so.rooted.issued frame member).ne_next
  have issued : Issued config s'.ringSerial (generationOf config (s.ringSerial + 1)) :=
    ⟨s.ringSerial + 1, by omega, serial, rfl⟩
  have all : (beforeRing (generationOf config (s.ringSerial + 1)) published).length =
      published.length := by rw [beforeRing_fresh fresh]
  have bound := so.bound
  refine ⟨regular, ?_, ⟨so.rooted.calls, fun frame member =>
    (so.rooted.issued frame member).mono (by omega), so.rooted.distinct, ?_⟩, so.accounts, ?_, ?_,
    so.fresh, so.quiet⟩
  · intro subscription found
    rw [client] at found
    obtain ⟨before, there, rfl⟩ := Option.map_eq_some_iff.mp found
    unfold noticeRing
    dsimp only
    repeat' split
    all_goals exact so.mine before there
  · intro ring found
    cases new.symm.trans found
    exact ⟨Kept.fresh config fresh, issued⟩
  · intro subscription found opened
    rw [client] at found
    obtain ⟨before, there, rfl⟩ := Option.map_eq_some_iff.mp found
    have open' : before.closed = false := by
      unfold noticeRing at opened
      dsimp only at opened
      repeat' split at opened
      all_goals exact opened
    have follows := so.follows before there open'
    rw [noticeRing_open (so.mine before there) (follows.waits missing) open']
    have stands : Stands (generationOf config (s.ringSerial + 1)) published n
        (if before.adoptInitialGeneration then ⟨generationOf config (s.ringSerial + 1), 0⟩
          else before.cursor) := by
      unfold Stands
      cases adopts : before.adoptInitialGeneration with
      | true =>
        have := follows.adopts adopts
        simp [all, this]
      | false =>
        rcases follows.known adopts with known | ⟨before', default⟩
        · simp only [Bool.false_eq_true, if_false, if_neg known.ne_next]
          omega
        · have empty : published = [] := by
            rw [List.eq_nil_iff_forall_not_mem]
            intro frame member
            obtain ⟨k, low, high, _⟩ := so.rooted.issued frame member
            omega
          rw [empty, List.length_nil] at bound
          simp only [Bool.false_eq_true, if_false, default, before', empty, beforeRing]
          simp [generationOf]
          omega
    have settled : Known config root s'.ringSerial (if before.adoptInitialGeneration
        then (⟨generationOf config (s.ringSerial + 1), 0⟩ : LiveModelStreamCursor)
        else before.cursor).generation := by
      cases adopts : before.adoptInitialGeneration with
      | true => exact .inr issued
      | false =>
        rcases follows.known adopts with known | ⟨_, default⟩
        · exact known.mono (by omega)
        · exact .inr ⟨1, le_rfl, by omega, by simp [default, generationOf]⟩
    refine ⟨follows.registered, ?_, ?_, ?_, fun adopts => (by cases adopts), fun _ => .inl settled⟩
    · intro ring found
      cases new.symm.trans found
      exact ⟨rfl, rfl, stands⟩
    · intro none; rw [new] at none; cases none
    · intro none; rw [new] at none; cases none
  · intro cursor last
    have remembers := so.remembers cursor last
    refine ⟨?_, ?_, fun idle => (remembers.past idle).trans eviction,
      remembers.known.mono (by omega)⟩
    · intro ring found
      cases new.symm.trans found
      unfold Stands
      rw [if_neg remembers.known.ne_next]
      dsimp only
      omega
    · intro none
      rw [new] at none
      cases none

theorem Following.ringLocked (so : Following config root s published received quiet n) :
    Following config root (ringLocked config root s).1 published received quiet n ∧
      (ringLocked config root s).1.ring root = some (ringLocked config root s).2 := by
  unfold LiveModelStreamBroker.ringLocked
  split
  next ring found =>
    have same : LiveModelStreamBroker.ring { s with rings := putLast root ring s.rings } root =
        some ring :=
      (lookup_putLast _ _ _ _).trans (if_pos rfl)
    exact ⟨so.elsewhere ⟨same.trans found.symm, le_rfl, le_rfl, le_rfl, rfl⟩
      (putLast_regular so.regular ring), same⟩
  next missing =>
    have regular := withRing_regular config so.regular missing
    obtain ⟨trimmed, regular'⟩ := evictRoots_newest config s.rings regular so.mine rfl
      (not_mem_of_ring_none missing)
    have new : (ModelStream.withRing config root s).ring root =
        some ⟨generationOf config (s.ringSerial + 1), [], 0, 0⟩ := by
      unfold ModelStream.withRing LiveModelStreamBroker.ring
      rw [List.lookup_append, show s.rings.lookup root = none from missing]
      simp
    have new' := trimmed.ring.trans new
    refine ⟨so.withRing missing new' trimmed.serial trimmed.eviction ?_ ?_, new'⟩
    · exact congrArg (Option.map _) trimmed.client
    · exact ⟨regular'.rings, regular'.epochs, regular'.past⟩

variable {kind : LiveModelStreamKind} {context : ModelStreamContext} {values : FrameValues}

theorem Following.publish_other (so : Following config root s published received quiet n)
    (kind : LiveModelStreamKind) (values : FrameValues) (other : root ≠ context.rootRunId) :
    Following config root (publish config kind context values s).1 published received quiet n := by
  have ringed := so.ringLocked_other other
  unfold LiveModelStreamBroker.publish
  dsimp only
  refine ringed.elsewhere ⟨?_, le_rfl, le_rfl, le_rfl, rfl⟩ (putLast_regular ringed.regular _)
  exact (lookup_putLast _ _ _ _).trans (if_neg other)

theorem Rooted.fresh_cursor {ring : RootRing} (rooted : Rooted config root s published)
    (found : s.ring root = some ring) :
    (⟨ring.generation, ring.latestSequence + 1⟩ : LiveModelStreamCursor) ∉
      published.map (·.cursor) := by
  intro member
  obtain ⟨frame, listed, same⟩ := List.mem_map.mp member
  obtain ⟨kept, _⟩ := rooted.kept ring found
  rw [← before_since ring.generation published, List.mem_append] at listed
  rcases listed with before | since
  · have other := List.mem_takeWhile_imp before
    simp [same] at other
  · have high := (kept.numbered.number_le since).2
    rw [← kept.latest, LiveModelStreamFrame.sequence, same] at high
    dsimp only at high
    omega

theorem Following.publish (so : Following config root s published received quiet n)
    (values : FrameValues) (call : kind ≠ .reset) (same : context.rootRunId = root) :
    Following config root (publish config kind context values s).1
        (published ++ [(publish config kind context values s).2]) received false n ∧
      (publish config kind context values s).2.rootRunId = root := by
  obtain ⟨ringed, found⟩ := so.ringLocked
  unfold LiveModelStreamBroker.publish
  rw [same]
  generalize LiveModelStreamBroker.ringLocked config root s = locked at ringed found
  obtain ⟨s, ring⟩ := locked
  dsimp only at ringed found ⊢
  generalize pushed : (LiveModelStreamFrame.mk kind ⟨ring.generation, ring.latestSequence + 1⟩ root
    (some context) (some values) false none none none) = frame
  have placed : frame.cursor = ⟨ring.generation, ring.latestSequence + 1⟩ := by rw [← pushed]
  have now : LiveModelStreamBroker.ring
      { s with rings := putLast root (ring.push config frame) s.rings } root =
      some (ring.push config frame) :=
    (lookup_putLast _ _ _ _).trans (if_pos rfl)
  obtain ⟨kept, issued⟩ := ringed.rooted.kept ring found
  have before : beforeRing ring.generation (published ++ [frame]) =
      beforeRing ring.generation published := beforeRing_append (by rw [placed])
  have stands : ∀ cursor, Stands ring.generation published n cursor →
      Stands (ring.push config frame).generation (published ++ [frame]) n cursor := by
    intro cursor stood
    unfold Stands
    rw [push_generation, before]
    exact stood
  refine ⟨⟨putLast_regular ringed.regular _, ringed.mine, ⟨?_, ?_, ?_, ?_⟩, ?_, ?_,
    ?_, ringed.fresh,
    nofun⟩, rfl⟩
  · rw [List.forall_mem_append]
    exact ⟨ringed.rooted.calls, by rw [← pushed]; simpa using call⟩
  · rw [List.forall_mem_append]
    refine ⟨ringed.rooted.issued, ?_⟩
    rw [List.forall_mem_singleton, placed]
    exact issued
  · rw [List.map_append, List.map_singleton, placed]
    exact ringed.rooted.distinct.append (List.nodup_singleton _)
      (List.disjoint_singleton.mpr (ringed.rooted.fresh_cursor found))
  · intro other there
    cases now.symm.trans there
    exact ⟨kept.push config placed, by rwa [push_generation]⟩
  · rw [List.map_append]
    exact ringed.accounts.grown _
  · intro subscription there opened
    have follows := ringed.follows subscription there opened
    obtain ⟨observed, settled, stood⟩ := follows.observes ring found
    refine ⟨follows.registered, ?_, ?_, ?_, ?_, follows.known⟩
    · intro other there
      cases now.symm.trans there
      exact ⟨by rwa [push_generation], settled, stands _ stood⟩
    · intro none; rw [now] at none; cases none
    · intro none; rw [now] at none; cases none
    · intro adopts; rw [settled] at adopts; cases adopts
  · intro cursor last
    have remembers := ringed.remembers cursor last
    refine ⟨?_, ?_, remembers.past, remembers.known⟩
    · intro other there
      cases now.symm.trans there
      exact stands _ (remembers.stands ring found)
    · intro none; rw [now] at none; cases none

end Publish

section Others

variable {number : Nat}

theorem setSubscription_other (subscription : LiveModelStreamSubscription) :
    (s.setSubscription (.other number) subscription).subscriptions .client =
      s.subscriptions .client := by
  have apart : Reader.client ≠ .other number := Reader.noConfusion
  unfold setSubscription
  dsimp only
  rw [Function.update_of_ne apart]

theorem Following.setSubscription_other
    (so : Following config root s published received quiet n)
    (subscription : LiveModelStreamSubscription) :
    Following config root (s.setSubscription (.other number) subscription) published received quiet
      n :=
  so.elsewhere ⟨rfl, le_rfl, le_rfl, le_rfl, ModelStream.setSubscription_other subscription⟩
    ⟨so.regular.rings, so.regular.epochs, so.regular.past⟩

theorem rememberEvictionEpoch_elsewhere (regular : Regular s) (rootRunId : String) :
    Elsewhere root s (rememberEvictionEpoch config rootRunId (s.idleEpoch rootRunId) s) := by
  refine ⟨rfl, le_rfl, le_rfl, ?_, rfl⟩
  by_cases same : root = rootRunId
  · rw [same, rememberEvictionEpoch_same]
  · exact rememberEvictionEpoch_other config regular _ same

theorem Following.rememberEvictionEpoch (so : Following config root s published received quiet n)
    (rootRunId : String) :
    Following config root (rememberEvictionEpoch config rootRunId (s.idleEpoch rootRunId) s)
      published received quiet n :=
  so.elsewhere (rememberEvictionEpoch_elsewhere so.regular rootRunId)
    (rememberEvictionEpoch_regular config so.regular rootRunId (so.regular.idleEpoch_le rootRunId))

theorem Following.close_other (so : Following config root s published received quiet n) :
    Following config root (closeSubscription (.other number) s) published received quiet n := by
  unfold closeSubscription
  split
  · exact so
  · exact so.setSubscription_other _

theorem Following.poll_other (so : Following config root s published received quiet n)
    (limit : Option Nat) :
    Following config root (poll config (.other number) limit s).1 published received quiet n := by
  unfold poll
  split
  · exact so
  split
  · exact so
  next subscription found =>
    split
    · exact so
    split
    · dsimp only
      unfold collectMissingRing
      split
      · exact so
      · exact (so.rememberEvictionEpoch subscription.rootRunId).setSubscription_other _
    · exact so.setSubscription_other _

end Others

section Client

@[simp] theorem setSubscription_client (subscription : LiveModelStreamSubscription) :
    (s.setSubscription .client subscription).subscriptions .client = some subscription := by
  unfold setSubscription
  dsimp only
  rw [Function.update_self]

variable {subscription : LiveModelStreamSubscription}

theorem Following.setSubscription (so : Following config root s published received quiet n)
    (mine : subscription.rootRunId = root)
    (follows : subscription.closed = false → Follows config root s published n subscription) :
    Following config root (s.setSubscription .client subscription) published received quiet n := by
  have rooted := so.rooted
  refine ⟨⟨so.regular.rings, so.regular.epochs, so.regular.past⟩, ?_,
    ⟨rooted.calls, rooted.issued, rooted.distinct, rooted.kept⟩, so.accounts, ?_, ?_, so.fresh,
    so.quiet⟩
  · intro other found
    rw [setSubscription_client] at found
    cases found
    exact mine
  · intro other found opened
    rw [setSubscription_client] at found
    cases found
    have now := follows opened
    exact ⟨now.registered, now.observes, now.waits, now.told, now.adopts, now.known⟩
  · intro cursor last
    have remembers := so.remembers cursor last
    exact ⟨remembers.stands, remembers.acknowledges, remembers.past, remembers.known⟩

theorem Following.close (so : Following config root s published received quiet n) :
    Following config root (closeSubscription .client s) published received quiet n := by
  unfold closeSubscription
  split
  · exact so
  next subscription found => exact so.setSubscription (so.mine subscription found) nofun

-- A subscription without a cursor finds all that the root has published in its ring, or finds no
-- ring and either nothing was published or the loss is still known.
def Complete (root : String) (s : LiveModelStreamBroker) (published : List LiveModelStreamFrame) :
    Prop :=
  match s.ring root with
  | some ring => ∀ frame ∈ published, frame.cursor.generation = ring.generation
  | none => published = [] ∨ (s.evictionEpochs.lookup root).isSome = true

theorem Following.subscribe (so : Following config root s published received quiet n)
    (complete : received = [] → Complete root s published) :
    Following config root
      (subscribe config .client root (received.getLast?.map (·.cursor)) s) published received quiet
      n := by
  unfold LiveModelStreamBroker.subscribe
  refine so.setSubscription rfl fun _ => ?_
  unfold Complete at complete
  cases last : received.getLast?.map (·.cursor) with
  | some cursor =>
    have remembers := so.remembers cursor last
    cases found : s.ring root with
    | some ring =>
      have issued := (so.rooted.kept ring found).2
      refine ⟨rfl, ?_, ?_, ?_, nofun, fun _ => .inl remembers.known⟩
      · intro other there
        cases found.symm.trans there
        exact ⟨rfl, rfl, remembers.stands ring found⟩
      · intro none; rw [found] at none; cases none
      · intro none; rw [found] at none; cases none
    | none =>
      refine ⟨rfl, ?_, fun _ => rfl, ?_, nofun, fun _ => .inl remembers.known⟩
      · intro ring there; rw [found] at there; cases there
      · intro _ _ acknowledged
        have same : cursor = idleCursor config s root := by simpa using acknowledged
        rcases remembers.acknowledges found (by rw [same]; rfl) with all | earlier
        · exact all
        · rw [same] at earlier
          exact absurd earlier (lt_irrefl _)
  | none =>
    have empty : received = [] := by simpa using last
    have complete := complete empty
    have zero := so.fresh empty
    cases found : s.ring root with
    | some ring =>
      rw [found] at complete
      dsimp only at complete
      have issued := (so.rooted.kept ring found).2
      refine ⟨rfl, ?_, ?_, ?_, nofun, fun _ => .inl (.inr issued)⟩
      · intro other there
        cases found.symm.trans there
        refine ⟨rfl, rfl, ?_⟩
        have before : beforeRing ring.generation published = [] := by
          unfold beforeRing
          cases published with
          | nil => rfl
          | cons frame rest => simp [complete frame List.mem_cons_self]
        unfold Stands
        simp [before, zero]
      · intro none; rw [found] at none; cases none
      · intro none; rw [found] at none; cases none
    | none =>
      rw [found] at complete
      dsimp only at complete
      refine ⟨rfl, ?_, fun _ => rfl, ?_, ?_, ?_⟩
      · intro ring there; rw [found] at there; cases there
      · intro _ _ unknown
        rcases complete with nothing | known
        · rw [nothing, zero]; rfl
        · simp [known] at unknown
      · intro awaits
        rcases complete with nothing | known
        · rw [nothing, zero]; rfl
        · simp [known] at awaits
      · intro _
        by_cases none : s.ringSerial = 0
        · exact .inr ⟨none, rfl⟩
        · exact .inl (.inr ⟨1, le_rfl, by omega, rfl⟩)

theorem Following.receives (so : Following config root s published received quiet n)
    {frames : List LiveModelStreamFrame} (cursor : LiveModelStreamCursor) {m : Nat}
    (mine : subscription.rootRunId = root) (forward : n ≤ m)
    (still : frames = [] → m = n ∧ n = published.length)
    (accounts : Accounts (published.map (delivered config)) ((received ++ frames).map hear) m)
    (last : frames ≠ [] → frames.getLast?.map (·.cursor) = some cursor)
    (follows : Follows config root s published m subscription)
    (remembers : Remembers config root s published m cursor) :
    Following config root (s.setSubscription .client subscription) published (received ++ frames)
      (quiet || frames.isEmpty) m := by
  have bound := accounts.le_length
  rw [List.length_map] at bound
  have rooted := so.rooted
  refine ⟨⟨so.regular.rings, so.regular.epochs, so.regular.past⟩, ?_,
    ⟨rooted.calls, rooted.issued, rooted.distinct, rooted.kept⟩, accounts, ?_, ?_, ?_, ?_⟩
  · intro other found
    rw [setSubscription_client] at found
    cases found
    exact mine
  · intro other found _
    rw [setSubscription_client] at found
    cases found
    exact ⟨follows.registered, follows.observes, follows.waits, follows.told, follows.adopts,
      follows.known⟩
  · intro newest ending
    have remembers' : Remembers config root s published m newest := by
      by_cases none : frames = []
      · rw [none, List.append_nil] at ending
        rw [(still none).1]
        exact so.remembers newest ending
      · rw [List.getLast?_append_of_ne_nil _ none, last none] at ending
        cases ending
        exact remembers
    exact ⟨remembers'.stands, remembers'.acknowledges, remembers'.past, remembers'.known⟩
  · intro none
    obtain ⟨before, after⟩ := List.append_eq_nil_iff.mp none
    rw [(still after).1, so.fresh before]
  · intro quiet'
    rcases Bool.or_eq_true _ _ ▸ quiet' with already | empty
    · have := so.quiet already; omega
    · have := still (List.isEmpty_iff.mp empty)
      omega

theorem Following.poll (so : Following config root s published received quiet n)
    (found : s.subscriptions .client = some subscription) (opened : subscription.closed = false)
    {limit : Option Nat} (positive : limit ≠ some 0) :
    ∃ frames m, (poll config .client limit s).2 = some frames ∧
      Following config root (poll config .client limit s).1 published (received ++ frames)
        (quiet || frames.isEmpty) m := by
  have follows := so.follows subscription found opened
  have mine := so.mine subscription found
  unfold LiveModelStreamBroker.poll
  rw [if_neg positive, found]
  dsimp only
  rw [if_neg (by simp [opened]), mine]
  cases ringed : s.ring root with
  | none =>
    dsimp only
    unfold collectMissingRing
    split
    next untold =>
      refine ⟨[], n, rfl, ?_⟩
      have all := follows.told ringed untold.1 (by simpa using untold.2)
      rw [List.append_nil]
      exact ⟨so.regular, so.mine, so.rooted, so.accounts, so.follows, so.remembers, so.fresh,
        fun _ => all⟩
    next told =>
      have idle := so.rememberEvictionEpoch root
      have gone : (LiveModelStreamBroker.rememberEvictionEpoch config root (s.idleEpoch root)
          s).ring root = none := ringed
      have epoch : (LiveModelStreamBroker.rememberEvictionEpoch config root (s.idleEpoch root)
          s).idleEpoch root = s.idleEpoch root := rememberEvictionEpoch_same config root _
      have place := so.regular.idleEpoch_le root
      refine ⟨_, published.length, rfl, ?_⟩
      dsimp only
      rw [mine]
      refine idle.receives (idleCursor config s root) rfl so.bound
        (fun none => by cases none) ?_ (fun _ => rfl)
        ⟨follows.registered, ?_, fun _ => rfl, fun _ _ _ => rfl, (fun none => by cases none),
          fun _ => .inl (.inl rfl)⟩ ⟨?_, fun _ _ => .inl rfl, fun _ => place, .inl rfl⟩
      · rw [List.map_append]
        exact .gap so.accounts so.bound (by rw [List.length_map])
      · intro ring there; rw [gone] at there; cases there
      · intro ring there; rw [gone] at there; cases there
  | some ring =>
    obtain ⟨observed, settled, stands⟩ := follows.observes ring ringed
    obtain ⟨kept, issued⟩ := so.rooted.kept ring ringed
    obtain ⟨cursor, changed, collected, forward, still⟩ :=
      collect_spec kept so.rooted.calls subscription stands so.accounts positive
    refine ⟨(collect ring limit subscription).2,
      (beforeRing ring.generation published).length + cursor.sequence, rfl, ?_⟩
    dsimp only
    rw [changed]
    have placed : Stands ring.generation published
        ((beforeRing ring.generation published).length + cursor.sequence) cursor := by
      rw [Stands, if_pos collected.generation]
    have known : Known config root s.ringSerial cursor.generation := by
      rw [collected.generation]
      exact .inr issued
    refine so.receives cursor mine forward still collected.accounts collected.last
      ⟨follows.registered, ?_, ?_, ?_, (fun none => by cases none), fun _ => .inl known⟩
        ⟨?_, ?_, ?_, known⟩
    · intro other there
      cases ringed.symm.trans there
      exact ⟨rfl, rfl, placed⟩
    · intro none; rw [ringed] at none; cases none
    · intro none; rw [ringed] at none; cases none
    · intro other there
      cases ringed.symm.trans there
      exact placed
    · intro none; rw [ringed] at none; cases none
    · intro idle
      obtain ⟨k, _, _, same⟩ := issued
      rw [collected.generation, same] at idle
      exact absurd idle (generationOf_ne_idle config k root)

end Client

end MonoidKernel.ModelStream
