import MonoidKernel.Library.Machine
import MonoidKernel.Reference.ModelStreamSteps
import Mathlib.Algebra.Ring.Nat

set_option autoImplicit false

namespace MonoidKernel.ModelStream

open Library
open Library.Heard (GapsAnnounced EndAnnounced)
open LiveModelStreamBroker

section Bounds

variable (config : BrokerConfig)

structure RootRing.Bounded (ring : RootRing) : Prop where
  counted : ring.byteCount = (ring.frames.map (·.2)).sum
  frames : ring.frames.length ≤ config.maxFrames
  bytes : ring.byteCount ≤ config.maxBytes

structure Bounded (s : LiveModelStreamBroker) : Prop where
  roots : s.rings.length ≤ config.maxRoots
  epochs : s.evictionEpochs.length ≤ config.maxRoots
  rings : ∀ entry ∈ s.rings, entry.2.Bounded config

theorem discardOldest_bounded (frames : List (LiveModelStreamFrame × Nat)) (byteCount : Nat)
    (counted : byteCount = (frames.map (·.2)).sum) :
    (discardOldest config frames byteCount).2 =
        ((discardOldest config frames byteCount).1.map (·.2)).sum ∧
      (discardOldest config frames byteCount).1.length ≤ config.maxFrames ∧
      (discardOldest config frames byteCount).2 ≤ config.maxBytes := by
  induction frames generalizing byteCount with
  | nil =>
    refine ⟨counted, Nat.zero_le _, ?_⟩
    rw [show (discardOldest config [] byteCount).2 = byteCount from rfl, counted]
    exact Nat.zero_le _
  | cons entry rest ih =>
    rw [List.map_cons, List.sum_cons] at counted
    unfold discardOldest
    split
    · exact ih _ (by omega)
    next fits =>
      rw [not_or, not_lt, not_lt] at fits
      exact ⟨by simpa using counted, by simpa using fits.1, fits.2⟩

variable {config} {s : LiveModelStreamBroker}

theorem RootRing.Bounded.push {ring : RootRing} (bounded : ring.Bounded config)
    (frame : LiveModelStreamFrame) : (ring.push config frame).Bounded config := by
  unfold RootRing.push
  dsimp only
  split
  · obtain ⟨counted, frames, bytes⟩ := discardOldest_bounded config
      (ring.frames ++ [(fitted config frame)]) (ring.byteCount + (fitted config frame).2)
      (by simp [bounded.counted])
    exact ⟨counted, frames, bytes⟩
  · exact ⟨bounded.counted, bounded.frames, bounded.bytes⟩

theorem popOldest_length {A : Type} (limit : Nat) (entries : List (String × A)) :
    (popOldest limit entries).length ≤ limit := by
  unfold popOldest
  rw [List.length_drop]
  omega

theorem putLast_mem {A : Type} {key : String} {value : A} {entries : List (String × A)}
    {entry : String × A} (member : entry ∈ putLast key value entries) :
    entry ∈ entries ∨ entry = (key, value) := by
  rcases List.mem_append.mp member with old | new
  · exact .inl (List.filter_sublist.subset old)
  · exact .inr (List.mem_singleton.mp new)

theorem putLast_length {A : Type} {key : String} (value : A) {entries : List (String × A)}
    (present : key ∈ entries.map (·.1)) : (putLast key value entries).length ≤ entries.length := by
  obtain ⟨entry, member, same⟩ := List.mem_map.mp present
  have fewer : (removeKey key entries).length < entries.length :=
    List.length_filter_lt_length_iff_exists.mpr ⟨entry, member, by simp [same]⟩
  unfold putLast
  rw [List.length_append]
  exact fewer

structure Contained (config : BrokerConfig) (s : LiveModelStreamBroker) : Prop where
  epochs : s.evictionEpochs.length ≤ config.maxRoots
  rings : ∀ entry ∈ s.rings, entry.2.Bounded config

theorem markRingEvicted_contained {rest : List (String × RootRing)} (rootRunId : String)
    (ring : RootRing) (rings : ∀ entry ∈ rest, entry.2.Bounded config) :
    Contained config (markRingEvicted config rootRunId ring { s with rings := rest }) :=
  ⟨popOldest_length _ _, rings⟩

theorem evictRoots_bounded (rings : List (String × RootRing)) (contained : Contained config s)
    (same : s.rings = rings) : Bounded config (evictRoots config rings s) := by
  induction rings generalizing s with
  | nil => exact ⟨by simp [evictRoots, same], contained.epochs, contained.rings⟩
  | cons entry rest ih =>
    obtain ⟨rootRunId, ring⟩ := entry
    have inner := contained.rings
    rw [same, List.forall_mem_cons] at inner
    unfold evictRoots
    split
    · exact ih (markRingEvicted_contained rootRunId ring inner.2) rfl
    next room => exact ⟨by simpa [same] using room, contained.epochs, contained.rings⟩

theorem evictRoots_last (front : List (String × RootRing)) (entry : String × RootRing)
    (same : s.rings = front ++ [entry]) :
    entry ∈ (evictRoots config (front ++ [entry]) s).rings := by
  induction front generalizing s with
  | nil =>
    have room := config.rootsPositive
    have kept : evictRoots config ([] ++ [entry]) s = s := if_neg (by simp; omega)
    rw [kept, same]
    simp
  | cons first rest ih =>
    rw [List.cons_append]
    unfold evictRoots
    split
    · exact ih rfl
    · rw [same]; simp

theorem ringLocked_bounded (rootRunId : String) (bounded : Bounded config s) :
    Bounded config (ringLocked config rootRunId s).1 ∧
      (ringLocked config rootRunId s).2.Bounded config ∧
      rootRunId ∈ (ringLocked config rootRunId s).1.rings.map (·.1) := by
  unfold ringLocked
  split
  next ring found =>
    obtain ⟨earlier, later, split, _⟩ := List.lookup_eq_some_iff.mp found
    have listed : (rootRunId, ring) ∈ s.rings := by rw [split]; simp
    have held := bounded.rings _ listed
    refine ⟨⟨?_, bounded.epochs, ?_⟩, held, ?_⟩
    · exact (putLast_length ring (List.mem_map_of_mem listed)).trans bounded.roots
    · intro entry member
      rcases putLast_mem member with old | new
      · exact bounded.rings entry old
      · rw [new]; exact held
    · simp [putLast]
  next missing =>
    have new : (RootRing.mk (generationOf config (s.ringSerial + 1)) [] 0 0).Bounded config :=
      ⟨rfl, Nat.zero_le _, Nat.zero_le _⟩
    have contained : Contained config (withRing config rootRunId s) := by
      refine ⟨(List.length_filter_le _ _).trans bounded.epochs, ?_⟩
      unfold withRing
      rw [List.forall_mem_append]
      exact ⟨bounded.rings, by simpa using new⟩
    obtain ⟨roots, epochs, rings⟩ := evictRoots_bounded _ contained rfl
    refine ⟨⟨roots, epochs, rings⟩, new, ?_⟩
    exact List.mem_map_of_mem (evictRoots_last s.rings _ rfl)

theorem publish_bounded (kind : LiveModelStreamKind) (context : ModelStreamContext)
    (values : FrameValues) (bounded : Bounded config s) :
    Bounded config (publish config kind context values s).1 := by
  obtain ⟨locked, ring, present⟩ := ringLocked_bounded context.rootRunId bounded
  unfold publish
  dsimp only
  refine ⟨(putLast_length _ present).trans locked.roots, locked.epochs, ?_⟩
  intro entry member
  rcases putLast_mem member with old | new
  · exact locked.rings entry old
  · rw [new]; exact ring.push _

theorem dropRoot_bounded (rootRunId : String) (bounded : Bounded config s) :
    Bounded config (dropRoot config rootRunId s) := by
  unfold dropRoot
  split
  · exact bounded
  next ring _ =>
    have inner : ∀ entry ∈ removeKey rootRunId s.rings, entry.2.Bounded config :=
      fun entry member => bounded.rings entry (List.filter_sublist.subset member)
    obtain ⟨epochs, rings⟩ := markRingEvicted_contained (s := s) rootRunId ring inner
    exact ⟨(List.length_filter_le _ _).trans bounded.roots, epochs, rings⟩

theorem closeSubscription_bounded (reader : Reader) (bounded : Bounded config s) :
    Bounded config (closeSubscription reader s) := by
  unfold closeSubscription
  split
  · exact bounded
  · exact ⟨bounded.roots, bounded.epochs, bounded.rings⟩

theorem poll_bounded (reader : Reader) (limit : Option Nat) (bounded : Bounded config s) :
    Bounded config (poll config reader limit s).1 := by
  unfold poll
  split
  · exact bounded
  split
  · exact bounded
  split
  · exact bounded
  split
  · dsimp only
    unfold collectMissingRing
    split
    · exact bounded
    · exact ⟨bounded.roots, popOldest_length _ _, bounded.rings⟩
  · exact ⟨bounded.roots, bounded.epochs, bounded.rings⟩

end Bounds

section Watch

variable (config : BrokerConfig) (root : String)

-- The broker, everything published, what the client of the root got, and whether it has polled
-- without a frame since the last publication of the root.
structure World where
  broker : LiveModelStreamBroker
  published : List LiveModelStreamFrame
  received : List LiveModelStreamFrame
  quiet : Bool

inductive StreamStep where
  | publish (kind : LiveModelStreamKind) (call : kind ≠ .reset) (context : ModelStreamContext)
      (values : FrameValues)
  | dropRoot (rootRunId : String)
  | otherSubscribes (number : Nat) (rootRunId : String)
      (afterCursor : Option LiveModelStreamCursor)
  | otherPolls (number : Nat) (limit : Option Nat)
  | otherCloses (number : Nat)
  | connect
  | polls (limit : Option Nat)
  | disconnect

def ofRoot (published : List LiveModelStreamFrame) : List LiveModelStreamFrame :=
  published.filter (·.rootRunId = root)

def World.step (w : World) : StreamStep → World
  | .publish kind _ context values =>
    let (broker, frame) := publish config kind context values w.broker
    { w with
      broker := broker
      published := w.published ++ [frame]
      quiet := if frame.rootRunId = root then false else w.quiet }
  | .dropRoot rootRunId => { w with broker := dropRoot config rootRunId w.broker }
  | .otherSubscribes number rootRunId afterCursor =>
    { w with broker := subscribe config (.other number) rootRunId afterCursor w.broker }
  | .otherPolls number limit => { w with broker := (poll config (.other number) limit w.broker).1 }
  | .otherCloses number => { w with broker := closeSubscription (.other number) w.broker }
  | .connect =>
    { w with
      broker := subscribe config .client root (w.received.getLast?.map (·.cursor)) w.broker }
  | .polls limit =>
    match w.broker.subscriptions .client with
    | none => w
    | some subscription =>
      if subscription.closed then w
      else
        match poll config .client limit w.broker with
        | (broker, none) => { w with broker := broker }
        | (broker, some frames) =>
          { w with
            broker := broker
            received := w.received ++ frames
            quiet := w.quiet || frames.isEmpty }
  | .disconnect => { w with broker := closeSubscription .client w.broker }

def watch : Machine World StreamStep Unit where
  init := ⟨.empty, [], [], false⟩
  step w label := (w.step config root label, ())

-- The client gets publications of its root in order, and hears of every one that it does not get.
structure NoSilentGap (w : World) : Prop where
  gaps : GapsAnnounced ((ofRoot root w.published).map (delivered config)) (w.received.map hear)
  settled : w.quiet = true →
    EndAnnounced ((ofRoot root w.published).map (delivered config)) (w.received.map hear)
  distinct : ((ofRoot root w.published).map (·.cursor)).Nodup
  bounded : Bounded config w.broker

-- A client that has got nothing yet connects where no publication of its root is lost, or the loss
-- is still known.
def StreamStep.Complete (w : World) : StreamStep → Prop
  | .connect => w.received = [] → ModelStream.Complete root w.broker (ofRoot root w.published)
  | _ => True

def World.Followed (w : World) : Prop :=
  Bounded config w.broker ∧
    ∃ n, Following config root w.broker (ofRoot root w.published) w.received w.quiet n

variable {config root}

theorem Following.noSilentGap {w : World} (followed : w.Followed config root) :
    NoSilentGap config root w := by
  obtain ⟨bounded, n, so⟩ := followed
  have cursors : ((ofRoot root w.published).map (delivered config)).map (·.cursor) =
      (ofRoot root w.published).map (·.cursor) := by
    rw [List.map_map]
    exact List.map_congr_left fun frame _ => delivered_cursor config frame
  have nodup : ((ofRoot root w.published).map (delivered config)).Nodup := by
    have distinct := so.rooted.distinct
    rw [← cursors] at distinct
    exact distinct.of_map
  refine ⟨so.accounts.gapsAnnounced nodup, fun quiet => ?_, so.rooted.distinct, bounded⟩
  have lengths : ((ofRoot root w.published).map (delivered config)).length =
      (ofRoot root w.published).length := List.length_map _
  have all := so.accounts
  rw [so.quiet quiet, ← lengths] at all
  exact all.endAnnounced nodup

theorem step_followed (w : World) (step : StreamStep) (followed : w.Followed config root)
    (complete : step.Complete root w) : (w.step config root step).Followed config root := by
  obtain ⟨bounded, n, so⟩ := followed
  cases step with
  | publish kind call context values =>
    refine ⟨publish_bounded kind context values bounded, n, ?_⟩
    dsimp only [World.step]
    by_cases same : context.rootRunId = root
    · obtain ⟨after, mine⟩ := so.publish values call same
      unfold ofRoot at after ⊢
      rw [List.filter_append, List.filter_singleton]
      simpa [mine] using after
    · have after := so.publish_other kind values (Ne.symm same)
      have other : (publish config kind context values w.broker).2.rootRunId ≠ root := same
      unfold ofRoot at after ⊢
      rw [List.filter_append, List.filter_singleton]
      simpa [other] using after
  | dropRoot rootRunId => exact ⟨dropRoot_bounded rootRunId bounded, n, so.dropRoot rootRunId⟩
  | otherSubscribes number rootRunId afterCursor =>
    exact ⟨⟨bounded.roots, bounded.epochs, bounded.rings⟩, n, so.setSubscription_other _⟩
  | otherPolls number limit => exact ⟨poll_bounded _ limit bounded, n, so.poll_other limit⟩
  | otherCloses number => exact ⟨closeSubscription_bounded _ bounded, n, so.close_other⟩
  | connect => exact ⟨⟨bounded.roots, bounded.epochs, bounded.rings⟩, n, so.subscribe complete⟩
  | polls limit =>
    dsimp only [World.step]
    cases found : w.broker.subscriptions .client with
    | none => exact ⟨bounded, n, so⟩
    | some subscription =>
      dsimp only
      split
      · exact ⟨bounded, n, so⟩
      next opened =>
        by_cases positive : limit = some 0
        · subst positive
          exact ⟨bounded, n, so⟩
        · obtain ⟨frames, m, answered, after⟩ := so.poll found (by simpa using opened) positive
          have kept := poll_bounded .client limit bounded
          generalize poll config .client limit w.broker = polled at answered after kept
          obtain ⟨broker, answer⟩ := polled
          dsimp only at answered after kept
          rw [answered]
          exact ⟨kept, m, after⟩
  | disconnect => exact ⟨closeSubscription_bounded _ bounded, n, so.close⟩

theorem init_followed : ((watch config root).init).Followed config root := by
  have bounded : Bounded config .empty := ⟨Nat.zero_le _, Nat.zero_le _, by simp [empty]⟩
  have regular : Regular .empty := ⟨by simp [empty], by simp [empty], by simp [empty]⟩
  have rooted : Rooted config root .empty [] :=
    ⟨by simp, by simp, List.nodup_nil, fun ring found => by cases found⟩
  refine ⟨bounded, 0, regular, ?_, rooted, .nothing, ?_, ?_, fun _ => rfl, fun _ => rfl⟩
  · intro subscription found; cases found
  · intro subscription found; cases found
  · intro cursor last; cases last

variable (config root) in
theorem no_silent_gap (steps : List StreamStep)
    (complete : (watch config root).Along (fun w step => step.Complete root w)
      (watch config root).init steps) :
    NoSilentGap config root ((watch config root).exec (watch config root).init steps) :=
  Following.noSilentGap
    (complete.exec (World.Followed config root) step_followed init_followed)

end Watch

section Replaced

def smallBroker : BrokerConfig where
  generation := "g"
  maxFrames := 4
  maxBytes := 8
  maxRoots := 1
  frameSize _ := 1
  rootDigest rootRunId := rootRunId
  framesPositive := by decide
  bytesPositive := by decide
  rootsPositive := by decide

def opens (rootRunId : String) : StreamStep :=
  .publish .opened nofun ⟨rootRunId, rootRunId, "turn", "stream", 1⟩
    ⟨none, none, some "2026-01-01T00:00:00Z", none, none, none, none, none, none, none, none, none,
      none, none, none, none, none⟩

theorem dropped_announced :
    NoSilentGap smallBroker "run" ((watch smallBroker "run").exec (watch smallBroker "run").init
      [.connect, opens "run", .dropRoot "run", opens "run", .polls none]) :=
  no_silent_gap smallBroker "run" _ ⟨fun _ => .inl rfl, trivial, trivial, trivial, trivial, trivial⟩

theorem replaced_silently :
    ¬ NoSilentGap smallBroker "run" ((watch smallBroker "run").exec
      (watch smallBroker "run").init
      [opens "run", .dropRoot "run", opens "run", .connect, .polls none]) ∧
    ¬ NoSilentGap smallBroker "run" ((watch smallBroker "run").exec
      (watch smallBroker "run").init
      [opens "run", opens "other", opens "third", .connect, opens "run", .polls none]) := by
  constructor
  · intro sound
    have announced := sound.gaps.first [] _ [] [_] [] rfl rfl rfl nofun
    cases announced
  · intro sound
    have announced := sound.gaps.first [] _ [] [_] [] rfl rfl rfl nofun
    cases announced

end Replaced

end MonoidKernel.ModelStream
