import MonoidKernel.Reference.ModelStreamRing

set_option autoImplicit false

namespace MonoidKernel.ModelStream

open Library.Heard (Accounts)
open LiveModelStreamBroker

section Generations

theorem digitChar_inj : ∀ a < 16, ∀ b < 16, Nat.digitChar a = Nat.digitChar b → a = b := by
  decide

theorem toDigits_inj (m n : Nat) (same : Nat.toDigits 16 m = Nat.toDigits 16 n) : m = n := by
  induction m using Nat.strongRecOn generalizing n with
  | _ m ih =>
    rw [Nat.toDigits_eq_if (b := 16) (by decide), Nat.toDigits_eq_if (b := 16) (n := n) (by decide)]
      at same
    split at same
    next small =>
      split at same
      next small' => exact digitChar_inj m small n small' (by simpa using same)
      · simpa using congrArg List.length same
    next large =>
      split at same
      next small' => simpa using congrArg List.length same
      next large' =>
        obtain ⟨front, last⟩ := List.append_inj' same rfl
        have high := ih (m / 16) (by omega) (n / 16) front
        have low := digitChar_inj (m % 16) (by omega) (n % 16) (by omega) (by simpa using last)
        omega

theorem toDigits_hex (n : Nat) : ∀ digit ∈ Nat.toDigits 16 n, digit ≠ 'i' := by
  have small : ∀ a < 16, Nat.digitChar a ≠ 'i' := by decide
  induction n using Nat.strongRecOn with
  | _ n ih =>
    rw [Nat.toDigits_eq_if (by decide)]
    split
    next low => simp [small n low]
    · rw [List.forall_mem_append]
      exact ⟨ih (n / 16) (by omega), by simp [small (n % 16) (by omega)]⟩

variable (config : BrokerConfig)

theorem generationOf_inj {i j : Nat} (same : generationOf config i = generationOf config j) :
    i = j := by
  unfold generationOf at same
  split at same
  next first =>
    split at same
    next second => rw [first, second]
    · have lengths := congrArg String.length same
      have dot : ".".length = 1 := rfl
      simp only [String.length_append, dot] at lengths
      omega
  · split at same
    · have lengths := congrArg String.length same
      have dot : ".".length = 1 := rfl
      simp only [String.length_append, dot] at lengths
      omega
    · rw [String.append_assoc, String.append_assoc, String.append_right_inj,
        String.append_right_inj, String.ofList_inj] at same
      exact toDigits_inj i j same

theorem generationOf_ne_idle (serial : Nat) (rootRunId : String) :
    generationOf config serial ≠ idleGeneration config rootRunId := by
  unfold generationOf idleGeneration
  intro same
  split at same
  · have lengths := congrArg String.length same
    have word : ".idle.".length = 6 := rfl
    simp only [String.length_append, word] at lengths
    omega
  · have idle : ".idle." = "." ++ "idle." := rfl
    rw [idle, String.append_assoc, String.append_assoc, String.append_assoc,
      String.append_right_inj, String.append_right_inj] at same
    have listed := congrArg String.toList same
    rw [String.toList_ofList, String.toList_append] at listed
    exact toDigits_hex serial 'i' (by rw [listed]; simp) rfl

def Issued (serial : Nat) (generation : String) : Prop :=
  ∃ k, 1 ≤ k ∧ k ≤ serial ∧ generation = generationOf config k

theorem Issued.mono {config : BrokerConfig} {serial later : Nat} {generation : String}
    (issued : Issued config serial generation) (more : serial ≤ later) :
    Issued config later generation := by
  obtain ⟨k, low, high, same⟩ := issued
  exact ⟨k, low, high.trans more, same⟩

theorem Issued.ne_next {config : BrokerConfig} {serial : Nat} {generation : String}
    (issued : Issued config serial generation) : generation ≠ generationOf config (serial + 1) := by
  obtain ⟨k, _, high, rfl⟩ := issued
  intro same
  have := generationOf_inj config same
  omega

def Known (rootRunId : String) (serial : Nat) (generation : String) : Prop :=
  generation = idleGeneration config rootRunId ∨ Issued config serial generation

theorem Known.mono {config : BrokerConfig} {rootRunId : String} {serial later : Nat}
    {generation : String} (known : Known config rootRunId serial generation)
    (more : serial ≤ later) : Known config rootRunId later generation :=
  known.imp id fun issued => issued.mono more

theorem Known.ne_next {config : BrokerConfig} {rootRunId : String} {serial : Nat}
    {generation : String} (known : Known config rootRunId serial generation) :
    generation ≠ generationOf config (serial + 1) := by
  rcases known with idle | issued
  · rw [idle]; exact (generationOf_ne_idle config _ _).symm
  · exact issued.ne_next

end Generations

section OrderedDict

variable {A : Type}

theorem lookup_removeKey (key other : String) (entries : List (String × A)) :
    (removeKey key entries).lookup other = if other = key then none else entries.lookup other := by
  induction entries with
  | nil => simp [removeKey]
  | cons entry rest ih =>
    obtain ⟨name, value⟩ := entry
    by_cases here : name = key
    · have dropped : removeKey key ((name, value) :: rest) = removeKey key rest := by
        simp [removeKey, here]
      rw [dropped, ih, List.lookup_cons]
      by_cases same : other = key
      · rw [if_pos same, if_pos same]
      · rw [if_neg same, if_neg same, here, beq_false_of_ne same]
    · have kept : removeKey key ((name, value) :: rest) = (name, value) :: removeKey key rest := by
        simp [removeKey, here]
      rw [kept, List.lookup_cons, List.lookup_cons, ih]
      by_cases same : other = key
      · rw [if_pos same, if_pos same, same, beq_false_of_ne (Ne.symm here)]
      · rw [if_neg same, if_neg same]

theorem lookup_putLast (key other : String) (value : A) (entries : List (String × A)) :
    (putLast key value entries).lookup other =
      if other = key then some value else entries.lookup other := by
  unfold putLast
  rw [List.lookup_append, lookup_removeKey]
  by_cases same : other = key
  · simp [same]
  · have other' : (other == key) = false := by simpa using same
    simp [same, List.lookup_cons, other']

variable {entries : List (String × A)}

theorem removeKey_nodup {key : String} (nodup : (entries.map (·.1)).Nodup) :
    ((removeKey key entries).map (·.1)).Nodup :=
  nodup.sublist (List.filter_sublist.map _)

theorem notMem_removeKey (key : String) (entries : List (String × A)) :
    key ∉ (removeKey key entries).map (·.1) := by
  simp [removeKey]

theorem putLast_nodup {key : String} {value : A} (nodup : (entries.map (·.1)).Nodup) :
    ((putLast key value entries).map (·.1)).Nodup := by
  unfold putLast
  rw [List.map_append]
  exact (removeKey_nodup nodup).append (List.nodup_singleton _)
    (List.disjoint_singleton.mpr (notMem_removeKey key entries))

theorem lookup_eq_none_of_notMem {key : String} (absent : key ∉ entries.map (·.1)) :
    entries.lookup key = none := by
  rw [List.lookup_eq_none_iff]
  intro entry member
  have other : key ≠ entry.1 := by
    intro same
    rw [same] at absent
    exact absent (List.mem_map_of_mem member)
  simpa using other

theorem lookup_drop (nodup : (entries.map (·.1)).Nodup) (count : Nat) (key : String) :
    (entries.drop count).lookup key = entries.lookup key ∨
      (entries.drop count).lookup key = none := by
  induction entries generalizing count with
  | nil => simp
  | cons entry rest ih =>
    obtain ⟨name, value⟩ := entry
    cases count with
    | zero => exact .inl rfl
    | succ count =>
      rw [List.map_cons, List.nodup_cons] at nodup
      rw [List.drop_succ_cons, List.lookup_cons]
      by_cases same : key = name
      · refine .inr (lookup_eq_none_of_notMem fun member => nodup.1 ?_)
        rw [same] at member
        exact ((List.drop_sublist _ _).map _).subset member
      · rw [beq_false_of_ne same]
        exact ih nodup.2 count

theorem lookup_popOldest_putLast {limit : Nat} (positive : 0 < limit) (key : String) (value : A)
    (entries : List (String × A)) :
    (popOldest limit (putLast key value entries)).lookup key = some value := by
  unfold popOldest putLast
  rw [List.length_append, List.length_singleton, List.drop_append_of_le_length (by omega),
    List.lookup_append]
  have absent : key ∉ ((removeKey key entries).drop
      ((removeKey key entries).length + 1 - limit)).map (·.1) :=
    fun member => notMem_removeKey key entries (((List.drop_sublist _ _).map _).subset member)
  rw [lookup_eq_none_of_notMem absent]
  simp

end OrderedDict

section Steps

variable (config : BrokerConfig) (root : String)

structure Regular (s : LiveModelStreamBroker) : Prop where
  rings : (s.rings.map (·.1)).Nodup
  epochs : (s.evictionEpochs.map (·.1)).Nodup
  past : ∀ entry ∈ s.evictionEpochs, entry.2 ≤ s.evictionSerial

structure Elsewhere (s s' : LiveModelStreamBroker) : Prop where
  ring : s'.ring root = s.ring root
  serial : s.ringSerial ≤ s'.ringSerial
  eviction : s.evictionSerial ≤ s'.evictionSerial
  epoch : s.idleEpoch root ≤ s'.idleEpoch root
  client : s'.subscriptions .client = s.subscriptions .client

structure Lost (ring : RootRing) (s s' : LiveModelStreamBroker) : Prop where
  had : s.ring root = some ring
  gone : s'.ring root = none
  serial : s'.ringSerial = s.ringSerial
  eviction : s'.evictionSerial = s.evictionSerial + 1
  epoch : s'.idleEpoch root = s.evictionSerial + 1
  client : s'.subscriptions .client = (s.subscriptions .client).map (noticeEviction root ring)

variable {root} {s : LiveModelStreamBroker}

theorem Regular.idleEpoch_le (regular : Regular s) (rootRunId : String) :
    s.idleEpoch rootRunId ≤ s.evictionSerial := by
  unfold idleEpoch
  cases found : s.evictionEpochs.lookup rootRunId with
  | none => exact le_rfl
  | some epoch =>
    obtain ⟨earlier, later, split, _⟩ := List.lookup_eq_some_iff.mp found
    exact regular.past (rootRunId, epoch) (by rw [split]; simp)

theorem rememberEvictionEpoch_regular (regular : Regular s) (rootRunId : String) {epoch : Nat}
    (past : epoch ≤ s.evictionSerial) :
    Regular (rememberEvictionEpoch config rootRunId epoch s) := by
  refine ⟨regular.rings, ?_, ?_⟩
  · exact (putLast_nodup regular.epochs).sublist ((List.drop_sublist _ _).map _)
  · intro entry member
    have listed := (List.drop_sublist _ _).subset member
    rcases List.mem_append.mp listed with old | new
    · exact regular.past entry (List.filter_sublist.subset old)
    · rw [List.mem_singleton] at new
      subst new
      exact past

theorem rememberEvictionEpoch_same (rootRunId : String) (epoch : Nat) :
    (rememberEvictionEpoch config rootRunId epoch s).idleEpoch rootRunId = epoch := by
  unfold rememberEvictionEpoch idleEpoch
  rw [lookup_popOldest_putLast config.rootsPositive]
  rfl

theorem rememberEvictionEpoch_other (regular : Regular s) {rootRunId : String} (epoch : Nat)
    (other : root ≠ rootRunId) :
    s.idleEpoch root ≤ (rememberEvictionEpoch config rootRunId epoch s).idleEpoch root := by
  have nodup : ((putLast rootRunId epoch s.evictionEpochs).map (·.1)).Nodup :=
    putLast_nodup regular.epochs
  have kept := lookup_drop nodup
    ((putLast rootRunId epoch s.evictionEpochs).length - config.maxRoots) root
  have known := regular.idleEpoch_le root
  unfold idleEpoch at known ⊢
  unfold rememberEvictionEpoch popOldest
  dsimp only
  rw [lookup_putLast, if_neg other] at kept
  rcases kept with same | forgotten
  · rw [same]
  · rw [forgotten]; exact known

def Mine (root : String) (s : LiveModelStreamBroker) : Prop :=
  ∀ subscription, s.subscriptions .client = some subscription → subscription.rootRunId = root

section Evict

variable {rest : List (String × RootRing)} (rootRunId : String) (ring : RootRing)

theorem markRingEvicted_regular (regular : Regular s) (fewer : rest.Sublist s.rings) :
    Regular (markRingEvicted config rootRunId ring { s with rings := rest }) := by
  have later : Regular { s with rings := rest, evictionSerial := s.evictionSerial + 1 } :=
    ⟨regular.rings.sublist (fewer.map _), regular.epochs,
      fun entry member => (regular.past entry member).trans (Nat.le_succ _)⟩
  have remembered := rememberEvictionEpoch_regular config later rootRunId (le_refl _)
  exact ⟨remembered.rings, remembered.epochs, remembered.past⟩

theorem markRingEvicted_elsewhere (regular : Regular s) (mine : Mine root s)
    (others : rest.lookup root = s.ring root) (other : root ≠ rootRunId) :
    Elsewhere root s (markRingEvicted config rootRunId ring { s with rings := rest }) := by
  have later : Regular { s with evictionSerial := s.evictionSerial + 1 } :=
    ⟨regular.rings, regular.epochs,
      fun entry member => (regular.past entry member).trans (Nat.le_succ _)⟩
  refine ⟨others, le_refl _, Nat.le_succ _, ?_, ?_⟩
  · have grown : s.idleEpoch root ≤
        LiveModelStreamBroker.idleEpoch { s with evictionSerial := s.evictionSerial + 1 } root := by
      unfold idleEpoch
      dsimp only
      cases s.evictionEpochs.lookup root with
      | none => exact Nat.le_succ _
      | some epoch => exact le_rfl
    exact grown.trans (rememberEvictionEpoch_other config later (s.evictionSerial + 1) other)
  · change (s.subscriptions .client).map (noticeEviction rootRunId ring) = _
    cases found : s.subscriptions .client with
    | none => rfl
    | some subscription =>
      have apart : subscription.rootRunId ≠ rootRunId := by
        rw [mine subscription found]
        exact other
      rw [Option.map_some, noticeEviction, if_neg fun noticed => apart noticed.2.2.1]

theorem markRingEvicted_lost {ring : RootRing} (had : s.ring root = some ring)
    (gone : rest.lookup root = none) :
    Lost root ring s (markRingEvicted config root ring { s with rings := rest }) :=
  ⟨had, gone, rfl, rfl, rememberEvictionEpoch_same config root _, rfl⟩

end Evict

end Steps

section Client

variable (config : BrokerConfig) (root : String)

structure Rooted (s : LiveModelStreamBroker) (published : List LiveModelStreamFrame) : Prop where
  calls : ∀ frame ∈ published, frame.kind ≠ .reset
  issued : ∀ frame ∈ published, Issued config s.ringSerial frame.cursor.generation
  distinct : (published.map (·.cursor)).Nodup
  kept : ∀ ring, s.ring root = some ring →
    Kept config ring published ∧ Issued config s.ringSerial ring.generation

structure Follows (s : LiveModelStreamBroker) (published : List LiveModelStreamFrame) (n : Nat)
    (subscription : LiveModelStreamSubscription) : Prop where
  registered : subscription.registered = true
  observes : ∀ ring, s.ring root = some ring →
    subscription.observedGeneration = some ring.generation ∧
      subscription.adoptInitialGeneration = false ∧
      Stands ring.generation published n subscription.cursor
  waits : s.ring root = none → subscription.pending = true
  -- Without a ring, a client that is not told of a loss has heard of everything.
  told : s.ring root = none → subscription.evictedCursor = none →
    subscription.resetMissingCursor = false → n = published.length
  adopts : subscription.adoptInitialGeneration = true → n = published.length
  -- The default cursor has the generation of the first ring before there is one.
  known : subscription.adoptInitialGeneration = false →
    Known config root s.ringSerial subscription.cursor.generation ∨
      s.ringSerial = 0 ∧ subscription.cursor = ⟨config.generation, 0⟩

structure Remembers (s : LiveModelStreamBroker) (published : List LiveModelStreamFrame) (n : Nat)
    (cursor : LiveModelStreamCursor) : Prop where
  stands : ∀ ring, s.ring root = some ring → Stands ring.generation published n cursor
  acknowledges : s.ring root = none → cursor.generation = idleGeneration config root →
    n = published.length ∨ cursor.sequence < s.idleEpoch root
  past : cursor.generation = idleGeneration config root → cursor.sequence ≤ s.evictionSerial
  known : Known config root s.ringSerial cursor.generation

structure Following (s : LiveModelStreamBroker)
    (published received : List LiveModelStreamFrame) (quiet : Bool) (n : Nat) : Prop where
  regular : Regular s
  mine : Mine root s
  rooted : Rooted config root s published
  accounts : Accounts (published.map (delivered config)) (received.map hear) n
  follows : ∀ subscription, s.subscriptions .client = some subscription →
    subscription.closed = false → Follows config root s published n subscription
  remembers : ∀ cursor, received.getLast?.map (·.cursor) = some cursor →
    Remembers config root s published n cursor
  fresh : received = [] → n = 0
  quiet : quiet = true → n = published.length

variable {config root} {s s' : LiveModelStreamBroker}
  {published received : List LiveModelStreamFrame} {quiet : Bool} {n : Nat}

theorem Following.bound (so : Following config root s published received quiet n) :
    n ≤ published.length := by
  have := so.accounts.le_length
  rwa [List.length_map] at this

theorem Rooted.elsewhere (rooted : Rooted config root s published)
    (step : Elsewhere root s s') : Rooted config root s' published := by
  refine ⟨rooted.calls, fun frame member => (rooted.issued frame member).mono step.serial,
    rooted.distinct, ?_⟩
  intro ring found
  rw [step.ring] at found
  obtain ⟨kept, issued⟩ := rooted.kept ring found
  exact ⟨kept, issued.mono step.serial⟩

theorem Follows.elsewhere {subscription : LiveModelStreamSubscription}
    (follows : Follows config root s published n subscription) (step : Elsewhere root s s') :
    Follows config root s' published n subscription := by
  have ring := step.ring
  refine ⟨follows.registered, ?_, ?_, ?_, follows.adopts, ?_⟩
  · rw [ring]; exact follows.observes
  · rw [ring]; exact follows.waits
  · rw [ring]; exact follows.told
  · intro settled
    rcases follows.known settled with known | ⟨before, default⟩
    · exact .inl (known.mono step.serial)
    · by_cases still : s'.ringSerial = 0
      · exact .inr ⟨still, default⟩
      · exact .inl (.inr ⟨1, le_rfl, by omega, by rw [default]; rfl⟩)

theorem Remembers.elsewhere {cursor : LiveModelStreamCursor}
    (remembers : Remembers config root s published n cursor) (step : Elsewhere root s s') :
    Remembers config root s' published n cursor := by
  have ring := step.ring
  refine ⟨?_, ?_, fun idle => (remembers.past idle).trans step.eviction,
    remembers.known.mono step.serial⟩
  · rw [ring]; exact remembers.stands
  · rw [ring]
    intro missing idle
    exact (remembers.acknowledges missing idle).imp id fun earlier => earlier.trans_le step.epoch

theorem Following.elsewhere (so : Following config root s published received quiet n)
    (step : Elsewhere root s s') (regular : Regular s') :
    Following config root s' published received quiet n := by
  refine ⟨regular, ?_, so.rooted.elsewhere step, so.accounts, ?_,
    fun cursor last => (so.remembers cursor last).elsewhere step, so.fresh, so.quiet⟩
  · intro subscription found
    rw [step.client] at found
    exact so.mine subscription found
  · intro subscription found opened
    rw [step.client] at found
    exact (so.follows subscription found opened).elsewhere step

theorem Following.lost {ring : RootRing}
    (so : Following config root s published received quiet n) (step : Lost root ring s s')
    (regular : Regular s') : Following config root s' published received quiet n := by
  have had := step.had
  have gone := step.gone
  refine ⟨regular, ?_, ⟨so.rooted.calls, ?_, so.rooted.distinct, ?_⟩, so.accounts, ?_, ?_, so.fresh,
    so.quiet⟩
  · intro subscription found
    rw [step.client] at found
    obtain ⟨before, there, rfl⟩ := Option.map_eq_some_iff.mp found
    unfold noticeEviction
    split <;> exact so.mine before there
  · rw [step.serial]; exact so.rooted.issued
  · intro ring found; rw [gone] at found; cases found
  · intro subscription found opened
    rw [step.client] at found
    obtain ⟨before, there, rfl⟩ := Option.map_eq_some_iff.mp found
    have open' : before.closed = false := by
      unfold noticeEviction at opened
      split at opened <;> exact opened
    have follows := so.follows before there open'
    obtain ⟨observed, settled, stands⟩ := follows.observes ring had
    have noticed : noticeEviction root ring before =
        { before with
          evictedCursor := some ⟨ring.generation, ring.latestSequence⟩
          resetMissingCursor := false
          pending := true } := by
      unfold noticeEviction
      rw [if_pos ⟨follows.registered, by simp [open'], so.mine before there, observed⟩]
    rw [noticed]
    refine ⟨follows.registered, ?_, fun _ => rfl, ?_, ?_, ?_⟩
    · intro ring found; rw [gone] at found; cases found
    · intro _ untold; cases untold
    · exact fun adopts => by rw [settled] at adopts; cases adopts
    · rw [step.serial]; exact follows.known
  · intro cursor last
    have remembers := so.remembers cursor last
    refine ⟨?_, ?_, ?_, ?_⟩
    · intro ring found; rw [gone] at found; cases found
    · intro _ idle
      have := remembers.past idle
      exact .inr (by rw [step.epoch]; omega)
    · intro idle
      have := remembers.past idle
      rw [step.eviction]
      omega
    · rw [step.serial]; exact remembers.known

end Client

end MonoidKernel.ModelStream
