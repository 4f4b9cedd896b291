import Mathlib.Data.List.Induction

set_option autoImplicit false

namespace Library.Replay

universe u v w x

variable {E : Type u} {K : Type v} {V : Type w} {G : Type x}
variable (guard : (K → V) → G) (decides : G → E → K → Option V)

def step (held : K → V) (event : E) : K → V := fun key =>
  (decides (guard held) event key).getD (held key)

def replay (held : K → V) (events : List E) : K → V := events.foldl (step guard decides) held

theorem replay_append (held : K → V) (first second : List E) :
    replay guard decides held (first ++ second) =
      replay guard decides (replay guard decides held first) second := List.foldl_append

theorem replay_snoc (held : K → V) (events : List E) (event : E) :
    replay guard decides held (events ++ [event]) =
      step guard decides (replay guard decides held events) event := by
  rw [replay_append]
  rfl

-- The first event decides the leading keys, whatever held before it.
structure Resets (leading : K → Prop) (first : E) : Prop where
  congruent : ∀ held other : K → V, (∀ key, leading key → held key = other key) →
    guard held = guard other
  unguarded : ∀ g other, decides g first = decides other first
  decided : ∀ g key, leading key → (decides g first key).isSome

variable {guard decides} {leading : K → Prop} {first : E} {start seed : K → V}

-- What a replay holds of a key when it stands where the live run stood: the same value, or the seed
-- of a key that the live run has not touched.
def Abreast (guard : (K → V) → G) (decides : G → E → K → Option V) (leading : K → Prop)
    (start seed : K → V) (events : List E) (key : K) : Prop :=
  replay guard decides seed events key = replay guard decides start events key ∨
    (¬ leading key ∧ replay guard decides seed events key = seed key ∧
      ∀ early, early <+: events → replay guard decides start early key = start key)

theorem abreast_untouched {events : List E} {event : E} {key : K} (rest : ¬ leading key)
    (behind : replay guard decides seed events key = seed key)
    (still : ∀ early, early <+: events → replay guard decides start early key = start key)
    (live : replay guard decides start (events ++ [event]) key =
      replay guard decides start events key)
    (replayed : replay guard decides seed (events ++ [event]) key =
      replay guard decides seed events key) :
    Abreast guard decides leading start seed (events ++ [event]) key := by
  refine .inr ⟨rest, replayed.trans behind, ?_⟩
  intro early inside
  cases List.prefix_concat_iff.mp inside with
  | inl whole =>
    rw [whole, live]
    exact still events (List.prefix_refl events)
  | inr shorter => exact still early shorter

theorem abreast_first (resets : Resets guard decides leading first) (key : K) :
    Abreast guard decides leading start seed [first] key := by
  have same := resets.unguarded (guard seed) (guard start)
  have read (held : K → V) : replay guard decides held [first] key =
    (decides (guard held) first key).getD (held key) := rfl
  cases found : decides (guard start) first key with
  | some value =>
    left
    rw [read, read, same, found]
    rfl
  | none =>
    have rest : ¬ leading key := by
      intro lead
      have decided := resets.decided (guard start) key lead
      rw [found] at decided
      cases decided
    have live : replay guard decides start ([] ++ [first]) key = start key := by
      rw [List.nil_append, read, found]
      rfl
    have replayed : replay guard decides seed ([] ++ [first]) key = seed key := by
      rw [List.nil_append, read, same, found]
      rfl
    have still : ∀ early : List E, early <+: [] →
        replay guard decides start early key = start key := by
      intro early inside
      rw [List.prefix_nil.mp inside]
      rfl
    have whole : Abreast guard decides leading start seed ([] ++ [first]) key :=
      abreast_untouched rest rfl still live replayed
    exact whole

theorem abreast_snoc (resets : Resets guard decides leading first) {events : List E} (event : E)
    (abreast : ∀ key, Abreast guard decides leading start seed events key) (key : K) :
    Abreast guard decides leading start seed (events ++ [event]) key := by
  have guards : guard (replay guard decides seed events) =
      guard (replay guard decides start events) := by
    apply resets.congruent
    intro key lead
    exact (abreast key).elim id fun untouched => absurd lead untouched.1
  have live := congrFun (replay_snoc guard decides start events event) key
  have replayed := congrFun (replay_snoc guard decides seed events event) key
  rw [step] at live replayed
  rw [guards] at replayed
  cases found : decides (guard (replay guard decides start events)) event key with
  | some value =>
    rw [found] at live replayed
    exact .inl (replayed.trans live.symm)
  | none =>
    rw [found] at live replayed
    cases abreast key with
    | inl same => exact .inl (replayed.trans (same.trans live.symm))
    | inr untouched => exact abreast_untouched untouched.1 untouched.2.1 untouched.2.2 live replayed

theorem abreast_run (resets : Resets guard decides leading first) (rest : List E) (key : K) :
    Abreast guard decides leading start seed (first :: rest) key := by
  induction rest using List.reverseRecOn generalizing key with
  | nil => exact abreast_first resets key
  | append_singleton rest event ih =>
    rw [← List.cons_append]
    exact abreast_snoc resets event ih key

theorem replay_snapshot (resets : Resets guard decides leading first) {rest early : List E}
    (inside : early <+: first :: rest)
    (seeded : ∀ key, ¬ leading key → seed key = replay guard decides start early key) :
    replay guard decides seed (first :: rest) = replay guard decides start (first :: rest) := by
  funext key
  have whole : Abreast guard decides leading start seed (first :: rest) key :=
    abreast_run resets rest key
  cases whole with
  | inl same => exact same
  | inr untouched =>
    obtain ⟨follower, behind, still⟩ := untouched
    rw [behind, seeded key follower, still early inside,
      still (first :: rest) (List.prefix_refl _)]

end Library.Replay
