import Mathlib.Data.List.Nodup

set_option autoImplicit false

namespace Library

universe u v

structure OrderedDict (K : Type u) (V : Type v) where
  entries : List (K × V)
  distinct : (entries.map (·.1)).Nodup

namespace OrderedDict

variable {K : Type u} {V : Type v} [DecidableEq K]

def put (key : K) (value : V) : List (K × V) → List (K × V)
  | [] => [(key, value)]
  | (name, held) :: rest =>
    if name = key then (key, value) :: rest else (name, held) :: put key value rest

theorem lookup_cons_ite (key name : K) (held : V) (rest : List (K × V)) :
    ((name, held) :: rest).lookup key = if key = name then some held else rest.lookup key := by
  by_cases same : key = name
  · simp [same]
  · rw [List.lookup_cons, beq_false_of_ne same, if_neg same]

theorem put_keys (key : K) (value : V) (entries : List (K × V)) :
    (put key value entries).map (·.1) =
      if key ∈ entries.map (·.1) then entries.map (·.1) else entries.map (·.1) ++ [key] := by
  induction entries with
  | nil => rfl
  | cons entry rest ih =>
    obtain ⟨name, held⟩ := entry
    by_cases same : name = key
    · simp [put, same]
    · have other : ¬ key = name := fun equal => same equal.symm
      simp only [put, same, if_false, List.map_cons, ih, List.mem_cons, other, false_or]
      split <;> rfl

theorem put_lookup (key : K) (value : V) (entries : List (K × V)) (other : K) :
    (put key value entries).lookup other =
      if other = key then some value else entries.lookup other := by
  induction entries with
  | nil => exact lookup_cons_ite other key value []
  | cons entry rest ih =>
    obtain ⟨name, held⟩ := entry
    by_cases here : name = key
    · rw [put, if_pos here, lookup_cons_ite, lookup_cons_ite, here]
      split <;> rfl
    · rw [put, if_neg here, lookup_cons_ite, lookup_cons_ite, ih]
      by_cases first : other = name
      · have apart : other ≠ key := fun equal => here (first.symm.trans equal)
        rw [if_pos first, if_neg apart, if_pos first]
      · rw [if_neg first, if_neg first]

variable {key : K} {entries : List (K × V)}

theorem put_absent (absent : key ∉ entries.map (·.1)) (value : V) :
    put key value entries = entries ++ [(key, value)] := by
  induction entries with
  | nil => rfl
  | cons entry rest ih =>
    obtain ⟨name, held⟩ := entry
    rw [List.map_cons, List.mem_cons, not_or] at absent
    rw [put, if_neg (Ne.symm absent.1), ih absent.2]
    rfl

theorem lookup_isSome (entries : List (K × V)) (key : K) :
    (entries.lookup key).isSome ↔ key ∈ entries.map (·.1) := by
  induction entries with
  | nil => simp
  | cons entry rest ih =>
    obtain ⟨name, held⟩ := entry
    rw [lookup_cons_ite, List.map_cons, List.mem_cons, ← ih]
    by_cases here : key = name
    · simp [here]
    · simp [here]

theorem foldl_put_lookup (before entries : List (K × V)) (distinct : (entries.map (·.1)).Nodup)
    (key : K) :
    (entries.foldl (fun merged entry => put entry.1 entry.2 merged) before).lookup key =
      (entries.lookup key).or (before.lookup key) := by
  induction entries generalizing before with
  | nil => rfl
  | cons entry rest ih =>
    rw [List.map_cons, List.nodup_cons] at distinct
    rw [List.foldl_cons, ih _ distinct.2, put_lookup, lookup_cons_ite]
    by_cases here : key = entry.1
    · have absent : rest.lookup key = none := by
        rw [← Option.not_isSome_iff_eq_none, lookup_isSome, here]
        exact distinct.1
      rw [absent, if_pos here, if_pos here]
      rfl
    · rw [if_neg here, if_neg here]

theorem foldl_put_agreeing {value : V} (found : (key, value) ∈ entries)
    (agree : ∀ other, (key, other) ∈ entries → other = value) (before : List (K × V)) :
    (entries.foldl (fun merged entry => put entry.1 entry.2 merged) before).lookup key =
      some value := by
  have behind (before entries : List (K × V))
      (found : (key, value) ∈ entries ∨ before.lookup key = some value)
      (agree : ∀ other, (key, other) ∈ entries → other = value) :
      (entries.foldl (fun merged entry => put entry.1 entry.2 merged) before).lookup key =
        some value := by
    induction entries generalizing before with
    | nil => exact found.resolve_left List.not_mem_nil
    | cons entry rest ih =>
      obtain ⟨name, held⟩ := entry
      refine ih _ ?_ fun other member => agree other (List.mem_cons_of_mem _ member)
      rw [put_lookup]
      by_cases here : key = name
      · subst here
        right
        rw [if_pos rfl, agree held List.mem_cons_self]
      · rw [if_neg here]
        refine found.imp_left fun member => ?_
        cases member with
        | head => exact absurd rfl here
        | tail _ later => exact later
  exact behind before entries (Or.inl found) agree

def empty : OrderedDict K V := ⟨[], List.nodup_nil⟩

def keys (dict : OrderedDict K V) : List K := dict.entries.map (·.1)

def values (dict : OrderedDict K V) : List V := dict.entries.map (·.2)

def get? (dict : OrderedDict K V) (key : K) : Option V := dict.entries.lookup key

def set (dict : OrderedDict K V) (key : K) (value : V) : OrderedDict K V where
  entries := put key value dict.entries
  distinct := by
    rw [put_keys]
    split
    · exact dict.distinct
    next absent =>
      exact dict.distinct.append (List.nodup_singleton key) (by simpa using absent)

variable {W : Type v} (change : V → W)

omit [DecidableEq K] in
theorem map_keys (entries : List (K × V)) :
    (entries.map fun entry => (entry.1, change entry.2)).map (·.1) = entries.map (·.1) := by
  rw [List.map_map]
  rfl

def mapValues (dict : OrderedDict K V) (change : V → W) : OrderedDict K W where
  entries := dict.entries.map fun entry => (entry.1, change entry.2)
  distinct := by
    rw [map_keys]
    exact dict.distinct

variable (dict : OrderedDict K V)

theorem get?_mapValues (key : K) :
    (dict.mapValues change).get? key = (dict.get? key).map change := by
  have each : ∀ entries : List (K × V),
      (entries.map fun entry => (entry.1, change entry.2)).lookup key =
        (entries.lookup key).map change := by
    intro entries
    induction entries with
    | nil => rfl
    | cons entry rest ih =>
      obtain ⟨name, held⟩ := entry
      rw [List.map_cons, lookup_cons_ite, lookup_cons_ite, ih]
      split <;> rfl
  exact each dict.entries

omit [DecidableEq K] in
theorem keys_mapValues :
    (dict.mapValues change).keys = dict.keys := map_keys change dict.entries

@[simp] theorem get?_empty (key : K) : (empty : OrderedDict K V).get? key = none := rfl

omit [DecidableEq K] in
@[simp] theorem keys_empty : (empty : OrderedDict K V).keys = [] := rfl

theorem get?_set (key : K) (value : V) (other : K) :
    (dict.set key value).get? other = if other = key then some value else dict.get? other :=
  put_lookup key value dict.entries other

@[simp] theorem get?_set_self (key : K) (value : V) :
    (dict.set key value).get? key = some value := by
  rw [get?_set, if_pos rfl]

theorem get?_set_ne {other : K} (value : V) (apart : other ≠ key) :
    (dict.set key value).get? other = dict.get? other := by
  rw [get?_set, if_neg apart]

theorem keys_set (key : K) (value : V) :
    (dict.set key value).keys = if key ∈ dict.keys then dict.keys else dict.keys ++ [key] :=
  put_keys key value dict.entries

def erase (dict : OrderedDict K V) (key : K) : OrderedDict K V where
  entries := dict.entries.filter fun entry => decide (entry.1 ≠ key)
  distinct := by
    have shorter : (dict.entries.filter fun entry => decide (entry.1 ≠ key)).Sublist dict.entries :=
      List.filter_sublist
    exact dict.distinct.sublist (shorter.map Prod.fst)

theorem get?_erase (key other : K) :
    (dict.erase key).get? other = if other = key then none else dict.get? other := by
  have each : ∀ entries : List (K × V),
      (entries.filter fun entry => decide (entry.1 ≠ key)).lookup other =
        if other = key then none else entries.lookup other := by
    intro entries
    induction entries with
    | nil => simp
    | cons entry rest ih =>
      obtain ⟨name, held⟩ := entry
      by_cases gone : name = key
      · rw [List.filter_cons_of_neg (by simp [gone]), ih, lookup_cons_ite, gone]
        split <;> rfl
      · rw [List.filter_cons_of_pos (by simp [gone]), lookup_cons_ite, lookup_cons_ite, ih]
        by_cases here : other = name
        · rw [if_pos here, if_pos here, if_neg (here ▸ gone)]
        · rw [if_neg here, if_neg here]
  exact each dict.entries

theorem lookup_eq_some_iff (distinct : (entries.map (·.1)).Nodup) {value : V} :
    entries.lookup key = some value ↔ (key, value) ∈ entries := by
  induction entries with
  | nil => simp
  | cons entry rest ih =>
    obtain ⟨name, held⟩ := entry
    rw [List.map_cons, List.nodup_cons] at distinct
    rw [lookup_cons_ite, List.mem_cons, Prod.mk.injEq]
    by_cases same : key = name
    · have absent : (key, value) ∉ rest := by
        intro member
        have named : key ∈ rest.map (·.1) := List.mem_map_of_mem member
        exact distinct.1 (same ▸ named)
      rw [if_pos same, Option.some.injEq]
      simp only [same, true_and]
      rw [same] at absent
      simp only [absent, or_false, eq_comm]
    · rw [if_neg same, ih distinct.2]
      simp only [same, false_and, false_or]

theorem get?_eq_some_iff {value : V} :
    dict.get? key = some value ↔ (key, value) ∈ dict.entries :=
  lookup_eq_some_iff dict.distinct

theorem mem_keys_iff :
    key ∈ dict.keys ↔ ∃ value, dict.get? key = some value := by
  simp only [get?_eq_some_iff, keys, List.mem_map, Prod.exists, exists_and_right, exists_eq_right]

theorem get?_eq_none_iff :
    dict.get? key = none ↔ key ∉ dict.keys := by
  rw [mem_keys_iff, ← Option.isSome_iff_exists, Option.not_isSome_iff_eq_none]

theorem get?_foldl_set (distinct : (entries.map (·.1)).Nodup) (dict : OrderedDict K V) (key : K) :
    (entries.foldl (fun dict entry => dict.set entry.1 entry.2) dict).get? key =
      (entries.lookup key).or (dict.get? key) := by
  induction entries generalizing dict with
  | nil => rfl
  | cons entry rest ih =>
    obtain ⟨name, held⟩ := entry
    obtain ⟨fresh, others⟩ := List.nodup_cons.mp distinct
    rw [List.foldl_cons, ih others, get?_set, lookup_cons_ite]
    by_cases here : key = name
    · have absent : rest.lookup name = none := by
        cases found : rest.lookup name with
        | none => rfl
        | some value =>
          have listed := (lookup_eq_some_iff others).mp found
          exact absurd (List.mem_map_of_mem (f := Prod.fst) listed) fresh
      rw [if_pos here, if_pos here, here, absent]
      rfl
    · rw [if_neg here, if_neg here]

theorem ext_get {dict other : OrderedDict K V} (keys : dict.keys = other.keys)
    (same : ∀ key, dict.get? key = other.get? key) : dict = other := by
  have entries : dict.entries = other.entries := by
    refine List.ext_getElem? fun index => ?_
    have named : (dict.entries.map (·.1))[index]? = (other.entries.map (·.1))[index]? :=
      congrArg (·[index]?) keys
    rw [List.getElem?_map, List.getElem?_map] at named
    cases here : dict.entries[index]? with
    | none =>
      rw [here, Option.map_none] at named
      exact (Option.map_eq_none_iff.1 named.symm).symm
    | some entry =>
      rw [here, Option.map_some] at named
      obtain ⟨twin, there, key⟩ := Option.map_eq_some_iff.1 named.symm
      have first := (dict.get?_eq_some_iff).2
        (show (entry.1, entry.2) ∈ dict.entries from List.mem_of_getElem? here)
      have second := (other.get?_eq_some_iff).2
        (show (twin.1, twin.2) ∈ other.entries from List.mem_of_getElem? there)
      rw [same, ← key, second, Option.some.injEq] at first
      rw [there, Option.some.injEq]
      exact Prod.ext key.symm first.symm
  cases dict
  cases other
  cases entries
  rfl

theorem mapValues_set {change next : V → W} (value : V)
    (same : ∀ other held, other ≠ key → dict.get? other = some held → next held = change held) :
    (dict.set key value).mapValues next = (dict.mapValues change).set key (next value) := by
  refine ext_get ?_ fun other => ?_
  · rw [keys_mapValues, keys_set, keys_set, keys_mapValues]
  · rw [get?_mapValues, get?_set, get?_set, get?_mapValues]
    by_cases here : other = key
    · rw [if_pos here, if_pos here, Option.map_some]
    · rw [if_neg here, if_neg here]
      cases found : dict.get? other with
      | none => rfl
      | some held => rw [Option.map_some, Option.map_some, same other held here found]

end OrderedDict

end Library
