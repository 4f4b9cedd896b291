import MonoidKernel.Core.JsonIngressExact

set_option autoImplicit false

namespace MonoidKernel.JsonIngress

open MonoidKernel.ModelContent (PyText)

section Ingress

def ingressScalar : Scalar → Scalar
  | .str text => .str (normalizeText text)
  | .float word => if isFinite word then .float word else .none
  | value => value

def checkKeys (seen : List PyText) : List Key → Except IngressError Unit
  | [] => .ok ()
  | .other :: _ => .error .keyNotString
  | .str key :: rest =>
    if normalizeText key ∈ seen then .error .keysCollide
    else checkKeys (normalizeText key :: seen) rest

mutual

def ingress : Tree → Except IngressError Tree
  | .scalar value => .ok (.scalar (ingressScalar value))
  | .dict entries =>
    match checkKeys [] (entries.map Prod.fst), ingressEntries entries with
    | .error error, _ => .error error
    | .ok _, .error error => .error error
    | .ok _, .ok entries => .ok (.dict entries)
  | .list items => (ingressItems items).map .list
  | .tuple items => (ingressItems items).map .list

def ingressEntries : List (Key × Tree) → Except IngressError (List (Key × Tree))
  | [] => .ok []
  | (key, tree) :: rest =>
    match ingress tree, ingressEntries rest with
    | .error error, _ => .error error
    | .ok _, .error error => .error error
    | .ok tree, .ok rest => .ok ((.str (normalizedKey key), tree) :: rest)

def ingressItems : List Tree → Except IngressError (List Tree)
  | [] => .ok []
  | tree :: rest =>
    match ingress tree, ingressItems rest with
    | .error error, _ => .error error
    | .ok _, .error error => .error error
    | .ok tree, .ok rest => .ok (tree :: rest)

end

end Ingress

section Normal

theorem ingressScalar_twice (value : Scalar) :
    ingressScalar (ingressScalar value) = ingressScalar value := by
  cases value with
  | str text => simp [ingressScalar]
  | float word =>
    by_cases finite : isFinite word = true
    · simp [ingressScalar, finite]
    · simp [ingressScalar, finite]
  | _ => rfl

theorem checkKeys_again (seen : List PyText) (keys : List Key)
    (passed : checkKeys seen keys = .ok ()) :
    checkKeys seen (keys.map fun key => .str (normalizedKey key)) = .ok () := by
  induction keys generalizing seen with
  | nil => rfl
  | cons key rest ih =>
    cases key with
    | other => cases passed
    | str text =>
      rw [checkKeys] at passed
      rw [List.map_cons, checkKeys, normalizedKey, normalizeText_twice]
      split at passed
      · cases passed
      next absent =>
        rw [if_neg absent]
        exact ih _ passed

theorem ingressEntries_cons {key : Key} {tree : Tree} {rest found : List (Key × Tree)}
    (passed : ingressEntries ((key, tree) :: rest) = .ok found) :
    ∃ first later, ingress tree = .ok first ∧ ingressEntries rest = .ok later ∧
      found = (.str (normalizedKey key), first) :: later := by
  rw [ingressEntries] at passed
  cases one : ingress tree with
  | error error => simp [one] at passed
  | ok first =>
    cases two : ingressEntries rest with
    | error error => simp [one, two] at passed
    | ok later =>
      simp only [one, two, Except.ok.injEq] at passed
      exact ⟨first, later, rfl, rfl, passed.symm⟩

theorem ingressItems_cons {tree : Tree} {rest found : List Tree}
    (passed : ingressItems (tree :: rest) = .ok found) :
    ∃ first later, ingress tree = .ok first ∧ ingressItems rest = .ok later ∧
      found = first :: later := by
  rw [ingressItems] at passed
  cases one : ingress tree with
  | error error => simp [one] at passed
  | ok first =>
    cases two : ingressItems rest with
    | error error => simp [one, two] at passed
    | ok later =>
      simp only [one, two, Except.ok.injEq] at passed
      exact ⟨first, later, rfl, rfl, passed.symm⟩

theorem ingress_dict {entries : List (Key × Tree)} {found : Tree}
    (passed : ingress (.dict entries) = .ok found) :
    ∃ normal, found = .dict normal ∧ checkKeys [] (entries.map Prod.fst) = .ok () ∧
      ingressEntries entries = .ok normal := by
  rw [ingress] at passed
  cases keys : checkKeys [] (entries.map Prod.fst) with
  | error error => simp [keys] at passed
  | ok _ =>
    cases inner : ingressEntries entries with
    | error error => simp [keys, inner] at passed
    | ok normal =>
      simp only [keys, inner, Except.ok.injEq] at passed
      exact ⟨normal, passed.symm, rfl, rfl⟩

theorem ingress_dict_ok {entries normal : List (Key × Tree)}
    (keys : checkKeys [] (entries.map Prod.fst) = .ok ())
    (inner : ingressEntries entries = .ok normal) :
    ingress (.dict entries) = .ok (.dict normal) := by
  rw [ingress, keys, inner]

theorem ingressEntries_keys {entries found : List (Key × Tree)}
    (passed : ingressEntries entries = .ok found) :
    found.map Prod.fst = (entries.map Prod.fst).map fun key => .str (normalizedKey key) := by
  induction entries generalizing found with
  | nil =>
    cases passed
    rfl
  | cons entry rest ih =>
    obtain ⟨key, tree⟩ := entry
    obtain ⟨first, later, _, inner, rfl⟩ := ingressEntries_cons passed
    simp only [List.map_cons, ih inner]

mutual

theorem ingress_again (tree : Tree) {found : Tree} (passed : ingress tree = .ok found) :
    ingress found = .ok found := by
  cases tree with
  | scalar value =>
    cases passed
    rw [ingress, ingressScalar_twice]
  | dict entries =>
    obtain ⟨normal, rfl, keys, inner⟩ := ingress_dict passed
    have again := checkKeys_again [] _ keys
    rw [← ingressEntries_keys inner] at again
    exact ingress_dict_ok again (ingressEntries_again entries inner)
  | list items =>
    rw [ingress] at passed
    cases inner : ingressItems items with
    | error error => simp [inner, Except.map] at passed
    | ok normal =>
      simp only [inner, Except.map, Except.ok.injEq] at passed
      rw [← passed, ingress, ingressItems_again items inner]
      rfl
  | tuple items =>
    rw [ingress] at passed
    cases inner : ingressItems items with
    | error error => simp [inner, Except.map] at passed
    | ok normal =>
      simp only [inner, Except.map, Except.ok.injEq] at passed
      rw [← passed, ingress, ingressItems_again items inner]
      rfl

theorem ingressEntries_again (entries : List (Key × Tree)) {found : List (Key × Tree)}
    (passed : ingressEntries entries = .ok found) : ingressEntries found = .ok found := by
  cases entries with
  | nil =>
    cases passed
    rfl
  | cons entry rest =>
    obtain ⟨first, later, one, two, rfl⟩ := ingressEntries_cons passed
    have key : normalizedKey (.str (normalizedKey entry.1)) = normalizedKey entry.1 := by
      cases entry.1 with
      | str text => exact normalizeText_twice text
      | other => rfl
    rw [ingressEntries, ingress_again entry.2 one, ingressEntries_again rest two, key]

theorem ingressItems_again (items : List Tree) {found : List Tree}
    (passed : ingressItems items = .ok found) : ingressItems found = .ok found := by
  cases items with
  | nil =>
    cases passed
    rfl
  | cons tree rest =>
    obtain ⟨first, later, one, two, rfl⟩ := ingressItems_cons passed
    rw [ingressItems, ingress_again tree one, ingressItems_again rest two]

end

end Normal

section Unfoldings

variable {Ref : Type} {digits : Nat}

theorem ingressScalar_portable {value : Scalar} (portable : value.Portable digits) :
    ingressScalar value = value.normalized := by
  cases value with
  | float word =>
    have finite : isFinite word = true := portable
    simp [ingressScalar, finite, Scalar.normalized]
  | _ => rfl

theorem checkKeys_clean (seen : List PyText) (keys : List Key)
    (strings : ∀ key ∈ keys, ∃ text, key = .str text)
    (apart : (seen ++ keys.map normalizedKey).Nodup) : checkKeys seen keys = .ok () := by
  induction keys generalizing seen with
  | nil => rfl
  | cons key rest ih =>
    rw [List.forall_mem_cons] at strings
    obtain ⟨text, rfl⟩ := strings.1
    have fresh : normalizeText text ∉ seen := by
      intro member
      exact (List.nodup_append.mp apart).2.2 _ member _ List.mem_cons_self rfl
    have later : (normalizeText text :: seen ++ rest.map normalizedKey).Nodup :=
      List.perm_middle.nodup_iff.mp apart
    rw [checkKeys, if_neg fresh, ih _ strings.2 later]

theorem ingressItems_mapM {read : Value Ref → Option Tree} {items : List (Value Ref)}
    {trees : List Tree} (found : items.mapM read = some trees)
    (each : ∀ item ∈ items, ∀ tree, read item = some tree → ingress tree = .ok tree.normalized) :
    ingressItems trees = .ok (normalizedItems trees) := by
  induction items generalizing trees with
  | nil =>
    cases found
    rfl
  | cons item rest ih =>
    rw [List.forall_mem_cons] at each
    simp only [List.mapM_cons, Option.bind_eq_bind, Option.bind_eq_some_iff, Option.pure_def,
      Option.some.injEq] at found
    obtain ⟨first, one, later, two, rfl⟩ := found
    rw [ingressItems, each.1 first one, ih two each.2]
    rfl

theorem ingressEntries_mapM {read : Value Ref → Option Tree} {entries : List (Key × Value Ref)}
    {trees : List (Key × Tree)}
    (found : entries.mapM (fun entry => (read entry.2).map (entry.1, ·)) = some trees)
    (each : ∀ entry ∈ entries, ∀ tree, read entry.2 = some tree →
      ingress tree = .ok tree.normalized) :
    ingressEntries trees = .ok (normalizedEntries trees) ∧
      trees.map Prod.fst = entries.map Prod.fst := by
  induction entries generalizing trees with
  | nil =>
    cases found
    exact ⟨rfl, rfl⟩
  | cons entry rest ih =>
    rw [List.forall_mem_cons] at each
    simp only [List.mapM_cons, Option.bind_eq_bind, Option.bind_eq_some_iff, Option.map_eq_some_iff,
      Option.pure_def, Option.some.injEq] at found
    obtain ⟨_, ⟨first, one, rfl⟩, later, two, rfl⟩ := found
    obtain ⟨inner, keys⟩ := ih two each.2
    rw [ingressEntries, each.1 first one, inner, List.map_cons, List.map_cons, keys]
    exact ⟨rfl, rfl⟩

theorem ingress_unfold {heap : Ref → Container Ref} (clean : ∀ ref, (heap ref).Clean digits)
    (depth : Nat) (value : Value Ref)
    (portable : ∀ scalar, value = .scalar scalar → scalar.Portable digits) {tree : Tree}
    (found : unfold heap depth value = some tree) : ingress tree = .ok tree.normalized := by
  induction depth generalizing value tree with
  | zero =>
    cases value with
    | ref ref => cases found
    | scalar scalar =>
      cases found
      rw [ingress, ingressScalar_portable (portable scalar rfl)]
      rfl
  | succ depth ih =>
    cases value with
    | scalar scalar =>
      cases found
      rw [ingress, ingressScalar_portable (portable scalar rfl)]
      rfl
    | ref ref =>
      have tidy := clean ref
      have inner (child : Value Ref) (inside : child ∈ (heap ref).children) (below : Tree)
          (same : unfold heap depth child = some below) : ingress below = .ok below.normalized :=
        ih child (fun scalar held => tidy.scalars scalar (held ▸ inside)) same
      rw [unfold] at found
      cases container : heap ref with
      | dict entries =>
        rw [container] at inner tidy
        simp only [container, Option.map_eq_some_iff] at found
        obtain ⟨trees, read, rfl⟩ := found
        obtain ⟨values, keys⟩ := ingressEntries_mapM read fun entry member =>
          inner entry.2 (List.mem_map_of_mem member)
        refine ingress_dict_ok ?_ values
        rw [keys]
        refine checkKeys_clean [] _ ?_ ?_
        · intro key member
          obtain ⟨entry, held, rfl⟩ := List.mem_map.mp member
          exact tidy.strings entries rfl entry held
        · rw [List.map_map]
          exact tidy.apart entries rfl
      | list items =>
        rw [container] at inner
        simp only [container, Option.map_eq_some_iff] at found
        obtain ⟨trees, read, rfl⟩ := found
        rw [ingress, ingressItems_mapM read inner]
        rfl
      | tuple items =>
        rw [container] at inner
        simp only [container, Option.map_eq_some_iff] at found
        obtain ⟨trees, read, rfl⟩ := found
        rw [ingress, ingressItems_mapM read inner]
        rfl

theorem ingress_agrees [Fintype Ref] [DecidableEq Ref] {graph copy : Graph Ref}
    (clean : graph.Clean digits) {tree : Tree} (found : graph.unfold = some tree)
    (returns : Returns digits graph (.ok copy)) : ∃ normal, ingress tree = .ok normal ∧
      copy.unfold = some normal := by
  obtain ⟨report, other, memo, copied, reports, also⟩ := call_returns clean
  obtain ⟨fuel, ran⟩ := returns
  obtain ⟨more, again⟩ := also
  have one := ran more
  have two := again fuel
  rw [Nat.add_comm, one, Option.some.injEq] at two
  cases report with
  | error error => cases two
  | ok done =>
    obtain rfl : copy = other := Except.ok.inj two
    refine ⟨_, ingress_unfold clean.containers _ _ clean.root found, ?_⟩
    have trees := copied.unfold maxPortableContainerDepth graph.root copied.top
    rw [← copied.root] at trees
    rw [Graph.unfold, trees, ← Graph.unfold, found]
    rfl

end Unfoldings

end MonoidKernel.JsonIngress
