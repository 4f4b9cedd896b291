import MonoidKernel.Core.JsonIngressCopy
import MonoidKernel.Core.JsonIngressShape

set_option autoImplicit false

namespace MonoidKernel.JsonIngress

open Library (Walk WorkLoop.Ends WorkLoop.run WorkLoop.run_more)
open MonoidKernel.ModelContent (Text PyText normalizeUnicodeScalars pyText scalar isHighSurrogate
  isLowSurrogate)

section Texts

theorem pyText_val (character : Char) :
    (Fin.ofNat 0x110000 character.toNat : Nat) = character.toNat ∧
      isHighSurrogate character.toNat = false ∧ isLowSurrogate character.toNat = false := by
  have valid : character.toNat < 0xD800 ∨ 0xDFFF < character.toNat ∧ character.toNat < 0x110000 :=
    character.valid
  simp only [Fin.val_ofNat, isHighSurrogate, isLowSurrogate, Bool.and_eq_false_imp,
    decide_eq_true_eq, decide_eq_false_iff_not]
  omega

theorem normalizeUnicodeScalars_pyText (text : Text) :
    normalizeUnicodeScalars (pyText text) = text := by
  induction text with
  | nil => rfl
  | cons character rest ih =>
    obtain ⟨value, high, low⟩ := pyText_val character
    have alone : scalar (Fin.ofNat 0x110000 character.toNat : Nat) = character := by
      rw [value, scalar, high, low]
      exact Char.ofNat_toNat character
    cases rest with
    | nil => exact congrArg (fun found => [found]) alone
    | cons next others =>
      rw [pyText, List.map_cons] at ih ⊢
      rw [List.map_cons, normalizeUnicodeScalars, value, high, ← value, alone]
      exact congrArg (List.cons character) ih

@[simp]
theorem normalizeText_twice (text : PyText) :
    normalizeText (normalizeText text) = normalizeText text := by
  rw [normalizeText, normalizeText, normalizeUnicodeScalars_pyText]

@[simp]
theorem normalized_twice (value : Scalar) : value.normalized.normalized = value.normalized := by
  cases value <;> simp [Scalar.normalized]

theorem Scalar.Portable.normalized {digits : Nat} {value : Scalar}
    (portable : value.Portable digits) : value.normalized.Portable digits := by
  cases value <;> exact portable

end Texts

section Trees

inductive Tree where
  | scalar (value : Scalar)
  | dict (entries : List (Key × Tree))
  | list (items : List Tree)
  | tuple (items : List Tree)

mutual

def Tree.normalized : Tree → Tree
  | .scalar value => .scalar value.normalized
  | .dict entries => .dict (normalizedEntries entries)
  | .list items => .list (normalizedItems items)
  | .tuple items => .list (normalizedItems items)

def normalizedEntries : List (Key × Tree) → List (Key × Tree)
  | [] => []
  | (key, tree) :: rest => (.str (normalizedKey key), tree.normalized) :: normalizedEntries rest

def normalizedItems : List Tree → List Tree
  | [] => []
  | tree :: rest => tree.normalized :: normalizedItems rest

end

mutual

theorem Tree.normalized_twice (tree : Tree) : tree.normalized.normalized = tree.normalized := by
  cases tree with
  | scalar value => simp [Tree.normalized]
  | dict entries => simp [Tree.normalized, normalizedEntries_twice entries]
  | list items => simp [Tree.normalized, normalizedItems_twice items]
  | tuple items => simp [Tree.normalized, normalizedItems_twice items]

theorem normalizedEntries_twice (entries : List (Key × Tree)) :
    normalizedEntries (normalizedEntries entries) = normalizedEntries entries := by
  cases entries with
  | nil => rfl
  | cons entry rest =>
    obtain ⟨key, tree⟩ := entry
    have first := tree.normalized_twice
    have later := normalizedEntries_twice rest
    have key : normalizedKey (.str (normalizedKey key)) = normalizedKey key := by
      cases key with
      | str text => exact normalizeText_twice text
      | other => rfl
    simp only [normalizedEntries, first, later, key]

theorem normalizedItems_twice (items : List Tree) :
    normalizedItems (normalizedItems items) = normalizedItems items := by
  cases items with
  | nil => rfl
  | cons tree rest =>
    simp only [normalizedItems, tree.normalized_twice, normalizedItems_twice rest]

end

variable {Ref : Type}

def unfold (heap : Ref → Container Ref) : Nat → Value Ref → Option Tree
  | _, .scalar value => some (.scalar value)
  | 0, .ref _ => none
  | depth + 1, .ref ref =>
    match heap ref with
    | .dict entries =>
      (entries.mapM fun entry => (unfold heap depth entry.2).map (entry.1, ·)).map Tree.dict
    | .list items => (items.mapM (unfold heap depth)).map Tree.list
    | .tuple items => (items.mapM (unfold heap depth)).map Tree.tuple

def Graph.unfold (graph : Graph Ref) : Option Tree :=
  JsonIngress.unfold graph.heap maxPortableContainerDepth graph.root

theorem mapM_isSome {α β : Type} (read : α → Option β) (items : List α)
    (each : ∀ item ∈ items, (read item).isSome) : (items.mapM read).isSome := by
  induction items with
  | nil => rfl
  | cons item rest ih =>
    rw [List.forall_mem_cons] at each
    obtain ⟨first, found⟩ := Option.isSome_iff_exists.mp each.1
    obtain ⟨others, later⟩ := Option.isSome_iff_exists.mp (ih each.2)
    simp [List.mapM_cons, found, later]

theorem unfold_isSome {heap : Ref → Container Ref} (depth : Nat) (value : Value Ref)
    (short : ∀ ref count, value = .ref ref → Walk (Inside heap) count ref → count ≤ depth) :
    (unfold heap depth value).isSome := by
  induction depth generalizing value with
  | zero =>
    cases value with
    | scalar value => rfl
    | ref ref => exact absurd (short ref 1 rfl (Walk.one ref)) (by omega)
  | succ depth ih =>
    cases value with
    | scalar value => rfl
    | ref ref =>
      have inner (child : Value Ref) (inside : child ∈ (heap ref).children) :
          (unfold heap depth child).isSome := by
        refine ih child fun below count same walk => ?_
        subst same
        exact Nat.le_of_succ_le_succ (short ref _ rfl (walk.cons inside))
      rw [unfold]
      cases found : heap ref with
      | dict entries =>
        rw [found] at inner
        rw [Option.isSome_map]
        refine mapM_isSome _ _ fun entry member => ?_
        rw [Option.isSome_map]
        exact inner entry.2 (List.mem_map_of_mem member)
      | list items =>
        rw [found] at inner
        rw [Option.isSome_map]
        exact mapM_isSome _ _ inner
      | tuple items =>
        rw [found] at inner
        rw [Option.isSome_map]
        exact mapM_isSome _ _ inner

theorem unfold_items {read normal : Value Ref → Option Tree} (items : List (Value Ref))
    (each : ∀ item ∈ items, normal item.copied = (read item).map Tree.normalized) :
    (items.map Value.copied).mapM normal = (items.mapM read).map normalizedItems := by
  induction items with
  | nil => rfl
  | cons item rest ih =>
    rw [List.forall_mem_cons] at each
    rw [List.map_cons, List.mapM_cons, List.mapM_cons, each.1, ih each.2]
    cases read item with
    | none => rfl
    | some first => cases rest.mapM read <;> rfl

theorem unfold_entries {read normal : Value Ref → Option Tree} (entries : List (Key × Value Ref))
    (each : ∀ entry ∈ entries, normal entry.2.copied = (read entry.2).map Tree.normalized) :
    (entries.map copiedEntry).mapM (fun entry => (normal entry.2).map (entry.1, ·)) =
      (entries.mapM fun entry => (read entry.2).map (entry.1, ·)).map normalizedEntries := by
  induction entries with
  | nil => rfl
  | cons entry rest ih =>
    rw [List.forall_mem_cons] at each
    rw [List.map_cons, List.mapM_cons, List.mapM_cons, ih each.2]
    have first : normal (copiedEntry entry).2 = _ := each.1
    rw [first]
    cases read entry.2 with
    | none => rfl
    | some tree => cases rest.mapM (fun entry => (read entry.2).map (entry.1, ·)) <;> rfl

theorem Copied.unfold {graph copy : Graph Ref} {memo : Finset Ref} (copied : Copied graph copy memo)
    (depth : Nat) (value : Value Ref) (inside : ∀ ref, value = .ref ref → ref ∈ memo) :
    JsonIngress.unfold copy.heap depth value.copied =
      (JsonIngress.unfold graph.heap depth value).map Tree.normalized := by
  induction depth generalizing value with
  | zero => cases value <;> rfl
  | succ depth ih =>
    cases value with
    | scalar value => rfl
    | ref ref =>
      have member := inside ref rfl
      have children := copied.children ref member
      have each (child : Value Ref) (held : child ∈ (graph.heap ref).children) :=
        ih child fun below same => children below (same ▸ held)
      rw [Value.copied, JsonIngress.unfold, JsonIngress.unfold, copied.containers ref member]
      cases found : graph.heap ref with
      | dict entries =>
        rw [found] at each
        have inner := unfold_entries entries fun entry held =>
          each entry.2 (List.mem_map_of_mem held)
        simp only [Container.copied, inner, Option.map_map]
        rfl
      | list items =>
        rw [found] at each
        simp only [Container.copied, unfold_items items each, Option.map_map]
        rfl
      | tuple items =>
        rw [found] at each
        simp only [Container.copied, unfold_items items each, Option.map_map]
        rfl

end Trees

section Copies

variable {Ref : Type} {graph copy : Graph Ref} {memo : Finset Ref} {digits : Nat}

theorem Container.copied_children (container : Container Ref) :
    container.copied.children = container.children.map Value.copied := by
  cases container with
  | dict entries => simp [Container.copied, Container.children, copiedEntry]
  | list items => rfl
  | tuple items => rfl

theorem Value.copied_ref {value : Value Ref} {ref : Ref} :
    value.copied = .ref ref ↔ value = .ref ref := by
  cases value <;> simp [Value.copied]

theorem Copied.inside (copied : Copied graph copy memo) {node : Ref} (member : node ∈ memo)
    (child : Ref) : Inside copy.heap node child ↔ Inside graph.heap node child := by
  unfold Inside
  rw [copied.containers node member, Container.copied_children, List.mem_map]
  constructor
  · rintro ⟨value, held, same⟩
    exact Value.copied_ref.mp same ▸ held
  · exact fun held => ⟨.ref child, held, rfl⟩

theorem Copied.forth (copied : Copied graph copy memo) (node next : Ref) (member : node ∈ memo)
    (edge : Inside graph.heap node next) : next ∈ memo ∧ Inside copy.heap node next :=
  ⟨copied.children node member next edge, (copied.inside member next).mpr edge⟩

theorem Copied.back (copied : Copied graph copy memo) (node next : Ref) (member : node ∈ memo)
    (edge : Inside copy.heap node next) : next ∈ memo ∧ Inside graph.heap node next := by
  have before := (copied.inside member next).mp edge
  exact ⟨copied.children node member next before, before⟩

theorem Copied.root_iff (copied : Copied graph copy memo) (top : Ref) :
    copy.root = .ref top ↔ graph.root = .ref top := by
  rw [copied.root, Value.copied_ref]

theorem Copied.shape (copied : Copied graph copy memo) :
    (copy.Cyclic ↔ graph.Cyclic) ∧ (copy.TooDeep ↔ graph.TooDeep) := by
  refine ⟨⟨?_, ?_⟩, ⟨?_, ?_⟩⟩
  · rintro ⟨node, ⟨top, root, path⟩, cycle⟩
    have before := (copied.root_iff top).mp root
    obtain ⟨member, also⟩ := Library.reflTransGen_transfer copied.back path (copied.top top before)
    exact ⟨node, ⟨top, before, also⟩, Library.transGen_transfer copied.back cycle member⟩
  · rintro ⟨node, ⟨top, root, path⟩, cycle⟩
    obtain ⟨member, also⟩ := Library.reflTransGen_transfer copied.forth path (copied.top top root)
    exact ⟨node, ⟨top, (copied.root_iff top).mpr root, also⟩,
      Library.transGen_transfer copied.forth cycle member⟩
  · rintro ⟨top, count, root, deep, walk⟩
    have before := (copied.root_iff top).mp root
    exact ⟨top, count, before, deep, walk.transfer copied.back (copied.top top before)⟩
  · rintro ⟨top, count, root, deep, walk⟩
    exact ⟨top, count, (copied.root_iff top).mpr root, deep,
      walk.transfer copied.forth (copied.top top root)⟩

theorem Container.Clean.copied {container : Container Ref} (clean : container.Clean digits) :
    container.copied.Clean digits := by
  constructor
  · intro value member
    rw [Container.copied_children, List.mem_map] at member
    obtain ⟨source, held, same⟩ := member
    cases source with
    | ref ref => cases same
    | scalar before =>
      cases same
      exact (clean.scalars before held).normalized
  · intro entries same entry member
    cases container with
    | list items => cases same
    | tuple items => cases same
    | dict before =>
      cases same
      obtain ⟨source, _, rfl⟩ := List.mem_map.mp member
      exact ⟨_, rfl⟩
  · intro entries same
    cases container with
    | list items => cases same
    | tuple items => cases same
    | dict before =>
      cases same
      have keys : (before.map copiedEntry).map (fun entry => normalizedKey entry.1) =
          before.map fun entry => normalizedKey entry.1 := by
        rw [List.map_map]
        refine List.map_congr_left fun entry member => ?_
        obtain ⟨text, key⟩ := clean.strings before rfl entry member
        simp [copiedEntry, key, normalizedKey]
      rw [keys]
      exact clean.apart before rfl

theorem Copied.clean (copied : Copied graph copy memo) (clean : graph.Clean digits) :
    copy.Clean digits where
  containers := by
    intro ref
    by_cases member : ref ∈ memo
    · rw [copied.containers ref member]
      exact (clean.containers ref).copied
    · rw [copied.outside ref member]
      constructor <;> simp [Container.children]
  root := by
    intro value root
    rw [copied.root] at root
    cases source : graph.root with
    | ref ref =>
      rw [source] at root
      cases root
    | scalar before =>
      rw [source] at root
      cases root
      exact (clean.root before source).normalized

end Copies

section Calls

variable {Ref : Type}

variable {graph : Graph Ref}

theorem unfold_accepted (shallow : ¬graph.TooDeep) : graph.unfold.isSome := by
  refine unfold_isSome _ _ fun ref count root walk => ?_
  by_contra deep
  exact shallow ⟨ref, count, root, Nat.lt_of_not_le deep, walk⟩

theorem Graph.Reports.refused {error : IngressError} (reports : graph.Reports (.error error)) :
    error.isUnportableContainer = true ∧ (graph.Cyclic ∨ graph.TooDeep) ∧
      (error = .containerCycle → graph.Cyclic) := by
  cases error with
  | containerCycle => exact ⟨rfl, Or.inl reports, fun _ => reports⟩
  | containerTooDeep => exact ⟨rfl, Or.inr reports, fun same => nomatch same⟩
  | _ => exact False.elim reports

variable [DecidableEq Ref]

def Returns (digits : Nat) (graph : Graph Ref) (outcome : Except IngressError (Graph Ref)) : Prop :=
  ∃ fuel, ∀ more, normalizeJsonIngress (fuel + more) refusing digits graph = some outcome

theorem returns_of_loops {digits : Nat} {copy : Graph Ref} {report : Except IngressError Unit}
    (copies : WorkLoop.Ends (copyStep refusing digits graph.heap) (startCopying graph.root)
      (.ok copy)) (reports : WorkLoop.Ends (shapeStep copy.heap) (startShape copy.root) report) :
    Returns digits graph (report.map fun _ => copy) := by
  obtain ⟨first, copied⟩ := copies
  obtain ⟨second, checked⟩ := reports
  refine ⟨first + second, fun more => ?_⟩
  have whole := WorkLoop.run_more copied (second + more)
  have shape := WorkLoop.run_more checked (first + more)
  rw [← Nat.add_assoc] at whole
  rw [← Nat.add_assoc, Nat.add_comm second first] at shape
  rw [normalizeJsonIngress, whole]
  simp only [refuseUnportableShape, shape, refusing, if_true]
  cases report <;> rfl

variable [Fintype Ref] {digits : Nat}

theorem call_returns (clean : graph.Clean digits) :
    ∃ report copy memo, Copied graph copy memo ∧ graph.Reports report ∧
      Returns digits graph (report.map fun _ => copy) := by
  obtain ⟨copy, memo, copied, copies⟩ := copying_ends clean
  obtain ⟨report, reports, checked⟩ := shape_ends copy
  refine ⟨report, copy, memo, copied, ?_, returns_of_loops copies checked⟩
  obtain ⟨cyclic, deep⟩ := copied.shape
  cases report with
  | ok done => exact ⟨mt cyclic.mpr reports.1, mt deep.mpr reports.2⟩
  | error error =>
    cases error with
    | containerCycle => exact cyclic.mp reports
    | containerTooDeep => exact deep.mp reports
    | _ => exact False.elim reports

theorem ingress_exact (digits : Nat) (graph : Graph Ref) (clean : graph.Clean digits) :
    ∃ outcome, Returns digits graph outcome ∧
      ((∃ error, outcome = .error error ∧ error.isUnportableContainer = true) ↔
        graph.Cyclic ∨ graph.TooDeep) ∧
      (outcome = .error .containerCycle → graph.Cyclic) ∧
      (∀ error, outcome = .error error → error.isUnportableContainer = true) ∧
      ∀ copy, outcome = .ok copy →
        (∃ tree, graph.unfold = some tree ∧ copy.unfold = some tree.normalized) ∧
        ∃ again, Returns digits copy (.ok again) ∧ again.unfold = copy.unfold := by
  obtain ⟨report, copy, memo, copied, reports, returns⟩ := call_returns clean
  cases report with
  | error error =>
    obtain ⟨unportable, refused, cyclic⟩ := reports.refused
    have raised : ∃ other, Except.error error = (.error other : Except IngressError (Graph Ref)) ∧
        other.isUnportableContainer = true := ⟨error, rfl, unportable⟩
    refine ⟨.error error, returns, ⟨fun _ => refused, fun _ => raised⟩, ?_, ?_, ?_⟩
    · exact fun same => cyclic (Except.error.inj same)
    · exact fun other same => Except.error.inj same ▸ unportable
    · intro other same
      cases same
  | ok done =>
    obtain ⟨acyclic, shallow⟩ := reports
    refine ⟨.ok copy, returns, ⟨?_, ?_⟩, ?_, ?_, ?_⟩
    · rintro ⟨error, same, _⟩
      cases same
    · exact fun refused => absurd refused (not_or.mpr ⟨acyclic, shallow⟩)
    · intro same
      cases same
    · intro error same
      cases same
    · intro other same
      obtain rfl : copy = other := Except.ok.inj same
      have trees := copied.unfold maxPortableContainerDepth graph.root copied.top
      rw [← copied.root] at trees
      obtain ⟨tree, found⟩ := Option.isSome_iff_exists.mp (unfold_accepted shallow)
      have normalized : copy.unfold = some tree.normalized := by
        rw [Graph.unfold, trees, ← Graph.unfold, found]
        rfl
      refine ⟨⟨tree, found, normalized⟩, ?_⟩
      obtain ⟨second, again, visited, twice, also, returned⟩ := call_returns (copied.clean clean)
      obtain ⟨cyclic, deep⟩ := copied.shape
      have accepted : second = .ok () := by
        cases second with
        | ok done => rfl
        | error error =>
          rcases also.refused.2.1 with cycle | path
          · exact absurd (cyclic.mp cycle) acyclic
          · exact absurd (deep.mp path) shallow
      subst accepted
      refine ⟨again, returned, ?_⟩
      have copies := twice.unfold maxPortableContainerDepth copy.root twice.top
      rw [← twice.root] at copies
      rw [Graph.unfold, copies, ← Graph.unfold, normalized, Option.map_some, Tree.normalized_twice]

def sharedTuple : Graph Bool where
  heap
    | false => .dict [(.str [97], .ref true), (.str [98], .ref true)]
    | true => .tuple [.scalar (.str [0xD83D, 0xDE00])]
  root := .ref false

theorem sharedTuple_clean : sharedTuple.Clean 4300 := by
  refine ⟨fun ref => ?_, fun value root => nomatch root⟩
  cases ref with
  | true =>
    refine ⟨fun value member => ?_, fun _ same => (nomatch same), fun _ same => (nomatch same)⟩
    obtain rfl : value = .str [0xD83D, 0xDE00] := by
      simpa [sharedTuple, Container.children] using member
    trivial
  | false =>
    refine ⟨fun value member => ?_, fun entries same => ?_, fun entries same => ?_⟩
    · simp [sharedTuple, Container.children] at member
    · cases same
      intro entry member
      rcases List.mem_pair.mp member with rfl | rfl
      · exact ⟨_, rfl⟩
      · exact ⟨_, rfl⟩
    · cases same
      decide

theorem ingress_exact_shared : ∃ outcome, Returns 4300 sharedTuple outcome ∧
    (outcome = .error .containerCycle → sharedTuple.Cyclic) := by
  obtain ⟨outcome, returns, _, cyclic, _⟩ := ingress_exact 4300 sharedTuple sharedTuple_clean
  exact ⟨outcome, returns, cyclic⟩

end Calls

end MonoidKernel.JsonIngress
