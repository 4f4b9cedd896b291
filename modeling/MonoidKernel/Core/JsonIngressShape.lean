import Mathlib.Algebra.BigOperators.Group.Finset.Basic
import MonoidKernel.Core.JsonIngress
import MonoidKernel.Library.Walks

set_option autoImplicit false

namespace MonoidKernel.JsonIngress

open Library (Walk WorkLoop.Ends)

variable {Ref : Type}

section Paths

def Inside (heap : Ref → Container Ref) (node child : Ref) : Prop :=
  .ref child ∈ (heap node).children

def Graph.Reaches (graph : Graph Ref) (node : Ref) : Prop :=
  ∃ top, graph.root = .ref top ∧ Relation.ReflTransGen (Inside graph.heap) top node

def Graph.Cyclic (graph : Graph Ref) : Prop :=
  ∃ node, graph.Reaches node ∧ Relation.TransGen (Inside graph.heap) node node

def Graph.TooDeep (graph : Graph Ref) : Prop :=
  ∃ top count, graph.root = .ref top ∧ maxPortableContainerDepth < count ∧
    Walk (Inside graph.heap) count top

theorem Graph.TooDeep.of_walk {graph : Graph Ref} {node : Ref} (reached : graph.Reaches node)
    {count : Nat} (deep : maxPortableContainerDepth < count)
    (walk : Walk (Inside graph.heap) count node) : graph.TooDeep := by
  obtain ⟨top, root, path⟩ := reached
  obtain ⟨more, longer, walks⟩ := walk.extend path
  exact ⟨top, more, root, by omega, walks⟩

theorem mem_refs {heap : Ref → Container Ref} {node child : Ref} :
    child ∈ (heap node).children.filterMap Value.ref? ↔ Inside heap node child := by
  rw [List.mem_filterMap]
  constructor
  · rintro ⟨value, member, ref⟩
    cases value with
    | scalar value => cases ref
    | ref held =>
      cases ref
      exact member
  · exact fun inside => ⟨.ref child, inside, rfl⟩

end Paths

section Heights

variable {settled : Ref → Option Nat}

theorem foldl_max (heights : List Nat) (least : Nat) :
    (∀ height ∈ heights, height ≤ heights.foldl max least) ∧ least ≤ heights.foldl max least ∧
      (heights.foldl max least = least ∨ heights.foldl max least ∈ heights) := by
  induction heights generalizing least with
  | nil => simp
  | cons height rest ih =>
    obtain ⟨above, larger, found⟩ := ih (max least height)
    rw [List.foldl_cons, List.forall_mem_cons, List.mem_cons]
    refine ⟨⟨by omega, above⟩, by omega, ?_⟩
    rcases found with same | member
    · omega
    · exact Or.inr (Or.inr member)

theorem tallestChild_settled {children : List Ref}
    (all : ∀ child ∈ children, (settled child).isSome) :
    ∃ tallest, tallestChild settled children = some tallest ∧
      (∀ child ∈ children, ∃ height, settled child = some height ∧ height ≤ tallest) ∧
      (tallest = 0 ∨ ∃ child ∈ children, settled child = some tallest) := by
  have heights : ∃ heights, children.mapM settled = some heights ∧
      (∀ child ∈ children, ∃ height ∈ heights, settled child = some height) ∧
      ∀ height ∈ heights, ∃ child ∈ children, settled child = some height := by
    induction children with
    | nil => exact ⟨[], by simp, by simp, by simp⟩
    | cons child rest ih =>
      rw [List.forall_mem_cons] at all
      obtain ⟨height, first⟩ := Option.isSome_iff_exists.mp all.1
      obtain ⟨heights, found, each, origin⟩ := ih all.2
      refine ⟨height :: heights, by simp [List.mapM_cons, first, found], ?_, ?_⟩
      · rw [List.forall_mem_cons]
        refine ⟨⟨height, List.mem_cons_self, first⟩, fun other member => ?_⟩
        obtain ⟨held, among, same⟩ := each other member
        exact ⟨held, List.mem_cons_of_mem _ among, same⟩
      · rw [List.forall_mem_cons]
        refine ⟨⟨child, List.mem_cons_self, first⟩, fun held member => ?_⟩
        obtain ⟨other, among, same⟩ := origin held member
        exact ⟨other, List.mem_cons_of_mem _ among, same⟩
  obtain ⟨heights, found, each, origin⟩ := heights
  obtain ⟨above, _, reached⟩ := foldl_max heights 0
  refine ⟨heights.foldl max 0, by simp [tallestChild, found], fun child member => ?_, ?_⟩
  · obtain ⟨height, among, same⟩ := each child member
    exact ⟨height, same, above height among⟩
  · exact reached.imp id (origin _)

end Heights

section Stack

def leavingRefs : List (Value Ref × Bool) → List Ref
  | [] => []
  | (.ref node, true) :: rest => node :: leavingRefs rest
  | _ :: rest => leavingRefs rest

def stackRefs : List (Value Ref × Bool) → List Ref
  | [] => []
  | (.scalar _, _) :: rest => stackRefs rest
  | (.ref node, _) :: rest => node :: stackRefs rest

-- Above a container that is being left stand its descendants, and among them each child that has no
-- height yet.
def Framed (heap : Ref → Container Ref) (settled : Ref → Option Nat) :
    List Ref → List (Value Ref × Bool) → Prop
  | _, [] => True
  | above, (.scalar _, _) :: rest => Framed heap settled above rest
  | above, (.ref node, leaving) :: rest =>
    (leaving = true →
      (∀ child, Inside heap node child → (settled child).isSome ∨ child ∈ above) ∧
      ∀ other ∈ above, Relation.TransGen (Inside heap) node other) ∧
    Framed heap settled (node :: above) rest

variable {heap : Ref → Container Ref}

theorem Framed.mono {settled later : Ref → Option Nat} {stack : List (Value Ref × Bool)}
    {above other : List Ref} (framed : Framed heap settled above stack)
    (covers : ∀ child, (settled child).isSome ∨ child ∈ above →
      (later child).isSome ∨ child ∈ other)
    (descends : ∀ child ∈ other, ∃ parent ∈ above,
      Relation.ReflTransGen (Inside heap) parent child) : Framed heap later other stack := by
  induction stack generalizing above other with
  | nil => trivial
  | cons entry rest ih =>
    obtain ⟨value, leaving⟩ := entry
    cases value with
    | scalar value =>
      have deeper : Framed heap settled above rest := framed
      exact ih deeper covers descends
    | ref node =>
      obtain ⟨frame, below⟩ := framed
      refine ⟨fun leaves => ?_, ih below ?_ ?_⟩
      · obtain ⟨covered, reached⟩ := frame leaves
        refine ⟨fun child inside => covers child (covered child inside), fun child member => ?_⟩
        obtain ⟨parent, among, path⟩ := descends child member
        exact (reached parent among).trans_left path
      · intro child held
        rcases held with done | member
        · exact (covers child (Or.inl done)).imp id (List.mem_cons_of_mem _)
        · rcases List.mem_cons.mp member with rfl | among
          · exact Or.inr List.mem_cons_self
          · exact (covers child (Or.inr among)).imp id (List.mem_cons_of_mem _)
      · intro child member
        rcases List.mem_cons.mp member with rfl | among
        · exact ⟨child, List.mem_cons_self, .refl⟩
        · obtain ⟨parent, held, path⟩ := descends child among
          exact ⟨parent, List.mem_cons_of_mem _ held, path⟩

theorem Framed.cycle {settled : Ref → Option Nat} {stack : List (Value Ref × Bool)}
    {above : List Ref} (framed : Framed heap settled above stack) {node : Ref}
    (leaves : node ∈ leavingRefs stack) (stands : node ∈ above) :
    Relation.TransGen (Inside heap) node node := by
  induction stack generalizing above with
  | nil => cases leaves
  | cons entry rest ih =>
    obtain ⟨value, leaving⟩ := entry
    cases value with
    | scalar value =>
      have deeper : Framed heap settled above rest := framed
      exact ih deeper (by simpa [leavingRefs] using leaves) stands
    | ref other =>
      have deeper := ih framed.2
      cases leaving with
      | false => exact deeper (by simpa [leavingRefs] using leaves) (List.mem_cons_of_mem _ stands)
      | true =>
        rcases List.mem_cons.mp leaves with rfl | further
        · exact (framed.1 rfl).2 _ stands
        · exact deeper further (List.mem_cons_of_mem _ stands)

structure Settled (heap : Ref → Container Ref) (settled : Ref → Option Nat) (node : Ref)
    (height : Nat) : Prop where
  bound : height ≤ maxPortableContainerDepth
  children : ∀ child, Inside heap node child → ∃ lower, settled child = some lower ∧ lower < height
  walk : Walk (Inside heap) height node

structure Shape.Inv (graph : Graph Ref) (shape : Shape Ref) : Prop where
  onPath : ∀ node, node ∈ shape.onPath ↔ node ∈ leavingRefs shape.stack
  once : (leavingRefs shape.stack).Nodup
  unsettled : ∀ node ∈ shape.onPath, shape.settled node = none
  settled : ∀ node height, shape.settled node = some height →
    Settled graph.heap shape.settled node height
  framed : Framed graph.heap shape.settled [] shape.stack
  reached : ∀ node ∈ stackRefs shape.stack, graph.Reaches node
  top : ∀ top, graph.root = .ref top →
    (shape.settled top).isSome ∨ top ∈ stackRefs shape.stack

theorem shape_start (graph : Graph Ref) : (startShape graph.root).Inv graph where
  onPath := by
    intro node
    cases root : graph.root <;> simp [startShape, leavingRefs]
  once := by cases root : graph.root <;> simp [startShape, leavingRefs]
  unsettled := fun _ _ => rfl
  settled := fun _ _ found => nomatch found
  framed := by cases root : graph.root <;> simp [startShape, Framed]
  reached := by
    intro node member
    cases root : graph.root with
    | scalar value => simp [startShape, root, stackRefs] at member
    | ref top =>
      simp only [startShape, root, stackRefs, List.mem_singleton] at member
      exact ⟨top, root, member ▸ .refl⟩
  top := by
    intro top root
    simp [startShape, root, stackRefs]

end Stack

section Turns

variable {graph : Graph Ref} {shape : Shape Ref} {rest : List (Value Ref × Bool)}

theorem Shape.Inv.scalar (inv : shape.Inv graph) {value : Scalar} {leaving : Bool}
    (stack : shape.stack = (.scalar value, leaving) :: rest) :
    Shape.Inv graph { shape with stack := rest } := by
  have path : leavingRefs shape.stack = leavingRefs rest := by
    rw [stack]
    cases leaving <;> rfl
  have refs : stackRefs shape.stack = stackRefs rest := by
    rw [stack]
    rfl
  have framed := inv.framed
  rw [stack] at framed
  exact
    { onPath := fun node => path ▸ inv.onPath node
      once := path ▸ inv.once
      unsettled := inv.unsettled
      settled := inv.settled
      framed := framed
      reached := refs ▸ inv.reached
      top := refs ▸ inv.top }

variable {node : Ref}

theorem Shape.Inv.skip (inv : shape.Inv graph) (stack : shape.stack = (.ref node, false) :: rest)
    (done : (shape.settled node).isSome) :
    Shape.Inv graph { shape with stack := rest } := by
  have path : leavingRefs shape.stack = leavingRefs rest := by
    rw [stack]
    rfl
  have refs : stackRefs shape.stack = node :: stackRefs rest := by
    rw [stack]
    rfl
  have framed := inv.framed
  rw [stack] at framed
  exact
    { onPath := fun other => path ▸ inv.onPath other
      once := path ▸ inv.once
      unsettled := inv.unsettled
      settled := inv.settled
      framed := by
        refine framed.2.mono (fun child held => Or.inl ?_) (by simp)
        rcases held with height | above
        · exact height
        · obtain rfl := List.mem_singleton.mp above
          exact done
      reached := fun other member => inv.reached other (refs ▸ List.mem_cons_of_mem _ member)
      top := by
        intro top root
        rcases inv.top top root with height | stands
        · exact Or.inl height
        · rw [refs] at stands
          rcases List.mem_cons.mp stands with rfl | below
          · exact Or.inl done
          · exact Or.inr below }

theorem Shape.Inv.cyclic (inv : shape.Inv graph) (stack : shape.stack = (.ref node, false) :: rest)
    (meets : node ∈ shape.onPath) :
    graph.Cyclic := by
  have leaves : node ∈ leavingRefs rest := by
    have found := (inv.onPath node).mp meets
    rw [stack] at found
    exact found
  have framed := inv.framed
  rw [stack] at framed
  have reached := inv.reached node (by simp [stack, stackRefs])
  exact ⟨node, reached, framed.2.cycle leaves List.mem_cons_self⟩

theorem Shape.Inv.tallest (inv : shape.Inv graph)
    (stack : shape.stack = (.ref node, true) :: rest) :
    ∃ tallest, tallestChild shape.settled ((graph.heap node).children.filterMap Value.ref?) =
        some tallest ∧
      (∀ child, Inside graph.heap node child →
        ∃ lower, shape.settled child = some lower ∧ lower < tallest + 1) ∧
      Walk (Inside graph.heap) (tallest + 1) node := by
  have framed := inv.framed
  rw [stack] at framed
  obtain ⟨covered, _⟩ := framed.1 rfl
  have all (child : Ref) (member : child ∈ (graph.heap node).children.filterMap Value.ref?) :
      (shape.settled child).isSome :=
    (covered child (mem_refs.mp member)).resolve_right (by simp)
  obtain ⟨tallest, found, each, origin⟩ := tallestChild_settled all
  refine ⟨tallest, found, fun child inside => ?_, ?_⟩
  · obtain ⟨height, settled, bound⟩ := each child (mem_refs.mpr inside)
    exact ⟨height, settled, Nat.lt_succ_of_le bound⟩
  · rcases origin with rfl | ⟨child, member, settled⟩
    · exact Walk.one node
    · exact (inv.settled child tallest settled).walk.cons (mem_refs.mp member)

variable [DecidableEq Ref]

theorem Shape.Inv.descend (inv : shape.Inv graph) (stack : shape.stack = (.ref node, false) :: rest)
    (apart : node ∉ shape.onPath) (fresh : shape.settled node = none) :
    Shape.Inv graph
      { shape with
        onPath := insert node shape.onPath
        stack := (graph.heap node).children.reverse.map (fun child => (child, false)) ++
          (.ref node, true) :: rest } := by
  have path : leavingRefs shape.stack = leavingRefs rest := by
    rw [stack]
    rfl
  have refs : stackRefs shape.stack = node :: stackRefs rest := by
    rw [stack]
    rfl
  have framed := inv.framed
  rw [stack] at framed
  have leaves (some : List (Value Ref)) (behind : List (Value Ref × Bool)) :
      leavingRefs (some.map (fun child => (child, false)) ++ behind) = leavingRefs behind := by
    induction some with
    | nil => rfl
    | cons child others ih => simpa [leavingRefs] using ih
  have stands (some : List (Value Ref)) (behind : List (Value Ref × Bool)) :
      stackRefs (some.map (fun child => (child, false)) ++ behind) =
        some.filterMap Value.ref? ++ stackRefs behind := by
    induction some with
    | nil => rfl
    | cons child others ih =>
      cases child with
      | scalar value => simpa [stackRefs, List.filterMap_cons, Value.ref?] using ih
      | ref held => simpa [stackRefs, List.filterMap_cons, Value.ref?] using ih
  have frames (some : List (Value Ref)) (above : List Ref) (behind : List (Value Ref × Bool)) :
      Framed graph.heap shape.settled above (some.map (fun child => (child, false)) ++ behind) ↔
        Framed graph.heap shape.settled ((some.filterMap Value.ref?).reverse ++ above) behind := by
    induction some generalizing above with
    | nil => rfl
    | cons child others ih =>
      cases child with
      | scalar value => simpa [Framed, List.filterMap_cons, Value.ref?] using ih above
      | ref held => simpa [Framed, List.filterMap_cons, Value.ref?] using ih (held :: above)
  have children (child : Ref) :
      child ∈ (graph.heap node).children.reverse.filterMap Value.ref? ↔
        Inside graph.heap node child := by
    rw [List.filterMap_reverse, List.mem_reverse, mem_refs]
  have reached := inv.reached node (refs ▸ List.mem_cons_self)
  constructor
  · intro other
    rw [leaves, leavingRefs, Finset.mem_insert, List.mem_cons, inv.onPath, path]
  · rw [leaves, leavingRefs, List.nodup_cons, ← path]
    exact ⟨fun member => apart ((inv.onPath node).mpr member), inv.once⟩
  · intro other member
    rcases Finset.mem_insert.mp member with rfl | earlier
    · exact fresh
    · exact inv.unsettled other earlier
  · exact inv.settled
  · refine (frames _ _ _).mpr ⟨fun _ => ⟨fun child inside => Or.inr ?_, fun other above => ?_⟩, ?_⟩
    · simpa using (children child).mpr inside
    · exact .single ((children other).mp (by simpa using above))
    · refine framed.2.mono (fun child held => held.imp id fun above => ?_) fun child above => ?_
      · obtain rfl := List.mem_singleton.mp above
        exact List.mem_cons_self
      · refine ⟨node, List.mem_singleton_self node, ?_⟩
        rcases List.mem_cons.mp above with rfl | member
        · exact .refl
        · exact .single ((children child).mp (by simpa using member))
  · intro other member
    rw [stands, List.mem_append, children, stackRefs, List.mem_cons] at member
    rcases member with inside | rfl | below
    · obtain ⟨top, root, walk⟩ := reached
      exact ⟨top, root, walk.tail inside⟩
    · exact reached
    · exact inv.reached other (refs ▸ List.mem_cons_of_mem _ below)
  · intro top root
    rw [stands, stackRefs, List.mem_append, ← refs]
    exact (inv.top top root).imp id Or.inr

theorem Shape.Inv.leave (inv : shape.Inv graph) (stack : shape.stack = (.ref node, true) :: rest)
    {height : Nat} (bound : height ≤ maxPortableContainerDepth)
    (lower : ∀ child, Inside graph.heap node child →
      ∃ low, shape.settled child = some low ∧ low < height)
    (walk : Walk (Inside graph.heap) height node) :
    Shape.Inv graph
      { settled := Function.update shape.settled node (some height)
        onPath := shape.onPath.erase node
        stack := rest } := by
  have path : leavingRefs shape.stack = node :: leavingRefs rest := by
    rw [stack]
    rfl
  have refs : stackRefs shape.stack = node :: stackRefs rest := by
    rw [stack]
    rfl
  have framed := inv.framed
  rw [stack] at framed
  have once := inv.once
  rw [path, List.nodup_cons] at once
  have fresh := inv.unsettled node ((inv.onPath node).mpr (path ▸ List.mem_cons_self))
  -- A container with a height is another one, so its height stays.
  have stays {other : Ref} {low : Nat} (found : shape.settled other = some low) :
      Function.update shape.settled node (some height) other = some low := by
    refine (Function.update_of_ne (fun same => ?_) ..).trans found
    rw [same, fresh] at found
    cases found
  have grows {other : Ref} (done : (shape.settled other).isSome) :
      (Function.update shape.settled node (some height) other).isSome := by
    obtain ⟨low, found⟩ := Option.isSome_iff_exists.mp done
    rw [stays found]
    rfl
  have here : Function.update shape.settled node (some height) node = some height :=
    Function.update_self ..
  have kept {other : Ref} {size : Nat}
      (below : ∀ child, Inside graph.heap other child →
        ∃ low, shape.settled child = some low ∧ low < size)
      (child : Ref) (inside : Inside graph.heap other child) :
      ∃ low, Function.update shape.settled node (some height) child = some low ∧ low < size := by
    obtain ⟨low, found, less⟩ := below child inside
    exact ⟨low, stays found, less⟩
  constructor
  · intro other
    rw [Finset.mem_erase, inv.onPath, path, List.mem_cons]
    constructor
    · exact fun both => both.2.resolve_left both.1
    · refine fun below => ⟨fun same => ?_, Or.inr below⟩
      subst same
      exact once.1 below
  · exact once.2
  · intro other member
    rw [Finset.mem_erase] at member
    exact (Function.update_of_ne member.1 ..).trans (inv.unsettled other member.2)
  · intro other size found
    by_cases same : other = node
    · subst same
      obtain rfl : height = size := Option.some.inj (here.symm.trans found)
      exact ⟨bound, kept lower, walk⟩
    · have before := inv.settled other size ((Function.update_of_ne same ..).symm.trans found)
      exact ⟨before.bound, kept before.children, before.walk⟩
  · refine framed.2.mono (fun child held => Or.inl ?_) (by simp)
    rcases held with done | above
    · exact grows done
    · obtain rfl := List.mem_singleton.mp above
      exact Option.isSome_of_eq_some here
  · exact fun other member => inv.reached other (refs ▸ List.mem_cons_of_mem _ member)
  · intro top root
    rcases inv.top top root with done | stands
    · exact Or.inl (grows done)
    · rw [refs] at stands
      rcases List.mem_cons.mp stands with rfl | below
      · exact Or.inl (Option.isSome_of_eq_some here)
      · exact Or.inr below

end Turns

section Runs

variable {graph : Graph Ref}

def Graph.Reports (graph : Graph Ref) : Except IngressError Unit → Prop
  | .ok _ => ¬graph.Cyclic ∧ ¬graph.TooDeep
  | .error .containerCycle => graph.Cyclic
  | .error .containerTooDeep => graph.TooDeep
  | .error _ => False

variable {shape : Shape Ref}

theorem Shape.Inv.accepts (inv : shape.Inv graph) (finished : shape.stack = []) :
    ¬graph.Cyclic ∧ ¬graph.TooDeep := by
  have settled (node : Ref) (reached : graph.Reaches node) : (shape.settled node).isSome := by
    obtain ⟨top, root, path⟩ := reached
    induction path with
    | refl =>
      refine (inv.top top root).resolve_right ?_
      rw [finished]
      exact List.not_mem_nil
    | tail _ inside ih =>
      obtain ⟨height, found⟩ := Option.isSome_iff_exists.mp ih
      obtain ⟨lower, below, _⟩ := (inv.settled _ height found).children _ inside
      exact Option.isSome_of_eq_some below
  have bounded {node : Ref} (reached : graph.Reaches node) {count : Nat}
      (walk : Walk (Inside graph.heap) count node) : count ≤ maxPortableContainerDepth := by
    obtain ⟨height, found⟩ := Option.isSome_iff_exists.mp (settled node reached)
    have heights := walk.le_height (fun other => (shape.settled other).getD 0)
      (fun other => (shape.settled other).isSome)
      (fun other has => by
        obtain ⟨size, held⟩ := Option.isSome_iff_exists.mp has
        rw [held]
        exact (inv.settled other size held).walk.positive)
      (fun other next has inside => by
        obtain ⟨size, held⟩ := Option.isSome_iff_exists.mp has
        obtain ⟨lower, below, less⟩ := (inv.settled other size held).children next inside
        rw [held, below]
        exact ⟨rfl, less⟩)
      (settled node reached)
    rw [found] at heights
    exact heights.trans (inv.settled node height found).bound
  constructor
  · rintro ⟨node, reached, cycle⟩
    obtain ⟨count, longer, walk⟩ := Walk.around cycle maxPortableContainerDepth
    exact absurd (bounded reached walk) (by omega)
  · rintro ⟨top, count, root, longer, walk⟩
    exact absurd (bounded ⟨top, root, .refl⟩ walk) (by omega)

variable [DecidableEq Ref] [Fintype Ref]

def Shape.ahead (shape : Shape Ref) : Finset Ref :=
  Finset.univ.filter fun node => node ∉ shape.onPath ∧ shape.settled node = none

def Shape.left (heap : Ref → Container Ref) (shape : Shape Ref) : Nat :=
  shape.stack.length + ∑ node ∈ shape.ahead, ((heap node).children.length + 1)

variable {rest : List (Value Ref × Bool)}

theorem left_descend {node : Ref} (stack : shape.stack = (.ref node, false) :: rest)
    (apart : node ∉ shape.onPath) (fresh : shape.settled node = none) :
    Shape.left graph.heap
      { shape with
        onPath := insert node shape.onPath
        stack := (graph.heap node).children.reverse.map (fun child => (child, false)) ++
          (.ref node, true) :: rest } < shape.left graph.heap := by
  have fewer : Shape.ahead { shape with onPath := insert node shape.onPath } =
      shape.ahead.erase node := by
    ext other
    simp only [Shape.ahead, Finset.mem_filter, Finset.mem_univ, true_and, Finset.mem_erase,
      Finset.mem_insert, not_or]
    exact and_assoc
  have member : node ∈ shape.ahead := by simp [Shape.ahead, apart, fresh]
  have work := Finset.add_sum_erase shape.ahead (fun node => (graph.heap node).children.length + 1)
    member
  rw [← fewer] at work
  simp only [Shape.left, Shape.ahead, List.length_append, List.length_map, List.length_reverse,
    List.length_cons, stack] at work ⊢
  omega

theorem left_leave {node : Ref} (stack : shape.stack = (.ref node, true) :: rest)
    (onPath : node ∈ shape.onPath) (height : Nat) :
    Shape.left graph.heap
      { settled := Function.update shape.settled node (some height)
        onPath := shape.onPath.erase node
        stack := rest } < shape.left graph.heap := by
  have same : Shape.ahead
      { settled := Function.update shape.settled node (some height)
        onPath := shape.onPath.erase node
        stack := rest } = shape.ahead := by
    ext other
    simp only [Shape.ahead, Finset.mem_filter, Finset.mem_univ, true_and, Finset.mem_erase]
    by_cases here : other = node
    · simp [here, onPath]
    · simp [here]
  rw [Shape.left, Shape.left, same, stack]
  exact Nat.add_lt_add_right (Nat.lt_succ_self _) _

theorem left_pop {entry : Value Ref × Bool} (stack : shape.stack = entry :: rest) :
    Shape.left graph.heap { shape with stack := rest } < shape.left graph.heap := by
  simp [Shape.left, Shape.ahead, stack]

theorem Shape.Inv.step (inv : shape.Inv graph) :
    (∃ report, shapeStep graph.heap shape = .inl report ∧ graph.Reports report) ∨
      ∃ next, shapeStep graph.heap shape = .inr next ∧ next.Inv graph ∧
        next.left graph.heap < shape.left graph.heap := by
  rcases stack : shape.stack with _ | ⟨⟨value, leaving⟩, rest⟩
  · exact Or.inl ⟨.ok (), by simp only [shapeStep, stack], inv.accepts stack⟩
  · cases value with
    | scalar value =>
      exact Or.inr ⟨_, by simp only [shapeStep, stack], inv.scalar stack, left_pop stack⟩
    | ref node =>
      have reached : graph.Reaches node := inv.reached node (by simp [stack, stackRefs])
      cases leaving with
      | true =>
        obtain ⟨tallest, found, lower, walk⟩ := inv.tallest stack
        have onPath : node ∈ shape.onPath := (inv.onPath node).mpr (by simp [stack, leavingRefs])
        by_cases deep : tallest + 1 > maxPortableContainerDepth
        · refine Or.inl ⟨.error .containerTooDeep, ?_, .of_walk reached deep walk⟩
          simp only [shapeStep, stack, found, if_pos deep]
        · refine Or.inr ⟨_, ?_, inv.leave stack (Nat.le_of_not_lt deep) lower walk,
            left_leave stack onPath _⟩
          simp only [shapeStep, stack, found, if_neg deep]
      | false =>
        by_cases meets : node ∈ shape.onPath
        · refine Or.inl ⟨.error .containerCycle, ?_, inv.cyclic stack meets⟩
          simp only [shapeStep, stack, if_pos meets]
        · cases found : shape.settled node with
          | some height =>
            have done : (shape.settled node).isSome := Option.isSome_of_eq_some found
            refine Or.inr ⟨_, ?_, inv.skip stack done, left_pop stack⟩
            simp only [shapeStep, stack, if_neg meets, if_pos done]
          | none =>
            have fresh : ¬(shape.settled node).isSome := by simp [found]
            refine Or.inr ⟨_, ?_, inv.descend stack meets found, left_descend stack meets found⟩
            simp only [shapeStep, stack, if_neg meets, if_neg fresh]

theorem shape_ends (graph : Graph Ref) :
    ∃ report, graph.Reports report ∧
      WorkLoop.Ends (shapeStep graph.heap) (startShape graph.root) report := by
  have kept (shape next : Shape Ref) (inv : shape.Inv graph)
      (stepped : shapeStep graph.heap shape = .inr next) :
      next.Inv graph ∧ next.left graph.heap < shape.left graph.heap := by
    rcases inv.step with ⟨report, stops, _⟩ | ⟨other, goes, kept⟩
    · rw [stops] at stepped
      cases stepped
    · rw [goes] at stepped
      cases stepped
      exact kept
  obtain ⟨result, ends, last, inv, stepped⟩ :=
    Library.WorkLoop.ends (fun shape => shape.Inv graph) (Shape.left graph.heap) kept
      (shape_start graph)
  rcases inv.step with ⟨report, stops, reports⟩ | ⟨other, goes, _⟩
  · rw [stops] at stepped
    cases stepped
    exact ⟨_, reports, ends⟩
  · rw [goes] at stepped
    cases stepped

end Runs

end MonoidKernel.JsonIngress
