import Mathlib.Logic.Relation

set_option autoImplicit false

namespace Library

universe u

variable {N : Type u} (edge : N → N → Prop)

inductive Walk : Nat → N → Prop
  | one (node : N) : Walk 1 node
  | cons {count : Nat} {node next : N} : edge node next → Walk count next → Walk (count + 1) node

variable {edge}

variable {count : Nat} {node : N}

theorem Walk.positive (walk : Walk edge count node) : 0 < count := by
  cases walk <;> omega

theorem Walk.extend {start : N} (reached : Relation.ReflTransGen edge start node)
    (walk : Walk edge count node) : ∃ more, count ≤ more ∧ Walk edge more start := by
  induction reached using Relation.ReflTransGen.head_induction_on with
  | refl => exact ⟨count, Nat.le_refl _, walk⟩
  | head first _ ih =>
    obtain ⟨more, longer, walks⟩ := ih
    exact ⟨more + 1, Nat.le_succ_of_le longer, walks.cons first⟩

theorem Walk.around (cycle : Relation.TransGen edge node node) (count : Nat) :
    ∃ more, count < more ∧ Walk edge more node := by
  induction count with
  | zero => exact ⟨1, Nat.zero_lt_one, Walk.one node⟩
  | succ count ih =>
    obtain ⟨more, longer, walk⟩ := ih
    obtain ⟨next, first, rest⟩ := Relation.TransGen.head'_iff.mp cycle
    obtain ⟨around, atLeast, walks⟩ := walk.extend rest
    exact ⟨around + 1, by omega, walks.cons first⟩

theorem Walk.le_height (height : N → Nat) (inside : N → Prop)
    (some : ∀ node, inside node → 0 < height node)
    (falls : ∀ node next, inside node → edge node next → inside next ∧ height next < height node)
    (start : inside node) (walk : Walk edge count node) :
    count ≤ height node := by
  induction walk with
  | one node => exact some node start
  | cons first _ ih =>
    obtain ⟨holds, lower⟩ := falls _ _ start first
    have bound := ih holds
    omega

variable {other : N → N → Prop} {inside : N → Prop}

theorem Walk.transfer
    (kept : ∀ node next, inside node → edge node next → inside next ∧ other node next)
    (walk : Walk edge count node) (start : inside node) : Walk other count node := by
  induction walk with
  | one node => exact Walk.one node
  | cons first _ ih =>
    obtain ⟨holds, also⟩ := kept _ _ start first
    exact (ih holds).cons also

theorem reflTransGen_transfer
    (kept : ∀ node next, inside node → edge node next → inside next ∧ other node next) {start : N}
    (path : Relation.ReflTransGen edge start node) (holds : inside start) :
    inside node ∧ Relation.ReflTransGen other start node := by
  induction path with
  | refl => exact ⟨holds, .refl⟩
  | tail _ last ih =>
    obtain ⟨here, also⟩ := ih
    obtain ⟨next, step⟩ := kept _ _ here last
    exact ⟨next, also.tail step⟩

theorem transGen_transfer
    (kept : ∀ node next, inside node → edge node next → inside next ∧ other node next) {start : N}
    (path : Relation.TransGen edge start node) (holds : inside start) :
    Relation.TransGen other start node := by
  obtain ⟨next, first, rest⟩ := Relation.TransGen.head'_iff.mp path
  obtain ⟨here, step⟩ := kept _ _ holds first
  exact Relation.TransGen.head' step (reflTransGen_transfer kept rest here).2

end Library
