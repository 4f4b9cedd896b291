import Mathlib.Data.Finset.Insert
import Mathlib.Data.Finset.Max
import Mathlib.Data.List.Perm.Basic

set_option autoImplicit false

namespace Library

-- Step the cursor down for as long as the slot below it waits and is the greatest that does.
def reclaim : Nat → Finset Nat → Nat × Finset Nat
  | 0, waiting => (0, waiting)
  | cursor + 1, waiting =>
    if waiting.max = WithBot.some cursor then reclaim cursor (waiting.erase cursor)
    else (cursor + 1, waiting)

-- What `reclaim` computes: everything that waits above the new cursor is gone, and the slot below
-- it does not wait.
structure Reclaimed (cursor : Nat) (waiting : Finset Nat) (after : Nat) (rest : Finset Nat) :
    Prop where
  le : after ≤ cursor
  rest : ∀ n, n ∈ rest ↔ n ∈ waiting ∧ n < after
  freed : ∀ n, after ≤ n → n < cursor → n ∈ waiting
  stuck : ∀ n, after = n + 1 → n ∉ waiting

variable {cursor : Nat} {waiting : Finset Nat}

theorem reclaim_spec (bounded : ∀ n ∈ waiting, n < cursor) :
    Reclaimed cursor waiting (reclaim cursor waiting).1 (reclaim cursor waiting).2 := by
  induction cursor generalizing waiting with
  | zero =>
    refine ⟨Nat.le_refl 0, ?_, ?_, ?_⟩
    · intro n
      exact ⟨fun member => ⟨member, bounded n member⟩, And.left⟩
    · intro n _ impossible
      exact absurd impossible (Nat.not_lt_zero n)
    · intro n impossible
      cases impossible
  | succ cursor ih =>
    unfold reclaim
    split
    next top =>
      have present : cursor ∈ waiting := Finset.mem_of_max top
      have smaller : ∀ n ∈ waiting.erase cursor, n < cursor := by
        intro n member
        have := bounded n (Finset.mem_of_mem_erase member)
        have := Finset.ne_of_mem_erase member
        omega
      obtain ⟨le, rest, freed, stuck⟩ := ih smaller
      refine ⟨Nat.le_succ_of_le le, ?_, ?_, ?_⟩
      · intro n
        rw [rest, Finset.mem_erase]
        constructor
        · exact fun held => ⟨held.1.2, held.2⟩
        · intro held
          have := held.2
          exact ⟨⟨by omega, held.1⟩, held.2⟩
      · intro n low high
        by_cases same : n = cursor
        · exact same ▸ present
        · exact Finset.mem_of_mem_erase (freed n low (by omega))
      · intro n same member
        exact stuck n same (Finset.mem_erase.mpr ⟨by omega, member⟩)
    next other =>
      refine ⟨Nat.le_refl _, ?_, ?_, ?_⟩
      · intro n
        exact ⟨fun member => ⟨member, bounded n member⟩, And.left⟩
      · intro n low high
        omega
      · intro n same member
        cases same
        -- nothing above the cursor waits, so the slot below it would be the greatest
        apply other
        obtain ⟨top, isTop⟩ := Finset.max_of_mem member
        have := Finset.le_max_of_eq member isTop
        have := bounded top (Finset.mem_of_max isTop)
        have equal : top = cursor := by omega
        rw [equal] at isTop
        exact isTop

theorem reclaim_none (cursor : Nat) : reclaim cursor ∅ = (cursor, ∅) := by
  cases cursor <;> rfl

theorem reclaim_last (cursor : Nat) : reclaim (cursor + 1) {cursor} = (cursor, ∅) := by
  have top : ({cursor} : Finset Nat).max = WithBot.some cursor := Finset.max_singleton
  unfold reclaim
  rw [if_pos top, Finset.erase_singleton, reclaim_none]

theorem Reclaimed.unique {a b : Nat} {left right : Finset Nat}
    (first : Reclaimed cursor waiting a left) (second : Reclaimed cursor waiting b right) :
    a = b ∧ left = right := by
  have equal : a = b := by
    rcases Nat.lt_trichotomy a b with less | equal | more
    · cases b with
      | zero => exact absurd less (Nat.not_lt_zero a)
      | succ b => exact absurd (first.freed b (by omega) second.le) (second.stuck b rfl)
    · exact equal
    · cases a with
      | zero => exact absurd more (Nat.not_lt_zero b)
      | succ a => exact absurd (second.freed a (by omega) first.le) (first.stuck a rfl)
  refine ⟨equal, ?_⟩
  ext n
  rw [first.rest, second.rest, equal]

theorem Reclaimed.insert {a b middle after : Nat} {between rest : Finset Nat}
    (first : Reclaimed cursor (insert a waiting) middle between)
    (second : Reclaimed middle (insert b between) after rest)
    (fresh : b ∉ insert a waiting) (below : b < cursor) :
    Reclaimed cursor (insert b (insert a waiting)) after rest := by
  have inside : b < middle := by
    by_contra outside
    exact fresh (first.freed b (by omega) below)
  have split : ∀ n, n < middle →
      (n ∈ Insert.insert b between ↔ n ∈ Insert.insert b (Insert.insert a waiting)) := by
    intro n less
    rw [Finset.mem_insert, Finset.mem_insert, first.rest]
    simp [less]
  refine ⟨second.le.trans first.le, ?_, ?_, ?_⟩
  · intro n
    rw [second.rest]
    constructor
    · exact fun held => ⟨(split n (held.2.trans_le second.le)).mp held.1, held.2⟩
    · exact fun held => ⟨(split n (held.2.trans_le second.le)).mpr held.1, held.2⟩
  · intro n low high
    by_cases less : n < middle
    · exact (split n less).mp (second.freed n low less)
    · exact Finset.mem_insert_of_mem (first.freed n (by omega) high)
  · intro n same member
    have := second.le
    exact second.stuck n same ((split n (by omega)).mpr member)

theorem reclaim_comm {a b : Nat} (bounded : ∀ n ∈ waiting, n < cursor) (apart : a ≠ b)
    (freshA : a ∉ waiting) (freshB : b ∉ waiting) (belowA : a < cursor) (belowB : b < cursor) :
    reclaim (reclaim cursor (insert a waiting)).1
        (insert b (reclaim cursor (insert a waiting)).2) =
      reclaim (reclaim cursor (insert b waiting)).1
        (insert a (reclaim cursor (insert b waiting)).2) := by
  have both : ∀ x y, x ≠ y → x ∉ waiting → y ∉ waiting → x < cursor → y < cursor →
      Reclaimed cursor (insert y (insert x waiting))
        (reclaim (reclaim cursor (insert x waiting)).1
          (insert y (reclaim cursor (insert x waiting)).2)).1
        (reclaim (reclaim cursor (insert x waiting)).1
          (insert y (reclaim cursor (insert x waiting)).2)).2 := by
    intro x y apart freshX freshY belowX belowY
    have one : ∀ n ∈ insert x waiting, n < cursor := by
      intro n member
      rcases Finset.mem_insert.mp member with rfl | old
      · exact belowX
      · exact bounded n old
    have first := reclaim_spec one
    have fresh : y ∉ insert x waiting := by
      simp [freshY, Ne.symm apart]
    have two : ∀ n ∈ insert y (reclaim cursor (insert x waiting)).2,
        n < (reclaim cursor (insert x waiting)).1 := by
      intro n member
      rcases Finset.mem_insert.mp member with rfl | old
      · by_contra outside
        exact fresh (first.freed n (by omega) belowY)
      · exact ((first.rest n).mp old).2
    exact first.insert (reclaim_spec two) fresh belowY
  have left := both a b apart freshA freshB belowA belowB
  have right := both b a apart.symm freshB freshA belowB belowA
  rw [Finset.insert_comm] at right
  exact Prod.ext_iff.mpr (left.unique right)

end Library
