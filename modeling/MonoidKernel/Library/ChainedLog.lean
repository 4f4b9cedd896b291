import Mathlib.Data.List.Chain

set_option autoImplicit false

namespace Library

universe u

variable {A : Type u} {first : A → Prop} {follows : A → A → Prop} {log : List A}

structure Chained (first : A → Prop) (follows : A → A → Prop) (log : List A) : Prop where
  head : ∀ entry, log.head? = some entry → first entry
  chain : log.IsChain follows

namespace Chained

theorem nil (first : A → Prop) (follows : A → A → Prop) : Chained first follows [] :=
  ⟨(fun _ found => nomatch found), .nil⟩

theorem append (chained : Chained first follows log) {entry : A}
    (starts : log = [] → first entry)
    (next : ∀ last, log.getLast? = some last → follows last entry) :
    Chained first follows (log ++ [entry]) where
  head other found := by
    cases log with
    | nil =>
      cases found
      exact starts rfl
    | cons earliest rest => exact chained.head other found
  chain := by
    rw [List.isChain_append]
    refine ⟨chained.chain, .singleton _, ?_⟩
    intro last found other single
    cases single
    exact next last found

theorem ordered (chained : Chained first follows log) {related : A → A → Prop}
    (trans : ∀ a b c, related a b → related b c → related a c)
    (each : ∀ a b, follows a b → related a b) : log.Pairwise related := by
  have : Trans related related related := ⟨fun first second => trans _ _ _ first second⟩
  exact (chained.chain.imp each).pairwise

theorem final (chained : Chained first follows log) {entry : A} (member : entry ∈ log)
    (stuck : ∀ next, ¬ follows entry next) : log.getLast? = some entry := by
  obtain ⟨before, after, rfl⟩ := List.append_of_mem member
  cases after with
  | nil => simp
  | cons next rest =>
    have step := (List.isChain_append_cons_cons.mp chained.chain).2.1
    exact absurd step (stuck next)

theorem next (chained : Chained first follows log) {entry : A} (member : entry ∈ log) :
    log.getLast? = some entry ∨ ∃ successor ∈ log, follows entry successor := by
  obtain ⟨before, after, rfl⟩ := List.append_of_mem member
  cases after with
  | nil => simp
  | cons successor rest =>
    have step := (List.isChain_append_cons_cons.mp chained.chain).2.1
    exact .inr ⟨successor, by simp, step⟩

theorem constant (chained : Chained first follows log) {B : Type*} (part : A → B)
    (kept : ∀ a b, follows a b → part b = part a) {a b : A} (left : a ∈ log) (right : b ∈ log) :
    part a = part b := by
  have same : log.Pairwise fun a b => part b = part a :=
    chained.ordered (fun _ _ _ one two => two.trans one) kept
  obtain ⟨i, lowI, rfl⟩ := List.mem_iff_getElem.mp left
  obtain ⟨j, lowJ, rfl⟩ := List.mem_iff_getElem.mp right
  rcases Nat.lt_trichotomy i j with less | equal | more
  · exact (List.pairwise_iff_getElem.mp same i j lowI lowJ less).symm
  · subst equal
    rfl
  · exact List.pairwise_iff_getElem.mp same j i lowJ lowI more

theorem measure_le (chained : Chained first follows log) (measure : A → Nat)
    (grows : ∀ a b, follows a b → measure a ≤ measure b) {entry last : A} (member : entry ∈ log)
    (ending : log.getLast? = some last) : measure entry ≤ measure last := by
  obtain ⟨front, rfl⟩ := List.getLast?_eq_some_iff.mp ending
  have ordered : (front ++ [last]).Pairwise fun a b => measure a ≤ measure b :=
    chained.ordered (fun _ _ _ => Nat.le_trans) grows
  rcases List.mem_append.mp member with earlier | single
  · exact (List.pairwise_append.mp ordered).2.2 entry earlier last (by simp)
  · rw [List.mem_singleton.mp single]

end Chained

end Library
