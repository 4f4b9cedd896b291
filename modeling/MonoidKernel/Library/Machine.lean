import Mathlib.Data.List.Basic

set_option autoImplicit false

namespace Library

universe u v w

structure Machine (S : Type u) (L : Type v) (O : Type w) where
  init : S
  step : S → L → S × O

namespace Machine

variable {S : Type u} {L : Type v} {O : Type w} (m : Machine S L O)

def next (s : S) (label : L) : S := (m.step s label).1

def answer (s : S) (label : L) : O := (m.step s label).2

def exec : S → List L → S
  | s, [] => s
  | s, label :: rest => exec (m.next s label) rest

def outputs : S → List L → List O
  | _, [] => []
  | s, label :: rest => m.answer s label :: outputs (m.next s label) rest

def Reachable (s : S) : Prop := ∃ labels, m.exec m.init labels = s

@[simp] theorem exec_nil (s : S) : m.exec s [] = s := rfl

@[simp] theorem exec_cons (s : S) (label : L) (rest : List L) :
    m.exec s (label :: rest) = m.exec (m.next s label) rest := rfl

theorem exec_append (s : S) (earlier later : List L) :
    m.exec s (earlier ++ later) = m.exec (m.exec s earlier) later := by
  induction earlier generalizing s with
  | nil => rfl
  | cons label rest ih => exact ih (m.next s label)

variable (inv : S → Prop)

theorem exec_invariant (preserved : ∀ s label, inv s → inv (m.next s label)) (s : S) (start : inv s)
    (labels : List L) : inv (m.exec s labels) := by
  induction labels generalizing s with
  | nil => exact start
  | cons label rest ih => exact ih _ (preserved s label start)

variable {m : Machine S L O}

variable {s : S}

theorem Reachable.invariant (initial : inv m.init)
    (preserved : ∀ s label, inv s → inv (m.next s label)) (reachable : m.Reachable s) :
    inv s := by
  obtain ⟨labels, rfl⟩ := reachable
  exact m.exec_invariant inv preserved _ initial labels

def Along (fits : S → L → Prop) : S → List L → Prop
  | _, [] => True
  | s, label :: rest => fits s label ∧ Along fits (m.next s label) rest

instance Along.decidable (fits : S → L → Prop) [∀ s label, Decidable (fits s label)] :
    ∀ s labels, Decidable (m.Along fits s labels)
  | _, [] => isTrue trivial
  | s, label :: rest =>
    have := Along.decidable fits (m.next s label) rest
    inferInstanceAs (Decidable (fits s label ∧ _))

variable {fits : S → L → Prop} {labels : List L}

theorem Along.invariant (preserved : ∀ s label, inv s → fits s label → inv (m.next s label))
    (start : inv s) (along : m.Along fits s labels) :
    m.Along (fun s label => inv s ∧ fits s label) s labels := by
  induction labels generalizing s with
  | nil => trivial
  | cons label rest ih =>
    obtain ⟨here, later⟩ := along
    exact ⟨⟨start, here⟩, ih (preserved s label start here) later⟩

theorem Along.exec (preserved : ∀ s label, inv s → fits s label → inv (m.next s label))
    (start : inv s) (along : m.Along fits s labels) : inv (m.exec s labels) := by
  induction labels generalizing s with
  | nil => exact start
  | cons label rest ih =>
    obtain ⟨here, later⟩ := along
    exact ih (preserved s label start here) later

theorem Along.mono {more : S → L → Prop} (further : ∀ s label, fits s label → more s label)
    (along : m.Along fits s labels) : m.Along more s labels := by
  induction labels generalizing s with
  | nil => trivial
  | cons label rest ih =>
    obtain ⟨here, later⟩ := along
    exact ⟨further s label here, ih later⟩

theorem Along.start {earlier later : List L} (along : m.Along fits s (earlier ++ later)) :
    m.Along fits s earlier := by
  induction earlier generalizing s with
  | nil => trivial
  | cons label rest ih => exact ⟨along.1, ih along.2⟩

theorem Along.rest {earlier later : List L} (along : m.Along fits s (earlier ++ later)) :
    m.Along fits (m.exec s earlier) later := by
  induction earlier generalizing s with
  | nil => exact along
  | cons label rest ih => exact ih along.2

theorem along_congr {other : S → L → Prop} (preserved : ∀ s label, inv s → inv (m.next s label))
    (same : ∀ s label, inv s → (fits s label ↔ other s label)) (start : inv s) (labels : List L) :
    m.Along fits s labels ↔ m.Along other s labels := by
  induction labels generalizing s with
  | nil => exact Iff.rfl
  | cons label rest ih => exact and_congr (same s label start) (ih (preserved s label start))

theorem along_congr_within {within other : S → L → Prop}
    (preserved : ∀ s label, inv s → within s label → other s label → inv (m.next s label))
    (same : ∀ s label, inv s → within s label → (fits s label ↔ other s label)) (start : inv s)
    (along : m.Along within s labels) :
    m.Along fits s labels ↔ m.Along other s labels := by
  induction labels generalizing s with
  | nil => exact Iff.rfl
  | cons label rest ih =>
    obtain ⟨here, later⟩ := along
    have now := same s label start here
    constructor
    · intro holds
      have fit := now.1 holds.1
      exact ⟨fit, (ih (preserved s label start here fit) later).1 holds.2⟩
    · intro holds
      exact ⟨now.2 holds.1, (ih (preserved s label start here holds.1) later).2 holds.2⟩

-- Where one step of a label leads from `before` to `after`, a run that takes it gets there.
theorem exec_turns (before after : S → Prop) (turn : L)
    (stays : ∀ s label, before s → before (m.next s label))
    (lasts : ∀ s label, after s → after (m.next s label))
    (turns : ∀ s, before s → after (m.next s turn)) (start : before s) (member : turn ∈ labels) :
    after (m.exec s labels) := by
  induction labels generalizing s with
  | nil => cases member
  | cons label rest ih =>
    rcases List.mem_cons.mp member with rfl | further
    · exact m.exec_invariant after lasts _ (turns s start) rest
    · exact ih (stays s label start) further

theorem exec_related (preserved : ∀ s label, inv s → inv (m.next s label)) (related : S → S → Prop)
    (refl : ∀ s, related s s) (trans : ∀ a b c, related a b → related b c → related a c)
    (each : ∀ s label, inv s → related s (m.next s label)) (s : S) (start : inv s)
    (labels : List L) : related s (m.exec s labels) := by
  induction labels generalizing s with
  | nil => exact refl s
  | cons label rest ih =>
    exact trans _ _ _ (each s label start) (ih _ (preserved s label start))

theorem outputs_lasting (preserved : ∀ s label, inv s → inv (m.next s label)) (fact : S → O → Prop)
    (given : ∀ s label, inv s → fact (m.next s label) (m.answer s label))
    (kept : ∀ s label answer, inv s → fact s answer → fact (m.next s label) answer) (s : S)
    (start : inv s) (labels : List L) :
    ∀ answer ∈ m.outputs s labels, fact (m.exec s labels) answer := by
  induction labels generalizing s with
  | nil => intro answer member; simp [outputs] at member
  | cons label rest ih =>
    have after := preserved s label start
    intro answer member
    rcases List.mem_cons.mp member with rfl | member
    · exact m.exec_invariant (fun t => inv t ∧ fact t (m.answer s label))
        (fun t next held => ⟨preserved t next held.1, kept t next _ held.1 held.2⟩)
        _ ⟨after, given s label start⟩ rest |>.2
    · exact ih _ after answer member

end Machine

end Library
