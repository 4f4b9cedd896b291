import Mathlib.Logic.Function.Basic

set_option autoImplicit false

namespace Library

universe u v

namespace WorkLoop

variable {S : Type u} {R : Type v} (step : S → R ⊕ S)

def run : Nat → S → Option R
  | 0, _ => none
  | fuel + 1, state =>
    match step state with
    | .inl result => some result
    | .inr next => run fuel next

def Ends (state : S) (result : R) : Prop := ∃ fuel, run step fuel state = some result

variable {step}

theorem run_inl {state : S} {result : R} (ends : step state = .inl result) (fuel : Nat) :
    run step (fuel + 1) state = some result := by
  rw [run, ends]

theorem run_inr {state next : S} (goes : step state = .inr next) (fuel : Nat) :
    run step (fuel + 1) state = run step fuel next := by
  rw [run, goes]

theorem run_more {fuel : Nat} {state : S} {result : R} (ran : run step fuel state = some result)
    (more : Nat) : run step (fuel + more) state = some result := by
  induction fuel generalizing state with
  | zero => cases ran
  | succ fuel ih =>
    rw [Nat.succ_add]
    cases stepped : step state with
    | inl found =>
      rw [run_inl stepped] at ran ⊢
      exact ran
    | inr next =>
      rw [run_inr stepped] at ran ⊢
      exact ih ran

theorem ends (inv : S → Prop) (measure : S → Nat)
    (kept : ∀ state next, inv state → step state = .inr next →
      inv next ∧ measure next < measure state) {state : S} (start : inv state) :
    ∃ result, Ends step state result ∧ ∃ last, inv last ∧ step last = .inl result := by
  induction bound : measure state using Nat.strongRecOn generalizing state with
  | _ size ih =>
    cases stepped : step state with
    | inl result => exact ⟨result, ⟨1, run_inl stepped 0⟩, state, start, stepped⟩
    | inr next =>
      obtain ⟨holds, smaller⟩ := kept state next start stepped
      obtain ⟨result, ⟨fuel, ran⟩, last⟩ := ih _ (bound ▸ smaller) holds rfl
      exact ⟨result, ⟨fuel + 1, (run_inr stepped fuel).trans ran⟩, last⟩

end WorkLoop

end Library
