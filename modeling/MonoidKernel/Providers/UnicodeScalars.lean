import Mathlib.Data.List.Basic

set_option autoImplicit false

namespace MonoidKernel.Providers

abbrev Text := List Nat

def isHighSurrogate (point : Nat) : Bool := decide (0xD800 ≤ point) && decide (point ≤ 0xDBFF)

def isLowSurrogate (point : Nat) : Bool := decide (0xDC00 ≤ point) && decide (point ≤ 0xDFFF)

def isSurrogate (point : Nat) : Bool := decide (0xD800 ≤ point) && decide (point ≤ 0xDFFF)

def replacement : Nat := 0xFFFD

def combineSurrogates (high low : Nat) : Nat :=
  0x10000 + (high - 0xD800) * 0x400 + (low - 0xDC00)

def replaceSurrogate (point : Nat) : Nat := if isSurrogate point then replacement else point

def repairScalars : Text → Text
  | [] => []
  | [point] => [replaceSurrogate point]
  | point :: low :: rest =>
    if isHighSurrogate point && isLowSurrogate low then
      combineSurrogates point low :: repairScalars rest
    else replaceSurrogate point :: repairScalars (low :: rest)

def normalizeUnicodeScalars (text : Text) : Text :=
  if text.any isSurrogate then repairScalars text else text

theorem isSurrogate_of_high {point : Nat} (high : isHighSurrogate point = true) :
    isSurrogate point = true := by
  simp only [isHighSurrogate, isSurrogate, Bool.and_eq_true, decide_eq_true_eq] at high ⊢
  omega

theorem not_low_of_high {point : Nat} (high : isHighSurrogate point = true) :
    isLowSurrogate point = false := by
  simp only [isHighSurrogate, isLowSurrogate, Bool.and_eq_true, decide_eq_true_eq,
    Bool.and_eq_false_iff, decide_eq_false_iff_not] at high ⊢
  omega

theorem replaceSurrogate_of_high {point : Nat} (high : isHighSurrogate point = true) :
    replaceSurrogate point = replacement := by
  rw [replaceSurrogate, if_pos (isSurrogate_of_high high)]

theorem replaceSurrogate_scalar (point : Nat) : isSurrogate (replaceSurrogate point) = false := by
  unfold replaceSurrogate
  split
  · rfl
  next scalar => simpa using scalar

theorem combineSurrogates_scalar (high low : Nat) :
    isSurrogate (combineSurrogates high low) = false := by
  have above : 0xDFFF < combineSurrogates high low := by
    unfold combineSurrogates
    omega
  rw [isSurrogate, decide_eq_false (Nat.not_le.2 above), Bool.and_false]

theorem repairScalars_scalar (text : Text) :
    ∀ point ∈ repairScalars text, isSurrogate point = false := by
  induction text using repairScalars.induct with
  | case1 => intro point member; cases member
  | case2 point =>
    intro other member
    rw [List.mem_singleton.1 member]
    exact replaceSurrogate_scalar point
  | case3 point low rest pair ih =>
    intro other member
    rw [repairScalars, if_pos pair] at member
    cases List.mem_cons.1 member with
    | inl here => rw [here]; exact combineSurrogates_scalar point low
    | inr later => exact ih other later
  | case4 point low rest single ih =>
    intro other member
    rw [repairScalars, if_neg single] at member
    cases List.mem_cons.1 member with
    | inl here => rw [here]; exact replaceSurrogate_scalar point
    | inr later => exact ih other later

theorem repairScalars_plain {text : Text} (plain : text.any isSurrogate = false) :
    repairScalars text = text := by
  induction text using repairScalars.induct with
  | case1 => rfl
  | case2 point =>
    have scalar : isSurrogate point = false := by simpa using plain
    simp [repairScalars, replaceSurrogate, scalar]
  | case3 point low rest pair ih =>
    rw [Bool.and_eq_true] at pair
    rw [List.any_cons, isSurrogate_of_high pair.1] at plain
    cases plain
  | case4 point low rest single ih =>
    rw [List.any_cons, Bool.or_eq_false_iff] at plain
    rw [repairScalars, if_neg single, ih plain.2, replaceSurrogate, if_neg (by simp [plain.1])]

theorem normalizeUnicodeScalars_eq (text : Text) :
    normalizeUnicodeScalars text = repairScalars text := by
  unfold normalizeUnicodeScalars
  split
  · rfl
  next plain => exact (repairScalars_plain (by simpa using plain)).symm

def Apart (left right : Text) : Prop :=
  ∀ high low, left.getLast? = some high → right.head? = some low →
    ¬ (isHighSurrogate high && isLowSurrogate low) = true

theorem repairScalars_append {left right : Text} (apart : Apart left right) :
    repairScalars (left ++ right) = repairScalars left ++ repairScalars right := by
  induction left using repairScalars.induct with
  | case1 => rfl
  | case2 point =>
    cases right with
    | nil => rfl
    | cons low rest =>
      have single := apart point low rfl rfl
      simp only [List.cons_append, List.nil_append, repairScalars, if_neg single]
  | case3 point low rest pair ih =>
    have inner : Apart rest right := by
      intro high other last first
      refine apart high other ?_ first
      cases rest with
      | nil => cases last
      | cons next more => exact last
    simp only [List.cons_append, repairScalars, if_pos pair, ih inner]
  | case4 point low rest single ih =>
    have inner : Apart (low :: rest) right := apart
    have more := ih inner
    simp only [List.cons_append] at more ⊢
    simp only [repairScalars, if_neg single, more, List.cons_append]

end MonoidKernel.Providers
