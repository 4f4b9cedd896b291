import Mathlib.Data.List.Basic

set_option autoImplicit false

namespace Library

namespace SplitLines

abbrev Text := List Char

def isBreak (character : Char) : Bool :=
  [0x0A, 0x0B, 0x0C, 0x0D, 0x1C, 0x1D, 0x1E, 0x85, 0x2028, 0x2029].contains character.toNat

structure Line where
  body : Text
  ending : Text
deriving DecidableEq

def Line.text (line : Line) : Text := line.body ++ line.ending

def extend (character : Char) : List Line → List Line
  | [] => [⟨[character], []⟩]
  | line :: rest => ⟨character :: line.body, line.ending⟩ :: rest

def lines : Text → List Line
  | [] => []
  | '\r' :: '\n' :: rest => ⟨[], ['\r', '\n']⟩ :: lines rest
  | character :: rest =>
    if isBreak character then ⟨[], [character]⟩ :: lines rest else extend character (lines rest)

def splitLines (text : Text) : List Text := (lines text).map Line.body

def join (some : List Line) : Text := (some.map Line.text).flatten

def Ended (text : Text) : Prop := text.getLast?.all isBreak = true

def Breaks (text : Text) : Prop := text.head?.any isBreak = true

def Merges (text rest : Text) : Prop := text.getLast? = some '\r' ∧ rest.head? = some '\n'

instance (text : Text) : Decidable (Ended text) := inferInstanceAs (Decidable (_ = _))
instance (text : Text) : Decidable (Breaks text) := inferInstanceAs (Decidable (_ = _))
instance (text rest : Text) : Decidable (Merges text rest) := inferInstanceAs (Decidable (_ ∧ _))

section Reading

@[simp] theorem lines_crlf (rest : Text) :
    lines ('\r' :: '\n' :: rest) = ⟨[], ['\r', '\n']⟩ :: lines rest := rfl

theorem lines_break {character : Char} (breaks : isBreak character = true) {rest : Text}
    (apart : ¬ (character = '\r' ∧ rest.head? = some '\n')) :
    lines (character :: rest) = ⟨[], [character]⟩ :: lines rest := by
  rw [lines]
  · rw [if_pos breaks]
  · rintro more rfl rfl
    exact apart ⟨rfl, rfl⟩

theorem lines_plain {character : Char} (plain : isBreak character = false) (rest : Text) :
    lines (character :: rest) = extend character (lines rest) := by
  rw [lines]
  · rw [plain]; rfl
  · rintro more rfl
    cases plain

theorem join_extend (character : Char) (some : List Line) :
    join (extend character some) = character :: join some := by
  cases some <;> rfl

theorem join_lines (text : Text) : join (lines text) = text := by
  fun_induction lines text with
  | case1 => rfl
  | case2 rest ih => rw [join, List.map_cons, List.flatten_cons, ← join, ih]; rfl
  | case3 character rest _ breaks ih => rw [join, List.map_cons, List.flatten_cons, ← join, ih]; rfl
  | case4 character rest _ plain ih => rw [join_extend, ih]

theorem lines_nonempty {text : Text} (some : text ≠ []) : lines text ≠ [] := by
  intro none
  have whole := join_lines text
  rw [none] at whole
  exact some whole.symm

end Reading

section Appending

variable {rest : Text}

theorem Ended.tail {character : Char} (ended : Ended (character :: rest)) :
    Ended rest := by
  cases rest with
  | nil => rfl
  | cons first more => simpa [Ended] using ended

variable {text : Text}

theorem Merges.cons (merges : Merges text rest) (character : Char) :
    Merges (character :: text) rest := by
  obtain ⟨last, first⟩ := merges
  cases text with
  | nil => cases last
  | cons other more => exact ⟨by simpa using last, first⟩

theorem extend_append {some : List Line} (nonempty : some ≠ []) (character : Char)
    (more : List Line) : extend character (some ++ more) = extend character some ++ more := by
  cases some with
  | nil => exact absurd rfl nonempty
  | cons line rest => rfl

theorem lines_append (ended : Ended text) (apart : ¬ Merges text rest) :
    lines (text ++ rest) = lines text ++ lines rest := by
  fun_induction lines text with
  | case1 => rfl
  | case2 more ih =>
    have same := ih ended.tail.tail fun merges => apart ((merges.cons _).cons _)
    rw [List.cons_append, List.cons_append, lines_crlf, same, List.cons_append]
  | case3 character more other breaks ih =>
    have same := ih ended.tail fun merges => apart (merges.cons _)
    have alone : ¬ (character = '\r' ∧ (more ++ rest).head? = some '\n') := by
      rintro ⟨rfl, feed⟩
      cases more with
      | nil => exact apart ⟨rfl, feed⟩
      | cons first others =>
        cases feed
        exact other others rfl rfl
    rw [List.cons_append, lines_break breaks alone, same, List.cons_append]
  | case4 character more other plain ih =>
    have same := ih ended.tail fun merges => apart (merges.cons _)
    have some : more ≠ [] := by
      rintro rfl
      exact plain (by simpa [Ended] using ended)
    rw [List.cons_append, lines_plain (Bool.eq_false_iff.mpr plain), same,
      extend_append (lines_nonempty some)]

theorem splitLines_append (ended : Ended text) (apart : ¬ Merges text rest) :
    splitLines (text ++ rest) = splitLines text ++ splitLines rest := by
  unfold splitLines
  rw [lines_append ended apart, List.map_append]

theorem Breaks.blank (breaks : Breaks text) :
    splitLines text = [] :: (splitLines text).tail := by
  unfold splitLines
  fun_cases lines text with
  | case1 => cases breaks
  | case2 rest => rfl
  | case3 character rest _ _ => rfl
  | case4 character rest _ plain => exact absurd breaks plain

theorem Ended.cons (some : rest ≠ []) (ended : Ended rest) (character : Char) :
    Ended (character :: rest) := by
  cases rest with
  | nil => exact absurd rfl some
  | cons first more => simpa [Ended] using ended

theorem Merges.tail {character : Char} (some : text ≠ [])
    (merges : Merges (character :: text) rest) : Merges text rest := by
  cases text with
  | nil => exact absurd rfl some
  | cons first more => exact ⟨by simpa using merges.1, merges.2⟩

def extendBody (character : Char) : List Text → List Text
  | [] => [[character]]
  | body :: rest => (character :: body) :: rest

theorem extend_bodies (character : Char) (some : List Line) :
    (extend character some).map Line.body = extendBody character (some.map Line.body) := by
  cases some <;> rfl

theorem splitLines_plain {character : Char} (plain : isBreak character = false) (rest : Text) :
    splitLines (character :: rest) = extendBody character (splitLines rest) := by
  unfold splitLines
  rw [lines_plain plain, extend_bodies]

theorem splitLines_nonempty (some : text ≠ []) : splitLines text ≠ [] := by
  unfold splitLines
  simpa using lines_nonempty some

theorem splitLines_swallow (breaks : Breaks rest)
    (meets : (text ≠ [] ∧ ¬ Ended text) ∨ Merges text rest) :
    splitLines (text ++ rest) = splitLines text ++ (splitLines rest).tail := by
  -- A character that is not the last leaves the meeting point where it is.
  have deeper (character : Char) (more : Text) (some : more ≠ [])
      (meets : (character :: more ≠ [] ∧ ¬ Ended (character :: more)) ∨
        Merges (character :: more) rest) : (more ≠ [] ∧ ¬ Ended more) ∨ Merges more rest := by
    rcases meets with ⟨_, unended⟩ | merges
    · exact Or.inl ⟨some, fun ended => unended (ended.cons some character)⟩
    · exact Or.inr (merges.tail some)
  induction text using lines.induct with
  | case1 =>
    rcases meets with ⟨some, _⟩ | ⟨last, _⟩
    · exact absurd rfl some
    · cases last
  | case2 more ih =>
    have some : more ≠ [] := by
      rintro rfl
      rcases meets with ⟨_, unended⟩ | ⟨last, _⟩
      · exact unended (by decide)
      · cases last
    have same := ih (deeper _ _ some (deeper _ _ (List.cons_ne_nil _ _) meets))
    unfold splitLines at same ⊢
    rw [List.cons_append, List.cons_append, lines_crlf, lines_crlf, List.map_cons, List.map_cons,
      same, List.cons_append]
  | case3 character more other broken ih =>
    have single : ¬ (character = '\r' ∧ more.head? = some '\n') := by
      rintro ⟨rfl, feed⟩
      cases more with
      | nil => cases feed
      | cons first others =>
        cases feed
        exact other others rfl rfl
    by_cases some : more = []
    next =>
      -- The carriage return at the end meets the line feed.
      subst some
      have merges : Merges [character] rest := by
        refine meets.resolve_left fun unended => unended.2 ?_
        simpa [Ended] using broken
      obtain ⟨last, first⟩ := merges
      obtain rfl : character = '\r' := by simpa using last
      obtain ⟨others, rfl⟩ := List.head?_eq_some_iff.mp first
      have feed : lines ('\n' :: others) = ⟨[], ['\n']⟩ :: lines others :=
        lines_break rfl (by rintro ⟨same, _⟩; cases same)
      unfold splitLines
      rw [List.singleton_append, lines_crlf, feed]
      rfl
    · have same := ih (deeper _ _ some meets)
      have alone : ¬ (character = '\r' ∧ (more ++ rest).head? = Option.some '\n') := by
        rwa [List.head?_append_of_ne_nil more some]
      unfold splitLines at same ⊢
      rw [List.cons_append, lines_break broken alone, lines_break broken single, List.map_cons,
        List.map_cons, same, List.cons_append]
  | case4 character more other plain ih =>
    have plain : isBreak character = false := Bool.eq_false_iff.mpr plain
    by_cases some : more = []
    · subst some
      rw [List.singleton_append, splitLines_plain plain, breaks.blank]
      unfold splitLines
      rw [lines_plain plain]
      rfl
    · have same := ih (deeper _ _ some meets)
      rw [List.cons_append, splitLines_plain plain, splitLines_plain plain, same]
      obtain ⟨body, others, found⟩ := List.exists_cons_of_ne_nil (splitLines_nonempty some)
      rw [found]
      rfl

end Appending

section Cutting

theorem join_append (some more : List Line) : join (some ++ more) = join some ++ join more := by
  simp [join]

theorem join_cut (text : Text) (count : Nat) :
    join ((lines text).take count) ++ join ((lines text).drop count) = text := by
  rw [← join_append, List.take_append_drop, join_lines]

theorem cut_head {text : Text} {count : Nat} {character : Char}
    (head : (join ((lines text).take count)).head? = some character) :
    text.head? = some character := by
  rw [← join_cut text count]
  obtain ⟨rest, same⟩ := List.head?_eq_some_iff.mp head
  rw [same]
  rfl

theorem take_extend (character : Char) (line : Line) (rest : List Line) (count : Nat) :
    (extend character (line :: rest)).take (count + 1) =
      extend character ((line :: rest).take (count + 1)) := rfl

theorem break_single {character : Char} {rest : Text}
    (other : ∀ more, character = '\r' → rest = '\n' :: more → False) :
    ¬ (character = '\r' ∧ rest.head? = some '\n') := by
  rintro ⟨rfl, feed⟩
  obtain ⟨more, rfl⟩ := List.head?_eq_some_iff.mp feed
  exact other more rfl rfl

theorem lines_take (text : Text) (count : Nat) :
    lines (join ((lines text).take count)) = (lines text).take count := by
  induction text using lines.induct generalizing count with
  | case1 => cases count <;> rfl
  | case2 rest ih =>
    cases count with
    | zero => rfl
    | succ count =>
      rw [lines_crlf, List.take_succ_cons]
      exact (lines_crlf (join ((lines rest).take count))).trans (by rw [ih count])
  | case3 character rest other breaks ih =>
    have single := break_single other
    cases count with
    | zero => rfl
    | succ count =>
      have alone : ¬ (character = '\r' ∧ (join ((lines rest).take count)).head? = some '\n') :=
        fun ⟨same, feed⟩ => single ⟨same, cut_head feed⟩
      rw [lines_break breaks single, List.take_succ_cons]
      exact (lines_break breaks alone).trans (by rw [ih count])
  | case4 character rest other plain ih =>
    have plain : isBreak character = false := Bool.eq_false_iff.mpr plain
    cases count with
    | zero => rfl
    | succ count =>
      have same := ih (count + 1)
      rw [lines_plain plain]
      cases found : lines rest with
      | nil =>
        have whole : (extend character []).take (count + 1) = extend character [] := by
          simp [extend]
        rw [whole]
        exact lines_plain plain []
      | cons line more =>
        rw [found] at same
        rw [take_extend, join_extend, lines_plain plain, same]

theorem lines_drop (text : Text) (count : Nat) :
    lines (join ((lines text).drop count)) = (lines text).drop count ∧
      (Ended (join ((lines text).take count)) ∨ (lines text).drop count = []) := by
  induction text using lines.induct generalizing count with
  | case1 => cases count <;> exact ⟨rfl, Or.inl rfl⟩
  | case2 rest ih =>
    cases count with
    | zero => exact ⟨by rw [List.drop_zero, join_lines], Or.inl rfl⟩
    | succ count =>
      obtain ⟨same, ended⟩ := ih count
      refine ⟨same, ended.imp_left fun ended => ?_⟩
      by_cases some : join ((lines rest).take count) = []
      · rw [lines_crlf, List.take_succ_cons, join, List.map_cons, List.flatten_cons, ← join, some]
        rfl
      · exact (ended.cons some '\n').cons (List.cons_ne_nil _ _) '\r'
  | case3 character rest other breaks ih =>
    have single := break_single other
    cases count with
    | zero => exact ⟨by rw [List.drop_zero, join_lines], Or.inl rfl⟩
    | succ count =>
      obtain ⟨same, ended⟩ := ih count
      rw [lines_break breaks single, List.drop_succ_cons, List.take_succ_cons]
      refine ⟨same, ended.imp_left fun ended => ?_⟩
      by_cases some : join ((lines rest).take count) = []
      · rw [join, List.map_cons, List.flatten_cons, ← join, some]
        simpa [Ended, Line.text] using breaks
      · exact ended.cons some character
  | case4 character rest other plain ih =>
    have plain : isBreak character = false := Bool.eq_false_iff.mpr plain
    cases count with
    | zero => exact ⟨by rw [List.drop_zero, join_lines], Or.inl rfl⟩
    | succ count =>
      obtain ⟨same, ended⟩ := ih (count + 1)
      rw [lines_plain plain]
      cases found : lines rest with
      | nil =>
        have none : (extend character []).drop (count + 1) = [] := by simp [extend]
        rw [none]
        exact ⟨rfl, Or.inr rfl⟩
      | cons line more =>
        rw [found] at same ended
        refine ⟨same, ended.imp_left fun ended => ?_⟩
        rw [take_extend, join_extend]
        refine ended.cons ?_ character
        intro none
        have whole := lines_take rest (count + 1)
        rw [found, none] at whole
        cases whole

end Cutting

section Numbers

def lineNumber : List Line → Nat → Nat
  | [], _ => 1
  | line :: rest, place =>
    if place < line.text.length then 1 else lineNumber rest (place - line.text.length) + 1

-- The breaks before a place that are neither a line feed nor a carriage return before one.
def strayBreaks : Text → Nat → Nat
  | _, 0 => 0
  | [], _ + 1 => 0
  | character :: rest, place + 1 =>
    (if isBreak character ∧ character ≠ '\n' ∧ ¬ (character = '\r' ∧ rest.head? = some '\n') then 1
      else 0) + strayBreaks rest place

theorem lineNumber_extend (character : Char) (some : List Line) (nonempty : some ≠ [])
    (place : Nat) : lineNumber (extend character some) (place + 1) = lineNumber some place := by
  cases some with
  | nil => exact absurd rfl nonempty
  | cons line rest => simp [extend, lineNumber, Line.text]

theorem lineNumber_feeds {text : Text} {place : Nat} (inside : place < text.length) :
    lineNumber (lines text) place =
      (text.take place).count '\n' + 1 + strayBreaks text place := by
  induction text using lines.induct generalizing place with
  | case1 => simp at inside
  | case2 rest ih =>
    -- Neither the carriage return nor its line feed starts a line.
    match place, inside with
    | 0, _ => rfl
    | 1, _ => rfl
    | place + 2, inside =>
      have same := ih (show place < rest.length by simpa using inside)
      have more : lineNumber (lines ('\r' :: '\n' :: rest)) (place + 2) =
          lineNumber (lines rest) place + 1 := by
        have beyond : ¬ place + 2 < 2 := by omega
        simp [lineNumber, Line.text, beyond]
      rw [more, same, List.take_succ_cons, List.take_succ_cons]
      simp [strayBreaks]
      omega
  | case3 character rest other breaks ih =>
    have single := break_single other
    cases place with
    | zero => rw [lines_break breaks single]; rfl
    | succ place =>
      have same := ih (show place < rest.length by simpa using inside)
      have more : lineNumber (lines (character :: rest)) (place + 1) =
          lineNumber (lines rest) place + 1 := by
        rw [lines_break breaks single]
        simp [lineNumber, Line.text]
      rw [more, same, List.take_succ_cons, List.count_cons, strayBreaks]
      by_cases feed : character = '\n'
      · simp [feed]; omega
      · simp [feed, breaks, single]; omega
  | case4 character rest other plain ih =>
    have plain : isBreak character = false := Bool.eq_false_iff.mpr plain
    have feed : character ≠ '\n' := by
      rintro rfl
      cases plain
    cases place with
    | zero =>
      rw [lines_plain plain]
      cases lines rest <;> simp [extend, lineNumber, Line.text, strayBreaks]
    | succ place =>
      have shorter : place < rest.length := by simpa using inside
      have some : rest ≠ [] := by
        rintro rfl
        simp at shorter
      rw [lines_plain plain, lineNumber_extend _ _ (lines_nonempty some), ih shorter,
        List.take_succ_cons, List.count_cons, strayBreaks]
      simp [feed, plain]

end Numbers

end SplitLines

end Library
