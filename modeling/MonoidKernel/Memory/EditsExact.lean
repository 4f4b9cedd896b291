import Mathlib.Order.Nat
import MonoidKernel.Memory.InsertExact

set_option autoImplicit false

namespace MonoidKernel.Memory

open Library
open Library.SplitLines (splitLines Ended Breaks Merges join lines lineNumber strayBreaks)

section Places

def At (text needle : Text) (place : Nat) : Prop :=
  place ≤ text.length ∧ needle <+: text.drop place

inductive Listed (text needle : Text) : Nat → Nat → Prop
  | first {start place : Nat} : start ≤ place → At text needle place →
      (∀ earlier, start ≤ earlier → earlier < place → ¬ At text needle earlier) →
      Listed text needle start place
  | next {start place later : Nat} : start ≤ place → At text needle place →
      (∀ earlier, start ≤ earlier → earlier < place → ¬ At text needle earlier) →
      Listed text needle (place + max 1 needle.length) later → Listed text needle start later

theorem At.inside {text needle : Text} {place : Nat} (held : At text needle place) :
    place + needle.length ≤ text.length := by
  have size := held.2.length_le
  rw [List.length_drop] at size
  have bound := held.1
  omega

theorem find_spec (needle text : Text) :
    match find needle text with
    | none => ∀ place, ¬ At text needle place
    | some index => At text needle index ∧ ∀ earlier < index, ¬ At text needle earlier := by
  induction text with
  | nil =>
    by_cases none : needle = []
    · simp [find, none, At]
    · simp [find, none, At]
  | cons character rest ih =>
    rw [find]
    have deeper (place : Nat) :
        At (character :: rest) needle (place + 1) ↔ At rest needle place := by
      simp [At]
    by_cases here : needle.isPrefixOf (character :: rest) = true
    · rw [if_pos here]
      exact ⟨⟨Nat.zero_le _, List.isPrefixOf_iff_prefix.mp here⟩,
        fun earlier early => absurd early (Nat.not_lt_zero earlier)⟩
    rw [if_neg here]
    have absent : ¬ At (character :: rest) needle 0 := fun held =>
      here (List.isPrefixOf_iff_prefix.mpr held.2)
    cases found : find needle rest with
    | none =>
      rw [found] at ih
      intro place
      cases place with
      | zero => exact absent
      | succ place => rw [deeper]; exact ih place
    | some index =>
      rw [found] at ih
      refine ⟨(deeper index).mpr ih.1, fun earlier early => ?_⟩
      have early : earlier < index + 1 := early
      cases earlier with
      | zero => exact absent
      | succ earlier => rw [deeper]; exact ih.2 earlier (by omega)

theorem findFrom_spec (text needle : Text) {start : Nat} (inside : start ≤ text.length) :
    match findFrom text needle start with
    | none => ∀ place, start ≤ place → ¬ At text needle place
    | some index => start ≤ index ∧ At text needle index ∧
        ∀ earlier, start ≤ earlier → earlier < index → ¬ At text needle earlier := by
  have spec := find_spec needle (text.drop start)
  have moved (place : Nat) :
      At (text.drop start) needle place ↔ At text needle (start + place) := by
    simp only [At, List.drop_drop, List.length_drop]
    refine and_congr_left fun _ => ?_
    omega
  unfold findFrom
  cases found : find needle (text.drop start) with
  | none =>
    rw [found] at spec
    intro place after held
    refine spec (place - start) ((moved _).mpr ?_)
    rwa [Nat.add_sub_cancel' after]
  | some index =>
    rw [found] at spec
    refine ⟨Nat.le_add_right _ _, (moved index).mp spec.1, fun earlier after early held => ?_⟩
    have early : earlier < start + index := early
    refine spec.2 (earlier - start) (by omega) ((moved _).mpr ?_)
    rwa [Nat.add_sub_cancel' after]

theorem mem_occurrences (text needle : Text) (start place : Nat) :
    place ∈ occurrences text needle start ↔ Listed text needle start place := by
  fun_induction occurrences text needle start with
  | case1 start inside none =>
    have spec := findFrom_spec text needle inside
    rw [none] at spec
    constructor
    · intro member; cases member
    · intro listed
      cases listed with
      | first after held _ => exact absurd held (spec _ after)
      | next after held _ _ => exact absurd held (spec _ after)
  | case2 start inside index found ih =>
    have spec := findFrom_spec text needle inside
    rw [found] at spec
    rw [List.mem_cons, ih]
    have same {other : Nat} (after : start ≤ other) (held : At text needle other)
        (none : ∀ earlier, start ≤ earlier → earlier < other → ¬ At text needle earlier) :
        other = index := by
      rcases Nat.lt_trichotomy other index with early | same | late
      · exact absurd held (spec.2.2 other after early)
      · exact same
      · exact absurd spec.2.1 (none index spec.1 late)
    constructor
    · rintro (rfl | later)
      · exact Listed.first spec.1 spec.2.1 spec.2.2
      · exact Listed.next spec.1 spec.2.1 spec.2.2 later
    · intro listed
      cases listed with
      | first after held none => exact Or.inl (same after held none)
      | next after held none later =>
        rw [same after held none] at later
        exact Or.inr later
  | case3 start outside =>
    constructor
    · intro member; cases member
    · intro listed
      cases listed with
      | first after held _ => exact absurd (Nat.le_trans after held.1) outside
      | next after held _ _ => exact absurd (Nat.le_trans after held.1) outside

end Places

section Replacing

-- `str_replace` succeeds where the text stands at exactly one place, and replaces it there.
def ReplacesOne (text oldStr newStr : Text) : Prop :=
  ((∃ edited, strReplace text oldStr newStr = .ok edited) ↔
      ∃ place, At text oldStr place ∧ ∀ other, At text oldStr other → other = place) ∧
    ∀ edited, strReplace text oldStr newStr = .ok edited →
      ∀ place, At text oldStr place → (∀ other, At text oldStr other → other = place) →
        edited.text = text.take place ++ newStr ++ text.drop (place + oldStr.length)

def Crowded (text oldStr : Text) : Prop :=
  (∃ place later, At text oldStr place ∧ At text oldStr later ∧ place < later) ∧
    ∀ place later, At text oldStr place → At text oldStr later → later < place + oldStr.length

def ReplaceKeeps (text oldStr : Text) : Prop :=
  (oldStr = [] → text ≠ []) ∧ ¬ Crowded text oldStr

theorem occurrences_nil (text needle : Text) (start : Nat) :
    occurrences text needle start = [] ↔ ∀ place, start ≤ place → ¬ At text needle place := by
  by_cases inside : start ≤ text.length
  · have spec := findFrom_spec text needle inside
    rw [occurrences, if_pos inside]
    cases found : findFrom text needle start with
    | none =>
      rw [found] at spec
      simpa using spec
    | some index =>
      rw [found] at spec
      simpa using ⟨index, spec.1, spec.2.1⟩
  · rw [occurrences, if_neg inside]
    simpa using fun place after held => inside (Nat.le_trans after held.1)

theorem occurrences_single {needle : Text} (some : needle ≠ []) (text : Text) (place : Nat) :
    occurrences text needle 0 = [place] ↔ At text needle place ∧
      ∀ other, At text needle other → place ≤ other ∧ other < place + needle.length := by
  have longer : max 1 needle.length = needle.length :=
    Nat.max_eq_right (List.length_pos_iff.mpr some)
  have spec := findFrom_spec text needle (Nat.zero_le text.length)
  rw [occurrences, if_pos (Nat.zero_le _)]
  cases found : findFrom text needle 0 with
  | none =>
    rw [found] at spec
    refine iff_of_false (fun same => nomatch same) fun held => ?_
    exact spec place (Nat.zero_le _) held.1
  | some index =>
    rw [found] at spec
    change index :: occurrences text needle (index + max 1 needle.length) = [place] ↔ _
    rw [List.cons.injEq, occurrences_nil, longer]
    constructor
    · rintro ⟨rfl, none⟩
      refine ⟨spec.2.1, fun other held => ⟨?_, ?_⟩⟩
      · exact Nat.le_of_not_lt fun early => spec.2.2 other (Nat.zero_le _) early held
      · exact Nat.lt_of_not_le fun late => none other late held
    · rintro ⟨held, near⟩
      have first := (near index spec.2.1).1
      have early : index ≤ place :=
        Nat.le_of_not_lt fun late => spec.2.2 place (Nat.zero_le _) late held
      have same : index = place := Nat.le_antisymm early first
      refine ⟨same, fun other late found => ?_⟩
      have close := (near other found).2
      omega

theorem strReplace_ok {text oldStr newStr : Text} (some : oldStr ≠ []) (edited : Edited) :
    strReplace text oldStr newStr = .ok edited ↔ ∃ place,
      (At text oldStr place ∧
        ∀ other, At text oldStr other → place ≤ other ∧ other < place + oldStr.length) ∧
      edited = ⟨text.take place ++ newStr ++ text.drop (place + oldStr.length),
        snippetAroundIndex (text.take place ++ newStr ++ text.drop (place + oldStr.length))
          (if newStr ≠ [] then place else place - 1)⟩ := by
  simp only [← occurrences_single some]
  unfold strReplace
  rw [if_neg some]
  cases found : occurrences text oldStr 0 with
  | nil => simp
  | cons first others =>
    cases others with
    | nil =>
      constructor
      · intro same
        cases same
        exact ⟨first, rfl, rfl⟩
      · rintro ⟨place, same, rfl⟩
        cases same
        rfl
    | cons second more => simp

theorem replaces_iff (text oldStr newStr : Text) :
    ReplacesOne text oldStr newStr ↔ ReplaceKeeps text oldStr := by
  by_cases empty : oldStr = []
  · subst empty
    have refused (edited : Edited) : strReplace text [] newStr ≠ .ok edited :=
      fun same => nomatch same
    have every (place : Nat) : At text [] place ↔ place ≤ text.length := by simp [At]
    have start : At text [] 0 := (every 0).mpr (Nat.zero_le _)
    have uncrowded : ¬ Crowded text [] := fun crowded => Nat.lt_irrefl 0 (crowded.2 0 0 start start)
    have single : (∃ place, At text [] place ∧ ∀ other, At text [] other → other = place) ↔
        text = [] := by
      constructor
      · rintro ⟨place, held, only⟩
        have start := only 0 ((every 0).mpr (Nat.zero_le _))
        have stop := only text.length ((every _).mpr (Nat.le_refl _))
        exact List.length_eq_zero_iff.mp (by omega)
      · rintro rfl
        refine ⟨0, (every 0).mpr (Nat.le_refl _), fun other held => ?_⟩
        exact Nat.le_zero.mp ((every other).mp held)
    unfold ReplacesOne ReplaceKeeps
    rw [single]
    simp [refused, uncrowded, eq_comm]
  · unfold ReplacesOne ReplaceKeeps
    simp only [strReplace_ok empty, empty, false_implies, true_and]
    have positive := List.length_pos_iff.mpr empty
    constructor
    · rintro ⟨succeeds, _⟩ ⟨⟨place, later, held, again, before⟩, near⟩
      -- The first of the overlapping places is taken for the only one.
      have spec := findFrom_spec text oldStr (Nat.zero_le text.length)
      cases found : findFrom text oldStr 0 with
      | none =>
        rw [found] at spec
        exact spec place (Nat.zero_le _) held
      | some first =>
        rw [found] at spec
        obtain ⟨only, _, same⟩ := succeeds.mp ⟨_, first, ⟨spec.2.1, fun other stands =>
          ⟨Nat.le_of_not_lt fun early => spec.2.2 other (Nat.zero_le _) early stands,
            near first other spec.2.1 stands⟩⟩, rfl⟩
        have one := same place held
        have two := same later again
        omega
    · intro uncrowded
      have alone {place : Nat} (held : At text oldStr place)
          (near : ∀ other, At text oldStr other → place ≤ other ∧ other < place + oldStr.length) :
          ∀ other, At text oldStr other → other = place := by
        intro other stands
        by_contra differs
        refine uncrowded ⟨⟨place, other, held, stands, ?_⟩, fun one two oneHeld twoHeld => ?_⟩
        · exact Nat.lt_of_le_of_ne (near other stands).1 (Ne.symm differs)
        · have low := (near one oneHeld).1
          have high := (near two twoHeld).2
          omega
      refine ⟨⟨?_, ?_⟩, ?_⟩
      · rintro ⟨_, place, ⟨held, near⟩, rfl⟩
        exact ⟨place, held, alone held near⟩
      · rintro ⟨place, held, only⟩
        refine ⟨_, place, ⟨held, fun other stands => ?_⟩, rfl⟩
        rw [only other stands]
        omega
      · rintro edited ⟨found, ⟨held, _⟩, rfl⟩ place _ only
        rw [only found held]

end Replacing

section Numbers

def viewed (text : Text) : List (Nat × Text) := enumerate 1 (splitLines text)

def viewLine (text : Text) (place : Nat) : Nat := lineNumber (lines text) place

def ShowsViewed (text content : Text) : Prop :=
  ∃ shown, content = render shown ∧ ∀ line ∈ shown, line ∈ viewed text

theorem mem_enumerate (start : Nat) (some : List Text) (shown : Nat × Text) :
    shown ∈ enumerate start some ↔
      start ≤ shown.1 ∧ some[shown.1 - start]? = Option.some shown.2 := by
  obtain ⟨number, line⟩ := shown
  induction some generalizing start with
  | nil => simp [enumerate]
  | cons first rest ih =>
    rw [enumerate, List.mem_cons, ih, Prod.mk.injEq]
    rcases Nat.lt_trichotomy number start with early | rfl | late
    · have differs : number ≠ start := early.ne
      have behind : ¬ start + 1 ≤ number := by omega
      simp [differs, behind, Nat.not_le.mpr early]
    · have behind : ¬ number + 1 ≤ number := by omega
      simp [behind, eq_comm]
    · have deeper : number - start = number - (start + 1) + 1 := by omega
      have before : start ≤ number := late.le
      have behind : start + 1 ≤ number := late
      rw [deeper, List.getElem?_cons_succ]
      simp [before, behind, late.ne']

theorem enumerate_take (start count : Nat) (some : List Text) :
    enumerate start (some.take count) = (enumerate start some).take count := by
  induction some generalizing start count with
  | nil => simp [enumerate]
  | cons first rest ih =>
    cases count with
    | zero => rfl
    | succ count => simp [enumerate, ih]

theorem enumerate_drop (start count : Nat) (some : List Text) :
    enumerate (start + count) (some.drop count) = (enumerate start some).drop count := by
  induction some generalizing start count with
  | nil => simp [enumerate]
  | cons first rest ih =>
    cases count with
    | zero => rfl
    | succ count =>
      rw [List.drop_succ_cons, enumerate, List.drop_succ_cons, ← ih]
      congr 1
      omega

variable {text : Text}

theorem viewFile_rows {viewRange : Option (Int × Int)} {view : FileView}
    (read : viewFile text viewRange = .ok view) :
    view.content = render (((viewed text).take view.stop).drop (view.start - 1)) := by
  have rows (start stop : Nat) (positive : 1 ≤ start) :
      numberedLines (((splitLines text).take stop).drop (start - 1)) start =
        render (((viewed text).take stop).drop (start - 1)) := by
    have first : start = 1 + (start - 1) := by omega
    rw [viewed, ← enumerate_take, ← enumerate_drop, ← first]
    rfl
  cases viewRange with
  | none =>
    cases read
    have all := rows 1 (splitLines text).length (Nat.le_refl 1)
    rwa [List.take_length] at all
  | some range =>
    obtain ⟨rawStart, rawEnd⟩ := range
    simp only [viewFile] at read
    split at read
    · cases read
    · split at read
      · cases read
      · generalize (if rawEnd = -1 then ((splitLines text).length : Int) else rawEnd) = stop at read
        split at read
        · cases read
        · cases read
          exact rows _ _ (by omega)

theorem shows_cut (text : Text) (start stop : Nat) (positive : 1 ≤ start) :
    ShowsViewed text (numberedLines (((splitLines text).take stop).drop (start - 1)) start) := by
  refine ⟨_, rfl, fun shown member => ?_⟩
  rw [mem_enumerate, List.getElem?_drop] at member
  obtain ⟨after, line⟩ := member
  have place : start - 1 + (shown.1 - start) = shown.1 - 1 := by omega
  rw [place, List.getElem?_take] at line
  split at line
  · exact (mem_enumerate ..).mpr ⟨positive.trans after, line⟩
  · cases line

theorem shows_snippet (text : Text) (lineNo radius : Nat) :
    ShowsViewed text (lineSnippet text lineNo radius) := by
  simp only [lineSnippet]
  split
  · exact ⟨[], rfl, by simp⟩
  · exact shows_cut text _ _ (Nat.le_max_left _ _)

theorem shows_view {viewRange : Option (Int × Int)} {view : FileView}
    (read : viewFile text viewRange = .ok view) : ShowsViewed text view.content := by
  cases viewRange with
  | none =>
    cases read
    exact ⟨_, rfl, fun _ member => member⟩
  | some range =>
    obtain ⟨rawStart, rawEnd⟩ := range
    simp only [viewFile] at read
    split at read
    · cases read
    next small =>
      split at read
      · cases read
      · generalize (if rawEnd = -1 then ((splitLines text).length : Int) else rawEnd) = stop at read
        split at read
        · cases read
        · cases read
          exact shows_cut text _ _ (by omega)

theorem shows_insert {inserted : Text} {insertLine : Int} {edited : Edited}
    (done : insert text insertLine inserted = .ok edited) :
    ShowsViewed edited.text edited.snippet := by
  unfold insert at done
  simp only at done
  split at done
  · cases done
  · cases done
    exact shows_snippet _ _ _

theorem shows_replace {oldStr newStr : Text} {edited : Edited}
    (done : strReplace text oldStr newStr = .ok edited) :
    ShowsViewed edited.text edited.snippet := by
  by_cases empty : oldStr = []
  · subst empty
    cases done
  · obtain ⟨place, _, rfl⟩ := (strReplace_ok empty edited).mp done
    exact shows_snippet _ _ _

theorem searchLines_numbers (lower : Text → Text) (needle text : Text) (remaining : Nat)
    {rows : List (Nat × Text)} (held : ∀ row ∈ rows, row ∈ viewed text) :
    ∀ found ∈ searchLines lower needle text remaining rows,
      (found.line, found.text) ∈ viewed text ∧ ShowsViewed text found.snippet := by
  induction rows generalizing remaining with
  | nil => intro found member; cases member
  | cons row rest ih =>
    obtain ⟨lineNo, line⟩ := row
    rw [List.forall_mem_cons] at held
    rw [searchLines]
    split
    · exact ih remaining held.2
    · intro found member
      rcases List.mem_cons.mp member with rfl | more
      · exact ⟨held.1, shows_snippet _ _ _⟩
      · split at more
        · cases more
        · exact ih _ held.2 found more

def MessageNumbers (text oldStr newStr : Text) : Prop :=
  ∀ named, strReplace text oldStr newStr = .error (.ambiguousReplace named) →
    named = (occurrences text oldStr 0).map (viewLine text)

-- Where the text stands at two places apart, no break but a line feed, or a carriage return before
-- one, stands before a listed place.
def MessageKeeps (text oldStr : Text) : Prop :=
  oldStr ≠ [] →
    (∃ place later, At text oldStr place ∧ At text oldStr later ∧ place + oldStr.length ≤ later) →
      ∀ place, Listed text oldStr 0 place → strayBreaks text place = 0

theorem lineOfIndex_iff {place : Nat} (inside : place < text.length) :
    lineOfIndex text place = viewLine text place ↔ strayBreaks text place = 0 := by
  unfold lineOfIndex viewLine
  rw [SplitLines.lineNumber_feeds inside]
  omega

theorem Listed.held {needle : Text} {start place : Nat} (listed : Listed text needle start place) :
    At text needle place := by
  induction listed with
  | first _ held _ => exact held
  | next _ _ _ _ ih => exact ih

theorem ambiguous_iff {oldStr newStr : Text} (some : oldStr ≠ []) (named : List Nat) :
    strReplace text oldStr newStr = .error (.ambiguousReplace named) ↔
      (∃ place later, At text oldStr place ∧ At text oldStr later ∧
        place + oldStr.length ≤ later) ∧ named = occurrenceLines text oldStr := by
  have none := occurrences_nil text oldStr 0
  have single := occurrences_single some text
  unfold strReplace
  rw [if_neg some]
  cases found : occurrences text oldStr 0 with
  | nil =>
    rw [found] at none
    refine iff_of_false (fun same => nomatch same) ?_
    rintro ⟨⟨place, _, held, _⟩, _⟩
    exact none.mp rfl place (Nat.zero_le _) held
  | cons first others =>
    cases others with
    | nil =>
      refine iff_of_false (fun same => nomatch same) ?_
      rintro ⟨⟨place, later, held, again, apart⟩, _⟩
      obtain ⟨_, near⟩ := (single first).mp found
      have low := (near place held).1
      have high := (near later again).2
      omega
    | cons second more =>
      have listed : Listed text oldStr 0 first := by
        rw [← mem_occurrences, found]
        exact List.mem_cons_self
      have apart : ∃ place later, At text oldStr place ∧ At text oldStr later ∧
          place + oldStr.length ≤ later := by
        by_contra close
        have spec := findFrom_spec text oldStr (Nat.zero_le text.length)
        cases index : findFrom text oldStr 0 with
        | none =>
          rw [index] at spec
          exact spec first (Nat.zero_le _) listed.held
        | some place =>
          rw [index] at spec
          have alone := (single place).mpr ⟨spec.2.1, fun other held =>
            ⟨Nat.le_of_not_lt fun early => spec.2.2 other (Nat.zero_le _) early held,
              Nat.lt_of_not_le fun late => close ⟨place, other, spec.2.1, held, late⟩⟩⟩
          rw [found] at alone
          cases alone
      constructor
      · intro same
        cases same
        exact ⟨apart, rfl⟩
      · rintro ⟨_, rfl⟩
        rfl

theorem message_iff (text oldStr newStr : Text) :
    MessageNumbers text oldStr newStr ↔ MessageKeeps text oldStr := by
  by_cases empty : oldStr = []
  · subst empty
    exact iff_of_true (fun named refused => nomatch refused) fun some => absurd rfl some
  · have positive := List.length_pos_iff.mpr empty
    have numbers : occurrenceLines text oldStr = (occurrences text oldStr 0).map (viewLine text) ↔
        ∀ place, Listed text oldStr 0 place → strayBreaks text place = 0 := by
      unfold occurrenceLines
      rw [List.map_inj_left]
      simp only [mem_occurrences]
      refine forall_congr' fun place => forall_congr' fun listed => lineOfIndex_iff ?_
      have inside := listed.held.inside
      omega
    unfold MessageNumbers MessageKeeps
    simp only [ambiguous_iff empty, ← numbers]
    constructor
    · exact fun names _ apart => names _ ⟨apart, rfl⟩
    · rintro keeps named ⟨apart, rfl⟩
      exact keeps empty apart

end Numbers

section Exactness

def replaced (text oldStr newStr : Text) (place : Nat) : Text :=
  text.take place ++ newStr ++ text.drop (place + oldStr.length)

def snippetPlace (newStr : Text) (place : Nat) : Nat := if newStr ≠ [] then place else place - 1

theorem edits_exact (text : Text) :
    (∀ place inserted, place ≤ (splitLines text).length → inserted ≠ [] →
      (InsertsLines text place inserted ↔ InsertKeeps text place inserted)) ∧
    (∀ oldStr newStr, ReplacesOne text oldStr newStr ↔ ReplaceKeeps text oldStr) ∧
    (∀ oldStr newStr, MessageNumbers text oldStr newStr ↔ MessageKeeps text oldStr) ∧
    (∀ oldStr newStr edited, strReplace text oldStr newStr = .ok edited →
      ∃ place, At text oldStr place ∧ edited.text = replaced text oldStr newStr place ∧
        edited.snippet = lineSnippet edited.text
          (lineOfIndex edited.text (snippetPlace newStr place)) 2 ∧
        (snippetPlace newStr place < edited.text.length →
          (lineOfIndex edited.text (snippetPlace newStr place) =
              viewLine edited.text (snippetPlace newStr place) ↔
            strayBreaks (replaced text oldStr newStr place) (snippetPlace newStr place) = 0)) ∧
        ShowsViewed edited.text edited.snippet) ∧
    (∀ insertLine inserted edited, insert text insertLine inserted = .ok edited →
      ShowsViewed edited.text edited.snippet) ∧
    (∀ lower needle remaining, ∀ found ∈ searchFile lower needle text remaining,
      (found.line, found.text) ∈ viewed text ∧ ShowsViewed text found.snippet) ∧
    ∀ viewRange view, viewFile text viewRange = .ok view → ShowsViewed text view.content := by
  refine ⟨fun _ _ inside some => inserts_iff inside some, replaces_iff text, message_iff text, ?_,
    fun _ _ _ done => shows_insert done, ?_, fun _ _ read => shows_view read⟩
  · intro oldStr newStr edited done
    have some : oldStr ≠ [] := by
      rintro rfl
      cases done
    have shows := shows_replace done
    obtain ⟨place, ⟨held, _⟩, rfl⟩ := (strReplace_ok some edited).mp done
    exact ⟨place, held, rfl, rfl, lineOfIndex_iff, shows⟩
  · intro lower needle remaining
    exact searchLines_numbers lower (lower needle) text remaining fun row member => member

def gapText : Text := "a\n\nb".toList

theorem edits_exact_gap :
    (InsertsLines gapText 1 ['x'] ↔ InsertKeeps gapText 1 ['x']) ∧
      InsertsLines "a\nb".toList 1 ['x'] := by
  have keeps : InsertKeeps "a\nb".toList 1 ['x'] := by
    left
    unfold FrontLost FrontGained RearLost RearGained Merges Ended
    decide
  exact ⟨(edits_exact gapText).1 1 ['x'] (by decide) (by decide),
    ((edits_exact "a\nb".toList).1 1 ['x'] (by decide) (by decide)).mpr keeps⟩

theorem insert_takes_blank : ¬ ∀ text place inserted, place ≤ (splitLines text).length →
    inserted ≠ [] → InsertsLines text place inserted := by
  intro every
  obtain ⟨edited, done, lines | ⟨behind, _⟩⟩ := every gapText 1 ['x'] (by decide) (by decide)
  · have changed : insert gapText 1 ['x'] =
        .ok ⟨"a\nx\nb".toList, lineSnippet "a\nx\nb".toList 2 2⟩ := by decide
    change insert gapText 1 ['x'] = _ at done
    rw [changed] at done
    cases done
    exact absurd lines (by decide)
  · exact absurd behind.1 (by decide)

end Exactness

end MonoidKernel.Memory
