import MonoidKernel.Memory.Edits

set_option autoImplicit false

namespace MonoidKernel.Memory

open Library
open Library.SplitLines (splitLines Ended Breaks Merges join lines)

section Glue

def frontGlue (before inserted : Text) : Text :=
  if before ≠ [] ∧ ¬ endsLine before ∧ ¬ startsLine inserted then ['\n'] else []

def rearGlue (inserted after : Text) : Text :=
  if after ≠ [] ∧ ¬ endsLine inserted ∧ ¬ startsLine after then ['\n'] else []

theorem endsLine_ended {text : Text} (ends : endsLine text = true) : Ended text := by
  simp only [endsLine, Bool.or_eq_true, beq_iff_eq] at ends
  rcases ends with last | last
  · simp [Ended, last]; decide
  · simp [Ended, last]; decide

theorem startsLine_breaks {text : Text} (starts : startsLine text = true) : Breaks text := by
  simp only [startsLine, Bool.or_eq_true, beq_iff_eq] at starts
  rcases starts with first | first
  · simp [Breaks, first]; decide
  · simp [Breaks, first]; decide

theorem last_append {text : Text} (nonempty : text ≠ []) (before : Text) :
    (before ++ text).getLast? = text.getLast? := by
  rw [List.getLast?_append]
  cases found : text.getLast? with
  | none => exact absurd (List.getLast?_eq_none_iff.mp found) nonempty
  | some last => rfl

theorem insertAfterLine_eq (text : Text) (place : Nat) {inserted : Text} (some : inserted ≠ []) :
    (insertAfterLine text place inserted).1 =
      join ((lines text).take place) ++
        (frontGlue (join ((lines text).take place)) inserted ++ inserted ++
          rearGlue inserted (join ((lines text).drop place))) ++
        join ((lines text).drop place) := by
  have whole := SplitLines.join_cut text place
  have offset : (((lines text).take place).map fun line => line.text.length).sum =
      (join ((lines text).take place)).length := by
    simp [join, List.length_flatten, Function.comp_def]
  have before := @List.take_left _ (join ((lines text).take place)) (join ((lines text).drop place))
  have after := @List.drop_left _ (join ((lines text).take place)) (join ((lines text).drop place))
  rw [whole] at before after
  have front : (if 0 < place ∧ join ((lines text).take place) ≠ [] ∧
      ¬ endsLine (join ((lines text).take place)) ∧ inserted ≠ [] ∧ ¬ startsLine inserted then
        '\n' :: inserted else inserted) =
      frontGlue (join ((lines text).take place)) inserted ++ inserted := by
    have positive : join ((lines text).take place) ≠ [] → 0 < place := by
      intro visible
      refine Nat.pos_of_ne_zero ?_
      rintro rfl
      exact visible rfl
    unfold frontGlue
    by_cases glued : join ((lines text).take place) ≠ [] ∧
        ¬ endsLine (join ((lines text).take place)) ∧ ¬ startsLine inserted
    · rw [if_pos glued, if_pos ⟨positive glued.1, glued.1, glued.2.1, some, glued.2.2⟩]
      rfl
    · rw [if_neg glued, if_neg (fun all => glued ⟨all.2.1, all.2.2.1, all.2.2.2.2⟩)]
      rfl
  have visible : frontGlue (join ((lines text).take place)) inserted ++ inserted ≠ [] := by
    simp [some]
  have ends : endsLine (frontGlue (join ((lines text).take place)) inserted ++ inserted) =
      endsLine inserted := by
    simp only [endsLine, last_append some]
  simp only [insertAfterLine, offset, before, after, front]
  unfold rearGlue
  by_cases glued : join ((lines text).drop place) ≠ [] ∧ ¬ endsLine inserted ∧
      ¬ startsLine (join ((lines text).drop place))
  · rw [if_pos glued, if_pos ⟨glued.1, visible, ends ▸ glued.2.1, glued.2.2⟩]
  · rw [if_neg glued, if_neg (fun all => glued ⟨all.1, ends ▸ all.2.2.1, all.2.2.2⟩),
      List.append_nil]

end Glue

section Sides

def FrontLost (before inserted : Text) : Prop := Merges before inserted

def FrontGained (before inserted : Text) : Prop :=
  before ≠ [] ∧ Ended before ∧ endsLine before = false ∧ startsLine inserted = false

def RearLost (inserted after : Text) : Prop :=
  Merges inserted after ∨ ¬ Ended inserted ∧ startsLine after = true

def RearGained (inserted after : Text) : Prop :=
  after ≠ [] ∧ Ended inserted ∧ endsLine inserted = false ∧ startsLine after = false

theorem newline_cons (text : Text) : splitLines ('\n' :: text) = [] :: splitLines text := by
  unfold splitLines
  rw [SplitLines.lines_break (by decide) (by rintro ⟨same, _⟩; cases same)]
  rfl

theorem endsLine_merges {text rest : Text} (merges : Merges text rest) : endsLine text = true := by
  simp [endsLine, merges.1]

theorem startsLine_merges {text rest : Text} (merges : Merges text rest) :
    startsLine rest = true := by
  simp [startsLine, merges.2]

theorem rear_lines {inserted : Text} (some : inserted ≠ []) (after : Text) :
    (RearLost inserted after ∧ splitLines (inserted ++ rearGlue inserted after ++ after) =
        splitLines inserted ++ (splitLines after).tail) ∨
      (RearGained inserted after ∧ splitLines (inserted ++ rearGlue inserted after ++ after) =
        splitLines inserted ++ [] :: splitLines after) ∨
      (¬ RearLost inserted after ∧ ¬ RearGained inserted after ∧
        splitLines (inserted ++ rearGlue inserted after ++ after) =
          splitLines inserted ++ splitLines after) := by
  by_cases glued : after ≠ [] ∧ ¬ endsLine inserted ∧ ¬ startsLine after
  next =>
    -- A line feed stands between them.
    obtain ⟨more, unended, unstarted⟩ := glued
    have glue : rearGlue inserted after = ['\n'] := if_pos ⟨more, unended, unstarted⟩
    have apart : ¬ Merges inserted ('\n' :: after) := fun merges =>
      unended (endsLine_merges ⟨merges.1, merges.2⟩)
    rw [glue, List.append_assoc, List.singleton_append]
    by_cases ended : Ended inserted
    · refine Or.inr (Or.inl ⟨⟨more, ended, by simpa using unended, by simpa using unstarted⟩, ?_⟩)
      rw [SplitLines.splitLines_append ended apart, newline_cons]
    · refine Or.inr (Or.inr ⟨?_, ?_, ?_⟩)
      · rintro (merges | ⟨_, starts⟩)
        · exact unended (endsLine_merges merges)
        · exact unstarted starts
      · exact fun gained => ended gained.2.1
      · rw [SplitLines.splitLines_swallow (by rfl) (Or.inl ⟨some, ended⟩), newline_cons]
        rfl
  · have glue : rearGlue inserted after = [] := if_neg glued
    rw [glue, List.append_nil]
    by_cases lost : RearLost inserted after
    · refine Or.inl ⟨lost, ?_⟩
      rcases lost with merges | ⟨ended, starts⟩
      · exact SplitLines.splitLines_swallow (startsLine_breaks (startsLine_merges merges))
          (Or.inr merges)
      · exact SplitLines.splitLines_swallow (startsLine_breaks starts) (Or.inl ⟨some, ended⟩)
    · refine Or.inr (Or.inr ⟨lost, ?_, ?_⟩)
      · rintro ⟨more, _, unended, unstarted⟩
        exact glued ⟨more, by simp [unended], by simp [unstarted]⟩
      · by_cases none : after = []
        · simp [none, splitLines, lines]
        · have ended : Ended inserted := by
            by_contra ended
            have starts : startsLine after = false :=
              Bool.eq_false_iff.mpr fun starts => lost (Or.inr ⟨ended, starts⟩)
            refine glued ⟨none, fun ends => ended (endsLine_ended ends), by simp [starts]⟩
          exact SplitLines.splitLines_append ended fun merges => lost (Or.inl merges)

theorem front_lines {inserted : Text} (some : inserted ≠ []) (before rest : Text) :
    (FrontLost before inserted ∧
        splitLines (before ++ (frontGlue before inserted ++ (inserted ++ rest))) =
          splitLines before ++ (splitLines (inserted ++ rest)).tail) ∨
      (FrontGained before inserted ∧
        splitLines (before ++ (frontGlue before inserted ++ (inserted ++ rest))) =
          splitLines before ++ [] :: splitLines (inserted ++ rest)) ∨
      ((before ≠ [] ∧ ¬ Ended before ∧ Breaks inserted) ∧
        splitLines (before ++ (frontGlue before inserted ++ (inserted ++ rest))) =
          splitLines before ++ (splitLines (inserted ++ rest)).tail) ∨
      (¬ FrontLost before inserted ∧ ¬ FrontGained before inserted ∧
        splitLines (before ++ (frontGlue before inserted ++ (inserted ++ rest))) =
          splitLines before ++ splitLines (inserted ++ rest)) := by
  obtain ⟨first, others, rfl⟩ := List.exists_cons_of_ne_nil some
  by_cases glued : before ≠ [] ∧ ¬ endsLine before ∧ ¬ startsLine (first :: others)
  · obtain ⟨more, unended, unstarted⟩ := glued
    have glue : frontGlue before (first :: others) = ['\n'] := if_pos ⟨more, unended, unstarted⟩
    have apart (rest : Text) : ¬ Merges before rest := fun merges =>
      unended (endsLine_merges merges)
    rw [glue, List.singleton_append]
    by_cases ended : Ended before
    · refine Or.inr (Or.inl ⟨⟨more, ended, by simpa using unended, by simpa using unstarted⟩, ?_⟩)
      rw [SplitLines.splitLines_append ended (apart _), newline_cons]
    · refine Or.inr (Or.inr (Or.inr ⟨apart _, fun gained => ended gained.2.1, ?_⟩))
      rw [SplitLines.splitLines_swallow (by rfl) (Or.inl ⟨more, ended⟩), newline_cons]
      rfl
  · have glue : frontGlue before (first :: others) = [] := if_neg glued
    rw [glue, List.nil_append]
    by_cases lost : FrontLost before (first :: others)
    · refine Or.inl ⟨lost, SplitLines.splitLines_swallow ?_ (Or.inr lost)⟩
      exact startsLine_breaks (startsLine_merges lost)
    by_cases opens : before ≠ [] ∧ ¬ Ended before
    · have starts : startsLine (first :: others) = true := by
        by_contra starts
        exact glued ⟨opens.1, fun ends => opens.2 (endsLine_ended ends), starts⟩
      have breaks := startsLine_breaks starts
      refine Or.inr (Or.inr (Or.inl ⟨⟨opens.1, opens.2, breaks⟩, ?_⟩))
      exact SplitLines.splitLines_swallow breaks (Or.inl opens)
    · have ended : Ended before := by
        by_contra ended
        refine opens ⟨?_, ended⟩
        rintro rfl
        exact ended rfl
      refine Or.inr (Or.inr (Or.inr ⟨lost, ?_, ?_⟩))
      · rintro ⟨more, _, unended, unstarted⟩
        exact glued ⟨more, by simp [unended], by simp [unstarted]⟩
      · exact SplitLines.splitLines_append ended lost

end Sides

section Inserting

def BehindOpenLine (text : Text) (place : Nat) : Prop :=
  place = (splitLines text).length ∧ text ≠ [] ∧ ¬ Ended text

-- The file then has the lines before the place, those of the inserted text, and the others; behind
-- an open last line, a leading break of the inserted text may only end that line.
def InsertsLines (text : Text) (place : Nat) (inserted : Text) : Prop :=
  ∃ edited, insert text place inserted = .ok edited ∧
    (splitLines edited.text = (splitLines text).take place ++ splitLines inserted ++
        (splitLines text).drop place ∨
      BehindOpenLine text place ∧ Breaks inserted ∧
        splitLines edited.text = (splitLines text).take place ++ (splitLines inserted).tail ++
          (splitLines text).drop place)

-- No blank line is lost or gained on either side, or the inserted text has only blank lines and one
-- is gained for one that is lost.
def InsertKeeps (text : Text) (place : Nat) (inserted : Text) : Prop :=
  let before := join ((lines text).take place)
  let after := join ((lines text).drop place)
  (¬ FrontLost before inserted ∧ ¬ FrontGained before inserted ∧
      ¬ RearLost inserted after ∧ ¬ RearGained inserted after) ∨
    (∀ line ∈ splitLines inserted, line = []) ∧
      (FrontLost before inserted ∧ RearGained inserted after ∨
        FrontGained before inserted ∧ RearLost inserted after)

theorem blanks_rotate (some : List Text) :
    [] :: some = some ++ [[]] ↔ ∀ line ∈ some, line = [] := by
  induction some with
  | nil => simp
  | cons line rest ih =>
    rw [List.forall_mem_cons, ← ih, List.cons_append, List.cons.injEq]
    constructor
    · rintro ⟨rfl, same⟩
      exact ⟨rfl, same⟩
    · rintro ⟨rfl, same⟩
      exact ⟨rfl, same⟩

theorem lost_first {some : List Text} (blank : some = [] :: some.tail) (before after : List Text) :
    before ++ (some ++ [] :: after).tail = before ++ some ++ after ↔ ∀ line ∈ some, line = [] := by
  obtain ⟨rest, rfl⟩ : ∃ rest, some = [] :: rest := ⟨_, blank⟩
  rw [List.cons_append, List.tail_cons, List.append_assoc before, List.append_right_inj,
    List.append_cons rest [] after, List.append_left_inj, eq_comm, blanks_rotate,
    List.forall_mem_cons, and_iff_right rfl]

theorem gained_first (some before after : List Text) :
    before ++ [] :: (some ++ after) = before ++ some ++ [] :: after ↔ ∀ line ∈ some, line = [] := by
  rw [List.append_assoc, List.append_right_inj, ← List.cons_append, List.append_cons some [] after,
    List.append_left_inj, blanks_rotate]

theorem sides_iff {front middle rest behind whole : List Text}
    {lost gained lostBehind gainedBehind : Prop}
    (visible : middle ≠ []) (one : lost → ¬ gained) (oneBehind : lostBehind → ¬ gainedBehind)
    (blank : lost → middle = [] :: middle.tail) (blankBehind : lostBehind → rest = [] :: rest.tail)
    (before : (lost ∧ whole = front ++ behind.tail) ∨ (gained ∧ whole = front ++ [] :: behind) ∨
      (¬ lost ∧ ¬ gained ∧ whole = front ++ behind))
    (after : (lostBehind ∧ behind = middle ++ rest.tail) ∨
      (gainedBehind ∧ behind = middle ++ [] :: rest) ∨
      (¬ lostBehind ∧ ¬ gainedBehind ∧ behind = middle ++ rest)) :
    whole = front ++ middle ++ rest ↔
      (¬ lost ∧ ¬ gained ∧ ¬ lostBehind ∧ ¬ gainedBehind) ∨
        (∀ line ∈ middle, line = []) ∧ (lost ∧ gainedBehind ∨ gained ∧ lostBehind) := by
  -- Without a blank line on either side, the numbers of lines decide.
  have counted : whole = front ++ middle ++ rest →
      whole.length = front.length + middle.length + rest.length := by
    rintro rfl
    simp only [List.length_append]
  have longer := List.length_pos_iff.mpr visible
  have size : lostBehind → rest.length = rest.tail.length + 1 := fun fewer => by
    rw [blankBehind fewer]
    rfl
  rcases before with ⟨fewer, rfl⟩ | ⟨more, rfl⟩ | ⟨unlost, ungained, rfl⟩
  · have still := one fewer
    rcases after with ⟨less, rfl⟩ | ⟨extra, rfl⟩ | ⟨quiet, none, rfl⟩
    · have size := size less
      refine iff_of_false (fun same => ?_) (by simp [fewer, still, oneBehind less])
      have count := counted same
      simp only [List.length_append, List.length_tail] at count size
      omega
    · rw [lost_first (blank fewer)]
      simp [fewer, extra]
    · refine iff_of_false (fun same => ?_) (by simp [fewer, still, quiet, none])
      have count := counted same
      simp only [List.length_append, List.length_tail] at count
      omega
  · have still : ¬ lost := fun fewer => one fewer more
    rcases after with ⟨less, rfl⟩ | ⟨extra, rfl⟩ | ⟨quiet, none, rfl⟩
    · have gains := gained_first middle front rest.tail
      rw [← blankBehind less] at gains
      rw [gains]
      simp [more, less]
    · have unless' : ¬ lostBehind := fun less => oneBehind less extra
      refine iff_of_false (fun same => ?_) (by simp [more, still, unless'])
      have count := counted same
      simp only [List.length_append, List.length_cons] at count
      omega
    · refine iff_of_false (fun same => ?_) (by simp [more, still, quiet])
      have count := counted same
      simp only [List.length_append, List.length_cons] at count
      omega
  · rcases after with ⟨less, rfl⟩ | ⟨extra, rfl⟩ | ⟨quiet, none, rfl⟩
    · have size := size less
      refine iff_of_false (fun same => ?_) (by simp [unlost, ungained, less])
      have count := counted same
      simp only [List.length_append, List.length_tail] at count size
      omega
    · refine iff_of_false (fun same => ?_) (by simp [unlost, ungained, extra])
      have count := counted same
      simp only [List.length_append, List.length_cons] at count
      omega
    · simp [unlost, ungained, quiet, none]

theorem lines_before (text : Text) (place : Nat) :
    splitLines (join ((lines text).take place)) = (splitLines text).take place := by
  unfold splitLines
  rw [SplitLines.lines_take, List.map_take]

theorem lines_after (text : Text) (place : Nat) :
    splitLines (join ((lines text).drop place)) = (splitLines text).drop place := by
  unfold splitLines
  rw [(SplitLines.lines_drop text place).1, List.map_drop]

theorem insert_ok {text inserted : Text} {place : Nat} (inside : place ≤ (splitLines text).length) :
    insert text place inserted = .ok ⟨(insertAfterLine text place inserted).1,
      lineSnippet (insertAfterLine text place inserted).1 (place + 1) 2⟩ := by
  have named : ¬ ((place : Int) < 0 ∨ (place : Int) > (splitLines text).length) := by omega
  simp only [insert, if_neg named, Int.toNat_natCast]
  rfl

theorem open_before {text : Text} {place : Nat} (inside : place ≤ (splitLines text).length) :
    BehindOpenLine text place ↔
      join ((lines text).take place) ≠ [] ∧ ¬ Ended (join ((lines text).take place)) := by
  have size : (splitLines text).length = (lines text).length := List.length_map _
  rw [size] at inside
  unfold BehindOpenLine
  rw [size]
  constructor
  · rintro ⟨rfl, some, unended⟩
    rw [List.take_length, SplitLines.join_lines]
    exact ⟨some, unended⟩
  · rintro ⟨some, unended⟩
    have last := (SplitLines.lines_drop text place).2.resolve_left unended
    have reached := List.drop_eq_nil_iff.mp last
    have every : (lines text).take place = lines text := List.take_of_length_le reached
    rw [every, SplitLines.join_lines] at some unended
    exact ⟨Nat.le_antisymm inside reached, some, unended⟩

theorem inserts_iff {text inserted : Text} {place : Nat}
    (inside : place ≤ (splitLines text).length) (some : inserted ≠ []) :
    InsertsLines text place inserted ↔ InsertKeeps text place inserted := by
  have reads : InsertsLines text place inserted ↔
      (splitLines (insertAfterLine text place inserted).1 =
          (splitLines text).take place ++ splitLines inserted ++ (splitLines text).drop place ∨
        BehindOpenLine text place ∧ Breaks inserted ∧
          splitLines (insertAfterLine text place inserted).1 = (splitLines text).take place ++
            (splitLines inserted).tail ++ (splitLines text).drop place) := by
    unfold InsertsLines
    rw [insert_ok inside]
    constructor
    · rintro ⟨edited, same, changed⟩
      cases same
      exact changed
    · exact fun changed => ⟨_, rfl, changed⟩
  have nothing := (SplitLines.lines_drop text place).2
  rw [reads, insertAfterLine_eq text place some, open_before inside, ← lines_before text place,
    ← lines_after text place]
  unfold InsertKeeps
  simp only
  generalize behind : (lines text).drop place = others at nothing
  generalize join ((lines text).take place) = before at nothing
  have alone : ¬ Ended before → join others = [] := by
    intro unended
    rw [nothing.resolve_left unended]
    rfl
  generalize join others = after at alone
  have visible : splitLines inserted ≠ [] := SplitLines.splitLines_nonempty some
  have longer := List.length_pos_iff.mpr visible
  have arranged : before ++ (frontGlue before inserted ++ inserted ++ rearGlue inserted after) ++
      after = before ++ (frontGlue before inserted ++
        (inserted ++ (rearGlue inserted after ++ after))) := by
    simp only [List.append_assoc]
  rw [arranged]
  have rear := rear_lines some after
  rw [List.append_assoc] at rear
  have front := front_lines some before (rearGlue inserted after ++ after)
  have lostEnded : FrontLost before inserted → Ended before := fun lost =>
    endsLine_ended (endsLine_merges lost)
  by_cases opens : before ≠ [] ∧ ¬ Ended before
  next =>
    -- Nothing follows, and the glue or the first break ends the open line.
    obtain rfl := alone opens.2
    have unlost : ¬ RearLost inserted [] := by
      rintro (merges | starts)
      · exact nomatch merges.2
      · exact nomatch starts.2
    have ungained : ¬ RearGained inserted [] := fun gained => gained.1 rfl
    have quiet : ¬ FrontLost before inserted ∧ ¬ FrontGained before inserted :=
      ⟨fun lost => opens.2 (lostEnded lost), fun gained => opens.2 gained.2.1⟩
    have written := ((rear.resolve_left fun lost => unlost lost.1).resolve_left
      fun gained => ungained gained.1).2.2
    refine iff_of_true ?_ (Or.inl ⟨quiet.1, quiet.2, unlost, ungained⟩)
    rcases front with lost | gained | broken | kept
    · exact absurd lost.1 quiet.1
    · exact absurd gained.1 quiet.2
    · refine Or.inr ⟨opens, broken.1.2.2, ?_⟩
      rw [broken.2, written, List.tail_append_of_ne_nil visible, List.append_assoc]
    · refine Or.inl ?_
      rw [kept.2.2, written, List.append_assoc]
  · have lostBlank : FrontLost before inserted →
        splitLines inserted = [] :: (splitLines inserted).tail := fun lost =>
      (startsLine_breaks (startsLine_merges lost)).blank
    have restBlank : RearLost inserted after →
        splitLines after = [] :: (splitLines after).tail := by
      rintro (merges | ⟨_, starts⟩)
      · exact (startsLine_breaks (startsLine_merges merges)).blank
      · exact (startsLine_breaks starts).blank
    have frontOne : FrontLost before inserted → ¬ FrontGained before inserted := by
      intro lost gained
      have ends := gained.2.2.1
      rw [endsLine_merges lost] at ends
      cases ends
    have rearOne : RearLost inserted after → ¬ RearGained inserted after := by
      rintro (merges | ⟨ended, _⟩) gained
      · have ends := gained.2.2.1
        rw [endsLine_merges merges] at ends
        cases ends
      · exact ended gained.2.1
    rw [or_iff_left (fun broken => opens broken.1)]
    generalize splitLines (before ++ (frontGlue before inserted ++
      (inserted ++ (rearGlue inserted after ++ after)))) = whole at front
    generalize splitLines (inserted ++ (rearGlue inserted after ++ after)) = behind at front rear
    refine sides_iff visible frontOne rearOne lostBlank restBlank ?_ rear
    rcases front with lost | gained | broken | kept
    · exact Or.inl lost
    · exact Or.inr (Or.inl gained)
    · exact absurd ⟨broken.1.1, broken.1.2.1⟩ opens
    · exact Or.inr (Or.inr kept)

end Inserting

end MonoidKernel.Memory
