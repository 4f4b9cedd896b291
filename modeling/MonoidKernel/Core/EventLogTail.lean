import MonoidKernel.Core.EventLog

set_option autoImplicit false

namespace MonoidKernel.EventLog

open Library (firstLine lastMark firstLine_unmarked firstLine_marked lastMark_none lastMark_some
  lastMark_append_eq marked_cases)

variable {Digest Payload : Type} (sha256 : Bytes → Digest)

section Forward

variable (offset : Nat)

theorem scan_unmarked {rest : Bytes} (free : newline ∉ rest) :
    scanRecords sha256 none offset rest = ([], none) := by
  have whole : readline none offset rest = rest := firstLine_unmarked free
  unfold scanRecords
  simp only [whole, Option.any_none, Bool.false_eq_true, if_false, Option.map_none]
  split
  · rfl
  next some =>
    rw [if_pos]
    intro marked
    exact free (List.mem_of_getLast? marked)

theorem scan_line {line : Bytes} (free : newline ∉ line) (rest : Bytes) :
    scanRecords sha256 none offset (line ++ newline :: rest) =
      (⟨offset, offset + (line.length + 1), line ++ [newline], sha256 (line ++ [newline])⟩ ::
        (scanRecords sha256 none (offset + (line.length + 1)) rest).1,
        (scanRecords sha256 none (offset + (line.length + 1)) rest).2) := by
  have raw : readline none offset (line ++ newline :: rest) = line ++ [newline] :=
    firstLine_marked free rest
  have later : (line ++ newline :: rest).drop (line.length + 1) = rest := by simp
  rw [scanRecords]
  simp [raw, later]

theorem scan_append (line rest : Bytes) :
    (scanRecords sha256 none offset (line ++ newline :: rest)).1 =
      (scanRecords sha256 none offset (line ++ [newline])).1 ++
        (scanRecords sha256 none (offset + (line.length + 1)) rest).1 := by
  induction length : line.length using Nat.strong_induction_on generalizing offset line with
  | _ size ih =>
    subst length
    rcases marked_cases newline line with free | ⟨first, others, rfl, free⟩
    · rw [scan_line sha256 offset free rest, scan_line sha256 offset free []]
      simp [scan_unmarked]
    · have shorter := ih others.length (by simp; omega) (offset + (first.length + 1)) others rfl
      simp only [List.append_assoc, List.cons_append]
      rw [scan_line sha256 offset free, scan_line sha256 offset free]
      have place : offset + (first.length + 1) + (others.length + 1) =
          offset + ((first ++ newline :: others).length + 1) := by
        simp
        omega
      simp only [List.cons_append, shorter, place]

theorem scan_succeeds (rest : Bytes) :
    (scanRecords sha256 none offset rest).2 = none := by
  induction length : rest.length using Nat.strong_induction_on generalizing offset rest with
  | _ size ih =>
    subst length
    rcases marked_cases newline rest with free | ⟨line, others, rfl, free⟩
    · rw [scan_unmarked sha256 offset free]
    · rw [scan_line sha256 offset free]
      exact ih others.length (by simp; omega) _ others rfl

def lastRecord (records : List (CommittedJsonlRecord Digest)) :
    Option (CommittedJsonlRecord Digest) :=
  (records.filter fun record => isBlank record.rawBytes = false).getLast?

theorem isBlank_line (line : Bytes) : isBlank (line ++ [newline]) = isBlank line := by
  have space : isSpaceByte newline = true := by decide
  simp [isBlank, space]

theorem lastRecord_unmarked {line : Bytes} (free : newline ∉ line) :
    lastRecord (scanRecords sha256 none 0 (line ++ [newline])).1 =
      if isBlank line = false then
        some ⟨0, line.length + 1, line ++ [newline], sha256 (line ++ [newline])⟩
      else none := by
  rw [scan_line sha256 0 free []]
  simp only [scan_unmarked sha256 _ (List.not_mem_nil), lastRecord, Nat.zero_add]
  split
  next full => simp [isBlank_line, full]
  next blank =>
    simp only [Bool.not_eq_false] at blank
    simp [isBlank_line, blank]

theorem lastRecord_cut {line : Bytes} (front : Bytes) (free : newline ∉ line) :
    lastRecord (scanRecords sha256 none 0 ((front ++ newline :: line) ++ [newline])).1 =
      if isBlank line = false then
        some ⟨front.length + 1, front.length + 1 + (line.length + 1), line ++ [newline],
          sha256 (line ++ [newline])⟩
      else lastRecord (scanRecords sha256 none 0 (front ++ [newline])).1 := by
  rw [List.append_assoc, List.cons_append, scan_append, scan_line sha256 _ free []]
  simp only [scan_unmarked sha256 _ (List.not_mem_nil), lastRecord, Nat.zero_add,
    List.filter_append]
  split
  next full => simp [isBlank_line, full]
  next blank =>
    simp only [Bool.not_eq_false] at blank
    simp [isBlank_line, blank]

end Forward

section Backward

def located (record : Option (CommittedJsonlRecord Digest)) : Nat × Option Bytes :=
  match record with
  | none => (0, none)
  | some record => (record.byteOffset, some record.rawBytes.dropLast)

def lastIn (data : Bytes) : Option (CommittedJsonlRecord Digest) :=
  lastRecord (scanRecords sha256 none 0 (data ++ [newline])).1

def Answers (front candidate : Bytes) : (Nat × Bytes) ⊕ Bytes → Prop
  | .inl (offset, record) => located (lastIn sha256 (front ++ candidate)) = (offset, some record)
  | .inr carried =>
    newline ∉ carried ∧ lastIn sha256 (front ++ candidate) = lastIn sha256 (front ++ carried)

theorem lastNonblankIn_spec (front candidate : Bytes) :
    Answers sha256 front candidate (lastNonblankIn front.length candidate) := by
  induction length : candidate.length using Nat.strong_induction_on generalizing candidate with
  | _ size ih =>
    subst length
    unfold lastNonblankIn
    split
    next free => exact ⟨lastMark_none.mp free, rfl⟩
    next index last =>
      obtain ⟨inside, cut, free⟩ := lastMark_some last
      have whole : front ++ candidate = (front ++ candidate.take index) ++
          newline :: candidate.drop (index + 1) := by
        rw [List.append_assoc, ← cut]
      have lastly : lastIn sha256 (front ++ candidate) = _ :=
        whole ▸ lastRecord_cut sha256 (front ++ candidate.take index) free
      have measured : (front ++ candidate.take index).length = front.length + index := by
        simp
        omega
      dsimp only
      split
      next full =>
        simp only [Answers]
        rw [lastly, if_pos full]
        simp [located, measured]
      next blank =>
        have shorter := ih (candidate.take index).length (by simp; omega) _ rfl
        rw [if_neg blank] at lastly
        cases found : lastNonblankIn front.length (candidate.take index) with
        | inl answer =>
          rw [found] at shorter
          exact (congrArg located lastly).trans shorter
        | inr carried =>
          rw [found] at shorter
          exact ⟨shorter.1, lastly.trans shorter.2⟩

theorem take_block (content : Bytes) {cursor size : Nat} (size_le : size ≤ cursor) :
    content.take cursor = content.take (cursor - size) ++
      (content.drop (cursor - size)).take size := by
  rw [← List.take_add, Nat.sub_add_cancel size_le]

theorem lastNonblankFrom_spec (block : BlockSize) (content : Bytes) {cursor : Nat}
    (within : cursor ≤ content.length) {suffix : Bytes} (free : newline ∉ suffix)
    (inspected : Nat) :
    ((lastNonblankFrom block content cursor suffix inspected).1,
        (lastNonblankFrom block content cursor suffix inspected).2.1) =
      located (lastIn sha256 (content.take cursor ++ suffix)) := by
  induction cursor using Nat.strong_induction_on generalizing suffix inspected with
  | _ cursor ih =>
    unfold lastNonblankFrom
    split
    next more =>
      have positive := block.positive
      have data := take_block content (Nat.min_le_right block.size cursor)
      have step := lastNonblankIn_spec sha256 (content.take (cursor - min block.size cursor))
        ((content.drop (cursor - min block.size cursor)).take (min block.size cursor) ++ suffix)
      have start : (content.take (cursor - min block.size cursor)).length =
          cursor - min block.size cursor := by
        rw [List.length_take]
        omega
      rw [start] at step
      rw [data, List.append_assoc]
      dsimp only
      split
      next offset record found =>
        rw [found] at step
        exact step.symm
      next carried found =>
        rw [found] at step
        rw [step.2]
        exact ih _ (by omega) (by omega) step.1 _
    next done =>
      have zero : cursor = 0 := by omega
      subst zero
      have lastly := lastRecord_unmarked sha256 free
      simp only [List.take_zero, List.nil_append, lastIn]
      split
      next full =>
        rw [lastly, if_pos full]
        simp [located]
      next blank =>
        rw [lastly, if_neg blank]
        rfl

theorem findPreviousNewline_spec (block : BlockSize) (content : Bytes) {cursor : Nat}
    (within : cursor ≤ content.length) (inspected : Nat) :
    (findPreviousNewline block content cursor inspected).1 =
      lastMark newline (content.take cursor) := by
  induction cursor using Nat.strong_induction_on generalizing inspected with
  | _ cursor ih =>
    unfold findPreviousNewline
    split
    next more =>
      have positive := block.positive
      rw [take_block content (Nat.min_le_right block.size cursor), lastMark_append_eq]
      dsimp only
      cases lastMark newline
        ((content.drop (cursor - min block.size cursor)).take (min block.size cursor)) with
      | some index =>
        have start : (content.take (cursor - min block.size cursor)).length =
            cursor - min block.size cursor := by
          rw [List.length_take]
          omega
        simp only [start]
      | none => exact ih (cursor - min block.size cursor) (by omega) (by omega) _
    next done =>
      have zero : cursor = 0 := by omega
      subst zero
      rfl

end Backward

section Tail

variable (codec : EventCodec Payload) (block : BlockSize)

def EndsLastLine (content : Bytes) (stop : Nat) : Prop :=
  (stop = 0 ∨ content[stop - 1]? = some newline) ∧
    ∀ index, content[index]? = some newline → index < stop

variable {content : Bytes} {stop : Nat}

theorem endsLastLine_cases (ends : EndsLastLine content stop) :
    (stop = 0 ∧ newline ∉ content) ∨ ∃ front rest, content = front ++ newline :: rest ∧
      newline ∉ rest ∧ stop = front.length + 1 := by
  obtain ⟨place, last⟩ := ends
  have beyond : newline ∉ content.drop stop := by
    intro member
    obtain ⟨index, found⟩ := List.mem_iff_getElem?.mp member
    rw [List.getElem?_drop] at found
    have := last _ found
    omega
  cases stop with
  | zero => exact .inl ⟨rfl, by simpa using beyond⟩
  | succ index =>
    right
    have found : content[index]? = some newline := by
      rcases place with impossible | found
      · omega
      · exact found
    obtain ⟨inside, same⟩ := List.getElem?_eq_some_iff.mp found
    refine ⟨content.take index, content.drop (index + 1), ?_, beyond, by simp; omega⟩
    rw [← same, List.cons_getElem_drop_succ, List.take_append_drop]

theorem lastMark_ends (content : Bytes) :
    EndsLastLine content (match lastMark newline content with
      | none => 0
      | some index => index + 1) := by
  cases last : lastMark newline content with
  | none =>
    refine ⟨.inl rfl, ?_⟩
    intro index found
    exact absurd (List.mem_of_getElem? found) (lastMark_none.mp last)
  | some index =>
    obtain ⟨inside, cut, free⟩ := lastMark_some last
    refine ⟨.inr ?_, ?_⟩
    · have here : (content.take index ++ newline :: content.drop (index + 1))[index]? =
          some newline := by
        rw [List.getElem?_append_right (by simp)]
        simp [Nat.min_eq_left (Nat.le_of_lt inside)]
      rw [← cut] at here
      simpa using here
    · intro other found
      by_contra after
      apply free
      have later : (content.drop (index + 1))[other - (index + 1)]? = some newline := by
        rw [List.getElem?_drop, ← found]
        congr 1
        dsimp only at after
        omega
      exact List.mem_of_getElem? later

theorem scan_committed (ends : EndsLastLine content stop) :
    (scanRecords sha256 none 0 content).1 =
        if stop = 0 then [] else
          (scanRecords sha256 none 0 (content.take (stop - 1) ++ [newline])).1 := by
  rcases endsLastLine_cases ends with ⟨rfl, free⟩ | ⟨front, rest, rfl, free, rfl⟩
  · simp [scan_unmarked sha256 0 free]
  · rw [scan_append, scan_unmarked sha256 _ free]
    simp

theorem scan_take (ends : EndsLastLine content stop) :
    scanRecords sha256 none 0 (content.take stop) = scanRecords sha256 none 0 content := by
  refine Prod.ext ?_ ((scan_succeeds sha256 0 _).trans (scan_succeeds sha256 0 _).symm)
  rcases endsLastLine_cases ends with ⟨rfl, free⟩ | ⟨front, rest, rfl, free, rfl⟩
  · simp [scan_unmarked sha256 0 free, scan_unmarked sha256 0 (List.not_mem_nil)]
  · have committed : (front ++ newline :: rest).take (front.length + 1) = front ++ [newline] := by
      simp [List.take_append, List.take_of_length_le]
    rw [committed, scan_append sha256 0 front rest, scan_unmarked sha256 _ free, List.append_nil]

structure Inspected (content : Bytes) (tail : CommittedJsonlTail Digest)
    (rawRecord : Option Bytes) : Prop where
  size : tail.fileSize = content.length
  ends : EndsLastLine content tail.committedEnd
  incomplete : tail.incompleteSize = content.length - tail.committedEnd
  record : (tail.lastRecordOffset, rawRecord) =
    located (lastRecord (scanRecords sha256 none 0 content).1)
  digest : tail.lastRecordSha256 = rawRecord.map fun record => sha256 (record ++ [newline])

theorem lastNonblankCommittedRecord_spec (ends : EndsLastLine content stop) :
    ((lastNonblankCommittedRecord block content stop).1,
        (lastNonblankCommittedRecord block content stop).2.1) =
      located (lastRecord (scanRecords sha256 none 0 content).1) := by
  rw [scan_committed sha256 ends]
  unfold lastNonblankCommittedRecord
  split
  · rfl
  next some =>
    have within : stop - 1 ≤ content.length := by
      rcases ends.1 with zero | found
      · exact absurd zero some
      · have := (List.getElem?_eq_some_iff.mp found).1
        omega
    rw [lastNonblankFrom_spec sha256 block content within (List.not_mem_nil), List.append_nil]
    rfl

theorem inspected_ends (file : FileView) :
    EndsLastLine file.content (if file.content[file.content.length - 1]? = some newline
      then (file.content.length, 1)
      else
        match findPreviousNewline block file.content file.content.length 1 with
        | (none, searched) => (0, searched)
        | (some newlineOffset, searched) => (newlineOffset + 1, searched)).1 := by
  split
  next whole =>
    refine ⟨.inr whole, ?_⟩
    intro index found
    exact (List.getElem?_eq_some_iff.mp found).1
  · have last := lastMark_ends file.content
    have search := findPreviousNewline_spec block file.content (Nat.le_refl _) 1
    rw [List.take_length] at search
    rw [← search] at last
    cases found : findPreviousNewline block file.content file.content.length 1 with
    | mk position searched =>
      rw [found] at last
      cases position <;> exact last

theorem inspect_spec (file : FileView) :
    Inspected sha256 file.content (inspectOpenCommittedJsonlTail sha256 block file).1
      (inspectOpenCommittedJsonlTail sha256 block file).2 := by
  unfold inspectOpenCommittedJsonlTail
  dsimp only
  split
  next empty =>
    have none : file.content = [] := List.eq_nil_of_length_eq_zero empty
    refine ⟨empty.symm, ⟨.inl rfl, by simp [none]⟩, by simp [empty], ?_, rfl⟩
    rw [none, scan_unmarked sha256 0 (List.not_mem_nil)]
    rfl
  next full =>
    have ends := inspected_ends block file
    refine ⟨rfl, ends, rfl, ?_, rfl⟩
    exact lastNonblankCommittedRecord_spec sha256 block ends

theorem decodeRecords_last {records : List (CommittedJsonlRecord Digest)}
    {events : List (EventLogRecord Digest Payload)}
    (done : decodeRecords codec records = (events, none)) :
    match lastRecord records with
    | none => events = []
    | some record => ∃ event, events.getLast? = some event ∧
        decodeCommittedEventRecord codec record = .ok event := by
  induction records generalizing events with
  | nil =>
    cases done
    rfl
  | cons record rest ih =>
    unfold decodeRecords at done
    split at done
    next blank =>
      have skip : lastRecord (record :: rest) = lastRecord rest := by
        simp [lastRecord, blank]
      rw [skip]
      exact ih done
    next full =>
      split at done
      · cases done
      next event decoded =>
        obtain ⟨same, clean⟩ := Prod.mk.inj done
        have further := ih (Prod.ext rfl clean)
        have head : lastRecord (record :: rest) = (lastRecord rest).or (some record) := by
          have kept : decide (isBlank record.rawBytes = false) = true := by simpa using full
          unfold lastRecord
          simp only [List.filter_cons, kept, if_true, List.getLast?_cons]
          cases (rest.filter fun record => isBlank record.rawBytes = false).getLast? <;> rfl
        rw [head, ← same]
        cases last : lastRecord rest with
        | none =>
          rw [last] at further
          exact ⟨event, by simp [further], decoded⟩
        | some final =>
          rw [last] at further
          obtain ⟨found, isLast, decodes⟩ := further
          exact ⟨found, by rw [List.getLast?_cons, isLast]; rfl, decodes⟩

theorem scan_raw {offset : Nat} {rest : Bytes} {record : CommittedJsonlRecord Digest}
    (member : record ∈ (scanRecords sha256 none offset rest).1) :
    record.recordSha256 = sha256 record.rawBytes ∧
      record.rawBytes.dropLast ++ [newline] = record.rawBytes := by
  induction length : rest.length using Nat.strong_induction_on generalizing offset rest with
  | _ size ih =>
    subst length
    rcases marked_cases newline rest with free | ⟨line, others, rfl, free⟩
    · rw [scan_unmarked sha256 offset free] at member
      cases member
    · rw [scan_line sha256 offset free] at member
      rcases List.mem_cons.mp member with rfl | member
      · simp
      · exact ih others.length (by simp; omega) member rfl

theorem lastRecord_mem {records : List (CommittedJsonlRecord Digest)}
    {record : CommittedJsonlRecord Digest} (last : lastRecord records = some record) :
    record ∈ records :=
  List.mem_of_mem_filter (List.mem_of_getLast? last)

theorem inspectEventLog_spec {file : FileView} {events : List (EventLogRecord Digest Payload)}
    (scanned : iterCommittedEventRecords sha256 codec (some file.content) = (events, none)) :
    ∃ tail, inspectOpenEventLogTail sha256 codec block file = .ok tail ∧
      tail.lastSeq = (events.getLast?.map EventLogRecord.seq).getD 0 := by
  have whole : iterOpenCommittedJsonlRecords sha256 file.content =
      scanRecords sha256 none 0 file.content := by
    simp [iterOpenCommittedJsonlRecords]
  have inspected := inspect_spec sha256 block file
  simp only [iterCommittedEventRecords, whole, Prod.mk.injEq] at scanned
  have clean : (decodeRecords codec (scanRecords sha256 none 0 file.content).1).2 = none := by
    have := scanned.2
    rw [scan_succeeds, Option.or_none] at this
    exact this
  have last := decodeRecords_last codec (Prod.ext scanned.1 clean)
  have place := inspected.record
  unfold inspectOpenEventLogTail
  dsimp only
  cases record : lastRecord (scanRecords sha256 none 0 file.content).1 with
  | none =>
    rw [record] at last place
    dsimp only at last
    rw [(Prod.mk.inj place).2]
    exact ⟨_, rfl, by simp [last]⟩
  | some lastly =>
    rw [record] at last place
    obtain ⟨event, final, decoded⟩ := last
    obtain ⟨offset, raw⟩ := Prod.mk.inj place
    have bytes := (scan_raw sha256 (lastRecord_mem record)).2
    rw [raw]
    dsimp only
    rw [offset, bytes]
    unfold decodeCommittedEventRecord at decoded
    split at decoded
    · cases decoded
    next payload parsed =>
      split at decoded
      · cases decoded
      next seq numbered =>
        cases decoded
        exact ⟨_, rfl, by simp [final]⟩

variable [DecidableEq Digest]

theorem sameEventLogTail_committed {left right : EventLogTail Digest}
    (same : sameEventLogTail left right = true) : left.committedEnd = right.committedEnd := by
  unfold sameEventLogTail at same
  rw [decide_eq_true_iff] at same
  simp only [EventLogTail.mk.injEq] at same
  exact same.2.2.2.2.2.1

omit [DecidableEq Digest] in
theorem inspectOpen_committed {file : FileView} {tail : EventLogTail Digest}
    (done : inspectOpenEventLogTail sha256 codec block file = .ok tail) :
    EndsLastLine file.content tail.committedEnd := by
  have inspected := inspect_spec sha256 block file
  unfold inspectOpenEventLogTail at done
  dsimp only at done
  split at done
  · cases done
  · cases done
    exact inspected.ends

theorem repair_spec {advertised : Option Nat} {attempts : List Attempt}
    {tail : EventLogTail Digest} {after : FileView}
    (done : repairEventLogTailForAppend sha256 codec block advertised attempts =
      .ok (tail, some after)) :
    ∃ attempt ∈ attempts, ∃ before, attempt.opened = some before ∧
      (after.content = before.content ∨
        ∃ stop, EndsLastLine before.content stop ∧ after.content = before.content.take stop) := by
  induction attempts with
  | nil => cases done
  | cons attempt rest ih =>
    have later := fun retried => (ih retried).imp fun other found =>
      And.imp_left (List.mem_cons_of_mem attempt) found
    unfold repairEventLogTailForAppend at done
    split at done
    · cases done
    next found _ =>
      split at done
      · cases done
      · split at done
        · cases done
        · split at done
          · exact later done
          next file opened =>
            split at done
            · cases done
            next current inspected =>
              split at done
              · exact later done
              next same =>
                have committed := sameEventLogTail_committed (by simpa using same)
                have ends := inspectOpen_committed sha256 codec block inspected
                rw [← committed] at ends
                split at done
                · cases done
                  exact ⟨attempt, List.mem_cons_self .., _, opened, .inl rfl⟩
                · cases done
                  exact ⟨attempt, List.mem_cons_self .., file, opened, .inr ⟨_, ends, rfl⟩⟩

theorem tail_agrees :
    (∀ file : FileView,
      let tail := (inspectOpenCommittedJsonlTail sha256 block file).1
      let scanned := iterOpenCommittedJsonlRecords sha256 file.content
      scanned.2 = none ∧ EndsLastLine file.content tail.committedEnd ∧
        tail.fileSize = file.content.length ∧
        tail.incompleteSize = file.content.length - tail.committedEnd ∧
        tail.lastRecordOffset =
          ((lastRecord scanned.1).map CommittedJsonlRecord.byteOffset).getD 0 ∧
        tail.lastRecordSha256 = (lastRecord scanned.1).map CommittedJsonlRecord.recordSha256) ∧
    (∀ file : Option FileView, ∀ events : List (EventLogRecord Digest Payload),
      iterCommittedEventRecords sha256 codec (file.map FileView.content) = (events, none) →
        ∃ tail, inspectEventLogTail sha256 codec block file = .ok tail ∧
          tail.lastSeq = (events.getLast?.map EventLogRecord.seq).getD 0) ∧
    ∀ advertised attempts tail, ∀ after : FileView,
      repairEventLogTailForAppend sha256 codec block advertised attempts = .ok (tail, some after) →
        ∃ attempt ∈ attempts, ∃ before, attempt.opened = some before ∧
          iterOpenCommittedJsonlRecords sha256 after.content =
            iterOpenCommittedJsonlRecords sha256 before.content ∧
          iterCommittedEventRecords sha256 codec (some after.content) =
            iterCommittedEventRecords sha256 codec (some before.content) := by
  have whole : ∀ content, iterOpenCommittedJsonlRecords sha256 content =
      scanRecords sha256 none 0 content := by
    intro content
    simp [iterOpenCommittedJsonlRecords]
  refine ⟨?_, ?_, ?_⟩
  · intro file
    have inspected := inspect_spec sha256 block file
    dsimp only
    rw [whole]
    refine ⟨scan_succeeds sha256 0 _, inspected.ends, inspected.size, inspected.incomplete, ?_⟩
    have place := inspected.record
    rw [inspected.digest]
    cases last : lastRecord (scanRecords sha256 none 0 file.content).1 with
    | none =>
      rw [last] at place
      obtain ⟨offset, raw⟩ := Prod.mk.inj place
      rw [offset, raw]
      exact ⟨rfl, rfl⟩
    | some record =>
      rw [last] at place
      obtain ⟨offset, raw⟩ := Prod.mk.inj place
      obtain ⟨digest, bytes⟩ := scan_raw sha256 (lastRecord_mem last)
      rw [offset, raw, Option.map_some, Option.map_some, Option.map_some, bytes, ← digest]
      exact ⟨rfl, rfl⟩
  · intro file events scanned
    cases file with
    | none =>
      cases scanned
      exact ⟨_, rfl, rfl⟩
    | some file => exact inspectEventLog_spec sha256 codec block scanned
  · intro advertised attempts tail after done
    obtain ⟨attempt, member, before, opened, left⟩ := repair_spec sha256 codec block done
    have same : iterOpenCommittedJsonlRecords sha256 after.content =
        iterOpenCommittedJsonlRecords sha256 before.content := by
      rcases left with unchanged | ⟨stop, ends, cut⟩
      · rw [unchanged]
      · rw [whole, whole, cut, scan_take sha256 ends]
    exact ⟨attempt, member, before, opened, same, by simp only [iterCommittedEventRecords, same]⟩

end Tail

end MonoidKernel.EventLog
