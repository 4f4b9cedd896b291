import MonoidKernel.Core.FrontmatterScalars

set_option autoImplicit false

namespace MonoidKernel.Frontmatter

open MonoidKernel.Scopes (isSpace trim strip trim_trim)

section Lines

theorem trim_length (text : Text) : (trim text).length ≤ text.length := by
  obtain ⟨before, after, whole, _, _⟩ := trim_suffix text
  have sizes := congrArg List.length whole
  rw [List.length_append, List.length_append] at sizes
  omega

variable {text : Text}

theorem trim_first {rest : Text} {first : Char} (trimmed : trim text = first :: rest) :
    isSpace first = false := by
  cases space : isSpace first with
  | false => rfl
  | true =>
    have again := trim_trim text
    have blank : ∀ character ∈ [first], isSpace character = true := by simpa using space
    rw [trimmed, ← List.singleton_append, trim_blank_append blank] at again
    have sizes := trim_length rest
    rw [again] at sizes
    simp at sizes

theorem trim_visible_cons {first : Char} (visible : isSpace first = false) (rest : Text) :
    ∃ more, trim (first :: rest) = first :: more := by
  have member : first ∈ trim (first :: rest) := (mem_trim visible).mpr List.mem_cons_self
  have front : (first :: rest).dropWhile isSpace = first :: rest := by
    rw [List.dropWhile_cons_of_neg (by simp [visible])]
  have start : trim (first :: rest) <+: first :: rest := by
    unfold trim strip
    rw [front]
    exact List.rdropWhile_prefix ..
  obtain ⟨head, more, same⟩ := List.exists_cons_of_ne_nil (List.ne_nil_of_mem member)
  rw [same] at start ⊢
  exact ⟨more, by rw [(List.cons_prefix_cons.mp start).1]⟩

theorem trim_append_first {before : Text} {first : Char} {more : Text}
    (trimmed : trim before = first :: more) (rest : Text) :
    ∃ others, trim (before ++ rest) = first :: others := by
  obtain ⟨blank, after, whole, spaces, _⟩ := trim_suffix before
  rw [whole, trimmed, List.append_assoc, List.append_assoc, trim_blank_append spaces,
    List.cons_append]
  exact trim_visible_cons (trim_first trimmed) _

structure KeySeen (key text line : Text) : Prop where
  shown : isIgnored line = false
  item : isItem line = false
  colon : ':' ∈ line
  fence : trim line ≠ fence
  key : keyOf line = key
  rest : restOf line = text

theorem Entry.seen (entry : Entry) {line : Text} (on : KeyLine entry.key text line) :
    KeySeen entry.key text line := by
  obtain ⟨before, after, rfl, keyed, valued⟩ := on
  have visible : isSpace ':' = false := by decide
  have colon : ':' ∉ before := by
    intro member
    rw [← mem_trim visible, keyed] at member
    exact entry.colon member
  obtain ⟨first, more, named⟩ := List.exists_cons_of_ne_nil entry.nonempty
  obtain ⟨others, starts⟩ := trim_append_first (keyed.trans named) (':' :: after)
  have hash : first ≠ '#' := by
    rintro rfl
    exact entry.start.1 (by rw [named]; rfl)
  have dash : first ≠ '-' := by
    rintro rfl
    exact entry.start.2 (by rw [named]; rfl)
  have early : ∀ character ∈ before, decide (character ≠ ':') = true := by
    intro character member
    simpa using fun same : character = ':' => colon (same ▸ member)
  refine ⟨?_, ?_, by simp, ?_, ?_, ?_⟩
  · simp [isIgnored, starts, hash]
  · simp [isItem, starts, List.isPrefixOf, dash.symm]
  · rw [starts]
    intro same
    exact dash (List.cons.inj same).1
  · unfold keyOf
    rw [List.takeWhile_append_of_pos early, List.takeWhile_cons_of_neg (by simp), List.append_nil,
      keyed]
  · unfold restOf
    rw [List.dropWhile_append_of_pos early, List.dropWhile_cons_of_neg (by simp)]
    exact valued

theorem ignored_fence {line : Text} (ignored : isIgnored line = true) : trim line ≠ fence := by
  intro same
  simp [isIgnored, same, fence] at ignored

theorem item_seen {line : Text} (item : trim line = '-' :: ' ' :: text) :
    isIgnored line = false ∧ isItem line = true ∧ trim line ≠ fence ∧
      itemText line = trim text := by
  refine ⟨by simp [isIgnored, item], by simp [isItem, item], by simp [item, fence], ?_⟩
  unfold itemText
  rw [item]
  rfl

variable {lines : List Text}

theorem ItemLines.leading {items : List Scalar} (written : ItemLines items lines)
    {after : List Text} (ends : leadingItems after = []) :
    leadingItems (lines ++ after) = items.map Scalar.text ∧
      rawEntries true (lines ++ after) = rawEntries true after := by
  induction written with
  | nil => exact ⟨ends, rfl⟩
  | ignored ignored _ ih =>
    rw [List.cons_append, leadingItems, rawEntries, if_pos ignored, if_pos ignored]
    exact ih
  | item scalar item spelled _ ih =>
    obtain ⟨shown, listed, _, text⟩ := item_seen item
    rw [List.cons_append, leadingItems, rawEntries, shown, listed, text, spelled]
    simp only [Bool.false_eq_true, if_false, if_true, and_self]
    exact ⟨congrArg _ ih.1, ih.2⟩

theorem Rendering.unlisted {entries : List Entry} (rendering : Rendering entries lines) :
    leadingItems lines = [] := by
  induction rendering with
  | nil => rfl
  | ignored ignored _ ih => rw [leadingItems, if_pos ignored, ih]
  | inline entry on _ _ _ =>
    have seen := entry.seen on
    rw [leadingItems, seen.shown, seen.item]
    rfl
  | block entry _ on _ _ _ =>
    have seen := entry.seen on
    rw [List.cons_append, leadingItems, seen.shown, seen.item]
    rfl

theorem Written.on_nonempty {written : Written} (on : written.On text) : text ≠ [] := by
  cases written with
  | scalar only => cases on; exact only.shape.1
  | inline items nonempty safe =>
    obtain ⟨parts, rfl, _⟩ := on
    exact List.cons_ne_nil _ _
  | block items nonempty => exact False.elim on

def Entry.Reads (entry : Entry) (written : Text × Raw) : Prop :=
  written.1 = entry.key ∧ ∀ frames, written.2.read (frames + 2) = .ok entry.written.value ↔
    ∀ scalar ∈ entry.written.scalars, scalar.Portable

theorem Rendering.reads {entries : List Entry} (rendering : Rendering entries lines)
    (listing : Bool) :
    List.Forall₂ Entry.Reads entries (rawEntries listing lines) := by
  induction rendering generalizing listing with
  | nil => exact List.Forall₂.nil
  | ignored ignored _ ih =>
    rw [rawEntries, if_pos ignored]
    exact ih listing
  | inline entry line on _ ih =>
    have seen := entry.seen line
    have some := Written.on_nonempty on
    rw [rawEntries, seen.shown, seen.item, seen.key, seen.rest, if_neg (by simp), if_neg (by simp),
      if_neg (by simpa using seen.colon), if_pos some]
    refine List.Forall₂.cons ⟨rfl, fun frames => ?_⟩ (ih false)
    rw [← Written.read_on on frames]
    cases held : entry.written with
    | scalar only => rfl
    | inline items nonempty safe => rfl
    | block items nonempty => rw [held] at on; exact False.elim on
  | @block entries lines itemLines line items nonempty entry held on written rendering ih =>
    have seen := entry.seen on
    obtain ⟨items, unlisted⟩ := written.leading rendering.unlisted
    rw [List.cons_append, rawEntries, seen.shown, seen.item, seen.key, seen.rest, items, unlisted,
      if_neg (by simp), if_neg (by simp), if_neg (by simpa using seen.colon), if_neg (by simp)]
    refine List.Forall₂.cons ⟨rfl, fun frames => ?_⟩ (ih true)
    rw [held]
    exact Written.read_block _ nonempty [] frames

end Lines

section Metadata

theorem set_absent {metadata : Metadata} {key : Text} (absent : key ∉ metadata.map Prod.fst)
    (value : Value) : metadata.set key value = metadata ++ [(key, value)] := by
  induction metadata with
  | nil => rfl
  | cons held rest ih =>
    obtain ⟨other, stored⟩ := held
    rw [List.map_cons, List.mem_cons, not_or] at absent
    rw [Metadata.set, if_neg (Ne.symm absent.1), ih absent.2]
    rfl

theorem readEntries_extends {frames : Nat} {metadata result : Metadata} {raws : List (Text × Raw)}
    (distinct : (metadata.map Prod.fst ++ raws.map Prod.fst).Nodup)
    (read : readEntries frames metadata raws = .ok result) : metadata <+: result := by
  induction raws generalizing metadata with
  | nil => cases read; exact List.prefix_rfl
  | cons entry rest ih =>
    obtain ⟨key, raw⟩ := entry
    have absent : key ∉ metadata.map Prod.fst := by
      intro member
      exact (List.nodup_append.mp distinct).2.2 key member key (by simp) rfl
    rw [readEntries] at read
    cases value : raw.read frames with
    | error error => rw [value] at read; cases read
    | ok value =>
      rw [value] at read
      simp only [set_absent absent] at read
      refine (List.prefix_append _ _).trans (ih ?_ read)
      simpa using distinct

def Entry.pair (entry : Entry) : Text × Value := (entry.key, entry.written.value)

theorem readEntries_exact (frames : Nat) {entries : List Entry} {raws : List (Text × Raw)}
    (reads : List.Forall₂ Entry.Reads entries raws) (metadata : Metadata)
    (distinct : (metadata.map Prod.fst ++ entries.map Entry.key).Nodup) :
    readEntries (frames + 2) metadata raws = .ok (metadata ++ entries.map Entry.pair) ↔
      ∀ entry ∈ entries, ∀ scalar ∈ entry.written.scalars, scalar.Portable := by
  induction reads generalizing metadata with
  | nil => simp [readEntries]
  | @cons entry written entries raws first rest ih =>
    obtain ⟨key, raw⟩ := written
    obtain ⟨rfl, reads⟩ := first
    have keys : raws.map Prod.fst = entries.map Entry.key := by
      clear ih distinct
      induction rest with
      | nil => rfl
      | cons one _ ih => rw [List.map_cons, List.map_cons, one.1, ih]
    have absent : entry.key ∉ metadata.map Prod.fst := by
      intro member
      exact (List.nodup_append.mp distinct).2.2 entry.key member entry.key (by simp) rfl
    have longer (value : Value) : (List.map Prod.fst (metadata ++ [(entry.key, value)]) ++
        entries.map Entry.key).Nodup := by
      simpa using distinct
    rw [List.forall_mem_cons, ← reads frames, readEntries]
    cases found : raw.read (frames + 2) with
    | error error =>
      constructor
      · intro same; cases same
      · rintro ⟨same, _⟩; cases same
    | ok value =>
      simp only [set_absent absent]
      rw [← ih (metadata ++ [(entry.key, value)]) (longer value)]
      constructor
      · intro same
        have front := readEntries_extends (by rw [keys]; exact longer value) same
        rw [List.prefix_append_right_inj, List.map_cons, List.cons_prefix_cons] at front
        have held : value = entry.written.value := congrArg Prod.snd front.1
        refine ⟨congrArg _ held, ?_⟩
        rw [same, held, List.append_assoc]
        rfl
      · rintro ⟨held, same⟩
        have held : value = entry.written.value := Except.ok.inj held
        rw [same, held, List.append_assoc]
        rfl

end Metadata

section Documents

def ending (crlf : Bool) : Text := if crlf then ['\r', '\n'] else ['\n']

structure Document where
  entries : List Entry
  distinct : (entries.map Entry.key).Nodup
  opening : Bool
  block : List (Text × Bool)
  rendering : Rendering entries (block.map Prod.fst)
  lines : ∀ line ∈ block, OneLine line.1
  closing : Text
  line : OneLine closing
  closes : trim closing = fence
  body : Text
  start : body.head? ≠ some '\n' ∧ body.head? ≠ some '\r'
  after : Text
  ended : (∃ crlf, after = ending crlf ++ body) ∨ after = [] ∧ body = []

def Document.text (document : Document) : Text :=
  fence ++ ending document.opening ++
    (document.block.map fun line => line.1 ++ ending line.2).flatten ++
    document.closing ++ document.after

theorem normalize_cons {character : Char} (other : character ≠ '\r') (rest : Text) :
    normalizeNewlines (character :: rest) = character :: normalizeNewlines rest := by
  have kept : replaceCrLf (character :: rest) = character :: replaceCrLf rest := by
    rw [replaceCrLf]
    intro more same
    exact absurd same other
  unfold normalizeNewlines
  rw [kept, List.map_cons, if_neg other]

theorem normalize_line {line : Text} (one : OneLine line) (rest : Text) :
    normalizeNewlines (line ++ rest) = line ++ normalizeNewlines rest := by
  induction line with
  | nil => rfl
  | cons first more ih =>
    unfold OneLine at one
    rw [List.forall_mem_cons] at one
    rw [List.cons_append, normalize_cons one.1.2, ih one.2, List.cons_append]

theorem normalize_ending (crlf : Bool) (rest : Text) :
    normalizeNewlines (ending crlf ++ rest) = '\n' :: normalizeNewlines rest := by
  cases crlf with
  | false => exact normalize_cons (by decide) rest
  | true => rfl

theorem split_line {line : Text} (one : OneLine line) (crlf : Bool) (rest : Text) :
    (normalizeNewlines (line ++ ending crlf ++ rest)).splitOn '\n' =
      line :: (normalizeNewlines rest).splitOn '\n' := by
  rw [List.append_assoc, normalize_line one, normalize_ending]
  exact List.splitOn_append_cons_self_of_not_mem (fun member => (one _ member).1 rfl) _

theorem split_lines {block : List (Text × Bool)} (lines : ∀ line ∈ block, OneLine line.1)
    (rest : Text) : (normalizeNewlines ((block.map fun line => line.1 ++ ending line.2).flatten ++
      rest)).splitOn '\n' = block.map Prod.fst ++ (normalizeNewlines rest).splitOn '\n' := by
  induction block with
  | nil => rfl
  | cons line more ih =>
    rw [List.forall_mem_cons] at lines
    rw [List.map_cons, List.flatten_cons, List.append_assoc, split_line lines.1, ih lines.2]
    rfl

theorem ItemLines.unfenced {items : List Scalar} {lines : List Text}
    (written : ItemLines items lines) : ∀ line ∈ lines, trim line ≠ fence := by
  induction written with
  | nil => simp
  | ignored ignored _ ih =>
    rw [List.forall_mem_cons]
    exact ⟨ignored_fence ignored, ih⟩
  | item scalar item spelled _ ih =>
    rw [List.forall_mem_cons]
    exact ⟨(item_seen item).2.2.1, ih⟩

theorem Rendering.unfenced {entries : List Entry} {lines : List Text}
    (rendering : Rendering entries lines) : ∀ line ∈ lines, trim line ≠ fence := by
  induction rendering with
  | nil => simp
  | ignored ignored _ ih =>
    rw [List.forall_mem_cons]
    exact ⟨ignored_fence ignored, ih⟩
  | inline entry on _ _ ih =>
    rw [List.forall_mem_cons]
    exact ⟨(entry.seen on).fence, ih⟩
  | block entry _ on written _ ih =>
    rw [List.cons_append, List.forall_mem_cons, List.forall_mem_append]
    exact ⟨(entry.seen on).fence, written.unfenced, ih⟩

theorem normalize_start {body : Text} (start : body.head? ≠ some '\n' ∧ body.head? ≠ some '\r') :
    (normalizeNewlines body).head? ≠ some '\n' := by
  cases body with
  | nil => simp [normalizeNewlines, replaceCrLf]
  | cons first rest =>
    rw [normalize_cons (by simpa using start.2)]
    simpa using start.1

theorem Document.split (document : Document) : ∃ after,
    (normalizeNewlines document.text).splitOn '\n' =
      fence :: document.block.map Prod.fst ++ document.closing :: after ∧
    ['\n'].intercalate after = normalizeNewlines document.body := by
  have fenced : OneLine fence := by simp [OneLine, fence]
  have front : (normalizeNewlines document.text).splitOn '\n' = fence ::
      (document.block.map Prod.fst ++
        (normalizeNewlines (document.closing ++ document.after)).splitOn '\n') := by
    unfold Document.text
    rw [List.append_assoc, List.append_assoc, split_line fenced, split_lines document.lines]
  rcases document.ended with ⟨crlf, ended⟩ | ⟨none, empty⟩
  · refine ⟨(normalizeNewlines document.body).splitOn '\n', ?_, List.intercalate_splitOn '\n'⟩
    rw [front, ended, ← List.append_assoc, split_line document.line]
    rfl
  · refine ⟨[], ?_, by rw [empty]; rfl⟩
    have closing : '\n' ∉ document.closing := fun member => (document.line _ member).1 rfl
    rw [front, none, normalize_line document.line, show normalizeNewlines [] = [] from rfl,
      List.append_nil, List.splitOn_eq_singleton closing]
    rfl

theorem document_iff (frames : Nat) (document : Document) :
    parseFrontmatter (frames + 2) document.text =
        .ok (document.entries.map Entry.pair, normalizeNewlines document.body) ↔
      ∀ entry ∈ document.entries, ∀ scalar ∈ entry.written.scalars, scalar.Portable := by
  obtain ⟨after, split, body⟩ := document.split
  have start := normalize_start document.start
  rw [parseFrontmatter_block _ document.rendering.unfenced document.closes split, body,
    if_neg start]
  rw [← readEntries_exact frames (document.rendering.reads false) []
    (by simpa using document.distinct)]
  cases readEntries (frames + 2) [] (rawEntries false (document.block.map Prod.fst)) with
  | error error =>
    constructor
    · intro same; cases same
    · intro same; cases same
  | ok metadata =>
    constructor
    · intro same
      exact congrArg _ (Prod.mk.inj (Except.ok.inj same)).1
    · intro same
      rw [List.nil_append] at same
      rw [Except.ok.inj same]
      rfl

theorem frontmatter_exact (frames : Nat) :
    (∀ document : Document,
      parseFrontmatter (frames + 2) document.text =
          .ok (document.entries.map Entry.pair, normalizeNewlines document.body) ↔
        ∀ entry ∈ document.entries, ∀ scalar ∈ entry.written.scalars, scalar.Portable) ∧
    ∀ text, Returns (frames + 2) text ↔ Accepted (frames + 2) text :=
  ⟨document_iff frames, returns_iff (frames + 2)⟩

def nameEntry : Entry where
  key := "name".toList
  written := .scalar (.bool true "True".toList (by decide))
  nonempty := by decide
  colon := by decide
  trimmed := by decide
  start := by decide

def tagScalars : List Scalar :=
  [.int "-7".toList ⟨by decide, by simp [candidate, isAsciiDigit]⟩,
    .quoted '"' "a: b".toList rfl (by simp [OneLine]) (by decide)]

def tagsEntry : Entry where
  key := "tags".toList
  written := .block tagScalars (List.cons_ne_nil _ _)
  nonempty := by decide
  colon := by decide
  trimmed := by decide
  start := by decide

def tagLines : List Text := ["- -7".toList, "".toList, "  - \"a: b\"".toList]

theorem tagLines_items : ItemLines tagScalars tagLines := by
  have first : trim "- -7".toList = '-' :: ' ' :: "-7".toList := by decide
  have last : trim "  - \"a: b\"".toList = '-' :: ' ' :: "\"a: b\"".toList := by decide
  exact .item _ first (by decide) (.ignored (by decide) (.item _ last (by decide) .nil))

def namedAndTagged : Document where
  entries := [nameEntry, tagsEntry]
  distinct := by decide
  opening := true
  block := [("# of a run".toList, false), ("name: True ".toList, true), ("tags:".toList, false),
    ("- -7".toList, false), ("".toList, true), ("  - \"a: b\"".toList, false)]
  rendering :=
    .ignored (by decide) (.inline nameEntry ⟨"name".toList, " True ".toList, rfl, by decide, rfl⟩
      (by decide : trim " True ".toList = "True".toList)
      (.block tagsEntry rfl ⟨"tags".toList, [], rfl, by decide, rfl⟩ tagLines_items .nil))
  lines := by simp [OneLine]
  closing := "---".toList
  line := by simp [OneLine]
  closes := by decide
  body := "text\r\n".toList
  start := by decide
  after := "\ntext\r\n".toList
  ended := .inl ⟨false, rfl⟩

theorem frontmatter_exact_tagged : parseFrontmatter 900 namedAndTagged.text =
    .ok ([("name".toList, .bool true), ("tags".toList, .list [.int (-7), .str "a: b".toList])],
      "text\n".toList) := by
  have portable : ∀ entry ∈ namedAndTagged.entries, ∀ scalar ∈ entry.written.scalars,
      scalar.Portable := by
    simp [namedAndTagged, nameEntry, tagsEntry, tagScalars, Written.scalars, Scalar.Portable,
      candidate, intMaxStrDigits]
  exact ((frontmatter_exact 898).1 namedAndTagged).mpr portable

def superscript : Text := "---\na: ²\n---\n".toList

theorem superscript_raises : parseFrontmatter 900 superscript = .error .valueError := by
  have block : ∀ line ∈ ["a: ²".toList], trim line ≠ fence := by decide
  have split : (normalizeNewlines superscript).splitOn '\n' =
      fence :: ["a: ²".toList] ++ fence :: [[]] := by decide
  rw [parseFrontmatter_block 900 block rfl split]
  rfl

theorem frontmatter_superscript :
    ¬ ((∀ document : Document,
        parseFrontmatter 900 document.text =
          .ok (document.entries.map Entry.pair, normalizeNewlines document.body)) ∧
      ∀ text, Returns 900 text) := by
  rintro ⟨_, returns⟩
  obtain ⟨⟨metadata, body, read⟩, _⟩ := returns superscript
  rw [superscript_raises] at read
  cases read

end Documents

end MonoidKernel.Frontmatter
