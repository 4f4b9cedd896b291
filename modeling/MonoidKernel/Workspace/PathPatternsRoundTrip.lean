import MonoidKernel.Workspace.PathPatterns

set_option autoImplicit false

namespace MonoidKernel.PathPatterns

section Segments

def trimLast (segments : List Text) : List Text :=
  if segments.getLast? = some [] then segments.dropLast else segments

theorem splitOn_cons {character : Char} (other : character ≠ '/') (rest : Text) :
    ∃ head tail, rest.splitOn '/' = head :: tail ∧
      (character :: rest).splitOn '/' = (character :: head) :: tail := by
  obtain ⟨head, tail, split⟩ := List.exists_cons_of_ne_nil (List.splitOn_ne_nil '/' rest)
  refine ⟨head, tail, split, ?_⟩
  rw [List.splitOn_cons_eq_if_modifyHead, if_neg (by simpa using other), split]
  rfl

theorem trimLast_cons (character : Char) (head : Text) (tail : List Text) :
    trimLast ((character :: head) :: tail) = (character :: head) :: trimLast tail := by
  unfold trimLast
  cases tail with
  | nil => simp
  | cons next rest =>
    rw [List.getLast?_cons_cons, List.dropLast_cons_of_ne_nil (by simp)]
    split <;> rfl

theorem patternSegments_eq (body : Text) : patternSegments body = trimLast (body.splitOn '/') := rfl

theorem intercalate_snoc {segments : List Text} (some : segments ≠ []) (last : Text) :
    ['/'].intercalate (segments ++ [last]) = ['/'].intercalate segments ++ '/' :: last := by
  induction segments with
  | nil => exact absurd rfl some
  | cons head tail ih =>
    cases tail with
    | nil => simp [List.intercalate_cons_cons]
    | cons next rest =>
      have again := ih (by simp)
      rw [List.cons_append, List.cons_append, List.intercalate_cons_cons,
        List.intercalate_cons_cons,
        ← List.cons_append, again]
      simp

theorem joined_body {body : Text} (some : patternSegments body ≠ []) :
    ['/'].intercalate (patternSegments body) = body ∨
      ['/'].intercalate (patternSegments body) ++ ['/'] = body := by
  have whole : ['/'].intercalate (body.splitOn '/') = body := List.intercalate_splitOn '/'
  rw [patternSegments_eq] at some ⊢
  unfold trimLast at some ⊢
  split
  next last =>
    rw [if_pos last] at some
    have parts := List.dropLast_append_getLast? [] last
    refine Or.inr ?_
    rw [← intercalate_snoc some [], parts, whole]
  · exact Or.inl whole

end Segments

section Canonical

variable {source : Text}

variable {canonical : Text}

theorem canonical_anchored (found : canonicalPattern source = some canonical)
    (anchored : isAnchored source = true) : canonical.head? = some '/' := by
  unfold canonicalPattern at found
  simp only [anchored, Bool.not_true, Bool.false_and, Bool.false_eq_true, if_true] at found
  repeat' split at found
  all_goals first | cases found; rfl | cases found

theorem canonical_relative (found : canonicalPattern source = some canonical)
    (relative : isAnchored source = false) :
    canonical ≠ [] ∧ canonical = ['/'].intercalate (patternSegments (patternBody source)) ∧
      (['\\', '!'].isPrefixOf (patternBody source) = false →
        '\\' ∉ patternBody source) ∧
      hasDrive (patternBody source) = false ∧
      patternSegments (patternBody source) ≠ [] ∧ [] ∉ patternSegments (patternBody source) ∧
      ['.'] ∉ patternSegments (patternBody source) ∧
      ['.', '.'] ∉ patternSegments (patternBody source) := by
  unfold canonicalPattern at found
  simp only [relative, Bool.not_false, Bool.true_and, Bool.false_eq_true, if_false, false_and]
    at found
  by_cases double : (['/', '/'].isPrefixOf source || ['\\', '\\'].isPrefixOf source) = true
  · rw [if_pos double] at found; cases found
  rw [if_neg double] at found
  by_cases slashed : ((patternBody source).head? = some '\\' ∧
      ['\\', '!'].isPrefixOf (patternBody source) = false) ∨
      '\\' ∈ if ['\\', '!'].isPrefixOf (patternBody source) = true then
        (patternBody source).drop 2 else patternBody source
  · rw [if_pos slashed] at found; cases found
  rw [if_neg slashed] at found
  by_cases drive : hasDrive (patternBody source) = true
  · rw [if_pos drive] at found; cases found
  rw [if_neg drive] at found
  by_cases unnamed : patternSegments (patternBody source) = [] ∨
      [] ∈ patternSegments (patternBody source) ∨ ['.'] ∈ patternSegments (patternBody source) ∨
      ['.', '.'] ∈ patternSegments (patternBody source)
  · rw [if_pos unnamed] at found; cases found
  rw [if_neg unnamed] at found
  by_cases none : ['/'].intercalate (patternSegments (patternBody source)) = []
  · rw [if_pos none] at found; cases found
  rw [if_neg none] at found
  cases found
  simp only [not_or] at unnamed slashed
  refine ⟨none, rfl, ?_, by simpa using drive, unnamed⟩
  intro unescaped
  rw [unescaped] at slashed
  exact slashed.2

theorem canonical_body (found : canonicalPattern source = some canonical)
    (relative : isAnchored source = false) :
    canonical ≠ [] ∧ (canonical = patternBody source ∨
      canonical ++ ['/'] = patternBody source) := by
  obtain ⟨some, joined, _, _, segments, _⟩ := canonical_relative found relative
  exact ⟨some, joined ▸ joined_body segments⟩

theorem source_body (relative : isAnchored source = false) :
    source = patternBody source ∨ source = '.' :: '/' :: patternBody source := by
  unfold patternBody
  split
  · simp [isAnchored] at relative
  · exact Or.inr rfl
  · exact Or.inl rfl

theorem canonical_escaped {rest : Text} (found : canonicalPattern source = some canonical)
    (relative : isAnchored source = false) (body : patternBody source = '!' :: rest) {before : Text}
    (prefixed : before = [] ∨ before = ['.', '/']) :
    canonicalPattern (before ++ '\\' :: '!' :: rest) = some ('\\' :: canonical) := by
  obtain ⟨_, joined, plain, _, _, unnamed⟩ := canonical_relative found relative
  rw [body] at joined plain unnamed
  have free : '\\' ∉ rest := by
    have whole := plain (by simp [List.isPrefixOf])
    exact fun member => whole (List.mem_cons_of_mem _ member)
  obtain ⟨head, tail, _, split⟩ := splitOn_cons (show '!' ≠ '/' by decide) rest
  obtain ⟨first, others, same, escaped⟩ := splitOn_cons (show '\\' ≠ '/' by decide) ('!' :: rest)
  rw [split] at same
  cases same
  have segments : patternSegments ('!' :: rest) = ('!' :: head) :: trimLast tail := by
    rw [patternSegments_eq, split, trimLast_cons]
  have wired : patternSegments ('\\' :: '!' :: rest) = ('\\' :: '!' :: head) :: trimLast tail := by
    rw [patternSegments_eq, escaped, trimLast_cons]
  rw [segments] at joined unnamed
  simp only [List.mem_cons, not_or] at unnamed
  have shape : ['/'].intercalate (('\\' :: '!' :: head) :: trimLast tail) = '\\' :: canonical := by
    rw [joined]
    cases trimLast tail with
    | nil => simp
    | cons next more => simp [List.intercalate_cons_cons]
  have bodyCase : patternBody (before ++ '\\' :: '!' :: rest) = '\\' :: '!' :: rest := by
    rcases prefixed with rfl | rfl <;> rfl
  have relativeCase : isAnchored (before ++ '\\' :: '!' :: rest) = false := by
    rcases prefixed with rfl | rfl <;> rfl
  have double : (['/', '/'].isPrefixOf (before ++ '\\' :: '!' :: rest) ||
      ['\\', '\\'].isPrefixOf (before ++ '\\' :: '!' :: rest)) = false := by
    rcases prefixed with rfl | rfl <;> simp [List.isPrefixOf]
  unfold canonicalPattern
  simp [double, bodyCase, relativeCase, List.isPrefixOf, free, hasDrive, wired, shape, unnamed]

end Canonical

section Marker

variable {character : Char}

theorem offset_named (slash : character ≠ '/') (dot : character ≠ '.') (rest : Text) :
    firstPatternSegmentOffset (character :: rest) = 0 ∧
      firstPatternSegmentOffset ('.' :: '/' :: character :: rest) = 2 := by
  obtain ⟨head, tail, _, split⟩ := splitOn_cons slash rest
  have dotted : ('.' :: '/' :: character :: rest).splitOn '/' =
      ['.'] :: (character :: head) :: tail := by
    simp [List.splitOn_cons_eq_if_modifyHead, ← split]
  unfold firstPatternSegmentOffset
  rw [dotted, split]
  constructor <;> simp [segmentOffset, dot]

variable {before : Text}

theorem afterMarker_named (slash : character ≠ '/') (dot : character ≠ '.') (rest : Text)
    (prefixed : before = [] ∨ before = ['.', '/']) :
    firstPatternSegmentOffset (before ++ character :: rest) = before.length ∧
      afterMarker (before ++ character :: rest) = some (character :: rest) := by
  obtain ⟨bare, dotted⟩ := offset_named slash dot rest
  unfold afterMarker
  rcases prefixed with rfl | rfl
  · simp [bare]
  · simp [dotted]

variable {source : Text}

theorem afterMarker_some {rest : Text} (found : afterMarker source = some rest) :
    ∃ before, (before = [] ∨ before = ['.', '/']) ∧ source = before ++ rest := by
  simp only [afterMarker] at found
  split at found
  next prefixed =>
    cases found
    exact ⟨_, prefixed, (List.take_append_drop _ _).symm⟩
  · cases found

theorem startsBang_some (bang : startsBang source = true) :
    ∃ before more, (before = [] ∨ before = ['.', '/']) ∧ source = before ++ '!' :: more := by
  unfold startsBang at bang
  cases after : afterMarker source with
  | none => simp [after] at bang
  | some rest =>
    rw [after] at bang
    obtain ⟨more, rfl⟩ := List.isPrefixOf_iff_prefix.mp bang
    obtain ⟨before, prefixed, same⟩ := afterMarker_some after
    exact ⟨before, more, prefixed, same⟩

theorem startsEscaped_some (escaped : startsEscaped source = true) :
    ∃ before more, (before = [] ∨ before = ['.', '/']) ∧
      source = before ++ '\\' :: '!' :: more := by
  unfold startsEscaped at escaped
  cases after : afterMarker source with
  | none => simp [after] at escaped
  | some rest =>
    rw [after] at escaped
    obtain ⟨more, rfl⟩ := List.isPrefixOf_iff_prefix.mp escaped
    obtain ⟨before, prefixed, same⟩ := afterMarker_some after
    exact ⟨before, more, prefixed, same⟩

theorem startsBang_prefixed (more : Text) (prefixed : before = [] ∨ before = ['.', '/']) :
    startsBang (before ++ '!' :: more) = true := by
  have after := (afterMarker_named (show '!' ≠ '/' by decide) (by decide) more prefixed).2
  simp [startsBang, after, List.isPrefixOf]

theorem relative_prefixed {rest : Text} (slash : character ≠ '/')
    (prefixed : before = [] ∨ before = ['.', '/']) :
    isAnchored (before ++ character :: rest) = false := by
  rcases prefixed with rfl | rfl <;> simp [isAnchored, slash]

theorem body_prefixed {rest : Text} (slash : character ≠ '/') (dot : character ≠ '.')
    (prefixed : before = [] ∨ before = ['.', '/']) :
    patternBody (before ++ character :: rest) = character :: rest := by
  rcases prefixed with rfl | rfl
  · rw [List.nil_append]
    unfold patternBody
    split
    next same => cases same; exact absurd rfl slash
    next same => cases same; exact absurd rfl dot
    · rfl
  · rfl

end Marker

section Current

variable {compiles : Text → Bool}

structure Current (compiles : Text → Bool) (source : Text) : Prop where
  named : isBlankText source = false
  internal : validateInternal source = .ok ()
  compiled : compiledLine compiles source = .ok ()

variable {source : Text}

theorem validateInternal_ok (valid : validateInternal source = .ok ()) :
    hasControl source = false ∧ ∃ canonical, canonicalPattern source = some canonical ∧
      ['\\', '!'].isPrefixOf canonical = false := by
  unfold validateInternal checkedCanonical at valid
  cases control : hasControl source with
  | true => simp [control] at valid
  | false =>
    cases found : canonicalPattern source with
    | none => simp [control, found] at valid
    | some canonical =>
      simp only [control, found, Bool.false_eq_true, if_false] at valid
      split at valid
      · cases valid
      next plain => exact ⟨rfl, canonical, rfl, Bool.eq_false_iff.mpr plain⟩

theorem checkedCanonical_ok {canonical : Text} (control : hasControl source = false)
    (found : canonicalPattern source = some canonical) :
    checkedCanonical source = .ok canonical := by
  simp [checkedCanonical, control, found]

theorem current_unescaped (valid : validateInternal source = .ok ()) :
    startsEscaped source = false := by
  obtain ⟨_, canonical, found, plain⟩ := validateInternal_ok valid
  by_contra escaped
  obtain ⟨before, more, prefixed, rfl⟩ := startsEscaped_some (Bool.eq_true_of_not_eq_false escaped)
  have relative : isAnchored (before ++ '\\' :: '!' :: more) = false :=
    relative_prefixed (by decide) prefixed
  have body : patternBody (before ++ '\\' :: '!' :: more) = '\\' :: '!' :: more :=
    body_prefixed (by decide) (by decide) prefixed
  obtain ⟨some, whole⟩ := canonical_body found relative
  rw [body] at whole
  rcases whole with rfl | whole
  · simp [List.isPrefixOf] at plain
  · cases canonical with
    | nil => exact some rfl
    | cons first others =>
      cases others with
      | nil => simp at whole
      | cons second others =>
        simp only [List.cons_append, List.cons.injEq] at whole
        obtain ⟨rfl, rfl, _⟩ := whole
        simp [List.isPrefixOf] at plain

theorem bang_iff {canonical : Text} (found : canonicalPattern source = some canonical) :
    startsBang source = true ↔ canonical.head? = some '!' := by
  constructor
  · intro bang
    obtain ⟨before, more, prefixed, rfl⟩ := startsBang_some bang
    have relative : isAnchored (before ++ '!' :: more) = false :=
      relative_prefixed (by decide) prefixed
    have body : patternBody (before ++ '!' :: more) = '!' :: more :=
      body_prefixed (by decide) (by decide) prefixed
    obtain ⟨some, whole⟩ := canonical_body found relative
    rw [body] at whole
    rcases whole with rfl | whole
    · rfl
    · cases canonical with
      | nil => exact absurd rfl some
      | cons first others =>
        simp only [List.cons_append, List.cons.injEq] at whole
        rw [whole.1]
        rfl
  · intro bang
    have relative : isAnchored source = false := by
      cases anchored : isAnchored source with
      | false => rfl
      | true =>
        rw [canonical_anchored found anchored] at bang
        cases bang
    obtain ⟨more, body⟩ : ∃ more, patternBody source = '!' :: more := by
      obtain ⟨others, rfl⟩ := List.head?_eq_some_iff.mp bang
      rcases (canonical_body found relative).2 with same | same
      · exact ⟨others, same.symm⟩
      · exact ⟨others ++ ['/'], same.symm⟩
    rcases source_body relative with same | same
    · rw [same, body]
      exact startsBang_prefixed more (Or.inl rfl)
    · rw [same, body]
      exact startsBang_prefixed more (Or.inr rfl)

theorem parseSource_wire (valid : validateInternal source = .ok ()) :
    parseSource (wireSource source) = .ok source := by
  obtain ⟨control, canonical, found, plain⟩ := validateInternal_ok valid
  cases bang : startsBang source with
  | false =>
    have head : canonical.head? ≠ some '!' := by
      rw [Ne, ← bang_iff found, bang]
      exact Bool.false_ne_true
    have same : wireSource source = source := by simp [wireSource, bang]
    unfold parseSource
    rw [same, checkedCanonical_ok control found]
    simp [plain, head]
  | true =>
    have head := (bang_iff found).mp bang
    obtain ⟨before, more, prefixed, rfl⟩ := startsBang_some bang
    have relative : isAnchored (before ++ '!' :: more) = false :=
      relative_prefixed (by decide) prefixed
    have body : patternBody (before ++ '!' :: more) = '!' :: more :=
      body_prefixed (by decide) (by decide) prefixed
    have marker : firstPatternSegmentOffset (before ++ '!' :: more) = before.length :=
      (afterMarker_named (by decide) (by decide) more prefixed).1
    have wired : wireSource (before ++ '!' :: more) = before ++ '\\' :: '!' :: more := by
      simp [wireSource, bang, marker]
    have escaped := canonical_escaped found relative body prefixed
    have clean : hasControl (before ++ '\\' :: '!' :: more) = false := by
      simp only [hasControl, List.any_append, List.any_cons, Bool.or_eq_false_iff] at control ⊢
      exact ⟨control.1, by decide, control.2⟩
    have mark : firstPatternSegmentOffset (before ++ '\\' :: '!' :: more) = before.length :=
      (afterMarker_named (by decide) (by decide) _ prefixed).1
    have starts : ['\\', '!'].isPrefixOf ('\\' :: canonical) = true := by
      obtain ⟨others, rfl⟩ := List.head?_eq_some_iff.mp head
      simp [List.isPrefixOf]
    unfold parseSource
    rw [wired, checkedCanonical_ok clean escaped]
    simp [starts, mark]

end Current

section Lists

variable {compiles : Text → Bool}

theorem nonemptyTexts_ok (texts : List Text) :
    nonemptyTexts texts = .ok () ↔ ∀ text ∈ texts, isBlankText text = false := by
  unfold nonemptyTexts
  constructor
  · intro named
    split at named
    · cases named
    next none => simpa using none
  · intro named
    rw [if_neg (by simpa using named)]

theorem validateEach_ok (patterns : List PathPattern) :
    validateEach patterns = .ok () ↔
      ∀ pattern ∈ patterns, pattern.legacy = false → validateInternal pattern.text = .ok () := by
  induction patterns with
  | nil => simp [validateEach]
  | cons pattern rest ih =>
    rw [List.forall_mem_cons, ← ih, validateEach]
    cases legacy : pattern.legacy with
    | true => simp
    | false =>
      cases checked : validateInternal pattern.text with
      | error error => simp
      | ok done => simp

theorem compiledLines_ok (texts : List Text) :
    compiledLines compiles texts = .ok () ↔
      ∀ text ∈ texts, compiledLine compiles text = .ok () := by
  induction texts with
  | nil => simp [compiledLines]
  | cons text rest ih =>
    rw [List.forall_mem_cons, ← ih, compiledLines]
    cases checked : compiledLine compiles text with
    | error error => simp
    | ok done => simp

theorem validate_iff (patterns : List PathPattern) :
    validateInternalPathPatterns compiles patterns = .ok patterns ↔
      (∀ pattern ∈ patterns, isBlankText pattern.text = false) ∧
      ∀ pattern ∈ patterns, pattern.legacy = false → Current compiles pattern.text := by
  constructor
  · intro valid
    unfold validateInternalPathPatterns at valid
    cases named : nonemptyTexts (patterns.map (·.text)) with
    | error error => rw [named] at valid; cases valid
    | ok _ =>
      cases each : validateEach patterns with
      | error error => rw [named, each] at valid; cases valid
      | ok _ =>
        cases lines : compiledLines compiles (currentTexts patterns) with
        | error error => rw [named, each, lines] at valid; cases valid
        | ok _ =>
          have nonblank : ∀ pattern ∈ patterns, isBlankText pattern.text = false := by
            simpa using (nonemptyTexts_ok _).mp named
          refine ⟨nonblank, fun pattern member current => ⟨nonblank pattern member, ?_, ?_⟩⟩
          · exact (validateEach_ok patterns).mp each pattern member current
          · refine (compiledLines_ok _).mp lines pattern.text (List.mem_map_of_mem ?_)
            exact List.mem_filter.mpr ⟨member, by simp [current]⟩
  · intro ⟨nonblank, current⟩
    have named : nonemptyTexts (patterns.map (·.text)) = .ok () := by
      rw [nonemptyTexts_ok]
      simpa using nonblank
    have each : validateEach patterns = .ok () :=
      (validateEach_ok patterns).mpr fun pattern member plain =>
        (current pattern member plain).internal
    have lines : compiledLines compiles (currentTexts patterns) = .ok () := by
      rw [compiledLines_ok]
      intro text member
      obtain ⟨pattern, chosen, rfl⟩ := List.mem_map.mp member
      obtain ⟨member, plain⟩ := List.mem_filter.mp chosen
      exact (current pattern member (by simpa using plain)).compiled
    unfold validateInternalPathPatterns
    rw [named, each, lines]
    rfl

variable {texts : List Text}

theorem parseSources_wire (valid : ∀ text ∈ texts, validateInternal text = .ok ()) :
    parseSources (texts.map wireSource) = .ok texts := by
  induction texts with
  | nil => rfl
  | cons text rest ih =>
    rw [List.forall_mem_cons] at valid
    rw [List.map_cons, parseSources, parseSource_wire valid.1, ih valid.2]

theorem wireSource_named {source : Text} (named : isBlankText source = false) :
    isBlankText (wireSource source) = false := by
  simp only [wireSource]
  split
  · have escape : Scopes.isSpace '\\' = false := by decide
    simp [isBlankText, escape]
  · exact named

theorem parsePathPatterns_wire (current : ∀ text ∈ texts, Current compiles text) :
    parsePathPatterns compiles (texts.map wireSource) = .ok (texts.map unmarked) := by
  have named : nonemptyTexts (texts.map wireSource) = .ok () := by
    rw [nonemptyTexts_ok]
    intro wired member
    obtain ⟨text, held, rfl⟩ := List.mem_map.mp member
    exact wireSource_named (current text held).named
  have parsed := parseSources_wire fun text member => (current text member).internal
  have valid : validateInternalPathPatterns compiles (texts.map unmarked) =
      .ok (texts.map unmarked) := by
    rw [validate_iff]
    constructor
    · intro pattern member
      obtain ⟨text, held, rfl⟩ := List.mem_map.mp member
      exact (current text held).named
    · intro pattern member _
      obtain ⟨text, held, rfl⟩ := List.mem_map.mp member
      exact current text held
  unfold parsePathPatterns
  rw [named]
  change (parseSources (texts.map wireSource)).bind _ = _
  rw [parsed]
  exact valid

theorem markSources_wire (valid : ∀ text ∈ texts, validateInternal text = .ok ()) :
    markSources texts = .ok (texts.map wireSource) := by
  induction texts with
  | nil => rfl
  | cons text rest ih =>
    rw [List.forall_mem_cons] at valid
    rw [markSources, current_unescaped valid.1, ih valid.2]
    rfl

variable {patterns : List PathPattern}

theorem parsePathPatterns_unmarked {raw : List Text}
    (parsed : parsePathPatterns compiles raw = .ok patterns) :
    ∀ pattern ∈ patterns, pattern.legacy = false := by
  unfold parsePathPatterns at parsed
  cases named : nonemptyTexts raw with
  | error error => rw [named] at parsed; cases parsed
  | ok _ =>
    cases sources : parseSources raw with
    | error error => rw [named, sources] at parsed; cases parsed
    | ok texts =>
      rw [named, sources] at parsed
      rw [validate_same compiles parsed]
      intro pattern member
      obtain ⟨text, _, rfl⟩ := List.mem_map.mp member
      rfl

def Retained (compiles : Text → Bool) (pattern : PathPattern) : Prop :=
  ∃ raw encoding patterns, parseDurablePathPatterns compiles raw encoding = .ok patterns ∧
    pattern ∈ patterns

theorem migrateSource_cases {source : Text}
    (migrated : migrateSource compiles source = .ok patterns) :
    patterns = [⟨source, true⟩] ∨ ∀ pattern ∈ patterns, pattern.legacy = false := by
  have kept : retain source = .ok patterns → patterns = [⟨source, true⟩] := by
    intro retained
    unfold retain at retained
    split at retained
    · cases retained; rfl
    · cases retained
  unfold migrateSource at migrated
  split at migrated
  · exact Or.inl (kept migrated)
  · split at migrated
    next parsed =>
      cases migrated
      exact Or.inr (parsePathPatterns_unmarked parsed)
    · exact Or.inl (kept migrated)

theorem migrateSources_mem {raw : List Text} (migrated : migrateSources compiles raw = .ok patterns)
    {pattern : PathPattern} (member : pattern ∈ patterns) :
    ∃ source some, migrateSource compiles source = .ok some ∧ pattern ∈ some := by
  induction raw generalizing patterns with
  | nil => cases migrated; cases member
  | cons source rest ih =>
    unfold migrateSources at migrated
    cases first : migrateSource compiles source with
    | error error => rw [first] at migrated; cases migrated
    | ok here =>
      cases others : migrateSources compiles rest with
      | error error => rw [first, others] at migrated; cases migrated
      | ok more =>
        rw [first, others] at migrated
        cases migrated
        rcases List.mem_append.mp member with inHere | inMore
        · exact ⟨source, here, first, inHere⟩
        · exact ih others inMore

theorem Retained.migrates {pattern : PathPattern} (retained : Retained compiles pattern)
    (legacy : pattern.legacy = true) : migrateSource compiles pattern.text = .ok [pattern] := by
  obtain ⟨raw, encoding, patterns, parsed, member⟩ := retained
  unfold parseDurablePathPatterns at parsed
  split at parsed
  · cases parsed
  · cases named : nonemptyTexts raw with
    | error error => rw [named] at parsed; cases parsed
    | ok _ =>
      rw [named] at parsed
      obtain ⟨source, here, migrated, inHere⟩ := migrateSources_mem parsed member
      rcases migrateSource_cases migrated with same | plain
      · rw [same, List.mem_singleton] at inHere
        rw [inHere, migrated, same]
      · rw [plain pattern inHere] at legacy
        cases legacy

theorem Current.migrates {text : Text} (current : Current compiles text) :
    migrateSource compiles text = .ok [unmarked text] := by
  have parsed := @parsePathPatterns_wire compiles [text] (by simpa using current)
  unfold migrateSource
  rw [current_unescaped current.internal]
  simp only [Bool.false_eq_true, if_false]
  simp only [List.map_cons, List.map_nil] at parsed
  rw [parsed]

theorem migrateSources_same
    (migrates : ∀ pattern ∈ patterns, migrateSource compiles pattern.text = .ok [pattern]) :
    migrateSources compiles (patterns.map (·.text)) = .ok patterns := by
  induction patterns with
  | nil => rfl
  | cons pattern rest ih =>
    rw [List.forall_mem_cons] at migrates
    rw [List.map_cons, migrateSources, migrates.1, ih migrates.2]
    rfl

end Lists

section Policies

variable {compiles : Text → Bool}

theorem Current.canonical {text : Text} (current : Current compiles text) :
    ∃ canonical, canonicalPattern text = some canonical := by
  obtain ⟨_, canonical, found, _⟩ := validateInternal_ok current.internal
  exact ⟨canonical, found⟩

variable {patterns : List PathPattern}

theorem serialize_texts
    (current : ∀ pattern ∈ patterns, pattern.legacy = false → Current compiles pattern.text) :
    serializePathPatterns patterns = .ok (patterns.map (·.text)) := by
  induction patterns with
  | nil => rfl
  | cons pattern rest ih =>
    rw [List.forall_mem_cons] at current
    have spelled : ¬ (pattern.legacy = false ∧ canonicalPattern pattern.text = none) := by
      rintro ⟨plain, none⟩
      obtain ⟨canonical, found⟩ := (current.1 plain).canonical
      rw [none] at found
      cases found
    rw [serializePathPatterns, if_neg spelled, ih current.2]
    rfl

def PermissionPolicy.encoding (policy : PermissionPolicy compiles) : Option String :=
  if policy.denyPatterns.any needsEncodingMarker || policy.redactPatterns.any
    needsEncodingMarker then
    some encodingLiteralBang
  else none

variable (policy : PermissionPolicy compiles)

theorem toJson_ok :
    policy.toJson compiles = .ok ⟨policy.denyPatterns.map (·.text),
      policy.redactPatterns.map (·.text), policy.encoding⟩ := by
  have deny := serialize_texts ((validate_iff _).mp policy.denyValid).2
  have redact := serialize_texts ((validate_iff _).mp policy.redactValid).2
  unfold PermissionPolicy.toJson
  rw [deny]
  change (serializePathPatterns policy.redactPatterns).bind _ = _
  rw [redact]
  rfl

theorem pathPatternEncoding_ok (deny redact : List Text) :
    pathPatternEncoding ⟨deny, redact, policy.encoding⟩ = .ok policy.encoding := by
  unfold pathPatternEncoding PermissionPolicy.encoding
  split <;> rfl

theorem make_same :
    PermissionPolicy.make compiles policy.denyPatterns policy.redactPatterns = .ok policy := by
  unfold PermissionPolicy.make
  split
  next denyCase => rw [policy.denyValid] at denyCase; cases denyCase
  · split
    next redactCase => rw [policy.redactValid] at redactCase; cases redactCase
    · rfl

theorem parseDurable_same (valid : validateInternalPathPatterns compiles patterns = .ok patterns)
    (retained : ∀ pattern ∈ patterns, pattern.legacy = true → Retained compiles pattern) :
    parseDurablePathPatterns compiles (patterns.map (·.text)) policy.encoding = .ok patterns := by
  obtain ⟨named, current⟩ := (validate_iff patterns).mp valid
  have nonempty : nonemptyTexts (patterns.map (·.text)) = .ok () := by
    rw [nonemptyTexts_ok]
    simpa using named
  have supported : policy.encoding.any (· ≠ encodingLiteralBang) = false := by
    unfold PermissionPolicy.encoding
    split <;> rfl
  unfold parseDurablePathPatterns
  rw [supported, nonempty]
  refine migrateSources_same fun pattern member => ?_
  cases legacy : pattern.legacy with
  | true => exact (retained pattern member legacy).migrates legacy
  | false =>
    have migrated := (current pattern member legacy).migrates
    rw [migrated]
    have same : unmarked pattern.text = pattern := by rw [unmarked, ← legacy]
    rw [same]

theorem parseSerialized_same (valid : validateInternalPathPatterns compiles patterns = .ok patterns)
    (plain : ∀ pattern ∈ patterns, pattern.legacy = false)
    (marked : patterns.any needsEncodingMarker = true →
    policy.encoding = some encodingLiteralBang) :
    parseSerializedPathPatterns compiles (patterns.map (·.text)) policy.encoding =
      .ok patterns := by
  obtain ⟨named, each⟩ := (validate_iff patterns).mp valid
  have current : ∀ text ∈ patterns.map (·.text), Current compiles text := by
    intro text member
    obtain ⟨pattern, held, rfl⟩ := List.mem_map.mp member
    exact each pattern held (plain pattern held)
  have parsed := parsePathPatterns_wire current
  have same : (patterns.map (·.text)).map unmarked = patterns := by
    rw [List.map_map]
    refine (List.map_congr_left fun pattern member => ?_).trans (List.map_id _)
    have legacy := plain pattern member
    change unmarked pattern.text = pattern
    rw [unmarked, ← legacy]
  rw [same] at parsed
  cases found : policy.encoding with
  | none =>
    have unwired : (patterns.map (·.text)).map wireSource = patterns.map (·.text) := by
      refine (List.map_congr_left fun text member => ?_).trans (List.map_id _)
      obtain ⟨pattern, held, rfl⟩ := List.mem_map.mp member
      have quiet : needsEncodingMarker pattern = false := by
        cases needs : needsEncodingMarker pattern with
        | false => rfl
        | true =>
          have some := marked (List.any_eq_true.mpr ⟨pattern, held, needs⟩)
          rw [found] at some
          cases some
      obtain ⟨canonical, spelled⟩ := (each pattern held (plain pattern held)).canonical
      have bang : startsBang pattern.text = false := by
        rw [Bool.eq_false_iff, Ne, bang_iff spelled]
        simpa [needsEncodingMarker, plain pattern held, spelled] using quiet
      simp [wireSource, bang]
    rw [unwired] at parsed
    exact parsed
  | some encoding =>
    have literal : encoding = encodingLiteralBang := by
      unfold PermissionPolicy.encoding at found
      split at found
      · cases found; rfl
      · cases found
    have nonempty : nonemptyTexts (patterns.map (·.text)) = .ok () := by
      rw [nonemptyTexts_ok]
      simpa using named
    have wires := markSources_wire fun text member => (current text member).internal
    unfold parseSerializedPathPatterns
    rw [literal]
    simp only [ne_eq, not_true_eq_false, if_false]
    rw [nonempty]
    change (markSources (patterns.map (·.text))).bind _ = _
    rw [wires]
    exact parsed

theorem policy_roundTrip (policy : PermissionPolicy compiles)
    (retained : ∀ pattern ∈ policy.denyPatterns ++ policy.redactPatterns,
      pattern.legacy = true → Retained compiles pattern) :
    ∃ payload, policy.toJson compiles = .ok payload ∧
      PermissionPolicy.fromDurableJson compiles payload = .ok policy ∧
      ((∀ pattern ∈ policy.denyPatterns ++ policy.redactPatterns, pattern.legacy = false) →
        PermissionPolicy.fromJson compiles payload = .ok policy) := by
  rw [List.forall_mem_append] at retained
  refine ⟨_, toJson_ok policy, ?_, ?_⟩
  · have deny := parseDurable_same policy policy.denyValid retained.1
    have redact := parseDurable_same policy policy.redactValid retained.2
    unfold PermissionPolicy.fromDurableJson
    rw [pathPatternEncoding_ok]
    change (parseDurablePathPatterns compiles _ _).bind _ = _
    rw [deny]
    change (parseDurablePathPatterns compiles _ _).bind _ = _
    rw [redact]
    exact make_same policy
  · intro plain
    rw [List.forall_mem_append] at plain
    have marked : (policy.denyPatterns.any needsEncodingMarker ||
        policy.redactPatterns.any needsEncodingMarker) = true →
        policy.encoding = some encodingLiteralBang := fun needs => if_pos needs
    have deny := parseSerialized_same policy policy.denyValid plain.1 fun needs =>
      marked (by rw [needs]; rfl)
    have redact := parseSerialized_same policy policy.redactValid plain.2 fun needs =>
      marked (by rw [needs, Bool.or_true])
    unfold PermissionPolicy.fromJson
    rw [pathPatternEncoding_ok]
    change (parseSerializedPathPatterns compiles _ _).bind _ = _
    rw [deny]
    change (parseSerializedPathPatterns compiles _ _).bind _ = _
    rw [redact]
    exact make_same policy

def mixedPolicy : PermissionPolicy fun _ => true where
  denyPatterns := [⟨['!', 'x'], false⟩]
  redactPatterns := [⟨['\\', '!', 'y'], true⟩]
  denyValid := by decide
  redactValid := by decide

def currentPolicy : PermissionPolicy fun _ => true where
  denyPatterns := [⟨['!', 'x'], false⟩]
  redactPatterns := [⟨['y'], false⟩]
  denyValid := by decide
  redactValid := by decide

theorem policy_roundTrip_mixed :
    (∃ payload, mixedPolicy.toJson _ = .ok payload ∧
      PermissionPolicy.fromDurableJson _ payload = .ok mixedPolicy) ∧
      ∃ payload, currentPolicy.toJson _ = .ok payload ∧
        PermissionPolicy.fromJson _ payload = .ok currentPolicy := by
  constructor
  · obtain ⟨payload, written, read, -⟩ :=
      policy_roundTrip mixedPolicy fun pattern member legacy => by
      refine ⟨[['\\', '!', 'y']], none, [⟨['\\', '!', 'y'], true⟩], by decide, ?_⟩
      rcases List.mem_cons.mp member with rfl | member
      · cases legacy
      · exact member
    exact ⟨payload, written, read⟩
  · have plain : ∀ pattern ∈ currentPolicy.denyPatterns ++ currentPolicy.redactPatterns,
        pattern.legacy = false := by decide
    obtain ⟨payload, written, -, read⟩ :=
      policy_roundTrip currentPolicy fun pattern member legacy =>
      absurd legacy (Bool.eq_false_iff.mp (plain pattern member))
    exact ⟨payload, written, read plain⟩

end Policies

end MonoidKernel.PathPatterns
