import MonoidKernel.Core.Scope
import Mathlib

set_option autoImplicit false

-- Translated from permissions.py and the array check of _policy_util.py.
namespace MonoidKernel.PathPatterns

open MonoidKernel.Scopes (isSpace)

abbrev Text := List Char

structure PathPattern where
  text : Text
  legacy : Bool
deriving DecidableEq

structure PatternError where
  message : String
  source : Option Text
deriving DecidableEq

def encodingLiteralBang : String := "monoid.literal-bang.v1"

section Canonical

def isDriveLetter (character : Char) : Bool :=
  ('A' ≤ character && character ≤ 'Z') || ('a' ≤ character && character ≤ 'z')

def hasDrive : Text → Bool
  | letter :: ':' :: _ => isDriveLetter letter
  | _ => false

def patternSegments (body : Text) : List Text :=
  let segments := body.splitOn '/'
  if segments.getLast? = some [] then segments.dropLast else segments

def patternBody (pattern : Text) : Text :=
  match pattern with
  | '/' :: body => body
  | '.' :: '/' :: body => body
  | body => body

def isAnchored (pattern : Text) : Bool := pattern.head? == some '/'

def canonicalPattern (pattern : Text) : Option Text :=
  if ['/', '/'].isPrefixOf pattern || ['\\', '\\'].isPrefixOf pattern then none
  else
    let anchored := isAnchored pattern
    let body := patternBody pattern
    let wireLiteralNegation := !anchored && ['\\', '!'].isPrefixOf body
    let remainingBody := if wireLiteralNegation then body.drop 2 else body
    if (body.head? = some '\\' ∧ wireLiteralNegation = false) ∨ '\\' ∈ remainingBody then none
    else if hasDrive body then none
    else
      let segments := patternSegments body
      if segments = [] ∨ [] ∈ segments ∨ ['.'] ∈ segments ∨ ['.', '.'] ∈ segments then none
      else
        let joined := ['/'].intercalate segments
        let canonical := if anchored then '/' :: joined else joined
        if anchored ∧ ∀ character ∈ canonical,
            character = '/' ∨ character = ' ' ∨ character = '\t' then none
        else if canonical = [] then none
        else some canonical

-- The loop of `_first_pattern_segment_offset` over the pieces between slashes.
def segmentOffset (fallback : Nat) : Nat → List Text → Nat
  | _, [] => fallback
  | index, segment :: rest =>
    if segment = [] ∨ segment = ['.'] then segmentOffset fallback (index + segment.length + 1) rest
    else index

def firstPatternSegmentOffset (pattern : Text) : Nat :=
  segmentOffset pattern.length 0 (pattern.splitOn '/')

def pathspecPattern (pattern : Text) : Except PatternError (Option Text) :=
  match canonicalPattern pattern with
  | none => .ok none
  | some canonical =>
    if canonical.reverse.takeWhile isSpace |>.any (· ≠ ' ') then
      .error ⟨"non-ASCII trailing whitespace is not supported in path patterns", none⟩
    else
      let suffixLength := (canonical.reverse.takeWhile (· = ' ')).length
      let base := canonical.take (canonical.length - suffixLength)
      let spelled :=
        if suffixLength ≠ 0 ∧ base.getLast? ≠ some '\\' then
          base ++ (List.replicate suffixLength ['\\', ' ']).flatten
        else canonical
      .ok (some (if spelled.head? = some '!' ∨ spelled.head? = some '#' then '\\' :: spelled
        else spelled))

end Canonical

section Validation

variable (compiles : Text → Bool)

def isBlankText (text : Text) : Bool := text.all isSpace

-- `str_tuple` with its `empty_error`.
def nonemptyTexts (texts : List Text) : Except PatternError Unit :=
  if texts.any isBlankText then .error ⟨"empty path pattern is not allowed", none⟩ else .ok ()

def hasControl (source : Text) : Bool :=
  source.any fun character => character.toNat < 32 || character.toNat == 127

def compiledLine (source : Text) : Except PatternError Unit :=
  match pathspecPattern source with
  | .error error => .error ⟨"invalid path pattern: " ++ error.message, none⟩
  | .ok none => .ok ()
  | .ok (some line) =>
    if compiles line then .ok () else .error ⟨"invalid path pattern", none⟩

def compiledLines : List Text → Except PatternError Unit
  | [] => .ok ()
  | source :: rest =>
    match compiledLine compiles source with
    | .error error => .error error
    | .ok _ => compiledLines rest

def checkedCanonical (source : Text) : Except PatternError Text :=
  if hasControl source then
    .error ⟨"control characters are not allowed in path patterns", some source⟩
  else
    match canonicalPattern source with
    | none => .error ⟨"path pattern must name a workspace path", some source⟩
    | some canonical => .ok canonical

def validateInternal (source : Text) : Except PatternError Unit :=
  match checkedCanonical source with
  | .error error => .error error
  | .ok canonical =>
    if ['\\', '!'].isPrefixOf canonical then
      .error
        ⟨"escaped leading ! is a configuration spelling; direct patterns use a literal leading !",
          some source⟩
    else .ok ()

def validateEach : List PathPattern → Except PatternError Unit
  | [] => .ok ()
  | pattern :: rest =>
    if pattern.legacy then validateEach rest
    else
      match validateInternal pattern.text with
      | .error error => .error error
      | .ok _ => validateEach rest

def currentTexts (patterns : List PathPattern) : List Text :=
  (patterns.filter fun pattern => !pattern.legacy).map (·.text)

def validateInternalPathPatterns (patterns : List PathPattern) :
    Except PatternError (List PathPattern) := do
  nonemptyTexts (patterns.map (·.text))
  validateEach patterns
  compiledLines compiles (currentTexts patterns)
  .ok patterns

def parseSource (source : Text) : Except PatternError Text :=
  match checkedCanonical source with
  | .error error => .error error
  | .ok canonical =>
    if ['\\', '!'].isPrefixOf canonical then
      let marker := firstPatternSegmentOffset source
      .ok (source.take marker ++ source.drop (marker + 1))
    else if canonical.head? = some '!' then
      .error ⟨"negated path patterns are not supported (pattern order would decide the result)",
        some source⟩
    else .ok source

def parseSources : List Text → Except PatternError (List Text)
  | [] => .ok []
  | source :: rest =>
    match parseSource source with
    | .error error => .error error
    | .ok parsed =>
      match parseSources rest with
      | .error error => .error error
      | .ok others => .ok (parsed :: others)

def unmarked (text : Text) : PathPattern := ⟨text, false⟩

def parsePathPatterns (raw : List Text) : Except PatternError (List PathPattern) := do
  nonemptyTexts raw
  let parsed ← parseSources raw
  validateInternalPathPatterns compiles (parsed.map unmarked)

def afterMarker (source : Text) : Option Text :=
  let marker := firstPatternSegmentOffset source
  if source.take marker = [] ∨ source.take marker = ['.', '/'] then some (source.drop marker)
  else none

def startsEscaped (source : Text) : Bool :=
  (afterMarker source).any fun rest => ['\\', '!'].isPrefixOf rest

def startsBang (source : Text) : Bool := (afterMarker source).any fun rest => ['!'].isPrefixOf rest

def wireSource (source : Text) : Text :=
  let marker := firstPatternSegmentOffset source
  if startsBang source then source.take marker ++ '\\' :: source.drop marker else source

def markSources : List Text → Except PatternError (List Text)
  | [] => .ok []
  | source :: rest =>
    if startsEscaped source then
      .error ⟨"marked path patterns use a raw leading !; the escaped spelling is legacy-ambiguous",
        some source⟩
    else
      match markSources rest with
      | .error error => .error error
      | .ok others => .ok (wireSource source :: others)

def parseSerializedPathPatterns (raw : List Text) (encoding : Option String) :
    Except PatternError (List PathPattern) :=
  match encoding with
  | none => parsePathPatterns compiles raw
  | some encoding =>
    if encoding ≠ encodingLiteralBang then .error ⟨"unsupported path pattern encoding", none⟩
    else do
      nonemptyTexts raw
      let marked ← markSources raw
      parsePathPatterns compiles marked

-- `PurePosixPath(..).match(source)` raises for a pattern without parts.
def purePathMatchable (source : Text) : Bool :=
  isAnchored source || (source.splitOn '/').any fun segment => segment ≠ [] && segment ≠ ['.']

def retain (source : Text) : Except PatternError (List PathPattern) :=
  if purePathMatchable source then .ok [⟨source, true⟩]
  else .error ⟨"invalid retained path pattern", some source⟩

def migrateSource (source : Text) : Except PatternError (List PathPattern) :=
  if startsEscaped source then retain source
  else
    match parsePathPatterns compiles [wireSource source] with
    | .ok parsed => .ok parsed
    | .error _ => retain source

def migrateSources : List Text → Except PatternError (List PathPattern)
  | [] => .ok []
  | source :: rest =>
    match migrateSource compiles source with
    | .error error => .error error
    | .ok migrated =>
      match migrateSources rest with
      | .error error => .error error
      | .ok others => .ok (migrated ++ others)

def parseDurablePathPatterns (raw : List Text) (encoding : Option String) :
    Except PatternError (List PathPattern) :=
  if encoding.any (· ≠ encodingLiteralBang) then .error ⟨"unsupported path pattern encoding", none⟩
  else do
    nonemptyTexts raw
    migrateSources compiles raw

end Validation

section Policy

variable (compiles : Text → Bool)

structure PermissionPolicy where
  denyPatterns : List PathPattern
  redactPatterns : List PathPattern
  denyValid : validateInternalPathPatterns compiles denyPatterns = .ok denyPatterns
  redactValid : validateInternalPathPatterns compiles redactPatterns = .ok redactPatterns

theorem validate_same {patterns validated : List PathPattern}
    (valid : validateInternalPathPatterns compiles patterns = .ok validated) :
    validated = patterns := by
  unfold validateInternalPathPatterns at valid
  cases nonempty : nonemptyTexts (patterns.map (·.text)) with
  | error error => rw [nonempty] at valid; cases valid
  | ok _ =>
    cases each : validateEach patterns with
    | error error => rw [nonempty, each] at valid; cases valid
    | ok _ =>
      cases lines : compiledLines compiles (currentTexts patterns) with
      | error error => rw [nonempty, each, lines] at valid; cases valid
      | ok _ =>
        rw [nonempty, each, lines] at valid
        cases valid
        rfl

def PermissionPolicy.make (denyPatterns redactPatterns : List PathPattern) :
    Except PatternError (PermissionPolicy compiles) :=
  match denyCase : validateInternalPathPatterns compiles denyPatterns with
  | .error error => .error error
  | .ok _ =>
    match redactCase : validateInternalPathPatterns compiles redactPatterns with
    | .error error => .error error
    | .ok _ =>
      .ok ⟨denyPatterns, redactPatterns,
        denyCase.trans (congrArg _ (validate_same compiles denyCase)),
        redactCase.trans (congrArg _ (validate_same compiles redactCase))⟩

structure PolicyJson where
  denyPatterns : List Text
  redactPatterns : List Text
  pathPatternEncoding : Option String
deriving DecidableEq

def serializePathPatterns : List PathPattern → Except PatternError (List Text)
  | [] => .ok []
  | pattern :: rest =>
    if pattern.legacy = false ∧ canonicalPattern pattern.text = none then
      .error ⟨"path pattern must name a workspace path", some pattern.text⟩
    else
      match serializePathPatterns rest with
      | .error error => .error error
      | .ok others => .ok (pattern.text :: others)

def needsEncodingMarker (pattern : PathPattern) : Bool :=
  if pattern.legacy then startsEscaped pattern.text
  else (canonicalPattern pattern.text).any fun canonical => canonical.head? = some '!'

def PermissionPolicy.toJson (policy : PermissionPolicy compiles) :
    Except PatternError PolicyJson := do
  let deny ← serializePathPatterns policy.denyPatterns
  let redact ← serializePathPatterns policy.redactPatterns
  let marked := policy.denyPatterns.any needsEncodingMarker ||
    policy.redactPatterns.any needsEncodingMarker
  .ok ⟨deny, redact, if marked then some encodingLiteralBang else none⟩

def pathPatternEncoding (payload : PolicyJson) : Except PatternError (Option String) :=
  if payload.pathPatternEncoding.any (· ≠ encodingLiteralBang) then
    .error ⟨"unsupported path pattern encoding", none⟩
  else .ok payload.pathPatternEncoding

def PermissionPolicy.fromJson (payload : PolicyJson) :
    Except PatternError (PermissionPolicy compiles) := do
  let encoding ← pathPatternEncoding payload
  let deny ← parseSerializedPathPatterns compiles payload.denyPatterns encoding
  let redact ← parseSerializedPathPatterns compiles payload.redactPatterns encoding
  PermissionPolicy.make compiles deny redact

def PermissionPolicy.fromDurableJson (payload : PolicyJson) :
    Except PatternError (PermissionPolicy compiles) := do
  let encoding ← pathPatternEncoding payload
  let deny ← parseDurablePathPatterns compiles payload.denyPatterns encoding
  let redact ← parseDurablePathPatterns compiles payload.redactPatterns encoding
  PermissionPolicy.make compiles deny redact

end Policy

end MonoidKernel.PathPatterns
