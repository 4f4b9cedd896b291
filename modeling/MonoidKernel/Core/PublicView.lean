import MonoidKernel.Library.JsonText
import Mathlib.Algebra.Ring.Nat
import Mathlib.Data.List.Infix
import Mathlib.Data.String.Basic

set_option autoImplicit false

-- Translated from public_view.py and redact_tool_arguments of core/tool_approval.py.
namespace MonoidKernel.PublicView

open Library (Json)
open Library.JsonText (size keySize)

abbrev Text := List Char

section Values

def sysMaxsize : Nat := 2 ^ 63 - 1

structure Sized (A : Type) where
  list : List A
  sized : list.length ≤ sysMaxsize
deriving DecidableEq

def Sized.map {A B : Type} (f : A → B) (items : Sized A) : Sized B where
  list := items.list.map f
  sized := by
    rw [List.length_map]
    exact items.sized

inductive View (Object F : Type) where
  | null
  | bool (value : Bool)
  | int (value : Int)
  | float (value : F)
  | str (text : Text)
  | dict (entries : Sized (Text × Object))
  | list (items : Sized Object)
deriving DecidableEq

-- A heap of Python values: containers may be shared and may reach themselves. Equal objects are the
-- same object.
structure Objects (Object F : Type) where
  view : Object → View Object F

def View.map {Object Object' F : Type} (f : Object → Object') : View Object F → View Object' F
  | .null => .null
  | .bool value => .bool value
  | .int value => .int value
  | .float value => .float value
  | .str text => .str text
  | .dict entries => .dict (entries.map fun entry => (entry.1, f entry.2))
  | .list items => .list (items.map f)

inductive Made (Object F : Type) where
  | old (value : Object)
  | scalar (view : View Empty F)
  | texts (items : Sized Text)
  | record (entries : Sized (Text × View Empty F))
deriving DecidableEq

def Objects.withMade {Object F : Type} (objects : Objects Object F) :
    Objects (Made Object F) F where
  view := fun
    | .old value => (objects.view value).map .old
    | .scalar view => view.map Empty.elim
    | .texts items => .list (items.map fun text => .scalar (.str text))
    | .record entries => .dict (entries.map fun entry => (entry.1, .scalar entry.2))

-- What the Python runtime answers: `str.lower`, `str` of a value that is no text (which may raise),
-- the truth and the spelling of a float, `urlparse` (scheme and host name) and SHA-256.
structure Runtime (Object F : Type) where
  lower : Text → Text
  str : Object → Option Text
  floatTruth : F → Bool
  spellFloat : F → Text
  urlparse : Text → Option (Text × Option Text)
  sha256Hex : Text → Text

def Runtime.forMade {Object F : Type} (runtime : Runtime Object F) :
    Runtime (Made Object F) F where
  lower := runtime.lower
  str := fun
    | .old value => runtime.str value
    | _ => none
  floatTruth := runtime.floatTruth
  spellFloat := runtime.spellFloat
  urlparse := runtime.urlparse
  sha256Hex := runtime.sha256Hex

-- A policy, as the answers of `is_path_redacted`; `none` where it raises.
structure PermissionPolicy where
  isPathRedacted : Text → Option Bool

variable {Object F : Type}

def View.truth (runtime : Runtime Object F) : View Object F → Bool
  | .null => false
  | .bool value => value
  | .int value => decide (value ≠ 0)
  | .float value => runtime.floatTruth value
  | .str text => decide (text ≠ [])
  | .dict entries => decide (entries.list.length ≠ 0)
  | .list items => decide (items.list.length ≠ 0)

def portableTypeName : View Object F → Text
  | .null => "NoneType".toList
  | .bool _ => "bool".toList
  | .int _ => "int".toList
  | .float _ => "float".toList
  | .str _ => "str".toList
  | .dict _ => "dict".toList
  | .list _ => "list".toList

def View.isContainer : View Object F → Bool
  | .dict _ | .list _ => true
  | _ => false

end Values

section Texts

def utf8Bytes (text : Text) : Nat := (text.map Char.utf8Size).sum

def truncateToBytes : Text → Nat → Text
  | [], _ => []
  | character :: rest, maxBytes =>
    if character.utf8Size ≤ maxBytes then
      character :: truncateToBytes rest (maxBytes - character.utf8Size)
    else []

def truncationSuffix : Text := ['…']

def truncateInlineText (value : Text) (threshold budget : Nat) : Text :=
  if utf8Bytes value ≤ threshold then value else truncateToBytes value budget ++ truncationSuffix

def bitLength (n : Nat) : Nat := if n = 0 then 0 else n.log2 + 1

def intSpellingExceeds (value : Int) (threshold : Nat) : Bool :=
  let digitBudget := if value < 0 then threshold - 1 else threshold
  if digitBudget ≥ 18 ∧ value.natAbs < 10 ^ 17 then false
  else decide (value.natAbs ≥ 10 ^ digitBudget)

def intHexPreview (value : Int) (budget : Nat) : Text :=
  let sign : Text := if value < 0 then ['-'] else []
  let keep : Int := budget - sign.length - 2
  if keep ≤ 0 then truncateToBytes (sign ++ ['0', 'x']) budget
  else
    let hexDigits := (bitLength value.natAbs + 3) / 4
    let magnitude :=
      if hexDigits > keep.toNat then value.natAbs >>> (4 * (hexDigits - keep.toNat))
      else value.natAbs
    sign ++ ['0', 'x'] ++ (Nat.toDigits 16 magnitude).take keep.toNat

def isPathField (lowered : Text) : Bool :=
  decide (lowered ∈ ["path".toList, "root".toList, "cwd".toList]) ||
    "_path".toList.isSuffixOf lowered

def isContentField (lowered : Text) : Bool :=
  decide (lowered ∈ ["content".toList, "old".toList, "new".toList, "old_text".toList,
    "new_text".toList])

def isPathRedacted (value : Text) (policy : PermissionPolicy) : Bool :=
  (policy.isPathRedacted value).getD true

def redactedPath : Text := "[redacted-path]".toList

def publicPath (path : Text) (policy : PermissionPolicy) : Text :=
  if isPathRedacted path policy then redactedPath else path

end Texts

def previewByteThreshold : Nat := 240
def previewByteBudget : Nat := 160
def previewMaxDepth : Nat := 8
def previewMaxKeys : Nat := 20
def previewMaxItems : Nat := 20
def approvalByteThreshold : Nat := 4096
def approvalByteBudget : Nat := 4096
def tracePayloadByteBudget : Nat := 256 * 1024
def approvalPayloadByteBudget : Nat := 1024 * 1024
def payloadMarkerReserve : Nat := 1024

def publicInlinePath (path : Text) (policy : PermissionPolicy) : Text :=
  truncateInlineText (publicPath path policy) previewByteThreshold previewByteBudget

section Budget

variable {F : Type} (spellFloat : F → Text)

structure PayloadBudget where
  remaining : Int

def PayloadBudget.init (limit : Nat) : PayloadBudget :=
  ⟨max ((limit : Int) - payloadMarkerReserve) 0⟩

def PayloadBudget.charge (budget : PayloadBudget) (cost : Nat) : Option PayloadBudget :=
  if (cost : Int) > budget.remaining then none
  else some ⟨budget.remaining - cost⟩

def PayloadBudget.chargeMarker (budget : PayloadBudget) (cost : Nat) : PayloadBudget :=
  ⟨budget.remaining - cost⟩

-- `_spend_terminal`: charged while money remains, and to the reserve once it does not.
def PayloadBudget.spendTerminal (budget : PayloadBudget) (cost : Nat) : PayloadBudget :=
  (budget.charge cost).getD (budget.chargeMarker cost)

-- A fragment, or `none` for the refusal `_DROPPED`, and the budget after it.
abbrev Fragment (F : Type) := Option (Json F) × PayloadBudget

def chargeFragment (budget : PayloadBudget) (fragment : Json F) : Fragment F :=
  match budget.charge (size spellFloat fragment) with
  | some budget => (some fragment, budget)
  | none => (none, budget)

def chargeTerminalMarker (budget : PayloadBudget) (fragment : Json F) : PayloadBudget :=
  budget.spendTerminal (size spellFloat fragment)

end Budget

section Mapping

variable {F Object : Type} (spellFloat : F → Text)

abbrev Published (F : Type) := List (Text × Json F)

def Published.has (published : Published F) (name : Text) : Bool :=
  published.any fun entry => decide (entry.1 = name)

def Published.assign : Published F → Text → Json F → Published F
  | [], name, fragment => [(name, fragment)]
  | entry :: rest, name, fragment =>
    if entry.1 = name then (name, fragment) :: rest
    else entry :: Published.assign rest name fragment

def suffixed (name : Text) (suffix : Nat) : Text :=
  name ++ '#' :: Library.JsonText.decimal suffix

-- The first `#N` from `suffix` on that is not taken; one of `attempts` many is free.
def probe (published : Published F) (name : Text) : Nat → Nat → Nat
  | 0, suffix => suffix
  | attempts + 1, suffix =>
    if published.has (suffixed name suffix) then probe published name attempts (suffix + 1)
    else suffix

def truncatedKeys : Text := "truncated_keys".toList

def truncatedKeysMarker (dropped : Nat) : Json F := .dict [(truncatedKeys, .int dropped)]

def publishTruncatedKeys (published : Published F) (dropped : Nat) (budget : PayloadBudget) :
    Published F × PayloadBudget :=
  match published.find? fun entry => decide (entry.1 = truncatedKeys) with
  | some (_, collided) =>
    let popped := published.filter fun entry => decide (entry.1 ≠ truncatedKeys)
    let renamed := suffixed truncatedKeys (probe popped truncatedKeys popped.length 2)
    let budget := budget.spendTerminal (keySize renamed - keySize truncatedKeys)
    (Published.assign (Published.assign popped renamed collided) truncatedKeys (.int dropped),
      chargeTerminalMarker spellFloat budget (truncatedKeysMarker dropped))
  | none =>
    (Published.assign published truncatedKeys (.int dropped),
      chargeTerminalMarker spellFloat budget (truncatedKeysMarker dropped))

abbrev Collisions := List (Text × Nat)

def boundedKey (raw : Text) (threshold byteBudget : Nat) (taken : Published F)
    (collisions : Collisions) : Text × Collisions :=
  let name := truncateInlineText raw threshold byteBudget
  if taken.has name then
    let last := ((collisions.find? fun entry => decide (entry.1 = name)).map (·.2)).getD 1
    let suffix := probe taken name taken.length (last + 1)
    (suffixed name suffix, (name, suffix) :: collisions)
  else (name, collisions)

variable (threshold byteBudget : Nat)
  (child : Text → Object → PayloadBudget → Fragment F)

def publishEntries : List (Text × Object) → Published F → Collisions → PayloadBudget →
    Published F × Bool × PayloadBudget
  | [], published, _, budget => (published, false, budget)
  | (key, value) :: rest, published, collisions, budget =>
    let (name, collisions) := boundedKey key threshold byteBudget published collisions
    match budget.charge (keySize name + 4) with
    | none => (published, true, budget)
    | some budget =>
      match child key value budget with
      | (none, budget) => (published, true, budget)
      | (some fragment, budget) =>
        publishEntries rest (published.assign name fragment) collisions budget

def publishItems (child : Object → PayloadBudget → Fragment F) :
    List Object → PayloadBudget → List (Json F) × PayloadBudget
  | [], budget => ([], budget)
  | item :: rest, budget =>
    match budget.charge 2 with
    | none => ([], budget)
    | some budget =>
      match child item budget with
      | (none, budget) => ([], budget)
      | (some fragment, budget) =>
        let others := publishItems child rest budget
        (fragment :: others.1, others.2)

def publicMapping (values : Sized (Text × Object)) (budget : PayloadBudget) :
    Json F × PayloadBudget :=
  let budget := (budget.charge 2).getD budget
  let (published, stopped, budget) :=
    publishEntries threshold byteBudget child values.list [] [] budget
  if stopped then
    let (published, budget) :=
      publishTruncatedKeys spellFloat published (values.list.length - published.length) budget
    (.dict published, budget)
  else (.dict published, budget)

end Mapping

section Preview

variable {Object F : Type} [DecidableEq Object]

structure Surface (Object F : Type) where
  policy : PermissionPolicy
  mask : Text → View Object F → Option (Json F)
  threshold : Nat
  budget : Nat
  decisionSurface : Bool

variable (objects : Objects Object F) (runtime : Runtime Object F)

def redactedValue : View Object F → Json F
  | .str text =>
    .dict [("redacted".toList, .bool true), ("type".toList, .str "str".toList),
      ("bytes".toList, .int (utf8Bytes text))]
  | view =>
    .dict [("redacted".toList, .bool true), ("type".toList, .str (portableTypeName view))]

def truncatedMarker (view : View Object F) (more : List (Text × Json F)) : Json F :=
  .dict ([("truncated".toList, .bool true), ("type".toList, .str (portableTypeName view))] ++ more)

def inlineTextKeys : List Text := ["step".toList]

def textPreview (surface : Surface Object F) (lowered text : Text) : Json F :=
  if utf8Bytes text > surface.threshold then
    if lowered ∈ inlineTextKeys then
      .str (truncateInlineText text surface.threshold surface.budget)
    else
      .dict [("type".toList, .str "str".toList),
        ("preview".toList, .str (truncateToBytes text surface.budget)),
        ("bytes".toList, .int (utf8Bytes text)), ("truncated".toList, .bool true)]
  else .str text

def intPreview (surface : Surface Object F) (value : Int) : Json F :=
  if intSpellingExceeds value surface.threshold then
    .dict [("type".toList, .str "int".toList),
      ("preview".toList, .str (intHexPreview value surface.budget)),
      ("truncated".toList, .bool true)]
  else .int value

def withheld (surface : Surface Object F) (lowered : Text) (view : View Object F) : Bool :=
  !surface.decisionSurface && (isContentField lowered ||
    match view with
    | .str text => isPathField lowered && isPathRedacted text surface.policy
    | _ => false)

abbrev Traversal (Object F : Type) :=
  List Object → Text → Object → PayloadBudget → Fragment F

def truncatedItemsMarker (dropped : Nat) : Json F :=
  .dict [("truncated_items".toList, .int dropped)]

def previewEntries (surface : Surface Object F) (deeper : Traversal Object F)
    (ancestors : List Object) (entries : Sized (Text × Object)) (budget : PayloadBudget) :
    Fragment F :=
  match budget.charge 2 with
  | none => (none, budget)
  | some budget =>
    let (published, stopped, budget) :=
      publishEntries surface.threshold surface.budget (deeper ancestors)
        (entries.list.take previewMaxKeys) [] [] budget
    let dropped := entries.list.length - published.length
    if stopped || decide (0 < dropped) then
      let (published, budget) := publishTruncatedKeys runtime.spellFloat published dropped budget
      (some (.dict published), budget)
    else (some (.dict published), budget)

def previewItems (deeper : Traversal Object F) (ancestors : List Object) (key : Text)
    (items : Sized Object) (budget : PayloadBudget) : Fragment F :=
  match budget.charge 2 with
  | none => (none, budget)
  | some budget =>
    let (published, budget) :=
      publishItems (deeper ancestors key) (items.list.take previewMaxItems) budget
    if items.list.length > published.length then
      let marker := truncatedItemsMarker (items.list.length - published.length)
      (some (.list (published ++ [marker])), chargeTerminalMarker runtime.spellFloat budget marker)
    else (some (.list published), budget)

-- `_preview_value` over one value; `deeper` previews the members of a container, and is missing at
-- the deepest level.
def previewNode (surface : Surface Object F) (deeper : Option (Traversal Object F)) :
    Traversal Object F := fun ancestors key value budget =>
  let view := objects.view value
  match surface.mask key view with
  | some replacement => chargeFragment runtime.spellFloat budget replacement
  | none =>
    if withheld surface (runtime.lower key) view then
      chargeFragment runtime.spellFloat budget (redactedValue view)
    else
      match view, deeper with
      | .null, _ => chargeFragment runtime.spellFloat budget .null
      | .bool value, _ => chargeFragment runtime.spellFloat budget (.bool value)
      | .int value, _ => chargeFragment runtime.spellFloat budget (intPreview surface value)
      | .float value, _ => chargeFragment runtime.spellFloat budget (.float value)
      | .str text, _ =>
        chargeFragment runtime.spellFloat budget (textPreview surface (runtime.lower key) text)
      | view, none =>
        chargeFragment runtime.spellFloat budget
          (truncatedMarker view [("depth_exceeded".toList, .int previewMaxDepth)])
      | .dict entries, some deeper =>
        if value ∈ ancestors then
          chargeFragment runtime.spellFloat budget
            (truncatedMarker view [("circular".toList, .bool true)])
        else previewEntries runtime surface deeper (value :: ancestors) entries budget
      | .list items, some deeper =>
        if value ∈ ancestors then
          chargeFragment runtime.spellFloat budget
            (truncatedMarker view [("circular".toList, .bool true)])
        else previewItems runtime deeper (value :: ancestors) key items budget

def previewValue (surface : Surface Object F) : Nat → Traversal Object F
  | 0 => previewNode objects runtime surface none
  | levels + 1 => previewNode objects runtime surface (some (previewValue surface levels))

def previewMember (surface : Surface Object F) (key : Text) (value : Object)
    (budget : PayloadBudget) : Fragment F :=
  previewValue objects runtime surface previewMaxDepth [] key value budget

end Preview

section Builders

variable {Object F : Type} [DecidableEq Object] (objects : Objects Object F)
  (runtime : Runtime Object F)

def unmasked : Text → View Object F → Option (Json F) := fun _ _ => none

def traceSurface (policy : PermissionPolicy) : Surface Object F :=
  ⟨policy, unmasked, previewByteThreshold, previewByteBudget, false⟩

def publicPayload (values : Sized (Text × Object))
    (member : Text → Object → PayloadBudget → Fragment F) : Json F × PayloadBudget :=
  publicMapping runtime.spellFloat previewByteThreshold previewByteBudget member values
    (PayloadBudget.init tracePayloadByteBudget)

-- Each builder returns the payload and the budget it has spent from.

def argsPreview (arguments : Sized (Text × Object)) (policy : PermissionPolicy) :
    Json F × PayloadBudget :=
  publicPayload runtime arguments (previewMember objects runtime (traceSurface policy))

def publicEventPayload (data : Sized (Text × Object)) (policy : PermissionPolicy) :
    Json F × PayloadBudget :=
  publicPayload runtime data (previewMember objects runtime (traceSurface policy))

def publicResultContent (content : Sized (Text × Object)) (policy : PermissionPolicy) :
    Json F × PayloadBudget :=
  publicPayload runtime content fun key value budget =>
    if key = "content".toList then
      chargeFragment runtime.spellFloat budget (redactedValue (objects.view value))
    else
      match objects.view value with
      | .str path =>
        if key = "path".toList then
          chargeFragment runtime.spellFloat budget (.str (publicInlinePath path policy))
        else previewMember objects runtime (traceSurface policy) key value budget
      | _ => previewMember objects runtime (traceSurface policy) key value budget

def View.isNull : View Object F → Bool
  | .null => true
  | _ => false

def finishContentKeys : List Text := ["summary".toList, "notes".toList]

def finishArgsPreview (arguments : Sized (Text × Object)) (policy : PermissionPolicy) :
    Json F × PayloadBudget :=
  publicPayload runtime arguments fun key value budget =>
    if !(objects.view value).isNull && decide (runtime.lower key ∈ finishContentKeys) then
      chargeFragment runtime.spellFloat budget (redactedValue (objects.view value))
    else previewMember objects runtime (traceSurface policy) key value budget

-- `_budgeted_field`: one field with a kernel-literal key, which is never dropped.
def budgetedField (policy : PermissionPolicy) (key : Text) (value : Object)
    (budget : PayloadBudget) : (Text × Json F) × PayloadBudget :=
  let budget := budget.spendTerminal (keySize key + 4)
  match previewMember objects runtime (traceSurface policy) key value budget with
  | (some fragment, budget) => ((key, fragment), budget)
  | (none, budget) =>
    let fallback := truncatedMarker (objects.view value) []
    ((key, fallback), chargeTerminalMarker runtime.spellFloat budget fallback)

def budgetedFields (policy : PermissionPolicy) :
    List (Text × Object) → PayloadBudget → List (Text × Json F) × PayloadBudget
  | [], budget => ([], budget)
  | (key, value) :: rest, budget =>
    let field := budgetedField objects runtime policy key value budget
    let others := budgetedFields policy rest field.2
    (field.1 :: others.1, others.2)

def budgetedPayload (policy : PermissionPolicy) (fields : List (Text × Object)) :
    Json F × PayloadBudget :=
  let budget := PayloadBudget.init tracePayloadByteBudget
  let built := budgetedFields objects runtime policy fields ((budget.charge 2).getD budget)
  (.dict built.1, built.2)

def argument (arguments : Sized (Text × Object)) (key : Text) : Option Object :=
  (arguments.list.find? fun entry => decide (entry.1 = key)).map (·.2)

-- `exact_text(value or "")`; `none` where `str` raises.
def textOr (value : Option Object) : Option Text :=
  match value with
  | none => some []
  | some value =>
    if (objects.view value).truth runtime then
      match objects.view value with
      | .str text => some text
      | _ => runtime.str value
    else some []

def argumentOr (arguments : Sized (Text × Object)) (key : Text) (default : View Empty F) :
    Made Object F :=
  match argument arguments key with
  | some value => .old value
  | none => .scalar default

def truthOr (arguments : Sized (Text × Object)) (key : Text) (default : Bool) : Made Object F :=
  .scalar (.bool (match argument arguments key with
    | some value => (objects.view value).truth runtime
    | none => default))

def envKeys (arguments : Sized (Text × Object)) : Sized Text :=
  match (argument arguments "env".toList).map objects.view with
  | some (.dict env) =>
    { list := (env.list.map (·.1)).mergeSort fun first second => decide (first ≤ second)
      sized := by
        rw [List.length_mergeSort, List.length_map]
        exact env.sized }
  | _ => ⟨[], Nat.zero_le _⟩

def shellArgsPreview [DecidableEq F] (arguments : Sized (Text × Object))
    (policy : PermissionPolicy) : Option (Json F × PayloadBudget) :=
  match textOr objects runtime (argument arguments "command".toList) with
  | none => none
  | some command =>
    some (budgetedPayload objects.withMade runtime.forMade policy [
      ("command_preview".toList, .scalar (.str command)),
      ("cwd".toList, argumentOr arguments "cwd".toList (.str ['.'])),
      ("timeout_s".toList, argumentOr arguments "timeout_s".toList .null),
      ("max_output_bytes".toList, argumentOr arguments "max_output_bytes".toList .null),
      ("startup_wait_s".toList, argumentOr arguments "startup_wait_s".toList .null),
      ("background".toList, truthOr objects runtime arguments "background".toList false),
      ("resume_on_exit".toList, truthOr objects runtime arguments "resume_on_exit".toList true),
      ("env_keys".toList, .texts (envKeys objects arguments))])

def publicQueryPreview (query : Text) : Made Object F :=
  .record ⟨[("redacted".toList, .bool true), ("type".toList, .str "str".toList),
    ("bytes".toList, .int (utf8Bytes query)),
    ("sha256_prefix".toList, .str ((runtime.sha256Hex query).take 12))],
    Nat.le_of_ble_eq_true rfl⟩

-- `public_url_preview`; `none` where `urlparse` raises.
def publicUrlPreview (url : Text) : Option (Made Object F) :=
  match runtime.urlparse url with
  | none => none
  | some (scheme, hostname) =>
    some (.record ⟨[("redacted".toList, .bool true), ("scheme".toList, .str scheme),
      ("domain".toList, .str (runtime.lower (hostname.getD []))),
      ("bytes".toList, .int (utf8Bytes url))], Nat.le_of_ble_eq_true rfl⟩)

def webDescriptorKeys : List Text :=
  ["max_results".toList, "max_tokens".toList, "max_urls".toList, "max_snippets".toList,
    "timeout_s".toList, "max_bytes".toList, "recency_days".toList, "locale".toList,
    "format".toList]

def fieldOf (arguments : Sized (Text × Object)) (key : Text)
    (value : Object → Made Object F) : List (Text × Made Object F) :=
  match argument arguments key with
  | some object => [(key, value object)]
  | none => []

def domainsOr (value : Object) : Made Object F :=
  if (objects.view value).truth runtime then .old value else .texts ⟨[], Nat.zero_le _⟩

-- A descriptor of a text argument, when the argument is there; `none` where it raises.
def descriptorField (arguments : Sized (Text × Object)) (key field : Text)
    (descriptor : Text → Option (Made Object F)) : Option (List (Text × Made Object F)) :=
  match argument arguments key with
  | none => some []
  | some value =>
    match textOr objects runtime (some value) with
    | none => none
    | some text => (descriptor text).map fun made => [(field, made)]

def webArgsPreview [DecidableEq F] (arguments : Sized (Text × Object))
    (policy : PermissionPolicy) : Option (Json F × PayloadBudget) :=
  match descriptorField objects runtime arguments "query".toList "query_preview".toList
      (fun query => some (publicQueryPreview runtime query)),
    descriptorField objects runtime arguments "url".toList "url_preview".toList
      (publicUrlPreview runtime) with
  | some query, some url =>
    some (budgetedPayload objects.withMade runtime.forMade policy (query ++ url ++
      (webDescriptorKeys.flatMap fun key => fieldOf arguments key .old) ++
      fieldOf arguments "allowed_domains".toList (domainsOr objects runtime) ++
      fieldOf arguments "blocked_domains".toList (domainsOr objects runtime)))
  | _, _ => none

end Builders

section Approval

variable {Object F : Type} [DecidableEq Object] (objects : Objects Object F)
  (runtime : Runtime Object F)

abbrev Seen (Object : Type) := List (Object × Text)

def isRedactedPath (policy : PermissionPolicy) (key : Text) (view : View Object F) : Bool :=
  match view with
  | .str text => isPathField (runtime.lower key) && isPathRedacted text policy
  | _ => false

def walkAny (walk : Text → Object → Seen Object → Bool × Seen Object) :
    List (Text × Object) → Seen Object → Bool × Seen Object
  | [], seen => (false, seen)
  | (key, value) :: rest, seen =>
    match walk key value seen with
    | (true, seen) => (true, seen)
    | (false, seen) => walkAny walk rest seen

-- The members of a container, each with the key it is judged by: the items of a list have the key
-- of the list.
def members (key : Text) : View Object F → List (Text × Object)
  | .dict entries => entries.list
  | .list items => items.list.map (key, ·)
  | _ => []

-- `walk` with `levels` levels left, the one of the value counted; none beyond the depth limit.
def walk (policy : PermissionPolicy) : Nat → Text → Object → Seen Object → Bool × Seen Object
  | 0, _, _, seen => (false, seen)
  | levels + 1, key, value, seen =>
    if (objects.view value).isContainer then
      if (value, key) ∈ seen then (false, seen)
      else
        walkAny (walk policy levels) (members key (objects.view value)) ((value, key) :: seen)
    else (isRedactedPath runtime policy key (objects.view value), seen)

def walkLevels : Nat := previewMaxDepth + 1

def touchesRedactedPath (values : Sized (Text × Object)) (policy : PermissionPolicy) : Bool :=
  (walkAny (walk objects runtime policy walkLevels) values.list []).1

def secretKeyParts : List Text :=
  ["api_key".toList, "apikey".toList, "authorization".toList, "bearer".toList,
    "credential".toList, "password".toList, "secret".toList, "token".toList]

def isSecretKey (key : Text) : Bool :=
  let lowered := (runtime.lower key).map fun character => if character = '-' then '_' else character
  secretKeyParts.any fun part => decide (part <:+: lowered)

def redactionPlaceholder : Text := "[redacted]".toList

def approvalMask (proseKeys : List Text) (key : Text) (view : View Object F) : Option (Json F) :=
  if isSecretKey runtime key || (!view.isNull && decide (runtime.lower key ∈ proseKeys)) then
    some (.str redactionPlaceholder)
  else none

def approvalSurface (proseKeys : List Text) (policy : PermissionPolicy) (decisionSurface : Bool) :
    Surface Object F :=
  ⟨policy, approvalMask runtime proseKeys, approvalByteThreshold, approvalByteBudget,
    decisionSurface⟩

def redactToolArguments (arguments : Sized (Text × Object)) (proseKeys : List Text)
    (policy : PermissionPolicy) : Json F × PayloadBudget :=
  let withheld := touchesRedactedPath objects runtime arguments policy
  publicMapping runtime.spellFloat approvalByteThreshold approvalByteBudget
    (previewMember objects runtime (approvalSurface runtime proseKeys policy !withheld)) arguments
    (PayloadBudget.init approvalPayloadByteBudget)

end Approval

end MonoidKernel.PublicView
