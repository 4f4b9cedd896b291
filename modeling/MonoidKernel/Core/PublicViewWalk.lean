import MonoidKernel.Core.PublicView
import Mathlib.Data.List.Forall2

set_option autoImplicit false

namespace MonoidKernel.PublicView

open Library (Json)
open Library.JsonText (size keySize)

variable {Object F : Type} [DecidableEq Object]

section Within

variable (objects : Objects Object F)

inductive Within : Nat → Text → Object → Text → Object → Prop where
  | here (levels : Nat) (key : Text) (value : Object) : Within (levels + 1) key value key value
  | there {levels : Nat} {key key' key'' : Text} {value value' value'' : Object}
      (member : (key', value') ∈ members key (objects.view value))
      (further : Within levels key' value' key'' value'') :
      Within (levels + 1) key value key'' value''

variable {objects}

omit [DecidableEq Object] in
theorem members_container {key : Text} {view : View Object F} {member : Text × Object}
    (inside : member ∈ members key view) : view.isContainer = true := by
  cases view with
  | dict entries => rfl
  | list items => rfl
  | _ => simp [members] at inside

omit [DecidableEq Object] in
theorem Within.some_level {levels : Nat} {key key' : Text} {value value' : Object}
    (within : Within objects levels key value key' value') : 0 < levels := by
  cases within <;> omega

end Within

section Rendition

variable (objects : Objects Object F) (runtime : Runtime Object F) (surface : Surface Object F)
  (visible : Text → Text → Prop)

-- A mapping rendered from its first entries, each member from its entry; a second entry under one
-- published name takes the place of the first.
def assembled (parts : Published F) : Published F :=
  parts.foldl (fun published part => published.assign part.1 part.2) []

def RendersEntries (child : Text → Object → Json F → Prop) (entries : List (Text × Object))
    (fragment : Json F) : Prop :=
  ∃ parts : Published F,
    List.Forall₂ (fun entry part => child entry.1 entry.2 part.2) (entries.take parts.length)
      parts ∧
    (fragment = .dict (assembled parts) ∨ ∃ dropped budget,
      fragment = .dict (publishTruncatedKeys runtime.spellFloat (assembled parts) dropped budget).1)

def RendersItems (child : Object → Json F → Prop) (items : List Object) (fragment : Json F) :
    Prop :=
  ∃ parts : List (Json F), List.Forall₂ child (items.take parts.length) parts ∧
    (fragment = .list parts ∨ ∃ dropped, fragment = .list (parts ++ [truncatedItemsMarker dropped]))

-- What a value under a key may be published as, where only texts that `visible` admits under their
-- key are published as texts.
def RendersNode (deeper : Option (Text → Object → Json F → Prop)) (key : Text) (value : Object)
    (fragment : Json F) : Prop :=
  let view := objects.view value
  surface.mask key view = some fragment ∨ fragment = redactedValue view ∨
    match view, deeper with
    | .null, _ => fragment = .null
    | .bool value, _ => fragment = .bool value
    | .int value, _ => fragment = intPreview surface value
    | .float value, _ => fragment = .float value
    | .str text, _ => visible key text ∧ fragment = textPreview surface (runtime.lower key) text
    | view, none =>
      fragment = truncatedMarker view [("depth_exceeded".toList, .int previewMaxDepth)]
    | .dict entries, some deeper =>
      fragment = truncatedMarker view [("circular".toList, .bool true)] ∨
        RendersEntries runtime deeper (entries.list.take previewMaxKeys) fragment
    | .list items, some deeper =>
      fragment = truncatedMarker view [("circular".toList, .bool true)] ∨
        RendersItems (deeper key) (items.list.take previewMaxItems) fragment

def Renders : Nat → Text → Object → Json F → Prop
  | 0 => RendersNode objects runtime surface visible none
  | levels + 1 => RendersNode objects runtime surface visible (some (Renders levels))

def RendersMapping (values : Sized (Text × Object)) (fragment : Json F) : Prop :=
  RendersEntries runtime (Renders objects runtime surface visible previewMaxDepth) values.list
    fragment

variable {objects runtime surface visible}

variable {entry : Text × Json F}

variable {published : Published F} {fragment : Json F}

theorem assign_mem {name : Text} (member : entry ∈ published.assign name fragment) :
    entry = (name, fragment) ∨ entry ∈ published := by
  induction published with
  | nil => exact .inl (List.mem_singleton.mp member)
  | cons first rest ih =>
    unfold Published.assign at member
    split at member
    · exact (List.mem_cons.mp member).imp id (List.mem_cons_of_mem _)
    · cases List.mem_cons.mp member with
      | inl here => exact .inr (here ▸ List.mem_cons_self)
      | inr later => exact (ih later).imp id (List.mem_cons_of_mem _)

theorem assembled_mem {parts : Published F} (member : entry ∈ assembled parts) : entry ∈ parts := by
  induction parts using List.reverseRecOn with
  | nil => cases member
  | append_singleton before part ih =>
    unfold assembled at member
    rw [List.foldl_append] at member
    cases assign_mem member with
    | inl here => simp [here]
    | inr old => exact List.mem_append_left _ (ih old)

theorem publishTruncatedKeys_mem {spellFloat : F → Text} {dropped : Nat} {budget : PayloadBudget}
    (member : entry ∈ (publishTruncatedKeys spellFloat published dropped budget).1) :
    entry.2 = .int dropped ∨ ∃ other ∈ published, other.2 = entry.2 := by
  unfold publishTruncatedKeys at member
  split at member
  next name collided found =>
    cases assign_mem member with
    | inl marker => exact .inl (by rw [marker])
    | inr kept =>
      cases assign_mem kept with
      | inl moved => exact .inr ⟨_, List.mem_of_find?_eq_some found, by rw [moved]⟩
      | inr popped => exact .inr ⟨entry, (List.mem_filter.mp popped).1, rfl⟩
  · cases assign_mem member with
    | inl marker => exact .inl (by rw [marker])
    | inr kept => exact .inr ⟨entry, kept, rfl⟩

omit [DecidableEq Object] in
theorem RendersEntries.member {child : Text → Object → Json F → Prop}
    {entries : List (Text × Object)}
    (renders : RendersEntries runtime child entries (.dict published))
    (member : entry ∈ published) :
    (∃ dropped : Nat, entry.2 = .int dropped) ∨
      ∃ source ∈ entries, child source.1 source.2 entry.2 := by
  obtain ⟨parts, each, whole⟩ := renders
  have source : ∀ part ∈ parts, ∃ source ∈ entries, child source.1 source.2 part.2 := by
    intro part inside
    obtain ⟨place, here, rfl⟩ := List.mem_iff_getElem.mp inside
    have length := each.length_eq
    have same := each.get (by rw [length]; exact here) here
    exact ⟨_, List.mem_of_mem_take (List.getElem_mem _), same⟩
  cases whole with
  | inl plain =>
    cases plain
    exact .inr (source entry (assembled_mem member))
  | inr cut =>
    obtain ⟨dropped, budget, same⟩ := cut
    cases same
    cases publishTruncatedKeys_mem member with
    | inl marker => exact .inl ⟨dropped, marker⟩
    | inr kept =>
      obtain ⟨other, inside, same⟩ := kept
      obtain ⟨origin, among, rendered⟩ := source other (assembled_mem inside)
      exact .inr ⟨origin, among, same ▸ rendered⟩

omit [DecidableEq Object] in
theorem RendersEntries.isDict {child : Text → Object → Json F → Prop}
    {entries : List (Text × Object)} (renders : RendersEntries runtime child entries fragment) :
    ∃ published, fragment = .dict published := by
  obtain ⟨parts, -, whole⟩ := renders
  cases whole with
  | inl plain => exact ⟨_, plain⟩
  | inr cut =>
    obtain ⟨dropped, budget, same⟩ := cut
    exact ⟨_, same⟩

omit [DecidableEq Object] in
theorem RendersNode.of_dict {deeper : Text → Object → Json F → Prop} {key : Text} {value : Object}
    {entries : Sized (Text × Object)} (view : objects.view value = .dict entries)
    (plain : surface.mask key (.dict entries) = none)
    (renders : RendersNode objects runtime surface visible (some deeper) key value fragment) :
    fragment = redactedValue (objects.view value) ∨
      fragment = truncatedMarker (objects.view value) [("circular".toList, .bool true)] ∨
        RendersEntries runtime deeper (entries.list.take previewMaxKeys) fragment := by
  unfold RendersNode at renders
  rw [view] at renders ⊢
  dsimp only at renders
  rw [plain] at renders
  exact renders.resolve_left (by simp)

end Rendition

section Preview

variable {objects : Objects Object F} (runtime : Runtime Object F) (surface : Surface Object F)
  {visible : Text → Text → Prop}

theorem chargeFragment_is {spellFloat : F → Text} {budget : PayloadBudget} {json fragment : Json F}
    (charged : (chargeFragment spellFloat budget json).1 = some fragment) : json = fragment := by
  unfold chargeFragment at charged
  split at charged
  · exact Option.some.inj charged
  · cases charged

def Publishes (child : Text → Object → PayloadBudget → Fragment F)
    (renders : Text → Object → Json F → Prop) (entries : List (Text × Object)) : Prop :=
  ∀ entry ∈ entries, ∀ budget fragment,
    (child entry.1 entry.2 budget).1 = some fragment → renders entry.1 entry.2 fragment

variable {renders : Text → Object → Json F → Prop}

variable (threshold : Nat)

omit [DecidableEq Object] in
theorem publishEntries_parts (byteBudget : Nat) {child : Text → Object → PayloadBudget → Fragment F}
    {entries : List (Text × Object)} (each : Publishes child renders entries) (before : Published F)
    (collisions : Collisions) (budget : PayloadBudget) :
    ∃ parts : Published F,
      List.Forall₂ (fun entry part => renders entry.1 entry.2 part.2) (entries.take parts.length)
        parts ∧
      assembled (before ++ parts) =
        (publishEntries threshold byteBudget child entries (assembled before) collisions
          budget).1 := by
  induction entries generalizing before collisions budget with
  | nil => exact ⟨[], by simp, by simp [publishEntries]⟩
  | cons entry rest ih =>
    unfold publishEntries
    dsimp only
    split
    · exact ⟨[], by simp, by simp⟩
    next after charged =>
      split
      · exact ⟨[], by simp, by simp⟩
      next fragment last kept =>
        have here := each entry List.mem_cons_self after fragment (by rw [kept])
        have others : Publishes child renders rest :=
          fun entry member => each entry (List.mem_cons_of_mem _ member)
        generalize boundedKey entry.1 threshold byteBudget (assembled before) collisions = bounded
        have grown : (assembled before).assign bounded.1 fragment =
            assembled (before ++ [(bounded.1, fragment)]) := by
          simp [assembled]
        obtain ⟨parts, rendered, all⟩ :=
          ih others (before ++ [(bounded.1, fragment)]) bounded.2 last
        refine ⟨(bounded.1, fragment) :: parts, ?_, ?_⟩
        · rw [List.length_cons, List.take_succ_cons]
          exact List.Forall₂.cons here rendered
        · rw [grown, ← all, List.append_assoc, List.singleton_append]

omit [DecidableEq Object] in
theorem publishEntries_renders (byteBudget : Nat)
    {child : Text → Object → PayloadBudget → Fragment F} {entries : List (Text × Object)}
    (each : Publishes child renders entries) (budget : PayloadBudget) :
    ∃ parts : Published F,
      List.Forall₂ (fun entry part => renders entry.1 entry.2 part.2) (entries.take parts.length)
        parts ∧
      (publishEntries threshold byteBudget child entries [] [] budget).1 = assembled parts := by
  obtain ⟨parts, rendered, same⟩ := publishEntries_parts threshold byteBudget each [] [] budget
  exact ⟨parts, rendered, same.symm⟩

omit [DecidableEq Object] in
theorem publishItems_parts {child : Object → PayloadBudget → Fragment F}
    {renders : Object → Json F → Prop} {items : List Object}
    (each : ∀ item ∈ items, ∀ budget fragment,
      (child item budget).1 = some fragment → renders item fragment)
    (budget : PayloadBudget) :
    List.Forall₂ renders (items.take (publishItems child items budget).1.length)
      (publishItems child items budget).1 := by
  induction items generalizing budget with
  | nil => simp [publishItems]
  | cons item rest ih =>
    have others := ih fun item member => each item (List.mem_cons_of_mem _ member)
    unfold publishItems
    split
    · simp
    next after charged =>
      split
      · simp
      next fragment last kept =>
        have here := each item List.mem_cons_self after fragment (by rw [kept])
        rw [List.length_cons, List.take_succ_cons]
        exact List.Forall₂.cons here (others last)

omit [DecidableEq Object] in
theorem previewEntries_renders {deeper : Traversal Object F} {entries : Sized (Text × Object)}
    (below : ∀ ancestors, Publishes (deeper ancestors) renders entries.list)
    (ancestors : List Object) (budget : PayloadBudget) (fragment : Json F)
    (published : (previewEntries runtime surface deeper ancestors entries budget).1 =
      some fragment) :
    RendersEntries runtime renders (entries.list.take previewMaxKeys) fragment := by
  unfold previewEntries at published
  split at published
  · cases published
  next after charged =>
    have each : Publishes (deeper ancestors) renders (entries.list.take previewMaxKeys) :=
      fun entry member => below ancestors entry (List.mem_of_mem_take member)
    have made := publishEntries_renders surface.threshold surface.budget each after
    generalize publishEntries surface.threshold surface.budget (deeper ancestors)
      (entries.list.take previewMaxKeys) [] [] after = result at made published
    obtain ⟨made', stopped, last⟩ := result
    obtain ⟨parts, rendered, rfl⟩ := made
    dsimp only at published
    split at published
    · exact ⟨parts, rendered, .inr ⟨_, _, (Option.some.inj published).symm⟩⟩
    · exact ⟨parts, rendered, .inl (Option.some.inj published).symm⟩

omit [DecidableEq Object] in
theorem previewItems_renders {deeper : Traversal Object F} {renders : Object → Json F → Prop}
    {key : Text} {items : Sized Object}
    (below : ∀ ancestors, ∀ item ∈ items.list, ∀ budget fragment,
      (deeper ancestors key item budget).1 = some fragment → renders item fragment)
    (ancestors : List Object) (budget : PayloadBudget) (fragment : Json F)
    (published : (previewItems runtime deeper ancestors key items budget).1 = some fragment) :
    RendersItems renders (items.list.take previewMaxItems) fragment := by
  unfold previewItems at published
  split at published
  · cases published
  next after charged =>
    have each : ∀ item ∈ items.list.take previewMaxItems, ∀ budget fragment,
        (deeper ancestors key item budget).1 = some fragment → renders item fragment :=
      fun item member => below ancestors item (List.mem_of_mem_take member)
    have made := publishItems_parts each after
    dsimp only at published
    split at published
    · exact ⟨_, made, .inr ⟨_, (Option.some.inj published).symm⟩⟩
    · exact ⟨_, made, .inl (Option.some.inj published).symm⟩

def AllShown (objects : Objects Object F) (visible : Text → Text → Prop) (levels : Nat) (key : Text)
    (value : Object) : Prop :=
  ∀ key' value' text, Within objects levels key value key' value' →
    objects.view value' = .str text → visible key' text

theorem previewNode_renders {levels : Nat} {deeper : Option (Traversal Object F)}
    {renders : Option (Text → Object → Json F → Prop)}
    (below : List.Forall₂ (fun traversal renders => ∀ ancestors key value budget fragment,
      AllShown objects visible levels key value →
        (traversal ancestors key value budget).1 = some fragment → renders key value fragment)
      deeper.toList renders.toList)
    (ancestors : List Object) (key : Text) (value : Object) (budget : PayloadBudget)
    (fragment : Json F) (shown : AllShown objects visible (levels + 1) key value)
    (published : (previewNode objects runtime surface deeper ancestors key value budget).1 =
      some fragment) :
    RendersNode objects runtime surface visible renders key value fragment := by
  unfold previewNode at published
  unfold RendersNode
  dsimp only at published ⊢
  split at published
  next replacement masked => exact .inl (by rw [masked, chargeFragment_is published])
  · refine .inr ?_
    split at published
    · exact .inl (chargeFragment_is published).symm
    · refine .inr ?_
      have member : ∀ traversal ancestors, deeper = some traversal →
          ∃ further, renders = some further ∧
            Publishes (traversal ancestors) further (members key (objects.view value)) := by
        rintro traversal ancestors rfl
        cases renders with
        | none => cases below
        | some further =>
          refine ⟨further, rfl, ?_⟩
          intro entry inside budget fragment published
          cases below with
          | cons each _ =>
            refine each ancestors entry.1 entry.2 budget fragment ?_ published
            exact fun key' value' text within isText =>
              shown key' value' text (Within.there inside within) isText
      cases view : objects.view value with
      | null => rw [view] at published; exact (chargeFragment_is published).symm
      | bool flag => rw [view] at published; exact (chargeFragment_is published).symm
      | int number => rw [view] at published; exact (chargeFragment_is published).symm
      | float number => rw [view] at published; exact (chargeFragment_is published).symm
      | str text =>
        rw [view] at published
        exact ⟨shown key value text (Within.here levels key value) view,
          (chargeFragment_is published).symm⟩
      | dict entries =>
        rw [view] at published
        cases deeper with
        | none =>
          cases renders with
          | some _ => cases below
          | none => exact (chargeFragment_is published).symm
        | some traversal =>
          obtain ⟨further, rfl, _⟩ := member traversal [] rfl
          dsimp only at published ⊢
          split at published
          · exact .inl (chargeFragment_is published).symm
          · refine .inr (previewEntries_renders runtime surface ?_ _ budget fragment published)
            intro ancestors
            obtain ⟨_, same, each⟩ := member traversal ancestors rfl
            cases same
            rw [view] at each
            exact each
      | list items =>
        rw [view] at published
        cases deeper with
        | none =>
          cases renders with
          | some _ => cases below
          | none => exact (chargeFragment_is published).symm
        | some traversal =>
          obtain ⟨further, rfl, _⟩ := member traversal [] rfl
          dsimp only at published ⊢
          split at published
          · exact .inl (chargeFragment_is published).symm
          · refine .inr (previewItems_renders runtime ?_ _ budget fragment published)
            intro ancestors item inside
            obtain ⟨_, same, each⟩ := member traversal ancestors rfl
            cases same
            rw [view] at each
            exact each (key, item) (List.mem_map.mpr ⟨item, inside, rfl⟩)

theorem previewValue_renders (levels : Nat) (ancestors : List Object) (key : Text)
    (value : Object) (budget : PayloadBudget) (fragment : Json F)
    (shown : AllShown objects visible (levels + 1) key value)
    (published : (previewValue objects runtime surface levels ancestors key value budget).1 =
      some fragment) :
    Renders objects runtime surface visible levels key value fragment := by
  induction levels generalizing ancestors key value budget fragment with
  | zero =>
    exact previewNode_renders runtime surface List.Forall₂.nil ancestors key value budget fragment
      shown published
  | succ levels ih =>
    exact previewNode_renders runtime surface (List.Forall₂.cons ih List.Forall₂.nil) ancestors key
      value budget fragment shown published

theorem publicMapping_renders (byteBudget : Nat) (values : Sized (Text × Object))
    (budget : PayloadBudget)
    (shown : ∀ entry ∈ values.list, AllShown objects visible walkLevels entry.1 entry.2) :
    RendersMapping objects runtime surface visible values
      (publicMapping runtime.spellFloat threshold byteBudget (previewMember objects runtime surface)
        values budget).1 := by
  have each : Publishes (previewMember objects runtime surface)
      (Renders objects runtime surface visible previewMaxDepth) values.list := by
    intro entry member budget fragment published
    exact previewValue_renders runtime surface previewMaxDepth [] entry.1 entry.2 budget fragment
      (shown entry member) published
  have made := publishEntries_renders threshold byteBudget each ((budget.charge 2).getD budget)
  unfold publicMapping
  dsimp only
  generalize publishEntries threshold byteBudget (previewMember objects runtime surface) values.list
    [] [] ((budget.charge 2).getD budget) = result at made ⊢
  obtain ⟨made', stopped, last⟩ := result
  obtain ⟨parts, rendered, rfl⟩ := made
  dsimp only
  split
  · exact ⟨parts, rendered, .inr ⟨_, _, rfl⟩⟩
  · exact ⟨parts, rendered, .inl rfl⟩

end Preview

section FirstVisits

structure Visit (Object : Type) where
  object : Object
  key : Text
  levels : Nat
deriving DecidableEq

variable (objects : Objects Object F)

def visits : Nat → Text → Object → List (Visit Object)
  | 0, _, _ => []
  | levels + 1, key, value =>
    if (objects.view value).isContainer then
      ⟨value, key, levels + 1⟩ ::
        (members key (objects.view value)).flatMap fun member => visits levels member.1 member.2
    else []

def firstOf (expand : Text → Object → Seen Object → List (Visit Object) × Seen Object) :
    List (Text × Object) → Seen Object → List (Visit Object) × Seen Object
  | [], seen => ([], seen)
  | (key, value) :: rest, seen =>
    let here := expand key value seen
    let later := firstOf expand rest here.2
    (here.1 ++ later.1, later.2)

-- Depth first, each container where it is first met under a key, with the levels left there.
def expand : Nat → Text → Object → Seen Object → List (Visit Object) × Seen Object
  | 0, _, _, seen => ([], seen)
  | levels + 1, key, value, seen =>
    if (objects.view value).isContainer then
      if seen.contains (value, key) then ([], seen)
      else
        let below := firstOf (expand levels) (members key (objects.view value))
          ((value, key) :: seen)
        (⟨value, key, levels + 1⟩ :: below.1, below.2)
    else ([], seen)

def firstVisits (values : Sized (Text × Object)) : List (Visit Object) :=
  (firstOf (expand objects walkLevels) values.list []).1

variable (runtime : Runtime Object F) (policy : PermissionPolicy)

def Touched (entries : List (Text × Object)) : Prop :=
  ∃ entry ∈ entries, isRedactedPath runtime policy entry.1 (objects.view entry.2) = true

def TouchedBy (visits : List (Visit Object)) : Prop :=
  ∃ visit ∈ visits, 2 ≤ visit.levels ∧
    Touched objects runtime policy (members visit.key (objects.view visit.object))

-- A redacted path among the arguments, or among the members of a container where it is first met,
-- within the depth limit.
def FirstTouched (values : Sized (Text × Object)) : Prop :=
  Touched objects runtime policy values.list ∨
    TouchedBy objects runtime policy (firstVisits objects values)

def PathInReach (values : Sized (Text × Object)) : Prop :=
  ∃ entry ∈ values.list, ∃ key value, Within objects walkLevels entry.1 entry.2 key value ∧
    isRedactedPath runtime policy key (objects.view value) = true

variable {objects}

omit [DecidableEq Object] in
theorem isRedactedPath_container {key : Text} {view : View Object F}
    (container : view.isContainer = true) : isRedactedPath runtime policy key view = false := by
  cases view with
  | dict entries => rfl
  | list items => rfl
  | _ => cases container

omit [DecidableEq Object] in
theorem touchedBy_append (first second : List (Visit Object)) :
    TouchedBy objects runtime policy (first ++ second) ↔
      TouchedBy objects runtime policy first ∨ TouchedBy objects runtime policy second := by
  simp only [TouchedBy, List.mem_append, or_and_right, exists_or]

omit [DecidableEq Object] in
theorem touched_cons (entry : Text × Object) (rest : List (Text × Object)) :
    Touched objects runtime policy (entry :: rest) ↔
      Touched objects runtime policy [entry] ∨ Touched objects runtime policy rest := by
  simp [Touched]

-- A walk finds a redacted path exactly at a first meeting, and else it has made the same visits.
structure Agrees (objects : Objects Object F) (runtime : Runtime Object F)
    (policy : PermissionPolicy) (levels : Nat) (entries : List (Text × Object))
    (walked : Bool × Seen Object) (expanded : List (Visit Object) × Seen Object) : Prop where
  finds : walked.1 = true ↔ 0 < levels ∧ Touched objects runtime policy entries ∨
    TouchedBy objects runtime policy expanded.1
  seen : walked.1 = false → walked.2 = expanded.2

omit [DecidableEq Object] in
theorem walkAny_agrees {levels : Nat} {visit : Text → Object → Seen Object → Bool × Seen Object}
    {expands : Text → Object → Seen Object → List (Visit Object) × Seen Object}
    (one : ∀ key value seen, Agrees objects runtime policy levels [(key, value)]
      (visit key value seen) (expands key value seen))
    (entries : List (Text × Object)) (seen : Seen Object) :
    Agrees objects runtime policy levels entries (walkAny visit entries seen)
      (firstOf expands entries seen) := by
  induction entries generalizing seen with
  | nil => exact ⟨by simp [walkAny, firstOf, Touched, TouchedBy], fun _ => rfl⟩
  | cons entry rest ih =>
    obtain ⟨key, value⟩ := entry
    obtain ⟨finds, same⟩ := one key value seen
    unfold walkAny firstOf
    dsimp only
    cases walked : visit key value seen with
    | mk found seen' =>
      rw [walked] at finds same
      cases found with
      | true =>
        refine ⟨?_, fun missed => by cases missed⟩
        rw [touched_cons, touchedBy_append]
        have here := finds.mp rfl
        dsimp only
        tauto
      | false =>
        have nothing : ¬ (0 < levels ∧ Touched objects runtime policy [(key, value)] ∨
            TouchedBy objects runtime policy (expands key value seen).1) :=
          fun touched => by cases finds.mpr touched
        have later := ih seen'
        rw [← same rfl]
        refine ⟨?_, later.seen⟩
        dsimp only
        rw [touched_cons, touchedBy_append, later.finds]
        tauto

theorem walk_agrees (levels : Nat) (key : Text) (value : Object) (seen : Seen Object) :
    Agrees objects runtime policy levels [(key, value)]
      (walk objects runtime policy levels key value seen)
      (expand objects levels key value seen) := by
  induction levels generalizing key value seen with
  | zero => exact ⟨by simp [walk, expand, TouchedBy], fun _ => rfl⟩
  | succ levels ih =>
    unfold walk expand
    simp only [List.contains_iff_mem]
    split
    next container =>
      have clean : ¬ Touched objects runtime policy [(key, value)] := by
        simp [Touched, isRedactedPath_container runtime policy container]
      split
      · exact ⟨by simp [clean, TouchedBy], fun _ => rfl⟩
      · have below := walkAny_agrees runtime policy ih (members key (objects.view value))
          ((value, key) :: seen)
        refine ⟨?_, below.seen⟩
        rw [below.finds]
        simp only [clean, and_false, false_or, TouchedBy, List.exists_mem_cons_iff]
        have some : 0 < levels ↔ 2 ≤ levels + 1 := by omega
        rw [some]
    next leaf =>
      refine ⟨?_, fun _ => rfl⟩
      simp [Touched, TouchedBy]

theorem touches_iff (values : Sized (Text × Object)) :
    touchesRedactedPath objects runtime values policy = true ↔
      FirstTouched objects runtime policy values := by
  have whole : Agrees objects runtime policy walkLevels values.list
      (walkAny (walk objects runtime policy walkLevels) values.list [])
      (firstOf (expand objects walkLevels) values.list []) :=
    walkAny_agrees runtime policy (walk_agrees runtime policy walkLevels) values.list []
  have some : 0 < walkLevels := by decide
  have finds := whole.finds
  simp only [some, true_and] at finds
  exact finds

omit [DecidableEq Object] in
theorem Within.touched {levels : Nat} {key key' : Text} {value value' : Object}
    (within : Within objects levels key value key' value')
    (path : isRedactedPath runtime policy key' (objects.view value') = true) :
    isRedactedPath runtime policy key (objects.view value) = true ∨
      TouchedBy objects runtime policy (visits objects levels key value) := by
  induction within with
  | here => exact .inl path
  | @there levels key key' _ value value' _ member further ih =>
    have some := further.some_level
    refine .inr ?_
    unfold visits
    rw [if_pos (members_container member)]
    cases ih path with
    | inl here =>
      exact ⟨_, List.mem_cons_self, by dsimp only; omega, (key', value'), member, here⟩
    | inr below =>
      obtain ⟨visit, inside, deep, touched⟩ := below
      exact ⟨visit, List.mem_cons_of_mem _ (List.mem_flatMap.mpr ⟨_, member, inside⟩), deep,
        touched⟩

-- So it is where no container comes back under its key higher up, as without sharing.
theorem first_touched (values : Sized (Text × Object))
    (highest : ∀ visit ∈ values.list.flatMap fun entry =>
        visits objects walkLevels entry.1 entry.2,
      ∃ first ∈ firstVisits objects values, first.object = visit.object ∧ first.key = visit.key ∧
        visit.levels ≤ first.levels)
    (reached : PathInReach objects runtime policy values) :
    FirstTouched objects runtime policy values := by
  obtain ⟨entry, member, key, value, within, path⟩ := reached
  cases within.touched runtime policy path with
  | inl here => exact .inl ⟨entry, member, here⟩
  | inr below =>
    obtain ⟨visit, inside, deep, touched⟩ := below
    obtain ⟨first, met, sameObject, sameKey, higher⟩ :=
      highest visit (List.mem_flatMap.mpr ⟨entry, member, inside⟩)
    refine .inr ⟨first, met, Nat.le_trans deep higher, ?_⟩
    rw [sameObject, sameKey]
    exact touched

end FirstVisits

section Detection

variable (objects : Objects Object F) (runtime : Runtime Object F) (policy : PermissionPolicy)

def PlainText (key text : Text) : Prop :=
  isRedactedPath runtime policy key (.str text : View Object F) = false

-- On the approval surface, where nothing is detected, no redacted path is published as a text.
def DetectionCovers (values : Sized (Text × Object)) (proseKeys : List Text) : Prop :=
  touchesRedactedPath objects runtime values policy = false →
    RendersMapping objects runtime (approvalSurface runtime proseKeys policy true)
      (PlainText runtime policy) values
      (redactToolArguments objects runtime values proseKeys policy).1

end Detection

section Missed

def sharedObjects : Objects Nat Unit where
  view := fun object =>
    if object < 8 then .dict ⟨[(['b'], object + 1)], Nat.le_of_ble_eq_true rfl⟩
    else if object = 8 then .dict ⟨[("path".toList, 9)], Nat.le_of_ble_eq_true rfl⟩
    else .str ['s']

def plainRuntime (Object : Type) : Runtime Object Unit where
  lower := id
  str := fun _ => some []
  floatTruth := fun _ => false
  spellFloat := fun _ => ['0']
  urlparse := fun _ => none
  sha256Hex := id

def redactAll : PermissionPolicy := ⟨fun _ => some true⟩

def sharedArguments : Sized (Text × Nat) := ⟨[(['a'], 0), (['b'], 8)], Nat.le_of_ble_eq_true rfl⟩

def sharedRenders (levels : Nat) (key : Text) (value : Nat) (fragment : Json Unit) : Prop :=
  Renders sharedObjects (plainRuntime Nat)
    (approvalSurface (plainRuntime Nat) [] redactAll true)
    (PlainText (plainRuntime Nat) redactAll) levels key value fragment

theorem shared_dict {levels : Nat} {key : Text} {value : Nat} {entries : Sized (Text × Nat)}
    {fragment : Json Unit} (view : sharedObjects.view value = .dict entries)
    (plain : (approvalSurface (plainRuntime Nat) [] redactAll true).mask key (.dict entries) = none)
    (renders : sharedRenders (levels + 1) key value fragment) :
    fragment = redactedValue (sharedObjects.view value) ∨
      fragment = truncatedMarker (sharedObjects.view value) [("circular".toList, .bool true)] ∨
        RendersEntries (plainRuntime Nat) (sharedRenders levels)
          (entries.list.take previewMaxKeys) fragment := by
  have node : RendersNode sharedObjects (plainRuntime Nat)
      (approvalSurface (plainRuntime Nat) [] redactAll true)
      (PlainText (plainRuntime Nat) redactAll) (some (sharedRenders levels)) key value fragment :=
    renders
  exact node.of_dict view plain

theorem shared_text (levels : Nat) :
    ¬ sharedRenders levels "path".toList 9 (.str ['s']) ∧
      ¬ sharedRenders (levels + 1) ['b'] 1 (.str ['s']) := by
  constructor
  · intro renders
    have node : ∀ deeper, ¬ RendersNode sharedObjects (plainRuntime Nat)
        (approvalSurface (plainRuntime Nat) [] redactAll true)
        (PlainText (plainRuntime Nat) redactAll) deeper "path".toList 9 (.str ['s']) := by
      rintro deeper (masked | redacted | shown)
      · have plain : (approvalSurface (plainRuntime Nat) [] redactAll true).mask "path".toList
            (sharedObjects.view 9) = none := by decide
        rw [plain] at masked
        cases masked
      · cases redacted
      · have plain : PlainText (plainRuntime Nat) redactAll "path".toList ['s'] := shown.1
        have hidden : isRedactedPath (plainRuntime Nat) redactAll "path".toList
            (.str ['s'] : View Nat Unit) = true := by decide
        exact Bool.false_ne_true (plain.symm.trans hidden)
    cases levels with
    | zero => exact node none renders
    | succ levels => exact node (some (sharedRenders levels)) renders
  · intro renders
    obtain redacted | marker | entries := shared_dict rfl (by decide) renders
    · cases redacted
    · cases marker
    · obtain ⟨published, same⟩ := entries.isDict
      cases same

theorem shared_path (levels : Nat) (entry : Text × Nat) (member : entry ∈ sharedArguments.list) :
    ¬ sharedRenders (levels + 2) entry.1 entry.2 (.dict [("path".toList, .str ['s'])]) := by
  intro renders
  have inside : ("path".toList, Json.str ['s']) ∈
      [("path".toList, (Json.str ['s'] : Json Unit))] := List.mem_singleton_self _
  simp only [sharedArguments, List.mem_cons, List.not_mem_nil, or_false] at member
  obtain rfl | rfl := member
  · obtain redacted | marker | entries := shared_dict rfl (by decide) renders
    · cases redacted
    · cases marker
    · obtain ⟨dropped, number⟩ | ⟨source, among, text⟩ := entries.member inside
      · cases number
      · cases among with
        | head => exact (shared_text levels).2 text
        | tail _ none => cases none
  · obtain redacted | marker | entries := shared_dict rfl (by decide) renders
    · cases redacted
    · cases marker
    · obtain ⟨dropped, number⟩ | ⟨source, among, text⟩ := entries.member inside
      · cases number
      · cases among with
        | head => exact (shared_text (levels + 1)).1 text
        | tail _ none => cases none

def reorderedArguments : Sized (Text × Nat) :=
  ⟨[(['b'], 8), (['a'], 0)], Nat.le_of_ble_eq_true rfl⟩

def redactX : PermissionPolicy := ⟨fun path => some (path = ['x'])⟩

end Missed

end MonoidKernel.PublicView
