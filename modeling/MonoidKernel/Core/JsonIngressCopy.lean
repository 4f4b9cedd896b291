import Mathlib.Algebra.BigOperators.Group.Finset.Basic
import MonoidKernel.Core.JsonIngress

set_option autoImplicit false

namespace MonoidKernel.JsonIngress

open Library (WorkLoop.run WorkLoop.Ends)
open MonoidKernel.ModelContent (PyText normalizeUnicodeScalars pyText)

def refusing : Flags := ⟨true, true, true⟩

section Clean

variable {Ref : Type}

def Scalar.Portable (digits : Nat) : Scalar → Prop
  | .int value => -unconditionallySpellableInt < value ∧ value < unconditionallySpellableInt ∨
      -(10 ^ digits) < value ∧ value < 10 ^ digits
  | .float word => isFinite word = true
  | .other _ => False
  | _ => True

def normalizedKey : Key → PyText
  | .str text => normalizeText text
  | .other => []

structure Container.Clean (digits : Nat) (container : Container Ref) : Prop where
  scalars : ∀ value, .scalar value ∈ container.children → value.Portable digits
  strings : ∀ entries, container = .dict entries → ∀ entry ∈ entries, ∃ text, entry.1 = .str text
  apart : ∀ entries, container = .dict entries →
    (entries.map fun entry => normalizedKey entry.1).Nodup

structure Graph.Clean (digits : Nat) (graph : Graph Ref) : Prop where
  containers : ∀ ref, (graph.heap ref).Clean digits
  root : ∀ value, graph.root = .scalar value → value.Portable digits

def Scalar.normalized : Scalar → Scalar
  | .str text => .str (normalizeText text)
  | value => value

def Value.copied : Value Ref → Value Ref
  | .scalar value => .scalar value.normalized
  | .ref container => .ref container

def copiedEntry (entry : Key × Value Ref) : Key × Value Ref :=
  (.str (normalizedKey entry.1), entry.2.copied)

def Container.copied : Container Ref → Container Ref
  | .dict entries => .dict (entries.map copiedEntry)
  | .list items => .list (items.map Value.copied)
  | .tuple items => .list (items.map Value.copied)

def Container.filled (count : Nat) : Container Ref → Container Ref
  | .dict entries => .dict ((entries.take count).map copiedEntry)
  | .list items => .list ((items.take count).map Value.copied ++
      List.replicate (items.length - count) (.scalar .none))
  | .tuple items => .list ((items.take count).map Value.copied ++
      List.replicate (items.length - count) (.scalar .none))

def Container.slots (ref : Ref) : Container Ref → List (Pending Ref)
  | .dict entries => entrySlots ref (entries.map fun entry => (normalizedKey entry.1, entry.2))
  | .list items => itemSlots ref 0 items
  | .tuple items => itemSlots ref 0 items

theorem normalizeScalar_portable {digits : Nat} {value : Scalar}
    (portable : value.Portable digits) :
    normalizeScalar refusing digits value = .ok value.normalized := by
  cases value with
  | none => rfl
  | bool value => rfl
  | str text => rfl
  | other name => exact False.elim portable
  | float word =>
    have finite : isFinite word = true := portable
    simp [normalizeScalar, refusing, refuseUnportableScalar, finite, Scalar.normalized, bind,
      Except.bind]
  | int value =>
    have spelled : refuseUnportableScalar digits (.int value) = .ok () := by
      simp only [refuseUnportableScalar]
      by_cases small : -unconditionallySpellableInt < value ∧ value < unconditionallySpellableInt
      · rw [if_pos small]
      · rw [if_neg small, if_pos (portable.resolve_left small)]
    simp [normalizeScalar, refusing, spelled, Scalar.normalized, bind, Except.bind]

theorem prepare_clean [DecidableEq Ref] {entries : List (Key × Value Ref)} (seen : List PyText)
    (strings : ∀ entry ∈ entries, ∃ text, entry.1 = .str text)
    (apart : (seen ++ entries.map fun entry => normalizedKey entry.1).Nodup) :
    prepare seen entries = .ok (entries.map fun entry => (normalizedKey entry.1, entry.2)) := by
  induction entries generalizing seen with
  | nil => rfl
  | cons entry rest ih =>
    obtain ⟨key, child⟩ := entry
    rw [List.forall_mem_cons] at strings
    obtain ⟨text, rfl⟩ : ∃ text, key = .str text := strings.1
    have fresh : normalizeText text ∉ seen := by
      intro member
      exact (List.nodup_append.mp apart).2.2 _ member _ (List.mem_cons_self) rfl
    have later :
        (normalizeText text :: seen ++ rest.map fun entry => normalizedKey entry.1).Nodup :=
      (List.perm_middle.nodup_iff.mp apart)
    rw [prepare, if_neg fresh, ih _ strings.2 later]
    rfl

theorem Container.children_slots (ref : Ref) (container : Container Ref) :
    (container.slots ref).map (·.source) = container.children ∧
      ∀ slot ∈ container.slots ref, slot.destination = some ref := by
  have items (place : Nat) (some : List (Value Ref)) :
      (itemSlots ref place some).map (·.source) = some ∧
        ∀ slot ∈ itemSlots ref place some, slot.destination = Option.some ref := by
    induction some generalizing place with
    | nil => exact ⟨rfl, by simp [itemSlots]⟩
    | cons item rest ih =>
      rw [itemSlots, List.map_cons, List.forall_mem_cons, (ih _).1]
      exact ⟨rfl, rfl, (ih _).2⟩
  cases container with
  | dict entries =>
    constructor
    · simp [Container.slots, entrySlots, Container.children]
    · intro slot member
      simp only [Container.slots, entrySlots, List.mem_map] at member
      obtain ⟨_, _, rfl⟩ := member
      rfl
  | list some => exact items 0 some
  | tuple some => exact items 0 some

theorem Container.filled_all (container : Container Ref) :
    container.filled container.children.length = container.copied := by
  cases container with
  | dict entries => simp [Container.filled, Container.copied, Container.children]
  | list items => simp [Container.filled, Container.copied, Container.children]
  | tuple items => simp [Container.filled, Container.copied, Container.children]

theorem itemSlots_get (ref : Ref) (some : List (Value Ref)) (place count : Nat) {slot : Pending Ref}
    (found : (itemSlots ref place some)[count]? = Option.some slot) :
    slot.slot = .index (place + count) := by
  induction some generalizing place count with
  | nil => simp [itemSlots] at found
  | cons item rest ih =>
    cases count with
    | zero =>
      simp only [itemSlots, List.getElem?_cons_zero, Option.some.injEq] at found
      rw [← found]
      rfl
    | succ count =>
      rw [itemSlots, List.getElem?_cons_succ] at found
      rw [ih _ _ found]
      congr 1
      omega

theorem set_next {item : Value Ref} {some : List (Value Ref)} {count : Nat}
    (found : some[count]? = Option.some item) :
    ((some.take count).map Value.copied ++
        List.replicate (some.length - count) (Value.scalar Scalar.none)).set count item.copied =
      (some.take (count + 1)).map Value.copied ++
        List.replicate (some.length - (count + 1)) (Value.scalar Scalar.none) := by
  obtain ⟨inside, rfl⟩ := List.getElem?_eq_some_iff.mp found
  have size : ((some.take count).map Value.copied).length = count := by
    rw [List.length_map, List.length_take, Nat.min_eq_left inside.le]
  have left : some.length - count = some.length - (count + 1) + 1 := by omega
  rw [List.set_append_right _ _ size.le, size, Nat.sub_self, left, List.replicate_succ,
    List.set_cons_zero, List.take_add_one, found, Option.toList_some, List.map_append,
    List.append_assoc]
  rfl

theorem Container.assign_next [DecidableEq Ref] {digits : Nat} {container : Container Ref}
    (clean : container.Clean digits) (ref : Ref) {count : Nat} {slot : Pending Ref}
    (found : (container.slots ref)[count]? = some slot) :
    (container.filled count).assign slot.source.copied slot.slot =
      container.filled (count + 1) := by
  have source : container.children[count]? = some slot.source := by
    rw [← (container.children_slots ref).1, List.getElem?_map, found]
    rfl
  cases container with
  | dict entries =>
    have apart := clean.apart entries rfl
    simp only [Container.slots, entrySlots, List.map_map, List.getElem?_map] at found
    obtain ⟨entry, held, rfl⟩ := Option.map_eq_some_iff.mp found
    obtain ⟨inside, rfl⟩ := List.getElem?_eq_some_iff.mp held
    have absent : Key.str (normalizedKey entries[count].1) ∉
        ((entries.take count).map copiedEntry).map Prod.fst := by
      intro member
      rw [List.map_map, List.mem_map] at member
      obtain ⟨other, early, same⟩ := member
      have same : normalizedKey other.1 = normalizedKey entries[count].1 := Key.str.inj same
      obtain ⟨place, before, rfl⟩ := List.mem_take_iff_getElem.mp early
      have short : place < count := by omega
      have differs := List.nodup_iff_injective_get.mp apart
      have placed := @differs ⟨place, by simp; omega⟩ ⟨count, by simpa using inside⟩
        (by simpa using same)
      exact absurd (congrArg Fin.val placed) short.ne
    change Container.dict (Library.OrderedDict.put _ _ _) = Container.dict _
    rw [Library.OrderedDict.put_absent absent, List.take_add_one, held, List.map_append]
    rfl
  | list some =>
    have place := itemSlots_get ref some 0 count found
    rw [Nat.zero_add] at place
    rw [place]
    exact congrArg Container.list (set_next source)
  | tuple some =>
    have place := itemSlots_get ref some 0 count found
    rw [Nat.zero_add] at place
    rw [place]
    exact congrArg Container.list (set_next source)

end Clean

section Copying

variable {Ref : Type} [DecidableEq Ref] {digits : Nat} {graph : Graph Ref}

def Copying.due (copying : Copying Ref) (destination : Option Ref) : List (Pending Ref) :=
  copying.pending.filter (·.destination = destination)

structure Copying.Inv (graph : Graph Ref) (copying : Copying Ref) : Prop where
  entered : ∀ ref ∈ copying.memo, ∃ count,
    copying.copies ref = (graph.heap ref).filled count ∧
    copying.due (some ref) = ((graph.heap ref).slots ref).drop count ∧
    count ≤ (graph.heap ref).children.length ∧
    ∀ child, .ref child ∈ (graph.heap ref).children.take count → child ∈ copying.memo
  outside : ∀ ref, ref ∉ copying.memo →
    copying.due (some ref) = [] ∧ copying.copies ref = .list []
  root : copying.due none = [⟨graph.root, none, .index 0⟩] ∨
    copying.due none = [] ∧ copying.root = graph.root.copied ∧
      ∀ child, graph.root = .ref child → child ∈ copying.memo

theorem inv_start (graph : Graph Ref) : (startCopying graph.root).Inv graph where
  entered := by
    intro ref member
    exact absurd member (Finset.notMem_empty ref)
  outside := by
    intro ref _
    exact ⟨rfl, rfl⟩
  root := Or.inl rfl

omit [DecidableEq Ref] in
theorem filled_zero (container : Container Ref) : container.filled 0 =
    match container with
    | .dict _ => .dict []
    | .list items | .tuple items => .list (List.replicate items.length (.scalar .none)) := by
  cases container <;> simp [Container.filled]

variable {copying : Copying Ref} {rest : List (Pending Ref)}

variable {head : Pending Ref}

theorem Copying.Inv.enter (inv : copying.Inv graph) {ref : Ref} (fresh : ref ∉ copying.memo)
    (pending : copying.pending = head :: rest) :
    Copying.Inv graph
      { copying with
        memo := insert ref copying.memo
        copies := Function.update copying.copies ref ((graph.heap ref).filled 0)
        pending := head :: ((graph.heap ref).slots ref ++ rest) } := by
  have own := (graph.heap ref).children_slots ref
  have kept : ∀ destination, destination ≠ some ref →
      (head :: ((graph.heap ref).slots ref ++ rest)).filter (·.destination = destination) =
        copying.due destination := by
    intro destination other
    unfold Copying.due
    rw [pending, List.filter_cons, List.filter_cons, List.filter_append]
    have none : ((graph.heap ref).slots ref).filter (·.destination = destination) = [] := by
      rw [List.filter_eq_nil_iff]
      intro slot member
      rw [own.2 slot member]
      simpa using other.symm
    rw [none, List.nil_append]
  have nothing := (inv.outside ref fresh).1
  unfold Copying.due at nothing
  rw [pending, List.filter_eq_nil_iff] at nothing
  have due : (head :: ((graph.heap ref).slots ref ++ rest)).filter (·.destination = some ref) =
      (graph.heap ref).slots ref := by
    have before := nothing head List.mem_cons_self
    have behind : rest.filter (·.destination = some ref) = [] := by
      rw [List.filter_eq_nil_iff]
      exact fun slot member => nothing slot (List.mem_cons_of_mem _ member)
    rw [List.filter_cons, if_neg before, List.filter_append, behind, List.append_nil,
      List.filter_eq_self]
    intro slot member
    simpa using own.2 slot member
  constructor
  · intro other member
    by_cases same : other = ref
    · subst same
      refine ⟨0, Function.update_self .., ?_, Nat.zero_le _, by simp⟩
      exact due.trans (List.drop_zero).symm
    · obtain ⟨count, copies, slots, inside, children⟩ :=
        inv.entered other ((Finset.mem_insert.mp member).resolve_left same)
      refine ⟨count, ?_, ?_, inside, fun child held => ?_⟩
      · exact (Function.update_of_ne same ..).trans copies
      · exact (kept _ (by simpa using same)).trans slots
      · exact Finset.mem_insert_of_mem (children child held)
  · intro other absent
    rw [Finset.mem_insert, not_or] at absent
    obtain ⟨due, empty⟩ := inv.outside other absent.2
    exact ⟨(kept _ (by simpa using absent.1)).trans due,
      (Function.update_of_ne absent.1 ..).trans empty⟩
  · have same := kept none (by simp)
    rcases inv.root with first | ⟨done, root, inside⟩
    · exact Or.inl (same.trans first)
    · refine Or.inr ⟨same.trans done, root, fun child held => ?_⟩
      exact Finset.mem_insert_of_mem (inside child held)

theorem Copying.Inv.assign (clean : graph.Clean digits) (inv : copying.Inv graph)
    (pending : copying.pending = head :: rest)
    (inside : ∀ child, head.source = .ref child → child ∈ copying.memo) :
    (({ copying with pending := rest } : Copying Ref).assign head.destination head.slot
      head.source.copied).Inv graph := by
  obtain ⟨source, destination, slot⟩ := head
  have kept (other : Option Ref) (apart : destination ≠ other) :
      rest.filter (·.destination = other) = copying.due other := by
    unfold Copying.due
    rw [pending, List.filter_cons, if_neg (by simpa using apart)]
  have taken : copying.due destination =
      ⟨source, destination, slot⟩ :: rest.filter (·.destination = destination) := by
    unfold Copying.due
    rw [pending, List.filter_cons, if_pos (by simp)]
  cases destination with
  | none =>
    -- The root cell is filled once, by the value that the call was given.
    have first := inv.root.resolve_right fun done => by
      rw [taken] at done
      exact nomatch done.1
    rw [taken, List.cons.injEq] at first
    obtain ⟨same, others⟩ := first
    cases same
    constructor
    · intro ref member
      obtain ⟨count, copies, slots, bound, children⟩ := inv.entered ref member
      exact ⟨count, copies, (kept _ (by simp)).trans slots, bound, children⟩
    · exact fun ref absent => (inv.outside ref absent).imp (kept _ (by simp)).trans id
    · exact Or.inr ⟨others, rfl, inside⟩
  | some ref =>
    have member : ref ∈ copying.memo := by
      by_contra absent
      have nothing := (inv.outside ref absent).1
      rw [taken] at nothing
      cases nothing
    obtain ⟨count, copies, slots, bound, children⟩ := inv.entered ref member
    rw [taken] at slots
    have here : ((graph.heap ref).slots ref)[count]? = some ⟨source, some ref, slot⟩ := by
      rw [← List.head?_drop, ← slots]
      rfl
    have behind : rest.filter (·.destination = some ref) =
        ((graph.heap ref).slots ref).drop (count + 1) := by
      rw [← List.tail_drop, ← slots]
      rfl
    have held : (graph.heap ref).children[count]? = some source := by
      rw [← ((graph.heap ref).children_slots ref).1, List.getElem?_map, here]
      rfl
    have filled := Container.assign_next (clean.containers ref) ref here
    constructor
    · intro other among
      by_cases same : other = ref
      · subst same
        refine ⟨count + 1, ?_, behind, (List.getElem?_eq_some_iff.mp held).1, fun child found => ?_⟩
        · refine (Function.update_self ..).trans ?_
          rw [← filled, ← copies]
        · rw [List.take_add_one, held, List.mem_append] at found
          rcases found with early | last
          · exact children child early
          · exact inside child (by simpa [eq_comm] using last)
      · obtain ⟨before, otherCopies, otherSlots, otherBound, otherChildren⟩ :=
          inv.entered other among
        refine ⟨before, (Function.update_of_ne same ..).trans otherCopies, ?_, otherBound,
          otherChildren⟩
        exact (kept _ (by simpa using Ne.symm same)).trans otherSlots
    · intro other absent
      have apart : other ≠ ref := fun same => absent (same ▸ member)
      obtain ⟨due, empty⟩ := inv.outside other absent
      exact ⟨(kept _ (by simpa using apart.symm)).trans due,
        (Function.update_of_ne apart ..).trans empty⟩
    · have same : rest.filter (·.destination = none) = copying.due none := kept _ (by simp)
      exact inv.root.imp same.trans fun done => ⟨same.trans done.1, done.2⟩

theorem Copying.Inv.source (inv : copying.Inv graph) (pending : copying.pending = head :: rest) :
    head.source = graph.root ∨ ∃ ref ∈ copying.memo, head.source ∈ (graph.heap ref).children := by
  obtain ⟨source, destination, slot⟩ := head
  have due : ⟨source, destination, slot⟩ ∈ copying.due destination := by
    unfold Copying.due
    rw [pending]
    simp
  cases destination with
  | none =>
    rcases inv.root with first | done
    · rw [first, List.mem_singleton] at due
      exact Or.inl (congrArg Pending.source due)
    · rw [done.1] at due
      cases due
  | some ref =>
    have member : ref ∈ copying.memo := by
      by_contra absent
      rw [(inv.outside ref absent).1] at due
      cases due
    obtain ⟨count, _, slots, _, _⟩ := inv.entered ref member
    rw [slots] at due
    refine Or.inr ⟨ref, member, ?_⟩
    rw [← ((graph.heap ref).children_slots ref).1]
    exact List.mem_map_of_mem (List.mem_of_mem_drop due)

theorem copyStep_enter (clean : graph.Clean digits) {ref : Ref} {destination : Option Ref}
    {slot : Slot} (pending : copying.pending = ⟨.ref ref, destination, slot⟩ :: rest)
    (fresh : ref ∉ copying.memo) :
    copyStep refusing digits graph.heap copying =
      .inr (({ copying with pending := rest } : Copying Ref).enter ref destination slot
        ((graph.heap ref).filled 0) ((graph.heap ref).slots ref)) := by
  have tidy := clean.containers ref
  rw [filled_zero]
  simp only [copyStep, pending, if_neg fresh]
  cases found : graph.heap ref with
  | dict entries =>
    rw [found] at tidy
    have prepared := prepare_clean [] (tidy.strings entries rfl) (tidy.apart entries rfl)
    simp only [prepared]
    rfl
  | list items => rfl
  | tuple items => rfl

variable [Fintype Ref]

def Copying.left (heap : Ref → Container Ref) (copying : Copying Ref) : Nat :=
  copying.pending.length + ∑ ref ∈ copying.memoᶜ, (heap ref).children.length

omit [Fintype Ref] in
@[simp]
theorem Copying.assign_memo (copying : Copying Ref) (destination : Option Ref) (slot : Slot)
    (value : Value Ref) : (copying.assign destination slot value).memo = copying.memo := by
  cases destination <;> rfl

omit [Fintype Ref] in
@[simp]
theorem Copying.assign_pending (copying : Copying Ref) (destination : Option Ref) (slot : Slot)
    (value : Value Ref) : (copying.assign destination slot value).pending = copying.pending := by
  cases destination <;> rfl

theorem left_enter {ref : Ref} (fresh : ref ∉ copying.memo)
    (pending : copying.pending = head :: rest) (destination : Option Ref) (slot : Slot)
    (copy : Container Ref) :
    (({ copying with pending := rest } : Copying Ref).enter ref destination slot copy
      ((graph.heap ref).slots ref)).left graph.heap < copying.left graph.heap := by
  have size : ((graph.heap ref).slots ref).length = (graph.heap ref).children.length := by
    rw [← ((graph.heap ref).children_slots ref).1, List.length_map]
  have work : ∑ other ∈ copying.memoᶜ, (graph.heap other).children.length =
      (graph.heap ref).children.length +
        ∑ other ∈ (insert ref copying.memo)ᶜ, (graph.heap other).children.length := by
    rw [Finset.compl_insert]
    exact (Finset.add_sum_erase _ _ (Finset.mem_compl.mpr fresh)).symm
  simp only [Copying.left, Copying.enter, Copying.assign_memo, Copying.assign_pending,
    List.length_append, size, work, pending, List.length_cons]
  omega

theorem Copying.Inv.step (clean : graph.Clean digits) (inv : copying.Inv graph) :
    copying.pending = [] ∧
        copyStep refusing digits graph.heap copying = .inl (.ok ⟨copying.copies, copying.root⟩) ∨
      ∃ next, copyStep refusing digits graph.heap copying = .inr next ∧ next.Inv graph ∧
        next.left graph.heap < copying.left graph.heap := by
  cases pending : copying.pending with
  | nil => exact Or.inl ⟨rfl, by simp only [copyStep, pending]⟩
  | cons head rest =>
    refine Or.inr ?_
    have origin := inv.source pending
    have less (value : Value Ref) :
        (({ copying with pending := rest } : Copying Ref).assign head.destination head.slot
          value).left graph.heap < copying.left graph.heap := by
      simp [Copying.left, pending]
    obtain ⟨source, destination, slot⟩ := head
    cases source with
    | scalar value =>
      have portable : value.Portable digits := by
        rcases origin with top | ⟨ref, _, child⟩
        · exact clean.root value top.symm
        · exact (clean.containers ref).scalars value child
      refine ⟨_, ?_, inv.assign clean pending (fun child held => nomatch held), less _⟩
      simp only [copyStep, pending, normalizeScalar_portable portable]
      rfl
    | ref container =>
      by_cases entered : container ∈ copying.memo
      · refine ⟨_, ?_, inv.assign clean pending (fun child held => ?_), less _⟩
        · simp only [copyStep, pending, if_pos entered]
          rfl
        · cases held
          exact entered
      · refine ⟨_, copyStep_enter clean pending entered, ?_, left_enter entered pending ..⟩
        have opened := inv.enter entered pending
        refine opened.assign clean rfl fun child held => ?_
        cases held
        exact Finset.mem_insert_self ..

structure Copied (graph copy : Graph Ref) (memo : Finset Ref) : Prop where
  containers : ∀ ref ∈ memo, copy.heap ref = (graph.heap ref).copied
  children : ∀ ref ∈ memo, ∀ child, .ref child ∈ (graph.heap ref).children → child ∈ memo
  outside : ∀ ref, ref ∉ memo → copy.heap ref = .list []
  root : copy.root = graph.root.copied
  top : ∀ child, graph.root = .ref child → child ∈ memo

omit [Fintype Ref] in
theorem Copying.Inv.copied (inv : copying.Inv graph) (finished : copying.pending = []) :
    Copied graph ⟨copying.copies, copying.root⟩ copying.memo := by
  have nothing (destination : Option Ref) : copying.due destination = [] := by
    unfold Copying.due
    rw [finished]
    rfl
  have full (ref : Ref) (member : ref ∈ copying.memo) :
      copying.copies ref = (graph.heap ref).copied ∧
        ∀ child, .ref child ∈ (graph.heap ref).children → child ∈ copying.memo := by
    obtain ⟨count, copies, slots, bound, children⟩ := inv.entered ref member
    rw [nothing, eq_comm, List.drop_eq_nil_iff] at slots
    rw [← List.length_map, ((graph.heap ref).children_slots ref).1] at slots
    obtain rfl := Nat.le_antisymm bound slots
    rw [Container.filled_all] at copies
    rw [List.take_length] at children
    exact ⟨copies, children⟩
  have root := inv.root.resolve_left fun first => by
    rw [nothing] at first
    cases first
  exact
    { containers := fun ref member => (full ref member).1
      children := fun ref member => (full ref member).2
      outside := fun ref absent => (inv.outside ref absent).2
      root := root.2.1
      top := root.2.2 }

theorem copying_ends (clean : graph.Clean digits) :
    ∃ copy memo, Copied graph copy memo ∧
      WorkLoop.Ends (copyStep refusing digits graph.heap) (startCopying graph.root) (.ok copy) := by
  have kept (copying next : Copying Ref) (inv : copying.Inv graph)
      (stepped : copyStep refusing digits graph.heap copying = .inr next) :
      next.Inv graph ∧ next.left graph.heap < copying.left graph.heap := by
    rcases inv.step clean with ⟨_, stops⟩ | ⟨other, goes, kept⟩
    · rw [stops] at stepped
      cases stepped
    · rw [goes] at stepped
      cases stepped
      exact kept
  obtain ⟨result, ends, last, inv, stepped⟩ :=
    Library.WorkLoop.ends (fun copying => copying.Inv graph) (Copying.left graph.heap) kept
      (inv_start graph)
  rcases inv.step clean with ⟨finished, stops⟩ | ⟨other, goes, _⟩
  · rw [stops] at stepped
    cases stepped
    exact ⟨_, _, inv.copied finished, ends⟩
  · rw [goes] at stepped
    cases stepped

end Copying

end MonoidKernel.JsonIngress
