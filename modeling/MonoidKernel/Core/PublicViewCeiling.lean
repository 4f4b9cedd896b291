import MonoidKernel.Core.PublicView

set_option autoImplicit false

namespace MonoidKernel.PublicView

open Library (Json)
open Library.JsonText

variable {Object F : Type} [DecidableEq Object] (spellFloat : F → Text)

section Budget

def levelRoom : Nat := 42

theorem charge_remaining {budget after : PayloadBudget} {cost : Nat}
    (accepted : budget.charge cost = some after) :
    after.remaining = budget.remaining - cost ∧ 0 ≤ after.remaining := by
  unfold PayloadBudget.charge at accepted
  split at accepted
  · cases accepted
  next enough =>
    cases accepted
    exact ⟨rfl, by dsimp only; omega⟩

theorem spendTerminal_remaining (budget : PayloadBudget) (cost : Nat) :
    (budget.spendTerminal cost).remaining = budget.remaining - cost := by
  unfold PayloadBudget.spendTerminal
  cases charged : budget.charge cost with
  | none => rfl
  | some after => exact (charge_remaining charged).1

-- The account of one fragment: a refusal costs nothing, and a fragment is paid for while money
-- remains, but for so many levels of markers.
def Paid (levels : Nat) (before : PayloadBudget) (fragment : Fragment F) : Prop :=
  match fragment with
  | (none, after) => after.remaining = before.remaining
  | (some json, after) =>
    0 ≤ before.remaining ∧ size spellFloat json ≤ before.remaining - after.remaining ∧
      -((levelRoom * levels : Nat) : Int) ≤ after.remaining

variable {spellFloat}

omit [DecidableEq Object] in
theorem chargeFragment_paid (levels : Nat) (budget : PayloadBudget) (json : Json F) :
    Paid spellFloat levels budget (chargeFragment spellFloat budget json) := by
  unfold chargeFragment
  cases charged : budget.charge (size spellFloat json) with
  | none => rfl
  | some after =>
    have spent := charge_remaining charged
    refine ⟨?_, ?_, ?_⟩ <;> omega

end Budget

section Mapping

variable (published : Published F)

omit [DecidableEq Object] in
theorem assign_size (name : Text) (json : Json F) :
    entriesSize spellFloat (published.assign name json) ≤
      entriesSize spellFloat published + entrySize spellFloat (name, json) := by
  induction published with
  | nil => simp [Published.assign, entriesSize]
  | cons entry rest ih =>
    unfold Published.assign
    split
    · simp only [entriesSize, List.map_cons, List.sum_cons]
      omega
    · simp only [entriesSize, List.map_cons, List.sum_cons] at ih ⊢
      omega

omit [DecidableEq Object] in
theorem assign_length (name : Text) (json : Json F) :
    (published.assign name json).length ≤ published.length + 1 := by
  induction published with
  | nil => exact Nat.le_refl 1
  | cons entry rest ih =>
    unfold Published.assign
    split
    · simp
    · rw [List.length_cons, List.length_cons]
      omega

structure EntriesPaid (levels : Nat) (entries : List (Text × Object)) (published : Published F)
    (before : PayloadBudget) (result : Published F × Bool × PayloadBudget) : Prop where
  sizes : (entriesSize spellFloat result.1 : Int) - entriesSize spellFloat published ≤
    before.remaining - result.2.2.remaining
  room : -((levelRoom * levels : Nat) : Int) ≤ before.remaining →
    -((levelRoom * levels : Nat) : Int) ≤ result.2.2.remaining
  length : result.1.length ≤ published.length + entries.length

variable {spellFloat}

omit [DecidableEq Object] in
theorem publishEntries_paid {levels threshold byteBudget : Nat}
    {child : Text → Object → PayloadBudget → Fragment F}
    (each : ∀ key value budget, Paid spellFloat levels budget (child key value budget))
    (entries : List (Text × Object)) (published : Published F) (collisions : Collisions)
    (budget : PayloadBudget) :
    EntriesPaid spellFloat levels entries published budget
      (publishEntries threshold byteBudget child entries published collisions budget) := by
  induction entries generalizing published collisions budget with
  | nil => exact ⟨by simp [publishEntries], id, Nat.le_refl _⟩
  | cons entry rest ih =>
    obtain ⟨key, value⟩ := entry
    unfold publishEntries
    generalize boundedKey key threshold byteBudget published collisions = bounded
    obtain ⟨name, collisions'⟩ := bounded
    dsimp only
    split
    · exact ⟨by simp, id, by simp⟩
    next charged accepted =>
      have spent := charge_remaining accepted
      have paid := each key value charged
      split
      next last refused =>
        rw [refused] at paid
        have same : last.remaining = charged.remaining := paid
        refine ⟨?_, ?_, ?_⟩
        · dsimp only; omega
        · dsimp only; omega
        · simp
      next json last kept =>
        rw [kept] at paid
        obtain ⟨_, cost, room⟩ := paid
        have others := ih (published.assign name json) collisions' last
        have grown := assign_size spellFloat published name json
        have longer := assign_length published name json
        have entry : entrySize spellFloat (name, json) = keySize name + 4 + size spellFloat json :=
          rfl
        refine ⟨?_, ?_, ?_⟩
        · have sizes := others.sizes
          omega
        · exact fun _ => others.room room
        · have length := others.length
          rw [List.length_cons]
          omega

omit [DecidableEq Object] in
theorem publishItems_paid {levels : Nat} {child : Object → PayloadBudget → Fragment F}
    (each : ∀ value budget, Paid spellFloat levels budget (child value budget))
    (items : List Object) (budget : PayloadBudget) :
    (itemsSize spellFloat (publishItems child items budget).1 : Int) ≤
        budget.remaining - (publishItems child items budget).2.remaining ∧
      (-((levelRoom * levels : Nat) : Int) ≤ budget.remaining →
        -((levelRoom * levels : Nat) : Int) ≤ (publishItems child items budget).2.remaining) := by
  induction items generalizing budget with
  | nil => exact ⟨by simp [publishItems, itemsSize], id⟩
  | cons item rest ih =>
    unfold publishItems
    split
    · exact ⟨by simp [itemsSize], id⟩
    next charged accepted =>
      have spent := charge_remaining accepted
      have paid := each item charged
      split
      next last refused =>
        rw [refused] at paid
        have same : last.remaining = charged.remaining := paid
        constructor
        · simp only [itemsSize, List.map_nil, List.sum_nil]; omega
        · dsimp only; omega
      next json last kept =>
        rw [kept] at paid
        obtain ⟨_, cost, room⟩ := paid
        have others := ih last
        constructor
        · have sizes := others.1
          simp only [itemsSize, List.map_cons, List.sum_cons, itemSize] at sizes ⊢
          omega
        · exact fun _ => others.2 room

variable (spellFloat)

theorem size_marker (key : Text) (n : Nat) (short : n ≤ sysMaxsize) :
    size spellFloat (.dict [(key, .int n)]) ≤ keySize key + 23 ∧
      entrySize spellFloat (key, .int n) = size spellFloat (.dict [(key, .int n)]) := by
  have digits : size spellFloat (.int (n : Int)) ≤ 19 := by
    apply size_int spellFloat (by omega)
    have bound : sysMaxsize < 10 ^ 19 := by decide
    omega
  have whole := size_dict spellFloat [(key, .int n)]
  rw [if_neg (by simp)] at whole
  have entries : entriesSize spellFloat [(key, .int n)] = entrySize spellFloat (key, .int n) := by
    simp [entriesSize]
  have entry : entrySize spellFloat (key, .int n) =
      keySize key + 4 + size spellFloat (.int (n : Int)) := rfl
  constructor
  · rw [whole, entries]
    omega
  · rw [whole, entries]
    rfl

theorem filter_size (keep : Text × Json F → Bool) :
    entriesSize spellFloat (published.filter keep) ≤ entriesSize spellFloat published := by
  induction published with
  | nil => exact Nat.le_refl 0
  | cons entry rest ih =>
    rw [List.filter_cons]
    split
    · simp only [entriesSize, List.map_cons, List.sum_cons] at ih ⊢
      omega
    · simp only [entriesSize, List.map_cons, List.sum_cons] at ih ⊢
      omega

theorem popped_size {entry : Text × Json F}
    (found : published.find? (fun entry => decide (entry.1 = truncatedKeys)) = some entry) :
    entriesSize spellFloat (published.filter fun entry => decide (entry.1 ≠ truncatedKeys)) +
        entrySize spellFloat entry ≤ entriesSize spellFloat published ∧
      entry.1 = truncatedKeys := by
  induction published with
  | nil => simp at found
  | cons first rest ih =>
    by_cases here : first.1 = truncatedKeys
    · rw [List.find?_cons_of_pos (by simpa using here)] at found
      cases found
      constructor
      · rw [List.filter_cons_of_neg (by simpa using here)]
        apply Nat.le_trans (Nat.add_le_add_right (filter_size spellFloat rest _) _)
        simp only [entriesSize, List.map_cons, List.sum_cons]
        omega
      · exact here
    · rw [List.find?_cons_of_neg (by simpa using here)] at found
      have others := ih found
      constructor
      · rw [List.filter_cons_of_pos (by simpa using here)]
        simp only [entriesSize, List.map_cons, List.sum_cons] at others ⊢
        omega
      · exact others.2

theorem probe_le (name : Text) (attempts suffix : Nat) :
    probe published name attempts suffix ≤ suffix + attempts := by
  induction attempts generalizing suffix with
  | zero => exact Nat.le_refl _
  | succ attempts ih =>
    unfold probe
    split
    · have further := ih (suffix + 1)
      omega
    · omega

theorem publishTruncatedKeys_paid (dropped : Nat) (budget : PayloadBudget)
    (short : dropped ≤ sysMaxsize) (digits : Nat) (some : 0 < digits)
    (few : published.length + 2 < 10 ^ digits) :
    (entriesSize spellFloat (publishTruncatedKeys spellFloat published dropped budget).1 : Int) -
          entriesSize spellFloat published ≤
        budget.remaining -
          (publishTruncatedKeys spellFloat published dropped budget).2.remaining ∧
      budget.remaining - (40 + digits : Nat) ≤
        (publishTruncatedKeys spellFloat published dropped budget).2.remaining := by
  have keys : keySize truncatedKeys = 16 := by decide
  have marker := size_marker spellFloat truncatedKeys dropped short
  unfold publishTruncatedKeys chargeTerminalMarker truncatedKeysMarker
  split
  next name collided found =>
    obtain ⟨popped, rfl⟩ := popped_size spellFloat published found
    dsimp only at popped ⊢
    generalize poppedIs : published.filter (fun entry => decide (entry.1 ≠ truncatedKeys)) = rest
      at popped ⊢
    have fewer : rest.length ≤ published.length := by
      rw [← poppedIs]
      exact List.length_filter_le _ _
    have suffix := probe_le rest truncatedKeys rest.length 2
    generalize probe rest truncatedKeys rest.length 2 = number at suffix ⊢
    have numbered := keySize_numbered truncatedKeys number
    have short' : (decimal number).length ≤ digits := decimal_length some (by omega)
    have moving := assign_size spellFloat rest (suffixed truncatedKeys number) collided
    have marking := assign_size spellFloat
      (Published.assign rest (suffixed truncatedKeys number) collided) truncatedKeys
      (.int dropped)
    have renamedSize : keySize (suffixed truncatedKeys number) =
        keySize truncatedKeys + 1 + (decimal number).length := numbered
    have renamedEntry : entrySize spellFloat (suffixed truncatedKeys number, collided) =
        keySize (suffixed truncatedKeys number) + 4 + size spellFloat collided := rfl
    have plainEntry : entrySize spellFloat (truncatedKeys, collided) =
        keySize truncatedKeys + 4 + size spellFloat collided := rfl
    rw [spendTerminal_remaining, spendTerminal_remaining]
    constructor <;> omega
  · have marking := assign_size spellFloat published truncatedKeys (.int dropped)
    dsimp only
    rw [spendTerminal_remaining]
    constructor <;> omega

end Mapping

section Preview

variable (objects : Objects Object F) (runtime : Runtime Object F) (surface : Surface Object F)

omit [DecidableEq Object] in
theorem previewEntries_paid {levels : Nat} {deeper : Traversal Object F}
    (below : ∀ ancestors key value budget,
      Paid runtime.spellFloat levels budget (deeper ancestors key value budget))
    (ancestors : List Object) (entries : Sized (Text × Object)) (budget : PayloadBudget) :
    Paid runtime.spellFloat (levels + 1) budget
      (previewEntries runtime surface deeper ancestors entries budget) := by
  have room : levelRoom * (levels + 1) = levelRoom * levels + 42 := Nat.mul_succ _ _
  unfold previewEntries
  split
  · rfl
  next charged accepted =>
    have spent := charge_remaining accepted
    have loop : EntriesPaid runtime.spellFloat levels (entries.list.take previewMaxKeys) [] charged
        (publishEntries surface.threshold surface.budget (deeper ancestors)
          (entries.list.take previewMaxKeys) [] [] charged) :=
      publishEntries_paid (below ancestors) _ _ _ _
    generalize publishEntries surface.threshold surface.budget (deeper ancestors)
      (entries.list.take previewMaxKeys) [] [] charged = result at loop ⊢
    obtain ⟨published, stopped, last⟩ := result
    have sizes := loop.sizes
    have enough := loop.room (by omega)
    have length := loop.length
    have width : (entries.list.take previewMaxKeys).length ≤ 20 := by
      rw [List.length_take]
      exact Nat.min_le_left _ _
    have empty : entriesSize runtime.spellFloat [] = 0 := rfl
    dsimp only at sizes enough length ⊢
    rw [List.length_nil] at length
    split
    · have short : entries.list.length - published.length ≤ sysMaxsize := by
        have sized := entries.sized
        omega
      have marked := publishTruncatedKeys_paid runtime.spellFloat published
        (entries.list.length - published.length) last short 2 (by omega) (by omega)
      generalize publishTruncatedKeys runtime.spellFloat published
        (entries.list.length - published.length) last = cut at marked ⊢
      have whole := size_dict_le runtime.spellFloat cut.1
      refine ⟨?_, ?_, ?_⟩ <;> omega
    · have whole := size_dict_le runtime.spellFloat published
      refine ⟨?_, ?_, ?_⟩ <;> omega

omit [DecidableEq Object] in
theorem previewItems_paid {levels : Nat} {deeper : Traversal Object F}
    (below : ∀ ancestors key value budget,
      Paid runtime.spellFloat levels budget (deeper ancestors key value budget))
    (ancestors : List Object) (key : Text) (items : Sized Object) (budget : PayloadBudget) :
    Paid runtime.spellFloat (levels + 1) budget
      (previewItems runtime deeper ancestors key items budget) := by
  have room : levelRoom * (levels + 1) = levelRoom * levels + 42 := Nat.mul_succ _ _
  unfold previewItems
  split
  · rfl
  next charged accepted =>
    have spent := charge_remaining accepted
    have loop := publishItems_paid (below ancestors key) (items.list.take previewMaxItems) charged
    generalize publishItems (deeper ancestors key) (items.list.take previewMaxItems) charged =
      result at loop ⊢
    obtain ⟨published, last⟩ := result
    have enough := loop.2 (by omega)
    have sizes := loop.1
    dsimp only at sizes enough ⊢
    split
    · have short : items.list.length - published.length ≤ sysMaxsize := by
        have sized := items.sized
        omega
      have marker := (size_marker runtime.spellFloat "truncated_items".toList _ short).1
      have key : keySize "truncated_items".toList = 17 := by decide
      have whole := size_list_le runtime.spellFloat
        (published ++ [truncatedItemsMarker (items.list.length - published.length)])
      have all : itemsSize runtime.spellFloat
          (published ++ [truncatedItemsMarker (items.list.length - published.length)]) =
            itemsSize runtime.spellFloat published +
              (size runtime.spellFloat
                (truncatedItemsMarker (items.list.length - published.length)) + 2) := by
        simp [itemsSize, itemSize]
      have exact' := size_list runtime.spellFloat
        (published ++ [truncatedItemsMarker (items.list.length - published.length)])
      rw [if_neg (by simp)] at exact'
      unfold chargeTerminalMarker
      refine ⟨?_, ?_, ?_⟩
      · omega
      · rw [spendTerminal_remaining]
        omega
      · rw [spendTerminal_remaining]
        unfold truncatedItemsMarker
        omega
    · have whole := size_list_le runtime.spellFloat published
      refine ⟨?_, ?_, ?_⟩ <;> omega

theorem previewNode_paid {levels : Nat} {deeper : Option (Traversal Object F)}
    (below : ∀ traversal ∈ deeper, ∃ fewer, levels = fewer + 1 ∧
      ∀ ancestors key value budget,
        Paid runtime.spellFloat fewer budget (traversal ancestors key value budget))
    (ancestors : List Object) (key : Text) (value : Object) (budget : PayloadBudget) :
    Paid runtime.spellFloat levels budget
      (previewNode objects runtime surface deeper ancestors key value budget) := by
  have fragment : ∀ json, Paid runtime.spellFloat levels budget
      (chargeFragment runtime.spellFloat budget json) := chargeFragment_paid levels budget
  unfold previewNode
  dsimp only
  split
  · exact fragment _
  · split
    · exact fragment _
    · split
      · exact fragment _
      · exact fragment _
      · exact fragment _
      · exact fragment _
      · exact fragment _
      · exact fragment _
      next entries traversal isDict =>
        obtain ⟨fewer, rfl, paid⟩ := below traversal rfl
        split
        · exact fragment _
        · exact previewEntries_paid runtime surface paid _ _ _
      next items traversal isList =>
        obtain ⟨fewer, rfl, paid⟩ := below traversal rfl
        split
        · exact fragment _
        · exact previewItems_paid runtime paid _ _ _ _

theorem previewValue_paid (levels : Nat) (ancestors : List Object) (key : Text) (value : Object)
    (budget : PayloadBudget) :
    Paid runtime.spellFloat levels budget
      (previewValue objects runtime surface levels ancestors key value budget) := by
  induction levels generalizing ancestors key value budget with
  | zero =>
    apply previewNode_paid
    intro traversal none
    cases none
  | succ levels ih =>
    apply previewNode_paid
    intro traversal here
    cases here
    exact ⟨levels, rfl, ih⟩

theorem previewMember_paid (key : Text) (value : Object) (budget : PayloadBudget) :
    Paid runtime.spellFloat previewMaxDepth budget
      (previewMember objects runtime surface key value budget) :=
  previewValue_paid objects runtime surface previewMaxDepth [] key value budget

end Preview

section Payload

variable (objects : Objects Object F) (runtime : Runtime Object F)

def Bounded (limit : Nat) (payload : Json F × PayloadBudget) : Prop :=
  size runtime.spellFloat payload.1 ≤ limit ∧
    -(payloadMarkerReserve : Int) ≤ payload.2.remaining

omit [DecidableEq Object] in
theorem init_charged {limit : Nat} (large : 2 * payloadMarkerReserve ≤ limit) :
    (((PayloadBudget.init limit).charge 2).getD (PayloadBudget.init limit)).remaining =
      limit - payloadMarkerReserve - 2 := by
  have reserve : payloadMarkerReserve = 1024 := rfl
  have start : (PayloadBudget.init limit).remaining = limit - payloadMarkerReserve := by
    unfold PayloadBudget.init
    dsimp only
    omega
  cases charged : (PayloadBudget.init limit).charge 2 with
  | none =>
    unfold PayloadBudget.charge at charged
    rw [if_neg (by omega)] at charged
    cases charged
  | some after =>
    have spent := (charge_remaining charged).1
    rw [Option.getD_some]
    omega

omit [DecidableEq Object] in
theorem publicMapping_bounded {limit threshold byteBudget : Nat}
    (large : 2 * payloadMarkerReserve ≤ limit)
    {child : Text → Object → PayloadBudget → Fragment F}
    (each : ∀ key value budget,
      Paid runtime.spellFloat previewMaxDepth budget (child key value budget))
    (values : Sized (Text × Object)) :
    Bounded runtime limit (publicMapping runtime.spellFloat threshold byteBudget child values
      (PayloadBudget.init limit)) := by
  have start := init_charged large
  have reserve : payloadMarkerReserve = 1024 := rfl
  have levels : levelRoom * previewMaxDepth = 336 := rfl
  unfold publicMapping
  dsimp only
  generalize ((PayloadBudget.init limit).charge 2).getD (PayloadBudget.init limit) = charged
    at start
  have loop : EntriesPaid runtime.spellFloat previewMaxDepth values.list [] charged
      (publishEntries threshold byteBudget child values.list [] [] charged) :=
    publishEntries_paid each _ _ _ _
  generalize publishEntries threshold byteBudget child values.list [] [] charged = result
    at loop ⊢
  obtain ⟨published, stopped, last⟩ := result
  have sizes := loop.sizes
  have enough := loop.room (by omega)
  have length := loop.length
  have sized := values.sized
  have empty : entriesSize runtime.spellFloat [] = 0 := rfl
  dsimp only at sizes enough length ⊢
  rw [List.length_nil] at length
  split
  · have largest : sysMaxsize + 2 < 10 ^ 19 := by decide
    have marked := publishTruncatedKeys_paid runtime.spellFloat published
      (values.list.length - published.length) last (by omega) 19 (by omega) (by omega)
    generalize publishTruncatedKeys runtime.spellFloat published
      (values.list.length - published.length) last = cut at marked ⊢
    have whole := size_dict_le runtime.spellFloat cut.1
    constructor <;> dsimp only <;> omega
  · have whole := size_dict_le runtime.spellFloat published
    constructor <;> dsimp only <;> omega

def fieldRoom (key : Text) : Nat := keySize key + 4 + 39

def fieldsRoom (keys : List Text) : Nat := (keys.map fieldRoom).sum

omit [DecidableEq Object] in
theorem fallback_size (view : View Object F) :
    size runtime.spellFloat (truncatedMarker view []) ≤ 39 := by
  cases view <;> exact Nat.le_of_ble_eq_true rfl

theorem budgetedField_paid (policy : PermissionPolicy) (key : Text) (value : Object)
    (budget : PayloadBudget) :
    entrySize runtime.spellFloat (budgetedField objects runtime policy key value budget).1 ≤
        budget.remaining - (budgetedField objects runtime policy key value budget).2.remaining ∧
      (-((levelRoom * previewMaxDepth : Nat) : Int) ≤
          (budgetedField objects runtime policy key value budget).2.remaining ∨
        budget.remaining - fieldRoom key ≤
          (budgetedField objects runtime policy key value budget).2.remaining) := by
  have spent := spendTerminal_remaining budget (keySize key + 4)
  have paid := previewMember_paid objects runtime (traceSurface policy) key value
    (budget.spendTerminal (keySize key + 4))
  have room : fieldRoom key = keySize key + 4 + 39 := rfl
  unfold budgetedField
  dsimp only
  split
  next json last kept =>
    rw [kept] at paid
    obtain ⟨_, cost, enough⟩ := paid
    have entry : entrySize runtime.spellFloat (key, json) =
        keySize key + 4 + size runtime.spellFloat json := rfl
    dsimp only
    constructor
    · omega
    · exact .inl enough
  next last refused =>
    rw [refused] at paid
    have same : last.remaining = (budget.spendTerminal (keySize key + 4)).remaining := paid
    have entry : entrySize runtime.spellFloat (key, truncatedMarker (objects.view value) []) =
        keySize key + 4 + size runtime.spellFloat (truncatedMarker (objects.view value) []) := rfl
    have small := fallback_size runtime (objects.view value)
    unfold chargeTerminalMarker
    dsimp only
    rw [spendTerminal_remaining]
    constructor <;> omega

theorem budgetedFields_paid (policy : PermissionPolicy) (fields : List (Text × Object))
    (budget : PayloadBudget) {taken : Nat} (some : levelRoom * previewMaxDepth ≤ taken)
    (start : -(taken : Int) ≤ budget.remaining) :
    (entriesSize runtime.spellFloat (budgetedFields objects runtime policy fields budget).1 : Int) ≤
        budget.remaining - (budgetedFields objects runtime policy fields budget).2.remaining ∧
      -((taken + fieldsRoom (fields.map Prod.fst) : Nat) : Int) ≤
        (budgetedFields objects runtime policy fields budget).2.remaining := by
  induction fields generalizing budget taken with
  | nil =>
    constructor
    · simp [budgetedFields, entriesSize]
    · simpa [budgetedFields, fieldsRoom] using start
  | cons field rest ih =>
    obtain ⟨key, value⟩ := field
    have paid := budgetedField_paid objects runtime policy key value budget
    unfold budgetedFields
    dsimp only
    generalize budgetedField objects runtime policy key value budget = here at paid ⊢
    have nearer : -((taken + fieldRoom key : Nat) : Int) ≤ here.2.remaining := by omega
    have others := ih here.2 (by omega) nearer
    generalize budgetedFields objects runtime policy rest here.2 = later at others ⊢
    have sizes : entriesSize runtime.spellFloat (here.1 :: later.1) =
        entrySize runtime.spellFloat here.1 + entriesSize runtime.spellFloat later.1 := by
      simp [entriesSize]
    have rooms : fieldsRoom (((key, value) :: rest).map Prod.fst) =
        fieldRoom key + fieldsRoom (rest.map Prod.fst) := by
      simp [fieldsRoom]
    constructor <;> omega

theorem budgetedPayload_bounded (policy : PermissionPolicy) (fields : List (Text × Object))
    (room : levelRoom * previewMaxDepth + fieldsRoom ((fields.map Prod.fst).tail) ≤
      payloadMarkerReserve)
    (first : ∀ key ∈ (fields.map Prod.fst).head?, fieldRoom key ≤ levelRoom * previewMaxDepth) :
    Bounded runtime tracePayloadByteBudget
      (budgetedPayload objects runtime policy fields) := by
  have large : 2 * payloadMarkerReserve ≤ tracePayloadByteBudget := by decide
  have start := init_charged large
  have limit : tracePayloadByteBudget = 262144 := rfl
  have reserve : payloadMarkerReserve = 1024 := rfl
  unfold budgetedPayload
  dsimp only
  generalize ((PayloadBudget.init tracePayloadByteBudget).charge 2).getD
    (PayloadBudget.init tracePayloadByteBudget) = charged at start ⊢
  cases fields with
  | nil =>
    have empty : size runtime.spellFloat (.dict []) = 2 := rfl
    constructor
    · dsimp only [budgetedFields]
      omega
    · dsimp only [budgetedFields]
      omega
  | cons field rest =>
    obtain ⟨key, value⟩ := field
    have paid := budgetedField_paid objects runtime policy key value charged
    have keyRoom : fieldRoom key ≤ levelRoom * previewMaxDepth := first key rfl
    have tail : ((((key, value) :: rest).map Prod.fst).tail) = rest.map Prod.fst := rfl
    rw [tail] at room
    unfold budgetedFields
    dsimp only
    generalize budgetedField objects runtime policy key value charged = here at paid ⊢
    have others := budgetedFields_paid objects runtime policy rest here.2
      (Nat.le_refl (levelRoom * previewMaxDepth)) (by omega)
    generalize budgetedFields objects runtime policy rest here.2 = later at others ⊢
    have sizes : entriesSize runtime.spellFloat (here.1 :: later.1) =
        entrySize runtime.spellFloat here.1 + entriesSize runtime.spellFloat later.1 := by
      simp [entriesSize]
    have whole := size_dict_le runtime.spellFloat (here.1 :: later.1)
    constructor <;> dsimp only <;> omega

omit [DecidableEq Object] in
theorem fieldsRoom_sublist {some all : List Text} (within : some.Sublist all) :
    fieldsRoom some ≤ fieldsRoom all := by
  unfold fieldsRoom
  induction within with
  | slnil => exact Nat.le_refl _
  | cons key _ ih =>
    rw [List.map_cons, List.sum_cons]
    omega
  | cons_cons key _ ih =>
    rw [List.map_cons, List.map_cons, List.sum_cons, List.sum_cons]
    omega

def webFieldKeys : List Text :=
  ["query_preview".toList, "url_preview".toList] ++ webDescriptorKeys ++
    ["allowed_domains".toList, "blocked_domains".toList]

variable (arguments : Sized (Text × Object))

omit [DecidableEq Object] in
theorem descriptorField_keys (key field : Text) (descriptor : Text → Option (Made Object F))
    {fields : List (Text × Made Object F)}
    (there : descriptorField objects runtime arguments key field descriptor = some fields) :
    (fields.map Prod.fst).Sublist [field] := by
  unfold descriptorField at there
  split at there
  · cases there
    exact List.nil_sublist _
  · split at there
    · cases there
    · obtain ⟨made, _, rfl⟩ := Option.map_eq_some_iff.mp there
      exact List.Sublist.refl _

omit [DecidableEq Object] in
theorem fieldOf_keys (key : Text) (value : Object → Made Object F) :
    ((fieldOf arguments key value).map Prod.fst).Sublist [key] := by
  unfold fieldOf
  split
  · exact List.Sublist.refl _
  · exact List.nil_sublist _

omit [DecidableEq Object] in
theorem fieldsOf_keys (keys : List Text) (value : Object → Made Object F) :
    ((keys.flatMap fun key => fieldOf arguments key value).map Prod.fst).Sublist keys := by
  induction keys with
  | nil => exact List.Sublist.refl _
  | cons key rest ih =>
    rw [List.flatMap_cons, List.map_append]
    exact (fieldOf_keys arguments key value).append ih

theorem webArgsPreview_bounded [DecidableEq F] (policy : PermissionPolicy) :
    ∀ payload ∈ webArgsPreview objects runtime arguments policy,
      Bounded runtime.forMade tracePayloadByteBudget payload := by
  intro payload built
  unfold webArgsPreview at built
  split at built
  next query url isQuery isUrl =>
    cases built
    have queryKeys := descriptorField_keys objects runtime arguments _ _ _ isQuery
    have urlKeys := descriptorField_keys objects runtime arguments _ _ _ isUrl
    have within : ((query ++ url ++
        (webDescriptorKeys.flatMap fun key => fieldOf arguments key .old) ++
        fieldOf arguments "allowed_domains".toList (domainsOr objects runtime) ++
        fieldOf arguments "blocked_domains".toList (domainsOr objects runtime)).map
          Prod.fst).Sublist webFieldKeys := by
      simp only [List.map_append]
      exact (((queryKeys.append urlKeys).append
        (fieldsOf_keys arguments webDescriptorKeys .old)).append
          (fieldOf_keys arguments _ _)).append (fieldOf_keys arguments _ _)
    have all : levelRoom * previewMaxDepth + fieldsRoom webFieldKeys.tail ≤
        payloadMarkerReserve := by decide +kernel
    have each : ∀ key ∈ webFieldKeys, fieldRoom key ≤ levelRoom * previewMaxDepth := by
      decide +kernel
    apply budgetedPayload_bounded
    · have tails := fieldsRoom_sublist within.tail
      omega
    · intro key member
      exact each key (within.subset (List.mem_of_mem_head? member))
  · cases built

theorem shellArgsPreview_bounded [DecidableEq F] (policy : PermissionPolicy) :
    ∀ payload ∈ shellArgsPreview objects runtime arguments policy,
      Bounded runtime.forMade tracePayloadByteBudget payload := by
  intro payload built
  unfold shellArgsPreview at built
  split at built
  · cases built
  · cases built
    apply budgetedPayload_bounded
    · exact Nat.le_of_ble_eq_true rfl
    · intro key member
      cases member
      exact Nat.le_of_ble_eq_true rfl

omit [DecidableEq Object] in
theorem publicPayload_bounded (values : Sized (Text × Object))
    {member : Text → Object → PayloadBudget → Fragment F}
    (each : ∀ key value budget,
      Paid runtime.spellFloat previewMaxDepth budget (member key value budget)) :
    Bounded runtime tracePayloadByteBudget (publicPayload runtime values member) :=
  publicMapping_bounded runtime (by decide) each values

theorem publicResultContent_bounded (content : Sized (Text × Object))
    (policy : PermissionPolicy) :
    Bounded runtime tracePayloadByteBudget
      (publicResultContent objects runtime content policy) := by
  apply publicPayload_bounded
  intro key value budget
  split
  · exact chargeFragment_paid _ _ _
  · split
    · split
      · exact chargeFragment_paid _ _ _
      · exact previewMember_paid objects runtime _ key value budget
    · exact previewMember_paid objects runtime _ key value budget

theorem finishArgsPreview_bounded (policy : PermissionPolicy) :
    Bounded runtime tracePayloadByteBudget
      (finishArgsPreview objects runtime arguments policy) := by
  apply publicPayload_bounded
  intro key value budget
  split
  · exact chargeFragment_paid _ _ _
  · exact previewMember_paid objects runtime _ key value budget

theorem payload_ceiling [DecidableEq F] (values : Sized (Text × Object)) (proseKeys : List Text)
    (policy : PermissionPolicy) :
    Bounded runtime tracePayloadByteBudget (argsPreview objects runtime values policy) ∧
      Bounded runtime tracePayloadByteBudget (finishArgsPreview objects runtime values policy) ∧
      Bounded runtime tracePayloadByteBudget (publicResultContent objects runtime values policy) ∧
      Bounded runtime tracePayloadByteBudget (publicEventPayload objects runtime values policy) ∧
      (∀ payload ∈ shellArgsPreview objects runtime values policy,
        Bounded runtime.forMade tracePayloadByteBudget payload) ∧
      (∀ payload ∈ webArgsPreview objects runtime values policy,
        Bounded runtime.forMade tracePayloadByteBudget payload) ∧
      Bounded runtime approvalPayloadByteBudget
        (redactToolArguments objects runtime values proseKeys policy) := by
  have member := previewMember_paid objects runtime (traceSurface policy)
  refine ⟨?_, ?_, ?_, ?_, ?_, ?_, ?_⟩
  · exact publicPayload_bounded runtime values member
  · exact finishArgsPreview_bounded objects runtime values policy
  · exact publicResultContent_bounded objects runtime values policy
  · exact publicPayload_bounded runtime values member
  · exact shellArgsPreview_bounded objects runtime values policy
  · exact webArgsPreview_bounded objects runtime values policy
  · exact publicMapping_bounded runtime (by decide)
      (previewMember_paid objects runtime (approvalSurface runtime proseKeys policy _)) values

end Payload

end MonoidKernel.PublicView
