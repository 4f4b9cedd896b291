import MonoidKernel.Providers.StreamChannels

set_option autoImplicit false

namespace MonoidKernel.Providers

open CallReceipt (Usage UsageObservation selectUsageSnapshot)
open Library (OrderedDict)

section Assembly

structure Slot where
  id : Option Text := none
  name : Option Text := none
  args : Text := []
deriving DecidableEq

def Slot.extend (slot : Slot) (id name : Option Text) (argumentsFragment : Text) : Slot where
  id := id.or slot.id
  name := name.or slot.name
  args := slot.args ++ argumentsFragment

structure Assembly (J : Type) where
  textParts : List Text := []
  slots : OrderedDict Int Slot := .empty
  responseId : Option Text := none
  usage : Usage × UsageObservation := (Library.Counts.empty, UsageObservation.legacy)
  reasoning : List J := []
  stopReason : Option Text := none
  providerRetried : Bool := false

structure ToolCall (A : Type) where
  id : Text
  name : Text
  arguments : A

structure ModelTurn (A J : Type) where
  responseId : Option Text
  finalText : Option Text
  toolCalls : List (ToolCall A)
  usage : Usage
  reasoning : List J
  stopReason : Text
  providerRetried : Bool
  usageEvidence : UsageObservation

-- What the fold asks of the JSON layer: `str.strip`, `loads_model_json_ingress`, whose answer is an
-- object or another value, and the usage normalizer.
structure FoldRules (A : Type) where
  strip : Text → Text
  loads : Text → Except Unit (Option A)
  emptyObject : A
  normalizeUsage : Usage → Option Usage

variable {A J F : Type}

namespace Assembly

def slotAt (assembly : Assembly J) (index : Int) : Slot :=
  (assembly.slots.get? index).getD {}

def complete (assembly : Assembly J) (terminal : TurnComplete J) : Assembly J :=
  { assembly with
    responseId := terminal.responseId.or assembly.responseId
    usage := selectUsageSnapshot assembly.usage
      (terminal.usage, terminal.usageEvidence.getD UsageObservation.legacy)
    reasoning := if terminal.reasoning.isEmpty then assembly.reasoning else terminal.reasoning
    stopReason := terminal.stopReason.or assembly.stopReason
    providerRetried := assembly.providerRetried || terminal.providerRetried }

def absorb (assembly : Assembly J) : ModelStreamChunk (TurnComplete J) → Assembly J
  | .textDelta text providerRetried =>
    { assembly with
      textParts := assembly.textParts ++ [text]
      providerRetried := assembly.providerRetried || providerRetried }
  | .reasoningDelta _ providerRetried =>
    { assembly with providerRetried := assembly.providerRetried || providerRetried }
  | .toolCallDelta index argumentsFragment id name providerRetried =>
    { assembly with
      slots := assembly.slots.set index
        ((assembly.slotAt index).extend id name argumentsFragment)
      providerRetried := assembly.providerRetried || providerRetried }
  | .turnComplete terminal => assembly.complete terminal

def decodeArguments (rules : FoldRules A) (assembly : Assembly J) (slot : Slot) :
    Except (StreamFailure F) A :=
  let raw := rules.strip slot.args
  if raw.isEmpty then .ok rules.emptyObject
  else
    match rules.loads raw with
    | .error () =>
      .error (.badArguments slot.name false assembly.providerRetried assembly.usage.1
        assembly.usage.2)
    | .ok none =>
      .error (.badArguments slot.name true assembly.providerRetried assembly.usage.1
        assembly.usage.2)
    | .ok (some arguments) => .ok arguments

def toolCalls (rules : FoldRules A) (assembly : Assembly J) :
    List Slot → Except (StreamFailure F) (List (ToolCall A))
  | [] => .ok []
  | slot :: rest =>
    match assembly.decodeArguments rules slot with
    | .error failure => .error failure
    | .ok arguments =>
      match assembly.toolCalls rules rest with
      | .error failure => .error failure
      | .ok later => .ok (⟨slot.id.getD [], slot.name.getD [], arguments⟩ :: later)

def text (word : String) : Text := word.toList.map Char.toNat

def turn (rules : FoldRules A) (assembly : Assembly J) :
    Except (StreamFailure F) (ModelTurn A J) :=
  match assembly.toolCalls rules assembly.slots.values with
  | .error failure => .error failure
  | .ok toolCalls =>
    let normalized :=
      if assembly.usage.1.entries.isEmpty then some Library.Counts.empty
      else rules.normalizeUsage assembly.usage.1
    match normalized with
    | none => .error (.badUsage assembly.providerRetried)
    | some usage =>
      .ok
        { responseId := assembly.responseId
          finalText :=
            if assembly.textParts.isEmpty then none else some assembly.textParts.flatten
          toolCalls
          usage
          reasoning := assembly.reasoning
          stopReason := assembly.stopReason.getD
            (text (if toolCalls.isEmpty then "stop" else "tool_calls"))
          providerRetried := assembly.providerRetried
          usageEvidence := assembly.usage.2 }

end Assembly

def assembleStreamedTurn {T : Type} (terminalRules : T → Except F (TurnComplete J))
    (rules : FoldRules A) (chunks : List (ModelStreamChunk T)) :
    Except (StreamFailure F) (ModelTurn A J) :=
  match ingestStream terminalRules chunks with
  | .error failure => .error failure
  | .ok normalized => (normalized.foldl Assembly.absorb {}).turn rules

end Assembly

section Facts

variable {T J : Type}

namespace ModelStreamChunk

def index : ModelStreamChunk T → Option Int
  | .toolCallDelta index _ _ _ _ => some index
  | _ => none

def isText : ModelStreamChunk T → Bool
  | .textDelta _ _ => true
  | _ => false

def idAt (index : Int) : ModelStreamChunk T → Option Text
  | .toolCallDelta other _ id _ _ => if other = index then id else none
  | _ => none

def nameAt (index : Int) : ModelStreamChunk T → Option Text
  | .toolCallDelta other _ _ name _ => if other = index then name else none
  | _ => none

def retried : ModelStreamChunk T → Bool
  | .textDelta _ providerRetried => providerRetried
  | .reasoningDelta _ providerRetried => providerRetried
  | .toolCallDelta _ _ _ _ providerRetried => providerRetried
  | .turnComplete _ => false

def terminal : ModelStreamChunk T → Option T
  | .turnComplete terminal => some terminal
  | _ => none

end ModelStreamChunk

def indexes (chunks : List (ModelStreamChunk T)) : List Int := chunks.filterMap (·.index)

def appearances (seen : List Int) (later : List Int) : List Int :=
  later.foldl (fun seen index => if index ∈ seen then seen else seen ++ [index]) seen

def lastId (index : Int) (chunks : List (ModelStreamChunk T)) : Option Text :=
  (chunks.filterMap (·.idAt index)).getLast?

def lastName (index : Int) (chunks : List (ModelStreamChunk T)) : Option Text :=
  (chunks.filterMap (·.nameAt index)).getLast?

structure SameStream (first second : List (ModelStreamChunk T)) : Prop where
  channel : ∀ channel, channelText channel first = channelText channel second
  texted : first.any (·.isText) = second.any (·.isText)
  order : appearances [] (indexes first) = appearances [] (indexes second)
  id : ∀ index, lastId index first = lastId index second
  name : ∀ index, lastName index first = lastName index second
  retried : first.any (·.retried) = second.any (·.retried)
  terminal : first.filterMap (·.terminal) = second.filterMap (·.terminal)

theorem appearances_nil (seen : List Int) : appearances seen [] = seen := rfl

theorem appearances_append (seen first second : List Int) :
    appearances seen (first ++ second) = appearances (appearances seen first) second :=
  List.foldl_append

theorem mem_appearances {seen later : List Int} {index : Int} :
    index ∈ appearances seen later ↔ index ∈ seen ∨ index ∈ later := by
  induction later generalizing seen with
  | nil => simp [appearances_nil]
  | cons head rest ih =>
    have first : appearances seen (head :: rest) =
        appearances (if head ∈ seen then seen else seen ++ [head]) rest := rfl
    rw [first, ih, List.mem_cons]
    split
    next known =>
      constructor
      · grind
      · grind
    · grind

theorem appearances_known {seen later : List Int} (known : ∀ index ∈ later, index ∈ seen) :
    appearances seen later = seen := by
  induction later with
  | nil => rfl
  | cons head rest ih =>
    have first : appearances seen (head :: rest) =
        appearances (if head ∈ seen then seen else seen ++ [head]) rest := rfl
    rw [first, if_pos (known head List.mem_cons_self)]
    exact ih fun index member => known index (List.mem_cons_of_mem _ member)

theorem lastId_append (index : Int) (first second : List (ModelStreamChunk T)) :
    lastId index (first ++ second) = (lastId index second).or (lastId index first) := by
  unfold lastId
  rw [List.filterMap_append, List.getLast?_append]

theorem lastName_append (index : Int) (first second : List (ModelStreamChunk T)) :
    lastName index (first ++ second) = (lastName index second).or (lastName index first) := by
  unfold lastName
  rw [List.filterMap_append, List.getLast?_append]

theorem lastId_singleton (index : Int) (chunk : ModelStreamChunk T) :
    lastId index [chunk] = chunk.idAt index := by
  unfold lastId
  rw [List.filterMap_cons, List.filterMap_nil]
  cases chunk.idAt index <;> rfl

theorem lastName_singleton (index : Int) (chunk : ModelStreamChunk T) :
    lastName index [chunk] = chunk.nameAt index := by
  unfold lastName
  rw [List.filterMap_cons, List.filterMap_nil]
  cases chunk.nameAt index <;> rfl

end Facts

section Folds

variable {A J F : Type}

namespace Assembly

theorem slotAt_absorb (assembly : Assembly J) (chunk : ModelStreamChunk (TurnComplete J))
    (index : Int) :
    (assembly.absorb chunk).slotAt index = (assembly.slotAt index).extend (chunk.idAt index)
      (chunk.nameAt index) (chunk.on (.toolArguments index)) := by
  cases chunk with
  | toolCallDelta other fragment id name retried =>
    by_cases same : other = index
    · subst same
      simp [absorb, slotAt, ModelStreamChunk.idAt, ModelStreamChunk.nameAt, ModelStreamChunk.on]
    · have apart : index ≠ other := fun equal => same equal.symm
      simp [absorb, slotAt, ModelStreamChunk.idAt, ModelStreamChunk.nameAt, ModelStreamChunk.on,
        OrderedDict.get?_set, same, apart, Slot.extend]
  | _ =>
    simp [absorb, complete, slotAt, ModelStreamChunk.idAt, ModelStreamChunk.nameAt,
      ModelStreamChunk.on, Slot.extend]

theorem keys_absorb (assembly : Assembly J) (chunk : ModelStreamChunk (TurnComplete J)) :
    (assembly.absorb chunk).slots.keys =
      appearances assembly.slots.keys chunk.index.toList := by
  cases chunk with
  | toolCallDelta index fragment id name retried => exact OrderedDict.keys_set _ _ _
  | _ => rfl

def closing (assembly : Assembly J) :
    Option Text × (Usage × UsageObservation) × List J × Option Text :=
  (assembly.responseId, assembly.usage, assembly.reasoning, assembly.stopReason)

def close (held : Option Text × (Usage × UsageObservation) × List J × Option Text)
    (terminal : TurnComplete J) :
    Option Text × (Usage × UsageObservation) × List J × Option Text :=
  (terminal.responseId.or held.1,
    selectUsageSnapshot held.2.1
      (terminal.usage, terminal.usageEvidence.getD UsageObservation.legacy),
    if terminal.reasoning.isEmpty then held.2.2.1 else terminal.reasoning,
    terminal.stopReason.or held.2.2.2)

variable (assembly : Assembly J) (chunks : List (ModelStreamChunk (TurnComplete J)))

theorem slotAt_fold (index : Int) :
    (chunks.foldl absorb assembly).slotAt index =
      (assembly.slotAt index).extend (lastId index chunks) (lastName index chunks)
        (channelText (.toolArguments index) chunks) := by
  induction chunks generalizing assembly with
  | nil => simp [lastId, lastName, Slot.extend]
  | cons chunk rest ih =>
    rw [List.foldl_cons, ih, slotAt_absorb]
    have id := lastId_append index [chunk] rest
    have name := lastName_append index [chunk] rest
    rw [List.singleton_append, lastId_singleton] at id
    rw [List.singleton_append, lastName_singleton] at name
    rw [id, name, channelText_cons]
    simp only [Slot.extend, Option.or_assoc, List.append_assoc]

theorem keys_fold :
    (chunks.foldl absorb assembly).slots.keys =
      appearances assembly.slots.keys (indexes chunks) := by
  induction chunks generalizing assembly with
  | nil => rfl
  | cons chunk rest ih =>
    have parts : indexes (chunk :: rest) = chunk.index.toList ++ indexes rest := by
      unfold indexes
      rw [List.filterMap_cons]
      cases chunk.index <;> rfl
    rw [List.foldl_cons, ih, keys_absorb, parts, appearances_append]

theorem textParts_fold :
    (chunks.foldl absorb assembly).textParts.flatten =
      assembly.textParts.flatten ++ channelText .output chunks ∧
    (chunks.foldl absorb assembly).textParts.isEmpty =
      (assembly.textParts.isEmpty && !chunks.any (·.isText)) := by
  induction chunks generalizing assembly with
  | nil => simp
  | cons chunk rest ih =>
    obtain ⟨joined, missing⟩ := ih (assembly.absorb chunk)
    rw [List.foldl_cons, joined, missing]
    cases chunk <;> simp [absorb, complete, ModelStreamChunk.on, ModelStreamChunk.isText]

theorem closing_fold :
    (chunks.foldl absorb assembly).closing =
      (chunks.filterMap (·.terminal)).foldl close assembly.closing := by
  induction chunks generalizing assembly with
  | nil => rfl
  | cons chunk rest ih =>
    rw [List.foldl_cons, ih]
    cases chunk <;> rfl

theorem retried_fold :
    (chunks.foldl absorb assembly).providerRetried =
      (assembly.providerRetried || chunks.any (·.retried) ||
        (chunks.filterMap (·.terminal)).any (·.providerRetried)) := by
  induction chunks generalizing assembly with
  | nil => simp
  | cons chunk rest ih =>
    rw [List.foldl_cons, ih]
    cases chunk <;>
      simp [absorb, complete, ModelStreamChunk.retried, ModelStreamChunk.terminal, Bool.or_assoc,
        Bool.or_comm, Bool.or_left_comm]

structure Agrees (first second : Assembly J) : Prop where
  text : first.textParts.flatten = second.textParts.flatten
  texted : first.textParts.isEmpty = second.textParts.isEmpty
  slots : first.slots = second.slots
  closing : first.closing = second.closing
  retried : first.providerRetried = second.providerRetried

theorem slots_fold {first second : List (ModelStreamChunk (TurnComplete J))}
    (same : SameStream first second) :
    (first.foldl absorb {}).slots = (second.foldl absorb {}).slots := by
  have keys : (first.foldl absorb {}).slots.keys = (second.foldl absorb {}).slots.keys := by
    rw [keys_fold, keys_fold]
    exact same.order
  refine OrderedDict.ext_get keys fun index => ?_
  have slot : (first.foldl absorb {}).slotAt index = (second.foldl absorb {}).slotAt index := by
    rw [slotAt_fold, slotAt_fold, same.id, same.name, same.channel]
  by_cases known : index ∈ (first.foldl absorb {}).slots.keys
  · obtain ⟨one, found⟩ := (OrderedDict.mem_keys_iff _).1 known
    obtain ⟨other, also⟩ := (OrderedDict.mem_keys_iff _).1 (keys ▸ known)
    unfold slotAt at slot
    rw [found, also, Option.getD_some, Option.getD_some] at slot
    rw [found, also, slot]
  · rw [(OrderedDict.get?_eq_none_iff _).2 known,
      (OrderedDict.get?_eq_none_iff _).2 (keys ▸ known)]

theorem fold_agrees {first second : List (ModelStreamChunk (TurnComplete J))}
    (same : SameStream first second) :
    Agrees (first.foldl absorb {}) (second.foldl absorb {}) where
  text := by rw [(textParts_fold _ _).1, (textParts_fold _ _).1, same.channel]
  texted := by rw [(textParts_fold _ _).2, (textParts_fold _ _).2, same.texted]
  slots := slots_fold same
  closing := by rw [closing_fold, closing_fold, same.terminal]
  retried := by rw [retried_fold, retried_fold, same.retried, same.terminal]

theorem Agrees.turn {first second : Assembly J} (agrees : Agrees first second)
    (rules : FoldRules A) :
    (first.turn rules : Except (StreamFailure F) (ModelTurn A J)) = second.turn rules := by
  obtain ⟨text, texted, slots, closing, retried⟩ := agrees
  obtain ⟨parts, slots', id, usage, reasoning, reason, flag⟩ := first
  obtain ⟨parts', _, _, _, _, _, _⟩ := second
  simp only [Assembly.closing, Prod.mk.injEq] at closing
  obtain ⟨rfl, rfl, rfl, rfl⟩ := closing
  simp only at text texted slots retried
  subst slots retried
  have calls : ∀ held : List Slot,
      (toolCalls rules ⟨parts, slots', id, usage, reasoning, reason, flag⟩ held :
        Except (StreamFailure F) (List (ToolCall A))) =
      toolCalls rules ⟨parts', slots', id, usage, reasoning, reason, flag⟩ held := by
    intro held
    induction held with
    | nil => rfl
    | cons slot rest ih =>
      simp only [toolCalls, ih]
      rfl
  simp only [Assembly.turn, calls, text, texted]

end Assembly

end Folds

section Reflections

variable {T J F : Type} {rules : T → Except F (TurnComplete J)}

theorem indexes_append (first second : List (ModelStreamChunk T)) :
    indexes (first ++ second) = indexes first ++ indexes second := by
  unfold indexes
  rw [List.filterMap_append]

-- What the ingress keeps of a stream beside the text of its channels, and what it may still hold
-- back of it.
structure Reflects (ingress : Ingress) (raw : List (ModelStreamChunk T))
    (emitted : List (ModelStreamChunk (TurnComplete J))) : Prop where
  texted : emitted.any (·.isText) = raw.any (·.isText)
  order : indexes emitted = indexes raw
  id : ∀ index, lastId index emitted = (lastId index raw).map normalizeUnicodeScalars
  name : ∀ index, lastName index emitted = (lastName index raw).map normalizeUnicodeScalars
  retried : emitted.any (·.retried) = raw.any (·.retried)
  terminal : emitted.filterMap (·.terminal) = []
  heldText : ingress.text.pendingHigh ≠ none → raw.any (·.isText) = true
  heldIndex : ∀ index ∈ ingress.toolArguments.keys, index ∈ indexes raw
  heldRetried : ∀ channel, (ingress.buffer channel).providerRetried = true →
    raw.any (·.retried) = true

theorem reflects_fresh :
    Reflects {} ([] : List (ModelStreamChunk T)) ([] : List (ModelStreamChunk (TurnComplete J)))
    where
  texted := rfl
  order := rfl
  id := fun _ => rfl
  name := fun _ => rfl
  retried := rfl
  terminal := rfl
  heldText := fun held => absurd rfl held
  heldIndex := fun index member => by cases member
  heldRetried := fun channel held => by cases channel <;> cases held

theorem feed_retried {buffer : ChunkBuffer} {text : Text} {retried : Bool} {sequence : Nat} :
    (buffer.feed text retried sequence).1.2 = (buffer.providerRetried || retried) ∧
      ((buffer.feed text retried sequence).2.providerRetried = true →
        (buffer.providerRetried || retried) = true) := by
  simp only [ChunkBuffer.feed]
  split
  · split
    · exact ⟨rfl, fun held => held⟩
    · exact ⟨rfl, fun held => by cases held⟩
  · exact ⟨rfl, fun held => by cases held⟩

structure Mirrors (chunk : ModelStreamChunk T) (made : ModelStreamChunk (TurnComplete J)) :
    Prop where
  texted : made.isText = chunk.isText
  index : made.index = chunk.index
  id : ∀ index, made.idAt index = (chunk.idAt index).map normalizeUnicodeScalars
  name : ∀ index, made.nameAt index = (chunk.nameAt index).map normalizeUnicodeScalars
  terminal : made.terminal = none

variable {ingress : Ingress} {raw : List (ModelStreamChunk T)}
variable {emitted : List (ModelStreamChunk (TurnComplete J))}

variable {next : Ingress}

theorem Reflects.extend (reflects : Reflects ingress raw emitted) {chunk : ModelStreamChunk T}
    {made : ModelStreamChunk (TurnComplete J)} (mirrors : Mirrors chunk made)
    (retried : (emitted.any (·.retried) || made.retried) = (raw.any (·.retried) || chunk.retried))
    (heldText : next.text.pendingHigh ≠ none →
      ingress.text.pendingHigh ≠ none ∨ chunk.isText = true)
    (heldIndex : ∀ index ∈ next.toolArguments.keys,
      index ∈ ingress.toolArguments.keys ∨ chunk.index = some index)
    (heldRetried : ∀ channel, (next.buffer channel).providerRetried = true →
      (ingress.buffer channel).providerRetried = true ∨ chunk.retried = true) :
    Reflects next (raw ++ [chunk]) (emitted ++ [made]) where
  texted := by
    simp only [List.any_append, List.any_cons, List.any_nil, Bool.or_false, reflects.texted,
      mirrors.texted]
  order := by
    rw [indexes_append, indexes_append, reflects.order]
    simp only [indexes, List.filterMap_cons, List.filterMap_nil, mirrors.index]
  id := fun index => by
    rw [lastId_append, lastId_append, lastId_singleton, lastId_singleton, mirrors.id, reflects.id]
    cases chunk.idAt index <;> rfl
  name := fun index => by
    rw [lastName_append, lastName_append, lastName_singleton, lastName_singleton, mirrors.name,
      reflects.name]
    cases chunk.nameAt index <;> rfl
  retried := by
    simpa only [List.any_append, List.any_cons, List.any_nil, Bool.or_false] using retried
  terminal := by
    rw [List.filterMap_append, reflects.terminal]
    simp only [List.filterMap_cons, List.filterMap_nil, mirrors.terminal, List.append_nil]
  heldText := fun held => by
    rw [List.any_append, Bool.or_eq_true]
    cases heldText held with
    | inl before => exact .inl (reflects.heldText before)
    | inr now => exact .inr (by simpa using now)
  heldIndex := fun index member => by
    rw [indexes_append, List.mem_append]
    cases heldIndex index member with
    | inl before => exact .inl (reflects.heldIndex index before)
    | inr now => exact .inr (by simp [indexes, now])
  heldRetried := fun channel held => by
    rw [List.any_append, Bool.or_eq_true]
    cases heldRetried channel held with
    | inl before => exact .inl (reflects.heldRetried channel before)
    | inr now => exact .inr (by simpa using now)

theorem Reflects.inherited (reflects : Reflects ingress raw emitted) (channel : Channel)
    (retried : Bool) :
    (emitted.any (·.retried) || ((ingress.buffer channel).providerRetried || retried)) =
      (raw.any (·.retried) || retried) := by
  rw [reflects.retried]
  cases held : (ingress.buffer channel).providerRetried with
  | false => rfl
  | true => rw [reflects.heldRetried channel held]; rfl

theorem normalize_reflects {out : List (ModelStreamChunk (TurnComplete J))}
    {chunk : ModelStreamChunk T} (reflects : Reflects ingress raw emitted)
    (delta : chunk.channel ≠ none) (done : ingress.normalize rules chunk = .ok (out, next)) :
    Reflects next (raw ++ [chunk]) (emitted ++ out) := by
  cases chunk with
  | textDelta text retried =>
    simp only [Ingress.normalize, Except.ok.injEq, Prod.mk.injEq] at done
    obtain ⟨rfl, rfl⟩ := done
    refine reflects.extend ⟨rfl, rfl, fun _ => rfl, fun _ => rfl, rfl⟩ ?_ (fun _ => .inr rfl)
      (fun index member => .inl member) ?_
    · simp only [ModelStreamChunk.retried, feed_retried.1]
      exact reflects.inherited .output retried
    · intro channel held
      cases channel with
      | output => exact Bool.or_eq_true_iff.1 (feed_retried.2 held)
      | _ => exact .inl held
  | reasoningDelta text retried =>
    simp only [Ingress.normalize, Except.ok.injEq, Prod.mk.injEq] at done
    obtain ⟨rfl, rfl⟩ := done
    refine reflects.extend ⟨rfl, rfl, fun _ => rfl, fun _ => rfl, rfl⟩ ?_ (fun held => .inl held)
      (fun index member => .inl member) ?_
    · simp only [ModelStreamChunk.retried, feed_retried.1]
      exact reflects.inherited .reasoning retried
    · intro channel held
      cases channel with
      | reasoning => exact Bool.or_eq_true_iff.1 (feed_retried.2 held)
      | _ => exact .inl held
  | toolCallDelta index fragment id name retried =>
    simp only [Ingress.normalize] at done
    split at done
    · cases done
    · simp only [Except.ok.injEq, Prod.mk.injEq] at done
      obtain ⟨rfl, rfl⟩ := done
      refine reflects.extend ⟨rfl, rfl, ?_, ?_, rfl⟩ ?_ (fun held => .inl held) ?_ ?_
      · intro other
        by_cases same : index = other <;> simp [ModelStreamChunk.idAt, same]
      · intro other
        by_cases same : index = other <;> simp [ModelStreamChunk.nameAt, same]
      · simp only [ModelStreamChunk.retried, feed_retried.1]
        exact reflects.inherited (.toolArguments index) retried
      · intro other member
        rw [OrderedDict.keys_set] at member
        split at member
        · exact .inl member
        · cases List.mem_append.1 member with
          | inl before => exact .inl before
          | inr now => exact .inr (congrArg some (List.mem_singleton.1 now).symm)
      · intro channel held
        cases channel with
        | toolArguments other =>
          by_cases same : other = index
          · subst same
            simp only [Ingress.buffer, Ingress.argumentsBuffer, OrderedDict.get?_set_self,
              Option.getD_some] at held
            exact Bool.or_eq_true_iff.1 (feed_retried.2 held)
          · simp only [Ingress.buffer, Ingress.argumentsBuffer,
              OrderedDict.get?_set_ne _ _ same] at held
            exact .inl held
        | _ => exact .inl held
  | turnComplete terminal => exact absurd rfl delta

theorem normalizeAll_reflects {deltas : List (ModelStreamChunk T)}
    {out : List (ModelStreamChunk (TurnComplete J))} (reflects : Reflects ingress raw emitted)
    (open_ : ∀ chunk ∈ deltas, chunk.channel ≠ none)
    (done : ingress.normalizeAll rules deltas = .ok (out, next)) :
    Reflects next (raw ++ deltas) (emitted ++ out) := by
  induction deltas generalizing ingress raw emitted out with
  | nil =>
    simp only [Ingress.normalizeAll, Except.ok.injEq, Prod.mk.injEq] at done
    obtain ⟨rfl, rfl⟩ := done
    simpa using reflects
  | cons chunk rest ih =>
    obtain ⟨early, middle, late, first, second, rfl⟩ := Ingress.normalizeAll_head done
    have moved := normalize_reflects reflects (open_ chunk List.mem_cons_self)
      (Ingress.normalizeAll_singleton first)
    have rest_open : ∀ other ∈ rest, other.channel ≠ none :=
      fun other member => open_ other (List.mem_cons_of_mem _ member)
    simpa only [List.append_assoc, List.singleton_append] using ih moved rest_open second

structure LetGo (ingress : Ingress) (chunk : ModelStreamChunk T) : Prop where
  texted : chunk.isText = true → ingress.text.pendingHigh ≠ none
  index : ∀ index, chunk.index = some index → index ∈ ingress.toolArguments.keys
  id : ∀ index, chunk.idAt index = none
  name : ∀ index, chunk.nameAt index = none
  retried : chunk.retried = true → ∃ channel, (ingress.buffer channel).providerRetried = true
  terminal : chunk.terminal = none

theorem flush_spec {buffer : ChunkBuffer} {held : Text × Bool × Nat}
    (found : buffer.flush = some held) :
    buffer.pendingHigh ≠ none ∧ held.2.1 = buffer.providerRetried := by
  unfold ChunkBuffer.flush at found
  obtain ⟨point, pending, rfl⟩ := Option.map_eq_some_iff.1 found
  exact ⟨by rw [pending]; nofun, rfl⟩

theorem pending_letGo (ingress : Ingress) :
    ∀ held ∈ (ingress.pending : List (Nat × ModelStreamChunk T)), LetGo ingress held.2 := by
  intro held member
  unfold Ingress.pending at member
  cases List.mem_append.1 member with
  | inl texts =>
    cases List.mem_append.1 texts with
    | inl text =>
      obtain ⟨kept, found, rfl⟩ := List.mem_map.1 text
      obtain ⟨pending, flag⟩ := flush_spec (Option.mem_toList.1 found)
      exact
        { texted := fun _ => pending
          index := fun index named => by cases named
          id := fun _ => rfl
          name := fun _ => rfl
          retried := fun marked => ⟨.output, flag ▸ marked⟩
          terminal := rfl }
    | inr reasoning =>
      obtain ⟨kept, found, rfl⟩ := List.mem_map.1 reasoning
      obtain ⟨_, flag⟩ := flush_spec (Option.mem_toList.1 found)
      exact
        { texted := fun texted => by cases texted
          index := fun index named => by cases named
          id := fun _ => rfl
          name := fun _ => rfl
          retried := fun marked => ⟨.reasoning, flag ▸ marked⟩
          terminal := rfl }
  | inr arguments =>
    obtain ⟨entry, stored, made⟩ := List.mem_filterMap.1 arguments
    obtain ⟨kept, found, rfl⟩ := Option.map_eq_some_iff.1 made
    obtain ⟨_, flag⟩ := flush_spec found
    have here : ingress.toolArguments.get? entry.1 = some entry.2 :=
      (OrderedDict.get?_eq_some_iff _).2 stored
    exact
      { texted := fun texted => by cases texted
        index := fun index named => by
          cases named
          exact (OrderedDict.mem_keys_iff _).2 ⟨entry.2, here⟩
        id := fun index => ite_self none
        name := fun index => ite_self none
        retried := fun marked => ⟨.toolArguments entry.1, by
          rw [Ingress.buffer, Ingress.argumentsBuffer, here, Option.getD_some, ← flag]
          exact marked⟩
        terminal := rfl }

theorem finish_letGo (ingress : Ingress) :
    ∀ chunk ∈ (ingress.finish : List (ModelStreamChunk T)), LetGo ingress chunk := by
  intro chunk member
  obtain ⟨held, sorted, rfl⟩ := List.mem_map.1 member
  exact pending_letGo ingress held ((List.mem_insertionSort _).1 sorted)

structure Kept (raw : List (ModelStreamChunk T))
    (emitted : List (ModelStreamChunk (TurnComplete J))) : Prop where
  texted : emitted.any (·.isText) = raw.any (·.isText)
  order : appearances [] (indexes emitted) = appearances [] (indexes raw)
  id : ∀ index, lastId index emitted = (lastId index raw).map normalizeUnicodeScalars
  name : ∀ index, lastName index emitted = (lastName index raw).map normalizeUnicodeScalars
  retried : emitted.any (·.retried) = raw.any (·.retried)

theorem Reflects.finish (reflects : Reflects ingress raw emitted) :
    Kept raw (emitted ++ ingress.finish) ∧
      (emitted ++ ingress.finish).filterMap ModelStreamChunk.terminal = [] := by
  have letGo := @finish_letGo (TurnComplete J) ingress
  refine ⟨⟨?_, ?_, ?_, ?_, ?_⟩, ?_⟩
  · rw [List.any_append, reflects.texted]
    cases raised : (ingress.finish : List (ModelStreamChunk (TurnComplete J))).any (·.isText) with
    | false => exact Bool.or_false _
    | true =>
      obtain ⟨chunk, member, texted⟩ := List.any_eq_true.1 raised
      rw [reflects.heldText ((letGo chunk member).texted texted)]
      rfl
  · rw [indexes_append, appearances_append, reflects.order]
    refine appearances_known fun index member => ?_
    obtain ⟨chunk, held, named⟩ := List.mem_filterMap.1 member
    exact mem_appearances.2 (.inr (reflects.heldIndex index ((letGo chunk held).index index named)))
  · intro index
    have silent : lastId index (ingress.finish : List (ModelStreamChunk (TurnComplete J))) =
        none := by
      unfold lastId
      rw [List.filterMap_eq_nil_iff.2 fun chunk member => (letGo chunk member).id index]
      rfl
    rw [lastId_append, silent, Option.none_or, reflects.id]
  · intro index
    have silent : lastName index (ingress.finish : List (ModelStreamChunk (TurnComplete J))) =
        none := by
      unfold lastName
      rw [List.filterMap_eq_nil_iff.2 fun chunk member => (letGo chunk member).name index]
      rfl
    rw [lastName_append, silent, Option.none_or, reflects.name]
  · rw [List.any_append, reflects.retried]
    cases raised : (ingress.finish : List (ModelStreamChunk (TurnComplete J))).any (·.retried) with
    | false => exact Bool.or_false _
    | true =>
      obtain ⟨chunk, member, marked⟩ := List.any_eq_true.1 raised
      obtain ⟨channel, held⟩ := (letGo chunk member).retried marked
      rw [reflects.heldRetried channel held]
      rfl
  · rw [List.filterMap_append, reflects.terminal, List.nil_append]
    exact List.filterMap_eq_nil_iff.2 fun chunk member => (letGo chunk member).terminal

end Reflections

section Streams

variable {T A J F : Type} {rules : T → Except F (TurnComplete J)}

variable {ingress : Ingress}

theorem normalize_portable {chunk : ModelStreamChunk T} (delta : chunk.channel ≠ none)
    (portable : ∀ index, chunk.index = some index → 0 ≤ index) :
    ∃ out next, ingress.normalize rules chunk = .ok (out, next) := by
  cases chunk with
  | toolCallDelta index fragment id name retried =>
    have fine : ¬ index < 0 := Int.not_lt.2 (portable index rfl)
    simp only [Ingress.normalize, if_neg fine]
    exact ⟨_, _, rfl⟩
  | turnComplete terminal => exact absurd rfl delta
  | _ => exact ⟨_, _, rfl⟩

theorem normalize_refused {chunk : ModelStreamChunk T} {index : Int}
    (named : chunk.index = some index) (negative : index < 0) :
    ingress.normalize rules chunk = .error .nonPortable := by
  cases chunk with
  | toolCallDelta other fragment id name retried =>
    cases named
    simp only [Ingress.normalize, if_pos negative]
  | _ => cases named

theorem indexes_cons (chunk : ModelStreamChunk T) (rest : List (ModelStreamChunk T)) :
    indexes (chunk :: rest) = chunk.index.toList ++ indexes rest := by
  unfold indexes
  rw [List.filterMap_cons]
  cases chunk.index <;> rfl

variable {deltas : List (ModelStreamChunk T)}

theorem normalizeAll_portable (ingress : Ingress) (open_ : ∀ chunk ∈ deltas, chunk.channel ≠ none)
    (portable : ∀ index ∈ indexes deltas, 0 ≤ index) :
    ∃ out next, ingress.normalizeAll rules deltas = .ok (out, next) := by
  induction deltas generalizing ingress with
  | nil => exact ⟨[], ingress, rfl⟩
  | cons chunk rest ih =>
    rw [indexes_cons] at portable
    have moved : ∃ out next, ingress.normalize rules chunk = .ok (out, next) :=
      normalize_portable (open_ chunk List.mem_cons_self) fun index named =>
        portable index (List.mem_append_left _ (Option.mem_toList.2 named))
    obtain ⟨out, next, here⟩ := moved
    obtain ⟨later, final, rest_done⟩ := ih next
      (fun other member => open_ other (List.mem_cons_of_mem _ member))
      fun index member => portable index (List.mem_append_right _ member)
    refine ⟨out ++ later, final, ?_⟩
    simp only [Ingress.normalizeAll, here, rest_done]

theorem normalizeAll_refused (ingress : Ingress) {later : List (ModelStreamChunk T)}
    (open_ : ∀ chunk ∈ deltas, chunk.channel ≠ none) {index : Int} (member : index ∈ indexes deltas)
    (negative : index < 0) :
    ingress.normalizeAll rules (deltas ++ later) = .error .nonPortable := by
  induction deltas generalizing ingress with
  | nil => cases member
  | cons chunk rest ih =>
    rw [indexes_cons, List.mem_append] at member
    simp only [List.cons_append, Ingress.normalizeAll]
    cases here : ingress.normalize rules chunk with
    | error failure =>
      by_cases portable : ∀ other, chunk.index = some other → 0 ≤ other
      · have moved : ∃ out next, ingress.normalize rules chunk = .ok (out, next) :=
          normalize_portable (open_ chunk List.mem_cons_self) portable
        obtain ⟨out, next, done⟩ := moved
        rw [here] at done
        cases done
      · simp only [not_forall, not_le] at portable
        obtain ⟨other, named, below⟩ := portable
        rw [normalize_refused named below, Except.error.injEq] at here
        rw [← here]
    | ok step =>
      cases member with
      | inl now =>
        rw [normalize_refused (Option.mem_toList.1 now) negative] at here
        cases here
      | inr more =>
        simp only [ih step.2 (fun other held => open_ other (List.mem_cons_of_mem _ held)) more]

variable {first : List (ModelStreamChunk T)}

theorem Kept.same {second : List (ModelStreamChunk T)}
    {made other : List (ModelStreamChunk (TurnComplete J))} (same : SameStream first second)
    (kept : Kept first made) (also : Kept second other)
    (channel : ∀ channel, channelText channel made = channelText channel other)
    (terminal : made.filterMap ModelStreamChunk.terminal =
      other.filterMap ModelStreamChunk.terminal) : SameStream made other where
  channel := channel
  texted := by rw [kept.texted, also.texted, same.texted]
  order := by rw [kept.order, also.order, same.order]
  id := fun index => by rw [kept.id, also.id, same.id]
  name := fun index => by rw [kept.name, also.name, same.name]
  retried := by rw [kept.retried, also.retried, same.retried]
  terminal := terminal

theorem Kept.ended {emitted : List (ModelStreamChunk (TurnComplete J))} (kept : Kept deltas emitted)
    (last : Option T) (terminal : Option (TurnComplete J)) :
    Kept (deltas ++ ending last) (emitted ++ ending terminal) := by
  have bare : ∀ {S : Type} (chunks : List (ModelStreamChunk S)) (option : Option S),
      (chunks ++ ending option).any (·.isText) = chunks.any (·.isText) ∧
      indexes (chunks ++ ending option) = indexes chunks ∧
      (∀ index, lastId index (chunks ++ ending option) = lastId index chunks) ∧
      (∀ index, lastName index (chunks ++ ending option) = lastName index chunks) ∧
      (chunks ++ ending option).any (·.retried) = chunks.any (·.retried) := by
    intro S chunks option
    cases option with
    | none => simp [ending]
    | some raw =>
      simp [ending, lastId_append, lastName_append, indexes, lastId_singleton,
        lastName_singleton, ModelStreamChunk.isText, ModelStreamChunk.index,
        ModelStreamChunk.idAt, ModelStreamChunk.nameAt, ModelStreamChunk.retried]
  obtain ⟨rawText, rawOrder, rawId, rawName, rawRetried⟩ := bare deltas last
  obtain ⟨text, order, id, name, retried⟩ := bare emitted terminal
  exact
    { texted := by rw [text, rawText, kept.texted]
      order := by rw [order, rawOrder, kept.order]
      id := fun index => by rw [id, rawId, kept.id]
      name := fun index => by rw [name, rawName, kept.name]
      retried := by rw [retried, rawRetried, kept.retried] }

theorem terminal_split {last : Option T} (open_ : ∀ chunk ∈ deltas, chunk.channel ≠ none) :
    (deltas ++ ending last).filterMap ModelStreamChunk.terminal = last.toList := by
  have nothing : deltas.filterMap ModelStreamChunk.terminal = [] := by
    rw [List.filterMap_eq_nil_iff]
    intro chunk member
    cases chunk with
    | turnComplete terminal => exact absurd rfl (open_ _ member)
    | _ => rfl
  rw [List.filterMap_append, nothing, List.nil_append]
  cases last <;> rfl

theorem normalizeAll_then {middle : Ingress} {early : List (ModelStreamChunk (TurnComplete J))}
    (done : ingress.normalizeAll rules first = .ok (early, middle))
    (second : List (ModelStreamChunk T)) :
    ingress.normalizeAll rules (first ++ second) =
      match middle.normalizeAll rules second with
      | .error failure => .error failure
      | .ok (late, next) => .ok (early ++ late, next) := by
  induction first generalizing ingress early with
  | nil =>
    simp only [Ingress.normalizeAll, Except.ok.injEq, Prod.mk.injEq] at done
    obtain ⟨rfl, rfl⟩ := done
    simp only [List.nil_append]
    cases ingress.normalizeAll rules second <;> rfl
  | cons chunk rest ih =>
    simp only [List.cons_append, Ingress.normalizeAll] at done ⊢
    cases here : ingress.normalize rules chunk with
    | error failure => simp only [here] at done; cases done
    | ok step =>
      obtain ⟨now, after⟩ := step
      simp only [here] at done ⊢
      cases there : after.normalizeAll rules rest with
      | error failure => simp only [there] at done; cases done
      | ok more =>
        obtain ⟨later, final⟩ := more
        simp only [there, Except.ok.injEq, Prod.mk.injEq] at done
        obtain ⟨rfl, rfl⟩ := done
        rw [ih there]
        cases final.normalizeAll rules second with
        | error failure => rfl
        | ok last => simp only [List.append_assoc]

theorem ingestStream_ended {early : List (ModelStreamChunk (TurnComplete J))}
    (done : ({} : Ingress).normalizeAll rules deltas = .ok (early, ingress)) (last : Option T) :
    ingestStream rules (deltas ++ ending last) =
      match last with
      | none => .ok (early ++ ingress.finish)
      | some raw =>
        match rules raw with
        | .error failure => .error (.refused failure)
        | .ok terminal => .ok (early ++ ingress.finish ++ ending (some terminal)) := by
  unfold ingestStream
  rw [normalizeAll_then done]
  cases last with
  | none =>
    simp only [ending, Option.map_none, Option.toList_none, Ingress.normalizeAll, List.append_nil]
  | some raw =>
    simp only [ending, Option.map_some, Option.toList_some, Ingress.normalizeAll]
    cases terminal : ingress.normalize rules (.turnComplete raw) with
    | error failure =>
      simp only [Ingress.normalize] at terminal
      cases accepted : rules raw with
      | error refusal =>
        simp only [accepted, Except.error.injEq] at terminal
        simp only [terminal]
      | ok normalized =>
        simp only [accepted] at terminal
        cases terminal
    | ok step =>
      obtain ⟨normalized, accepted, out, nothing⟩ :=
        Ingress.normalize_terminal (show _ = Except.ok (step.1, step.2) from terminal)
      simp only [accepted, out, nothing, List.append_nil, List.append_assoc]

theorem indexes_ended (deltas : List (ModelStreamChunk T)) (last : Option T) :
    indexes (deltas ++ ending last) = indexes deltas := by
  cases last <;> simp [ending, indexes, ModelStreamChunk.index]

theorem ingestStream_same {second : List (ModelStreamChunk T)} (closed : TerminalLast first)
    (also : TerminalLast second) (same : SameStream first second) :
    (∃ failure, ingestStream rules first = .error failure ∧
      ingestStream rules second = .error failure) ∨
    ∃ made other, ingestStream rules first = .ok made ∧ ingestStream rules second = .ok other ∧
      SameStream made other := by
  obtain ⟨deltas, last, rfl, open_⟩ := closed.split
  obtain ⟨others, twin, rfl, free⟩ := also.split
  have ends : last = twin := by
    have terminal := same.terminal
    rw [terminal_split open_, terminal_split free] at terminal
    cases last <;> cases twin <;> simp_all
  subst ends
  have named : ∀ index, index ∈ indexes deltas ↔ index ∈ indexes others := by
    intro index
    have order := same.order
    rw [indexes_ended, indexes_ended] at order
    have one := @mem_appearances [] (indexes deltas) index
    have other := @mem_appearances [] (indexes others) index
    rw [order] at one
    simp only [List.not_mem_nil, false_or] at one other
    exact one.symm.trans other
  by_cases negative : ∃ index ∈ indexes deltas, index < 0
  · obtain ⟨index, member, below⟩ := negative
    refine .inl ⟨.nonPortable, ?_, ?_⟩
    · unfold ingestStream
      rw [normalizeAll_refused _ open_ member below]
    · unfold ingestStream
      rw [normalizeAll_refused _ free ((named index).1 member) below]
  · have portable : ∀ index ∈ indexes deltas, 0 ≤ index :=
      fun index member => Int.not_lt.1 fun below => negative ⟨index, member, below⟩
    have taken : ∃ out next, ({} : Ingress).normalizeAll rules deltas = .ok (out, next) :=
      normalizeAll_portable {} open_ portable
    have also_taken : ∃ out next, ({} : Ingress).normalizeAll rules others = .ok (out, next) :=
      normalizeAll_portable {} free fun index member => portable index ((named index).2 member)
    obtain ⟨early, ingress, done⟩ := taken
    obtain ⟨soon, later, ran⟩ := also_taken
    have reflects := (normalizeAll_reflects reflects_fresh open_ done).finish
    have mirrored := (normalizeAll_reflects reflects_fresh free ran).finish
    simp only [List.nil_append] at reflects mirrored
    have through : ∀ terminal : Option (TurnComplete J),
        ingestStream rules (deltas ++ ending last) =
          .ok (early ++ ingress.finish ++ ending terminal) →
        ingestStream rules (others ++ ending last) =
          .ok (soon ++ later.finish ++ ending terminal) →
        SameStream (early ++ ingress.finish ++ ending terminal)
          (soon ++ later.finish ++ ending terminal) := by
      intro terminal one other
      refine Kept.same same (reflects.1.ended last terminal) (mirrored.1.ended last terminal) ?_ ?_
      · intro channel
        rw [ingestStream_channel closed one, ingestStream_channel also other, same.channel]
      · rw [List.filterMap_append, List.filterMap_append (l := soon ++ later.finish), reflects.2,
          mirrored.2]
    have one := ingestStream_ended done last
    have other := ingestStream_ended ran last
    cases last with
    | none =>
      refine .inr ⟨_, _, one, other, ?_⟩
      simpa [ending] using through none (by simpa [ending] using one)
        (by simpa [ending] using other)
    | some raw =>
      cases accepted : rules raw with
      | error failure =>
        simp only [accepted] at one other
        exact .inl ⟨_, one, other⟩
      | ok terminal =>
        simp only [accepted] at one other
        exact .inr ⟨_, _, one, other, through (some terminal) one other⟩

theorem ingestStream_accepts {chunks : List (ModelStreamChunk T)} (closed : TerminalLast chunks)
    (portable : ∀ index ∈ indexes chunks, 0 ≤ index)
    (accepted : ∀ raw, .turnComplete raw ∈ chunks → ∃ terminal, rules raw = .ok terminal) :
    ∃ emitted, ingestStream rules chunks = .ok emitted := by
  obtain ⟨deltas, last, rfl, open_⟩ := closed.split
  rw [indexes_ended] at portable
  have taken : ∃ out next, ({} : Ingress).normalizeAll rules deltas = .ok (out, next) :=
    normalizeAll_portable {} open_ portable
  obtain ⟨early, ingress, done⟩ := taken
  rw [ingestStream_ended done]
  cases last with
  | none => exact ⟨_, rfl⟩
  | some raw =>
    obtain ⟨terminal, fine⟩ := accepted raw (List.mem_append_right _ List.mem_cons_self)
    simp only [fine]
    exact ⟨_, rfl⟩

theorem streamed_turn (rules : T → Except F (TurnComplete J)) (fold : FoldRules A) :
    (∀ chunks, TerminalLast chunks → (∀ index ∈ indexes chunks, 0 ≤ index) →
      (∀ raw, .turnComplete raw ∈ chunks → ∃ terminal, rules raw = .ok terminal) →
      ∃ emitted, ingestStream rules chunks = .ok emitted) ∧
    (∀ chunks emitted, TerminalLast chunks → ingestStream rules chunks = .ok emitted →
      (∀ channel, channelText channel emitted =
        normalizeUnicodeScalars (channelText channel chunks)) ∧
      ∀ chunk ∈ emitted, chunk.Clean) ∧
    (∀ first second, TerminalLast first → TerminalLast second → SameStream first second →
      assembleStreamedTurn rules fold first = assembleStreamedTurn rules fold second) := by
  refine ⟨fun chunks => ingestStream_accepts, fun chunks emitted closed done => ?_,
    fun first second closed also same => ?_⟩
  · exact ⟨ingestStream_channel closed done, ingestStream_clean done⟩
  · unfold assembleStreamedTurn
    have alike := @ingestStream_same _ _ _ rules _ _ closed also same
    cases alike with
    | inl refused =>
      obtain ⟨failure, one, other⟩ := refused
      rw [one, other]
    | inr through =>
      obtain ⟨made, other, one, twin, alike⟩ := through
      rw [one, twin]
      exact (Assembly.fold_agrees alike).turn fold

end Streams

section Blank

variable {T : Type}

def lastFilled (texts : List Text) : Option Text := (texts.filter (!·.isEmpty)).getLast?

-- Two streams with the same text on every channel, the same order of tool calls, the same last
-- non-empty id and name of each, and the same terminal chunk.
structure SameFilled (first second : List (ModelStreamChunk T)) : Prop where
  channel : ∀ channel, channelText channel first = channelText channel second
  order : appearances [] (indexes first) = appearances [] (indexes second)
  id : ∀ index, lastFilled (first.filterMap (·.idAt index)) =
    lastFilled (second.filterMap (·.idAt index))
  name : ∀ index, lastFilled (first.filterMap (·.nameAt index)) =
    lastFilled (second.filterMap (·.nameAt index))
  terminal : first.filterMap (·.terminal) = second.filterMap (·.terminal)

def plainRules : TurnComplete Unit → Except Unit (TurnComplete Unit) := .ok

def plainFold : FoldRules Unit := ⟨id, fun _ => .ok (some ()), (), some⟩

def glance (chunks : List (ModelStreamChunk (TurnComplete Unit))) :
    Option (Option Text × List Text × Bool) :=
  match assembleStreamedTurn plainRules plainFold chunks with
  | .error _ => none
  | .ok turn => some (turn.finalText, turn.toolCalls.map (·.id), turn.providerRetried)

def namedCall : ModelStreamChunk (TurnComplete Unit) := .toolCallDelta 0 [] (some [97]) none false

def blankCall : ModelStreamChunk (TurnComplete Unit) := .toolCallDelta 0 [] (some []) none false

theorem blank_parts :
    SameFilled [namedCall] [namedCall, blankCall] ∧
      glance [namedCall] ≠ glance [namedCall, blankCall] ∧
    SameFilled ([] : List (ModelStreamChunk (TurnComplete Unit))) [.textDelta [] false] ∧
      glance [] ≠ glance [.textDelta [] false] ∧
    SameFilled ([.textDelta [104] true] : List (ModelStreamChunk (TurnComplete Unit)))
        [.textDelta [104] false] ∧
      glance [.textDelta [104] true] ≠ glance [.textDelta [104] false] := by
  refine ⟨⟨?_, by decide, ?_, ?_, rfl⟩, by decide, ⟨?_, rfl, fun _ => rfl, fun _ => rfl, rfl⟩,
    by decide, ⟨?_, rfl, fun _ => rfl, fun _ => rfl, rfl⟩, by decide⟩
  · intro channel
    by_cases here : channel = .toolArguments 0 <;>
      simp [namedCall, blankCall, ModelStreamChunk.on, here]
  · intro index
    by_cases here : (0 : Int) = index <;>
      simp [namedCall, blankCall, ModelStreamChunk.idAt, lastFilled, here]
  · intro index
    by_cases here : (0 : Int) = index <;>
      simp [namedCall, blankCall, ModelStreamChunk.nameAt, lastFilled, here]
  · intro channel
    simp [ModelStreamChunk.on]
  · intro channel
    simp [ModelStreamChunk.on]

end Blank

end MonoidKernel.Providers
