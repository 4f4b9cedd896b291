import MonoidKernel.Providers.StreamIngress

set_option autoImplicit false

namespace MonoidKernel.Providers

open Library (OrderedDict)

section Channels

variable {T : Type}

inductive Channel where
  | output
  | reasoning
  | toolArguments (index : Int)
deriving DecidableEq

def ModelStreamChunk.on (channel : Channel) : ModelStreamChunk T → Text
  | .textDelta text _ => if channel = .output then text else []
  | .reasoningDelta text _ => if channel = .reasoning then text else []
  | .toolCallDelta index argumentsFragment _ _ _ =>
    if channel = .toolArguments index then argumentsFragment else []
  | .turnComplete _ => []

def ModelStreamChunk.channel : ModelStreamChunk T → Option Channel
  | .textDelta _ _ => some .output
  | .reasoningDelta _ _ => some .reasoning
  | .toolCallDelta index _ _ _ _ => some (.toolArguments index)
  | .turnComplete _ => none

theorem on_other {chunk : ModelStreamChunk T} {channel : Channel}
    (other : chunk.channel ≠ some channel) : chunk.on channel = [] := by
  cases chunk with
  | textDelta text retried => exact if_neg fun same => other (congrArg some same.symm)
  | reasoningDelta text retried => exact if_neg fun same => other (congrArg some same.symm)
  | toolCallDelta index fragment id name retried =>
    exact if_neg fun same => other (congrArg some same.symm)
  | turnComplete terminal => rfl

theorem on_apart {first second : ModelStreamChunk T} (apart : first.channel ≠ second.channel)
    (channel : Channel) : first.on channel = [] ∨ second.on channel = [] := by
  by_cases here : first.channel = some channel
  · exact .inr (on_other fun there => apart (here.trans there.symm))
  · exact .inl (on_other here)

def channelText (channel : Channel) (chunks : List (ModelStreamChunk T)) : Text :=
  chunks.flatMap (·.on channel)

variable (channel : Channel)

@[simp] theorem channelText_nil :
    channelText channel ([] : List (ModelStreamChunk T)) = [] := rfl

@[simp] theorem channelText_cons (chunk : ModelStreamChunk T) (rest : List (ModelStreamChunk T)) :
    channelText channel (chunk :: rest) = chunk.on channel ++ channelText channel rest := rfl

@[simp] theorem channelText_append (first second : List (ModelStreamChunk T)) :
    channelText channel (first ++ second) =
      channelText channel first ++ channelText channel second := by
  simp only [channelText, List.flatMap_append]

end Channels

section Buffered

-- What came on a channel is what was repaired and emitted, before the half that is held.
structure Buffered (buffer : ChunkBuffer) (raw emitted : Text) : Prop where
  split : ∃ consumed, raw = consumed ++ buffer.pendingHigh.toList ∧
    emitted = repairScalars consumed ∧
    (buffer.pendingHigh = none → ∀ last, consumed.getLast? = some last →
      isHighSurrogate last = false)
  high : ∀ point, buffer.pendingHigh = some point → isHighSurrogate point = true

theorem buffered_fresh : Buffered {} [] [] where
  split := ⟨[], rfl, rfl, fun _ last found => by cases found⟩
  high := fun point found => by cases found

theorem apart_of_pending {consumed text : Text} {pendingHigh : Option Nat}
    (high : ∀ point, pendingHigh = some point → isHighSurrogate point = true)
    (complete : pendingHigh = none → ∀ last, consumed.getLast? = some last →
      isHighSurrogate last = false) : Apart consumed (pendingHigh.toList ++ text) := by
  intro last first ending starting pair
  rw [Bool.and_eq_true] at pair
  cases pendingHigh with
  | some point =>
    simp only [Option.toList_some, List.cons_append, List.head?_cons, Option.some.injEq]
      at starting
    have lower := not_low_of_high (high point rfl)
    rw [starting, pair.2] at lower
    cases lower
  | none =>
    have scalar := complete rfl last ending
    rw [pair.1] at scalar
    cases scalar

theorem apart_dropLast {left right : Text} (apart : Apart left right) :
    Apart left right.dropLast := by
  intro high low ending starting
  refine apart high low ending ?_
  cases right with
  | nil => cases starting
  | cons first rest =>
    cases rest with
    | nil => cases starting
    | cons second more => exact starting

variable {buffer : ChunkBuffer}

theorem feed_high {text : Text} {last : Nat}
    (ending : (buffer.pendingHigh.toList ++ text).getLast? = some last)
    (high : isHighSurrogate last = true) (retried : Bool) (sequence : Nat) :
    buffer.feed text retried sequence =
      ((repairScalars (buffer.pendingHigh.toList ++ text).dropLast,
          buffer.providerRetried || retried),
        ⟨some last, buffer.providerRetried || retried,
          some (buffer.keptSequence text sequence)⟩) := by
  simp only [ChunkBuffer.feed, ending, high, if_true, normalizeUnicodeScalars_eq]

theorem feed_scalar {text : Text}
    (scalar : ∀ last, (buffer.pendingHigh.toList ++ text).getLast? = some last →
      isHighSurrogate last = false) (retried : Bool) (sequence : Nat) :
    buffer.feed text retried sequence =
      ((repairScalars (buffer.pendingHigh.toList ++ text), buffer.providerRetried || retried),
        {}) := by
  cases ending : (buffer.pendingHigh.toList ++ text).getLast? with
  | none => simp only [ChunkBuffer.feed, ending, normalizeUnicodeScalars_eq]
  | some last =>
    simp only [ChunkBuffer.feed, ending, scalar last ending, Bool.false_eq_true, if_false,
      normalizeUnicodeScalars_eq]

theorem feed_buffered {raw emitted : Text} (buffered : Buffered buffer raw emitted) (text : Text)
    (retried : Bool) (sequence : Nat) :
    Buffered (buffer.feed text retried sequence).2 (raw ++ text)
      (emitted ++ (buffer.feed text retried sequence).1.1) := by
  obtain ⟨⟨consumed, came, repaired, complete⟩, high⟩ := buffered
  have apart : Apart consumed (buffer.pendingHigh.toList ++ text) :=
    apart_of_pending high complete
  have whole : raw ++ text = consumed ++ (buffer.pendingHigh.toList ++ text) := by
    rw [came, List.append_assoc]
  by_cases held : ∃ last, (buffer.pendingHigh.toList ++ text).getLast? = some last ∧
      isHighSurrogate last = true
  · obtain ⟨last, ending, surrogate⟩ := held
    have parts : (buffer.pendingHigh.toList ++ text).dropLast ++ [last] =
        buffer.pendingHigh.toList ++ text := List.dropLast_append_getLast? last ending
    rw [feed_high ending surrogate]
    constructor
    case split =>
      refine ⟨consumed ++ (buffer.pendingHigh.toList ++ text).dropLast, ?_, ?_,
        fun idle => by cases idle⟩
      · rw [whole, List.append_assoc, Option.toList_some, parts]
      · rw [repaired, repairScalars_append (apart_dropLast apart)]
    case high =>
      intro point found
      cases found
      exact surrogate
  · have scalar : ∀ last, (buffer.pendingHigh.toList ++ text).getLast? = some last →
        isHighSurrogate last = false := by
      intro last ending
      by_contra surrogate
      exact held ⟨last, ending, by simpa using surrogate⟩
    rw [feed_scalar scalar]
    constructor
    case split =>
      refine ⟨consumed ++ (buffer.pendingHigh.toList ++ text), ?_, ?_, ?_⟩
      · rw [whole]; exact (List.append_nil _).symm
      · rw [repaired, repairScalars_append apart]
      · intro _ last ending
        rw [List.getLast?_append] at ending
        cases here : (buffer.pendingHigh.toList ++ text).getLast? with
        | some other =>
          rw [here, Option.some_or] at ending
          cases ending
          exact scalar _ here
        | none =>
          rw [here, Option.none_or] at ending
          have nothing := List.append_eq_nil_iff.1 (List.getLast?_eq_none_iff.1 here)
          exact complete (Option.toList_eq_nil_iff.1 nothing.1) last ending
    case high => exact fun point found => by cases found

def ChunkBuffer.flushText (buffer : ChunkBuffer) : Text :=
  (buffer.flush.map (·.1)).getD []

theorem flush_buffered {raw emitted : Text} (buffered : Buffered buffer raw emitted) :
    emitted ++ buffer.flushText = repairScalars raw := by
  obtain ⟨⟨consumed, came, repaired, complete⟩, high⟩ := buffered
  have apart : Apart consumed (buffer.pendingHigh.toList ++ []) :=
    apart_of_pending high complete
  rw [came, repaired]
  unfold ChunkBuffer.flushText ChunkBuffer.flush
  cases held : buffer.pendingHigh with
  | none => simp
  | some point =>
    rw [held] at apart
    have alone : Apart consumed [point] := apart
    rw [Option.toList_some, repairScalars_append alone]
    simp only [repairScalars, replaceSurrogate_of_high (high point held), Option.map_some,
      Option.getD_some]

@[simp] theorem flush_flushed (buffer : ChunkBuffer) : buffer.flushed.flush = none := by
  unfold ChunkBuffer.flushed ChunkBuffer.flush
  split
  · rfl
  next held => rw [held]; rfl

end Buffered

section Flushes

variable {T : Type}

theorem flatMap_perm {A : Type} {term : A → Text} {first second : List A}
    (perm : first.Perm second)
    (apart : first.Pairwise fun a b => term a = [] ∨ term b = []) :
    first.flatMap term = second.flatMap term := by
  induction perm with
  | nil => rfl
  | cons head perm ih =>
    rw [List.flatMap_cons, List.flatMap_cons, ih (List.pairwise_cons.1 apart).2]
  | swap one other rest =>
    simp only [List.flatMap_cons]
    have alone := (List.pairwise_cons.1 apart).1 one List.mem_cons_self
    cases alone with
    | inl silent => simp [silent]
    | inr silent => simp [silent]
  | trans early later first second =>
    have kept := early.pairwise apart fun either => either.symm
    rw [first apart, second kept]

namespace Ingress

def buffer (ingress : Ingress) : Channel → ChunkBuffer
  | .output => ingress.text
  | .reasoning => ingress.reasoning
  | .toolArguments index => ingress.argumentsBuffer index

variable (channel : Channel)

theorem flush_on (entry : Int × ChunkBuffer) :
    ((entry.2.flush.map fun held =>
        (held.2.2, (.toolCallDelta entry.1 held.1 none none held.2.1 :
          ModelStreamChunk T))).toList.flatMap fun pending => pending.2.on channel) =
      if channel = .toolArguments entry.1 then entry.2.flushText else [] := by
  unfold ChunkBuffer.flushText
  cases entry.2.flush with
  | none => simp
  | some held => simp [ModelStreamChunk.on]

variable (ingress : Ingress)

theorem pendingArguments_eq :
    (ingress.pendingArguments : List (Nat × ModelStreamChunk T)) =
      ingress.toolArguments.entries.flatMap fun entry =>
        (entry.2.flush.map fun held =>
          (held.2.2, .toolCallDelta entry.1 held.1 none none held.2.1)).toList :=
  List.filterMap_eq_flatMap_toList _ _

theorem entries_on {entries : List (Int × ChunkBuffer)}
    (distinct : (entries.map (·.1)).Nodup) (channel : Channel) :
    (entries.flatMap fun entry =>
        if channel = .toolArguments entry.1 then entry.2.flushText else []) =
      match channel with
      | .toolArguments index => ((entries.lookup index).getD {}).flushText
      | _ => [] := by
  induction entries with
  | nil => cases channel <;> rfl
  | cons entry rest ih =>
    obtain ⟨name, held⟩ := entry
    rw [List.map_cons, List.nodup_cons] at distinct
    rw [List.flatMap_cons, ih distinct.2]
    cases channel with
    | output => simp
    | reasoning => simp
    | toolArguments index =>
      simp only [OrderedDict.lookup_cons_ite, Channel.toolArguments.injEq]
      by_cases same : index = name
      · have absent : rest.lookup index = none := by
          rw [List.lookup_eq_none_iff]
          intro entry member
          have apart : entry.1 ≠ index := by
            intro equal
            have named : entry.1 ∈ rest.map (·.1) := List.mem_map_of_mem member
            exact distinct.1 (same ▸ equal ▸ named)
          simpa using apart.symm
        rw [if_pos same, if_pos same, absent]
        exact List.append_nil _
      · rw [if_neg same, if_neg same, List.nil_append]

theorem pending_on :
    ((ingress.pending : List (Nat × ModelStreamChunk T)).flatMap fun held =>
      held.2.on channel) = (ingress.buffer channel).flushText := by
  unfold pending
  rw [List.flatMap_append, List.flatMap_append, pendingArguments_eq, List.flatMap_assoc]
  simp only [flush_on]
  rw [entries_on ingress.toolArguments.distinct]
  unfold pendingText pendingReasoning buffer ChunkBuffer.flushText
  cases channel with
  | output =>
    cases ingress.text.flush <;> cases ingress.reasoning.flush <;> simp [ModelStreamChunk.on]
  | reasoning =>
    cases ingress.text.flush <;> cases ingress.reasoning.flush <;> simp [ModelStreamChunk.on]
  | toolArguments index =>
    cases ingress.text.flush <;> cases ingress.reasoning.flush <;>
      simp [ModelStreamChunk.on, argumentsBuffer, OrderedDict.get?]

variable {ingress : Ingress} {held : Nat × ModelStreamChunk T}

theorem pendingText_channel (member : held ∈ ingress.pendingText) :
    held.2.channel = some .output := by
  obtain ⟨kept, _, rfl⟩ := List.mem_map.1 member
  rfl

theorem pendingReasoning_channel (member : held ∈ ingress.pendingReasoning) :
    held.2.channel = some .reasoning := by
  obtain ⟨kept, _, rfl⟩ := List.mem_map.1 member
  rfl

theorem pendingArguments_channel (member : held ∈ ingress.pendingArguments) :
    ∃ index ∈ ingress.toolArguments.keys, held.2.channel = some (.toolArguments index) := by
  obtain ⟨entry, stored, made⟩ := List.mem_filterMap.1 member
  obtain ⟨kept, _, rfl⟩ := Option.map_eq_some_iff.1 made
  exact ⟨entry.1, List.mem_map_of_mem stored, rfl⟩

theorem pendingArguments_apart :
    (ingress.pendingArguments : List (Nat × ModelStreamChunk T)).Pairwise fun first second =>
      first.2.channel ≠ second.2.channel := by
  unfold pendingArguments
  rw [List.pairwise_filterMap]
  have distinct : ingress.toolArguments.entries.Pairwise fun first second =>
      first.1 ≠ second.1 := List.pairwise_map.1 ingress.toolArguments.distinct
  refine distinct.imp fun {first second} apart one made other built same => apart ?_
  obtain ⟨held, _, rfl⟩ := Option.map_eq_some_iff.1 made
  obtain ⟨kept, _, rfl⟩ := Option.map_eq_some_iff.1 built
  simpa [ModelStreamChunk.channel] using same

theorem pending_apart :
    (ingress.pending : List (Nat × ModelStreamChunk T)).Pairwise fun first second =>
      first.2.channel ≠ second.2.channel := by
  have single : ∀ {A B : Type} (option : Option A) (build : A → B) (apart : B → B → Prop),
      (option.toList.map build).Pairwise apart := by
    intro A B option build apart
    cases option <;> simp
  unfold pending
  rw [List.pairwise_append, List.pairwise_append]
  refine ⟨⟨single _ _ _, single _ _ _, ?_⟩, ingress.pendingArguments_apart, ?_⟩
  · intro first one second other
    rw [pendingText_channel one, pendingReasoning_channel other]
    nofun
  · intro first one second other
    obtain ⟨index, _, named⟩ := pendingArguments_channel other
    rw [named]
    cases List.mem_append.1 one with
    | inl text => rw [pendingText_channel text]; nofun
    | inr reasoning => rw [pendingReasoning_channel reasoning]; nofun

theorem finish_on :
    channelText channel (ingress.finish : List (ModelStreamChunk T)) =
      (ingress.buffer channel).flushText := by
  rw [← ingress.pending_on (T := T)]
  unfold channelText finish
  rw [List.flatMap_map]
  refine (flatMap_perm (List.perm_insertionSort _ _).symm ?_).symm
  exact ingress.pending_apart.imp fun {first second} apart => on_apart apart channel

end Ingress

end Flushes

section Streams

variable {T J F : Type} {rules : T → Except F (TurnComplete J)}

namespace Ingress

def Tracks (ingress : Ingress) (raw : List (ModelStreamChunk T))
    (emitted : List (ModelStreamChunk (TurnComplete J))) : Prop :=
  ∀ channel, Buffered (ingress.buffer channel) (channelText channel raw)
    (channelText channel emitted)

theorem tracks_fresh :
    ({} : Ingress).Tracks ([] : List (ModelStreamChunk T))
      ([] : List (ModelStreamChunk (TurnComplete J))) := by
  intro channel
  cases channel <;> exact buffered_fresh

variable {ingress next : Ingress} {out : List (ModelStreamChunk (TurnComplete J))}

variable {chunk : ModelStreamChunk T}

theorem normalize_tracks {raw : List (ModelStreamChunk T)}
    {emitted : List (ModelStreamChunk (TurnComplete J))} (tracks : ingress.Tracks raw emitted)
    (delta : chunk.channel ≠ none) (done : ingress.normalize rules chunk = .ok (out, next)) :
    next.Tracks (raw ++ [chunk]) (emitted ++ out) := by
  intro channel
  have here := tracks channel
  cases chunk with
  | textDelta text retried =>
    simp only [normalize, Except.ok.injEq, Prod.mk.injEq] at done
    obtain ⟨rfl, rfl⟩ := done
    cases channel with
    | output =>
      simpa [ModelStreamChunk.on, buffer] using feed_buffered here text retried ingress.sequence
    | reasoning => simpa [ModelStreamChunk.on, buffer] using here
    | toolArguments index => simpa [ModelStreamChunk.on, buffer, argumentsBuffer] using here
  | reasoningDelta text retried =>
    simp only [normalize, Except.ok.injEq, Prod.mk.injEq] at done
    obtain ⟨rfl, rfl⟩ := done
    cases channel with
    | output => simpa [ModelStreamChunk.on, buffer] using here
    | reasoning =>
      simpa [ModelStreamChunk.on, buffer] using feed_buffered here text retried ingress.sequence
    | toolArguments index => simpa [ModelStreamChunk.on, buffer, argumentsBuffer] using here
  | toolCallDelta index fragment id name retried =>
    simp only [normalize] at done
    split at done
    · cases done
    · simp only [Except.ok.injEq, Prod.mk.injEq] at done
      obtain ⟨rfl, rfl⟩ := done
      cases channel with
      | output => simpa [ModelStreamChunk.on, buffer] using here
      | reasoning => simpa [ModelStreamChunk.on, buffer] using here
      | toolArguments other =>
        by_cases same : other = index
        · subst same
          simpa [ModelStreamChunk.on, buffer, argumentsBuffer] using
            feed_buffered here fragment retried ingress.sequence
        · simpa [ModelStreamChunk.on, same, buffer, argumentsBuffer, OrderedDict.get?_set]
            using here
  | turnComplete terminal => exact absurd rfl delta

theorem normalizeAll_append {first second : List (ModelStreamChunk T)}
    (done : ingress.normalizeAll rules (first ++ second) = .ok (out, next)) :
    ∃ early middle late, ingress.normalizeAll rules first = .ok (early, middle) ∧
      middle.normalizeAll rules second = .ok (late, next) ∧ out = early ++ late := by
  induction first generalizing ingress out with
  | nil => exact ⟨[], ingress, out, rfl, done, rfl⟩
  | cons chunk rest ih =>
    simp only [List.cons_append, normalizeAll] at done ⊢
    cases here : ingress.normalize rules chunk with
    | error failure => simp only [here] at done; cases done
    | ok step =>
      obtain ⟨now, after⟩ := step
      simp only [here] at done ⊢
      cases there : after.normalizeAll rules (rest ++ second) with
      | error failure => simp only [there] at done; cases done
      | ok more =>
        obtain ⟨later, final⟩ := more
        simp only [there, Except.ok.injEq, Prod.mk.injEq] at done
        obtain ⟨rfl, rfl⟩ := done
        obtain ⟨early, middle, late, ran, ended, rfl⟩ := ih there
        exact ⟨now ++ early, middle, late, by rw [ran], ended, (List.append_assoc _ _ _).symm⟩

theorem normalizeAll_head {rest : List (ModelStreamChunk T)}
    (done : ingress.normalizeAll rules (chunk :: rest) = .ok (out, next)) :
    ∃ early middle late, ingress.normalizeAll rules [chunk] = .ok (early, middle) ∧
      middle.normalizeAll rules rest = .ok (late, next) ∧ out = early ++ late :=
  normalizeAll_append (show ingress.normalizeAll rules ([chunk] ++ rest) = _ from done)

theorem normalizeAll_singleton (done : ingress.normalizeAll rules [chunk] = .ok (out, next)) :
    ingress.normalize rules chunk = .ok (out, next) := by
  simp only [normalizeAll] at done
  cases here : ingress.normalize rules chunk with
  | error failure => simp only [here] at done; cases done
  | ok step =>
    simp only [here, List.append_nil] at done
    exact done

theorem normalizeAll_tracks {raw deltas : List (ModelStreamChunk T)}
    {emitted : List (ModelStreamChunk (TurnComplete J))} (tracks : ingress.Tracks raw emitted)
    (open_ : ∀ chunk ∈ deltas, chunk.channel ≠ none)
    (done : ingress.normalizeAll rules deltas = .ok (out, next)) :
    next.Tracks (raw ++ deltas) (emitted ++ out) := by
  induction deltas generalizing ingress raw emitted out with
  | nil =>
    simp only [normalizeAll, Except.ok.injEq, Prod.mk.injEq] at done
    obtain ⟨rfl, rfl⟩ := done
    simpa using tracks
  | cons chunk rest ih =>
    obtain ⟨early, middle, late, first, second, rfl⟩ :=
      normalizeAll_head done
    have moved := normalize_tracks tracks (open_ chunk List.mem_cons_self)
      (normalizeAll_singleton first)
    have rest_open : ∀ other ∈ rest, other.channel ≠ none :=
      fun other member => open_ other (List.mem_cons_of_mem _ member)
    simpa only [List.append_assoc, List.singleton_append] using ih moved rest_open second

theorem finish_finished (ingress : Ingress) :
    (ingress.finished.finish : List (ModelStreamChunk T)) = [] := by
  have arguments : (ingress.finished.pendingArguments : List (Nat × ModelStreamChunk T)) = [] := by
    unfold pendingArguments finished
    rw [List.filterMap_eq_nil_iff]
    intro entry member
    obtain ⟨held, _, rfl⟩ := List.mem_map.1 member
    simp only [flush_flushed, Option.map_none]
  have nothing : (ingress.finished.pending : List (Nat × ModelStreamChunk T)) = [] := by
    unfold pending
    rw [arguments]
    simp only [pendingText, pendingReasoning, finished, flush_flushed, Option.toList_none,
      List.map_nil, List.append_nil]
  unfold finish
  rw [nothing]
  rfl

theorem normalize_terminal {raw : T}
    (done : ingress.normalize rules (.turnComplete raw) = .ok (out, next)) :
    ∃ terminal, rules raw = .ok terminal ∧ out = ingress.finish ++ [.turnComplete terminal] ∧
      (next.finish : List (ModelStreamChunk (TurnComplete J))) = [] := by
  simp only [normalize] at done
  cases accepted : rules raw with
  | error failure => simp only [accepted] at done; cases done
  | ok terminal =>
    simp only [accepted, Except.ok.injEq, Prod.mk.injEq] at done
    obtain ⟨rfl, rfl⟩ := done
    exact ⟨terminal, rfl, rfl, ingress.finish_finished⟩

end Ingress

def ending (last : Option T) : List (ModelStreamChunk T) := (last.map .turnComplete).toList

@[simp] theorem channelText_ending (channel : Channel) (last : Option T) :
    channelText channel (ending last) = [] := by
  cases last <;> rfl

def TerminalLast (chunks : List (ModelStreamChunk T)) : Prop :=
  ∀ chunk ∈ chunks.dropLast, chunk.channel ≠ none

variable {chunks : List (ModelStreamChunk T)}

theorem TerminalLast.split (closed : TerminalLast chunks) :
    ∃ deltas, ∃ last : Option T, chunks = deltas ++ ending last ∧
      ∀ chunk ∈ deltas, chunk.channel ≠ none := by
  cases chunks.eq_nil_or_concat with
  | inl nothing => exact ⟨[], none, by rw [nothing]; rfl, fun chunk member => by cases member⟩
  | inr appended =>
    obtain ⟨deltas, last, rfl⟩ := appended
    rw [List.concat_eq_append] at closed ⊢
    unfold TerminalLast at closed
    rw [List.dropLast_concat] at closed
    by_cases terminal : last.channel = none
    · cases last with
      | turnComplete raw => exact ⟨deltas, some raw, rfl, closed⟩
      | _ => cases terminal
    · refine ⟨deltas ++ [last], none, (List.append_nil _).symm, fun chunk member => ?_⟩
      cases List.mem_append.1 member with
      | inl early => exact closed chunk early
      | inr here =>
        rw [List.mem_singleton.1 here]
        exact terminal

variable {emitted : List (ModelStreamChunk (TurnComplete J))}

theorem ingestStream_split {deltas : List (ModelStreamChunk T)} {last : Option T}
    (done : ingestStream rules (deltas ++ ending last) = .ok emitted) :
    ∃ early ingress, ({} : Ingress).normalizeAll rules deltas = .ok (early, ingress) ∧
      ∃ terminal : Option (TurnComplete J),
        emitted = early ++ ingress.finish ++ ending terminal ∧
        (∀ raw, last = some raw → ∃ normalized, rules raw = .ok normalized ∧
          terminal = some normalized) ∧ (last = none → terminal = none) := by
  unfold ingestStream at done
  cases ran : ({} : Ingress).normalizeAll rules (deltas ++ ending last) with
  | error failure => simp only [ran] at done; cases done
  | ok result =>
    obtain ⟨out, final⟩ := result
    simp only [ran, Except.ok.injEq] at done
    obtain ⟨early, middle, late, first, second, rfl⟩ := Ingress.normalizeAll_append ran
    refine ⟨early, middle, first, ?_⟩
    cases last with
    | none =>
      simp only [ending, Option.map_none, Option.toList_none, Ingress.normalizeAll,
        Except.ok.injEq, Prod.mk.injEq] at second
      obtain ⟨rfl, rfl⟩ := second
      refine ⟨none, by simpa [ending] using done.symm, ?_, fun _ => rfl⟩
      intro raw found
      cases found
    | some raw =>
      obtain ⟨terminal, accepted, rfl, nothing⟩ :=
        Ingress.normalize_terminal (Ingress.normalizeAll_singleton second)
      refine ⟨some terminal, ?_, ?_, fun absent => by cases absent⟩
      · rw [← done, nothing]
        simp [ending]
      · intro other found
        cases found
        exact ⟨terminal, accepted, rfl⟩

theorem ingestStream_channel (closed : TerminalLast chunks)
    (done : ingestStream rules chunks = .ok emitted) (channel : Channel) :
    channelText channel emitted = normalizeUnicodeScalars (channelText channel chunks) := by
  obtain ⟨deltas, last, rfl, open_⟩ := closed.split
  obtain ⟨early, ingress, ran, terminal, rfl, _⟩ := ingestStream_split done
  have tracks := Ingress.normalizeAll_tracks Ingress.tracks_fresh open_ ran channel
  simp only [List.nil_append] at tracks
  simp only [normalizeUnicodeScalars_eq, channelText_append, channelText_ending, List.append_nil,
    Ingress.finish_on]
  exact flush_buffered tracks

def ModelStreamChunk.Clean (chunk : ModelStreamChunk T) : Prop :=
  ∀ channel, ∀ point ∈ chunk.on channel, isSurrogate point = false

theorem feed_clean (buffer : ChunkBuffer) (text : Text) (retried : Bool) (sequence : Nat) :
    ∀ point ∈ (buffer.feed text retried sequence).1.1, isSurrogate point = false := by
  have normalized : ∀ raw : Text, ∀ point ∈ normalizeUnicodeScalars raw,
      isSurrogate point = false := by
    intro raw point member
    rw [normalizeUnicodeScalars_eq] at member
    exact repairScalars_scalar raw point member
  simp only [ChunkBuffer.feed]
  split
  · split <;> exact normalized _
  · exact normalized _

theorem clean_of_channel {chunk : ModelStreamChunk T} {text : Text}
    (carries : ∀ channel, chunk.on channel = text ∨ chunk.on channel = [])
    (clean : ∀ point ∈ text, isSurrogate point = false) : chunk.Clean := by
  intro channel point member
  cases carries channel with
  | inl same => exact clean point (same ▸ member)
  | inr silent => rw [silent] at member; cases member

theorem Ingress.pending_clean (ingress : Ingress) :
    ∀ held ∈ (ingress.pending : List (Nat × ModelStreamChunk T)), held.2.Clean := by
  have flushes : ∀ {buffer : ChunkBuffer} {held : Text × Bool × Nat},
      buffer.flush = some held → ∀ point ∈ held.1, isSurrogate point = false := by
    intro buffer held found
    unfold ChunkBuffer.flush at found
    obtain ⟨_, _, rfl⟩ := Option.map_eq_some_iff.1 found
    intro point member
    rw [List.mem_singleton.1 member]
    rfl
  intro held member
  unfold Ingress.pending at member
  cases List.mem_append.1 member with
  | inl texts =>
    cases List.mem_append.1 texts with
    | inl text =>
      obtain ⟨kept, found, rfl⟩ := List.mem_map.1 text
      exact clean_of_channel (fun _ => ite_eq_or_eq _ _ _)
        (flushes (Option.mem_toList.1 found))
    | inr reasoning =>
      obtain ⟨kept, found, rfl⟩ := List.mem_map.1 reasoning
      exact clean_of_channel (fun _ => ite_eq_or_eq _ _ _)
        (flushes (Option.mem_toList.1 found))
  | inr arguments =>
    obtain ⟨entry, _, made⟩ := List.mem_filterMap.1 arguments
    obtain ⟨kept, found, rfl⟩ := Option.map_eq_some_iff.1 made
    exact clean_of_channel (fun _ => ite_eq_or_eq _ _ _) (flushes found)

theorem Ingress.finish_clean (ingress : Ingress) :
    ∀ chunk ∈ (ingress.finish : List (ModelStreamChunk T)), chunk.Clean := by
  intro chunk member
  obtain ⟨held, sorted, rfl⟩ := List.mem_map.1 member
  exact ingress.pending_clean held ((List.mem_insertionSort _).1 sorted)

theorem Ingress.normalize_clean {ingress next : Ingress} {chunk : ModelStreamChunk T}
    {out : List (ModelStreamChunk (TurnComplete J))}
    (done : ingress.normalize rules chunk = .ok (out, next)) : ∀ made ∈ out, made.Clean := by
  cases chunk with
  | textDelta text retried =>
    simp only [normalize, Except.ok.injEq, Prod.mk.injEq] at done
    obtain ⟨rfl, rfl⟩ := done
    intro made member
    rw [List.mem_singleton.1 member]
    exact clean_of_channel (fun _ => ite_eq_or_eq _ _ _) (feed_clean _ _ _ _)
  | reasoningDelta text retried =>
    simp only [normalize, Except.ok.injEq, Prod.mk.injEq] at done
    obtain ⟨rfl, rfl⟩ := done
    intro made member
    rw [List.mem_singleton.1 member]
    exact clean_of_channel (fun _ => ite_eq_or_eq _ _ _) (feed_clean _ _ _ _)
  | toolCallDelta index fragment id name retried =>
    simp only [normalize] at done
    split at done
    · cases done
    · simp only [Except.ok.injEq, Prod.mk.injEq] at done
      obtain ⟨rfl, rfl⟩ := done
      intro made member
      rw [List.mem_singleton.1 member]
      exact clean_of_channel (fun _ => ite_eq_or_eq _ _ _) (feed_clean _ _ _ _)
  | turnComplete raw =>
    obtain ⟨terminal, _, rfl, _⟩ := normalize_terminal done
    intro made member
    cases List.mem_append.1 member with
    | inl flushed => exact ingress.finish_clean made flushed
    | inr last =>
      rw [List.mem_singleton.1 last]
      intro channel point carried
      cases carried

theorem Ingress.normalizeAll_clean {ingress next : Ingress}
    {out : List (ModelStreamChunk (TurnComplete J))}
    (done : ingress.normalizeAll rules chunks = .ok (out, next)) : ∀ made ∈ out, made.Clean := by
  induction chunks generalizing ingress out with
  | nil =>
    simp only [normalizeAll, Except.ok.injEq, Prod.mk.injEq] at done
    obtain ⟨rfl, rfl⟩ := done
    intro made member
    cases member
  | cons chunk rest ih =>
    obtain ⟨early, middle, late, first, second, rfl⟩ :=
      normalizeAll_head done
    intro made member
    cases List.mem_append.1 member with
    | inl here => exact normalize_clean (normalizeAll_singleton first) made here
    | inr later => exact ih second made later

theorem ingestStream_clean (done : ingestStream rules chunks = .ok emitted) :
    ∀ chunk ∈ emitted, chunk.Clean := by
  unfold ingestStream at done
  cases ran : ({} : Ingress).normalizeAll rules chunks with
  | error failure => simp only [ran] at done; cases done
  | ok result =>
    simp only [ran, Except.ok.injEq] at done
    subst done
    intro chunk member
    cases List.mem_append.1 member with
    | inl early => exact Ingress.normalizeAll_clean ran chunk early
    | inr flushed => exact result.2.finish_clean chunk flushed

end Streams

end MonoidKernel.Providers
