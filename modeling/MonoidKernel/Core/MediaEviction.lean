import Mathlib.Data.List.Infix
import MonoidKernel.Library.FirstSelected

set_option autoImplicit false

-- Translated from count_tool_result_images and evict_tool_result_images of core/media.py.
namespace MonoidKernel.Media

open Library

-- A part's type counts where it is a text. (An unhashable one, which makes the look-up among the
-- forwardable types raise, is left out.)
structure MediaPart (V : Type) where
  type : Option String
  body : V
deriving DecidableEq

-- A message of the log; a `media` field that is no list is among the other fields.
structure Message (V : Type) where
  role : Option String
  media : Option (List (MediaPart V))
  rest : V
deriving DecidableEq

def wireForwardablePartTypes : List String := ["image", "document"]

section Eviction

variable {V : Type}

def MediaPart.forwardable (part : MediaPart V) : Bool :=
  part.type.any fun type => wireForwardablePartTypes.contains type

def MediaPart.isImage (part : MediaPart V) : Bool := part.type == some "image"

def Message.toolMedia (message : Message V) : Option (List (MediaPart V)) :=
  if message.role = some "tool" then message.media else none

def countToolResultImages (messages : List (Message V)) : Nat :=
  (messages.flatMap fun message => (message.toolMedia.getD []).filter MediaPart.forwardable).length

-- The inner loop, for the parts that `goes` selects; the second part is `removed` after it.
def keptParts (goes : MediaPart V → Bool) (toRemove : Nat) :
    Nat → List (MediaPart V) → List (MediaPart V) × Nat
  | removed, [] => ([], removed)
  | removed, part :: rest =>
    if goes part ∧ removed < toRemove then keptParts goes toRemove (removed + 1) rest
    else
      let kept := keptParts goes toRemove removed rest
      (part :: kept.1, kept.2)

def keptMessages (goes : MediaPart V → Bool) (toRemove : Nat) :
    Nat → List (Message V) → List (Message V)
  | _, [] => []
  | removed, message :: rest =>
    match message.toolMedia with
    | none => message :: keptMessages goes toRemove removed rest
    | some media =>
      let kept := keptParts goes toRemove removed media
      { message with media := some kept.1 } :: keptMessages goes toRemove kept.2 rest

def effectiveChunk (keepN : Nat) (chunk : Option Nat) : Nat :=
  match chunk with
  | some (size + 1) => size + 1
  | _ => if keepN = 0 then 1 else keepN

def numberToRemove (keepN : Nat) (chunk : Option Nat) (total : Nat) : Nat :=
  let toRemove := total - keepN
  toRemove - toRemove % effectiveChunk keepN chunk

def evictToolResultImages (messages : List (Message V)) (keepN : Option Nat)
    (chunk : Option Nat) : List (Message V) :=
  match keepN with
  | none => messages
  | some keepN =>
    let toRemove := numberToRemove keepN chunk (countToolResultImages messages)
    if toRemove = 0 then messages
    else keptMessages MediaPart.forwardable toRemove 0 messages

end Eviction

section Meaning

variable {V : Type}

def toolParts (messages : List (Message V)) : List (MediaPart V) :=
  messages.flatMap fun message => message.toolMedia.getD []

def imageCount (messages : List (Message V)) : Nat := (toolParts messages).countP MediaPart.isImage

def withoutOldestImages (number : Nat) (messages : List (Message V)) : List (Message V) :=
  keptMessages MediaPart.isImage number 0 messages

def excessChunks (keepN : Nat) (chunk : Option Nat) (messages : List (Message V)) : Nat :=
  (imageCount messages - keepN) / effectiveChunk keepN chunk

def Thinned (goes : MediaPart V → Bool) (before after : Message V) : Prop :=
  match before.toolMedia with
  | none => after = before
  | some media => ∃ kept : List (MediaPart V), after = { before with media := some kept } ∧
      kept.Sublist media ∧
        kept.filter (fun part => !goes part) = media.filter fun part => !goes part

structure Evicts (keepN : Nat) (chunk : Option Nat) (messages later : List (Message V)) : Prop where
  onlyImages : List.Forall₂ (Thinned MediaPart.isImage) messages
    (evictToolResultImages messages (some keepN) chunk)
  oldestImages : ∃ number ≤ imageCount messages,
    evictToolResultImages messages (some keepN) chunk = withoutOldestImages number messages
  enough : min keepN (imageCount messages) ≤
    imageCount (evictToolResultImages messages (some keepN) chunk)
  bounded : imageCount (evictToolResultImages messages (some keepN) chunk) <
    keepN + effectiveChunk keepN chunk
  stable : excessChunks keepN chunk (messages ++ later) = excessChunks keepN chunk messages →
    evictToolResultImages messages (some keepN) chunk <+:
      evictToolResultImages (messages ++ later) (some keepN) chunk

end Meaning

section Loops

variable {V : Type} {goes : MediaPart V → Bool}

theorem keptParts_spec (toRemove removed : Nat) (media : List (MediaPart V)) :
    keptParts goes toRemove removed media =
      (dropSelected goes (toRemove - removed) media,
        removed + min (toRemove - removed) (media.countP goes)) := by
  induction media generalizing removed with
  | nil => simp [keptParts, dropSelected]
  | cons part rest ih =>
    unfold keptParts
    cases gone : goes part with
    | false =>
      rw [if_neg (by simp), ih, dropSelected_stays gone, List.countP_cons]
      simp [gone]
    | true =>
      by_cases more : removed < toRemove
      · obtain ⟨left, budget⟩ : ∃ left, toRemove - removed = left + 1 :=
          ⟨toRemove - removed - 1, by omega⟩
        have next : toRemove - (removed + 1) = left := by omega
        rw [if_pos ⟨rfl, more⟩, ih, next, budget, dropSelected_goes gone, List.countP_cons]
        simp only [gone, if_true, Prod.mk.injEq, true_and]
        omega
      · have spent : toRemove - removed = 0 := by omega
        rw [if_neg (by simp [more]), ih, spent]
        simp

theorem keptMessages_budget (toRemove removed : Nat) (messages : List (Message V)) :
    keptMessages goes toRemove removed messages =
      keptMessages goes (toRemove - removed) 0 messages := by
  induction messages generalizing toRemove removed with
  | nil => rfl
  | cons message rest ih =>
    unfold keptMessages
    split
    · rw [ih]
    next media =>
      simp only [keptParts_spec, Nat.sub_zero, Nat.zero_add]
      rw [ih toRemove, ih (toRemove - removed)]
      congr 2
      omega

variable {message : Message V}

theorem keptMessages_other (other : message.toolMedia = none) (number : Nat)
    (rest : List (Message V)) :
    keptMessages goes number 0 (message :: rest) = message :: keptMessages goes number 0 rest := by
  simp [keptMessages, other]

variable {media : List (MediaPart V)}

theorem keptMessages_tool (tool : message.toolMedia = some media) (number : Nat)
    (rest : List (Message V)) :
    keptMessages goes number 0 (message :: rest) =
      { message with media := some (dropSelected goes number media) } ::
        keptMessages goes (number - media.countP goes) 0 rest := by
  simp only [keptMessages, tool, keptParts_spec, Nat.sub_zero, Nat.zero_add]
  rw [keptMessages_budget]
  congr 2
  omega

theorem toolParts_other (other : message.toolMedia = none) (rest : List (Message V)) :
    toolParts (message :: rest) = toolParts rest := by
  simp [toolParts, other]

theorem toolParts_tool (tool : message.toolMedia = some media) (rest : List (Message V)) :
    toolParts (message :: rest) = media ++ toolParts rest := by
  simp [toolParts, tool]

theorem toolMedia_replaced (tool : message.toolMedia = some media) (other : List (MediaPart V)) :
    { message with media := some other }.toolMedia = some other := by
  unfold Message.toolMedia at tool ⊢
  split at tool
  next named => exact if_pos named
  · cases tool

@[simp] theorem keptMessages_zero (messages : List (Message V)) :
    keptMessages goes 0 0 messages = messages := by
  induction messages with
  | nil => rfl
  | cons message rest ih =>
    cases tool : message.toolMedia with
    | none => rw [keptMessages_other tool, ih]
    | some media =>
      have same : message.media = some media := by
        unfold Message.toolMedia at tool
        split at tool
        · exact tool
        · cases tool
      rw [keptMessages_tool tool, Nat.zero_sub, ih, dropSelected_zero, ← same]

variable (number : Nat)

theorem keptMessages_parts (messages : List (Message V)) :
    toolParts (keptMessages goes number 0 messages) =
      dropSelected goes number (toolParts messages) := by
  induction messages generalizing number with
  | nil => simp [keptMessages, toolParts, dropSelected]
  | cons message rest ih =>
    cases tool : message.toolMedia with
    | none =>
      rw [keptMessages_other tool, toolParts_other tool, toolParts_other tool, ih]
    | some media =>
      rw [keptMessages_tool tool, toolParts_tool (toolMedia_replaced tool _), toolParts_tool tool,
        ih, dropSelected_append]

theorem keptMessages_append (messages later : List (Message V)) :
    keptMessages goes number 0 (messages ++ later) = keptMessages goes number 0 messages ++
      keptMessages goes (number - (toolParts messages).countP goes) 0 later := by
  induction messages generalizing number with
  | nil => simp [keptMessages, toolParts]
  | cons message rest ih =>
    rw [List.cons_append]
    cases tool : message.toolMedia with
    | none =>
      rw [keptMessages_other tool, keptMessages_other tool, toolParts_other tool, ih,
        List.cons_append]
    | some media =>
      rw [keptMessages_tool tool, keptMessages_tool tool, toolParts_tool tool, ih,
        List.countP_append, List.cons_append, Nat.sub_add_eq]

theorem keptMessages_length (removed : Nat) (messages : List (Message V)) :
    (keptMessages goes number removed messages).length = messages.length := by
  induction messages generalizing removed with
  | nil => rfl
  | cons message rest ih =>
    unfold keptMessages
    split <;> simp [ih]

theorem keptMessages_thinned (messages : List (Message V)) :
    List.Forall₂ (Thinned goes) messages (keptMessages goes number 0 messages) := by
  induction messages generalizing number with
  | nil => exact .nil
  | cons message rest ih =>
    cases tool : message.toolMedia with
    | none =>
      rw [keptMessages_other tool]
      exact .cons (by simp [Thinned, tool]) (ih number)
    | some media =>
      rw [keptMessages_tool tool]
      refine .cons ?_ (ih _)
      simp only [Thinned, tool]
      exact ⟨_, rfl, dropSelected_sublist number media, dropSelected_others number media⟩

theorem keptMessages_congr {number other : Nat} {messages : List (Message V)}
    (same : min number ((toolParts messages).countP goes) =
      min other ((toolParts messages).countP goes)) :
    keptMessages goes number 0 messages = keptMessages goes other 0 messages := by
  induction messages generalizing number other with
  | nil => rfl
  | cons message rest ih =>
    cases tool : message.toolMedia with
    | none =>
      rw [toolParts_other tool] at same
      rw [keptMessages_other tool, keptMessages_other tool, ih same]
    | some media =>
      rw [toolParts_tool tool, List.countP_append] at same
      have here : min number (media.countP goes) = min other (media.countP goes) := by omega
      rw [keptMessages_tool tool, keptMessages_tool tool, dropSelected_congr here]
      congr 1
      exact ih (by omega)

theorem keptMessages_narrow {narrow : MediaPart V → Bool}
    (within : ∀ part, narrow part = true → goes part = true) {number : Nat}
    {messages : List (Message V)}
    (every : ∀ part ∈ selected goes number (toolParts messages), narrow part = true) :
    keptMessages goes number 0 messages = keptMessages narrow number 0 messages := by
  induction messages generalizing number with
  | nil => rfl
  | cons message rest ih =>
    cases tool : message.toolMedia with
    | none =>
      rw [toolParts_other tool] at every
      rw [keptMessages_other tool, keptMessages_other tool, ih every]
    | some media =>
      rw [toolParts_tool tool, selected_append, List.forall_mem_append] at every
      rw [keptMessages_tool tool, keptMessages_tool tool, dropSelected_narrow within every.1,
        ih every.2, narrow_left within every.1]

end Loops

section Eviction

variable {V : Type} (keepN : Nat) (chunk : Option Nat) (messages later : List (Message V))

theorem effectiveChunk_pos : 0 < effectiveChunk keepN chunk := by
  unfold effectiveChunk
  split
  · omega
  · split <;> omega

theorem numberToRemove_chunks (total : Nat) :
    numberToRemove keepN chunk total =
      effectiveChunk keepN chunk * ((total - keepN) / effectiveChunk keepN chunk) := by
  have parts := Nat.div_add_mod (total - keepN) (effectiveChunk keepN chunk)
  simp only [numberToRemove]
  omega

theorem numberToRemove_le (total : Nat) : numberToRemove keepN chunk total ≤ total - keepN := by
  simp only [numberToRemove]
  omega

theorem countToolResultImages_eq :
    countToolResultImages messages = (toolParts messages).countP MediaPart.forwardable := by
  unfold countToolResultImages toolParts
  rw [List.countP_eq_length_filter, List.filter_flatMap]

theorem image_forwardable (part : MediaPart V) (image : part.isImage = true) :
    part.forwardable = true := by
  have named : part.type = some "image" := by simpa [MediaPart.isImage] using image
  simp [MediaPart.forwardable, named, wireForwardablePartTypes]

theorem imageCount_le : imageCount messages ≤ countToolResultImages messages := by
  rw [countToolResultImages_eq]
  exact List.countP_mono_left fun part _ image => image_forwardable part image

def removals : Nat := numberToRemove keepN chunk (countToolResultImages messages)

theorem evict_spec : evictToolResultImages messages (some keepN) chunk =
    keptMessages MediaPart.forwardable (removals keepN chunk messages) 0 messages := by
  simp only [evictToolResultImages]
  split
  next none => rw [removals, none, keptMessages_zero]
  · rfl

theorem removals_le : removals keepN chunk messages ≤
    (toolParts messages).countP MediaPart.forwardable := by
  have below := numberToRemove_le keepN chunk (countToolResultImages messages)
  rw [← countToolResultImages_eq]
  unfold removals
  omega

theorem evict_images :
    imageCount (evictToolResultImages messages (some keepN) chunk) +
      (selected MediaPart.forwardable (removals keepN chunk messages)
        (toolParts messages)).countP MediaPart.isImage = imageCount messages := by
  rw [evict_spec, imageCount, keptMessages_parts]
  exact dropSelected_countP MediaPart.isImage _ _

-- No document makes a difference: neither among the parts that go, nor to their number, nor to the
-- number that goes once there are more messages.
structure DocumentsAgree : Prop where
  number : removals keepN chunk messages = numberToRemove keepN chunk (imageCount messages)
  images : ∀ part ∈ selected MediaPart.forwardable (removals keepN chunk messages)
    (toolParts messages), part.isImage = true
  later : excessChunks keepN chunk (messages ++ later) = excessChunks keepN chunk messages →
    min (removals keepN chunk (messages ++ later)) (countToolResultImages messages) =
      removals keepN chunk messages

variable {keepN chunk messages later}

theorem removed_images
    (images : ∀ part ∈ selected MediaPart.forwardable (removals keepN chunk messages)
      (toolParts messages), part.isImage = true) :
    imageCount (evictToolResultImages messages (some keepN) chunk) + removals keepN chunk messages =
      imageCount messages := by
  have parts := evict_images keepN chunk messages
  have below := removals_le keepN chunk messages
  have all : (selected MediaPart.forwardable (removals keepN chunk messages)
      (toolParts messages)).countP MediaPart.isImage = removals keepN chunk messages := by
    rw [List.countP_eq_length.mpr images, selected, List.length_take,
      ← List.countP_eq_length_filter]
    omega
  rw [all] at parts
  exact parts

theorem Evicts.selectsImages (evicts : Evicts keepN chunk messages later) :
    ∀ part ∈ selected MediaPart.forwardable (removals keepN chunk messages)
      (toolParts messages), part.isImage = true := by
  obtain ⟨number, _, same⟩ := evicts.oldestImages
  rw [evict_spec, withoutOldestImages] at same
  let other : MediaPart V → Bool := fun part => !part.isImage
  have left := congrArg (fun log => (toolParts log).countP other) same
  simp only [keptMessages_parts] at left
  have kept := @dropSelected_countP _ MediaPart.forwardable other (removals keepN chunk messages)
    (toolParts messages)
  have spared := @dropSelected_countP _ MediaPart.isImage other number (toolParts messages)
  have free : (selected MediaPart.isImage number (toolParts messages)).countP other = 0 := by
    rw [List.countP_eq_zero]
    intro part member
    have image := (List.mem_filter.mp (List.mem_of_mem_take member)).2
    simp [other, image]
  have none : (selected MediaPart.forwardable (removals keepN chunk messages)
      (toolParts messages)).countP other = 0 := by omega
  rw [List.countP_eq_zero] at none
  intro part member
  simpa [other] using none part member

theorem numberToRemove_agrees {few many : Nat} (fewer : few ≤ many)
    (below : numberToRemove keepN chunk many ≤ few - keepN) :
    numberToRemove keepN chunk many = numberToRemove keepN chunk few := by
  rw [numberToRemove_chunks] at below
  rw [numberToRemove_chunks, numberToRemove_chunks]
  have up : (few - keepN) / effectiveChunk keepN chunk ≤
      (many - keepN) / effectiveChunk keepN chunk :=
    Nat.div_le_div_right (Nat.sub_le_sub_right fewer keepN)
  have down : (many - keepN) / effectiveChunk keepN chunk ≤
      (few - keepN) / effectiveChunk keepN chunk := by
    rw [Nat.le_div_iff_mul_le (effectiveChunk_pos keepN chunk), Nat.mul_comm]
    exact below
  rw [Nat.le_antisymm down up]

theorem evicts_iff :
    Evicts keepN chunk messages later ↔ DocumentsAgree keepN chunk messages later := by
  have below := removals_le keepN chunk messages
  have kept := @keptMessages_append V MediaPart.forwardable
    (removals keepN chunk (messages ++ later)) messages later
  constructor
  · intro evicts
    have images := evicts.selectsImages
    have removed := removed_images images
    refine ⟨?_, images, ?_⟩
    · have enough := evicts.enough
      refine numberToRemove_agrees (imageCount_le messages) ?_
      change removals keepN chunk messages ≤ _
      omega
    · intro same
      have starts := evicts.stable same
      rw [evict_spec, evict_spec, kept] at starts
      have equal := (List.prefix_of_prefix_length_le starts (List.prefix_append _ _)
        (by rw [keptMessages_length, keptMessages_length])).eq_of_length
          (by rw [keptMessages_length, keptMessages_length])
      have left := congrArg (fun log => (toolParts log).countP MediaPart.forwardable) equal
      simp only [keptMessages_parts] at left
      have first := @dropSelected_countP _ MediaPart.forwardable MediaPart.forwardable
        (removals keepN chunk messages) (toolParts messages)
      have second := @dropSelected_countP _ MediaPart.forwardable MediaPart.forwardable
        (removals keepN chunk (messages ++ later)) (toolParts messages)
      rw [selected_countP] at first second
      rw [countToolResultImages_eq]
      omega
  · intro agree
    have removed := removed_images agree.images
    have least := numberToRemove_le keepN chunk (imageCount messages)
    have number := agree.number
    have narrowed : evictToolResultImages messages (some keepN) chunk =
        withoutOldestImages (removals keepN chunk messages) messages := by
      rw [evict_spec]
      exact keptMessages_narrow image_forwardable agree.images
    refine ⟨?_, ⟨removals keepN chunk messages, by omega, narrowed⟩, by omega, ?_, ?_⟩
    · rw [narrowed]
      exact keptMessages_thinned _ _
    · have part := Nat.mod_lt (imageCount messages - keepN) (effectiveChunk_pos keepN chunk)
      simp only [numberToRemove] at number
      omega
    · intro same
      have stays := agree.later same
      rw [countToolResultImages_eq] at stays
      have equal : keptMessages MediaPart.forwardable (removals keepN chunk messages) 0 messages =
          keptMessages MediaPart.forwardable
            (removals keepN chunk (messages ++ later)) 0 messages :=
        keptMessages_congr (by omega)
      rw [evict_spec, evict_spec, kept, equal]
      exact List.prefix_append _ _

theorem removals_chunks (images : ∀ part ∈ toolParts messages,
    part.forwardable = true → part.isImage = true) :
    removals keepN chunk messages =
      effectiveChunk keepN chunk * excessChunks keepN chunk messages := by
  have same : countToolResultImages messages = imageCount messages := by
    rw [countToolResultImages_eq]
    exact List.countP_congr fun part member =>
      ⟨images part member, image_forwardable part⟩
  rw [removals, same, numberToRemove_chunks, excessChunks]

theorem evicts_images (images : ∀ part ∈ toolParts (messages ++ later),
    part.forwardable = true → part.isImage = true) : Evicts keepN chunk messages later := by
  have here : ∀ part ∈ toolParts messages, part.forwardable = true → part.isImage = true := by
    intro part member
    exact images part (by simp [toolParts, List.flatMap_append] at member ⊢; exact .inl member)
  refine evicts_iff.mpr ⟨?_, ?_, ?_⟩
  · rw [removals_chunks here, numberToRemove_chunks, excessChunks]
  · intro part member
    obtain ⟨listed, goes⟩ := List.mem_filter.mp (List.mem_of_mem_take member)
    exact here part listed goes
  · intro same
    rw [removals_chunks images, same, ← removals_chunks here, countToolResultImages_eq]
    exact Nat.min_eq_left (removals_le keepN chunk messages)

end Eviction

section Example

def pdfPart : MediaPart Nat := ⟨some "document", 0⟩

def screenshotPart : MediaPart Nat := ⟨some "image", 1⟩

def pdfThenScreenshot : List (Message Nat) :=
  [⟨some "tool", some [pdfPart], 0⟩, ⟨some "tool", some [screenshotPart], 1⟩]

theorem pdf_evicted : ¬ Evicts 1 none pdfThenScreenshot [] := by
  intro evicts
  exact absurd (evicts.selectsImages pdfPart (by decide)) (by decide)

end Example

end MonoidKernel.Media
