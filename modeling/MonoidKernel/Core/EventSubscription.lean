import MonoidKernel.Library.Machine

set_option autoImplicit false

-- Translated from core/event_subscription.py.
namespace MonoidKernel.Subscription

variable {Event : Type}

inductive SubscriptionError where
  | sequenceGap
  | invalid
deriving DecidableEq

structure SequenceCursor where
  nextSeq : Nat
  anchored : Bool
  -- `__post_init__`
  established : 0 < nextSeq → anchored = true
deriving DecidableEq

def SequenceCursor.past (sequence : Nat) : SequenceCursor :=
  ⟨sequence + 1, true, fun _ => rfl⟩

-- The `Bool` is whether the event is new. An error leaves the cursor as it was.
def SequenceCursor.accept (cursor : SequenceCursor) (sequence : Int) :
    Except SubscriptionError (SequenceCursor × Bool) :=
  if sequence < 0 then .error .invalid
  else if sequence < cursor.nextSeq then .ok (cursor, false)
  else if cursor.anchored = false ∧ cursor.nextSeq = 0 ∧ 1 < sequence then .error .sequenceGap
  else if cursor.anchored = true ∧ cursor.nextSeq < sequence then .error .sequenceGap
  else .ok (.past sequence.toNat, true)

-- One entry of a page's `events`. `noSequence` is an object whose `seq` is missing or no integer.
inductive PageItem (Event : Type) where
  | notObject
  | noSequence
  | event (sequence : Int) (event : Event)
deriving DecidableEq

-- What the page reader returned; `events` is `none` when it is not a list.
structure RawPage (Event : Type) where
  events : Option (List (PageItem Event))
  hasMore : Bool
deriving DecidableEq

structure EventPage (Event : Type) where
  events : List (Nat × Event)
  nextSeq : Nat
  hasMore : Bool
deriving DecidableEq

def acceptAll : SequenceCursor → List (PageItem Event) →
    SequenceCursor × Except SubscriptionError (List (Nat × Event))
  | cursor, [] => (cursor, .ok [])
  | cursor, .notObject :: _ => (cursor, .error .invalid)
  | cursor, .noSequence :: _ => (cursor, .error .invalid)
  | cursor, .event sequence event :: rest =>
    match cursor.accept sequence with
    | .error error => (cursor, .error error)
    | .ok (next, false) => acceptAll next rest
    | .ok (next, true) =>
      -- the events before a refused one are dropped with the exception
      match acceptAll next rest with
      | (final, .ok events) => (final, .ok ((sequence.toNat, event) :: events))
      | (final, .error error) => (final, .error error)

def poll (cursor : SequenceCursor) (page : RawPage Event) :
    SequenceCursor × Except SubscriptionError (EventPage Event) :=
  match page.events with
  | none => (cursor, .error .invalid)
  | some items =>
    match acceptAll cursor items with
    | (final, .error error) => (final, .error error)
    | (final, .ok events) => (final, .ok ⟨events, final.nextSeq, page.hasMore⟩)

def machine :
    Library.Machine SequenceCursor (RawPage Event) (Except SubscriptionError (EventPage Event)) :=
  ⟨⟨0, false, by simp⟩, poll⟩

def sequences : Except SubscriptionError (EventPage Event) → List Nat
  | .ok page => page.events.map Prod.fst
  | .error _ => []

def cursorAfter (start : SequenceCursor) (pages : List (RawPage Event)) : SequenceCursor :=
  machine.exec start pages

def returned (start : SequenceCursor) (pages : List (RawPage Event)) : List Nat :=
  (machine.outputs start pages).flatMap sequences

-- The events returned are numbered without a gap, and at every point of the run everything from
-- `low` up to the cursor was returned.
structure DeliversFrom (low : Nat) (start : SequenceCursor) (pages : List (RawPage Event)) :
    Prop where
  consecutive : ∃ first, returned start pages = List.range' first (returned start pages).length
  complete : ∀ earlier later, pages = earlier ++ later →
    ∀ n, low ≤ n → n < (cursorAfter start earlier).nextSeq → n ∈ returned start earlier

section Conditions

def Replayed (cursor : SequenceCursor) : PageItem Event → Prop
  | .event sequence _ => 0 ≤ sequence ∧ sequence < cursor.nextSeq
  | _ => False

def Refused (cursor : SequenceCursor) : PageItem Event → Prop
  | .event sequence _ =>
    sequence < 0 ∨ (cursor.nextSeq < sequence ∧ (cursor.anchored = true ∨ 1 < sequence))
  | _ => True

def Continues : SequenceCursor → List (PageItem Event) → Prop
  | _, [] => True
  | cursor, .event sequence event :: rest =>
    (Replayed cursor (.event sequence event) ∧ Continues cursor rest) ∨
      (cursor.nextSeq ≤ sequence ∧ ¬ Refused cursor (.event sequence event) ∧
        Continues (.past sequence.toNat) rest)
  | _, _ :: _ => False

def RefusedAtOnce (cursor : SequenceCursor) (items : List (PageItem Event)) : Prop :=
  ∃ replays item rest, items = replays ++ item :: rest ∧
    (∀ replay ∈ replays, Replayed cursor replay) ∧ Refused cursor item

def WholeOrNothing (cursor : SequenceCursor) (page : RawPage Event) : Prop :=
  ∀ items, page.events = some items → Continues cursor items ∨ RefusedAtOnce cursor items

-- A cursor at zero that has seen nothing takes an event numbered `0` or `1` as its first.
def beginsAt (page : RawPage Event) : Option Nat :=
  match page.events with
  | some (.event sequence _ :: _) =>
    if sequence = 0 then some 0 else if sequence = 1 then some 1 else none
  | _ => none

def origin (start : SequenceCursor) : List (RawPage Event) → Nat
  | [] => start.nextSeq
  | page :: rest =>
    if start.anchored = true then start.nextSeq else (beginsAt page).getD (origin start rest)

end Conditions

section Poll

variable (cursor : SequenceCursor)

theorem accept_cases (sequence : Int) (event : Event) :
    (Refused cursor (.event sequence event) ∧ ∃ error, cursor.accept sequence = .error error) ∨
    (Replayed cursor (.event sequence event) ∧ cursor.accept sequence = .ok (cursor, false)) ∨
    (¬ Refused cursor (.event sequence event) ∧ cursor.nextSeq ≤ sequence ∧
      cursor.accept sequence = .ok (.past sequence.toNat, true)) := by
  unfold SequenceCursor.accept
  split
  next negative =>
    left
    exact ⟨.inl negative, _, rfl⟩
  · split
    next old =>
      right
      left
      exact ⟨⟨by omega, old⟩, rfl⟩
    · split
      next late =>
        left
        exact ⟨.inr ⟨by omega, .inr late.2.2⟩, _, rfl⟩
      next early =>
        split
        next skipped =>
          left
          exact ⟨.inr ⟨skipped.2, .inl skipped.1⟩, _, rfl⟩
        next follows =>
          right
          right
          refine ⟨?_, by omega, rfl⟩
          rintro (negative | ⟨later, anchored | second⟩)
          · omega
          · exact follows ⟨anchored, later⟩
          · by_cases anchored : cursor.anchored = true
            · exact follows ⟨anchored, later⟩
            · have zero : cursor.nextSeq = 0 := by
                by_contra positive
                exact anchored (cursor.established (by omega))
              exact early ⟨by simpa using anchored, zero, second⟩

theorem replayed_not_refused {cursor : SequenceCursor} {item : PageItem Event}
    (old : Replayed cursor item) : ¬ Refused cursor item := by
  cases item with
  | notObject => exact old.elim
  | noSequence => exact old.elim
  | event sequence event =>
    simp only [Replayed] at old
    simp only [Refused]
    omega

theorem refusedAtOnce_cons (item : PageItem Event) (rest : List (PageItem Event)) :
    RefusedAtOnce cursor (item :: rest) ↔
      Refused cursor item ∨ (Replayed cursor item ∧ RefusedAtOnce cursor rest) := by
  constructor
  · rintro ⟨replays, last, after, same, replayed, refused⟩
    cases replays with
    | nil =>
      cases same
      exact .inl refused
    | cons first others =>
      cases same
      right
      refine ⟨replayed _ (List.mem_cons_self ..), others, last, after, rfl, ?_, refused⟩
      intro replay member
      exact replayed replay (List.mem_cons_of_mem _ member)
  · rintro (refused | ⟨old, replays, last, after, rfl, replayed, refused⟩)
    · exact ⟨[], item, rest, rfl, by simp, refused⟩
    · refine ⟨item :: replays, last, after, rfl, ?_, refused⟩
      intro replay member
      rcases List.mem_cons.mp member with rfl | member
      · exact old
      · exact replayed replay member

theorem fresh_number {cursor : SequenceCursor} {sequence : Int} {event : Event}
    (taken : ¬ Refused cursor (.event sequence event)) (new : cursor.nextSeq ≤ sequence) :
    sequence.toNat = cursor.nextSeq ∨
      (cursor.anchored = false ∧ cursor.nextSeq = 0 ∧ sequence.toNat = 1) := by
  simp only [Refused, not_or, not_and] at taken
  by_cases anchored : cursor.anchored = true
  · left
    have := taken.2
    by_contra other
    exact (taken.2 (by omega)).1 anchored
  · have zero : cursor.nextSeq = 0 := by
      by_contra positive
      exact anchored (cursor.established (by omega))
    by_cases first : sequence.toNat = 0
    · left
      omega
    · right
      refine ⟨by simpa using anchored, zero, ?_⟩
      have := (taken.2 (by omega)).2
      omega

theorem acceptAll_le (items : List (PageItem Event)) :
    cursor.nextSeq ≤ (acceptAll cursor items).1.nextSeq := by
  induction items generalizing cursor with
  | nil => exact Nat.le_refl _
  | cons item rest ih =>
    cases item with
    | notObject => exact Nat.le_refl _
    | noSequence => exact Nat.le_refl _
    | event sequence event =>
      rcases accept_cases cursor sequence event with
        ⟨-, error, refused⟩ | ⟨-, old⟩ | ⟨-, new, taken⟩
      · simp only [acceptAll, refused]
        exact Nat.le_refl _
      · simp only [acceptAll, old]
        exact ih cursor
      · have later := ih (.past sequence.toNat)
        simp only [SequenceCursor.past] at later
        simp only [acceptAll, taken]
        split <;>
        next same =>
          simp only [SequenceCursor.past] at same
          rw [same] at later
          dsimp only at later ⊢
          omega

theorem continues_iff (items : List (PageItem Event)) :
    Continues cursor items ↔ ∃ events, (acceptAll cursor items).2 = .ok events := by
  induction items generalizing cursor with
  | nil => simp [Continues, acceptAll]
  | cons item rest ih =>
    cases item with
    | notObject => simp [Continues, acceptAll]
    | noSequence => simp [Continues, acceptAll]
    | event sequence event =>
      rcases accept_cases cursor sequence event with
        ⟨refused, error, raised⟩ | ⟨old, kept⟩ | ⟨fine, new, taken⟩
      · simp only [acceptAll, raised, reduceCtorEq, exists_false, iff_false]
        rintro (⟨old, -⟩ | ⟨-, fine, -⟩)
        · exact replayed_not_refused old refused
        · exact fine refused
      · simp only [acceptAll, kept, ← ih]
        constructor
        · rintro (⟨-, further⟩ | ⟨new, -, -⟩)
          · exact further
          · have := old.2
            omega
        · exact fun further => .inl ⟨old, further⟩
      · have inner := ih (.past sequence.toNat)
        simp only [acceptAll, taken]
        constructor
        · rintro (⟨old, -⟩ | ⟨-, -, further⟩)
          · have := old.2
            omega
          · obtain ⟨events, done⟩ := inner.mp further
            split
            next same =>
              exact ⟨_, rfl⟩
            next same =>
              rw [same] at done
              cases done
        · intro done
          refine .inr ⟨new, fine, inner.mpr ?_⟩
          split at done
          next events same => exact ⟨events, by rw [same]⟩
          next same =>
            obtain ⟨_, impossible⟩ := done
            cases impossible

theorem refusedAtOnce_iff (items : List (PageItem Event)) :
    RefusedAtOnce cursor items ↔
      (∃ error, (acceptAll cursor items).2 = .error error) ∧
      (acceptAll cursor items).1 = cursor := by
  induction items with
  | nil => simp [RefusedAtOnce, acceptAll]
  | cons item rest ih =>
    rw [refusedAtOnce_cons]
    cases item with
    | notObject => simp [Refused, acceptAll]
    | noSequence => simp [Refused, acceptAll]
    | event sequence event =>
      rcases accept_cases cursor sequence event with
        ⟨refused, error, raised⟩ | ⟨old, kept⟩ | ⟨fine, new, taken⟩
      · simp [acceptAll, raised, refused]
      · have fine := replayed_not_refused old
        simp only [acceptAll, kept, ← ih, old, fine, false_or, true_and]
      · have stale : ¬ Replayed cursor (.event sequence event) := fun old => by
          have := old.2
          omega
        simp only [fine, stale, false_or, false_and, false_iff, not_and]
        intro failed same
        -- the new event moved the cursor, and nothing moves it back
        have later := acceptAll_le (.past sequence.toNat) rest
        simp only [acceptAll, taken] at same
        split at same <;>
        next moved =>
          rw [moved] at later
          dsimp only at same
          rw [same] at later
          simp only [SequenceCursor.past] at later
          omega

theorem acceptAll_numbered {cursor final : SequenceCursor} {items : List (PageItem Event)}
    {events : List (Nat × Event)} (anchored : cursor.anchored = true)
    (done : acceptAll cursor items = (final, .ok events)) :
    final.anchored = true ∧
      events.map Prod.fst = List.range' cursor.nextSeq (final.nextSeq - cursor.nextSeq) := by
  induction items generalizing cursor final events with
  | nil =>
    cases done
    simp [anchored]
  | cons item rest ih =>
    cases item with
    | notObject => cases done
    | noSequence => cases done
    | event sequence event =>
      rcases accept_cases cursor sequence event with
        ⟨-, error, raised⟩ | ⟨old, kept⟩ | ⟨fine, new, taken⟩
      · simp only [acceptAll, raised] at done
        cases done
      · simp only [acceptAll, kept] at done
        exact ih anchored done
      · have number : sequence.toNat = cursor.nextSeq := by
          rcases fresh_number fine new with number | ⟨loose, -, -⟩
          · exact number
          · simp [loose] at anchored
        simp only [acceptAll, taken] at done
        split at done
        next _ others same =>
          cases done
          have later := acceptAll_le (.past sequence.toNat) rest
          rw [same] at later
          obtain ⟨settled, numbers⟩ := ih rfl same
          refine ⟨settled, ?_⟩
          simp only [SequenceCursor.past] at later numbers
          have count : final.nextSeq - cursor.nextSeq =
              final.nextSeq - (cursor.nextSeq + 1) + 1 := by
            omega
          rw [List.map_cons, numbers, number, count, List.range'_succ]
        · cases done

variable (page : RawPage Event)

theorem wholeOrNothing_iff :
    WholeOrNothing cursor page ↔
      ∀ error, (poll cursor page).2 = .error error → (poll cursor page).1 = cursor := by
  unfold WholeOrNothing poll
  cases page.events with
  | none => simp
  | some items =>
    have whole := continues_iff cursor items
    have nothing := refusedAtOnce_iff cursor items
    simp only [Option.some.injEq, forall_eq']
    cases ran : acceptAll cursor items with
    | mk final result =>
      cases result with
      | ok events => simp [whole, ran]
      | error error => simp [whole, nothing, ran]

theorem acceptAll_moves (items : List (PageItem Event)) :
    (acceptAll cursor items).1 = cursor ∨ cursor.nextSeq < (acceptAll cursor items).1.nextSeq := by
  induction items with
  | nil => exact .inl rfl
  | cons item rest ih =>
    cases item with
    | notObject => exact .inl rfl
    | noSequence => exact .inl rfl
    | event sequence event =>
      rcases accept_cases cursor sequence event with
        ⟨-, error, raised⟩ | ⟨-, kept⟩ | ⟨-, new, taken⟩
      · left
        simp only [acceptAll, raised]
      · simpa only [acceptAll, kept] using ih
      · right
        have later := acceptAll_le (.past sequence.toNat) rest
        simp only [SequenceCursor.past] at later
        simp only [acceptAll, taken]
        split <;>
        next same =>
          simp only [SequenceCursor.past] at same
          rw [same] at later
          dsimp only at later ⊢
          omega

theorem acceptAll_below {cursor final : SequenceCursor} {items : List (PageItem Event)}
    {events : List (Nat × Event)} (done : acceptAll cursor items = (final, .ok events)) :
    ∀ n ∈ events.map Prod.fst, cursor.nextSeq ≤ n ∧ n < final.nextSeq := by
  induction items generalizing cursor final events with
  | nil =>
    cases done
    simp
  | cons item rest ih =>
    cases item with
    | notObject => cases done
    | noSequence => cases done
    | event sequence event =>
      rcases accept_cases cursor sequence event with
        ⟨-, error, raised⟩ | ⟨-, kept⟩ | ⟨-, new, taken⟩
      · simp only [acceptAll, raised] at done
        cases done
      · simp only [acceptAll, kept] at done
        exact ih done
      · simp only [acceptAll, taken] at done
        split at done
        next _ others same =>
          cases done
          have later := acceptAll_le (.past sequence.toNat) rest
          rw [same] at later
          simp only [SequenceCursor.past] at later
          intro n member
          rcases List.mem_cons.mp member with rfl | member
          · dsimp only
            omega
          · have bounds := ih same n member
            simp only [SequenceCursor.past] at bounds
            omega
        · cases done

theorem poll_moves :
    (poll cursor page).1 = cursor ∨ cursor.nextSeq < (poll cursor page).1.nextSeq := by
  unfold poll
  split
  · exact .inl rfl
  next items _ =>
    have moves := acceptAll_moves cursor items
    split <;>
    next same =>
      rw [same] at moves
      exact moves

theorem poll_below :
    ∀ n ∈ sequences (poll cursor page).2,
      cursor.nextSeq ≤ n ∧ n < (poll cursor page).1.nextSeq := by
  unfold poll
  split
  · simp [sequences]
  next items _ =>
    split
    · simp [sequences]
    next final events same => exact acceptAll_below same

theorem poll_le :
    cursor.nextSeq ≤ (poll cursor page).1.nextSeq := by
  unfold poll
  split
  · exact Nat.le_refl _
  next items _ =>
    have later := acceptAll_le cursor items
    split <;>
    next same =>
      rw [same] at later
      exact later

theorem poll_numbered {cursor : SequenceCursor} {page : RawPage Event}
    (anchored : cursor.anchored = true) (whole : WholeOrNothing cursor page) :
    (poll cursor page).1.anchored = true ∧ sequences (poll cursor page).2 =
      List.range' cursor.nextSeq ((poll cursor page).1.nextSeq - cursor.nextSeq) := by
  rw [wholeOrNothing_iff] at whole
  cases answer : (poll cursor page).2 with
  | error error =>
    rw [whole error answer]
    exact ⟨anchored, by simp [sequences]⟩
  | ok value =>
    unfold poll at answer ⊢
    split at answer
    · cases answer
    next items stored =>
      split at answer
      · cases answer
      next final events same =>
        cases answer
        exact acceptAll_numbered anchored same

theorem fresh_zero {cursor : SequenceCursor} (fresh : cursor.anchored = false) :
    cursor.nextSeq = 0 := by
  by_contra positive
  have := cursor.established (by omega)
  simp [fresh] at this

theorem fresh_page {cursor : SequenceCursor} (fresh : cursor.anchored = false)
    (page : RawPage Event) :
    (beginsAt page = none ∧ (poll cursor page).1 = cursor ∧ sequences (poll cursor page).2 = []) ∨
    ∃ first : Nat, ∃ event rest, beginsAt page = some first ∧
      page.events = some (.event first event :: rest) ∧
      cursor.accept first = .ok (.past first, true) := by
  have zero := fresh_zero fresh
  obtain ⟨events, hasMore⟩ := page
  cases events with
  | none => simp [beginsAt, poll, sequences]
  | some items =>
    cases items with
    | nil => simp [beginsAt, poll, acceptAll, sequences]
    | cons item rest =>
      cases item with
      | notObject => simp [beginsAt, poll, acceptAll, sequences]
      | noSequence => simp [beginsAt, poll, acceptAll, sequences]
      | event sequence event =>
        rcases accept_cases cursor sequence event with
          ⟨refused, error, raised⟩ | ⟨old, -⟩ | ⟨fine, new, taken⟩
        · left
          simp only [Refused, zero, fresh, Bool.false_eq_true, false_or] at refused
          have notFirst : sequence ≠ 0 ∧ sequence ≠ 1 := by omega
          simp [beginsAt, poll, acceptAll, raised, sequences, notFirst]
        · have := old.1
          have := old.2
          omega
        · right
          have number : ((sequence.toNat : Nat) : Int) = sequence := by omega
          have first : sequence = 0 ∨ sequence = 1 := by
            rcases fresh_number fine new with number | ⟨-, -, number⟩ <;> omega
          refine ⟨sequence.toNat, event, rest, ?_, by rw [number], by rw [number]; exact taken⟩
          rcases first with rfl | rfl <;> rfl

theorem fresh_moves {cursor : SequenceCursor} {page : RawPage Event} {first : Nat}
    (fresh : cursor.anchored = false) (began : beginsAt page = some first) :
    first < (poll cursor page).1.nextSeq := by
  rcases fresh_page fresh page with ⟨silent, -, -⟩ | ⟨number, event, rest, begins, same, taken⟩
  · rw [silent] at began
    cases began
  · rw [begins, Option.some.injEq] at began
    subst began
    have later := acceptAll_le (.past number) rest
    simp only [poll, same, acceptAll, taken]
    cases ran : acceptAll (.past number) rest with
    | mk final result =>
      rw [ran] at later
      simp only [SequenceCursor.past] at later
      cases result <;>
      · dsimp only
        omega

theorem poll_fresh {cursor : SequenceCursor} {page : RawPage Event} {first : Nat}
    (fresh : cursor.anchored = false) (whole : WholeOrNothing cursor page)
    (began : beginsAt page = some first) :
    (poll cursor page).1.anchored = true ∧ sequences (poll cursor page).2 =
      List.range' first ((poll cursor page).1.nextSeq - first) := by
  rcases fresh_page fresh page with ⟨silent, -, -⟩ | ⟨number, event, rest, begins, same, taken⟩
  · rw [silent] at began
    cases began
  · rw [begins, Option.some.injEq] at began
    subst began
    have later := acceptAll_le (.past number) rest
    rw [wholeOrNothing_iff] at whole
    simp only [poll, same, acceptAll, taken] at whole ⊢
    cases ran : acceptAll (.past number) rest with
    | mk final result =>
      rw [ran] at later whole
      cases result with
      | error error =>
        -- failing after the first event is what the premise excludes
        have stays : final = cursor := whole error rfl
        rw [stays, fresh_zero fresh] at later
        simp [SequenceCursor.past] at later
      | ok events =>
        obtain ⟨settled, numbers⟩ := acceptAll_numbered rfl ran
        simp only [SequenceCursor.past] at later numbers
        refine ⟨settled, ?_⟩
        have count : final.nextSeq - number = final.nextSeq - (number + 1) + 1 := by omega
        simp only [sequences, List.map_cons, numbers, Int.toNat_natCast]
        rw [count, List.range'_succ]

end Poll

section Runs

variable (start : SequenceCursor)

def WholePolls (pages : List (RawPage Event)) : Prop :=
  ∀ earlier page later, pages = earlier ++ page :: later →
    WholeOrNothing (cursorAfter start earlier) page

theorem returned_cons (page : RawPage Event) (rest : List (RawPage Event)) :
    returned start (page :: rest) =
      sequences (poll start page).2 ++ returned (poll start page).1 rest := rfl

theorem cursorAfter_cons (page : RawPage Event) (rest : List (RawPage Event)) :
    cursorAfter start (page :: rest) = cursorAfter (poll start page).1 rest := rfl

theorem wholePolls_cons (page : RawPage Event) (rest : List (RawPage Event)) :
    WholePolls start (page :: rest) ↔
      WholeOrNothing start page ∧ WholePolls (poll start page).1 rest := by
  constructor
  · intro whole
    refine ⟨whole [] page rest rfl, ?_⟩
    intro earlier other later same
    exact whole (page :: earlier) other later (by rw [same]; rfl)
  · rintro ⟨here, there⟩ earlier other later same
    cases earlier with
    | nil =>
      cases same
      exact here
    | cons first others =>
      cases same
      exact there others other later rfl

theorem returned_append (earlier later : List (RawPage Event)) :
    returned start (earlier ++ later) =
      returned start earlier ++ returned (cursorAfter start earlier) later := by
  induction earlier generalizing start with
  | nil => rfl
  | cons page rest ih =>
    rw [List.cons_append, returned_cons, returned_cons, cursorAfter_cons, ih, List.append_assoc]

variable (pages : List (RawPage Event))

theorem cursorAfter_le :
    start.nextSeq ≤ (cursorAfter start pages).nextSeq := by
  induction pages generalizing start with
  | nil => exact Nat.le_refl _
  | cons page rest ih => exact Nat.le_trans (poll_le start page) (ih _)

theorem returned_below :
    ∀ n ∈ returned start pages, n < (cursorAfter start pages).nextSeq := by
  induction pages generalizing start with
  | nil => simp [returned, Library.Machine.outputs]
  | cons page rest ih =>
    intro n member
    rw [returned_cons, List.mem_append] at member
    rw [cursorAfter_cons]
    rcases member with here | there
    · exact Nat.lt_of_lt_of_le (poll_below start page n here).2 (cursorAfter_le _ rest)
    · exact ih _ n there

theorem origin_anchored {start : SequenceCursor} (anchored : start.anchored = true)
    (pages : List (RawPage Event)) : origin start pages = start.nextSeq := by
  cases pages <;> simp [origin, anchored]

theorem le_origin : start.nextSeq ≤ origin start pages := by
  by_cases anchored : start.anchored = true
  · exact Nat.le_of_eq (origin_anchored anchored pages).symm
  · have zero : start.nextSeq = 0 := by
      by_contra positive
      exact anchored (start.established (by omega))
    omega

theorem origin_le_append (earlier later : List (RawPage Event)) :
    origin start earlier ≤ origin start (earlier ++ later) := by
  induction earlier with
  | nil => exact le_origin start later
  | cons page rest ih =>
    simp only [List.cons_append, origin]
    split
    · exact Nat.le_refl _
    · cases beginsAt page <;> simp [ih]

theorem returned_numbered (whole : WholePolls start pages) :
    origin start pages ≤ (cursorAfter start pages).nextSeq ∧ returned start pages =
      List.range' (origin start pages)
        ((cursorAfter start pages).nextSeq - origin start pages) := by
  induction pages generalizing start with
  | nil => simp [origin, cursorAfter, returned, Library.Machine.outputs]
  | cons page rest ih =>
    obtain ⟨here, there⟩ := (wholePolls_cons start page rest).mp whole
    obtain ⟨bounded, numbers⟩ := ih _ there
    rw [returned_cons, cursorAfter_cons]
    -- from an anchored cursor the two stretches join at the cursor between them
    have join : ∀ low, (poll start page).1.anchored = true → low ≤ (poll start page).1.nextSeq →
        sequences (poll start page).2 =
          List.range' low ((poll start page).1.nextSeq - low) →
        low ≤ (cursorAfter (poll start page).1 rest).nextSeq ∧
          sequences (poll start page).2 ++ returned (poll start page).1 rest =
            List.range' low ((cursorAfter (poll start page).1 rest).nextSeq - low) := by
      intro low settled below first
      rw [origin_anchored settled] at bounded numbers
      refine ⟨Nat.le_trans below bounded, ?_⟩
      have split : (cursorAfter (poll start page).1 rest).nextSeq - low =
          ((poll start page).1.nextSeq - low) +
            ((cursorAfter (poll start page).1 rest).nextSeq - (poll start page).1.nextSeq) := by
        omega
      have middle : low + ((poll start page).1.nextSeq - low) = (poll start page).1.nextSeq := by
        omega
      rw [first, numbers, split, ← List.range'_append_1, middle]
    by_cases anchored : start.anchored = true
    · rw [origin_anchored anchored]
      have numbered := poll_numbered anchored here
      exact join _ numbered.1 (poll_le start page) numbered.2
    · have loose : start.anchored = false := by simpa using anchored
      rcases fresh_page loose page with ⟨silent, stays, nothing⟩ | ⟨first, _, _, began, -, -⟩
      · rw [stays] at bounded numbers
        rw [stays, nothing]
        simpa [origin, loose, silent] using ⟨bounded, numbers⟩
      · have begins : origin start (page :: rest) = first := by simp [origin, loose, began]
        obtain ⟨settled, list⟩ := poll_fresh loose here began
        rw [begins]
        exact join first settled (Nat.le_of_lt (fresh_moves loose began)) list

theorem wholePolls_of_delivers {low : Nat} {pages : List (RawPage Event)}
    (delivers : DeliversFrom low start pages)
    (within : ∀ earlier page later, pages = earlier ++ page :: later →
      (cursorAfter start earlier).nextSeq < (poll (cursorAfter start earlier) page).1.nextSeq →
      low < (poll (cursorAfter start earlier) page).1.nextSeq) :
    WholePolls start pages := by
  intro earlier page later same
  rw [wholeOrNothing_iff]
  intro error failed
  rcases poll_moves (cursorAfter start earlier) page with stays | moved
  · exact stays
  · exfalso
    have below := within earlier page later same moved
    have after : cursorAfter start (earlier ++ [page]) =
        (poll (cursorAfter start earlier) page).1 := Library.Machine.exec_append _ _ _ _
    have answers : returned start (earlier ++ [page]) = returned start earlier := by
      rw [returned_append, returned_cons, failed]
      simp [sequences, returned, Library.Machine.outputs]
    have given := delivers.complete (earlier ++ [page]) later (by simpa using same)
      ((poll (cursorAfter start earlier) page).1.nextSeq - 1) (by omega) (by rw [after]; omega)
    rw [answers] at given
    have := returned_below start earlier _ given
    omega

theorem delivers_of_wholePolls {pages : List (RawPage Event)} (whole : WholePolls start pages) :
    DeliversFrom (origin start pages) start pages where
  consecutive := by
    refine ⟨origin start pages, ?_⟩
    rw [(returned_numbered start pages whole).2, List.length_range']
  complete earlier later same n low high := by
    have part : WholePolls start earlier := by
      intro before page after split
      exact whole before page (after ++ later) (by rw [same, split]; simp)
    rw [(returned_numbered start earlier part).2, List.mem_range'_1]
    have := origin_le_append start earlier later
    rw [← same] at this
    omega

theorem origin_lt {start : SequenceCursor} {earlier later : List (RawPage Event)}
    {page : RawPage Event} (moved : (cursorAfter start earlier).nextSeq <
      (poll (cursorAfter start earlier) page).1.nextSeq) :
    origin start (earlier ++ page :: later) <
      (poll (cursorAfter start earlier) page).1.nextSeq := by
  induction earlier generalizing start with
  | nil =>
    change start.nextSeq < (poll start page).1.nextSeq at moved
    change origin start (page :: later) < (poll start page).1.nextSeq
    by_cases anchored : start.anchored = true
    · rw [origin_anchored anchored]
      exact moved
    · have loose : start.anchored = false := by simpa using anchored
      rcases fresh_page loose page with ⟨-, stays, -⟩ | ⟨first, _, _, began, -, -⟩
      · rw [stays] at moved
        omega
      · simpa [origin, loose, began] using fresh_moves loose began
  | cons first rest ih =>
    refine Nat.lt_of_le_of_lt ?_ (ih moved)
    change _ ≤ origin (poll start first).1 (rest ++ page :: later)
    have above := le_origin (poll start first).1 (rest ++ page :: later)
    by_cases anchored : start.anchored = true
    · rw [origin_anchored anchored]
      exact Nat.le_trans (poll_le start first) above
    · have loose : start.anchored = false := by simpa using anchored
      rcases fresh_page loose first with ⟨silent, stays, -⟩ | ⟨number, _, _, began, -, -⟩
      · rw [stays]
        simp [origin, loose, silent]
      · have less := fresh_moves loose began
        simp only [List.cons_append, origin, loose, Bool.false_eq_true, if_false, began,
          Option.getD_some]
        omega

theorem subscription_exact (start : SequenceCursor) (pages : List (RawPage Event)) :
    (DeliversFrom start.nextSeq start pages ↔
      WholePolls start pages ∧ origin start pages = start.nextSeq) ∧
    (DeliversFrom (origin start pages) start pages ↔ WholePolls start pages) := by
  refine ⟨⟨?_, ?_⟩, ⟨?_, delivers_of_wholePolls start⟩⟩
  · intro delivers
    have whole := wholePolls_of_delivers start delivers fun earlier page later same moved => by
      have := cursorAfter_le start earlier
      omega
    obtain ⟨bounded, numbers⟩ := returned_numbered start pages whole
    refine ⟨whole, ?_⟩
    -- otherwise the number at the cursor was skipped
    by_contra other
    have above := le_origin start pages
    have first := delivers.complete pages [] (by simp) start.nextSeq (Nat.le_refl _) (by omega)
    rw [numbers, List.mem_range'_1] at first
    omega
  · rintro ⟨whole, same⟩
    rw [← same]
    exact delivers_of_wholePolls start whole
  · intro delivers
    apply wholePolls_of_delivers start delivers
    intro earlier page later same moved
    rw [same]
    exact origin_lt moved

def skippingPages : List (RawPage Unit) :=
  [⟨some [.event 1 (), .event 3 ()], false⟩, ⟨some [.event 2 ()], false⟩]

theorem subscription_loses :
    ¬ DeliversFrom 1 ⟨1, true, fun _ => rfl⟩ skippingPages := by
  intro delivers
  have given := delivers.complete skippingPages [] rfl 1 (Nat.le_refl 1) (by decide)
  revert given
  decide

end Runs

end MonoidKernel.Subscription
