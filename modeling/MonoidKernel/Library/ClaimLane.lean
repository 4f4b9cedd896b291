import MonoidKernel.Library.Machine
import MonoidKernel.Library.OrderedDict
import Mathlib.Data.List.Induction
import Mathlib.Data.List.Pairwise

set_option autoImplicit false

namespace Library

universe u v w x

inductive Stage (Worker : Type u) (Result : Type v) where
  | waiting
  | held (worker : Worker)
  | done (worker : Worker) (result : Result)

def Stage.isOpen {Worker : Type u} {Result : Type v} : Stage Worker Result → Bool
  | .done _ _ => false
  | _ => true

structure Ticket (Lane : Type u) (Worker : Type v) (Result : Type w) where
  lane : Lane
  stage : Stage Worker Result

inductive Deed (Key : Type u) (Lane : Type v) (Worker : Type w) (Result : Type x) where
  | enqueue (key : Key) (lane : Lane) (limit : Nat)
  | take (lane : Lane) (worker : Worker)
  | finish (key : Key) (worker : Worker) (result : Result)
  | nothing

namespace ClaimLane

variable {Key Lane Worker Result : Type u}

abbrev Line (Key Lane Worker Result : Type u) := OrderedDict Key (Ticket Lane Worker Result)

section Lanes

variable [DecidableEq Lane]

def openIn (lane : Lane) (entry : Key × Ticket Lane Worker Result) : Bool :=
  entry.2.lane = lane && entry.2.stage.isOpen

def load (lane : Lane) (line : Line Key Lane Worker Result) : Nat :=
  line.entries.countP (openIn lane)

def head (lane : Lane) (line : Line Key Lane Worker Result) :
    Option (Key × Ticket Lane Worker Result) :=
  line.entries.find? (openIn lane)

-- What a call can do to a line: what it asks for where the rules allow it, or nothing.
inductive Move [DecidableEq Key] : Deed Key Lane Worker Result → Line Key Lane Worker Result →
    Line Key Lane Worker Result → Prop where
  | stay (deed : Deed Key Lane Worker Result) (line : Line Key Lane Worker Result) :
    Move deed line line
  | enqueue {line : Line Key Lane Worker Result} {key : Key} {lane : Lane} {limit : Nat}
    (absent : line.get? key = none) (room : load lane line < limit) :
    Move (.enqueue key lane limit) line (line.set key ⟨lane, .waiting⟩)
  | take {line : Line Key Lane Worker Result} {key : Key} {lane : Lane} {worker : Worker}
    {ticket : Ticket Lane Worker Result} (oldest : head lane line = some (key, ticket))
    (other : ticket.stage ≠ .held worker) :
    Move (.take lane worker) line (line.set key ⟨lane, .held worker⟩)
  | finish {line : Line Key Lane Worker Result} {key : Key} {lane : Lane} {worker : Worker}
    {result : Result} (holds : line.get? key = some ⟨lane, .held worker⟩) :
    Move (.finish key worker result) line (line.set key ⟨lane, .done worker result⟩)

-- Within a lane, everything before a ticket that has been taken is done.
def Orderly (line : Line Key Lane Worker Result) : Prop :=
  line.entries.Pairwise fun earlier later =>
    earlier.2.lane = later.2.lane → later.2.stage ≠ .waiting → earlier.2.stage.isOpen = false

end Lanes

variable [DecidableEq Key]

section Entries

variable {Value : Type v}

theorem entries_of_get {dict : OrderedDict Key Value} {key : Key} {value : Value}
    (found : dict.get? key = some value) : ∃ before after,
      dict.entries = before ++ (key, value) :: after ∧
        ∀ next, (dict.set key next).entries = before ++ (key, next) :: after := by
  obtain ⟨before, after, split⟩ := List.append_of_mem (dict.get?_eq_some_iff.1 found)
  refine ⟨before, after, split, fun next => ?_⟩
  have distinct := dict.distinct
  change OrderedDict.put key next dict.entries = _
  rw [split] at distinct ⊢
  clear split found
  induction before with
  | nil => simp [OrderedDict.put]
  | cons entry rest ih =>
    obtain ⟨name, held⟩ := entry
    have other : name ≠ key := by
      intro same
      simp [same] at distinct
    rw [List.cons_append, List.map_cons, List.nodup_cons] at distinct
    rw [List.cons_append, OrderedDict.put, if_neg other, ih distinct.2, List.cons_append]

theorem entries_set_of_absent {dict : OrderedDict Key Value} {key : Key}
    (absent : dict.get? key = none) (value : Value) :
    (dict.set key value).entries = dict.entries ++ [(key, value)] := by
  have missing : key ∉ dict.entries.map (·.1) := dict.get?_eq_none_iff.1 absent
  change OrderedDict.put key value dict.entries = _
  generalize dict.entries = entries at missing
  induction entries with
  | nil => rfl
  | cons entry rest ih =>
    obtain ⟨name, held⟩ := entry
    rw [List.map_cons, List.mem_cons, not_or] at missing
    rw [OrderedDict.put, if_neg (Ne.symm missing.1), ih missing.2, List.cons_append]

omit [DecidableEq Key] in
theorem before_unique {key : Key} {value other : Value} {earlier before later rest :
    List (Key × Value)} (distinct : ((earlier ++ (key, value) :: later).map (·.1)).Nodup)
    (same : earlier ++ (key, value) :: later = before ++ (key, other) :: rest) :
    before = earlier := by
  induction earlier generalizing before with
  | nil =>
    cases before with
    | nil => rfl
    | cons entry more =>
      rw [List.nil_append, List.cons_append, List.cons.injEq] at same
      rw [same.2] at distinct
      simp at distinct
  | cons entry more ih =>
    cases before with
    | nil =>
      rw [List.nil_append, List.cons_append, List.cons.injEq] at same
      rw [same.1] at distinct
      simp at distinct
    | cons first others =>
      rw [List.cons_append, List.cons_append, List.cons.injEq] at same
      rw [List.cons_append, List.map_cons, List.nodup_cons] at distinct
      rw [same.1, ih distinct.2 same.2]

end Entries

section Steps

variable [DecidableEq Lane] {line after : Line Key Lane Worker Result}
  {deed : Deed Key Lane Worker Result}

variable {lane : Lane} {key : Key}

theorem head_spec {ticket : Ticket Lane Worker Result}
    (oldest : head lane line = some (key, ticket)) :
    ticket.lane = lane ∧ ticket.stage.isOpen = true ∧ line.get? key = some ticket := by
  have picked := List.find?_some oldest
  simp only [openIn, Bool.and_eq_true, decide_eq_true_eq] at picked
  exact ⟨picked.1, picked.2, line.get?_eq_some_iff.2 (List.mem_of_find?_eq_some oldest)⟩

omit [DecidableEq Key] in
theorem head_first {ticket : Ticket Lane Worker Result}
    (oldest : head lane line = some (key, ticket))
    {before rest : List (Key × Ticket Lane Worker Result)}
    (split : line.entries = before ++ (key, ticket) :: rest) :
    ∀ entry ∈ before, entry.2.lane = lane → entry.2.stage.isOpen = false := by
  obtain ⟨-, earlier, later, parts, none⟩ := List.find?_eq_some_iff_append.1 oldest
  have distinct := line.distinct
  rw [parts] at split distinct
  have same := before_unique distinct split
  intro entry member lane
  have skipped := none entry (same ▸ member)
  simpa [openIn, lane] using skipped

omit [DecidableEq Lane] in
theorem orderly_set {stage next : Stage Worker Result} (orderly : Orderly line)
    (found : line.get? key = some ⟨lane, stage⟩)
    (first : ∀ before rest, line.entries = before ++ (key, ⟨lane, stage⟩) :: rest →
      next ≠ .waiting → ∀ entry ∈ before, entry.2.lane = lane → entry.2.stage.isOpen = false)
    (later : stage.isOpen = false → next.isOpen = false) :
    Orderly (line.set key ⟨lane, next⟩) := by
  obtain ⟨before, rest, split, changed⟩ := entries_of_get found
  unfold Orderly at orderly ⊢
  rw [split, List.pairwise_append, List.pairwise_cons] at orderly
  obtain ⟨front, ⟨here, back⟩, across⟩ := orderly
  rw [changed, List.pairwise_append, List.pairwise_cons]
  refine ⟨front, ⟨fun entry member same taken => later (here entry member same taken), back⟩, ?_⟩
  intro entry member other within
  rcases List.mem_cons.1 within with rfl | inside
  · exact fun same taken => first before rest split taken entry member same
  · exact across entry member other (List.mem_cons_of_mem _ inside)

theorem Move.orderly (orderly : Orderly line) (move : Move deed line after) : Orderly after := by
  cases move with
  | stay => exact orderly
  | enqueue absent room =>
    unfold Orderly at orderly ⊢
    rw [entries_set_of_absent absent, List.pairwise_append]
    refine ⟨orderly, List.pairwise_singleton _ _, ?_⟩
    intro entry member other single same taken
    rw [List.mem_singleton.1 single] at taken
    exact absurd rfl taken
  | @take line key lane worker ticket oldest other =>
    obtain ⟨stage⟩ := ticket
    obtain ⟨rfl, opened, found⟩ := head_spec oldest
    refine orderly_set orderly found (fun before rest split _ => head_first oldest split) ?_
    intro closed
    rw [opened] at closed
    cases closed
  | @finish line key lane worker result holds =>
    refine orderly_set orderly holds ?_ (fun _ => rfl)
    intro before rest split _ entry member same
    unfold Orderly at orderly
    rw [split, List.pairwise_append] at orderly
    exact orderly.2.2 entry member _ List.mem_cons_self same (by simp)

def limitIn (lane : Lane) : Deed Key Lane Worker Result → Nat
  | .enqueue _ other limit => if other = lane then limit else 0
  | _ => 0

def largest (lane : Lane) (deeds : List (Deed Key Lane Worker Result)) : Nat :=
  (deeds.map (limitIn lane)).foldr max 0

theorem load_set {own : Lane} {stage next : Stage Worker Result}
    (found : line.get? key = some ⟨own, stage⟩) (kept : next.isOpen = true → stage.isOpen = true) :
    load lane (line.set key ⟨own, next⟩) ≤ load lane line := by
  obtain ⟨before, rest, split, changed⟩ := entries_of_get found
  unfold load
  rw [changed, split, List.countP_append, List.countP_append, List.countP_cons, List.countP_cons]
  have fewer : openIn lane (key, (⟨own, next⟩ : Ticket Lane Worker Result)) = true →
      openIn lane (key, (⟨own, stage⟩ : Ticket Lane Worker Result)) = true := by
    simp only [openIn, Bool.and_eq_true, decide_eq_true_eq]
    exact And.imp_right kept
  split <;> split <;> first | omega | exact absurd (fewer ‹_›) ‹_›

theorem Move.load_le (move : Move deed line after) :
    load lane after ≤ max (load lane line) (limitIn lane deed) := by
  cases move with
  | stay => exact Nat.le_max_left _ _
  | @enqueue line key own limit absent room =>
    have added : load lane (line.set key ⟨own, .waiting⟩) =
        load lane line + if own = lane then 1 else 0 := by
      unfold load
      rw [entries_set_of_absent absent, List.countP_append]
      simp [openIn, Stage.isOpen, List.countP_singleton]
    rw [added, limitIn]
    by_cases same : own = lane
    · rw [same] at room; simp only [same, if_true]; omega
    · simp only [same, if_false]; omega
  | @take line key own worker ticket oldest other =>
    obtain ⟨stage⟩ := ticket
    obtain ⟨rfl, opened, found⟩ := head_spec oldest
    exact Nat.le_trans (load_set found fun _ => opened) (Nat.le_max_left _ _)
  | finish holds => exact Nat.le_trans (load_set holds fun _ => rfl) (Nat.le_max_left _ _)

variable {worker : Worker}

theorem Move.lasting {result : Result} (move : Move deed line after)
    (finished : line.get? key = some ⟨lane, .done worker result⟩) :
    after.get? key = some ⟨lane, .done worker result⟩ := by
  have elsewhere {other : Key} (ticket : Ticket Lane Worker Result)
      (open' : ∀ held, line.get? other = some held → held.stage.isOpen = true) :
      (line.set other ticket).get? key = some ⟨lane, .done worker result⟩ := by
    rw [OrderedDict.get?_set_ne, finished]
    intro same
    cases open' _ (same ▸ finished)
  cases move with
  | stay => exact finished
  | enqueue absent room =>
    refine elsewhere _ fun held found => ?_
    rw [absent] at found
    cases found
  | take oldest other =>
    obtain ⟨-, opened, here⟩ := head_spec oldest
    refine elsewhere _ fun held found => ?_
    rw [here, Option.some.injEq] at found
    exact found ▸ opened
  | finish holds =>
    refine elsewhere _ fun held found => ?_
    rw [holds, Option.some.injEq] at found
    exact found ▸ rfl

theorem Move.finished {result : Result} (move : Move deed line after)
    (done : after.get? key = some ⟨lane, .done worker result⟩) :
    line.get? key = some ⟨lane, .done worker result⟩ ∨
      deed = .finish key worker result ∧ line.get? key = some ⟨lane, .held worker⟩ := by
  cases move with
  | stay => exact .inl done
  | enqueue absent room =>
    rw [OrderedDict.get?_set] at done
    split at done
    · simp at done
    · exact .inl done
  | take oldest other =>
    rw [OrderedDict.get?_set] at done
    split at done
    · simp at done
    · exact .inl done
  | finish holds =>
    rw [OrderedDict.get?_set] at done
    split at done
    next same =>
      simp only [Option.some.injEq, Ticket.mk.injEq, Stage.done.injEq] at done
      obtain ⟨rfl, rfl, rfl⟩ := done
      exact .inr ⟨by rw [same], same ▸ holds⟩
    · exact .inl done

theorem Move.holding (move : Move deed line after)
    (holds : after.get? key = some ⟨lane, .held worker⟩) :
    line.get? key = some ⟨lane, .held worker⟩ ∨
      deed = .take lane worker ∧ line.get? key ≠ some ⟨lane, .held worker⟩ := by
  cases move with
  | stay => exact .inl holds
  | enqueue absent room =>
    rw [OrderedDict.get?_set] at holds
    split at holds
    · simp at holds
    · exact .inl holds
  | take oldest other =>
    rw [OrderedDict.get?_set] at holds
    split at holds
    next same =>
      simp only [Option.some.injEq, Ticket.mk.injEq, Stage.held.injEq] at holds
      obtain ⟨rfl, rfl⟩ := holds
      refine .inr ⟨rfl, fun already => other ?_⟩
      rw [same, (head_spec oldest).2.2, Option.some.injEq] at already
      rw [already]
    · exact .inl holds
  | finish _ =>
    rw [OrderedDict.get?_set] at holds
    split at holds
    · simp at holds
    · exact .inl holds

end Steps

section Tables

variable [DecidableEq Lane] {Value : Type u} (dict : OrderedDict Key Value)
  (ticket : Value → Ticket Lane Worker Result) {lane : Lane} {waits : Value → Bool}

omit [DecidableEq Key] in
theorem load_mapValues
    (same : ∀ value, waits value =
      (decide ((ticket value).lane = lane) && (ticket value).stage.isOpen)) :
    load lane (dict.mapValues ticket) = dict.values.countP waits := by
  simp only [load, OrderedDict.mapValues, OrderedDict.values, List.countP_map]
  congr 1
  funext entry
  simp [openIn, same]

theorem head_mapValues {value : Value}
    (same : ∀ value, waits value =
      (decide ((ticket value).lane = lane) && (ticket value).stage.isOpen))
    (found : dict.values.find? waits = some value) :
    ∃ key, dict.get? key = some value ∧
      head lane (dict.mapValues ticket) = some (key, ticket value) := by
  simp only [OrderedDict.values, List.find?_map, Option.map_eq_some_iff] at found
  obtain ⟨⟨key, held⟩, first, rfl⟩ := found
  have member := List.mem_of_find?_eq_some first
  refine ⟨key, dict.get?_eq_some_iff.2 member, ?_⟩
  simp only [head, OrderedDict.mapValues, List.find?_map, Option.map_eq_some_iff]
  refine ⟨(key, held), ?_, rfl⟩
  rw [← first]
  congr 1
  funext entry
  simp [openIn, same]

end Tables

section Runs

variable [DecidableEq Lane] {S L O : Type*} (m : Machine S L O)
  (board : S → Line Key Lane Worker Result) (does : L → Deed Key Lane Worker Result)

-- The step does to the line what its label asks for, or nothing.
def Moves (s : S) (label : L) : Prop := Move (does label) (board s) (board (m.next s label))

def Holds (line : Line Key Lane Worker Result) (key : Key) (worker : Worker) : Prop :=
  ∃ lane, line.get? key = some ⟨lane, .held worker⟩

-- A worker took a ticket that it did not hold, and has held it ever since.
def HeldSince (s : S) (labels : List L) (key : Key) (worker : Worker) : Prop :=
  ∃ earlier label later, labels = earlier ++ label :: later ∧
    (∃ lane, does label = .take lane worker) ∧
    ¬ Holds (board (m.exec s earlier)) key worker ∧
    ∀ middle rest, later = middle ++ rest →
      Holds (board (m.exec s (earlier ++ label :: middle))) key worker

structure Kept (s : S) (labels : List L) : Prop where
  -- At most one ticket of a lane is held.
  single : ∀ first ∈ (board (m.exec s labels)).entries,
    ∀ second ∈ (board (m.exec s labels)).entries, ∀ worker other,
    first.2.stage = .held worker → second.2.stage = .held other →
      first.2.lane = second.2.lane → first.1 = second.1
  -- Everything before a ticket that is held or done is done.
  inOrder : ∀ before entry after,
    (board (m.exec s labels)).entries = before ++ entry :: after → entry.2.stage ≠ .waiting →
    ∀ older ∈ before, older.2.lane = entry.2.lane → older.2.stage.isOpen = false
  bounded : ∀ lane, load lane (board (m.exec s labels)) ≤ largest lane (labels.map does)
  lasting : ∀ earlier later, labels = earlier ++ later → ∀ key lane worker result,
    (board (m.exec s earlier)).get? key = some ⟨lane, .done worker result⟩ →
      (board (m.exec s labels)).get? key = some ⟨lane, .done worker result⟩
  -- A ticket is done by one call of the worker that took it last.
  finished : ∀ key lane worker result,
    (board (m.exec s labels)).get? key = some ⟨lane, .done worker result⟩ →
    ∃ earlier label later, labels = earlier ++ label :: later ∧
      does label = .finish key worker result ∧
      HeldSince m board does s earlier key worker

variable {m board does} {s : S} {labels : List L}

theorem orderly_along (orderly : Orderly (board s))
    (along : m.Along (Moves m board does) s labels) : Orderly (board (m.exec s labels)) :=
  along.exec (fun t => Orderly (board t)) (fun _ _ held move => move.orderly held) orderly

theorem load_along {lane : Lane} (along : m.Along (Moves m board does) s labels) :
    load lane (board (m.exec s labels)) ≤
      max (load lane (board s)) (largest lane (labels.map does)) := by
  induction labels generalizing s with
  | nil => exact Nat.le_max_left _ _
  | cons label rest ih =>
    obtain ⟨here, later⟩ := along
    have step : load lane (board (m.next s label)) ≤
        max (load lane (board s)) (limitIn lane (does label)) := Move.load_le here
    have after := ih later
    rw [Machine.exec_cons, List.map_cons]
    unfold largest at after ⊢
    rw [List.map_cons, List.foldr_cons]
    omega

variable {worker : Worker}

theorem lasting_along {key : Key} {lane : Lane} {result : Result}
    (along : m.Along (Moves m board does) s labels)
    (done : (board s).get? key = some ⟨lane, .done worker result⟩) :
    (board (m.exec s labels)).get? key = some ⟨lane, .done worker result⟩ :=
  along.exec (fun t => (board t).get? key = some ⟨lane, .done worker result⟩)
    (fun _ _ held move => move.lasting held) done

theorem heldSince_along {key : Key} (fresh : ¬ Holds (board s) key worker)
    (along : m.Along (Moves m board does) s labels)
    (holds : Holds (board (m.exec s labels)) key worker) :
    HeldSince m board does s labels key worker := by
  induction labels using List.reverseRecOn with
  | nil => exact absurd holds fresh
  | append_singleton rest label ih =>
    have move : Moves m board does (m.exec s rest) label := along.rest.1
    rw [m.exec_append] at holds
    obtain ⟨lane, holding⟩ := holds
    by_cases before : Holds (board (m.exec s rest)) key worker
    · obtain ⟨earlier, taken, later, split, took, apart, since⟩ := ih along.start before
      refine ⟨earlier, taken, later ++ [label], by rw [split]; simp, took, apart, ?_⟩
      intro middle remaining parts
      rcases List.eq_nil_or_concat remaining with rfl | ⟨front, last, rfl⟩
      · rw [List.append_nil] at parts
        refine ⟨lane, ?_⟩
        rw [← parts, ← List.cons_append, ← List.append_assoc, ← split, m.exec_append]
        exact holding
      · rw [List.concat_eq_append, ← List.append_assoc] at parts
        exact since middle front (List.append_inj_left' parts rfl)
    · obtain already | ⟨took, apart⟩ := move.holding holding
      · exact absurd ⟨lane, already⟩ before
      · refine ⟨rest, label, [], rfl, ⟨lane, took⟩, before, ?_⟩
        intro middle remaining parts
        obtain ⟨rfl, rfl⟩ := List.append_eq_nil_iff.1 parts.symm
        refine ⟨lane, ?_⟩
        rw [m.exec_append]
        exact holding

theorem finished_along {key : Key} {lane : Lane} {result : Result}
    (fresh : (board s).get? key = none) (along : m.Along (Moves m board does) s labels)
    (done : (board (m.exec s labels)).get? key = some ⟨lane, .done worker result⟩) :
    ∃ earlier label later, labels = earlier ++ label :: later ∧
      does label = .finish key worker result ∧ HeldSince m board does s earlier key worker := by
  induction labels using List.reverseRecOn with
  | nil =>
    rw [m.exec_nil, fresh] at done
    cases done
  | append_singleton rest label ih =>
    have move : Moves m board does (m.exec s rest) label := along.rest.1
    rw [m.exec_append] at done
    obtain already | ⟨asked, held⟩ := move.finished done
    · obtain ⟨earlier, last, later, split, asked, since⟩ := ih along.start already
      exact ⟨earlier, last, later ++ [label], by rw [split]; simp, asked, since⟩
    · refine ⟨rest, label, [], rfl, asked, heldSince_along ?_ along.start ⟨lane, held⟩⟩
      rintro ⟨other, here⟩
      rw [fresh] at here
      cases here

omit [DecidableEq Key] [DecidableEq Lane] in
theorem Orderly.inOrder {line : Line Key Lane Worker Result} (orderly : Orderly line)
    {before after : List (Key × Ticket Lane Worker Result)}
    {entry : Key × Ticket Lane Worker Result}
    (split : line.entries = before ++ entry :: after) (taken : entry.2.stage ≠ .waiting) :
    ∀ older ∈ before, older.2.lane = entry.2.lane → older.2.stage.isOpen = false := by
  intro older member same
  unfold Orderly at orderly
  rw [split, List.pairwise_append] at orderly
  exact orderly.2.2 older member entry List.mem_cons_self same taken

omit [DecidableEq Key] [DecidableEq Lane] in
theorem Orderly.single {line : Line Key Lane Worker Result} (orderly : Orderly line)
    {first second : Key × Ticket Lane Worker Result} (one : first ∈ line.entries)
    (two : second ∈ line.entries) {other : Worker} (held : first.2.stage = .held worker)
    (holds : second.2.stage = .held other) (same : first.2.lane = second.2.lane) :
    first.1 = second.1 := by
  obtain ⟨before, after, split⟩ := List.append_of_mem one
  rw [split, List.mem_append, List.mem_cons] at two
  rcases two with earlier | rfl | later
  · have done := orderly.inOrder split (by simp [held]) second earlier same.symm
    simp [holds, Stage.isOpen] at done
  · rfl
  · obtain ⟨between, rest, parts⟩ := List.append_of_mem later
    rw [parts, ← List.cons_append, ← List.append_assoc] at split
    have done := orderly.inOrder split (by simp [holds]) first (by simp) same
    simp [held, Stage.isOpen] at done

theorem kept_along (empty : board s = OrderedDict.empty)
    (along : m.Along (Moves m board does) s labels) : Kept m board does s labels := by
  have orderly : Orderly (board (m.exec s labels)) :=
    orderly_along (by rw [empty]; exact List.Pairwise.nil) along
  constructor
  case single =>
    intro first one second two worker other held holds same
    exact orderly.single one two held holds same
  case inOrder =>
    intro before entry after split taken
    exact orderly.inOrder split taken
  case bounded =>
    intro lane
    have bound : load lane (board (m.exec s labels)) ≤
        max (load lane (board s)) (largest lane (labels.map does)) := load_along along
    rw [empty] at bound
    simpa [load, OrderedDict.empty] using bound
  case lasting =>
    intro earlier later split key lane worker result done
    subst split
    rw [m.exec_append]
    exact lasting_along along.rest done
  case finished =>
    intro key lane worker result done
    exact finished_along (by rw [empty]; rfl) along done

end Runs

end ClaimLane

end Library
