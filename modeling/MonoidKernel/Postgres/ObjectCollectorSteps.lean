import MonoidKernel.Postgres.ObjectCollector

set_option autoImplicit false

namespace MonoidKernel.ObjectCollector

open Library

variable {sha256 : Bytes → String} {s t u : Hosted} {id other : Nat} {key : String}

def Hosted.Carried (s : Hosted) (runId : OpaqueId) (key : String) (data : Bytes) : Prop :=
  ∃ commit ∈ s.committed, commit.runId = runId ∧ (key, data) ∈ commit.blobs

def Hosted.Has (s : Hosted) (runId : OpaqueId) (key : String) : Prop :=
  (runId, key) ∈ s.objects.associated ∨ s.inline.associated runId key = true

def Hosted.Resolved (s : Hosted) (runId : OpaqueId) (key : String) : Prop :=
  isRecordedDigest key = true ∧ s.Has runId key

structure Inv (sha256 : Bytes → String) (s : Hosted) : Prop where
  exclusive : ∀ key first second, (key, first) ∈ s.locks → (key, second) ∈ s.locks →
    first = second
  addressed : Objects.Addressed sha256 s.objects
  backed : ∀ runId key, (runId, key) ∈ s.objects.associated →
    ∃ bytes locator, Objects.Backed sha256 s.objects runId key bytes locator
  inline : ∀ runId key, s.inline.associated runId key = true →
    ∃ value, s.inline.content key = some value ∧ sha256 value = key
  carried : ∀ runId key, s.Has runId key → ∃ data, s.Carried runId key data
  resolved : ∀ commit ∈ s.committed, ∀ key ∈ commit.references, s.Resolved commit.runId key
  hashed : ∀ commit ∈ s.committed, ∀ item ∈ commit.blobs,
    sha256 item.2 = item.1 ∧ item.2 ∈ s.submitted
  physical : ∀ key object, s.objects.physical key = some object → object.bytes ∈ s.submitted
  content : ∀ key value, s.inline.content key = some value → value ∈ s.submitted

structure Grows (sha256 : Bytes → String) (s t : Hosted) : Prop where
  crashed : ∀ id, id ∈ s.crashed → id ∈ t.crashed
  associated : ∀ entry, entry ∈ s.objects.associated → entry ∈ t.objects.associated
  keeps : Objects.Keeps sha256 s.objects t.objects
  inline : BlobStore.Grows s.inline t.inline
  committed : ∀ commit, commit ∈ s.committed → commit ∈ t.committed
  submitted : ∀ value, value ∈ s.submitted → value ∈ t.submitted

structure Fixed (key : String) (s t : Hosted) : Prop where
  recorded : t.objects.recorded key = s.objects.recorded key
  associated : ∀ runId, (runId, key) ∈ t.objects.associated → (runId, key) ∈ s.objects.associated
  stat : ∀ stat, s.objects.stat key = some stat → t.objects.stat key = some stat

structure Relied (sha256 : Bytes → String) (id : Nat) (s t : Hosted) : Prop where
  grows : Grows sha256 s t
  held : id ∉ t.crashed → ∀ key, (key, id) ∈ s.locks → (key, id) ∈ t.locks ∧ Fixed key s t

theorem Grows.refl (s : Hosted) : Grows sha256 s s :=
  ⟨fun _ held => held, fun _ held => held, .refl _, .refl _, fun _ held => held,
    fun _ held => held⟩

theorem Grows.trans (first : Grows sha256 s t) (second : Grows sha256 t u) : Grows sha256 s u where
  crashed id held := second.crashed id (first.crashed id held)
  associated entry held := second.associated entry (first.associated entry held)
  keeps := first.keeps.trans second.keeps
  inline := first.inline.trans second.inline
  committed commit held := second.committed commit (first.committed commit held)
  submitted value held := second.submitted value (first.submitted value held)

theorem Fixed.refl (key : String) (s : Hosted) : Fixed key s s :=
  ⟨rfl, fun _ held => held, fun _ held => held⟩

theorem Fixed.trans (first : Fixed key s t) (second : Fixed key t u) : Fixed key s u where
  recorded := second.recorded.trans first.recorded
  associated runId held := first.associated runId (second.associated runId held)
  stat stat held := second.stat stat (first.stat stat held)

theorem Relied.refl (id : Nat) (s : Hosted) : Relied sha256 id s s :=
  ⟨.refl s, fun _ key held => ⟨held, .refl key s⟩⟩

theorem Relied.trans (first : Relied sha256 id s t) (second : Relied sha256 id t u) :
    Relied sha256 id s u where
  grows := first.grows.trans second.grows
  held alive key held := by
    have before : id ∉ t.crashed := fun crashed => alive (second.grows.crashed id crashed)
    obtain ⟨between, fixed⟩ := first.held before key held
    obtain ⟨after, further⟩ := second.held alive key between
    exact ⟨after, fixed.trans further⟩

theorem Relied.alive (relied : Relied sha256 id s t) (alive : id ∉ t.crashed) : id ∉ s.crashed :=
  fun crashed => alive (relied.grows.crashed id crashed)

variable {runId : OpaqueId}

theorem Grows.has (grows : Grows sha256 s t) (has : s.Has runId key) :
    t.Has runId key := by
  cases has with
  | inl object => exact .inl (grows.associated _ object)
  | inr stored => exact .inr (grows.inline.2 runId key stored)

theorem Grows.resolved (grows : Grows sha256 s t) (resolved : s.Resolved runId key) :
    t.Resolved runId key :=
  ⟨resolved.1, grows.has resolved.2⟩

theorem Grows.carried {data : Bytes} (grows : Grows sha256 s t)
    (carried : s.Carried runId key data) : t.Carried runId key data := by
  obtain ⟨commit, member, run, item⟩ := carried
  exact ⟨commit, grows.committed commit member, run, item⟩

theorem Inv.locked (inv : Inv sha256 s) (locks : List (String × Nat))
    (exclusive : ∀ key first second, (key, first) ∈ locks → (key, second) ∈ locks →
      first = second) : Inv sha256 { s with locks } :=
  { inv with exclusive }

theorem mem_release {lock : String × Nat} :
    lock ∈ (s.release id).locks ↔ lock ∈ s.locks ∧ lock.2 ≠ id := by
  simp [Hosted.release]

theorem Inv.release (inv : Inv sha256 s) (id : Nat) : Inv sha256 (s.release id) := by
  refine inv.locked _ fun key first second one two => ?_
  exact inv.exclusive key first second (List.mem_of_mem_filter one) (List.mem_of_mem_filter two)

theorem Relied.release (relied : Relied sha256 other s t) (apart : other ≠ id) :
    Relied sha256 other s (t.release id) where
  grows := { relied.grows with }
  held alive key held := by
    obtain ⟨after, fixed⟩ := relied.held alive key held
    exact ⟨mem_release.mpr ⟨after, apart⟩, { fixed with }⟩

theorem Inv.lockDigest (inv : Inv sha256 s) (free : s.free id key = true) :
    Inv sha256 { s with locks := (key, id) :: s.locks } := by
  simp only [Hosted.free, List.all_eq_true, decide_eq_true_eq] at free
  have owner (lock : String × Nat) (member : lock ∈ s.locks) (same : lock.1 = key) :
      lock.2 = id := (free lock member).resolve_left fun different => different same
  refine inv.locked _ fun digest first second one two => ?_
  cases List.mem_cons.mp one with
  | inl here =>
    cases here
    cases List.mem_cons.mp two with
    | inl same => cases same; rfl
    | inr held => exact (owner _ held rfl).symm
  | inr held =>
    cases List.mem_cons.mp two with
    | inl same => cases same; exact owner _ held rfl
    | inr later => exact inv.exclusive digest first second held later

theorem relied_lockDigest (party : Nat) (s : Hosted) (id : Nat) (key : String) :
    Relied sha256 party s { s with locks := (key, id) :: s.locks } where
  grows := { Grows.refl s with }
  held _ digest held := ⟨List.mem_cons_of_mem _ held, { Fixed.refl digest s with }⟩

variable (objects : Objects String)

theorem putIfAbsent_physical (key : String) (data : Bytes) (locator : String) {other : String}
    {object : PhysicalObject}
    (stored : (objects.putIfAbsent key data locator).physical other = some object) :
    objects.physical other = some object ∨ object.bytes = data := by
  unfold Objects.putIfAbsent at stored
  split at stored
  · exact .inl stored
  next absent =>
    by_cases same : other = key
    · simp only [same, Function.update_self, Option.some.injEq] at stored
      exact .inr (stored ▸ rfl)
    · exact .inl (by simpa [same] using stored)

@[simp] theorem putIfAbsent_recorded (key : String) (data : Bytes) (locator : String) :
    (objects.putIfAbsent key data locator).recorded = objects.recorded := by
  unfold Objects.putIfAbsent
  split <;> rfl

@[simp] theorem putIfAbsent_associated (key : String) (data : Bytes) (locator : String) :
    (objects.putIfAbsent key data locator).associated = objects.associated := by
  unfold Objects.putIfAbsent
  split <;> rfl

variable {stat : BlobStat String}

theorem putIfAbsent_stat (key : String) (data : Bytes) (locator : String) {other : String}
    (found : objects.stat other = some stat) :
    (objects.putIfAbsent key data locator).stat other = some stat := by
  unfold Objects.putIfAbsent
  split
  · exact found
  next absent =>
    have apart : other ≠ key := by
      intro same
      simp [Objects.stat, same, absent] at found
    simpa [Objects.stat, apart] using found

theorem Inv.putIfAbsent (inv : Inv sha256 s) (data : Bytes) (choice : Choice) :
    Inv sha256 (putIfAbsent s (sha256 data) data choice).1 := by
  unfold ObjectCollector.putIfAbsent
  split
  · exact inv
  · constructor
    case exclusive => exact inv.exclusive
    case addressed => exact inv.addressed.putIfAbsent data choice.locator
    case backed =>
      intro runId key associated
      simp only [putIfAbsent_associated] at associated
      obtain ⟨bytes, locator, backed⟩ := inv.backed runId key associated
      exact ⟨bytes, locator, Objects.putIfAbsent_keeps _ _ _ _ _ _ _ _ backed⟩
    case inline => exact inv.inline
    case carried =>
      intro runId key has
      simp only [Hosted.Has, putIfAbsent_associated] at has
      exact inv.carried runId key has
    case resolved =>
      intro commit member key reference
      obtain ⟨digest, has⟩ := inv.resolved commit member key reference
      exact ⟨digest, by simpa only [Hosted.Has, putIfAbsent_associated] using has⟩
    case hashed =>
      intro commit member item carried
      obtain ⟨hashes, kept⟩ := inv.hashed commit member item carried
      exact ⟨hashes, List.mem_append_left _ kept⟩
    case physical =>
      intro key object stored
      cases putIfAbsent_physical _ _ _ _ stored with
      | inl before => exact List.mem_append_left _ (inv.physical key object before)
      | inr same => exact List.mem_append_right _ (same ▸ List.mem_singleton_self _)
    case content =>
      intro key value stored
      exact List.mem_append_left _ (inv.content key value stored)

theorem relied_putIfAbsent (party : Nat) (s : Hosted) (key : String) (data : Bytes)
    (choice : Choice) : Relied sha256 party s (putIfAbsent s key data choice).1 := by
  unfold putIfAbsent
  split
  · exact .refl party s
  · constructor
    case grows =>
      have same : Grows sha256 s s := .refl s
      exact { same with
        associated := fun _ held => by simpa only [putIfAbsent_associated] using held
        keeps := Objects.putIfAbsent_keeps _ _ _ _
        submitted := fun _ held => List.mem_append_left _ held }
    case held =>
      intro _ digest held
      refine ⟨held, ⟨by simp only [putIfAbsent_recorded], fun runId associated => ?_,
        fun stat found => putIfAbsent_stat _ _ _ _ found⟩⟩
      simpa only [putIfAbsent_associated] using associated

theorem anyAssociation_iff (orphan : s.anyAssociation key = false) :
    (runId, key) ∉ s.objects.associated := by
  intro associated
  have any : s.anyAssociation key = true :=
    List.any_eq_true.mpr ⟨_, associated, decide_eq_true rfl⟩
  rw [orphan] at any
  cases any

theorem deleted_keeps (orphan : s.anyAssociation key = false) :
    Objects.Keeps sha256 s.objects
      { s.objects with physical := Function.update s.objects.physical key none } := by
  intro runId other bytes locator backed
  have apart : other ≠ key := by
    rintro rfl
    exact anyAssociation_iff orphan backed.associated
  exact { backed with physical := by simpa [apart] using backed.physical }

theorem Inv.deleteIfMatch (inv : Inv sha256 s) (orphan : s.anyAssociation key = false)
    (deleteToken : String) (choice : Choice) :
    Inv sha256 (deleteIfMatch s key deleteToken choice).1 := by
  unfold ObjectCollector.deleteIfMatch
  split
  · exact inv
  · split
    · have stays {digest : String} {object : PhysicalObject}
          (stored : Function.update s.objects.physical key none digest = some object) :
          s.objects.physical digest = some object := by
        by_cases same : digest = key
        · simp [same] at stored
        · simpa [same] using stored
      exact { inv with
        addressed := fun digest object stored => inv.addressed digest object (stays stored)
        backed := fun runId digest associated => by
          obtain ⟨bytes, locator, backed⟩ := inv.backed runId digest associated
          exact ⟨bytes, locator, deleted_keeps orphan _ _ _ _ backed⟩
        physical := fun digest object stored => inv.physical digest object (stays stored) }
    · exact inv

theorem relied_deleteIfMatch (inv : Inv sha256 s) (held : (key, id) ∈ s.locks)
    (orphan : s.anyAssociation key = false) (apart : other ≠ id) (deleteToken : String)
    (choice : Choice) :
    Relied sha256 other s (deleteIfMatch s key deleteToken choice).1 := by
  unfold deleteIfMatch
  split
  · exact .refl other s
  · split
    · constructor
      case grows =>
        have same : Grows sha256 s s := .refl s
        exact { same with keeps := deleted_keeps orphan }
      case held =>
        intro _ digest own
        have different : digest ≠ key := by
          rintro rfl
          exact apart (inv.exclusive digest other id own held)
        exact ⟨own, ⟨rfl, fun _ associated => associated,
          fun stat found => by simpa [Objects.stat, different] using found⟩⟩
    · exact .refl other s

theorem associate_associated (runId : OpaqueId) (key : String) (entry : OpaqueId × String) :
    entry ∈ (objects.associate runId key).associated ↔
      entry ∈ objects.associated ∨ entry = (runId, key) := by
  unfold Objects.associate
  split
  next present =>
    constructor
    · exact .inl
    · intro held
      cases held with
      | inl before => exact before
      | inr same => exact same ▸ present
  · simp

structure Persisted (sha256 : Bytes → String) (runId : OpaqueId) (stats : List (BlobStat String))
    (before after : Objects String) : Prop where
  keeps : Objects.Keeps sha256 before after
  physical : after.physical = before.physical
  associated : ∀ entry, entry ∈ after.associated ↔
    entry ∈ before.associated ∨ ∃ stat ∈ stats, entry = (runId, stat.sha256)
  recorded : ∀ stat ∈ stats, ∃ generation,
    after.recorded stat.sha256 = some ⟨stat.sizeBytes, stat.locator, generation, true⟩
  elsewhere : ∀ key, (∀ stat ∈ stats, stat.sha256 ≠ key) →
    after.recorded key = before.recorded key

theorem persistObject_eq {objects : Objects String}
    (current : objects.stat stat.sha256 = some stat) :
    persistObject objects runId stat = objects.recordObject runId stat := by
  unfold Objects.recordObject
  exact (if_neg (not_not_intro current)).symm

variable {after : Objects String}

theorem persistObject_written {objects : Objects String}
    (persisted : persistObject objects runId stat = some after) :
    (∀ entry, entry ∈ after.associated ↔
      entry ∈ objects.associated ∨ entry = (runId, stat.sha256)) ∧
    ∀ key, stat.sha256 ≠ key → after.recorded key = objects.recorded key := by
  have row (row : ObjectRow) : (∀ entry, entry ∈
        ((objects.setRow stat.sha256 row).associate runId stat.sha256).associated ↔
        entry ∈ objects.associated ∨ entry = (runId, stat.sha256)) ∧
      ∀ key, stat.sha256 ≠ key →
        ((objects.setRow stat.sha256 row).associate runId stat.sha256).recorded key =
          objects.recorded key := by
    constructor
    · exact associate_associated _ _ _
    · intro key apart
      simp [Objects.setRow, Ne.symm apart]
  unfold persistObject at persisted
  split at persisted
  · cases persisted; exact row _
  · split at persisted
    · cases persisted; exact row _
    · split at persisted
      · cases persisted
        exact ⟨associate_associated _ _ _, fun key _ => by simp⟩
      · cases persisted

variable {stats : List (BlobStat String)}

theorem persistObjects_spec {before : Objects String}
    (current : ∀ stat ∈ stats, before.stat stat.sha256 = some stat)
    (persisted : persistObjects before runId stats = some after) :
    Persisted sha256 runId stats before after := by
  induction stats generalizing before with
  | nil =>
    cases persisted
    exact ⟨.refl _, rfl, by simp, by simp, fun _ _ => rfl⟩
  | cons stat rest ih =>
    obtain ⟨middle, first, second⟩ := Option.bind_eq_some_iff.mp persisted
    obtain ⟨added, apart⟩ := persistObject_written first
    rw [persistObject_eq (current stat (List.mem_cons_self ..))] at first
    obtain ⟨keeps, physical, found, associated, generation, row⟩ :=
      @Objects.recordObject_spec String _ sha256 _ _ _ _ first
    have stats (key : String) : middle.stat key = before.stat key := by
      simp only [Objects.stat, physical]
    have later : Persisted sha256 runId rest middle after :=
      ih (fun other member =>
        (stats _).trans (current other (List.mem_cons_of_mem _ member))) second
    constructor
    case keeps => exact keeps.trans later.keeps
    case physical => exact later.physical.trans physical
    case associated =>
      intro entry
      rw [later.associated, added, List.exists_mem_cons_iff, or_assoc]
    case recorded =>
      intro other member
      -- A later stat of the same digest rewrites the row; the row of the others stays.
      by_cases again : ∃ same ∈ rest, same.sha256 = other.sha256
      · obtain ⟨same, later', digest⟩ := again
        have one := current other member
        have two := current same (List.mem_cons_of_mem _ later')
        rw [digest, one] at two
        cases two
        exact later.recorded other later'
      · cases List.mem_cons.mp member with
        | inl here =>
          subst here
          refine ⟨generation, ?_⟩
          rw [later.elsewhere _ fun same held digest => again ⟨same, held, digest⟩, row]
        | inr held => exact absurd ⟨other, held, rfl⟩ again
    case elsewhere =>
      intro key different
      rw [later.elsewhere key fun other member => different other (List.mem_cons_of_mem _ member),
        apart key (different stat (List.mem_cons_self ..))]

variable {commit : BlobCommit}

theorem insertRecord_spec (inserted : insertRecord s commit = .ok t) :
    t = { s with committed := s.committed ++ [commit] } := by
  unfold insertRecord at inserted
  split at inserted
  · cases inserted
  · exact (Except.ok.inj inserted).symm

theorem insertReceipt_spec {receipt : ObjectGcReceipt}
    (inserted : insertReceipt s receipt = .ok t) :
    t = { s with receipts := s.receipts ++ [receipt] } := by
  unfold insertReceipt at inserted
  split at inserted
  · cases inserted
  · exact (Except.ok.inj inserted).symm

theorem orphanRow_keeps (orphan : s.anyAssociation key = false) (row : ObjectRow) :
    Objects.Keeps sha256 s.objects (s.objects.setRow key row) := by
  intro runId other bytes locator backed
  have apart : other ≠ key := by
    rintro rfl
    exact anyAssociation_iff orphan backed.associated
  exact { backed with recorded := by simpa [Objects.setRow, apart] using backed.recorded }

structure Submits (sha256 : Bytes → String) (s : Hosted) (commit : BlobCommit) : Prop where
  digests : ∀ item ∈ commit.blobs, isRecordedDigest item.1 = true ∧ sha256 item.2 = item.1
  references : ∀ key ∈ commit.references, key ∈ commit.keys ∨ s.Resolved commit.runId key

structure Checked (s : Hosted) (id : Nat) (commit : BlobCommit) (stats : List (BlobStat String)) :
    Prop where
  keys : stats.map BlobStat.sha256 ⊆ commit.keys
  all : commit.keys ⊆ stats.map BlobStat.sha256
  held : ∀ stat ∈ stats, (stat.sha256, id) ∈ s.locks
  current : ∀ stat ∈ stats, s.objects.stat stat.sha256 = some stat
  submitted : ∀ item ∈ commit.blobs, item.2 ∈ s.submitted

def WritesAllowed (sha256 : Bytes → String) (id : Nat) (s : Hosted) : Writes → Prop
  | .nothing | .receipt _ => True
  | .blobs commit stats => Submits sha256 s commit ∧ Checked s id commit stats
  | .inline commit => Submits sha256 s commit
  | .deletion candidate _ _ =>
    (candidate.sha256, id) ∈ s.locks ∧ s.anyAssociation candidate.sha256 = false

theorem Grows.submits (grows : Grows sha256 s t) (submits : Submits sha256 s commit) :
    Submits sha256 t commit where
  digests := submits.digests
  references key reference := by
    cases submits.references key reference with
    | inl own => exact .inl own
    | inr resolved => exact .inr (grows.resolved resolved)

theorem Submits.resolves (submits : Submits sha256 s commit) (grows : Grows sha256 s t)
    (own : ∀ key ∈ commit.keys, t.Has commit.runId key) :
    ∀ key ∈ commit.references, t.Resolved commit.runId key := by
  intro key reference
  cases submits.references key reference with
  | inl carried =>
    obtain ⟨item, member, same⟩ := List.mem_map.mp carried
    exact ⟨same ▸ (submits.digests item member).1, own key carried⟩
  | inr resolved => exact grows.resolved resolved

theorem Checked.backed (inv : Inv sha256 s) (checked : Checked s id commit stats)
    (persisted : Persisted sha256 runId stats s.objects after) (member : stat ∈ stats) :
    ∃ bytes locator, Objects.Backed sha256 after runId stat.sha256 bytes locator := by
  obtain ⟨object, stored, same⟩ := Option.map_eq_some_iff.mp (checked.current stat member)
  obtain ⟨generation, row⟩ := persisted.recorded stat member
  refine ⟨object.bytes, object.locator, ?_⟩
  constructor
  case associated => exact (persisted.associated _).mpr (.inr ⟨stat, member, rfl⟩)
  case recorded => exact ⟨generation, by rw [row, ← same]⟩
  case physical => rw [persisted.physical, stored]
  case checked => exact inv.addressed _ _ stored

theorem Inv.persisted (inv : Inv sha256 s) (submits : Submits sha256 s commit)
    (checked : Checked s id commit stats)
    (persisted : Persisted sha256 commit.runId stats s.objects after) :
    Inv sha256 { s with objects := after, committed := s.committed ++ [commit] } ∧
      ∀ other, other ≠ id →
        Relied sha256 other s
          { s with objects := after, committed := s.committed ++ [commit] } := by
  have same : Grows sha256 s s := .refl s
  have grows : Grows sha256 s { s with objects := after, committed := s.committed ++ [commit] } :=
    { same with
      associated := fun entry held => (persisted.associated entry).mpr (.inl held)
      keeps := persisted.keeps
      committed := fun _ held => List.mem_append_left _ held }
  have added : commit ∈ s.committed ++ [commit] := by simp
  constructor
  · constructor
    case exclusive => exact inv.exclusive
    case addressed =>
      intro key object stored
      exact inv.addressed key object (persisted.physical ▸ stored)
    case backed =>
      intro runId key associated
      cases (persisted.associated _).mp associated with
      | inl before =>
        obtain ⟨bytes, locator, backed⟩ := inv.backed runId key before
        exact ⟨bytes, locator, persisted.keeps _ _ _ _ backed⟩
      | inr found =>
        obtain ⟨stat, member, entry⟩ := found
        cases entry
        exact checked.backed inv persisted member
    case inline => exact inv.inline
    case carried =>
      intro runId key has
      have known (before : s.Has runId key) : Hosted.Carried
          { s with objects := after, committed := s.committed ++ [commit] } runId key
            (inv.carried runId key before).choose :=
        grows.carried (inv.carried runId key before).choose_spec
      cases has with
      | inl associated =>
        cases (persisted.associated _).mp associated with
        | inl before => exact ⟨_, known (.inl before)⟩
        | inr found =>
          obtain ⟨stat, member, entry⟩ := found
          cases entry
          have key := checked.keys (List.mem_map_of_mem member)
          obtain ⟨item, carried, digest⟩ := List.mem_map.mp key
          exact ⟨item.2, commit, added, rfl, digest ▸ carried⟩
      | inr stored => exact ⟨_, known (.inr stored)⟩
    case resolved =>
      intro other member key reference
      cases List.mem_append.mp member with
      | inl before => exact grows.resolved (inv.resolved other before key reference)
      | inr here =>
        cases List.mem_singleton.mp here
        refine submits.resolves grows (fun own carried => .inl ?_) key reference
        obtain ⟨stat, held, digest⟩ := List.mem_map.mp (checked.all carried)
        exact (persisted.associated _).mpr (.inr ⟨stat, held, by rw [digest]⟩)
    case hashed =>
      intro other member item carried
      cases List.mem_append.mp member with
      | inl before => exact inv.hashed other before item carried
      | inr here =>
        cases List.mem_singleton.mp here
        exact ⟨(submits.digests item carried).2, checked.submitted item carried⟩
    case physical =>
      intro key object stored
      exact inv.physical key object (persisted.physical ▸ stored)
    case content => exact inv.content
  · intro other apart
    refine ⟨grows, fun _ key own => ⟨own, ?_⟩⟩
    have untouched : ∀ stat ∈ stats, stat.sha256 ≠ key := by
      intro stat member digest
      exact apart (inv.exclusive key other id own (digest ▸ checked.held stat member))
    constructor
    case recorded => exact persisted.elsewhere key untouched
    case associated =>
      intro runId associated
      cases (persisted.associated _).mp associated with
      | inl before => exact before
      | inr found =>
        obtain ⟨stat, member, entry⟩ := found
        cases entry
        exact absurd rfl (untouched stat member)
    case stat =>
      intro stat found
      simpa only [Objects.stat, persisted.physical] using found

theorem persistBlobs_only {blobs : List (String × Bytes)} {before after : BlobStore String}
    (persisted : before.persistBlobs runId blobs = some after) :
    (∀ other key, after.associated other key = true →
      before.associated other key = true ∨ other = runId ∧ key ∈ blobs.map Prod.fst) ∧
    ∀ key value, after.content key = some value →
      before.content key = some value ∨ (key, value) ∈ blobs := by
  induction blobs generalizing before with
  | nil =>
    cases persisted
    exact ⟨fun _ _ held => .inl held, fun _ _ stored => .inl stored⟩
  | cons item rest ih =>
    obtain ⟨digest, data⟩ := item
    simp only [BlobStore.persistBlobs] at persisted
    split at persisted
    next middle one =>
      obtain ⟨associated, content⟩ := ih persisted
      have first : (∀ other key, middle.associated other key = true →
            before.associated other key = true ∨ other = runId ∧ key = digest) ∧
          ∀ key value, middle.content key = some value →
            before.content key = some value ∨ (key, value) = (digest, data) := by
        have marked (other : OpaqueId) (key : String)
            (held : Function.update before.associated runId
              (Function.update (before.associated runId) digest true) other key = true) :
            before.associated other key = true ∨ other = runId ∧ key = digest := by
          by_cases run : other = runId
          · by_cases same : key = digest
            · exact .inr ⟨run, same⟩
            · exact .inl (by simpa [run, same] using held)
          · exact .inl (by simpa [run] using held)
        unfold BlobStore.persistBlob at one
        dsimp only at one
        split at one
        next absent =>
          cases one
          refine ⟨marked, fun key value stored => ?_⟩
          by_cases same : key = digest
          · simp only [same, Function.update_self, Option.some.injEq] at stored
            exact .inr (by rw [same, stored])
          · exact .inl (by simpa [same] using stored)
        · split at one
          · cases one
            exact ⟨marked, fun _ _ stored => .inl stored⟩
          · cases one
      constructor
      · intro other key held
        cases associated other key held with
        | inl between =>
          cases first.1 other key between with
          | inl old => exact .inl old
          | inr here => exact .inr ⟨here.1, by simp [here.2]⟩
        | inr later => exact .inr ⟨later.1, List.mem_cons_of_mem _ later.2⟩
      · intro key value stored
        cases content key value stored with
        | inl between =>
          cases first.2 key value between with
          | inl old => exact .inl old
          | inr here => exact .inr (here ▸ List.mem_cons_self ..)
        | inr later => exact .inr (List.mem_cons_of_mem _ later)
    · cases persisted

theorem Inv.inlined {stored : BlobStore String} (inv : Inv sha256 s)
    (submits : Submits sha256 s commit)
    (persisted : s.inline.persistBlobs commit.runId commit.blobs = some stored)
    (after : t = { s with
      inline := stored, submitted := s.submitted ++ commit.blobs.map Prod.snd,
      committed := s.committed ++ [commit] }) :
    Inv sha256 t ∧ ∀ other, Relied sha256 other s t := by
  subst after
  obtain ⟨more, all⟩ := BlobStore.persistBlobs_spec persisted
  obtain ⟨associated, content⟩ := persistBlobs_only persisted
  have same : Grows sha256 s s := .refl s
  have grows : Grows sha256 s { s with
      inline := stored, submitted := s.submitted ++ commit.blobs.map Prod.snd,
      committed := s.committed ++ [commit] } :=
    { same with
      inline := more
      committed := fun _ held => List.mem_append_left _ held
      submitted := fun _ held => List.mem_append_left _ held }
  have added : commit ∈ s.committed ++ [commit] := by simp
  have brought {item : String × Bytes} (member : item ∈ commit.blobs) :
      item.2 ∈ s.submitted ++ commit.blobs.map Prod.snd :=
    List.mem_append_right _ (List.mem_map_of_mem member)
  constructor
  · constructor
    case exclusive => exact inv.exclusive
    case addressed => exact inv.addressed
    case backed => exact inv.backed
    case inline =>
      intro runId key held
      cases associated runId key held with
      | inl before =>
        obtain ⟨value, found, hashes⟩ := inv.inline runId key before
        exact ⟨value, more.1 key value found, hashes⟩
      | inr here =>
        obtain ⟨item, member, digest⟩ := List.mem_map.mp here.2
        exact ⟨item.2, digest ▸ (all item member).1,
          (submits.digests item member).2.trans digest⟩
    case carried =>
      intro runId key has
      have known (before : s.Has runId key) : ∃ data, Hosted.Carried { s with
          inline := stored, submitted := s.submitted ++ commit.blobs.map Prod.snd,
          committed := s.committed ++ [commit] } runId key data := by
        obtain ⟨data, carried⟩ := inv.carried runId key before
        exact ⟨data, grows.carried carried⟩
      cases has with
      | inl object => exact known (.inl object)
      | inr held =>
        cases associated runId key held with
        | inl before => exact known (.inr before)
        | inr here =>
          obtain ⟨item, member, digest⟩ := List.mem_map.mp here.2
          exact ⟨item.2, commit, added, here.1.symm, digest ▸ member⟩
    case resolved =>
      intro other member key reference
      cases List.mem_append.mp member with
      | inl before => exact grows.resolved (inv.resolved other before key reference)
      | inr here =>
        cases List.mem_singleton.mp here
        refine submits.resolves grows (fun own carried => .inr ?_) key reference
        obtain ⟨item, held, digest⟩ := List.mem_map.mp carried
        exact digest ▸ (all item held).2
    case hashed =>
      intro other member item carried
      cases List.mem_append.mp member with
      | inl before =>
        obtain ⟨hashes, kept⟩ := inv.hashed other before item carried
        exact ⟨hashes, List.mem_append_left _ kept⟩
      | inr here =>
        cases List.mem_singleton.mp here
        exact ⟨(submits.digests item carried).2, brought carried⟩
    case physical =>
      intro key object found
      exact List.mem_append_left _ (inv.physical key object found)
    case content =>
      intro key value found
      cases content key value found with
      | inl before => exact List.mem_append_left _ (inv.content key value before)
      | inr here => exact brought here
  · intro other
    exact ⟨grows, fun _ key own => ⟨own, { Fixed.refl key s with }⟩⟩

theorem markDeleted_spec {candidate : ObjectGcCandidate} {metadata : Option ObjectRow}
    (marked : markDeleted s.objects candidate metadata = some after) :
    after = s.objects ∨ ∃ row, after = s.objects.setRow candidate.sha256 row := by
  unfold markDeleted at marked
  split at marked
  · exact .inr ⟨_, (Option.some.inj marked).symm⟩
  · cases marked
  · exact .inl (Option.some.inj marked).symm
  · exact .inr ⟨_, (Option.some.inj marked).symm⟩

theorem Inv.orphanRow (inv : Inv sha256 s) (held : (key, id) ∈ s.locks)
    (orphan : s.anyAssociation key = false) (row : ObjectRow) :
    Inv sha256 { s with objects := s.objects.setRow key row } ∧
      ∀ other, other ≠ id →
        Relied sha256 other s { s with objects := s.objects.setRow key row } := by
  have same : Grows sha256 s s := .refl s
  constructor
  · exact { inv with
      backed := fun runId digest associated => by
        obtain ⟨bytes, locator, backed⟩ := inv.backed runId digest associated
        exact ⟨bytes, locator, orphanRow_keeps orphan row _ _ _ _ backed⟩ }
  · intro other apart
    refine ⟨{ same with keeps := orphanRow_keeps orphan row }, fun _ digest own => ⟨own, ?_⟩⟩
    have different : digest ≠ key := by
      rintro rfl
      exact apart (inv.exclusive digest other id own held)
    exact ⟨by simp [Objects.setRow, different], fun _ associated => associated,
      fun _ found => found⟩

theorem Inv.receipts (inv : Inv sha256 s) (receipts : List ObjectGcReceipt) :
    Inv sha256 { s with receipts } := { inv with }

theorem Relied.receipts (relied : Relied sha256 other s t) (receipts : List ObjectGcReceipt) :
    Relied sha256 other s { t with receipts } where
  grows := { relied.grows with }
  held alive key held :=
    ⟨(relied.held alive key held).1, { (relied.held alive key held).2 with }⟩

theorem apply_spec (inv : Inv sha256 s) {writes : Writes}
    (allowed : WritesAllowed sha256 id s writes) (applied : writes.apply s = .ok t) :
    Inv sha256 t ∧ ∀ other, other ≠ id → Relied sha256 other s t := by
  cases writes with
  | nothing =>
    cases applied
    exact ⟨inv, fun other _ => .refl other s⟩
  | blobs commit stats =>
    obtain ⟨submits, checked⟩ := allowed
    simp only [Writes.apply] at applied
    split at applied
    · cases applied
    next objects persisted =>
      have spec : Persisted sha256 commit.runId stats s.objects objects :=
        persistObjects_spec checked.current persisted
      cases insertRecord_spec applied
      exact inv.persisted submits checked spec
  | inline commit =>
    simp only [Writes.apply] at applied
    split at applied
    · cases applied
    next stored persisted =>
      obtain ⟨kept, relied⟩ := inv.inlined allowed persisted (insertRecord_spec applied)
      exact ⟨kept, fun other _ => relied other⟩
  | receipt receipt =>
    cases insertReceipt_spec applied
    exact ⟨inv.receipts _, fun other _ => (Relied.refl other s).receipts _⟩
  | deletion candidate metadata receipt =>
    obtain ⟨held, orphan⟩ := allowed
    simp only [Writes.apply] at applied
    split at applied
    · cases applied
    next objects marked =>
      cases insertReceipt_spec applied
      cases markDeleted_spec marked with
      | inl same =>
        subst same
        exact ⟨inv.receipts _, fun other _ => (Relied.refl other s).receipts _⟩
      | inr changed =>
        obtain ⟨row, same⟩ := changed
        subst same
        obtain ⟨kept, relied⟩ := inv.orphanRow held orphan row
        exact ⟨kept.receipts _, fun other apart => (relied other apart).receipts _⟩

end MonoidKernel.ObjectCollector
