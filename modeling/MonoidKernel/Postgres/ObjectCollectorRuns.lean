import MonoidKernel.Postgres.ObjectCollectorSteps

set_option autoImplicit false

namespace MonoidKernel.ObjectCollector

open Library Discipline

variable {sha256 : Bytes → String} {s t u : Hosted} {id other : Nat} {key : String}

def RequestAllowed (sha256 : Bytes → String) (id : Nat) (s : Hosted) : Request → Prop
  | .putIfAbsent key data => sha256 data = key
  | .deleteIfMatch key _ => (key, id) ∈ s.locks ∧ s.anyAssociation key = false
  | .commit writes => WritesAllowed sha256 id s writes
  | _ => True

def Allowed (sha256 : Bytes → String) (id : Nat) (s : Hosted) (request : Request) : Prop :=
  id ∉ s.crashed → RequestAllowed sha256 id s request

theorem commitWrites_spec (inv : Inv sha256 s) {writes : Writes}
    (allowed : WritesAllowed sha256 id s writes) :
    Inv sha256 (commitWrites s id writes).1 ∧
      ∀ other, other ≠ id → Relied sha256 other s (commitWrites s id writes).1 := by
  unfold commitWrites
  split
  next written applied =>
    obtain ⟨kept, relied⟩ := apply_spec inv allowed applied
    exact ⟨kept.release id, fun other apart => (relied other apart).release apart⟩
  · exact ⟨inv.release id, fun other apart => (Relied.refl other s).release apart⟩

theorem serve_spec (inv : Inv sha256 s) {request : Request} (allowed : Allowed sha256 id s request)
    (choice : Choice) :
    Inv sha256 (serve sha256 id s request choice).1 ∧
      ∀ other, other ≠ id → Relied sha256 other s (serve sha256 id s request choice).1 := by
  unfold serve
  split
  · exact ⟨inv, fun other _ => .refl other s⟩
  next alive =>
    have permitted := allowed alive
    cases request with
    | putIfAbsent key data =>
      cases permitted
      exact ⟨inv.putIfAbsent data choice, fun other _ => relied_putIfAbsent other s _ data choice⟩
    | deleteIfMatch key deleteToken =>
      exact ⟨inv.deleteIfMatch permitted.2 deleteToken choice,
        fun other apart => relied_deleteIfMatch inv permitted.1 permitted.2 apart _ choice⟩
    | lockDigest key =>
      simp only [serveRunning]
      split
      next free => exact ⟨inv.lockDigest free, fun other _ => relied_lockDigest other s id key⟩
      · exact ⟨inv, fun other _ => .refl other s⟩
    | commit writes => exact commitWrites_spec inv permitted
    | rollback =>
      exact ⟨inv.release id, fun other apart => (Relied.refl other s).release apart⟩
    | _ => exact ⟨inv, fun other _ => .refl other s⟩

def discipline (sha256 : Bytes → String) : Discipline Hosted Nat Request Answer Choice where
  serve := serve sha256
  inv := Inv sha256
  rely := Relied sha256
  allowed := Allowed sha256
  rely_refl := Relied.refl
  rely_trans := fun _ _ _ _ first second => first.trans second
  serve_inv := fun _ _ _ choice inv allowed => (serve_spec inv allowed choice).1
  guarantee := fun _ other _ _ choice inv allowed apart =>
    (serve_spec inv allowed choice).2 other apart

section Rules

variable {A B : Type} {action : Act A} {ok : Hosted → A → Prop} {failed : Hosted → Raised → Prop}

abbrev Spec (sha256 : Bytes → String) (id : Nat) (s : Hosted) (action : Act A)
    (ok : Hosted → A → Prop) (failed : Hosted → Raised → Prop) : Prop :=
  (discipline sha256).Does id (Allowed sha256 id) s action ok failed

structure Later (sha256 : Bytes → String) (id : Nat) (s t : Hosted) : Prop where
  relied : Relied sha256 id s t
  inv : Inv sha256 t

theorem Later.refl (inv : Inv sha256 s) : Later sha256 id s s := ⟨.refl id s, inv⟩

theorem Later.trans (first : Later sha256 id s t) (second : Later sha256 id t u) :
    Later sha256 id s u := ⟨first.relied.trans second.relied, second.inv⟩

theorem Later.alive (later : Later sha256 id s t) (alive : id ∉ t.crashed) : id ∉ s.crashed :=
  later.relied.alive alive

def Reads : Request → Prop
  | .putIfAbsent _ _ | .deleteIfMatch _ _ | .lockDigest _ | .commit _ | .rollback => False
  | _ => True

theorem serve_reads {request : Request} (reads : Reads request) (choice : Choice) :
    (serve sha256 id s request choice).1 = s := by
  unfold serve
  split
  · rfl
  · cases request with
    | putIfAbsent | deleteIfMatch | lockDigest | commit | rollback => exact reads.elim
    | _ => rfl

theorem reads_allowed {request : Request} (reads : Reads request) :
    Allowed sha256 id s request := by
  intro _
  cases request with
  | putIfAbsent | deleteIfMatch | lockDigest | commit | rollback => exact reads.elim
  | _ => trivial

theorem serve_alive (alive : id ∉ s.crashed) (request : Request) (choice : Choice) :
    serve sha256 id s request choice = serveRunning sha256 id s choice request := by
  rw [serve, if_neg alive]

theorem ask_spec {request : Request} {rest : Answer request → Act B} {ok : Hosted → B → Prop}
    (allowed : Allowed sha256 id s request)
    (own : ∀ choice, Relied sha256 id s (serve sha256 id s request choice).1)
    (replied : ∀ choice t, Later sha256 id s t →
      Relied sha256 id (serve sha256 id s request choice).1 t →
      Spec sha256 id t (rest (serve sha256 id s request choice).2) ok failed) :
    Spec sha256 id s (ask request >>= rest) ok failed := by
  apply Does.andThen
  apply Does.ask allowed
  intro choice t interfered after
  exact replied choice t ⟨(own choice).trans interfered, after⟩ interfered

theorem read_spec {request : Request} {rest : Answer request → Act B} {ok : Hosted → B → Prop}
    (reads : Reads request)
    (replied : ∀ choice t, Later sha256 id s t →
      Spec sha256 id t (rest (serve sha256 id s request choice).2) ok failed) :
    Spec sha256 id s (ask request >>= rest) ok failed := by
  refine ask_spec (reads_allowed reads) (fun choice => ?_) (fun choice t later _ =>
    replied choice t later)
  rw [serve_reads reads]
  exact .refl id s

theorem pure_spec {value : A} (holds : ok s value) : Spec sha256 id s (pure value) ok failed :=
  Does.pure holds

theorem fail_spec {error : Raised} (holds : failed s error) :
    Spec sha256 id s (fail error : Act A) ok failed :=
  Does.raise holds

theorem then_spec {next : Hosted → A → Prop} {rest : A → Act B} {ok : Hosted → B → Prop}
    (first : Spec sha256 id s action next failed)
    (second : ∀ t value, next t value → Spec sha256 id t (rest value) ok failed) :
    Spec sha256 id s (action >>= rest) ok failed :=
  Does.andThen (first.weaken second fun _ _ error => error)

end Rules

def Anything {A : Type} (_ : Hosted) (_ : A) : Prop := True

def Ready {A : Type} (sha256 : Bytes → String) (id : Nat) (t : Hosted) (result : A × Writes) :
    Prop :=
  Inv sha256 t ∧ (id ∉ t.crashed → WritesAllowed sha256 id t result.2)

theorem written_spec {A : Type} {body : Act (A × Writes)}
    (spec : Spec sha256 id s body (Ready sha256 id) Anything) :
    Spec sha256 id s
      (do
        let (value, writes) ← body
        let answer ← ask (.commit writes)
        if answer = .violated then fail .database else pure (value, answer))
      (fun t _ => Inv sha256 t) Anything := by
  refine then_spec spec fun t result ready => ?_
  obtain ⟨value, writes⟩ := result
  apply Does.andThen
  refine Does.ask ready.2 fun choice u interfered after => ?_
  split
  · exact fail_spec trivial
  · exact pure_spec after

theorem transaction_spec {A : Type} {body : Act (A × Writes)}
    (spec : Spec sha256 id s body (Ready sha256 id) Anything) :
    Spec sha256 id s (transaction body) (fun t _ => Inv sha256 t) Anything := by
  have written := written_spec spec
  have undone (t : Hosted) (error : Raised) : Spec sha256 id t
      (do
        let _ ← ask .rollback
        fail error : Act (A × CommitAnswer)) (fun t _ => Inv sha256 t) Anything := by
    apply Does.andThen
    exact Does.ask (fun _ => trivial) fun choice u interfered after => fail_spec trivial
  exact Does.handle (written.weaken (fun _ _ inv => inv) fun t error _ => undone t error)

theorem lockDigest_spec (s : Hosted) (key : String) :
    Spec sha256 id s (lockDigest key)
      (fun t _ => Later sha256 id s t ∧ (id ∉ t.crashed → (key, id) ∈ t.locks)) Anything := by
  refine ask_spec (fun _ => trivial) (fun choice => ?_) fun choice t later interfered => ?_
  · unfold serve
    split
    · exact .refl id s
    · simp only [serveRunning]
      split
      · exact relied_lockDigest id s id key
      · exact .refl id s
  · split
    next acquired =>
      refine pure_spec ⟨later, fun alive => ?_⟩
      rw [serve_alive (later.alive alive)] at acquired interfered
      simp only [serveRunning] at acquired interfered
      split at interfered
      · exact (interfered.held alive key (List.mem_cons_self ..)).1
      next free =>
        rw [if_neg free] at acquired
        cases acquired
    · exact fail_spec trivial

theorem lockDigests_spec (inv : Inv sha256 s) (keys : List String) :
    Spec sha256 id s (lockDigests keys)
      (fun t _ => Later sha256 id s t ∧ (id ∉ t.crashed → ∀ key ∈ keys, (key, id) ∈ t.locks))
      Anything := by
  induction keys generalizing s with
  | nil => exact pure_spec ⟨.refl inv, fun _ key member => by cases member⟩
  | cons key rest ih =>
    refine then_spec (lockDigest_spec s key) fun t _ first => ?_
    obtain ⟨later, locked⟩ := first
    refine (ih later.inv).weaken (fun u _ others => ?_) fun _ _ error => error
    refine ⟨later.trans others.1, fun alive digest member => ?_⟩
    cases List.mem_cons.mp member with
    | inl same =>
      subst same
      exact (others.1.relied.held alive digest (locked (others.1.alive alive))).1
    | inr held => exact others.2 alive digest held

theorem putBlobs_spec {blobs : List (String × Bytes)} (inv : Inv sha256 s)
    (hashes : ∀ item ∈ blobs, sha256 item.2 = item.1) :
    Spec sha256 id s (putBlobs blobs)
      (fun t value => Later sha256 id s t ∧ (id ∉ t.crashed → ∀ stats, value = some stats →
        stats.map BlobStat.sha256 = blobs.map Prod.fst ∧ ∀ item ∈ blobs, item.2 ∈ t.submitted))
      Anything := by
  induction blobs generalizing s with
  | nil =>
    refine pure_spec ⟨.refl inv, fun _ stats same => ?_⟩
    cases same
    exact ⟨rfl, fun item member => by cases member⟩
  | cons item rest ih =>
    obtain ⟨key, data⟩ := item
    refine ask_spec (fun _ => hashes _ (List.mem_cons_self ..)) (fun choice => ?_)
      fun choice t later interfered => ?_
    · unfold serve
      split
      · exact .refl id s
      · exact relied_putIfAbsent id s key data choice
    · have others : Spec sha256 id t (putBlobs rest) _ _ :=
        ih later.inv fun item member => hashes item (List.mem_cons_of_mem _ member)
      split
      · exact pure_spec ⟨later, fun _ stats same => by cases same⟩
      next stat answered =>
        split
        next checked =>
          refine then_spec others fun u value rest => pure_spec ?_
          refine ⟨later.trans rest.1, fun alive stats same => ?_⟩
          obtain ⟨found, listed, here⟩ := Option.map_eq_some_iff.mp same
          obtain ⟨keys, submitted⟩ := rest.2 alive found listed
          refine ⟨by rw [← here, List.map_cons, List.map_cons, checked.1, keys], ?_⟩
          intro item member
          cases List.mem_cons.mp member with
          | inr held => exact submitted item held
          | inl same =>
            subst same
            have before := rest.1.alive alive
            rw [serve_alive (later.alive before)] at answered interfered
            simp only [serveRunning, putIfAbsent] at answered interfered
            split at interfered
            next large =>
              rw [if_pos large] at answered
              cases answered
            · exact rest.1.relied.grows.submitted _ (interfered.grows.submitted _ (by simp))
        · exact fail_spec trivial

def Prepares (sha256 : Bytes → String) (t : Hosted) (commit : BlobCommit) :
    Option Prepared → Prop
  | none => True
  | some .inline => ∀ item ∈ commit.blobs, isRecordedDigest item.1 = true ∧ sha256 item.2 = item.1
  | some (.objects stats) =>
    (∀ item ∈ commit.blobs, isRecordedDigest item.1 = true ∧ sha256 item.2 = item.1) ∧
      (∀ key, key ∈ stats.map BlobStat.sha256 ↔ key ∈ commit.keys) ∧
      ∀ item ∈ commit.blobs, item.2 ∈ t.submitted

theorem validateExternalBlobs_spec {blobs : List (String × Bytes)}
    (valid : validateExternalBlobs sha256 blobs = true) :
    ∀ item ∈ blobs, isRecordedDigest item.1 = true ∧ sha256 item.2 = item.1 := by
  simp only [validateExternalBlobs, Bool.and_eq_true, List.all_eq_true, decide_eq_true_eq] at valid
  exact valid.2

theorem mem_sortedBlobs {blobs : List (String × Bytes)} {item : String × Bytes} :
    item ∈ sortedBlobs blobs ↔ item ∈ blobs := List.mem_insertionSort _

theorem prepareBlobs_spec (limit : Nat) (commit : BlobCommit) (inv : Inv sha256 s) :
    Spec sha256 id s (prepareBlobs sha256 limit commit.blobs)
      (fun t value => Later sha256 id s t ∧ (id ∉ t.crashed → Prepares sha256 t commit value))
      Anything := by
  unfold prepareBlobs
  split
  next valid =>
    have digests := validateExternalBlobs_spec valid
    have puts : Spec sha256 id s (putBlobs (sortedBlobs commit.blobs)) _ _ :=
      putBlobs_spec inv fun item member => (digests item (mem_sortedBlobs.mp member)).2
    refine then_spec puts fun t value put => ?_
    cases value with
    | some stats =>
      refine pure_spec ⟨put.1, fun alive => ?_⟩
      obtain ⟨keys, submitted⟩ := put.2 alive stats rfl
      refine ⟨digests, fun key => ?_, fun item member =>
        submitted item (mem_sortedBlobs.mpr member)⟩
      rw [keys, BlobCommit.keys, List.mem_map, List.mem_map]
      exact exists_congr fun item => and_congr_left fun _ => mem_sortedBlobs
    | none =>
      refine pure_spec ⟨put.1, fun _ => ?_⟩
      split
      · exact digests
      · trivial
  · exact pure_spec ⟨.refl inv, fun _ => trivial⟩

theorem inlinePreserved_spec (blobs : List (String × Bytes)) (inv : Inv sha256 s) :
    Spec sha256 id s (inlinePreserved blobs) (fun t _ => Later sha256 id s t) Anything := by
  induction blobs generalizing s with
  | nil => exact pure_spec (.refl inv)
  | cons item rest ih =>
    obtain ⟨key, value⟩ := item
    refine read_spec trivial fun choice t later => ?_
    have others : Spec sha256 id t (inlinePreserved rest) (fun u _ => Later sha256 id s u)
        Anything :=
      (ih later.inv).weaken (fun _ _ more => later.trans more) fun _ _ error => error
    split
    · exact others
    · split
      · exact others
      · exact pure_spec later

theorem submittedBlobsPreserveBacking_spec (commit : BlobCommit) (prepared : Prepared)
    (inv : Inv sha256 s) :
    Spec sha256 id s (submittedBlobsPreserveBacking commit prepared)
      (fun t _ => Later sha256 id s t) Anything := by
  cases prepared with
  | objects stats => exact pure_spec (.refl inv)
  | inline => exact inlinePreserved_spec _ inv

theorem associatedObjectIsValid_spec (runId : OpaqueId) (key : String) (inv : Inv sha256 s) :
    Spec sha256 id s (associatedObjectIsValid runId key)
      (fun t value => Later sha256 id s t ∧ (value = true → isRecordedDigest key = true))
      Anything := by
  unfold associatedObjectIsValid
  split
  next recorded =>
    refine read_spec trivial fun choice t later => ?_
    split
    · exact pure_spec ⟨later, fun _ => recorded⟩
    · split
      · exact read_spec trivial fun choice u more =>
          pure_spec ⟨later.trans more, fun _ => recorded⟩
      · exact pure_spec ⟨later, fun _ => recorded⟩
  · exact pure_spec ⟨.refl inv, fun same => by cases same⟩

theorem inlineAssociated_has {runId : OpaqueId} {value : Bytes}
    (found : s.inlineAssociated runId key = some value) :
    s.inline.associated runId key = true ∧ s.inline.content key = some value := by
  unfold Hosted.inlineAssociated at found
  split at found
  next associated => exact ⟨associated, found⟩
  · cases found

theorem inlineBlobIsValid_spec (runId : OpaqueId) (key : String) (inv : Inv sha256 s) :
    Spec sha256 id s (inlineBlobIsValid sha256 runId key)
      (fun t value => Later sha256 id s t ∧
        (id ∉ t.crashed → value = true → t.Resolved runId key)) Anything := by
  unfold inlineBlobIsValid
  split
  next recorded =>
    refine read_spec trivial fun choice t later => pure_spec ⟨later, fun alive valid => ?_⟩
    rw [serve_alive (later.alive alive)] at valid
    simp only [serveRunning] at valid
    cases found : s.inlineAssociated runId key with
    | none =>
      rw [found] at valid
      cases valid
    | some value =>
      exact later.relied.grows.resolved ⟨recorded, .inr (inlineAssociated_has found).1⟩
  · exact pure_spec ⟨.refl inv, fun _ same => by cases same⟩

theorem referenceIsValid_spec (runId : OpaqueId) (key : String) (s : Hosted) :
    Spec sha256 id s (referenceIsValid sha256 runId key)
      (fun t value => Later sha256 id s t ∧
        (id ∉ t.crashed → value = true → t.Resolved runId key)) Anything := by
  refine read_spec trivial fun choice t later => ?_
  split
  next associated =>
    refine (associatedObjectIsValid_spec runId key later.inv).weaken (fun u value valid => ?_)
      fun _ _ error => error
    refine ⟨later.trans valid.1, fun alive holds => ⟨valid.2 holds, .inl ?_⟩⟩
    rw [serve_alive (later.alive (valid.1.alive alive))] at associated
    exact (later.trans valid.1).relied.grows.associated _ (of_decide_eq_true associated)
  · exact (inlineBlobIsValid_spec runId key later.inv).weaken
      (fun u value valid => ⟨later.trans valid.1, valid.2⟩) fun _ _ error => error

theorem referencesAreValid_spec (commit : BlobCommit) (references : List String)
    (inv : Inv sha256 s) :
    Spec sha256 id s (referencesAreValid sha256 commit references)
      (fun t value => Later sha256 id s t ∧ (id ∉ t.crashed → value = true →
        ∀ key ∈ references, key ∈ commit.keys ∨ t.Resolved commit.runId key)) Anything := by
  induction references generalizing s with
  | nil => exact pure_spec ⟨.refl inv, fun _ _ key member => by cases member⟩
  | cons key rest ih =>
    unfold referencesAreValid
    split
    next own =>
      refine (ih inv).weaken (fun t value others => ?_) fun _ _ error => error
      refine ⟨others.1, fun alive holds digest member => ?_⟩
      cases List.mem_cons.mp member with
      | inl same => exact .inl (same ▸ own)
      | inr held => exact others.2 alive holds digest held
    · refine then_spec (referenceIsValid_spec commit.runId key s) fun t value valid => ?_
      split
      next holds =>
        refine (ih valid.1.inv).weaken (fun u value others => ?_) fun _ _ error => error
        refine ⟨valid.1.trans others.1, fun alive whole digest member => ?_⟩
        cases List.mem_cons.mp member with
        | inl same =>
          subst same
          exact .inr (others.1.relied.grows.resolved
            (valid.2 (others.1.alive alive) holds))
        | inr held => exact others.2 alive whole digest held
      · exact pure_spec ⟨valid.1, fun _ same => by cases same⟩

theorem preparedAreCurrent_spec (stats : List (BlobStat String)) (inv : Inv sha256 s)
    (held : id ∉ s.crashed → ∀ stat ∈ stats, (stat.sha256, id) ∈ s.locks) :
    Spec sha256 id s (preparedAreCurrent stats)
      (fun t value => Later sha256 id s t ∧ (id ∉ t.crashed → value = true →
        ∀ stat ∈ stats, t.objects.stat stat.sha256 = some stat)) Anything := by
  induction stats generalizing s with
  | nil => exact pure_spec ⟨.refl inv, fun _ _ stat member => by cases member⟩
  | cons stat rest ih =>
    refine read_spec trivial fun choice t first => ?_
    split
    next same =>
      refine read_spec trivial fun _ u second => ?_
      have later := first.trans second
      split
      · exact pure_spec ⟨later, fun _ same => by cases same⟩
      · have still : id ∉ u.crashed → ∀ other ∈ rest, (other.sha256, id) ∈ u.locks :=
          fun alive other member => (later.relied.held alive other.sha256
            (held (later.alive alive) other (List.mem_cons_of_mem _ member))).1
        refine (ih later.inv still).weaken (fun v value others => ?_) fun _ _ error => error
        have whole := later.trans others.1
        refine ⟨whole, fun alive holds other member => ?_⟩
        cases List.mem_cons.mp member with
        | inr more => exact others.2 alive holds other more
        | inl here =>
          subst here
          have before := whole.alive alive
          rw [serve_alive before] at same
          have locked := held before other (List.mem_cons_self ..)
          exact (whole.relied.held alive _ locked).2.stat other (of_decide_eq_true same)
    · exact pure_spec ⟨first, fun _ same => by cases same⟩

theorem mem_lockOrder (commit : BlobCommit) (key : String) :
    key ∈ lockOrder commit ↔ key ∈ commit.references ∨ key ∈ commit.keys := by
  simp only [lockOrder, List.mem_insertionSort, List.mem_dedup, List.mem_append]

theorem referencesResolve_spec (commit : BlobCommit) (prepared : Prepared) (inv : Inv sha256 s)
    (prepares : id ∉ s.crashed → Prepares sha256 s commit (some prepared)) :
    Spec sha256 id s (referencesResolve sha256 commit prepared)
      (fun t value => Later sha256 id s t ∧ (id ∉ t.crashed → value = true →
        WritesAllowed sha256 id t (writesOf commit prepared))) Anything := by
  cases prepared with
  | inline =>
    refine (referencesAreValid_spec commit _ inv).weaken (fun t value valid => ?_)
      fun _ _ error => error
    exact ⟨valid.1, fun alive holds =>
      ⟨prepares (valid.1.alive alive), valid.2 alive holds⟩⟩
  | objects stats =>
    refine then_spec (lockDigests_spec inv _) fun t _ locked => ?_
    obtain ⟨first, locks⟩ := locked
    have held : id ∉ t.crashed → ∀ stat ∈ stats, (stat.sha256, id) ∈ t.locks := by
      intro alive stat member
      have own := ((prepares (first.alive alive)).2.1 _).mp (List.mem_map_of_mem member)
      exact locks alive _ ((mem_lockOrder commit _).mpr (.inr own))
    refine then_spec (preparedAreCurrent_spec stats first.inv held) fun u value current => ?_
    split
    next holds =>
      refine (referencesAreValid_spec commit _ current.1.inv).weaken (fun v value valid => ?_)
        fun _ _ error => error
      have later := first.trans (current.1.trans valid.1)
      refine ⟨later, fun alive whole => ?_⟩
      have between := valid.1.alive alive
      obtain ⟨digests, keys, submitted⟩ := prepares (later.alive alive)
      refine ⟨⟨digests, valid.2 alive whole⟩, ?_⟩
      constructor
      case keys => exact fun key member => (keys key).mp member
      case all => exact fun key member => (keys key).mpr member
      case held =>
        intro stat member
        exact ((current.1.trans valid.1).relied.held alive _
          (held (current.1.alive between) stat member)).1
      case current =>
        intro stat member
        have locked := (current.1.relied.held between _
          (held (current.1.alive between) stat member)).1
        exact (valid.1.relied.held alive _ locked).2.stat stat
          (current.2 between holds stat member)
      case submitted =>
        exact fun item member => later.relied.grows.submitted _ (submitted item member)
    · exact pure_spec ⟨first.trans current.1, fun _ same => by cases same⟩

theorem Prepares.later {commit : BlobCommit} {prepared : Option Prepared}
    (prepares : Prepares sha256 s commit prepared) (later : Later sha256 id s t) :
    Prepares sha256 t commit prepared := by
  cases prepared with
  | none => trivial
  | some kind =>
    cases kind with
    | inline => exact prepares
    | objects stats =>
      exact ⟨prepares.1, prepares.2.1,
        fun item member => later.relied.grows.submitted _ (prepares.2.2 item member)⟩

theorem Fixed.orphan (fixed : Fixed key s t) (orphan : s.anyAssociation key = false) :
    t.anyAssociation key = false := by
  cases found : t.anyAssociation key with
  | false => rfl
  | true =>
    obtain ⟨entry, member, same⟩ := List.any_eq_true.mp found
    obtain ⟨runId, digest⟩ := entry
    cases of_decide_eq_true same
    exact absurd (fixed.associated runId member) (anyAssociation_iff orphan)

theorem Later.writesAllowed {writes : Writes} (later : Later sha256 id s t)
    (alive : id ∉ t.crashed) (allowed : WritesAllowed sha256 id s writes) :
    WritesAllowed sha256 id t writes := by
  have grows := later.relied.grows
  cases writes with
  | nothing => trivial
  | receipt receipt => trivial
  | inline commit => exact grows.submits allowed
  | deletion candidate metadata receipt =>
    obtain ⟨held, fixed⟩ := later.relied.held alive _ allowed.1
    exact ⟨held, fixed.orphan allowed.2⟩
  | blobs commit stats =>
    obtain ⟨submits, checked⟩ := allowed
    exact ⟨grows.submits submits, { checked with
      held := fun stat member => (later.relied.held alive _ (checked.held stat member)).1
      current := fun stat member => (later.relied.held alive _ (checked.held stat member)).2.stat
        stat (checked.current stat member)
      submitted := fun item member => grows.submitted _ (checked.submitted item member) }⟩

theorem commitLocked_spec (commit : BlobCommit) (prepared : Option Prepared) (s : Hosted)
    (prepares : id ∉ s.crashed → Prepares sha256 s commit prepared) :
    Spec sha256 id s (commitLocked sha256 commit prepared) (Ready sha256 id) Anything := by
  have nothing {t : Hosted} (status : CommitStatus) (kept : Inv sha256 t) :
      Spec sha256 id t (pure (status, .nothing)) (Ready sha256 id) Anything :=
    pure_spec ⟨kept, fun _ => trivial⟩
  refine read_spec trivial fun choice t first => ?_
  split
  · cases prepared with
    | none => exact nothing _ first.inv
    | some prepared =>
      dsimp only
      split
      · refine then_spec (submittedBlobsPreserveBacking_spec commit prepared first.inv)
          fun u _ second => ?_
        split
        · have later := first.trans second
          refine then_spec (referencesResolve_spec commit prepared second.inv
            fun alive => (prepares (later.alive alive)).later later) fun v value resolves => ?_
          split
          next holds =>
            refine read_spec trivial fun _ w last => ?_
            split
            · exact nothing _ last.inv
            · exact pure_spec ⟨last.inv, fun alive =>
                last.writesAllowed alive (resolves.2 (last.alive alive) holds)⟩
          · exact nothing _ resolves.1.inv
        · exact nothing _ second.inv
      · exact nothing _ first.inv
  · exact nothing _ first.inv

theorem commitBlobs_spec (limit : Nat) (commit : BlobCommit) (inv : Inv sha256 s) :
    Spec sha256 id s (commitBlobs sha256 limit commit) Anything Anything := by
  refine then_spec (prepareBlobs_spec limit commit inv) fun t prepared first => ?_
  exact then_spec (transaction_spec (commitLocked_spec commit prepared t first.2))
    fun u result _ => pure_spec trivial

theorem planCandidates_spec (graceBefore : Int) (entries : List ObjectInventoryEntry)
    (s : Hosted) :
    Spec sha256 id s (planCandidates graceBefore entries) Anything Anything := by
  induction entries generalizing s with
  | nil => exact pure_spec trivial
  | cons entry rest ih =>
    unfold planCandidates
    split
    · exact ih s
    · refine read_spec trivial fun choice t _ => ?_
      split
      · exact then_spec (ih t) fun u _ _ => pure_spec trivial
      next row associated answered =>
        split
        · exact ih t
        · split
          · exact fail_spec trivial
          · exact then_spec (ih t) fun u _ _ => pure_spec trivial

theorem plan_spec (planIdentity : Int → Int → List ObjectGcCandidate → Option String → String)
    (gracePeriod : Int) (continuationToken : Option String) (limit : Nat) (s : Hosted) :
    Spec sha256 id s (plan planIdentity gracePeriod continuationToken limit) Anything
      Anything := by
  unfold plan
  split
  · refine read_spec trivial fun choice t _ => ?_
    refine read_spec trivial fun page u _ => ?_
    exact then_spec (planCandidates_spec _ _ u) fun v _ _ => pure_spec trivial
  · exact fail_spec trivial

theorem skip_spec (plan : ObjectGcPlan) (candidate : ObjectGcCandidate) (observed : Nat)
    (status : GcStatus) (s : Hosted) :
    Spec sha256 id s (skip plan candidate observed status) (Ready sha256 id) Anything :=
  read_spec trivial fun _ _ later => pure_spec ⟨later.inv, fun _ => trivial⟩

theorem serve_deleteIfMatch (deleteToken : String) {choice : Choice}
    (served : t = (serve sha256 id s (.deleteIfMatch key deleteToken) choice).1) :
    t.locks = s.locks ∧ t.crashed = s.crashed ∧
      t.anyAssociation key = s.anyAssociation key := by
  subst served
  unfold serve
  split
  · exact ⟨rfl, rfl, rfl⟩
  · simp only [serveRunning, deleteIfMatch]
    split
    · exact ⟨rfl, rfl, rfl⟩
    · split <;> exact ⟨rfl, rfl, rfl⟩

theorem applyLocked_spec (plan : ObjectGcPlan) (candidate : ObjectGcCandidate) (s : Hosted) :
    Spec sha256 id s (applyLocked plan candidate) (Ready sha256 id) Anything := by
  refine then_spec (lockDigest_spec s candidate.sha256) fun t _ locked => ?_
  obtain ⟨first, held⟩ := locked
  refine read_spec trivial fun _ u second => ?_
  split
  · exact pure_spec ⟨second.inv, fun _ => trivial⟩
  · refine read_spec trivial fun _ v third => ?_
    refine read_spec trivial fun choice w last => ?_
    dsimp only
    split
    · exact skip_spec plan candidate _ _ w
    next orphan =>
      split
      next =>
        -- From the lock on nobody associates the digest: the delete finds an orphan, and the row
        -- that records it is still the row of one.
        have later := second.trans (third.trans last)
        have free : id ∉ w.crashed →
            (candidate.sha256, id) ∈ w.locks ∧ w.anyAssociation candidate.sha256 = false := by
          intro alive
          have before := last.alive alive
          rw [serve_alive before] at orphan
          have own := (second.trans third).relied.held before _
            (held ((second.trans third).alive before))
          obtain ⟨locks, fixed⟩ := last.relied.held alive _ own.1
          exact ⟨locks, fixed.orphan (Bool.not_eq_true _ ▸ orphan)⟩
        apply Does.andThen
        refine Does.ask free fun status x deleted inv => ?_
        refine read_spec trivial fun _ y after => pure_spec ⟨after.inv, fun alive => ?_⟩
        split
        · trivial
        · have living := after.alive alive
          obtain ⟨locks, crashed, associations⟩ := serve_deleteIfMatch candidate.deleteToken rfl
          obtain ⟨own, orphan⟩ := free (crashed ▸ Relied.alive deleted living)
          obtain ⟨still, fixed⟩ := Relied.held deleted living _ (locks ▸ own)
          have allowed (metadata : Option ObjectRow) (receipt : ObjectGcReceipt) :
              WritesAllowed sha256 id x (.deletion candidate metadata receipt) :=
            ⟨still, fixed.orphan (associations.trans orphan)⟩
          exact after.writesAllowed alive (allowed _ _)
      · exact skip_spec plan candidate _ _ w

theorem applyCandidates_spec (plan : ObjectGcPlan) (candidates : List ObjectGcCandidate)
    (s : Hosted) : Spec sha256 id s (applyCandidates plan candidates) Anything Anything := by
  induction candidates generalizing s with
  | nil => exact pure_spec trivial
  | cons candidate rest ih =>
    refine then_spec (transaction_spec (applyLocked_spec plan candidate s)) fun t _ _ => ?_
    exact then_spec (ih t) fun u _ _ => pure_spec trivial

theorem apply_does (planIdentity : Int → Int → List ObjectGcCandidate → Option String → String)
    (plan : ObjectGcPlan) (s : Hosted) :
    Spec sha256 id s (apply planIdentity plan) Anything Anything := by
  unfold apply
  split
  · exact applyCandidates_spec plan _ s
  · exact fail_spec trivial

def NoCollision (sha256 : Bytes → String) (values : List Bytes) : Prop :=
  ∀ first ∈ values, ∀ second ∈ values, sha256 first = sha256 second → first = second

def Original (sha256 : Bytes → String) (id : Nat) (runId : OpaqueId) (key : String)
    (s t : Hosted) (value : Bytes) : Prop :=
  id ∉ t.crashed → NoCollision sha256 t.submitted →
    ∀ data, s.Carried runId key data → value = data

def Stopped (id : Nat) (t : Hosted) (_ : Raised) : Prop := id ∈ t.crashed

theorem Inv.original {runId : OpaqueId} {value : Bytes} (inv : Inv sha256 t)
    (grows : Grows sha256 s t) (submitted : value ∈ t.submitted) (hashes : sha256 value = key) :
    Original sha256 id runId key s t value := by
  intro _ apart data carried
  obtain ⟨commit, member, -, item⟩ := grows.carried carried
  obtain ⟨digest, kept⟩ := inv.hashed commit member _ item
  exact apart value submitted data kept (hashes.trans digest.symm)

theorem crashed_spec {A : Type} {action : Act A} {ok : Hosted → A → Prop}
    {failed : Hosted → Raised → Prop} (crashed : id ∈ s.crashed)
    (values : ∀ t value, id ∈ t.crashed → ok t value)
    (errors : ∀ t error, id ∈ t.crashed → failed t error) :
    Spec sha256 id s action ok failed := by
  have safe (program : Program Request Answer (Except Raised A)) :
      ∀ s : Hosted, id ∈ s.crashed →
        (discipline sha256).Safe id (Allowed sha256 id) (Ends ok failed) program s := by
    induction program with
    | done result =>
      intro s gone
      cases result with
      | ok value => exact values s value gone
      | error error => exact errors s error gone
    | call request resume ih =>
      intro s gone
      refine ⟨fun alive => absurd gone alive, fun choice t interfered _ => ih _ t ?_⟩
      have still : id ∈ (serve sha256 id s request choice).1.crashed := by
        rw [serve, if_pos gone]
        exact gone
      exact interfered.grows.crashed id still
  exact safe action s crashed

theorem found_spec {B : Type} {request : Request} {rest : Answer request → Act B}
    {ok : Hosted → B → Prop} {failed : Hosted → Raised → Prop} (reads : Reads request)
    (value : Answer request)
    (answers : ∀ choice, (serveRunning sha256 id s choice request).2 = value)
    (values : ∀ t value, id ∈ t.crashed → ok t value)
    (errors : ∀ t error, id ∈ t.crashed → failed t error)
    (replied : ∀ t, Later sha256 id s t → id ∉ t.crashed →
      Spec sha256 id t (rest value) ok failed) :
    Spec sha256 id s (ask request >>= rest) ok failed := by
  refine read_spec reads fun choice t later => ?_
  by_cases crashed : id ∈ t.crashed
  · exact crashed_spec crashed values errors
  · rw [serve_alive (later.alive crashed), answers]
    exact replied t later crashed

theorem crashed_original (runId : OpaqueId) (key : String) (s t : Hosted) (value : Bytes)
    (crashed : id ∈ t.crashed) : Original sha256 id runId key s t value :=
  fun alive => absurd crashed alive

theorem inlineReadBlob_spec {runId : OpaqueId} (inv : Inv sha256 t) (grows : Grows sha256 s t)
    (held : t.inline.associated runId key = true) :
    Spec sha256 id t (inlineReadBlob sha256 runId key) (Original sha256 id runId key s)
      (Stopped id) := by
  obtain ⟨value, stored, hashes⟩ := inv.inline runId key held
  refine found_spec trivial (some value) (fun choice => ?_) (crashed_original runId key s)
    (fun _ _ gone => gone) fun u later alive => ?_
  · simp only [serveRunning, Hosted.inlineAssociated, held, if_true, stored]
  · dsimp only
    rw [if_pos hashes]
    have submitted := later.relied.grows.submitted _ (inv.content key value stored)
    exact pure_spec (later.inv.original (grows.trans later.relied.grows) submitted hashes)

theorem readBlob_spec {runId : OpaqueId} (inv : Inv sha256 s) (resolved : s.Resolved runId key) :
    Spec sha256 id s (readBlob sha256 runId key) (Original sha256 id runId key s) (Stopped id) := by
  have gone (t : Hosted) (error : Raised) (crashed : id ∈ t.crashed) : Stopped id t error := crashed
  unfold readBlob
  rw [if_pos resolved.1]
  by_cases associated : (runId, key) ∈ s.objects.associated
  · obtain ⟨bytes, locator, backed⟩ := inv.backed runId key associated
    obtain ⟨generation, row⟩ := backed.recorded
    refine found_spec trivial (some ⟨bytes.length, locator, generation, true⟩) (fun choice => ?_)
      (crashed_original runId key s) gone fun t first _ => ?_
    · simp only [serveRunning, Hosted.associatedObject, associated, if_true, row]
    next =>
      -- The object stays backed between the requests, whoever else moves.
      have stated := first.relied.grows.keeps _ _ _ _ backed
      refine found_spec trivial (some ⟨key, bytes.length, locator⟩) (fun choice => stated.stat)
        (crashed_original runId key s) gone fun u second _ => ?_
      have fetched := second.relied.grows.keeps _ _ _ _ stated
      simp only [statMatches, decide_true, if_true]
      refine found_spec trivial (some bytes) (fun choice => fetched.getChecked)
        (crashed_original runId key s) gone fun v third _ => ?_
      dsimp only
      rw [if_pos rfl]
      have last := third.relied.grows.keeps _ _ _ _ fetched
      have grows := (first.trans (second.trans third)).relied.grows
      exact pure_spec (third.inv.original grows (third.inv.physical key _ last.physical)
        last.checked)
  · have held := resolved.2.resolve_left associated
    refine found_spec trivial none (fun choice => ?_) (crashed_original runId key s) gone
      fun t later _ => inlineReadBlob_spec later.inv later.relied.grows
        (later.relied.grows.inline.2 _ _ held)
    simp only [serveRunning, Hosted.associatedObject, associated, if_false]

theorem readBlob_looks (runId : OpaqueId) (key : String) (s : Hosted) :
    Spec sha256 id s (readBlob sha256 runId key) Anything Anything := by
  unfold readBlob
  split
  · refine read_spec trivial fun _ t _ => ?_
    split
    · refine read_spec trivial fun _ u _ => ?_
      split
      · exact fail_spec trivial
      · split <;> first | exact pure_spec trivial | exact fail_spec trivial
    · split
      · refine read_spec trivial fun _ u _ => ?_
        split
        · exact fail_spec trivial
        · split
          · refine read_spec trivial fun _ v _ => ?_
            split
            · exact fail_spec trivial
            · split <;> first | exact pure_spec trivial | exact fail_spec trivial
          · exact fail_spec trivial
      · exact fail_spec trivial
  · exact fail_spec trivial

theorem readBlob_within (runId : OpaqueId) (key : String) :
    Action.Within (readBlob sha256 runId key) 3 := by
  unfold readBlob
  split
  · refine Action.Within.ask fun row => ?_
    cases row with
    | none =>
      refine Action.Within.ask fun value => ?_
      cases value with
      | none => trivial
      | some value => dsimp only; split <;> trivial
    | some row =>
      dsimp only
      split
      · refine Action.Within.ask fun stat => ?_
        cases stat with
        | none => trivial
        | some current =>
          dsimp only
          split
          · refine Action.Within.ask fun data => ?_
            cases data with
            | none => trivial
            | some data => dsimp only; split <;> trivial
          · trivial
      · trivial
  · trivial

inductive Params where
  | commit (commit : BlobCommit)
  | plan (gracePeriod : Int) (continuationToken : Option String) (limit : Nat)
  | apply (plan : ObjectGcPlan)
  | read (runId : OpaqueId) (sha256 : String)

inductive Outcome where
  | committed (status : CommitStatus)
  | planned (plan : ObjectGcPlan)
  | applied (receipts : List ObjectGcReceipt)
  | read (data : Bytes)

structure Deployment where
  sha256 : Bytes → String
  maxByteaBlobBytes : Nat
  planIdentity : Int → Int → List ObjectGcCandidate → Option String → String

def program (deployment : Deployment) : Params → Act Outcome
  | .commit commit =>
    return .committed (← commitBlobs deployment.sha256 deployment.maxByteaBlobBytes commit)
  | .plan gracePeriod continuationToken limit =>
    return .planned (← plan deployment.planIdentity gracePeriod continuationToken limit)
  | .apply plan => return .applied (← apply deployment.planIdentity plan)
  | .read runId key => return .read (← readBlob deployment.sha256 runId key)

theorem program_spec (deployment : Deployment) (params : Params)
    (inv : Inv deployment.sha256 s) :
    Spec deployment.sha256 id s (program deployment params) Anything Anything := by
  cases params with
  | commit commit =>
    exact then_spec (commitBlobs_spec _ commit inv) fun t _ _ => pure_spec trivial
  | plan gracePeriod continuationToken limit =>
    exact then_spec (plan_spec _ _ _ _ s) fun t _ _ => pure_spec trivial
  | apply plan => exact then_spec (apply_does _ plan s) fun t _ _ => pure_spec trivial
  | read runId key =>
    exact then_spec (readBlob_looks runId key s) fun t _ _ => pure_spec trivial

theorem inv_empty (sha256 : Bytes → String) : Inv sha256 Hosted.empty := by
  constructor
  case exclusive => intro _ _ _ held; cases held
  case addressed => intro _ _ stored; cases stored
  case backed => intro _ _ held; cases held
  case inline => intro _ _ held; cases held
  case carried =>
    intro _ _ has
    cases has with
    | inl held => cases held
    | inr held => cases held
  case resolved => intro _ member; cases member
  case hashed => intro _ member; cases member
  case physical => intro _ _ stored; cases stored
  case content => intro _ _ stored; cases stored

theorem crash_spec (inv : Inv sha256 s) (gone : Nat) :
    Inv sha256 (s.crash gone) ∧ ∀ id, Relied sha256 id s (s.crash gone) := by
  constructor
  · exact { inv.release gone with }
  · intro id
    have same : Grows sha256 s s := .refl s
    refine ⟨{ same with crashed := fun _ held => List.mem_cons_of_mem _ held }, ?_⟩
    intro alive key held
    have apart : id ≠ gone := fun same => alive (same ▸ List.mem_cons_self ..)
    exact ⟨mem_release.mpr ⟨held, apart⟩, { Fixed.refl key s with }⟩

def ready (s : Hosted) (id : Nat) : Bool :=
  decide (id ∉ s.crashed) && s.locks.all fun lock => decide (lock.2 ≠ id)

def party (deployment : Deployment) :
    Party Hosted Nat Request Answer Choice (Except Raised Outcome) Params Nat where
  discipline := discipline deployment.sha256
  init := Hosted.empty
  program := fun _ params => program deployment params
  ready := ready
  environment := Hosted.crash
  init_inv := inv_empty deployment.sha256
  environment_inv := fun _ gone inv => (crash_spec inv gone).1
  environment_rely := fun id _ gone inv => (crash_spec inv gone).2 id

abbrev Label := JointLabel Nat Params Choice Nat

abbrev System := Joint Hosted Nat Request Answer (Except Raised Outcome)

theorem sound (deployment : Deployment) : (party deployment).Sound fun _ _ => True := by
  intro id params s inv _ t _ after
  exact Discipline.Safe.weaken (program_spec deployment params after) (fun _ _ allowed => allowed)
    fun _ _ _ => trivial

def after (deployment : Deployment) (labels : List Label) : System :=
  (party deployment).machine.exec (party deployment).machine.init labels

theorem after_append (deployment : Deployment) (earlier later : List Label) :
    after deployment (earlier ++ later) =
      (party deployment).machine.exec (after deployment earlier) later :=
  Machine.exec_append _ _ _ _

theorem after_orderly (deployment : Deployment) (labels : List Label) :
    (party deployment).Orderly (fun _ _ => True) (after deployment labels) :=
  Party.exec_orderly (sound deployment) labels

def ReadEnds (sha256 : Bytes → String) (id : Nat) (runId : OpaqueId) (key : String)
    (s t : Hosted) : Except Raised Outcome → Prop :=
  Ends (fun t outcome => ∃ value, outcome = .read value ∧
    Original sha256 id runId key s t value) (Stopped id) t

theorem reader_lasting (deployment : Deployment) {runId : OpaqueId}
    (resolved : s.Resolved runId key) :
    (party deployment).Lasting id (Allowed deployment.sha256 id)
      (ReadEnds deployment.sha256 id runId key s) (program deployment (.read runId key)) s := by
  intro t relied inv
  have grows : Grows deployment.sha256 s t := relied.grows
  have reads : Spec deployment.sha256 id t (readBlob deployment.sha256 runId key)
      (Original deployment.sha256 id runId key s) (Stopped id) :=
    (readBlob_spec inv (grows.resolved resolved)).weaken
      (fun _ _ original alive apart data carried =>
        original alive apart data (grows.carried carried)) fun _ _ error => error
  exact then_spec reads fun _ value original => pure_spec ⟨value, rfl, original⟩

theorem reader_within (deployment : Deployment) (runId : OpaqueId) (key : String) :
    Program.Within (program deployment (.read runId key)) 3 := by
  have ended (value : Bytes) :
      Action.Within (pure (.read value) : Act Outcome) 0 := trivial
  exact Action.Within.andThen (readBlob_within runId key) ended

theorem collection_spares (deployment : Deployment) (labels : List Label) :
    (∀ runId key, (runId, key) ∈ (after deployment labels).shared.objects.associated →
      ∃ object generation, (after deployment labels).shared.objects.physical key = some object ∧
        (after deployment labels).shared.objects.recorded key =
          some ⟨object.bytes.length, object.locator, generation, true⟩) ∧
    ∀ commit ∈ (after deployment labels).shared.committed, ∀ key ∈ commit.references,
      (∃ data, (after deployment labels).shared.Carried commit.runId key data) ∧
      ∀ data, (after deployment labels).shared.Carried commit.runId key data → ∀ id later,
        (after deployment labels).running id =
          some (program deployment (.read commit.runId key)) →
        (∀ label ∈ later, ∀ params, label ≠ .start id params) →
        id ∉ (after deployment (labels ++ later)).shared.crashed →
        NoCollision deployment.sha256 (after deployment (labels ++ later)).shared.submitted →
          (∀ result, (after deployment (labels ++ later)).running id = some (.done result) →
            result = .ok (.read data)) ∧
          (3 ≤ later.countP (·.isStep id) →
            (after deployment (labels ++ later)).running id =
              some (.done (.ok (.read data)))) := by
  have orderly := after_orderly deployment labels
  have inv : Inv deployment.sha256 (after deployment labels).shared := orderly.1
  refine ⟨fun runId key associated => ?_, fun commit member key reference => ?_⟩
  · obtain ⟨bytes, locator, backed⟩ := inv.backed runId key associated
    obtain ⟨generation, row⟩ := backed.recorded
    exact ⟨⟨bytes, locator⟩, generation, backed.physical, row⟩
  · have resolved := inv.resolved commit member key reference
    refine ⟨inv.carried commit.runId key resolved.2, ?_⟩
    intro data carried id later running kept alive apart
    obtain ⟨left, found, lasting⟩ := Party.exec_lasting (sound deployment) orderly running
      (reader_lasting deployment resolved) later kept
    rw [← after_append] at found lasting
    have last : Inv deployment.sha256 (after deployment (labels ++ later)).shared :=
      (after_orderly deployment (labels ++ later)).1
    have ends (result : Except Raised Outcome)
        (done : (after deployment (labels ++ later)).running id = some (.done result)) :
        result = .ok (.read data) := by
      have same : left = .done result := Option.some.inj (found.symm.trans done)
      subst same
      have ended := lasting _ (Relied.refl _ _) last
      cases result with
      | error error => exact absurd ended alive
      | ok outcome =>
        obtain ⟨value, read, original⟩ := ended
        rw [read, original alive apart data carried]
    refine ⟨ends, fun enough => ?_⟩
    obtain ⟨result, done⟩ := Party.exec_within running (reader_within deployment _ _) later kept
      enough
    rw [← after_append] at done
    rw [done, ends result done]

def paritySha256 (data : Bytes) : String :=
  String.ofList (List.replicate 64 (if data = [] then 'a' else 'b'))

def smallDeployment : Deployment := ⟨paritySha256, 100, fun _ _ _ _ => "plan"⟩

def smallCommit : BlobCommit :=
  ⟨⟨"run", by decide⟩, .checkpoint 1, true, "record", [paritySha256 [1]],
    [(paritySha256 [1], [1])]⟩

-- A commit that crashes after its put, a collector that crashes after its delete, and the same
-- commit again.
def smallRun : List Label :=
  [.start 0 (.commit smallCommit), .step 0 {}, .environment 0,
    .start 1 (.apply ⟨"plan", 0, 0, [⟨⟨paritySha256 [1], 1, "object", 0, "token"⟩, 0⟩], none⟩)] ++
  List.replicate 5 (.step 1 {}) ++ [.environment 1, .start 2 (.commit smallCommit)] ++
  List.replicate 8 (.step 2 {})

def smallRead : Label := .start 3 (.read smallCommit.runId (paritySha256 [1]))

def smallReader : List Label := List.replicate 3 (.step 3 {})

theorem smallRun_reading : (after smallDeployment (smallRun ++ [smallRead])).running 3 =
    some (program smallDeployment (.read smallCommit.runId (paritySha256 [1]))) := by
  have free : ready (after smallDeployment smallRun).shared 3 = true := by decide +kernel
  rw [after_append]
  generalize after smallDeployment smallRun = s at free
  simp only [Machine.exec_cons, Machine.exec_nil, Machine.next, Party.machine, Party.next,
    smallRead, party, free, if_true, Function.update_self]
  rfl

theorem smallRun_committed :
    (after smallDeployment (smallRun ++ [smallRead])).shared.committed = [smallCommit] := by
  decide +kernel

theorem smallRun_submitted :
    (after smallDeployment (smallRun ++ [smallRead] ++ smallReader)).shared.submitted =
      [[1], [1]] := by
  decide +kernel

theorem collection_spares_smallRun :
    (after smallDeployment (smallRun ++ [smallRead] ++ smallReader)).running 3 =
      some (.done (.ok (.read [1]))) := by
  have member : smallCommit ∈
      (after smallDeployment (smallRun ++ [smallRead])).shared.committed := by
    rw [smallRun_committed]
    exact List.mem_singleton_self _
  have refers : paritySha256 [1] ∈ smallCommit.references := by
    simp only [smallCommit, List.mem_singleton]
  have brings : (paritySha256 [1], [1]) ∈ smallCommit.blobs := by
    simp only [smallCommit, List.mem_singleton]
  have alive : 3 ∉ (after smallDeployment
      (smallRun ++ [smallRead] ++ smallReader)).shared.crashed := by decide +kernel
  have spared := (collection_spares smallDeployment (smallRun ++ [smallRead])).2 smallCommit member
    (paritySha256 [1]) refers
  refine (spared.2 [1] ⟨smallCommit, member, rfl, brings⟩ 3 smallReader smallRun_reading ?_ alive
    ?_).2 (by decide)
  · intro label held params same
    rw [List.eq_of_mem_replicate held] at same
    cases same
  · intro first one second two _
    rw [smallRun_submitted] at one two
    simp only [List.mem_cons, List.not_mem_nil, or_false, or_self] at one two
    rw [one, two]

end MonoidKernel.ObjectCollector
