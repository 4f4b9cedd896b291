import MonoidKernel.Loop.TaskManager

set_option autoImplicit false

namespace MonoidKernel.Tasks

open Library

variable {R : Type}

section Lists

theorem nodup_eraseDups {A : Type} [DecidableEq A] (items : List A) : items.eraseDups.Nodup := by
  induction size : items.length using Nat.strongRecOn generalizing items with
  | ind n ih =>
    cases items with
    | nil => exact List.nodup_nil
    | cons item rest =>
      rw [List.eraseDups_cons]
      have shorter : (rest.filter fun other => !other == item).length < n := by
        have bound := List.length_filter_le (fun other => !other == item) rest
        rw [List.length_cons] at size
        omega
      refine List.nodup_cons.mpr ⟨?_, ih _ shorter _ rfl⟩
      intro again
      rw [List.mem_eraseDups, List.mem_filter] at again
      simp at again

end Lists

section Conditions

def Core.Published (core : Core R) : Prop :=
  ∀ id job, core.manager.jobs.get? id = some job → job.finished = true → job.resumeOnExit = true →
    job.readyForReentry = true

def Core.ShellDelivered (core : Core R) : Prop :=
  ∀ id job, core.manager.jobs.get? id = some job → job.finished = true → job.resumeOnExit = true →
    job.executor = .shell → id ∈ core.manager.deliveredReentryJobs

def Core.Unfinished (core : Core R) (id : String) : Prop :=
  ∀ job, core.manager.jobs.get? id = some job → job.finished = false

def System.Between (s : System R) (id : String) (job : Task R) : Prop :=
  .publishing id ∈ s.calls ∨ .cancelled id ∈ s.calls ∧ shouldMarkReady job = true

-- The condition on a step: a report, a cancellation and a completion write to a task only before it
-- has finished, no pop comes between a call's write to a resume task and its publication, and the
-- checkpoint that is restored was not taken there and leaves no shell job behind.
def Orderly (s : System R) : Label R → Prop
  | .advance index _ =>
    match s.calls[index]? with
    | some (.reporting id _ _) => s.core.Unfinished id
    | some (.cancelling id) =>
      ∀ job, s.core.manager.jobs.get? id = some job → job.status = "running" → job.finished = false
    | _ => True
  | .complete id _ _ => s.core.Unfinished id
  | .pop =>
    ∀ id job, s.core.manager.jobs.get? id = some job → job.resumeOnExit = true →
      s.Between id job → job.readyForReentry = true
  | .restore index => ∀ core, s.saved[index]? = some core → core.Published ∧ core.ShellDelivered
  | _ => True

def Core.poppedIds (core : Core R) : List String := core.popped.map Observation.jobId

structure Held (core : Core R) : Prop where
  recorded : ∀ id job, core.manager.jobs.get? id = some job → job.finished = true →
    ⟨observation id job, job.resumeOnExit⟩ ∈ core.accepted
  once : (core.accepted.map Accepted.id).Nodup
  present : ∀ accepted ∈ core.accepted,
    (∃ job, core.manager.jobs.get? accepted.id = some job ∧ job.finished = true) ∨
    (core.manager.jobs.get? accepted.id = none ∧
      (accepted.resume = true → accepted.id ∈ core.poppedIds))
  ready : ∀ id job, core.manager.jobs.get? id = some job → job.readyForReentry = true →
    job.finished = true
  queued : ∀ id job, core.manager.jobs.get? id = some job → id ∈ core.manager.reentryQueue →
    job.readyForReentry = true ∧ job.resumeOnExit = true ∧
      id ∉ core.manager.deliveredReentryJobs
  delivered : ∀ id job, core.manager.jobs.get? id = some job →
    id ∈ core.manager.deliveredReentryJobs → job.readyForReentry = true ∧ id ∈ core.poppedIds
  shown : ∀ popped ∈ core.popped, popped.jobId ∈ core.manager.deliveredReentryJobs ∧
    ⟨popped, true⟩ ∈ core.accepted
  poppedOnce : core.poppedIds.Nodup

theorem held_fresh : Held (⟨.fresh, [], []⟩ : Core R) where
  recorded := by intro id job found; cases found
  once := List.nodup_nil
  present := by intro accepted member; cases member
  ready := by intro id job found; cases found
  queued := by intro id job found; cases found
  delivered := by intro id job found; cases found
  shown := by intro popped member; cases member
  poppedOnce := List.nodup_nil

end Conditions

section Writes

variable {core : Core R} {id : String} {job written : Task R}

theorem get?_write (core : Core R) (id : String) (job written : Task R) (other : String) :
    (core.write id job written).manager.jobs.get? other =
      if other = id then some written else core.manager.jobs.get? other :=
  OrderedDict.get?_set _ _ _ _

theorem Held.notAccepted (held : Held core) (before : core.manager.jobs.get? id = some job)
    (live : job.finished = false) : id ∉ core.accepted.map Accepted.id := by
  intro member
  obtain ⟨accepted, listed, rfl⟩ := List.mem_map.mp member
  rcases held.present accepted listed with ⟨other, found, finished⟩ | ⟨absent, _⟩
  · rw [before] at found
    cases found
    rw [live] at finished
    cases finished
  · rw [before] at absent
    cases absent

theorem Held.notReady (held : Held core) (before : core.manager.jobs.get? id = some job)
    (live : job.finished = false) : job.readyForReentry = false := by
  cases ready : job.readyForReentry with
  | false => rfl
  | true =>
    have finished := held.ready id job before ready
    rw [live] at finished
    cases finished

theorem held_write (held : Held core) (new : id ∉ core.accepted.map Accepted.id)
    (unqueued : id ∉ core.manager.reentryQueue)
    (undelivered : id ∉ core.manager.deliveredReentryJobs) (live : job.finished = false)
    (unready : written.readyForReentry = false) : Held (core.write id job written) := by
  have more : ∀ accepted ∈ core.accepted, accepted ∈ (core.write id job written).accepted := by
    intro accepted member
    simp only [Core.write]
    split
    · exact List.mem_append_left _ member
    · exact member
  have apart : ∀ accepted ∈ core.accepted, accepted.id ≠ id := by
    intro accepted member same
    exact new (same ▸ List.mem_map_of_mem member)
  have old : ∀ accepted ∈ core.accepted,
      (∃ held, (core.write id job written).manager.jobs.get? accepted.id = some held ∧
        held.finished = true) ∨
      ((core.write id job written).manager.jobs.get? accepted.id = none ∧
        (accepted.resume = true → accepted.id ∈ core.poppedIds)) := by
    intro accepted member
    rw [get?_write, if_neg (apart accepted member)]
    exact held.present accepted member
  constructor
  case recorded =>
    intro other found here finished
    rw [get?_write] at here
    split at here
    next same =>
      cases here
      subst same
      have ended : (written.finished && !job.finished) = true := by rw [finished, live]; rfl
      simp only [Core.write, ended, if_true]
      exact List.mem_append_right _ (List.mem_singleton_self _)
    · exact more _ (held.recorded other found here finished)
  case once =>
    simp only [Core.write]
    split
    · rw [List.map_append]
      apply held.once.append (List.nodup_singleton _)
      intro other before after
      have same : other = id := List.mem_singleton.mp after
      exact new (same ▸ before)
    · exact held.once
  case present =>
    intro accepted member
    simp only [Core.write] at member
    split at member
    next ended =>
      rcases List.mem_append.mp member with before | added
      · exact old accepted before
      · rw [List.mem_singleton.mp added]
        left
        have finished : written.finished = true := (Bool.and_eq_true_iff.mp ended).1
        exact ⟨written, by rw [get?_write]; exact if_pos rfl, finished⟩
    · exact old accepted member
  case ready =>
    intro other found here ready
    rw [get?_write] at here
    split at here
    · cases here
      rw [unready] at ready
      cases ready
    · exact held.ready other found here ready
  case queued =>
    intro other found here member
    rw [get?_write] at here
    split at here
    next same => exact absurd member (same ▸ unqueued)
    · exact held.queued other found here member
  case delivered =>
    intro other found here member
    rw [get?_write] at here
    split at here
    next same => exact absurd member (same ▸ undelivered)
    · exact held.delivered other found here member
  case shown =>
    intro popped member
    have before := held.shown popped member
    exact ⟨before.1, more _ before.2⟩
  case poppedOnce => exact held.poppedOnce

theorem held_rewrite (held : Held core) (before : core.manager.jobs.get? id = some job)
    (live : job.finished = false) (ready : written.readyForReentry = job.readyForReentry) :
    Held (core.write id job written) := by
  have unready := held.notReady before live
  apply held_write held (held.notAccepted before live)
  · intro member
    have queued := (held.queued id job before member).1
    rw [unready] at queued
    cases queued
  · intro member
    have delivered := (held.delivered id job before member).1
    rw [unready] at delivered
    cases delivered
  · exact live
  · rw [ready, unready]

theorem write_same (before : core.manager.jobs.get? id = some job) (held : Held core) :
    Held (core.write id job job) := by
  have same (other : String) : (core.write id job job).manager.jobs.get? other =
      core.manager.jobs.get? other := by
    rw [get?_write]
    split
    next here => rw [here, before]
    · rfl
  have unended : (job.finished && !job.finished) = false := by cases job.finished <;> rfl
  have accepted : (core.write id job job).accepted = core.accepted := by
    simp only [Core.write, unended]
    rfl
  constructor
  case recorded =>
    intro other found here
    rw [same] at here
    rw [accepted]
    exact held.recorded other found here
  case once =>
    rw [accepted]
    exact held.once
  case present =>
    intro entry member
    rw [accepted] at member
    rw [same]
    exact held.present entry member
  case ready =>
    intro other found here
    rw [same] at here
    exact held.ready other found here
  case queued =>
    intro other found here
    rw [same] at here
    exact held.queued other found here
  case delivered =>
    intro other found here
    rw [same] at here
    exact held.delivered other found here
  case shown =>
    rw [accepted]
    exact held.shown
  case poppedOnce => exact held.poppedOnce

end Writes

section Publication

variable {core : Core R} {id : String} {job : Task R}

variable {manager : TaskManager R}

theorem markReady_none (absent : manager.jobs.get? id = none) :
    manager.markReady id = manager := by
  simp only [TaskManager.markReady, absent]

theorem markReady_ready (found : manager.jobs.get? id = some job)
    (ready : job.readyForReentry = true) : manager.markReady id = manager := by
  simp only [TaskManager.markReady, found, ready, if_true]

theorem markReady_unready (found : manager.jobs.get? id = some job)
    (unready : job.readyForReentry = false) : manager.markReady id =
      ⟨manager.jobs.set id { job with readyForReentry := true },
        if job.resumeOnExit then manager.reentryQueue ++ [id] else manager.reentryQueue,
        manager.deliveredReentryJobs⟩ := by
  simp only [TaskManager.markReady, found, unready, Bool.false_eq_true, if_false]

theorem held_markReady (held : Held core)
    (ended : ∀ job, core.manager.jobs.get? id = some job → job.finished = true) :
    Held { core with manager := core.manager.markReady id } := by
  cases found : core.manager.jobs.get? id with
  | none =>
    rw [markReady_none found]
    exact held
  | some job =>
    cases ready : job.readyForReentry with
    | true =>
      rw [markReady_ready found ready]
      exact held
    | false =>
      rw [markReady_unready found ready]
      have finished := ended job found
      have undelivered : id ∉ core.manager.deliveredReentryJobs := by
        intro member
        have delivered := (held.delivered id job found member).1
        rw [ready] at delivered
        cases delivered
      have listed (other : String) :
          other ∈ (if job.resumeOnExit then core.manager.reentryQueue ++ [id]
            else core.manager.reentryQueue) →
          other ∈ core.manager.reentryQueue ∨ other = id ∧ job.resumeOnExit = true := by
        intro member
        split at member
        next resume =>
          rcases List.mem_append.mp member with before | added
          · exact .inl before
          · exact .inr ⟨List.mem_singleton.mp added, resume⟩
        · exact .inl member
      constructor
      case recorded =>
        intro other found' here done
        simp only [OrderedDict.get?_set] at here
        split at here
        next same =>
          cases here
          subst same
          exact held.recorded other job found finished
        · exact held.recorded other found' here done
      case once => exact held.once
      case present =>
        intro accepted member
        simp only [OrderedDict.get?_set]
        by_cases same : accepted.id = id
        · rw [if_pos same]
          exact .inl ⟨_, rfl, finished⟩
        · rw [if_neg same]
          exact held.present accepted member
      case ready =>
        intro other found' here done
        simp only [OrderedDict.get?_set] at here
        split at here
        · cases here
          exact finished
        · exact held.ready other found' here done
      case queued =>
        intro other found' here member
        simp only [OrderedDict.get?_set] at here
        rcases listed other member with before | ⟨same, resume⟩
        · split at here
          next same =>
            subst same
            have queued := (held.queued other job found before).1
            rw [ready] at queued
            cases queued
          · exact held.queued other found' here before
        · rw [if_pos same] at here
          cases here
          exact ⟨rfl, resume, same ▸ undelivered⟩
      case delivered =>
        intro other found' here member
        simp only [OrderedDict.get?_set] at here
        split at here
        next same => exact absurd member (same ▸ undelivered)
        · exact held.delivered other found' here member
      case shown => exact held.shown
      case poppedOnce => exact held.poppedOnce

end Publication

section Pops

variable {core : Core R}

def TaskManager.known (manager : TaskManager R) : List String :=
  manager.reentryIds.filter fun id => (manager.jobs.get? id).isSome

theorem mem_known (held : Held core) (id : String) :
    id ∈ core.manager.known ↔ ∃ job, core.manager.jobs.get? id = some job ∧
      job.readyForReentry = true ∧ job.resumeOnExit = true ∧
        id ∉ core.manager.deliveredReentryJobs := by
  simp only [TaskManager.known, TaskManager.reentryIds, List.mem_filter, List.mem_eraseDups,
    List.mem_append]
  constructor
  · rintro ⟨listed, known⟩
    obtain ⟨job, found⟩ := Option.isSome_iff_exists.mp known
    rcases listed with queued | unqueued
    · exact ⟨job, found, held.queued id job found queued⟩
    · obtain ⟨⟨name, other⟩, member, rfl⟩ := List.mem_map.mp unqueued
      obtain ⟨inside, fits⟩ := List.mem_filter.mp member
      have here := (core.manager.jobs.get?_eq_some_iff).mpr inside
      simp only [Bool.and_eq_true, Bool.not_eq_true', List.contains_eq_mem, decide_eq_false_iff_not]
        at fits
      exact ⟨other, here, fits.1.1.2, fits.1.1.1, fits.1.2⟩
  · rintro ⟨job, found, ready, resume, undelivered⟩
    refine ⟨?_, by rw [found]; rfl⟩
    by_cases queued : id ∈ core.manager.reentryQueue
    · exact .inl queued
    · right
      apply List.mem_map.mpr
      refine ⟨(id, job), List.mem_filter.mpr ⟨?_, ?_⟩, rfl⟩
      · exact (core.manager.jobs.get?_eq_some_iff).mp found
      · simp [ready, resume, undelivered, queued]

theorem pop_ids (manager : TaskManager R) :
    manager.popReentryObservations.2.map Observation.jobId = manager.known := by
  simp only [TaskManager.popReentryObservations, TaskManager.known]
  induction manager.reentryIds with
  | nil => rfl
  | cons id rest ih =>
    cases found : manager.jobs.get? id with
    | none => simpa [found] using ih
    | some job => simpa [found, observation] using ih

theorem mem_pop {manager : TaskManager R} {popped : Observation R} :
    popped ∈ manager.popReentryObservations.2 ↔
      ∃ id ∈ manager.known, ∃ job, manager.jobs.get? id = some job ∧
        observation id job = popped := by
  simp only [TaskManager.popReentryObservations, TaskManager.known, List.mem_filterMap,
    List.mem_filter]
  constructor
  · rintro ⟨id, listed, shown⟩
    obtain ⟨job, found, rfl⟩ := Option.map_eq_some_iff.mp shown
    exact ⟨id, ⟨listed, by rw [found]; rfl⟩, job, found, rfl⟩
  · rintro ⟨id, ⟨listed, _⟩, job, found, rfl⟩
    exact ⟨id, listed, by rw [found]; rfl⟩

theorem held_pop (held : Held core) : Held core.pop.1 := by
  have ids : core.pop.1.poppedIds = core.poppedIds ++ core.manager.known := by
    simp only [Core.pop, Core.poppedIds, List.map_append]
    rw [pop_ids]
  have inside : ∀ id ∈ core.poppedIds, id ∈ core.pop.1.poppedIds := by
    intro id member
    rw [ids]
    exact List.mem_append_left _ member
  constructor
  case recorded => exact held.recorded
  case once => exact held.once
  case present =>
    intro accepted member
    rcases held.present accepted member with here | ⟨absent, shown⟩
    · exact .inl here
    · exact .inr ⟨absent, fun resume => inside _ (shown resume)⟩
  case ready => exact held.ready
  case queued =>
    intro id job found member
    cases member
  case delivered =>
    intro id job found member
    rcases List.mem_append.mp member with before | added
    · have delivered := held.delivered id job found before
      exact ⟨delivered.1, inside id delivered.2⟩
    · obtain ⟨other, here, ready, _⟩ := (mem_known held id).mp added
      have same : core.manager.jobs.get? id = some job := found
      rw [same] at here
      cases here
      refine ⟨ready, ?_⟩
      rw [ids]
      exact List.mem_append_right _ added
  case shown =>
    intro popped member
    rcases List.mem_append.mp member with before | added
    · have shown := held.shown popped before
      exact ⟨List.mem_append_left _ shown.1, shown.2⟩
    · obtain ⟨id, known, job, found, rfl⟩ := mem_pop.mp added
      obtain ⟨other, here, ready, resume, _⟩ := (mem_known held id).mp known
      rw [found] at here
      cases here
      have accepted := held.recorded id job found (held.ready id job found ready)
      rw [resume] at accepted
      exact ⟨List.mem_append_right _ known, accepted⟩
  case poppedOnce =>
    rw [ids]
    apply held.poppedOnce.append ((nodup_eraseDups _).filter _)
    intro id before added
    obtain ⟨popped, member, rfl⟩ := List.mem_map.mp before
    obtain ⟨job, _, _, _, undelivered⟩ := (mem_known held popped.jobId).mp added
    exact undelivered (held.shown popped member).1

theorem Held.same (held : Held core) {first second : Accepted R} (one : first ∈ core.accepted)
    (two : second ∈ core.accepted) (ids : first.id = second.id) : first = second :=
  List.inj_on_of_nodup_map held.once one two ids

theorem pop_complete (held : Held core) (published : core.Published) {accepted : Accepted R}
    (member : accepted ∈ core.accepted) (resume : accepted.resume = true)
    (unpopped : accepted.id ∉ core.poppedIds) : accepted.observation ∈ core.pop.2 := by
  rcases held.present accepted member with ⟨job, found, finished⟩ | ⟨_, shown⟩
  · have same := held.same (held.recorded accepted.id job found finished) member rfl
    have resumes : job.resumeOnExit = true := by
      rw [← same] at resume
      exact resume
    have ready := published accepted.id job found finished resumes
    have undelivered : accepted.id ∉ core.manager.deliveredReentryJobs :=
      fun delivered => unpopped (held.delivered accepted.id job found delivered).2
    apply mem_pop.mpr
    refine ⟨accepted.id, (mem_known held accepted.id).mpr ⟨job, found, ready, resumes, undelivered⟩,
      job, found, ?_⟩
    exact congrArg Accepted.observation same
  · exact absurd (shown resume) unpopped

end Pops

section Restoration

variable {core : Core R}

theorem get?_restoreState (manager : TaskManager R) (id : String) (job : Task R) :
    (restoreState manager.checkpointPayload).jobs.get? id = some job ↔
      manager.jobs.get? id = some job ∧ job.executor ≠ .shell := by
  have kept : (manager.jobs.entries.filter fun entry => decide (entry.2.executor ≠ .shell)).Sublist
      manager.jobs.entries := List.filter_sublist
  have distinct := manager.jobs.distinct.sublist (kept.map Prod.fst)
  have jobs : (restoreState manager.checkpointPayload).jobs =
      (manager.jobs.entries.filter fun entry => decide (entry.2.executor ≠ .shell)).foldl
        (fun jobs entry => jobs.set entry.1 entry.2) .empty := by
    simp only [restoreState, TaskManager.checkpointPayload, List.foldl_map]
    rfl
  rw [jobs, OrderedDict.get?_foldl_set distinct, OrderedDict.get?_empty, Option.or_none,
    OrderedDict.lookup_eq_some_iff distinct, List.mem_filter, manager.jobs.get?_eq_some_iff]
  simp

theorem held_restore (held : Held core) (delivered : core.ShellDelivered) :
    Held { core with manager := restoreState core.manager.checkpointPayload } := by
  have found {id : String} {job : Task R}
      (here : (restoreState core.manager.checkpointPayload).jobs.get? id = some job) :
      core.manager.jobs.get? id = some job := ((get?_restoreState core.manager id job).mp here).1
  constructor
  case recorded =>
    intro id job here finished
    exact held.recorded id job (found here) finished
  case once => exact held.once
  case present =>
    intro accepted member
    have lost (gone : ∀ job, core.manager.jobs.get? accepted.id = some job →
        job.executor = .shell) :
        (restoreState core.manager.checkpointPayload).jobs.get? accepted.id = none := by
      cases here : (restoreState core.manager.checkpointPayload).jobs.get? accepted.id with
      | none => rfl
      | some job =>
        have back := (get?_restoreState core.manager accepted.id job).mp here
        exact absurd (gone job back.1) back.2
    rcases held.present accepted member with ⟨job, here, finished⟩ | ⟨absent, shown⟩
    · by_cases shell : job.executor = .shell
      · right
        refine ⟨lost ?_, ?_⟩
        · intro other same
          rw [here] at same
          cases same
          exact shell
        · intro resume
          have same := held.same (held.recorded accepted.id job here finished) member rfl
          have resumes : job.resumeOnExit = true := by
            rw [← same] at resume
            exact resume
          have sent := delivered accepted.id job here finished resumes shell
          exact (held.delivered accepted.id job here sent).2
      · exact .inl ⟨job, (get?_restoreState core.manager _ job).mpr ⟨here, shell⟩, finished⟩
    · right
      refine ⟨lost ?_, shown⟩
      intro job here
      rw [absent] at here
      cases here
  case ready =>
    intro id job here
    exact held.ready id job (found here)
  case queued =>
    intro id job here
    exact held.queued id job (found here)
  case delivered =>
    intro id job here
    exact held.delivered id job (found here)
  case shown => exact held.shown
  case poppedOnce => exact held.poppedOnce

end Restoration

section Steps

variable (wording : Wording R)

structure Kept (s : System R) : Prop where
  held : Held s.core
  saved : ∀ core ∈ s.saved, Held core
  publishing : ∀ id, .publishing id ∈ s.calls →
    ∃ job, s.core.manager.jobs.get? id = some job ∧ job.finished = true

def Stays (core after : Core R) : Prop :=
  ∀ id job, core.manager.jobs.get? id = some job → job.finished = true →
    ∃ later, after.manager.jobs.get? id = some later ∧ later.finished = true ∧
      observation id later = observation id job

theorem stays_refl (core : Core R) : Stays core core :=
  fun _ job found finished => ⟨job, found, finished, rfl⟩

theorem Stays.trans {first second third : Core R} (one : Stays first second)
    (two : Stays second third) : Stays first third := by
  intro id job found finished
  obtain ⟨later, here, ended, same⟩ := one id job found finished
  obtain ⟨last, there, done, again⟩ := two id later here ended
  exact ⟨last, there, done, again.trans same⟩

theorem Stays.publishing {core after : Core R} (stays : Stays core after) {calls : List (Call R)}
    (publishing : ∀ id, .publishing id ∈ calls →
      ∃ job, core.manager.jobs.get? id = some job ∧ job.finished = true) :
    ∀ id, .publishing id ∈ calls →
      ∃ job, after.manager.jobs.get? id = some job ∧ job.finished = true := by
  intro id member
  obtain ⟨job, found, finished⟩ := publishing id member
  obtain ⟨later, here, ended, _⟩ := stays id job found finished
  exact ⟨later, here, ended⟩

theorem stays_write {core : Core R} {id : String} {job written : Task R}
    (live : ∀ held, core.manager.jobs.get? id = some held →
    held.finished = false ∨ held = written) :
    Stays core (core.write id job written) := by
  intro other held found finished
  rw [get?_write]
  by_cases same : other = id
  · rw [if_pos same]
    subst same
    rcases live held found with open_ | same
    · rw [open_] at finished
      cases finished
    · subst same
      exact ⟨held, rfl, finished, rfl⟩
  · rw [if_neg same]
    exact ⟨held, found, finished, rfl⟩

theorem stays_markReady (core : Core R) (id : String) :
    Stays core { core with manager := core.manager.markReady id } := by
  intro other held found finished
  cases here : core.manager.jobs.get? id with
  | none =>
    simp only [markReady_none here]
    exact ⟨held, found, finished, rfl⟩
  | some job =>
    cases ready : job.readyForReentry with
    | true =>
      simp only [markReady_ready here ready]
      exact ⟨held, found, finished, rfl⟩
    | false =>
      simp only [markReady_unready here ready, OrderedDict.get?_set]
      by_cases same : other = id
      · rw [if_pos same]
        subst same
        rw [here] at found
        cases found
        exact ⟨_, rfl, finished, rfl⟩
      · rw [if_neg same]
        exact ⟨held, found, finished, rfl⟩

theorem Task.cancel_idle {task : Task R} (id : String) (live : Bool) (now : Nat)
    (idle : task.status ≠ "running") : task.cancel wording id live now = task := by
  simp only [Task.cancel, if_neg idle]

variable (task : Task R)

theorem Task.cancel_ready (id : String) (live : Bool) (now : Nat) :
    (task.cancel wording id live now).readyForReentry = task.readyForReentry := by
  simp only [Task.cancel]
  split
  · split <;> first | rfl | (split <;> rfl)
  · rfl

theorem Task.complete_ready (id : String) (now : Nat) (completion : Completion R) :
    (task.complete wording id now completion).readyForReentry = task.readyForReentry := by
  cases completion <;> rfl

theorem Task.complete_finished (id : String) (now : Nat) (completion : Completion R) :
    (task.complete wording id now completion).finished = true := by
  cases completion <;> simp [Task.complete, Task.finished, Task.setCancelledResult]

variable {s : System R}

theorem kept_start (kept : Kept s) (id : String) (executor : Executor) (resume : Bool) :
    Kept (s.start id executor resume) ∧
    Stays s.core (s.start id executor resume).core := by
  simp only [System.start]
  split
  next unused =>
    simp only [Core.unused, Bool.and_eq_true, Bool.not_eq_true', Option.isNone_iff_eq_none,
      List.contains_eq_mem, decide_eq_false_iff_not] at unused
    obtain ⟨⟨⟨absent, unqueued⟩, undelivered⟩, new⟩ := unused
    have stays : Stays s.core
        (s.core.write id (newTask executor resume) (newTask executor resume)) := by
      apply stays_write
      intro held found
      rw [absent] at found
      cases found
    exact ⟨⟨held_write kept.held new unqueued undelivered rfl rfl, kept.saved,
      stays.publishing kept.publishing⟩, stays⟩
  · exact ⟨kept, stays_refl _⟩

theorem kept_report (kept : Kept s) (id status : String) (result : R) :
    Kept (s.report id status result).1 ∧ Stays s.core (s.report id status result).1.core := by
  simp only [System.report]
  split
  · exact ⟨kept, stays_refl _⟩
  · split
    · exact ⟨kept, stays_refl _⟩
    · refine ⟨⟨kept.held, kept.saved, ?_⟩, stays_refl _⟩
      intro other member
      rcases List.mem_append.mp member with before | added
      · exact kept.publishing other before
      · simp at added

theorem kept_cancel (kept : Kept s) (id : String) :
    Kept (s.cancel id) ∧ Stays s.core (s.cancel id).core := by
  simp only [System.cancel]
  split
  · exact ⟨kept, stays_refl _⟩
  · refine ⟨⟨kept.held, kept.saved, ?_⟩, stays_refl _⟩
    intro other member
    rcases List.mem_append.mp member with before | added
    · exact kept.publishing other before
    · simp at added

theorem nextSection_spec (kept : Kept s) {index now : Nat} {call : Call R}
    (taken : s.calls[index]? = some call) (orderly : Orderly s (.advance index now)) :
    Held (s.nextSection wording call now).1 ∧ Stays s.core (s.nextSection wording call now).1 ∧
      ∀ id, (s.nextSection wording call now).2 = some (.publishing id) →
        ∃ job, (s.nextSection wording call now).1.manager.jobs.get? id = some job ∧
          job.finished = true := by
  simp only [Orderly, taken] at orderly
  cases call with
  | reporting id status result =>
    simp only [System.nextSection]
    cases found : s.core.manager.jobs.get? id with
    | none => exact ⟨kept.held, stays_refl _, fun _ left => by cases left⟩
    | some job =>
      have live := orderly job found
      refine ⟨held_rewrite kept.held found live rfl, stays_write ?_, ?_⟩
      · intro held here
        rw [found] at here
        cases here
        exact .inl live
      · intro other left
        cases left
        exact ⟨_, by rw [get?_write]; exact if_pos rfl, rfl⟩
  | cancelling id =>
    simp only [System.nextSection]
    cases found : s.core.manager.jobs.get? id with
    | none => exact ⟨kept.held, stays_refl _, fun _ left => by cases left⟩
    | some job =>
      by_cases running : job.status = "running"
      · have live := orderly job found running
        refine ⟨held_rewrite kept.held found live (Task.cancel_ready wording job id _ now),
          stays_write ?_, ?_⟩
        · intro held here
          rw [found] at here
          cases here
          exact .inl live
        · intro other left
          simp only at left
          split at left
          next child =>
            cases left
            refine ⟨_, by rw [get?_write]; exact if_pos rfl, ?_⟩
            simp only [Task.cancel, running, child.1, child.2.2]
            rfl
          · cases left
      · simp only [Task.cancel_idle wording id (s.live.contains id) now running]
        refine ⟨write_same found kept.held, stays_write ?_, ?_⟩
        · intro held here
          rw [found] at here
          cases here
          exact .inr rfl
        · intro other left
          simp only [running, false_and, and_false, if_false] at left
          cases left
  | cancelled id =>
    simp only [System.nextSection]
    cases found : s.core.manager.jobs.get? id with
    | none => exact ⟨kept.held, stays_refl _, fun _ left => by cases left⟩
    | some job =>
      refine ⟨kept.held, stays_refl _, ?_⟩
      intro other left
      simp only at left
      split at left
      next should =>
        cases left
        simp only [shouldMarkReady, Bool.and_eq_true] at should
        exact ⟨job, found, should.1.2⟩
      · cases left
  | publishing id =>
    simp only [System.nextSection]
    have ended := kept.publishing id (List.mem_of_getElem? taken)
    refine ⟨held_markReady kept.held ?_, stays_markReady s.core id, fun _ left => by cases left⟩
    intro job found
    obtain ⟨other, here, finished⟩ := ended
    rw [found] at here
    cases here
    exact finished

theorem kept_advance (kept : Kept s) (index now : Nat) (orderly : Orderly s (.advance index now)) :
    Kept (s.advance wording index now) ∧ Stays s.core (s.advance wording index now).core := by
  simp only [System.advance]
  split
  · exact ⟨kept, stays_refl _⟩
  next call taken =>
    obtain ⟨held, stays, left⟩ := nextSection_spec wording kept taken orderly
    refine ⟨⟨held, kept.saved, ?_⟩, stays⟩
    intro id member
    rcases List.mem_append.mp member with before | added
    · exact stays.publishing kept.publishing id (List.mem_of_mem_eraseIdx before)
    · exact left id (Option.mem_toList.mp added)

theorem kept_complete (kept : Kept s) (id : String) (now : Nat) (completion : Completion R)
    (orderly : s.core.Unfinished id) :
    Kept (s.complete wording id now completion) ∧
      Stays s.core (s.complete wording id now completion).core := by
  simp only [System.complete]
  cases found : s.core.manager.jobs.get? id with
  | none => exact ⟨kept, stays_refl _⟩
  | some job =>
    simp only
    split
    · have live := orderly job found
      have stays : Stays s.core
          (s.core.write id job (job.complete wording id now completion)) := by
        apply stays_write
        intro held here
        rw [found] at here
        cases here
        exact .inl live
      have ended := Task.complete_finished wording job id now completion
      refine ⟨⟨held_rewrite kept.held found live
        (Task.complete_ready wording job id now completion),
        kept.saved, ?_⟩, stays⟩
      intro other member
      rcases List.mem_append.mp member with before | added
      · exact stays.publishing kept.publishing other before
      · cases List.mem_singleton.mp added
        exact ⟨_, by rw [get?_write]; exact if_pos rfl, ended⟩
    · exact ⟨kept, stays_refl _⟩

end Steps

section Runs

variable (wording : Wording R)

variable {s : System R}

theorem kept_pop (kept : Kept s) :
    Kept { s with core := s.core.pop.1 } ∧ Stays s.core s.core.pop.1 :=
  ⟨⟨held_pop kept.held, kept.saved, kept.publishing⟩, fun _ job found finished =>
    ⟨job, found, finished, rfl⟩⟩

theorem kept_restore (kept : Kept s) {index : Nat} (orderly : Orderly s (.restore index)) :
    Kept (s.restore index) := by
  simp only [System.restore]
  split
  · exact kept
  next core found =>
    have held := kept.saved core (List.mem_of_getElem? found)
    exact ⟨held_restore held (orderly core found).2, kept.saved, fun _ member => by cases member⟩

theorem kept_next (kept : Kept s) (label : Label R) (orderly : Orderly s label) :
    Kept ((taskSystem wording).next s label) ∧
      ((∀ index, label ≠ .restore index) →
      Stays s.core ((taskSystem wording).next s label).core) := by
  cases label with
  | start id executor resume =>
    have step := kept_start kept id executor resume
    exact ⟨step.1, fun _ => step.2⟩
  | report id status result =>
    have step := kept_report kept id status result
    exact ⟨step.1, fun _ => step.2⟩
  | cancel id =>
    have step := kept_cancel kept id
    exact ⟨step.1, fun _ => step.2⟩
  | advance index now =>
    have step := kept_advance wording kept index now orderly
    exact ⟨step.1, fun _ => step.2⟩
  | complete id now completion =>
    have step := kept_complete wording kept id now completion orderly
    exact ⟨step.1, fun _ => step.2⟩
  | pop =>
    have step := kept_pop kept
    exact ⟨step.1, fun _ => step.2⟩
  | checkpoint =>
    refine ⟨⟨kept.held, ?_, kept.publishing⟩, fun _ => stays_refl _⟩
    intro core member
    rcases List.mem_append.mp member with before | added
    · exact kept.saved core before
    · rw [List.mem_singleton.mp added]
      exact kept.held
  | restore index => exact ⟨kept_restore kept orderly, fun lost => absurd rfl (lost index)⟩

theorem kept_init : Kept (taskSystem wording).init where
  held := held_fresh
  saved := fun _ member => by cases member
  publishing := fun _ member => by cases member

variable {labels : List (Label R)}

theorem kept_run (kept : Kept s) (orderly : (taskSystem wording).Along Orderly s labels) :
    Kept ((taskSystem wording).exec s labels) :=
  Machine.Along.exec Kept
    (fun _ label held fits => (kept_next wording held label fits).1) kept orderly

theorem stays_run (kept : Kept s) (orderly : (taskSystem wording).Along Orderly s labels)
    (alive : ∀ index, .restore index ∉ labels) :
    Stays s.core ((taskSystem wording).exec s labels).core := by
  induction labels generalizing s with
  | nil => exact stays_refl _
  | cons label rest ih =>
    obtain ⟨here, later⟩ := orderly
    have step := kept_next wording kept label here
    have first := step.2 fun index same => alive index (same ▸ List.mem_cons_self)
    exact first.trans (ih step.1 later fun index member =>
      alive index (List.mem_cons_of_mem _ member))

-- A resume task that has finished is published, or a call is about to publish it.
def Pending (s : System R) : Prop :=
  ∀ id job, s.core.manager.jobs.get? id = some job → job.finished = true →
    job.resumeOnExit = true → job.readyForReentry = true ∨ s.Between id job

theorem pending_init : Pending (taskSystem wording).init := by
  intro id job found
  cases found

theorem Pending.published (pending : Pending s) (orderly : Orderly s .pop) :
    s.core.Published := by
  intro id job found finished resume
  rcases pending id job found finished resume with ready | between
  · exact ready
  · exact orderly id job found resume between

theorem pending_write {after : System R} (pending : Pending s) {id : String} {job written : Task R}
    (core : after.core = s.core.write id job written) (calls : ∀ call ∈ s.calls, call ∈ after.calls)
    (own : written.finished = true → after.Between id written) : Pending after := by
  intro other held found finished resume
  rw [core, get?_write] at found
  by_cases same : other = id
  · rw [if_pos same] at found
    cases found
    exact .inr (same ▸ own finished)
  · rw [if_neg same] at found
    exact (pending other held found finished resume).imp_right fun between =>
      between.imp (calls _) (And.imp_left (calls _))

def Remains (s : System R) (call : Call R) (id : String) (job : Task R) : Prop :=
  (.publishing id ∈ s.calls ∧ call ≠ .publishing id) ∨
    (.cancelled id ∈ s.calls ∧ call ≠ .cancelled id) ∧ shouldMarkReady job = true

theorem nextSection_pending (pending : Pending s) {index now : Nat} {call : Call R}
    (taken : s.calls[index]? = some call) (orderly : Orderly s (.advance index now)) {id : String}
    {job : Task R} (found : (s.nextSection wording call now).1.manager.jobs.get? id = some job)
    (finished : job.finished = true) (resume : job.resumeOnExit = true) :
    job.readyForReentry = true ∨
      (s.nextSection wording call now).2 = some (.publishing id) ∨
      (s.nextSection wording call now).2 = some (.cancelled id) ∧ shouldMarkReady job = true ∨
      Remains s call id job := by
  have remains {p q : Prop} (before : s.core.manager.jobs.get? id = some job)
      (published : call ≠ .publishing id) (cancelled : call ≠ .cancelled id) :
      job.readyForReentry = true ∨ p ∨ q ∨ Remains s call id job := by
    rcases pending id job before finished resume with ready | publishing | ⟨member, should⟩
    · exact .inl ready
    · exact .inr (.inr (.inr (.inl ⟨publishing, published⟩)))
    · exact .inr (.inr (.inr (.inr ⟨⟨member, cancelled⟩, should⟩)))
  simp only [Orderly, taken] at orderly
  cases call with
  | reporting other status result =>
    simp only [System.nextSection] at found ⊢
    split at found
    · exact remains found (by simp) (by simp)
    next task held =>
      rw [get?_write] at found
      by_cases same : id = other
      · exact .inr (.inl (by simp [same]))
      · exact remains (by simpa [same] using found) (by simp) (by simp)
  | cancelling other =>
    simp only [System.nextSection] at found ⊢
    split at found
    · exact remains found (by simp) (by simp)
    next task held =>
      by_cases same : id = other
      · subst same
        rw [get?_write, if_pos rfl] at found
        cases found
        by_cases running : task.status = "running"
        · have live := orderly task held running
          cases ready : task.readyForReentry with
          | true => exact .inl ((Task.cancel_ready wording task id _ now).trans ready)
          | false =>
            right
            cases executor : task.executor with
            | hosted =>
              right
              left
              simp [executor, Task.cancel, running, shouldMarkReady, Executor.inProcess, ready]
            | subagent =>
              cases alive : s.live.contains id with
              | false =>
                left
                simp [running]
              | true =>
                simp only [Task.cancel, running, executor, alive, if_true] at finished
                rw [live] at finished
                cases finished
            | shell =>
              have open_ : (task.cancel wording id (s.live.contains id) now).finished =
                  task.finished := by
                simp only [Task.cancel, running, executor, if_true]
                split <;> rfl
              rw [open_, live] at finished
              cases finished
        · rw [Task.cancel_idle wording id _ now running] at remains ⊢
          exact remains held (by simp) (by simp)
      · rw [get?_write, if_neg same] at found
        exact remains found (by simp) (by simp)
  | cancelled other =>
    simp only [System.nextSection] at found ⊢
    split at found
    next absent =>
      have apart : Call.cancelled other ≠ (.cancelled id : Call R) := by
        rintro same
        cases same
        rw [absent] at found
        cases found
      exact remains found (by simp) apart
    next task held =>
      by_cases same : id = other
      · subst same
        rw [held] at found
        cases found
        rcases pending id job held finished resume with ready | publishing | ⟨-, should⟩
        · exact .inl ready
        · exact .inr (.inr (.inr (.inl ⟨publishing, by simp⟩)))
        · exact .inr (.inl (by simp [should]))
      · exact remains found (by simp) (by simpa using Ne.symm same)
  | publishing other =>
    simp only [System.nextSection] at found ⊢
    by_cases same : id = other
    · subst same
      left
      cases held : s.core.manager.jobs.get? id with
      | none =>
        rw [markReady_none held, held] at found
        cases found
      | some task =>
        cases ready : task.readyForReentry with
        | true =>
          rw [markReady_ready held ready, held] at found
          cases found
          exact ready
        | false =>
          rw [markReady_unready held ready] at found
          simp only [OrderedDict.get?_set, if_true] at found
          cases found
          rfl
    · have before : s.core.manager.jobs.get? id = some job := by
        cases held : s.core.manager.jobs.get? other with
        | none => rwa [markReady_none held] at found
        | some task =>
          cases ready : task.readyForReentry with
          | true => rwa [markReady_ready held ready] at found
          | false =>
            rw [markReady_unready held ready] at found
            simpa only [OrderedDict.get?_set, if_neg same] using found
      exact remains before (by simpa using Ne.symm same) (by simp)

theorem pending_advance (pending : Pending s) (index now : Nat)
    (orderly : Orderly s (.advance index now)) : Pending (s.advance wording index now) := by
  unfold System.advance
  split
  · exact pending
  next call taken =>
    intro id job found finished resume
    have survives {other : Call R} (member : other ∈ s.calls) (apart : call ≠ other) :
        other ∈ s.calls.eraseIdx index := by
      obtain ⟨place, at_⟩ := List.mem_iff_getElem?.mp member
      refine List.mem_eraseIdx_iff_getElem?.mpr ⟨place, ?_, at_⟩
      rintro rfl
      exact apart (Option.some.inj (taken.symm.trans at_))
    rcases nextSection_pending wording pending taken orderly found finished resume with
      ready | left | ⟨left, should⟩ | ⟨member, apart⟩ | ⟨⟨member, apart⟩, should⟩
    · exact .inl ready
    · exact .inr (.inl (by simp [left]))
    · exact .inr (.inr ⟨by simp [left], should⟩)
    · exact .inr (.inl (List.mem_append_left _ (survives member apart)))
    · exact .inr (.inr ⟨List.mem_append_left _ (survives member apart), should⟩)

theorem pending_next (pending : Pending s) (label : Label R) (orderly : Orderly s label) :
    Pending ((taskSystem wording).next s label) := by
  have more (calls : List (Call R)) : Pending { s with calls := s.calls ++ calls } :=
    fun id job found finished resume =>
      (pending id job found finished resume).imp_right fun between =>
        between.imp (List.mem_append_left _) (And.imp_left (List.mem_append_left _))
  change Pending ((taskSystem wording).step s label).1
  cases label with
  | start id executor resume =>
    simp only [taskSystem, System.start]
    split
    · exact pending_write pending rfl (fun _ member => member) fun ended => by cases ended
    · exact pending
  | report id status result =>
    simp only [taskSystem, System.report]
    split
    · exact pending
    · split
      · exact pending
      · exact more _
  | cancel id =>
    simp only [taskSystem, System.cancel]
    split
    · exact pending
    · exact more _
  | advance index now => exact pending_advance wording pending index now orderly
  | complete id now completion =>
    simp only [taskSystem, System.complete]
    split
    · exact pending
    · split
      · exact pending_write pending rfl (fun _ => List.mem_append_left _) fun _ =>
          .inl (by simp)
      · exact pending
  | pop => exact pending
  | checkpoint => exact pending
  | restore index =>
    simp only [taskSystem, System.restore]
    split
    · exact pending
    next core found =>
      intro id job here finished resume
      have before := ((get?_restoreState core.manager id job).mp here).1
      exact .inl ((orderly core found).1 id job before finished resume)

theorem pending_run (pending : Pending s) (orderly : (taskSystem wording).Along Orderly s labels) :
    Pending ((taskSystem wording).exec s labels) :=
  Machine.Along.exec Pending (fun _ label held fits => pending_next wording held label fits) pending
    orderly

-- The claims on one state: the end of a task is the one that was accepted, there is one, and it was
-- popped at most once and only after it was accepted.
structure Delivered (s : System R) : Prop where
  first : ∀ id job, s.core.manager.jobs.get? id = some job → job.finished = true →
    ⟨observation id job, job.resumeOnExit⟩ ∈ s.core.accepted
  once : (s.core.accepted.map Accepted.id).Nodup
  poppedOnce : s.core.poppedIds.Nodup
  poppedEnded : ∀ popped ∈ s.core.popped, ⟨popped, true⟩ ∈ s.core.accepted
  repeated : ∀ id job status result, s.core.manager.jobs.get? id = some job → job.finished = true →
    s.report id status result = (s, .duplicate job.status)

theorem Kept.delivered (kept : Kept s) : Delivered s where
  first := kept.held.recorded
  once := kept.held.once
  poppedOnce := kept.held.poppedOnce
  poppedEnded := fun popped member => (kept.held.shown popped member).2
  repeated := by
    intro id job status result found finished
    have reported : alreadyReported job = true := by
      have ended : job.finishedAt.isSome = true := finished
      simp only [alreadyReported, ended, Bool.or_true]
    simp only [System.report, found, reported, if_true]

theorem ends_delivered {labels : List (Label R)}
    (orderly : (taskSystem wording).Along Orderly (taskSystem wording).init labels) :
    Delivered ((taskSystem wording).exec (taskSystem wording).init labels) ∧
    (∀ later, (taskSystem wording).Along Orderly (taskSystem wording).init (labels ++ later) →
      (∀ index, .restore index ∉ later) →
      Stays ((taskSystem wording).exec (taskSystem wording).init labels).core
        ((taskSystem wording).exec (taskSystem wording).init (labels ++ later)).core) ∧
    ((taskSystem wording).Along Orderly (taskSystem wording).init (labels ++ [.pop]) →
      ∀ accepted ∈ ((taskSystem wording).exec (taskSystem wording).init labels).core.accepted,
        accepted.resume = true →
        accepted.id ∉ ((taskSystem wording).exec (taskSystem wording).init labels).core.poppedIds →
        ∃ observations, (taskSystem wording).answer
            ((taskSystem wording).exec (taskSystem wording).init labels) .pop =
              .observations observations ∧ accepted.observation ∈ observations) := by
  have kept := kept_run wording (kept_init wording) orderly
  refine ⟨kept.delivered, ?_, ?_⟩
  · intro later further alive
    rw [Machine.exec_append]
    exact stays_run wording kept further.rest alive
  · intro further accepted member resume unpopped
    have published := (pending_run wording (pending_init wording) orderly).published further.rest.1
    exact ⟨_, rfl, pop_complete kept.held published member resume unpopped⟩

def plainWording : Wording Nat := ⟨fun _ _ => 0, fun _ => 0⟩

def answeredRun : List (Label Nat) :=
  [.start "task" .hosted true, .report "task" "answered" 1, .advance 0 1, .advance 0 2, .checkpoint,
    .restore 0]

theorem ends_delivered_answered :
    let m := taskSystem plainWording
    let s := m.exec m.init answeredRun
    Delivered s ∧ Stays s.core (m.exec m.init (answeredRun ++ [.pop])).core ∧
      ∃ observations, m.answer s .pop = .observations observations ∧
        ⟨"task", "answered", some 1⟩ ∈ observations := by
  intro m s
  have orderly : m.Along Orderly m.init (answeredRun ++ [.pop]) := by
    refine ⟨trivial, trivial, ?_, trivial, trivial, ?_, ?_, trivial⟩
    · intro job found
      cases found
      rfl
    · intro core found
      cases found
      have only : ∀ id job, OrderedDict.get? (⟨[("task",
          (⟨.hosted, "answered", true, some 1, some 1, true⟩ : Task Nat))], by simp⟩ :
          OrderedDict String (Task Nat)) id = some job →
          job = ⟨.hosted, "answered", true, some 1, some 1, true⟩ := by
        intro id job here
        have listed := (OrderedDict.get?_eq_some_iff _).mp here
        cases List.mem_singleton.mp listed
        rfl
      constructor
      · intro id job here _ _
        rw [only id job here]
      · intro id job here _ _ shell
        rw [only id job here] at shell
        cases shell
    · rintro id job _ _ (between | ⟨between, -⟩) <;> cases between
  obtain ⟨delivered, stays, popped⟩ := ends_delivered plainWording orderly.start
  refine ⟨delivered, stays [.pop] orderly fun _ => by simp, ?_⟩
  exact popped orderly ⟨⟨"task", "answered", some 1⟩, true⟩ (List.mem_singleton_self _) rfl
    (List.not_mem_nil)

def twoReporters : List (Label Nat) :=
  [.start "task" .hosted true, .report "task" "answered" 1, .report "task" "answered" 2,
    .advance 0 1, .advance 1 2, .pop, .advance 0 3]

theorem second_report_overwrites :
    ¬ Delivered ((taskSystem plainWording).exec (taskSystem plainWording).init twoReporters) := by
  intro delivered
  have overwritten := delivered.first "task"
    ⟨.hosted, "answered", true, some 3, some 2, true⟩ rfl rfl
  have accepted : ((taskSystem plainWording).exec (taskSystem plainWording).init
      twoReporters).core.accepted = [⟨⟨"task", "answered", some 1⟩, true⟩] := rfl
  rw [accepted] at overwritten
  simp [observation] at overwritten

example : (taskSystem plainWording).answer ((taskSystem plainWording).exec
    (taskSystem plainWording).init [.start "task" .hosted true, .report "task" "answered" 1,
      .advance 0 1, .checkpoint, .restore 0]) .pop = .observations [] := rfl

end Runs

end MonoidKernel.Tasks
