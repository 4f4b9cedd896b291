import MonoidKernel.Reference.TenantLedger

set_option autoImplicit false

namespace MonoidKernel.TenantLedger

open Library

section Entries

def MetricValue.countOf : Option MetricValue → Nat
  | some (.count value) => value
  | _ => 0

def Metrics.countOf (metrics : Metrics) (key : String) : Nat :=
  MetricValue.countOf (metrics.get? key)

def MetricValue.above (mark : Nat) : MetricValue → MetricValue
  | .count value => .count (value - mark)
  | .unreadable => .unreadable

theorem meterEntries_lookup (entries : List (String × MetricValue)) (mark : String → Nat)
    (distinct : (entries.map Prod.fst).Nodup) (key : String) :
    (meterEntries entries mark).1.lookup key =
      (entries.lookup key).map (MetricValue.above (mark key)) := by
  induction entries generalizing mark with
  | nil => rfl
  | cons entry rest ih =>
    obtain ⟨name, value⟩ := entry
    rw [List.map_cons, List.nodup_cons] at distinct
    by_cases same : key = name
    · subst same
      cases value <;> simp [meterEntries, MetricValue.above]
    · have unequal : (key == name) = false := by simpa using same
      cases value with
      | count value => simp [meterEntries, List.lookup_cons, unequal, ih _ distinct.2, same]
      | unreadable => simp [meterEntries, List.lookup_cons, unequal, ih _ distinct.2]

theorem meterEntries_mark (entries : List (String × MetricValue)) (mark : String → Nat)
    (distinct : (entries.map Prod.fst).Nodup) (key : String) :
    (meterEntries entries mark).2 key =
      max (mark key) (MetricValue.countOf (entries.lookup key)) := by
  induction entries generalizing mark with
  | nil => simp [meterEntries, MetricValue.countOf]
  | cons entry rest ih =>
    obtain ⟨name, value⟩ := entry
    rw [List.map_cons, List.nodup_cons] at distinct
    by_cases same : key = name
    · have absent : rest.lookup key = none := by
        refine List.lookup_eq_none_iff.mpr fun entry listed => ?_
        have other : key ≠ entry.1 := by
          rw [same]
          exact fun equal => distinct.1 (List.mem_map.mpr ⟨entry, listed, equal.symm⟩)
        simpa using other
      subst same
      cases value <;> simp [meterEntries, ih _ distinct.2, absent, MetricValue.countOf]
    · have unequal : (key == name) = false := by simpa using same
      cases value with
      | count value => simp [meterEntries, List.lookup_cons, unequal, ih _ distinct.2, same]
      | unreadable => simp [meterEntries, List.lookup_cons, unequal, ih _ distinct.2]

variable (metrics : Metrics) (mark : String → Nat)

theorem unmetered_get? (key : String) :
    (unmetered metrics mark).get? key =
      (metrics.get? key).map (MetricValue.above (mark key)) :=
  meterEntries_lookup metrics.entries mark metrics.distinct key

@[simp] theorem unmetered_countOf (key : String) :
    (unmetered metrics mark).countOf key = metrics.countOf key - mark key := by
  unfold Metrics.countOf
  rw [unmetered_get?]
  cases held : metrics.get? key with
  | none => simp [MetricValue.countOf]
  | some value => cases value <;> simp [MetricValue.countOf, MetricValue.above]

@[simp] theorem advanced_apply (key : String) :
    advanced metrics mark key = max (mark key) (metrics.countOf key) :=
  meterEntries_mark metrics.entries mark metrics.distinct key

def Metrics.Accepted (metrics : Metrics) : Prop :=
  ∀ key ∈ ledgerKeys, metrics.get? key.name ≠ some .unreadable

instance (metrics : Metrics) : Decidable metrics.Accepted :=
  inferInstanceAs (Decidable (∀ key ∈ ledgerKeys, metrics.get? key.name ≠ some .unreadable))

theorem unmetered_accepted : (unmetered metrics mark).Accepted ↔ metrics.Accepted := by
  have same : ∀ key : LedgerKey, (unmetered metrics mark).get? key.name = some .unreadable ↔
      metrics.get? key.name = some .unreadable := by
    intro key
    rw [unmetered_get?]
    cases held : metrics.get? key.name with
    | none => simp
    | some value => cases value <;> simp [MetricValue.above]
  unfold Metrics.Accepted
  simp only [ne_eq, same]

theorem failure_accepted (totalUsage status : Option Metrics) :
    (spentBeforeFailure totalUsage status).Accepted := by
  intro key _ held
  obtain ⟨before, after, entries, -⟩ := List.lookup_eq_some_iff.mp held
  have member : (key.name, MetricValue.unreadable) ∈
      (spentBeforeFailure totalUsage status).entries := by
    rw [entries]
    simp
  obtain ⟨entry, -, counted⟩ := List.mem_map.mp member
  exact nomatch congrArg Prod.snd counted

end Entries

section Adding

variable {metrics : Metrics}

theorem addMetric_readable {key : LedgerKey} (readable : metrics.get? key.name ≠ some .unreadable)
    (usage : TenantUsage) :
    addMetric metrics key usage =
      (.ok (), { usage with
        totals := Function.update usage.totals key
          (usage.totals key + metrics.countOf key.name) }) := by
  unfold addMetric nonnegativeMetric Metrics.countOf
  cases held : metrics.get? key.name with
  | none => rfl
  | some value =>
    cases value with
    | count value => rfl
    | unreadable => exact absurd held readable

theorem addMetric_unreadable {key : LedgerKey} (held : metrics.get? key.name = some .unreadable)
    (usage : TenantUsage) :
    addMetric metrics key usage =
      (.error ("run metric " ++ key.name ++ " must be a non-negative integer"), usage) := by
  unfold addMetric nonnegativeMetric
  rw [held]
  rfl

theorem addKeys_cons (key : LedgerKey) (rest : List LedgerKey) (usage : TenantUsage) :
    addKeys metrics (key :: rest) usage =
      match addMetric metrics key usage with
      | (.ok _, after) => addKeys metrics rest after
      | (.error message, after) => (.error message, after) := by
  change (addMetric metrics key).andThen (fun _ => addKeys metrics rest) usage = _
  unfold Piece.andThen
  cases addMetric metrics key usage with
  | mk result after => cases result <;> rfl

theorem addKeys_readable (keys : List LedgerKey) (distinct : keys.Nodup)
    (readable : ∀ key ∈ keys, metrics.get? key.name ≠ some .unreadable) (usage : TenantUsage) :
    addKeys metrics keys usage =
      (.ok (), { usage with
        totals := fun key =>
          usage.totals key + if key ∈ keys then metrics.countOf key.name else 0 }) := by
  induction keys generalizing usage with
  | nil => rfl
  | cons first rest ih =>
    rw [List.nodup_cons] at distinct
    rw [addKeys_cons, addMetric_readable (readable first (List.mem_cons_self ..))]
    dsimp only
    rw [ih distinct.2 fun key listed => readable key (List.mem_cons_of_mem _ listed)]
    congr 2
    funext key
    by_cases same : key = first
    · subst same
      simp [distinct.1]
    · simp [same]

theorem addKeys_unreadable (keys : List LedgerKey)
    (unreadable : ∃ key ∈ keys, metrics.get? key.name = some .unreadable) (usage : TenantUsage) :
    ∃ message after, addKeys metrics keys usage = (.error message, after) ∧
      after.runs = usage.runs ∧
      ((∀ key, metrics.countOf key = 0) → after = usage) := by
  induction keys generalizing usage with
  | nil => simp at unreadable
  | cons first rest ih =>
    by_cases held : metrics.get? first.name = some .unreadable
    · exact ⟨_, usage, by rw [addKeys_cons, addMetric_unreadable held], rfl, fun _ => rfl⟩
    · have later : ∃ key ∈ rest, metrics.get? key.name = some .unreadable := by
        obtain ⟨key, listed, same⟩ := unreadable
        rcases List.mem_cons.mp listed with rfl | listed
        · exact absurd same held
        · exact ⟨key, listed, same⟩
      obtain ⟨message, after, added, runs, idle⟩ := ih later
        { usage with
          totals := Function.update usage.totals first
            (usage.totals first + metrics.countOf first.name) }
      refine ⟨message, after, ?_, runs, fun nothing => ?_⟩
      · rw [addKeys_cons, addMetric_readable held]
        exact added
      · rw [idle nothing, nothing first.name, Nat.add_zero, Function.update_eq_self]

theorem addMetrics_accepted (accepted : metrics.Accepted) (countRun : Bool) (usage : TenantUsage) :
    addMetrics metrics countRun usage =
      (.ok (), {
        runs := if countRun then usage.runs + 1 else usage.runs
        totals := fun key => usage.totals key + metrics.countOf key.name }) := by
  have added := fun usage => addKeys_readable ledgerKeys ledgerKeys_nodup accepted usage
  change addKeys metrics ledgerKeys (if countRun then { usage with runs := usage.runs + 1 }
    else usage) = _
  rw [added]
  simp only [mem_ledgerKeys, if_true]
  cases countRun <;> rfl

theorem addMetrics_rejected (rejected : ¬ metrics.Accepted) (usage : TenantUsage) :
    (∃ message after, addMetrics metrics false usage = (.error message, after) ∧
      ((∀ key, metrics.countOf key = 0) → after = usage)) ∧
    ∃ message after, addMetrics metrics true usage = (.error message, after) := by
  have unreadable : ∃ key ∈ ledgerKeys, metrics.get? key.name = some .unreadable := by
    simpa [Metrics.Accepted] using rejected
  obtain ⟨message, after, added, _, idle⟩ := addKeys_unreadable ledgerKeys unreadable usage
  obtain ⟨other, later, counted, _⟩ :=
    addKeys_unreadable ledgerKeys unreadable { usage with runs := usage.runs + 1 }
  exact ⟨⟨message, after, added, idle⟩, other, later, counted⟩

end Adding

section History

def acceptedRuns (history : List Metering) : Finset String :=
  ((history.filter fun metering => metering.metrics.Accepted).map (·.run)).toFinset

def readings (history : List Metering) (key : String) : List (String × Nat) :=
  (history.filter fun metering => metering.metrics.Accepted).map fun metering =>
    (metering.run, metering.metrics.countOf key)

variable {metering : Metering} (history : List Metering)

theorem acceptedRuns_accepted (accepted : metering.metrics.Accepted) :
    acceptedRuns (history ++ [metering]) = insert metering.run (acceptedRuns history) := by
  ext run
  simp [acceptedRuns, List.filter_append, accepted]

theorem acceptedRuns_rejected (rejected : ¬ metering.metrics.Accepted) :
    acceptedRuns (history ++ [metering]) = acceptedRuns history := by
  simp [acceptedRuns, List.filter_append, rejected]

theorem readings_accepted (accepted : metering.metrics.Accepted) (key : String) :
    readings (history ++ [metering]) key =
      readings history key ++ [(metering.run, metering.metrics.countOf key)] := by
  simp [readings, List.filter_append, accepted]

theorem readings_rejected (rejected : ¬ metering.metrics.Accepted) (key : String) :
    readings (history ++ [metering]) key = readings history key := by
  simp [readings, List.filter_append, rejected]

theorem highest_unmetered {history : List Metering} {run : String}
    (unmetered : run ∉ acceptedRuns history) (key : String) :
    highest (readings history key) run = 0 := by
  refine highest_unread fun value listed => unmetered ?_
  obtain ⟨metering, held, same⟩ := List.mem_map.mp listed
  cases same
  exact List.mem_toFinset.mpr (List.mem_map_of_mem held)

end History

section Steps

variable (tenantOf : String → String)

variable (ledger : Ledger)

theorem meter_next (metering : Metering) :
    (meter tenantOf).next ledger metering =
      { usage := Function.update ledger.usage (tenantOf metering.run)
          (some (addMetrics (unmetered metering.metrics (ledger.mark metering.run))
            (ledger.metered metering.run).isNone
            (ledger.usageOf (tenantOf metering.run))).2)
        metered := Function.update ledger.metered metering.run
          (some (advanced metering.metrics (ledger.mark metering.run))) } := rfl

theorem meter_answer (metering : Metering) :
    (meter tenantOf).answer ledger metering =
      (addMetrics (unmetered metering.metrics (ledger.mark metering.run))
        (ledger.metered metering.run).isNone (ledger.usageOf (tenantOf metering.run))).1 := rfl

theorem meter_raises (metering : Metering) :
    (∃ message, (meter tenantOf).answer ledger metering = .error message) ↔
      ¬ metering.metrics.Accepted := by
  rw [meter_answer]
  by_cases accepted : metering.metrics.Accepted
  · rw [addMetrics_accepted ((unmetered_accepted _ _).mpr accepted)]
    simp [accepted]
  · have rejected : ¬ (unmetered metering.metrics (ledger.mark metering.run)).Accepted :=
      fun held => accepted ((unmetered_accepted _ _).mp held)
    obtain ⟨⟨message, after, uncounted, _⟩, other, later, counted⟩ :=
      addMetrics_rejected rejected (ledger.usageOf (tenantOf metering.run))
    cases (ledger.metered metering.run).isNone with
    | false => exact ⟨fun _ => accepted, fun _ => ⟨message, by rw [uncounted]⟩⟩
    | true => exact ⟨fun _ => accepted, fun _ => ⟨other, by rw [counted]⟩⟩

def runsOf (history : List Metering) (tenant : String) : Finset String :=
  (acceptedRuns history).filter fun run => tenantOf run = tenant

structure Exact (history : List Metering) (ledger : Ledger) : Prop where
  runs : ∀ tenant, (ledger.usageOf tenant).runs = (runsOf tenantOf history tenant).card
  totals : ∀ tenant (key : LedgerKey), (ledger.usageOf tenant).totals key =
    ∑ run ∈ runsOf tenantOf history tenant, highest (readings history key.name) run

structure Marked (history : List Metering) (ledger : Ledger) : Prop where
  known : ∀ run, (ledger.metered run).isSome = true ↔ run ∈ acceptedRuns history
  marks : ∀ run key, ledger.mark run key = highest (readings history key) run

structure Untouched (before after : Ledger) : Prop where
  usage : ∀ tenant, after.usageOf tenant = before.usageOf tenant
  metered : after.metered = before.metered

theorem usageOf_next (metering : Metering) (tenant : String) :
    ((meter tenantOf).next ledger metering).usageOf tenant =
      if tenant = tenantOf metering.run then
        (addMetrics (unmetered metering.metrics (ledger.mark metering.run))
          (ledger.metered metering.run).isNone (ledger.usageOf (tenantOf metering.run))).2
      else ledger.usageOf tenant := by
  rw [meter_next]
  unfold Ledger.usageOf
  by_cases same : tenant = tenantOf metering.run
  · simp [same]
  · simp [same]

variable {history : List Metering} {ledger : Ledger} {metering : Metering}

theorem Marked.isNone (marked : Marked history ledger) (run : String) :
    (ledger.metered run).isNone = decide (run ∉ acceptedRuns history) := by
  have known := marked.known run
  cases held : ledger.metered run with
  | none => simp_all
  | some mark => simp_all

theorem runsOf_accepted (accepted : metering.metrics.Accepted) (tenant : String) :
    runsOf tenantOf (history ++ [metering]) tenant =
      if tenantOf metering.run = tenant then
        insert metering.run (runsOf tenantOf history tenant)
      else runsOf tenantOf history tenant := by
  unfold runsOf
  rw [acceptedRuns_accepted history accepted, Finset.filter_insert]

theorem mem_runsOf {run tenant : String} :
    run ∈ runsOf tenantOf history tenant ↔ run ∈ acceptedRuns history ∧ tenantOf run = tenant := by
  simp [runsOf]

theorem marked_accepted (marked : Marked history ledger)
    (accepted : metering.metrics.Accepted) :
    Marked (history ++ [metering]) ((meter tenantOf).next ledger metering) := by
  rw [meter_next]
  refine ⟨fun run => ?_, fun run key => ?_⟩
  · rw [acceptedRuns_accepted history accepted, Finset.mem_insert]
    by_cases same : run = metering.run
    · simp [same]
    · simpa [same] using marked.known run
  · rw [readings_accepted history accepted]
    by_cases same : run = metering.run
    · subst same
      simp [Ledger.mark, highest_last, ← marked.marks]
    · rw [highest_other _ (Ne.symm same), ← marked.marks]
      simp [Ledger.mark, same]

theorem exact_accepted (exact : Exact tenantOf history ledger) (marked : Marked history ledger)
    (accepted : metering.metrics.Accepted) :
    Exact tenantOf (history ++ [metering]) ((meter tenantOf).next ledger metering) := by
  have metered := (unmetered_accepted metering.metrics (ledger.mark metering.run)).mpr accepted
  refine ⟨fun tenant => ?_, fun tenant key => ?_⟩
  · rw [usageOf_next, addMetrics_accepted metered, runsOf_accepted tenantOf accepted,
      marked.isNone]
    by_cases same : tenant = tenantOf metering.run
    · subst same
      by_cases member : metering.run ∈ acceptedRuns history
      · simp [member, mem_runsOf, exact.runs]
      · simp [member, mem_runsOf, exact.runs]
    · simp [same, Ne.symm same, exact.runs]
  · have fresh : metering.run ∉ runsOf tenantOf history (tenantOf metering.run) →
        highest (readings history key.name) metering.run = 0 := by
      intro absent
      refine highest_unmetered (fun member => absent ?_) key.name
      exact (mem_runsOf tenantOf).mpr ⟨member, rfl⟩
    rw [usageOf_next, addMetrics_accepted metered, runsOf_accepted tenantOf accepted,
      readings_accepted history accepted]
    by_cases same : tenant = tenantOf metering.run
    · subst same
      rw [if_pos rfl, if_pos rfl, sum_highest_last _ _ _ _ fresh, ← exact.totals,
        ← marked.marks]
      simp only [unmetered_countOf]
    · rw [if_neg same, if_neg (Ne.symm same), exact.totals]
      refine Finset.sum_congr rfl fun run member => (highest_other _ ?_ _).symm
      rintro rfl
      exact same ((mem_runsOf tenantOf).mp member).2.symm

theorem Untouched.marked {after : Ledger} (untouched : Untouched ledger after)
    (marked : Marked history ledger) (rejected : ¬ metering.metrics.Accepted) :
    Marked (history ++ [metering]) after := by
  refine ⟨fun run => ?_, fun run key => ?_⟩
  · rw [untouched.metered, acceptedRuns_rejected history rejected, marked.known]
  · rw [readings_rejected history rejected, ← marked.marks, Ledger.mark, Ledger.mark,
      untouched.metered]

theorem Untouched.exact {after : Ledger} (untouched : Untouched ledger after)
    (exact : Exact tenantOf history ledger) (rejected : ¬ metering.metrics.Accepted) :
    Exact tenantOf (history ++ [metering]) after := by
  have runs : ∀ tenant, runsOf tenantOf (history ++ [metering]) tenant =
      runsOf tenantOf history tenant := by
    intro tenant
    rw [runsOf, acceptedRuns_rejected history rejected, runsOf]
  refine ⟨fun tenant => ?_, fun tenant key => ?_⟩
  · rw [untouched.usage, runs, exact.runs]
  · rw [untouched.usage, runs, readings_rejected history rejected, exact.totals]

-- A rejected metering that changes nothing: the run has been metered, and nothing in it lies above
-- the largest accepted value.
structure Harmless (history : List Metering) (metering : Metering) : Prop where
  known : metering.run ∈ acceptedRuns history
  spent : ∀ key, metering.metrics.countOf key ≤ highest (readings history key) metering.run

theorem untouched_iff (marked : Marked history ledger) (rejected : ¬ metering.metrics.Accepted) :
    Untouched ledger ((meter tenantOf).next ledger metering) ↔ Harmless history metering := by
  constructor
  · intro untouched
    have same := congrFun untouched.metered metering.run
    rw [meter_next] at same
    simp only [Function.update_self] at same
    refine ⟨(marked.known metering.run).mp (by rw [← same]; rfl), fun key => ?_⟩
    have mark : ledger.mark metering.run = advanced metering.metrics
        (ledger.mark metering.run) := by
      conv_lhs => rw [Ledger.mark, ← same, Option.getD_some]
    have kept := congrFun mark key
    rw [advanced_apply, marked.marks] at kept
    omega
  · intro harmless
    have known := marked.isNone metering.run
    rw [decide_eq_false (not_not.mpr harmless.known)] at known
    refine ⟨fun tenant => ?_, ?_⟩
    · rw [usageOf_next, known]
      split
      next same =>
        obtain ⟨⟨message, after, added, idle⟩, _⟩ := addMetrics_rejected
          (fun held => rejected ((unmetered_accepted _ (ledger.mark metering.run)).mp held))
          (ledger.usageOf (tenantOf metering.run))
        rw [added, same]
        refine idle fun key => ?_
        rw [unmetered_countOf, marked.marks]
        exact Nat.sub_eq_zero_of_le (harmless.spent key)
      · rfl
    · rw [meter_next]
      have mark : advanced metering.metrics (ledger.mark metering.run) =
          ledger.mark metering.run := by
        funext key
        rw [advanced_apply, marked.marks]
        exact max_eq_left (harmless.spent key)
      obtain ⟨held, same⟩ := Option.isSome_iff_exists.mp ((marked.known _).mpr harmless.known)
      rw [mark]
      refine Function.update_eq_self_iff.mpr ?_
      rw [Ledger.mark, same, Option.getD_some]

end Steps

section Runs

variable (tenantOf : String → String)

def ledgerAfter (history : List Metering) : Ledger :=
  (meter tenantOf).exec (meter tenantOf).init history

theorem ledgerAfter_last (history : List Metering) (metering : Metering) :
    ledgerAfter tenantOf (history ++ [metering]) =
      (meter tenantOf).next (ledgerAfter tenantOf history) metering :=
  (meter tenantOf).exec_append _ history [metering]

def CountsOnce (history : List Metering) : Prop :=
  ∀ earlier metering, earlier ++ [metering] <+: history →
    Exact tenantOf (earlier ++ [metering]) (ledgerAfter tenantOf (earlier ++ [metering])) ∧
    ((∃ message, (meter tenantOf).answer (ledgerAfter tenantOf earlier) metering =
        .error message) →
      Untouched (ledgerAfter tenantOf earlier) (ledgerAfter tenantOf (earlier ++ [metering])))

theorem ledgerAfter_exact (history : List Metering)
    (untouched : ∀ earlier metering, earlier ++ [metering] <+: history →
      ¬ metering.metrics.Accepted → Marked earlier (ledgerAfter tenantOf earlier) →
      Untouched (ledgerAfter tenantOf earlier) (ledgerAfter tenantOf (earlier ++ [metering]))) :
    Exact tenantOf history (ledgerAfter tenantOf history) ∧
      Marked history (ledgerAfter tenantOf history) := by
  induction history using List.reverseRecOn with
  | nil =>
    refine ⟨⟨fun tenant => rfl, fun tenant key => rfl⟩, ⟨fun run => ?_, fun run key => rfl⟩⟩
    simp [ledgerAfter, meter, acceptedRuns]
  | append_singleton earlier metering ih =>
    obtain ⟨exact, marked⟩ := ih fun before last initial =>
      untouched before last (initial.trans (List.prefix_append earlier [metering]))
    by_cases accepted : metering.metrics.Accepted
    · rw [ledgerAfter_last]
      exact ⟨exact_accepted tenantOf exact marked accepted,
        marked_accepted tenantOf marked accepted⟩
    · have same := untouched earlier metering List.prefix_rfl accepted marked
      exact ⟨same.exact tenantOf exact accepted, same.marked marked accepted⟩

theorem countsOnce_iff (history : List Metering) :
    CountsOnce tenantOf history ↔
      ∀ earlier metering, earlier ++ [metering] <+: history →
        ¬ metering.metrics.Accepted → Harmless earlier metering := by
  constructor
  · intro once earlier metering initial rejected
    have raised := (meter_raises tenantOf (ledgerAfter tenantOf earlier) metering).mpr rejected
    have same := (once earlier metering initial).2 raised
    have before := ledgerAfter_exact tenantOf earlier fun first last start refused _ =>
      (once first last (start.trans ((List.prefix_append earlier [metering]).trans initial))).2
        ((meter_raises tenantOf _ last).mpr refused)
    rw [ledgerAfter_last] at same
    exact (untouched_iff tenantOf before.2 rejected).mp same
  · intro harmless earlier metering initial
    have untouched : ∀ first last, first ++ [last] <+: history → ¬ last.metrics.Accepted →
        Marked first (ledgerAfter tenantOf first) →
        Untouched (ledgerAfter tenantOf first) (ledgerAfter tenantOf (first ++ [last])) := by
      intro first last start rejected marked
      rw [ledgerAfter_last]
      exact (untouched_iff tenantOf marked rejected).mpr (harmless first last start rejected)
    have before := ledgerAfter_exact tenantOf earlier fun first last start =>
      untouched first last (start.trans ((List.prefix_append earlier [metering]).trans initial))
    refine ⟨(ledgerAfter_exact tenantOf _ fun first last start =>
      untouched first last (start.trans initial)).1, ?_⟩
    rintro ⟨message, raised⟩
    refine untouched earlier metering initial ?_ before.2
    exact (meter_raises tenantOf _ metering).mp ⟨message, raised⟩

def refusedThenPaid : List Metering :=
  [.result "run" ⟨[("input_tokens", .unreadable), ("output_tokens", .count 5)], by decide⟩,
    .result "run" ⟨[("input_tokens", .count 7), ("output_tokens", .count 5)], by decide⟩]

theorem refused_metering_spends_marks :
    ¬ CountsOnce (fun _ => "tenant") refusedThenPaid := by
  intro once
  have counted := (once [refusedThenPaid.head (by decide)] _ List.prefix_rfl).1.totals
    "tenant" .outputTokens
  revert counted
  decide +kernel

end Runs

end MonoidKernel.TenantLedger
