/-
When the statistics of a queue add up.

The intervals of a period are chosen by tests on their bounds, while the rows that are
summed are chosen by tests on their times.  The counters of the intervals add up to
those of the period, whatever is in the tables, if these choices agree: each time of
the period that the filters let pass must be in one interval that is kept, and no such
time outside of the period may be in one (`addsUp_get_iff`).
-/
import CallLogd.Statistics.Queues

namespace CallLogd

open Clocks Steps QueueStatDAO StatisticsService

/-! ### Groups of rows -/

section Groups

variable {order : RowOrder} {rows : List StatQueuePeriodic} {id : ℕ}

lemma firstGroup_nil : firstGroup order [] = none := by
  have hnil : order.order ([] : List ℕ) = [] := List.perm_nil.1 (order.perm [])
  simp [firstGroup, hnil]

variable (order) in
lemma exists_firstGroup_eq (hrows : rows ≠ []) : ∃ id ∈ rows.map (·.statQueueId),
    firstGroup order rows = some (statRow (rows.filter (·.statQueueId = id))) := by
  have hperm := order.perm (rows.map (·.statQueueId)).dedup
  cases horder : order.order (rows.map (·.statQueueId)).dedup with
  | nil =>
    rw [horder] at hperm
    have hdedup := List.nil_perm.1 hperm
    rw [List.dedup_eq_nil, List.map_eq_nil_iff] at hdedup
    exact absurd hdedup hrows
  | cons id ids =>
    refine ⟨id, ?_, by rw [firstGroup, horder]; rfl⟩
    rw [horder] at hperm
    exact List.mem_dedup.1 (hperm.mem_iff.1 List.mem_cons_self)

/-- The rows of one queue are one group. -/
lemma firstGroup_of_forall (hrows : rows ≠ []) (hid : ∀ row ∈ rows, row.statQueueId = id) :
    firstGroup order rows = some (statRow rows) := by
  obtain ⟨id', hmem, hgroup⟩ := exists_firstGroup_eq order hrows
  obtain ⟨row, hrow, rfl⟩ := List.mem_map.1 hmem
  rw [hgroup, List.filter_eq_self.2]
  intro row' hrow'
  exact decide_eq_true ((hid row' hrow').trans (hid row hrow).symm)

end Groups

/-! ### Selected rows -/

lemma flatMap_filter_perm {queues : List StatQueue} (hnodup : (queues.map (·.id)).Nodup)
    (rows : List StatQueuePeriodic) (p : StatQueuePeriodic → Bool) :
    (queues.flatMap fun queue => rows.filter fun row => row.statQueueId = queue.id && p row).Perm
      (rows.filter fun row => row.statQueueId ∈ queues.map (·.id) && p row) := by
  induction queues with
  | nil => simp
  | cons queue queues ih =>
    rw [List.map_cons, List.nodup_cons] at hnodup
    rw [List.flatMap_cons]
    refine ((ih hnodup.2).append_left _).trans ?_
    -- the rows of the first queue, and those of the others
    refine List.Perm.trans (.of_eq ?_) (List.filter_append_perm (·.statQueueId = queue.id) _)
    rw [List.filter_filter, List.filter_filter]
    congr 1
    · refine List.filter_congr fun row _ => ?_
      by_cases h : row.statQueueId = queue.id <;> simp [h]
    · refine List.filter_congr fun row _ => ?_
      by_cases h : row.statQueueId = queue.id
      · have hnot : row.statQueueId ∉ queues.map (·.id) := h ▸ hnodup.1
        rw [decide_eq_false hnot, decide_eq_true h]
        rfl
      · simp [h]

/-! ### Items -/

section Items

variable {order : RowOrder} {tables : StatTables} {params : StatisticsParams}
  {queue : StatQueue} {start stop start' stop' : LocalTime} {row : StatQueuePeriodic} {id : ℕ}

/-- The rows of an item. -/
def StatisticsParams.selected (params : StatisticsParams) (tables : StatTables)
    (start stop : LocalTime) : List StatQueuePeriodic :=
  QueueStatDAO.selected tables params.tenantUuids params.queueId params.timezone params.filters
    (some start) (some stop)

/-- The queues with the requested number. -/
def StatisticsParams.queues (params : StatisticsParams) (tables : StatTables) : List StatQueue :=
  liveQueues tables params.tenantUuids params.queueId

/-- A time that the filters on the hour and on the day of the week let pass. -/
def StatisticsParams.Passes (params : StatisticsParams) (t : ℤ) : Prop :=
  passes params.timezone params.filters t = true

instance (t : ℤ) : Decidable (params.Passes t) := inferInstanceAs (Decidable (_ = _))

/-- A time of an interval that the filters let pass. -/
def StatisticsParams.CountedBetween (params : StatisticsParams) (start stop : LocalTime)
    (t : ℤ) : Prop :=
  (params.timezone.instant start ≤ t ∧ t < params.timezone.instant stop) ∧ params.Passes t

instance (t : ℤ) : Decidable (params.CountedBetween start stop t) :=
  inferInstanceAs (Decidable (_ ∧ _))

variable (tables params) in
lemma StatisticsParams.queues_nodup : ((params.queues tables).map (·.id)).Nodup :=
  List.Nodup.sublist (List.filter_sublist.map _) tables.statQueues_nodup

lemma addIntervalQuery_iff {z : TimeZone} {filters : TimeFilters} {t : ℤ} :
    addIntervalQuery z filters (some start) (some stop) t = true ↔
      (z.instant start ≤ t ∧ t < z.instant stop) ∧ passes z filters t = true := by
  simp [addIntervalQuery]

variable (tables params start stop) in
lemma selected_perm : (params.selected tables start stop).Perm
    (tables.statQueuePeriodics.filter fun row =>
      row.statQueueId ∈ (params.queues tables).map (·.id) ∧
        params.CountedBetween start stop row.time) := by
  refine (flatMap_filter_perm (params.queues_nodup tables) _ _).trans (.of_eq ?_)
  refine List.filter_congr fun row _ => ?_
  rw [Bool.eq_iff_iff, Bool.and_eq_true, decide_eq_true_eq, decide_eq_true_eq,
    addIntervalQuery_iff]
  rfl

lemma mem_selected : row ∈ params.selected tables start stop ↔
    row ∈ tables.statQueuePeriodics ∧ row.statQueueId ∈ (params.queues tables).map (·.id) ∧
      params.CountedBetween start stop row.time := by
  rw [(selected_perm tables params start stop).mem_iff, List.mem_filter, decide_eq_true_eq]

/-- Two items of the same times have the same rows. -/
lemma selected_congr (h : ∀ row ∈ tables.statQueuePeriodics,
    (params.CountedBetween start stop row.time ↔ params.CountedBetween start' stop' row.time)) :
    params.selected tables start stop = params.selected tables start' stop' := by
  refine List.flatMap_congr fun queue _ => List.filter_congr fun row hrow => ?_
  congr 1
  rw [Bool.eq_iff_iff, addIntervalQuery_iff, addIntervalQuery_iff]
  exact h row hrow

variable (order tables params queue start stop) in
/-- The counter of an item. -/
def StatisticsParams.count (counter : Counter) : ℤ :=
  counter.value (QueueStatisticsService.item order tables params queue (some start) (some stop))

/-- A counter is a sum over the rows of the first group. -/
lemma count_of_firstGroup {rows : List StatQueuePeriodic}
    (h : firstGroup order (params.selected tables start stop) = some (statRow rows))
    (counter : Counter) :
    params.count order tables queue start stop counter = (rows.map counter.ofRow).sum := by
  rw [StatisticsParams.selected] at h
  cases counter <;>
    simp [StatisticsParams.count, Counter.value, QueueStatisticsService.item, getIntervalByQueue,
      h, extraStats, statRow, Counter.ofRow, List.sum_map_add]

lemma count_of_selected_nil {counter : Counter} (h : params.selected tables start stop = []) :
    params.count order tables queue start stop counter = 0 := by
  rw [StatisticsParams.selected] at h
  simp [StatisticsParams.count, Counter.value, QueueStatisticsService.item, getIntervalByQueue,
    h, firstGroup_nil]

/-- The rows of one queue are all counted. -/
lemma count_of_forall {counter : Counter}
    (hid : ∀ row ∈ params.selected tables start stop, row.statQueueId = id) :
    params.count order tables queue start stop counter =
      ((params.selected tables start stop).map counter.ofRow).sum := by
  by_cases hnil : params.selected tables start stop = []
  · rw [count_of_selected_nil hnil, hnil]
    rfl
  · exact count_of_firstGroup (firstGroup_of_forall hnil hid) counter

variable (order queue) in
/-- Of the rows of several queues, those of one are counted. -/
lemma exists_count_eq (hnil : params.selected tables start stop ≠ []) :
    ∃ id ∈ (params.selected tables start stop).map (·.statQueueId),
      ∀ counter, params.count order tables queue start stop counter =
        (((params.selected tables start stop).filter (·.statQueueId = id)).map
          counter.ofRow).sum := by
  obtain ⟨id, hid, hgroup⟩ := exists_firstGroup_eq order hnil
  exact ⟨id, hid, count_of_firstGroup hgroup⟩

lemma count_congr {counter : Counter}
    (h : params.selected tables start stop = params.selected tables start' stop') :
    params.count order tables queue start stop counter =
      params.count order tables queue start' stop' counter := by
  by_cases hnil : params.selected tables start stop = []
  · rw [count_of_selected_nil hnil, count_of_selected_nil (h ▸ hnil)]
  · obtain ⟨id, -, hgroup⟩ := exists_firstGroup_eq order hnil
    rw [count_of_firstGroup hgroup, count_of_firstGroup (h ▸ hgroup), h]

end Items

/-! ### The intervals of a period -/

namespace StatisticsParams

variable (params : StatisticsParams) (interval : Interval) (from_ until_ : LocalTime)

/-- A step of the period whose bounds pass the tests on intervals. -/
def KeptStep (k : ℕ) : Prop :=
  interval.Starts params.timezone from_ until_ k ∧
    keeps params.filters interval (interval.start params.timezone from_ k)
      (interval.stop params.timezone from_ until_ k) = true

/-- A time of a kept step that the filters let pass. -/
def CountedIn (k : ℕ) (t : ℤ) : Prop :=
  params.KeptStep interval from_ until_ k ∧
    params.CountedBetween (interval.start params.timezone from_ k)
      (interval.stop params.timezone from_ until_ k) t

/-- The choice of the intervals agrees with the choice of the rows. -/
structure Agrees (queues : List StatQueue) : Prop where
  /-- No time of the period is in intervals that are left out, or after the last one. -/
  covered : ∀ t, params.CountedBetween from_ until_ t →
    ∃ k, params.CountedIn interval from_ until_ k t
  /-- No interval goes beyond the period. -/
  within : ∀ k t, params.CountedIn interval from_ until_ k t →
    params.CountedBetween from_ until_ t
  /-- No intervals overlap. -/
  once : ∀ j k t, params.CountedIn interval from_ until_ j t →
    params.CountedIn interval from_ until_ k t → j = k
  /-- If there are several queues, of which an item counts one, there is one interval. -/
  oneQueue : 1 < queues.length → ∀ j k t u, params.CountedIn interval from_ until_ j t →
    params.CountedIn interval from_ until_ k u → j = k

/-- The counter of some steps adds up to that of the period. -/
def StepsAddUp (order : RowOrder) (tables : StatTables) (queue : StatQueue) (steps : Finset ℕ)
    (counter : Counter) : Prop :=
  ∑ k ∈ steps, params.count order tables queue (interval.start params.timezone from_ k)
      (interval.stop params.timezone from_ until_ k) counter =
    params.count order tables queue from_ until_ counter

end StatisticsParams

section Get

variable {order : RowOrder} {tables : StatTables} {params : StatisticsParams} {now : ℤ}
  {interval : Interval} {from_ until_ : LocalTime} {rows : List StatQueuePeriodic}

variable (order) in
lemma exists_getStatQueue_eq (hqueues : params.queues tables ≠ []) : ∃ queue,
    getStatQueue order tables params.tenantUuids params.queueId = some queue := by
  cases horder : order.order (params.queues tables) with
  | nil => exact absurd (List.nil_perm.1 (horder ▸ order.perm (params.queues tables))) hqueues
  | cons queue queues =>
    refine ⟨queue, ?_⟩
    show (order.order (params.queues tables)).head? = some queue
    rw [horder]
    rfl

variable (now) in
/-- The statistics of a period: an item for each interval that is kept, and one for the
period. -/
lemma exists_get_eq_ok {queue : StatQueue}
    (hqueue : getStatQueue order tables params.tenantUuids params.queueId = some queue)
    (hfrom : params.from_ = some from_) (huntil : params.until_ = some until_)
    (hinterval : params.interval = some interval)
    (hrange : interval = .hour → until_.wall ≤ from_.addMonth.wall) :
    ∃ statistics, QueueStatisticsService.get order tables params now = .ok statistics ∧
      statistics.items =
        ((generateSubinterval params.timezone interval from_ until_).filter
          fun (start, stop) => keeps params.filters interval start stop).map
            (fun (start, stop) => QueueStatisticsService.item order tables params queue
              (some start) (some stop)) ++
        [QueueStatisticsService.item order tables params queue (some from_) (some until_)] := by
  simp only [QueueStatisticsService.get, hqueue, hfrom, huntil, hinterval,
    generateInterval_of_le hrange, Option.some_or, Option.getD_some, Except.map]
  exact ⟨_, rfl, rfl⟩

variable (order now) in
/-- The statistics add up if the items of the steps that are kept do. -/
lemma exists_addsUp_get_iff (hqueues : params.queues tables ≠ [])
    (hfrom : params.from_ = some from_) (huntil : params.until_ = some until_)
    (hinterval : params.interval = some interval)
    (hrange : interval = .hour → until_.wall ≤ from_.addMonth.wall) :
    ∃ steps : Finset ℕ, ∃ queue : StatQueue,
      (∀ k, k ∈ steps ↔ params.KeptStep interval from_ until_ k) ∧
      ∀ rows, ((∃ statistics, QueueStatisticsService.get order (tables.withPeriodics rows) params
          now = .ok statistics ∧ statistics.AddsUp) ↔
        ∀ counter, params.StepsAddUp interval from_ until_ order (tables.withPeriodics rows)
          queue steps counter) := by
  obtain ⟨n, hn, hparts⟩ :=
    interval.exists_generateSubinterval_eq params.timezone from_ until_
  obtain ⟨queue, hqueue⟩ := exists_getStatQueue_eq order hqueues
  let kept : List ℕ := (List.range n).filter fun k =>
    keeps params.filters interval (interval.start params.timezone from_ k)
      (interval.stop params.timezone from_ until_ k)
  have hnodup : kept.Nodup := List.nodup_range.filter _
  refine ⟨kept.toFinset, queue, fun k => ?_, fun rows => ?_⟩
  · rw [List.mem_toFinset, List.mem_filter, List.mem_range, hn k]
    rfl
  · -- the rows are not looked at to find the queue
    have hsame : getStatQueue order (tables.withPeriodics rows) params.tenantUuids
        params.queueId = some queue := hqueue
    obtain ⟨statistics, hget, hitems⟩ :=
      exists_get_eq_ok now hsame hfrom huntil hinterval hrange
    simp only [hget, Except.ok.injEq, exists_eq_left']
    refine forall_congr' fun counter => ?_
    rw [hitems, hparts, List.filter_map, StatisticsParams.StepsAddUp,
      List.sum_toFinset _ hnodup]
    simp [StatisticsParams.count, Function.comp_def, kept]

end Get

/-! ### Intervals that agree with the rows -/

section Agree

variable {order : RowOrder} {tables : StatTables} {params : StatisticsParams}
  {queue : StatQueue} {interval : Interval} {from_ until_ : LocalTime} {steps : Finset ℕ}

lemma count_perm {start stop : LocalTime} {counter : Counter} {id : ℕ}
    (hqueues : (params.queues tables).map (·.id) = [id]) :
    params.count order tables queue start stop counter =
      ((tables.statQueuePeriodics.filter fun row =>
        row.statQueueId ∈ (params.queues tables).map (·.id) ∧
          params.CountedBetween start stop row.time).map counter.ofRow).sum := by
  have hid : ∀ row ∈ params.selected tables start stop, row.statQueueId = id := by
    intro row hrow
    have hmem := (mem_selected.1 hrow).2.1
    rw [hqueues] at hmem
    exact List.mem_singleton.1 hmem
  rw [count_of_forall hid]
  exact ((selected_perm tables params start stop).map _).sum_eq

/-- The rows of one queue are shared out among the intervals. -/
lemma stepsAddUp_of_oneQueue
    (hsteps : ∀ k, k ∈ steps ↔ params.KeptStep interval from_ until_ k) {id : ℕ}
    (hqueues : (params.queues tables).map (·.id) = [id])
    (hagrees : params.Agrees interval from_ until_ (params.queues tables)) (counter : Counter) :
    params.StepsAddUp interval from_ until_ order tables queue steps counter := by
  simp only [StatisticsParams.StepsAddUp, count_perm hqueues]
  refine sum_filter_parts steps _ _ _ _ ?_ ?_
  · rintro row - ⟨hid, hcounted⟩
    obtain ⟨k, hk⟩ := hagrees.covered row.time hcounted
    refine ⟨k, (hsteps k).2 hk.1, ⟨hid, hk.2⟩, fun j hj hrow => ?_⟩
    exact hagrees.once j k row.time ⟨(hsteps j).1 hj, hrow.2⟩ hk
  · rintro row - k hk ⟨hid, hrow⟩
    exact ⟨hid, hagrees.within k row.time ⟨(hsteps k).1 hk, hrow⟩⟩

/-- The only interval that has rows has those of the period. -/
lemma stepsAddUp_of_oneInterval
    (hsteps : ∀ k, k ∈ steps ↔ params.KeptStep interval from_ until_ k)
    (hqueues : 1 < (params.queues tables).length)
    (hagrees : params.Agrees interval from_ until_ (params.queues tables)) (counter : Counter) :
    params.StepsAddUp interval from_ until_ order tables queue steps counter := by
  by_cases hrow : ∃ k t, params.CountedIn interval from_ until_ k t
  · obtain ⟨k, t, hk⟩ := hrow
    rw [StatisticsParams.StepsAddUp, Finset.sum_eq_single_of_mem k ((hsteps k).2 hk.1)]
    · refine count_congr (selected_congr fun row _ => ⟨fun hin => ?_, fun hin => ?_⟩)
      · exact hagrees.within k row.time ⟨hk.1, hin⟩
      · obtain ⟨j, hj⟩ := hagrees.covered row.time hin
        obtain rfl := hagrees.oneQueue hqueues j k row.time t hj hk
        exact hj.2
    · intro j hj hne
      refine count_of_selected_nil (List.eq_nil_iff_forall_not_mem.2 fun row hmem => hne ?_)
      obtain ⟨-, -, hin⟩ := mem_selected.1 hmem
      exact hagrees.oneQueue hqueues j k row.time t ⟨(hsteps j).1 hj, hin⟩ hk
  · -- no row of the period passes the filters
    push Not at hrow
    rw [StatisticsParams.StepsAddUp, Finset.sum_eq_zero]
    · refine (count_of_selected_nil (List.eq_nil_iff_forall_not_mem.2 fun row hmem => ?_)).symm
      obtain ⟨-, -, hin⟩ := mem_selected.1 hmem
      obtain ⟨k, hk⟩ := hagrees.covered row.time hin
      exact hrow k row.time hk
    · intro k hk
      refine count_of_selected_nil (List.eq_nil_iff_forall_not_mem.2 fun row hmem => ?_)
      obtain ⟨-, -, hin⟩ := mem_selected.1 hmem
      exact hrow k row.time ⟨(hsteps k).1 hk, hin⟩

variable (tables) in
lemma stepsAddUp_of_agrees
    (hsteps : ∀ k, k ∈ steps ↔ params.KeptStep interval from_ until_ k)
    (hqueues : params.queues tables ≠ [])
    (hagrees : params.Agrees interval from_ until_ (params.queues tables)) (counter : Counter) :
    params.StepsAddUp interval from_ until_ order tables queue steps counter := by
  by_cases hone : 1 < (params.queues tables).length
  · exact stepsAddUp_of_oneInterval hsteps hone hagrees counter
  · have hlength : (params.queues tables).length = 1 := by
      have := List.length_pos_iff.2 hqueues
      omega
    obtain ⟨q, hq⟩ := List.length_eq_one_iff.1 hlength
    have hids : (params.queues tables).map (·.id) = [q.id] := by rw [hq]; rfl
    exact stepsAddUp_of_oneQueue hsteps hids hagrees counter

end Agree

/-! ### Tables that tell the intervals from the rows -/

section Disagree

variable {order : RowOrder} {tables : StatTables} {params : StatisticsParams}
  {queue q q' : StatQueue} {interval : Interval} {from_ until_ start stop : LocalTime}
  {steps : Finset ℕ} {t u : ℤ}

/-- A call to a queue. -/
def callAt (q : StatQueue) (t : ℤ) : StatQueuePeriodic :=
  { statQueueId := q.id, time := t, total := 1 }

/-- One call is counted where it is. -/
lemma count_callAt (hq : q ∈ params.queues tables) :
    params.count order (tables.withPeriodics [callAt q t]) queue start stop .received =
      if params.CountedBetween start stop t then 1 else 0 := by
  have hperm := selected_perm (tables.withPeriodics [callAt q t]) params start stop
  have hid : q.id ∈ (params.queues tables).map (·.id) := List.mem_map_of_mem hq
  split
  case isTrue h =>
    have hone : params.selected (tables.withPeriodics [callAt q t]) start stop =
        [callAt q t] := by
      refine List.perm_singleton.1 (hperm.trans (.of_eq ?_))
      exact List.filter_eq_self.2 (List.forall_mem_singleton.2 (decide_eq_true ⟨hid, h⟩))
    have hqueue : ∀ row ∈ params.selected (tables.withPeriodics [callAt q t]) start stop,
        row.statQueueId = q.id := by
      rw [hone]
      exact List.forall_mem_singleton.2 rfl
    rw [count_of_forall hqueue, hone]
    rfl
  case isFalse h =>
    refine count_of_selected_nil (List.eq_nil_iff_forall_not_mem.2 fun row hrow => h ?_)
    obtain ⟨hmem, -, hin⟩ := mem_selected.1 hrow
    obtain rfl := List.mem_singleton.1 hmem
    exact hin

/-- Of two calls to two queues, one is counted. -/
lemma count_callAt_pair (hq : q ∈ params.queues tables) (hq' : q' ∈ params.queues tables)
    (hne : q.id ≠ q'.id) :
    params.count order (tables.withPeriodics [callAt q t, callAt q' u]) queue start stop
        .received =
      if params.CountedBetween start stop t ∨ params.CountedBetween start stop u then 1
      else 0 := by
  have hperm := selected_perm (tables.withPeriodics [callAt q t, callAt q' u]) params start stop
  have hid : q.id ∈ (params.queues tables).map (·.id) := List.mem_map_of_mem hq
  have hid' : q'.id ∈ (params.queues tables).map (·.id) := List.mem_map_of_mem hq'
  split
  case isTrue h =>
    have hsome : params.selected (tables.withPeriodics [callAt q t, callAt q' u]) start stop ≠
        [] := by
      rcases h with h | h
      · exact List.ne_nil_of_mem (mem_selected.2 ⟨List.mem_cons_self, hid, h⟩)
      · exact List.ne_nil_of_mem
          (mem_selected.2 ⟨List.mem_cons_of_mem _ List.mem_cons_self, hid', h⟩)
    obtain ⟨id, hmem, hcount⟩ := exists_count_eq order queue hsome
    obtain ⟨row, hrow, rfl⟩ := List.mem_map.1 hmem
    obtain ⟨hcall, hrow⟩ := mem_selected.1 hrow
    -- the call of the other queue is in another group
    have hgroup : (params.selected (tables.withPeriodics [callAt q t, callAt q' u]) start
        stop).filter (·.statQueueId = row.statQueueId) = [row] := by
      refine List.perm_singleton.1 ((hperm.filter _).trans (.of_eq ?_))
      rw [List.filter_filter]
      show List.filter _ [callAt q t, callAt q' u] = [row]
      rcases List.mem_pair.1 hcall with rfl | rfl
      · rw [List.filter_cons_of_pos, List.filter_cons_of_neg, List.filter_nil]
        · simp [callAt, hne.symm]
        · simpa using hrow
      · rw [List.filter_cons_of_neg, List.filter_cons_of_pos, List.filter_nil]
        · simpa using hrow
        · simp [callAt, hne]
    rw [hcount, hgroup]
    rcases List.mem_pair.1 hcall with rfl | rfl <;> rfl
  case isFalse h =>
    refine count_of_selected_nil (List.eq_nil_iff_forall_not_mem.2 fun row hrow => h ?_)
    obtain ⟨hmem, -, hin⟩ := mem_selected.1 hrow
    rcases List.mem_pair.1 hmem with rfl | rfl
    · exact .inl hin
    · exact .inr hin

/-- Calls that are counted once are in one interval if they are in the period, and in none
otherwise. -/
lemma card_counted (hsteps : ∀ k, k ∈ steps ↔ params.KeptStep interval from_ until_ k)
    (p : LocalTime → LocalTime → Prop) [∀ start stop, Decidable (p start stop)]
    {rows : List StatQueuePeriodic}
    (hcount : ∀ start stop, params.count order (tables.withPeriodics rows) queue start stop
      .received = if p start stop then 1 else 0)
    (hadds : params.StepsAddUp interval from_ until_ order (tables.withPeriodics rows) queue
      steps .received) :
    ∃ counted : Finset ℕ,
      (∀ k, k ∈ counted ↔ params.KeptStep interval from_ until_ k ∧
        p (interval.start params.timezone from_ k)
          (interval.stop params.timezone from_ until_ k)) ∧
      counted.card = if p from_ until_ then 1 else 0 := by
  refine ⟨steps.filter fun k => p (interval.start params.timezone from_ k)
    (interval.stop params.timezone from_ until_ k), fun k => ?_, ?_⟩
  · rw [Finset.mem_filter, hsteps]
  · simp only [StatisticsParams.StepsAddUp, hcount, Finset.sum_boole] at hadds
    exact_mod_cast hadds

end Disagree

section Exact

variable {order : RowOrder} {tables : StatTables} {params : StatisticsParams}
  {queue : StatQueue} {interval : Interval} {from_ until_ : LocalTime} {steps : Finset ℕ}

lemma agrees_of_stepsAddUp (hsteps : ∀ k, k ∈ steps ↔ params.KeptStep interval from_ until_ k)
    (hqueues : params.queues tables ≠ [])
    (hadds : ∀ rows counter, params.StepsAddUp interval from_ until_ order
      (tables.withPeriodics rows) queue steps counter) :
    params.Agrees interval from_ until_ (params.queues tables) := by
  obtain ⟨q, hq⟩ := List.exists_mem_of_ne_nil _ hqueues
  have hone : ∀ t, ∃ counted : Finset ℕ,
      (∀ k, k ∈ counted ↔ params.CountedIn interval from_ until_ k t) ∧
        counted.card = if params.CountedBetween from_ until_ t then 1 else 0 :=
    fun t => card_counted hsteps _ (fun _ _ => count_callAt hq) (hadds _ _)
  have hwithin : ∀ k t, params.CountedIn interval from_ until_ k t →
      params.CountedBetween from_ until_ t := by
    intro k t hk
    obtain ⟨counted, hcounted, hcard⟩ := hone t
    by_contra ht
    have hempty := Finset.card_eq_zero.1 (hcard.trans (if_neg ht))
    exact Finset.notMem_empty k (hempty ▸ (hcounted k).2 hk)
  refine ⟨fun t ht => ?_, hwithin, fun j k t hj hk => ?_, fun hseveral j k t u hj hk => ?_⟩
  · obtain ⟨counted, hcounted, hcard⟩ := hone t
    obtain ⟨k, hk⟩ := Finset.card_pos.1 ((hcard.trans (if_pos ht)).symm ▸ Nat.one_pos)
    exact ⟨k, (hcounted k).1 hk⟩
  · obtain ⟨counted, hcounted, hcard⟩ := hone t
    exact Finset.card_le_one.1 (hcard.trans (if_pos (hwithin j t hj))).le
      j ((hcounted j).2 hj) k ((hcounted k).2 hk)
  · -- two calls to two queues, one of which is counted in the period
    obtain ⟨q, q', queues, hpair⟩ :
        ∃ q q' queues, params.queues tables = q :: q' :: queues := by
      match h : params.queues tables, hseveral with
      | q :: q' :: queues, _ => exact ⟨q, q', queues, rfl⟩
    have hne : q.id ≠ q'.id := by
      have hnodup := params.queues_nodup tables
      rw [hpair, List.map_cons, List.nodup_cons] at hnodup
      exact fun h => hnodup.1 (h ▸ List.mem_cons_self)
    obtain ⟨counted, hcounted, hcard⟩ := card_counted hsteps
      (fun start stop => params.CountedBetween start stop t ∨ params.CountedBetween start stop u)
      (fun _ _ => count_callAt_pair (hpair ▸ List.mem_cons_self)
        (hpair ▸ List.mem_cons_of_mem _ List.mem_cons_self) hne) (hadds _ _)
    exact Finset.card_le_one.1 (hcard.trans (if_pos (.inl (hwithin j t hj)))).le
      j ((hcounted j).2 ⟨hj.1, .inl hj.2⟩) k ((hcounted k).2 ⟨hk.1, .inr hk.2⟩)

end Exact

/-! ### Intervals of an hour -/

section Hours

variable {params : StatisticsParams} {from_ until_ : LocalTime} {k : ℕ} {t : ℤ}

lemma hours_mark (a : ℤ) (k : ℕ) : hours.mark a k = a + k * Calendar.hour := by
  induction k with
  | zero => simp [Stepper.mark]
  | succ k ih =>
    have hstep : hours.mark a (k + 1) = hours.mark a k + Calendar.hour :=
      Function.iterate_succ_apply' _ _ _
    rw [hstep, ih]
    push_cast
    ring

lemma inStep_hour_iff {z : TimeZone} : Interval.hour.InStep z from_ until_ k t ↔
    z.instant from_ + k * Calendar.hour ≤ t ∧ t < z.instant from_ + (k + 1) * Calendar.hour ∧
      (k ≠ 0 → t < z.instant until_) := by
  have hstart : z.instant (Interval.hour.start z from_ k) =
      z.instant from_ + k * Calendar.hour := by
    simp [Interval.start, hours_mark]
  have hstop : z.instant (Interval.hour.stop z from_ until_ k) =
      hours.stop (z.instant from_) (z.instant until_) k := by
    simp [Interval.stop]
  rw [Interval.InStep, hstart, hstop, Stepper.stop]
  refine and_congr_right fun _ => ?_
  by_cases hk : k = 0
  · subst hk
    simp [hours_mark]
  · have hcut : ∀ next : ℤ, t < hours.cut (z.instant until_) next ↔
        t < next ∧ t < z.instant until_ := by
      intro next
      unfold Stepper.cut
      show t < (if z.instant until_ < next then z.instant until_ else next) ↔ _
      split <;> omega
    rw [if_neg hk, hcut, hours_mark]
    simp [hk]

/-- A time is in one hour only. -/
lemma eq_of_inStep_hour {z : TimeZone} {j k : ℕ} (hj : Interval.hour.InStep z from_ until_ j t)
    (hk : Interval.hour.InStep z from_ until_ k t) : j = k := by
  rw [inStep_hour_iff] at hj hk
  have hpos := Calendar.hour_pos
  have hlt : (j : ℤ) < k + 1 := by
    refine lt_of_mul_lt_mul_right ?_ hpos.le
    linarith [hj.1, hk.2.1]
  have hgt : (k : ℤ) < j + 1 := by
    refine lt_of_mul_lt_mul_right ?_ hpos.le
    linarith [hk.1, hj.2.1]
  omega

/-- For one queue, the intervals of an hour agree with the rows if the filters let times
pass only in hours that are kept, and if the first hour, should it be kept, has none after
the end of the period. -/
theorem agrees_hour_iff {queues : List StatQueue} (hone : queues.length ≤ 1) :
    params.Agrees .hour from_ until_ queues ↔
      ∀ k t, Interval.hour.Starts params.timezone from_ until_ k →
        Interval.hour.InStep params.timezone from_ until_ k t → params.Passes t →
        (keeps params.filters .hour (Interval.hour.start params.timezone from_ k)
          (Interval.hour.stop params.timezone from_ until_ k) = true ↔
            t < params.timezone.instant until_) := by
  have hpos := Calendar.hour_pos
  constructor
  · intro hagrees k t hstarts hin hpass
    refine ⟨fun hkeeps => (hagrees.within k t ⟨⟨hstarts, hkeeps⟩, hin, hpass⟩).1.2, fun hlt => ?_⟩
    have hge : params.timezone.instant from_ ≤ t := by
      have hk : (0 : ℤ) ≤ k * Calendar.hour := mul_nonneg (Int.natCast_nonneg k) hpos.le
      linarith [(inStep_hour_iff.1 hin).1]
    obtain ⟨j, hj⟩ := hagrees.covered t ⟨⟨hge, hlt⟩, hpass⟩
    obtain rfl := eq_of_inStep_hour hj.2.1 hin
    exact hj.1.2
  · intro hsteps
    refine ⟨?_, ?_, ?_, ?_⟩
    · rintro t ⟨⟨hge, hlt⟩, hpass⟩
      -- the hour of the time
      obtain ⟨k, hk⟩ : ∃ k : ℕ, (k : ℤ) = (t - params.timezone.instant from_) / Calendar.hour :=
        ⟨_, Int.toNat_of_nonneg (Int.ediv_nonneg (by omega) hpos.le)⟩
      have hlow : k * Calendar.hour ≤ t - params.timezone.instant from_ := by
        rw [hk]
        exact Int.ediv_mul_le _ hpos.ne'
      have hhigh : t - params.timezone.instant from_ < (k + 1) * Calendar.hour := by
        rw [hk]
        exact Int.lt_ediv_add_one_mul_self _ hpos
      have hin : Interval.hour.InStep params.timezone from_ until_ k t :=
        inStep_hour_iff.2 ⟨by linarith, by linarith, fun _ => hlt⟩
      have hstarts : Interval.hour.Starts params.timezone from_ until_ k := by
        show hours.mark (params.timezone.instant from_) k < params.timezone.instant until_
        rw [hours_mark]
        linarith
      exact ⟨k, ⟨hstarts, (hsteps k t hstarts hin hpass).2 hlt⟩, hin, hpass⟩
    · rintro k t ⟨⟨hstarts, hkeeps⟩, hin, hpass⟩
      have hk : (0 : ℤ) ≤ k * Calendar.hour := mul_nonneg (Int.natCast_nonneg k) hpos.le
      exact ⟨⟨by linarith [(inStep_hour_iff.1 hin).1], (hsteps k t hstarts hin hpass).1 hkeeps⟩,
        hpass⟩
    · exact fun j k t hj hk => eq_of_inStep_hour hj.2.1 hk.2.1
    · exact fun hseveral => absurd hseveral (not_lt.2 hone)

end Hours

/-! ### The exact condition -/

/-- The counters of the intervals add up to those of the period, whatever calls are in
the tables, exactly if the choice of the intervals agrees with that of the rows. -/
theorem addsUp_get_iff {order : RowOrder} {tables : StatTables} {params : StatisticsParams}
    {now : ℤ} {interval : Interval} {from_ until_ : LocalTime}
    (hqueues : params.queues tables ≠ []) (hfrom : params.from_ = some from_)
    (huntil : params.until_ = some until_) (hinterval : params.interval = some interval)
    (hrange : interval = .hour → until_.wall ≤ from_.addMonth.wall) :
    (∀ rows, ∃ statistics, QueueStatisticsService.get order (tables.withPeriodics rows) params
        now = .ok statistics ∧ statistics.AddsUp) ↔
      params.Agrees interval from_ until_ (params.queues tables) := by
  obtain ⟨steps, queue, hsteps, hget⟩ :=
    exists_addsUp_get_iff order now hqueues hfrom huntil hinterval hrange
  simp only [hget]
  constructor
  · exact agrees_of_stepsAddUp hsteps hqueues
  · intro hagrees rows counter
    exact stepsAddUp_of_agrees (tables.withPeriodics rows) hsteps hqueues hagrees counter

/-- A day of a queue, hour by hour, from 8 to 17. -/
def officeHours : StatisticsParams where
  tenantUuids := none
  queueId := 1
  timezone := .utc
  from_ := some ⟨1601942400 * Calendar.second, false⟩
  until_ := some ⟨1602028800 * Calendar.second, false⟩
  interval := some .hour
  filters := { startTime := some 8, endTime := some 17 }

/-- Tables with one queue, which had a call at half past 17. -/
def lateCall : StatTables where
  statQueues := [{ id := 1, queueId := 1, name := "queue", tenantUuid := "t" }]
  statQueuePeriodics :=
    [{ statQueueId := 1, time := 1602005400 * Calendar.second, total := 1, answered := 1 }]
  statQueues_nodup := by decide

theorem addsUp_get_officeHours :
    (∀ rows, ∃ statistics, QueueStatisticsService.get .byTable (lateCall.withPeriodics rows)
        officeHours 0 = .ok statistics ∧ statistics.AddsUp) ↔
      officeHours.Agrees .hour ⟨1601942400 * Calendar.second, false⟩
        ⟨1602028800 * Calendar.second, false⟩ (officeHours.queues lateCall) :=
  addsUp_get_iff (List.cons_ne_nil _ _) rfl rfl rfl (fun _ => by decide +kernel)

theorem officeHours_not_addsUp : ¬∃ statistics, QueueStatisticsService.get .byTable lateCall
    officeHours 0 = .ok statistics ∧ statistics.AddsUp := by
  rintro ⟨statistics, hget, hadds⟩
  have hcounts : (QueueStatisticsService.get .byTable lateCall officeHours 0).map
      (fun statistics => ((statistics.items.dropLast.map Counter.received.value).sum,
        (statistics.items.getLast?.map Counter.received.value).getD 0)) = .ok (0, 1) := by
    decide +kernel
  have hreceived := hadds .received
  rw [hget, Except.map, Except.ok.injEq, Prod.mk.injEq] at hcounts
  rw [hcounts.1, hcounts.2] at hreceived
  exact absurd hreceived (by decide)

end CallLogd
