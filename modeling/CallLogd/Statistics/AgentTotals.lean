/-
When the totals of an agent are the sums over its queues.

The shares by queue are those of the answered calls, whatever rows the agent has. The
totals are those of the answered calls too, where there is a row to hang them on, but of
the calls of all the tenants.
-/
import CallLogd.Statistics.Agents

namespace CallLogd

open Clocks Steps AgentStatDAO StatisticsService

/-! ### Groups and joins -/

section

variable {κ ρ : Type} [DecidableEq κ] {order : RowOrder} {key : ρ → κ} {rows : List ρ}

lemma map_fst_groups : (order.groups key rows).map Prod.fst =
    order.order (rows.map key).dedup := by
  rw [RowOrder.groups, List.map_map]
  exact List.map_id _

lemma groups_nodup : ((order.groups key rows).map Prod.fst).Nodup := by
  rw [map_fst_groups]
  exact (order.perm _).nodup_iff.2 (List.nodup_dedup _)

lemma mem_map_fst_groups {k : κ} : k ∈ (order.groups key rows).map Prod.fst ↔ k ∈ rows.map key := by
  rw [map_fst_groups, (order.perm _).mem_iff, List.mem_dedup]

lemma groups_eq_nil_iff : order.groups key rows = [] ↔ rows = [] := by
  rw [← List.map_eq_nil_iff (f := Prod.fst), map_fst_groups]
  constructor
  · intro h
    have hperm := order.perm (rows.map key).dedup
    rw [h] at hperm
    exact List.map_eq_nil_iff.1 ((List.dedup_eq_nil _).1 (List.nil_perm.1 hperm))
  · rintro rfl
    exact List.perm_nil.1 (order.perm [])

lemma lookup_groups {β : Type} (f : List ρ → β) {k : κ} :
    ((order.groups key rows).map fun (k, rows) => (k, f rows)).lookup k =
      if k ∈ rows.map key then some (f (rows.filter (key · = k))) else none := by
  rw [RowOrder.groups, List.map_map]
  show ((order.order (rows.map key).dedup).map
    fun k => (k, f (rows.filter (key · = k)))).lookup k = _
  split
  case isTrue h =>
    exact List.lookup_graph _ ((order.perm _).mem_iff.2 (List.mem_dedup.2 h))
  case isFalse h =>
    rw [List.lookup_eq_none_iff]
    rintro ⟨k', b⟩ hmem
    obtain ⟨k'', hk'', heq⟩ := List.mem_map.1 hmem
    obtain ⟨rfl, -⟩ := Prod.mk.inj heq
    have hmem' := List.mem_dedup.1 ((order.perm _).mem_iff.1 hk'')
    simp only [bne_iff_ne]
    rintro rfl
    exact h hmem'

variable {tables : CallTables} {statQueueId : ρ → Option ℕ}

/-- A row that refers to a queue is joined with that one alone. -/
lemma map_snd_joinStatQueue
    (h : ∀ row ∈ rows, ∃ queue ∈ tables.statQueues, statQueueId row = some queue.id) :
    (joinStatQueue tables statQueueId rows).map Prod.snd = rows := by
  induction rows with
  | nil => rfl
  | cons row rows ih =>
    obtain ⟨queue, hqueue, hid⟩ := h row List.mem_cons_self
    have hone : tables.statQueues.filter (fun queue => statQueueId row = some queue.id) =
        [queue] := by
      refine List.perm_singleton.1 ((List.perm_ext_iff_of_nodup ?_ (List.nodup_singleton _)).2 ?_)
      · exact (List.Nodup.of_map _ tables.statQueues_nodup).filter _
      · intro queue'
        rw [List.mem_filter, decide_eq_true_eq, List.mem_singleton, hid]
        constructor
        · rintro ⟨hqueue', hid'⟩
          exact List.inj_on_of_nodup_map tables.statQueues_nodup hqueue' hqueue
            (Option.some.inj hid').symm
        · rintro rfl
          exact ⟨hqueue, rfl⟩
    have hrest := ih fun row' hrow' => h row' (List.mem_cons_of_mem _ hrow')
    rw [joinStatQueue] at hrest ⊢
    rw [List.flatMap_cons, List.map_append, hrest, hone]
    rfl

end

/-- The calls of some queues, by queue. -/
lemma sum_answeredCalls {calls : List (ℕ × StatCallOnQueue)} {queueIds : List ℕ}
    (hnodup : queueIds.Nodup) (hmem : ∀ call ∈ calls, call.1 ∈ queueIds) :
    (queueIds.map fun queueId =>
        (answeredCalls ((calls.filter (Prod.fst · = queueId)).map Prod.snd)).answered).sum =
      (answeredCalls (calls.map Prod.snd)).answered ∧
    (queueIds.map fun queueId =>
        (answeredCalls ((calls.filter (Prod.fst · = queueId)).map Prod.snd)).conversationTime).sum =
      (answeredCalls (calls.map Prod.snd)).conversationTime := by
  have hlength : ∀ rows : List (ℕ × StatCallOnQueue),
      (rows.map Prod.snd).length = (rows.map fun _ => 1).sum := by simp
  simp only [answeredCalls, List.map_map, hlength]
  exact ⟨sum_groups Prod.fst _ hnodup hmem, sum_groups Prod.fst _ hnodup hmem⟩

/-! ### The queues of an item -/

section Queues

variable (order : RowOrder) (tables : CallTables) (tenantUuids : Option (List String))
  (agentId : ℕ) (z : TimeZone) (filters : TimeFilters) (from_ until_ : Option LocalTime)

/-- The answered calls by queue. -/
def answeredJoined : List (ℕ × StatCallOnQueue) :=
  joinStatQueue tables (·.statQueueId)
    (answeredRows tables tenantUuids agentId z filters from_ until_)

/-- The calls of a queue. -/
def answeredOn (queueId : ℕ) : AnsweredCalls :=
  answeredCalls (((answeredJoined tables tenantUuids agentId z filters from_ until_).filter
    (Prod.fst · = queueId)).map Prod.snd)

variable {order tables tenantUuids agentId z filters from_ until_}

lemma queues_toAnsweredCalls {queue : AgentQueueStats} (hqueue : queue ∈
    getPerQueueIntervalsForAgent order tables tenantUuids agentId z filters from_ until_) :
    queue.toAnsweredCalls =
      answeredOn tables tenantUuids agentId z filters from_ until_ queue.queueId := by
  unfold getPerQueueIntervalsForAgent at hqueue
  rcases List.mem_append.1 hqueue with hqueue | hqueue
  · obtain ⟨⟨queueId, times⟩, -, rfl⟩ := List.mem_map.1 hqueue
    show ((getAnsweredAndTalkTimePerQueue order tables tenantUuids agentId z filters from_
      until_).lookup queueId).getD ⟨0, 0⟩ = answeredOn tables tenantUuids agentId z filters from_
        until_ queueId
    refine (congrArg (Option.getD · _) (lookup_groups fun rows =>
      answeredCalls (rows.map Prod.snd))).trans ?_
    split
    case isTrue => rfl
    case isFalse hnone =>
      -- a queue without answered calls
      have hempty : (answeredJoined tables tenantUuids agentId z filters from_ until_).filter
          (Prod.fst · = queueId) = [] := by
        rw [List.filter_eq_nil_iff]
        intro row hrow hid
        exact hnone (List.mem_map.2 ⟨row, hrow, of_decide_eq_true hid⟩)
      rw [answeredOn, hempty]
      rfl
  · obtain ⟨⟨queueId, calls⟩, hcalls, rfl⟩ := List.mem_map.1 hqueue
    obtain ⟨⟨queueId', rows⟩, hgroup, heq⟩ := List.mem_map.1 (List.mem_of_mem_filter hcalls)
    obtain ⟨rfl, rfl⟩ := Prod.mk.inj heq
    obtain ⟨k, -, hk⟩ := List.mem_map.1 hgroup
    obtain ⟨rfl, rfl⟩ := Prod.mk.inj hk
    rfl

/-- The queues of an item: those of its rows, and then those on which calls were answered. -/
lemma map_queueId_queues :
    (getPerQueueIntervalsForAgent order tables tenantUuids agentId z filters from_ until_).map
        (·.queueId) =
      (agentQueueStatQuery order tables tenantUuids agentId z filters from_ until_).map Prod.fst ++
        ((getAnsweredAndTalkTimePerQueue order tables tenantUuids agentId z filters from_
          until_).map Prod.fst).filter fun queueId => queueId ∉ (agentQueueStatQuery order tables
            tenantUuids agentId z filters from_ until_).map Prod.fst := by
  rw [getPerQueueIntervalsForAgent, List.map_append, List.map_map, List.map_map, List.filter_map]
  rfl

lemma agentQueueStatQuery_nodup :
    ((agentQueueStatQuery order tables tenantUuids agentId z filters from_ until_).map
      Prod.fst).Nodup := by
  rw [agentQueueStatQuery, List.map_map]
  exact groups_nodup

lemma map_fst_answeredPerQueue :
    (getAnsweredAndTalkTimePerQueue order tables tenantUuids agentId z filters from_ until_).map
        Prod.fst =
      (order.groups Prod.fst (answeredJoined tables tenantUuids agentId z filters from_
        until_)).map Prod.fst := by
  rw [getAnsweredAndTalkTimePerQueue, List.map_map]
  rfl

lemma queues_nodup :
    ((getPerQueueIntervalsForAgent order tables tenantUuids agentId z filters from_ until_).map
      (·.queueId)).Nodup := by
  rw [map_queueId_queues, map_fst_answeredPerQueue, List.nodup_append]
  refine ⟨agentQueueStatQuery_nodup, groups_nodup.filter _, ?_⟩
  intro queueId hrow queueId' hcall heq
  exact of_decide_eq_true (List.mem_filter.1 hcall).2 (heq ▸ hrow)

lemma mem_queues_of_answered {row : ℕ × StatCallOnQueue}
    (hrow : row ∈ answeredJoined tables tenantUuids agentId z filters from_ until_) :
    row.1 ∈ (getPerQueueIntervalsForAgent order tables tenantUuids agentId z filters from_
      until_).map (·.queueId) := by
  rw [map_queueId_queues, List.mem_append, List.mem_filter, map_fst_answeredPerQueue,
    mem_map_fst_groups, decide_eq_true_eq]
  by_cases hperiodic : row.1 ∈ (agentQueueStatQuery order tables tenantUuids agentId z filters
      from_ until_).map Prod.fst
  · exact Or.inl hperiodic
  · exact Or.inr ⟨List.mem_map_of_mem hrow, hperiodic⟩

variable (order from_ until_) in
/-- The shares of the queues add up to what was answered, if each call was on a queue. -/
lemma sum_queues (hqueue : ∀ call ∈ answeredRows tables tenantUuids agentId z filters from_ until_,
      ∃ queue ∈ tables.statQueues, call.statQueueId = some queue.id) :
    ((getPerQueueIntervalsForAgent order tables tenantUuids agentId z filters from_ until_).map
        (·.answered)).sum =
      (getAnsweredAndTalkTime tables tenantUuids agentId z filters from_ until_).answered ∧
    ((getPerQueueIntervalsForAgent order tables tenantUuids agentId z filters from_ until_).map
        (·.conversationTime)).sum =
      (getAnsweredAndTalkTime tables tenantUuids agentId z filters from_
        until_).conversationTime := by
  have hkeys : ∀ {α : Type} (g : AnsweredCalls → α),
      (getPerQueueIntervalsForAgent order tables tenantUuids agentId z filters from_ until_).map
          (fun queue => g queue.toAnsweredCalls) =
        ((getPerQueueIntervalsForAgent order tables tenantUuids agentId z filters from_ until_).map
          (·.queueId)).map fun queueId =>
            g (answeredOn tables tenantUuids agentId z filters from_ until_ queueId) := by
    intro α g
    rw [List.map_map]
    exact List.map_congr_left fun queue hqueue' => congrArg g (queues_toAnsweredCalls hqueue')
  have hrows : answeredRows tables tenantUuids agentId z filters from_ until_ =
      (answeredJoined tables tenantUuids agentId z filters from_ until_).map Prod.snd :=
    (map_snd_joinStatQueue hqueue).symm
  rw [hkeys AnsweredCalls.answered, hkeys AnsweredCalls.conversationTime, getAnsweredAndTalkTime,
    hrows]
  exact sum_answeredCalls queues_nodup fun row hrow => mem_queues_of_answered hrow

end Queues

/-! ### The calls of other tenants -/

/-- The values of the elements that satisfy a condition are all the values if, and only if,
the other elements have none. -/
lemma length_flatMap_filter_eq_iff {α β : Type} {l : List α} {p : α → Bool} {f : α → List β} :
    ((l.filter p).flatMap f).length = (l.flatMap f).length ↔ ∀ a ∈ l, f a ≠ [] → p a := by
  induction l with
  | nil => simp
  | cons a l ih =>
    have hle : ((l.filter p).flatMap f).length ≤ (l.flatMap f).length :=
      (List.filter_sublist.flatMap f).length_le
    rw [List.forall_mem_cons, ← ih, List.filter_cons]
    cases hp : p a with
    | true => simp
    | false =>
      have hnil : f a = [] ↔ (f a).length = 0 := List.length_eq_zero_iff.symm
      simp only [Bool.false_eq_true, if_false, List.flatMap_cons, List.length_append, imp_false,
        not_not, hnil, ne_eq]
      omega

section Tenants

variable (tables : CallTables) (tenantUuids : Option (List String)) (agentId : ℕ) (z : TimeZone)
  (filters : TimeFilters) (from_ until_ : Option LocalTime)

/-- The answered calls of an agent that the filters select. -/
def answeredBy (agent : StatAgent) : List StatCallOnQueue :=
  tables.statCallOnQueues.filter fun call => call.statAgentId = some agent.id &&
    call.status = .answered && addIntervalQuery z filters from_ until_ call.time

/-- The agents with a number. -/
def numberedAgents : List StatAgent := tables.statAgents.filter fun agent => agent.agentId = agentId

lemma answeredRows_eq : answeredRows tables tenantUuids agentId z filters from_ until_ =
    ((numberedAgents tables agentId).filter (addTenantFilter tenantUuids)).flatMap
      (answeredBy tables z filters from_ until_) := by
  rw [numberedAgents, List.filter_filter, answeredRows]
  exact congrArg (fun agents => agents.flatMap (answeredBy tables z filters from_ until_))
    (List.filter_congr fun _ _ => Bool.and_comm _ _)

lemma answeredRows_none : answeredRows tables none agentId z filters from_ until_ =
    (numberedAgents tables agentId).flatMap (answeredBy tables z filters from_ until_) := by
  have hall : (numberedAgents tables agentId).filter (addTenantFilter none) =
      numberedAgents tables agentId :=
    List.filter_eq_self.2 fun _ _ => rfl
  rw [answeredRows_eq, hall]

variable {tables tenantUuids agentId z filters from_ until_}

/-- As many calls were answered for the tenants as for all if, and only if, they are the
same calls. -/
lemma answered_eq_iff :
    (getAnsweredAndTalkTime tables none agentId z filters from_ until_).answered =
        (getAnsweredAndTalkTime tables tenantUuids agentId z filters from_ until_).answered ↔
      answeredRows tables tenantUuids agentId z filters from_ until_ =
        answeredRows tables none agentId z filters from_ until_ := by
  have hsublist : (answeredRows tables tenantUuids agentId z filters from_ until_).Sublist
      (answeredRows tables none agentId z filters from_ until_) := by
    rw [answeredRows_eq, answeredRows_none]
    exact List.filter_sublist.flatMap _
  constructor
  · exact fun hlength => hsublist.eq_of_length hlength.symm
  · intro heq
    rw [getAnsweredAndTalkTime, getAnsweredAndTalkTime, heq]

/-- The calls of the tenants are all the calls if the agents who answered are theirs. -/
lemma answeredRows_eq_none_iff :
    answeredRows tables tenantUuids agentId z filters from_ until_ =
        answeredRows tables none agentId z filters from_ until_ ↔
      ∀ agent ∈ tables.statAgents, agent.agentId = agentId →
        (∃ call ∈ tables.statCallOnQueues, call.statAgentId = some agent.id ∧
          call.status = .answered ∧ addIntervalQuery z filters from_ until_ call.time) →
        addTenantFilter tenantUuids agent := by
  rw [← answered_eq_iff, eq_comm, getAnsweredAndTalkTime, getAnsweredAndTalkTime, answeredRows_none,
    answeredRows_eq]
  refine length_flatMap_filter_eq_iff.trans ?_
  simp only [numberedAgents, List.mem_filter, decide_eq_true_eq, answeredBy, ne_eq,
    List.filter_eq_nil_iff, Bool.and_eq_true, not_forall, not_not, exists_prop, and_assoc, and_imp]

end Tenants

/-! ### Items -/

section Items

open AgentStatisticsService

variable {order : RowOrder} {tables : CallTables} {params : AgentStatisticsParams} {now : ℤ}
  {statistics : AgentStatistics} {agent : StatAgent} {from_ until_ : Option LocalTime}

/-- Each answered call of the agent belongs to a queue. -/
def AgentStatisticsParams.CallsHaveQueues (params : AgentStatisticsParams) (tables : CallTables) :
    Prop :=
  ∀ call ∈ tables.statCallOnQueues, call.status = .answered →
    (∃ agent ∈ tables.statAgents, agent.agentId = params.agentId ∧
      call.statAgentId = some agent.id) →
    ∃ queue ∈ tables.statQueues, call.statQueueId = some queue.id

instance (params : AgentStatisticsParams) (tables : CallTables) :
    Decidable (params.CallsHaveQueues tables) :=
  inferInstanceAs (Decidable (∀ _ ∈ _, _ → _ → _))

/-- Where the agent answered a call, there is a row of what the agent did on all queues. -/
def AgentStatisticsParams.Recorded (params : AgentStatisticsParams) (tables : CallTables)
    (from_ until_ : Option LocalTime) : Prop :=
  answeredRows tables params.tenantUuids params.agentId params.timezone params.filters
      from_ until_ ≠ [] →
    ∃ row ∈ periodicRows tables params.tenantUuids params.agentId params.timezone params.filters
      from_ until_, row.statQueueId = none

instance (params : AgentStatisticsParams) (tables : CallTables)
    (from_ until_ : Option LocalTime) : Decidable (params.Recorded tables from_ until_) :=
  inferInstanceAs (Decidable (_ → _))

/-- Where there is such a row, the agents with the number who answered a call are of the
tenants that are asked for. -/
def AgentStatisticsParams.Confined (params : AgentStatisticsParams) (tables : CallTables)
    (from_ until_ : Option LocalTime) : Prop :=
  (∃ row ∈ periodicRows tables params.tenantUuids params.agentId params.timezone params.filters
      from_ until_, row.statQueueId = none) →
    ∀ agent ∈ tables.statAgents, agent.agentId = params.agentId →
      (∃ call ∈ tables.statCallOnQueues, call.statAgentId = some agent.id ∧
        call.status = .answered ∧
        addIntervalQuery params.timezone params.filters from_ until_ call.time) →
      addTenantFilter params.tenantUuids agent

instance (params : AgentStatisticsParams) (tables : CallTables)
    (from_ until_ : Option LocalTime) : Decidable (params.Confined tables from_ until_) :=
  inferInstanceAs (Decidable (_ → ∀ _ ∈ _, _ → _ → _))

lemma queue_of_mem_answeredRows (hqueues : params.CallsHaveQueues tables) :
    ∀ call ∈ answeredRows tables params.tenantUuids params.agentId params.timezone params.filters
        from_ until_, ∃ queue ∈ tables.statQueues, call.statQueueId = some queue.id := by
  intro call hcall
  obtain ⟨agent, hagent, hrow⟩ := List.mem_flatMap.1 hcall
  obtain ⟨hagent, hid⟩ := List.mem_filter.1 hagent
  obtain ⟨hrow, hselected⟩ := List.mem_filter.1 hrow
  simp only [Bool.and_eq_true, decide_eq_true_eq] at hid hselected
  exact hqueues call hrow hselected.1.2 ⟨agent, hagent, hid.1, hselected.1.1⟩

/-- There are totals if there is a row that is about all the queues. -/
lemma getIntervalByAgent_ne_none_iff {tenantUuids : Option (List String)} {agentId : ℕ}
    {z : TimeZone} {filters : TimeFilters} :
    getIntervalByAgent order tables tenantUuids agentId z filters from_ until_ ≠ none ↔
      ∃ row ∈ periodicRows tables tenantUuids agentId z filters from_ until_,
        row.statQueueId = none := by
  rw [Ne, getIntervalByAgent, Option.map_eq_none_iff, agentStatQuery, Option.map_eq_none_iff,
    List.head?_eq_none_iff, groups_eq_nil_iff, List.filter_eq_nil_iff]
  simp only [Option.isNone_iff_eq_none, not_forall, not_not, exists_prop]

lemma toAnsweredCalls_getIntervalByAgent {tenantUuids : Option (List String)} {agentId : ℕ}
    {z : TimeZone} {filters : TimeFilters} {stats : AgentStats}
    (h : getIntervalByAgent order tables tenantUuids agentId z filters from_ until_ = some stats) :
    stats.toAnsweredCalls = getAnsweredAndTalkTime tables none agentId z filters from_ until_ := by
  obtain ⟨times, -, rfl⟩ := Option.map_eq_some_iff.1 h
  rfl

lemma item_agrees_iff (hqueues : params.CallsHaveQueues tables) :
    (item order tables params agent from_ until_).Agrees ↔
      params.Recorded tables from_ until_ ∧ params.Confined tables from_ until_ := by
  obtain ⟨hanswered, htime⟩ := sum_queues order from_ until_ (queue_of_mem_answeredRows hqueues)
  have hagrees : (item order tables params agent from_ until_).Agrees ↔
      (item order tables params agent from_ until_).answered =
        (getAnsweredAndTalkTime tables params.tenantUuids params.agentId params.timezone
          params.filters from_ until_).answered ∧
      (item order tables params agent from_ until_).conversationTime =
        (getAnsweredAndTalkTime tables params.tenantUuids params.agentId params.timezone
          params.filters from_ until_).conversationTime := by
    rw [← hanswered, ← htime]
    exact ⟨fun h => ⟨h.answered, h.conversationTime⟩, fun h => ⟨h.1, h.2, queues_nodup⟩⟩
  have htotals : getIntervalByAgent order tables params.tenantUuids params.agentId
      params.timezone params.filters from_ until_ ≠ none ↔ _ := getIntervalByAgent_ne_none_iff
  rw [hagrees, AgentStatisticsParams.Recorded, AgentStatisticsParams.Confined, ← htotals]
  cases hstats : getIntervalByAgent order tables params.tenantUuids params.agentId
      params.timezone params.filters from_ until_ with
  | none =>
    -- no totals, so there must be no call
    have hnone : (item order tables params agent from_ until_).stats = none := hstats
    rw [AgentItem.answered, AgentItem.conversationTime, hnone]
    simp only [ne_eq, not_true_eq_false, imp_false, not_not, false_imp_iff, and_true]
    constructor
    · exact fun h => List.eq_nil_of_length_eq_zero h.1.symm
    · intro hcalls
      rw [getAnsweredAndTalkTime, hcalls]
      exact ⟨rfl, rfl⟩
  | some stats =>
    -- the totals are those of all the tenants
    have hsome : (item order tables params agent from_ until_).stats = some stats := hstats
    rw [AgentItem.answered, AgentItem.conversationTime, hsome, Option.map_some, Option.map_some,
      toAnsweredCalls_getIntervalByAgent hstats]
    simp only [Option.getD_some, ne_eq, reduceCtorEq, not_false_eq_true, implies_true, true_and,
      forall_const]
    rw [← answeredRows_eq_none_iff]
    constructor
    · exact fun h => answered_eq_iff.1 h.1
    · intro heq
      rw [getAnsweredAndTalkTime, getAnsweredAndTalkTime, heq]
      exact ⟨rfl, rfl⟩

lemma exists_items_eq (h : AgentStatisticsService.get order tables params now = .ok statistics) :
    ∃ agent windows, bounds tables params now = .ok windows ∧
      statistics.items = windows.map fun (start, stop) =>
        item order tables params agent start stop := by
  unfold AgentStatisticsService.get at h
  split at h
  case h_2 => cases h
  case h_1 agent hagent =>
    cases hwindows : bounds tables params now with
    | error e =>
      simp only [hwindows] at h
      cases h
    | ok windows =>
      simp only [hwindows] at h
      obtain rfl := Except.ok.inj h
      exact ⟨agent, windows, rfl, rfl⟩

variable (order tables params now statistics) in
/-- The totals of an agent are the sums over its queues if and only if each item in which the
agent answered a call has a row that is not about one queue, and then no call of another
tenant. -/
theorem agentTotals_agree_iff (hqueues : params.CallsHaveQueues tables)
    (h : AgentStatisticsService.get order tables params now = .ok statistics) :
    (∀ item ∈ statistics.items, item.Agrees) ↔
      ∀ windows, bounds tables params now = .ok windows →
        ∀ window ∈ windows, params.Recorded tables window.1 window.2 ∧
          params.Confined tables window.1 window.2 := by
  obtain ⟨agent, windows, hwindows, hitems⟩ := exists_items_eq h
  rw [hitems, List.forall_mem_map]
  constructor
  · intro hagrees windows' hwindows' window hwindow
    obtain rfl := Except.ok.inj (hwindows.symm.trans hwindows')
    exact (item_agrees_iff hqueues).1 (hagrees window hwindow)
  · intro hrecorded window hwindow
    exact (item_agrees_iff hqueues).2 (hrecorded windows hwindows window hwindow)

/-- An agent who answered a call of a minute, with or without a row for the hour. -/
def answeredOnce (rows : List StatAgentPeriodic) : CallTables where
  statQueues := [⟨1, 10, "support", "54eb71f8", false⟩]
  statQueuePeriodics := []
  statQueues_nodup := by decide
  statAgents := [⟨2, 20, "1001", "54eb71f8", false⟩]
  statAgentPeriodics := rows
  statCallOnQueues :=
    [{ time := 5, talktime := some 60, status := .answered, statQueueId := some 1,
       statAgentId := some 2 }]
  statAgents_nodup := by decide

def agentParams : AgentStatisticsParams where
  tenantUuids := none
  agentId := 20
  timezone := .utc

theorem agentTotals_agree_withRow : ∃ statistics,
    AgentStatisticsService.get .byTable (answeredOnce [{ time := 0, statAgentId := 2 }])
        agentParams 0 = .ok statistics ∧
      ∀ item ∈ statistics.items, item.Agrees := by
  refine ⟨_, rfl, (agentTotals_agree_iff .byTable
    (answeredOnce [{ time := 0, statAgentId := 2 }]) agentParams 0 _ (by decide) rfl).2 ?_⟩
  intro windows hwindows
  obtain rfl := Except.ok.inj hwindows
  decide

/-- Without a row, the call of the queue is not in the total. -/
theorem agentTotals_disagree_withoutRow :
    agentParams.CallsHaveQueues (answeredOnce []) ∧ ∃ statistics,
      AgentStatisticsService.get .byTable (answeredOnce []) agentParams 0 = .ok statistics ∧
        ¬∀ item ∈ statistics.items, item.Agrees := by
  refine ⟨by decide, _, rfl, fun hagrees => ?_⟩
  have hanswered := (hagrees _ List.mem_cons_self).answered
  revert hanswered
  decide

end Items

end CallLogd
