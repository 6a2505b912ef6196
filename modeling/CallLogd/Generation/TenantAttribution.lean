/-
The tenant of a call log: `_ensure_tenant_uuid_is_set`.

The first tenant wins.  It is one of the events, or else one of the users of the channels,
which are visited in the order of a set; else it is that of the requested context or of the
service.  The tenant of the service is only known after the first token, and until then it
is read as the text `None`.  So the attribution depends on the order of the set, or is that
text, exactly if nothing determines the tenant (`tenantWellDefined_iff`).
-/
import CallLogd.Generator
import CallLogd.Lib.Results

namespace CallLogd

open Results

/-- The set order that visits a member first, if it is there. -/
def SetOrder.startingAt (first : String) : SetOrder where
  visit l := if first ∈ l then first :: l.dedup.erase first else l.dedup
  nodup l := by
    split
    · exact List.nodup_cons.2 ⟨(List.nodup_dedup l).not_mem_erase, (List.nodup_dedup l).erase _⟩
    · exact List.nodup_dedup l
  mem_visit l text := by
    split
    · next h =>
      rw [List.mem_cons, (List.nodup_dedup l).mem_erase_iff, List.mem_dedup]
      by_cases htext : text = first
      · simp [htext, h]
      · simp [htext]
    · exact List.mem_dedup

/-- The tenants of the users of the channels. -/
def participantTenants (call : RawCallLog) : List String :=
  (call.rawParticipants.filterMap fun p => p.2.info.map (·.tenantUuid)).filter (· ≠ "")

namespace CallLogsGenerator

/-- `set_default_tenant_uuid`, with the tenant of the token. -/
def setDefaultTenantUuid (gen : CallLogsGenerator) (tokenTenantUuid : String) :
    CallLogsGenerator :=
  { gen with serviceTenantUuid := some tokenTenantUuid }

/-- The generator in a process that visits sets in this order. -/
def withSetOrder (gen : CallLogsGenerator) (order : SetOrder) : CallLogsGenerator :=
  { gen with externals := { gen.externals with setOrder := order } }

/-- The tenant does not depend on the order of sets, and is not the text of `None`. -/
def TenantWellDefined (gen : CallLogsGenerator) (call : RawCallLog) : Prop :=
  (∀ order order', ((gen.withSetOrder order).ensureTenantUuidIsSet call).map (·.tenantUuid) =
    ((gen.withSetOrder order').ensureTenantUuidIsSet call).map (·.tenantUuid)) ∧
  ∀ order call', (gen.withSetOrder order).ensureTenantUuidIsSet call = .ok call' →
    call'.tenantUuid ≠ some "None"

/-- Something determines the tenant of a call: an event, the users of its channels, who all
have the same tenant, the requested context, or the service.  If the contexts cannot be
requested, there is no call log. -/
inductive TenantKnown (gen : CallLogsGenerator) (call : RawCallLog) : Prop
  | event (tenantUuid : String) (htenant : call.tenantUuid = some tenantUuid)
      (hname : tenantUuid ≠ "None")
  | users (tenantUuid : String) (htenant : call.tenantUuid = none)
      (hmem : tenantUuid ∈ participantTenants call)
      (hall : ∀ other ∈ participantTenants call, other = tenantUuid) (hname : tenantUuid ≠ "None")
  | context (tenantUuid : String) (tenantUuids : List String) (htenant : call.tenantUuid = none)
      (hnone : participantTenants call = [])
      (hcontext : gen.requestedContextTenants call = .ok (tenantUuid :: tenantUuids))
      (hname : tenantUuid ≠ "None")
  | service (tenantUuid : String) (htenant : call.tenantUuid = none)
      (hnone : participantTenants call = []) (hcontext : gen.requestedContextTenants call = .ok [])
      (hservice : gen.serviceTenantUuid = some tenantUuid) (hname : tenantUuid ≠ "None")
  | failed (e : PyError) (htenant : call.tenantUuid = none) (hnone : participantTenants call = [])
      (hcontext : gen.requestedContextTenants call = .error e)

variable {gen : CallLogsGenerator} {call : RawCallLog} {order : SetOrder} {tenantUuid : String}

/-! ### The first tenant -/

/-- The first tenant wins. -/
lemma foldl_setTenantUuid (tenantUuids : List String) :
    tenantUuids.foldl RawCallLog.setTenantUuid call =
      { call with tenantUuid := call.tenantUuid.or tenantUuids.head? } := by
  induction tenantUuids generalizing call with
  | nil => simp
  | cons tenantUuid tenantUuids ih =>
      rw [List.foldl_cons, ih, RawCallLog.setTenantUuid]
      cases h : call.tenantUuid <;> simp [h]

/-- The tenant that the event or the users of the channels give. -/
def firstTenant (order : SetOrder) (call : RawCallLog) : Option String :=
  call.tenantUuid.or (order.visit (participantTenants call)).head?

/-- The tenant that the context or the service gives. -/
def fallbackTenant (gen : CallLogsGenerator) (contextTenants : List String) : String :=
  contextTenants.head?.getD (gen.serviceTenantUuid.getD "None")

lemma ensureTenantUuidIsSet_eq : (gen.withSetOrder order).ensureTenantUuidIsSet call =
    if truthy (firstTenant order call) then .ok { call with tenantUuid := firstTenant order call }
    else (gen.requestedContextTenants call).map fun contextTenants =>
      { call with
        tenantUuid := (firstTenant order call).or (gen.fallbackTenant contextTenants) } := by
  have hfirst : (order.visit (participantTenants call)).foldl RawCallLog.setTenantUuid call =
      { call with tenantUuid := firstTenant order call } := foldl_setTenantUuid _
  have hset : ∀ text, RawCallLog.setTenantUuid { call with tenantUuid := firstTenant order call }
      text = { call with tenantUuid := (firstTenant order call).or (some text) } := by
    intro text
    rw [RawCallLog.setTenantUuid]
    cases firstTenant order call <;> rfl
  unfold ensureTenantUuidIsSet
  simp only [participantTenants] at hfirst
  simp only [withSetOrder, hfirst]
  split
  · rfl
  · change (gen.requestedContextTenants call >>= _) = _
    cases gen.requestedContextTenants call with
    | error e => rfl
    | ok contextTenants =>
        cases contextTenants with
        | nil => exact congrArg Except.ok (hset _)
        | cons tenantUuid tenantUuids => exact congrArg Except.ok (hset _)

/-- The first tenant decides, unless it is empty. -/
lemma ensureTenantUuidIsSet_of_first (h : firstTenant order call = some tenantUuid)
    (hne : tenantUuid ≠ "") : (gen.withSetOrder order).ensureTenantUuidIsSet call =
      .ok { call with tenantUuid := some tenantUuid } := by
  rw [ensureTenantUuidIsSet_eq, h, if_pos (by simp [truthy, hne])]

variable (gen) in
/-- Without a first tenant, the context or the service decides. -/
lemma ensureTenantUuidIsSet_of_none (h : call.tenantUuid = none)
    (hnone : participantTenants call = []) (order : SetOrder) :
    (gen.withSetOrder order).ensureTenantUuidIsSet call =
      (gen.requestedContextTenants call).map fun contextTenants =>
        { call with tenantUuid := some (gen.fallbackTenant contextTenants) } := by
  have hvisit : order.visit [] = [] :=
    List.eq_nil_iff_forall_not_mem.2 fun text htext => by cases (order.mem_visit [] text).1 htext
  have hfirst : firstTenant order call = none := by
    rw [firstTenant, h, hnone, hvisit]
    rfl
  rw [ensureTenantUuidIsSet_eq, hfirst]
  rfl

lemma ne_empty_of_mem_participantTenants (h : tenantUuid ∈ participantTenants call) :
    tenantUuid ≠ "" :=
  of_decide_eq_true (List.mem_filter.1 h).2

/-- The users of the channels decide if they all have one tenant. -/
lemma firstTenant_of_users (h : call.tenantUuid = none)
    (hmem : tenantUuid ∈ participantTenants call)
    (hall : ∀ other ∈ participantTenants call, other = tenantUuid) (order : SetOrder) :
    firstTenant order call = some tenantUuid := by
  have hvisit : ∀ other ∈ order.visit (participantTenants call), other = tenantUuid :=
    fun other hother => hall other ((order.mem_visit _ _).1 hother)
  have hne : order.visit (participantTenants call) ≠ [] :=
    List.ne_nil_of_mem ((order.mem_visit _ _).2 hmem)
  obtain ⟨first, rest, hcons⟩ := List.exists_cons_of_ne_nil hne
  rw [firstTenant, h, hcons, Option.none_or, List.head?_cons, hvisit first (by simp [hcons])]

variable (gen) in
/-- Any of the tenants of the users can come first. -/
lemma ensureTenantUuidIsSet_startingAt (h : call.tenantUuid = none)
    (hmem : tenantUuid ∈ participantTenants call) :
    (gen.withSetOrder (.startingAt tenantUuid)).ensureTenantUuidIsSet call =
      .ok { call with tenantUuid := some tenantUuid } := by
  refine ensureTenantUuidIsSet_of_first ?_ (ne_empty_of_mem_participantTenants hmem)
  rw [firstTenant, h, Option.none_or]
  exact congrArg List.head? (if_pos hmem)

/-! ### Determined tenants -/

lemma tenantKnown_of_wellDefined (h : TenantWellDefined gen call) : TenantKnown gen call := by
  obtain ⟨horder, hname⟩ := h
  cases htenant : call.tenantUuid with
  | some tenantUuid =>
      refine .event tenantUuid htenant ?_
      rintro rfl
      have hfirst : firstTenant .byInsertion call = some "None" := by
        rw [firstTenant, htenant]
        rfl
      exact hname _ _ (ensureTenantUuidIsSet_of_first hfirst (by decide)) rfl
  | none =>
      cases htenants : participantTenants call with
      | cons tenantUuid tenantUuids =>
          have hmem : tenantUuid ∈ participantTenants call := by simp [htenants]
          have hresult := ensureTenantUuidIsSet_startingAt gen htenant hmem
          refine .users tenantUuid htenant hmem (fun other hother => ?_) ?_
          · have heq := horder (.startingAt other) (.startingAt tenantUuid)
            rw [hresult, ensureTenantUuidIsSet_startingAt gen htenant hother] at heq
            exact Option.some.inj (Except.ok.inj heq)
          · rintro rfl
            exact hname _ _ hresult rfl
      | nil =>
          have hresult := ensureTenantUuidIsSet_of_none gen htenant htenants .byInsertion
          cases hcontext : gen.requestedContextTenants call with
          | error e => exact .failed e htenant htenants hcontext
          | ok contextTenants =>
              rw [hcontext] at hresult
              have hne : gen.fallbackTenant contextTenants ≠ "None" := by
                intro heq
                exact hname _ _ hresult (congrArg some heq)
              cases contextTenants with
              | cons tenantUuid tenantUuids =>
                  exact .context tenantUuid tenantUuids htenant htenants hcontext hne
              | nil =>
                  cases hservice : gen.serviceTenantUuid with
                  | none => simp [fallbackTenant, hservice] at hne
                  | some tenantUuid =>
                      refine .service tenantUuid htenant htenants hcontext hservice ?_
                      simpa [fallbackTenant, hservice] using hne

lemma wellDefined_of_first {tenantUuid : String} (hname : tenantUuid ≠ "None")
    (hfirst : ∀ order, firstTenant order call = some tenantUuid) : TenantWellDefined gen call := by
  refine ⟨fun order order' => ?_, fun order call' hcall => ?_⟩
  · rw [ensureTenantUuidIsSet_eq, ensureTenantUuidIsSet_eq, hfirst, hfirst]
  · rw [ensureTenantUuidIsSet_eq, hfirst] at hcall
    split at hcall
    · rw [← Except.ok.inj hcall]
      exact fun heq => hname (Option.some.inj heq)
    · obtain ⟨_, -, rfl⟩ := exists_of_map_eq_ok hcall
      exact fun heq => hname (Option.some.inj heq)

lemma wellDefined_of_fallback (htenant : call.tenantUuid = none)
    (hnone : participantTenants call = []) (hname : ∀ contextTenants,
      gen.requestedContextTenants call = .ok contextTenants →
        gen.fallbackTenant contextTenants ≠ "None") : TenantWellDefined gen call := by
  refine ⟨fun order order' => ?_, fun order call' hcall => ?_⟩
  · rw [ensureTenantUuidIsSet_of_none gen htenant hnone,
      ensureTenantUuidIsSet_of_none gen htenant hnone]
  · rw [ensureTenantUuidIsSet_of_none gen htenant hnone] at hcall
    obtain ⟨contextTenants, hcontext, rfl⟩ := exists_of_map_eq_ok hcall
    exact fun heq => hname contextTenants hcontext (Option.some.inj heq)

/-- Once a token was received, the service determines the tenant of any call that nothing
else determines. -/
theorem wellDefined_setDefaultTenantUuid (hname : tenantUuid ≠ "None") (h : call.tenantUuid = none)
    (hnone : participantTenants call = []) (hcontext : gen.requestedContextTenants call = .ok []) :
    TenantWellDefined (gen.setDefaultTenantUuid tenantUuid) call := by
  refine wellDefined_of_fallback h hnone fun contextTenants hcontext' => ?_
  obtain rfl := Except.ok.inj (hcontext.symm.trans hcontext')
  exact hname

/-- The tenant does not depend on the order of sets and is not the text of `None`, exactly
if something determines it. -/
theorem tenantWellDefined_iff (gen : CallLogsGenerator) (call : RawCallLog) :
    TenantWellDefined gen call ↔ TenantKnown gen call := by
  refine ⟨tenantKnown_of_wellDefined, fun h => ?_⟩
  cases h with
  | event tenantUuid htenant hname =>
      refine wellDefined_of_first hname fun order => ?_
      rw [firstTenant, htenant]
      rfl
  | users tenantUuid htenant hmem hall hname =>
      exact wellDefined_of_first hname (firstTenant_of_users htenant hmem hall)
  | context tenantUuid tenantUuids htenant hnone hcontext hname =>
      refine wellDefined_of_fallback htenant hnone fun contextTenants h => ?_
      obtain rfl := Except.ok.inj (hcontext.symm.trans h)
      exact hname
  | service tenantUuid htenant hnone hcontext hservice hname =>
      refine wellDefined_of_fallback htenant hnone fun contextTenants h => ?_
      obtain rfl := Except.ok.inj (hcontext.symm.trans h)
      simpa [fallbackTenant, hservice] using hname
  | failed e htenant hnone hcontext =>
      refine wellDefined_of_fallback htenant hnone fun contextTenants h => ?_
      rw [hcontext] at h
      cases h

/-- A call between the users of two tenants. -/
def twoTenantsCall : RawCallLog :=
  { rawParticipants :=
      [("PJSIP/alice-00000001",
        { role := some .source, info := some ⟨"alice", "tenant-a", none, [], none⟩ }),
      ("PJSIP/bob-00000002",
        { role := some .destination, info := some ⟨"bob", "tenant-b", none, [], none⟩ })] }

/-- The call between two tenants goes to either of them, and a call of unknown tenant that is
generated before the first token goes to the tenant `None`. -/
theorem not_tenantWellDefined :
    ¬ TenantWellDefined .simple twoTenantsCall ∧
      ¬ TenantWellDefined { CallLogsGenerator.simple with serviceTenantUuid := none } {} := by
  refine ⟨fun h => ?_, fun h => h.2 .byInsertion { tenantUuid := some "None" } rfl rfl⟩
  have heq := h.1 (.startingAt "tenant-a") (.startingAt "tenant-b")
  exact absurd heq (by decide)

end CallLogsGenerator

end CallLogd
