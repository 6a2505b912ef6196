/-
What the database refuses of a generation.

The generator gives every call log a tenant, a date, and recordings with a start and an end,
and the keys of its details are known.  What can be refused is a value that does not fit its
column, such as a tenant that is not a uuid or a name that is too long, and a recording whose
key is in use: the path of its file names a uuid that another call log has.  One such call log
refuses all of the generation, after the earlier ones have been deleted; and the generation of
the same linkedid is refused again (`stored_or_refused`).
-/
import CallLogd.Concurrency.System
import CallLogd.Database.Retry
import CallLogd.Generation.Details
import CallLogd.Generation.TenantAttribution
import CallLogd.Generation.Uniqueness

namespace CallLogd

open Results Transactions Sequences CallLogsGenerator

/-- The columns that must not be null are set, the rows of the details satisfy their check,
and the recordings have different keys. -/
structure CallLog.Storable (log : CallLog) : Prop where
  tenant : log.tenantUuid ≠ none
  date : log.date ≠ none
  recordings : ∀ recording ∈ log.recordings,
    recording.startTime ≠ none ∧ recording.endTime ≠ none
  uuids : (pathUuids log).Nodup
  details : ∀ detail ∈ log.destinationDetails, detail.1 ∈ destinationDetailsKeys

/-- The keys of the recordings that the paths of their files name are not in use, and none
is there twice. -/
def Database.HasFreeUuids (db : Database) (logs : List CallLog) : Prop :=
  (logs.flatMap pathUuids).Nodup ∧
    ∀ stored ∈ db.callLogs, ∀ uuid ∈ logs.flatMap pathUuids, uuid ∉ pathUuids stored.log

instance (db : Database) (logs : List CallLog) : Decidable (db.HasFreeUuids logs) :=
  inferInstanceAs (Decidable (_ ∧ _))

variable {gen : CallLogsGenerator} {cels : List CEL} {log : CallLog} {logs : List CallLog}
  {call : RawCallLog} {db db' : Database} {group : Finset String × List CEL}

/-! ### Generated call logs -/

lemma keys_of_completeDetails {details : List (String × String)} (h : CompleteDetails details) :
    ∀ detail ∈ details, detail.1 ∈ destinationDetailsKeys := by
  have hschemas : ∀ schema ∈ destinationDetailsSchemas, ∀ p ∈ schema.2,
      p.1 ∈ destinationDetailsKeys := by decide
  intro detail hdetail
  cases h with
  | none h =>
      rw [h] at hdetail
      cases hdetail
  | typed type fields hschema htype hkeys =>
      rcases List.mem_cons.1 (hkeys.mem_iff.1 (List.mem_map_of_mem hdetail)) with hkey | hkey
      · rw [hkey]
        decide
      · obtain ⟨p, hp, heq⟩ := List.mem_map.1 hkey
        exact heq ▸ hschemas _ (Dict.mem_of_get? hschema) p hp

/-- A tenant is found, if only the text of none. -/
lemma tenant_interpretCall {linkedids : Finset String} :
    Yields (gen.interpretCall linkedids cels) fun call => call.tenantUuid ≠ none := by
  rw [interpretCall]
  refine .bind fun call₁ _ => .bind fun call₂ _ => .bind fun call₃ _ => .bind fun call₄ h₄ => ?_
  have hcall₄ : call₄.tenantUuid ≠ none := by
    change (gen.withSetOrder gen.externals.setOrder).ensureTenantUuidIsSet call₃ = _ at h₄
    rw [ensureTenantUuidIsSet_eq] at h₄
    split at h₄
    · next htruthy =>
        rw [← Except.ok.inj h₄]
        intro hnone
        rw [show firstTenant _ call₃ = none from hnone] at htruthy
        cases htruthy
    · obtain ⟨tenants, -, rfl⟩ := exists_of_map_eq_ok h₄
      exact fun hnone => Option.some_ne_none _ (Option.or_eq_none_iff.1 hnone).2
  refine (yields_fillExtensionsFromParticipants (g := RawCallLog.tenantUuid)
    (fun c p => ?_) fun c p => ?_).mono fun call₅ hcall₅ => hcall₅ ▸ hcall₄
  · rw [fillSourceExtension]
    split
    · rfl
    · split <;> rfl
  · rw [fillDestinationExtension]
    split
    · rfl
    · dsimp only
      split <;> split <;> rfl

/-- A recording that is kept has a start and an end. -/
lemma complete_of_mem_finishRecordings {recording : Recording}
    (h : recording ∈ finishRecordings call) :
    recording.startTime ≠ none ∧ recording.endTime ≠ none := by
  obtain ⟨first, hfirst, last, hlast, rfl⟩ := exists_span_of_mem_mergePauses h
  have hcomplete : ∀ r ∈ (removeRecordingsForUnansweredCalls
      (removeIncompleteRecordings call)).recordings, r.startTime ≠ none ∧ r.endTime ≠ none := by
    intro r hr
    rw [removeRecordingsForUnansweredCalls] at hr
    split at hr
    · exact of_decide_eq_true (List.mem_filter.1 hr).2
    · cases hr
  have hfirst := hcomplete first (List.mem_of_mem_filter (List.mem_of_mem_head? hfirst))
  have hlast := hcomplete last (List.mem_of_mem_filter (List.mem_of_getLast? hlast))
  exact ⟨hfirst.1, hlast.2⟩

lemma pathUuids_eq : pathUuids log = (recordingUuids log).filterMap fun
    | .ofPath text => some text
    | .uuid4 _ => none := by
  rw [pathUuids, recordingUuids, List.filterMap_filterMap]
  refine List.filterMap_congr fun recording _ => ?_
  rcases recording.uuid with _ | _ | _ <;> rfl

lemma storable_logOfGroup (hlog : gen.logOfGroup group = some log) : log.Storable := by
  obtain ⟨-, call, voicemail, hcall, hfinish⟩ := finishCall_of_logOfGroup hlog
  obtain ⟨hdate, rfl⟩ := finishCall_eq_ok hfinish
  refine ⟨?_, hdate, fun recording hrecording => ?_, ?_,
    keys_of_completeDetails (details_logOfGroup hlog)⟩
  · have hknown := tenant_interpretCall call hcall
    cases voicemail with
    | none => exact hknown
    | some voicemail => exact hknown
  · exact complete_of_mem_finishRecordings hrecording
  · rw [pathUuids_eq]
    refine (nodup_recordingUuids hlog).filterMap fun a b text ha hb => ?_
    cases a with
    | uuid4 => cases ha
    | ofPath => cases b with
      | uuid4 => cases hb
      | ofPath => simp_all

/-- The draws have no influence on what is stored otherwise. -/
lemma CallLog.Storable.shiftCallLog {n : ℕ} (h : log.Storable) :
    (shiftCallLog n log).Storable := by
  refine ⟨h.tenant, h.date, ?_, ?_, h.details⟩
  · intro shifted hshifted
    obtain ⟨recording, hrecording, rfl⟩ := List.mem_map.1 hshifted
    exact h.recordings recording hrecording
  · have huuids : pathUuids (CallLogsGenerator.shiftCallLog n log) = pathUuids log := by
      rw [pathUuids, CallLogsGenerator.shiftCallLog, List.filterMap_map]
      refine List.filterMap_congr fun recording _ => ?_
      rw [Function.comp_apply]
      rcases recording.uuid with _ | _ | _ <;> rfl
    exact huuids ▸ h.uuids

/-- Every new call log can be stored, as far as it depends on itself. -/
lemma storable_callLogsFromCel (hlog : log ∈ gen.callLogsFromCel cels) : log.Storable := by
  obtain ⟨group, n, log', hlog', rfl⟩ := exists_logOfGroup_of_mem hlog
  exact (storable_logOfGroup hlog').shiftCallLog

/-! ### What is accepted -/

/-- The first of some call logs is created, and then the others. -/
lemma hasFreeUuids_cons (h : (pathUuids log).Nodup) : db.HasFreeUuids (log :: logs) ↔
    (∀ stored ∈ db.callLogs, ∀ uuid ∈ pathUuids log, uuid ∉ pathUuids stored.log) ∧
      (db.insertCallLog log.columns).HasFreeUuids logs := by
  have hinsert : ∀ P : StoredCallLog → Prop,
      (∀ stored ∈ (db.insertCallLog log.columns).callLogs, P stored) ↔
        (∀ stored ∈ db.callLogs, P stored) ∧ P ⟨db.nextCallLogId, log.columns⟩ := by
    intro P
    rw [Database.insertCallLog, List.forall_mem_append, List.forall_mem_singleton]
  rw [Database.HasFreeUuids, Database.HasFreeUuids, hinsert, List.flatMap_cons,
    List.nodup_append]
  constructor
  · rintro ⟨⟨-, hlogs, hne⟩, hold⟩
    refine ⟨fun stored hstored uuid huuid =>
        hold stored hstored uuid (List.mem_append_left _ huuid), hlogs,
      fun stored hstored uuid huuid => hold stored hstored uuid (List.mem_append_right _ huuid),
      fun uuid huuid hlog => hne uuid hlog uuid huuid rfl⟩
  · rintro ⟨hfirst, hlogs, hold, hlog⟩
    refine ⟨⟨h, hlogs, fun uuid huuid other hother heq => hlog other hother (heq ▸ huuid)⟩,
      fun stored hstored uuid huuid => ?_⟩
    rcases List.mem_append.1 huuid with huuid | huuid
    · exact hfirst stored hstored uuid huuid
    · exact hold stored hstored uuid huuid

/-- Storable call logs of known tenants are created if they fit the columns and the keys of
their recordings are not in use. -/
lemma createAll_eq_ite (h : ∀ log ∈ logs, log.Storable)
    (htenants : ∀ log ∈ logs, ∀ tenantUuid ∈ log.tenantUuid, tenantUuid ∈ db.tenants) :
    CallLogDAO.createAll logs db =
      if (∀ log ∈ logs, log.Fits) ∧ db.HasFreeUuids logs then
        .ok (numbered db.nextCallLogId logs, db.insertCallLogs logs)
      else .error .refused := by
  induction logs generalizing db with
  | nil =>
      have hnone : (∀ log ∈ ([] : List CallLog), log.Fits) ∧ db.HasFreeUuids [] :=
        ⟨by simp, List.nodup_nil, by simp⟩
      rw [if_pos hnone]
      rfl
  | cons log logs ih =>
      have hlog := h log List.mem_cons_self
      have haccepts : db.accepts log ↔ log.Fits ∧
          ∀ stored ∈ db.callLogs, ∀ uuid ∈ pathUuids log, uuid ∉ pathUuids stored.log := by
        obtain ⟨tenantUuid, htenant⟩ := Option.ne_none_iff_exists'.1 hlog.tenant
        have hknown : log.tenantUuid.any (· ∈ db.tenants) = true := by
          rw [htenant, Option.any_some]
          exact decide_eq_true (htenants log List.mem_cons_self tenantUuid htenant)
        exact ⟨fun ⟨hfits, _, _, _, _, _, hfree⟩ => ⟨hfits, hfree⟩,
          fun ⟨hfits, hfree⟩ => ⟨hfits, hknown, hlog.date, hlog.recordings, hlog.details,
            hlog.uuids, hfree⟩⟩
      have hrest : CallLogDAO.createAll logs (db.insertCallLog log.columns) = _ :=
        ih (fun other hother => h other (List.mem_cons_of_mem _ hother))
          fun other hother => htenants other (List.mem_cons_of_mem _ hother)
      rw [CallLogDAO.createAll, CallLogDAO.create]
      simp only [haccepts, hasFreeUuids_cons hlog.uuids, List.forall_mem_cons]
      by_cases hfirst : log.Fits ∧ ∀ stored ∈ db.callLogs, ∀ uuid ∈ pathUuids log,
          uuid ∉ pathUuids stored.log
      · rw [if_pos hfirst, ok_bind, hrest]
        by_cases hothers : (∀ log ∈ logs, log.Fits) ∧
            (db.insertCallLog log.columns).HasFreeUuids logs
        · rw [if_pos hothers, if_pos ⟨⟨hfirst.1, hothers.1⟩, hfirst.2, hothers.2⟩, numbered_cons]
          rfl
        · rw [if_neg hothers, if_neg fun h => hothers ⟨h.1.2, h.2.2⟩]
          rfl
      · rw [if_neg hfirst, if_neg fun h => hfirst ⟨h.1.1, h.2.1⟩]
        rfl

/-! ### The generation -/

namespace Generation

variable (g : Generation) (db : Database)

/-- What a generation deletes and creates. -/
def creation : CallLogsCreation := g.gen.fromCel (g.fetch.cels db)

/-- The database without the call logs that a generation replaces. -/
def withoutEarlier : Database := db.withoutCallLogs (g.creation db).callLogsToDelete

/-- The database in which a generation creates its call logs: the tenants are there. -/
def base : Database :=
  (g.withoutEarlier db).insertTenants (CallLogsWriter.tenantUuids (g.creation db).newCallLogs)

/-- The new call logs fit the columns, and the keys of their recordings are not in use. -/
def Accepted : Prop :=
  (∀ log ∈ (g.creation db).newCallLogs, log.Fits) ∧
    (g.base db).HasFreeUuids (g.creation db).newCallLogs

instance : Decidable (g.Accepted db) := inferInstanceAs (Decidable (_ ∧ _))

/-- The database that a refused generation leaves: the tenants may be refused already. -/
def refusal : Database :=
  if ∀ tenantUuid ∈ CallLogsWriter.tenantUuids (g.creation db).newCallLogs,
      Column.uuid tenantUuid then g.base db
  else g.withoutEarlier db

variable {g db}

lemma createAll_base : CallLogDAO.createAll (g.creation db).newCallLogs (g.base db) =
    if g.Accepted db then
      .ok (numbered (g.base db).nextCallLogId (g.creation db).newCallLogs,
        (g.base db).insertCallLogs (g.creation db).newCallLogs)
    else .error .refused := by
  refine createAll_eq_ite (fun log hlog => storable_callLogsFromCel hlog) ?_
  intro log hlog tenantUuid htenant
  refine Finset.mem_union_right _ (List.mem_toFinset.2 ?_)
  exact List.mem_filterMap.2 ⟨log, hlog, htenant⟩

lemma run_generate_eq : run (CallLogsManager.generate g.gen noFault g.fetch) db =
    if g.Accepted db then
      (.ok (), ((g.base db).insertCallLogs (g.creation db).newCallLogs).associateAll
        (numbered (g.base db).nextCallLogId (g.creation db).newCallLogs))
    else (.error .refused, g.refusal db) := by
  have hcreate : CallLogDAO.createAll (g.creation db).newCallLogs (g.base db) = _ :=
    createAll_base
  rw [run_generate, run_write_noFault, run_storeNew, if_neg (by simp [noFault])]
  have hcreation : g.gen.fromCel (g.fetch.cels db) = g.creation db := rfl
  have hearlier : db.withoutCallLogs (g.creation db).callLogsToDelete = g.withoutEarlier db := rfl
  rw [hcreation, hearlier]
  by_cases huuids : ∀ tenantUuid ∈ CallLogsWriter.tenantUuids (g.creation db).newCallLogs,
      Column.uuid tenantUuid
  · have hbase : (g.withoutEarlier db).insertTenants
        (CallLogsWriter.tenantUuids (g.creation db).newCallLogs) = g.base db := rfl
    rw [if_neg (not_not.2 huuids)]
    dsimp only
    rw [if_neg (by simp [noFault]), hbase, hcreate]
    by_cases haccepted : g.Accepted db
    · rw [if_pos haccepted, if_pos haccepted]
      dsimp only
      rw [if_neg (by simp [noFault]), foldl_associate]
      rfl
    · rw [if_neg haccepted, if_neg haccepted, refusal, if_pos huuids]
  · rw [if_pos huuids, if_neg fun h => huuids (uuid_of_fits h.1), refusal, if_neg huuids]

end Generation

/-! ### The same linkedid again -/

section Again

variable {linkedId : String} {g : Generation}

/-- The same CELs are found, whatever call logs they have. -/
lemma findFromLinkedId_mapCallLogIds (f : CELRow → Option ℕ) :
    CELDAO.findFromLinkedId linkedId (db.mapCallLogIds f) =
      (CELDAO.findFromLinkedId linkedId db).map fun cel => { cel with callLogId := f cel } := by
  have hsort : ∀ cels : List CELRow,
      (sortedBy (·.eventtime) cels).map (fun cel => { cel with callLogId := f cel }) =
        sortedBy (·.eventtime) (cels.map fun cel => { cel with callLogId := f cel }) :=
    fun _ => map_sortedBy fun _ => rfl
  rw [CELDAO.findFromLinkedId, CELDAO.findFromLinkedId, CELDAO.correlatedCelsByUniqueid,
    CELDAO.correlatedCelsByUniqueid, hsort]
  simp only [CELDAO.correlatedLinkedids, Database.mapCallLogIds, List.filter_map, List.map_map]
  rfl

/-- The second time, the same call logs are created, and none is deleted. -/
lemma creation_of_cels (hfetch : g.fetch = .fromLinkedId linkedId)
    (hcels : db'.cels = (g.withoutEarlier db).cels) :
    g.creation db' = ⟨(g.creation db).newCallLogs, ∅⟩ := by
  have hcels : g.fetch.cels db' = (g.fetch.cels db).map fun cel =>
      { cel with callLogId := if cel.callLogId.any (· ∈ (g.creation db).callLogsToDelete)
          then none else cel.callLogId } := by
    have hsame : g.fetch.cels db' = g.fetch.cels (g.withoutEarlier db) := by
      rw [hfetch, CallLogsManager.Fetch.cels, CallLogsManager.Fetch.cels,
        CELDAO.findFromLinkedId, CELDAO.findFromLinkedId, hcels]
    rw [hsame, hfetch]
    exact findFromLinkedId_mapCallLogIds _
  have hlogs : (g.creation db').newCallLogs = (g.creation db).newCallLogs := by
    rw [Generation.creation, hcels, fromCel, List.map_map]
    rfl
  have hids : (g.creation db').callLogsToDelete = ∅ := by
    refine Finset.eq_empty_of_forall_notMem fun id hid => ?_
    rw [Generation.creation, hcels] at hid
    obtain ⟨⟨row', hrow', hcallLogId⟩, hne⟩ := mem_listCallLogIds.1 hid
    obtain ⟨row, hrow, rfl⟩ := List.mem_map.1 hrow'
    obtain ⟨hcallLogId, hkept⟩ := mem_unassociate_iff.1 (Option.mem_def.2 hcallLogId)
    exact hkept (mem_listCallLogIds.2 ⟨⟨row, hrow, hcallLogId⟩, hne⟩)
  rw [← hlogs, ← hids]

/-- The same call logs are refused again, and nothing is left to delete. -/
lemma refused_refusal (hfetch : g.fetch = .fromLinkedId linkedId) :
    (g.Accepted (g.refusal db) ↔ g.Accepted db) ∧
      g.refusal (g.refusal db) = g.refusal db := by
  have hcels : (g.refusal db).cels = (g.withoutEarlier db).cels := by
    rw [Generation.refusal]
    split <;> rfl
  have hcreation := creation_of_cels hfetch hcels
  have hearlier : g.withoutEarlier (g.refusal db) = g.refusal db := by
    rw [Generation.withoutEarlier, hcreation]
    exact withoutCallLogs_empty
  have hbase : g.base (g.refusal db) = g.base db := by
    rw [Generation.base, hearlier, hcreation, Generation.refusal]
    split
    · ext1 <;> simp [Generation.base, Database.insertTenants]
    · rfl
  refine ⟨?_, ?_⟩
  · rw [Generation.Accepted, hbase, hcreation, Generation.Accepted]
  · rw [Generation.refusal, hbase, hearlier, hcreation, Generation.refusal]
    split <;> rfl

end Again

/-- Two calls have arrived that a third linkedid bridges, under which a channel is recorded. -/
def bridgeArrival : Database := Database.insertCels recordedBridge .empty (by decide)

/-- The generation of the third linkedid, as the daemon runs it at its end. -/
def bridgeGeneration : Generation := ⟨.simple, .fromLinkedId "1.3"⟩

/-- Without a token, the tenant of a call that names none is the text of `None`. -/
example : ¬ Generation.Accepted
    ⟨{ CallLogsGenerator.simple with serviceTenantUuid := none }, .fromLinkedId "1.1"⟩
    arrivedCall := by
  decide +kernel

end CallLogd
