/-
What a purge of call logs or recordings does, completed or not.

The purgers are purges of independent groups of rows, one for each tenant, so that the
files are always removed before the rows forget them.
-/
import CallLogd.Media.Purge

namespace CallLogd

open Sequences Transactions

/-! ### The purgers as purges -/

/-- A purger with the dates of the tenants. -/
def Purger.toPurge (p : Purger) (dates : String → DateTime) : Purge String Tables String where
  paths tenantUuid := p.paths tenantUuid (dates tenantUuid)
  forget tenantUuid := p.forget tenantUuid (dates tenantUuid)

/-- The result of a purge of the tables and the files. -/
def mediaResult (r : Except Files.OSError Unit × Tables × Finset String) :
    Except MediaError Unit × World :=
  (r.1.mapError .os, ⟨r.2.1, r.2.2⟩)

lemma mapError_os_eq_ok_iff {r : Except Files.OSError Unit} :
    r.mapError MediaError.os = .ok () ↔ r = .ok () := by
  cases r with
  | ok => exact ⟨fun _ => rfl, fun _ => rfl⟩
  | error e => exact ⟨nofun, nofun⟩

namespace Purger

variable {p : Purger} {refused : Finset String} {w : World}

lemma run_purgeTenant {maxDate : DateTime} {tenantUuid : String} :
    run (p.purgeTenant refused maxDate tenantUuid) w =
      match Files.removeAll refused (p.paths tenantUuid maxDate w.tables) w.files with
      | (.ok (), files) => (.ok (), ⟨p.forget tenantUuid maxDate w.tables, files⟩)
      | (.error e, files) => (.error (.os e), ⟨w.tables, files⟩) := by
  rw [purgeTenant, run_bind_of_ok run_get, run_bind, run_removeFiles]
  cases Files.removeAll refused (p.paths tenantUuid maxDate w.tables) w.files with
  | mk r files => cases r <;> rfl

/-- The loop over the tenants is a purge. -/
lemma run_forM_purgeTenant {dates : TenantKey → DateTime} {kind : String → TenantKey}
    (hkind : ∀ tenantUuid, (kind tenantUuid).tenantUuid = tenantUuid)
    (tenantUuids : List String) :
    run ((tenantUuids.map kind).forM fun tenant =>
        p.purgeTenant refused (dates tenant) tenant.tenantUuid) w =
      mediaResult ((p.toPurge (dates ∘ kind)).run refused tenantUuids w.tables w.files) := by
  induction tenantUuids generalizing w with
  | nil => rfl
  | cons tenantUuid tenantUuids ih =>
      rw [List.map_cons, run_forM_cons, run_purgeTenant, hkind, Purge.run]
      have hpaths : (p.toPurge (dates ∘ kind)).paths tenantUuid w.tables =
          p.paths tenantUuid (dates (kind tenantUuid)) w.tables := rfl
      rw [hpaths]
      cases Files.removeAll refused (p.paths tenantUuid (dates (kind tenantUuid)) w.tables)
          w.files with
      | mk r files =>
          cases r with
          | ok => exact ih
          | error e => rfl

end Purger

/-! ### The groups are independent -/

section Absorbs

variable {t t' : String} {d d' : DateTime} {stored : StoredCallLog} {tables : Tables}
  {path : String}

/-- A call log is of one tenant. -/
lemma not_olderThan_of_ne (hne : t ≠ t') (h : stored.olderThan t d) :
    stored.olderThan t' d' = false := by
  rw [StoredCallLog.olderThan, Bool.and_eq_true, decide_eq_true_eq] at h
  rw [StoredCallLog.olderThan, h.2]
  simp [hne]

lemma olderThan_mono (hd : d ≤ d') (h : stored.olderThan t d) : stored.olderThan t d' := by
  rw [StoredCallLog.olderThan, Bool.and_eq_true, Option.any_eq_true] at h ⊢
  obtain ⟨⟨date, hdate, hlt⟩, htenant⟩ := h
  have hlt : date < d := of_decide_eq_true hlt
  exact ⟨⟨date, hdate, decide_eq_true (hlt.trans_le hd)⟩, htenant⟩

lemma Export.not_olderThan_of_ne {e : Export} (hne : t ≠ t') (h : e.olderThan t d) :
    e.olderThan t' d' = false := by
  rw [Export.olderThan, Bool.and_eq_true, decide_eq_true_eq, decide_eq_true_eq] at h
  rw [Export.olderThan, h.2]
  simp [hne]

lemma Export.olderThan_mono {e : Export} (hd : d ≤ d') (h : e.olderThan t d) :
    e.olderThan t d' := by
  rw [Export.olderThan, Bool.and_eq_true, decide_eq_true_eq] at h ⊢
  exact ⟨h.1.trans_le hd, h.2⟩

/-- The join drops no file: a call log without recordings has none. -/
lemma mem_oldRecordingPaths : path ∈ oldRecordingPaths t d tables ↔
    ∃ stored ∈ tables.db.callLogs, stored.olderThan t d ∧ path ∈ stored.log.recordingPaths := by
  rw [oldRecordingPaths, List.mem_flatMap]
  refine exists_congr fun stored => ?_
  rw [List.mem_filter, Bool.and_eq_true, decide_eq_true_eq]
  constructor
  · rintro ⟨⟨hmem, hold, -⟩, hpath⟩
    exact ⟨hmem, hold, hpath⟩
  · rintro ⟨hmem, hold, hpath⟩
    refine ⟨⟨hmem, hold, fun hnil => ?_⟩, hpath⟩
    rw [CallLog.recordingPaths, hnil] at hpath
    cases hpath

lemma filterCallLogs_filterCallLogs (db : Database) (p q : StoredCallLog → Bool) :
    (db.filterCallLogs p).filterCallLogs q =
      db.filterCallLogs fun stored => p stored && q stored := by
  ext : 1
  · rfl
  · exact List.filter_filter.trans (List.filter_congr fun _ _ => Bool.and_comm _ _)
  · rfl
  · rfl

lemma mapRecordings_mapRecordings (db : Database) (f g : StoredCallLog → List Recording) :
    (db.mapRecordings f).mapRecordings g = db.mapRecordings fun stored =>
      g (stored.withRecordings (f stored)) := by
  ext : 1
  · rfl
  · exact List.map_map
  · rfl
  · rfl

/-- A deleted recording has no file. -/
lemma recordingPaths_map_delete (recordings : List Recording) :
    (stored.withRecordings (recordings.map Recording.delete)).log.recordingPaths = [] := by
  rw [CallLog.recordingPaths, List.filterMap_eq_nil_iff]
  intro recording hmem
  obtain ⟨recording, -, rfl⟩ := List.mem_map.1 (mem_sortedBy.1 hmem)
  exact recording.filePath_delete

/-- Deleting the recordings of some call logs, as a change of all of them. -/
def deleteRecordingsIf (treated : StoredCallLog → Bool) (stored : StoredCallLog) :
    List Recording :=
  if treated stored then stored.log.recordings.map Recording.delete else stored.log.recordings

lemma forget_recordingsPurger : recordingsPurger.forget t d tables =
    { tables with db := tables.db.mapRecordings (deleteRecordingsIf (·.olderThan t d)) } := rfl

/-- Deleting twice is deleting once. -/
lemma deleteRecordingsIf_withRecordings {treated treated' : StoredCallLog → Bool}
    (htreated' : ∀ recordings, treated' (stored.withRecordings recordings) = treated' stored) :
    deleteRecordingsIf treated' (stored.withRecordings (deleteRecordingsIf treated stored)) =
      deleteRecordingsIf (fun stored => treated stored || treated' stored) stored := by
  rw [deleteRecordingsIf, htreated', StoredCallLog.recordings_withRecordings]
  cases h : treated stored <;> cases h' : treated' stored <;>
    simp [deleteRecordingsIf, h, h', Recording.delete]

/-- The files of the old call logs that a deletion of other recordings leaves. -/
lemma mem_oldRecordingPaths_mapRecordings {treated : StoredCallLog → Bool} :
    path ∈ oldRecordingPaths t d
        { tables with db := tables.db.mapRecordings (deleteRecordingsIf treated) } ↔
      ∃ stored ∈ tables.db.callLogs, stored.olderThan t d ∧ treated stored = false ∧
        path ∈ stored.log.recordingPaths := by
  rw [mem_oldRecordingPaths]
  constructor
  · rintro ⟨_, hchanged, hold, hpath⟩
    obtain ⟨stored, hmem, rfl⟩ := List.mem_map.1 hchanged
    cases h : treated stored with
    | false =>
        rw [deleteRecordingsIf, h] at hpath
        exact ⟨stored, hmem, hold, h, hpath⟩
    | true =>
        rw [deleteRecordingsIf, if_pos h, recordingPaths_map_delete] at hpath
        cases hpath
  · rintro ⟨stored, hmem, hold, htreated, hpath⟩
    refine ⟨stored, List.mem_map.2 ⟨stored, hmem, ?_⟩, hold, hpath⟩
    rw [deleteRecordingsIf, htreated]
    rfl

/-- The files of the old call logs that a deletion of other call logs leaves. -/
lemma mem_oldRecordingPaths_filterCallLogs {treated : StoredCallLog → Bool} :
    path ∈ oldRecordingPaths t d
        { tables with db := tables.db.filterCallLogs fun stored => !treated stored } ↔
      ∃ stored ∈ tables.db.callLogs, stored.olderThan t d ∧ treated stored = false ∧
        path ∈ stored.log.recordingPaths := by
  rw [mem_oldRecordingPaths]
  refine exists_congr fun stored => ?_
  have hmem : stored ∈ (tables.db.filterCallLogs fun stored => !treated stored).callLogs ↔
      stored ∈ tables.db.callLogs ∧ treated stored = false := by
    rw [Database.filterCallLogs, List.mem_filter, Bool.not_eq_true']
  rw [hmem]
  tauto

/-- The files of the old exports that a deletion of other exports leaves. -/
lemma mem_filePaths_filter {treated old : Export → Bool} {exports : List Export} :
    path ∈ ((exports.filter fun e => !treated e).filter old).filterMap Export.filePath ↔
      ∃ e ∈ exports, old e ∧ treated e = false ∧ e.filePath = some path := by
  rw [List.mem_filterMap]
  refine exists_congr fun e => ?_
  rw [List.mem_filter, List.mem_filter, Bool.not_eq_true']
  tauto

/-- A purger of recordings: it finds the files of the old call logs, and leaves those of
the call logs that it does not treat. -/
structure Purger.ForgetsOld (p : Purger) : Prop where
  mem_paths : ∀ {t d tables path}, path ∈ p.paths t d tables ↔
    ∃ stored ∈ tables.db.callLogs, stored.olderThan t d ∧ path ∈ stored.log.recordingPaths
  mem_paths_forget : ∀ {t d t' d' tables path}, path ∈ p.paths t d (p.forget t' d' tables) ↔
    ∃ stored ∈ tables.db.callLogs, stored.olderThan t d ∧ stored.olderThan t' d' = false ∧
      path ∈ stored.log.recordingPaths

lemma forgetsOld_callLogsPurger : callLogsPurger.ForgetsOld :=
  ⟨mem_oldRecordingPaths, mem_oldRecordingPaths_filterCallLogs⟩

lemma forgetsOld_recordingsPurger : recordingsPurger.ForgetsOld :=
  ⟨mem_oldRecordingPaths, mem_oldRecordingPaths_mapRecordings⟩

variable {dates dates' : String → DateTime} (hdates : ∀ t, dates t ≤ dates' t)

include hdates

/-- Purgers of recordings absorb the purges with earlier dates. -/
lemma Purger.ForgetsOld.absorbs {p : Purger} (h : p.ForgetsOld)
    (hforget : ∀ t tables, p.forget t (dates' t) (p.forget t (dates t) tables) =
      p.forget t (dates' t) tables)
    (hcomm : ∀ t t' tables, p.forget t (dates t) (p.forget t' (dates' t') tables) =
      p.forget t' (dates' t') (p.forget t (dates t) tables)) :
    (p.toPurge dates').Absorbs (p.toPurge dates) where
  paths_subset t tables path hpath := by
    obtain ⟨stored, hmem, hold, hpath⟩ := h.mem_paths.1 hpath
    exact h.mem_paths.2 ⟨stored, hmem, olderThan_mono (hdates t) hold, hpath⟩
  paths_forget_subset t tables path hpath := by
    obtain ⟨stored, hmem, hold, -, hpath⟩ := h.mem_paths_forget.1 hpath
    exact h.mem_paths.2 ⟨stored, hmem, hold, hpath⟩
  mem_paths_forget_of_ne t t' tables path hne := by
    refine h.mem_paths_forget.trans (Iff.trans ?_ h.mem_paths.symm)
    constructor
    · rintro ⟨stored, hmem, hold, -, hpath⟩
      exact ⟨stored, hmem, hold, hpath⟩
    · rintro ⟨stored, hmem, hold, hpath⟩
      exact ⟨stored, hmem, hold, not_olderThan_of_ne hne hold, hpath⟩
  mem_paths t tables path hpath := by
    obtain ⟨stored, hmem, hold', hpath⟩ := h.mem_paths.1 hpath
    cases hold : stored.olderThan t (dates t) with
    | true => exact .inl (h.mem_paths.2 ⟨stored, hmem, hold, hpath⟩)
    | false => exact .inr (h.mem_paths_forget.2 ⟨stored, hmem, hold', hold, hpath⟩)
  forget_forget := hforget
  forget_comm := hcomm

lemma absorbs_callLogsPurger :
    (callLogsPurger.toPurge dates').Absorbs (callLogsPurger.toPurge dates) := by
  refine forgetsOld_callLogsPurger.absorbs hdates (fun t tables => ?_) fun t t' tables => ?_
  · show ({ tables with db := (tables.db.filterCallLogs _).filterCallLogs _ } : Tables) = _
    rw [filterCallLogs_filterCallLogs]
    refine congrArg (fun p => ({ tables with db := tables.db.filterCallLogs p } : Tables))
      (funext fun stored => ?_)
    cases hold : stored.olderThan t (dates t) with
    | false => rfl
    | true => rw [olderThan_mono (hdates t) hold]; rfl
  · show ({ tables with db := (tables.db.filterCallLogs _).filterCallLogs _ } : Tables) =
      { tables with db := (tables.db.filterCallLogs _).filterCallLogs _ }
    simp only [filterCallLogs_filterCallLogs, Bool.and_comm]

lemma absorbs_recordingsPurger :
    (recordingsPurger.toPurge dates').Absorbs (recordingsPurger.toPurge dates) := by
  refine forgetsOld_recordingsPurger.absorbs hdates (fun t tables => ?_) fun t t' tables => ?_
  · simp only [forget_recordingsPurger]
    rw [mapRecordings_mapRecordings]
    refine congrArg (fun f => ({ tables with db := tables.db.mapRecordings f } : Tables))
      (funext fun stored => ?_)
    rw [deleteRecordingsIf_withRecordings fun _ => rfl, deleteRecordingsIf, deleteRecordingsIf]
    cases hold : stored.olderThan t (dates t) with
    | false => rfl
    | true => rw [olderThan_mono (hdates t) hold]; rfl
  · simp only [forget_recordingsPurger]
    rw [mapRecordings_mapRecordings, mapRecordings_mapRecordings]
    refine congrArg (fun f => ({ tables with db := tables.db.mapRecordings f } : Tables))
      (funext fun stored => ?_)
    rw [deleteRecordingsIf_withRecordings fun _ => rfl,
      deleteRecordingsIf_withRecordings fun _ => rfl]
    simp only [deleteRecordingsIf, Bool.or_comm]

lemma absorbs_exportsPurger :
    (exportsPurger.toPurge dates').Absorbs (exportsPurger.toPurge dates) where
  paths_subset t tables path hpath := by
    obtain ⟨e, hmem, hpath⟩ := List.mem_filterMap.1 hpath
    obtain ⟨hmem, hold⟩ := List.mem_filter.1 hmem
    exact List.mem_filterMap.2
      ⟨e, List.mem_filter.2 ⟨hmem, Export.olderThan_mono (hdates t) hold⟩, hpath⟩
  paths_forget_subset t tables path hpath := by
    obtain ⟨e, hmem, hold, -, hpath⟩ := mem_filePaths_filter.1 hpath
    exact List.mem_filterMap.2 ⟨e, List.mem_filter.2 ⟨hmem, hold⟩, hpath⟩
  mem_paths_forget_of_ne t t' tables path hne := by
    refine mem_filePaths_filter.trans (Iff.trans ?_ List.mem_filterMap.symm)
    refine exists_congr fun e => ?_
    rw [List.mem_filter]
    constructor
    · rintro ⟨hmem, hold, -, hpath⟩
      exact ⟨⟨hmem, hold⟩, hpath⟩
    · rintro ⟨⟨hmem, hold⟩, hpath⟩
      exact ⟨hmem, hold, Export.not_olderThan_of_ne hne hold, hpath⟩
  mem_paths t tables path hpath := by
    obtain ⟨e, hmem, hpath⟩ := List.mem_filterMap.1 hpath
    obtain ⟨hmem, hold'⟩ := List.mem_filter.1 hmem
    cases hold : e.olderThan t (dates t) with
    | true => exact .inl (List.mem_filterMap.2 ⟨e, List.mem_filter.2 ⟨hmem, hold⟩, hpath⟩)
    | false => exact .inr (mem_filePaths_filter.2 ⟨e, hmem, hold', hold, hpath⟩)
  forget_forget t tables := by
    show ({ tables with exports := (tables.exports.filter _).filter _ } : Tables) = _
    rw [List.filter_filter]
    refine congrArg (fun p => ({ tables with exports := tables.exports.filter p } : Tables))
      (funext fun e => ?_)
    cases hold : e.olderThan t (dates t) with
    | false => exact Bool.and_true _
    | true => rw [Export.olderThan_mono (hdates t) hold]; rfl
  forget_comm t t' tables := by
    show ({ tables with exports := (tables.exports.filter _).filter _ } : Tables) =
      { tables with exports := (tables.exports.filter _).filter _ }
    simp only [List.filter_filter, Bool.and_comm]

omit hdates

variable (dates)

lemma Purger.ForgetsOld.lawful {p : Purger} (h : p.ForgetsOld)
    (habsorbs : (p.toPurge dates).Absorbs (p.toPurge dates)) : (p.toPurge dates).Lawful where
  toAbsorbs := habsorbs
  notMem_paths_forget_self t tables path hpath := by
    obtain ⟨stored, -, hold, hnot, -⟩ := h.mem_paths_forget.1 hpath
    exact Bool.false_ne_true (hnot.symm.trans hold)

lemma lawful_callLogsPurger : (callLogsPurger.toPurge dates).Lawful :=
  forgetsOld_callLogsPurger.lawful dates (absorbs_callLogsPurger fun _ => le_rfl)

lemma lawful_recordingsPurger : (recordingsPurger.toPurge dates).Lawful :=
  forgetsOld_recordingsPurger.lawful dates (absorbs_recordingsPurger fun _ => le_rfl)

lemma lawful_exportsPurger : (exportsPurger.toPurge dates).Lawful where
  toAbsorbs := absorbs_exportsPurger fun _ => le_rfl
  notMem_paths_forget_self t tables path hpath := by
    obtain ⟨e, -, hold, hnot, -⟩ := mem_filePaths_filter.1 hpath
    exact Bool.false_ne_true (hnot.symm.trans hold)

end Absorbs

/-! ### Runs -/

/-- What the purgers read of the tables and do not change. -/
structure Settings where
  tenants : Finset String
  retentions : List Retention
  config : RetentionConfig

/-- The tables have these settings. -/
structure Tables.Has (tables : Tables) (settings : Settings) : Prop where
  tenants : tables.db.tenants = settings.tenants
  retentions : tables.retentions = settings.retentions
  config : tables.config = some settings.config

lemma Tables.has_of_config {tables : Tables} {config : RetentionConfig}
    (h : tables.config = some config) :
    tables.Has ⟨tables.db.tenants, tables.retentions, config⟩ := ⟨rfl, rfl, h⟩

/-- The keys of a run have one kind, and each tenant has one. -/
lemma exists_getTenantsUuids_eq (order : SetOrder) (tenants : Finset String)
    (tenant : Option TenantKey) :
    ∃ (kind : String → TenantKey) (tenantUuids : List String), tenantUuids.Nodup ∧
      (∀ tenantUuid, (kind tenantUuid).tenantUuid = tenantUuid) ∧
      ∀ tables : Tables, tables.db.tenants = tenants →
        getTenantsUuids order tables tenant = tenantUuids.map kind := by
  rcases tenant with _ | tenantUuid | tenantUuid
  · refine ⟨.uuid, order.visit tenants.sort, order.nodup _, fun _ => rfl, fun tables h => ?_⟩
    rw [getTenantsUuids, h]
  · exact ⟨.uuid, [tenantUuid], List.nodup_singleton _, fun _ => rfl, fun _ _ => rfl⟩
  · by_cases hempty : tenantUuid = ""
    · refine ⟨.uuid, order.visit tenants.sort, order.nodup _, fun _ => rfl, fun tables h => ?_⟩
      rw [getTenantsUuids, if_pos hempty, h]
    · refine ⟨.text, [tenantUuid], List.nodup_singleton _, fun _ => rfl, fun tables _ => ?_⟩
      rw [getTenantsUuids, if_neg hempty]
      rfl

namespace Purger

variable {p : Purger} {refused : Finset String} {w : World}

lemma run_purge_of_none {daysToKeep : ℤ} {now : DateTime} {order : SetOrder}
    {tenant : Option TenantKey} (hconfig : w.tables.config = none) :
    run (p.purge daysToKeep now order refused tenant) w = (.error .noDefaultConfig, w) := by
  rw [purge, run_bind_of_ok run_get, hconfig]
  rfl

/-- The runs over tables with the same settings are purges of the same tenants. -/
lemma exists_run_purge_eq (settings : Settings) (order : SetOrder) (tenant : Option TenantKey) :
    ∃ (kind : String → TenantKey) (tenantUuids : List String), tenantUuids.Nodup ∧
      (∀ tenantUuid, (kind tenantUuid).tenantUuid = tenantUuid) ∧
      (∀ tables : Tables, tables.Has settings →
        getTenantsUuids order tables tenant = tenantUuids.map kind) ∧
      ∀ (p : Purger) (daysToKeep : ℤ) (now : DateTime) (refused : Finset String) (w : World),
        w.tables.Has settings →
        run (p.purge daysToKeep now order refused tenant) w =
          mediaResult ((p.toPurge
            (p.maxDate daysToKeep now settings.config settings.retentions ∘ kind)).run
              refused tenantUuids w.tables w.files) := by
  obtain ⟨kind, tenantUuids, hnodup, hkind, heq⟩ :=
    exists_getTenantsUuids_eq order settings.tenants tenant
  refine ⟨kind, tenantUuids, hnodup, hkind, fun tables h => heq tables h.tenants,
    fun p daysToKeep now refused w h => ?_⟩
  rw [purge, run_bind_of_ok run_get, h.config, h.retentions]
  dsimp only
  rw [heq w.tables h.tenants]
  exact run_forM_purgeTenant hkind tenantUuids

/-- A call log is older than the effective retention of one of the tenants of a run. -/
def treats (p : Purger) (daysToKeep : ℤ) (now : DateTime) (order : SetOrder)
    (tenant : Option TenantKey) (tables : Tables) (stored : StoredCallLog) : Bool :=
  match tables.config with
  | none => false
  | some config => (getTenantsUuids order tables tenant).any fun key =>
      stored.olderThan key.tenantUuid
        (p.maxDate daysToKeep now config tables.retentions key)

/-- The files of the recordings of some call logs. -/
def treatedFiles (treated : StoredCallLog → Bool) (db : Database) : Finset String :=
  ((db.callLogs.filter treated).flatMap (·.log.recordingPaths)).toFinset

lemma mem_treatedFiles {treated : StoredCallLog → Bool} {db : Database} {path : String} :
    path ∈ treatedFiles treated db ↔
      ∃ stored ∈ db.callLogs, treated stored ∧ path ∈ stored.log.recordingPaths := by
  rw [treatedFiles, List.mem_toFinset, List.mem_flatMap]
  simp only [List.mem_filter, and_assoc]

/-- A purger removes the files of the old call logs, and changes these call logs. -/
structure Sound (p : Purger) (change : (StoredCallLog → Bool) → Database → Database) : Prop where
  paths : p.paths = oldRecordingPaths
  lawful : ∀ dates, (p.toPurge dates).Lawful
  absorbs : ∀ dates dates', (∀ t, dates t ≤ dates' t) →
    (p.toPurge dates').Absorbs (p.toPurge dates)
  forgetAll : ∀ dates tenantUuids tables, (p.toPurge dates).forgetAll tenantUuids tables =
    { tables with
      db := change (fun stored => tenantUuids.any fun t => stored.olderThan t (dates t))
        tables.db }
  tenants : ∀ treated db, (change treated db).tenants = db.tenants
  mem : ∀ treated db stored, stored ∈ db.callLogs → treated stored = false →
    stored ∈ (change treated db).callLogs

end Purger

/-- `CallLogsPurger` deletes the call logs. -/
def Database.deleteTreated (treated : StoredCallLog → Bool) (db : Database) : Database :=
  db.filterCallLogs fun stored => !treated stored

/-- `RecordingsPurger` nulls the paths of the recordings of the call logs. -/
def Database.nullTreated (treated : StoredCallLog → Bool) (db : Database) : Database :=
  db.mapRecordings (deleteRecordingsIf treated)

lemma sound_callLogsPurger : callLogsPurger.Sound Database.deleteTreated where
  paths := rfl
  lawful := lawful_callLogsPurger
  absorbs _ _ := absorbs_callLogsPurger
  forgetAll dates tenantUuids tables := by
    induction tenantUuids generalizing tables with
    | nil =>
        have hid : tables.db.deleteTreated (fun _ => false) = tables.db := by
          ext : 1
          · rfl
          · exact List.filter_true _
          · rfl
          · rfl
        simp only [Purge.forgetAll_nil, List.any_nil, hid]
    | cons t tenantUuids ih =>
        have hforget : (callLogsPurger.toPurge dates).forget t tables =
            { tables with db := tables.db.deleteTreated (·.olderThan t (dates t)) } := rfl
        rw [Purge.forgetAll_cons, ih, hforget]
        simp only [Database.deleteTreated, filterCallLogs_filterCallLogs, List.any_cons,
          Bool.not_or]
  tenants _ _ := rfl
  mem treated db stored hmem htreated := by
    refine List.mem_filter.2 ⟨hmem, ?_⟩
    rw [htreated]
    rfl

lemma sound_recordingsPurger : recordingsPurger.Sound Database.nullTreated where
  paths := rfl
  lawful := lawful_recordingsPurger
  absorbs _ _ := absorbs_recordingsPurger
  forgetAll dates tenantUuids tables := by
    induction tenantUuids generalizing tables with
    | nil =>
        have hid : tables.db.nullTreated (fun _ => false) = tables.db := by
          ext : 1
          · rfl
          · exact List.map_id _
          · rfl
          · rfl
        simp only [Purge.forgetAll_nil, List.any_nil, hid]
    | cons t tenantUuids ih =>
        have hforget : (recordingsPurger.toPurge dates).forget t tables =
            { tables with db := tables.db.nullTreated (·.olderThan t (dates t)) } := rfl
        rw [Purge.forgetAll_cons, ih, hforget]
        simp only [Database.nullTreated, mapRecordings_mapRecordings, List.any_cons]
        refine congrArg (fun f => ({ tables with db := tables.db.mapRecordings f } : Tables))
          (funext fun stored => deleteRecordingsIf_withRecordings fun _ => rfl)
  tenants _ _ := rfl
  mem treated db stored hmem htreated := by
    refine List.mem_map.2 ⟨stored, hmem, ?_⟩
    rw [deleteRecordingsIf, htreated]
    rfl

/-! ### Safety -/

/-- A purger is safe, that changes the call logs that it treats: every database and file
system, every refusal of a removal. -/
structure PurgeSafe (p : Purger) (change : (StoredCallLog → Bool) → Database → Database) :
    Prop where
  /-- A run that completes treats the call logs older than the effective retention of
  their tenant: it removes the files of their recordings, and only those, and it changes
  these call logs, and no others. -/
  completed : ∀ daysToKeep now order refused tenant w w',
    run (p.purge daysToKeep now order refused tenant) w = (.ok (), w') →
      w.tables.config ≠ none ∧
      w'.files = w.files \
        Purger.treatedFiles (p.treats daysToKeep now order tenant w.tables) w.tables.db ∧
      w'.tables = { w.tables with
        db := change (p.treats daysToKeep now order tenant w.tables) w.tables.db }
  /-- However a run ends, a call log keeps its row and its recordings as long as one of
  their files exists, and only files of call logs to be treated are removed. -/
  safe : ∀ daysToKeep now order refused tenant w,
    let w' := (run (p.purge daysToKeep now order refused tenant) w).2
    (∀ stored ∈ w.tables.db.callLogs, ∀ path ∈ stored.log.recordingPaths, path ∈ w'.files →
      stored ∈ w'.tables.db.callLogs) ∧
    w'.files ⊆ w.files ∧
    w.files \ w'.files ⊆
      Purger.treatedFiles (p.treats daysToKeep now order tenant w.tables) w.tables.db
  /-- Running again, then or later, with the rows as the failed run has left them or as
  they were before it, does what the run would have done without the failed one. -/
  again : ∀ daysToKeep now now' order refused tenant w, now ≤ now' →
    let w' := (run (p.purge daysToKeep now order refused tenant) w).2
    run (p.purge daysToKeep now' order ∅ tenant) w' =
      run (p.purge daysToKeep now' order ∅ tenant) w ∧
    run (p.purge daysToKeep now' order ∅ tenant) ⟨w.tables, w'.files⟩ =
      run (p.purge daysToKeep now' order ∅ tenant) w
  /-- It completes. -/
  completes : ∀ daysToKeep now order tenant w, w.tables.config ≠ none →
    (run (p.purge daysToKeep now order ∅ tenant) w).1 = .ok ()

namespace Purger.Sound

variable {p : Purger} {change : (StoredCallLog → Bool) → Database → Database}
  {settings : Settings} {order : SetOrder} {tenant : Option TenantKey} {daysToKeep : ℤ}
  {now : DateTime} {w : World} {kind : String → TenantKey} {tenantUuids : List String}

/-- The call logs that a run treats, over its tenants. -/
lemma treats_eq (hhas : w.tables.Has settings)
    (hkind : ∀ tenantUuid, (kind tenantUuid).tenantUuid = tenantUuid)
    (hkeys : ∀ tables : Tables, tables.Has settings →
      getTenantsUuids order tables tenant = tenantUuids.map kind) :
    p.treats daysToKeep now order tenant w.tables = fun stored =>
      tenantUuids.any fun t => stored.olderThan t
        ((p.maxDate daysToKeep now settings.config settings.retentions ∘ kind) t) := by
  funext stored
  rw [treats, hhas.config, hhas.retentions]
  dsimp only
  rw [hkeys w.tables hhas, List.any_map]
  refine congrArg tenantUuids.any (funext fun t => ?_)
  rw [Function.comp_apply, hkind]
  rfl

variable (h : p.Sound change)

include h

lemma mem_paths_toPurge {dates : String → DateTime} {t path : String} {tables : Tables} :
    path ∈ (p.toPurge dates).paths t tables ↔
      ∃ stored ∈ tables.db.callLogs, stored.olderThan t (dates t) ∧
        path ∈ stored.log.recordingPaths := by
  rw [toPurge, h.paths]
  exact mem_oldRecordingPaths

/-- The files of a purge are those of the call logs that it treats. -/
lemma allPaths_eq {dates : String → DateTime} {tables : Tables} :
    (p.toPurge dates).allPaths tenantUuids tables =
      treatedFiles (fun stored => tenantUuids.any fun t => stored.olderThan t (dates t))
        tables.db := by
  ext path
  rw [Purge.mem_allPaths, mem_treatedFiles]
  simp only [h.mem_paths_toPurge, List.any_eq_true]
  constructor
  · rintro ⟨t, ht, stored, hmem, hold, hpath⟩
    exact ⟨stored, hmem, ⟨t, ht, hold⟩, hpath⟩
  · rintro ⟨stored, hmem, ⟨t, ht, hold⟩, hpath⟩
    exact ⟨t, ht, stored, hmem, hold, hpath⟩

/-- The settings are those of before, whatever was purged. -/
lemma has_forgetAll {dates : String → DateTime} {done : List String} {tables : Tables}
    (hhas : tables.Has settings) : ((p.toPurge dates).forgetAll done tables).Has settings := by
  rw [h.forgetAll]
  exact ⟨(h.tenants _ _).trans hhas.tenants, hhas.retentions, hhas.config⟩

/-- However a run ends, it has changed some of the call logs. -/
lemma exists_db_run_purge {refused : Finset String} (hconfig : w.tables.config ≠ none) :
    ∃ treated, (run (p.purge daysToKeep now order refused tenant) w).2.tables.db =
      change treated w.tables.db := by
  obtain ⟨config, hconfig⟩ := Option.ne_none_iff_exists'.1 hconfig
  have hhas := Tables.has_of_config hconfig
  obtain ⟨kind, tenantUuids, hnodup, -, -, hpurge⟩ := exists_run_purge_eq _ order tenant
  obtain ⟨done, removed, -, -, -, hrun, -⟩ :=
    (h.lawful (p.maxDate daysToKeep now config w.tables.retentions ∘ kind)).exists_run_eq
      refused w.tables w.files hnodup
  rw [hpurge _ _ _ _ _ hhas, mediaResult, hrun, h.forgetAll]
  exact ⟨_, rfl⟩

theorem purgeSafe : PurgeSafe p change where
  completed daysToKeep now order refused tenant w w' hrun := by
    cases hconfig : w.tables.config with
    | none =>
        rw [run_purge_of_none hconfig] at hrun
        cases hrun
    | some config =>
        have hhas := Tables.has_of_config hconfig
        obtain ⟨kind, tenantUuids, hnodup, hkind, hkeys, hpurge⟩ :=
          exists_run_purge_eq _ order tenant
        rw [hpurge _ _ _ _ _ hhas] at hrun
        have hok := congrArg Prod.fst hrun
        have hworld : _ = w' := congrArg Prod.snd hrun
        rw [mediaResult, mapError_os_eq_ok_iff] at hok
        rw [mediaResult, (h.lawful _).run_of_ok hnodup hok, h.allPaths_eq, h.forgetAll] at hworld
        rw [treats_eq hhas hkind hkeys]
        subst hworld
        exact ⟨nofun, rfl, rfl⟩
  safe daysToKeep now order refused tenant w := by
    cases hconfig : w.tables.config with
    | none =>
        rw [run_purge_of_none hconfig]
        exact ⟨fun stored hmem _ _ _ => hmem, Finset.Subset.refl _, by simp⟩
    | some config =>
        have hhas := Tables.has_of_config hconfig
        obtain ⟨kind, tenantUuids, hnodup, hkind, hkeys, hpurge⟩ :=
          exists_run_purge_eq _ order tenant
        obtain ⟨done, removed, -, hlower, hupper, hrun, -⟩ :=
          (h.lawful (p.maxDate daysToKeep now config w.tables.retentions ∘ kind)).exists_run_eq
            refused w.tables w.files hnodup
        rw [hpurge _ _ _ _ _ hhas, treats_eq hhas hkind hkeys, mediaResult, hrun, ← h.allPaths_eq]
        dsimp only
        refine ⟨fun stored hmem path hpath hexists => ?_, Finset.sdiff_subset, ?_⟩
        · -- a call log of a tenant that is done has lost all its files
          rw [h.forgetAll]
          refine h.mem _ _ _ hmem (Bool.eq_false_iff.2 fun htreated => ?_)
          have hremoved : path ∈ removed := hlower (by
            rw [h.allPaths_eq, mem_treatedFiles]
            exact ⟨stored, hmem, htreated, hpath⟩)
          exact (Finset.mem_sdiff.1 hexists).2 hremoved
        · rw [sdiff_sdiff_right_self]
          exact Finset.inter_subset_right.trans hupper
  again daysToKeep now now' order refused tenant w hnow := by
    cases hconfig : w.tables.config with
    | none =>
        rw [run_purge_of_none hconfig]
        exact ⟨rfl, rfl⟩
    | some config =>
        have hhas := Tables.has_of_config hconfig
        obtain ⟨kind, tenantUuids, hnodup, hkind, hkeys, hpurge⟩ :=
          exists_run_purge_eq _ order tenant
        obtain ⟨done, removed, hdone, hlower, hupper, hrun, -⟩ :=
          (h.lawful (p.maxDate daysToKeep now config w.tables.retentions ∘ kind)).exists_run_eq
            refused w.tables w.files hnodup
        -- the later run purges all that the failed one does
        have hdates : ∀ t, (p.maxDate daysToKeep now config w.tables.retentions ∘ kind) t ≤
            (p.maxDate daysToKeep now' config w.tables.retentions ∘ kind) t :=
          fun t => Int.sub_le_sub_right hnow _
        have habsorbs := h.absorbs _ _ hdates
        have hforgotten := habsorbs.run_empty_of_partial done w.files (h.lawful _)
          (h.lawful _) hnodup hdone hlower hupper
        have hkept := habsorbs.run_empty_of_partial [] w.files
          (h.lawful _) (h.lawful _) hnodup (List.nil_subset _) (Finset.empty_subset removed) hupper
        rw [hpurge _ _ _ _ _ hhas, mediaResult, hrun]
        have hlast := (hpurge p daysToKeep now' ∅ w hhas).symm
        exact ⟨(hpurge _ _ _ _ _ (h.has_forgetAll hhas)).trans
            ((congrArg mediaResult hforgotten).trans hlast),
          (hpurge _ _ _ _ ⟨w.tables, w.files \ removed⟩ hhas).trans
            ((congrArg mediaResult hkept).trans hlast)⟩
  completes daysToKeep now order tenant w hconfig := by
    obtain ⟨config, hconfig⟩ := Option.ne_none_iff_exists'.1 hconfig
    have hhas := Tables.has_of_config hconfig
    obtain ⟨kind, tenantUuids, -, -, -, hpurge⟩ := exists_run_purge_eq _ order tenant
    rw [hpurge _ _ _ _ _ hhas, mediaResult, Purge.Lawful.run_empty_fst]
    rfl

end Purger.Sound

/-- The purges of call logs and of recordings are safe. -/
theorem purgeSafe_callLogs_recordings :
    PurgeSafe callLogsPurger Database.deleteTreated ∧
      PurgeSafe recordingsPurger Database.nullTreated :=
  ⟨sound_callLogsPurger.purgeSafe, sound_recordingsPurger.purgeSafe⟩

end CallLogd
