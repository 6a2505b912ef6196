/-
The purgers together, in any order.

They are plugins of a command that runs them one after the other.  The purgers of call
logs and of recordings find the same files, and the rows that one of them deletes or
changes cost the other only files that are already removed: so the tables and the files
that a complete run leaves do not depend on the order (`purgeAll_perm`).
-/
import CallLogd.Media.PurgeSafety

namespace CallLogd

open Sequences Transactions

/-! ### The command -/

/-- The plugins of `wazo_purge_db.purgers`. -/
inductive PurgerPlugin where
  | callLogs
  | exports
  | recordings
deriving DecidableEq, Repr

/-- The purger of a plugin. -/
def PurgerPlugin.purger : PurgerPlugin → Purger
  | callLogs => callLogsPurger
  | exports => exportsPurger
  | recordings => recordingsPurger

/-- The run of a purger, with its days to keep, at some time. -/
structure PurgeRun where
  plugin : PurgerPlugin
  daysToKeep : ℤ := 365
  now : DateTime
deriving DecidableEq, Repr

/-- The runs of a command, over all the tenants. -/
def purgeAll (order : SetOrder) (refused : Finset String) (runs : List PurgeRun) : Media Unit :=
  runs.forM fun r => r.plugin.purger.purge r.daysToKeep r.now order refused none

/-! ### The purgers are compatible -/

section Independent

variable {tables : Tables} {dates dates' : String → DateTime} {p q : Purger}

/-- Deleting call logs and changing their recordings. -/
lemma filterCallLogs_mapRecordings {keep : StoredCallLog → Bool}
    {f : StoredCallLog → List Recording}
    (hkeep : ∀ stored recordings, keep (stored.withRecordings recordings) = keep stored)
    (db : Database) :
    (db.mapRecordings f).filterCallLogs keep = (db.filterCallLogs keep).mapRecordings f := by
  ext : 1
  · rfl
  · refine List.filter_map.trans (congrArg _ (List.filter_congr fun stored _ => ?_))
    exact hkeep stored _
  · rfl
  · rfl

/-- The purgers of recordings find the same files. -/
lemma Purger.ForgetsOld.independent (hp : p.ForgetsOld) (hq : q.ForgetsOld)
    (hforget : ∀ t t' tables, p.forget t (dates t) (q.forget t' (dates' t') tables) =
      q.forget t' (dates' t') (p.forget t (dates t) tables)) :
    (p.toPurge dates).Independent (q.toPurge dates') where
  forget_comm := hforget
  paths_forget_subset t t' tables path hpath := by
    obtain ⟨stored, hmem, hold, -, hpath⟩ :=
      hp.mem_paths_forget.1 (hp.mem_paths.2 (hq.mem_paths.1 hpath))
    exact hq.mem_paths.2 ⟨stored, hmem, hold, hpath⟩
  mem_paths t t' tables path hpath := by
    obtain ⟨stored, hmem, hold', hpath⟩ := hq.mem_paths.1 hpath
    cases hold : stored.olderThan t' (dates t') with
    | true => exact .inl (hp.mem_paths.2 ⟨stored, hmem, hold, hpath⟩)
    | false =>
        have hpath : path ∈ p.paths t (dates' t) (p.forget t' (dates t') tables) :=
          hp.mem_paths_forget.2 ⟨stored, hmem, hold', hold, hpath⟩
        exact .inr (hq.mem_paths.2 (hp.mem_paths.1 hpath))

lemma forget_callLogsPurger {t : String} {d : DateTime} : callLogsPurger.forget t d tables =
    { tables with db := tables.db.filterCallLogs fun stored => !stored.olderThan t d } := rfl

lemma forgetOld_comm_callLogs_recordings {t t' : String} {d d' : DateTime} :
    callLogsPurger.forget t d (recordingsPurger.forget t' d' tables) =
      recordingsPurger.forget t' d' (callLogsPurger.forget t d tables) := by
  rw [forget_callLogsPurger, forget_recordingsPurger]
  exact congrArg (fun db => ({ tables with db := db } : Tables))
    (filterCallLogs_mapRecordings (fun _ _ => rfl) tables.db)

lemma independent_callLogs :
    (callLogsPurger.toPurge dates).Independent (callLogsPurger.toPurge dates') := by
  refine forgetsOld_callLogsPurger.independent forgetsOld_callLogsPurger fun t t' tables => ?_
  simp only [forget_callLogsPurger, filterCallLogs_filterCallLogs, Bool.and_comm]

lemma independent_recordings :
    (recordingsPurger.toPurge dates).Independent (recordingsPurger.toPurge dates') := by
  refine forgetsOld_recordingsPurger.independent forgetsOld_recordingsPurger fun t t' tables => ?_
  simp only [forget_recordingsPurger, mapRecordings_mapRecordings]
  refine congrArg (fun f => ({ tables with db := tables.db.mapRecordings f } : Tables))
    (funext fun stored => ?_)
  rw [deleteRecordingsIf_withRecordings fun _ => rfl,
    deleteRecordingsIf_withRecordings fun _ => rfl]
  simp only [deleteRecordingsIf, Bool.or_comm]

lemma independent_exports :
    (exportsPurger.toPurge dates).Independent (exportsPurger.toPurge dates') where
  forget_comm t t' tables := by
    show ({ tables with exports := (tables.exports.filter _).filter _ } : Tables) =
      { tables with exports := (tables.exports.filter _).filter _ }
    simp only [List.filter_filter, Bool.and_comm]
  paths_forget_subset t t' tables path hpath := by
    obtain ⟨e, hmem, hold, -, hpath⟩ := mem_filePaths_filter.1 hpath
    exact List.mem_filterMap.2 ⟨e, List.mem_filter.2 ⟨hmem, hold⟩, hpath⟩
  mem_paths t t' tables path hpath := by
    obtain ⟨e, hmem, hpath⟩ := List.mem_filterMap.1 hpath
    obtain ⟨hmem, hold'⟩ := List.mem_filter.1 hmem
    cases hold : e.olderThan t' (dates t') with
    | true => exact .inl (List.mem_filterMap.2 ⟨e, List.mem_filter.2 ⟨hmem, hold⟩, hpath⟩)
    | false => exact .inr (mem_filePaths_filter.2 ⟨e, hmem, hold', hold, hpath⟩)

/-- Purges of different rows are independent. -/
lemma independent_of_other_rows
    (hforget : ∀ t t' tables, p.forget t (dates t) (q.forget t' (dates' t') tables) =
      q.forget t' (dates' t') (p.forget t (dates t) tables))
    (hpaths : ∀ t t' tables, q.paths t (dates' t) (p.forget t' (dates t') tables) =
      q.paths t (dates' t) tables) :
    (p.toPurge dates).Independent (q.toPurge dates') where
  forget_comm := hforget
  paths_forget_subset t t' tables path hpath := by
    have hpath : path ∈ q.paths t (dates' t) (p.forget t' (dates t') tables) := hpath
    rwa [hpaths] at hpath
  mem_paths t t' tables path hpath := by
    refine .inr ?_
    show path ∈ q.paths t (dates' t) (p.forget t' (dates t') tables)
    rwa [hpaths]

lemma PurgerPlugin.independent (plugin plugin' : PurgerPlugin) :
    (plugin.purger.toPurge dates).Independent (plugin'.purger.toPurge dates') := by
  cases plugin with
  | callLogs =>
    cases plugin' with
    | callLogs => exact independent_callLogs
    | exports => exact independent_of_other_rows (fun _ _ _ => rfl) fun _ _ _ => rfl
    | recordings =>
      exact forgetsOld_callLogsPurger.independent forgetsOld_recordingsPurger fun _ _ _ =>
        forgetOld_comm_callLogs_recordings
  | exports =>
    cases plugin' with
    | callLogs => exact independent_of_other_rows (fun _ _ _ => rfl) fun _ _ _ => rfl
    | exports => exact independent_exports
    | recordings => exact independent_of_other_rows (fun _ _ _ => rfl) fun _ _ _ => rfl
  | recordings =>
    cases plugin' with
    | callLogs =>
      exact forgetsOld_recordingsPurger.independent forgetsOld_callLogsPurger fun _ _ _ =>
        forgetOld_comm_callLogs_recordings.symm
    | exports => exact independent_of_other_rows (fun _ _ _ => rfl) fun _ _ _ => rfl
    | recordings => exact independent_recordings

lemma PurgerPlugin.lawful (plugin : PurgerPlugin) : (plugin.purger.toPurge dates).Lawful := by
  cases plugin with
  | callLogs => exact lawful_callLogsPurger dates
  | exports => exact lawful_exportsPurger dates
  | recordings => exact lawful_recordingsPurger dates

end Independent

/-! ### Runs -/

namespace PurgeRun

variable {settings : Settings} {order : SetOrder} {refused : Finset String} {w w' : World}
  {r : PurgeRun} {runs runs' : List PurgeRun} {kind : String → TenantKey}
  {tenantUuids : List String}

/-- The purge of a run, with the dates of the tenants. -/
def toPurge (settings : Settings) (kind : String → TenantKey) (r : PurgeRun) :
    Purge String Tables String :=
  r.plugin.purger.toPurge
    (r.plugin.purger.maxDate r.daysToKeep r.now settings.config settings.retentions ∘ kind)

lemma compatible_map_toPurge : Purge.Compatible (runs.map (toPurge settings kind)) := by
  constructor
  · intro p hp
    obtain ⟨r, -, rfl⟩ := List.mem_map.1 hp
    exact r.plugin.lawful
  · intro p hp q hq
    obtain ⟨r, -, rfl⟩ := List.mem_map.1 hp
    obtain ⟨r', -, rfl⟩ := List.mem_map.1 hq
    exact r.plugin.independent r'.plugin

/-- A purge changes no settings. -/
lemma has_forgetAll {done : List String} {tables : Tables} (hhas : tables.Has settings) :
    ((r.toPurge settings kind).forgetAll done tables).Has settings := by
  induction done generalizing tables with
  | nil => exact hhas
  | cons t done ih =>
      refine ih ?_
      rw [toPurge]
      cases r.plugin with
      | callLogs => exact ⟨hhas.tenants, hhas.retentions, hhas.config⟩
      | exports => exact ⟨hhas.tenants, hhas.retentions, hhas.config⟩
      | recordings => exact ⟨hhas.tenants, hhas.retentions, hhas.config⟩

end PurgeRun

section Runs

variable {order : SetOrder} {refused : Finset String} {w w' : World} {runs runs' : List PurgeRun}

/-- Over tables with the same settings, the command is a purge with several purges. -/
lemma exists_run_purgeAll_eq (settings : Settings) (order : SetOrder) :
    ∃ (kind : String → TenantKey) (tenantUuids : List String), tenantUuids.Nodup ∧
      ∀ (refused : Finset String) (runs : List PurgeRun) (w : World), w.tables.Has settings →
        run (purgeAll order refused runs) w =
          mediaResult (Purge.runAll refused tenantUuids
            (runs.map (PurgeRun.toPurge settings kind)) w.tables w.files) := by
  obtain ⟨kind, tenantUuids, hnodup, -, -, hpurge⟩ :=
    Purger.exists_run_purge_eq settings order none
  refine ⟨kind, tenantUuids, hnodup, fun refused runs w hhas => ?_⟩
  induction runs generalizing w with
  | nil => rfl
  | cons r runs ih =>
      have hlawful : (r.toPurge settings kind).Lawful := r.plugin.lawful
      have htoPurge : r.plugin.purger.toPurge (r.plugin.purger.maxDate r.daysToKeep r.now
          settings.config settings.retentions ∘ kind) = r.toPurge settings kind := rfl
      rw [purgeAll, run_forM_cons, hpurge _ _ _ _ _ hhas, htoPurge, List.map_cons, Purge.runAll]
      cases hrun : (r.toPurge settings kind).run refused tenantUuids w.tables w.files with
      | mk result rest =>
          cases result with
          | error e => rfl
          | ok =>
              have hrest := hlawful.run_of_ok hnodup (congrArg Prod.fst hrun)
              rw [hrun] at hrest
              obtain rfl : rest = _ := hrest
              exact ih _ (PurgeRun.has_forgetAll hhas)

lemma mediaResult_eq_ok_iff {r : Except Files.OSError Unit × Tables × Finset String} :
    mediaResult r = (.ok (), w') ↔ r = (.ok (), w'.tables, w'.files) := by
  obtain ⟨result, tables, files⟩ := r
  rw [mediaResult, Prod.mk.injEq, Prod.mk.injEq, mapError_os_eq_ok_iff, Prod.mk.injEq]
  refine and_congr_right fun _ => ⟨?_, ?_⟩
  · rintro rfl
    exact ⟨rfl, rfl⟩
  · rintro ⟨rfl, rfl⟩
    rfl

/-- The first purger of a command needs the configuration. -/
lemma run_purgeAll_of_none (hconfig : w.tables.config = none) (hruns : runs ≠ []) :
    run (purgeAll order refused runs) w = (.error .noDefaultConfig, w) := by
  obtain ⟨r, runs, rfl⟩ := List.exists_cons_of_ne_nil hruns
  rw [purgeAll, run_forM_cons, Purger.run_purge_of_none hconfig]

/-- The purgers can be run in any order: a run that completes leaves the same tables and
the same files in each of them. -/
theorem purgeAll_perm (order : SetOrder) (refused : Finset String) (w w' : World)
    (hperm : runs.Perm runs') :
    run (purgeAll order refused runs) w = (.ok (), w') ↔
      run (purgeAll order refused runs') w = (.ok (), w') := by
  cases hconfig : w.tables.config with
  | none =>
      rcases eq_or_ne runs [] with rfl | hruns
      · rw [hperm.nil_eq]
      · have hruns' : runs' ≠ [] := fun hnil => hruns (hnil ▸ hperm).eq_nil
        rw [run_purgeAll_of_none hconfig hruns, run_purgeAll_of_none hconfig hruns']
  | some config =>
      have hhas := Tables.has_of_config hconfig
      obtain ⟨kind, tenantUuids, hnodup, hrun⟩ := exists_run_purgeAll_eq _ order
      rw [hrun _ _ _ hhas, hrun _ _ _ hhas, mediaResult_eq_ok_iff, mediaResult_eq_ok_iff]
      exact Purge.runAll_perm PurgeRun.compatible_map_toPurge hnodup (hperm.map _)

end Runs

/-- A tenant with a call log and an export, of which the files exist. -/
def oldCallLog : World where
  tables :=
    { db :=
        { Database.empty with
          tenants := {"t"}
          callLogs := [⟨1,
            { ({} : RawCallLog).fillCallLog with
              tenantUuid := some "t"
              date := some 0
              recordings := [{ uuid := some (.ofPath "r"), path := .str "r.wav" }] }⟩]
          nextCallLogId := 2
          callLogs_nodup := by decide
          callLogs_lt := by decide
          callLogs_pos := by decide
          nextCallLogId_pos := Nat.zero_lt_two }
      exports := [⟨"e", "t", 0, .finished, some "e.zip"⟩]
      config := some ⟨365, 2, 365⟩ }
  files := {"r.wav", "e.zip"}

/-- The commands that purge it, with the purger of recordings first or last. -/
def purgesOfOldCallLog : List PurgeRun :=
  [⟨.recordings, 30, daysDuration 400⟩, ⟨.exports, 30, daysDuration 400⟩,
    ⟨.callLogs, 30, daysDuration 400⟩]

theorem purgeAll_perm_oldCallLog :
    ∃ w', run (purgeAll .byInsertion ∅ purgesOfOldCallLog.reverse) oldCallLog = (.ok (), w') ∧
      w'.tables.db.callLogs = [] ∧ w'.tables.exports = [] ∧ w'.files = ∅ := by
  have hcompletes :
      (run (purgeAll .byInsertion ∅ purgesOfOldCallLog) oldCallLog).1 = .ok () := by
    decide +kernel
  refine ⟨_, (purgeAll_perm .byInsertion ∅ oldCallLog _
    (List.reverse_perm purgesOfOldCallLog)).2 (Prod.ext hcompletes rfl), ?_⟩
  exact ⟨by decide +kernel, by decide +kernel, by decide +kernel⟩

end CallLogd
