/-
The removal of a tenant: `sync_db.py`.

The purgers run with no days to keep, and the other rows of the tenant go with it.  A
default retention that is customised wins over these no days: the recent files are then
left behind (`removeTenant_leavesNoMedia_iff`).
-/
import CallLogd.Media.PurgeSafety

namespace CallLogd

open Sequences Transactions

/-! ### The removal -/

/-- Delete a tenant, and the rows that refer to it. -/
def Tables.deleteTenant (tenantUuid : String) (tables : Tables) : Tables where
  db :=
    { tables.db.filterCallLogs fun stored => stored.log.tenantUuid ≠ some tenantUuid with
      tenants := tables.db.tenants.erase tenantUuid }
  exports := tables.exports.filter (·.tenantUuid ≠ tenantUuid)
  retentions := tables.retentions.filter (·.tenantUuid ≠ tenantUuid)
  config := tables.config

/-- `remove_tenant`: the tenant is given as a text. -/
def removeTenant (now : DateTime) (order : SetOrder) (refused : Finset String)
    (tenantUuid : String) : Media Unit := do
  callLogsPurger.purge 0 now order refused (some (.text tenantUuid))
  exportsPurger.purge 0 now order refused (some (.text tenantUuid))
  recordingsPurger.purge 0 now order refused (some (.text tenantUuid))
  modify fun w => { w with tables := w.tables.deleteTenant tenantUuid }

/-! ### What is left behind -/

/-- A recording or an export of a tenant points to a file. -/
def Tables.PointsOf (tables : Tables) (tenantUuid path : String) : Prop :=
  (∃ stored ∈ tables.db.callLogs,
    stored.log.tenantUuid = some tenantUuid ∧ path ∈ stored.log.recordingPaths) ∨
  ∃ e ∈ tables.exports, e.tenantUuid = tenantUuid ∧ e.filePath = some path

/-- The rows of a tenant have disappeared with it. -/
def Tables.Without (tables : Tables) (tenantUuid : String) : Prop :=
  tenantUuid ∉ tables.db.tenants ∧
  (∀ stored ∈ tables.db.callLogs, stored.log.tenantUuid ≠ some tenantUuid) ∧
  (∀ e ∈ tables.exports, e.tenantUuid ≠ tenantUuid) ∧
  ∀ retention ∈ tables.retentions, retention.tenantUuid ≠ tenantUuid

/-- None of the files that the rows of a tenant pointed to remains, while the rows
disappear. -/
def LeavesNoMedia (tenantUuid : String) (w w' : World) : Prop :=
  (∀ path, w.tables.PointsOf tenantUuid path → path ∉ w'.files) ∧
  w'.tables.Without tenantUuid

/-- The date before which a purger with no days to keep purges: now, or the one of a
customised default. -/
def Purger.removalDate (p : Purger) (config : RetentionConfig) (now : DateTime) : DateTime :=
  now - daysDuration (if p.defaultDays config = p.default then 0 else p.defaultDays config)

/-- A recording or an export of a tenant points to a file, and one of the purgers takes it
for old. -/
def Tables.OldPointsOf (tables : Tables) (config : RetentionConfig) (now : DateTime)
    (tenantUuid path : String) : Prop :=
  (∃ stored ∈ tables.db.callLogs,
    (stored.olderThan tenantUuid (callLogsPurger.removalDate config now) ∨
      stored.olderThan tenantUuid (recordingsPurger.removalDate config now)) ∧
    path ∈ stored.log.recordingPaths) ∨
  ∃ e ∈ tables.exports,
    e.olderThan tenantUuid (exportsPurger.removalDate config now) ∧ e.filePath = some path

/-- Each existing file of a tenant belongs to a row that is old. -/
def World.AllOld (w : World) (config : RetentionConfig) (now : DateTime) (tenantUuid : String) :
    Prop :=
  ∀ path ∈ w.files, w.tables.PointsOf tenantUuid path →
    w.tables.OldPointsOf config now tenantUuid path

/-! ### Its runs -/

lemma without_deleteTenant {tables : Tables} {tenantUuid : String} :
    (tables.deleteTenant tenantUuid).Without tenantUuid := by
  refine ⟨Finset.notMem_erase _ _, fun stored hmem => ?_, fun e hmem => ?_,
    fun retention hmem => ?_⟩
  · exact of_decide_eq_true (List.mem_filter.1 hmem).2
  · exact of_decide_eq_true (List.mem_filter.1 hmem).2
  · exact of_decide_eq_true (List.mem_filter.1 hmem).2

namespace Purger

variable {p : Purger} {now : DateTime} {order : SetOrder} {refused : Finset String}
  {tenantUuid : String} {w w' : World} {config : RetentionConfig}

/-- No retention is found for a text. -/
lemma maxDate_text {retentions : List Retention} :
    p.maxDate 0 now config retentions (.text tenantUuid) = p.removalDate config now := by
  rw [maxDate, removalDate, days, TenantKey.retention]
  simp only [Option.bind_none, extractDaysToKeep]
  have hcustomised : (0 : ℤ) ≠ defaultPurgeDbDays := by decide
  by_cases hdefault : p.defaultDays config = p.default
  · rw [if_pos ⟨hcustomised, not_not.2 hdefault⟩, if_pos hdefault]
  · rw [if_neg fun h => h.2 hdefault, if_neg hdefault]

/-- What a purge of one tenant that is given as a text does if it completes. -/
lemma of_run_purge_text (htenant : tenantUuid ≠ "")
    (hrun : run (p.purge 0 now order refused (some (.text tenantUuid))) w = (.ok (), w'))
    (hconfig : w.tables.config = some config) :
    w' = ⟨p.forget tenantUuid (p.removalDate config now) w.tables,
      w.files \ (p.paths tenantUuid (p.removalDate config now) w.tables).toFinset⟩ := by
  have hpurge : run (p.purge 0 now order refused (some (.text tenantUuid))) w =
      run (p.purgeTenant refused (p.removalDate config now) tenantUuid >>= fun _ => pure ()) w := by
    rw [purge, run_bind_of_ok run_get, hconfig]
    dsimp only
    rw [getTenantsUuids, if_neg htenant, ← maxDate_text]
    rfl
  rw [hpurge, run_bind, run_purgeTenant] at hrun
  cases hremove : Files.removeAll refused
      (p.paths tenantUuid (p.removalDate config now) w.tables) w.files with
  | mk r files =>
      rw [hremove] at hrun
      cases r with
      | error e => cases hrun
      | ok =>
          have hrefused := Files.removeAll_fst_eq_ok_iff.1 (congrArg Prod.fst hremove)
          rw [Files.removeAll_of_ok hrefused] at hremove
          have hfiles : w.files \ _ = files := congrArg Prod.snd hremove
          subst hfiles
          exact (congrArg Prod.snd hrun).symm

end Purger

/-- The files that the three purgers leave. -/
lemma mem_files_removeTenant {tables : Tables} {files : Finset String} {config : RetentionConfig}
    {now : DateTime} {tenantUuid path : String} :
    path ∈ ((files \ (oldRecordingPaths tenantUuid (callLogsPurger.removalDate config now)
        tables).toFinset) \ (exportsPurger.paths tenantUuid (exportsPurger.removalDate config now)
        (callLogsPurger.forget tenantUuid (callLogsPurger.removalDate config now) tables)).toFinset)
        \ (oldRecordingPaths tenantUuid (recordingsPurger.removalDate config now)
          (exportsPurger.forget tenantUuid (exportsPurger.removalDate config now)
            (callLogsPurger.forget tenantUuid (callLogsPurger.removalDate config now)
              tables))).toFinset ↔
      path ∈ files ∧ ¬ tables.OldPointsOf config now tenantUuid path := by
  have hexport : path ∈ exportsPurger.paths tenantUuid (exportsPurger.removalDate config now)
      (callLogsPurger.forget tenantUuid (callLogsPurger.removalDate config now) tables) ↔
      ∃ e ∈ tables.exports, e.olderThan tenantUuid (exportsPurger.removalDate config now) ∧
        e.filePath = some path := by
    refine List.mem_filterMap.trans (exists_congr fun e => ?_)
    rw [List.mem_filter, and_assoc]
    rfl
  -- the third purger sees the call logs that the first one has kept
  have hrecording : path ∈ oldRecordingPaths tenantUuid (recordingsPurger.removalDate config now)
      (exportsPurger.forget tenantUuid (exportsPurger.removalDate config now)
        (callLogsPurger.forget tenantUuid (callLogsPurger.removalDate config now) tables)) ↔
      ∃ stored ∈ tables.db.callLogs,
        stored.olderThan tenantUuid (recordingsPurger.removalDate config now) ∧
        stored.olderThan tenantUuid (callLogsPurger.removalDate config now) = false ∧
        path ∈ stored.log.recordingPaths := mem_oldRecordingPaths_filterCallLogs
  rw [Finset.mem_sdiff, Finset.mem_sdiff, Finset.mem_sdiff, List.mem_toFinset, List.mem_toFinset,
    List.mem_toFinset, hexport, hrecording, mem_oldRecordingPaths, Tables.OldPointsOf]
  constructor
  · rintro ⟨⟨⟨hmem, hcdr⟩, hexport⟩, hrecording⟩
    refine ⟨hmem, ?_⟩
    rintro (⟨stored, hstored, hold, hpath⟩ | hold)
    · cases h : stored.olderThan tenantUuid (callLogsPurger.removalDate config now) with
      | true => exact hcdr ⟨stored, hstored, h, hpath⟩
      | false =>
          have hold := hold.resolve_left (by rw [h]; exact Bool.false_ne_true)
          exact hrecording ⟨stored, hstored, hold, h, hpath⟩
    · exact hexport hold
  · rintro ⟨hmem, hold⟩
    refine ⟨⟨⟨hmem, ?_⟩, fun h => hold (.inr h)⟩, ?_⟩
    · rintro ⟨stored, hstored, h, hpath⟩
      exact hold (.inl ⟨stored, hstored, .inl h, hpath⟩)
    · rintro ⟨stored, hstored, h, -, hpath⟩
      exact hold (.inl ⟨stored, hstored, .inr h, hpath⟩)

/-- A removal leaves no media behind exactly if each existing file of the tenant belongs to
a row that is old, with respect to the customised defaults. -/
theorem removeTenant_leavesNoMedia_iff {now : DateTime} {order : SetOrder}
    {refused : Finset String} {tenantUuid : String} {w w' : World} (htenant : tenantUuid ≠ "")
    (hrun : run (removeTenant now order refused tenantUuid) w = (.ok (), w')) :
    LeavesNoMedia tenantUuid w w' ↔
      ∃ config, w.tables.config = some config ∧ w.AllOld config now tenantUuid := by
  obtain ⟨⟨⟩, w₁, hcdr, hrun⟩ := run_bind_eq_ok hrun
  obtain ⟨⟨⟩, w₂, hexport, hrun⟩ := run_bind_eq_ok hrun
  obtain ⟨⟨⟩, w₃, hrecording, hrun⟩ := run_bind_eq_ok hrun
  obtain rfl : _ = w' := congrArg Prod.snd hrun
  cases hconfig : w.tables.config with
  | none =>
      rw [Purger.run_purge_of_none hconfig] at hcdr
      cases hcdr
  | some config =>
      obtain rfl := Purger.of_run_purge_text htenant hcdr hconfig
      obtain rfl := Purger.of_run_purge_text htenant hexport hconfig
      obtain rfl := Purger.of_run_purge_text htenant hrecording hconfig
      constructor
      · rintro ⟨hremoved, -⟩
        refine ⟨config, rfl, fun path hexists hpoints => by_contra fun hold => ?_⟩
        exact hremoved path hpoints (mem_files_removeTenant.2 ⟨hexists, hold⟩)
      · rintro ⟨config', hconfig', hold⟩
        obtain rfl := Option.some.inj hconfig'
        refine ⟨fun path hpoints hexists => ?_, without_deleteTenant⟩
        obtain ⟨hexists, hnot⟩ := mem_files_removeTenant.1 hexists
        exact hnot (hold path hexists hpoints)

/-- A tenant whose export was requested a day ago, while exports are kept for a week. -/
def recentExport : World where
  tables :=
    { db := { Database.empty with tenants := {"t"} }
      exports := [⟨"e", "t", daysDuration 9, .finished, some "e.zip"⟩]
      config := some ⟨365, 7, 365⟩ }
  files := {"e.zip"}

theorem recentExport_leavesNoMedia_iff :
    LeavesNoMedia "t" recentExport
        (run (removeTenant (daysDuration 10) SetOrder.byInsertion ∅ "t") recentExport).2 ↔
      ∃ config, recentExport.tables.config = some config ∧
        recentExport.AllOld config (daysDuration 10) "t" := by
  have hcompletes :
      (run (removeTenant (daysDuration 10) SetOrder.byInsertion ∅ "t") recentExport).1 =
        .ok () := by
    decide
  exact removeTenant_leavesNoMedia_iff (by decide) (Prod.ext hcompletes rfl)

/-- The removal completes, and the file remains without any row. -/
theorem recentExport_not_leavesNoMedia :
    (run (removeTenant (daysDuration 10) SetOrder.byInsertion ∅ "t") recentExport).1 = .ok () ∧
      ¬ LeavesNoMedia "t" recentExport
        (run (removeTenant (daysDuration 10) SetOrder.byInsertion ∅ "t") recentExport).2 := by
  refine ⟨by decide, fun ⟨hremoved, _⟩ => ?_⟩
  have hpoints : recentExport.tables.PointsOf "t" "e.zip" :=
    .inr ⟨_, List.mem_singleton_self _, rfl, rfl⟩
  exact hremoved "e.zip" hpoints (by decide)

end CallLogd
