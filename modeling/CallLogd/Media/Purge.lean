/-
The purge of old media: `purger.py`.

The three purgers differ in the rows that they select and in what becomes of these rows.
-/
import CallLogd.Media.World

namespace CallLogd

open Sequences Transactions

/-! ### Retention -/

/-- `DEFAULT_PURGE_DB_DAYS`. -/
def defaultPurgeDbDays : ℤ := 365

/-- `_extract_days_to_keep`: the days of the tenant, or those of the argument if they
alone are customised, or the default. -/
def extractDaysToKeep (tenantDays : Option ℤ) (defaultDays purgeDbDays default : ℤ) : ℤ :=
  match tenantDays with
  | some days => days
  | none =>
      if purgeDbDays ≠ defaultPurgeDbDays ∧ ¬ defaultDays ≠ default then purgeDbDays
      else defaultDays

/-- The key of a tenant in the purgers: a UUID, or its text. -/
inductive TenantKey where
  | uuid (tenantUuid : String)
  | text (tenantUuid : String)
deriving DecidableEq, Repr

/-- The tenant of a key. -/
def TenantKey.tenantUuid : TenantKey → String
  | uuid tenantUuid => tenantUuid
  | text tenantUuid => tenantUuid

/-- `retentions.get(tenant_uuid)`: the keys of the dictionary are UUIDs, so a text is not
found. -/
def TenantKey.retention (retentions : List Retention) : TenantKey → Option Retention
  | uuid tenantUuid => retentions.find? fun retention => retention.tenantUuid = tenantUuid
  | text _ => none

/-- `_get_tenants_uuids`; the order of the rows of the table is a parameter. -/
def getTenantsUuids (order : SetOrder) (tables : Tables) : Option TenantKey → List TenantKey
  | some (.uuid tenantUuid) => [.uuid tenantUuid]
  | some (.text tenantUuid) =>
      if tenantUuid = "" then (order.visit tables.db.tenants.sort).map .uuid
      else [.text tenantUuid]
  | none => (order.visit tables.db.tenants.sort).map .uuid

/-- The members of a set, in the order in which they are visited. -/
def SetOrder.members (order : SetOrder) (tenantUuids : Finset String) : List String :=
  order.visit tenantUuids.sort

lemma SetOrder.mem_members {order : SetOrder} {tenantUuids : Finset String}
    {tenantUuid : String} : tenantUuid ∈ order.members tenantUuids ↔ tenantUuid ∈ tenantUuids :=
  (order.mem_visit _ _).trans (Finset.mem_sort _)

lemma SetOrder.nodup_members (order : SetOrder) (tenantUuids : Finset String) :
    (order.members tenantUuids).Nodup :=
  order.nodup _

/-- The duration of some days. -/
def daysDuration (days : ℤ) : ℤ := days * (24 * 60 * 60 * 1000000)

/-! ### The purgers -/

/-- What a purger is made of: where its days to keep come from, the files of the rows of
a tenant that are older than a date, and what becomes of these rows. -/
structure Purger where
  tenantDays : Retention → Option ℤ
  defaultDays : RetentionConfig → ℤ
  /-- The default of the code. -/
  default : ℤ
  paths : String → DateTime → Tables → List String
  forget : String → DateTime → Tables → Tables

namespace Purger

variable (p : Purger) (daysToKeep : ℤ) (now : DateTime)

/-- The days to keep of a tenant. -/
def days (config : RetentionConfig) (retentions : List Retention) (tenant : TenantKey) : ℤ :=
  extractDaysToKeep ((tenant.retention retentions).bind p.tenantDays) (p.defaultDays config)
    daysToKeep p.default

/-- The date before which the rows of a tenant are purged. -/
def maxDate (config : RetentionConfig) (retentions : List Retention) (tenant : TenantKey) :
    DateTime :=
  now - daysDuration (p.days daysToKeep config retentions tenant)

/-- One tenant of `purge`. -/
def purgeTenant (refused : Finset String) (maxDate : DateTime) (tenantUuid : String) :
    Media Unit := do
  let w ← get
  removeFiles refused (p.paths tenantUuid maxDate w.tables)
  modify fun w => { w with tables := p.forget tenantUuid maxDate w.tables }

/-- `purge`: the time is that of the transaction. -/
def purge (order : SetOrder) (refused : Finset String) (tenant : Option TenantKey) :
    Media Unit := do
  let w ← get
  match w.tables.config with
  | none => throw .noDefaultConfig
  | some config =>
      (getTenantsUuids order w.tables tenant).forM fun tenant =>
        p.purgeTenant refused (p.maxDate daysToKeep now config w.tables.retentions tenant)
          tenant.tenantUuid

end Purger

/-! ### Call logs and recordings -/

/-- A call log of a tenant is older than a date. -/
def StoredCallLog.olderThan (tenantUuid : String) (maxDate : DateTime) (stored : StoredCallLog) :
    Bool :=
  stored.log.date.any (· < maxDate) && stored.log.tenantUuid = some tenantUuid

/-- The files of the recordings of a call log, in the order of the relationship. -/
def CallLog.recordingPaths (log : CallLog) : List String :=
  (sortedBy (·.startTime.getD 0) log.recordings).filterMap (·.filePath)

/-- The files that `_remove_recording_files` is given: those of the call logs that are
joined with their recordings. -/
def oldRecordingPaths (tenantUuid : String) (maxDate : DateTime) (tables : Tables) :
    List String :=
  (tables.db.callLogs.filter fun stored =>
    stored.olderThan tenantUuid maxDate && stored.log.recordings ≠ []).flatMap
      (·.log.recordingPaths)

/-- `CallLogsPurger`. -/
def callLogsPurger : Purger where
  tenantDays := (·.cdrDays)
  defaultDays := (·.cdrDays)
  default := 365
  paths := oldRecordingPaths
  forget tenantUuid maxDate tables :=
    { tables with
      db := tables.db.filterCallLogs fun stored => !stored.olderThan tenantUuid maxDate }

/-- `RecordingsPurger`. -/
def recordingsPurger : Purger where
  tenantDays := (·.recordingDays)
  defaultDays := (·.recordingDays)
  default := 365
  paths := oldRecordingPaths
  forget tenantUuid maxDate tables :=
    { tables with
      db := tables.db.mapRecordings fun stored =>
        if stored.olderThan tenantUuid maxDate then stored.log.recordings.map Recording.delete
        else stored.log.recordings }

/-! ### Exports -/

/-- An export of a tenant is older than a date. -/
def Export.olderThan (tenantUuid : String) (maxDate : DateTime) (e : Export) : Bool :=
  e.requestedAt < maxDate && e.tenantUuid = tenantUuid

/-- `ExportsPurger`. -/
def exportsPurger : Purger where
  tenantDays := (·.exportDays)
  defaultDays := (·.exportDays)
  default := 2
  paths tenantUuid maxDate tables :=
    (tables.exports.filter (·.olderThan tenantUuid maxDate)).filterMap (·.filePath)
  forget tenantUuid maxDate tables :=
    { tables with exports := tables.exports.filter fun e => !e.olderThan tenantUuid maxDate }

end CallLogd
