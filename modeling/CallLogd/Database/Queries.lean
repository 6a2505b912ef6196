/-
The two databases of the service and the requests that it makes to them:
`database/queries`.

The CELs and the call logs are in different databases, so each method is one
transaction on one of them.  A parameter `fault` makes the transaction fail.  The
order of a table is the order in which the rows of equal sort keys are returned.
-/
import CallLogd.Lib.Transactions
import CallLogd.Database.Columns
import CallLogd.Generator

namespace CallLogd

open Sequences Transactions

/-! ### Tables -/

/-- A row of the table of call logs, with the rows that belong to it. -/
structure StoredCallLog where
  id : ℕ
  log : CallLog
deriving DecidableEq

/-- The databases, with their primary keys and the sequence of call-log ids. -/
@[ext]
structure Database where
  tenants : Finset String := ∅
  callLogs : List StoredCallLog := []
  cels : List CELRow := []
  /-- The next value of the sequence. -/
  nextCallLogId : ℕ := 1
  callLogs_nodup : (callLogs.map (·.id)).Nodup := by decide
  callLogs_lt : ∀ stored ∈ callLogs, stored.id < nextCallLogId := by decide
  callLogs_pos : ∀ stored ∈ callLogs, 0 < stored.id := by decide
  nextCallLogId_pos : 0 < nextCallLogId := by decide
  cels_nodup : (cels.map (·.id)).Nodup := by decide

namespace Database

/-- The database without rows. -/
def empty : Database := {}

/-- Keep the call logs that satisfy a predicate. -/
def filterCallLogs (p : StoredCallLog → Bool) (db : Database) : Database :=
  { db with
    callLogs := db.callLogs.filter p
    callLogs_nodup := db.callLogs_nodup.sublist (List.filter_sublist.map _)
    callLogs_lt := fun stored h => db.callLogs_lt stored (List.mem_of_mem_filter h)
    callLogs_pos := fun stored h => db.callLogs_pos stored (List.mem_of_mem_filter h) }

/-- Give each CEL the call log that a function computes for it. -/
def mapCallLogIds (f : CELRow → Option ℕ) (db : Database) : Database :=
  { db with
    cels := db.cels.map fun cel => { cel with callLogId := f cel }
    cels_nodup := by simpa [Function.comp_def] using db.cels_nodup }

/-- Insert a call log with the next id of the sequence. -/
def insertCallLog (log : CallLog) (db : Database) : Database :=
  { db with
    callLogs := db.callLogs ++ [⟨db.nextCallLogId, log⟩]
    nextCallLogId := db.nextCallLogId + 1
    callLogs_nodup := by
      have hnew : db.nextCallLogId ∉ db.callLogs.map (·.id) := fun h => by
        obtain ⟨stored, hstored, hid⟩ := List.mem_map.1 h
        exact absurd hid (db.callLogs_lt stored hstored).ne
      rw [List.map_append, List.map_singleton, ← List.concat_eq_append]
      exact (List.nodup_concat _ _).2 ⟨hnew, db.callLogs_nodup⟩
    callLogs_lt := by
      intro stored h
      rcases List.mem_append.1 h with h | h
      · exact (db.callLogs_lt stored h).trans (Nat.lt_succ_self _)
      · rw [List.mem_singleton.1 h]
        exact Nat.lt_succ_self _
    callLogs_pos := by
      intro stored h
      rcases List.mem_append.1 h with h | h
      · exact db.callLogs_pos stored h
      · rw [List.mem_singleton.1 h]
        exact db.nextCallLogId_pos
    nextCallLogId_pos := Nat.succ_pos _ }

/-- Insert tenants. -/
def insertTenants (tenantUuids : Finset String) (db : Database) : Database :=
  { db with tenants := db.tenants ∪ tenantUuids }

end Database

/-- The exceptions of the DAO. -/
inductive DaoError where
  | databaseServiceUnavailable
  /-- A value that its column does not take, or a row that violates a constraint. -/
  | refused
deriving DecidableEq, Repr

/-- A program that uses the DAO. -/
abbrev Dao (α : Type) := Program Database DaoError α

/-- `new_session`: the effect of the body is committed, or rolled back if the
body raises or the database fails. -/
def newSession {α : Type} (fault : Bool) (body : Database → Except DaoError (α × Database)) :
    Dao α :=
  transaction fun db => if fault then .error .databaseServiceUnavailable else body db

/-! ### Call logs -/

/-- The identifiers of recordings that do not depend on a random draw. -/
def pathUuids (log : CallLog) : List String :=
  log.recordings.filterMap fun recording =>
    match recording.uuid with
    | some (.ofPath text) => some text
    | _ => none

/-- The constraints on a new call log: its columns take its values, its tenant exists, its
date and those of its recordings are set, the keys of its details are known, and the
identifiers of its recordings are unused. -/
def Database.accepts (db : Database) (log : CallLog) : Prop :=
  log.Fits ∧ log.tenantUuid.any (· ∈ db.tenants) ∧ log.date ≠ none ∧
    (∀ recording ∈ log.recordings, recording.startTime ≠ none ∧ recording.endTime ≠ none) ∧
    (∀ detail ∈ log.destinationDetails, detail.1 ∈ destinationDetailsKeys) ∧
    (pathUuids log).Nodup ∧
    ∀ stored ∈ db.callLogs, ∀ uuid ∈ pathUuids log, uuid ∉ pathUuids stored.log

instance (db : Database) (log : CallLog) : Decidable (db.accepts log) :=
  inferInstanceAs (Decidable (_ ∧ _ ∧ _ ∧ _ ∧ _ ∧ _ ∧ _))

namespace CallLogDAO

/-- One call log of `create_from_list`. -/
def create (log : CallLog) (db : Database) : Except DaoError (StoredCallLog × Database) :=
  if db.accepts log then .ok (⟨db.nextCallLogId, log⟩, db.insertCallLog log.columns)
  else .error .refused

/-- The loop of `create_from_list`. -/
def createAll : List CallLog → Database → Except DaoError (List StoredCallLog × Database)
  | [], db => .ok ([], db)
  | log :: logs, db => do
      let (created, db) ← create log db
      let (others, db) ← createAll logs db
      return (created :: others, db)

/-- `create_from_list`: the call logs with their new ids. -/
def createFromList (fault : Bool) (callLogs : List CallLog) : Dao (List StoredCallLog) :=
  if callLogs = [] then pure [] else newSession fault (createAll callLogs)

/-- `delete_from_list`. -/
def deleteFromList (fault : Bool) (callLogIds : Finset ℕ) : Dao Unit :=
  newSession fault fun db => .ok ((), db.filterCallLogs fun stored => stored.id ∉ callLogIds)

/-- The call logs that `delete` matches: those from `older` on, or all. -/
def matchesOlder (older : Option DateTime) (stored : StoredCallLog) : Bool :=
  older.all fun older => stored.log.date.any fun date => older ≤ date

/-- `delete`: the ids of the call logs that it deletes. -/
def delete (fault : Bool) (older : Option DateTime) : Dao (List ℕ) :=
  newSession fault fun db =>
    .ok ((db.callLogs.filter (matchesOlder older)).map (·.id),
      db.filterCallLogs fun stored => !matchesOlder older stored)

end CallLogDAO

namespace TenantDAO

/-- `create_all_uuids_if_not_exist`. -/
def createAllUuidsIfNotExist (fault : Bool) (tenantUuids : Finset String) : Dao Unit :=
  newSession fault fun db =>
    if ∀ tenantUuid ∈ tenantUuids, Column.uuid tenantUuid then
      .ok ((), db.insertTenants tenantUuids)
    else .error .refused

end TenantDAO

/-! ### CELs -/

namespace CELDAO

/-- One call log of `associate_all_to_call_logs`. -/
def associate (db : Database) (created : StoredCallLog) : Database :=
  if created.log.celIds = [] then db
  else
    db.mapCallLogIds fun cel =>
      if cel.id ∈ created.log.celIds then some created.id else cel.callLogId

/-- `associate_all_to_call_logs`. -/
def associateAllToCallLogs (fault : Bool) (callLogs : List StoredCallLog) : Dao Unit :=
  newSession fault fun db => .ok ((), callLogs.foldl associate db)

/-- The CELs of some call logs lose them. -/
def unassociate (callLogIds : Finset ℕ) (db : Database) : Database :=
  db.mapCallLogIds fun cel =>
    if cel.callLogId.any (· ∈ callLogIds) then none else cel.callLogId

/-- `unassociate_all_from_call_log_ids`. -/
def unassociateAllFromCallLogIds (fault : Bool) (callLogIds : Finset ℕ) : Dao Unit :=
  if callLogIds = ∅ then pure ()
  else newSession fault fun db => .ok ((), unassociate callLogIds db)

/-- `unassociate_all`. -/
def unassociateAll (fault : Bool) : Dao Unit :=
  newSession fault fun db => .ok ((), db.mapCallLogIds fun _ => none)

/-- The linkedids of the rows with some uniqueids. -/
def correlatedLinkedids (cels : List CELRow) (uniqueids : Finset String) : Finset String :=
  ((cels.filter fun cel => cel.uniqueid ∈ uniqueids).map (·.linkedid)).toFinset

/-- `_correlated_cels_by_uniqueid`: the CELs of all the linkedids that have a
channel of the base CELs. -/
def correlatedCelsByUniqueid (cels baseCels : List CELRow) : List CELRow :=
  let uniqueids := (baseCels.map (·.uniqueid)).toFinset
  let linkedids := correlatedLinkedids cels uniqueids
  sortedBy (·.eventtime) (cels.filter fun cel => cel.linkedid ∈ linkedids)

/-- The CELs that `find_last_unprocessed` starts from, the latest first. -/
def lastUnprocessed (cels : List CELRow) (limit : Option ℕ) (older : Option DateTime) :
    List CELRow :=
  let unprocessed := sortedBy (fun cel => OrderDual.toDual cel.eventtime)
    (cels.filter fun cel => cel.callLogId = none ∧ cel.channame ≠ "Message/ast_msg_queue")
  match limit, older with
  | some (limit + 1), _ => unprocessed.take (limit + 1)
  | _, some older => unprocessed.filter fun cel => older ≤ cel.eventtime
  | _, none => unprocessed

/-- `find_last_unprocessed`, on the rows of the table. -/
def findLastUnprocessed (limit : Option ℕ) (older : Option DateTime) (db : Database) :
    List CELRow :=
  correlatedCelsByUniqueid db.cels (lastUnprocessed db.cels limit older)

/-- `find_from_linked_id`, on the rows of the table. -/
def findFromLinkedId (linkedId : String) (db : Database) : List CELRow :=
  correlatedCelsByUniqueid db.cels (db.cels.filter fun cel => cel.linkedid = linkedId)

end CELDAO

end CallLogd
