/-
`CallLogsWriter` and `CallLogsManager`.

A parameter `faults` says which transactions fail.  The publication of the new
call logs on the bus comes last and touches no database, so it is not part of a run here.
-/
import CallLogd.Database.Queries

namespace CallLogd

/-- The transactions of the manager, in the order in which they come. -/
inductive DaoStep where
  | fetchCels
  | deleteCallLogs
  | unassociate
  | createTenants
  | createCallLogs
  | associate
deriving DecidableEq, Repr

/-- No transaction fails. -/
def noFault : DaoStep → Bool := fun _ => false

/-- One transaction fails. -/
def failAt (step : DaoStep) : DaoStep → Bool := fun s => s = step

namespace CallLogsWriter

/-- The tenants of the new call logs. -/
def tenantUuids (callLogs : List CallLog) : Finset String :=
  (callLogs.filterMap (·.tenantUuid)).toFinset

/-- `write`. -/
def write (faults : DaoStep → Bool) (callLogs : CallLogsCreation) : Dao Unit := do
  CallLogDAO.deleteFromList (faults .deleteCallLogs) callLogs.callLogsToDelete
  CELDAO.unassociateAllFromCallLogIds (faults .unassociate) callLogs.callLogsToDelete
  TenantDAO.createAllUuidsIfNotExist (faults .createTenants) (tenantUuids callLogs.newCallLogs)
  let created ← CallLogDAO.createFromList (faults .createCallLogs) callLogs.newCallLogs
  CELDAO.associateAllToCallLogs (faults .associate) created

end CallLogsWriter

namespace CallLogsManager

/-- `datetime.now() - timedelta(days=days)`. -/
def daysBefore (now : DateTime) (days : ℕ) : DateTime := now - days * 86400000000

/-- `delete_all`. -/
def deleteAll (faults : DaoStep → Bool) : Dao Unit := do
  let _ ← CallLogDAO.delete (faults .deleteCallLogs) none
  CELDAO.unassociateAll (faults .unassociate)

/-- `delete_from_days`. -/
def deleteFromDays (faults : DaoStep → Bool) (now : DateTime) (days : ℕ) : Dao Unit := do
  let deleted ← CallLogDAO.delete (faults .deleteCallLogs) (some (daysBefore now days))
  CELDAO.unassociateAllFromCallLogIds (faults .unassociate) deleted.toFinset

/-- `_generate_from_cels`. -/
def generateFromCels (gen : CallLogsGenerator) (faults : DaoStep → Bool) (cels : List CELRow) :
    Dao Unit :=
  CallLogsWriter.write faults (gen.fromCel cels)

/-- The requests that fetch the CELs of a generation. -/
inductive Fetch where
  | fromLinkedId (linkedId : String)
  | lastUnprocessed (limit : Option ℕ) (older : Option DateTime)
deriving DecidableEq

/-- The CELs that a request returns. -/
def Fetch.cels (db : Database) : Fetch → List CELRow
  | .fromLinkedId linkedId => CELDAO.findFromLinkedId linkedId db
  | .lastUnprocessed limit older => CELDAO.findLastUnprocessed limit older db

/-- A generation: its CELs are fetched in a transaction of their own. -/
def generate (gen : CallLogsGenerator) (faults : DaoStep → Bool) (fetch : Fetch) : Dao Unit := do
  let cels ← newSession (faults .fetchCels) fun db => .ok (fetch.cels db, db)
  generateFromCels gen faults cels

/-- `generate_from_days`. -/
def generateFromDays (gen : CallLogsGenerator) (faults : DaoStep → Bool) (now : DateTime)
    (days : ℕ) : Dao Unit :=
  generate gen faults (.lastUnprocessed none (some (daysBefore now days)))

/-- `generate_from_count`. -/
def generateFromCount (gen : CallLogsGenerator) (faults : DaoStep → Bool) (celCount : ℕ) :
    Dao Unit :=
  generate gen faults (.lastUnprocessed (some celCount) none)

/-- `generate_from_linked_id`. -/
def generateFromLinkedId (gen : CallLogsGenerator) (faults : DaoStep → Bool)
    (linkedId : String) : Dao Unit :=
  generate gen faults (.fromLinkedId linkedId)

end CallLogsManager

end CallLogd
