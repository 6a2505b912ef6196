/-
Two generations that run at the same time: the consumer of the daemon, and the
sweep command.

Nothing locks the CELs between the transactions of a generation, so the
transactions of the two can come in any order.
-/
import CallLogd.Database.Runs

namespace CallLogd

open Transactions

/-- The database after call logs have been associated. -/
def Database.associateAll (callLogs : List StoredCallLog) (db : Database) : Database :=
  db.mapCallLogIds fun cel => lastAssociated callLogs cel.id cel.callLogId

/-- The two generations. -/
inductive Side where
  | consumer
  | sweep
deriving DecidableEq, Repr

/-- The other generation. -/
def Side.other : Side → Side
  | consumer => sweep
  | sweep => consumer

/-- A generation: the generator with the answers of confd, and what is fetched. -/
structure Generation where
  gen : CallLogsGenerator
  fetch : CallLogsManager.Fetch

/-- How far a generation has come, with the values that it carries between its
transactions. -/
inductive Phase where
  | start
  | fetched (creation : CallLogsCreation)
  | deleted (creation : CallLogsCreation)
  | unassociated (creation : CallLogsCreation)
  | tenantsCreated (creation : CallLogsCreation)
  | created (creation : CallLogsCreation) (callLogs : List StoredCallLog)
  | finished (creation : CallLogsCreation) (callLogs : List StoredCallLog)
  | failed

namespace Phase

/-- The next transaction of a generation, and the phase that it leads to. -/
def next (g : Generation) : Phase → Option (DaoStep × Dao Phase)
  | start => some (.fetchCels, do
      let cels ← newSession false fun db => .ok (g.fetch.cels db, db)
      return fetched (g.gen.fromCel cels))
  | fetched c => some (.deleteCallLogs, do
      CallLogDAO.deleteFromList false c.callLogsToDelete
      return deleted c)
  | deleted c => some (.unassociate, do
      CELDAO.unassociateAllFromCallLogIds false c.callLogsToDelete
      return unassociated c)
  | unassociated c => some (.createTenants, do
      TenantDAO.createAllUuidsIfNotExist false (CallLogsWriter.tenantUuids c.newCallLogs)
      return tenantsCreated c)
  | tenantsCreated c => some (.createCallLogs, do
      return created c (← CallLogDAO.createFromList false c.newCallLogs))
  | created c callLogs => some (.associate, do
      CELDAO.associateAllToCallLogs false callLogs
      return finished c callLogs)
  | finished _ _ => none
  | failed => none

/-- The phase after a transaction: a generation ends when one fails. -/
def after : Except DaoError Phase → Phase
  | .ok phase => phase
  | .error _ => failed

/-- What remains to do for a generation. -/
def rest (g : Generation) : Phase → Dao Unit
  | start => CallLogsManager.generate g.gen noFault g.fetch
  | fetched c => CallLogsWriter.write noFault c
  | deleted c => do
      CELDAO.unassociateAllFromCallLogIds false c.callLogsToDelete
      CallLogsWriter.storeNew noFault c.newCallLogs
  | unassociated c => CallLogsWriter.storeNew noFault c.newCallLogs
  | tenantsCreated c => do
      CELDAO.associateAllToCallLogs false (← CallLogDAO.createFromList false c.newCallLogs)
  | created _ callLogs => CELDAO.associateAllToCallLogs false callLogs
  | finished _ _ => pure ()
  | failed => throw .refused

/-- The phases cut a generation at its transactions. -/
lemma run_rest {g : Generation} {p : Phase} {step : DaoStep} {m : Dao Phase}
    (h : p.next g = some (step, m)) (db : Database) :
    run (p.rest g) db = run (m >>= rest g) db := by
  cases p with
  | finished _ _ | failed => cases h
  | _ =>
      obtain ⟨rfl, rfl⟩ := Prod.mk.inj (Option.some.inj h)
      simp only [bind_assoc, pure_bind]
      rfl

/-- A generation has no transaction left. -/
def ended : Phase → Bool
  | finished _ _ => true
  | failed => true
  | _ => false

/-- What the next transaction of a generation does. -/
inductive Moves (g : Generation) : Database → Phase → DaoStep → Database → Phase → Prop
  | fetchCels {db : Database} :
      Moves g db start .fetchCels db (fetched (g.gen.fromCel (g.fetch.cels db)))
  | deleteCallLogs {db : Database} {c : CallLogsCreation} :
      Moves g db (fetched c) .deleteCallLogs (db.deleteCallLogs c.callLogsToDelete) (deleted c)
  | unassociate {db : Database} {c : CallLogsCreation} :
      Moves g db (deleted c) .unassociate (CELDAO.unassociate c.callLogsToDelete db)
        (unassociated c)
  | createTenants {db : Database} {c : CallLogsCreation} :
      Moves g db (unassociated c) .createTenants
        (db.insertTenants (CallLogsWriter.tenantUuids c.newCallLogs)) (tenantsCreated c)
  | refuseTenants {db : Database} {c : CallLogsCreation} :
      Moves g db (unassociated c) .createTenants db failed
  | createCallLogs {db : Database} {c : CallLogsCreation} :
      Moves g db (tenantsCreated c) .createCallLogs (db.insertCallLogs c.newCallLogs)
        (created c (numbered db.nextCallLogId c.newCallLogs))
  | fail {db : Database} {c : CallLogsCreation} :
      Moves g db (tenantsCreated c) .createCallLogs db failed
  | associate {db : Database} {c : CallLogsCreation} {callLogs : List StoredCallLog} :
      Moves g db (created c callLogs) .associate
        (db.associateAll callLogs) (finished c callLogs)

lemma moves_of_next {g : Generation} {p : Phase} {step : DaoStep} {m : Dao Phase}
    (h : p.next g = some (step, m)) (db : Database) :
    Moves g db p step (run m db).2 (after (run m db).1) := by
  cases p with
  | finished _ _ | failed => cases h
  | start =>
      obtain ⟨rfl, rfl⟩ := Prod.mk.inj (Option.some.inj h)
      exact .fetchCels
  | fetched c =>
      obtain ⟨rfl, rfl⟩ := Prod.mk.inj (Option.some.inj h)
      exact .deleteCallLogs
  | deleted c =>
      obtain ⟨rfl, rfl⟩ := Prod.mk.inj (Option.some.inj h)
      rw [run_bind_of_ok (by rw [run_unassociateAllFromCallLogIds, if_neg (by simp)])]
      exact .unassociate
  | unassociated c =>
      obtain ⟨rfl, rfl⟩ := Prod.mk.inj (Option.some.inj h)
      have hrun : run (TenantDAO.createAllUuidsIfNotExist false
          (CallLogsWriter.tenantUuids c.newCallLogs)) db = _ :=
        run_createAllUuidsIfNotExist false _
      rw [if_neg (by simp)] at hrun
      split at hrun
      · rw [run_bind_of_ok hrun]
        exact .createTenants
      · rw [run_bind_of_error hrun]
        exact .refuseTenants
  | tenantsCreated c =>
      obtain ⟨rfl, rfl⟩ := Prod.mk.inj (Option.some.inj h)
      have hrun : run (CallLogDAO.createFromList false c.newCallLogs) db = _ :=
        run_createFromList false
      rw [if_neg (by simp)] at hrun
      split at hrun
      · next created db' hcreate =>
          obtain ⟨rfl, rfl⟩ := createAll_eq_ok hcreate
          rw [run_bind_of_ok hrun]
          exact .createCallLogs
      · rw [run_bind_of_error hrun]
        exact .fail
  | created c callLogs =>
      obtain ⟨rfl, rfl⟩ := Prod.mk.inj (Option.some.inj h)
      rw [run_bind_of_ok (by rw [run_associateAllToCallLogs, if_neg (by simp)]), foldl_associate]
      exact .associate

end Phase

/-- The databases and the two generations, with the transactions done so far. -/
structure System where
  db : Database
  phases : Side → Phase
  trace : List (Side × DaoStep)

namespace System

/-- Nothing has been done. -/
def start (db : Database) : System := ⟨db, fun _ => .start, []⟩

/-- The next transaction of one of the generations. -/
def step (gens : Side → Generation) (s : System) (side : Side) : Option System :=
  ((s.phases side).next (gens side)).map fun next =>
    let outcome := run next.2 s.db
    { db := outcome.2
      phases := Function.update s.phases side (.after outcome.1)
      trace := s.trace ++ [(side, next.1)] }

/-- The transactions of the generations, in the order of a schedule. -/
def execute (gens : Side → Generation) (s : System) (schedule : List Side) : Option System :=
  schedule.foldlM (step gens) s

/-- Both generations have ended. -/
def Ended (s : System) : Prop := (s.phases .consumer).ended ∧ (s.phases .sweep).ended

instance (s : System) : Decidable s.Ended := inferInstanceAs (Decidable (_ ∧ _))

variable {gens : Side → Generation} {s s' : System} {side : Side}

lemma step_eq_some (h : s.step gens side = some s') :
    ∃ step db phase, Phase.Moves (gens side) s.db (s.phases side) step db phase ∧
      s' = ⟨db, Function.update s.phases side phase, s.trace ++ [(side, step)]⟩ := by
  obtain ⟨⟨step, m⟩, hnext, rfl⟩ := Option.map_eq_some_iff.1 h
  exact ⟨_, _, _, Phase.moves_of_next hnext s.db, rfl⟩

end System

end CallLogd
