/-
The steps of the service, as its tables and files see them.

Generations, deletions and purges come in any order, and the transactions of a generation
come between anything else.
-/
import CallLogd.Concurrency.System
import CallLogd.Media.History
import CallLogd.Media.PurgeOrder

namespace CallLogd

open Transactions

/-- `new_session` around changes of the tables and the files: if it fails, the tables are
rolled back, and the files are not. -/
def session (m : Media Unit) : Media Unit :=
  ExceptT.mk fun w =>
    match run m w with
    | (.ok (), w') => (.ok (), w')
    | (.error e, w') => (.error e, { w' with tables := w.tables })

lemma run_session {m : Media Unit} {w : World} :
    run (session m) w =
      match run m w with
      | (.ok (), w') => (.ok (), w')
      | (.error e, w') => (.error e, { w' with tables := w.tables }) := rfl

/-- A session completes as its body does, or leaves the tables. -/
lemma run_session_cases {m : Media Unit} {w w' : World} {r : Except MediaError Unit}
    (h : run (session m) w = (r, w')) :
    (r = .ok () ∧ run m w = (.ok (), w')) ∨ (r ≠ .ok () ∧ w'.tables = w.tables) := by
  rw [run_session] at h
  cases hm : run m w with
  | mk r' w₁ =>
      rw [hm] at h
      cases r' with
      | ok =>
          obtain ⟨rfl, rfl⟩ := Prod.mk.inj h
          exact .inl ⟨rfl, rfl⟩
      | error e =>
          obtain ⟨rfl, rfl⟩ := Prod.mk.inj h
          exact .inr ⟨nofun, rfl⟩

/-- What happens to the tables and the files: any step of a history, a transaction of any
generation, or a purge, whose session may roll the tables back. -/
inductive ServiceStep : World → World → Prop
  | history {w w' : World} (h : HistoryStep w w') : ServiceStep w w'
  | transaction {g : Generation} {phase : Phase} {step : DaoStep} {m : Dao Phase}
      (h : phase.next g = some (step, m)) (w : World) :
      ServiceStep w { w with tables := { w.tables with db := (run m w.tables.db).2 } }
  | purge (plugin : PurgerPlugin) (daysToKeep : ℤ) (now : DateTime) (order : SetOrder)
      (refused : Finset String) (tenant : Option TenantKey) (w : World) :
      ServiceStep w (run (plugin.purger.purge daysToKeep now order refused tenant) w).2
  | purgeInSession (plugin : PurgerPlugin) (daysToKeep : ℤ) (now : DateTime) (order : SetOrder)
      (refused : Finset String) (tenant : Option TenantKey) (w : World) :
      ServiceStep w
        (run (session (plugin.purger.purge daysToKeep now order refused tenant)) w).2

/-- A preorder holds between the tables before and after a session if it does for its body. -/
lemma rel_run_session {R : Tables → Tables → Prop} (hrefl : ∀ tables, R tables tables)
    {m : Media Unit} {w : World} (h : R w.tables (run m w).2.tables) :
    R w.tables (run (session m) w).2.tables := by
  rcases run_session_cases (Prod.mk.eta : _ = run (session m) w).symm with ⟨-, hm⟩ | ⟨-, htables⟩
  · rwa [hm] at h
  · exact htables ▸ hrefl w.tables

/-- A preorder holds between the tables before and after a purge if it does for the rows of
one tenant, wherever the purge stops. -/
lemma rel_run_purge {R : Tables → Tables → Prop} (hrefl : ∀ tables, R tables tables)
    (htrans : ∀ tables₁ tables₂ tables₃, R tables₁ tables₂ → R tables₂ tables₃ →
      R tables₁ tables₃) {p : Purger}
    (h : ∀ tenantUuid maxDate tables, R tables (p.forget tenantUuid maxDate tables))
    {daysToKeep : ℤ} {now : DateTime} {order : SetOrder} {refused : Finset String}
    {tenant : Option TenantKey} {w : World} :
    R w.tables (run (p.purge daysToKeep now order refused tenant) w).2.tables := by
  have hloop : ∀ (dates : TenantKey → DateTime) (tenants : List TenantKey) (w : World),
      R w.tables (run (tenants.forM fun tenant =>
        p.purgeTenant refused (dates tenant) tenant.tenantUuid) w).2.tables := by
    intro dates tenants
    induction tenants with
    | nil => exact fun w => hrefl w.tables
    | cons tenant tenants ih =>
        intro w
        refine rel_run_bind (R := fun w w' : World => R w.tables w'.tables)
          (fun _ _ _ => htrans _ _ _) ?_ fun _ w _ => ih w
        rw [Purger.run_purgeTenant]
        cases Files.removeAll refused (p.paths tenant.tenantUuid (dates tenant) w.tables)
            w.files with
        | mk r files =>
            cases r with
            | ok => exact h _ _ _
            | error e => exact hrefl w.tables
  cases hconfig : w.tables.config with
  | none =>
      rw [Purger.run_purge_of_none hconfig]
      exact hrefl w.tables
  | some config =>
      rw [Purger.purge, run_bind_of_ok run_get, hconfig]
      exact hloop _ _ w

/-! ### The call logs -/

section Later

variable {db db' : Database} {daysToKeep : ℤ} {now : DateTime} {order : SetOrder}
  {refused : Finset String} {tenant : Option TenantKey} {w w' : World}

/-- The transactions of a generation delete call logs and create new ones. -/
lemma later_of_moves {g : Generation} {phase phase' : Phase} {step : DaoStep}
    (h : Phase.Moves g db phase step db' phase') : db.Later db' := by
  refine .of_kept (P := fun _ => True) ?_
  cases h with
  | fetchCels | unassociate | createTenants | refuseTenants | fail | associate =>
      exact .of_subset le_rfl (List.Subset.refl _)
  | deleteCallLogs => exact .filterCallLogs _ _
  | createCallLogs => exact .insertCallLogs fun _ _ => trivial

lemma later_run_purge (plugin : PurgerPlugin) : w.tables.db.Later
    (run (plugin.purger.purge daysToKeep now order refused tenant) w).2.tables.db := by
  have hpurge : ∀ p : Purger, (∀ tenantUuid maxDate (tables : Tables),
      tables.db.Later (p.forget tenantUuid maxDate tables).db) →
        w.tables.db.Later (run (p.purge daysToKeep now order refused tenant) w).2.tables.db :=
    fun p hp => rel_run_purge (R := fun tables tables' => tables.db.Later tables'.db)
      (fun _ => .refl) (fun _ _ _ => .trans) hp
  cases plugin with
  | callLogs =>
      exact hpurge callLogsPurger fun _ _ tables =>
        .of_kept (P := fun _ => True) (.filterCallLogs tables.db _)
  | exports => exact hpurge exportsPurger fun _ _ _ => .refl
  | recordings => exact (HistoryStep.purge daysToKeep now order refused tenant w).later

/-- Whatever happens, call logs and recordings are kept or deleted, and new call logs have
new ids. -/
lemma ServiceStep.later (h : ServiceStep w w') : w.tables.db.Later w'.tables.db := by
  cases h with
  | history h => exact h.later
  | transaction h w => exact later_of_moves (Phase.moves_of_next h w.tables.db)
  | purge plugin => exact later_run_purge plugin
  | purgeInSession plugin =>
      exact rel_run_session (R := fun tables tables' => tables.db.Later tables'.db)
        (fun _ => .refl) (later_run_purge plugin)

end Later

end CallLogd
