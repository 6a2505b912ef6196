/-
The life of the service with its tenants.

A tenant is removed when wazo-auth says so, and the synchronisation removes all those that
have disappeared; the rest of the service goes on between the removals.
-/
import CallLogd.Media.Sync

namespace CallLogd

open Transactions

/-! ### Steps -/

/-- The tenants whose removals are committed. -/
def committed (r : Except MediaError Unit) (tenantUuids : List String) : List String :=
  match r with
  | .ok () => tenantUuids
  | .error _ => []

/-- What happens to the tables and the files, with the tenants that are removed in it. -/
inductive LifeStep : World → List String → World → Prop
  | service {w w' : World} (h : ServiceStep w w') : LifeStep w [] w'
  /-- `_auth_tenant_deleted`. -/
  | removal {now : DateTime} {order : SetOrder} {refused : Finset String}
      {tenantUuid : String} {r : Except MediaError Unit} {w w' : World}
      (h : run (session (removeTenant now order refused tenantUuid)) w = (r, w')) :
      LifeStep w (committed r [tenantUuid]) w'
  | sync {now : DateTime} {order : SetOrder} {refused authTenants : Finset String}
      {r : Except MediaError Unit} {w w' : World}
      (h : run (SyncDb.main now order refused authTenants) w = (r, w')) :
      LifeStep w (committed r (order.members (SyncDb.removedTenants authTenants w.tables))) w'

/-! ### Sessions of removals -/

section

variable {now : DateTime} {order : SetOrder} {refused authTenants : Finset String}
  {tenantUuid : String} {tenantUuids : List String} {r : Except MediaError Unit} {w w' : World}

/-- The removal of one tenant is that of a list of one. -/
lemma run_session_removeTenant : run (session (removeTenant now order refused tenantUuid)) w =
    run (session ([tenantUuid].forM fun tenantUuid =>
      removeTenant now order refused tenantUuid)) w := by
  have hbody : run ([tenantUuid].forM fun tenantUuid =>
      removeTenant now order refused tenantUuid) w =
        run (removeTenant now order refused tenantUuid >>= fun _ => pure ()) w := rfl
  rw [run_session, run_session, hbody, run_bind]
  cases run (removeTenant now order refused tenantUuid) w with
  | mk r w' => cases r <;> rfl

/-- A synchronisation removes the tenants that have disappeared. -/
lemma SyncDb.run_main_eq : run (SyncDb.main now order refused authTenants) w =
    run (session ((order.members (removedTenants authTenants w.tables)).forM fun tenantUuid =>
      removeTenant now order refused tenantUuid)) w := by
  rw [main, run_session, run_bind_of_ok run_get, run_session]

/-- A step of the life is one of the service, or a session that removes tenants. -/
lemma LifeStep.service_or_removes {removed : List String} (h : LifeStep w removed w') :
    (removed = [] ∧ ServiceStep w w') ∨
      ∃ now order refused tenantUuids r, removed = committed r tenantUuids ∧
        run (session (tenantUuids.forM fun tenantUuid =>
          removeTenant now order refused tenantUuid)) w = (r, w') := by
  cases h with
  | service h => exact .inl ⟨rfl, h⟩
  | removal h => exact .inr ⟨_, _, _, _, _, rfl, run_session_removeTenant.symm.trans h⟩
  | sync h => exact .inr ⟨_, _, _, _, _, rfl, SyncDb.run_main_eq.symm.trans h⟩

/-- A preorder between the tables holds after some removals if it does after one. -/
lemma rel_run_forM_removeTenant {R : Tables → Tables → Prop} (hrefl : ∀ tables, R tables tables)
    (htrans : ∀ tables₁ tables₂ tables₃, R tables₁ tables₂ → R tables₂ tables₃ →
      R tables₁ tables₃)
    (hpurge : ∀ (plugin : PurgerPlugin) tenant (w : World),
      R w.tables (run (plugin.purger.purge 0 now order refused tenant) w).2.tables)
    (hdelete : ∀ tenantUuid (tables : Tables), R tables (tables.deleteTenant tenantUuid)) :
    R w.tables (run (tenantUuids.forM fun tenantUuid =>
      removeTenant now order refused tenantUuid) w).2.tables := by
  have hbind : ∀ {α : Type} {m : Media α} {f : α → Media Unit} (w : World),
      R w.tables (run m w).2.tables → (∀ a w, R w.tables (run (f a) w).2.tables) →
        R w.tables (run (m >>= f) w).2.tables := fun w hm hf =>
    rel_run_bind (R := fun w w' : World => R w.tables w'.tables) (fun _ _ _ => htrans _ _ _) hm
      fun a w _ => hf a w
  induction tenantUuids generalizing w with
  | nil => exact hrefl w.tables
  | cons tenantUuid tenantUuids ih =>
      refine hbind w ?_ fun _ w => ih
      refine hbind w (hpurge .callLogs _ w) fun _ w => ?_
      refine hbind w (hpurge .exports _ w) fun _ w => ?_
      refine hbind w (hpurge .recordings _ w) fun _ w => ?_
      exact hdelete tenantUuid w.tables

lemma later_deleteTenant (tables : Tables) :
    tables.db.Later (tables.deleteTenant tenantUuid).db :=
  .of_kept (P := fun _ => True)
    (.of_subset le_rfl fun _ hstored => List.mem_of_mem_filter hstored)

/-- Whatever happens, call logs and recordings are kept or deleted, and new call logs have
new ids. -/
lemma LifeStep.later {removed : List String} (h : LifeStep w removed w') :
    w.tables.db.Later w'.tables.db := by
  rcases h.service_or_removes with ⟨-, h⟩ | ⟨now, order, refused, tenantUuids, r, -, h⟩
  · exact h.later
  · have hremoval : w.tables.db.Later (run (session (tenantUuids.forM fun tenantUuid =>
        removeTenant now order refused tenantUuid)) w).2.tables.db :=
      rel_run_session (R := fun tables tables' => tables.db.Later tables'.db) (fun _ => .refl) <|
        rel_run_forM_removeTenant (R := fun tables tables' => tables.db.Later tables'.db)
          (fun _ => .refl) (fun _ _ _ => .trans) (fun plugin _ _ => later_run_purge plugin)
          fun _ tables => later_deleteTenant tables
    rwa [h] at hremoval

end

end CallLogd
