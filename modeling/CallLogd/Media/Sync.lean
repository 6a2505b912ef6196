/-
The synchronisation of the tenants: `sync_db.py`.

All the tenants that have disappeared are removed in one session, tenant by tenant.  A
removal that is refused rolls back the rows of all of them, while the files that are
removed by then stay so: a later synchronisation leaves what it would have left without
the failed one (`sync_again`).
-/
import CallLogd.Media.Removal
import CallLogd.Media.Service

namespace CallLogd

open Sequences Transactions

/-! ### The command -/

namespace SyncDb

/-- `removed_tenants`. -/
def removedTenants (authTenants : Finset String) (tables : Tables) : Finset String :=
  tables.db.tenants \ authTenants

/-- The session of `main`, with the tenants of wazo-auth. -/
def main (now : DateTime) (order : SetOrder) (refused authTenants : Finset String) : Media Unit :=
  session do
    let w ← get
    (order.members (removedTenants authTenants w.tables)).forM fun tenantUuid =>
      removeTenant now order refused tenantUuid

end SyncDb

/-! ### Several tenants -/

/-- Delete tenants, and the rows that refer to them. -/
def Tables.deleteTenants (removed : Finset String) (tables : Tables) : Tables where
  db :=
    { tables.db.filterCallLogs fun stored => stored.log.tenantUuid.all (· ∉ removed) with
      tenants := tables.db.tenants \ removed }
  exports := tables.exports.filter (·.tenantUuid ∉ removed)
  retentions := tables.retentions.filter (·.tenantUuid ∉ removed)
  config := tables.config

section Tables

variable {tables : Tables} {tenantUuid : String} {removed : Finset String}

lemma deleteTenants_empty : tables.deleteTenants ∅ = tables := by
  have hcallLogs : tables.db.callLogs.filter (fun stored =>
      stored.log.tenantUuid.all (· ∉ (∅ : Finset String))) = tables.db.callLogs :=
    List.filter_eq_self.2 fun stored _ => by simp
  have hexports : tables.exports.filter (·.tenantUuid ∉ (∅ : Finset String)) = tables.exports :=
    List.filter_eq_self.2 fun e _ => by simp
  have hretentions : tables.retentions.filter (·.tenantUuid ∉ (∅ : Finset String)) =
      tables.retentions := List.filter_eq_self.2 fun retention _ => by simp
  rw [Tables.deleteTenants, hexports, hretentions]
  refine congrArg (Tables.mk · tables.exports tables.retentions tables.config) ?_
  ext : 1
  · exact Finset.sdiff_empty
  · exact hcallLogs
  · rfl
  · rfl

/-- The tenants are deleted one after the other. -/
lemma deleteTenants_insert : (tables.deleteTenant tenantUuid).deleteTenants removed =
    tables.deleteTenants (insert tenantUuid removed) := by
  have hdb : ((tables.deleteTenant tenantUuid).deleteTenants removed).db =
      (tables.deleteTenants (insert tenantUuid removed)).db := by
    ext : 1
    · exact (Finset.erase_sdiff_comm _ _ _).trans (Finset.sdiff_insert _ _ _).symm
    · refine List.filter_filter.trans (List.filter_congr fun stored _ => ?_)
      cases stored.log.tenantUuid with
      | none => rfl
      | some owner => simp [Bool.and_comm]
    · rfl
    · rfl
  have hexports : ((tables.deleteTenant tenantUuid).deleteTenants removed).exports =
      (tables.deleteTenants (insert tenantUuid removed)).exports := by
    refine List.filter_filter.trans (List.filter_congr fun e _ => ?_)
    simp [Bool.and_comm]
  have hretentions : ((tables.deleteTenant tenantUuid).deleteTenants removed).retentions =
      (tables.deleteTenants (insert tenantUuid removed)).retentions := by
    refine List.filter_filter.trans (List.filter_congr fun retention _ => ?_)
    simp [Bool.and_comm]
  exact (Tables.mk.injEq ..).symm ▸ ⟨hdb, hexports, hretentions, rfl⟩

/-- What a purger does to the rows of a tenant is deleted with it. -/
lemma deleteTenant_forget (plugin : PurgerPlugin) {maxDate : DateTime} :
    (plugin.purger.forget tenantUuid maxDate tables).deleteTenant tenantUuid =
      tables.deleteTenant tenantUuid := by
  cases plugin with
  | callLogs =>
      have hdb : (Tables.deleteTenant tenantUuid
          (callLogsPurger.forget tenantUuid maxDate tables)).db =
            (tables.deleteTenant tenantUuid).db := by
        ext : 1
        · rfl
        · refine List.filter_filter.trans (List.filter_congr fun stored _ => ?_)
          by_cases howner : stored.log.tenantUuid = some tenantUuid
          · simp [howner]
          · simp [howner, StoredCallLog.olderThan]
        · rfl
        · rfl
      exact (Tables.mk.injEq ..).symm ▸ ⟨hdb, rfl, rfl, rfl⟩
  | exports =>
      have hexports : (Tables.deleteTenant tenantUuid
          (exportsPurger.forget tenantUuid maxDate tables)).exports =
            (tables.deleteTenant tenantUuid).exports := by
        refine List.filter_filter.trans (List.filter_congr fun e _ => ?_)
        by_cases howner : e.tenantUuid = tenantUuid
        · simp [howner]
        · simp [howner, Export.olderThan]
      exact (Tables.mk.injEq ..).symm ▸ ⟨rfl, hexports, rfl, rfl⟩
  | recordings =>
      have hdb : (Tables.deleteTenant tenantUuid
          (recordingsPurger.forget tenantUuid maxDate tables)).db =
            (tables.deleteTenant tenantUuid).db := by
        ext : 1
        · rfl
        · refine List.filter_map.trans ?_
          refine (List.map_congr_left fun stored hstored => ?_).trans (List.map_id _)
          have howner : stored.log.tenantUuid ≠ some tenantUuid :=
            of_decide_eq_true (List.mem_filter.1 hstored).2
          have hrecent : stored.olderThan tenantUuid maxDate = false :=
            Bool.and_eq_false_iff.2 (.inr (decide_eq_false howner))
          dsimp only
          rw [hrecent]
          rfl
        · rfl
        · rfl
      exact (Tables.mk.injEq ..).symm ▸ ⟨hdb, rfl, rfl, rfl⟩

end Tables

/-! ### One removal -/

namespace SyncDb

variable {config : RetentionConfig} {now now' : DateTime} {order : SetOrder}
  {refused authTenants : Finset String} {tenantUuid : String} {tables : Tables} {w w' : World}
  {r : Except MediaError Unit} {tenantUuids : List String}

lemma run_purge_text {p : Purger} (htenant : tenantUuid ≠ "")
    (hconfig : w.tables.config = some config) :
    run (p.purge 0 now order refused (some (.text tenantUuid))) w =
      run (p.purgeTenant refused (p.removalDate config now) tenantUuid) w := by
  have hpurge : run (p.purge 0 now order refused (some (.text tenantUuid))) w =
      run (p.purgeTenant refused (p.removalDate config now) tenantUuid >>= fun _ => pure ()) w := by
    rw [Purger.purge, run_bind_of_ok run_get, hconfig]
    dsimp only
    rw [getTenantsUuids, if_neg htenant, ← Purger.maxDate_text]
    rfl
  rw [hpurge, run_bind]
  cases run (p.purgeTenant refused (p.removalDate config now) tenantUuid) w with
  | mk r w' => cases r <;> rfl

/-- A purge that is refused leaves the tables, and has removed some of its files. -/
lemma of_run_purge_text_eq_error {p : Purger} {e : MediaError} (htenant : tenantUuid ≠ "")
    (hrun : run (p.purge 0 now order refused (some (.text tenantUuid))) w = (.error e, w'))
    (hconfig : w.tables.config = some config) :
    w'.tables = w.tables ∧ w'.files ⊆ w.files ∧ ∀ path ∈ w.files, path ∉ w'.files →
      path ∈ p.paths tenantUuid (p.removalDate config now) w.tables := by
  rw [run_purge_text htenant hconfig, Purger.run_purgeTenant] at hrun
  obtain ⟨removed, hsub, hfiles⟩ := Files.removeAll_snd refused w.files
    (p.paths tenantUuid (p.removalDate config now) w.tables)
  cases hremove : Files.removeAll refused
      (p.paths tenantUuid (p.removalDate config now) w.tables) w.files with
  | mk r files =>
      rw [hremove] at hrun hfiles
      cases r with
      | ok => cases hrun
      | error e =>
          obtain rfl : _ = w' := congrArg Prod.snd hrun
          dsimp only at hfiles ⊢
          subst hfiles
          refine ⟨rfl, Finset.sdiff_subset, fun path hpath hremoved => ?_⟩
          refine List.mem_toFinset.1 (hsub ?_)
          by_contra hkept
          exact hremoved (Finset.mem_sdiff.2 ⟨hpath, hkept⟩)

/-- Without a refusal a purge completes. -/
lemma refused_ne_empty {p : Purger} {e : MediaError} (htenant : tenantUuid ≠ "")
    (hrun : run (p.purge 0 now order refused (some (.text tenantUuid))) w = (.error e, w'))
    (hconfig : w.tables.config = some config) : refused ≠ ∅ := by
  rintro rfl
  rw [run_purge_text htenant hconfig, Purger.run_purgeTenant,
    Files.removeAll_of_ok fun _ _ => Finset.notMem_empty _] at hrun
  cases hrun

/-- The old files of some tenants are gone, and no others. -/
def OldGone (config : RetentionConfig) (now : DateTime) (tenantUuids : Finset String)
    (w w' : World) : Prop :=
  ∀ path, path ∈ w'.files ↔ path ∈ w.files ∧
    ∀ tenantUuid ∈ tenantUuids, ¬ w.tables.OldPointsOf config now tenantUuid path

/-- Some of the old files of some tenants are gone. -/
def SomeOldGone (config : RetentionConfig) (now : DateTime) (tenantUuids : Finset String)
    (w w' : World) : Prop :=
  w'.files ⊆ w.files ∧ ∀ path ∈ w.files, path ∉ w'.files →
    ∃ tenantUuid ∈ tenantUuids, w.tables.OldPointsOf config now tenantUuid path

section Old

variable {path : String} {maxDate maxDate' : DateTime}

/-- The files of the three purgers of a removal are old. -/
lemma oldPointsOf_of_mem_callLogs
    (h : path ∈ oldRecordingPaths tenantUuid (callLogsPurger.removalDate config now) tables) :
    tables.OldPointsOf config now tenantUuid path := by
  obtain ⟨stored, hstored, hold, hpath⟩ := mem_oldRecordingPaths.1 h
  exact .inl ⟨stored, hstored, .inl hold, hpath⟩

lemma oldPointsOf_of_mem_exports
    (h : path ∈ exportsPurger.paths tenantUuid (exportsPurger.removalDate config now)
      (callLogsPurger.forget tenantUuid maxDate tables)) :
    tables.OldPointsOf config now tenantUuid path := by
  obtain ⟨e, he, hpath⟩ := List.mem_filterMap.1 h
  obtain ⟨hmem, hold⟩ := List.mem_filter.1 he
  exact .inr ⟨e, hmem, hold, hpath⟩

lemma oldPointsOf_of_mem_recordings
    (h : path ∈ oldRecordingPaths tenantUuid (recordingsPurger.removalDate config now)
      (exportsPurger.forget tenantUuid maxDate'
        (callLogsPurger.forget tenantUuid maxDate tables))) :
    tables.OldPointsOf config now tenantUuid path := by
  obtain ⟨stored, hstored, hold, hpath⟩ := mem_oldRecordingPaths.1 h
  exact .inl ⟨stored, List.mem_of_mem_filter hstored, .inr hold, hpath⟩

end Old

/-- What a removal does. -/
lemma run_removeTenant (htenant : tenantUuid ≠ "") (hconfig : w.tables.config = some config)
    (hrun : run (removeTenant now order refused tenantUuid) w = (r, w')) :
    (r = .ok () ∧ w'.tables = w.tables.deleteTenant tenantUuid ∧
      OldGone config now {tenantUuid} w w') ∨
    (r ≠ .ok () ∧ refused ≠ ∅ ∧ SomeOldGone config now {tenantUuid} w w') := by
  simp only [OldGone, SomeOldGone, Finset.mem_singleton, exists_eq_left, forall_eq]
  rcases run_bind_cases hrun with ⟨e, hcdr, rfl⟩ | ⟨⟨⟩, w₁, hcdr, hrun⟩
  · obtain ⟨-, hsub, hmem⟩ := of_run_purge_text_eq_error htenant hcdr hconfig
    exact .inr ⟨nofun, refused_ne_empty htenant hcdr hconfig, hsub, fun path hpath hgone =>
      oldPointsOf_of_mem_callLogs (hmem path hpath hgone)⟩
  obtain rfl := Purger.of_run_purge_text htenant hcdr hconfig
  rcases run_bind_cases hrun with ⟨e, hexport, rfl⟩ | ⟨⟨⟩, w₂, hexport, hrun⟩
  · obtain ⟨-, hsub, hmem⟩ := of_run_purge_text_eq_error htenant hexport hconfig
    refine .inr ⟨nofun, refused_ne_empty htenant hexport hconfig,
      hsub.trans Finset.sdiff_subset, fun path hpath hgone => ?_⟩
    by_contra hold
    refine hold (oldPointsOf_of_mem_exports (hmem path (Finset.mem_sdiff.2 ⟨hpath, ?_⟩) hgone))
    exact fun h => hold (oldPointsOf_of_mem_callLogs (List.mem_toFinset.1 h))
  obtain rfl := Purger.of_run_purge_text htenant hexport hconfig
  rcases run_bind_cases hrun with ⟨e, hrecording, rfl⟩ | ⟨⟨⟩, w₃, hrecording, hrun⟩
  · obtain ⟨-, hsub, hmem⟩ := of_run_purge_text_eq_error htenant hrecording hconfig
    refine .inr ⟨nofun, refused_ne_empty htenant hrecording hconfig,
      hsub.trans (Finset.sdiff_subset.trans Finset.sdiff_subset), fun path hpath hgone => ?_⟩
    by_contra hold
    refine hold (oldPointsOf_of_mem_recordings (hmem path (Finset.mem_sdiff.2
      ⟨Finset.mem_sdiff.2 ⟨hpath, ?_⟩, ?_⟩) hgone))
    · exact fun h => hold (oldPointsOf_of_mem_callLogs (List.mem_toFinset.1 h))
    · exact fun h => hold (oldPointsOf_of_mem_exports (List.mem_toFinset.1 h))
  obtain rfl := Purger.of_run_purge_text htenant hrecording hconfig
  obtain ⟨rfl, rfl⟩ := Prod.mk.inj hrun
  refine .inl ⟨rfl, ?_, fun path => mem_files_removeTenant⟩
  refine (deleteTenant_forget .recordings).trans ?_
  exact (deleteTenant_forget .exports).trans (deleteTenant_forget .callLogs)

/-! ### The removals of a session -/

/-- The removal of a tenant leaves what is old of another one. -/
lemma oldPointsOf_deleteTenant {other path : String} (hne : other ≠ tenantUuid) :
    (tables.deleteTenant tenantUuid).OldPointsOf config now other path ↔
      tables.OldPointsOf config now other path := by
  have howner : ∀ {stored : StoredCallLog} {maxDate : DateTime}, stored.olderThan other maxDate →
      stored.log.tenantUuid ≠ some tenantUuid := by
    intro stored maxDate hold heq
    rw [StoredCallLog.olderThan, heq, Bool.and_eq_true, decide_eq_true_eq] at hold
    exact hne (Option.some.inj hold.2).symm
  constructor
  · rintro (⟨stored, hstored, hold⟩ | ⟨e, he, hold⟩)
    · exact .inl ⟨stored, List.mem_of_mem_filter hstored, hold⟩
    · exact .inr ⟨e, List.mem_of_mem_filter he, hold⟩
  · rintro (⟨stored, hstored, hold, hpath⟩ | ⟨e, he, hold, hpath⟩)
    · refine .inl ⟨stored, List.mem_filter.2 ⟨hstored, decide_eq_true ?_⟩, hold, hpath⟩
      exact hold.elim howner howner
    · refine .inr ⟨e, List.mem_filter.2 ⟨he, decide_eq_true fun heq => ?_⟩, hold, hpath⟩
      rw [Export.olderThan, heq, Bool.and_eq_true, decide_eq_true_eq] at hold
      exact hne (of_decide_eq_true hold.2).symm

lemma run_forM_removeTenant (htenants : ∀ tenantUuid ∈ tenantUuids, tenantUuid ≠ "")
    (hnodup : tenantUuids.Nodup) (hconfig : w.tables.config = some config)
    (hrun : run (tenantUuids.forM fun tenantUuid =>
      removeTenant now order refused tenantUuid) w = (r, w')) :
    (r = .ok () ∧ w'.tables = w.tables.deleteTenants tenantUuids.toFinset ∧
      OldGone config now tenantUuids.toFinset w w') ∨
    (r ≠ .ok () ∧ refused ≠ ∅ ∧ SomeOldGone config now tenantUuids.toFinset w w') := by
  simp only [OldGone, SomeOldGone, List.mem_toFinset]
  induction tenantUuids generalizing w with
  | nil =>
      obtain ⟨rfl, rfl⟩ := Prod.mk.inj hrun
      exact .inl ⟨rfl, deleteTenants_empty.symm, fun path => by simp⟩
  | cons tenantUuid tenantUuids ih =>
      obtain ⟨htenant, htenants⟩ := List.forall_mem_cons.1 htenants
      obtain ⟨hnotMem, hnodup⟩ := List.nodup_cons.1 hnodup
      rcases run_bind_cases hrun with ⟨e, hremoval, rfl⟩ | ⟨⟨⟩, w₁, hremoval, hrun⟩
      · rcases run_removeTenant htenant hconfig hremoval with ⟨hok, -⟩ | ⟨hfailed, hrefused, hgone⟩
        · cases hok
        · refine .inr ⟨hfailed, hrefused, hgone.1, fun path hpath hmissing => ?_⟩
          obtain ⟨_, hmem, hold⟩ := hgone.2 path hpath hmissing
          exact ⟨tenantUuid, List.mem_cons_self, Finset.mem_singleton.1 hmem ▸ hold⟩
      · rcases run_removeTenant htenant hconfig hremoval with ⟨-, htables, hgone⟩ | ⟨hfailed, -⟩
        swap
        · exact absurd rfl hfailed
        have hconfig₁ : w₁.tables.config = some config := by
          rw [htables]
          exact hconfig
        have hold : ∀ other ∈ tenantUuids, ∀ path,
            w₁.tables.OldPointsOf config now other path ↔
              w.tables.OldPointsOf config now other path := by
          intro other hother path
          rw [htables]
          exact oldPointsOf_deleteTenant fun heq => hnotMem (heq ▸ hother)
        have hfirst : ∀ path, path ∈ w₁.files ↔
            path ∈ w.files ∧ ¬ w.tables.OldPointsOf config now tenantUuid path := fun path =>
          (hgone path).trans (by simp only [Finset.mem_singleton, forall_eq])
        rcases ih htenants hnodup hconfig₁ hrun with ⟨rfl, hdeleted, hrest⟩ | ⟨hfailed, hrefused,
          hsub, hrest⟩
        · refine .inl ⟨rfl, ?_, fun path => ?_⟩
          · rw [hdeleted, htables, deleteTenants_insert, List.toFinset_cons]
          · rw [hrest, hfirst, List.forall_mem_cons, and_assoc]
            exact and_congr_right fun _ => and_congr_right fun _ =>
              forall₂_congr fun other hother => not_congr (hold other hother path)
        · refine .inr ⟨hfailed, hrefused, fun path hpath => ((hfirst path).1 (hsub hpath)).1,
            fun path hpath hmissing => ?_⟩
          by_cases hkept : path ∈ w₁.files
          · obtain ⟨other, hother, hgone⟩ := hrest path hkept hmissing
            exact ⟨other, List.mem_cons_of_mem _ hother, (hold other hother path).1 hgone⟩
          · refine ⟨tenantUuid, List.mem_cons_self, by_contra fun hrecent => ?_⟩
            exact hkept ((hfirst path).2 ⟨hpath, hrecent⟩)

/-! ### The command, and the next one -/

section Main

variable {r : Except MediaError Unit} {authTenants' : Finset String} {order' : SetOrder}

/-- What is old stays so. -/
lemma oldPointsOf_mono {path : String} (hnow : now ≤ now')
    (hold : tables.OldPointsOf config now tenantUuid path) :
    tables.OldPointsOf config now' tenantUuid path := by
  have hdate : ∀ p : Purger, p.removalDate config now ≤ p.removalDate config now' := fun p =>
    Int.sub_le_sub_right hnow _
  rcases hold with ⟨stored, hstored, hold, hpath⟩ | ⟨e, he, hold, hpath⟩
  · exact .inl ⟨stored, hstored, hold.imp (olderThan_mono (hdate _)) (olderThan_mono (hdate _)),
      hpath⟩
  · exact .inr ⟨e, he, Export.olderThan_mono (hdate _) hold, hpath⟩

/-- A session removes all the tenants that have disappeared, or rolls them back. -/
lemma run_main (hconfig : w.tables.config = some config) (htenants : "" ∉ w.tables.db.tenants)
    (hrun : run (main now order refused authTenants) w = (r, w')) :
    (r = .ok () ∧ w'.tables = w.tables.deleteTenants (removedTenants authTenants w.tables) ∧
      OldGone config now (removedTenants authTenants w.tables) w w') ∨
    (r ≠ .ok () ∧ refused ≠ ∅ ∧ w'.tables = w.tables ∧
      SomeOldGone config now (removedTenants authTenants w.tables) w w') := by
  set tenantUuids := order.members (removedTenants authTenants w.tables) with htenantUuids
  have hmem : ∀ {tenantUuid}, tenantUuid ∈ tenantUuids ↔
      tenantUuid ∈ removedTenants authTenants w.tables := SetOrder.mem_members
  have hset : tenantUuids.toFinset = removedTenants authTenants w.tables := by
    ext tenantUuid
    rw [List.mem_toFinset, hmem]
  have hne : ∀ tenantUuid ∈ tenantUuids, tenantUuid ≠ "" := by
    rintro tenantUuid h rfl
    exact htenants (Finset.mem_sdiff.1 (hmem.1 h)).1
  have hnodup : tenantUuids.Nodup := order.nodup_members _
  rw [main, run_session, run_bind_of_ok run_get, ← htenantUuids] at hrun
  cases hbody : run (tenantUuids.forM fun tenantUuid =>
      removeTenant now order refused tenantUuid) w with
  | mk r₁ w₁ =>
      rw [hbody] at hrun
      have hspec := run_forM_removeTenant hne hnodup hconfig hbody
      rw [hset] at hspec
      rcases hspec with ⟨rfl, htables, hgone⟩ | ⟨hfailed, hrefused, hgone⟩
      · obtain ⟨rfl, rfl⟩ := Prod.mk.inj hrun
        exact .inl ⟨rfl, htables, hgone⟩
      · cases r₁ with
        | ok => exact absurd rfl hfailed
        | error e =>
            obtain ⟨rfl, rfl⟩ := Prod.mk.inj hrun
            exact .inr ⟨nofun, hrefused, rfl, hgone⟩

/-- A synchronisation leaves neither the rows nor the old files of the tenants that have
disappeared, and touches nothing else.  If a file cannot be removed, it leaves the rows of
all of them, and a later run, when more tenants may have disappeared, leaves what it would
have left alone. -/
theorem sync_again (order : SetOrder) (hconfig : w.tables.config = some config)
    (htenants : "" ∉ w.tables.db.tenants)
    (hrun : run (main now order refused authTenants) w = (r, w')) :
    (refused = ∅ → r = .ok ()) ∧
    (r = .ok () →
      w'.tables = w.tables.deleteTenants (removedTenants authTenants w.tables) ∧
      OldGone config now (removedTenants authTenants w.tables) w w') ∧
    (r ≠ .ok () →
      w'.tables = w.tables ∧
      SomeOldGone config now (removedTenants authTenants w.tables) w w' ∧
      ∀ now' order' authTenants', now ≤ now' → authTenants' ⊆ authTenants →
        run (main now' order' ∅ authTenants') w' = run (main now' order' ∅ authTenants') w) := by
  rcases run_main hconfig htenants hrun with ⟨rfl, htables, hgone⟩ | ⟨hfailed, hrefused, htables,
    hgone⟩
  · exact ⟨fun _ => rfl, fun _ => ⟨htables, hgone⟩, fun h => absurd rfl h⟩
  refine ⟨fun h => absurd h hrefused, fun h => absurd h hfailed, fun _ =>
    ⟨htables, hgone, fun now' order' authTenants' hnow hauth => ?_⟩⟩
  cases hagain : run (main now' order' ∅ authTenants') w' with
  | mk r₁ w₁ =>
  cases hplain : run (main now' order' ∅ authTenants') w with
  | mk r₂ w₂ =>
  rcases run_main (htables ▸ hconfig) (htables ▸ htenants) hagain with
    ⟨rfl, htables₁, hgone₁⟩ | ⟨-, hempty, -⟩
  swap
  · exact absurd rfl hempty
  rcases run_main hconfig htenants hplain with ⟨rfl, htables₂, hgone₂⟩ | ⟨-, hempty, -⟩
  swap
  · exact absurd rfl hempty
  rw [OldGone, htables] at hgone₁
  have hrows : w₁.tables = w₂.tables := by rw [htables₁, htables₂, htables]
  have hfiles : w₁.files = w₂.files := by
    ext path
    rw [hgone₁, hgone₂]
    refine and_congr_left fun hrecent => ⟨fun h => hgone.1 h, fun h => ?_⟩
    -- what the first run has removed is old for the second one as well
    by_contra hmissing
    obtain ⟨tenantUuid, hmem, hold⟩ := hgone.2 path h hmissing
    refine hrecent tenantUuid ?_ (oldPointsOf_mono hnow hold)
    exact Finset.sdiff_subset_sdiff (Finset.Subset.refl _) hauth hmem
  have hworld : (⟨w₁.tables, w₁.files⟩ : World) = ⟨w₂.tables, w₂.files⟩ := by rw [hrows, hfiles]
  exact congrArg (Prod.mk _) hworld

end Main

/-- The file of the export is refused first, when that of the recording is already gone. -/
theorem sync_again_oldCallLog :
    let w₁ := (run (main (daysDuration 400) .byInsertion {"e.zip"} ∅) oldCallLog).2
    w₁.tables = oldCallLog.tables ∧ w₁.files = {"e.zip"} ∧
      ∃ w₂, run (main (daysDuration 400) .byInsertion ∅ ∅) w₁ = (.ok (), w₂) ∧
        w₂.tables.db.tenants = ∅ ∧ w₂.files = ∅ := by
  have hmembers : SetOrder.byInsertion.members (removedTenants ∅ oldCallLog.tables) = ["t"] := by
    rw [show removedTenants ∅ oldCallLog.tables = {"t"} by decide, SetOrder.members,
      Finset.sort_singleton]
    rfl
  have hrun : ∀ refused, run (main (daysDuration 400) .byInsertion refused ∅) oldCallLog =
      run (session ((["t"] : List String).forM fun tenantUuid =>
        removeTenant (daysDuration 400) .byInsertion refused tenantUuid)) oldCallLog := by
    intro refused
    rw [main, run_session, run_bind_of_ok run_get, hmembers, run_session]
  have hfirst := hrun {"e.zip"}
  have hfailed : (run (main (daysDuration 400) .byInsertion {"e.zip"} ∅) oldCallLog).1 ≠
      .ok () := by
    rw [hfirst]
    decide +kernel
  have hfiles : (run (main (daysDuration 400) .byInsertion {"e.zip"} ∅) oldCallLog).2.files =
      {"e.zip"} := by
    rw [hfirst]
    decide +kernel
  obtain ⟨htables, -, hagain⟩ :=
    (sync_again .byInsertion rfl (by decide +kernel) Prod.mk.eta.symm).2.2 hfailed
  refine ⟨htables, hfiles, (run (session ((["t"] : List String).forM fun tenantUuid =>
    removeTenant (daysDuration 400) .byInsertion ∅ tenantUuid)) oldCallLog).2, ?_, ?_, ?_⟩
  · rw [hagain _ _ _ le_rfl (Finset.Subset.refl _), hrun]
    exact Prod.ext (by decide +kernel) rfl
  · decide +kernel
  · decide +kernel

end SyncDb

end CallLogd
