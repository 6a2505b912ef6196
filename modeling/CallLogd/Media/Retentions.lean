/-
The retentions: the configuration file, the requests of the tenants, and the purges.

Each start of the service writes what its file says of the defaults, and each request that
is accepted replaces the retention of its tenant.  So a purge goes by the last request of a
tenant, and behind it by the last file that said something (`retention_in_effect`).
-/
import CallLogd.Lib.Dict
import CallLogd.Lib.Json
import CallLogd.Lib.LastWrite
import CallLogd.Media.Life

namespace CallLogd

open Transactions

/-! ### The configuration file -/

/-- The section `retention` of a configuration file. -/
structure RetentionFile where
  cdrDays : Option ℤ := none
  exportDays : Option ℤ := none
  recordingDays : Option ℤ := none
deriving DecidableEq, Repr

/-- The row that `find_or_create` creates. -/
def ConfigDAO.defaultConfig : RetentionConfig := ⟨365, 2, 365⟩

/-- `_update_db_from_config_file`, without the flags `_from_file`, which nothing reads. -/
def Controller.updateDbFromConfigFile (file : RetentionFile) (tables : Tables) : Tables :=
  let config := tables.config.getD ConfigDAO.defaultConfig
  { tables with
    config := some
      { cdrDays := file.cdrDays.getD config.cdrDays
        exportDays := file.exportDays.getD config.exportDays
        recordingDays := file.recordingDays.getD config.recordingDays } }

/-! ### Requests -/

/-- The retention that a request asks for. -/
structure RetentionArgs where
  cdrDays : Option ℤ := none
  exportDays : Option ℤ := none
  recordingDays : Option ℤ := none
deriving DecidableEq, Repr

/-- How a field of a request is refused. -/
inductive FieldError where
  /-- The body is not an object. -/
  | invalidType
  | invalidInteger
  /-- `Range(min=0)`. -/
  | tooSmall
  | message (text : String)
deriving DecidableEq, Repr

/-- A retention as the DAO returns it, with the defaults. -/
structure RetentionView where
  tenantUuid : String
  args : RetentionArgs
  defaults : RetentionConfig
deriving DecidableEq, Repr

/-- How a request on a retention fails. -/
inductive RetentionError where
  | validation (errors : List (String × FieldError))
  /-- There is no row of the configuration. -/
  | attributeError
deriving DecidableEq, Repr

/-- The columns of a retention that are not its key. -/
def Retention.args (retention : Retention) : RetentionArgs :=
  ⟨retention.cdrDays, retention.exportDays, retention.recordingDays⟩

/-- `update_model_instance`. -/
def RetentionView.updateModelInstance (args : RetentionArgs) (retention : RetentionView) :
    RetentionView := { retention with args := args }

/-- The row of a tenant. -/
def RetentionArgs.row (tenantUuid : String) (args : RetentionArgs) : Retention :=
  ⟨tenantUuid, args.cdrDays, args.exportDays, args.recordingDays⟩

namespace RetentionSchema

/-- `fields.Integer(validate=Range(min=0), load_default=None)`; how the library reads an
integer is a parameter. -/
def loadDays (integer : Json → Option ℤ) (fields : Dict String Json) (name : String) :
    Except FieldError (Option ℤ) :=
  match fields.get? name with
  | none | some .null => .ok none
  | some value =>
      match integer value with
      | none => .error .invalidInteger
      | some days => if 0 ≤ days then .ok (some days) else .error .tooSmall

/-- `validate_days`. -/
def validateDays (args : RetentionArgs) : Except (List (String × FieldError)) RetentionArgs :=
  match args.cdrDays, args.recordingDays with
  | some cdrDays, some recordingDays =>
      if cdrDays < recordingDays then
        .error [("recording_days",
          .message "\"recording_days\" must be higher or equal than \"cdr_days\"")]
      else .ok args
  | _, _ => .ok args

/-- The errors of some fields. -/
def fieldErrors (results : List (String × Except FieldError (Option ℤ))) :
    List (String × FieldError) :=
  results.filterMap fun
    | (name, .error e) => some (name, e)
    | (_, .ok _) => none

/-- `load`: the days are compared if all the fields are valid. -/
def load (integer : Json → Option ℤ) : Json → Except (List (String × FieldError)) RetentionArgs
  | .obj fields =>
      match loadDays integer fields "cdr_days", loadDays integer fields "export_days",
          loadDays integer fields "recording_days" with
      | .ok cdrDays, .ok exportDays, .ok recordingDays =>
          validateDays ⟨cdrDays, exportDays, recordingDays⟩
      | cdrDays, exportDays, recordingDays =>
          .error (fieldErrors [("cdr_days", cdrDays), ("export_days", exportDays),
            ("recording_days", recordingDays)])
  | _ => .error [("_schema", .invalidType)]

end RetentionSchema

namespace RetentionDAO

variable (tenantUuid : String) (tables : Tables)

/-- The row of a tenant. -/
def row? : Option Retention := tables.retentions.find? (·.tenantUuid = tenantUuid)

/-- `find`. -/
def find : Except RetentionError RetentionView :=
  match tables.config with
  | none => .error .attributeError
  | some config => .ok ⟨tenantUuid, ((row? tenantUuid tables).map (·.args)).getD {}, config⟩

/-- `find_or_create`. -/
def findOrCreate : Except RetentionError (RetentionView × Tables) :=
  match tables.config with
  | none => .error .attributeError
  | some config =>
      match row? tenantUuid tables with
      | some row => .ok (⟨tenantUuid, row.args, config⟩, tables)
      | none => .ok (⟨tenantUuid, {}, config⟩,
          { tables with
            db := tables.db.insertTenants {tenantUuid}
            retentions := tables.retentions ++ [RetentionArgs.row tenantUuid {}] })

/-- `update`. -/
def update (retention : RetentionView) : Tables :=
  { tables with
    retentions := tables.retentions.map fun row =>
      if row.tenantUuid = retention.tenantUuid then retention.args.row retention.tenantUuid
      else row }

end RetentionDAO

/-- `RetentionResource.put`: the retention that is announced, and the tables. -/
def RetentionResource.put (integer : Json → Option ℤ) (tenantUuid : String) (body : Json)
    (tables : Tables) : Except RetentionError (RetentionView × Tables) := do
  let args ← (RetentionSchema.load integer body).mapError .validation
  let (retention, tables) ← RetentionDAO.findOrCreate tenantUuid tables
  let retention := retention.updateModelInstance args
  return (retention, RetentionDAO.update tables retention)

/-! ### The settings -/

/-- What was said of the retentions. -/
inductive Setting where
  /-- The service has started with a file. -/
  | file (file : RetentionFile)
  /-- A request was accepted. -/
  | request (tenantUuid : String) (args : RetentionArgs)
  /-- A tenant was removed. -/
  | removal (tenantUuid : String)
deriving DecidableEq, Repr

/-- What happens to the tables and the files, with what it says of the retentions. -/
inductive SettingsStep (integer : Json → Option ℤ) : World → List Setting → World → Prop
  | start (file : RetentionFile) (w : World) :
      SettingsStep integer w [.file file]
        { w with tables := Controller.updateDbFromConfigFile file w.tables }
  | put {tenantUuid : String} {body : Json} {args : RetentionArgs} {view : RetentionView}
      {tables : Tables} {w : World} (hload : RetentionSchema.load integer body = .ok args)
      (hput : RetentionResource.put integer tenantUuid body w.tables = .ok (view, tables)) :
      SettingsStep integer w [.request tenantUuid args] { w with tables := tables }
  | life {removed : List String} {w w' : World} (h : LifeStep w removed w') :
      SettingsStep integer w (removed.map .removal) w'

/-- A run of such steps. -/
inductive SettingsRun (integer : Json → Option ℤ) (w : World) : List Setting → World → Prop
  | refl : SettingsRun integer w [] w
  | tail {settings added : List Setting} {w' w'' : World}
      (h : SettingsRun integer w settings w') (hstep : SettingsStep integer w' added w'') :
      SettingsRun integer w (settings ++ added) w''

/-- The days of the last file that says some. -/
def lastDays (days : RetentionFile → Option ℤ) (settings : List Setting) : Option ℤ :=
  (settings.filterMap fun
    | .file file => days file
    | _ => none).getLast?

/-- A file is among the settings. -/
def started (settings : List Setting) : Bool :=
  settings.any fun | .file _ => true | _ => false

/-- The defaults in the end. -/
def configOf (initial : Option RetentionConfig) (settings : List Setting) :
    Option RetentionConfig :=
  let config := initial.getD ConfigDAO.defaultConfig
  if started settings then
    some
      { cdrDays := (lastDays (·.cdrDays) settings).getD config.cdrDays
        exportDays := (lastDays (·.exportDays) settings).getD config.exportDays
        recordingDays := (lastDays (·.recordingDays) settings).getD config.recordingDays }
  else initial

/-- What a setting writes to the retentions of the tenants. -/
def Setting.write : Setting → Option (LastWrite.Write String RetentionArgs)
  | .file _ => none
  | .request tenantUuid args => some (.put tenantUuid args)
  | .removal tenantUuid => some (.erase tenantUuid)

/-- The last request of a tenant, unless the tenant was removed after it. -/
def requested (initial : String → Option RetentionArgs) (settings : List Setting)
    (tenantUuid : String) : Option RetentionArgs :=
  (LastWrite.lastWrite (settings.filterMap Setting.write) tenantUuid).elim (initial tenantUuid)
    (·.value?)

/-- The retention of a tenant in the tables. -/
def Tables.retentionArgs (tables : Tables) (tenantUuid : String) : Option RetentionArgs :=
  (RetentionDAO.row? tenantUuid tables).map (·.args)

/-! ### What a step does -/

section Steps

variable {tables tables' : Tables} {tenantUuid tenantUuid' : String} {args : RetentionArgs}
  {view : RetentionView} {w w' : World} {settings added : List Setting}
  {integer : Json → Option ℤ}

/-- The tables have the same retentions and the same defaults. -/
def Tables.SameSettings (tables tables' : Tables) : Prop :=
  tables'.retentions = tables.retentions ∧ tables'.config = tables.config

lemma Tables.SameSettings.refl : tables.SameSettings tables := ⟨rfl, rfl⟩

lemma Tables.SameSettings.trans {tables'' : Tables} (h : tables.SameSettings tables')
    (h' : tables'.SameSettings tables'') : tables.SameSettings tables'' :=
  ⟨h'.1.trans h.1, h'.2.trans h.2⟩

lemma Tables.SameSettings.retentionArgs (h : tables.SameSettings tables') :
    tables'.retentionArgs = tables.retentionArgs := by
  funext tenantUuid
  rw [Tables.retentionArgs, Tables.retentionArgs, RetentionDAO.row?, h.1]
  rfl

lemma sameSettings_run_purge (plugin : PurgerPlugin) {daysToKeep : ℤ} {now : DateTime}
    {order : SetOrder} {refused : Finset String} {tenant : Option TenantKey} :
    w.tables.SameSettings
      (run (plugin.purger.purge daysToKeep now order refused tenant) w).2.tables := by
  refine rel_run_purge (fun _ => .refl) (fun _ _ _ => .trans) fun t maxDate tables => ?_
  cases plugin <;> exact .refl

lemma sameSettings_of_serviceStep (h : ServiceStep w w') : w.tables.SameSettings w'.tables := by
  cases h with
  | history h =>
      cases h with
      | generate | deleteAll | deleteFromDays | arrival => exact .refl
      | deleteMedia refused callLogId key path =>
          rw [snd_run_deleteMedia]
          exact .refl
      | purge => exact sameSettings_run_purge .recordings
  | transaction h w => exact .refl
  | purge plugin => exact sameSettings_run_purge plugin
  | purgeInSession plugin =>
      exact rel_run_session (fun _ => .refl) (sameSettings_run_purge plugin)

lemma row?_update : RetentionDAO.row? tenantUuid (RetentionDAO.update tables view) =
    if tenantUuid = view.tenantUuid then
      (RetentionDAO.row? tenantUuid tables).map fun _ => view.args.row view.tenantUuid
    else RetentionDAO.row? tenantUuid tables := by
  have hkey : ∀ row : Retention, (if row.tenantUuid = view.tenantUuid then
      view.args.row view.tenantUuid else row).tenantUuid = row.tenantUuid := by
    intro row
    split
    · next h => exact h.symm
    · rfl
  have hfind : RetentionDAO.row? tenantUuid (RetentionDAO.update tables view) =
      (RetentionDAO.row? tenantUuid tables).map fun row =>
        if row.tenantUuid = view.tenantUuid then view.args.row view.tenantUuid else row := by
    rw [RetentionDAO.row?, RetentionDAO.update, List.find?_map]
    simp only [Function.comp_def, hkey]
    rfl
  rw [hfind]
  cases hrow : RetentionDAO.row? tenantUuid tables with
  | none => split <;> rfl
  | some row =>
      have htenant : row.tenantUuid = tenantUuid := by simpa using List.find?_some hrow
      subst htenant
      simp only [Option.map_some]
      split <;> rfl

lemma retentionArgs_update (hrow : (RetentionDAO.row? view.tenantUuid tables).isSome) :
    (RetentionDAO.update tables view).retentionArgs =
      Function.update tables.retentionArgs view.tenantUuid (some view.args) := by
  funext tenantUuid
  rw [Tables.retentionArgs, row?_update]
  split
  · next heq =>
      obtain ⟨row, hrow⟩ := Option.isSome_iff_exists.1 hrow
      rw [heq, hrow, Function.update_self]
      rfl
  · next hne => rw [Function.update_of_ne hne, Tables.retentionArgs]

/-- The retention of a tenant is there, as it was or empty. -/
lemma of_findOrCreate_eq_ok
    (h : RetentionDAO.findOrCreate tenantUuid tables = .ok (view, tables')) :
    tables.config = some view.defaults ∧ tables'.config = tables.config ∧
      view.tenantUuid = tenantUuid ∧ (RetentionDAO.row? tenantUuid tables').isSome ∧
      ∀ other ≠ tenantUuid, tables'.retentionArgs other = tables.retentionArgs other := by
  rw [RetentionDAO.findOrCreate] at h
  cases hconfig : tables.config with
  | none =>
      rw [hconfig] at h
      cases h
  | some config =>
      rw [hconfig] at h
      dsimp only at h
      cases hrow : RetentionDAO.row? tenantUuid tables with
      | some row =>
          rw [hrow] at h
          obtain ⟨rfl, rfl⟩ := Prod.mk.inj (Except.ok.inj h)
          exact ⟨rfl, hconfig, rfl, Option.isSome_of_eq_some hrow, fun _ _ => rfl⟩
      | none =>
          rw [hrow] at h
          obtain ⟨rfl, rfl⟩ := Prod.mk.inj (Except.ok.inj h)
          refine ⟨rfl, rfl, rfl, ?_, fun other hother => ?_⟩
          · rw [RetentionDAO.row?, List.find?_append]
            simp [RetentionArgs.row]
          · rw [Tables.retentionArgs, Tables.retentionArgs, RetentionDAO.row?, List.find?_append]
            simp [RetentionArgs.row, hother.symm, RetentionDAO.row?]

/-- A request that is accepted replaces the retention of its tenant, and what is announced is
what is found then. -/
lemma of_put_eq_ok {body : Json} (hload : RetentionSchema.load integer body = .ok args)
    (hput : RetentionResource.put integer tenantUuid body tables = .ok (view, tables')) :
    tables'.config = tables.config ∧
      tables'.retentionArgs = Function.update tables.retentionArgs tenantUuid (some args) ∧
      RetentionDAO.find tenantUuid tables' = .ok view := by
  rw [RetentionResource.put, hload] at hput
  obtain ⟨⟨found, tables₁⟩, hfound, hput⟩ :=
    Results.exists_of_bind_eq_ok (Results.ok_bind.symm.trans hput)
  obtain ⟨rfl, rfl⟩ := Prod.mk.inj (Except.ok.inj hput)
  obtain ⟨hdefaults, hconfig, rfl, hrow, hothers⟩ := of_findOrCreate_eq_ok hfound
  have hargs : (RetentionDAO.update tables₁ (found.updateModelInstance args)).retentionArgs =
      Function.update tables₁.retentionArgs found.tenantUuid (some args) :=
    retentionArgs_update hrow
  refine ⟨hconfig, ?_, ?_⟩
  · rw [hargs]
    funext other
    by_cases hother : other = found.tenantUuid
    · rw [hother, Function.update_self, Function.update_self]
    · rw [Function.update_of_ne hother, Function.update_of_ne hother, hothers other hother]
  · have hrow' := congrFun hargs found.tenantUuid
    rw [Function.update_self, Tables.retentionArgs] at hrow'
    rw [RetentionDAO.find, hrow']
    have hconfig' : (RetentionDAO.update tables₁ (found.updateModelInstance args)).config =
        some found.defaults := hconfig.trans hdefaults
    rw [hconfig']
    rfl

/-- A removal that completes removes the retention of its tenant. -/
lemma settings_of_removeTenant {now : DateTime} {order : SetOrder} {refused : Finset String}
    (h : run (removeTenant now order refused tenantUuid) w = (.ok (), w')) :
    w'.tables.config = w.tables.config ∧
      w'.tables.retentions = w.tables.retentions.filter (·.tenantUuid ≠ tenantUuid) := by
  have hpurge : ∀ (plugin : PurgerPlugin) {w w' : World},
      run (plugin.purger.purge 0 now order refused (some (.text tenantUuid))) w = (.ok (), w') →
        w.tables.SameSettings w'.tables := by
    intro plugin w w' hrun
    have hsame : w.tables.SameSettings
        (run (plugin.purger.purge 0 now order refused (some (.text tenantUuid))) w).2.tables :=
      sameSettings_run_purge plugin
    rwa [hrun] at hsame
  obtain ⟨⟨⟩, w₁, hcdr, h⟩ := run_bind_eq_ok h
  obtain ⟨⟨⟩, w₂, hexport, h⟩ := run_bind_eq_ok h
  obtain ⟨⟨⟩, w₃, hrecording, h⟩ := run_bind_eq_ok h
  obtain rfl : _ = w' := congrArg Prod.snd h
  have hsame := ((hpurge .callLogs hcdr).trans (hpurge .exports hexport)).trans
    (hpurge .recordings hrecording)
  exact ⟨hsame.2, congrArg _ hsame.1⟩

lemma retentionArgs_of_filter
    (h : tables'.retentions = tables.retentions.filter (·.tenantUuid ≠ tenantUuid)) :
    tables'.retentionArgs = Function.update tables.retentionArgs tenantUuid none := by
  funext other
  rw [Tables.retentionArgs, RetentionDAO.row?, h, List.find?_filter]
  by_cases hother : other = tenantUuid
  · subst hother
    rw [Function.update_self]
    simp
  · rw [Function.update_of_ne hother, Tables.retentionArgs, RetentionDAO.row?]
    refine congrArg _ (congrArg (List.find? · tables.retentions) (funext fun row => ?_))
    by_cases hrow : row.tenantUuid = other
    · simp [hrow, hother]
    · simp [hrow]

/-- Removals that complete remove the retentions of their tenants. -/
lemma settings_of_forM_removeTenant {now : DateTime} {order : SetOrder}
    {refused : Finset String} {tenantUuids : List String}
    (h : run (tenantUuids.forM fun tenantUuid =>
      removeTenant now order refused tenantUuid) w = (.ok (), w')) :
    w'.tables.config = w.tables.config ∧
      w'.tables.retentionArgs =
        LastWrite.run w.tables.retentionArgs (tenantUuids.map .erase) := by
  induction tenantUuids generalizing w with
  | nil =>
      obtain ⟨-, rfl⟩ := Prod.mk.inj h
      exact ⟨rfl, rfl⟩
  | cons tenantUuid tenantUuids ih =>
      obtain ⟨⟨⟩, w₁, hfirst, hrest⟩ := run_bind_eq_ok h
      obtain ⟨hconfig, hretentions⟩ := settings_of_removeTenant hfirst
      obtain ⟨hconfig', hargs⟩ := ih hrest
      refine ⟨hconfig'.trans hconfig, hargs.trans ?_⟩
      rw [retentionArgs_of_filter hretentions]
      rfl

lemma settings_of_lifeStep {removed : List String} (h : LifeStep w removed w') :
    w'.tables.config = w.tables.config ∧
      w'.tables.retentionArgs = LastWrite.run w.tables.retentionArgs (removed.map .erase) := by
  rcases h.service_or_removes with ⟨rfl, hservice⟩ | ⟨now, order, refused, tenantUuids, r, rfl,
    hsession⟩
  · have hsame := sameSettings_of_serviceStep hservice
    exact ⟨hsame.2, hsame.retentionArgs⟩
  · rcases run_session_cases hsession with ⟨rfl, hrun⟩ | ⟨hfailed, htables⟩
    · exact settings_of_forM_removeTenant hrun
    · cases r with
      | ok => exact absurd rfl hfailed
      | error e => exact htables ▸ ⟨rfl, rfl⟩

/-! ### What a run leaves -/

lemma lastDays_append {days : RetentionFile → Option ℤ} :
    lastDays days (settings ++ added) = (lastDays days added).or (lastDays days settings) := by
  rw [lastDays, lastDays, lastDays, List.filterMap_append, List.getLast?_append]

lemma lastDays_of_not_started {days : RetentionFile → Option ℤ} (h : started settings = false) :
    lastDays days settings = none := by
  rw [lastDays, List.getLast?_eq_none_iff, List.filterMap_eq_nil_iff]
  intro setting hsetting
  have hfile := List.any_eq_false.1 h setting hsetting
  cases setting with
  | file file => exact absurd rfl hfile
  | request tenantUuid args => rfl
  | removal tenantUuid => rfl

lemma lastDays_concat_file {days : RetentionFile → Option ℤ} {file : RetentionFile} :
    lastDays days (settings ++ [.file file]) = (days file).or (lastDays days settings) := by
  have hsingle : lastDays days [.file file] = days file := by
    rw [lastDays, List.filterMap_cons]
    dsimp only
    cases days file <;> rfl
  rw [lastDays_append, hsingle]

/-- The defaults that a start finds. -/
lemma getD_configOf {initial : Option RetentionConfig} :
    (configOf initial settings).getD ConfigDAO.defaultConfig =
      let config := initial.getD ConfigDAO.defaultConfig
      ⟨(lastDays (·.cdrDays) settings).getD config.cdrDays,
        (lastDays (·.exportDays) settings).getD config.exportDays,
        (lastDays (·.recordingDays) settings).getD config.recordingDays⟩ := by
  rw [configOf]
  cases hstarted : started settings with
  | true => rfl
  | false =>
      simp only [lastDays_of_not_started hstarted]
      rfl

/-- A further start writes what its file says over the defaults. -/
lemma configOf_concat_file {initial : Option RetentionConfig} {file : RetentionFile}
    (h : tables.config = configOf initial settings) :
    (Controller.updateDbFromConfigFile file tables).config =
      configOf initial (settings ++ [.file file]) := by
  have hstarted : started (settings ++ [.file file]) = true := by
    rw [started, List.any_append]
    exact Bool.or_true _
  rw [Controller.updateDbFromConfigFile, h, getD_configOf, configOf, if_pos hstarted,
    lastDays_concat_file, lastDays_concat_file, lastDays_concat_file]
  simp only [Option.getD_or]

/-- The other settings leave the defaults. -/
lemma configOf_append {initial : Option RetentionConfig} (h : started added = false) :
    configOf initial (settings ++ added) = configOf initial settings := by
  have hstarted : started (settings ++ added) = started settings := by
    rw [started, List.any_append]
    exact (congrArg _ h).trans (Bool.or_false _)
  simp only [configOf, hstarted, lastDays_append, lastDays_of_not_started h, Option.none_or]

/-- What the tables have after a run. -/
structure Reflects (initial tables : Tables) (settings : List Setting) : Prop where
  config : tables.config = configOf initial.config settings
  retentionArgs : tables.retentionArgs =
    LastWrite.run initial.retentionArgs (settings.filterMap Setting.write)

lemma Reflects.step {initial : World} (h : Reflects initial.tables w.tables settings)
    (hstep : SettingsStep integer w added w') :
    Reflects initial.tables w'.tables (settings ++ added) := by
  cases hstep with
  | start file =>
      refine ⟨configOf_concat_file h.config, ?_⟩
      rw [List.filterMap_append]
      exact h.retentionArgs.trans (congrArg _ (List.append_nil _).symm)
  | put hload hput =>
      obtain ⟨hconfig, hargs, -⟩ := of_put_eq_ok hload hput
      refine ⟨(hconfig.trans h.config).trans (configOf_append rfl).symm, ?_⟩
      rw [List.filterMap_append, LastWrite.run_append, ← h.retentionArgs]
      exact hargs
  | life hlife =>
      obtain ⟨hconfig, hargs⟩ := settings_of_lifeStep hlife
      rw [h.retentionArgs, ← LastWrite.run_append] at hargs
      refine ⟨(hconfig.trans h.config).trans (configOf_append ?_).symm, ?_⟩
      · rw [started, List.any_map]
        exact List.any_eq_false.2 fun _ _ => Bool.false_ne_true
      · have hwrites : ∀ removed : List String,
            (removed.map Setting.removal).filterMap Setting.write =
              removed.map LastWrite.Write.erase := fun removed => by
          rw [List.filterMap_map]
          exact congrFun List.filterMap_eq_map removed
        rw [List.filterMap_append, hwrites]
        exact hargs

lemma reflects_of_run {w₀ : World} (h : SettingsRun integer w₀ settings w) :
    Reflects w₀.tables w.tables settings := by
  induction h with
  | refl => exact ⟨rfl, rfl⟩
  | tail _ hstep ih => exact ih.step hstep

end Steps

/-! ### Requests that are accepted -/

/-- No days are negative, and recordings are not kept longer than their call logs. -/
structure RetentionArgs.Valid (args : RetentionArgs) : Prop where
  nonneg : ∀ days ∈ [args.cdrDays, args.exportDays, args.recordingDays], ∀ n ∈ days, 0 ≤ n
  recordingDays_le : ∀ cdrDays ∈ args.cdrDays, ∀ recordingDays ∈ args.recordingDays,
    recordingDays ≤ cdrDays

section Valid

variable {integer : Json → Option ℤ} {args : RetentionArgs}

lemma nonneg_of_loadDays {fields : Dict String Json} {name : String} {days : Option ℤ}
    (h : RetentionSchema.loadDays integer fields name = .ok days) : ∀ n ∈ days, 0 ≤ n := by
  intro n hn
  subst hn
  rw [RetentionSchema.loadDays] at h
  split at h
  · cases h
  · cases h
  · split at h
    · cases h
    · split at h
      · next hle => exact Option.some.inj (Except.ok.inj h) ▸ hle
      · cases h

lemma valid_of_validateDays {args' : RetentionArgs}
    (h : RetentionSchema.validateDays args = .ok args') :
    args' = args ∧ ∀ cdrDays ∈ args.cdrDays, ∀ recordingDays ∈ args.recordingDays,
      recordingDays ≤ cdrDays := by
  rw [RetentionSchema.validateDays] at h
  cases hcdr : args.cdrDays with
  | none =>
      rw [hcdr] at h
      exact ⟨(Except.ok.inj h).symm, nofun⟩
  | some cdrDays =>
      cases hrecording : args.recordingDays with
      | none =>
          rw [hcdr, hrecording] at h
          exact ⟨(Except.ok.inj h).symm, fun _ _ => nofun⟩
      | some recordingDays =>
          rw [hcdr, hrecording] at h
          dsimp only at h
          split at h
          · cases h
          · next hlt =>
              refine ⟨(Except.ok.inj h).symm, ?_⟩
              rintro _ ⟨⟩ _ ⟨⟩
              exact Int.not_lt.1 hlt

lemma valid_of_load {body : Json} (h : RetentionSchema.load integer body = .ok args) :
    args.Valid := by
  cases body with
  | obj fields =>
      rw [RetentionSchema.load] at h
      split at h
      · next cdrDays exportDays recordingDays hcdr hexport hrecording =>
          obtain ⟨rfl, hle⟩ := valid_of_validateDays h
          refine ⟨?_, hle⟩
          simp only [List.forall_mem_cons]
          exact ⟨nonneg_of_loadDays hcdr, nonneg_of_loadDays hexport,
            nonneg_of_loadDays hrecording, nofun⟩
      · cases h
  | null | bool b | int n | float x | str s | arr items => cases h

lemma valid_of_mem_settings {w₀ w : World} {settings : List Setting} {tenantUuid : String}
    (h : SettingsRun integer w₀ settings w) (hmem : .request tenantUuid args ∈ settings) :
    args.Valid := by
  induction h with
  | refl => cases hmem
  | tail _ hstep ih =>
      rcases List.mem_append.1 hmem with hmem | hmem
      · exact ih hmem
      · cases hstep with
        | start | life => simp at hmem
        | put hload hput =>
            obtain ⟨rfl, rfl⟩ : tenantUuid = _ ∧ args = _ := by simpa using hmem
            exact valid_of_load hload

end Valid

/-! ### What purges go by -/

section Purges

variable {integer : Json → Option ℤ} {w₀ w w' : World} {settings : List Setting}
  {daysToKeep : ℤ} {now : DateTime} {order : SetOrder} {refused : Finset String}
  {config : RetentionConfig} {tenantUuid : String} {stored : StoredCallLog}

/-- The days that a tenant's call logs are kept: its own ones, or those of the defaults and of
the argument of the purge. -/
def cdrDaysToKeep (config : RetentionConfig) (daysToKeep : ℤ) (args : Option RetentionArgs) : ℤ :=
  extractDaysToKeep (args.bind (·.cdrDays)) config.cdrDays daysToKeep 365

lemma days_callLogsPurger {tables : Tables} :
    callLogsPurger.days daysToKeep config tables.retentions (.uuid tenantUuid) =
      cdrDaysToKeep config daysToKeep (tables.retentionArgs tenantUuid) := by
  have hdays : (tables.retentionArgs tenantUuid).bind (·.cdrDays) =
      ((TenantKey.uuid tenantUuid).retention tables.retentions).bind callLogsPurger.tenantDays :=
    Option.bind_map
  rw [cdrDaysToKeep, hdays]
  rfl

/-- A purge of the call logs that completes keeps those that are recent enough. -/
lemma mem_callLogs_of_purge (hconfig : w.tables.config = some config)
    (hrun : run (callLogsPurger.purge daysToKeep now order refused none) w = (.ok (), w'))
    (htenant : tenantUuid ∈ w.tables.db.tenants) (hstored : stored ∈ w.tables.db.callLogs)
    (htenantUuid : stored.log.tenantUuid = some tenantUuid) :
    stored ∈ w'.tables.db.callLogs ↔ stored.log.date.all
      (now - daysDuration (cdrDaysToKeep config daysToKeep (w.tables.retentionArgs tenantUuid)) ≤
        ·) := by
  obtain ⟨-, -, htables⟩ := sound_callLogsPurger.purgeSafe.completed daysToKeep now order refused
    none w w' hrun
  have hold : callLogsPurger.treats daysToKeep now order none w.tables stored =
      stored.olderThan tenantUuid
        (callLogsPurger.maxDate daysToKeep now config w.tables.retentions (.uuid tenantUuid)) := by
    rw [Purger.treats, hconfig]
    dsimp only
    rw [Bool.eq_iff_iff, List.any_eq_true, getTenantsUuids]
    constructor
    · rintro ⟨key, hkey, hold⟩
      obtain ⟨other, -, rfl⟩ := List.mem_map.1 hkey
      have howner : stored.log.tenantUuid = some other := by
        rw [StoredCallLog.olderThan, Bool.and_eq_true, decide_eq_true_eq] at hold
        exact hold.2
      obtain rfl := Option.some.inj (howner.symm.trans htenantUuid)
      exact hold
    · intro hold
      exact ⟨.uuid tenantUuid, List.mem_map_of_mem ((order.mem_visit _ _).2 (by simpa)), hold⟩
  rw [htables, Database.deleteTreated]
  refine (List.mem_filter.trans (and_iff_right hstored)).trans ?_
  rw [hold, StoredCallLog.olderThan, Purger.maxDate, days_callLogsPurger]
  cases stored.log.date with
  | none => simp
  | some date => simp [htenantUuid]

end Purges

/-- Whatever happens to the service: the defaults are those of the last files, the retention of
a tenant is that of its last request, and none of the requests was out of bounds.  What a
request announces is found then; and a purge that completes keeps the call logs of a tenant
that are recent enough by these settings, and no others. -/
theorem retention_in_effect {integer : Json → Option ℤ} {w₀ w : World} {settings : List Setting}
    (h : SettingsRun integer w₀ settings w) :
    w.tables.config = configOf w₀.tables.config settings ∧
    (∀ tenantUuid, w.tables.retentionArgs tenantUuid =
      requested w₀.tables.retentionArgs settings tenantUuid) ∧
    (∀ tenantUuid args, .request tenantUuid args ∈ settings → args.Valid) ∧
    (∀ tenantUuid body view tables,
      RetentionResource.put integer tenantUuid body w.tables = .ok (view, tables) →
        RetentionDAO.find tenantUuid tables = .ok view) ∧
    ∀ daysToKeep now order refused w',
      run (callLogsPurger.purge daysToKeep now order refused none) w = (.ok (), w') →
        ∃ config, configOf w₀.tables.config settings = some config ∧
          ∀ tenantUuid ∈ w.tables.db.tenants, ∀ stored ∈ w.tables.db.callLogs,
            stored.log.tenantUuid = some tenantUuid →
              (stored ∈ w'.tables.db.callLogs ↔ stored.log.date.all
                (now - daysDuration (cdrDaysToKeep config daysToKeep
                  (requested w₀.tables.retentionArgs settings tenantUuid)) ≤ ·)) := by
  have hreflects := reflects_of_run h
  have hargs : ∀ tenantUuid, w.tables.retentionArgs tenantUuid =
      requested w₀.tables.retentionArgs settings tenantUuid := fun tenantUuid =>
    (congrFun hreflects.retentionArgs tenantUuid).trans (LastWrite.run_apply _ _ _)
  refine ⟨hreflects.config, hargs, fun tenantUuid args => valid_of_mem_settings h,
    fun tenantUuid body view tables hput => ?_, fun daysToKeep now order refused w' hrun => ?_⟩
  · cases hload : RetentionSchema.load integer body with
    | error errors =>
        rw [RetentionResource.put, hload] at hput
        cases hput
    | ok args => exact (of_put_eq_ok hload hput).2.2
  · have hconfig := (sound_callLogsPurger.purgeSafe.completed daysToKeep now order refused none
      w w' hrun).1
    obtain ⟨config, hconfig⟩ := Option.ne_none_iff_exists'.1 hconfig
    refine ⟨config, hreflects.config.symm.trans hconfig,
      fun tenantUuid htenant stored hstored htenantUuid => ?_⟩
    rw [← hargs]
    exact mem_callLogs_of_purge hconfig hrun htenant hstored htenantUuid

/-- Integers are read as they are. -/
def readInteger : Json → Option ℤ
  | .int n => some n
  | _ => none

/-- The service has started over an old call log, and its tenant wants ten days of them. -/
def tenDays : World :=
  { oldCallLog with tables := { oldCallLog.tables with
      db := oldCallLog.tables.db.insertTenants {"t"}
      retentions := [⟨"t", some 10, none, none⟩]
      config := some ⟨500, 2, 365⟩ } }

/-- What the service was told. -/
def tenDaysSettings : List Setting :=
  [.file { cdrDays := some 500 }, .request "t" { cdrDays := some 10 }]

lemma settingsRun_tenDays : SettingsRun readInteger oldCallLog tenDaysSettings tenDays := by
  have hput : RetentionResource.put readInteger "t" (.obj [("cdr_days", .int 10)])
      (Controller.updateDbFromConfigFile { cdrDays := some 500 } oldCallLog.tables) =
        .ok (⟨"t", { cdrDays := some 10 }, ⟨500, 2, 365⟩⟩, tenDays.tables) := rfl
  have hload : RetentionSchema.load readInteger (.obj [("cdr_days", .int 10)]) =
      .ok { cdrDays := some 10 } := rfl
  exact .tail (.tail .refl (.start _ _)) (.put hload hput)

/-- The call log would have been kept by the defaults. -/
theorem retention_in_effect_tenDays : ∃ w', run (callLogsPurger.purge 365 (daysDuration 400)
      .byInsertion ∅ none) tenDays = (.ok (), w') ∧
    ∀ stored ∈ tenDays.tables.db.callLogs, stored ∉ w'.tables.db.callLogs := by
  have hcompletes : (run (callLogsPurger.purge 365 (daysDuration 400) .byInsertion ∅ none)
      tenDays).1 = .ok () := by
    decide +kernel
  refine ⟨_, Prod.ext hcompletes rfl, fun stored hstored => ?_⟩
  obtain ⟨config, hconfig, hkept⟩ := (retention_in_effect settingsRun_tenDays).2.2.2.2 365
    (daysDuration 400) .byInsertion ∅ _ (Prod.ext hcompletes rfl)
  obtain rfl : _ = config := Option.some.inj hconfig
  have htenant : "t" ∈ tenDays.tables.db.tenants := by decide +kernel
  obtain rfl := List.mem_singleton.1 hstored
  rw [hkept "t" htenant _ hstored rfl]
  decide +kernel

end CallLogd
