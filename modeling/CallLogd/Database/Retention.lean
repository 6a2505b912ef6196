/-
The call logs that processed CELs keep.

A generation deletes the call logs of the CELs that it fetches, and creates those
of the groups of these CELs that are complete and can be interpreted.
-/
import CallLogd.Database.Runs

namespace CallLogd

open Transactions

/-- A CEL has a stored call log. -/
def Database.Processed (db : Database) (cel : CEL) : Prop :=
  ∃ row ∈ db.cels, row.toCEL = cel ∧ ∃ id ∈ row.callLogId, db.hasCallLog id

instance (db : Database) (cel : CEL) : Decidable (db.Processed cel) :=
  inferInstanceAs (Decidable (∃ row ∈ db.cels, row.toCEL = cel ∧
    ∃ id ∈ row.callLogId, db.hasCallLog id))

variable {db db' : Database} {gen : CallLogsGenerator} {fetch : CallLogsManager.Fetch}
  {row : CELRow} {id : ℕ}

/-- A row after a generation. -/
def generatedRow (gen : CallLogsGenerator) (fetch : CallLogsManager.Fetch) (db : Database)
    (row : CELRow) : CELRow :=
  { row with
    callLogId := writtenCallLogId (gen.fromCel (fetch.cels db)) db.nextCallLogId row }

lemma cels_generate (h : run (CallLogsManager.generate gen noFault fetch) db = (.ok (), db')) :
    db'.cels = db.cels.map (generatedRow gen fetch db) := by
  rw [run_generate] at h
  exact (run_write_eq_ok h).2

/-- A CEL has a stored call log after a generation if its row names one. -/
lemma processed_generate_iff (hdb : db.Linked)
    (h : run (CallLogsManager.generate gen noFault fetch) db = (.ok (), db'))
    (hrow : row ∈ db.cels) :
    db'.Processed row.toCEL ↔ ∃ id, (generatedRow gen fetch db row).callLogId = some id := by
  have hcels := cels_generate h
  constructor
  · rintro ⟨row', hrow', heq, id, hid, -⟩
    rw [hcels] at hrow'
    obtain ⟨row₀, hrow₀, rfl⟩ := List.mem_map.1 hrow'
    -- a CEL is in the table once
    obtain rfl : row₀ = row :=
      List.inj_on_of_nodup_map db.cels_nodup hrow₀ hrow (congrArg CEL.id heq)
    exact ⟨id, hid⟩
  · rintro ⟨id, hid⟩
    have hmem : generatedRow gen fetch db row ∈ db'.cels := hcels ▸ List.mem_map_of_mem hrow
    exact ⟨_, hmem, rfl, id, hid, (hdb.generate h).consistent _ hmem id hid⟩

/-- The row of a CEL whose call log is not that of a fetched CEL does not change. -/
lemma generatedRow_of_forall_ne (hrow : row ∈ db.cels) (hid : row.callLogId = some id)
    (hfetch : ∀ fetched ∈ fetch.cels db, fetched.callLogId ≠ some id) :
    generatedRow gen fetch db row = row := by
  have hkept : id ∉ (gen.fromCel (fetch.cels db)).callLogsToDelete := by
    intro hmem
    obtain ⟨⟨fetched, hfetched, heq⟩, -⟩ := mem_listCallLogIds.1 hmem
    exact hfetch fetched hfetched heq
  have hnot : row ∉ fetch.cels db := fun hmem => hfetch row hmem hid
  rw [generatedRow, writtenCallLogId_of_notMem hrow hnot hid hkept, ← hid]

/-- A fetched CEL that had a stored call log has one again exactly if a group that
has it yields one. -/
lemma exists_generatedRow_iff (hfetched : row ∈ fetch.cels db) (hid : row.callLogId = some id)
    (hpos : 0 < id) :
    (∃ n, (generatedRow gen fetch db row).callLogId = some n) ↔
      ∃ group ∈ groupCelsBySharedChannels ((fetch.cels db).map (·.toCEL)),
        row.toCEL ∈ group.2 ∧ (gen.logOfGroup group).isSome := by
  -- its call log is deleted, so only the new call logs count
  have hdelete : id ∈ (gen.fromCel (fetch.cels db)).callLogsToDelete :=
    mem_listCallLogIds.2 ⟨⟨row, hfetched, hid⟩, hpos.ne'⟩
  have hwritten : (generatedRow gen fetch db row).callLogId =
      lastAssociated (numbered db.nextCallLogId (gen.fromCel (fetch.cels db)).newCallLogs)
        row.id none := by
    simp [generatedRow, writtenCallLogId, hid, hdelete]
  have hlogs : ∀ logs : List CallLog,
      (∃ c ∈ numbered db.nextCallLogId logs, row.id ∈ c.log.celIds) ↔
        ∃ log ∈ logs, row.id ∈ log.celIds := by
    intro logs
    conv_rhs => rw [← map_log_numbered db.nextCallLogId logs]
    simp
  rw [hwritten, exists_lastAssociated_none_iff, hlogs]
  refine exists_mem_celIds_iff.trans (exists_congr fun group => and_congr_right fun hgroup => ?_)
  rw [and_comm]
  refine and_congr_left fun _ => ⟨fun hmem => ?_, fun hmem => List.mem_map_of_mem hmem⟩
  obtain ⟨c, hc, hcid⟩ := List.mem_map.1 hmem
  have hcels := mem_of_mem_groupCelsBySharedChannels hgroup hc
  exact List.inj_on_of_nodup_map (fetch_nodup db fetch) hcels (List.mem_map_of_mem hfetched) hcid ▸
    hc

/-- A processed CEL keeps its call log if no fetched CEL has it; a fetched one gets
a call log exactly if a group that has it yields one. -/
theorem processed_after_generate {db₀ : Database} (hdb₀ : db₀.Initial) (hreaches : Reaches db₀ db)
    (h : run (CallLogsManager.generate gen noFault fetch) db = (.ok (), db'))
    (hrow : row ∈ db.cels) (hid : row.callLogId = some id) (hstored : db.hasCallLog id) :
    ((∀ fetched ∈ fetch.cels db, fetched.callLogId ≠ some id) →
      row ∈ db'.cels ∧ db'.hasCallLog id) ∧
    (row ∈ fetch.cels db →
      (db'.Processed row.toCEL ↔
        ∃ group ∈ groupCelsBySharedChannels ((fetch.cels db).map (·.toCEL)),
          row.toCEL ∈ group.2 ∧ (gen.logOfGroup group).isSome)) := by
  have hdb := linked_of_reaches hdb₀ hreaches
  constructor
  · intro hfetch
    have hmem : row ∈ db'.cels := by
      have hsame : generatedRow gen fetch db row = row := generatedRow_of_forall_ne hrow hid hfetch
      rw [cels_generate h, ← hsame]
      exact List.mem_map_of_mem hrow
    exact ⟨hmem, (hdb.generate h).consistent row hmem id hid⟩
  · intro hfetched
    obtain ⟨stored, hmem, rfl⟩ := hstored
    rw [processed_generate_iff hdb h hrow]
    exact exists_generatedRow_iff hfetched hid (db.callLogs_pos stored hmem)

/-- The small call is generated again. -/
def regeneratedCall : Database :=
  (run (CallLogsManager.generate .simple noFault (.fromLinkedId "1.1")) generatedCall).2

/-- The first CEL of the small call when it is generated again. -/
theorem processed_regeneratedCall :
    regeneratedCall.Processed (shortCall 1 "1.1")[0] ↔
      ∃ group ∈ groupCelsBySharedChannels
          (((CallLogsManager.Fetch.fromLinkedId "1.1").cels generatedCall).map (·.toCEL)),
        (shortCall 1 "1.1")[0] ∈ group.2 ∧ (CallLogsGenerator.simple.logOfGroup group).isSome :=
  (processed_after_generate initial_empty reaches_generatedCall
    (Prod.ext (by decide +kernel) (by rw [regeneratedCall]))
    (by decide +kernel : (⟨(shortCall 1 "1.1")[0], some 1⟩ : CELRow) ∈ generatedCall.cels) rfl
    (by decide +kernel)).2 (by decide +kernel)

/-- The small call, and a new linkedid on its channel that has not ended. -/
def joinedCall : Database :=
  generatedCall.insertCels
    [{ id := 3, eventtype := .chanStart, eventtime := 3, uniqueid := "1.1", linkedid := "1.2" }]
    (by decide +kernel)

/-- The call log of the small call is deleted, and its group is skipped. -/
theorem joinedCall_not_processed :
    Reaches {} joinedCall ∧ joinedCall.Processed (shortCall 1 "1.1")[0] ∧
      (run (CallLogsManager.generate .simple noFault (.fromLinkedId "1.1")) joinedCall).1 =
        .ok () ∧
      ¬ (run (CallLogsManager.generate .simple noFault (.fromLinkedId "1.1"))
        joinedCall).2.Processed (shortCall 1 "1.1")[0] :=
  ⟨reaches_generatedCall.tail (.arrival _ _), by decide +kernel, by decide +kernel,
    by decide +kernel⟩

end CallLogd
