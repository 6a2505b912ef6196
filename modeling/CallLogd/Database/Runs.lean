/-
Runs of the manager, with CELs that arrive in between.

The references between CELs and call logs are an invariant of the successful
operations: every CEL names a stored call log, if any, and every stored call log
is named by a CEL.
-/
import CallLogd.Database.Association

namespace CallLogd

open Transactions Sequences

/-! ### Operations -/

/-- The operations of the manager. -/
inductive Operation where
  | generateFromLinkedId (gen : CallLogsGenerator) (linkedId : String)
  | generateFromCount (gen : CallLogsGenerator) (celCount : ℕ)
  | generateFromDays (gen : CallLogsGenerator) (now : DateTime) (days : ℕ)
  | deleteAll
  | deleteFromDays (now : DateTime) (days : ℕ)

/-- The program of an operation, without faults. -/
def Operation.program : Operation → Dao Unit
  | generateFromLinkedId gen linkedId => CallLogsManager.generateFromLinkedId gen noFault linkedId
  | generateFromCount gen celCount => CallLogsManager.generateFromCount gen noFault celCount
  | generateFromDays gen now days => CallLogsManager.generateFromDays gen noFault now days
  | deleteAll => CallLogsManager.deleteAll noFault
  | deleteFromDays now days => CallLogsManager.deleteFromDays noFault now days

/-- New CELs, with ids of their own, are inserted into the table. -/
def Database.insertCels (cels : List CEL) (db : Database)
    (h : (db.cels.map (·.id) ++ cels.map (·.id)).Nodup) : Database :=
  { db with
    cels := db.cels ++ cels.map fun cel => { toCEL := cel }
    cels_nodup := by simpa [Function.comp_def] using h }

/-- A successful operation, or the arrival of CELs. -/
inductive Step : Database → Database → Prop
  | operation {db db' : Database} (op : Operation) (h : run op.program db = (.ok (), db')) :
      Step db db'
  | arrival {db : Database} (cels : List CEL)
      (h : (db.cels.map (·.id) ++ cels.map (·.id)).Nodup) : Step db (db.insertCels cels h)

/-- The states that a finite sequence of steps reaches from a state. -/
def Reaches : Database → Database → Prop := Relation.ReflTransGen Step

/-- A database without call logs. -/
structure Database.Initial (db : Database) : Prop where
  callLogs : db.callLogs = []
  callLogId : ∀ cel ∈ db.cels, cel.callLogId = none

/-! ### The invariant -/

/-- The references and the call logs correspond. -/
structure Database.Linked (db : Database) : Prop where
  /-- No reference dangles. -/
  consistent : db.Consistent
  /-- No call log is an orphan. -/
  named : ∀ stored ∈ db.callLogs, ∃ cel ∈ db.cels, cel.callLogId = some stored.id

variable {db db' : Database}

lemma Database.Initial.linked (h : db.Initial) : db.Linked where
  consistent := by
    intro cel hcel id hid
    rw [h.callLogId cel hcel] at hid
    cases hid
  named := by simp [h.callLogs]

lemma Database.Linked.insertCels (h : db.Linked) {cels : List CEL}
    (hnd : (db.cels.map (·.id) ++ cels.map (·.id)).Nodup) : (db.insertCels cels hnd).Linked where
  consistent := by
    intro cel hcel id hid
    rcases List.mem_append.1 hcel with hcel | hcel
    · exact h.consistent cel hcel id hid
    · obtain ⟨new, -, rfl⟩ := List.mem_map.1 hcel
      cases hid
  named := by
    intro stored hstored
    obtain ⟨cel, hcel, hid⟩ := h.named stored hstored
    exact ⟨cel, List.mem_append_left _ hcel, hid⟩

/-- The fetched rows are rows of the table. -/
lemma mem_of_mem_fetch {fetch : CallLogsManager.Fetch} {row : CELRow} (h : row ∈ fetch.cels db) :
    row ∈ db.cels := by
  cases fetch <;> exact List.mem_of_mem_filter (mem_sortedBy.1 h)

variable (db) in
lemma fetch_nodup (fetch : CallLogsManager.Fetch) :
    (((fetch.cels db).map (·.toCEL)).map (·.id)).Nodup := by
  have hcels : ∀ p : CELRow → Bool,
      ((sortedBy (·.eventtime) (db.cels.filter p)).map (·.id)).Nodup := fun p =>
    ((sortedBy_perm _ _).map _).nodup_iff.2 (db.cels_nodup.sublist (List.filter_sublist.map _))
  rw [List.map_map]
  cases fetch <;> exact hcels _

/-- What a generation writes is computed from the rows that it fetches. -/
lemma run_generate {gen : CallLogsGenerator} {fetch : CallLogsManager.Fetch} :
    run (CallLogsManager.generate gen noFault fetch) db =
      run (CallLogsWriter.write noFault (gen.fromCel (fetch.cels db))) db :=
  run_bind_of_ok rfl

section Generate

variable {gen : CallLogsGenerator} {fetch : CallLogsManager.Fetch} {cel : CELRow}

/-- A row that is in a new call log was fetched. -/
lemma mem_fetch_of_mem_celIds {c : StoredCallLog} {n : ℕ} (hcel : cel ∈ db.cels)
    (hc : c ∈ numbered n (gen.fromCel (fetch.cels db)).newCallLogs)
    (hid : cel.id ∈ c.log.celIds) : cel ∈ fetch.cels db := by
  obtain ⟨d, hd, hdc⟩ := exists_of_mem_celIds (mem_numbered hc).1 hid
  obtain ⟨row, hrow, rfl⟩ := List.mem_map.1 hd
  exact List.inj_on_of_nodup_map db.cels_nodup (mem_of_mem_fetch hrow) hcel hdc ▸ hrow

/-- A CEL that is not fetched keeps its call log, unless this is deleted. -/
lemma writtenCallLogId_of_notMem {id : ℕ} (hcel : cel ∈ db.cels) (hfetch : cel ∉ fetch.cels db)
    (hid : cel.callLogId = some id)
    (hkept : id ∉ (gen.fromCel (fetch.cels db)).callLogsToDelete) :
    writtenCallLogId (gen.fromCel (fetch.cels db)) db.nextCallLogId cel = some id := by
  rw [writtenCallLogId, lastAssociated_of_forall_notMem fun c hc hidc =>
    hfetch (mem_fetch_of_mem_celIds hcel hc hidc), hid]
  simp [hkept]

variable (gen fetch db) in
/-- A new call log is the last one of a CEL of its conversation. -/
lemma exists_lastAssociated {n : ℕ} {c : StoredCallLog}
    (hc : c ∈ numbered n (gen.fromCel (fetch.cels db)).newCallLogs) :
    ∃ row ∈ fetch.cels db, ∀ old,
      lastAssociated (numbered n (gen.fromCel (fetch.cels db)).newCallLogs) row.id old =
        some c.id := by
  obtain ⟨d, hd, hconv, hid⟩ := exists_cel_of_conversation (mem_numbered hc).1
  obtain ⟨row, hrow, rfl⟩ := List.mem_map.1 hd
  have hpw := pairwise_numbered (n := n) (pairwise_exclusiveConversation gen (fetch_nodup db fetch))
  obtain ⟨before, after, hsplit⟩ := List.append_of_mem hc
  refine ⟨row, hrow, fun old => ?_⟩
  rw [hsplit]
  rw [show (gen.fromCel (fetch.cels db)).newCallLogs =
    gen.callLogsFromCel ((fetch.cels db).map (·.toCEL)) from rfl] at hsplit
  rw [hsplit] at hpw
  refine lastAssociated_append_cons hid fun c' hc' => ?_
  exact ((List.pairwise_cons.1 (List.pairwise_append.1 hpw).2.1).1 c' hc').1 _ hd hconv

end Generate

/-- A generation keeps the correspondence. -/
lemma Database.Linked.generate (h : db.Linked) {gen : CallLogsGenerator}
    {fetch : CallLogsManager.Fetch}
    (hrun : run (CallLogsManager.generate gen noFault fetch) db = (.ok (), db')) : db'.Linked := by
  rw [run_generate] at hrun
  refine ⟨?_, ?_⟩
  · have hconsistent := consistent_write_iff h.consistent noFault (gen.fromCel (fetch.cels db))
    rw [hrun] at hconsistent
    exact hconsistent.2 fun hfault => Bool.noConfusion hfault.2.1
  · obtain ⟨hcallLogs, hcels⟩ := run_write_eq_ok hrun
    rw [hcallLogs, hcels]
    intro stored hstored
    rcases List.mem_append.1 hstored with hstored | hstored
    · -- a call log that stays is not the one of a fetched CEL
      obtain ⟨hstored, hkept⟩ := List.mem_filter.1 hstored
      have hkept := of_decide_eq_true hkept
      obtain ⟨cel, hcel, hid⟩ := h.named stored hstored
      have hfetch : cel ∉ fetch.cels db := fun hmem =>
        hkept (mem_listCallLogIds.2 ⟨⟨cel, hmem, hid⟩, (db.callLogs_pos stored hstored).ne'⟩)
      exact ⟨_, List.mem_map_of_mem hcel, writtenCallLogId_of_notMem hcel hfetch hid hkept⟩
    · obtain ⟨c, hc, rfl⟩ := List.mem_map.1 hstored
      obtain ⟨row, hrow, hid⟩ := exists_lastAssociated db gen fetch hc
      exact ⟨_, List.mem_map_of_mem (mem_of_mem_fetch hrow), hid _⟩

lemma Database.Linked.deleteAll (h : db.Linked)
    (hrun : run (CallLogsManager.deleteAll noFault) db = (.ok (), db')) : db'.Linked := by
  have hconsistent := consistent_deleteAll_iff h.consistent noFault
  rw [hrun] at hconsistent
  refine ⟨hconsistent.2 fun hfault => Bool.noConfusion hfault.2.1, ?_⟩
  obtain rfl : _ = db' := (Prod.mk.inj hrun).2
  intro stored hstored
  have hmatch := (List.mem_filter.1 hstored).2
  simp [CallLogDAO.matchesOlder] at hmatch

/-- The deletion of call logs with the references to them. -/
lemma Database.Linked.unassociate (h : db.Linked) (ids : Finset ℕ) :
    (CELDAO.unassociate ids (db.deleteCallLogs ids)).Linked where
  consistent := consistent_unassociate h.consistent
  named := by
    intro stored hstored
    obtain ⟨hstored, hkept⟩ := List.mem_filter.1 hstored
    have hkept := of_decide_eq_true hkept
    obtain ⟨cel, hcel, hid⟩ := h.named stored hstored
    refine ⟨_, List.mem_map_of_mem hcel, ?_⟩
    simp [hid, hkept]

lemma Database.Linked.deleteFromDays (h : db.Linked) {now : DateTime} {days : ℕ}
    (hrun : run (CallLogsManager.deleteFromDays noFault now days) db = (.ok (), db')) :
    db'.Linked := by
  have hdelete : run (CallLogDAO.delete (noFault .deleteCallLogs)
      (some (CallLogsManager.daysBefore now days))) db = (.ok _, _) := rfl
  rw [CallLogsManager.deleteFromDays, run_bind_of_ok hdelete, run_unassociateAllFromCallLogIds,
    if_neg (by simp [noFault]), filterCallLogs_eq_deleteCallLogs] at hrun
  obtain rfl := (Prod.mk.inj hrun).2
  exact h.unassociate _

/-- Every step keeps the correspondence. -/
lemma Database.Linked.step (h : db.Linked) (hstep : Step db db') : db'.Linked := by
  cases hstep with
  | operation op hrun =>
      cases op with
      | generateFromLinkedId gen linkedId => exact h.generate hrun
      | generateFromCount gen celCount => exact h.generate hrun
      | generateFromDays gen now days => exact h.generate hrun
      | deleteAll => exact h.deleteAll hrun
      | deleteFromDays now days => exact h.deleteFromDays hrun
  | arrival cels hnd => exact h.insertCels hnd

/-- The references and the call logs correspond in every run that starts without
call logs. -/
theorem linked_of_reaches (h : db.Initial) (hreaches : Reaches db db') : db'.Linked := by
  induction hreaches with
  | refl => exact h.linked
  | tail _ hstep ih => exact ih.step hstep

/-- The state in which a successful operation leaves the database. -/
lemma Reaches.operation (h : Reaches db db') (op : Operation)
    (hok : (run op.program db').1 = .ok ()) : Reaches db (run op.program db').2 :=
  h.tail (.operation op (Prod.ext hok rfl))

/-- The CELs of a small call have arrived. -/
def arrivedCall : Database := Database.insertCels (shortCall 1 "1.1") .empty (by decide)

/-- The small call has been generated. -/
def generatedCall : Database :=
  (run (Operation.generateFromLinkedId .simple "1.1").program arrivedCall).2

lemma initial_empty : Database.Initial {} := ⟨rfl, by simp⟩

lemma linked_arrivedCall : arrivedCall.Linked := initial_empty.linked.insertCels _

lemma reaches_generatedCall : Reaches {} generatedCall :=
  Reaches.operation (.single (.arrival (shortCall 1 "1.1") _)) _ (by decide +kernel)

/-- A small call that arrives and is generated. -/
theorem linked_generatedCall : generatedCall.Linked :=
  linked_of_reaches initial_empty reaches_generatedCall

end CallLogd
