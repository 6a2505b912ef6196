/-
The details of the destination of a call log, as they are shown: `DestinationDetailsField`.

Whatever the service has done, the rows of a call log have all the details of one type, so
the listing shows each of them under its key and nothing else, in whatever order the rows
come.  Only a detail that is shown as a number can fail to be shown, if its text is not a
number, and then no list with its call log is shown at all (`details_shown`).
-/
import CallLogd.Concurrency.Overwriting
import CallLogd.Generation.Details
import CallLogd.Media.Reading

namespace CallLogd

open Results Transactions
open scoped List

/-- The details that are shown as numbers. -/
def integerDetails : List String :=
  ((destinationDetailsSchemas.flatMap Prod.snd).filter fun p => p.2 = .integer).map Prod.fst

/-- The texts of the numbers among some details are those of numbers. -/
def IntegersRead (formats : SchemaFormats) (details : List (String × String)) : Prop :=
  ∀ detail ∈ details, detail.1 ∈ integerDetails → (formats.int detail.2).isSome

instance (formats : SchemaFormats) (details : List (String × String)) :
    Decidable (IntegersRead formats details) :=
  inferInstanceAs (Decidable (∀ detail ∈ details, _ → _))

/-- One detail under its key, as a number or as its text. -/
def shownDetail (formats : SchemaFormats) (detail : String × String) : String × Json :=
  (detail.1,
    if detail.1 ∈ integerDetails then intJson (formats.int detail.2) else .str detail.2)

/-- The details as they are shown; a destination without details is unknown. -/
def shownDetails (formats : SchemaFormats) (details : List (String × String)) :
    Dict String Json :=
  if details = [] then [("type", .str "unknown")] else details.map (shownDetail formats)

variable {formats : SchemaFormats} {details rows : List (String × String)}

/-! ### The schemas -/

lemma nodup_of_mem_schemas {schema : String × Dict String DetailField}
    (h : schema ∈ destinationDetailsSchemas) : ("type" :: schema.2.map Prod.fst).Nodup := by
  revert schema
  decide

lemma mem_integerDetails {schema : String × Dict String DetailField} {p : String × DetailField}
    (h : schema ∈ destinationDetailsSchemas) (hp : p ∈ schema.2) :
    p.1 ∈ integerDetails ↔ p.2 = .integer := by
  have hall : ∀ schema ∈ destinationDetailsSchemas, ∀ p ∈ schema.2,
      (p.1 ∈ integerDetails ↔ p.2 = .integer) := by decide
  exact hall schema h p hp

lemma CompleteDetails.nodup (h : CompleteDetails details) : (details.map Prod.fst).Nodup := by
  cases h with
  | none h => simp [h]
  | typed type fields hschema htype hkeys =>
      exact hkeys.nodup_iff.2 (nodup_of_mem_schemas (Dict.mem_of_get? hschema))

/-! ### One destination -/

/-- The text of a detail. -/
def detailText (details : List (String × String)) (key : String) : String :=
  (Dict.get? details key).getD ""

lemma mem_details_iff (hnodup : (details.map Prod.fst).Nodup) {key text : String} :
    (key, text) ∈ details ↔ key ∈ details.map Prod.fst ∧ detailText details key = text := by
  rw [Dict.mem_iff_get? hnodup, detailText]
  constructor
  · intro h
    exact ⟨List.mem_map_of_mem (Dict.mem_of_get? h), by rw [h, Option.getD_some]⟩
  · rintro ⟨hkey, rfl⟩
    obtain ⟨⟨_, text⟩, hmem, rfl⟩ := List.mem_map.1 hkey
    rw [(Dict.mem_iff_get? hnodup).1 hmem, Option.getD_some]

/-- The details are their keys with the texts. -/
lemma map_detailText (hnodup : (details.map Prod.fst).Nodup) :
    (details.map Prod.fst).map (fun key => (key, detailText details key)) = details := by
  rw [List.map_map]
  refine (List.map_congr_left fun detail hdetail => ?_).trans (List.map_id details)
  exact Prod.ext rfl ((mem_details_iff hnodup).1 hdetail).2

/-- The details of a type: the type, and the fields of its schema with their texts. -/
lemma perm_of_typed {type : String} {fields : Dict String DetailField}
    (hnodup : (details.map Prod.fst).Nodup) (htype : ("type", type) ∈ details)
    (hkeys : details.map Prod.fst ~ "type" :: fields.map Prod.fst) :
    details ~ ("type", type) :: fields.map fun p => (p.1, detailText details p.1) := by
  have hperm := hkeys.map fun key => (key, detailText details key)
  rw [map_detailText hnodup, List.map_cons, ((mem_details_iff hnodup).1 htype).2,
    List.map_map] at hperm
  exact hperm

variable (formats) in
/-- One field of a schema. -/
lemma serialize_field {schema : String × Dict String DetailField} {p : String × DetailField}
    (h : schema ∈ destinationDetailsSchemas) (hp : p ∈ schema.2) (text : String) :
    (do return (p.1, ← p.2.serialize formats text) : Except PyError (String × Json)) =
      if p.1 ∈ integerDetails → (formats.int text).isSome then
        .ok (shownDetail formats (p.1, text))
      else .error .valueError := by
  have hkey := mem_integerDetails h hp
  obtain ⟨key, field⟩ := p
  cases field with
  | text =>
      have hkey : key ∉ integerDetails := fun hmem => nomatch hkey.1 hmem
      rw [shownDetail, if_neg hkey, if_pos fun hmem => absurd hmem hkey]
      rfl
  | integer =>
      rw [shownDetail, if_pos (hkey.2 rfl), DetailField.serialize]
      cases formats.int text with
      | none => exact (if_neg fun h => nomatch h (hkey.2 rfl)).symm
      | some n => exact (if_pos fun _ => rfl).symm

variable (formats) in
/-- The rows of a destination are shown in full, or a number among them is not one. -/
lemma serialize_of_complete (h : CompleteDetails details) :
    ∃ shown, shown ~ shownDetails formats details ∧ ∀ rows, rows ~ details →
      DestinationDetailsField.serialize formats (Dict.ofItems rows) =
        if IntegersRead formats details then .ok shown else .error .valueError := by
  have hnodup := h.nodup
  have hrows : ∀ rows, rows ~ details → ∀ key,
      Dict.get? (Dict.ofItems rows) key = Dict.get? details key := by
    intro rows hrows key
    have hnodup' : (rows.map Prod.fst).Nodup := (hrows.map _).nodup_iff.2 hnodup
    rw [Dict.ofItems_of_nodup hnodup', Dict.get?_of_perm hnodup' hrows]
  cases h with
  | none h =>
      subst h
      refine ⟨_, .refl _, fun rows hrows => ?_⟩
      rw [List.perm_nil.1 hrows]
      rfl
  | typed type fields hschema htype hkeys =>
      have hperm := perm_of_typed hnodup htype hkeys
      have hmem := Dict.mem_of_get? hschema
      refine ⟨("type", .str type) ::
        fields.map fun p => shownDetail formats (p.1, detailText details p.1), ?_, ?_⟩
      · rw [shownDetails, if_neg (List.ne_nil_of_mem htype)]
        have hshown := hperm.map (shownDetail formats)
        rw [List.map_cons, List.map_map] at hshown
        exact hshown.symm
      · intro rows hrows'
        have hget : ∀ p ∈ fields, Dict.get? details p.1 = some (detailText details p.1) := by
          intro p hp
          have hkey : p.1 ∈ details.map Prod.fst :=
            hkeys.mem_iff.2 (List.mem_cons_of_mem _ (List.mem_map_of_mem hp))
          exact (Dict.mem_iff_get? hnodup).1 ((mem_details_iff hnodup).2 ⟨hkey, rfl⟩)
        -- every field of the schema has a row
        have hknown : (fields.filterMap fun p =>
            (Dict.get? (Dict.ofItems rows) p.1).map fun text => (p.1, p.2, text)) =
              fields.map fun p => (p.1, p.2, detailText details p.1) := by
          rw [← List.filterMap_eq_map]
          refine List.filterMap_congr fun p hp => ?_
          rw [hrows rows hrows', hget p hp]
          rfl
        have hread : IntegersRead formats details ↔ ∀ p ∈ fields, p.1 ∈ integerDetails →
            (formats.int (detailText details p.1)).isSome := by
          have htypeText : "type" ∉ integerDetails := by decide
          rw [IntegersRead]
          simp only [hperm.mem_iff, List.forall_mem_cons, htypeText, false_implies, true_and,
            List.forall_mem_map]
        rw [DestinationDetailsField.serialize, hrows rows hrows',
          (Dict.mem_iff_get? hnodup).1 htype]
        simp only [Option.getD_some, hschema]
        have hloop := Results.mapM_eq_ite (l := fields) fun p hp =>
          serialize_field formats hmem hp (detailText details p.1)
        rw [hknown, List.mapM_map]
        refine (congrArg (· >>= fun shown => pure (("type", Json.str type) :: shown))
          hloop).trans ?_
        simp only [hread]
        split <;> rfl

/-! ### Lists -/

section Lists

variable {stored : StoredCallLog} {exclude : List String} {list : CDRList}

/-- A call log is shown, unless a number among its details is not one. -/
lemma completes_dump_iff (h : CompleteDetails stored.log.destinationDetails) :
    Completes (CDRSchema.dump formats exclude stored) ↔
      IntegersRead formats stored.log.destinationDetails := by
  obtain ⟨shown, -, hserialize⟩ := serialize_of_complete formats h
  have hdetails : DestinationDetailsField.serialize formats stored.log.destinationDetailsDict =
      _ := hserialize _ (.refl _)
  rw [CDRSchema.dump, hdetails]
  by_cases hread : IntegersRead formats stored.log.destinationDetails
  · rw [if_pos hread]
    exact iff_of_true ⟨_, rfl⟩ hread
  · rw [if_neg hread]
    exact iff_of_false (fun ⟨_, h⟩ => nomatch h) hread

/-- One call log that cannot be shown hides the others. -/
lemma completes_dumpList_iff
    (h : ∀ item ∈ list.items, CompleteDetails item.log.destinationDetails) :
    Completes (CDRSchemaList.dump formats exclude list) ↔
      ∀ item ∈ list.items, IntegersRead formats item.log.destinationDetails := by
  rw [CDRSchemaList.dump, completes_bind_of_forall fun _ => completes_pure _, completes_mapM]
  exact forall₂_congr fun item hitem => completes_dump_iff (h item hitem)

end Lists

/-! ### The life of the service -/

/-- A phase that a generation can come to, whatever is done between its transactions. -/
inductive Generation.Reaches (g : Generation) : Phase → Prop
  | start : g.Reaches .start
  | next {phase : Phase} {step : DaoStep} {m : Dao Phase} (h : g.Reaches phase)
      (hnext : phase.next g = some (step, m)) (db : Database) :
      g.Reaches (.after (run m db).1)

/-- Generations go on, one transaction after the other, between anything that creates no
call logs. -/
inductive LiveStep : World → World → Prop
  | transaction {g : Generation} {phase : Phase} {step : DaoStep} {m : Dao Phase}
      (h : g.Reaches phase) (hnext : phase.next g = some (step, m)) (w : World) :
      LiveStep w { w with tables := { w.tables with db := (run m w.tables.db).2 } }
  | other {w w' : World} (h : MediaStep w w')
      (hnone : w'.tables.db.nextCallLogId = w.tables.db.nextCallLogId) : LiveStep w w'

section Runs

variable {g : Generation} {phase phase' : Phase} {step : DaoStep} {w w' : World} {log : CallLog}
  {db db' : Database} {logs : List CallLog}

/-- What a transaction makes of the call logs that a generation carries. -/
lemma mem_newLogs_of_moves (h : Phase.Moves g db phase step db' phase')
    (hlog : log ∈ phase'.newLogs) :
    log ∈ phase.newLogs ∨ ∃ cels, log ∈ g.gen.callLogsFromCel cels := by
  cases h with
  | fetchCels => exact .inr ⟨_, hlog⟩
  | deleteCallLogs | unassociate | createTenants | createCallLogs => exact .inl hlog
  | refuseTenants | fail | associate => cases hlog

/-- A generation carries the call logs of its generator. -/
lemma exists_cels_of_mem_newLogs (h : g.Reaches phase) (hlog : log ∈ phase.newLogs) :
    ∃ cels, log ∈ g.gen.callLogsFromCel cels := by
  induction h with
  | start => cases hlog
  | next _ hnext db ih =>
      exact (mem_newLogs_of_moves (Phase.moves_of_next hnext db) hlog).elim ih id

/-- What the columns keep of the details is complete: no type is so long that it is cut. -/
lemma CompleteDetails.columns (h : CompleteDetails log.destinationDetails) :
    CompleteDetails log.columns.destinationDetails := by
  cases h with
  | none h =>
      refine .none ?_
      rw [CallLog.columns, h, List.map_nil]
  | typed type fields hschema htype hkeys =>
      have hkept : ∀ schema ∈ destinationDetailsSchemas, Column.cut 255 schema.1 = schema.1 := by
        decide +kernel
      refine .typed type fields hschema (List.mem_map.2 ⟨_, htype, ?_⟩) ?_
      · rw [Prod.map_apply, hkept _ (Dict.mem_of_get? hschema), id_eq]
      · rw [CallLog.columns, List.map_map]
        exact hkeys

/-- The call logs of a database have complete details. -/
def Database.Detailed (db : Database) : Prop :=
  ∀ stored ∈ db.callLogs, CompleteDetails stored.log.destinationDetails

lemma Database.Detailed.moves (hdb : db.Detailed) (hreach : g.Reaches phase)
    (h : Phase.Moves g db phase step db' phase') : db'.Detailed := by
  cases h with
  | fetchCels | unassociate | createTenants | refuseTenants | fail | associate => exact hdb
  | deleteCallLogs => exact fun stored hstored => hdb stored (List.mem_of_mem_filter hstored)
  | createCallLogs =>
      intro stored hstored
      rw [insertCallLogs_callLogs] at hstored
      rcases List.mem_append.1 hstored with hold | hnew
      · exact hdb stored hold
      · obtain ⟨created, hcreated, rfl⟩ := List.mem_map.1 hnew
        obtain ⟨cels, hlog⟩ := exists_cels_of_mem_newLogs hreach (mem_numbered hcreated).1
        exact (CallLogsGenerator.details_callLogsFromCel hlog).columns

/-- What creates no call logs changes no details. -/
lemma Database.Detailed.later (hdb : db.Detailed) (h : db.Later db')
    (hnone : db'.nextCallLogId = db.nextCallLogId) : db'.Detailed := by
  intro stored' hstored'
  obtain ⟨stored, hstored, f, -, rfl⟩ := (h.callLogs stored' hstored').resolve_right
    (Nat.not_le.2 (hnone ▸ db'.callLogs_lt stored' hstored'))
  exact hdb stored hstored

lemma detailed_of_liveSteps (hw : w.tables.db.Detailed)
    (h : Relation.ReflTransGen LiveStep w w') : w'.tables.db.Detailed := by
  induction h with
  | refl => exact hw
  | tail _ hstep ih =>
      cases hstep with
      | transaction hreach hnext => exact ih.moves hreach (Phase.moves_of_next hnext _)
      | other h hnone => exact ih.later h.later hnone

lemma CDRService.mem_callLogs_of_mem_items {rules : TextRules} {params : ListParams}
    {list : CDRList} {item : StoredCallLog} (h : CDRService.list rules params db = .ok list)
    (hitem : item ∈ list.items) : item ∈ db.callLogs :=
  CallLogDAO.mem_callLogs_of_mem_listQuery
    (CallLogDAO.mem_listQuery_of_mem_findAllInPeriod (findAllInPeriod_of_list h) hitem)

end Runs

/-! ### A whole generation -/

/-- The number of transactions that a generation has left. -/
def Phase.left : Phase → ℕ
  | start => 6
  | fetched _ => 5
  | deleted _ => 4
  | unassociated _ => 3
  | tenantsCreated _ => 2
  | created _ _ => 1
  | finished _ _ | failed => 0

/-- The database after a program. -/
def World.after {α : Type} (m : Dao α) (w : World) : World :=
  { w with tables := { w.tables with db := (run m w.tables.db).2 } }

section Whole

variable {g : Generation} {phase phase' : Phase} {step : DaoStep} {db db' : Database}

lemma World.after_bind_of_ok {α β : Type} {m : Dao α} {f : α → Dao β} {a : α} {w : World}
    (h : run m w.tables.db = (.ok a, db)) : w.after (m >>= f) = (w.after m).after (f a) := by
  simp only [World.after, run_bind_of_ok h, h]

lemma World.after_bind_of_error {α β : Type} {m : Dao α} {f : α → Dao β} {e : DaoError}
    {w : World} (h : run m w.tables.db = (.error e, db)) : w.after (m >>= f) = w.after m := by
  simp only [World.after, run_bind_of_error h, h]

lemma Phase.left_of_moves (h : Phase.Moves g db phase step db' phase') :
    phase'.left < phase.left := by
  cases h <;> simp [left]

/-- What is left of a generation is a run of transactions. -/
lemma liveSteps_rest (h : g.Reaches phase) (w : World) :
    Relation.ReflTransGen LiveStep w (w.after (phase.rest g)) := by
  induction hn : phase.left using Nat.strong_induction_on generalizing phase w with
  | _ n ih =>
      subst hn
      cases hnext : phase.next g with
      | none =>
          cases phase with
          | finished _ _ | failed => exact .refl
          | _ => cases hnext
      | some next =>
          obtain ⟨step, m⟩ := next
          have hstep : LiveStep w (w.after m) := .transaction h hnext w
          have hleft := Phase.left_of_moves (Phase.moves_of_next hnext w.tables.db)
          have hrest : w.after (phase.rest g) = w.after (m >>= Phase.rest g) := by
            rw [World.after, World.after, Phase.run_rest hnext]
          have hreach := h.next hnext w.tables.db
          rw [hrest]
          refine .head (b := w.after m) hstep ?_
          cases hm : run m w.tables.db with
          | mk r db' =>
              rw [hm] at hleft hreach
              cases r with
              | error e =>
                  rw [World.after_bind_of_error hm]
              | ok phase' =>
                  rw [World.after_bind_of_ok hm]
                  exact ih phase'.left hleft hreach _ rfl

/-- A whole generation is a run of its transactions. -/
lemma liveSteps_generate (g : Generation) (w : World) : Relation.ReflTransGen LiveStep w
    (w.after (CallLogsManager.generate g.gen noFault g.fetch)) :=
  liveSteps_rest .start w

end Whole

/-! ### What is shown -/

/-- Whatever the service has done, a list is shown unless one of the numbers among the details
of its call logs is not one; and the details of each call log are shown, all of them, in
whatever order the database returns their rows. -/
theorem details_shown (rules : TextRules) (formats : SchemaFormats) (exclude : List String)
    {w w' : World} (hw : w.tables.db.Detailed) (h : Relation.ReflTransGen LiveStep w w')
    {params : ListParams} {list : CDRList}
    (hlist : CDRService.list rules params w'.tables.db = .ok list) :
    (Completes (CDRSchemaList.dump formats exclude list) ↔
        ∀ item ∈ list.items, IntegersRead formats item.log.destinationDetails) ∧
      ∀ item ∈ list.items, ∃ shown, shown ~ shownDetails formats item.log.destinationDetails ∧
        ∀ rows, rows ~ item.log.destinationDetails →
          DestinationDetailsField.serialize formats (Dict.ofItems rows) =
            if IntegersRead formats item.log.destinationDetails then .ok shown
            else .error .valueError := by
  have hitems : ∀ item ∈ list.items, CompleteDetails item.log.destinationDetails :=
    fun item hitem => detailed_of_liveSteps hw h item
      (CDRService.mem_callLogs_of_mem_items hlist hitem)
  exact ⟨completes_dumpList_iff hitems, fun item hitem =>
    serialize_of_complete formats (hitems item hitem)⟩

/-- The CELs of a call to a group. -/
def salesCels : List CEL :=
  [plainEvent 1 "1.1" "PJSIP/alice-00000001" .chanStart,
    { plainEvent 2 "1.1" "PJSIP/alice-00000001" .wazoCallLogDestination with
      extra := some "\x7b\"extra\": \"type: group,id: 2,label: sales\"\x7d" },
    plainEvent 3 "1.1" "PJSIP/alice-00000001" .linkedidEnd]

/-- The call has arrived. -/
def salesArrival : World where
  tables := { db := Database.insertCels salesCels .empty (by decide) }
  files := ∅

/-- The call is generated. -/
def salesCall : World :=
  salesArrival.after (CallLogsManager.generate .simple noFault (.fromLinkedId "1.1"))

theorem details_shown_salesCall :
    salesCall.tables.db.callLogs.map (·.log.destinationDetails) =
        [[("type", "group"), ("group_id", "2"), ("group_label", "sales")]] ∧
      ∃ list, CDRService.list .ascii (({} : ListParams).fromId 0 none) salesCall.tables.db =
          .ok list ∧
        (Completes (CDRSchemaList.dump .ascii [] list) ↔
          ∀ item ∈ list.items, IntegersRead .ascii item.log.destinationDetails) ∧
        ∀ item ∈ list.items, ∃ shown,
          shown ~ shownDetails .ascii item.log.destinationDetails ∧
            ∀ rows, rows ~ item.log.destinationDetails →
              DestinationDetailsField.serialize .ascii (Dict.ofItems rows) =
                if IntegersRead .ascii item.log.destinationDetails then .ok shown
                else .error .valueError := by
  obtain ⟨list, hlist⟩ := CDRService.exists_list_fromId .ascii {} salesCall.tables.db 0 none
  refine ⟨by decide +kernel, list, hlist, ?_⟩
  have hnone : salesArrival.tables.db.Detailed := fun stored hstored => by cases hstored
  exact details_shown .ascii .ascii [] hnone
    (liveSteps_generate ⟨.simple, .fromLinkedId "1.1"⟩ salesArrival) hlist

end CallLogd
