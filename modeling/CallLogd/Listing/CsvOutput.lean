/-
The call logs as a CSV text: `_output_csv`.

Each field of the `x`-th recording of a call log has a column, which the first call log
with that many recordings adds to the others.  The text has one line for each call log,
and each line has what its call log has in every column; two keys of a call log have none
(`readDicts_outputCsv`).
-/
import CallLogd.Lib.Csv
import CallLogd.Listing.Schema

namespace CallLogd

open Calendar

/-! ### The output -/

/-- `CSV_HEADERS`. -/
def csvHeaders : List String :=
  ["id", "tenant_uuid", "answered", "start", "answer", "end", "destination_extension",
    "destination_name", "destination_internal_extension", "destination_internal_context",
    "destination_user_uuid", "destination_line_id", "duration", "call_direction", "call_status",
    "requested_name", "requested_extension", "requested_context",
    "requested_internal_extension", "requested_internal_context", "requested_user_uuid",
    "source_extension", "source_name", "source_internal_name", "source_internal_extension",
    "source_internal_context", "source_user_uuid", "source_line_id", "tags"]

/-- The column of a field of the `x`-th recording. -/
def recordingColumn (x : ℕ) (key : String) : String :=
  "recording_" ++ toString x ++ "_" ++ key

/-- Add a column, unless it is there. -/
def addColumn (headers : List String) (column : String) : List String :=
  if column ∈ headers then headers else headers ++ [column]

/-- The texts that a value yields when it is iterated over. -/
def iterTexts : Json → Except PyError (List String)
  | .arr items => items.mapM fun
      | .str text => .ok text
      | _ => .error .typeError
  | .str text => .ok (text.toList.map fun c => String.ofList [c])
  | .obj fields => .ok (fields.map (·.1))
  | _ => .error .typeError

/-- The dictionaries of a list. -/
def iterDicts : Json → Except PyError (List (Dict String Json))
  | .arr items => items.mapM fun
      | .obj fields => .ok fields
      | _ => .error .attributeError
  | _ => .error .typeError

/-- The columns so far, and the line, with the fields of a recording. -/
def addRecording (state : List String × Dict String Json) (x : ℕ) (recording : Dict String Json) :
    List String × Dict String Json :=
  recording.foldl
    (fun state field =>
      (addColumn state.1 (recordingColumn x field.1),
        Dict.set state.2 (recordingColumn x field.1) field.2))
    state

/-- The tags of a call log, if it has any, become a text. -/
def joinTags (cdr : Dict String Json) : Except PyError (Dict String Json) :=
  match Dict.get? cdr "tags" with
  | some tags => do
      let texts ← iterTexts tags
      return Dict.set cdr "tags" (.str (";".intercalate texts))
  | none => pure cdr

/-- The columns so far, and the line of a call log. -/
def csvLine (headers : List String) (cdr : Dict String Json) :
    Except PyError (List String × Dict String Json) := do
  let cdr ← joinTags cdr
  match Dict.get? cdr "recordings" with
  | none => throw (.keyError "recordings")
  | some recordings =>
      let recordings ← iterDicts recordings
      return (recordings.zipIdx 1).foldl (fun state p => addRecording state p.2 p.1)
        (headers, Dict.pop cdr "recordings")

/-- The columns and the lines of some call logs. -/
def csvBody (items : List (Dict String Json)) :
    Except PyError (List String × List (Dict String Json)) :=
  items.foldlM
    (fun state cdr => do
      let (headers, line) ← csvLine state.1 cdr
      return (headers, state.2 ++ [line]))
    (csvHeaders, [])

/-- The text of a value in the line of a writer. -/
def SchemaFormats.csvText (formats : SchemaFormats) : Json → String
  | .null => ""
  | .str text => text
  | .int n => toString n
  | .bool true => "True"
  | .bool false => "False"
  | value => formats.str value

/-- The body of a response. -/
inductive CdrResponse where
  | json (data : Dict String Json)
  | csv (text : String)

/-- `_output_csv`.  `NotImplementedError` is a `RuntimeError`. -/
def outputCsv (formats : SchemaFormats) (data : Dict String Json) :
    Except PyError CdrResponse := do
  if (Dict.get? data "error_id").isSome then return .json data
  else
    let items ← match Dict.get? data "items" with
      | some items => iterDicts items
      | none =>
          if (Dict.get? data "id").isSome && (Dict.get? data "tags").isSome then .ok [data]
          else .error .runtimeError
    let (headers, lines) ← csvBody items
    return .csv (Csv.writeDicts .excel headers (lines.map fun line =>
      line.map fun field => (field.1, formats.csvText field.2)))

/-! ### The columns -/

/-- The keys of a call log, as the schema dumps it. -/
def cdrKeys : List String :=
  ["id", "tenant_uuid", "start", "end", "answered", "answer", "duration", "call_direction",
    "call_status", "conversation_id", "destination_details", "destination_extension",
    "destination_internal_context", "destination_internal_extension", "destination_line_id",
    "destination_name", "destination_user_uuid", "requested_name", "requested_context",
    "requested_extension", "requested_internal_context", "requested_internal_extension",
    "requested_user_uuid", "source_extension", "source_internal_context",
    "source_internal_name", "source_internal_extension", "source_line_id", "source_name",
    "source_user_uuid", "tags", "recordings"]

/-- The keys that have no column. -/
def keysWithoutColumn : List String := ["conversation_id", "destination_details"]

/-- The fields of a recording. -/
def recordingKeys : List String := ["uuid", "start_time", "end_time", "deleted", "filename"]

/-- The columns of the first `n` recordings. -/
def recordingColumns (n : ℕ) : List String :=
  (List.range n).flatMap fun x => recordingKeys.map (recordingColumn (x + 1))

section Columns

variable {x y m n : ℕ} {key key' column : String} {headers columns : List String}

lemma toList_recordingColumn : (recordingColumn x key).toList =
    "recording_".toList ++ ((toString x).toList ++ '_' :: key.toList) := by
  have htail : "_".toList = ['_'] := rfl
  simp [recordingColumn, htail]

/-- The name of a column tells the recording and the field: no `_` is in the number. -/
lemma recordingColumn_inj (h : recordingColumn x key = recordingColumn y key') :
    x = y ∧ key = key' := by
  have htext := congrArg String.toList h
  rw [toList_recordingColumn, toList_recordingColumn, List.append_cancel_left_eq] at htext
  have hsplit : ∀ (n : ℕ) (key : List Char),
      Text.splitOnce ['_'] ((toString n).toList ++ '_' :: key) =
        some ((toString n).toList, key) := fun n key =>
    Text.splitOnce_append fun hmem => absurd (isDigit_toString hmem) (by decide)
  have hparts := congrArg (Text.splitOnce ['_']) htext
  rw [hsplit, hsplit] at hparts
  obtain ⟨hdigits, hkey⟩ := Prod.mk.inj (Option.some.inj hparts)
  refine ⟨?_, String.toList_inj.1 hkey⟩
  rw [← digitsValue_toString x, hdigits, digitsValue_toString]

lemma csvHeaders_subset : csvHeaders ⊆ cdrKeys := by decide

/-- The column of a recording is not a key of a call log. -/
lemma recordingColumn_notMem : recordingColumn x key ∉ cdrKeys := by
  have hkeys : ∀ key ∈ cdrKeys, ¬ "recording_".toList <+: key.toList := by decide
  intro hmem
  refine hkeys _ hmem ?_
  rw [toList_recordingColumn]
  exact List.prefix_append _ _

lemma mem_recordingColumns : column ∈ recordingColumns n ↔
    ∃ x < n, ∃ key ∈ recordingKeys, column = recordingColumn (x + 1) key := by
  simp [recordingColumns, eq_comm]

lemma nodup_columns (n : ℕ) : (csvHeaders ++ recordingColumns n).Nodup := by
  refine List.Nodup.append (by decide) (List.nodup_flatMap.2 ⟨fun x _ => ?_, ?_⟩) ?_
  · refine List.Nodup.map_on (fun key _ key' _ h => (recordingColumn_inj h).2) (by decide)
  · refine List.nodup_range.pairwise_of_forall_ne fun x _ y _ hxy column hx hy => ?_
    obtain ⟨key, -, rfl⟩ := List.mem_map.1 hx
    obtain ⟨key', -, hcolumn⟩ := List.mem_map.1 hy
    exact hxy (Nat.succ_injective (recordingColumn_inj hcolumn).1.symm)
  · intro column hheader hcolumn
    obtain ⟨x, -, key, -, rfl⟩ := mem_recordingColumns.1 hcolumn
    exact recordingColumn_notMem (csvHeaders_subset hheader)

lemma recordingColumns_add : recordingColumns (m + n) = recordingColumns m ++
    ((List.range n).map (m + ·)).flatMap fun x => recordingKeys.map (recordingColumn (x + 1)) := by
  rw [recordingColumns, List.range_add, List.flatMap_append, recordingColumns]

/-- Columns that are there already are not added. -/
lemma foldl_addColumn_of_subset (h : columns ⊆ headers) :
    columns.foldl addColumn headers = headers := by
  induction columns with
  | nil => rfl
  | cons column columns ih =>
      rw [List.foldl_cons, addColumn, if_pos (h List.mem_cons_self)]
      exact ih fun column hcolumn => h (List.mem_cons_of_mem _ hcolumn)

lemma foldl_addColumn_of_nodup (h : (headers ++ columns).Nodup) :
    columns.foldl addColumn headers = headers ++ columns := by
  induction columns generalizing headers with
  | nil => simp
  | cons column columns ih =>
      have hnew : column ∉ headers := fun hmem =>
        (List.nodup_append.1 h).2.2 column hmem column List.mem_cons_self rfl
      rw [List.foldl_cons, addColumn, if_neg hnew, ih (by simpa using h)]
      simp

/-- A call log adds the columns of the recordings that it has in excess. -/
lemma foldl_addColumn (m n : ℕ) :
    (recordingColumns n).foldl addColumn (csvHeaders ++ recordingColumns m) =
      csvHeaders ++ recordingColumns (max m n) := by
  rcases le_total n m with h | h
  · obtain ⟨k, rfl⟩ := Nat.exists_eq_add_of_le h
    rw [max_eq_left h]
    refine foldl_addColumn_of_subset fun column hcolumn => ?_
    rw [recordingColumns_add]
    exact List.mem_append_right _ (List.mem_append_left _ hcolumn)
  · obtain ⟨k, rfl⟩ := Nat.exists_eq_add_of_le h
    have hnodup := nodup_columns (m + k)
    rw [max_eq_right h]
    rw [recordingColumns_add, ← List.append_assoc] at hnodup ⊢
    rw [List.foldl_append, foldl_addColumn_of_subset (List.subset_append_right _ _),
      foldl_addColumn_of_nodup hnodup]

end Columns

/-! ### The lines -/

/-- The fields of some recordings, under their columns. -/
def recordingFields (recordings : List (Dict String Json)) : Dict String Json :=
  (recordings.zipIdx 1).flatMap fun p =>
    p.1.map fun field => (recordingColumn p.2 field.1, field.2)

/-- A line has what its call log has, and nothing of the recordings that it does not
have. -/
structure LineOf (formats : SchemaFormats) (exclude : List String) (stored : StoredCallLog)
    (line : Dict String Json) : Prop where
  field : ∃ cdr, CDRSchema.dump formats exclude stored = .ok cdr ∧
    ∀ header ∈ csvHeaders, header ≠ "tags" → Dict.get? line header = Dict.get? cdr header
  tags : Dict.get? line "tags" = if "tags" ∈ exclude then none
    else some (.str (";".intercalate (stored.log.marshmallowTags formats.setOrder)))
  recording : ∀ x recording, (stored.shownRecordings formats)[x]? = some recording →
    ∀ key value, (key, value) ∈ recording →
      Dict.get? line (recordingColumn (x + 1) key) = some value
  noRecording : ∀ x key, stored.log.recordings.length ≤ x →
    Dict.get? line (recordingColumn (x + 1) key) = none

section Lines

variable {formats : SchemaFormats} {exclude : List String} {stored : StoredCallLog}
  {cdr : Dict String Json} {recordings : List (Dict String Json)}
  {state : List String × Dict String Json} {x : ℕ}

lemma addRecording_eq {recording : Dict String Json} :
    addRecording state x recording =
      (((recording.map fun field => (recordingColumn x field.1, field.2)).map Prod.fst).foldl
          addColumn state.1,
        (recording.map fun field => (recordingColumn x field.1, field.2)).foldl
          (fun line item => Dict.set line item.1 item.2) state.2) := by
  rw [addRecording]
  induction recording generalizing state with
  | nil => rfl
  | cons field recording ih => exact ih

/-- The columns and the line do not depend on each other. -/
lemma foldl_addRecording :
    (recordings.zipIdx 1).foldl (fun state p => addRecording state p.2 p.1) state =
      (((recordingFields recordings).map Prod.fst).foldl addColumn state.1,
        (recordingFields recordings).foldl
          (fun line item => Dict.set line item.1 item.2) state.2) := by
  rw [recordingFields]
  induction recordings.zipIdx 1 generalizing state with
  | nil => rfl
  | cons p rest ih =>
      rw [List.foldl_cons, ih, addRecording_eq, List.flatMap_cons, List.map_append,
        List.foldl_append, List.foldl_append]

lemma map_recordingFields (h : ∀ recording ∈ recordings, recording.map Prod.fst = recordingKeys) :
    (recordingFields recordings).map Prod.fst = recordingColumns recordings.length := by
  have hkeys : ∀ p ∈ recordings.zipIdx 1,
      (p.1.map fun field => (recordingColumn p.2 field.1, field.2)).map Prod.fst =
        recordingKeys.map (recordingColumn p.2) := by
    intro p hp
    rw [← h p.1 (List.fst_mem_of_mem_zipIdx hp), List.map_map, List.map_map]
    rfl
  rw [recordingFields, List.map_flatMap, List.flatMap_congr hkeys, recordingColumns]
  have hnumbers : (recordings.zipIdx 1).map Prod.snd =
      (List.range recordings.length).map (· + 1) := by
    rw [List.zipIdx_map_snd, List.range'_eq_map_range]
    exact List.map_congr_left fun x _ => Nat.add_comm 1 x
  rw [← List.flatMap_map Prod.snd (fun x => recordingKeys.map (recordingColumn x)), hnumbers,
    List.flatMap_map]

lemma mem_recordingFields {column : String} {value : Json} :
    (column, value) ∈ recordingFields recordings ↔ ∃ x recording key,
      recordings[x]? = some recording ∧ (key, value) ∈ recording ∧
        column = recordingColumn (x + 1) key := by
  rw [recordingFields, List.mem_flatMap]
  constructor
  · rintro ⟨⟨recording, n⟩, hmem, hfield⟩
    obtain ⟨⟨key, value'⟩, hkey, heq⟩ := List.mem_map.1 hfield
    obtain ⟨rfl, rfl⟩ := Prod.mk.inj heq
    rw [List.mem_zipIdx_iff_le_and_getElem?_sub] at hmem
    refine ⟨n - 1, recording, key, hmem.2, hkey, ?_⟩
    rw [Nat.sub_add_cancel hmem.1]
  · rintro ⟨x, recording, key, hrecording, hkey, rfl⟩
    refine ⟨(recording, x + 1), ?_, List.mem_map.2 ⟨(key, value), hkey, rfl⟩⟩
    rw [List.mem_zipIdx_iff_le_and_getElem?_sub]
    exact ⟨Nat.le_add_left _ _, hrecording⟩

lemma map_shownRecordings :
    ∀ recording ∈ stored.shownRecordings formats, recording.map Prod.fst = recordingKeys := by
  intro recording hmem
  obtain ⟨row, -, rfl⟩ := List.mem_map.1 hmem
  rfl

variable (formats stored) in
lemma length_shownRecordings :
    (stored.shownRecordings formats).length = stored.log.recordings.length := by
  rw [StoredCallLog.shownRecordings, List.length_map,
    (Sequences.sortedBy_perm (fun row : RecordingKey × Recording => row.2.startTime.getD 0)
      stored.recordingRows).length_eq,
    StoredCallLog.recordingRows, List.length_map, List.length_zipIdx]

lemma map_recordingFields_shownRecordings :
    (recordingFields (stored.shownRecordings formats)).map Prod.fst =
      recordingColumns stored.log.recordings.length := by
  rw [map_recordingFields map_shownRecordings, length_shownRecordings]

/-- The value of a line under the column of a recording, or under another one. -/
lemma get?_foldl_recordingFields {line : Dict String Json} {column : String} :
    Dict.get? ((recordingFields (stored.shownRecordings formats)).foldl
        (fun line item => Dict.set line item.1 item.2) line) column =
      (Dict.get? (recordingFields (stored.shownRecordings formats)) column).or
        (Dict.get? line column) := by
  refine Dict.get?_foldl_set ?_
  rw [map_recordingFields_shownRecordings]
  exact (List.nodup_append.1 (nodup_columns _)).2.1

/-- No other column is one of a recording. -/
lemma get?_recordingFields_of_notMem {column : String}
    (h : ∀ x key, column ≠ recordingColumn (x + 1) key) :
    Dict.get? (recordingFields recordings) column = none := by
  refine Dict.get?_eq_none.2 fun item hitem hcolumn => ?_
  obtain ⟨x, -, key, -, -, heq⟩ := mem_recordingFields.1 hitem
  exact h x key (hcolumn.symm.trans heq)

/-- What the schema dumps, but for the keys that are excluded. -/
lemma get?_dump (h : CDRSchema.dump formats exclude stored = .ok cdr) :
    ∃ details, ∀ key, Dict.get? cdr key = if key ∈ exclude then none
      else Dict.get? (stored.shownFields formats details ++
        [("tags", .arr ((stored.log.marshmallowTags formats.setOrder).map .str)),
          ("recordings", .arr ((stored.shownRecordings formats).map .obj))]) key := by
  obtain ⟨details, -, hcdr⟩ := Results.exists_of_bind_eq_ok h
  obtain rfl := Except.ok.inj hcdr
  refine ⟨details, fun key => (Dict.get?_filter (p := (· ∉ exclude))).trans ?_⟩
  by_cases hkey : key ∈ exclude <;> simp [hkey]

lemma get?_dump_tags (h : CDRSchema.dump formats exclude stored = .ok cdr) :
    Dict.get? cdr "tags" = if "tags" ∈ exclude then none
      else some (.arr ((stored.log.marshmallowTags formats.setOrder).map .str)) := by
  obtain ⟨details, hget⟩ := get?_dump h
  rw [hget]
  rfl

lemma get?_dump_recordings (h : CDRSchema.dump formats exclude stored = .ok cdr)
    (hexclude : exclude ⊆ ["tags"]) :
    Dict.get? cdr "recordings" = some (.arr ((stored.shownRecordings formats).map .obj)) := by
  obtain ⟨details, hget⟩ := get?_dump h
  rw [hget, if_neg fun hmem => absurd (hexclude hmem) (by decide)]
  rfl

/-- The keys that are dumped. -/
lemma map_fst_dump (h : CDRSchema.dump formats exclude stored = .ok cdr) :
    cdr.map Prod.fst = cdrKeys.filter (· ∉ exclude) := by
  obtain ⟨details, -, hcdr⟩ := Results.exists_of_bind_eq_ok h
  obtain rfl := Except.ok.inj hcdr
  exact (List.filter_map (f := Prod.fst) (p := (· ∉ exclude))).symm

lemma nodup_dump (h : CDRSchema.dump formats exclude stored = .ok cdr) :
    (cdr.map Prod.fst).Nodup := by
  have hnodup : cdrKeys.Nodup := by decide
  exact map_fst_dump h ▸ hnodup.filter _

/-- The dumped keys are no columns of recordings. -/
lemma get?_dump_recordingColumn (h : CDRSchema.dump formats exclude stored = .ok cdr)
    {key : String} : Dict.get? cdr (recordingColumn x key) = none := by
  refine Dict.get?_eq_none.2 fun item hitem hname => ?_
  have hkey : item.1 ∈ cdrKeys.filter (· ∉ exclude) :=
    map_fst_dump h ▸ List.mem_map_of_mem hitem
  exact recordingColumn_notMem (hname ▸ List.mem_of_mem_filter hkey)

lemma iterTexts_arr_str (texts : List String) :
    iterTexts (.arr (texts.map .str)) = .ok texts := by
  rw [iterTexts, List.mapM_map]
  exact List.mapM_pure.trans (congrArg _ (List.map_id texts))

lemma iterDicts_arr_obj (dicts : List (Dict String Json)) :
    iterDicts (.arr (dicts.map .obj)) = .ok dicts := by
  rw [iterDicts, List.mapM_map]
  exact List.mapM_pure.trans (congrArg _ (List.map_id dicts))

lemma joinTags_dump (h : CDRSchema.dump formats exclude stored = .ok cdr) :
    ∃ joined, joinTags cdr = .ok joined ∧
      Dict.get? joined "tags" = (if "tags" ∈ exclude then none
        else some (.str (";".intercalate (stored.log.marshmallowTags formats.setOrder)))) ∧
      ∀ key ≠ "tags", Dict.get? joined key = Dict.get? cdr key := by
  have htags := get?_dump_tags h
  rw [joinTags]
  by_cases hexcluded : "tags" ∈ exclude
  · rw [if_pos hexcluded] at htags ⊢
    rw [htags]
    exact ⟨cdr, rfl, htags, fun _ _ => rfl⟩
  · rw [if_neg hexcluded] at htags ⊢
    rw [htags]
    dsimp only
    rw [iterTexts_arr_str]
    refine ⟨_, rfl, ?_, fun key hkey => ?_⟩
    · rw [Dict.get?_set, if_pos rfl]
    · rw [Dict.get?_set, if_neg hkey]

/-- The line of a call log, with the columns that it adds. -/
lemma csvLine_dump (h : CDRSchema.dump formats exclude stored = .ok cdr)
    (hexclude : exclude ⊆ ["tags"]) (m : ℕ) :
    ∃ line, csvLine (csvHeaders ++ recordingColumns m) cdr =
        .ok (csvHeaders ++ recordingColumns (max m stored.log.recordings.length), line) ∧
      LineOf formats exclude stored line := by
  obtain ⟨joined, hjoined, htags, hkept⟩ := joinTags_dump h
  have hline : csvLine (csvHeaders ++ recordingColumns m) cdr = .ok
      (((recordingFields (stored.shownRecordings formats)).map Prod.fst).foldl addColumn
          (csvHeaders ++ recordingColumns m),
        (recordingFields (stored.shownRecordings formats)).foldl
          (fun line item => Dict.set line item.1 item.2) (Dict.pop joined "recordings")) := by
    have hrecordings := (hkept "recordings" (by decide)).trans (get?_dump_recordings h hexclude)
    simp only [csvLine, hjoined, Results.ok_bind, hrecordings, iterDicts_arr_obj]
    exact congrArg Except.ok foldl_addRecording
  have hpop : ∀ key ≠ "recordings",
      Dict.get? (Dict.pop joined "recordings") key = Dict.get? joined key := fun key hkey =>
    (Dict.get?_filter (p := (· ≠ "recordings"))).trans (if_pos (decide_eq_true hkey))
  have hheaders : ∀ header ∈ csvHeaders, ∀ x key, header ≠ recordingColumn x key :=
    fun header hmem x key heq =>
      recordingColumn_notMem (csvHeaders_subset (heq ▸ hmem))
  rw [map_recordingFields_shownRecordings, foldl_addColumn] at hline
  refine ⟨_, hline, ?_, ?_, ?_, ?_⟩
  · refine ⟨cdr, h, fun header hmem hne => ?_⟩
    have hrecordings : header ≠ "recordings" := fun heq => absurd (heq ▸ hmem) (by decide)
    rw [get?_foldl_recordingFields,
      get?_recordingFields_of_notMem fun x => hheaders header hmem (x + 1), Option.none_or,
      hpop header hrecordings, hkept header hne]
  · rw [get?_foldl_recordingFields,
      get?_recordingFields_of_notMem fun x => hheaders "tags" (by decide) (x + 1),
      Option.none_or, hpop "tags" (by decide), htags]
  · intro x recording hrecording key value hkey
    have hmem : (recordingColumn (x + 1) key, value) ∈
        recordingFields (stored.shownRecordings formats) :=
      mem_recordingFields.2 ⟨x, recording, key, hrecording, hkey, rfl⟩
    have hnodup : ((recordingFields (stored.shownRecordings formats)).map Prod.fst).Nodup := by
      rw [map_recordingFields_shownRecordings]
      exact (List.nodup_append.1 (nodup_columns _)).2.1
    rw [get?_foldl_recordingFields, (Dict.mem_iff_get? hnodup).1 hmem, Option.some_or]
  · intro x key hx
    have hrecordings : recordingColumn (x + 1) key ≠ "recordings" := by
      intro heq
      have hmem : recordingColumn (x + 1) key ∈ cdrKeys := heq ▸ by decide
      exact recordingColumn_notMem hmem
    have htags : recordingColumn (x + 1) key ≠ "tags" := (hheaders "tags" (by decide) _ _).symm
    rw [get?_foldl_recordingFields, hpop _ hrecordings, hkept _ htags,
      get?_dump_recordingColumn h, Option.or_none]
    refine Dict.get?_eq_none.2 fun item hitem hcolumn => ?_
    obtain ⟨y, recording, key', hrecording, -, heq⟩ := mem_recordingFields.1 hitem
    have hxy : y = x :=
      Nat.succ_injective (recordingColumn_inj (heq.symm.trans hcolumn)).1
    have hlt := (List.getElem?_eq_some_iff.1 hrecording).1
    rw [length_shownRecordings] at hlt
    omega

end Lines

/-! ### The text -/

/-- The greatest number of recordings of a call log. -/
def maxRecordings (items : List StoredCallLog) : ℕ :=
  (items.map (·.log.recordings.length)).foldr max 0

/-- A row of a table has exactly the given columns, and shows a call log: each key that the
schema dumps, but for two that have no column, the tags together, each field of each
recording, and nothing in the columns of the recordings that the call log does not have. -/
structure RowShows (formats : SchemaFormats) (exclude columns : List String)
    (stored : StoredCallLog) (row : Dict String String) : Prop where
  keys : row.map Prod.fst = columns
  field : ∃ cdr, CDRSchema.dump formats exclude stored = .ok cdr ∧
    ∀ key value, (key, value) ∈ cdr → key ∉ ["tags", "recordings"] →
      Dict.get? row key = if key ∈ keysWithoutColumn then none else some (formats.csvText value)
  tags : Dict.get? row "tags" = some (if "tags" ∈ exclude then ""
    else ";".intercalate (stored.log.marshmallowTags formats.setOrder))
  recording : ∀ x recording, (stored.shownRecordings formats)[x]? = some recording →
    ∀ key value, (key, value) ∈ recording →
      Dict.get? row (recordingColumn (x + 1) key) = some (formats.csvText value)
  noRecording : ∀ x key, stored.log.recordings.length ≤ x →
    recordingColumn (x + 1) key ∈ columns →
      Dict.get? row (recordingColumn (x + 1) key) = some ""

section Text

variable {formats : SchemaFormats} {exclude : List String} {stored : StoredCallLog}
  {items : List StoredCallLog} {cdrs : List (Dict String Json)} {line : Dict String Json} {m : ℕ}

/-- Each call log has a line, under the columns of all of them. -/
lemma foldlM_csvLine (hexclude : exclude ⊆ ["tags"])
    (h : items.mapM (CDRSchema.dump formats exclude) = .ok cdrs)
    (body : List (Dict String Json)) :
    ∃ lines, cdrs.foldlM (fun state cdr => do
          let (headers, line) ← csvLine state.1 cdr
          return (headers, state.2 ++ [line])) (csvHeaders ++ recordingColumns m, body) =
        .ok (csvHeaders ++ recordingColumns (max m (maxRecordings items)), body ++ lines) ∧
      List.Forall₂ (LineOf formats exclude) items lines := by
  induction items generalizing cdrs m body with
  | nil =>
      obtain rfl : [] = cdrs := Except.ok.inj h
      exact ⟨[], by simp [maxRecordings, pure, Except.pure], .nil⟩
  | cons stored items ih =>
      rw [List.mapM_cons] at h
      obtain ⟨cdr, hcdr, h⟩ := Results.exists_of_bind_eq_ok h
      obtain ⟨rest, hrest, h⟩ := Results.exists_of_bind_eq_ok h
      obtain rfl : cdr :: rest = cdrs := Except.ok.inj h
      obtain ⟨line, hline, hlineOf⟩ := csvLine_dump hcdr hexclude m
      obtain ⟨lines, hlines, hall⟩ := ih (m := max m stored.log.recordings.length) hrest
        (body ++ [line])
      refine ⟨line :: lines, ?_, .cons hlineOf hall⟩
      rw [List.foldlM_cons, hline, Results.ok_bind]
      refine hlines.trans ?_
      rw [max_assoc, List.append_assoc]
      rfl

lemma csvBody_dump (hexclude : exclude ⊆ ["tags"])
    (h : items.mapM (CDRSchema.dump formats exclude) = .ok cdrs) :
    ∃ lines, csvBody cdrs = .ok (csvHeaders ++ recordingColumns (maxRecordings items), lines) ∧
      List.Forall₂ (LineOf formats exclude) items lines := by
  obtain ⟨lines, hlines, hall⟩ := foldlM_csvLine (m := 0) hexclude h []
  rw [Nat.zero_max] at hlines
  exact ⟨lines, hlines, hall⟩

/-- The row that is read back from a line. -/
lemma LineOf.rowShows (h : LineOf formats exclude stored line)
    (hm : stored.log.recordings.length ≤ m) :
    RowShows formats exclude (csvHeaders ++ recordingColumns m) stored
      ((csvHeaders ++ recordingColumns m).map fun name => (name,
        (Dict.get? (line.map fun field => (field.1, formats.csvText field.2)) name).getD "")) := by
  have hcell : ∀ name ∈ csvHeaders ++ recordingColumns m,
      Dict.get? ((csvHeaders ++ recordingColumns m).map fun name => (name,
        (Dict.get? (line.map fun field => (field.1, formats.csvText field.2)) name).getD ""))
        name = some ((Dict.get? line name).elim "" formats.csvText) := by
    intro name hname
    rw [Dict.get?_map_of_mem hname, Dict.get?_map]
    cases Dict.get? line name <;> rfl
  obtain ⟨cdr, hcdr, hfield⟩ := h.field
  have hkeys : ((csvHeaders ++ recordingColumns m).map fun name => (name,
      (Dict.get? (line.map fun field => (field.1, formats.csvText field.2)) name).getD "")).map
        Prod.fst = csvHeaders ++ recordingColumns m := by
    rw [List.map_map]
    exact List.map_id _
  refine ⟨hkeys, ⟨cdr, hcdr, fun key value hmem hne => ?_⟩, ?_, ?_, ?_⟩
  · have hcolumns : ∀ key ∈ cdrKeys, key ∉ ["tags", "recordings"] →
        if key ∈ keysWithoutColumn then key ∉ csvHeaders else key ∈ csvHeaders ∧ key ≠ "tags" := by
      decide
    have hkey : key ∈ cdrKeys :=
      List.mem_of_mem_filter (map_fst_dump hcdr ▸ List.mem_map_of_mem hmem)
    have hcolumn := hcolumns key hkey hne
    split at hcolumn
    · next hwithout =>
        rw [if_pos hwithout, Dict.get?_eq_none]
        rintro item hitem rfl
        have hheader := List.mem_map_of_mem (f := Prod.fst) hitem
        rw [hkeys, List.mem_append, mem_recordingColumns] at hheader
        obtain hheader | ⟨x, -, name, -, hname⟩ := hheader
        · exact hcolumn hheader
        · exact recordingColumn_notMem (hname ▸ hkey)
    · next hwith =>
        rw [if_neg hwith, hcell _ (List.mem_append_left _ hcolumn.1),
          hfield key hcolumn.1 hcolumn.2, (Dict.mem_iff_get? (nodup_dump hcdr)).1 hmem]
        rfl
  · rw [hcell _ (List.mem_append_left _ (by decide)), h.tags]
    split <;> rfl
  · intro x recording hrecording key value hkey
    have hx : x < stored.log.recordings.length := by
      rw [← length_shownRecordings formats]
      exact (List.getElem?_eq_some_iff.1 hrecording).1
    have hkeys : key ∈ recordingKeys := by
      rw [← map_shownRecordings recording (List.mem_of_getElem? hrecording)]
      exact List.mem_map.2 ⟨(key, value), hkey, rfl⟩
    have hcolumn : recordingColumn (x + 1) key ∈ recordingColumns m :=
      mem_recordingColumns.2 ⟨x, hx.trans_le hm, key, hkeys, rfl⟩
    rw [hcell _ (List.mem_append_right _ hcolumn),
      h.recording x recording hrecording key value hkey]
    rfl
  · intro x key hx hcolumn
    rw [hcell _ hcolumn, h.noRecording x key hx]
    rfl

lemma length_le_maxRecordings (h : stored ∈ items) :
    stored.log.recordings.length ≤ maxRecordings items := by
  induction items with
  | nil => cases h
  | cons first items ih =>
      rcases List.mem_cons.1 h with rfl | h
      · exact le_max_left _ _
      · exact (ih h).trans (le_max_right _ _)

/-- The rows that are read back from the lines. -/
lemma forall₂_rowShows {lines : List (Dict String Json)} (hlines : List.Forall₂
    (LineOf formats exclude) items lines) (hm : ∀ stored ∈ items,
      stored.log.recordings.length ≤ m) :
    List.Forall₂ (RowShows formats exclude (csvHeaders ++ recordingColumns m)) items
      (Csv.readDicts .excel (Csv.writeDicts .excel (csvHeaders ++ recordingColumns m)
        (lines.map fun line => line.map fun field => (field.1, formats.csvText field.2)))) := by
  rw [Csv.readDicts_writeDicts _ (List.append_ne_nil_of_left_ne_nil (by decide) _), List.map_map]
  induction hlines with
  | nil => exact .nil
  | cons hline hlines ih =>
      exact .cons (hline.rowShows (hm _ List.mem_cons_self))
        (ih fun stored hmem => hm stored (List.mem_cons_of_mem _ hmem))

end Text

/-- A reader of the text finds a row for each call log, in the order of the list, which
shows all of it but two keys; so it does for a call log that is asked for alone. -/
theorem readDicts_outputCsv (formats : SchemaFormats) {exclude : List String}
    (hexclude : exclude ⊆ ["tags"]) :
    (∀ list data, CDRSchemaList.dump formats exclude list = .ok data →
      ∃ text, outputCsv formats data = .ok (.csv text) ∧
        List.Forall₂ (RowShows formats exclude
            (csvHeaders ++ recordingColumns (maxRecordings list.items)))
          list.items (Csv.readDicts .excel text)) ∧
    ∀ stored cdr, CDRSchema.dump formats [] stored = .ok cdr →
      ∃ text, outputCsv formats cdr = .ok (.csv text) ∧
        List.Forall₂ (RowShows formats []
            (csvHeaders ++ recordingColumns stored.log.recordings.length))
          [stored] (Csv.readDicts .excel text) := by
  constructor
  · intro list data hdata
    obtain ⟨cdrs, hcdrs, hdata⟩ := Results.exists_of_bind_eq_ok hdata
    obtain rfl := Except.ok.inj hdata
    obtain ⟨lines, hlines, hall⟩ := csvBody_dump hexclude hcdrs
    refine ⟨_, ?_, forall₂_rowShows hall fun stored hmem => length_le_maxRecordings hmem⟩
    have herror : Dict.get? [("items", Json.arr (cdrs.map Json.obj)),
        ("total", Json.int list.total), ("filtered", Json.int list.filtered)] "error_id" = none :=
      rfl
    have hitems : Dict.get? [("items", Json.arr (cdrs.map Json.obj)),
        ("total", Json.int list.total), ("filtered", Json.int list.filtered)] "items" =
          some (.arr (cdrs.map .obj)) := rfl
    simp only [outputCsv, herror, hitems, iterDicts_arr_obj, Results.ok_bind, hlines]
    rfl
  · intro stored cdr hcdr
    have hcdrs : [stored].mapM (CDRSchema.dump formats []) = .ok [cdr] := by
      rw [List.mapM_cons, hcdr]
      rfl
    obtain ⟨lines, hlines, hall⟩ := csvBody_dump (List.nil_subset _) hcdrs
    have hmax : maxRecordings [stored] = stored.log.recordings.length := Nat.max_zero _
    rw [hmax] at hlines
    refine ⟨_, ?_, forall₂_rowShows hall fun stored' hmem => ?_⟩
    · obtain ⟨details, hget⟩ := get?_dump hcdr
      have herror : Dict.get? cdr "error_id" = none := (hget _).trans rfl
      have hitems : Dict.get? cdr "items" = none := (hget _).trans rfl
      have hid : (Dict.get? cdr "id").isSome = true := by
        rw [hget]
        rfl
      have htags : (Dict.get? cdr "tags").isSome = true := by
        rw [hget]
        rfl
      simp only [outputCsv, herror, hitems, hid, htags, Results.ok_bind, hlines]
      rfl
    · obtain rfl := List.mem_singleton.1 hmem
      exact le_rfl

/-- Two call logs: the first one was recorded, and has a comma and a quote in a name. -/
def recordedAndNot : CDRList where
  items :=
    [⟨1, { ({} : RawCallLog).fillCallLog with
        sourceName := some "Doe, \"Jo\""
        recordings := [{ startTime := some 0, endTime := some second, path := .str "r.wav" }] }⟩,
      ⟨2, ({} : RawCallLog).fillCallLog⟩]
  filtered := 2
  total := 2

theorem readDicts_outputCsv_recordedAndNot :
    ∃ data text, CDRSchemaList.dump .ascii [] recordedAndNot = .ok data ∧
      outputCsv .ascii data = .ok (.csv text) ∧
      List.Forall₂ (RowShows .ascii [] (csvHeaders ++ recordingColumns 1))
        recordedAndNot.items (Csv.readDicts .excel text) := by
  obtain ⟨data, hdata⟩ : ∃ data, CDRSchemaList.dump .ascii [] recordedAndNot = .ok data :=
    ⟨_, rfl⟩
  obtain ⟨text, htext, hrows⟩ :=
    (readDicts_outputCsv .ascii (List.nil_subset _)).1 recordedAndNot data hdata
  exact ⟨data, text, hdata, htext, hrows⟩

end CallLogd
