/-
CSV texts, as Python's `csv` writes and reads them.

The writer quotes a field when one of its characters would otherwise end it, and the reader
is an automaton that goes through the text one character at a time.  What is written is
read back (`read_write`), line breaks in the fields included; so are dictionaries, as far
as the columns show them (`readDicts_writeDicts`).
-/
import CallLogd.Lib.Dict

namespace Csv

/-- The characters of a dialect.  Quotes are doubled, and lines end with `\r\n`. -/
structure Dialect where
  delimiter : Char
  quotechar : Char
  delimiter_notMem : delimiter ∉ ['\r', '\n']
  quotechar_notMem : quotechar ∉ [delimiter, '\r', '\n']

/-- The dialect `excel`. -/
def Dialect.excel : Dialect where
  delimiter := ','
  quotechar := '"'
  delimiter_notMem := by decide
  quotechar_notMem := by decide

/-- The fields of a line. -/
abbrev Row := List (List Char)

/-! ### The writer -/

section Writer

variable (d : Dialect)

/-- A character that a field without quotes cannot have. -/
def special (c : Char) : Bool := c ∈ [d.delimiter, d.quotechar, '\r', '\n']

/-- A field in quotes. -/
def quoted (field : List Char) : List Char :=
  d.quotechar :: (field.flatMap fun c => if c = d.quotechar then [c, c] else [c]) ++
    [d.quotechar]

/-- A field, in quotes if it needs them. -/
def fieldText (field : List Char) : List Char :=
  if field.any (special d) then quoted d field else field

/-- The fields of a line, with delimiters between them. -/
def joinFields : Row → List Char
  | [] => []
  | [field] => fieldText d field
  | field :: next :: fields => fieldText d field ++ d.delimiter :: joinFields (next :: fields)

/-- A line.  A field that is alone and empty is quoted, since the line would be blank. -/
def rowText (row : Row) : List Char :=
  (if row = [[]] then quoted d [] else joinFields d row) ++ ['\r', '\n']

/-- The text of some rows. -/
def write (rows : List Row) : List Char := rows.flatMap (rowText d)

end Writer

/-! ### The reader -/

/-- Where the reader is. -/
inductive State where
  | startRecord
  | startField
  | inField
  | inQuotedField
  | quoteInQuotedField
  /-- After a `\r`: a `\n` belongs to the same line break. -/
  | eatCrnl
deriving DecidableEq, Repr

/-- The state of the reader, with what it has read: the field, its line, and the lines
before. -/
structure Reader where
  state : State := .startRecord
  field : List Char := []
  row : Row := []
  rows : List Row := []
deriving DecidableEq, Repr

/-- A character that ends a line. -/
def isNewline (c : Char) : Bool := c ∈ ['\r', '\n']

namespace Reader

variable (d : Dialect) (r : Reader) (c : Char)

/-- Add a character to the field. -/
def addChar (state : State) : Reader := { r with state := state, field := r.field ++ [c] }

/-- Add the field to the line. -/
def saveField (state : State) : Reader :=
  { r with state := state, field := [], row := r.row ++ [r.field] }

/-- Add the line to the others. -/
def endRecord : Reader :=
  { r with
    state := if c = '\r' then .eatCrnl else .startRecord
    row := []
    rows := r.rows ++ [r.row] }

/-- A character at the start of a field. -/
def readStartField : Reader :=
  if isNewline c then (r.saveField .startField).endRecord c
  else if c = d.quotechar then { r with state := .inQuotedField }
  else if c = d.delimiter then r.saveField .startField
  else r.addChar c .inField

/-- A character at the start of a line: a blank line has no fields. -/
def readStartRecord : Reader :=
  if isNewline c then r.endRecord c else r.readStartField d c

/-- One character. -/
def step : Reader :=
  match r.state with
  | .startRecord => r.readStartRecord d c
  | .startField => r.readStartField d c
  | .inField =>
      if isNewline c then (r.saveField .startField).endRecord c
      else if c = d.delimiter then r.saveField .startField
      else r.addChar c .inField
  | .inQuotedField =>
      if c = d.quotechar then { r with state := .quoteInQuotedField }
      else r.addChar c .inQuotedField
  | .quoteInQuotedField =>
      if c = d.quotechar then r.addChar c .inQuotedField
      else if c = d.delimiter then r.saveField .startField
      else if isNewline c then (r.saveField .startField).endRecord c
      else r.addChar c .inField
  | .eatCrnl =>
      if c = '\n' then { r with state := .startRecord } else r.readStartRecord d c

/-- The end of the text: a line that is not ended counts. -/
def finish : List Row :=
  if r.state ∈ [.startRecord, .eatCrnl] then r.rows else r.rows ++ [r.row ++ [r.field]]

end Reader

/-- The rows of a text. -/
def read (d : Dialect) (text : List Char) : List Row :=
  (text.foldl (Reader.step d) {}).finish

/-! ### What is written is read -/

section RoundTrip

variable {d : Dialect} {r r' : Reader} {field : List Char} {row : Row} {c : Char}

@[simp]
lemma isNewline_delimiter (d : Dialect) : isNewline d.delimiter = false :=
  decide_eq_false d.delimiter_notMem

lemma isNewline_quotechar (d : Dialect) : isNewline d.quotechar = false :=
  decide_eq_false fun h => d.quotechar_notMem (List.mem_cons_of_mem _ h)

lemma delimiter_ne_quotechar (d : Dialect) : d.delimiter ≠ d.quotechar :=
  fun h => d.quotechar_notMem (h ▸ List.mem_cons_self)

lemma special_eq_false : special d c = false ↔
    c ≠ d.delimiter ∧ c ≠ d.quotechar ∧ isNewline c = false := by
  simp [special, isNewline]

/-- The reader has read a field, of which it does not yet know that it is complete. -/
structure Reader.Holds (r r' : Reader) (field : List Char) : Prop where
  state : r'.state ∈ [.inField, .quoteInQuotedField] ∨ field = [] ∧ r'.state = r.state
  field : r'.field = field
  row : r'.row = r.row
  rows : r'.rows = r.rows

/-- The reader is before a field. -/
def Reader.Ready (r : Reader) : Prop :=
  r.state ∈ [.startRecord, .startField] ∧ r.field = []

lemma foldl_inField (h : field.any (special d) = false) (hstate : r.state = .inField) :
    field.foldl (Reader.step d) r = { r with field := r.field ++ field } := by
  induction field generalizing r with
  | nil => simp
  | cons c field ih =>
      rw [List.any_cons, Bool.or_eq_false_iff] at h
      obtain ⟨hdelimiter, -, hnewline⟩ := special_eq_false.1 h.1
      have hstep : Reader.step d r c = r.addChar c .inField := by
        simp [Reader.step, hstate, hnewline, hdelimiter]
      rw [List.foldl_cons, hstep, ih h.2 rfl]
      simp [Reader.addChar, hstate]

/-- The quotes of a field come in pairs. -/
lemma foldl_inQuotedField (hstate : r.state = .inQuotedField) :
    (field.flatMap fun c => if c = d.quotechar then [c, c] else [c]).foldl (Reader.step d) r =
      { r with field := r.field ++ field } := by
  induction field generalizing r with
  | nil => simp
  | cons c field ih =>
      have hstep : (if c = d.quotechar then [c, c] else [c]).foldl (Reader.step d) r =
          r.addChar c .inQuotedField := by
        split
        · next hquote => simp [Reader.step, hstate, hquote, Reader.addChar]
        · next hquote => simp [Reader.step, hstate, hquote]
      rw [List.flatMap_cons, List.foldl_append, hstep, ih rfl]
      simp [Reader.addChar, hstate]

lemma Reader.Ready.step_of_not_newline (h : r.Ready) (hc : isNewline c = false) :
    Reader.step d r c = r.readStartField d c := by
  rcases List.mem_pair.1 h.1 with hstate | hstate
  · simp [step, hstate, readStartRecord, hc]
  · simp [step, hstate]

lemma Reader.Ready.foldl_quoted (h : r.Ready) : (quoted d field).foldl (Reader.step d) r =
    { r with state := .quoteInQuotedField, field := field } := by
  have hstart : Reader.step d r d.quotechar = { r with state := .inQuotedField } := by
    rw [h.step_of_not_newline (isNewline_quotechar d)]
    simp [readStartField, isNewline_quotechar]
  rw [quoted, List.cons_append, List.foldl_cons, hstart, List.foldl_append,
    foldl_inQuotedField rfl, h.2]
  simp [step]

lemma Reader.Ready.holds_fieldText (h : r.Ready) :
    r.Holds ((fieldText d field).foldl (Reader.step d) r) field := by
  rw [fieldText]
  split
  · rw [h.foldl_quoted]
    exact ⟨.inl (by simp), rfl, rfl, rfl⟩
  · next hplain =>
      rw [Bool.not_eq_true] at hplain
      cases field with
      | nil => exact ⟨.inr ⟨rfl, rfl⟩, h.2, rfl, rfl⟩
      | cons c field =>
          rw [List.any_cons, Bool.or_eq_false_iff] at hplain
          obtain ⟨hdelimiter, hquote, hnewline⟩ := special_eq_false.1 hplain.1
          have hstart : Reader.step d r c = r.addChar c .inField := by
            rw [h.step_of_not_newline hnewline]
            simp [readStartField, hnewline, hquote, hdelimiter]
          rw [List.foldl_cons, hstart, foldl_inField hplain.2 rfl]
          exact ⟨.inl (by simp [addChar]), by simp [addChar, h.2], rfl, rfl⟩

lemma Reader.Holds.step_delimiter (hready : r.Ready) (h : r.Holds r' field) :
    Reader.step d r' d.delimiter =
      { r with state := .startField, field := [], row := r.row ++ [field] } := by
  obtain ⟨hstate, hfield, hrow, hrows⟩ := h
  have hsave : Reader.step d r' d.delimiter = r'.saveField .startField := by
    rcases hstate with hstate | ⟨-, hstate⟩
    · rcases List.mem_pair.1 hstate with hstate | hstate
      · simp [step, hstate]
      · simp [step, hstate, delimiter_ne_quotechar]
    · rcases List.mem_pair.1 hready.1 with hready | hready
      · simp [step, hstate, hready, readStartRecord, readStartField, delimiter_ne_quotechar]
      · simp [step, hstate, hready, readStartField, delimiter_ne_quotechar]
  rw [hsave, saveField, hfield, hrow, hrows]

/-- A field that ends its line; only a blank line, without quotes, would have none. -/
lemma Reader.Holds.step_return (hready : r.Ready) (h : r.Holds r' field)
    (hblank : r'.state ≠ .startRecord) : Reader.step d r' '\r' =
      { state := .eatCrnl, field := [], row := [], rows := r.rows ++ [r.row ++ [field]] } := by
  obtain ⟨hstate, hfield, hrow, hrows⟩ := h
  have hnewline : isNewline '\r' = true := by decide
  have hend : Reader.step d r' '\r' = (r'.saveField .startField).endRecord '\r' := by
    rcases hstate with hstate | ⟨-, hstate⟩
    · rcases List.mem_pair.1 hstate with hstate | hstate
      · simp [step, hstate, hnewline]
      · have hquote : '\r' ≠ d.quotechar := fun h => by simpa [← h] using d.quotechar_notMem
        have hdelimiter : '\r' ≠ d.delimiter := fun h => by simpa [← h] using d.delimiter_notMem
        simp [step, hstate, hnewline, hquote, hdelimiter]
    · rcases List.mem_pair.1 hready.1 with hready | hready
      · exact absurd (hstate.trans hready) hblank
      · simp [step, hstate, hready, readStartField, hnewline]
  rw [hend, endRecord, saveField, if_pos rfl, hfield, hrow, hrows]

lemma step_lineFeed {rows : List Row} :
    Reader.step d { state := .eatCrnl, field := [], row := [], rows := rows } '\n' =
      { rows := rows } := by
  simp [Reader.step]

/-- After the first field, a line may end with an empty field. -/
lemma foldl_joinFields (hstate : r.state = .startField) (hfield : r.field = [])
    (hne : row ≠ []) : (joinFields d row ++ ['\r', '\n']).foldl (Reader.step d) r =
      { rows := r.rows ++ [r.row ++ row] } := by
  induction row generalizing r with
  | nil => exact absurd rfl hne
  | cons field row ih =>
      have hready : r.Ready := ⟨by simp [hstate], hfield⟩
      have hholds : r.Holds ((fieldText d field).foldl (Reader.step d) r) field :=
        hready.holds_fieldText
      cases row with
      | nil =>
          have hblank : ((fieldText d field).foldl (Reader.step d) r).state ≠ .startRecord := by
            rcases hholds.state with h | ⟨-, h⟩
            · rintro hstart
              simp [hstart] at h
            · simp [h, hstate]
          rw [joinFields, List.foldl_append, List.foldl_cons, hholds.step_return hready hblank,
            List.foldl_cons, step_lineFeed, List.foldl_nil]
      | cons next row =>
          rw [joinFields, List.append_assoc, List.foldl_append, List.cons_append,
            List.foldl_cons, hholds.step_delimiter hready, ih rfl rfl (List.cons_ne_nil _ _)]
          simp

/-- A line is read as its row. -/
lemma foldl_rowText (rows : List Row) (row : Row) :
    (rowText d row).foldl (Reader.step d) { rows := rows } = { rows := rows ++ [row] } := by
  have hready : ({ rows := rows } : Reader).Ready := ⟨List.mem_cons_self, rfl⟩
  rw [rowText]
  match row with
  | [] => simp [joinFields, Reader.step, Reader.readStartRecord, isNewline, Reader.endRecord]
  | [[]] =>
      have hquoted : Reader.Holds { rows := rows }
          { state := .quoteInQuotedField, rows := rows } [] := ⟨.inl (by simp), rfl, rfl, rfl⟩
      rw [if_pos rfl, List.foldl_append, hready.foldl_quoted, List.foldl_cons,
        hquoted.step_return hready (by simp), List.foldl_cons, step_lineFeed, List.foldl_nil,
        List.nil_append]
  | [c :: field] =>
      have hholds : Reader.Holds _ _ (c :: field) := hready.holds_fieldText (d := d)
      have hblank : ((fieldText d (c :: field)).foldl (Reader.step d) { rows := rows }).state ≠
          .startRecord := by
        rcases hholds.state with h | ⟨h, -⟩
        · rintro hstart
          simp [hstart] at h
        · cases h
      rw [if_neg (by simp), joinFields, List.foldl_append, List.foldl_cons,
        hholds.step_return hready hblank, List.foldl_cons, step_lineFeed, List.foldl_nil,
        List.nil_append]
  | field :: next :: row =>
      have hholds : Reader.Holds _ _ field := hready.holds_fieldText (d := d)
      rw [if_neg (by simp), joinFields, List.append_assoc, List.foldl_append, List.cons_append,
        List.foldl_cons, hholds.step_delimiter hready,
        foldl_joinFields rfl rfl (List.cons_ne_nil _ _)]
      simp

lemma foldl_write (rows rows' : List Row) :
    (write d rows').foldl (Reader.step d) { rows := rows } = { rows := rows ++ rows' } := by
  induction rows' generalizing rows with
  | nil => simp [write]
  | cons row rows' ih =>
      have hwrite : write d (row :: rows') = rowText d row ++ write d rows' := List.flatMap_cons
      rw [hwrite, List.foldl_append, foldl_rowText, ih, List.append_assoc, List.singleton_append]

/-- What is written is read back. -/
theorem read_write (d : Dialect) (rows : List Row) : read d (write d rows) = rows := by
  rw [read, foldl_write [] rows]
  simp [Reader.finish]

example : write .excel [["a,b".toList, [], "\"".toList], [[]]] =
    "\"a,b\",,\"\"\"\"\r\n\"\"\r\n".toList := by
  decide

end RoundTrip

/-! ### Dictionaries -/

section Dictionaries

variable (d : Dialect) (names : List String)

/-- The fields of a dictionary in some columns: a key that is absent is empty. -/
def columns (row : Dict String String) : List String :=
  names.map fun name => (Dict.get? row name).getD ""

/-- `DictWriter`: the names of the columns, then the rows.  The other keys of a row are
ignored. -/
def writeDicts (rows : List (Dict String String)) : String :=
  String.ofList (write d ((names :: rows.map (columns names)).map (·.map String.toList)))

/-- `DictReader`: the first line has the names of the columns, and blank lines are passed
over. -/
def readDicts (text : String) : List (Dict String String) :=
  match (read d text.toList).map (·.map String.ofList) with
  | [] => []
  | names :: rows => (rows.filter (· ≠ [])).map names.zip

variable {names}

lemma map_ofList_toList (row : List String) : (row.map String.toList).map String.ofList = row := by
  rw [List.map_map]
  exact List.map_id'' (fun _ => String.ofList_toList) row

/-- The rows are read back, as far as the columns show them. -/
theorem readDicts_writeDicts (hne : names ≠ []) (rows : List (Dict String String)) :
    readDicts d (writeDicts d names rows) =
      rows.map fun row => names.map fun name => (name, (Dict.get? row name).getD "") := by
  have hrows : ((names :: rows.map (columns names)).map (·.map String.toList)).map
      (·.map String.ofList) = names :: rows.map (columns names) := by
    rw [List.map_map]
    exact List.map_id'' map_ofList_toList _
  have hcolumns : ∀ row ∈ rows.map (columns names), decide (row ≠ []) = true := by
    intro row hrow
    obtain ⟨cells, -, rfl⟩ := List.mem_map.1 hrow
    exact decide_eq_true fun hnil => hne (List.map_eq_nil_iff.1 hnil)
  rw [readDicts, writeDicts, String.toList_ofList, read_write, hrows]
  dsimp only
  rw [List.filter_eq_self.2 hcolumns, List.map_map]
  refine List.map_congr_left fun row _ => ?_
  exact List.map_prod_left_eq_zip.symm

end Dictionaries

end Csv
